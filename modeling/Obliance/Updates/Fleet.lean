import Mathlib.Data.List.Sort
import Obliance.Js.Json
import Obliance.Updates.Service

/-!
# The updates of all devices

* `FleetRow` : a row of `device_updates` with its device;
* `rowToUpdate` : the object that a listing returns for a row;
* `getTenantUpdates` : the listing of a tenant, newest scan first, 500 at most.
-/

namespace Obliance.Updates
open Js (Json)

structure FleetRow extends UpdateRow where
  deviceId : ℕ
  createdAt : ℤ
  deriving DecidableEq, Repr

/-- The columns of `devices` that the listings join. -/
structure DeviceColumns where
  tenantId : ℕ
  displayName : Option String
  hostname : String
  deriving DecidableEq, Repr

/-- `COALESCE(NULLIF(d.display_name, ''), d.hostname)` -/
def DeviceColumns.deviceName (d : DeviceColumns) : String := orText d.displayName d.hostname

def UpdateStatus.text : UpdateStatus → String
  | .available => "available"
  | .approved => "approved"
  | .pendingInstall => "pending_install"
  | .installing => "installing"
  | .installed => "installed"
  | .failed => "failed"
  | .excluded => "excluded"
  | .superseded => "superseded"
  | .pendingReboot => "pending_reboot"

def updateStatuses : List UpdateStatus :=
  [.available, .approved, .pendingInstall, .installing, .installed, .failed, .excluded, .superseded, .pendingReboot]

/-! ## The object of a row -/

def jsonText (s : String) : Json := .str s.toList

def jsonNat (n : ℕ) : Json := .num n

/-- An instant stands for its date. -/
def jsonTime (t : ℤ) : Json := .num t

def orNull {α : Type} (f : α → Json) (v : Option α) : Json := (v.map f).getD .null

/-- The field of an object literal. -/
def field (name : String) (v : Json) : List Char × Json := (name.toList, v)

def rowToUpdate (r : FleetRow) (d : DeviceColumns) : Json :=
  .obj [field "id" (jsonNat r.id), field "deviceId" (jsonNat r.deviceId), field "tenantId" (jsonNat r.tenantId),
    field "updateUid" (jsonText r.updateUid), field "title" (orNull jsonText r.title),
    field "description" (orNull jsonText r.description), field "severity" (jsonText r.severity),
    field "category" (orNull jsonText r.category), field "source" (jsonText r.source),
    field "sizeBytes" (orNull jsonNat r.sizeBytes), field "requiresReboot" (.bool r.requiresReboot),
    field "status" (jsonText r.status.text), field "approvedBy" (orNull jsonNat r.approvedBy),
    field "approvedAt" (orNull jsonTime r.approvedAt), field "installedAt" (orNull jsonTime r.installedAt),
    field "installError" (orNull jsonText r.installError), field "scannedAt" (jsonTime r.scannedAt),
    field "createdAt" (jsonTime r.createdAt), field "updatedAt" (jsonTime r.updatedAt),
    field "deviceName" (jsonText d.deviceName), field "deviceTenantId" (jsonNat d.tenantId)]

/-! ## The listing of a tenant -/

def MASTER_TENANT_ID : ℕ := 1

/-- What the listing is filtered by; an empty text and the device 0 count as absent. -/
structure UpdateFilters where
  status : Option String
  severity : Option String
  deviceId : Option ℤ
  deriving DecidableEq, Repr

/-- A value of an `integer` column. -/
def isInt4 (v : ℤ) : Bool := decide (-2147483648 ≤ v ∧ v ≤ 2147483647)

/-- A status or severity that is no value of its enumeration makes the query throw, and so does a device id
out of range. -/
def UpdateFilters.valid (f : UpdateFilters) : Bool :=
  f.deviceId.all isInt4 &&
  (f.status.filter (· ≠ "")).all (fun s => updateStatuses.any fun status => status.text = s) &&
    (f.severity.filter (· ≠ "")).all (fun s => updateSeverities.contains s)

def UpdateFilters.selects (f : UpdateFilters) (r : FleetRow) : Bool :=
  (f.status.filter (· ≠ "")).all (fun s => r.status.text = s) &&
    (f.severity.filter (· ≠ "")).all (fun s => r.severity = s) &&
    (f.deviceId.filter (· ≠ 0)).all (fun id => (r.deviceId : ℤ) = id)

/-- The joined rows of a listing; `devices` gives the row of a device. -/
def tenantUpdateRows (updates : List FleetRow) (devices : ℕ → Option DeviceColumns) (tenantId : ℕ)
    (filters : UpdateFilters) : List (FleetRow × DeviceColumns) :=
  let joined := updates.filterMap fun r => (devices r.deviceId).map fun d => (r, d)
  let selected := joined.filter fun (r, _) =>
    (decide (tenantId = MASTER_TENANT_ID) || decide (r.tenantId = tenantId)) && filters.selects r
  (selected.mergeSort fun a b => decide (b.1.scannedAt ≤ a.1.scannedAt)).take 500

/-- `none` where the query throws. -/
def getTenantUpdates (updates : List FleetRow) (devices : ℕ → Option DeviceColumns) (tenantId : ℕ)
    (filters : UpdateFilters) : Option (List Json) :=
  if filters.valid then
    some ((tenantUpdateRows updates devices tenantId filters).map fun (r, d) => rowToUpdate r d)
  else none

section
variable {r : FleetRow} {d : DeviceColumns}

/-- The columns of a row are no fields of its object. -/
theorem rowToUpdate_device_id : (rowToUpdate r d).get "device_id" = none := rfl

theorem selects_of_mem {updates : List FleetRow} {devices : ℕ → Option DeviceColumns} {tenantId : ℕ}
    {filters : UpdateFilters} (h : (r, d) ∈ tenantUpdateRows updates devices tenantId filters) :
    filters.selects r = true := by
  have hmem := (List.mem_filter.1 (List.mem_mergeSort.1 (List.mem_of_mem_take h))).2
  exact (Bool.and_eq_true _ _ ▸ hmem).2

end

end Obliance.Updates

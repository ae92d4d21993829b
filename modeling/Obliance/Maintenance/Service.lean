import Obliance.Devices.Tables
import Obliance.Lib.JsSet
import Obliance.Maintenance.Windows

/-!
# The three maintenance queries (`services/maintenance.service.ts`)

* `getEffectiveWindows` : every window over an entity, with where it comes from;
* `isInMaintenance` : one device, behind a cache of a minute;
* `getInMaintenanceDeviceIds` : a list of devices at once;
* `Applies` : a window is over a device and not disabled there. `lookup_eq_any` and
  `mem_getInMaintenanceDeviceIds` say both checks ask for an active window that applies.
-/

namespace Obliance.Maintenance
open Obliance.Groups Obliance.Devices

/-- A row of `maintenance_window_disables`. -/
structure DisableRow where
  windowId : ℕ
  scopeType : MaintenanceScope
  scopeId : ℕ
  deriving DecidableEq, Repr

structure MaintenanceTables (ρ : Type) where
  windows : List (Window ρ)
  disables : List DisableRow
  closure : List ClosureRow
  /-- `device_groups (id, name)` -/
  groupNames : List (ℕ × String)

/-- Tables in which every rule is what its interface says. -/
abbrev MaintenanceDb := MaintenanceTables MaintenanceRecurrenceRule

section Rows
variable {ρ : Type}

def getAncestorGroupIds (db : MaintenanceTables ρ) (groupId : ℕ) : List ℕ :=
  (db.closure.filter fun r => r.descendantId = groupId).map ClosureRow.ancestorId

/-- Disables of the entity itself and of the groups above it. -/
def getDisabledWindowIds (db : MaintenanceTables ρ) (scopeType : MaintenanceScope) (scopeId : ℕ)
    (ancestorGroupIds : List ℕ) : List ℕ :=
  (db.disables.filter fun r =>
    (decide (r.scopeType = scopeType) && decide (r.scopeId = scopeId)) ||
      (decide (r.scopeType = .group) && decide (r.scopeId ∈ ancestorGroupIds))).map DisableRow.windowId

def getDirectlyDisabledWindowIds (db : MaintenanceTables ρ) (scopeType : MaintenanceScope) (scopeId : ℕ) :
    List ℕ :=
  (db.disables.filter fun r =>
    decide (r.scopeType = scopeType) && decide (r.scopeId = scopeId)).map DisableRow.windowId

/-- `groupId ? await getAncestorGroupIds(groupId) : []` -/
def ancestorsOf (db : MaintenanceTables ρ) (groupId : Option ℕ) : List ℕ :=
  match groupId.filter (· ≠ 0) with
  | some g => getAncestorGroupIds db g
  | none => []

end Rows

/-! ## Effective windows -/

inductive WindowSource where
  | local
  | group
  | global
  deriving DecidableEq, Repr

structure EffectiveWindow (ρ : Type) where
  window : Window ρ
  isActiveNow : Bool
  source : WindowSource
  sourceId : Option ℕ
  sourceName : Option String
  isDisabledHere : Bool
  canEdit : Bool
  canDelete : Bool
  canDisable : Bool
  canEnable : Bool
  deriving DecidableEq, Repr

section Effective
variable {ρ : Type}

def localEntry (scopeId : ℕ) (w : Window ρ) (isActiveNow : Bool) : EffectiveWindow ρ where
  window := w
  isActiveNow := isActiveNow
  source := .local
  sourceId := some scopeId
  sourceName := none
  isDisabledHere := false
  canEdit := true
  canDelete := true
  canDisable := false
  canEnable := false

def inheritedEntry (disabledIds directlyDisabledIds : List ℕ) (source : WindowSource)
    (sourceId : Option ℕ) (sourceName : String) (w : Window ρ) (isActiveNow : Bool) : EffectiveWindow ρ where
  window := w
  isActiveNow := isActiveNow
  source := source
  sourceId := sourceId
  sourceName := some sourceName
  isDisabledHere := decide (w.id ∈ disabledIds)
  canEdit := false
  canDelete := false
  canDisable := !decide (w.id ∈ disabledIds)
  canEnable := decide (w.id ∈ directlyDisabledIds)

/-- The name of the group, or `Group #id`. -/
def sourceGroupName (db : MaintenanceTables ρ) (scopeId : Option ℕ) : String :=
  let text := match scopeId with
    | some g => toString g
    | none => "null"
  (scopeId.bind fun g => (db.groupNames.find? fun e => e.1 = g).map Prod.snd).getD ("Group #" ++ text)

variable (host : Host) (now : ℤ)

def getEffectiveWindows (db : MaintenanceDb) (scopeType : MaintenanceScope) (scopeId : ℕ)
    (groupId : Option ℕ) : List (EffectiveWindow MaintenanceRecurrenceRule) :=
  let ancestorGroupIds := match groupId.filter (· ≠ 0) with
    | some g => getAncestorGroupIds db g
    | none => if scopeType = .group then getAncestorGroupIds db scopeId else []
  let disabledIds := getDisabledWindowIds db scopeType scopeId ancestorGroupIds
  let directlyDisabledIds := getDirectlyDisabledWindowIds db scopeType scopeId
  let localRows := db.windows.filter fun w =>
    decide (w.scopeType = scopeType) && decide (w.scopeId = some scopeId)
  let groupAncestorIds := if scopeType = .group then ancestorGroupIds.filter (· ≠ scopeId)
    else ancestorGroupIds
  let groupRows := db.windows.filter fun w =>
    decide (w.scopeType = .group) && groupAncestorIds.any fun g => w.scopeId = some g
  let globalRows := db.windows.filter fun w => w.scopeType = .global
  (localRows.map fun w => localEntry scopeId w (isWindowActive host w now)) ++
    (groupRows.map fun w => inheritedEntry disabledIds directlyDisabledIds .group w.scopeId
      (sourceGroupName db w.scopeId) w (isWindowActive host w now)) ++
    globalRows.map fun w => inheritedEntry disabledIds directlyDisabledIds .global none "Global" w
      (isWindowActive host w now)

end Effective

/-! ## One device -/

def cacheTtlMs : ℤ := 60000

/-- The entries of `maintenanceCache` by device and group: the answer and when it was cached. -/
abbrev MaintenanceCache := ℕ × Option ℕ → Option (Bool × ℤ)

def getCached (cache : MaintenanceCache) (key : ℕ × Option ℕ) (now : ℤ) : Option Bool :=
  match cache key with
  | none => none
  | some (value, cachedAt) => if cacheTtlMs < now - cachedAt then none else some value

section Check
variable (host : Host) (now : ℤ)

/-- What `isInMaintenance` reads when nothing is cached. -/
def lookupMaintenance (db : MaintenanceDb) (scopeId : ℕ) (groupId : Option ℕ) : Bool :=
  let ancestorGroupIds := ancestorsOf db groupId
  let disabledIds := getDisabledWindowIds db .device scopeId ancestorGroupIds
  let ownWindows := db.windows.filter fun w =>
    decide (w.scopeType = .device) && decide (w.scopeId = some scopeId)
  let groupWindows := db.windows.filter fun w =>
    decide (w.scopeType = .group) && (ancestorGroupIds.any fun g => w.scopeId = some g) &&
      !decide (w.id ∈ disabledIds)
  let globalWindows := db.windows.filter fun w =>
    decide (w.scopeType = .global) && !decide (w.id ∈ disabledIds)
  if ownWindows.any fun w => isWindowActive host w now then true
  else if !ancestorGroupIds.isEmpty && groupWindows.any fun w => isWindowActive host w now then true
  else globalWindows.any fun w => isWindowActive host w now

def isInMaintenance (db : MaintenanceDb) (cache : MaintenanceCache) (scopeId : ℕ)
    (groupId : Option ℕ) : Bool × MaintenanceCache :=
  match getCached cache (scopeId, groupId) now with
  | some value => (value, cache)
  | none =>
      let value := lookupMaintenance host now db scopeId groupId
      (value, Function.update cache (scopeId, groupId) (some (value, now)))

/-! ## A list of devices -/

structure DeviceScope where
  id : ℕ
  groupId : Option ℕ
  deriving DecidableEq, Repr

/-- The rows of the closure table for the groups of the devices. -/
def fetchClosure {ρ : Type} (db : MaintenanceTables ρ) (devices : List DeviceScope) : List ClosureRow :=
  db.closure.filter fun r => devices.any fun d => d.groupId = some r.descendantId

/-- The disables of the devices and of the groups above them. -/
def fetchDisables {ρ : Type} (db : MaintenanceTables ρ) (devices : List DeviceScope) : List DisableRow :=
  db.disables.filter fun r =>
    (decide (r.scopeType = .device) && devices.any fun d => d.id = r.scopeId) ||
      (decide (r.scopeType = .group) &&
        (fetchClosure db devices).any fun c => c.ancestorId = r.scopeId)

/-- The body of the loop over the devices, on what was fetched for all of them. -/
def batchCheck (windows : List MaintenanceWindow) (closureRows : List ClosureRow)
    (disableRows : List DisableRow) (device : DeviceScope) : Bool :=
  let ancestorIds := match device.groupId.filter (· ≠ 0) with
    | some g => (closureRows.filter fun r : ClosureRow => r.descendantId = g).map ClosureRow.ancestorId
    | none => []
  let deviceDisables := (disableRows.filter fun r =>
    decide (r.scopeType = .device) && decide (r.scopeId = device.id)).map DisableRow.windowId
  let groupDisables := ancestorIds.flatMap fun g => (disableRows.filter fun r : DisableRow =>
    decide (r.scopeType = .group) && decide (r.scopeId = g)).map DisableRow.windowId
  let disabledIds := deviceDisables ++ groupDisables
  let ownWindows := windows.filter fun w =>
    decide (w.scopeType = .device) && decide (w.scopeId = some device.id)
  let groupWindows := if (device.groupId.filter (· ≠ 0)).isSome then windows.filter fun w =>
      decide (w.scopeType = .group) && (ancestorIds.any fun g => w.scopeId = some g) &&
        !decide (w.id ∈ disabledIds)
    else []
  let applicableGlobals := windows.filter fun w =>
    decide (w.scopeType = .global) && !decide (w.id ∈ disabledIds)
  (ownWindows.any fun w => isWindowActive host w now) ||
    (groupWindows.any fun w => isWindowActive host w now) ||
    applicableGlobals.any fun w => isWindowActive host w now

def getInMaintenanceDeviceIds (db : MaintenanceDb) (devices : List DeviceScope) : List ℕ :=
  JsSet.addAll [] devices
    (batchCheck host now db.windows (fetchClosure db devices) (fetchDisables db devices)) DeviceScope.id

end Check

/-! ## Both checks ask for an active window that applies -/

/-- The window is over the device: its own one, or one of a group above it or a global one that is
not disabled there. -/
def Applies (db : MaintenanceDb) (scopeId : ℕ) (groupId : Option ℕ) (w : MaintenanceWindow) : Bool :=
  let ancestorGroupIds := ancestorsOf db groupId
  let disabledIds := getDisabledWindowIds db .device scopeId ancestorGroupIds
  (decide (w.scopeType = .device) && decide (w.scopeId = some scopeId)) ||
    (decide (w.scopeType = .group) && (ancestorGroupIds.any fun g => w.scopeId = some g) &&
      !decide (w.id ∈ disabledIds)) ||
    (decide (w.scopeType = .global) && !decide (w.id ∈ disabledIds))

section Fetched
variable {ρ : Type} (db : MaintenanceTables ρ)

/-- The maps built for all devices give each device its own disables. -/
theorem mem_batch_disabled {devices : List DeviceScope} {device : DeviceScope}
    (hd : device ∈ devices) (wid : ℕ) :
    (wid ∈ ((fetchDisables db devices).filter fun r =>
        decide (r.scopeType = .device) && decide (r.scopeId = device.id)).map DisableRow.windowId ++
      (ancestorsOf db device.groupId).flatMap fun g => ((fetchDisables db devices).filter fun r =>
        decide (r.scopeType = .group) && decide (r.scopeId = g)).map DisableRow.windowId) ↔
      wid ∈ getDisabledWindowIds db .device device.id (ancestorsOf db device.groupId) := by
  have hclosure : ∀ g ∈ ancestorsOf db device.groupId, ∃ c ∈ fetchClosure db devices, c.ancestorId = g := by
    intro g hg
    unfold ancestorsOf at hg
    split at hg
    · rename_i g' hg'
      obtain ⟨c, hc, rfl⟩ := List.mem_map.1 hg
      obtain ⟨hc, hdesc⟩ := List.mem_filter.1 hc
      rw [decide_eq_true_eq] at hdesc
      refine ⟨c, List.mem_filter.2 ⟨hc, List.any_eq_true.2 ⟨device, hd, ?_⟩⟩, rfl⟩
      rw [hdesc, decide_eq_true_eq]
      exact (Option.filter_eq_some_iff.1 hg').1
    · cases hg
  simp only [getDisabledWindowIds, fetchDisables, List.mem_append, List.mem_map, List.mem_flatMap,
    List.mem_filter, Bool.and_eq_true, Bool.or_eq_true, decide_eq_true_eq, List.any_eq_true]
  constructor
  · rintro (⟨r, ⟨⟨hr, -⟩, hs⟩, rfl⟩ | ⟨g, hg, r, ⟨⟨hr, -⟩, hs, rfl⟩, rfl⟩)
    · exact ⟨r, ⟨hr, .inl hs⟩, rfl⟩
    · exact ⟨r, ⟨hr, .inr ⟨hs, hg⟩⟩, rfl⟩
  · rintro ⟨r, ⟨hr, hs | ⟨hs, hg⟩⟩, rfl⟩
    · exact .inl ⟨r, ⟨⟨hr, .inl ⟨hs.1, device, hd, hs.2.symm⟩⟩, hs⟩, rfl⟩
    · exact .inr ⟨_, hg, r, ⟨⟨hr, .inr ⟨hs, hclosure _ hg⟩⟩, hs, rfl⟩, rfl⟩

/-- The ancestors a device gets from the rows fetched for all devices. -/
theorem batch_ancestors {devices : List DeviceScope} {device : DeviceScope} (hd : device ∈ devices) :
    (match device.groupId.filter (· ≠ 0) with
      | some g => ((fetchClosure db devices).filter fun r => r.descendantId = g).map ClosureRow.ancestorId
      | none => []) = ancestorsOf db device.groupId := by
  unfold ancestorsOf
  cases hg : device.groupId.filter (· ≠ 0) with
  | none => rfl
  | some g =>
      dsimp only
      rw [getAncestorGroupIds, fetchClosure, List.filter_filter]
      congr 1
      refine List.filter_congr fun r _ => ?_
      by_cases hr : r.descendantId = g
      · have : (devices.any fun d => decide (d.groupId = some r.descendantId)) = true :=
          List.any_eq_true.2 ⟨device, hd, decide_eq_true (hr ▸ (Option.filter_eq_some_iff.1 hg).1)⟩
        rw [this, Bool.and_true]
      · simp [hr]

end Fetched

section Checks
variable (host : Host) (now : ℤ) (db : MaintenanceDb)

/-- Three selections, one after the other, ask for one row of their union. -/
theorem any_filter_or {α : Type} (l : List α) (p q r act : α → Bool) :
    ((l.filter p).any act || (l.filter q).any act || (l.filter r).any act) =
      l.any fun x => (p x || q x || r x) && act x := by
  rw [List.any_filter, List.any_filter, List.any_filter]
  induction l with
  | nil => rfl
  | cons x l ih =>
      rw [List.any_cons, List.any_cons, List.any_cons, List.any_cons, ← ih]
      cases p x <;> cases q x <;> cases r x <;> cases act x <;> simp

theorem lookup_eq_any (scopeId : ℕ) (groupId : Option ℕ) :
    lookupMaintenance host now db scopeId groupId =
      db.windows.any fun w => Applies db scopeId groupId w && isWindowActive host w now := by
  unfold Applies
  rw [← any_filter_or]
  unfold lookupMaintenance
  cases hanc : ancestorsOf db groupId with
  | nil =>
      simp only [List.isEmpty_nil, Bool.not_true, Bool.false_and, List.any_nil, Bool.and_false,
        List.filter_false, Bool.or_false, Bool.false_eq_true, if_false]
      split_ifs with hown <;> simp [hown]
  | cons a as =>
      simp only [List.isEmpty_cons, Bool.not_false, Bool.true_and]
      split_ifs with hown hgroup
      · rw [hown]
        rfl
      · rw [hgroup]
        simp
      · rw [Bool.not_eq_true] at hown hgroup
        rw [hown, hgroup]
        rfl

theorem batchCheck_eq_any {devices : List DeviceScope} {device : DeviceScope} (hd : device ∈ devices) :
    batchCheck host now db.windows (fetchClosure db devices) (fetchDisables db devices) device =
      db.windows.any fun w => Applies db device.id device.groupId w && isWindowActive host w now := by
  unfold Applies
  rw [← any_filter_or]
  unfold batchCheck
  simp only [batch_ancestors db hd, mem_batch_disabled db hd]
  cases hg : device.groupId.filter (· ≠ 0) with
  | none =>
      have hanc : ancestorsOf db device.groupId = [] := by rw [ancestorsOf, hg]
      simp [hanc]
  | some g => rfl

theorem mem_getInMaintenanceDeviceIds (devices : List DeviceScope) (id : ℕ) :
    id ∈ getInMaintenanceDeviceIds host now db devices ↔ ∃ device ∈ devices, device.id = id ∧
      (db.windows.any fun w => Applies db device.id device.groupId w && isWindowActive host w now) = true := by
  rw [getInMaintenanceDeviceIds, JsSet.mem_addAll]
  constructor
  · rintro (h | ⟨device, hd, hb, rfl⟩)
    · cases h
    · exact ⟨device, hd, rfl, by rw [← batchCheck_eq_any host now db hd, hb]⟩
  · rintro ⟨device, hd, rfl, hb⟩
    exact .inr ⟨device, hd, by rw [batchCheck_eq_any host now db hd, hb], rfl⟩

end Checks

end Obliance.Maintenance

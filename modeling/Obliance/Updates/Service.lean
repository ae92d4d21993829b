import Obliance.Commands.Acks
import Obliance.Js.Value

/-!
# The updates of a device (`services/update.service.ts`, `services/command.service.ts`)

The rows of `device_updates` of one device, and what writes them.

* `upsertUpdates`, `applyAutoApprove` : a scan of the agent;
* `approveUpdate`, `approveByDeviceAndSeverity`, `bulkApproveByTitle` : approvals;
* `deployApprovedUpdates`, `retryUpdate` : the install commands, enqueued with what they are to install;
* `ackInstall` : an ack, on the updates its command is to install.
-/

namespace Obliance.Updates
open KeyedTable
open Obliance.Commands (Ack AckStatus AckDb CommandResult CommandRow CommandType)

inductive UpdateStatus where
  | available
  | approved
  | pendingInstall
  | installing
  | installed
  | failed
  | excluded
  | superseded
  | pendingReboot
  deriving DecidableEq, Repr

/-- A row of `device_updates`, instants in milliseconds. -/
structure UpdateRow where
  id : ℕ
  tenantId : ℕ
  updateUid : String
  title : Option String
  description : Option String
  severity : String
  category : Option String
  source : String
  sizeBytes : Option ℕ
  requiresReboot : Bool
  status : UpdateStatus
  approvedBy : Option ℕ
  approvedAt : Option ℤ
  installedAt : Option ℤ
  installError : Option String
  scannedAt : ℤ
  updatedAt : ℤ
  deriving DecidableEq, Repr

structure UpdateTable where
  rows : List UpdateRow
  /-- The next value of the `id` sequence. -/
  nextId : ℕ
  deriving DecidableEq, Repr

/-- What the agent reports; `none` is undefined. -/
structure ReportedUpdate where
  updateUid : String
  title : Option String
  description : Option String
  severity : Option String
  category : Option String
  source : Option String
  sizeBytes : Option ℕ
  requiresReboot : Option Bool
  deriving DecidableEq, Repr

/-- The columns of an enabled policy that applies to the device. -/
structure UpdatePolicy where
  autoApproveCritical : Bool
  autoApproveSecurity : Bool
  autoApproveOptional : Bool
  excludedUpdateIds : Option (List String)
  excludedCategories : Option (List String)
  createdBy : Option ℕ
  deriving DecidableEq, Repr

structure Host where
  /-- The values of a reported update fit the lengths of their columns. -/
  fits : ReportedUpdate → Bool
  /-- `JSON.parse` of an array, which the driver has parsed already: the exclusions it gives, `none` when
  it throws. -/
  parse : List String → Option (List String)

variable (host : Host)

/-! ## A scan -/

/-- `v || d` -/
def orText (v : Option String) (d : String) : String := (v.filter (· ≠ "")).getD d

def updateSeverities : List String := ["critical", "important", "moderate", "optional", "unknown"]

def updateSources : List String :=
  ["windows_update", "apt", "yum", "dnf", "pacman", "brew", "chocolatey", "winget", "other"]

/-- PostgreSQL takes the row. -/
def accepts (u : ReportedUpdate) : Bool :=
  orText u.severity "unknown" ∈ updateSeverities && orText u.source "other" ∈ updateSources && host.fits u

def sixHours : ℤ := 6 * 60 * 60 * 1000

def staleStatuses : List UpdateStatus := [.available, .approved, .pendingInstall, .failed, .pendingReboot]

/-- Stale updates no longer reported are removed. -/
def deleteStale (rows : List UpdateRow) (tenantId : ℕ) (freshUids : List String) : List UpdateRow :=
  rows.filter fun r => ¬ (r.tenantId = tenantId ∧ r.status ∈ staleStatuses ∧ r.updateUid ∉ freshUids)

def newRow (id tenantId : ℕ) (now : ℤ) (u : ReportedUpdate) : UpdateRow :=
  { id := id
    tenantId := tenantId
    updateUid := u.updateUid
    title := u.title
    description := u.description
    severity := orText u.severity "unknown"
    category := u.category
    source := orText u.source "other"
    sizeBytes := u.sizeBytes
    requiresReboot := u.requiresReboot.getD false
    status := .available
    approvedBy := none
    approvedAt := none
    installedAt := none
    installError := none
    scannedAt := now
    updatedAt := now }

/-- `onConflict(..).merge(..)` -/
def UpdateRow.merge (now : ℤ) (u : ReportedUpdate) (r : UpdateRow) : UpdateRow :=
  { r with
    title := u.title.or r.title
    description := u.description.or r.description
    severity := if orText u.severity "unknown" = "unknown" then r.severity else orText u.severity "unknown"
    scannedAt := now
    updatedAt := now
    status := if r.status = .pendingInstall ∧ r.updatedAt < now - sixHours then .available else r.status }

def upsertUpdate (t : UpdateTable) (tenantId : ℕ) (now : ℤ) (u : ReportedUpdate) : UpdateTable :=
  { rows :=
      if (get UpdateRow.updateUid t.rows u.updateUid).isSome
      then modify UpdateRow.updateUid t.rows u.updateUid (UpdateRow.merge now u)
      else t.rows ++ [newRow t.nextId tenantId now u]
    nextId := t.nextId + 1 }

/-- The loop over the reported updates; `false` when a statement throws. -/
def upsertAll (tenantId : ℕ) (now : ℤ) : UpdateTable → List ReportedUpdate → UpdateTable × Bool
  | t, [] => (t, true)
  | t, u :: us => if accepts host u then upsertAll tenantId now (upsertUpdate t tenantId now u) us else (t, false)

def reportedUids (updates : List ReportedUpdate) : List String := updates.map ReportedUpdate.updateUid

def upsertUpdates (t : UpdateTable) (tenantId : ℕ) (now : ℤ) (updates : List ReportedUpdate) : UpdateTable × Bool :=
  upsertAll host tenantId now { t with rows := deleteStale t.rows tenantId (reportedUids updates) } updates

/-! ## Approvals -/

def UpdateRow.approve (approvedBy : Option ℕ) (now : ℤ) (r : UpdateRow) : UpdateRow :=
  { r with status := .approved, approvedBy := approvedBy, approvedAt := some now, updatedAt := now }

def approveWhere (rows : List UpdateRow) (p : UpdateRow → Bool) (approvedBy : Option ℕ) (now : ℤ) : List UpdateRow :=
  rows.map fun r => if p r then r.approve approvedBy now else r

def approveUpdate (rows : List UpdateRow) (updateId tenantId approvedBy : ℕ) (now : ℤ) : List UpdateRow :=
  approveWhere rows (fun r => r.id = updateId ∧ r.tenantId = tenantId) approvedBy now

/-- Also `bulkApproveBySeverity`, on a device of its group. -/
def approveByDeviceAndSeverity (rows : List UpdateRow) (tenantId : ℕ) (severities : List String) (approvedBy : ℕ)
    (now : ℤ) : List UpdateRow :=
  approveWhere rows (fun r => r.tenantId = tenantId ∧ r.status = .available ∧ r.severity ∈ severities) approvedBy now

def bulkApproveByTitle (rows : List UpdateRow) (tenantId : ℕ) (updateUid : String) (approvedBy : ℕ) (now : ℤ) :
    List UpdateRow :=
  approveWhere rows (fun r => r.tenantId = tenantId ∧ r.updateUid = updateUid ∧ r.status = .available) approvedBy now

def UpdatePolicy.severities (p : UpdatePolicy) : List String :=
  (if p.autoApproveCritical then ["critical"] else []) ++ (if p.autoApproveSecurity then ["important"] else []) ++
    if p.autoApproveOptional then ["moderate", "optional"] else []

/-- A policy with its exclusions parsed. -/
structure ReadPolicy where
  severities : List String
  excludedUids : List String
  excludedCats : List String
  createdBy : Option ℕ
  deriving DecidableEq, Repr

def readExclusions : Option (List String) → Option (List String)
  | none => some []
  | some xs => host.parse xs

/-- The policies the loop gets to: one without severities is skipped, one that throws ends it. -/
def readPolicies : List UpdatePolicy → List ReadPolicy
  | [] => []
  | p :: ps =>
      if p.severities = [] then readPolicies ps
      else
        match readExclusions host p.excludedUpdateIds, readExclusions host p.excludedCategories with
        | some uids, some cats => ⟨p.severities, uids, cats, p.createdBy⟩ :: readPolicies ps
        | _, _ => []

/-- `whereNotIn('category', ..)` leaves out the rows without a category. -/
def ReadPolicy.selects (p : ReadPolicy) (tenantId : ℕ) (r : UpdateRow) : Bool :=
  r.tenantId = tenantId && r.status = .available && r.severity ∈ p.severities &&
    (p.excludedUids = [] || r.updateUid ∉ p.excludedUids) &&
    (p.excludedCats = [] || r.category.any fun c => c ∉ p.excludedCats)

def applyAutoApprove (rows : List UpdateRow) (tenantId : ℕ) (policies : List UpdatePolicy) (now : ℤ) : List UpdateRow :=
  (readPolicies host policies).foldl (fun rows p => approveWhere rows (p.selects tenantId) p.createdBy now) rows

/-! ## Install commands -/

def UpdateRow.setStatus (status : UpdateStatus) (now : ℤ) (r : UpdateRow) : UpdateRow :=
  { r with status := status, updatedAt := now }

/-- An install command: its id, the source and the updates to install. -/
structure InstallCommand where
  id : ℕ
  type : CommandType
  uids : List String
  deriving DecidableEq, Repr

/-- The row of `command_queue`, as far as an ack reads it. -/
def InstallCommand.row (c : InstallCommand) (deviceId tenantId : ℕ) : CommandRow :=
  { id := c.id
    deviceId := deviceId
    tenantId := tenantId
    type := c.type
    payload :=
      { scriptId := none
        sessionToken := none
        updateUid := if c.type = .installUpdate then c.uids.head? else none
        updateUids := if c.type = .installUpdates then c.uids else [] }
    status := .pending
    ackedAt := none
    finishedAt := none
    expiresAt := none
    result := none
    sourceType := none
    sourceId := none }

def approvedRows (rows : List UpdateRow) (tenantId : ℕ) : List UpdateRow :=
  rows.filter fun r => r.tenantId = tenantId ∧ r.status = .approved

/-- The keys of `bySource`, in the order of their insertion. -/
def sourcesOf (approved : List UpdateRow) : List String := (approved.map UpdateRow.source).eraseDups

def uidsOfSource (approved : List UpdateRow) (source : String) : List String :=
  (approved.filter fun r => r.source = source).map UpdateRow.updateUid

/-- The rows after the statement, and one command a source, with the ids the database gives them. -/
def deployApprovedUpdates (rows : List UpdateRow) (tenantId : ℕ) (now : ℤ) (ids : List ℕ) :
    List UpdateRow × List InstallCommand :=
  let approved := approvedRows rows tenantId
  (rows.map fun r => if r.id ∈ approved.map UpdateRow.id then r.setStatus .pendingInstall now else r,
    (ids.zip (sourcesOf approved)).map fun (id, source) => ⟨id, .installUpdates, uidsOfSource approved source⟩)

/-- `none` is `Update not found`. -/
def retryUpdate (rows : List UpdateRow) (updateId tenantId : ℕ) (now : ℤ) (id : ℕ) :
    Option (List UpdateRow × InstallCommand) :=
  (rows.find? fun r => r.id = updateId ∧ r.tenantId = tenantId).map fun update =>
    (rows.map fun r => if r.id = updateId then r.setStatus .pendingInstall now else r,
      ⟨id, .installUpdate, [update.updateUid]⟩)

/-! ## Acks -/

/-- The database of `processAck`, of which the queue is followed here. -/
def ackDb (queue : List CommandRow) : AckDb := ⟨queue, [], [], [], [], []⟩

/-- The row an ack works on. -/
def ackedRow (queue : List CommandRow) (deviceId tenantId : ℕ) (now : ℤ) (a : Ack) : Option CommandRow :=
  match a.commandId with
  | .other _ => none
  | .uuid id canonical => Commands.readRow (Commands.ackStart (ackDb queue) deviceId tenantId now id canonical a) id

def ackQueue (queue : List CommandRow) (deviceId tenantId : ℕ) (now : ℤ) (a : Ack) : List CommandRow :=
  (Commands.processAck (ackDb queue) deviceId tenantId now a).commands

/-- `device_updates` once the command is running, or has finished. -/
def UpdateRow.acked (a : Ack) (now : ℤ) (r : UpdateRow) : UpdateRow :=
  match a.status with
  | .ackRunning => r.setStatus .installing now
  | .success => { r.setStatus .installed now with installedAt := some now, installError := none }
  | _ =>
      { r.setStatus .failed now with
        installedAt := none
        installError := some ((a.result.bind CommandResult.error).getD "Installation failed") }

/-- The updates that an ack writes. -/
def ackedUids (queue : List CommandRow) (deviceId tenantId : ℕ) (now : ℤ) (a : Ack) : List String :=
  ((ackedRow queue deviceId tenantId now a).map Commands.updateUidsOf).getD []

def ackInstall (rows : List UpdateRow) (queue : List CommandRow) (deviceId tenantId : ℕ) (now : ℤ) (a : Ack) :
    List UpdateRow :=
  rows.map fun r => if r.updateUid ∈ ackedUids queue deviceId tenantId now a then r.acked a now else r

end Obliance.Updates

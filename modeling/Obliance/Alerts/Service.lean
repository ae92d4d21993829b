import Obliance.Alerts.Rows
import Obliance.Lib.GuardedRun
import Obliance.Lib.JsSet

/-!
# `liveAlertService` as a machine (`services/liveAlert.service.ts`)

Each step is one statement, or the statements a transaction runs between two statements whose results
it uses. Several calls are in progress at once; a raise holds the advisory lock of its incident from
its first statement to its commit.

* `raiseStale`, `raiseKeep`, `commitRaise` : what a raise decides from the rows it read;
* `Call`, `runCall` : the statements of a call, in order;
* `AlertOp`, `alertStep`, `alertMachine` : the operations of the service, the statements of the calls
  in progress and the writes to `devices`, in any order.
-/

namespace Obliance.Alerts
open GuardedRun

inductive DeviceStatus where
  | pending
  | online
  | offline
  | maintenance
  | warning
  | critical
  | suspended
  | pendingUninstall
  | updating
  | updateError
  deriving DecidableEq, Repr

/-- The columns of `devices` that concern alerts. -/
structure AlertDevice where
  tenantId : ℕ
  status : DeviceStatus
  deriving DecidableEq, Repr

/-! ## Raising an incident -/

/-- `!!device && (kind !== 'offline' || device.status === 'offline')` -/
def raiseOpen (device : Option AlertDevice) (inc : IncidentRef) : Bool :=
  match device with
  | none => false
  | some d => decide (inc.kind ≠ .offline) || decide (d.status = .offline)

/-- The active rows of the incident, newest id first. -/
def readActive (alerts : List LiveAlert) (inc : IncidentRef) : List LiveAlert :=
  (alerts.filter (LiveAlert.activeOf inc)).insertionSort fun a b => b.id ≤ a.id

/-- The row that already says what the raise wants to say. -/
def raiseKeep (isOpen : Bool) (active : List LiveAlert) (tenantId : ℕ) (opts : AddOpts) :
    Option LiveAlert :=
  if isOpen then active.find? fun r =>
    decide (r.tenantId = tenantId) && decide (r.stableKey = opts.stableKey) &&
      decide (r.severity = opts.severity)
  else none

/-- Every other active row of the incident. -/
def raiseStale (keep : Option LiveAlert) (active : List LiveAlert) : List ℕ :=
  (active.filter fun r => keep.all fun k => decide (r.id ≠ k.id)).map LiveAlert.id

/-- The writes of the transaction: the table afterwards, and whether a row was inserted. -/
def commitRaise (alerts : List LiveAlert) (nextId : ℕ) (isOpen : Bool) (active : List LiveAlert)
    (tenantId : ℕ) (opts : AddOpts) (now : ℤ) : List LiveAlert × Bool :=
  let keep := raiseKeep isOpen active tenantId opts
  let stale := raiseStale keep active
  let alerts := resolveWhere alerts (fun a => decide (a.id ∈ stale)) now
  if keep.isSome || !isOpen then (alerts, false)
  else (insertAlert alerts nextId tenantId opts now, true)

/-- A raise updates the stale rows only, or resolves every row it read and inserts its own. -/
theorem commitRaise_cases (alerts : List LiveAlert) (nextId : ℕ) (isOpen : Bool)
    (active : List LiveAlert) (tenantId : ℕ) (opts : AddOpts) (now : ℤ) :
    (commitRaise alerts nextId isOpen active tenantId opts now =
        (resolveWhere alerts (fun a =>
          decide (a.id ∈ raiseStale (raiseKeep isOpen active tenantId opts) active)) now, false) ∧
      ((raiseKeep isOpen active tenantId opts).isSome = true ∨ isOpen = false)) ∨
    (commitRaise alerts nextId isOpen active tenantId opts now =
        (insertAlert (resolveWhere alerts (fun a => decide (a.id ∈ raiseStale none active)) now) nextId
          tenantId opts now, true) ∧
      raiseKeep isOpen active tenantId opts = none ∧ isOpen = true) := by
  unfold commitRaise
  cases hkeep : raiseKeep isOpen active tenantId opts with
  | some k => exact .inl ⟨rfl, .inl rfl⟩
  | none =>
      cases isOpen with
      | false => exact .inl ⟨rfl, .inr rfl⟩
      | true => exact .inr ⟨rfl, rfl, rfl⟩

/-! ## Calls in progress -/

/-- A raise that holds the lock of its incident; `active` once it has read the active rows. -/
structure Raise where
  tenantId : ℕ
  opts : AddOpts
  isOpen : Bool
  active : Option (List LiveAlert)

/-- What a call still has to do. -/
inductive Call where
  /-- `raiseIncident`, before its lock. -/
  | raise (tenantId : ℕ) (opts : AddOpts) (inc : IncidentRef)
  /-- `add` with another key, after its dedup query. -/
  | insert (tenantId : ℕ) (opts : AddOpts)
  | trim (tenantId : ℕ)
  /-- `resolveIncidentRefs`, the incidents left. -/
  | resolve (refs : List IncidentRef)
  /-- `resolveMutedMetricAlerts`, the devices left to mark read and all of them. -/
  | mute (todo ids : List ℕ)
  deriving DecidableEq, Repr

structure AlertState where
  alerts : List LiveAlert
  nextId : ℕ
  devices : ℕ → Option AlertDevice
  /-- The transaction that holds the advisory lock of an incident. -/
  holders : IncidentRef → Option Raise
  calls : List Call
  /-- The device left 'offline', or was deleted while offline, and `resolveIncidents('offline')` has
  not run for it since. Nothing reads this. -/
  unrecovered : ℕ → Bool

def resolveChunk : ℕ := 200

def metricRefs (ids : List ℕ) : List IncidentRef := ids.map fun id => ⟨.metric, id⟩

/-- `[...new Set(ids)]` -/
def uniqueIds (ids : List ℕ) : List ℕ := JsSet.ofList ids

def deviceRefs (ids : List ℕ) : List IncidentRef :=
  (uniqueIds ids).flatMap fun id => incidentKinds.map fun kind => ⟨kind, id⟩

/-- One transaction of `resolveIncidentRefs`: every active row of the incidents, in any tenant. -/
def resolveRefs (s : AlertState) (refs : List IncidentRef) (now : ℤ) : AlertState :=
  { s with
    alerts := resolveWhere s.alerts (fun a => refs.any fun inc => a.ofIncident inc) now
    unrecovered := fun d => s.unrecovered d && !decide ((⟨.offline, d⟩ : IncidentRef) ∈ refs) }

/-- Replace the `i`-th call by what is left of it. -/
def setCall (s : AlertState) (i : ℕ) (c : Option Call) : AlertState :=
  { s with calls := match c with
      | some c => s.calls.set i c
      | none => s.calls.eraseIdx i }

/-- The lock of the incident goes to `r`, or is released. -/
def setHolder (s : AlertState) (inc : IncidentRef) (r : Option Raise) : AlertState :=
  { s with holders := Function.update s.holders inc r }

theorem setHolder_self (s : AlertState) (inc : IncidentRef) (r : Option Raise) :
    (setHolder s inc r).holders inc = r := Function.update_self _ _ _

theorem setHolder_of_ne (s : AlertState) {inc inc' : IncidentRef} (h : inc' ≠ inc) (r : Option Raise) :
    (setHolder s inc r).holders inc' = s.holders inc' := Function.update_of_ne h _ _

/-- The next statement of the `i`-th call. A transaction waits for the locks it needs. -/
def runCall (s : AlertState) (i : ℕ) (now : ℤ) : Option AlertState :=
  match s.calls[i]? with
  | none => none
  | some (.raise tenantId opts inc) =>
      if (s.holders inc).isSome then none
      else
        let isOpen := raiseOpen (s.devices inc.deviceId) inc
        some (setHolder (setCall s i none) inc (some ⟨tenantId, opts, isOpen, none⟩))
  | some (.insert tenantId opts) =>
      some { (setCall s i (some (.trim tenantId))) with
        alerts := insertAlert s.alerts s.nextId tenantId opts now, nextId := s.nextId + 1 }
  | some (.trim tenantId) =>
      some { (setCall s i none) with alerts := trimTenant s.alerts tenantId }
  | some (.resolve refs) =>
      if (refs.take resolveChunk).any fun inc => (s.holders inc).isSome then none
      else
        let rest := refs.drop resolveChunk
        some (setCall (resolveRefs s (refs.take resolveChunk) now) i
          (if rest.isEmpty then none else some (.resolve rest)))
  | some (.mute todo ids) =>
      let chunk := metricRefs (todo.take resolveChunk)
      let rest := todo.drop resolveChunk
      some { (setCall s i (some (if rest.isEmpty then .resolve (metricRefs ids) else .mute rest ids))) with
        alerts := readWhere s.alerts (fun a =>
          (chunk.any fun inc => a.ofIncident inc) && a.active && a.readAt.isNone) now }

/-- The second statement of a raise: it reads the active rows of its incident. -/
def raiseRead (s : AlertState) (inc : IncidentRef) : Option AlertState :=
  match s.holders inc with
  | none => none
  | some r =>
      if r.active.isSome then none
      else some (setHolder s inc (some { r with active := some (readActive s.alerts inc) }))

/-- The writes and the commit of a raise, which releases its lock. -/
def raiseCommit (s : AlertState) (inc : IncidentRef) (now : ℤ) : Option AlertState :=
  match s.holders inc with
  | none => none
  | some r =>
      match r.active with
      | none => none
      | some active =>
          let c := commitRaise s.alerts s.nextId r.isOpen active r.tenantId r.opts now
          let s := setHolder s inc none
          if c.2 then
            some { s with
              alerts := c.1
              nextId := s.nextId + 1
              calls := s.calls ++ [.trim r.tenantId] }
          else some { s with alerts := c.1 }

/-! ## The machine -/

inductive AlertOp where
  | add (tenantId : ℕ) (opts : AddOpts)
  | resolveIncidents (kind : IncidentKind) (deviceIds : List ℕ)
  | resolveDeviceIncidents (deviceIds : List ℕ)
  | resolveMutedMetricAlerts (deviceIds : List ℕ)
  | run (i : ℕ) (now : ℤ)
  | raiseRead (inc : IncidentRef)
  | raiseCommit (inc : IncidentRef) (now : ℤ)
  /-- A transaction that fails, or whose server stops. -/
  | raiseAbort (inc : IncidentRef)
  | dropCall (i : ℕ)
  | markRead (id tenantId : ℕ) (now : ℤ)
  | markAllRead (tenantId : ℕ) (now : ℤ)
  | deleteAlert (id : ℕ)
  | clearAll (tenantId : ℕ)
  | cleanup (before : ℤ)
  | createDevice (id tenantId : ℕ) (status : DeviceStatus)
  | writeStatus (id : ℕ) (status : DeviceStatus)
  | moveDevice (id tenantId : ℕ)
  | deleteDevice (id : ℕ)
  deriving DecidableEq, Repr

/-- `add`, up to its first write: an incident key is raised, another key is skipped when an unread
active row of the tenant has it. -/
def startAdd (s : AlertState) (tenantId : ℕ) (opts : AddOpts) : AlertState :=
  match parseIncidentStableKey opts.stableKey with
  | some inc => { s with calls := s.calls ++ [.raise tenantId opts inc] }
  | none =>
      let existing := (opts.stableKey.filter (· ≠ "")).isSome && s.alerts.any fun a =>
        decide (a.tenantId = tenantId) && decide (a.stableKey = opts.stableKey) && a.readAt.isNone &&
          a.active
      if existing then s else { s with calls := s.calls ++ [.insert tenantId opts] }

/-- The row of `devices` changes; leaving 'offline' is noted. -/
def writeDevice (s : AlertState) (id : ℕ) (d : Option AlertDevice) : AlertState :=
  let wasOffline := (s.devices id).any fun d => decide (d.status = .offline)
  let isOffline := d.any fun d => decide (d.status = .offline)
  { s with
    devices := Function.update s.devices id d
    unrecovered := fun x =>
      s.unrecovered x || (decide (x = id) && wasOffline && !isOffline) }

def alertStep (s : AlertState) : AlertOp → Option AlertState
  | .add tenantId opts => some (startAdd s tenantId opts)
  | .resolveIncidents kind ids =>
      some { s with calls := s.calls ++ [.resolve ((uniqueIds ids).map fun id => ⟨kind, id⟩)] }
  | .resolveDeviceIncidents ids => some { s with calls := s.calls ++ [.resolve (deviceRefs ids)] }
  | .resolveMutedMetricAlerts ids =>
      if ids.isEmpty then some s
      else some { s with calls := s.calls ++ [.mute (uniqueIds ids) (uniqueIds ids)] }
  | .run i now => runCall s i now
  | .raiseRead inc => raiseRead s inc
  | .raiseCommit inc now => raiseCommit s inc now
  | .raiseAbort inc => some (setHolder s inc none)
  | .dropCall i => some (setCall s i none)
  | .markRead id tenantId now => some { s with
      alerts := readWhere s.alerts (fun a => decide (a.id = id) && decide (a.tenantId = tenantId)) now }
  | .markAllRead tenantId now => some { s with
      alerts := readWhere s.alerts
        (fun a => decide (a.tenantId = tenantId) && a.readAt.isNone && a.active) now }
  | .deleteAlert id => some { s with alerts := deleteWhere s.alerts fun a => a.id = id }
  | .clearAll tenantId => some { s with alerts := deleteWhere s.alerts fun a => a.tenantId = tenantId }
  | .cleanup before => some { s with alerts := deleteWhere s.alerts fun a => a.createdAt < before }
  | .createDevice id tenantId status =>
      if (s.devices id).isSome then none else some (writeDevice s id (some ⟨tenantId, status⟩))
  | .writeStatus id status =>
      some (writeDevice s id ((s.devices id).map fun d => { d with status := status }))
  | .moveDevice id tenantId =>
      some (writeDevice s id ((s.devices id).map fun d => { d with tenantId := tenantId }))
  | .deleteDevice id => some (writeDevice s id none)

/-- The operations and their statements in any order, from an empty table and any devices. -/
def alertMachine : Machine AlertState AlertOp where
  init s := s.alerts = [] ∧ s.calls = [] ∧ (∀ inc, s.holders inc = none)
  step := alertStep

end Obliance.Alerts

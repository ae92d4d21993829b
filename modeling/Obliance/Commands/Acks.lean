import Obliance.Commands.Tables

/-!
# `processAcks` (`services/command.service.ts`)

The statements an ack runs, in order, on the tables they write. Each one also notes the rows its
`UPDATE` or `DELETE` hits, the waiter it resolves and the scenario handler it calls (`Touch`).

* `readRow` : the row an ack works on is read by id alone, after the update that is filtered by device;
* `processAck`, `processAcks` : one ack, a list of acks in order;
* `Frame` : a row or a waiter that no touch names is as it was; every statement keeps it.
-/

namespace Obliance.Commands
open KeyedTable

inductive SessionStatus where
  | waiting
  | connecting
  | active
  | ended
  | failed
  deriving DecidableEq, Repr

structure RemoteSession where
  token : String
  deviceId : ℕ
  status : SessionStatus
  endedAt : Option ℤ
  endReason : Option String
  deriving DecidableEq, Repr

/-- `whereIn('status', ['waiting', 'connecting'])` -/
def RemoteSession.isOpening (s : RemoteSession) : Bool :=
  decide (s.status = .waiting ∨ s.status = .connecting)

inductive ExecutionStatus where
  | pending
  | sent
  | running
  | success
  | failure
  | timeout
  | cancelled
  | skipped
  deriving DecidableEq, Repr

structure ScriptExecution where
  id : ℕ
  status : ExecutionStatus
  exitCode : Option ℤ
  stdout : Option String
  stderr : Option String
  finishedAt : Option ℤ
  deriving DecidableEq, Repr

inductive UpdateStatus where
  | available
  | approved
  | pendingInstall
  | installing
  | installed
  | failed
  | other (name : String)
  deriving DecidableEq, Repr

structure DeviceUpdate where
  deviceId : ℕ
  updateUid : String
  status : UpdateStatus
  installedAt : Option ℤ
  installError : Option String
  deriving DecidableEq, Repr

/-- What a statement of `processAcks` updates, deletes, resolves or resumes. -/
inductive Touch where
  | waiter (commandId : ℕ)
  | command (id : ℕ)
  | session (deviceId : ℕ) (token : String)
  | update (deviceId : ℕ) (updateUid : String)
  | execution (id : ℕ)
  /-- `handleScenarioCommandAck` for a step run. -/
  | stepRun (id : ℕ)
  /-- `handleNodeCommandAck` for a node run. -/
  | nodeRun (id : ℕ)
  deriving DecidableEq, Repr

structure AckDb where
  commands : List CommandRow
  /-- The commands a caller of `waitForResult` waits for. -/
  waiters : List ℕ
  sessions : List RemoteSession
  executions : List ScriptExecution
  updates : List DeviceUpdate
  touched : List Touch
  deriving Repr

def noisyEphemeral : List CommandType := [.hypervListVms, .hypervConsoleThumbnail, .veeamListJobs]

/-! ## The statements -/

/-- `pendingWaiters.get(ack.commandId)`, by the text of the id. -/
def resolveWaiter (db : AckDb) (id : ℕ) (canonical : Bool) (a : Ack) : AckDb :=
  if a.status.isTerminal && canonical && decide (id ∈ db.waiters) then
    { db with
      waiters := db.waiters.filter (· ≠ id)
      touched := db.touched ++ [.waiter id] }
  else db

/-- The update of the queue, filtered by device. -/
def ackQueue (db : AckDb) (deviceId id : ℕ) (a : Ack) (now : ℤ) : AckDb :=
  { db with
    commands := updateQueue db.commands deviceId id a now
    touched := db.touched ++
      (db.commands.filter fun r => decide (r.id = id ∧ r.deviceId = deviceId)).map fun r => .command r.id }

/-- The row of a command the agent started by itself. An id that exists is a duplicate key. -/
def insertSynthetic (db : AckDb) (deviceId tenantId id : ℕ) (a : Ack) (now : ℤ) : AckDb :=
  match a.commandType with
  | none => db
  | some type =>
      if a.status.isTerminal && decide (type ∉ noisyEphemeral) &&
          (get CommandRow.id db.commands id).isNone then
        { db with commands := db.commands ++ [
          { id := id
            deviceId := deviceId
            tenantId := tenantId
            type := type
            payload := (a.result.map CommandResult.fields).getD .empty
            status := a.status.toCommandStatus
            ackedAt := some now
            finishedAt := some now
            expiresAt := none
            result := a.result
            sourceType := none
            sourceId := none }] }
      else db

/-- `db('command_queue').where({ id: ack.commandId }).first()` -/
def readRow (db : AckDb) (id : ℕ) : Option CommandRow := get CommandRow.id db.commands id

/-- A failed tunnel command ends its session. -/
def failTunnel (db : AckDb) (row : CommandRow) (a : Ack) (now : ℤ) : AckDb :=
  match row.payload.sessionToken.filter (· ≠ "") with
  | none => db
  | some token =>
      if a.status = .failure ∧ row.type = .openRemoteTunnel then
        let hit : RemoteSession → Bool := fun s => decide (s.token = token) && s.isOpening
        { db with
          sessions := db.sessions.map fun s =>
            if hit s then { s with status := .failed, endedAt := some now, endReason := "command_failure" }
            else s
          touched := db.touched ++ (db.sessions.filter hit).map fun s => .session s.deviceId s.token }
      else db

def updateUidsOf (row : CommandRow) : List String :=
  match row.type with
  | .installUpdates => row.payload.updateUids
  | .installUpdate => (row.payload.updateUid.filter (· ≠ "")).toList
  | _ => []

/-- `device_updates` of the acking device: installing, installed or failed. -/
def ackUpdates (db : AckDb) (deviceId : ℕ) (row : CommandRow) (a : Ack) (now : ℤ) : AckDb :=
  let hit : DeviceUpdate → Bool := fun u =>
    decide (u.deviceId = deviceId) && decide (u.updateUid ∈ updateUidsOf row)
  { db with
    updates := db.updates.map fun u =>
      if hit u then
        match a.status with
        | .ackRunning => { u with status := .installing }
        | .success => { u with status := .installed, installedAt := some now, installError := none }
        | _ => { u with
            status := .failed
            installedAt := none
            installError := some ((a.result.bind CommandResult.error).getD "Installation failed") }
      else u
    touched := db.touched ++ (db.updates.filter hit).map fun u => .update u.deviceId u.updateUid }

/-- A disk-health probe never stays in the history. -/
def deleteProbe (db : AckDb) (row : CommandRow) : AckDb :=
  if row.sourceType = some .diskHealthProbe then
    { db with
      commands := remove CommandRow.id db.commands row.id
      touched := db.touched ++ [.command row.id] }
  else db

def execStatus : AckStatus → ExecutionStatus
  | .success => .success
  | .timeout => .timeout
  | _ => .failure

/-- The linked `script_executions` row, by id alone. -/
def ackExecution (db : AckDb) (row : CommandRow) (a : Ack) (now : ℤ) : AckDb :=
  match row.sourceId with
  | none => db
  | some execId =>
      if row.sourceType = some .scriptExecution then
        { db with
          executions := modify ScriptExecution.id db.executions execId fun e =>
            { e with
              status := execStatus a.status
              exitCode := a.result.bind CommandResult.exitCode
              stdout := a.result.bind CommandResult.stdout
              stderr := a.result.bind CommandResult.stderr
              finishedAt := some now }
          touched := db.touched ++
            (db.executions.filter fun e => decide (e.id = execId)).map fun e => .execution e.id }
      else db

/-- The scenario engine a command resumes, with the id of what it resumes. -/
def scenarioCall (row : CommandRow) : Option Touch :=
  match row.sourceType, row.sourceId with
  | some (.scenarioStep _), some id => some (.stepRun id)
  | some .scenarioNode, some id => some (.nodeRun id)
  | _, _ => none

def callScenario (db : AckDb) (row : CommandRow) : AckDb :=
  { db with touched := db.touched ++ (scenarioCall row).toList }

/-- What follows once the row of the ack is read. -/
def followRow (db : AckDb) (deviceId : ℕ) (row : CommandRow) (a : Ack) (now : ℤ) : AckDb :=
  if a.status.isTerminal then
    let db := failTunnel db row a now
    let db := ackUpdates db deviceId row a now
    let db := deleteProbe db row
    let db := ackExecution db row a now
    callScenario db row
  else ackUpdates db deviceId row a now

/-- The statements before the row is read: the waiter and the queue. -/
def ackStart (db : AckDb) (deviceId tenantId : ℕ) (now : ℤ) (id : ℕ) (canonical : Bool) (a : Ack) : AckDb :=
  insertSynthetic (ackQueue (resolveWaiter db id canonical a) deviceId id a now) deviceId tenantId id a now

/-- One turn of the loop of `processAcks`. -/
def processAck (db : AckDb) (deviceId tenantId : ℕ) (now : ℤ) (a : Ack) : AckDb :=
  match a.commandId with
  | .other _ => db
  | .uuid id canonical =>
      let db := ackStart db deviceId tenantId now id canonical a
      match readRow db id with
      | none => db
      | some row => followRow db deviceId row a now

def processAcks (db : AckDb) (deviceId tenantId : ℕ) (now : ℤ) (acks : List Ack) : AckDb :=
  acks.foldl (fun db a => processAck db deviceId tenantId now a) db

/-! ## What no touch names is as it was -/

structure Frame (db db' : AckDb) : Prop where
  touched : ∀ t ∈ db.touched, t ∈ db'.touched
  commands : ∀ c ∈ db.commands, c ∈ db'.commands ∨ Touch.command c.id ∈ db'.touched
  waiters : ∀ id ∈ db.waiters, id ∈ db'.waiters ∨ Touch.waiter id ∈ db'.touched
  sessions : ∀ s ∈ db.sessions, s ∈ db'.sessions ∨ Touch.session s.deviceId s.token ∈ db'.touched
  executions : ∀ e ∈ db.executions, e ∈ db'.executions ∨ Touch.execution e.id ∈ db'.touched
  updates : ∀ u ∈ db.updates, u ∈ db'.updates ∨ Touch.update u.deviceId u.updateUid ∈ db'.touched

theorem Frame.refl (db : AckDb) : Frame db db :=
  ⟨fun _ h => h, fun _ h => .inl h, fun _ h => .inl h, fun _ h => .inl h, fun _ h => .inl h,
    fun _ h => .inl h⟩

theorem Frame.trans {db db' db'' : AckDb} (h : Frame db db') (h' : Frame db' db'') : Frame db db'' := by
  refine ⟨fun t ht => h'.touched t (h.touched t ht), fun c hc => ?_, fun id hid => ?_, fun s hs => ?_,
    fun e he => ?_, fun u hu => ?_⟩
  · exact (h.commands c hc).elim (h'.commands c) fun ht => .inr (h'.touched _ ht)
  · exact (h.waiters id hid).elim (h'.waiters id) fun ht => .inr (h'.touched _ ht)
  · exact (h.sessions s hs).elim (h'.sessions s) fun ht => .inr (h'.touched _ ht)
  · exact (h.executions e he).elim (h'.executions e) fun ht => .inr (h'.touched _ ht)
  · exact (h.updates u hu).elim (h'.updates u) fun ht => .inr (h'.touched _ ht)

/-- The rows an `UPDATE` hits are touched, the others stay. -/
theorem mem_map_or_touched {ρ : Type} (t : List ρ) (hit : ρ → Bool) (f : ρ → ρ) (touch : ρ → Touch)
    (before : List Touch) {r : ρ} (hr : r ∈ t) :
    (r ∈ t.map fun r => if hit r then f r else r) ∨
      touch r ∈ before ++ (t.filter hit).map touch := by
  cases hh : hit r with
  | true => exact .inr (List.mem_append_right _ (List.mem_map_of_mem (List.mem_filter.2 ⟨hr, hh⟩)))
  | false => exact .inl (List.mem_map.2 ⟨r, hr, by rw [hh]; rfl⟩)

variable (db : AckDb)

theorem frame_resolveWaiter (id : ℕ) (canonical : Bool) (a : Ack) :
    Frame db (resolveWaiter db id canonical a) := by
  unfold resolveWaiter
  split
  · refine ⟨fun _ ht => List.mem_append_left _ ht, fun _ h => .inl h, fun w hw => ?_, fun _ h => .inl h,
      fun _ h => .inl h, fun _ h => .inl h⟩
    by_cases hid : w = id
    · exact .inr (List.mem_append_right _ (by rw [hid]; exact List.mem_singleton_self _))
    · exact .inl (List.mem_filter.2 ⟨hw, decide_eq_true hid⟩)
  · exact .refl db

theorem frame_ackQueue (deviceId id : ℕ) (a : Ack) (now : ℤ) : Frame db (ackQueue db deviceId id a now) := by
  refine ⟨fun _ ht => List.mem_append_left _ ht, fun c hc => ?_, fun _ h => .inl h, fun _ h => .inl h,
    fun _ h => .inl h, fun _ h => .inl h⟩
  have := mem_map_or_touched db.commands (fun r => decide (r.id = id ∧ r.deviceId = deviceId))
    (fun r => r.acked a now) (fun r => .command r.id) db.touched hc
  simpa only [ackQueue, updateQueue, decide_eq_true_eq] using this

theorem frame_insertSynthetic (deviceId tenantId id : ℕ) (a : Ack) (now : ℤ) :
    Frame db (insertSynthetic db deviceId tenantId id a now) := by
  unfold insertSynthetic
  split
  · exact .refl db
  · split
    · exact ⟨fun _ h => h, fun c hc => .inl (List.mem_append_left _ hc), fun _ h => .inl h,
        fun _ h => .inl h, fun _ h => .inl h, fun _ h => .inl h⟩
    · exact .refl db

theorem frame_failTunnel (row : CommandRow) (a : Ack) (now : ℤ) : Frame db (failTunnel db row a now) := by
  unfold failTunnel
  split
  · exact .refl db
  · split
    · exact ⟨fun _ ht => List.mem_append_left _ ht, fun _ h => .inl h, fun _ h => .inl h,
        fun _ hs => mem_map_or_touched db.sessions _ _ _ _ hs, fun _ h => .inl h, fun _ h => .inl h⟩
    · exact .refl db

theorem frame_ackUpdates (deviceId : ℕ) (row : CommandRow) (a : Ack) (now : ℤ) :
    Frame db (ackUpdates db deviceId row a now) :=
  ⟨fun _ ht => List.mem_append_left _ ht, fun _ h => .inl h, fun _ h => .inl h, fun _ h => .inl h,
    fun _ h => .inl h, fun _ hu => mem_map_or_touched db.updates _ _
      (fun u => .update u.deviceId u.updateUid) _ hu⟩

theorem frame_deleteProbe (row : CommandRow) : Frame db (deleteProbe db row) := by
  unfold deleteProbe
  split
  · refine ⟨fun _ ht => List.mem_append_left _ ht, fun c hc => ?_, fun _ h => .inl h, fun _ h => .inl h,
      fun _ h => .inl h, fun _ h => .inl h⟩
    by_cases hid : c.id = row.id
    · exact .inr (List.mem_append_right _ (by rw [hid]; exact List.mem_singleton_self _))
    · exact .inl (mem_remove.2 ⟨hc, hid⟩)
  · exact .refl db

theorem frame_ackExecution (row : CommandRow) (a : Ack) (now : ℤ) :
    Frame db (ackExecution db row a now) := by
  unfold ackExecution
  split
  · exact .refl db
  · rename_i execId _
    split
    · refine ⟨fun _ ht => List.mem_append_left _ ht, fun _ h => .inl h, fun _ h => .inl h,
        fun _ h => .inl h, fun e he => ?_, fun _ h => .inl h⟩
      have := mem_map_or_touched db.executions (fun e => decide (e.id = execId))
        (fun e => { e with
          status := execStatus a.status
          exitCode := a.result.bind CommandResult.exitCode
          stdout := a.result.bind CommandResult.stdout
          stderr := a.result.bind CommandResult.stderr
          finishedAt := some now }) (fun e => .execution e.id) db.touched he
      simpa only [KeyedTable.modify, decide_eq_true_eq] using this
    · exact .refl db

theorem frame_callScenario (row : CommandRow) : Frame db (callScenario db row) :=
  ⟨fun _ ht => List.mem_append_left _ ht, fun _ h => .inl h, fun _ h => .inl h, fun _ h => .inl h,
    fun _ h => .inl h, fun _ h => .inl h⟩

theorem frame_followRow (deviceId : ℕ) (row : CommandRow) (a : Ack) (now : ℤ) :
    Frame db (followRow db deviceId row a now) := by
  unfold followRow
  split
  · exact ((((frame_failTunnel db row a now).trans (frame_ackUpdates _ deviceId row a now)).trans
      (frame_deleteProbe _ row)).trans (frame_ackExecution _ row a now)).trans (frame_callScenario _ row)
  · exact frame_ackUpdates db deviceId row a now

theorem frame_processAck (deviceId tenantId : ℕ) (now : ℤ) (a : Ack) :
    Frame db (processAck db deviceId tenantId now a) := by
  unfold processAck
  split
  · exact .refl db
  · rename_i id canonical _
    have hstart : Frame db (ackStart db deviceId tenantId now id canonical a) :=
      ((frame_resolveWaiter db id canonical a).trans (frame_ackQueue _ deviceId id a now)).trans
        (frame_insertSynthetic _ deviceId tenantId id a now)
    dsimp only
    split
    · exact hstart
    · exact hstart.trans (frame_followRow _ deviceId _ a now)

/-- **A row or a waiter that no touch names is as it was**, over any list of acks. -/
theorem frame_processAcks (deviceId tenantId : ℕ) (now : ℤ) (acks : List Ack) :
    Frame db (processAcks db deviceId tenantId now acks) := by
  induction acks generalizing db with
  | nil => exact .refl db
  | cons a acks ih => exact (frame_processAck db deviceId tenantId now a).trans (ih _)

end Obliance.Commands

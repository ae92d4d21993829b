import Obliance.Commands.Acks
import Obliance.Lib.GuardedRun

/-!
# Who writes the statuses (`services/command.service.ts`, `services/schedule.service.ts`)

Commands and script executions are ended by the acks of agents, by the sweeper of stale executions, by the
cleanup job and by cancellations. Acks and the sweeper work in several statements, and others run in between.

* `AckPoint` : where `processAcks` is in its work on an ack, `runAck` the statement it runs there;
* `staleExecutions`, `timeOutExecution` : the sweeper, which writes to the rows it has read;
* `batchDone`, `StatusState.batchNotice` : the notification of a batch that is over, by the modes of the
  bindings (`services/automationNotification.service.ts`);
* `statusMachine` : any of these, in any order, with new executions and commands in between.
-/

namespace Obliance.Commands
open GuardedRun KeyedTable

/-! ## Rows -/

/-- The columns of an execution that stay as they were inserted. -/
structure ExecutionInfo where
  deviceId : ℕ
  scheduleId : Option ℕ
  batchId : Option ℕ
  triggeredAt : Option ℤ
  /-- `script_snapshot.timeoutSeconds` -/
  timeoutSeconds : Option ℤ
  deriving DecidableEq, Repr

/-- `AutomationNotificationMode` -/
inductive NotificationMode where
  | perDevice
  | summary
  | onError
  deriving DecidableEq, Repr

/-- `AutomationNotificationBinding` -/
structure NotificationBinding where
  channelId : ℕ
  mode : NotificationMode
  deriving DecidableEq, Repr

/-- The columns of `script_schedules` for notifications. -/
structure BatchSchedule where
  bindings : List NotificationBinding
  notifyOnce : Bool
  deriving DecidableEq, Repr

/-- A row of `notification_channels`, with the tenants it is shared into. -/
structure AutomationChannel where
  tenantId : ℕ
  isEnabled : Bool
  sharedWith : List ℕ
  /-- `getPlugin(row.type)` -/
  hasPlugin : Bool
  deriving DecidableEq, Repr

structure AggregateResult where
  successCount : ℕ
  failureCount : ℕ
  totalCount : ℕ
  failedDeviceIds : List ℕ
  deriving DecidableEq, Repr

/-- What a message of an aggregate result says. -/
inductive AutomationMessage where
  | summary (successCount failureCount : ℕ)
  | onError (failureCount totalCount : ℕ) (failedDeviceIds : List ℕ)
  deriving DecidableEq, Repr

/-- The messages that `automationNotificationService.notify` sends for a batch, by channel. -/
structure BatchNotice where
  batchId : ℕ
  scheduleId : ℕ
  messages : List (ℕ × AutomationMessage)
  deriving DecidableEq, Repr

/-- An ack that is processed, and the ones of the same call behind it. -/
structure AckJob where
  deviceId : ℕ
  tenantId : ℕ
  id : ℕ
  canonical : Bool
  ack : Ack
  rest : List Ack
  deriving DecidableEq, Repr

/-- The next statement for an ack. -/
inductive AckPoint where
  | queue
  /-- `affected` when the update of the queue found the row. -/
  | insert (affected : Bool)
  | read
  | tunnel (row : CommandRow)
  | updates (row : CommandRow)
  | probe (row : CommandRow)
  | execution (row : CommandRow)
  /-- The query for the batch of an execution. -/
  | batch (executionId : ℕ)
  | notify (scheduleId batchId : ℕ) (batch : List ScriptExecution)
  | scenario (row : CommandRow)
  deriving DecidableEq, Repr

inductive Task where
  | ack (job : AckJob) (point : AckPoint)
  | select (now : ℤ)
  /-- The executions the sweeper has still to end. -/
  | sweep (ids : List ℕ)
  | sweepQueue (id : ℕ) (ids : List ℕ)
  | done
  deriving DecidableEq, Repr

structure StatusState where
  db : AckDb
  /-- By the id of the execution, of the schedule. -/
  info : ℕ → ExecutionInfo
  schedules : ℕ → Option BatchSchedule
  channels : ℕ → Option AutomationChannel
  /-- The schedule whose run a batch id was made for. -/
  madeFor : ℕ → Option ℕ
  /-- In memory: the calls in progress. -/
  tasks : List Task
  /-- The notices that were dispatched. Nothing reads these. -/
  notified : List BatchNotice

/-! ## Acks -/

/-- The next ack of a call that has a UUID. -/
def nextAck (deviceId tenantId : ℕ) : List Ack → Task
  | [] => .done
  | a :: rest =>
      match a.commandId with
      | .other _ => nextAck deviceId tenantId rest
      | .uuid id canonical => .ack ⟨deviceId, tenantId, id, canonical, a, rest⟩ .queue

def AckJob.next (job : AckJob) : Task := nextAck job.deviceId job.tenantId job.rest

/-- `['success', 'failure', 'timeout', 'cancelled', 'skipped'].includes(e.status)` -/
def ScriptExecution.isOver (e : ScriptExecution) : Bool :=
  decide (e.status ∈ [.success, .failure, .timeout, .cancelled, .skipped])

def StatusState.batch (s : StatusState) (batchId : ℕ) : List ScriptExecution :=
  s.db.executions.filter fun e => decide ((s.info e.id).batchId = some batchId)

def batchDone (batch : List ScriptExecution) : Bool := batch.all ScriptExecution.isOver

def ScriptExecution.hasFailed (e : ScriptExecution) : Bool := decide (e.status = .failure ∨ e.status = .timeout)

/-- `ORDER BY finished_at DESC LIMIT 1` -/
def latestFinished : List ScriptExecution → Option ScriptExecution
  | [] => none
  | e :: es =>
      match latestFinished es with
      | some f => if e.finishedAt.getD 0 < f.finishedAt.getD 0 then some f else some e
      | none => some e

/-- The batch of the schedule that finished last, this one aside. -/
def StatusState.previousBatch (s : StatusState) (scheduleId batchId : ℕ) : Option ℕ :=
  let finished := s.db.executions.filter fun e =>
    decide ((s.info e.id).scheduleId = some scheduleId ∧ (s.info e.id).batchId ≠ some batchId) &&
      (s.info e.id).batchId.isSome && e.finishedAt.isSome
  (latestFinished finished).bind fun e => (s.info e.id).batchId

/-- With `notify_once`, a batch that fails after one that has failed is left out. -/
def StatusState.skipsNotification (s : StatusState) (schedule : BatchSchedule) (scheduleId batchId : ℕ)
    (batch : List ScriptExecution) : Bool :=
  schedule.notifyOnce && (s.previousBatch scheduleId batchId).any fun previous =>
    (s.batch previous).any ScriptExecution.hasFailed && batch.any ScriptExecution.hasFailed

/-- `buildSummaryMessage`, `buildOnErrorMessage`: a `per_device` binding has no message for a batch. -/
def NotificationBinding.message (b : NotificationBinding) (r : AggregateResult) : Option AutomationMessage :=
  match b.mode with
  | .summary => some (.summary r.successCount r.failureCount)
  | .onError => if r.failureCount = 0 then none else some (.onError r.failureCount r.totalCount r.failedDeviceIds)
  | .perDevice => none

/-- The channel that `dispatch` finds: enabled, of the tenant or shared into it, of a known type. -/
def AutomationChannel.dispatches (c : AutomationChannel) (tenantId : ℕ) : Bool :=
  c.isEnabled && decide (c.tenantId = tenantId ∨ tenantId ∈ c.sharedWith) && c.hasPlugin

def StatusState.aggregateResult (s : StatusState) (batch : List ScriptExecution) : AggregateResult :=
  let failed := batch.filter ScriptExecution.hasFailed
  { successCount := batch.countP fun e => decide (e.status = .success)
    failureCount := failed.length
    totalCount := batch.length
    failedDeviceIds := failed.map fun e => (s.info e.id).deviceId }

/-- `automationNotificationService.notify`: the messages that go out. -/
def StatusState.messages (s : StatusState) (tenantId : ℕ) (bindings : List NotificationBinding)
    (r : AggregateResult) : List (ℕ × AutomationMessage) :=
  bindings.filterMap fun b =>
    if (s.channels b.channelId).any (·.dispatches tenantId) then (b.message r).map fun m => (b.channelId, m)
    else none

/-- The notice of a batch, as it was read. A notice without a message is none. -/
def StatusState.batchNotice (s : StatusState) (tenantId scheduleId batchId : ℕ)
    (batch : List ScriptExecution) : Option BatchNotice :=
  (s.schedules scheduleId).bind fun schedule =>
    if schedule.bindings = [] ∨ s.skipsNotification schedule scheduleId batchId batch = true then none
    else
      let messages := s.messages tenantId schedule.bindings (s.aggregateResult batch)
      if messages = [] then none else some ⟨batchId, scheduleId, messages⟩

/-- Where a batch that was read leads. -/
def StatusState.checkBatch (s : StatusState) (job : AckJob) (executionId : ℕ) : Task :=
  match (get ScriptExecution.id s.db.executions executionId).map fun e => s.info e.id with
  | some { scheduleId := some scheduleId, batchId := some batchId, .. } =>
      if batchDone (s.batch batchId) then .ack job (.notify scheduleId batchId (s.batch batchId)) else job.next
  | _ => job.next

/-- The execution a command runs. -/
def CommandRow.executionId (row : CommandRow) : Option ℕ :=
  if row.sourceType = some .scriptExecution then row.sourceId else none

namespace StatusState

def withDb (s : StatusState) (db : AckDb) : StatusState := { s with db := db }

def setTask (s : StatusState) (i : ℕ) (task : Task) : StatusState := { s with tasks := s.tasks.set i task }

def addTask (s : StatusState) (task : Task) : StatusState := { s with tasks := s.tasks ++ [task] }

end StatusState

/-- The statement of an ack, and what follows. -/
def runAck (s : StatusState) (job : AckJob) (now : ℤ) : AckPoint → StatusState × Task
  | .queue =>
      let affected := s.db.commands.any fun r => decide (r.id = job.id ∧ r.deviceId = job.deviceId)
      (s.withDb (ackQueue (resolveWaiter s.db job.id job.canonical job.ack) job.deviceId job.id job.ack now),
        .ack job (.insert affected))
  | .insert affected =>
      (s.withDb (if affected then s.db
        else insertSynthetic s.db job.deviceId job.tenantId job.id job.ack now), .ack job .read)
  | .read =>
      (s, match readRow s.db job.id with
        | none => job.next
        | some row => if job.ack.status.isTerminal then .ack job (.tunnel row) else .ack job (.updates row))
  | .tunnel row => (s.withDb (failTunnel s.db row job.ack now), .ack job (.updates row))
  | .updates row =>
      (s.withDb (ackUpdates s.db job.deviceId row job.ack now),
        if job.ack.status.isTerminal then .ack job (.probe row) else job.next)
  | .probe row => (s.withDb (deleteProbe s.db row), .ack job (.execution row))
  | .execution row =>
      (s.withDb (ackExecution s.db row job.ack now),
        match row.executionId with
        | some id => .ack job (.batch id)
        | none => .ack job (.scenario row))
  | .batch executionId => (s, s.checkBatch job executionId)
  | .notify scheduleId batchId batch =>
      ({ s with notified := s.notified ++ (s.batchNotice job.tenantId scheduleId batchId batch).toList }, job.next)
  | .scenario row => (s.withDb (callScenario s.db row), job.next)

/-- What follows when the statement of an ack throws. -/
def throwAck (job : AckJob) : AckPoint → Task
  | .queue => .done
  | .insert _ => .ack job .read
  | .tunnel row => .ack job (.updates row)
  | .updates row => if job.ack.status.isTerminal then .ack job (.probe row) else job.next
  | .probe row => .ack job (.execution row)
  | .execution row => .ack job (.scenario row)
  | .read | .batch _ | .notify _ _ _ | .scenario _ => job.next

/-! ### What the statements of an ack leave alone -/

section Frame
variable {row : CommandRow} {now : ℤ} {db : AckDb} {a : Ack}

theorem resolveWaiter_commands {id : ℕ} {canonical : Bool} :
    (resolveWaiter db id canonical a).commands = db.commands := by
  unfold resolveWaiter
  split <;> rfl

theorem resolveWaiter_executions {id : ℕ} {canonical : Bool} :
    (resolveWaiter db id canonical a).executions = db.executions := by
  unfold resolveWaiter
  split <;> rfl

theorem failTunnel_commands : (failTunnel db row a now).commands = db.commands := by
  unfold failTunnel
  split
  · rfl
  · split <;> rfl

theorem failTunnel_executions : (failTunnel db row a now).executions = db.executions := by
  unfold failTunnel
  split
  · rfl
  · split <;> rfl

theorem deleteProbe_executions : (deleteProbe db row).executions = db.executions := by
  unfold deleteProbe
  split <;> rfl

theorem ackExecution_commands : (ackExecution db row a now).commands = db.commands := by
  unfold ackExecution
  split
  · rfl
  · split <;> rfl

/-- The update of an execution that an ack makes. -/
def ScriptExecution.acked (a : Ack) (now : ℤ) (e : ScriptExecution) : ScriptExecution :=
  { e with
    status := execStatus a.status
    exitCode := a.result.bind CommandResult.exitCode
    stdout := a.result.bind CommandResult.stdout
    stderr := a.result.bind CommandResult.stderr
    finishedAt := some now }

theorem ackExecution_executions : (ackExecution db row a now).executions =
    match row.executionId with
    | some id => modify ScriptExecution.id db.executions id (ScriptExecution.acked a now)
    | none => db.executions := by
  unfold ackExecution CommandRow.executionId
  cases hsource : row.sourceId with
  | none => split <;> simp_all
  | some id =>
      by_cases htype : row.sourceType = some .scriptExecution
      · simp only [if_pos htype]
        rfl
      · simp only [if_neg htype]

theorem insertSynthetic_commands {deviceId tenantId id : ℕ} :
    (insertSynthetic db deviceId tenantId id a now).commands = db.commands ∨
      ∃ row, (insertSynthetic db deviceId tenantId id a now).commands = db.commands ++ [row] := by
  unfold insertSynthetic
  split
  · exact .inl rfl
  · split
    · exact .inr ⟨_, rfl⟩
    · exact .inl rfl

theorem insertSynthetic_executions {deviceId tenantId id : ℕ} :
    (insertSynthetic db deviceId tenantId id a now).executions = db.executions := by
  unfold insertSynthetic
  split
  · rfl
  · split <;> rfl

theorem runAck_executions (s : StatusState) (job : AckJob) (now : ℤ) (point : AckPoint) :
    (runAck s job now point).1.db.executions =
      match point with
      | .execution row =>
          match row.executionId with
          | some id => modify ScriptExecution.id s.db.executions id (ScriptExecution.acked job.ack now)
          | none => s.db.executions
      | _ => s.db.executions := by
  cases point with
  | queue => exact resolveWaiter_executions
  | insert affected =>
      cases affected with
      | true => rfl
      | false => exact insertSynthetic_executions
  | tunnel row => exact failTunnel_executions
  | probe row => exact deleteProbe_executions
  | execution row => exact ackExecution_executions
  | updates row | read | batch id | notify scheduleId batchId batch | scenario row => rfl

end Frame

/-! ## The sweeper -/

/-- `snap?.timeoutSeconds && snap.timeoutSeconds > 0`, else 300 -/
def ExecutionInfo.timeout (info : ExecutionInfo) : ℤ := (info.timeoutSeconds.filter (0 < ·)).getD 300

/-- The rows of the query that are older than their timeout, with a minute of grace. -/
def staleExecutions (s : StatusState) (now : ℤ) : List ℕ :=
  (s.db.executions.filter fun e => decide (e.status ∈ [.pending, .sent, .running]) &&
    (s.info e.id).triggeredAt.any fun triggeredAt =>
      decide (now - triggeredAt > ((s.info e.id).timeout + 60) * 1000)).map ScriptExecution.id

def CommandRow.isWaiting (row : CommandRow) : Bool := decide (row.status ∈ [.pending, .sent])

/-- `UPDATE command_queue SET status = 'timeout' … WHERE status IN ('pending', 'sent')` -/
def timeOutCommands (db : AckDb) (p : CommandRow → Bool) (now : ℤ) : AckDb :=
  { db with commands := db.commands.map fun r =>
      if (p r && r.isWaiting) = true then { r with status := .timeout, finishedAt := some now } else r }

/-- `UPDATE script_executions SET status = 'timeout', … WHERE id = ?` -/
def timeOutExecution (db : AckDb) (id : ℕ) (timeoutSec now : ℤ) : AckDb :=
  { db with executions := modify ScriptExecution.id db.executions id fun e =>
      { e with
        status := .timeout
        finishedAt := some now
        stderr := some s!"Execution exceeded {timeoutSec}s timeout (no agent response)" } }

/-! ## The machine -/

def runTask (s : StatusState) (now : ℤ) : Task → Option (StatusState × Task)
  | .ack job point => some (runAck s job now point)
  | .select now => some (s, .sweep (staleExecutions s now))
  | .sweep [] => none
  | .sweep (id :: ids) =>
      some (s.withDb (timeOutExecution s.db id (s.info id).timeout now), .sweepQueue id ids)
  | .sweepQueue id ids =>
      some (s.withDb (timeOutCommands s.db (fun r => decide (r.executionId = some id)) now), .sweep ids)
  | .done => none

def throwTask : Task → Option Task
  | .ack job point => some (throwAck job point)
  | .select _ | .sweep (_ :: _) => some .done
  | .sweepQueue _ ids => some (.sweep ids)
  | .sweep [] | .done => none

inductive StatusOp where
  | processAcks (deviceId tenantId : ℕ) (acks : List Ack)
  /-- The timer of the sweeper. -/
  | sweep (now : ℤ)
  | run (i : ℕ) (now : ℤ)
  | throws (i : ℕ)
  /-- The cleanup job. -/
  | expire (now : ℤ)
  | cancelCommand (id tenantId : ℕ)
  | insertExecution (id : ℕ) (info : ExecutionInfo)
  | enqueue (row : CommandRow)

/-- An execution of a batch belongs to the schedule the batch id was made for. -/
def StatusState.FitsBatch (s : StatusState) (info : ExecutionInfo) : Prop :=
  ∀ batchId ∈ info.batchId, info.scheduleId = s.madeFor batchId

instance (s : StatusState) (info : ExecutionInfo) : Decidable (s.FitsBatch info) :=
  inferInstanceAs (Decidable (∀ batchId ∈ info.batchId, info.scheduleId = s.madeFor batchId))

def newExecution (id : ℕ) : ScriptExecution := ⟨id, .pending, none, none, none, none⟩

/-- The state with one more execution. -/
def StatusState.withExecution (s : StatusState) (id : ℕ) (info : ExecutionInfo) : StatusState :=
  { s with
    db := { s.db with executions := s.db.executions ++ [newExecution id] }
    info := Function.update s.info id info }

def statusStep (s : StatusState) : StatusOp → Option StatusState
  | .processAcks deviceId tenantId acks => some (s.addTask (nextAck deviceId tenantId acks))
  | .sweep now => some (s.addTask (.select now))
  | .run i now => s.tasks[i]?.bind fun task => (runTask s now task).map fun next => next.1.setTask i next.2
  | .throws i => s.tasks[i]?.bind fun task => (throwTask task).map (s.setTask i)
  | .expire now => some (s.withDb (timeOutCommands s.db (fun r => r.expiresAt.any (· < now)) now))
  | .cancelCommand id tenantId =>
      some (s.withDb { s.db with commands := s.db.commands.map fun r =>
        if r.id = id ∧ r.tenantId = tenantId ∧ r.status = .pending then { r with status := .cancelled } else r })
  | .insertExecution id info =>
      if (get ScriptExecution.id s.db.executions id).isNone ∧ s.FitsBatch info then
        some (s.withExecution id info)
      else none
  | .enqueue row =>
      if (get CommandRow.id s.db.commands row.id).isNone ∧ row.status = .pending then
        some (s.withDb { s.db with commands := s.db.commands ++ [row] })
      else none

/-- Any tables, and a server that just started. -/
def statusMachine : Machine StatusState StatusOp where
  init s := s.tasks = [] ∧ s.notified = [] ∧ ∀ e ∈ s.db.executions, s.FitsBatch (s.info e.id)
  step := statusStep

/-! ## Scripts that were sent -/

/-- The command that runs the execution of the same id. -/
def sentCommand (id deviceId : ℕ) : CommandRow where
  id := id
  deviceId := deviceId
  tenantId := 1
  type := .runScript
  payload := .empty
  status := .sent
  ackedAt := none
  finishedAt := none
  expiresAt := some 600000
  result := none
  sourceType := some .scriptExecution
  sourceId := some id

/-- Executions with their devices. -/
def sentScripts (executions : List (ℕ × ℕ)) : AckDb where
  commands := executions.map fun e => sentCommand e.1 e.2
  waiters := []
  sessions := []
  executions := executions.map fun e => { newExecution e.1 with status := .sent }
  updates := []
  touched := []

/-- A call with one ack, the `i`-th task, and `n` statements of it. -/
def ackRun (deviceId id : ℕ) (status : AckStatus) (i n : ℕ) (now : ℤ) : List StatusOp :=
  .processAcks deviceId 1 [⟨.uuid id true, none, status, none⟩] :: List.replicate n (.run i now)

end Obliance.Commands

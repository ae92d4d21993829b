import Mathlib.Data.List.Dedup
import Mathlib.Data.List.Infix
import Obliance.Commands.Acks
import Obliance.Remote.Session
import Obliance.Scenario.Cron
import Obliance.Schedules.Targets

/-!
# The passes of the schedule service (`services/schedule.service.ts`)

A pass reads the due rows of `script_schedules`, runs each (`runSchedule`) and writes its clock when it is
done. A pass may still be running when the next one starts.

* `mayRun`, `isInFlight` : the gates a target device has to pass;
* `computeNextRun`, `catchupThrows` : the clock that is written, and what may keep it from being written;
* `runTick` : the next statement of a pass, `throwTick` the same when it throws;
* `scheduleMachine` : passes in any order, restarts, and whatever the rest of the server writes in between;
* `CreatesOnce` : each occurrence of a schedule makes at most one execution for a device.
-/

namespace Obliance.Schedules
open GuardedRun KeyedTable Obliance.Js Obliance.Commands
open Obliance.Remote (isMasterTenant)
open Obliance.Scenario (CronParser)

/-! ## Rows -/

/-- The value of a run condition: an array, or something else. -/
inductive CondValue where
  | list (entries : List JsVal)
  | value (v : JsVal)

structure RunCondition where
  field : String
  operator : String
  value : CondValue

/-- A row of `script_schedules`; instants in milliseconds. -/
structure ScheduleRow where
  id : ℕ
  tenantId : ℕ
  scriptId : ℕ
  targetType : String
  targetIds : TargetIds
  cronExpression : Option String
  fireOnceAt : Option ℤ
  timezone : String
  catchupEnabled : Bool
  catchupMax : ℤ
  runConditions : List RunCondition
  bypassPrivacyMode : Bool
  skipIfInFlight : Bool
  enabled : Bool
  lastRunAt : Option ℤ
  nextRunAt : Option ℤ

/-- The columns of `script_executions` that say which device is busy with which schedule. -/
structure ExecutionRow where
  scheduleId : Option ℕ
  deviceId : ℕ
  status : ExecutionStatus

structure ScriptRow where
  id : ℕ
  tenantId : Option ℕ
  targetTenantIds : List ℕ

/-- The columns of a device row that a pass keeps. -/
structure ScheduleDevice where
  id : ℕ
  privacyModeEnabled : Bool
  column : String → JsVal

structure ScheduleTables where
  schedules : List ScheduleRow
  scripts : List ScriptRow
  executions : List ExecutionRow
  db : TargetDb
  /-- By the id of the device. -/
  privacyModeEnabled : ℕ → Bool
  column : ℕ → String → JsVal
  schedules_keyed : Keyed ScheduleRow.id schedules
  devices_keyed : Keyed TargetDevice.id db.devices

/-- The language and the libraries a pass runs on. -/
structure ScheduleHost extends Host where
  /-- `cron-parser`, an empty time zone left out. -/
  parser : CronParser
  /-- Whether `node-cron` accepts an expression. -/
  validate : String → Bool
  /-- `String(v)` -/
  text : JsVal → String

/-! ## Gates -/

section Gates
variable (host : ScheduleHost)

/-- `a === b`; two objects are never the same one. -/
def strictEq : JsVal → JsVal → Bool
  | .obj _, _ => false
  | a, b => a = b

/-- `cond.value.includes(value)`, `none` when there is no such method. -/
def includes (value : JsVal) : CondValue → Option Bool
  | .list entries => some (entries.any (strictEq value))
  | .value (.str s) => some (decide ((host.text value).toList <:+: s.toList))
  | .value _ => none

def isSame (value : JsVal) : CondValue → Bool
  | .list _ => false
  | .value v => strictEq value v

/-- `none` when it throws. -/
def checkConditions (device : ScheduleDevice) : List RunCondition → Option Bool
  | [] => some true
  | cond :: conditions =>
      let value := device.column cond.field
      if cond.operator = "eq" ∧ isSame value cond.value = false then some false
      else if cond.operator = "neq" ∧ isSame value cond.value = true then some false
      else if cond.operator = "in" then
        (includes host value cond.value).bind fun found =>
          if found then checkConditions device conditions else some false
      else checkConditions device conditions

/-- The privacy gate and the run conditions. -/
def mayRun (schedule : ScheduleRow) (device : ScheduleDevice) : Option Bool :=
  if device.privacyModeEnabled && !schedule.bypassPrivacyMode then some false
  else checkConditions host device schedule.runConditions

def scriptVisibleToTenant (scripts : List ScriptRow) (scriptId tenantId : ℕ) : Option ScriptRow :=
  scripts.find? fun r => decide (r.id = scriptId) &&
    (isMasterTenant tenantId || decide (r.tenantId = some tenantId) || r.tenantId.isNone ||
      decide (tenantId ∈ r.targetTenantIds))

def ExecutionRow.isInFlight (e : ExecutionRow) : Bool := decide (e.status ∈ [.pending, .sent, .running])

/-- The schedule skips a device that still has an execution of it. -/
def isInFlight (executions : List ExecutionRow) (schedule : ScheduleRow) (deviceId : ℕ) : Bool :=
  schedule.skipIfInFlight &&
    executions.any fun e => decide (e.scheduleId = some schedule.id ∧ e.deviceId = deviceId) && e.isInFlight

end Gates

/-! ## The clock of a schedule -/

def isDue (now : ℤ) (schedule : ScheduleRow) : Bool :=
  schedule.enabled && (schedule.nextRunAt.any (· ≤ now) || schedule.fireOnceAt.any (· ≤ now))

/-- The occurrences a row is due for. -/
def ScheduleRow.due (schedule : ScheduleRow) (now : ℤ) : List ℤ :=
  ((schedule.nextRunAt.toList ++ schedule.fireOnceAt.toList).filter (· ≤ now)).dedup

/-- The expression of a row that has one. -/
def ScheduleRow.expression (schedule : ScheduleRow) : Option String := schedule.cronExpression.filter (· ≠ "")

def computeNextRun (host : ScheduleHost) (schedule : ScheduleRow) (after : ℤ) : Option ℤ :=
  if schedule.fireOnceAt.isSome then none
  else schedule.expression.map fun expression =>
    (host.parser.next expression schedule.timezone after).getD (after + 60000)

/-- `getMissedExecutionTimes` gives `node-cron` the expression and finds no time. -/
def catchupThrows (host : ScheduleHost) (schedule : ScheduleRow) (now : ℤ) : Bool :=
  schedule.catchupEnabled && schedule.lastRunAt.any fun lastRunAt => schedule.expression.any fun expression =>
    decide (lastRunAt + 60000 < now ∧ 0 ≤ schedule.catchupMax) && !host.validate expression

/-! ## Passes -/

/-- Where a pass is: the statement it runs next, and the rows it has still to run. -/
inductive TickPhase where
  /-- The query for the due rows. -/
  | read
  | rows (rows : List ScheduleRow)
  /-- The query for the devices, with the closure of the groups as it was read. -/
  | targets (schedule : ScheduleRow) (groups : TargetDb) (rest : List ScheduleRow)
  /-- The query for the executions in flight. -/
  | inFlight (schedule : ScheduleRow) (devices : List ScheduleDevice) (rest : List ScheduleRow)
  | devices (schedule : ScheduleRow) (devices : List ScheduleDevice) (rest : List ScheduleRow)
  /-- The clock is written, a schedule that fires once is still enabled. -/
  | disable (schedule : ScheduleRow) (rest : List ScheduleRow)

structure Tick where
  now : ℤ
  phase : TickPhase

/-- An execution made for an occurrence; one that is made for two of them counts for both. -/
structure Creation where
  scheduleId : ℕ
  occurrence : ℤ
  deviceId : ℕ
  deriving DecidableEq, Repr

structure ScheduleState where
  tables : ScheduleTables
  /-- In memory: the passes. -/
  ticks : List Tick
  /-- The executions that were made. Nothing reads these. -/
  created : List Creation

/-- What an execution on a device is made for. -/
def creations (schedule : ScheduleRow) (now : ℤ) (deviceId : ℕ) : List Creation :=
  (schedule.due now).map fun occurrence => ⟨schedule.id, occurrence, deviceId⟩

namespace ScheduleState

def setPhase (s : ScheduleState) (i : ℕ) (now : ℤ) (phase : TickPhase) : ScheduleState :=
  { s with ticks := s.ticks.set i ⟨now, phase⟩ }

/-- `UPDATE script_schedules … WHERE id = ?` -/
def updateSchedule (s : ScheduleState) (id : ℕ) (f : ScheduleRow → ScheduleRow) (hf : ∀ r, (f r).id = r.id) :
    ScheduleState :=
  { s with tables :=
    { s.tables with
      schedules := modify ScheduleRow.id s.tables.schedules id f
      schedules_keyed := nodup_modify hf s.tables.schedules_keyed } }

def writeClock (host : ScheduleHost) (s : ScheduleState) (schedule : ScheduleRow) (now : ℤ) : ScheduleState :=
  s.updateSchedule schedule.id
    (fun r => { r with lastRunAt := some now, nextRunAt := computeNextRun host schedule now }) fun _ => rfl

def disable (s : ScheduleState) (schedule : ScheduleRow) : ScheduleState :=
  s.updateSchedule schedule.id (fun r => { r with enabled := false }) fun _ => rfl

def scheduleDevice (s : ScheduleState) (d : TargetDevice) : ScheduleDevice :=
  ⟨d.id, s.tables.privacyModeEnabled d.id, s.tables.column d.id⟩

/-- The query for the devices of a schedule, after the one for the closure. -/
def targetDevices (host : Host) (s : ScheduleState) (schedule : ScheduleRow) (groups : TargetDb) :
    Option (List ScheduleDevice) :=
  let db := { s.tables.db with closure := groups.closure, ancestor_pos := groups.ancestor_pos }
  (resolveTargetDevices host db schedule.tenantId schedule.targetType schedule.targetIds).map fun devices =>
    devices.map s.scheduleDevice

/-- The row of `script_executions`, unless the script is gone or hidden. -/
def dispatchExecution (s : ScheduleState) (schedule : ScheduleRow) (now : ℤ) (device : ScheduleDevice) :
    ScheduleState :=
  if (scriptVisibleToTenant s.tables.scripts schedule.scriptId schedule.tenantId).isSome then
    { s with
      tables := { s.tables with executions := s.tables.executions ++ [⟨some schedule.id, device.id, .pending⟩] }
      created := s.created ++ creations schedule now device.id }
  else s

end ScheduleState

/-- The next statement of the `i`-th pass; `none` where it can only throw. -/
def runTick (host : ScheduleHost) (s : ScheduleState) (i : ℕ) : Option ScheduleState :=
  s.ticks[i]?.bind fun t =>
    match t.phase with
    | .read => some (s.setPhase i t.now (.rows (s.tables.schedules.filter (isDue t.now))))
    | .rows [] => none
    | .rows (schedule :: rest) => some (s.setPhase i t.now (.targets schedule s.tables.db rest))
    | .targets schedule groups rest =>
        (s.targetDevices host.toHost schedule groups).map fun devices =>
          s.setPhase i t.now (.inFlight schedule devices rest)
    | .inFlight schedule devices rest =>
        let free := devices.filter fun d => !isInFlight s.tables.executions schedule d.id
        some (s.setPhase i t.now (.devices schedule free rest))
    | .devices schedule (device :: devices) rest =>
        (mayRun host schedule device).map fun runs =>
          (if runs then s.dispatchExecution schedule t.now device else s).setPhase i t.now
            (.devices schedule devices rest)
    | .devices schedule [] rest =>
        if catchupThrows host schedule t.now then none
        else
          some ((s.writeClock host schedule t.now).setPhase i t.now
            (if schedule.fireOnceAt.isSome then .disable schedule rest else .rows rest))
    | .disable schedule rest => some ((s.disable schedule).setPhase i t.now (.rows rest))

/-- The same statement throws: `runSchedule` gives up its row. -/
def throwTick (s : ScheduleState) (i : ℕ) : Option ScheduleState :=
  s.ticks[i]?.bind fun t =>
    match t.phase with
    | .read => some (s.setPhase i t.now (.rows []))
    | .rows [] => none
    | .rows (_ :: rest) | .targets _ _ rest | .inFlight _ _ rest | .devices _ _ rest | .disable _ rest =>
        some (s.setPhase i t.now (.rows rest))

inductive ScheduleOp where
  /-- The timer. -/
  | tick (now : ℤ)
  | run (i : ℕ)
  | throws (i : ℕ)
  /-- Agents finish, users edit, other services write. -/
  | others (tables : ScheduleTables)
  | restart

def scheduleStep (host : ScheduleHost) (s : ScheduleState) : ScheduleOp → Option ScheduleState
  | .tick now => some { s with ticks := s.ticks ++ [⟨now, .read⟩] }
  | .run i => runTick host s i
  | .throws i => throwTick s i
  | .others tables => some { s with tables := tables }
  | .restart => some { s with ticks := [] }

/-- Any database, and a server that just started. -/
def scheduleMachine (host : ScheduleHost) : Machine ScheduleState ScheduleOp where
  init s := s.ticks = [] ∧ s.created = []
  step := scheduleStep host

/-- **Each occurrence of a schedule makes at most one execution for a device.** -/
def CreatesOnce (s : ScheduleState) : Prop := s.created.Nodup

instance (s : ScheduleState) : Decidable (CreatesOnce s) := inferInstanceAs (Decidable (List.Nodup _))

end Obliance.Schedules

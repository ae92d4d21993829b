import Obliance.Db.Int4
import Obliance.Groups.Tables
import Obliance.Scenario.Writes

/-!
# The scenario cron (`services/scenarioGraphCron.service.ts`)

Every cron trigger node has its own clock, `next_cron_run_at`. A tick reads the due nodes, starts a run on
each target device of each, and writes the clock of a node when its runs are started.

* `toDbId`, `resolveTargetDevices` : the devices of a due node;
* `CronTables` : the tables of the engine, with the columns only the cron reads;
* `runTick` : the next statement of a tick, `throwTick` the same when it throws;
* `cronMachine` : ticks that start and go on in any order, restarts, and whatever the rest of the server
  writes in between; `exists_tables_of_engineStep` the engine is part of that.
-/

namespace Obliance.Scenario
open GuardedRun KeyedTable Numerals Obliance.Js Obliance.Db Obliance.Groups Obliance.Commands

/-! ## Ids (`utils/dbId.ts`) -/

/-- A positive `integer`, or a text of at most ten digits that is one. -/
def toDbId : JsVal → Option ℕ
  | .num q => if q.den = 1 ∧ 0 < q.num ∧ q.num ≤ int4Max then some q.num.toNat else none
  | .str s =>
      if 1 ≤ s.length ∧ s.length ≤ 10 then
        (readDigits 10 0 s.toList).filter fun n => decide (0 < n ∧ (n : ℤ) ≤ int4Max)
      else none
  | .undefined | .null | .bool _ | .obj _ => none

def validDbIds (values : List JsVal) : List ℕ := values.filterMap toDbId

/-! ## Tables -/

/-- `cron-parser`: the first firing strictly after a time, `none` when the expression is refused. -/
structure CronParser where
  next : String → String → ℤ → Option ℤ
  next_gt : ∀ expression timezone after time, next expression timezone after = some time → after < time

/-- `cron-parser` on `* * * * *`. -/
def everyMinute : CronParser where
  next expression _ after := if expression = "* * * * *" then some ((after / 60000 + 1) * 60000) else none
  next_gt expression timezone after time h := by
    split_ifs at h
    obtain rfl := Option.some.inj h
    omega

/-- The columns of `scenarios` the engine does not read, `targetIds` by the entries of the array. -/
structure ScenarioColumns where
  active : Bool
  targetType : String
  targetIds : List JsVal

/-- The tables with their keys; the ids of nodes come from a sequence. -/
structure CronTables where
  engine : EngineState
  /-- By the id of the scenario, of the device. -/
  columns : ℕ → ScenarioColumns
  approved : ℕ → Bool
  closure : List ClosureRow
  nextNodeId : ℕ
  devices_keyed : Keyed EngineDevice.id engine.db.devices
  nodes_keyed : Keyed NodeRow.id engine.db.nodes
  nodes_below : ∀ n ∈ engine.db.nodes, n.id < nextNodeId

def CronTables.hasNode (tables : CronTables) (id : ℕ) : Prop := ∃ n ∈ tables.engine.db.nodes, n.id = id

instance (tables : CronTables) (id : ℕ) : Decidable (tables.hasNode id) :=
  inferInstanceAs (Decidable (∃ n ∈ tables.engine.db.nodes, n.id = id))

/-- The tables with another state of the engine over the same database. -/
def CronTables.withEngine (tables : CronTables) (engine : EngineState) (h : engine.db = tables.engine.db) :
    CronTables :=
  { tables with
    engine := engine
    devices_keyed := h ▸ tables.devices_keyed
    nodes_keyed := h ▸ tables.nodes_keyed
    nodes_below := h ▸ tables.nodes_below }

/-- Later tables: nodes are edited, deleted and inserted, no id of the sequence is used again. -/
def CronTables.Precedes (tables tables' : CronTables) : Prop :=
  tables.nextNodeId ≤ tables'.nextNodeId ∧
    ∀ n ∈ tables'.engine.db.nodes, tables.hasNode n.id ∨ tables.nextNodeId ≤ n.id

instance (tables tables' : CronTables) : Decidable (tables.Precedes tables') :=
  inferInstanceAs (Decidable (_ ∧ _))

/-- A row of the query of a tick, its configuration read with the defaults. -/
structure DueNode where
  nodeId : ℕ
  expression : String
  timezone : String
  nextCronRunAt : Option ℤ
  scenarioId : ℕ
  tenantId : ℕ
  targetType : String
  targetIds : List JsVal

/-- Where a tick is: the statement it runs next, and the rows it has still to deal with. -/
inductive TickPhase where
  /-- The query for the due nodes. -/
  | read
  | rows (rows : List DueNode)
  /-- `fireOneNode`, before the target devices are read; the groups of a group target are. -/
  | targets (row : DueNode) (groupIds : List ℕ) (rest : List DueNode)
  /-- `fireOneNode`, with the devices still to start a run on. -/
  | devices (row : DueNode) (deviceIds : List ℕ) (rest : List DueNode)

structure Tick where
  now : ℤ
  phase : TickPhase

/-- A run the cron started: for which occurrence of which node, and where. -/
structure CronStart where
  nodeId : ℕ
  occurrence : ℤ
  deviceId : ℕ
  runId : ℕ
  deriving DecidableEq, Repr

structure CronState where
  tables : CronTables
  /-- By the id of the node. -/
  nextCronRunAt : ℕ → Option ℤ
  lastCronFireAt : ℕ → Option ℤ
  /-- In memory: the ticks. -/
  ticks : List Tick
  /-- The runs the cron started. Nothing reads these. -/
  started : List CronStart

/-! ## The statements -/

def CronState.isDue (s : CronState) (now : ℤ) (id : ℕ) : Bool := (s.nextCronRunAt id).all (· ≤ now)

/-- A node of the join, as the query returns it. -/
def dueNode (s : CronState) (now : ℤ) (n : NodeRow) : Option DueNode :=
  (s.tables.engine.db.scenario n.scenarioId).bind fun scenario =>
    let columns := s.tables.columns scenario.id
    if n.type = .trigger .scheduleCron ∧ columns.active ∧ s.isDue now n.id then
      some {
        nodeId := n.id
        expression := (n.config.cronExpression.filter (· ≠ "")).getD "0 0 * * *"
        timezone := (n.config.timezone.filter (· ≠ "")).getD "UTC"
        nextCronRunAt := s.nextCronRunAt n.id
        scenarioId := scenario.id
        tenantId := scenario.tenantId
        targetType := columns.targetType
        targetIds := columns.targetIds }
    else none

def dueNodes (s : CronState) (now : ℤ) : List DueNode :=
  s.tables.engine.db.nodes.filterMap (dueNode s now)

def groupsBelow (closure : List ClosureRow) (groupIds : List ℕ) : List ℕ :=
  groupIds ++ (closure.filter fun r => decide (r.ancestorId ∈ groupIds)).map ClosureRow.descendantId

/-- The devices of a row; `groupIds` are the groups of a group target. -/
def resolveTargetDevices (tables : CronTables) (row : DueNode) (groupIds : List ℕ) : List ℕ :=
  let approved := tables.engine.db.devices.filter fun d =>
    decide (d.tenantId = row.tenantId ∧ d.status ≠ "pending_uninstall") && tables.approved d.id
  match row.targetType with
  | "all" => approved.map EngineDevice.id
  | "device" => validDbIds row.targetIds
  | "group" => (approved.filter fun d => d.groupId.any (· ∈ groupIds)).map EngineDevice.id
  | _ => []

def nextRunFromExpression (parser : CronParser) (expression timezone : String) (after : ℤ) : ℤ :=
  (parser.next expression timezone after).getD (after + 24 * 60 * 60 * 1000)

def cronOpts (row : DueNode) : StartOpts :=
  ⟨some ("cron:" ++ row.expression), some row.nodeId, none, false⟩

/-- The id `startRun` returns, `none` when it throws or returns ''. -/
def startedRunId (s : EngineState) (scenarioId deviceId : ℕ) (opts : StartOpts) (denial : Option String) :
    Option ℕ :=
  (s.db.scenario scenarioId).bind fun scenario =>
    if (get EngineDevice.id s.db.devices deviceId).any EngineDevice.privacyModeEnabled &&
        !scenario.bypassPrivacyMode then none
    else if denial.isSome then none
    else (entryNode s.db scenarioId opts).map fun _ => s.nextId

/-- `startRun` inserts the run whose id it returns, or else at most a cancelled one. -/
theorem startRun_runs (s : EngineState) (scenarioId deviceId : ℕ) (opts : StartOpts) (denial : Option String)
    (record : Bool) :
    match startedRunId s scenarioId deviceId opts denial with
    | some id => ∃ run, (startRun s scenarioId deviceId opts denial record).runs = s.runs ++ [run] ∧
        run.id = id ∧ run.scenarioId = scenarioId ∧ run.deviceId = deviceId ∧ run.status = .running
    | none => ∀ run ∈ (startRun s scenarioId deviceId opts denial record).runs,
        run ∈ s.runs ∨ run.status = .cancelled := by
  unfold startedRunId startRun
  cases hscenario : s.db.scenario scenarioId with
  | none => exact fun run hrun => .inl hrun
  | some scenario =>
      have hid : scenario.id = scenarioId := key_of_get hscenario
      dsimp only [Option.bind_some]
      by_cases hprivate : ((get EngineDevice.id s.db.devices deviceId).any EngineDevice.privacyModeEnabled &&
          !scenario.bypassPrivacyMode) = true
      · simp only [if_pos hprivate]
        exact fun run hrun => .inl hrun
      · simp only [if_neg hprivate]
        cases denial with
        | some message =>
            intro run hrun
            cases record with
            | false => exact .inl hrun
            | true =>
                rcases List.mem_append.1 hrun with hrun | hrun
                · exact .inl hrun
                · obtain rfl := List.mem_singleton.1 hrun
                  exact .inr rfl
        | none =>
            cases entryNode s.db scenarioId opts with
            | none => exact fun run hrun => .inl hrun
            | some entry =>
                obtain ⟨id, behind⟩ := entry
                refine ⟨newRun s scenario deviceId opts .running none, ?_, rfl, hid, rfl, rfl⟩
                cases behind with
                | false => rfl
                | true =>
                    dsimp only
                    cases pickNextEdge s.db.edges scenarioId id none <;> rfl

namespace CronState

def setPhase (s : CronState) (i : ℕ) (now : ℤ) (phase : TickPhase) : CronState :=
  { s with ticks := s.ticks.set i ⟨now, phase⟩ }

/-- `UPDATE scenario_nodes SET next_cron_run_at = ?, last_cron_fire_at = ? WHERE id = ?` -/
def writeClock (s : CronState) (nodeId : ℕ) (next : ℤ) (fired : Option ℤ) : CronState :=
  if s.tables.hasNode nodeId then
    { s with
      nextCronRunAt := Function.update s.nextCronRunAt nodeId (some next)
      lastCronFireAt := Function.update s.lastCronFireAt nodeId fired }
  else s

/-- `startRun` for a device of a row. `denial` is the answer of `accountableUserDenial`. -/
def fire (s : CronState) (row : DueNode) (deviceId : ℕ) (denial : Option String) (record : Bool) :
    CronState :=
  let engine := s.tables.engine
  { s with
    tables := s.tables.withEngine (startRun engine row.scenarioId deviceId (cronOpts row) denial record)
      startRun_db
    started := s.started ++
      ((startedRunId engine row.scenarioId deviceId (cronOpts row) denial).bind fun runId =>
        row.nextCronRunAt.map fun occurrence => ⟨row.nodeId, occurrence, deviceId, runId⟩).toList }

end CronState

/-- The next statement of the `i`-th tick. -/
def runTick (parser : CronParser) (s : CronState) (i : ℕ) (denial : Option String) (record : Bool) :
    Option CronState :=
  s.ticks[i]?.bind fun t =>
    match t.phase with
    | .read => some (s.setPhase i t.now (.rows (dueNodes s t.now)))
    | .rows [] => none
    | .rows (row :: rest) =>
        let groupIds :=
          if row.targetType = "group" then groupsBelow s.tables.closure (validDbIds row.targetIds) else []
        some (s.setPhase i t.now (.targets row groupIds rest))
    | .targets row groupIds rest =>
        -- a node that was never primed starts no run
        let deviceIds :=
          if row.nextCronRunAt.isSome then resolveTargetDevices s.tables row groupIds else []
        some (s.setPhase i t.now (.devices row deviceIds rest))
    | .devices row (deviceId :: deviceIds) rest =>
        some ((s.fire row deviceId denial record).setPhase i t.now (.devices row deviceIds rest))
    | .devices row [] rest =>
        some ((s.writeClock row.nodeId (nextRunFromExpression parser row.expression row.timezone t.now)
          (if row.nextCronRunAt.isSome then some t.now else none)).setPhase i t.now (.rows rest))

/-- The same statement throws: the tick goes on with the next device or the next row. -/
def throwTick (s : CronState) (i : ℕ) : Option CronState :=
  s.ticks[i]?.bind fun t =>
    match t.phase with
    | .read => some (s.setPhase i t.now (.rows []))
    | .rows [] => none
    | .rows (_ :: rest) => some (s.setPhase i t.now (.rows rest))
    | .targets _ _ rest => some (s.setPhase i t.now (.rows rest))
    | .devices row (_ :: deviceIds) rest => some (s.setPhase i t.now (.devices row deviceIds rest))
    | .devices _ [] rest => some (s.setPhase i t.now (.rows rest))

/-- The rest of the server writes; a new node has no clock. -/
def otherWrites (s : CronState) (tables : CronTables) : CronState :=
  let kept := fun (column : ℕ → Option ℤ) (id : ℕ) =>
    if s.tables.hasNode id ∧ tables.hasNode id then column id else none
  { s with
    tables := tables
    nextCronRunAt := kept s.nextCronRunAt
    lastCronFireAt := kept s.lastCronFireAt }

inductive CronOp where
  /-- The timer of the cron, or its first pass after a start. -/
  | tick (now : ℤ)
  | run (i : ℕ) (denial : Option String) (record : Bool)
  | throws (i : ℕ)
  | others (tables : CronTables)
  | restart

def cronStep (parser : CronParser) (s : CronState) : CronOp → Option CronState
  | .tick now => some { s with ticks := s.ticks ++ [⟨now, .read⟩] }
  | .run i denial record => runTick parser s i denial record
  | .throws i => throwTick s i
  | .others tables => if s.tables.Precedes tables then some (otherWrites s tables) else none
  | .restart => some { s with tables := s.tables.withEngine (restart s.tables.engine) rfl, ticks := [] }

/-- Any database, and a server that just started. -/
def cronMachine (parser : CronParser) : Machine CronState CronOp where
  init s := s.ticks = [] ∧ s.started = []
  step := cronStep parser

/-- **Each occurrence of a node starts at most one run on a device.** -/
def FiresOnce (s : CronState) : Prop :=
  (s.started.map fun e => (e.nodeId, e.occurrence, e.deviceId)).Nodup

instance (s : CronState) : Decidable (FiresOnce s) := inferInstanceAs (Decidable (List.Nodup _))

/-! ## The engine is one of the others -/

/-- The rows of nodes and devices are those that were there. -/
def SameRows (db db' : GraphDb) : Prop :=
  db'.nodes = db.nodes ∧ db'.devices.map EngineDevice.id = db.devices.map EngineDevice.id

theorem SameRows.of_rewrites {db db' : GraphDb} (h : Rewrites db db') : SameRows db db' := by
  obtain ⟨f, cooldowns, hf, rfl⟩ := h
  exact ⟨rfl, map_key_map fun d => (hf d).1⟩

/-- Every step of the engine is one that the cron allows for. -/
theorem exists_tables_of_engineStep {tables : CronTables} {op : EngineOp} {engine : EngineState}
    (h : engineStep tables.engine op = some engine) (hop : ∀ db, op ≠ .edit db) :
    ∃ tables' : CronTables, tables'.engine = engine ∧ tables.Precedes tables' := by
  obtain ⟨hnodes, hdevices⟩ := SameRows.of_rewrites (engineStep_rewrites h hop)
  refine ⟨{ tables with
    engine := engine
    devices_keyed := ?_
    nodes_keyed := hnodes ▸ tables.nodes_keyed
    nodes_below := hnodes ▸ tables.nodes_below }, rfl, le_rfl, ?_⟩
  · rw [Keyed, hdevices]
    exact tables.devices_keyed
  · intro n hn
    exact .inl ⟨n, hnodes ▸ hn, rfl⟩

end Obliance.Scenario

import Mathlib.Data.List.Infix
import Obliance.Lib.GuardedRun
import Obliance.Scenario.Executors

/-!
# The graph engine as a machine (`services/scenarioGraph.service.ts`)

The engine is event-driven: a task runs one statement, or the statements between two whose results it
uses, and other tasks, acks, timers, edits and restarts come in between.

* `Thread` : where a task of the engine is; `runThread` its next statement;
* `startAck` : `handleNodeCommandAck` up to its first wait, with the tally of a fan-out;
* `engineMachine` : runs that start and are cancelled, acks, the cleanup of expired commands, wait
  timers, restarts and their re-arming, in any order.
-/

namespace Obliance.Scenario
open GuardedRun KeyedTable Obliance.Commands

inductive NodeRunStatus where
  | running
  | success
  | failed
  | skipped
  | cancelled
  deriving DecidableEq, Repr

/-- The status `_completeNode` writes. -/
inductive NodeOutcome where
  | success
  | failed
  | skipped
  deriving DecidableEq, Repr

def NodeOutcome.status : NodeOutcome → NodeRunStatus
  | .success => .success
  | .failed => .failed
  | .skipped => .skipped

structure NodeResult where
  exitCode : Option ℤ
  stdout : Option String
  stderr : Option String
  errorMessage : Option String
  deriving DecidableEq, Repr

def NodeResult.exit (exitCode : Option ℤ) : NodeResult := ⟨exitCode, none, none, none⟩

/-- A row of `scenario_node_runs`. -/
structure NodeRunRow where
  id : ℕ
  runId : ℕ
  nodeId : ℕ
  nodeType : NodeType
  status : NodeRunStatus
  result : NodeResult
  startedAt : ℤ
  finishedAt : Option ℤ
  deriving DecidableEq, Repr

structure PendingFanOut where
  expected : ℕ
  received : ℕ
  worstExit : Option ℤ
  stdouts : List String
  stderrs : List String
  deriving DecidableEq, Repr

/-- The run, the node and the node run a task works on. -/
structure Visit where
  runId : ℕ
  nodeId : ℕ
  nodeRunId : ℕ
  deriving DecidableEq, Repr

/-- What follows `_completeNode`. -/
inductive Next where
  | advance
  | succeed
  | fail (message : String)
  deriving DecidableEq, Repr

/-- Where a task is: the statement it runs next, and what it has read. `byAck` tells the tasks of
`handleNodeCommandAck` from those of `executeNode`. -/
inductive Thread where
  /-- `handleNodeCommandAck`, past the tally. -/
  | ack (nodeRunId : ℕ) (result : NodeResult)
  /-- `_completeNode`, before the node run is written. -/
  | complete (v : Visit) (result : NodeResult) (outcome : NodeOutcome) (next : Next) (byAck : Bool)
  /-- `_completeNode`, before the result is mirrored on the run. -/
  | mirror (v : Visit) (result : NodeResult) (next : Next) (byAck : Bool)
  /-- `_advance` -/
  | advance (v : Visit) (exitCode : Option ℤ) (byAck : Bool)
  /-- `executeNode`; `cause` is the node run an ack resumed, if one did. -/
  | execute (runId nodeId : ℕ) (cause : Option ℕ)
  | executor (run : RunRow) (node : NodeRow) (nodeRunId : ℕ)
  /-- The cooldown executor, before its upsert. -/
  | stamp (run : RunRow) (node : NodeRow) (nodeRunId : ℕ)
  | enqueue (run : RunRow) (node : NodeRow) (nodeRunId : ℕ) (command : CommandTemplate) (targets : List ℕ)
  /-- `markRunSuccess`, or `markRunFailure` with its message. -/
  | mark (runId : ℕ) (failure : Option String)
  /-- `cancelRun`, past its check. -/
  | cancelRun (runId : ℕ)
  | cancelNodes (runId : ℕ)
  | cancelCommands (nodeRunIds : List ℕ)
  | done

structure EngineState where
  db : GraphDb
  runs : List RunRow
  nodeRuns : List NodeRunRow
  commands : List CommandRow
  nextId : ℕ
  /-- In memory: `pendingFanOuts`, the timers of `wait` nodes, the expired commands whose engine has
  not been told, the tasks. -/
  fanOuts : ℕ → Option PendingFanOut
  timers : List ℕ
  timedOut : List ℕ
  threads : List Thread
  /-- Whether `rearmWaitTimersOnBoot` has run since the last restart. -/
  rearmed : Bool
  /-- The node runs `handleNodeCommandAck` completed, those it advanced, and those a node was executed
  for. Nothing reads these. -/
  completed : List ℕ
  advanced : List ℕ
  caused : List ℕ

namespace EngineState

def run (s : EngineState) (id : ℕ) : Option RunRow := get RunRow.id s.runs id

def nodeRun (s : EngineState) (id : ℕ) : Option NodeRunRow := get NodeRunRow.id s.nodeRuns id

def setThread (s : EngineState) (i : ℕ) (t : Thread) : EngineState :=
  { s with threads := s.threads.set i t }

def spawn (s : EngineState) (t : Thread) : EngineState := { s with threads := s.threads ++ [t] }

def modifyRun (s : EngineState) (id : ℕ) (f : RunRow → RunRow) : EngineState :=
  { s with runs := KeyedTable.modify RunRow.id s.runs id f }

def modifyNodeRun (s : EngineState) (id : ℕ) (f : NodeRunRow → NodeRunRow) : EngineState :=
  { s with nodeRuns := KeyedTable.modify NodeRunRow.id s.nodeRuns id f }

end EngineState

open EngineState

/-! ## Acks -/

def PendingFanOut.receive (p : PendingFanOut) (r : NodeResult) : PendingFanOut :=
  { p with
    received := p.received + 1
    worstExit := match r.exitCode, p.worstExit with
      | none, w => w
      | some code, none => some code
      | some code, some w => if w < code then some code else some w
    stdouts := p.stdouts ++ (r.stdout.filter (· ≠ "")).toList
    stderrs := p.stderrs ++ (r.stderr.filter (· ≠ "")).toList }

def joinOutputs (outputs : List String) : Option String :=
  if outputs.isEmpty then none else some (String.intercalate "\n--- device boundary ---\n" outputs)

def PendingFanOut.result (p : PendingFanOut) : NodeResult :=
  ⟨p.worstExit, joinOutputs p.stdouts, joinOutputs p.stderrs, none⟩

/-- `handleNodeCommandAck` up to its first wait: an ack of a fan-out is counted, the last one goes on. -/
def startAck (s : EngineState) (nodeRunId : ℕ) (r : NodeResult) : EngineState :=
  match s.fanOuts nodeRunId with
  | none => s.spawn (.ack nodeRunId r)
  | some p =>
      let p := p.receive r
      if p.received < p.expected then
        { s with fanOuts := Function.update s.fanOuts nodeRunId (some p) }
      else
        { (s.spawn (.ack nodeRunId p.result)) with
          fanOuts := Function.update s.fanOuts nodeRunId none }

/-- `processAcks` for one ack: the queue, then the node run of a `scenario_node` command. -/
def ackCommand (s : EngineState) (deviceId : ℕ) (a : Ack) (now : ℤ) : EngineState :=
  match a.commandId with
  | .other _ => s
  | .uuid id _ =>
      let s := { s with commands := updateQueue s.commands deviceId id a now }
      match get CommandRow.id s.commands id with
      | none => s
      | some row =>
          match row.sourceType, row.sourceId with
          | some .scenarioNode, some nodeRunId =>
              if a.status.isTerminal then
                startAck s nodeRunId ⟨some a.exitCode, some a.stdout, some a.stderr, none⟩
              else s
          | _, _ => s

/-- The cleanup job's update: pending and sent commands past their expiry. -/
def expireCommands (s : EngineState) (now : ℤ) : EngineState :=
  let hit : CommandRow → Bool := fun r =>
    r.expiresAt.any (· < now) && decide (r.status = .pending ∨ r.status = .sent)
  { s with
    commands := s.commands.map fun r =>
      if hit r then { r with status := .timeout, finishedAt := some now } else r
    timedOut := s.timedOut ++ (s.commands.filter hit).map CommandRow.id }

/-- The synthetic ack of an expired command. -/
def notifyTimeout (s : EngineState) : Option EngineState :=
  match s.timedOut with
  | [] => none
  | id :: rest =>
      let s := { s with timedOut := rest }
      match get CommandRow.id s.commands id with
      | none => some s
      | some row =>
          match row.sourceType, row.sourceId with
          | some .scenarioNode, some nodeRunId =>
              some (startAck s nodeRunId ⟨some (-1), none, some
                "Command timed out — agent never acknowledged within the configured timeout window.", none⟩)
          | _, _ => some s

/-! ## The statements of a task -/

def maxNodeVisits : ℕ := 100

/-- `run.trigger_source.includes('__single_node')` -/
def isSingleNode (run : RunRow) : Bool :=
  run.triggerSource.any fun src => decide ("__single_node".toList <:+: src.toList)

/-- An executor threw: the node run and the run fail. -/
def failNode (v : Visit) (node : NodeRow) (message : String) : Thread :=
  .complete v ⟨none, none, none, some message⟩ .failed
    (.fail ("Node \"" ++ nodeName node ++ "\" failed: " ++ message)) false

/-- `executeNode` up to its executor. -/
def executeNode (s : EngineState) (i runId nodeId : ℕ) (cause : Option ℕ) (now : ℤ) : EngineState :=
  match s.run runId with
  | none => s.setThread i .done
  | some run =>
      if run.status ≠ .running then s.setThread i .done
      else match s.db.node nodeId with
        | none => s.setThread i (.mark runId (some ("Node " ++ toString nodeId ++ " not found")))
        | some node =>
            let visits := Function.update run.visitCounts nodeId (run.visitCounts nodeId + 1)
            if maxNodeVisits < visits nodeId then
              s.setThread i (.mark runId (some ("Node \"" ++ nodeName node ++ "\" visited " ++
                toString maxNodeVisits ++ "+ times — likely cycle")))
            else
              let s := s.modifyRun runId fun r => { r with currentNodeId := some nodeId, visitCounts := visits }
              { (s.setThread i (.executor run node s.nextId)) with
                nodeRuns := s.nodeRuns ++
                  [⟨s.nextId, runId, nodeId, node.type, .running, .exit none, now, none⟩]
                nextId := s.nextId + 1
                caused := s.caused ++ cause.toList }

/-- The executor, up to its first wait. -/
def runExecutor (s : EngineState) (i : ℕ) (run : RunRow) (node : NodeRow) (nodeRunId : ℕ) (now : ℤ) :
    EngineState :=
  let v : Visit := ⟨run.id, node.id, nodeRunId⟩
  match startExecutor s.db run node now with
  | none =>
      let message := "Unsupported node type: " ++ nodeTypeName node.type
      s.setThread i (.complete v ⟨none, none, none, some message⟩ .failed (.fail message) false)
  | some (db, step) =>
      let s := { s with db := db }
      match step with
      | .done exitCode => s.setThread i (.complete v (.exit exitCode) .success .advance false)
      | .terminate true exitCode message =>
          s.setThread i (.complete v ⟨exitCode, message, none, none⟩ .success .succeed false)
      | .terminate false exitCode message =>
          s.setThread i (.complete v ⟨exitCode, none, none, message⟩ .failed
            (.fail (message.getD "Scenario ended in failure node")) false)
      | .sleep _ => { (s.setThread i .done) with timers := s.timers ++ [nodeRunId] }
      | .pass => s.setThread i (.stamp run node nodeRunId)
      | .enqueue command targets =>
          let s := s.setThread i (.enqueue run node nodeRunId command targets)
          let pending : PendingFanOut := ⟨targets.length, 0, none, [], []⟩
          if 1 < targets.length then
            { s with fanOuts := Function.update s.fanOuts nodeRunId (some pending) }
          else s
      | .throws message => s.setThread i (failNode v node message)

/-- `commandService.enqueue` for a target of a node. -/
def enqueueCommand (s : EngineState) (run : RunRow) (nodeRunId deviceId : ℕ) (command : CommandTemplate)
    (now : ℤ) : EngineState :=
  { s with
    commands := s.commands ++ [
      { id := s.nextId
        deviceId := deviceId
        tenantId := run.tenantId
        type := command.type
        payload := command.payload
        status := .pending
        ackedAt := none
        finishedAt := none
        expiresAt :=
          if command.expiresInSeconds = 0 then none else some (now + command.expiresInSeconds * 1000)
        result := none
        sourceType := some .scenarioNode
        sourceId := some nodeRunId }]
    nextId := s.nextId + 1 }

/-- `handleNodeCommandAck`, past the tally: the node run and its run are read and checked. -/
def readAck (s : EngineState) (i nodeRunId : ℕ) (r : NodeResult) : EngineState :=
  match s.nodeRun nodeRunId with
  | none => s.setThread i .done
  | some nr =>
      match s.run nr.runId with
      | none => s.setThread i .done
      | some run =>
          if run.status ≠ .running then s.setThread i .done
          else s.setThread i (.complete ⟨nr.runId, nr.nodeId, nodeRunId⟩ r .success .advance true)

/-- `_completeNode`, the node run. -/
def writeNodeRun (s : EngineState) (i : ℕ) (v : Visit) (r : NodeResult) (outcome : NodeOutcome)
    (next : Next) (byAck : Bool) (now : ℤ) : EngineState :=
  { ((s.setThread i (.mirror v r next byAck)).modifyNodeRun v.nodeRunId fun nr =>
      { nr with status := outcome.status, result := r, finishedAt := some now }) with
    completed := s.completed ++ (if byAck then [v.nodeRunId] else []) }

def Next.thread (next : Next) (v : Visit) (exitCode : Option ℤ) (byAck : Bool) : Thread :=
  match next with
  | .advance => .advance v exitCode byAck
  | .succeed => .mark v.runId none
  | .fail message => .mark v.runId (some message)

/-- `_completeNode`, the run. -/
def mirrorResult (s : EngineState) (i : ℕ) (v : Visit) (r : NodeResult) (next : Next) (byAck : Bool) :
    EngineState :=
  (s.setThread i (next.thread v r.exitCode byAck)).modifyRun v.runId fun run =>
    { run with lastExitCode := r.exitCode, lastStdout := r.stdout, lastStderr := r.stderr }

/-- `_advance` -/
def advance (s : EngineState) (i : ℕ) (v : Visit) (exitCode : Option ℤ) (byAck : Bool) : EngineState :=
  let s := { s with advanced := s.advanced ++ (if byAck then [v.nodeRunId] else []) }
  match s.run v.runId with
  | none => s.setThread i .done
  | some run =>
      if isSingleNode run then s.setThread i (.mark v.runId none)
      else match pickNextEdge s.db.edges run.scenarioId v.nodeId exitCode with
        | none => s.setThread i (.mark v.runId none)
        | some e => s.setThread i (.execute v.runId e.targetNodeId (if byAck then some v.nodeRunId else none))

/-- `markRunSuccess`, `markRunFailure` -/
def markRun (s : EngineState) (runId : ℕ) (failure : Option String) : EngineState :=
  s.modifyRun runId fun run =>
    match failure with
    | none => { run with status := .success }
    | some message => { run with status := .failure, errorMessage := some message }

/-- The next statement of the `i`-th task, which is `t`. -/
def runTask (s : EngineState) (i : ℕ) (now : ℤ) (t : Thread) : Option EngineState :=
  match t with
  | .ack nodeRunId r => some (readAck s i nodeRunId r)
  | .complete v r outcome next byAck => some (writeNodeRun s i v r outcome next byAck now)
  | .mirror v r next byAck => some (mirrorResult s i v r next byAck)
  | .advance v exitCode byAck => some (advance s i v exitCode byAck)
  | .execute runId nodeId cause => some (executeNode s i runId nodeId cause now)
  | .executor run node nodeRunId => some (runExecutor s i run node nodeRunId now)
  | .stamp run node nodeRunId =>
      some { (s.setThread i (.complete ⟨run.id, node.id, nodeRunId⟩ (.exit (some 0)) .success .advance
        false)) with db := stampCooldown s.db run node now }
  | .enqueue run node nodeRunId command (target :: rest) =>
      some (enqueueCommand (s.setThread i (.enqueue run node nodeRunId command rest)) run nodeRunId target
        command now)
  | .enqueue _ _ _ _ [] => some (s.setThread i .done)
  | .mark runId failure => some (markRun (s.setThread i .done) runId failure)
  | .cancelRun runId =>
      some ((s.setThread i (.cancelNodes runId)).modifyRun runId fun run =>
        { run with status := .cancelled, errorMessage := some "Run cancelled by user" })
  | .cancelNodes runId =>
      let hit : NodeRunRow → Bool := fun nr => decide (nr.runId = runId ∧ nr.status = .running)
      some { (s.setThread i (.cancelCommands ((s.nodeRuns.filter hit).map NodeRunRow.id))) with
        nodeRuns := s.nodeRuns.map fun nr =>
          if hit nr then { nr with
            status := .cancelled
            result := { nr.result with errorMessage := some "Run cancelled by user" }
            finishedAt := some now }
          else nr }
  | .cancelCommands nodeRunIds =>
      some { (s.setThread i .done) with
        commands := s.commands.map fun r =>
          if r.sourceType = some .scenarioNode ∧ r.status = .pending ∧
              r.sourceId.any (fun id => decide (id ∈ nodeRunIds)) then { r with status := .cancelled }
          else r }
  | .done => none

def runThread (s : EngineState) (i : ℕ) (now : ℤ) : Option EngineState := s.threads[i]?.bind (runTask s i now)

/-- The task throws where it awaits: in its executor or between two commands. -/
def failThread (s : EngineState) (i : ℕ) (message : String) : Option EngineState :=
  match s.threads[i]? with
  | some (.executor run node nodeRunId) =>
      some (s.setThread i (failNode ⟨run.id, node.id, nodeRunId⟩ node message))
  | some (.stamp run node nodeRunId) =>
      some (s.setThread i (failNode ⟨run.id, node.id, nodeRunId⟩ node message))
  | some (.enqueue run node nodeRunId _ _) =>
      some (s.setThread i (failNode ⟨run.id, node.id, nodeRunId⟩ node message))
  | _ => none

/-! ## Runs, restarts and the machine -/

structure StartOpts where
  triggerSource : Option String
  triggerNodeId : Option ℕ
  startNodeId : Option ℕ
  singleNode : Bool
  deriving DecidableEq, Repr

def isTrigger (type : NodeType) : Bool :=
  match type with
  | .trigger _ => true
  | _ => false

/-- The node a run starts at, and whether it starts behind it; `none` when `startRun` throws. -/
def entryNode (db : GraphDb) (scenarioId : ℕ) (opts : StartOpts) : Option (ℕ × Bool) :=
  let nodeOf := fun (id : ℕ) => db.nodes.find? fun n => decide (n.id = id ∧ n.scenarioId = scenarioId)
  match opts.startNodeId.filter (· ≠ 0) with
  | some id => (nodeOf id).map fun n => (n.id, false)
  | none =>
      let trigger := ((opts.triggerNodeId.filter (· ≠ 0)).bind nodeOf).or
        (db.nodes.find? fun n => decide (n.scenarioId = scenarioId) && isTrigger n.type)
      trigger.map fun n => (n.id, true)

/-- A row of `scenario_runs`; `singleNode` is carried in its source. -/
def newRun (s : EngineState) (scenario : ScenarioRow) (deviceId : ℕ) (opts : StartOpts)
    (status : RunStatus) (errorMessage : Option String) : RunRow :=
  { id := s.nextId
    tenantId := scenario.tenantId
    scenarioId := scenario.id
    deviceId := deviceId
    triggerSource :=
      if opts.singleNode then some (opts.triggerSource.getD "" ++ "|__single_node") else opts.triggerSource
    status := status
    currentNodeId := none
    visitCounts := fun _ => 0
    lastExitCode := none
    lastStdout := none
    lastStderr := none
    errorMessage := errorMessage }

/-- `startRun` up to its first node. `denial` is the answer of `accountableUserDenial` (none for a
manual run), `record` whether the refusal is recorded. -/
def startRun (s : EngineState) (scenarioId deviceId : ℕ) (opts : StartOpts) (denial : Option String)
    (record : Bool) : EngineState :=
  match s.db.scenario scenarioId with
  | none => s
  | some scenario =>
      let isPrivate := (get EngineDevice.id s.db.devices deviceId).any EngineDevice.privacyModeEnabled
      let insert := fun (run : RunRow) => { s with runs := s.runs ++ [run], nextId := s.nextId + 1 }
      if isPrivate && !scenario.bypassPrivacyMode then s
      else match denial with
        | some message =>
            if record then insert (newRun s scenario deviceId { opts with singleNode := false } .cancelled
              (some message))
            else s
        | none =>
            let started := insert (newRun s scenario deviceId opts .running none)
            match entryNode s.db scenarioId opts with
            | none => s
            | some (id, false) => started.spawn (.execute s.nextId id none)
            | some (id, true) =>
                match pickNextEdge s.db.edges scenarioId id none with
                | none => started.spawn (.mark s.nextId (some "Trigger node has no outgoing edge"))
                | some e => started.spawn (.execute s.nextId e.targetNodeId none)

/-- `cancelRun` up to its first write. -/
def startCancel (s : EngineState) (runId tenantId : ℕ) : EngineState :=
  match s.run runId with
  | none => s
  | some run =>
      if run.tenantId = tenantId ∧ (run.status = .pending ∨ run.status = .running) then
        s.spawn (.cancelRun runId)
      else s

/-- The graph tables are edited; a deleted node takes its node runs along. -/
def editGraph (s : EngineState) (db : GraphDb) : EngineState :=
  { s with
    db := db
    nodeRuns := s.nodeRuns.filter fun nr => (db.node nr.nodeId).isSome
    runs := s.runs.map fun r => { r with currentNodeId := r.currentNodeId.filter fun id =>
      (db.node id).isSome } }

/-- The server stops and starts again: what was in memory is lost. -/
def restart (s : EngineState) : EngineState :=
  { s with
    fanOuts := fun _ => none
    timers := []
    timedOut := []
    threads := []
    rearmed := false }

/-- The node runs of `wait` nodes that a restart left running, each with its node. -/
def orphans (s : EngineState) : List (NodeRunRow × NodeRow) :=
  s.nodeRuns.filterMap fun nr =>
    match s.run nr.runId, s.db.node nr.nodeId with
    | some run, some node =>
        if run.status = .running ∧ run.currentNodeId = some nr.nodeId ∧ node.type = .wait ∧
            nr.status = .running ∧ nr.finishedAt = none then some (nr, node) else none
    | _, _ => none

def rearmWait (now : ℤ) (s : EngineState) (o : NodeRunRow × NodeRow) : EngineState :=
  if o.2.config.seconds.getD 0 * 1000 - (now - o.1.startedAt) ≤ 0 then startAck s o.1.id (.exit (some 0))
  else { s with timers := s.timers ++ [o.1.id] }

/-- `rearmWaitTimersOnBoot`, once after each restart. -/
def rearmWaitTimers (s : EngineState) (now : ℤ) : EngineState :=
  { ((orphans s).foldl (rearmWait now) s) with rearmed := true }

/-! ## What the operations can do -/

section Cases
variable {s t : EngineState}

/-- An ack is counted, or a task goes on with it. -/
theorem startAck_cases (s : EngineState) (nodeRunId : ℕ) (r : NodeResult) :
    (∃ fanOuts, startAck s nodeRunId r = { s with fanOuts := fanOuts }) ∨
      ∃ fanOuts result, startAck s nodeRunId r =
        { s with fanOuts := fanOuts, threads := s.threads ++ [.ack nodeRunId result] } := by
  unfold startAck
  split
  · exact .inr ⟨s.fanOuts, r, rfl⟩
  · dsimp only
    split
    · exact .inl ⟨_, rfl⟩
    · exact .inr ⟨_, _, rfl⟩

/-- The queue is updated, then a node run may be acked. -/
theorem ackCommand_cases (s : EngineState) (deviceId : ℕ) (a : Ack) (now : ℤ) :
    ackCommand s deviceId a now = s ∨
      ∃ id s', s' = { s with commands := updateQueue s.commands deviceId id a now } ∧
        (ackCommand s deviceId a now = s' ∨ ∃ nodeRunId r, ackCommand s deviceId a now = startAck s' nodeRunId r) := by
  unfold ackCommand
  split
  · exact .inl rfl
  · rename_i id _ _
    refine .inr ⟨id, _, rfl, ?_⟩
    dsimp only
    split
    · exact .inl rfl
    · split
      · split
        · exact .inr ⟨_, _, rfl⟩
        · exact .inl rfl
      · exact .inl rfl

theorem notifyTimeout_cases (h : notifyTimeout s = some t) :
    ∃ rest s', s' = { s with timedOut := rest } ∧ (t = s' ∨ ∃ nodeRunId r, t = startAck s' nodeRunId r) := by
  unfold notifyTimeout at h
  split at h
  · cases h
  · rename_i id rest _
    refine ⟨rest, _, rfl, ?_⟩
    dsimp only at h
    split at h
    · exact .inl (Option.some.inj h).symm
    · split at h
      · exact .inr ⟨_, _, (Option.some.inj h).symm⟩
      · exact .inl (Option.some.inj h).symm

/-- Nothing, a recorded refusal, or a run with its first task. -/
theorem startRun_cases (s : EngineState) (scenarioId deviceId : ℕ) (opts : StartOpts) (denial : Option String)
    (record : Bool) :
    startRun s scenarioId deviceId opts denial record = s ∨
      (∃ run, run.id = s.nextId ∧ startRun s scenarioId deviceId opts denial record =
        { s with runs := s.runs ++ [run], nextId := s.nextId + 1 }) ∨
      ∃ run th, run.id = s.nextId ∧
        ((∃ message, th = .mark s.nextId (some message)) ∨ ∃ nodeId, th = .execute s.nextId nodeId none) ∧
        startRun s scenarioId deviceId opts denial record =
          { s with runs := s.runs ++ [run], nextId := s.nextId + 1, threads := s.threads ++ [th] } := by
  unfold startRun
  split
  · exact .inl rfl
  · rename_i scenario _
    dsimp only
    split
    · exact .inl rfl
    · split
      · rename_i message
        split
        · exact .inr (.inl ⟨newRun s scenario deviceId { opts with singleNode := false } .cancelled (some message),
            rfl, rfl⟩)
        · exact .inl rfl
      · split
        · exact .inl rfl
        · exact .inr (.inr ⟨newRun s scenario deviceId opts .running none, _, rfl, .inr ⟨_, rfl⟩, rfl⟩)
        · split
          · exact .inr (.inr ⟨newRun s scenario deviceId opts .running none, _, rfl, .inl ⟨_, rfl⟩, rfl⟩)
          · exact .inr (.inr ⟨newRun s scenario deviceId opts .running none, _, rfl, .inr ⟨_, rfl⟩, rfl⟩)

/-- Each orphaned `wait` is acked or gets a timer: what relates these steps relates the whole re-arming. -/
theorem rearmWaitTimers_induction {R : EngineState → EngineState → Prop} (hrefl : ∀ s, R s s)
    (htrans : ∀ {s t u}, R s t → R t u → R s u) (hack : ∀ s nodeRunId r, R s (startAck s nodeRunId r))
    (htimers : ∀ (s : EngineState) timers rearmed, R s { s with timers := timers, rearmed := rearmed })
    (s : EngineState) (now : ℤ) : R s (rearmWaitTimers s now) := by
  have hfold : ∀ (os : List (NodeRunRow × NodeRow)) (s : EngineState), R s (os.foldl (rearmWait now) s) := by
    intro os
    induction os with
    | nil => exact hrefl
    | cons o os ih =>
        intro s
        refine htrans ?_ (ih _)
        unfold rearmWait
        split
        · exact hack s _ _
        · exact htimers s _ s.rearmed
  exact htrans (hfold _ s) (htimers _ _ true)

end Cases

inductive EngineOp where
  | startRun (scenarioId deviceId : ℕ) (opts : StartOpts) (denial : Option String) (record : Bool)
  | run (i : ℕ) (now : ℤ)
  | fail (i : ℕ) (message : String)
  | ack (deviceId : ℕ) (a : Ack) (now : ℤ)
  | expire (now : ℤ)
  | notifyTimeout
  /-- The timer of a `wait` node fires. -/
  | fire (nodeRunId : ℕ)
  | cancelRun (runId tenantId : ℕ)
  | edit (db : GraphDb)
  | restart
  | rearm (now : ℤ)
  deriving DecidableEq, Repr

def engineStep (s : EngineState) : EngineOp → Option EngineState
  | .startRun scenarioId deviceId opts denial record =>
      some (startRun s scenarioId deviceId opts denial record)
  | .run i now => runThread s i now
  | .fail i message => failThread s i message
  | .ack deviceId a now => some (ackCommand s deviceId a now)
  | .expire now => some (expireCommands s now)
  | .notifyTimeout => notifyTimeout s
  | .fire nodeRunId =>
      if nodeRunId ∈ s.timers then
        some (startAck { s with timers := s.timers.erase nodeRunId } nodeRunId (.exit (some 0)))
      else none
  | .cancelRun runId tenantId => some (startCancel s runId tenantId)
  | .edit db => some (editGraph s db)
  | .restart => some (restart s)
  | .rearm now => if s.rearmed then none else some (rearmWaitTimers s now)

/-- Any database in which ids are used up to `nextId`, and a server that just started. -/
def engineMachine : Machine EngineState EngineOp where
  init s :=
    Keyed NodeRunRow.id s.nodeRuns ∧ (∀ nr ∈ s.nodeRuns, nr.id < s.nextId) ∧
      s.threads = [] ∧ s.timers = [] ∧ s.timedOut = [] ∧ (∀ id, s.fanOuts id = none) ∧
      s.rearmed = false ∧ s.completed = [] ∧ s.advanced = [] ∧ s.caused = []
  step := engineStep

/-- The server has just started, no scenario was run before. -/
def bootState (db : GraphDb) : EngineState :=
  { db := db, runs := [], nodeRuns := [], commands := [], nextId := 1, fanOuts := fun _ => none, timers := []
    timedOut := [], threads := [], rearmed := false, completed := [], advanced := [], caused := [] }

theorem bootState_init (db : GraphDb) : engineMachine.init (bootState db) :=
  ⟨List.nodup_nil, fun _ h => (List.not_mem_nil h).elim, rfl, rfl, rfl, fun _ => rfl, rfl, rfl, rfl, rfl⟩

end Obliance.Scenario

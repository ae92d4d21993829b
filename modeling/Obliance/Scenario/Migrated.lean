import Mathlib.Data.List.FinRange
import Mathlib.Data.List.Indexes
import Obliance.Scenario.Engine
import Obliance.Scenario.Migrate

/-!
# A migrated scenario in the graph engine

* `graphAsker` : a run of the graph engine, each of its commands acked once;
* `Installed` : a database that holds a built graph; `installed_migrate` : the migration installs it;
* `Live` : what the engine is in the middle of, with one task that goes on;
* `follows_walk` : the engine asks what the graph walks.
-/

namespace Obliance.Scenario
open KeyedTable Dialogues EngineState Obliance.Commands

/-- The first task that can go on runs its next statement. -/
def runFirst (clock : EngineState → ℤ) (s : EngineState) : Option EngineState :=
  (List.range s.threads.length).findSome? fun i => runThread s i (clock s)

/-- The agent's report of a script that exited with `code`. -/
def exitAck (commandId : ℕ) (code : ℤ) : Ack :=
  ⟨.uuid commandId true, some .runScript, if code = 0 then .success else .failure,
    some ⟨some code, some "", some "", none, .empty⟩⟩

/-- A command of a node that waits for its ack. -/
def waiting (c : CommandRow) : Bool := decide (c.status = .pending ∧ c.sourceType = some .scenarioNode)

/-- The questions are the scripts the agent executes, the answers their exit codes; the statements of the
engine run at the times the clock gives. -/
def graphAsker (clock : EngineState → ℤ) (runId : ℕ) : Asker EngineState ℕ ℤ RunStatus where
  step := runFirst clock
  question s :=
    (s.commands.find? waiting).bind fun c =>
      c.payload.scriptId.map fun scriptId =>
        (scriptId, fun code => ackCommand s c.deviceId (exitAck c.id code) (clock s))
  result s := ((s.run runId).map RunRow.status).getD .pending

/-! ## The graph in the database -/

/-- The nodes of the graph are rows of the scenario, and the edge picked from a node leads where its exits
do. -/
structure Installed (db : GraphDb) (scenarioId : ℕ) (g : GraphBuilder) (nodeId : ℕ → ℕ) : Prop where
  node : ∀ i n, g.nodes[i]? = some n → db.node (nodeId i) = some (n.row scenarioId (nodeId i))
  pick : ∀ i exitCode, (pickNextEdge db.edges scenarioId (nodeId i) exitCode).map EdgeRow.targetNodeId =
    (pickExit (exitsOf g.edges i) exitCode).map nodeId

/-- A scenario without nodes; new nodes get ids that are not in use. -/
structure Migratable (db : GraphDb) (scenarioId : ℕ) (nodeId : ℕ → ℕ) : Prop where
  scenario : (db.scenario scenarioId).isSome
  empty : ∀ n ∈ db.nodes, n.scenarioId ≠ scenarioId
  fresh : ∀ n ∈ db.nodes, ∀ i, n.id ≠ nodeId i
  injective : Function.Injective nodeId
  edges : ∀ e ∈ db.edges, ∃ n ∈ db.nodes, n.id = e.sourceNodeId

section Install
variable {db : GraphDb} {scenarioId : ℕ} {nodeId edgeId : ℕ → ℕ}

theorem keyed_rows (hinj : Function.Injective nodeId) (nodes : List NodeSpec) :
    Keyed NodeRow.id (nodes.mapIdx fun i n => n.row scenarioId (nodeId i)) := by
  rw [Keyed, List.mapIdx_eq_ofFn, List.map_ofFn, List.nodup_ofFn]
  intro i j hij
  exact Fin.ext (hinj hij)

/-- The rows of the edges out of a node. -/
theorem exits_rows (hinj : Function.Injective nodeId) (edges : List EdgeSpec) (i : ℕ) :
    ∀ edgeId : ℕ → ℕ, ((edges.mapIdx fun k e => e.row scenarioId nodeId (edgeId k)).filter fun e =>
        decide (e.scenarioId = scenarioId ∧ e.sourceNodeId = nodeId i)).map
          (fun e => (e.condition, e.targetNodeId)) =
      (exitsOf edges i).map fun e => (e.1, nodeId e.2) := by
  induction edges with
  | nil => exact fun _ => rfl
  | cons e edges ih =>
      intro edgeId
      have hsource : ((e.row scenarioId nodeId (edgeId 0)).scenarioId = scenarioId ∧
          (e.row scenarioId nodeId (edgeId 0)).sourceNodeId = nodeId i) ↔ e.source = i := by
        simp [EdgeSpec.row, hinj.eq_iff]
      rw [List.mapIdx_cons, List.filter_cons]
      by_cases he : e.source = i
      · have hexits : exitsOf (e :: edges) i = (e.condition, e.target) :: exitsOf edges i := by
          simp [exitsOf, he]
        rw [if_pos (decide_eq_true (hsource.2 he)), List.map_cons, ih fun k => edgeId (k + 1), hexits,
          List.map_cons]
        rfl
      · have hexits : exitsOf (e :: edges) i = exitsOf edges i := by
          simp [exitsOf, he]
        rw [if_neg fun h => he (hsource.1 (of_decide_eq_true h)), ih fun k => edgeId (k + 1), hexits]

/-- `pickNextEdge` looks at the conditions and the targets of the outgoing edges. -/
theorem pickNextEdge_of_outgoing {edges : List EdgeRow} {i : ℕ} {exits : List (EdgeCondition × ℕ)}
    (h : (outgoing edges scenarioId (nodeId i)).map (fun e => (e.condition, e.targetNodeId)) =
      exits.map fun e => (e.1, nodeId e.2)) (exitCode : Option ℤ) :
    (pickNextEdge edges scenarioId (nodeId i) exitCode).map EdgeRow.targetNodeId =
      (pickExit exits exitCode).map nodeId := by
  have hfind : ∀ p : EdgeCondition → Bool,
      ((outgoing edges scenarioId (nodeId i)).find? fun e => p e.condition).map EdgeRow.targetNodeId =
        ((exits.find? fun e => p e.1).map Prod.snd).map nodeId := by
    intro p
    have := congrArg (fun l : List (EdgeCondition × ℕ) => (l.find? fun e => p e.1).map Prod.snd) h
    simpa [List.find?_map, Function.comp_def, Option.map_map] using this
  simp only [pickNextEdge, pickExit, Option.map_or]
  rw [hfind fun c => decide (c ≠ .default) && edgeMatches c exitCode, hfind fun c => decide (c = .default)]

theorem migrate_eq (h : Migratable db scenarioId nodeId) (steps : List StepRow) (triggerType : TriggerType) :
    migrateScenarioToV2 db scenarioId steps triggerType nodeId edgeId =
      let g := buildV2GraphFromV1Steps steps triggerType
      { db with
        nodes := db.nodes ++ g.nodes.mapIdx fun i n => n.row scenarioId (nodeId i)
        edges := db.edges ++ g.edges.mapIdx fun i e => e.row scenarioId nodeId (edgeId i) } := by
  have hempty : (db.nodes.any fun n => decide (n.scenarioId = scenarioId)) = false := by
    rw [List.any_eq_false]
    intro n hn he
    exact h.empty n hn (of_decide_eq_true he)
  have hscenario : (db.scenario scenarioId).isNone = false := by
    rw [Option.isNone_eq_false_iff]
    exact h.scenario
  rw [migrateScenarioToV2, hempty, hscenario]
  rfl

/-- **The migration installs the graph.** -/
theorem installed_migrate (h : Migratable db scenarioId nodeId) (steps : List StepRow)
    (triggerType : TriggerType) :
    Installed (migrateScenarioToV2 db scenarioId steps triggerType nodeId edgeId) scenarioId
      (buildV2GraphFromV1Steps steps triggerType) nodeId := by
  rw [migrate_eq h]
  constructor
  · intro i n hn
    have hold : get NodeRow.id db.nodes (nodeId i) = none := get_eq_none_iff.2 fun n hn => h.fresh n hn i
    have hnew : (n.row scenarioId (nodeId i)) ∈
        (buildV2GraphFromV1Steps steps triggerType).nodes.mapIdx fun i n => n.row scenarioId (nodeId i) := by
      rw [List.mem_iff_getElem?]
      exact ⟨i, by rw [List.getElem?_mapIdx, hn, Option.map_some]⟩
    rw [GraphDb.node, KeyedTable.get, List.find?_append, ← KeyedTable.get, hold, Option.none_or]
    exact (get_eq_some_iff (keyed_rows h.injective _)).2 ⟨hnew, rfl⟩
  · intro i exitCode
    refine pickNextEdge_of_outgoing ?_ exitCode
    have hold : (db.edges.filter fun e =>
        decide (e.scenarioId = scenarioId ∧ e.sourceNodeId = nodeId i)) = [] := by
      rw [List.filter_eq_nil_iff]
      intro e he hsource
      obtain ⟨n, hn, hid⟩ := h.edges e he
      exact h.fresh n hn i (hid.trans (of_decide_eq_true hsource).2)
    have hsorted : (((buildV2GraphFromV1Steps steps triggerType).edges.mapIdx fun k e =>
        e.row scenarioId nodeId (edgeId k)).filter fun e =>
          decide (e.scenarioId = scenarioId ∧ e.sourceNodeId = nodeId i)).Pairwise
            fun e e' => e.sortOrder ≤ e'.sortOrder := by
      refine List.Pairwise.filter _ ?_
      have := ordered_build steps triggerType
      rw [List.pairwise_iff_getElem] at this ⊢
      intro k l hk hl hkl
      rw [List.getElem_mapIdx, List.getElem_mapIdx]
      exact this k l _ _ hkl
    rw [outgoing, List.filter_append, hold, List.nil_append, List.Pairwise.insertionSort_eq hsorted]
    exact exits_rows h.injective _ i edgeId

end Install

/-! ## A run script node of the graph -/

/-- The device of the run is a target the scenario may act on. -/
structure Reachable (db : GraphDb) (scenarioId tenantId deviceId : ℕ) : Prop where
  devices : Keyed EngineDevice.id db.devices
  device : ∃ d, get EngineDevice.id db.devices deviceId = some d ∧ d.tenantId = tenantId ∧
    ((db.scenario scenarioId).any ScenarioRow.bypassPrivacyMode || !d.privacyModeEnabled) = true

/-- The script is one of the tenant's. -/
def Enqueues (db : GraphDb) (tenantId scriptId : ℕ) : Prop :=
  scriptId ≠ 0 ∧ ∃ s ∈ db.scripts, s.id = scriptId ∧ s.tenantId = some tenantId

theorem Reachable.targets {db : GraphDb} {scenarioId tenantId deviceId : ℕ}
    (h : Reachable db scenarioId tenantId deviceId) :
    validateTargetsInTenant db tenantId [(deviceId : ℚ)] scenarioId = [deviceId] := by
  obtain ⟨d, hd, htenant, hallowed⟩ := h.device
  have hid : d.id = deviceId := key_of_get hd
  have hmem : ∀ e : EngineDevice, decide (e.tenantId = tenantId ∧ (e.id : ℚ) ∈ [(deviceId : ℚ)]) =
      (decide (e.tenantId = tenantId) && decide (e.id = deviceId)) := by
    intro e
    simp only [List.mem_singleton, Nat.cast_inj, Bool.decide_and]
  have hone : (db.devices.filter fun e => decide (e.tenantId = tenantId ∧ (e.id : ℚ) ∈ [(deviceId : ℚ)])) =
      [d] := by
    simp only [hmem]
    rw [← List.filter_filter, filter_key h.devices hd, List.filter_cons, if_pos (decide_eq_true htenant),
      List.filter_nil]
  unfold validateTargetsInTenant
  dsimp only
  rw [hone, List.filter_cons, if_pos hallowed, List.filter_nil, List.map_cons, hid, List.map_nil]

theorem execRunScript_enqueues {db : GraphDb} {run : RunRow} {node : NodeRow} {scriptId timeout : ℕ}
    (hdevice : Reachable db run.scenarioId run.tenantId run.deviceId)
    (hscript : Enqueues db run.tenantId scriptId) (hconfig : node.config = scriptConfig scriptId timeout) :
    ∃ command, execRunScript db run node = .enqueue command [run.deviceId] ∧
      command.payload.scriptId = some scriptId := by
  obtain ⟨hne, s, hs, hsid, htenant⟩ := hscript
  have htargets : targetsOf db run node = [run.deviceId] := by
    rw [targetsOf, hconfig]
    exact hdevice.targets
  have hid : node.config.scriptId.filter (· ≠ 0) = some scriptId := by
    rw [hconfig]
    exact Option.filter_some_pos (decide_eq_true hne)
  cases hfound : db.scripts.find? fun s => decide (s.id = scriptId ∧ s.tenantId = some run.tenantId) with
  | none => exact absurd (decide_eq_true ⟨hsid, htenant⟩) (List.find?_eq_none.1 hfound s hs)
  | some script =>
      have hscript := List.find?_some hfound
      rw [decide_eq_true_eq] at hscript
      have hexec : execRunScript db run node = .enqueue
          ⟨.runScript, { CommandPayload.empty with scriptId := some script.id },
            (node.config.timeoutSeconds.or script.timeoutSeconds).getD 300 + 300⟩ [run.deviceId] := by
        unfold execRunScript
        simp only [hid, hfound, htargets]
        rfl
      exact ⟨_, hexec, congrArg some hscript.1⟩

/-! ## The engine with one task -/

/-- The last task, `t`, is the only one that is not done. -/
structure OneTask (s : EngineState) (ts : List Thread) (t : Thread) : Prop where
  tasks : s.threads = ts ++ [t]
  done : ∀ t' ∈ ts, t' = .done

/-- Nothing waits for an ack, and one task goes on. -/
structure Live (db : GraphDb) (s : EngineState) (ts : List Thread) (t : Thread) : Prop extends
    OneTask s ts t where
  graph : s.db = db
  settled : ∀ c ∈ s.commands, waiting c = false
  commandsUsed : ∀ c ∈ s.commands, c.id < s.nextId
  nodeRunsUsed : ∀ nr ∈ s.nodeRuns, nr.id < s.nextId
  fanOuts : ∀ id, s.fanOuts id = none

section Live
variable {db : GraphDb} {s u : EngineState} {ts : List Thread} {t t' : Thread} {clock : EngineState → ℤ}
  {runId : ℕ} {d : Dialogue ℕ ℤ RunStatus}

theorem OneTask.runFirst_eq (h : OneTask s ts t) :
    runFirst clock s = runTask s ts.length (clock s) t := by
  have hlen : s.threads.length = ts.length + 1 := by rw [h.tasks, List.length_append]; rfl
  have hlast : s.threads[ts.length]? = some t := by
    rw [h.tasks, List.getElem?_append_right le_rfl, Nat.sub_self]
    rfl
  have hdone : ((List.range ts.length).findSome? fun i => runThread s i (clock s)) = none := by
    rw [List.findSome?_eq_none_iff]
    intro i hi
    have hlt : i < ts.length := List.mem_range.1 hi
    have hi : s.threads[i]? = some .done := by
      rw [h.tasks, List.getElem?_append_left hlt, List.getElem?_eq_getElem hlt,
        h.done _ (List.getElem_mem hlt)]
    rw [runThread, hi]
    rfl
  rw [runFirst, hlen, List.range_succ, List.findSome?_append, hdone, Option.none_or,
    List.findSome?_singleton, runThread, hlast, Option.bind_some]

theorem OneTask.set (h : OneTask s ts t) (htasks : u.threads = s.threads.set ts.length t') :
    OneTask u ts t' := by
  refine ⟨?_, h.done⟩
  rw [htasks, h.tasks, List.set_append_right _ _ le_rfl, Nat.sub_self]
  rfl

theorem OneTask.follows (h : OneTask s ts t) (hs : runTask s ts.length (clock s) t = some u)
    (hu : Follows (graphAsker clock runId) u d) : Follows (graphAsker clock runId) s d :=
  .step (h.runFirst_eq.trans hs) hu

/-- The task goes on, and neither the queue nor the ids change. -/
theorem Live.next (h : Live db s ts t) (hdb : u.db = s.db) (htasks : u.threads = s.threads.set ts.length t')
    (hcommands : u.commands = s.commands) (hnodeRuns : u.nodeRuns.map NodeRunRow.id = s.nodeRuns.map NodeRunRow.id)
    (hnext : u.nextId = s.nextId) (hfanOuts : u.fanOuts = s.fanOuts) : Live db u ts t' := by
  refine ⟨h.set htasks, hdb.trans h.graph, hcommands ▸ h.settled, ?_, fun nr hnr => ?_, hfanOuts ▸ h.fanOuts⟩
  · rw [hcommands, hnext]
    exact h.commandsUsed
  · have hid : nr.id ∈ s.nodeRuns.map NodeRunRow.id := hnodeRuns ▸ List.mem_map_of_mem hnr
    obtain ⟨nr₀, h₀, he⟩ := List.mem_map.1 hid
    rw [hnext, ← he]
    exact h.nodeRunsUsed nr₀ h₀

theorem Live.question_eq (h : Live db s ts t) : (graphAsker clock runId).question s = none := by
  have hnone : s.commands.find? waiting = none := by
    rw [List.find?_eq_none]
    intro c hc
    rw [h.settled c hc]
    exact Bool.false_ne_true
  simp only [graphAsker, hnone, Option.bind_none]

/-- The engine has nothing left to do. -/
theorem Live.ended (h : Live db s ts .done) {run : RunRow} (hrun : s.run runId = some run) :
    Follows (graphAsker clock runId) s (.stop run.status) := by
  have hresult : (graphAsker clock runId).result s = run.status := by
    simp only [graphAsker, hrun, Option.map_some, Option.getD_some]
  rw [← hresult]
  exact .stop h.runFirst_eq h.question_eq

/-! ## The statements of a node -/

/-- The run is on its way to the `i`-th node and beyond, after the exit code `last`. -/
structure OnPath (scenarioId tenantId deviceId runId : ℕ) (nodeId : ℕ → ℕ) (run : RunRow) (i : ℕ)
    (last : Option ℤ) : Prop where
  id : run.id = runId
  scenario : run.scenarioId = scenarioId
  tenant : run.tenantId = tenantId
  device : run.deviceId = deviceId
  running : run.status = .running
  notSingle : isSingleNode run = false
  last : run.lastExitCode = last
  visits : ∀ j, i ≤ j → run.visitCounts (nodeId j) = 0

theorem run_modifyRun {run : RunRow} (hrun : s.run runId = some run) {f : RunRow → RunRow}
    (hf : ∀ r, (f r).id = r.id) : (s.modifyRun runId f).run runId = some (f run) := by
  rw [EngineState.run, EngineState.modifyRun]
  exact (get_modify_self hf).trans (by rw [← EngineState.run, hrun, Option.map_some])

section Visit
variable {g : GraphBuilder} {scenarioId tenantId deviceId : ℕ} {nodeId : ℕ → ℕ} {run : RunRow} {i j : ℕ} {last : Option ℤ}
  {v : Visit} {r : NodeResult} {outcome : NodeOutcome} {next : Next} {byAck : Bool}

/-- `_completeNode`: the result is written on the node run and on the run. -/
theorem follows_complete (h : Live db s ts (.complete v r outcome next byAck)) (hv : v.runId = runId)
    (hrun : s.run runId = some run)
    (hnext : ∀ u, Live db u ts (next.thread v r.exitCode byAck) → u.run runId = some { run with
        lastExitCode := r.exitCode, lastStdout := r.stdout, lastStderr := r.stderr } →
      Follows (graphAsker clock runId) u d) : Follows (graphAsker clock runId) s d := by
  subst hv
  have hwritten : Live db (writeNodeRun s ts.length v r outcome next byAck (clock s)) ts
      (.mirror v r next byAck) := by
    refine h.next rfl rfl rfl (map_key_map fun nr => ?_) rfl rfl
    split <;> rfl
  exact h.follows rfl (hwritten.follows rfl
    (hnext _ (hwritten.next rfl rfl rfl rfl rfl rfl) (run_modifyRun hrun fun _ => rfl)))

/-- `markRunSuccess`, `markRunFailure`: the run has ended. -/
theorem follows_mark {failure : Option String} (h : Live db s ts (.mark runId failure))
    (hrun : s.run runId = some run) :
    Follows (graphAsker clock runId) s (.stop (failure.elim .success fun _ => .failure)) := by
  have hend : Live db (markRun (s.setThread ts.length .done) runId failure) ts .done :=
    h.next rfl rfl rfl rfl rfl rfl
  refine h.follows rfl ?_
  cases failure with
  | none => exact hend.ended (run_modifyRun hrun fun _ => rfl)
  | some message => exact hend.ended (run_modifyRun hrun fun _ => rfl)

/-- `_advance`: the next node is executed. -/
theorem follows_advance {db : GraphDb} (hg : Installed db scenarioId g nodeId) {exitCode : Option ℤ}
    (h : Live db s ts (.advance v exitCode byAck)) (hv : v.runId = runId) (hnode : v.nodeId = nodeId i)
    (hrun : s.run runId = some run) (hpath : OnPath scenarioId tenantId deviceId runId nodeId run j last)
    (hpick : pickExit (exitsOf g.edges i) exitCode = some j)
    (hnext : ∀ u cause, Live db u ts (.execute runId (nodeId j) cause) → u.run runId = some run →
      Follows (graphAsker clock runId) u d) : Follows (graphAsker clock runId) s d := by
  subst hv
  obtain ⟨e, he, htarget⟩ : ∃ e, pickNextEdge s.db.edges run.scenarioId v.nodeId exitCode = some e ∧
      e.targetNodeId = nodeId j := by
    have := hg.pick i exitCode
    rw [hpick, Option.map_some, Option.map_eq_some_iff] at this
    rw [h.graph, hpath.scenario, hnode]
    exact this
  have hstep : advance s ts.length v exitCode byAck =
      { s with advanced := s.advanced ++ (if byAck then [v.nodeRunId] else []) }.setThread ts.length
        (.execute v.runId (nodeId j) (if byAck then some v.nodeRunId else none)) := by
    unfold advance
    simp only [EngineState.run] at hrun ⊢
    simp only [hrun, hpath.notSingle, he, htarget, Bool.false_eq_true, if_false]
  refine h.follows (congrArg some hstep) (hnext _ _ (h.next rfl rfl rfl rfl rfl rfl) hrun)

/-- `executeNode`: a node run is inserted, its executor comes next. -/
theorem follows_execute {node : NodeRow} {cause : Option ℕ}
    (h : Live db s ts (.execute runId (nodeId i) cause)) (hrun : s.run runId = some run)
    (hpath : OnPath scenarioId tenantId deviceId runId nodeId run i last)
    (hinj : Function.Injective nodeId) (hnode : db.node (nodeId i) = some node)
    (hnext : ∀ u nr run', Live db u ts (.executor run node nr.id) → u.nodeRun nr.id = some nr →
      nr.runId = runId → nr.nodeId = nodeId i → u.run runId = some run' →
      OnPath scenarioId tenantId deviceId runId nodeId run' (i + 1) last →
      Follows (graphAsker clock runId) u d) : Follows (graphAsker clock runId) s d := by
  have hvisits : ¬ maxNodeVisits <
      Function.update run.visitCounts (nodeId i) (run.visitCounts (nodeId i) + 1) (nodeId i) := by
    rw [Function.update_self, hpath.visits i le_rfl]
    decide
  have hnode' : s.db.node (nodeId i) = some node := h.graph ▸ hnode
  have hstep : runTask s ts.length (clock s) (.execute runId (nodeId i) cause) = some
      { ((s.modifyRun runId fun r => { r with
          currentNodeId := some (nodeId i)
          visitCounts := Function.update run.visitCounts (nodeId i) (run.visitCounts (nodeId i) + 1) }).setThread
            ts.length (.executor run node s.nextId)) with
        nodeRuns := s.nodeRuns ++
          [⟨s.nextId, runId, nodeId i, node.type, .running, .exit none, clock s, none⟩]
        nextId := s.nextId + 1
        caused := s.caused ++ cause.toList } := by
    simp only [runTask, executeNode, hrun, hpath.running, ne_eq, not_true_eq_false, if_false, hnode', hvisits]
    rfl
  have hfresh : get NodeRunRow.id s.nodeRuns s.nextId = none :=
    get_eq_none_iff.2 fun nr hnr => (h.nodeRunsUsed nr hnr).ne
  refine h.follows hstep (hnext _ ⟨s.nextId, runId, nodeId i, node.type, .running, .exit none, clock s, none⟩ _
    ⟨h.set rfl, h.graph, h.settled, fun c hc => (h.commandsUsed c hc).trans (Nat.lt_succ_self _),
      fun nr hnr => ?_, h.fanOuts⟩ ?_ rfl rfl (run_modifyRun hrun fun _ => rfl) ?_)
  · rcases List.mem_append.1 hnr with hnr | hnr
    · exact (h.nodeRunsUsed nr hnr).trans (Nat.lt_succ_self _)
    · rw [List.mem_singleton.1 hnr]
      exact Nat.lt_succ_self _
  · exact (get_append_fresh hfresh).trans (if_pos rfl)
  · refine ⟨hpath.id, hpath.scenario, hpath.tenant, hpath.device, hpath.running, hpath.notSingle, hpath.last,
      fun j hj => ?_⟩
    have hne : nodeId j ≠ nodeId i := fun he => by
      have := hinj he
      omega
    exact (Function.update_of_ne hne _ _).trans (hpath.visits j (by omega))

/-! ## Executors -/

theorem runTask_branch {node : NodeRow} {k nodeRunId : ℕ} {now : ℤ} (htype : node.type = .branchExitCode) :
    runTask s k now (.executor run node nodeRunId) =
      some (s.setThread k (.complete ⟨run.id, node.id, nodeRunId⟩ (.exit run.lastExitCode) .success .advance
        false)) := by
  simp only [runTask, runExecutor, startExecutor, htype]

theorem runTask_endSuccess {node : NodeRow} {k nodeRunId : ℕ} {now : ℤ} (htype : node.type = .endSuccess) :
    runTask s k now (.executor run node nodeRunId) =
      some (s.setThread k (.complete ⟨run.id, node.id, nodeRunId⟩ ⟨none, node.config.message, none, none⟩
        .success .succeed false)) := by
  simp only [runTask, runExecutor, startExecutor, htype]

theorem runTask_endFailure {node : NodeRow} {k nodeRunId : ℕ} {now : ℤ} (htype : node.type = .endFailure) :
    ∃ message, runTask s k now (.executor run node nodeRunId) =
      some (s.setThread k (.complete ⟨run.id, node.id, nodeRunId⟩ ⟨none, none, none, some message⟩
        .failed (.fail message) false)) := by
  simp only [runTask, runExecutor, startExecutor, htype]
  exact ⟨_, rfl⟩

theorem runTask_runScript {node : NodeRow} {k nodeRunId target : ℕ} {now : ℤ} {command : CommandTemplate}
    (htype : node.type = .runScript) (hexec : execRunScript s.db run node = .enqueue command [target]) :
    runTask s k now (.executor run node nodeRunId) =
      some (s.setThread k (.enqueue run node nodeRunId command [target])) := by
  simp only [runTask, runExecutor, startExecutor, htype, hexec]
  rfl

/-- The ack of a command of a node starts a task. -/
theorem ackCommand_exit {c : CommandRow} {nodeRunId : ℕ} {now : ℤ}
    (hget : get CommandRow.id s.commands c.id = some c) (hsource : c.sourceType = some .scenarioNode)
    (hid : c.sourceId = some nodeRunId) (hfanOuts : s.fanOuts nodeRunId = none) (code : ℤ) :
    ackCommand s c.deviceId (exitAck c.id code) now =
      { s with commands := updateQueue s.commands c.deviceId c.id (exitAck c.id code) now }.spawn
        (.ack nodeRunId ⟨some code, some "", some "", none⟩) := by
  have hkey : ∀ r : CommandRow, (if r.id = c.id ∧ r.deviceId = c.deviceId then
      r.acked (exitAck c.id code) now else r).id = r.id := by
    intro r
    split <;> rfl
  have hacked : get CommandRow.id (updateQueue s.commands c.deviceId c.id (exitAck c.id code) now) c.id =
      some (c.acked (exitAck c.id code) now) := by
    rw [updateQueue, get_map hkey, hget, Option.map_some, if_pos ⟨rfl, rfl⟩]
  have hterminal : (exitAck c.id code).status.isTerminal = true := by
    by_cases hc : code = 0 <;> simp [exitAck, hc, AckStatus.isTerminal]
  have hcols : (c.acked (exitAck c.id code) now).sourceType = some .scenarioNode ∧
      (c.acked (exitAck c.id code) now).sourceId = some nodeRunId := ⟨hsource, hid⟩
  unfold ackCommand
  simp only [exitAck] at hacked hterminal hcols ⊢
  simp only [hacked, hcols, hterminal, if_true, startAck, hfanOuts]
  rfl

/-- `handleNodeCommandAck` completes the node run of a run that goes on. -/
theorem follows_ack {nr : NodeRunRow} (h : Live db s ts (.ack nr.id r)) (hnr : s.nodeRun nr.id = some nr)
    (hrun : s.run nr.runId = some run) (hrunning : run.status = .running)
    (hnext : ∀ u, Live db u ts (.complete ⟨nr.runId, nr.nodeId, nr.id⟩ r .success .advance true) →
      u.run nr.runId = some run → Follows (graphAsker clock runId) u d) :
    Follows (graphAsker clock runId) s d := by
  have hack : readAck s ts.length nr.id r =
      s.setThread ts.length (.complete ⟨nr.runId, nr.nodeId, nr.id⟩ r .success .advance true) := by
    simp only [readAck, hnr, hrun, hrunning, ne_eq, not_true_eq_false, if_false]
  exact h.follows (congrArg some hack) (hnext _ (h.next rfl rfl rfl rfl rfl rfl) hrun)

section Parked
variable {nr : NodeRunRow} {run' : RunRow} {scriptId : ℕ} {k : ℤ → Dialogue ℕ ℤ RunStatus}
  (hrunning : run'.status = .running)
  (hnext : ∀ code u us, Live db u us (.complete ⟨nr.runId, nr.nodeId, nr.id⟩
      ⟨some code, some "", some "", none⟩ .success .advance true) → u.run nr.runId = some run' →
    Follows (graphAsker clock runId) u (k code))
include hrunning hnext

/-- The engine waits for the ack of `c`, which completes the node. -/
theorem follows_parked {c : CommandRow} (h : OneTask s ts .done) (hgraph : s.db = db)
    (hfound : s.commands.find? waiting = some c) (honly : ∀ c' ∈ s.commands, waiting c' = true → c' = c)
    (hget : get CommandRow.id s.commands c.id = some c) (hid : c.sourceId = some nr.id)
    (hscript : c.payload.scriptId = some scriptId) (hcommands : ∀ c ∈ s.commands, c.id < s.nextId)
    (hnodeRuns : ∀ nr ∈ s.nodeRuns, nr.id < s.nextId) (hfanOuts : ∀ id, s.fanOuts id = none)
    (hnr : s.nodeRun nr.id = some nr) (hrun : s.run nr.runId = some run') :
    Follows (graphAsker clock runId) s (.ask scriptId k) := by
  have hw : waiting c = true := List.find?_some hfound
  rw [waiting, decide_eq_true_eq] at hw
  have hquestion : (graphAsker clock runId).question s =
      some (scriptId, fun code => ackCommand s c.deviceId (exitAck c.id code) (clock s)) := by
    simp only [graphAsker, hfound, Option.bind_some, hscript, Option.map_some]
  refine .ask h.runFirst_eq hquestion fun code => ?_
  rw [ackCommand_exit hget hw.2 hid (hfanOuts nr.id)]
  have hlive : Live db ({ s with
      commands := updateQueue s.commands c.deviceId c.id (exitAck c.id code) (clock s) }.spawn
        (.ack nr.id ⟨some code, some "", some "", none⟩)) (ts ++ [.done])
      (.ack nr.id ⟨some code, some "", some "", none⟩) := by
    refine ⟨⟨congrArg (· ++ _) h.tasks, fun t' ht' => ?_⟩, hgraph, fun c' hc' => ?_, fun c' hc' => ?_,
      hnodeRuns, hfanOuts⟩
    · rcases List.mem_append.1 ht' with ht' | ht'
      · exact h.done t' ht'
      · exact List.mem_singleton.1 ht'
    · obtain ⟨c₀, h₀, rfl⟩ := List.mem_map.1 hc'
      split
      · by_cases hcode : code = 0 <;> simp [waiting, CommandRow.acked, exitAck, hcode, AckStatus.toCommandStatus]
      · rename_i hne
        refine Bool.eq_false_iff.2 fun hw₀ => ?_
        obtain rfl := honly c₀ h₀ hw₀
        exact hne ⟨rfl, rfl⟩
    · obtain ⟨c₀, h₀, rfl⟩ := List.mem_map.1 hc'
      have hlt := hcommands c₀ h₀
      split <;> exact hlt
  exact follows_ack hlive hnr hrun hrunning fun u => hnext code u _

/-- A command to the device of the run: the script is asked. -/
theorem follows_enqueue_target {node : NodeRow} {command : CommandTemplate}
    (h : Live db s ts (.enqueue run node nr.id command [deviceId]))
    (hscript : command.payload.scriptId = some scriptId) (hnr : s.nodeRun nr.id = some nr)
    (hrun : s.run nr.runId = some run') : Follows (graphAsker clock runId) s (.ask scriptId k) := by
  have htask : OneTask (enqueueCommand (s.setThread ts.length (.enqueue run node nr.id command [])) run nr.id
      deviceId command (clock s)) ts (.enqueue run node nr.id command []) := h.set rfl
  refine h.follows rfl (htask.follows rfl ?_)
  have hfresh : ∀ c : CommandRow, c.id = s.nextId → get CommandRow.id s.commands c.id = none := by
    intro c hc
    rw [hc]
    exact get_eq_none_iff.2 fun c' h' => (h.commandsUsed c' h').ne
  have hnone : s.commands.find? waiting = none := by
    rw [List.find?_eq_none]
    intro c' h'
    rw [h.settled c' h']
    exact Bool.false_ne_true
  have hfound : ∀ c, waiting c = true → (s.commands ++ [c]).find? waiting = some c := by
    intro c hc
    rw [List.find?_append, hnone, Option.none_or, List.find?_cons_of_pos hc]
  refine follows_parked hrunning hnext (htask.set rfl) h.graph (hfound _ rfl)
    (fun c' hc' hw => ?_) ((get_append_fresh (hfresh _ rfl)).trans (if_pos rfl)) rfl hscript
    (fun c' hc' => ?_) (fun nr' h' => (h.nodeRunsUsed nr' h').trans (Nat.lt_succ_self _)) h.fanOuts hnr hrun
  · rcases List.mem_append.1 hc' with hc' | hc'
    · rw [h.settled c' hc'] at hw
      cases hw
    · exact List.mem_singleton.1 hc'
  · rcases List.mem_append.1 hc' with hc' | hc'
    · exact (h.commandsUsed c' hc').trans (Nat.lt_succ_self _)
    · rw [List.mem_singleton.1 hc']
      exact Nat.lt_succ_self _

end Parked

/-- Behind the `i`-th node, with the result mirrored on the run. -/
theorem OnPath.onward (h : OnPath scenarioId tenantId deviceId runId nodeId run (i + 1) last) (hij : i < j)
    (r : NodeResult) : OnPath scenarioId tenantId deviceId runId nodeId { run with
      lastExitCode := r.exitCode, lastStdout := r.stdout, lastStderr := r.stderr } j r.exitCode :=
  ⟨h.id, h.scenario, h.tenant, h.device, h.running, h.notSingle, rfl, fun k hk => h.visits k (hij.trans_le hk)⟩

/-- **The engine asks what the graph walks**, from any node of an installed graph on. -/
theorem follows_walk (hg : Installed db scenarioId g nodeId) (hinj : Function.Injective nodeId)
    (hdevice : Reachable db scenarioId tenantId deviceId) (hw : Walk g i last d)
    (hasks : d.Asks (Enqueues db tenantId)) :
    ∀ s ts cause run, Live db s ts (.execute runId (nodeId i) cause) → s.run runId = some run →
      OnPath scenarioId tenantId deviceId runId nodeId run i last →
      Follows (graphAsker clock runId) s d := by
  induction hw with
  | @script i scriptId last k n target hn hruns hlt hpick _ ih =>
      intro s ts cause run h hrun hpath
      obtain ⟨htype, timeout, hconfig⟩ := hruns
      refine follows_execute h hrun hpath hinj (hg.node i n hn) fun u nr run' hu hnr hnrRun hnrNode hrun' hpath' => ?_
      obtain ⟨command, hexec, hscript⟩ : ∃ command,
          execRunScript u.db run (n.row scenarioId (nodeId i)) = .enqueue command [run.deviceId] ∧
            command.payload.scriptId = some scriptId := by
        rw [hu.graph]
        refine execRunScript_enqueues ?_ ?_ hconfig
        · rw [hpath.scenario, hpath.tenant, hpath.device]
          exact hdevice
        · rw [hpath.tenant]
          exact hasks.1
      subst hnrRun
      refine hu.follows (runTask_runScript htype hexec) (follows_enqueue_target hpath'.running
        (fun code w ws hw hrunw => ?_) (hu.next rfl rfl rfl rfl rfl rfl) hscript hnr hrun')
      refine follows_complete hw rfl hrunw fun x hx hrunx => ?_
      exact follows_advance hg hx rfl hnrNode hrunx (hpath'.onward (hlt code) _) (hpick code)
        fun y cause hy hruny => ih code (hasks.2 code) y ws cause _ hy hruny (hpath'.onward (hlt code) _)
  | @branch i j last d n hn htype hlt hpick _ ih =>
      intro s ts cause run h hrun hpath
      refine follows_execute h hrun hpath hinj (hg.node i n hn) fun u nr run' hu _ _ _ hrun' hpath' => ?_
      refine hu.follows (runTask_branch htype) (follows_complete (hu.next rfl rfl rfl rfl rfl rfl) hpath.id hrun'
        fun w hw hrunw => ?_)
      have hlast : (NodeResult.exit run.lastExitCode).exitCode = last := hpath.last
      have hnext := hpath'.onward hlt (.exit run.lastExitCode)
      rw [hlast] at hw hrunw hnext
      exact follows_advance hg hw hpath.id rfl hrunw hnext hpick
        fun y cause hy hruny => ih hasks y ts cause _ hy hruny hnext
  | @endSuccess i last n hn htype =>
      intro s ts cause run h hrun hpath
      obtain rfl := hpath.id
      refine follows_execute h hrun hpath hinj (hg.node i n hn) fun u nr run' hu _ _ _ hrun' _ => ?_
      refine hu.follows (runTask_endSuccess htype) (follows_complete (hu.next rfl rfl rfl rfl rfl rfl) rfl hrun'
        fun w hw hrunw => ?_)
      exact follows_mark hw hrunw
  | @endFailure i last n hn htype =>
      intro s ts cause run h hrun hpath
      obtain rfl := hpath.id
      refine follows_execute h hrun hpath hinj (hg.node i n hn) fun u nr run' hu _ _ _ hrun' _ => ?_
      have htype' : (n.row scenarioId (nodeId i)).type = .endFailure := htype
      obtain ⟨message, hfail⟩ := runTask_endFailure htype'
      refine hu.follows hfail (follows_complete (hu.next rfl rfl rfl rfl rfl rfl) rfl hrun' fun w hw hrunw => ?_)
      exact follows_mark hw hrunw

end Visit

end Live

end Obliance.Scenario

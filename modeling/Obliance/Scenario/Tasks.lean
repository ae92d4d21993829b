import Obliance.Scenario.Terminal

/-!
# The statements of a task, one by one (`services/scenarioGraph.service.ts`)

* `executeNode_cases`, `runExecutor_cases`, `advance_cases`, `readAck_cases` : where a task goes, and what it
  writes;
* `failThread_cases` : a task that throws goes on to fail its node.
-/

namespace Obliance.Scenario
open GuardedRun KeyedTable Obliance.Commands

section Cases
variable {s t : EngineState} {i runId nodeId nodeRunId : ℕ} {now : ℤ} {cause : Option ℕ}

/-- The node run is inserted and counted, and the task comes to the executor. -/
def entered (s : EngineState) (i : ℕ) (run : RunRow) (node : NodeRow) (cause : Option ℕ) (now : ℤ) : EngineState :=
  { s with
    runs := KeyedTable.modify RunRow.id s.runs run.id fun r =>
      { r with
        currentNodeId := some node.id
        visitCounts := Function.update run.visitCounts node.id (run.visitCounts node.id + 1) }
    threads := s.threads.set i (.executor run node s.nextId)
    nodeRuns := s.nodeRuns ++ [⟨s.nextId, run.id, node.id, node.type, .running, .exit none, now, none⟩]
    nextId := s.nextId + 1
    caused := s.caused ++ cause.toList }

/-- The run is not there or not running, it is marked, or its node is entered. -/
theorem executeNode_cases (s : EngineState) (i runId nodeId : ℕ) (cause : Option ℕ) (now : ℤ) :
    (executeNode s i runId nodeId cause now = s.setThread i .done ∧
        ∀ run, s.run runId = some run → run.status ≠ .running) ∨
      (∃ message, executeNode s i runId nodeId cause now = s.setThread i (.mark runId (some message))) ∨
      ∃ run node, s.run runId = some run ∧ s.db.node nodeId = some node ∧
        run.visitCounts node.id + 1 ≤ maxNodeVisits ∧
        executeNode s i runId nodeId cause now = entered s i run node cause now := by
  unfold executeNode
  cases hrun : s.run runId with
  | none => exact .inl ⟨rfl, fun run h => by cases h⟩
  | some run =>
      dsimp only
      by_cases hstatus : run.status ≠ .running
      · rw [if_pos hstatus]
        refine .inl ⟨rfl, fun run' h => ?_⟩
        rwa [← Option.some.inj h]
      · rw [if_neg hstatus]
        cases hnode : s.db.node nodeId with
        | none => exact .inr (.inl ⟨_, rfl⟩)
        | some node =>
            obtain rfl : run.id = runId := key_of_get hrun
            obtain rfl : node.id = nodeId := key_of_get hnode
            dsimp only
            rw [Function.update_self]
            by_cases hvisits : maxNodeVisits < run.visitCounts node.id + 1
            · rw [if_pos hvisits]
              exact .inr (.inl ⟨_, rfl⟩)
            · rw [if_neg hvisits]
              rw [not_lt] at hvisits
              exact .inr (.inr ⟨run, node, rfl, rfl, hvisits, rfl⟩)

/-- What an executor does to the task: it completes the node, stamps its cooldown, waits for a timer or has
commands to enqueue. -/
inductive ExecutorStep (s : EngineState) (i : ℕ) (run : RunRow) (node : NodeRow) (nodeRunId : ℕ) :
    EngineState → Prop
  | complete (db : GraphDb) (r : NodeResult) (outcome : NodeOutcome) (next : Next) :
      ExecutorStep s i run node nodeRunId { s with
        db := db
        threads := s.threads.set i (.complete ⟨run.id, node.id, nodeRunId⟩ r outcome next false) }
  | stamp (db : GraphDb) :
      ExecutorStep s i run node nodeRunId { s with
        db := db
        threads := s.threads.set i (.stamp run node nodeRunId) }
  | sleep (db : GraphDb) :
      ExecutorStep s i run node nodeRunId { s with
        db := db
        threads := s.threads.set i .done
        timers := s.timers ++ [nodeRunId] }
  | enqueue (db : GraphDb) (command : CommandTemplate) (targets : List ℕ) (hne : targets ≠ [])
      (hlen : targets.length ≤ s.db.devices.length) :
      ExecutorStep s i run node nodeRunId { s with
        db := db
        threads := s.threads.set i (.enqueue run node nodeRunId command targets)
        fanOuts :=
          if 1 < targets.length then
            Function.update s.fanOuts nodeRunId (some ⟨targets.length, 0, none, [], []⟩)
          else s.fanOuts }

theorem length_targetsOf_le (db : GraphDb) (run : RunRow) (node : NodeRow) :
    (targetsOf db run node).length ≤ db.devices.length := by
  unfold targetsOf validateTargetsInTenant
  dsimp only
  rw [List.length_map]
  exact (List.length_filter_le _ _).trans (List.length_filter_le _ _)

/-- No executor goes on to enqueue for no target. -/
theorem targets_ne_nil {db db' : GraphDb} {run : RunRow} {node : NodeRow} {command : CommandTemplate}
    {targets : List ℕ} (h : startExecutor db run node now = some (db', .enqueue command targets)) :
    targets ≠ [] := by
  obtain ⟨rfl, htype, rfl⟩ := startExecutor_enqueue h
  intro hnil
  have hempty : (targetsOf db' run node).isEmpty = true := by rw [hnil, List.isEmpty_nil]
  unfold startExecutor at h
  cases hnode : node.type with
  | runScript =>
      simp only [hnode, execRunScript, hempty, if_true, Option.some.injEq, Prod.mk.injEq] at h
      obtain ⟨-, h⟩ := h
      split at h
      · cases h
      · split at h <;> cases h
  | runCommand =>
      simp only [hnode, execRunCommand, hempty, if_true, Option.some.injEq, Prod.mk.injEq] at h
      obtain ⟨-, h⟩ := h
      split at h <;> cases h
  | _ => simp [runsCommands, hnode] at htype

theorem runExecutor_cases (s : EngineState) (i : ℕ) (run : RunRow) (node : NodeRow) (nodeRunId : ℕ) (now : ℤ) :
    ExecutorStep s i run node nodeRunId (runExecutor s i run node nodeRunId now) := by
  unfold runExecutor
  dsimp only
  cases hstep : startExecutor s.db run node now with
  | none => exact .complete s.db _ _ _
  | some next =>
      obtain ⟨db, step⟩ := next
      cases step with
      | done exitCode => exact .complete db _ _ _
      | terminate success exitCode message =>
          cases success
          · exact .complete db _ _ _
          · exact .complete db _ _ _
      | sleep delayMs => exact .sleep db
      | pass => exact .stamp db
      | throws message => exact .complete db _ _ _
      | enqueue command targets =>
          have hne := targets_ne_nil hstep
          obtain ⟨rfl, -, rfl⟩ := startExecutor_enqueue hstep
          have henqueue : ExecutorStep s i run node nodeRunId _ :=
            .enqueue s.db command _ hne (length_targetsOf_le s.db run node)
          dsimp only
          split_ifs with hmany
          · rw [if_pos hmany] at henqueue
            exact henqueue
          · rw [if_neg hmany] at henqueue
            exact henqueue

/-- The run is not there, it is marked, or the task goes on to another node. -/
theorem advance_cases (s : EngineState) (i : ℕ) (v : Visit) (exitCode : Option ℤ) (byAck : Bool) :
    ∃ advanced th, advance s i v exitCode byAck =
        { s with threads := s.threads.set i th, advanced := advanced } ∧
      (th = .done ∧ s.run v.runId = none ∨ th = .mark v.runId none ∨
        ∃ nodeId cause, th = .execute v.runId nodeId cause) := by
  unfold advance
  dsimp only
  cases hrun : ({ s with advanced := s.advanced ++ (if byAck then [v.nodeRunId] else []) } :
      EngineState).run v.runId with
  | none => exact ⟨_, _, rfl, .inl ⟨rfl, hrun⟩⟩
  | some run =>
      dsimp only
      by_cases hsingle : isSingleNode run = true
      · rw [if_pos hsingle]
        exact ⟨_, _, rfl, .inr (.inl rfl)⟩
      · rw [if_neg hsingle]
        cases pickNextEdge s.db.edges run.scenarioId v.nodeId exitCode with
        | none => exact ⟨_, _, rfl, .inr (.inl rfl)⟩
        | some e => exact ⟨_, _, rfl, .inr (.inr ⟨_, _, rfl⟩)⟩

theorem readAck_cases (s : EngineState) (i nodeRunId : ℕ) (r : NodeResult) :
    ∃ th, readAck s i nodeRunId r = s.setThread i th ∧
      (th = .done ∨ ∃ v, th = .complete v r .success .advance true) := by
  unfold readAck
  split
  · exact ⟨_, rfl, .inl rfl⟩
  · split
    · exact ⟨_, rfl, .inl rfl⟩
    · split_ifs
      · exact ⟨_, rfl, .inl rfl⟩
      · exact ⟨_, rfl, .inr ⟨_, rfl⟩⟩

theorem failThread_cases {message : String} (h : failThread s i message = some t) :
    ∃ run node nodeRunId, t = s.setThread i (failNode ⟨run.id, node.id, nodeRunId⟩ node message) ∧
      (s.threads[i]? = some (.executor run node nodeRunId) ∨ s.threads[i]? = some (.stamp run node nodeRunId) ∨
        ∃ command targets, s.threads[i]? = some (.enqueue run node nodeRunId command targets)) := by
  unfold failThread at h
  split at h
  · rename_i run node nodeRunId hth
    exact ⟨run, node, nodeRunId, (Option.some.inj h).symm, .inl hth⟩
  · rename_i run node nodeRunId hth
    exact ⟨run, node, nodeRunId, (Option.some.inj h).symm, .inr (.inl hth)⟩
  · rename_i run node nodeRunId command targets hth
    exact ⟨run, node, nodeRunId, (Option.some.inj h).symm, .inr (.inr ⟨command, targets, hth⟩)⟩
  · cases h

end Cases

end Obliance.Scenario

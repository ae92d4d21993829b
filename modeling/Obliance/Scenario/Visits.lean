import Obliance.Lib.CappedTally
import Obliance.Lib.Progress
import Obliance.Scenario.Tasks

/-!
# How often a run visits a node (`services/scenarioGraph.service.ts`)

* `Visited` : a step leaves the visit counts and node runs, starts a run or enters a node;
* `Counted`, `counted_visited` : a run counts its node runs, up to the cap;
* `EngineState.fuel`, `runTask_fuel` : a statement of a task uses up what the runs may still visit, or brings
  its task nearer to its end;
* `tasks_length_le` : so the tasks run no longer than that.
-/

namespace Obliance.Scenario
open GuardedRun KeyedTable CappedTally Obliance.Commands

def visitsOf (r : RunRow) : ℕ × (ℕ → ℕ) := (r.id, r.visitCounts)

def visitKey (nr : NodeRunRow) : ℕ × ℕ := (nr.runId, nr.nodeId)

/-- The runs keep their counts; node runs are rewritten or deleted. -/
structure CountsKept (s t : EngineState) : Prop where
  runs : t.runs.map visitsOf = s.runs.map visitsOf
  nodeRuns : (t.nodeRuns.map visitKey).Sublist (s.nodeRuns.map visitKey)

/-- What a step does to the counts of the runs and to the node runs. -/
inductive Visited (s t : EngineState) : Prop
  | kept (h : CountsKept s t)
  | started {run : RunRow} (hfresh : visitsOf run = (s.nextId, fun _ => 0)) (hstatus : run.status ≠ .pending)
      (hruns : t.runs = s.runs ++ [run]) (hrows : t.nodeRuns = s.nodeRuns)
  | entered {i : ℕ} {run : RunRow} {node : NodeRow} {cause : Option ℕ} {now : ℤ} (hrun : s.run run.id = some run)
      (hcap : run.visitCounts node.id + 1 ≤ maxNodeVisits) (ht : t = entered s i run node cause now)

/-- How much a task has still to do at its node, for a number of devices: the commands of an executor are for
devices, and `execute` only goes on to an executor by a visit. -/
def Thread.weight (devices : ℕ) : Thread → ℕ
  | .done => 0
  | .mark _ _ | .cancelCommands _ => 1
  | .execute _ _ _ | .cancelNodes _ => 2
  | .advance _ _ _ | .cancelRun _ => 3
  | .mirror _ _ _ _ => 4
  | .complete _ _ _ _ _ => 5
  | .ack _ _ | .stamp _ _ _ => 6
  | .enqueue _ _ _ _ targets => targets.length + 6
  | .executor _ _ _ => devices + 7

/-- The task goes on with less to do, and no visit is made. -/
def Lighter (s : EngineState) (i : ℕ) (task : Thread) (t : EngineState) : Prop :=
  CountsKept s t ∧ ∃ th, t.threads = s.threads.set i th ∧
    th.weight s.db.devices.length < task.weight s.db.devices.length

section Steps
variable {s t : EngineState} {i nodeRunId : ℕ} {now : ℤ} {r : NodeResult}

theorem CountsKept.of_eq (hruns : t.runs = s.runs) (hrows : t.nodeRuns = s.nodeRuns) : CountsKept s t :=
  ⟨by rw [hruns], by rw [hrows]⟩

theorem CountsKept.of_nodeRuns {f : NodeRunRow → NodeRunRow} (hf : ∀ nr, visitKey (f nr) = visitKey nr)
    (hruns : t.runs = s.runs) (hrows : t.nodeRuns = s.nodeRuns.map f) : CountsKept s t := by
  refine ⟨by rw [hruns], ?_⟩
  rw [hrows, List.map_map]
  exact (List.map_congr_left fun nr _ => hf nr) ▸ .refl _

theorem CountsKept.of_modifyRun {id : ℕ} {f : RunRow → RunRow} (hf : ∀ r, visitsOf (f r) = visitsOf r)
    (hruns : t.runs = modify RunRow.id s.runs id f) (hrows : t.nodeRuns = s.nodeRuns) : CountsKept s t := by
  refine ⟨?_, by rw [hrows]⟩
  rw [hruns, KeyedTable.modify, List.map_map]
  refine List.map_congr_left fun r _ => ?_
  by_cases hr : r.id = id
  · simp [hr, hf]
  · simp [hr]

theorem startAck_nodeRuns : (startAck s nodeRunId r).nodeRuns = s.nodeRuns := by
  rcases startAck_cases s nodeRunId r with ⟨fanOuts, heq⟩ | ⟨fanOuts, result, heq⟩ <;> rw [heq]

theorem startRun_visited {scenarioId deviceId : ℕ} {opts : StartOpts} {denial : Option String} {record : Bool} :
    Visited s (startRun s scenarioId deviceId opts denial record) := by
  have hstarted (scenario : ScenarioRow) (status : RunStatus) (message : Option String) (hs : status ≠ .pending)
      (opts : StartOpts) (u : EngineState) (hu : u.runs = s.runs ++ [newRun s scenario deviceId opts status message])
      (hrows : u.nodeRuns = s.nodeRuns) : Visited s u := by
    have hfresh : visitsOf (newRun s scenario deviceId opts status message) = (s.nextId, fun _ => 0) := rfl
    exact .started hfresh hs hu hrows
  unfold startRun
  split
  · exact .kept (.of_eq rfl rfl)
  · dsimp only
    split
    · exact .kept (.of_eq rfl rfl)
    · split
      · split
        · exact hstarted _ .cancelled _ (by decide) _ _ rfl rfl
        · exact .kept (.of_eq rfl rfl)
      · split
        · exact .kept (.of_eq rfl rfl)
        · exact hstarted _ .running _ (by decide) _ _ rfl rfl
        · split
          · exact hstarted _ .running _ (by decide) _ _ rfl rfl
          · exact hstarted _ .running _ (by decide) _ _ rfl rfl

theorem runExecutor_lighter {run : RunRow} {node : NodeRow} :
    Lighter s i (.executor run node nodeRunId) (runExecutor s i run node nodeRunId now) := by
  have hcases := runExecutor_cases s i run node nodeRunId now
  generalize runExecutor s i run node nodeRunId now = t at hcases ⊢
  cases hcases with
  | complete db r outcome next =>
      refine ⟨.of_eq rfl rfl, _, rfl, ?_⟩
      simp only [Thread.weight]
      omega
  | stamp db =>
      refine ⟨.of_eq rfl rfl, _, rfl, ?_⟩
      simp only [Thread.weight]
      omega
  | sleep db =>
      refine ⟨.of_eq rfl rfl, _, rfl, ?_⟩
      simp only [Thread.weight]
      omega
  | enqueue db command targets hne hlen =>
      refine ⟨.of_eq rfl rfl, _, rfl, ?_⟩
      simp only [Thread.weight]
      omega

theorem weight_next (next : Next) (v : Visit) (exitCode : Option ℤ) (byAck : Bool) (devices : ℕ) :
    (next.thread v exitCode byAck).weight devices < 4 := by
  cases next <;> simp [Next.thread, Thread.weight]

/-- A statement of a task makes no visit and leaves it less to do, or it enters a node. -/
theorem runTask_lighter {task : Thread} (h : runTask s i now task = some t) :
    Lighter s i task t ∨ ∃ run node cause, task = .execute run.id node.id cause ∧ s.run run.id = some run ∧
      s.db.node node.id = some node ∧ run.visitCounts node.id + 1 ≤ maxNodeVisits ∧
        t = entered s i run node cause now := by
  cases task with
  | ack nodeRunId r =>
      obtain rfl := Option.some.inj h
      obtain ⟨th, heq, hth⟩ := readAck_cases s i nodeRunId r
      rw [heq]
      refine .inl ⟨.of_eq rfl rfl, th, rfl, ?_⟩
      rcases hth with rfl | ⟨v, rfl⟩ <;> simp [Thread.weight]
  | complete v r outcome next byAck =>
      obtain rfl := Option.some.inj h
      refine .inl ⟨.of_nodeRuns (f := fun nr => if nr.id = v.nodeRunId then
        { nr with status := outcome.status, result := r, finishedAt := some now } else nr) (fun nr => ?_) rfl rfl,
        _, rfl, by simp [Thread.weight]⟩
      split_ifs <;> rfl
  | mirror v r next byAck =>
      obtain rfl := Option.some.inj h
      refine .inl ⟨.of_modifyRun ?_ rfl rfl, _, rfl, weight_next _ _ _ _ _⟩
      exact fun _ => rfl
  | advance v exitCode byAck =>
      obtain rfl := Option.some.inj h
      obtain ⟨advanced, th, heq, hth⟩ := advance_cases s i v exitCode byAck
      rw [heq]
      refine .inl ⟨.of_eq rfl rfl, th, rfl, ?_⟩
      rcases hth with ⟨rfl, -⟩ | rfl | ⟨nodeId, cause, rfl⟩ <;> simp [Thread.weight]
  | execute runId nodeId cause =>
      obtain rfl := Option.some.inj h
      rcases executeNode_cases s i runId nodeId cause now with
        ⟨heq, -⟩ | ⟨message, heq⟩ | ⟨run, node, hrun, hnode, hcap, heq⟩ <;> rw [heq]
      · exact .inl ⟨.of_eq rfl rfl, _, rfl, by simp [Thread.weight]⟩
      · exact .inl ⟨.of_eq rfl rfl, _, rfl, by simp [Thread.weight]⟩
      · obtain rfl : run.id = runId := key_of_get hrun
        obtain rfl : node.id = nodeId := key_of_get hnode
        exact .inr ⟨run, node, cause, rfl, hrun, hnode, hcap, rfl⟩
  | executor run node nodeRunId => exact Option.some.inj h ▸ .inl runExecutor_lighter
  | stamp run node nodeRunId =>
      exact Option.some.inj h ▸ .inl ⟨.of_eq rfl rfl, _, rfl, by simp [Thread.weight]⟩
  | enqueue run node nodeRunId command targets =>
      cases targets with
      | nil => exact Option.some.inj h ▸ .inl ⟨.of_eq rfl rfl, _, rfl, by simp [Thread.weight]⟩
      | cons target rest => exact Option.some.inj h ▸ .inl ⟨.of_eq rfl rfl, _, rfl, by simp [Thread.weight]⟩
  | mark runId failure =>
      obtain rfl := Option.some.inj h
      cases failure <;> refine .inl ⟨.of_modifyRun ?_ rfl rfl, _, rfl, by simp [Thread.weight]⟩ <;> exact fun _ => rfl
  | cancelRun runId =>
      obtain rfl := Option.some.inj h
      refine .inl ⟨.of_modifyRun ?_ rfl rfl, _, rfl, by simp [Thread.weight]⟩
      exact fun _ => rfl
  | cancelNodes runId =>
      obtain rfl := Option.some.inj h
      refine .inl ⟨.of_nodeRuns (fun nr => ?_) rfl rfl, _, rfl, by simp [Thread.weight]⟩
      split_ifs <;> rfl
  | cancelCommands nodeRunIds =>
      exact Option.some.inj h ▸ .inl ⟨.of_eq rfl rfl, _, rfl, by simp [Thread.weight]⟩
  | done => cases h

theorem engineStep_visited {op : EngineOp} (h : engineStep s op = some t) : Visited s t := by
  cases op with
  | startRun scenarioId deviceId opts denial record => exact Option.some.inj h ▸ startRun_visited
  | run i now =>
      obtain ⟨task, -, htask⟩ := Option.bind_eq_some_iff.1 h
      rcases runTask_lighter htask with hlighter | ⟨run, node, cause, -, hrun, -, hcap, rfl⟩
      · exact .kept hlighter.1
      · exact .entered hrun hcap rfl
  | fail i message =>
      obtain ⟨run, node, nodeRunId, rfl, -⟩ := failThread_cases h
      exact .kept (.of_eq rfl rfl)
  | ack deviceId a now =>
      obtain rfl := Option.some.inj h
      rcases ackCommand_cases s deviceId a now with heq | ⟨id, s', rfl, heq | ⟨nodeRunId, r, heq⟩⟩ <;> rw [heq]
      · exact .kept (.of_eq rfl rfl)
      · exact .kept (.of_eq rfl rfl)
      · exact .kept (.of_eq startAck_runs startAck_nodeRuns)
  | notifyTimeout =>
      obtain ⟨rest, s', rfl, rfl | ⟨nodeRunId, r, rfl⟩⟩ := notifyTimeout_cases h
      · exact .kept (.of_eq rfl rfl)
      · exact .kept (.of_eq startAck_runs startAck_nodeRuns)
  | fire nodeRunId =>
      simp only [engineStep] at h
      split_ifs at h
      exact Option.some.inj h ▸ .kept (.of_eq startAck_runs startAck_nodeRuns)
  | cancelRun runId tenantId =>
      obtain rfl := Option.some.inj h
      unfold startCancel
      split
      · exact .kept (.of_eq rfl rfl)
      · split_ifs <;> exact .kept (.of_eq rfl rfl)
  | edit db =>
      obtain rfl := Option.some.inj h
      refine .kept ⟨?_, List.filter_sublist.map visitKey⟩
      rw [editGraph, List.map_map]
      exact List.map_congr_left fun r _ => rfl
  | rearm now =>
      simp only [engineStep] at h
      split_ifs at h
      obtain rfl := Option.some.inj h
      exact rearmWaitTimers_induction (R := fun s t => t.runs = s.runs ∧ t.nodeRuns = s.nodeRuns)
        (fun _ => ⟨rfl, rfl⟩) (fun h h' => ⟨h'.1.trans h.1, h'.2.trans h.2⟩)
        (fun _ _ _ => ⟨startAck_runs, startAck_nodeRuns⟩) (fun _ _ _ => ⟨rfl, rfl⟩) s now |>.elim fun hruns hrows =>
          .kept (.of_eq hruns hrows)
  | expire now | restart => exact Option.some.inj h ▸ .kept (.of_eq rfl rfl)

end Steps

/-! ## The counts -/

/-- Each run counts its node runs. -/
def Counted (s : EngineState) : Prop := Tally maxNodeVisits (s.runs.map visitsOf) (s.nodeRuns.map visitKey)

section Counted
variable {s t : EngineState}

theorem map_fst_visitsOf (s : EngineState) : (s.runs.map visitsOf).map Prod.fst = s.runs.map RunRow.id := by
  rw [List.map_map]
  rfl

theorem mem_visitsOf {run : RunRow} (h : s.run run.id = some run) : (run.id, run.visitCounts) ∈ s.runs.map visitsOf :=
  List.mem_map.2 ⟨run, mem_of_get h, rfl⟩

theorem entered_runs {i : ℕ} {run : RunRow} {node : NodeRow} {cause : Option ℕ} {now : ℤ} :
    (entered s i run node cause now).runs.map visitsOf =
      visit (s.runs.map visitsOf) run.id run.visitCounts node.id := by
  unfold entered visit KeyedTable.modify
  rw [List.map_map, List.map_map]
  refine List.map_congr_left fun r _ => ?_
  by_cases hr : r.id = run.id
  · simp [visitsOf, hr]
  · simp [visitsOf, hr]

theorem counted_visited (h : Counted s) (hused : RowsUsed s) (hv : Visited s t) : Counted t := by
  cases hv with
  | kept hkept =>
      unfold Counted
      rw [hkept.runs]
      exact h.sublist hkept.nodeRuns
  | started hfresh hstatus hruns hrows =>
      unfold Counted
      rw [hruns, hrows, List.map_append, List.map_singleton, hfresh]
      refine h.start fun hmem => ?_
      rw [map_fst_visitsOf] at hmem
      obtain ⟨r, hr, hid⟩ := List.mem_map.1 hmem
      exact (hused.runs r hr).ne hid
  | entered hrun hcap ht =>
      unfold Counted
      rw [ht, entered_runs, entered, List.map_append, List.map_singleton]
      exact h.visit (mem_visitsOf hrun) hcap

end Counted

/-! ## The tasks use up the fuel -/

/-- The visits the runs may still make of the nodes there are. -/
def EngineState.visitsLeft (s : EngineState) : ℕ :=
  left maxNodeVisits (s.db.nodes.map NodeRow.id) (s.runs.map visitsOf)

/-- A visit pays for the executor it leads to. -/
def EngineState.fuel (s : EngineState) : ℕ :=
  s.visitsLeft * (s.db.devices.length + 6) + (s.threads.map (Thread.weight s.db.devices.length)).sum

section Fuel
variable {s t : EngineState} {i : ℕ} {now : ℤ} {task : Thread}

theorem sum_map_set {α : Type} {l : List α} {i : ℕ} {a b : α} (w : α → ℕ) (h : l[i]? = some a) :
    ((l.set i b).map w).sum + w a = (l.map w).sum + w b := by
  induction l generalizing i with
  | nil => cases h
  | cons x l ih =>
      cases i with
      | zero =>
          obtain rfl := Option.some.inj h
          simp only [List.set_cons_zero, List.map_cons, List.sum_cons]
          omega
      | succ i =>
          have htail := ih (i := i) h
          simp only [List.set_cons_succ, List.map_cons, List.sum_cons]
          omega

theorem runTask_places (h : runTask s i now task = some t) :
    t.db.nodes = s.db.nodes ∧ t.db.devices.length = s.db.devices.length := by
  obtain ⟨f, cooldowns, -, hdb⟩ := runTask_rewrites h
  rw [hdb]
  exact ⟨rfl, List.length_map _⟩

theorem Lighter.fuel_lt (h : Lighter s i task t) (hth : s.threads[i]? = some task)
    (hplaces : t.db.nodes = s.db.nodes ∧ t.db.devices.length = s.db.devices.length) : t.fuel < s.fuel := by
  obtain ⟨hkept, th, hthreads, hweight⟩ := h
  have hsum := sum_map_set (b := th) (Thread.weight s.db.devices.length) hth
  unfold EngineState.fuel EngineState.visitsLeft
  rw [hplaces.1, hplaces.2, hkept.runs, hthreads]
  omega

theorem entered_fuel_lt {run : RunRow} {node : NodeRow} {cause : Option ℕ} (hs : Counted s)
    (hth : s.threads[i]? = some (.execute run.id node.id cause)) (hrun : s.run run.id = some run)
    (hnode : s.db.node node.id = some node) (hcap : run.visitCounts node.id + 1 ≤ maxNodeVisits) :
    (entered s i run node cause now).fuel < s.fuel := by
  have hvisits : (entered s i run node cause now).visitsLeft < s.visitsLeft := by
    unfold EngineState.visitsLeft
    rw [entered_runs]
    exact left_visit_lt hs.keyed (mem_visitsOf hrun) (List.mem_map_of_mem (mem_of_get hnode)) hcap
  have hsum := sum_map_set (b := .executor run node s.nextId) (Thread.weight s.db.devices.length) hth
  simp only [Thread.weight] at hsum
  have hpaid : ((entered s i run node cause now).visitsLeft + 1) * (s.db.devices.length + 6) ≤
      s.visitsLeft * (s.db.devices.length + 6) := Nat.mul_le_mul_right _ hvisits
  rw [Nat.add_mul] at hpaid
  have hunfold : (entered s i run node cause now).fuel =
      (entered s i run node cause now).visitsLeft * (s.db.devices.length + 6) +
        ((s.threads.set i (.executor run node s.nextId)).map (Thread.weight s.db.devices.length)).sum := rfl
  rw [hunfold, EngineState.fuel]
  omega

theorem runTask_fuel (hs : Counted s) (hth : s.threads[i]? = some task) (h : runTask s i now task = some t) :
    t.fuel < s.fuel := by
  rcases runTask_lighter h with hlighter | ⟨run, node, cause, rfl, hrun, hnode, hcap, rfl⟩
  · exact hlighter.fuel_lt hth (runTask_places h)
  · exact entered_fuel_lt hs hth hrun hnode hcap

theorem failThread_fuel {message : String} (h : failThread s i message = some t) : t.fuel < s.fuel := by
  obtain ⟨run, node, nodeRunId, rfl, hth⟩ := failThread_cases h
  have hplaces : s.db.nodes = s.db.nodes ∧ s.db.devices.length = s.db.devices.length := ⟨rfl, rfl⟩
  rcases hth with hth | hth | ⟨command, targets, hth⟩
  · refine Lighter.fuel_lt ⟨.of_eq rfl rfl, _, rfl, ?_⟩ hth hplaces
    simp only [failNode, Thread.weight]
    omega
  · refine Lighter.fuel_lt ⟨.of_eq rfl rfl, _, rfl, ?_⟩ hth hplaces
    simp [failNode, Thread.weight]
  · refine Lighter.fuel_lt ⟨.of_eq rfl rfl, _, rfl, ?_⟩ hth hplaces
    simp only [failNode, Thread.weight]
    omega

end Fuel

/-- A statement of a task, or one that throws. -/
def EngineOp.isTask : EngineOp → Bool
  | .run _ _ | .fail _ _ => true
  | _ => false

/-! ## What every reachable state keeps -/

/-- Ids are used up, tasks know their rows, and runs count their node runs. -/
structure Sound (s : EngineState) : Prop extends EngineRows s where
  counted : Counted s
  status : ∀ id run, s.run id = some run → run.status ≠ .pending

section Sound
variable {s t : EngineState} {op : EngineOp}

theorem run_isSome_iff {id : ℕ} : (s.run id).isSome ↔ id ∈ s.runs.map RunRow.id := by
  rw [EngineState.run, get_isSome_iff, List.mem_map]

theorem ending_ne_pending {id : ℕ} {status : RunStatus} (h : ending s op = some (id, status)) : status ≠ .pending := by
  unfold ending at h
  split at h
  · obtain ⟨th, -, hth⟩ := Option.bind_eq_some_iff.1 h
    unfold Thread.ends at hth
    split at hth <;> cases hth <;> decide
  · cases h

/-- The run of an id is there already, or the step started it. -/
theorem Visited.known (h : Visited s t) {id : ℕ} {run : RunRow} (hrun : t.run id = some run)
    (hnone : s.run id = none) : run.status ≠ .pending := by
  have hids (hmap : t.runs.map RunRow.id = s.runs.map RunRow.id) : run.status ≠ .pending := by
    have hmem : id ∈ s.runs.map RunRow.id := hmap ▸ run_isSome_iff.1 (by rw [hrun]; rfl)
    rw [← run_isSome_iff, hnone] at hmem
    cases hmem
  cases h with
  | kept hkept => exact hids (by rw [← map_fst_visitsOf, hkept.runs, map_fst_visitsOf])
  | started hfresh hstatus hruns hrows =>
      have hmem : run ∈ t.runs := mem_of_get hrun
      rw [hruns] at hmem
      rcases List.mem_append.1 hmem with hold | hnew
      · exact absurd (key_of_get hrun) (get_eq_none_iff.1 hnone run hold)
      · rw [List.mem_singleton.1 hnew]
        exact hstatus
  | entered hrun hcap ht =>
      exact hids (by rw [← map_fst_visitsOf, ht, entered_runs, map_fst_visit, map_fst_visitsOf])

theorem Sound.step (h : Sound s) (hstep : engineStep s op = some t) : Sound t where
  toEngineRows := h.toEngineRows.moves (engineStep_moves hstep)
  counted := counted_visited h.counted h.toRowsUsed (engineStep_visited hstep)
  status id run hrun := by
    cases hold : s.run id with
    | none => exact (engineStep_visited hstep).known hrun hold
    | some run₀ =>
        obtain ⟨run', hrun', hstatus⟩ := engineStep_status hstep id run₀ hold
        obtain rfl := Option.some.inj (hrun.symm.trans hrun')
        rw [hstatus]
        cases hending : ending s op with
        | none => exact h.status id run₀ hold
        | some write =>
            obtain ⟨id', status⟩ := write
            unfold statusAfter
            dsimp only
            split_ifs
            · exact ending_ne_pending hending
            · exact h.status id run₀ hold

theorem sound_bootState (db : GraphDb) : Sound (bootState db) where
  runs _ h := absurd h List.not_mem_nil
  nodeRuns _ h := absurd h List.not_mem_nil
  commands _ h := absurd h List.not_mem_nil
  threads _ h := absurd h List.not_mem_nil
  counted := Tally.nil
  status _ _ h := by cases h

/-- From any state in which the counts are right, the tasks run no longer than the fuel. -/
theorem tasks_length_le (hs : Sound s) {ops : List EngineOp} (hops : ∀ op ∈ ops, op.isTask = true)
    (h : engineMachine.exec s ops = some t) : ops.length + t.fuel ≤ s.fuel := by
  refine Machine.length_add_le (I := Sound) EngineState.fuel (fun _ _ _ hs hstep => hs.step hstep) ?_ hs hops h
  intro s op t hs hop hstep
  cases op with
  | run i now =>
      obtain ⟨task, hth, htask⟩ := Option.bind_eq_some_iff.1 hstep
      exact runTask_fuel hs.counted hth htask
  | fail i message => exact failThread_fuel hstep
  | _ => cases hop

end Sound

/-- A task that is not done has a next statement. -/
theorem runThread_isSome {s : EngineState} {i : ℕ} {task : Thread} (hth : s.threads[i]? = some task)
    (hne : task ≠ .done) (now : ℤ) : (runThread s i now).isSome := by
  rw [runThread, hth, Option.bind_some]
  cases task with
  | done => exact absurd rfl hne
  | enqueue run node nodeRunId command targets => cases targets <;> rfl
  | _ => rfl

end Obliance.Scenario

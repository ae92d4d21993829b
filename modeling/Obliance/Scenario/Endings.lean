import Obliance.Scenario.Tasks

/-!
# Runs that have ended (`services/scenarioGraph.service.ts`)

`executeNode`, `handleNodeCommandAck` and `cancelRun` look at the status of the run, then await before they write
its end; `_completeNode` and `_advance` go on to write one without looking.

* `decision`, `looks` : the end a step decides on, and whether it looked at the run for it;
* `Orderly` : a decision without a look finds the run not ended otherwise, and no decision is taken while another
  task is about to write another end;
* `Endings` : what a task is about to write is no change of an ended run, and the tasks agree;
* `ended_runs_stay` : runs of the engine whose steps are orderly keep the ended runs, and after any other step two
  more change one.
-/

namespace Obliance.Scenario
open GuardedRun KeyedTable Obliance.Commands

/-! ## Decisions -/

/-- The run the next statement of a task decides to end, and how. -/
def Thread.decides (s : EngineState) : Thread → Option (ℕ × RunStatus)
  | .mirror v _ .succeed _ => some (v.runId, .success)
  | .mirror v _ (.fail _) _ => some (v.runId, .failure)
  | .advance v exitCode _ =>
      (s.run v.runId).bind fun run =>
        if isSingleNode run = true ∨ pickNextEdge s.db.edges run.scenarioId v.nodeId exitCode = none then
          some (v.runId, .success)
        else none
  | .execute runId nodeId _ =>
      (s.run runId).bind fun run =>
        if run.status = .running ∧ ∀ node ∈ s.db.node nodeId, maxNodeVisits < run.visitCounts nodeId + 1 then
          some (runId, .failure)
        else none
  | _ => none

/-- The run a step decides to end, and how. -/
def decision (s : EngineState) : EngineOp → Option (ℕ × RunStatus)
  | .run i _ => s.threads[i]?.bind (Thread.decides s)
  | .cancelRun runId tenantId =>
      (s.run runId).bind fun run =>
        if run.tenantId = tenantId ∧ (run.status = .pending ∨ run.status = .running) then some (runId, .cancelled)
        else none
  | _ => none

def Thread.looks : Thread → Bool
  | .execute _ _ _ => true
  | _ => false

/-- The step looks at the status of the run before it decides. -/
def looks (s : EngineState) : EngineOp → Bool
  | .run i _ => s.threads[i]?.any Thread.looks
  | _ => true

/-- The step decides on no end that is, or is about to be, another. -/
structure Orderly (s : EngineState) (op : EngineOp) : Prop where
  unended : looks s op = false → ∀ d ∈ decision s op, ∀ run ∈ s.run d.1,
    run.status.isTerminal = true → run.status = d.2
  alone : ∀ d ∈ decision s op, (s.run d.1).isSome = true →
    ∀ th ∈ s.threads, ∀ e ∈ th.ends, e.1 = d.1 → e.2 = d.2

instance (s : EngineState) (op : EngineOp) : Decidable (Orderly s op) :=
  decidable_of_iff
    ((looks s op = false → ∀ d ∈ decision s op, ∀ run ∈ s.run d.1,
        run.status.isTerminal = true → run.status = d.2) ∧
      ∀ d ∈ decision s op, (s.run d.1).isSome = true →
        ∀ th ∈ s.threads, ∀ e ∈ th.ends, e.1 = d.1 → e.2 = d.2)
    ⟨fun h => ⟨h.1, h.2⟩, fun h => ⟨h.1, h.2⟩⟩

section Decisions
variable {s : EngineState} {op : EngineOp} {d : ℕ × RunStatus}

/-- A step that looks finds the run not over. -/
theorem open_of_looks (hlooks : looks s op = true) (hd : decision s op = some d) {run : RunRow}
    (hrun : s.run d.1 = some run) : run.status.isTerminal = false := by
  cases op with
  | run i now =>
      obtain ⟨task, hth, hdecides⟩ := Option.bind_eq_some_iff.1 hd
      rw [looks, hth, Option.any_some] at hlooks
      cases task with
      | execute runId nodeId cause =>
          obtain ⟨run', hrun', hif⟩ := Option.bind_eq_some_iff.1 hdecides
          split at hif
          · rename_i hrunning
            obtain rfl := Option.some.inj hif
            rw [hrun', Option.some.injEq] at hrun
            rw [← hrun, hrunning.1]
            rfl
          · cases hif
      | _ => cases hlooks
  | cancelRun runId tenantId =>
      obtain ⟨run', hrun', hif⟩ := Option.bind_eq_some_iff.1 hd
      split at hif
      · rename_i hopen
        obtain rfl := Option.some.inj hif
        rw [hrun', Option.some.injEq] at hrun
        rcases hopen.2 with hstatus | hstatus <;> rw [← hrun, hstatus] <;> rfl
      · cases hif
  | _ => cases hd

/-- A step that decides on an end writes none. -/
theorem ending_of_decision (hd : decision s op = some d) : ending s op = none := by
  cases op with
  | run i now =>
      obtain ⟨task, hth, hdecides⟩ := Option.bind_eq_some_iff.1 hd
      rw [ending, hth, Option.bind_some]
      cases task with
      | mark runId failure => cases hdecides
      | cancelRun runId => cases hdecides
      | _ => rfl
  | _ => rfl

end Decisions

/-! ## The tasks after a step -/

/-- The run a task works on. -/
def Thread.runId : Thread → Option ℕ
  | .complete v _ _ _ _ | .mirror v _ _ _ | .advance v _ _ => some v.runId
  | .execute runId _ _ | .mark runId _ | .cancelRun runId => some runId
  | .executor run _ _ | .stamp run _ _ | .enqueue run _ _ _ _ => some run.id
  | .ack _ _ | .cancelNodes _ | .cancelCommands _ | .done => none

/-- The run of the task is there. -/
def Thread.Rooted (s : EngineState) (th : Thread) : Prop := ∀ id ∈ th.runId, (s.run id).isSome = true

/-- A task of a step: its run is there, and the end it is about to write is the one that was decided on. -/
def Thread.Follows (s : EngineState) (d : Option (ℕ × RunStatus)) (th : Thread) : Prop :=
  th.Rooted s ∧ (th.ends = none ∨ th.ends = d)

section Threads
variable {s t : EngineState} {i : ℕ} {now : ℤ} {d : Option (ℕ × RunStatus)} {th a : Thread}

theorem Thread.runId_of_ends {e : ℕ × RunStatus} (h : th.ends = some e) : th.runId = some e.1 := by
  cases th with
  | mark runId failure => cases failure <;> cases h <;> rfl
  | cancelRun runId => cases h; rfl
  | _ => cases h

theorem Thread.follows_of_none (h : a.runId = none) : a.Follows s d := by
  refine ⟨fun id hid => (Option.not_mem_none id (h ▸ hid)).elim, .inl ?_⟩
  cases hends : a.ends with
  | none => rfl
  | some e => rw [runId_of_ends hends] at h; cases h

/-- The task goes on with the run it had. -/
theorem Thread.Rooted.follows (h : th.Rooted s) (hrun : a.runId = th.runId)
    (hends : a.ends = none ∨ a.ends = d) : a.Follows s d :=
  ⟨fun id hid => h id (hrun ▸ hid), hends⟩

theorem follows_of_set (ha : a.Follows s d) : ∀ th ∈ s.threads.set i a, th ∈ s.threads ∨ th.Follows s d := by
  intro th hth
  rcases List.mem_or_eq_of_mem_set hth with hth | rfl
  · exact .inl hth
  · exact .inr ha

theorem follows_of_append (ha : a.Follows s d) : ∀ th ∈ s.threads ++ [a], th ∈ s.threads ∨ th.Follows s d := by
  intro th hth
  rcases List.mem_append.1 hth with hth | hth
  · exact .inl hth
  · exact .inr (List.mem_singleton.1 hth ▸ ha)

theorem startAck_tasks (s : EngineState) (nodeRunId : ℕ) (r : NodeResult) :
    ∀ th ∈ (startAck s nodeRunId r).threads, th ∈ s.threads ∨ th.runId = none := by
  rcases startAck_cases s nodeRunId r with ⟨fanOuts, heq⟩ | ⟨fanOuts, result, heq⟩ <;> rw [heq]
  · exact fun th hth => .inl hth
  · intro th hth
    rcases List.mem_append.1 hth with hth | hth
    · exact .inl hth
    · exact .inr (List.mem_singleton.1 hth ▸ rfl)

theorem readAck_follows {nodeRunId : ℕ} {r : NodeResult} :
    ∀ th ∈ (readAck s i nodeRunId r).threads, th ∈ s.threads ∨ th.Follows s d := by
  unfold readAck
  split
  · exact follows_of_set (Thread.follows_of_none rfl)
  · split
    · exact follows_of_set (Thread.follows_of_none rfl)
    · rename_i run hrun
      split
      · exact follows_of_set (Thread.follows_of_none rfl)
      · refine follows_of_set ⟨fun id hid => ?_, .inl rfl⟩
        rw [← Option.some.inj hid, hrun, Option.isSome_some]

theorem Thread.rooted_of_run {run : RunRow} {id : ℕ} (hrun : s.run id = some run) (ha : a.runId = some id) :
    a.Rooted s := by
  intro id' hid
  rw [ha, Option.mem_some_iff] at hid
  rw [← hid, hrun, Option.isSome_some]

theorem advance_follows {v : Visit} {exitCode : Option ℤ} {byAck : Bool} :
    ∀ th ∈ (advance s i v exitCode byAck).threads,
      th ∈ s.threads ∨ th.Follows s ((Thread.advance v exitCode byAck).decides s) := by
  unfold advance
  dsimp only
  split
  · exact follows_of_set (Thread.follows_of_none rfl)
  · rename_i run hrun
    replace hrun : s.run v.runId = some run := hrun
    rw [Thread.decides, hrun, Option.bind_some]
    split
    · rename_i hsingle
      refine follows_of_set ⟨Thread.rooted_of_run hrun rfl, .inr ?_⟩
      rw [if_pos (Or.inl hsingle)]
      rfl
    · split
      · rename_i hlast
        refine follows_of_set ⟨Thread.rooted_of_run hrun rfl, .inr ?_⟩
        rw [if_pos (Or.inr hlast)]
        rfl
      · exact follows_of_set ⟨Thread.rooted_of_run hrun rfl, .inl rfl⟩

theorem executeNode_follows {runId nodeId : ℕ} {cause : Option ℕ} :
    ∀ th ∈ (executeNode s i runId nodeId cause now).threads,
      th ∈ s.threads ∨ th.Follows s ((Thread.execute runId nodeId cause).decides s) := by
  unfold executeNode
  split
  · exact follows_of_set (Thread.follows_of_none rfl)
  · rename_i run hrun
    rw [Thread.decides, hrun, Option.bind_some]
    split
    · exact follows_of_set (Thread.follows_of_none rfl)
    · rename_i hstatus
      rw [not_not] at hstatus
      split
      · rename_i hnode
        rw [hnode, if_pos ⟨hstatus, fun node h => by cases h⟩]
        exact follows_of_set ⟨Thread.rooted_of_run hrun rfl, .inr rfl⟩
      · rename_i node hnode
        dsimp only
        rw [Function.update_self]
        split
        · rename_i hvisits
          rw [if_pos ⟨hstatus, fun _ _ => hvisits⟩]
          exact follows_of_set ⟨Thread.rooted_of_run hrun rfl, .inr rfl⟩
        · refine follows_of_set ⟨Thread.rooted_of_run hrun ?_, .inl rfl⟩
          exact congrArg some (key_of_get hrun)

theorem runExecutor_follows {run : RunRow} {node : NodeRow} {nodeRunId : ℕ}
    (hrun : (Thread.executor run node nodeRunId).Rooted s) :
    ∀ th ∈ (runExecutor s i run node nodeRunId now).threads, th ∈ s.threads ∨ th.Follows s d := by
  have hstep := runExecutor_cases s i run node nodeRunId now
  generalize runExecutor s i run node nodeRunId now = t at hstep
  cases hstep with
  | sleep db => exact follows_of_set (Thread.follows_of_none rfl)
  | complete db r outcome next => exact follows_of_set (hrun.follows rfl (.inl rfl))
  | stamp db => exact follows_of_set (hrun.follows rfl (.inl rfl))
  | enqueue db command targets => exact follows_of_set (hrun.follows rfl (.inl rfl))

/-- A statement of a task leaves the others, and the task follows it. -/
theorem runTask_follows {task : Thread} (hrooted : task.Rooted s) (h : runTask s i now task = some t) :
    ∀ th ∈ t.threads, th ∈ s.threads ∨ th.Follows s (task.decides s) := by
  cases task with
  | ack nodeRunId r => exact Option.some.inj h ▸ readAck_follows
  | complete v r outcome next byAck => exact Option.some.inj h ▸ follows_of_set (hrooted.follows rfl (.inl rfl))
  | mirror v r next byAck =>
      cases next with
      | advance => exact Option.some.inj h ▸ follows_of_set (hrooted.follows rfl (.inl rfl))
      | succeed => exact Option.some.inj h ▸ follows_of_set (hrooted.follows rfl (.inr rfl))
      | fail message => exact Option.some.inj h ▸ follows_of_set (hrooted.follows rfl (.inr rfl))
  | advance v exitCode byAck => exact Option.some.inj h ▸ advance_follows
  | execute runId nodeId cause => exact Option.some.inj h ▸ executeNode_follows
  | executor run node nodeRunId => exact Option.some.inj h ▸ runExecutor_follows hrooted
  | stamp run node nodeRunId => exact Option.some.inj h ▸ follows_of_set (hrooted.follows rfl (.inl rfl))
  | enqueue run node nodeRunId command targets =>
      cases targets with
      | nil => exact Option.some.inj h ▸ follows_of_set (Thread.follows_of_none rfl)
      | cons target rest => exact Option.some.inj h ▸ follows_of_set (hrooted.follows rfl (.inl rfl))
  | mark runId failure => exact Option.some.inj h ▸ follows_of_set (Thread.follows_of_none rfl)
  | cancelRun runId => exact Option.some.inj h ▸ follows_of_set (Thread.follows_of_none rfl)
  | cancelNodes runId => exact Option.some.inj h ▸ follows_of_set (Thread.follows_of_none rfl)
  | cancelCommands nodeRunIds => exact Option.some.inj h ▸ follows_of_set (Thread.follows_of_none rfl)
  | done => cases h

/-- A run is started with a task of its own, which may be about to fail it. -/
structure Starts (s t : EngineState) (th : Thread) : Prop where
  runId : th.runId = some s.nextId
  fails : ∀ e ∈ th.ends, e.2 = .failure
  row : ∃ run, t.runs = s.runs ++ [run] ∧ run.id = s.nextId ∧ run.status = .running

theorem startRun_tasks {scenarioId deviceId : ℕ} {opts : StartOpts} {denial : Option String} {record : Bool} :
    ∀ th ∈ (startRun s scenarioId deviceId opts denial record).threads,
      th ∈ s.threads ∨ Starts s (startRun s scenarioId deviceId opts denial record) th := by
  have hspawned {run : RunRow} {a : Thread} (hid : run.id = s.nextId) (hstatus : run.status = .running)
      (ha : a.runId = some s.nextId) (hfails : ∀ e ∈ a.ends, e.2 = .failure) : ∀ th ∈ s.threads ++ [a], th ∈ s.threads ∨
      Starts s { s with runs := s.runs ++ [run], nextId := s.nextId + 1, threads := s.threads ++ [a] } th := by
    intro th hth
    rcases List.mem_append.1 hth with hth | hth
    · exact .inl hth
    · rw [List.mem_singleton.1 hth]
      exact .inr ⟨ha, hfails, run, rfl, hid, hstatus⟩
  unfold startRun
  split
  · exact fun th hth => .inl hth
  · dsimp only
    split
    · exact fun th hth => .inl hth
    · split
      · split <;> exact fun th hth => .inl hth
      · split
        · exact fun th hth => .inl hth
        · exact hspawned rfl rfl rfl fun e he => by cases he
        · split
          · exact hspawned rfl rfl rfl fun e he => by cases he; rfl
          · exact hspawned rfl rfl rfl fun e he => by cases he

/-- **The tasks after a step**: those before, one that follows a decision, or one that starts a run. -/
theorem engineStep_tasks {op : EngineOp} (hrooted : ∀ th ∈ s.threads, th.Rooted s) (h : engineStep s op = some t) :
    ∀ th ∈ t.threads, th ∈ s.threads ∨ th.Follows s (decision s op) ∨ Starts s t th := by
  have hack {s' : EngineState} (hs' : s'.threads = s.threads) {nodeRunId : ℕ} {r : NodeResult} :
      ∀ th ∈ (startAck s' nodeRunId r).threads, th ∈ s.threads ∨ th.Follows s (decision s op) ∨
        Starts s t th := by
    intro th hth
    rcases startAck_tasks s' nodeRunId r th hth with hold | hnone
    · exact .inl (hs' ▸ hold)
    · exact .inr (.inl (Thread.follows_of_none hnone))
  cases op with
  | startRun scenarioId deviceId opts denial record =>
      obtain rfl := Option.some.inj h
      exact fun th hth => (startRun_tasks th hth).imp_right .inr
  | run i now =>
      obtain ⟨task, hth, htask⟩ := Option.bind_eq_some_iff.1 h
      rw [decision, hth, Option.bind_some]
      exact fun th hmem =>
        (runTask_follows (hrooted task (List.mem_of_getElem? hth)) htask th hmem).imp_right .inl
  | fail i message =>
      obtain ⟨run, node, nodeRunId, rfl, hth⟩ := failThread_cases h
      have hrun : (Thread.executor run node nodeRunId).Rooted s := by
        rcases hth with hth | hth | ⟨command, targets, hth⟩ <;> intro id hid <;>
          exact hrooted _ (List.mem_of_getElem? hth) id hid
      have hfollows : (failNode ⟨run.id, node.id, nodeRunId⟩ node message).Follows s none :=
        hrun.follows rfl (.inl rfl)
      exact fun th hmem => (follows_of_set hfollows th hmem).imp_right .inl
  | ack deviceId a now =>
      obtain rfl := Option.some.inj h
      rcases ackCommand_cases s deviceId a now with heq | ⟨id, s', hs', heq | ⟨nodeRunId, r, heq⟩⟩
      · exact fun th hth => .inl (by rwa [heq] at hth)
      · exact fun th hth => .inl (by rwa [heq, hs'] at hth)
      · exact fun th hth => hack (hs' ▸ rfl) th (heq ▸ hth)
  | notifyTimeout =>
      obtain ⟨rest, s', rfl, rfl | ⟨nodeRunId, r, rfl⟩⟩ := notifyTimeout_cases h
      · exact fun th hth => .inl hth
      · refine hack ?_
        rfl
  | fire nodeRunId =>
      simp only [engineStep] at h
      split at h
      · obtain rfl := Option.some.inj h
        refine hack ?_
        rfl
      · cases h
  | cancelRun runId tenantId =>
      obtain rfl := Option.some.inj h
      rw [decision]
      unfold startCancel
      split
      · exact fun th hth => .inl hth
      · rename_i run hrun
        rw [hrun, Option.bind_some]
        split
        · exact fun th hth =>
            (follows_of_append ⟨Thread.rooted_of_run hrun rfl, .inr rfl⟩ th hth).imp_right .inl
        · exact fun th hth => .inl hth
  | rearm now =>
      simp only [engineStep] at h
      split at h
      · cases h
      · obtain rfl := Option.some.inj h
        have htasks : ∀ th ∈ (rearmWaitTimers s now).threads, th ∈ s.threads ∨ th.runId = none :=
          rearmWaitTimers_induction (R := fun s t => ∀ th ∈ t.threads, th ∈ s.threads ∨ th.runId = none)
            (fun _ _ hth => .inl hth) (fun h h' th hth => (h' th hth).elim (h th) .inr) startAck_tasks
            (fun _ _ _ _ hth => .inl hth) s now
        exact fun th hth => (htasks th hth).imp_right fun hnone => .inl (Thread.follows_of_none hnone)
  | expire now | edit db =>
      obtain rfl := Option.some.inj h
      exact fun th hth => .inl hth
  | restart =>
      obtain rfl := Option.some.inj h
      exact fun th hth => (List.not_mem_nil hth).elim

end Threads

/-! ## What the tasks are about to write -/

/-- The runs of the tasks are there, no task is about to change an ended run, and those about to end one run
agree. -/
structure Endings (s : EngineState) : Prop extends EngineRows s where
  rooted : ∀ th ∈ s.threads, th.Rooted s
  unended : ∀ th ∈ s.threads, ∀ e ∈ th.ends, ∀ run ∈ s.run e.1, run.status.isTerminal = true → run.status = e.2
  agree : ∀ th ∈ s.threads, ∀ th' ∈ s.threads, ∀ e ∈ th.ends, ∀ e' ∈ th'.ends, e.1 = e'.1 → e.2 = e'.2

/-- Any database in which ids are used up to `nextId`, those of runs and commands too. -/
def endsMachine : Machine EngineState EngineOp where
  init s := engineMachine.init s ∧ RowsUsed s
  step := engineStep

section Endings
variable {s t : EngineState} {op : EngineOp} {write : Option (ℕ × RunStatus)}

theorem Endings.init (h : endsMachine.init s) : Endings s := by
  obtain ⟨⟨-, -, hthreads, -⟩, hrows⟩ := h
  have hnone : ∀ th ∈ s.threads, False := by
    rw [hthreads]
    exact fun th hth => List.not_mem_nil hth
  exact {
    toRowsUsed := hrows
    threads := fun th hth => (hnone th hth).elim
    rooted := fun th hth => (hnone th hth).elim
    unended := fun th hth => (hnone th hth).elim
    agree := fun th hth => (hnone th hth).elim }

theorem Writes.isSome (h : Writes write s t) {id : ℕ} (hid : (s.run id).isSome = true) :
    (t.run id).isSome = true := by
  obtain ⟨run, hrun⟩ := Option.isSome_iff_exists.1 hid
  obtain ⟨run', hrun', -⟩ := h id run hrun
  rw [hrun', Option.isSome_some]

/-- The row of a run that was there has its status, or the one that is written. -/
theorem Writes.row (h : Writes write s t) {id : ℕ} (hid : (s.run id).isSome = true) {run' : RunRow}
    (hrun' : t.run id = some run') : ∃ run, s.run id = some run ∧ run'.status = statusAfter write run := by
  obtain ⟨run, hrun⟩ := Option.isSome_iff_exists.1 hid
  obtain ⟨run'', hrun'', hstatus⟩ := h id run hrun
  rw [hrun', Option.some.injEq] at hrun''
  exact ⟨run, hrun, hrun'' ▸ hstatus⟩

theorem Endings.run_lt (h : Endings s) {id : ℕ} (hid : (s.run id).isSome = true) : id < s.nextId := by
  obtain ⟨run, hrun⟩ := Option.isSome_iff_exists.1 hid
  exact key_of_get hrun ▸ h.runs run (mem_of_get hrun)

theorem mem_of_ending {e : ℕ × RunStatus} (h : ending s op = some e) : ∃ th ∈ s.threads, th.ends = some e := by
  cases op with
  | run i now =>
      obtain ⟨th, hth, hends⟩ := Option.bind_eq_some_iff.1 h
      exact ⟨th, List.mem_of_getElem? hth, hends⟩
  | _ => cases h

/-- What a step is about to write, as the tasks after it say: an end a task was about to write before, the one the
step decided on, or the failure of the run it started. -/
inductive Due (s t : EngineState) (op : EngineOp) (e : ℕ × RunStatus) : Prop
  | before {th : Thread} (hth : th ∈ s.threads) (he : th.ends = some e)
  | decided (hrun : (s.run e.1).isSome = true) (hd : decision s op = some e)
  | started (hid : e.1 = s.nextId) (hstatus : e.2 = .failure) {run : RunRow} (hruns : t.runs = s.runs ++ [run])
      (hrun : run.id = s.nextId) (hrunning : run.status = .running)

theorem Endings.due (h : Endings s) (hstep : engineStep s op = some t) {th : Thread} (hth : th ∈ t.threads)
    {e : ℕ × RunStatus} (he : th.ends = some e) : Due s t op e := by
  have hid : th.runId = some e.1 := Thread.runId_of_ends he
  rcases engineStep_tasks h.rooted hstep th hth with hold | ⟨hrooted, hends⟩ | hstarts
  · exact .before hold he
  · rcases hends with hnone | hends
    · rw [hnone] at he
      cases he
    · exact .decided (hrooted e.1 hid) (hends ▸ he)
  · obtain ⟨run, hruns, hrun, hrunning⟩ := hstarts.row
    exact .started (Option.some.inj (hid.symm.trans hstarts.runId)) (hstarts.fails e he) hruns hrun hrunning

/-- What was about to be written before a step to a run that is there is no change after it. -/
theorem Endings.unended_next (h : Endings s) (hok : Orderly s op) (hstep : engineStep s op = some t)
    {e : ℕ × RunStatus} (hdue : Due s t op e) {run' : RunRow} (hrun' : t.run e.1 = some run')
    (hterminal : run'.status.isTerminal = true) : run'.status = e.2 := by
  have hwrites := engineStep_status hstep
  cases hdue with
  | before hth he =>
      obtain ⟨run, hrun, hstatus⟩ := hwrites.row (h.rooted _ hth e.1 (Thread.runId_of_ends he)) hrun'
      have hkept : run.status.isTerminal = true → run.status = e.2 := h.unended _ hth e he run hrun
      cases hending : ending s op with
      | none =>
          rw [hending, statusAfter] at hstatus
          rw [hstatus] at hterminal ⊢
          exact hkept hterminal
      | some e' =>
          rw [hending, statusAfter] at hstatus
          split at hstatus
          · rename_i hid
            obtain ⟨th', hth', he'⟩ := mem_of_ending hending
            rw [hstatus]
            exact h.agree th' hth' _ hth e' he' e he (hid.symm.trans (key_of_get hrun))
          · rw [hstatus] at hterminal ⊢
            exact hkept hterminal
  | decided hrun hd =>
      obtain ⟨run, hrun, hstatus⟩ := hwrites.row hrun hrun'
      rw [ending_of_decision hd, statusAfter] at hstatus
      rw [hstatus] at hterminal ⊢
      cases hlooks : looks s op with
      | false => exact hok.unended hlooks e hd run hrun hterminal
      | true =>
          rw [open_of_looks hlooks hd hrun] at hterminal
          cases hterminal
  | started hid hstatus hruns hrunId hrunning =>
      have hmem : run' ∈ t.runs := mem_of_get hrun'
      have hkey : run'.id = s.nextId := (key_of_get hrun').trans hid
      rw [hruns, List.mem_append, List.mem_singleton] at hmem
      rcases hmem with hold | rfl
      · exact absurd hkey (h.runs run' hold).ne
      · rw [hrunning] at hterminal
        cases hterminal

theorem Endings.agree_next (h : Endings s) (hok : Orderly s op) {e e' : ℕ × RunStatus} (hdue : Due s t op e)
    (hdue' : Due s t op e') (hid : e.1 = e'.1) : e.2 = e'.2 := by
  have hused {e : ℕ × RunStatus} {th : Thread} (hth : th ∈ s.threads) (he : th.ends = some e) :
      e.1 ≠ s.nextId := (h.run_lt (h.rooted th hth e.1 (Thread.runId_of_ends he))).ne
  cases hdue with
  | before hth he =>
      cases hdue' with
      | before hth' he' => exact h.agree _ hth _ hth' e he e' he' hid
      | decided hrun' hd' => exact hok.alone e' hd' hrun' _ hth e he hid
      | started hid' => exact absurd (hid.trans hid') (hused hth he)
  | decided hrun hd =>
      cases hdue' with
      | before hth' he' => exact (hok.alone e hd hrun _ hth' e' he' hid.symm).symm
      | decided hrun' hd' => rw [Option.some.inj (hd.symm.trans hd')]
      | started hid' => exact absurd (hid.trans hid') (h.run_lt hrun).ne
  | started hnext hstatus =>
      cases hdue' with
      | before hth' he' => exact absurd (hid.symm.trans hnext) (hused hth' he')
      | decided hrun' hd' => exact absurd (hid.symm.trans hnext) (h.run_lt hrun').ne
      | started hid' hstatus' => rw [hstatus, hstatus']

/-- **An orderly step keeps what the tasks are about to write**, no change of an ended run. -/
theorem Endings.step (h : Endings s) (hok : Orderly s op) (hstep : engineStep s op = some t) : Endings t where
  toEngineRows := h.toEngineRows.moves (engineStep_moves hstep)
  rooted th hth id hid := by
    have hwrites := engineStep_status hstep
    rcases engineStep_tasks h.rooted hstep th hth with hold | ⟨hrooted, -⟩ | hstarts
    · exact hwrites.isSome (h.rooted th hold id hid)
    · exact hwrites.isSome (hrooted id hid)
    · obtain ⟨run, hruns, hrun, -⟩ := hstarts.row
      rw [hstarts.runId, Option.mem_some_iff] at hid
      refine get_isSome_iff.2 ⟨run, ?_, hrun.trans hid⟩
      rw [hruns]
      exact List.mem_append_right _ (List.mem_singleton.2 rfl)
  unended th hth e he run hrun := h.unended_next hok hstep (h.due hstep hth he) hrun
  agree th hth th' hth' e he e' he' := h.agree_next hok (h.due hstep hth he) (h.due hstep hth' he')

/-- Where the tasks write no change, a step keeps the ended runs. -/
theorem Endings.keepsEnds (h : Endings s) (hstep : engineStep s op = some t) : KeepsEnds s t := by
  intro id run hrun hterminal
  obtain ⟨run', hrun', hstatus⟩ := engineStep_status hstep id run hrun
  refine ⟨run', hrun', hstatus.trans ?_⟩
  cases hending : ending s op with
  | none => rfl
  | some e =>
      obtain ⟨th, hth, he⟩ := mem_of_ending hending
      rw [statusAfter]
      split
      · rename_i hid
        have hsame : e.1 = id := hid.symm.trans (key_of_get hrun)
        exact (h.unended th hth e he run (hsame ▸ hrun) hterminal).symm
      · rfl

end Endings

/-! ## Steps that are not orderly -/

section Disorder
variable {s t : EngineState} {op : EngineOp} {d : ℕ × RunStatus}

theorem Thread.isTerminal_of_ends {th : Thread} (h : th.ends = some d) : d.2.isTerminal = true := by
  cases th with
  | mark runId failure => cases failure <;> cases h <;> rfl
  | cancelRun runId => cases h; rfl
  | _ => cases h

theorem runTask_decided {i : ℕ} {now : ℤ} {task : Thread} (h : runTask s i now task = some t)
    (hd : task.decides s = some d) : ∃ a, t.threads = s.threads.set i a ∧ a.ends = some d := by
  cases task with
  | mirror v r next byAck =>
      cases next with
      | advance => cases hd
      | succeed => exact ⟨.mark v.runId none, Option.some.inj h ▸ rfl, hd⟩
      | fail message => exact ⟨.mark v.runId (some message), Option.some.inj h ▸ rfl, hd⟩
  | advance v exitCode byAck =>
      obtain ⟨run, hrun, hif⟩ := Option.bind_eq_some_iff.1 hd
      split at hif
      · rename_i hlast
        refine ⟨.mark v.runId none, ?_, hif⟩
        obtain rfl := Option.some.inj h
        rw [EngineState.run] at hrun
        unfold advance
        dsimp only [EngineState.run]
        rw [hrun]
        dsimp only
        split
        · rfl
        · rename_i hmany
          rw [hlast.resolve_left hmany]
          rfl
      · cases hif
  | execute runId nodeId cause =>
      obtain ⟨run, hrun, hif⟩ := Option.bind_eq_some_iff.1 hd
      split at hif
      · rename_i hfails
        obtain rfl := Option.some.inj h
        unfold executeNode
        rw [hrun]
        dsimp only
        rw [if_neg (not_not.2 hfails.1)]
        split
        · exact ⟨.mark runId (some _), rfl, hif⟩
        · rename_i node hnode
          rw [Function.update_self, if_pos (hfails.2 node hnode)]
          exact ⟨.mark runId (some _), rfl, hif⟩
      · cases hif
  | _ => cases hd

/-- After a decision there is a task that is about to write it, besides those that were about to write. -/
theorem task_of_decision (hstep : engineStep s op = some t) (hd : decision s op = some d) :
    ∃ i a, t.threads[i]? = some a ∧ a.ends = some d ∧
      ∀ (j : ℕ) (th : Thread), s.threads[j]? = some th → th.ends ≠ none → t.threads[j]? = some th ∧ j ≠ i := by
  have hending := ending_of_decision hd
  cases op with
  | run i now =>
      obtain ⟨task, hth, hdecides⟩ := Option.bind_eq_some_iff.1 hd
      obtain ⟨task', hth', htask⟩ := Option.bind_eq_some_iff.1 hstep
      obtain rfl := Option.some.inj (hth.symm.trans hth')
      obtain ⟨a, hthreads, hends⟩ := runTask_decided htask hdecides
      obtain ⟨hlt, -⟩ := List.getElem?_eq_some_iff.1 hth
      refine ⟨i, a, ?_, hends, fun j th hj hwrites => ?_⟩
      · rw [hthreads, List.getElem?_set_self hlt]
      · have hne : i ≠ j := by
          rintro rfl
          rw [ending, hj, Option.bind_some] at hending
          exact hwrites hending
        rw [hthreads, List.getElem?_set_ne hne]
        exact ⟨hj, hne.symm⟩
  | cancelRun runId tenantId =>
      obtain ⟨run, hrun, hif⟩ := Option.bind_eq_some_iff.1 hd
      split at hif
      · rename_i hopen
        obtain rfl := Option.some.inj hstep
        have hthreads : (startCancel s runId tenantId).threads = s.threads ++ [.cancelRun runId] := by
          unfold startCancel
          rw [hrun]
          dsimp only
          rw [if_pos hopen]
          rfl
        refine ⟨s.threads.length, .cancelRun runId, ?_, hif, fun j th hj _ => ?_⟩
        · rw [hthreads, List.getElem?_concat_length]
        · obtain ⟨hlt, -⟩ := List.getElem?_eq_some_iff.1 hj
          rw [hthreads, List.getElem?_append_left hlt]
          exact ⟨hj, hlt.ne⟩
      · cases hif
  | _ => cases hd

/-- A task writes what it is about to write. -/
theorem write_of_task {i : ℕ} {th : Thread} (hth : s.threads[i]? = some th) (hends : th.ends = some d) :
    ∃ t, engineStep s (.run i 0) = some t ∧ Writes (some d) s t ∧ ∀ j ≠ i, t.threads[j]? = s.threads[j]? := by
  have hwrite {t : EngineState} {a : Thread} (htask : runTask s i 0 th = some t)
      (hthreads : t.threads = s.threads.set i a) :
      ∃ t, engineStep s (.run i 0) = some t ∧ Writes (some d) s t ∧ ∀ j ≠ i, t.threads[j]? = s.threads[j]? := by
    have hstep : engineStep s (.run i 0) = some t := Option.bind_eq_some_iff.2 ⟨th, hth, htask⟩
    have hending : ending s (.run i 0) = some d := by rw [ending, hth, Option.bind_some, hends]
    refine ⟨t, hstep, hending ▸ engineStep_status hstep, fun j hj => ?_⟩
    rw [hthreads, List.getElem?_set_ne hj.symm]
  cases th with
  | mark runId failure => exact hwrite rfl rfl
  | cancelRun runId => exact hwrite rfl rfl
  | _ => cases hends

/-- A run that has ended is written over. -/
theorem not_keepsEnds_of_write (hwrites : Writes (some d) s t) {run : RunRow} (hrun : s.run d.1 = some run)
    (hterminal : run.status.isTerminal = true) (hne : run.status ≠ d.2) : ¬ KeepsEnds s t := by
  intro hkeeps
  obtain ⟨run', hrun', hkept⟩ := hkeeps d.1 run hrun hterminal
  obtain ⟨run'', hrun'', hstatus⟩ := hwrites d.1 run hrun
  rw [hrun', Option.some.injEq] at hrun''
  rw [statusAfter, if_pos (key_of_get hrun), ← hrun'', hkept] at hstatus
  exact hne hstatus

/-- **After a step that is not orderly, two more change the status of an ended run.** -/
theorem ended_run_changes (hstep : engineStep s op = some t) (hnot : ¬ Orderly s op) :
    ∃ u v, Reach (engineMachine.startingAt t) anyStep u ∧ Reach (engineMachine.startingAt u) anyStep v ∧
      ¬ KeepsEnds u v := by
  have hsteps {s t : EngineState} {op : EngineOp} (h : engineStep s op = some t) :
      Reach (engineMachine.startingAt s) anyStep t := .next op (.start rfl) trivial h
  have hrow {d : ℕ × RunStatus} (hd : decision s op = some d) {run : RunRow} (hrun : s.run d.1 = some run) :
      ∃ run', t.run d.1 = some run' ∧ run'.status = run.status := by
    have hwrites := engineStep_status hstep
    rw [ending_of_decision hd] at hwrites
    exact hwrites d.1 run hrun
  by_cases hunended : looks s op = false → ∀ d ∈ decision s op, ∀ run ∈ s.run d.1,
      run.status.isTerminal = true → run.status = d.2
  · have halone : ¬ ∀ d ∈ decision s op, (s.run d.1).isSome = true →
        ∀ th ∈ s.threads, ∀ e ∈ th.ends, e.1 = d.1 → e.2 = d.2 := fun h => hnot ⟨hunended, h⟩
    push Not at halone
    obtain ⟨d, hd, hrun, th, hth, e, he, hid, hne⟩ := halone
    obtain ⟨run, hrun⟩ := Option.isSome_iff_exists.1 hrun
    obtain ⟨i, a, ha, hends, hothers⟩ := task_of_decision hstep hd
    obtain ⟨j, hj⟩ := List.mem_iff_getElem?.1 hth
    obtain ⟨hj', hji⟩ := hothers j th hj (by rw [he]; exact Option.some_ne_none e)
    -- the other task writes first, then the one that decided
    obtain ⟨u, hu, hwrites, hthreads⟩ := write_of_task hj' he
    obtain ⟨v, hv, hwrites', -⟩ := write_of_task (s := u) ((hthreads i hji.symm).trans ha) hends
    obtain ⟨run', hrun', -⟩ := hrow hd hrun
    obtain ⟨run'', hrun'', hstatus⟩ := hwrites d.1 run' hrun'
    rw [statusAfter, if_pos ((key_of_get hrun').trans hid.symm)] at hstatus
    refine ⟨u, v, hsteps hu, hsteps hv, not_keepsEnds_of_write hwrites' hrun'' ?_ ?_⟩
    · rw [hstatus]
      exact Thread.isTerminal_of_ends he
    · rwa [hstatus]
  · push Not at hunended
    obtain ⟨-, d, hd, run, hrun, hterminal, hne⟩ := hunended
    obtain ⟨i, a, ha, hends, -⟩ := task_of_decision hstep hd
    obtain ⟨v, hv, hwrites, -⟩ := write_of_task ha hends
    obtain ⟨run', hrun', hstatus⟩ := hrow hd hrun
    exact ⟨t, v, .start rfl, hsteps hv,
      not_keepsEnds_of_write hwrites hrun' (hstatus ▸ hterminal) (hstatus ▸ hne)⟩

end Disorder

/-- **A run that has ended stays as it ended** as long as the steps are orderly, and the first step that is not
can be followed by two that change an ended run. -/
theorem ended_runs_stay {s : EngineState} (hs : Reach endsMachine Orderly s) :
    (∀ t, Reach (engineMachine.startingAt s) Orderly t → KeepsEnds s t) ∧
      ∀ op t, engineStep s op = some t → ¬ Orderly s op →
        ∃ u v, Reach (engineMachine.startingAt t) anyStep u ∧ Reach (engineMachine.startingAt u) anyStep v ∧
          ¬ KeepsEnds u v := by
  have hendings : Endings s :=
    hs.invariant (fun _ => Endings.init) fun _ _ _ h hok hstep => h.step hok hstep
  refine ⟨fun t ht => ?_, fun op t hstep hnot => ended_run_changes hstep hnot⟩
  have hlater : Endings t ∧ KeepsEnds s t := by
    induction ht with
    | start heq =>
        rw [heq]
        exact ⟨hendings, fun id run hrun _ => ⟨run, hrun, rfl⟩⟩
    | next op _ hok hstep ih => exact ⟨ih.1.step hok hstep, ih.2.trans (ih.1.keepsEnds hstep)⟩
  exact hlater.2

/-! ## A cancellation in the middle of a node -/

/-- A trigger, then the end. -/
def shortScenario : GraphDb where
  scenarios := [⟨1, 1, false⟩]
  nodes := [⟨1, 1, .trigger .manual, none, .empty⟩, ⟨2, 1, .endSuccess, none, .empty⟩]
  edges := [⟨1, 1, 1, 2, .always, 0⟩]
  scripts := []
  devices := [⟨1, 1, none, "linux", "online", [], false⟩]
  groups := []
  cooldowns := []

def startShort : EngineOp := .startRun 1 1 ⟨none, none, none, false⟩ none false

def cancelShort : EngineOp := .cancelRun 1 1

def EngineState.runStatus (s : EngineState) (id : ℕ) : Option RunStatus := (s.run id).map RunRow.status

theorem KeepsEnds.runStatus {s t : EngineState} (h : KeepsEnds s t) {id : ℕ} {status : RunStatus}
    (hs : s.runStatus id = some status) (hterminal : status.isTerminal = true) : t.runStatus id = some status := by
  obtain ⟨run, hrun, rfl⟩ := Option.map_eq_some_iff.1 hs
  obtain ⟨run', hrun', hstatus⟩ := h id run hrun hterminal
  rw [EngineState.runStatus, hrun', Option.map_some, hstatus]

/-- A run that came to its end before the cancellation was asked for. -/
theorem late_cancellation_refused : ∃ s t, Reach endsMachine Orderly s ∧
    Reach (engineMachine.startingAt s) Orderly t ∧ s.runStatus 1 = some .success ∧ t.runStatus 1 = some .success := by
  let ops := startShort :: List.replicate 5 (.run 0 0)
  have hs : ∃ s, endsMachine.exec (bootState shortScenario) ops = some s ∧ s.runStatus 1 = some .success ∧
      ∃ t, (engineMachine.startingAt s).exec s [cancelShort] = some t ∧
        (engineMachine.startingAt s).Admits Orderly s [cancelShort] :=
    ⟨_, rfl, by decide, _, rfl, by decide⟩
  obtain ⟨s, hexec, hstatus, t, hcancel, hadmits⟩ := hs
  have hinit : endsMachine.init (bootState shortScenario) := ⟨bootState_init _, by decide, by decide, by decide⟩
  have hreach : Reach endsMachine Orderly s := (Reach.start hinit).of_exec ops (by decide) hexec
  have hlater : Reach (engineMachine.startingAt s) Orderly t := (Reach.start rfl).of_exec _ hadmits hcancel
  exact ⟨s, t, hreach, hlater, hstatus, ((ended_runs_stay hreach).1 t hlater).runStatus hstatus rfl⟩

/-- A run that is cancelled while its last node executes succeeds. -/
theorem cancelled_run_succeeds : ¬ ∀ s t, Reach endsMachine anyStep s →
    Reach (engineMachine.startingAt s) anyStep t → KeepsEnds s t := by
  intro hall
  have hinit : endsMachine.init (bootState shortScenario) := ⟨bootState_init _, by decide, by decide, by decide⟩
  have hrun : ∃ s, endsMachine.exec (bootState shortScenario) [startShort, .run 0 0, cancelShort, .run 1 0] = some s ∧
      s.runStatus 1 = some .cancelled ∧
      ∃ t, (engineMachine.startingAt s).exec s (List.replicate 4 (.run 0 0)) = some t ∧
        t.runStatus 1 = some .success := ⟨_, rfl, by decide, _, rfl, by decide⟩
  obtain ⟨s, hexec, hcancelled, t, hlater, hsuccess⟩ := hrun
  have hkeeps := hall s t (reach_of_exec hinit _ hexec) (reach_of_exec rfl _ hlater)
  have hkept := hkeeps.runStatus hcancelled rfl
  rw [hsuccess] at hkept
  cases hkept

end Obliance.Scenario

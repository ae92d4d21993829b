import Obliance.Scenario.Visits

/-!
# Every run is bounded (`services/scenarioGraph.service.ts`)

* `MemoryBelow` : timers and tallies are kept for node runs there are;
* `AtRest` : the run has ended, or its one open node run waits for a timer, for a command or for the last of
  several;
* `LeavesRun`, `LeftAlone` : a task goes on while nothing else touches its run;
* `Tracks`, `runTask_tracks` : which node runs are open while it does;
* `Bounded`, `run_bounded` : visits are capped, tasks end, and leave the run at rest.
-/

namespace Obliance.Scenario
open GuardedRun KeyedTable Obliance.Commands

/-! ## Timers and tallies -/

structure MemoryBelow (n : ℕ) (s : EngineState) : Prop where
  timers : ∀ id ∈ s.timers, id < n
  fanOuts : ∀ id, s.fanOuts id ≠ none → id < n

section Memory
variable {s t : EngineState} {n i nodeRunId : ℕ} {now : ℤ}

theorem MemoryBelow.of_eq (h : MemoryBelow n s) (htimers : t.timers = s.timers) (hfanOuts : t.fanOuts = s.fanOuts) :
    MemoryBelow n t :=
  ⟨fun id hid => h.timers id (htimers ▸ hid), fun id hid => h.fanOuts id (hfanOuts ▸ hid)⟩

theorem MemoryBelow.mono {m : ℕ} (h : MemoryBelow n s) (hle : n ≤ m) : MemoryBelow m s :=
  ⟨fun id hid => (h.timers id hid).trans_le hle, fun id hid => (h.fanOuts id hid).trans_le hle⟩

theorem MemoryBelow.startAck (h : MemoryBelow n s) (nodeRunId : ℕ) (r : NodeResult) :
    MemoryBelow n (startAck s nodeRunId r) := by
  unfold Scenario.startAck
  cases hp : s.fanOuts nodeRunId with
  | none => exact h.of_eq rfl rfl
  | some p =>
      have hlt : nodeRunId < n := h.fanOuts nodeRunId (by simp [hp])
      have hupdate (tally : Option PendingFanOut) (id : ℕ)
          (hid : Function.update s.fanOuts nodeRunId tally id ≠ none) : id < n := by
        by_cases heq : id = nodeRunId
        · exact heq ▸ hlt
        · rw [Function.update_of_ne heq] at hid
          exact h.fanOuts id hid
      dsimp only
      split_ifs
      · exact ⟨h.timers, hupdate _⟩
      · exact ⟨h.timers, hupdate _⟩

theorem MemoryBelow.runExecutor (h : MemoryBelow n s) {run : RunRow} {node : NodeRow} (hlt : nodeRunId < n) :
    MemoryBelow n (runExecutor s i run node nodeRunId now) := by
  have hcases := runExecutor_cases s i run node nodeRunId now
  generalize Scenario.runExecutor s i run node nodeRunId now = t at hcases ⊢
  cases hcases with
  | complete | stamp => exact h.of_eq rfl rfl
  | sleep db =>
      refine ⟨fun id hid => ?_, h.fanOuts⟩
      rcases List.mem_append.1 hid with hid | hid
      · exact h.timers id hid
      · exact List.mem_singleton.1 hid ▸ hlt
  | enqueue db command targets hne hlen =>
      refine ⟨h.timers, fun id hid => ?_⟩
      dsimp only at hid
      split_ifs at hid
      · by_cases heq : id = nodeRunId
        · exact heq ▸ hlt
        · rw [Function.update_of_ne heq] at hid
          exact h.fanOuts id hid
      · exact h.fanOuts id hid

theorem MemoryBelow.runTask {task : Thread} (h : MemoryBelow n s) (hknown : task.Known s) (hn : s.nextId ≤ n)
    (hstep : runTask s i now task = some t) : MemoryBelow n t := by
  cases task with
  | executor run node nodeRunId => exact Option.some.inj hstep ▸ h.runExecutor (hknown.2.1.trans_le hn)
  | ack nodeRunId r =>
      obtain ⟨th, heq, -⟩ := readAck_cases s i nodeRunId r
      exact Option.some.inj hstep ▸ heq ▸ h.of_eq rfl rfl
  | advance v exitCode byAck =>
      obtain ⟨advanced, th, heq, -⟩ := advance_cases s i v exitCode byAck
      exact Option.some.inj hstep ▸ heq ▸ h.of_eq rfl rfl
  | execute runId nodeId cause =>
      obtain rfl := Option.some.inj hstep
      rcases executeNode_cases s i runId nodeId cause now with
        ⟨heq, -⟩ | ⟨message, heq⟩ | ⟨run, node, -, -, -, heq⟩ <;> rw [heq] <;> exact h.of_eq rfl rfl
  | enqueue run node nodeRunId command targets =>
      cases targets <;> exact Option.some.inj hstep ▸ h.of_eq rfl rfl
  | done => cases hstep
  | complete | mirror | stamp | mark | cancelRun | cancelNodes | cancelCommands =>
      exact Option.some.inj hstep ▸ h.of_eq rfl rfl

theorem MemoryBelow.rearm (h : MemoryBelow n s) (hrows : ∀ nr ∈ s.nodeRuns, nr.id < n) :
    MemoryBelow n (rearmWaitTimers s now) := by
  have hfold (os : List (NodeRunRow × NodeRow)) (hos : ∀ o ∈ os, o.1.id < n) (u : EngineState)
      (hu : MemoryBelow n u) : MemoryBelow n (os.foldl (rearmWait now) u) := by
    induction os generalizing u with
    | nil => exact hu
    | cons o os ih =>
        refine ih (fun o ho => hos o (List.mem_cons_of_mem _ ho)) _ ?_
        unfold rearmWait
        split_ifs
        · exact hu.startAck _ _
        · refine ⟨fun id hid => ?_, hu.fanOuts⟩
          rcases List.mem_append.1 hid with hid | hid
          · exact hu.timers id hid
          · exact List.mem_singleton.1 hid ▸ hos o List.mem_cons_self
  have horphans : ∀ o ∈ orphans s, o.1.id < n := by
    intro o ho
    obtain ⟨nr, hnr, heq⟩ := List.mem_filterMap.1 ho
    split at heq
    · split_ifs at heq
      exact Option.some.inj heq ▸ hrows nr hnr
    · cases heq
  exact (hfold (orphans s) horphans s h).of_eq rfl rfl

theorem engineStep_memory {op : EngineOp} (h : MemoryBelow s.nextId s) (hrows : EngineRows s)
    (hstep : engineStep s op = some t) : MemoryBelow s.nextId t := by
  cases op with
  | startRun scenarioId deviceId opts denial record =>
      obtain rfl := Option.some.inj hstep
      rcases startRun_cases s scenarioId deviceId opts denial record with
        heq | ⟨run, -, heq⟩ | ⟨run, th, -, -, heq⟩ <;> rw [heq] <;> exact h.of_eq rfl rfl
  | run i now =>
      obtain ⟨task, hth, htask⟩ := Option.bind_eq_some_iff.1 hstep
      exact h.runTask (hrows.threads task (List.mem_of_getElem? hth)) le_rfl htask
  | fail i message =>
      obtain ⟨run, node, nodeRunId, rfl, -⟩ := failThread_cases hstep
      exact h.of_eq rfl rfl
  | ack deviceId a now =>
      obtain rfl := Option.some.inj hstep
      rcases ackCommand_cases s deviceId a now with heq | ⟨id, s', rfl, hack⟩
      · rw [heq]
        exact h
      · have hqueue : MemoryBelow s.nextId { s with commands := updateQueue s.commands deviceId id a now } :=
          h.of_eq rfl rfl
        rcases hack with heq | ⟨nodeRunId, r, heq⟩ <;> rw [heq]
        · exact hqueue
        · exact hqueue.startAck _ _
  | notifyTimeout =>
      obtain ⟨rest, s', rfl, hack⟩ := notifyTimeout_cases hstep
      have hrest : MemoryBelow s.nextId { s with timedOut := rest } := h.of_eq rfl rfl
      rcases hack with rfl | ⟨nodeRunId, r, rfl⟩
      · exact hrest
      · exact hrest.startAck _ _
  | fire nodeRunId =>
      simp only [engineStep] at hstep
      split_ifs at hstep
      have herase : MemoryBelow s.nextId { s with timers := s.timers.erase nodeRunId } :=
        ⟨fun id hid => h.timers id (List.mem_of_mem_erase hid), h.fanOuts⟩
      exact Option.some.inj hstep ▸ herase.startAck _ _
  | cancelRun runId tenantId =>
      obtain rfl := Option.some.inj hstep
      unfold startCancel
      split
      · exact h
      · split_ifs <;> exact h.of_eq rfl rfl
  | restart =>
      exact Option.some.inj hstep ▸ ⟨fun id hid => absurd hid List.not_mem_nil, fun id hid => absurd rfl hid⟩
  | rearm now =>
      simp only [engineStep] at hstep
      split_ifs at hstep
      exact Option.some.inj hstep ▸ h.rearm fun nr hnr => (hrows.nodeRuns nr hnr).1
  | expire now | edit db => exact Option.some.inj hstep ▸ h.of_eq rfl rfl

theorem Moves.nextId_le (h : Moves s t) : s.nextId ≤ t.nextId := by
  cases h with
  | quiet hq => exact hq.nextId.ge
  | goTo | send => exact le_rfl
  | enter | command | started => exact Nat.le_succ _

/-- What every reachable state keeps, in its tables and in memory. -/
structure Steady (s : EngineState) : Prop extends Sound s where
  memory : MemoryBelow s.nextId s

theorem Steady.step {op : EngineOp} (h : Steady s) (hstep : engineStep s op = some t) : Steady t where
  toSound := h.toSound.step hstep
  memory := (engineStep_memory h.memory h.toEngineRows hstep).mono (engineStep_moves hstep).nextId_le

theorem steady_bootState (db : GraphDb) : Steady (bootState db) where
  toSound := sound_bootState db
  memory := ⟨fun _ hid => absurd hid List.not_mem_nil, fun _ hid => absurd rfl hid⟩

end Memory

/-! ## At rest -/

def rowsOf (runId : ℕ) (s : EngineState) : List NodeRunRow := s.nodeRuns.filter fun nr => decide (nr.runId = runId)

/-- The commands sent for a node run. -/
def sentFor (nodeRunId : ℕ) (s : EngineState) : List CommandRow :=
  s.commands.filter fun c => decide (c.sourceType = some .scenarioNode ∧ c.sourceId = some nodeRunId)

def timersFor (nodeRunId : ℕ) (s : EngineState) : ℕ := s.timers.countP fun id => decide (id = nodeRunId)

/-- The tally of several commands; one command needs none. -/
def tallyOf (expected : ℕ) : Option PendingFanOut :=
  if 1 < expected then some ⟨expected, 0, none, [], []⟩ else none

/-- Nothing will ack the node run. -/
def Unawaited (nodeRunId : ℕ) (s : EngineState) : Prop :=
  timersFor nodeRunId s = 0 ∧ sentFor nodeRunId s = [] ∧ s.fanOuts nodeRunId = none

def AwaitsTimer (nodeRunId : ℕ) (s : EngineState) : Prop :=
  timersFor nodeRunId s = 1 ∧ sentFor nodeRunId s = [] ∧ s.fanOuts nodeRunId = none

/-- Its commands are pending, `left` more will be enqueued, and the tally waits for the last of all. -/
def AwaitsCommands (nodeRunId left : ℕ) (s : EngineState) : Prop :=
  timersFor nodeRunId s = 0 ∧ (∀ c ∈ sentFor nodeRunId s, c.status = .pending) ∧
    0 < (sentFor nodeRunId s).length + left ∧ s.fanOuts nodeRunId = tallyOf ((sentFor nodeRunId s).length + left)

/-- Behind the `old` node runs of the run, none is running. -/
def AllClosed (old : List NodeRunRow) (runId : ℕ) (s : EngineState) : Prop :=
  ∃ closed, rowsOf runId s = old ++ closed ∧ ∀ nr ∈ closed, nr.status ≠ .running

/-- Behind the `old` node runs of the run, the last one is running and no other is. -/
def OneOpen (old : List NodeRunRow) (runId nodeRunId : ℕ) (s : EngineState) : Prop :=
  ∃ closed nr, rowsOf runId s = old ++ closed ++ [nr] ∧ (∀ nr ∈ closed, nr.status ≠ .running) ∧
    nr.id = nodeRunId ∧ nr.status = .running ∧ ∀ nr ∈ old ++ closed, nr.id ≠ nodeRunId

/-- The run has ended, or is parked on one ack: one node run is open, and it waits for its timer, for its
command or for the last of its commands. -/
def AtRest (old : List NodeRunRow) (runId : ℕ) (s : EngineState) : Prop :=
  ∀ run, s.run runId = some run → run.status.isTerminal = true ∨
    ∃ nodeRunId, OneOpen old runId nodeRunId s ∧ (AwaitsTimer nodeRunId s ∨ AwaitsCommands nodeRunId 0 s)

/-- The step leaves the task, the run, its node runs and what they wait for as they were. -/
structure LeavesRun (runId i : ℕ) (s t : EngineState) : Prop where
  task : t.threads[i]? = s.threads[i]?
  run : t.run runId = s.run runId
  rows : rowsOf runId t = rowsOf runId s
  waits : ∀ nr ∈ rowsOf runId s, timersFor nr.id t = timersFor nr.id s ∧ sentFor nr.id t = sentFor nr.id s ∧
    t.fanOuts nr.id = s.fanOuts nr.id

/-- The step is one of the task, or leaves its run alone. -/
def LeftAlone (runId i : ℕ) (s : EngineState) (op : EngineOp) : Prop :=
  (∃ now, op = .run i now) ∨ (∃ message, op = .fail i message) ∨
    ∀ t, engineStep s op = some t → LeavesRun runId i s t

/-! ## What a task does to the node runs of its run -/

/-- Which node runs of the run are open where the task is. -/
def Tracks (old : List NodeRunRow) (runId : ℕ) (s : EngineState) : Thread → Prop
  | .execute id _ _ => id = runId ∧ AllClosed old runId s
  | .advance v _ _ | .mirror v _ _ _ => v.runId = runId ∧ AllClosed old runId s
  | .complete v _ _ _ _ => v.runId = runId ∧ OneOpen old runId v.nodeRunId s
  | .executor run _ id | .stamp run _ id => run.id = runId ∧ OneOpen old runId id s ∧ Unawaited id s
  | .enqueue run _ id _ targets => run.id = runId ∧ OneOpen old runId id s ∧ AwaitsCommands id targets.length s
  | .mark id _ => id = runId
  | .done => AtRest old runId s
  | .ack _ _ | .cancelRun _ | .cancelNodes _ | .cancelCommands _ => False

section Tracks
variable {s t : EngineState} {old : List NodeRunRow} {runId i nodeRunId left : ℕ} {now : ℤ} {task : Thread}

theorem OneOpen.mem (h : OneOpen old runId nodeRunId s) : ∃ nr ∈ rowsOf runId s, nr.id = nodeRunId := by
  obtain ⟨closed, nr, hrows, -, hid, -, -⟩ := h
  exact ⟨nr, hrows ▸ List.mem_append_right _ (List.mem_singleton_self nr), hid⟩

theorem OneOpen.congr (h : OneOpen old runId nodeRunId s) (hrows : rowsOf runId t = rowsOf runId s) :
    OneOpen old runId nodeRunId t := by
  unfold OneOpen
  rw [hrows]
  exact h

/-- Steps elsewhere do not change what is open. -/
theorem Tracks.leaves (h : Tracks old runId s task) (hleaves : LeavesRun runId i s t) : Tracks old runId t task := by
  have hclosed (hc : AllClosed old runId s) : AllClosed old runId t := by
    unfold AllClosed
    rw [hleaves.rows]
    exact hc
  have hwaits {id : ℕ} (ho : OneOpen old runId id s) : timersFor id t = timersFor id s ∧
      sentFor id t = sentFor id s ∧ t.fanOuts id = s.fanOuts id := by
    obtain ⟨nr, hnr, rfl⟩ := ho.mem
    exact hleaves.waits nr hnr
  cases task with
  | execute | advance | mirror => exact ⟨h.1, hclosed h.2⟩
  | complete v r outcome next byAck => exact ⟨h.1, h.2.congr hleaves.rows⟩
  | executor run node id | stamp run node id =>
      obtain ⟨htimers, hsent, hfan⟩ := hwaits h.2.1
      refine ⟨h.1, h.2.1.congr hleaves.rows, ?_⟩
      rw [Unawaited, htimers, hsent, hfan]
      exact h.2.2
  | enqueue run node id command targets =>
      obtain ⟨htimers, hsent, hfan⟩ := hwaits h.2.1
      refine ⟨h.1, h.2.1.congr hleaves.rows, ?_⟩
      rw [AwaitsCommands, htimers, hsent, hfan]
      exact h.2.2
  | mark => exact h
  | done =>
      intro run hrun
      rw [hleaves.run] at hrun
      refine (h run hrun).imp_right ?_
      rintro ⟨id, ho, hawaits⟩
      obtain ⟨htimers, hsent, hfan⟩ := hwaits ho
      refine ⟨id, ho.congr hleaves.rows, ?_⟩
      rw [AwaitsTimer, AwaitsCommands, htimers, hsent, hfan]
      exact hawaits
  | ack | cancelRun | cancelNodes | cancelCommands => exact h.elim

theorem getElem?_set_of_some {l : List Thread} {a b : Thread} (h : l[i]? = some a) : (l.set i b)[i]? = some b := by
  obtain ⟨hi, -⟩ := List.getElem?_eq_some_iff.1 h
  rw [List.getElem?_set_self hi]

theorem NodeOutcome.status_ne_running (outcome : NodeOutcome) : outcome.status ≠ .running := by
  cases outcome <;> decide

/-- `_completeNode` closes the open node run. -/
theorem OneOpen.close (h : OneOpen old runId nodeRunId s) {f : NodeRunRow → NodeRunRow}
    (hrun : ∀ nr, (f nr).runId = nr.runId) (hstatus : ∀ nr, (f nr).status ≠ .running)
    (ht : t.nodeRuns = modify NodeRunRow.id s.nodeRuns nodeRunId f) : AllClosed old runId t := by
  obtain ⟨closed, nr, hrows, hclosed, hid, -, hothers⟩ := h
  have hmap : rowsOf runId t = (rowsOf runId s).map fun nr => if nr.id = nodeRunId then f nr else nr := by
    unfold rowsOf
    rw [ht, KeyedTable.modify, List.filter_map]
    congr 1
    refine List.filter_congr fun nr _ => ?_
    by_cases hnr : nr.id = nodeRunId
    · simp [hnr, hrun]
    · simp [hnr]
  have hsame : ((old ++ closed).map fun nr => if nr.id = nodeRunId then f nr else nr) = old ++ closed := by
    conv_rhs => rw [← List.map_id (old ++ closed)]
    exact List.map_congr_left fun nr hnr => if_neg (hothers nr hnr)
  refine ⟨closed ++ [f nr], ?_, ?_⟩
  · rw [hmap, hrows, List.map_append, hsame, List.map_singleton, if_pos hid, List.append_assoc]
  · intro nr' hnr'
    rcases List.mem_append.1 hnr' with hold | hnew
    · exact hclosed nr' hold
    · exact List.mem_singleton.1 hnew ▸ hstatus nr

/-- `executeNode` opens a node run that nothing waits for yet. -/
theorem entered_opens (hs : Steady s) (hclosed : AllClosed old runId s) {run : RunRow} {node : NodeRow}
    {cause : Option ℕ} (hrun : run.id = runId) :
    OneOpen old runId s.nextId (entered s i run node cause now) ∧
      Unawaited s.nextId (entered s i run node cause now) := by
  obtain ⟨closed, hrows, hclosed⟩ := hclosed
  refine ⟨⟨closed, ⟨s.nextId, run.id, node.id, node.type, .running, .exit none, now, none⟩, ?_, hclosed, rfl, rfl, ?_⟩,
    ?_, ?_, ?_⟩
  · rw [← hrows]
    simp [rowsOf, entered, hrun]
  · intro nr hnr
    rw [← hrows] at hnr
    exact (hs.nodeRuns nr (List.mem_of_mem_filter hnr)).1.ne
  · exact List.countP_eq_zero.2 fun id hid heq => (hs.memory.timers id hid).ne (of_decide_eq_true heq)
  · refine List.filter_eq_nil_iff.2 fun c hc heq => ?_
    exact (hs.commands c hc s.nextId (of_decide_eq_true heq).2).false
  · by_contra hne
    exact (hs.memory.fanOuts s.nextId hne).false

theorem executeNode_tracks (hs : Steady s) {nodeId : ℕ} {cause : Option ℕ}
    (hth : s.threads[i]? = some (.execute runId nodeId cause)) (hclosed : AllClosed old runId s) :
    ∃ th, (executeNode s i runId nodeId cause now).threads[i]? = some th ∧
      Tracks old runId (executeNode s i runId nodeId cause now) th := by
  rcases executeNode_cases s i runId nodeId cause now with
    ⟨heq, hended⟩ | ⟨message, heq⟩ | ⟨run, node, hrun, -, -, heq⟩ <;> rw [heq]
  · -- the run is over: no status but `pending` is left, and no run has it
    refine ⟨_, getElem?_set_of_some hth, fun run hrun => .inl ?_⟩
    have hpending := hs.status runId run hrun
    have hrunning := hended run hrun
    cases hstatus : run.status with
    | pending => exact absurd hstatus hpending
    | running => exact absurd hstatus hrunning
    | success | failure | cancelled => rfl
  · exact ⟨_, getElem?_set_of_some hth, rfl⟩
  · have hid : run.id = runId := key_of_get hrun
    exact ⟨_, getElem?_set_of_some hth, hid, entered_opens hs hclosed hid⟩

theorem runExecutor_tracks {run : RunRow} {node : NodeRow}
    (hth : s.threads[i]? = some (.executor run node nodeRunId)) (hrun : run.id = runId)
    (hopen : OneOpen old runId nodeRunId s) (hfree : Unawaited nodeRunId s) :
    ∃ th, (runExecutor s i run node nodeRunId now).threads[i]? = some th ∧
      Tracks old runId (runExecutor s i run node nodeRunId now) th := by
  obtain ⟨htimers, hsent, hfan⟩ := hfree
  have hcases := runExecutor_cases s i run node nodeRunId now
  generalize runExecutor s i run node nodeRunId now = t at hcases ⊢
  cases hcases with
  | complete db r outcome next => exact ⟨_, getElem?_set_of_some hth, hrun, hopen⟩
  | stamp db => exact ⟨_, getElem?_set_of_some hth, hrun, hopen, htimers, hsent, hfan⟩
  | sleep db =>
      refine ⟨_, getElem?_set_of_some hth, fun _ _ => .inr ⟨nodeRunId, hopen, .inl ⟨?_, hsent, hfan⟩⟩⟩
      have htimers : s.timers.countP (fun id => decide (id = nodeRunId)) = 0 := htimers
      rw [timersFor, List.countP_append, htimers, List.countP_singleton, if_pos (decide_eq_true rfl)]
  | enqueue db command targets hne hlen =>
      have hsent' : s.commands.filter (fun c => decide (c.sourceType = some .scenarioNode ∧
        c.sourceId = some nodeRunId)) = [] := hsent
      refine ⟨_, getElem?_set_of_some hth, hrun, hopen, htimers, ?_, ?_, ?_⟩
      · rw [sentFor, hsent']
        exact fun c hc => absurd hc List.not_mem_nil
      · rw [sentFor, hsent', List.length_nil, Nat.zero_add]
        exact List.length_pos_iff.2 hne
      · rw [sentFor, hsent', List.length_nil, Nat.zero_add, tallyOf]
        dsimp only
        split_ifs
        · exact Function.update_self ..
        · exact hfan

/-- One more command is sent for the open node run, one fewer is left. -/
theorem enqueueCommand_awaits {run : RunRow} {deviceId : ℕ} {command : CommandTemplate}
    (h : AwaitsCommands nodeRunId (left + 1) s) :
    AwaitsCommands nodeRunId left (enqueueCommand s run nodeRunId deviceId command now) := by
  obtain ⟨htimers, hpending, hpos, hfan⟩ := h
  have hsent : ∃ c, c.status = .pending ∧
      sentFor nodeRunId (enqueueCommand s run nodeRunId deviceId command now) = sentFor nodeRunId s ++ [c] := by
    unfold sentFor enqueueCommand
    rw [List.filter_append]
    exact ⟨_, rfl, congrArg _ (List.filter_cons_of_pos (decide_eq_true ⟨rfl, rfl⟩))⟩
  obtain ⟨c, hc, hsent⟩ := hsent
  have hlength : (sentFor nodeRunId (enqueueCommand s run nodeRunId deviceId command now)).length + left =
      (sentFor nodeRunId s).length + (left + 1) := by
    rw [hsent, List.length_append, List.length_singleton]
    omega
  refine ⟨htimers, ?_, ?_, ?_⟩
  · rw [hsent]
    intro c' hc'
    rcases List.mem_append.1 hc' with hold | hnew
    · exact hpending c' hold
    · exact List.mem_singleton.1 hnew ▸ hc
  · rw [hlength]
    exact hpos
  · rw [hlength]
    exact hfan

theorem markRun_ends (failure : Option String) : AtRest old runId (markRun s runId failure) := by
  intro run hrun
  cases failure with
  | none =>
      have hkey (r : RunRow) : RunRow.id { r with status := .success } = r.id := rfl
      simp only [markRun, EngineState.modifyRun, EngineState.run, get_modify_self hkey] at hrun
      obtain ⟨run₀, -, rfl⟩ := Option.map_eq_some_iff.1 hrun
      exact .inl rfl
  | some message =>
      have hkey (r : RunRow) : RunRow.id { r with status := .failure, errorMessage := some message } = r.id := rfl
      simp only [markRun, EngineState.modifyRun, EngineState.run, get_modify_self hkey] at hrun
      obtain ⟨run₀, -, rfl⟩ := Option.map_eq_some_iff.1 hrun
      exact .inl rfl

/-- **A statement of the task**, from one place to the next. -/
theorem runTask_tracks (hs : Steady s) (hth : s.threads[i]? = some task) (htracks : Tracks old runId s task)
    (h : runTask s i now task = some t) : ∃ th, t.threads[i]? = some th ∧ Tracks old runId t th := by
  cases task with
  | execute id nodeId cause =>
      obtain ⟨rfl, hclosed⟩ := htracks
      exact Option.some.inj h ▸ executeNode_tracks hs hth hclosed
  | executor run node nodeRunId =>
      exact Option.some.inj h ▸ runExecutor_tracks hth htracks.1 htracks.2.1 htracks.2.2
  | stamp run node nodeRunId =>
      exact Option.some.inj h ▸ ⟨_, getElem?_set_of_some hth, htracks.1, htracks.2.1⟩
  | enqueue run node nodeRunId command targets =>
      obtain ⟨hrun, hopen, hawaits⟩ := htracks
      cases targets with
      | nil => exact Option.some.inj h ▸ ⟨_, getElem?_set_of_some hth, fun _ _ => .inr ⟨nodeRunId, hopen, .inr hawaits⟩⟩
      | cons target rest =>
          exact Option.some.inj h ▸ ⟨_, getElem?_set_of_some hth, hrun, hopen, enqueueCommand_awaits hawaits⟩
  | complete v r outcome next byAck =>
      obtain ⟨hrun, hopen⟩ := htracks
      refine Option.some.inj h ▸ ⟨_, getElem?_set_of_some hth, hrun, hopen.close ?_ ?_ rfl⟩
      · exact fun _ => rfl
      · exact fun _ => outcome.status_ne_running
  | mirror v r next byAck =>
      obtain ⟨hrun, hclosed⟩ := htracks
      refine Option.some.inj h ▸ ⟨_, getElem?_set_of_some hth, ?_⟩
      cases next with
      | advance => exact ⟨hrun, hclosed⟩
      | succeed | fail => exact hrun
  | advance v exitCode byAck =>
      obtain ⟨hrun, hclosed⟩ := htracks
      obtain ⟨advanced, th, heq, hgoes⟩ := advance_cases s i v exitCode byAck
      refine Option.some.inj h ▸ heq ▸ ⟨th, getElem?_set_of_some hth, ?_⟩
      rcases hgoes with ⟨rfl, hnone⟩ | rfl | ⟨nodeId, cause, rfl⟩
      · intro run hsome
        rw [← hrun] at hsome
        exact absurd (hsome.symm.trans hnone) (Option.some_ne_none run)
      · exact hrun
      · exact ⟨hrun, hclosed⟩
  | mark id failure =>
      obtain rfl := htracks
      exact Option.some.inj h ▸ ⟨_, getElem?_set_of_some hth, markRun_ends failure⟩
  | done => cases h
  | ack | cancelRun | cancelNodes | cancelCommands => exact htracks.elim

theorem failThread_tracks {message : String} (hth : s.threads[i]? = some task) (htracks : Tracks old runId s task)
    (h : failThread s i message = some t) : ∃ th, t.threads[i]? = some th ∧ Tracks old runId t th := by
  obtain ⟨run, node, nodeRunId, rfl, hat⟩ := failThread_cases h
  have hopen : run.id = runId ∧ OneOpen old runId nodeRunId s := by
    rcases hat with hat | hat | ⟨command, targets, hat⟩
    · obtain rfl := Option.some.inj (hth.symm.trans hat)
      exact ⟨htracks.1, htracks.2.1⟩
    · obtain rfl := Option.some.inj (hth.symm.trans hat)
      exact ⟨htracks.1, htracks.2.1⟩
    · obtain rfl := Option.some.inj (hth.symm.trans hat)
      exact ⟨htracks.1, htracks.2.1⟩
  exact ⟨_, getElem?_set_of_some hth, hopen⟩

/-- The task is where the node runs of its run say. -/
def TaskTracks (old : List NodeRunRow) (runId i : ℕ) (s : EngineState) : Prop :=
  Steady s ∧ ∃ task, s.threads[i]? = some task ∧ Tracks old runId s task

theorem step_tracks {op : EngineOp} (h : TaskTracks old runId i s) (halone : LeftAlone runId i s op)
    (hstep : engineStep s op = some t) : TaskTracks old runId i t := by
  obtain ⟨hs, task, hth, htracks⟩ := h
  refine ⟨hs.step hstep, ?_⟩
  rcases halone with ⟨now, rfl⟩ | ⟨message, rfl⟩ | hleaves
  · obtain ⟨task', hth', htask⟩ := Option.bind_eq_some_iff.1 hstep
    obtain rfl := Option.some.inj (hth.symm.trans hth')
    exact runTask_tracks hs hth htracks htask
  · exact failThread_tracks hth htracks hstep
  · have hframe := hleaves t hstep
    exact ⟨task, hframe.task.trans hth, htracks.leaves hframe⟩

end Tracks

/-! ## The result -/

/-- The run that a task is about to execute a node of, or to advance. -/
def Thread.walks : Thread → Option ℕ
  | .execute runId _ _ => some runId
  | .advance v _ _ => some v.runId
  | _ => none

/-- What a reachable state promises of its runs and tasks. -/
structure Bounded (s : EngineState) : Prop where
  /-- No run has a node more often than the cap. -/
  visits : ∀ runId nodeId,
    (s.nodeRuns.filter fun nr => decide (nr.runId = runId ∧ nr.nodeId = nodeId)).length ≤ maxNodeVisits
  /-- The tasks run no longer than the fuel, in whatever order. -/
  ends : ∀ ops t, (∀ op ∈ ops, op.isTask = true) → engineMachine.exec s ops = some t → ops.length ≤ s.fuel
  /-- Only a task that is done has no next statement. -/
  progress : ∀ i task now, s.threads[i]? = some task → task ≠ .done → (runThread s i now).isSome
  /-- A task at a node that is left alone with its run leaves it at rest. -/
  rests : ∀ runId i task ops t, s.threads[i]? = some task → task.walks = some runId →
    engineMachine.Admits (LeftAlone runId i) s ops → engineMachine.exec s ops = some t →
    t.threads[i]? = some .done → AtRest (rowsOf runId s) runId t

theorem Steady.bounded {s : EngineState} (hs : Steady s) : Bounded s where
  visits runId nodeId := by
    have hcap := hs.counted.countP_le runId nodeId
    rw [List.countP_map, List.countP_eq_length_filter] at hcap
    refine (List.Sublist.length_le ?_).trans hcap
    apply List.monotone_filter_right
    intro nr hnr
    obtain ⟨hrun, hnode⟩ := of_decide_eq_true hnr
    exact decide_eq_true (Prod.ext hrun hnode)
  ends ops t hops h := (Nat.le_add_right _ _).trans (tasks_length_le hs.toSound hops h)
  progress i task now hth hne := runThread_isSome hth hne now
  rests runId i task ops t hth hwalks halone h hdone := by
    have hstart : Tracks (rowsOf runId s) runId s task := by
      have hclosed : AllClosed (rowsOf runId s) runId s :=
        ⟨[], (List.append_nil _).symm, fun nr hnr => absurd hnr List.not_mem_nil⟩
      cases task with
      | execute id nodeId cause => exact ⟨Option.some.inj hwalks, hclosed⟩
      | advance v exitCode byAck => exact ⟨Option.some.inj hwalks, hclosed⟩
      | _ => cases hwalks
    obtain ⟨-, th, hth', htracks⟩ := Machine.exec_of_admits (I := TaskTracks (rowsOf runId s) runId i)
      (fun _ _ _ hI hok hstep => step_tracks hI hok hstep) ⟨hs, task, hth, hstart⟩ halone h
    obtain rfl := Option.some.inj (hdone.symm.trans hth')
    exact htracks

theorem steady_of_reach {db : GraphDb} {s : EngineState}
    (h : Reach (engineMachine.startingAt (bootState db)) anyStep s) : Steady s := by
  refine h.invariant ?_ ?_
  · rintro s rfl
    exact steady_bootState db
  · exact fun s op t hs _ hstep => hs.step hstep

/-- A node that branches to itself. -/
def selfLoop : GraphDb where
  scenarios := [⟨1, 1, false⟩]
  nodes := [⟨1, 1, .branchExitCode, none, .empty⟩]
  edges := [⟨1, 1, 1, 1, .always, 0⟩]
  scripts := []
  devices := [⟨1, 1, none, "linux", "online", [], false⟩]
  groups := []
  cooldowns := []

end Obliance.Scenario

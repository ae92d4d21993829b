import Obliance.Lib.Pool
import Obliance.Scenario.Engine

/-!
# A node run is resumed at most once

* `Thread.role` : the tasks that carry a resumed node run, from the checks of `handleNodeCommandAck` to
  the execution of the next node;
* `FirstAck` : the condition; an ack that passes the checks finds its node run still running, and no
  other ack of it past its checks;
* `ResumeInv` : the invariant, an inequality between what is logged and what is in flight;
* `resumed_at_most_once` : under the condition no node run is completed, advanced or followed twice;
* `late_ack_resumes_again` : the synthetic timeout ack and the late ack of the agent, both followed.
-/

namespace Obliance.Scenario
open GuardedRun KeyedTable Pool EngineState Obliance.Commands

inductive Stage where
  | completing
  | resuming
  | executing
  deriving DecidableEq, Repr

/-- The node run an ack resumed, and how far the task is. -/
def Thread.role : Thread → Option (Stage × ℕ)
  | .complete v _ _ _ true => some (.completing, v.nodeRunId)
  | .mirror v _ _ true => some (.resuming, v.nodeRunId)
  | .advance v _ true => some (.resuming, v.nodeRunId)
  | .execute _ _ (some id) => some (.executing, id)
  | _ => none

def EngineState.tasks (s : EngineState) (stage : Stage) (id : ℕ) : ℕ :=
  s.threads.countP fun t => decide (t.role = some (stage, id))

/-- The node run of an ack whose checks come next. -/
def Thread.acked : Thread → Option ℕ
  | .ack id _ => some id
  | _ => none

/-- The condition on a step: an ack that passes the checks is the first for its node run. -/
def FirstAck (s : EngineState) : EngineOp → Prop
  | .run i _ => ∀ id ∈ s.threads[i]?.bind Thread.acked, ∀ nr ∈ s.nodeRun id, ∀ run ∈ s.run nr.runId,
      run.status = .running → nr.status = .running ∧ s.tasks .completing id = 0
  | _ => True

instance (s : EngineState) : ∀ op, Decidable (FirstAck s op)
  | .run i _ => inferInstanceAs (Decidable (∀ id ∈ s.threads[i]?.bind Thread.acked, ∀ nr ∈ s.nodeRun id,
      ∀ run ∈ s.run nr.runId, run.status = .running → nr.status = .running ∧ s.tasks .completing id = 0))
  | .startRun .. | .fail .. | .ack .. | .expire .. | .notifyTimeout | .fire .. | .cancelRun .. | .edit ..
  | .restart | .rearm .. => .isTrue trivial

structure ResumeInv (s : EngineState) : Prop where
  keyed : Keyed NodeRunRow.id s.nodeRuns
  used : ∀ nr ∈ s.nodeRuns, nr.id < s.nextId
  threadsUsed : ∀ t ∈ s.threads, ∀ id, t.role = some (.completing, id) → id < s.nextId
  completedUsed : ∀ id ∈ s.completed, id < s.nextId
  finished : ∀ nr ∈ s.nodeRuns, nr.id ∈ s.completed → nr.status ≠ .running
  completed : ∀ id, s.completed.count id + s.tasks .completing id ≤ 1
  advanced : ∀ id, s.advanced.count id + s.tasks .resuming id ≤ s.completed.count id
  caused : ∀ id, s.caused.count id + s.tasks .executing id ≤ s.advanced.count id

variable {s t : EngineState}

/-! ## Steps that resume nothing -/

/-- The rows left were there, and are running only if they were. -/
structure RowsKept (rows rows' : List NodeRunRow) : Prop where
  ids : (rows'.map NodeRunRow.id).Sublist (rows.map NodeRunRow.id)
  running : ∀ nr ∈ rows', ∃ nr₀ ∈ rows, nr₀.id = nr.id ∧ (nr.status = .running → nr₀.status = .running)

theorem RowsKept.refl (rows : List NodeRunRow) : RowsKept rows rows :=
  ⟨.refl _, fun nr h => ⟨nr, h, rfl, id⟩⟩

theorem rowsKept_filter (rows : List NodeRunRow) (p : NodeRunRow → Bool) :
    RowsKept rows (rows.filter p) :=
  ⟨List.filter_sublist.map _, fun nr h => ⟨nr, List.mem_of_mem_filter h, rfl, id⟩⟩

theorem rowsKept_map (rows : List NodeRunRow) {f : NodeRunRow → NodeRunRow}
    (hf : ∀ nr, (f nr).id = nr.id ∧ ((f nr).status = .running → nr.status = .running)) :
    RowsKept rows (rows.map f) := by
  refine ⟨by rw [map_key_map fun nr => (hf nr).1], fun nr h => ?_⟩
  obtain ⟨nr₀, h₀, rfl⟩ := List.mem_map.1 h
  exact ⟨nr₀, h₀, (hf nr₀).1.symm, (hf nr₀).2⟩

/-- No task takes up a role, nothing is logged, and no node run is set back to running. -/
structure QuietStep (s t : EngineState) : Prop where
  tasks : ∀ stage id, t.tasks stage id ≤ s.tasks stage id
  threads : ∀ th ∈ t.threads, th.role ≠ none → th ∈ s.threads
  nodeRuns : RowsKept s.nodeRuns t.nodeRuns
  nextId : s.nextId ≤ t.nextId
  completed : t.completed = s.completed
  advanced : t.advanced = s.advanced
  caused : t.caused = s.caused

theorem ResumeInv.quiet (h : ResumeInv s) (hq : QuietStep s t) : ResumeInv t := by
  refine ⟨h.keyed.sublist hq.nodeRuns.ids, fun nr hnr => ?_, fun th hth id hr => ?_, fun id hid => ?_,
    fun nr hnr hid hrun => ?_, fun id => ?_, fun id => ?_, fun id => ?_⟩
  · obtain ⟨nr₀, h₀, hid, -⟩ := hq.nodeRuns.running nr hnr
    exact hid ▸ (h.used nr₀ h₀).trans_le hq.nextId
  · have hmem := hq.threads th hth (by rw [hr]; exact Option.some_ne_none _)
    exact (h.threadsUsed th hmem id hr).trans_le hq.nextId
  · exact (h.completedUsed id (hq.completed ▸ hid)).trans_le hq.nextId
  · obtain ⟨nr₀, h₀, hid₀, hrun₀⟩ := hq.nodeRuns.running nr hnr
    rw [hq.completed] at hid
    exact h.finished nr₀ h₀ (hid₀ ▸ hid) (hrun₀ hrun)
  · have := h.completed id
    have := hq.tasks .completing id
    rw [hq.completed]
    omega
  · have := h.advanced id
    have := hq.tasks .resuming id
    rw [hq.completed, hq.advanced]
    omega
  · have := h.caused id
    have := hq.tasks .executing id
    rw [hq.advanced, hq.caused]
    omega

/-- How the tasks of a role change when the `i`-th goes from `a` to `b`. -/
theorem tasks_set {i : ℕ} {a : Thread} (ha : s.threads[i]? = some a) (b : Thread)
    (ht : t.threads = s.threads.set i b) (stage : Stage) (id : ℕ) :
    t.tasks stage id + (if a.role = some (stage, id) then 1 else 0) =
      s.tasks stage id + (if b.role = some (stage, id) then 1 else 0) := by
  have := countP_set_add ha b fun t => decide (t.role = some (stage, id))
  simpa only [EngineState.tasks, ht, decide_eq_true_eq] using this

section Quiet
variable (hnext : s.nextId ≤ t.nextId) (hrows : RowsKept s.nodeRuns t.nodeRuns)
  (hlogs : t.completed = s.completed ∧ t.advanced = s.advanced ∧ t.caused = s.caused)
include hnext hrows hlogs

/-- The `i`-th task goes on without a role. -/
theorem quiet_set {i : ℕ} {a b : Thread} (ha : s.threads[i]? = some a)
    (ht : t.threads = s.threads.set i b) (hb : b.role = none) : QuietStep s t := by
  refine ⟨fun stage id => ?_, fun th hth hr => ?_, hrows, hnext, hlogs.1, hlogs.2.1, hlogs.2.2⟩
  · have := tasks_set ha b ht stage id
    simp only [hb, reduceCtorEq, if_false] at this
    omega
  · rw [ht] at hth
    rcases List.mem_or_eq_of_mem_set hth with hth | rfl
    · exact hth
    · exact absurd hb hr

/-- Tasks without a role are added. -/
theorem quiet_append {bs : List Thread} (ht : t.threads = s.threads ++ bs)
    (hbs : ∀ b ∈ bs, b.role = none) : QuietStep s t := by
  refine ⟨fun stage id => ?_, fun th hth hr => ?_, hrows, hnext, hlogs.1, hlogs.2.1, hlogs.2.2⟩
  · have hzero : bs.countP (fun b => decide (b.role = some (stage, id))) = 0 := by
      rw [List.countP_eq_zero]
      intro b hb
      rw [hbs b hb]
      simp
    simp only [EngineState.tasks, ht, List.countP_append, hzero]
    omega
  · rw [ht] at hth
    rcases List.mem_append.1 hth with hth | hth
    · exact hth
    · exact absurd (hbs th hth) hr

end Quiet

theorem RowsKept.trans {rows rows' rows'' : List NodeRunRow} (h : RowsKept rows rows')
    (h' : RowsKept rows' rows'') : RowsKept rows rows'' := by
  refine ⟨h'.ids.trans h.ids, fun nr hnr => ?_⟩
  obtain ⟨nr', hnr', hid', hrun'⟩ := h'.running nr hnr
  obtain ⟨nr₀, h₀, hid₀, hrun₀⟩ := h.running nr' hnr'
  exact ⟨nr₀, h₀, hid₀.trans hid', fun hr => hrun₀ (hrun' hr)⟩

theorem QuietStep.trans {u : EngineState} (h : QuietStep s t) (h' : QuietStep t u) : QuietStep s u :=
  ⟨fun stage id => (h'.tasks stage id).trans (h.tasks stage id),
    fun th hth hr => h.threads th (h'.threads th hth hr) hr, h.nodeRuns.trans h'.nodeRuns,
    h.nextId.trans h'.nextId, h'.completed.trans h.completed, h'.advanced.trans h.advanced,
    h'.caused.trans h.caused⟩

/-- What the resumption of node runs does not look at. -/
theorem quiet_same (hthreads : t.threads = s.threads) (hrows : t.nodeRuns = s.nodeRuns)
    (hnext : t.nextId = s.nextId)
    (hlogs : t.completed = s.completed ∧ t.advanced = s.advanced ∧ t.caused = s.caused) :
    QuietStep s t :=
  ⟨fun stage id => by rw [EngineState.tasks, hthreads, EngineState.tasks], fun _ hth _ => hthreads ▸ hth,
    hrows ▸ .refl _, hnext.ge, hlogs.1, hlogs.2.1, hlogs.2.2⟩

/-! ## Operations that add tasks -/

theorem quiet_startAck (s : EngineState) (nodeRunId : ℕ) (r : NodeResult) :
    QuietStep s (startAck s nodeRunId r) := by
  rcases startAck_cases s nodeRunId r with ⟨fanOuts, heq⟩ | ⟨fanOuts, result, heq⟩ <;> rw [heq]
  · exact quiet_same rfl rfl rfl ⟨rfl, rfl, rfl⟩
  · refine quiet_append le_rfl (.refl _) ⟨rfl, rfl, rfl⟩ rfl fun b hb => ?_
    rw [List.mem_singleton.1 hb]
    rfl

theorem quiet_ackCommand (s : EngineState) (deviceId : ℕ) (a : Ack) (now : ℤ) :
    QuietStep s (ackCommand s deviceId a now) := by
  rcases ackCommand_cases s deviceId a now with heq | ⟨id, s', hs', hack⟩
  · rw [heq]
    exact quiet_same rfl rfl rfl ⟨rfl, rfl, rfl⟩
  · have hqueue : QuietStep s s' := hs' ▸ quiet_same rfl rfl rfl ⟨rfl, rfl, rfl⟩
    rcases hack with heq | ⟨nodeRunId, r, heq⟩ <;> rw [heq]
    · exact hqueue
    · exact hqueue.trans (quiet_startAck _ _ _)

theorem quiet_notifyTimeout (h : notifyTimeout s = some t) : QuietStep s t := by
  obtain ⟨rest, s', hs', hack⟩ := notifyTimeout_cases h
  have hrest : QuietStep s s' := hs' ▸ quiet_same rfl rfl rfl ⟨rfl, rfl, rfl⟩
  rcases hack with rfl | ⟨nodeRunId, r, rfl⟩
  · exact hrest
  · exact hrest.trans (quiet_startAck _ _ _)

theorem quiet_startRun (s : EngineState) (scenarioId deviceId : ℕ) (opts : StartOpts)
    (denial : Option String) (record : Bool) :
    QuietStep s (startRun s scenarioId deviceId opts denial record) := by
  rcases startRun_cases s scenarioId deviceId opts denial record with
    heq | ⟨run, -, heq⟩ | ⟨run, th, -, hth, heq⟩ <;> rw [heq]
  · exact quiet_same rfl rfl rfl ⟨rfl, rfl, rfl⟩
  · exact ⟨fun _ _ => le_rfl, fun _ hth _ => hth, .refl _, Nat.le_succ _, rfl, rfl, rfl⟩
  · refine quiet_append (Nat.le_succ _) (.refl _) ⟨rfl, rfl, rfl⟩ rfl fun b hb => ?_
    rw [List.mem_singleton.1 hb]
    rcases hth with ⟨message, rfl⟩ | ⟨nodeId, rfl⟩ <;> rfl

theorem quiet_rearm (s : EngineState) (now : ℤ) : QuietStep s (rearmWaitTimers s now) :=
  rearmWaitTimers_induction (fun _ => quiet_same rfl rfl rfl ⟨rfl, rfl, rfl⟩) QuietStep.trans quiet_startAck
    (fun _ _ _ => quiet_same rfl rfl rfl ⟨rfl, rfl, rfl⟩) s now

/-! ## Steps of a resumption -/

/-- 1 when the task carries the node run at this stage. -/
def Thread.carries (t : Thread) (stage : Stage) (id : ℕ) : ℕ :=
  if t.role = some (stage, id) then 1 else 0

/-- The `i`-th task goes from `a` to `b` and logs `c`, `d` and `e`: each stage takes from the one
before it, or the node run was not resumed before. -/
theorem ResumeInv.handOver (h : ResumeInv s) {i : ℕ} {a b : Thread} {c d e : List ℕ}
    (ha : s.threads[i]? = some a) (ht : t.threads = s.threads.set i b)
    (hlogs : t.completed = s.completed ++ c ∧ t.advanced = s.advanced ++ d ∧ t.caused = s.caused ++ e)
    (hrows : RowsKept s.nodeRuns t.nodeRuns) (hnext : t.nextId = s.nextId)
    (hused : ∀ id, id ∈ c ∨ b.role = some (.completing, id) → id < s.nextId)
    (hfinished : ∀ nr ∈ t.nodeRuns, nr.id ∈ c → nr.status ≠ .running)
    (hcompleting : ∀ id, c.count id + b.carries .completing id ≤ a.carries .completing id ∨
      (c.count id + b.carries .completing id ≤ 1 ∧ s.completed.count id + s.tasks .completing id = 0))
    (hresuming : ∀ id, d.count id + b.carries .resuming id ≤ a.carries .resuming id + c.count id)
    (hexecuting : ∀ id, e.count id + b.carries .executing id ≤ a.carries .executing id + d.count id) :
    ResumeInv t := by
  obtain ⟨hc, hd, he⟩ := hlogs
  have htasks : ∀ stage id, t.tasks stage id + a.carries stage id =
      s.tasks stage id + b.carries stage id := tasks_set ha b ht
  refine ⟨h.keyed.sublist hrows.ids, fun nr hnr => ?_, fun th hth id hr => ?_, fun id hid => ?_,
    fun nr hnr hid hrun => ?_, fun id => ?_, fun id => ?_, fun id => ?_⟩
  · obtain ⟨nr₀, h₀, hid, -⟩ := hrows.running nr hnr
    exact hid ▸ hnext ▸ h.used nr₀ h₀
  · rw [hnext]
    rw [ht] at hth
    rcases List.mem_or_eq_of_mem_set hth with hth | rfl
    · exact h.threadsUsed th hth id hr
    · exact hused id (.inr hr)
  · rw [hc, List.mem_append] at hid
    exact hnext ▸ hid.elim (h.completedUsed id) fun hid => hused id (.inl hid)
  · rw [hc, List.mem_append] at hid
    rcases hid with hid | hid
    · obtain ⟨nr₀, h₀, hid₀, hrun₀⟩ := hrows.running nr hnr
      exact h.finished nr₀ h₀ (hid₀ ▸ hid) (hrun₀ hrun)
    · exact hfinished nr hnr hid hrun
  · have h1 := h.completed id
    have h2 := htasks .completing id
    rw [hc, List.count_append]
    rcases hcompleting id with h3 | ⟨h3, h4⟩ <;> omega
  · have h1 := h.advanced id
    have h2 := htasks .resuming id
    have h3 := hresuming id
    rw [hc, hd, List.count_append, List.count_append]
    omega
  · have h1 := h.caused id
    have h2 := htasks .executing id
    have h3 := hexecuting id
    rw [hd, he, List.count_append, List.count_append]
    omega

/-- `executeNode` inserts a node run under a new id. -/
theorem ResumeInv.insertNodeRun (h : ResumeInv s) (nr : NodeRunRow) (hid : nr.id = s.nextId) :
    ResumeInv { s with nodeRuns := s.nodeRuns ++ [nr], nextId := s.nextId + 1 } := by
  have hfresh : get NodeRunRow.id s.nodeRuns nr.id = none :=
    get_eq_none_iff.2 fun nr' h' => hid ▸ (h.used nr' h').ne
  refine ⟨nodup_append h.keyed hfresh, fun nr' h' => ?_,
    fun th hth id hr => (h.threadsUsed th hth id hr).trans (Nat.lt_succ_self _),
    fun id hc => (h.completedUsed id hc).trans (Nat.lt_succ_self _), fun nr' h' hc => ?_, h.completed,
    h.advanced, h.caused⟩
  · rcases List.mem_append.1 h' with h' | h'
    · exact (h.used nr' h').trans (Nat.lt_succ_self _)
    · rw [List.mem_singleton.1 h', hid]
      exact Nat.lt_succ_self _
  · rcases List.mem_append.1 h' with h' | h'
    · exact h.finished nr' h' hc
    · rw [List.mem_singleton.1 h', hid] at hc
      exact absurd (h.completedUsed _ hc) (lt_irrefl _)

section Task
variable {i : ℕ} {v : Visit} {r : NodeResult} {next : Next} {now : ℤ}

/-- The checks of an ack: it takes up the resumption only as the first one. -/
theorem readAck_inv (h : ResumeInv s) {id : ℕ} (ha : s.threads[i]? = some (.ack id r))
    (hok : FirstAck s (.run i now)) : ResumeInv (readAck s i id r) := by
  have hdone : ResumeInv (s.setThread i .done) :=
    h.quiet (quiet_set le_rfl (.refl _) ⟨rfl, rfl, rfl⟩ ha rfl rfl)
  unfold readAck
  split
  · exact hdone
  · rename_i nr hnr
    split
    · exact hdone
    · rename_i run hrun
      split
      · exact hdone
      · rename_i hst
        obtain ⟨hrunning, hfree⟩ := hok id (by rw [ha]; rfl) nr hnr run hrun (not_not.1 hst)
        have hid : nr.id = id := key_of_get hnr
        have hmem : nr ∈ s.nodeRuns := mem_of_get hnr
        have hnot : s.completed.count id = 0 :=
          List.count_eq_zero_of_not_mem fun hc => h.finished nr hmem (hid.symm ▸ hc) hrunning
        refine h.handOver ha rfl (c := []) (d := []) (e := []) ⟨by simp [setThread], by simp [setThread],
          by simp [setThread]⟩ (.refl _) rfl ?_ (by simp) (fun id' => ?_) (fun id' => ?_) fun id' => ?_
        · rintro id' (hc | hr)
          · cases hc
          · obtain rfl : id = id' := by simpa [Thread.role] using hr
            exact hid ▸ h.used nr hmem
        · by_cases he : id = id'
          · subst he
            exact .inr ⟨by simp [Thread.carries, Thread.role], by omega⟩
          · exact .inl (by simp [Thread.carries, Thread.role, he])
        · simp [Thread.carries, Thread.role]
        · simp [Thread.carries, Thread.role]

theorem writeNodeRun_inv (h : ResumeInv s) {outcome : NodeOutcome} {byAck : Bool}
    (ha : s.threads[i]? = some (.complete v r outcome next byAck)) :
    ResumeInv (writeNodeRun s i v r outcome next byAck now) := by
  have hrows : RowsKept s.nodeRuns (KeyedTable.modify NodeRunRow.id s.nodeRuns v.nodeRunId fun nr =>
      { nr with status := outcome.status, result := r, finishedAt := some now }) := by
    refine rowsKept_map _ fun nr => ?_
    split
    · exact ⟨rfl, fun hst => by cases outcome <;> cases hst⟩
    · exact ⟨rfl, id⟩
  cases byAck with
  | false => exact h.quiet (quiet_set le_rfl hrows ⟨List.append_nil _, rfl, rfl⟩ ha rfl rfl)
  | true =>
      have hmem : Thread.complete v r outcome next true ∈ s.threads := List.mem_of_getElem? ha
      refine h.handOver ha rfl (c := [v.nodeRunId]) (d := []) (e := []) ⟨rfl, (List.append_nil _).symm,
        (List.append_nil _).symm⟩ hrows rfl ?_ ?_ (fun id => .inl ?_) (fun id => ?_) fun id => ?_
      · rintro id (hc | hr)
        · rw [List.mem_singleton.1 hc]
          exact h.threadsUsed _ hmem _ rfl
        · cases hr
      · intro nr hnr hc hst
        obtain ⟨nr₀, -, rfl⟩ := mem_modify.1 hnr
        rw [List.mem_singleton] at hc
        split at hst
        · cases outcome <;> cases hst
        · rename_i hne
          rw [if_neg hne] at hc
          exact hne hc
      · by_cases he : v.nodeRunId = id <;> simp [Thread.carries, Thread.role, he]
      · by_cases he : v.nodeRunId = id <;> simp [Thread.carries, Thread.role, he]
      · simp [Thread.carries, Thread.role]

theorem mirrorResult_inv (h : ResumeInv s) {byAck : Bool}
    (ha : s.threads[i]? = some (.mirror v r next byAck)) : ResumeInv (mirrorResult s i v r next byAck) := by
  cases byAck with
  | false =>
      refine h.quiet (quiet_set le_rfl (.refl _) ⟨rfl, rfl, rfl⟩ ha rfl ?_)
      cases next <;> rfl
  | true =>
      have hnil : ∀ xs : List ℕ, xs = xs ++ [] := fun xs => (List.append_nil xs).symm
      refine h.handOver ha rfl (c := []) (d := []) (e := []) ⟨hnil _, hnil _, hnil _⟩ (.refl _) rfl ?_ (by simp)
        (fun id => .inl ?_) (fun id => ?_) fun id => ?_
      · rintro id (hc | hr)
        · cases hc
        · cases next <;> cases hr
      · cases next <;> simp [Thread.carries, Thread.role, Next.thread]
      · cases next <;> simp [Thread.carries, Thread.role, Next.thread]
      · cases next <;> simp [Thread.carries, Thread.role, Next.thread]

/-- `_advance`: the resumption ends, or goes over to the execution of the next node. -/
theorem advance_inv (h : ResumeInv s) {exitCode : Option ℤ} {byAck : Bool}
    (ha : s.threads[i]? = some (.advance v exitCode byAck)) : ResumeInv (advance s i v exitCode byAck) := by
  -- the task goes to `b`, which carries the node run on only if an ack resumed it
  have hto : ∀ b : Thread, (∀ stage id, b.role = some (stage, id) →
      stage = .executing ∧ id = v.nodeRunId ∧ byAck = true) → ResumeInv
      ({ s with advanced := s.advanced ++ (if byAck then [v.nodeRunId] else []) }.setThread i b) := by
    intro b hb
    have hnil : ∀ xs : List ℕ, xs = xs ++ [] := fun xs => (List.append_nil xs).symm
    have hzero : ∀ stage id, stage ≠ .executing → b.carries stage id = 0 := by
      intro stage id hne
      exact if_neg fun hr => hne (hb stage id hr).1
    refine h.handOver ha rfl (c := []) (d := if byAck then [v.nodeRunId] else []) (e := [])
      ⟨hnil _, rfl, hnil _⟩ (.refl _) rfl ?_ (by simp) (fun id => .inl ?_) (fun id => ?_) fun id => ?_
    · rintro id (hc | hr)
      · cases hc
      · exact absurd (hb _ _ hr).1 (by decide)
    · rw [hzero .completing id (by decide)]
      simp
    · rw [hzero .resuming id (by decide)]
      cases byAck with
      | false => simp
      | true =>
          by_cases he : v.nodeRunId = id <;> simp [Thread.carries, Thread.role, he]
    · have hle : b.carries .executing id ≤ (if byAck then [v.nodeRunId] else []).count id := by
        unfold Thread.carries
        split
        · rename_i hr
          obtain ⟨-, rfl, rfl⟩ := hb _ _ hr
          simp
        · exact Nat.zero_le _
      simp only [List.count_nil]
      omega
  unfold advance
  dsimp only
  split
  · exact hto _ (fun _ _ hr => by cases hr)
  · split
    · exact hto _ (fun _ _ hr => by cases hr)
    · split
      · exact hto _ (fun _ _ hr => by cases hr)
      · refine hto _ fun stage id hr => ?_
        cases byAck with
        | false => cases hr
        | true =>
            simp only [Thread.role, if_true, Option.some.injEq, Prod.mk.injEq] at hr
            exact ⟨hr.1.symm, hr.2.symm, rfl⟩

theorem executeNode_inv (h : ResumeInv s) {runId nodeId : ℕ} {cause : Option ℕ}
    (ha : s.threads[i]? = some (.execute runId nodeId cause)) :
    ResumeInv (executeNode s i runId nodeId cause now) := by
  have hquiet : ∀ b : Thread, b.role = none → ResumeInv (s.setThread i b) :=
    fun b hb => h.quiet (quiet_set le_rfl (.refl _) ⟨rfl, rfl, rfl⟩ ha rfl hb)
  unfold executeNode
  split
  · exact hquiet _ rfl
  · rename_i run _
    split
    · exact hquiet _ rfl
    · split
      · exact hquiet _ rfl
      · rename_i node _
        dsimp only
        split
        · exact hquiet _ rfl
        · -- the cause is logged, then the node run is inserted
          have hnil : ∀ xs : List ℕ, xs = xs ++ [] := fun xs => (List.append_nil xs).symm
          have hlog : ∀ runs : List RunRow, ResumeInv { s with
              runs := runs
              threads := s.threads.set i (.executor run node s.nextId)
              caused := s.caused ++ cause.toList } := by
            intro runs
            refine h.handOver ha rfl (c := []) (d := []) (e := cause.toList) ⟨hnil _, hnil _, rfl⟩ (.refl _)
              rfl ?_ (by simp) (fun id => .inl ?_) (fun id => ?_) fun id => ?_
            · rintro id (hc | hr)
              · cases hc
              · cases hr
            · simp [Thread.carries, Thread.role]
            · simp [Thread.carries, Thread.role]
            · cases cause with
              | none => simp [Thread.carries, Thread.role]
              | some c =>
                  by_cases he : c = id <;> simp [Thread.carries, Thread.role, he]
          exact (hlog _).insertNodeRun _ rfl

/-- An executor, whatever it does, resumes nothing. -/
theorem quiet_runExecutor {run : RunRow} {node : NodeRow} {nodeRunId : ℕ}
    (ha : s.threads[i]? = some (.executor run node nodeRunId)) :
    QuietStep s (runExecutor s i run node nodeRunId now) := by
  have hto : ∀ (b : Thread) (db : GraphDb) (fanOuts : ℕ → Option PendingFanOut) (timers : List ℕ),
      b.role = none → QuietStep s { s with
        db := db, fanOuts := fanOuts, timers := timers, threads := s.threads.set i b } :=
    fun _ _ _ _ hb => quiet_set le_rfl (.refl _) ⟨rfl, rfl, rfl⟩ ha rfl hb
  unfold runExecutor
  dsimp only
  split
  · exact hto _ _ _ _ rfl
  · split
    · exact hto _ _ _ _ rfl
    · exact hto _ _ _ _ rfl
    · exact hto _ _ _ _ rfl
    · exact hto _ _ _ _ rfl
    · exact hto _ _ _ _ rfl
    · split
      · exact hto _ _ _ _ rfl
      · exact hto _ _ _ _ rfl
    · exact hto _ _ _ _ rfl

theorem runThread_inv (h : ResumeInv s) (hok : FirstAck s (.run i now))
    (hs : runThread s i now = some t) : ResumeInv t := by
  have hquiet : ∀ {u : EngineState}, some u = some t → QuietStep s u → ResumeInv t :=
    fun he hq => Option.some.inj he ▸ h.quiet hq
  obtain ⟨a, ha, hs⟩ := Option.bind_eq_some_iff.1 hs
  cases a with
  | ack id r => exact Option.some.inj hs ▸ readAck_inv h ha hok
  | complete v r outcome next byAck => exact Option.some.inj hs ▸ writeNodeRun_inv h ha
  | mirror v r next byAck => exact Option.some.inj hs ▸ mirrorResult_inv h ha
  | advance v exitCode byAck => exact Option.some.inj hs ▸ advance_inv h ha
  | execute runId nodeId cause => exact Option.some.inj hs ▸ executeNode_inv h ha
  | executor run node nodeRunId => exact hquiet hs (quiet_runExecutor ha)
  | stamp run node nodeRunId => exact hquiet hs (quiet_set le_rfl (.refl _) ⟨rfl, rfl, rfl⟩ ha rfl rfl)
  | enqueue run node nodeRunId command targets =>
      cases targets with
      | nil => exact hquiet hs (quiet_set le_rfl (.refl _) ⟨rfl, rfl, rfl⟩ ha rfl rfl)
      | cons target rest =>
          exact hquiet hs (quiet_set (Nat.le_succ _) (.refl _) ⟨rfl, rfl, rfl⟩ ha rfl rfl)
  | mark runId failure => exact hquiet hs (quiet_set le_rfl (.refl _) ⟨rfl, rfl, rfl⟩ ha rfl rfl)
  | cancelRun runId => exact hquiet hs (quiet_set le_rfl (.refl _) ⟨rfl, rfl, rfl⟩ ha rfl rfl)
  | cancelNodes runId =>
      refine hquiet hs (quiet_set le_rfl (rowsKept_map _ fun nr => ?_) ⟨rfl, rfl, rfl⟩ ha rfl rfl)
      split
      · exact ⟨rfl, fun hst => by cases hst⟩
      · exact ⟨rfl, id⟩
  | cancelCommands ids => exact hquiet hs (quiet_set le_rfl (.refl _) ⟨rfl, rfl, rfl⟩ ha rfl rfl)
  | done => cases hs

theorem quiet_failThread {message : String} (hs : failThread s i message = some t) : QuietStep s t := by
  unfold failThread at hs
  split at hs
  · rename_i ha
    exact Option.some.inj hs ▸ quiet_set le_rfl (.refl _) ⟨rfl, rfl, rfl⟩ ha rfl rfl
  · rename_i ha
    exact Option.some.inj hs ▸ quiet_set le_rfl (.refl _) ⟨rfl, rfl, rfl⟩ ha rfl rfl
  · rename_i ha
    exact Option.some.inj hs ▸ quiet_set le_rfl (.refl _) ⟨rfl, rfl, rfl⟩ ha rfl rfl
  · cases hs

end Task

theorem quiet_restart (s : EngineState) : QuietStep s (restart s) :=
  ⟨fun _ _ => Nat.zero_le _, fun _ hth => (List.not_mem_nil hth).elim, .refl _, le_rfl, rfl, rfl, rfl⟩

/-! ## Runs -/

/-- **Every step that meets the condition keeps the invariant.** -/
theorem engineStep_inv (h : ResumeInv s) {op : EngineOp} (hok : FirstAck s op)
    (hs : engineStep s op = some t) : ResumeInv t := by
  cases op with
  | startRun scenarioId deviceId opts denial record =>
      exact Option.some.inj hs ▸ h.quiet (quiet_startRun _ _ _ _ _ _)
  | run i now => exact runThread_inv h hok hs
  | fail i message => exact h.quiet (quiet_failThread hs)
  | ack deviceId a now => exact Option.some.inj hs ▸ h.quiet (quiet_ackCommand _ _ _ _)
  | expire now => exact Option.some.inj hs ▸ h.quiet (quiet_same rfl rfl rfl ⟨rfl, rfl, rfl⟩)
  | notifyTimeout => exact h.quiet (quiet_notifyTimeout hs)
  | fire nodeRunId =>
      simp only [engineStep] at hs
      split at hs
      · have htimers : QuietStep s { s with timers := s.timers.erase nodeRunId } :=
          quiet_same rfl rfl rfl ⟨rfl, rfl, rfl⟩
        exact Option.some.inj hs ▸ h.quiet (htimers.trans (quiet_startAck _ _ _))
      · cases hs
  | cancelRun runId tenantId =>
      rw [← Option.some.inj hs]
      unfold startCancel
      split
      · exact h
      · split
        · refine h.quiet (quiet_append le_rfl (.refl _) ⟨rfl, rfl, rfl⟩ rfl fun b hb => ?_)
          rw [List.mem_singleton.1 hb]
          rfl
        · exact h
  | edit db =>
      rw [← Option.some.inj hs]
      exact h.quiet ⟨fun _ _ => le_rfl, fun _ hth _ => hth, rowsKept_filter _ _, le_rfl, rfl, rfl, rfl⟩
  | restart => exact Option.some.inj hs ▸ h.quiet (quiet_restart s)
  | rearm now =>
      simp only [engineStep] at hs
      split at hs
      · cases hs
      · exact Option.some.inj hs ▸ h.quiet (quiet_rearm s now)

theorem resumeInv_of_init (h : engineMachine.init s) : ResumeInv s := by
  obtain ⟨hkey, hused, hthreads, -, -, -, -, hc, had, hca⟩ := h
  have htasks : ∀ stage id, s.tasks stage id = 0 := by
    intro stage id
    rw [EngineState.tasks, hthreads, List.countP_nil]
  refine ⟨hkey, hused, ?_, ?_, ?_, fun id => ?_, fun id => ?_, fun id => ?_⟩
  · rw [hthreads]; simp
  · rw [hc]; simp
  · rw [hc]; simp
  · rw [htasks, hc]; simp
  · rw [htasks, had]; simp
  · rw [htasks, hca]; simp

/-- No node run is completed by an ack twice, advanced twice, or the reason of two executions. -/
def AtMostOnce (s : EngineState) : Prop := s.completed.Nodup ∧ s.advanced.Nodup ∧ s.caused.Nodup

/-- **A node run is resumed at most once**, in every run whose acks are the first of their node run
when they pass the checks. -/
theorem resumed_at_most_once (h : Reach engineMachine FirstAck s) : AtMostOnce s := by
  have hinv : ResumeInv s :=
    h.invariant (fun _ => resumeInv_of_init) fun _ _ _ hi hok hs => engineStep_inv hi hok hs
  refine ⟨List.nodup_iff_count_le_one.2 fun id => ?_, List.nodup_iff_count_le_one.2 fun id => ?_,
    List.nodup_iff_count_le_one.2 fun id => ?_⟩
  · have := hinv.completed id
    omega
  · have := hinv.completed id
    have := hinv.advanced id
    omega
  · have := hinv.completed id
    have := hinv.advanced id
    have := hinv.caused id
    omega

/-! ## A late ack -/

/-- A trigger, then two nodes that run the same script on the device of the run. -/
def twoScripts : GraphDb where
  scenarios := [⟨1, 1, false⟩]
  nodes := [⟨1, 1, .trigger .manual, none, .empty⟩,
    ⟨2, 1, .runScript, none, { NodeConfig.empty with scriptId := some 1 }⟩,
    ⟨3, 1, .runScript, none, { NodeConfig.empty with scriptId := some 1 }⟩]
  edges := [⟨1, 1, 1, 2, .always, 0⟩, ⟨2, 1, 2, 3, .always, 1⟩]
  scripts := [⟨1, some 1, none⟩]
  devices := [⟨1, 1, none, "linux", "online", [], false⟩]
  groups := []
  cooldowns := []

/-- The run starts, enqueues the command 3 of its first node and parks. -/
def parkOps : List EngineOp :=
  .startRun 1 1 ⟨none, none, none, false⟩ none false :: List.replicate 4 (.run 0 0)

/-- The agent reports the command 3 done. -/
def agentAck : EngineOp := .ack 1 ⟨.uuid 3 true, some .runScript, .success, none⟩ 700000

/-- The agent acknowledges in time, and its ack is followed to the execution of the second node. -/
theorem resumed_at_most_once_in_time : ∃ s, Reach engineMachine FirstAck s ∧ s.caused = [2] ∧ AtMostOnce s := by
  have hadmits : engineMachine.Admits FirstAck (bootState twoScripts)
      (parkOps ++ agentAck :: List.replicate 5 (.run 1 700000)) := by decide
  have hrun : (engineMachine.exec (bootState twoScripts)
      (parkOps ++ agentAck :: List.replicate 5 (.run 1 700000))).map EngineState.caused = some [2] := by decide
  obtain ⟨s, hs, hcaused⟩ := Option.map_eq_some_iff.1 hrun
  have hreach : Reach engineMachine FirstAck s := (Reach.start (bootState_init _)).of_exec _ hadmits hs
  exact ⟨s, hreach, hcaused, resumed_at_most_once hreach⟩

/-- The command expires and its synthetic ack is followed to the execution of the second node; then the
ack of the agent is. -/
def lateAckOps : List EngineOp :=
  parkOps ++ .expire 700000 :: .notifyTimeout :: List.replicate 5 (.run 1 700000) ++
    agentAck :: List.replicate 5 (.run 2 700000)

theorem late_ack_resumes_again : ¬ ∀ s, Reach engineMachine anyStep s → AtMostOnce s := by
  intro hall
  have hrun : (engineMachine.exec (bootState twoScripts) lateAckOps).map EngineState.caused = some [2, 2] := by
    decide
  obtain ⟨s, hs, hcaused⟩ := Option.map_eq_some_iff.1 hrun
  have honce := (hall s (reach_of_exec (bootState_init _) _ hs)).2.2
  rw [hcaused] at honce
  exact absurd honce (by decide)

end Obliance.Scenario

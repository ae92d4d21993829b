import Obliance.Schedules.DispatchOnce

/-!
# Passes that do not overlap

The looks of a run are apart when a pass starts only once the one before is over, no row is given up after the
first of its executions, and edits plan ahead. Rows that are done are then not due again.

* `Orderly` : these steps;
* `OrderlyInv` : an occurrence that was dispatched is on no enabled row, unless the pass still works on it;
* `OrderlyInv.readsApart` : a look is then apart;
* `orderly_dispatches_once` : each occurrence makes at most one execution for a device.
-/

namespace Obliance.Schedules
open GuardedRun KeyedTable Obliance.Js Obliance.Commands

/-! ## What a pass has before it -/

/-- The rows a pass has dispatched nothing of. -/
def TickPhase.ahead : TickPhase → List ScheduleRow
  | .read => []
  | .rows schedules => schedules
  | .targets schedule _ rest => schedule :: rest
  | .inFlight schedule _ rest => schedule :: rest
  | .devices _ _ rest => rest
  | .disable _ rest => rest

/-- The row a pass dispatches, until its clock is written. -/
def TickPhase.working : TickPhase → Option ScheduleRow
  | .devices schedule _ _ => some schedule
  | .disable schedule _ => some schedule
  | _ => none

def TickPhase.isOver : TickPhase → Bool
  | .rows [] => true
  | _ => false

/-- The rows a pass has not given up or finished. -/
def TickPhase.schedules (phase : TickPhase) : List ScheduleRow := phase.working.toList ++ phase.ahead

/-- The instants a row is planned for. -/
def ScheduleRow.planned (schedule : ScheduleRow) : List ℤ :=
  schedule.nextRunAt.toList ++ schedule.fireOnceAt.toList

/-- The occurrence has been dispatched, to whatever device. -/
def ScheduleState.Dispatched (s : ScheduleState) (id : ℕ) (occurrence : ℤ) : Prop :=
  ∃ c ∈ s.created, c.scheduleId = id ∧ c.occurrence = occurrence

/-! ## The steps -/

/-- An edit leaves the clock of a row, or plans it for instants that are not dispatched and not before a
pass that is under way. -/
def PlansAhead (s : ScheduleState) (r : ScheduleRow) : Prop :=
  (∃ old ∈ s.tables.schedules, old.id = r.id ∧ old.enabled = true ∧ old.nextRunAt = r.nextRunAt ∧
      old.fireOnceAt = r.fireOnceAt) ∨
    ∀ occurrence ∈ r.planned, ¬ s.Dispatched r.id occurrence ∧
      ∀ t ∈ s.ticks, t.phase.isOver = false → t.now < occurrence

/-- **Steps of passes that do not overlap and finish what they begin.** -/
def Orderly (s : ScheduleState) : ScheduleOp → Prop
  | .tick now => (∀ t ∈ s.ticks, t.phase.isOver = true) ∧ ∀ c ∈ s.created, c.occurrence ≤ now
  | .run _ => True
  | .throws i => ∀ t ∈ s.ticks[i]?, t.phase.working.isNone = true
  | .others tables => ∀ r ∈ tables.schedules, r.enabled = true → PlansAhead s r
  | .restart => ∀ t ∈ s.ticks, t.phase.working.isNone = true

instance (s : ScheduleState) (id : ℕ) (occurrence : ℤ) : Decidable (s.Dispatched id occurrence) :=
  inferInstanceAs (Decidable (∃ c ∈ s.created, c.scheduleId = id ∧ c.occurrence = occurrence))

instance (s : ScheduleState) (r : ScheduleRow) : Decidable (PlansAhead s r) :=
  inferInstanceAs (Decidable ((∃ old ∈ s.tables.schedules, old.id = r.id ∧ old.enabled = true ∧
    old.nextRunAt = r.nextRunAt ∧ old.fireOnceAt = r.fireOnceAt) ∨
      ∀ occurrence ∈ r.planned, ¬ s.Dispatched r.id occurrence ∧
        ∀ t ∈ s.ticks, t.phase.isOver = false → t.now < occurrence))

instance decidableOrderly (s : ScheduleState) : (op : ScheduleOp) → Decidable (Orderly s op)
  | .tick now => inferInstanceAs (Decidable ((∀ t ∈ s.ticks, t.phase.isOver = true) ∧
      ∀ c ∈ s.created, c.occurrence ≤ now))
  | .throws i => inferInstanceAs (Decidable (∀ t ∈ s.ticks[i]?, t.phase.working.isNone = true))
  | .others tables => inferInstanceAs (Decidable (∀ r ∈ tables.schedules, r.enabled = true → PlansAhead s r))
  | .restart => inferInstanceAs (Decidable (∀ t ∈ s.ticks, t.phase.working.isNone = true))
  | .run _ => .isTrue trivial

/-! ## Invariant -/

/-- The rows of a pass against the tables: those ahead are not dispatched yet, and a row that was read without
an instant to fire once at gets none that has come. -/
structure RowsFresh (s : ScheduleState) (now : ℤ) (phase : TickPhase) : Prop where
  distinct : (phase.schedules.map ScheduleRow.id).Nodup
  undispatched : ∀ schedule ∈ phase.ahead, ∀ occurrence ∈ schedule.due now, ¬ s.Dispatched schedule.id occurrence
  later : ∀ schedule ∈ phase.schedules, schedule.fireOnceAt = none →
    ∀ r ∈ s.tables.schedules, r.id = schedule.id → r.enabled = true → ∀ instant ∈ r.fireOnceAt, now < instant

structure OrderlyInv (s : ScheduleState) : Prop where
  single : ∀ (i j : ℕ) (t u : Tick), s.ticks[i]? = some t → s.ticks[j]? = some u → t.phase.isOver = false →
    u.phase.isOver = false → i = j
  bound : ∀ t ∈ s.ticks, t.phase.isOver = false → ∀ c ∈ s.created, c.occurrence ≤ t.now
  table : ∀ r ∈ s.tables.schedules, r.enabled = true → ∀ occurrence ∈ r.planned, s.Dispatched r.id occurrence →
    ∃ t ∈ s.ticks, ∃ schedule ∈ t.phase.working, schedule.id = r.id
  rows : ∀ t ∈ s.ticks, RowsFresh s t.now t.phase

variable {host : ScheduleHost} {s s' : ScheduleState} {i : ℕ} {now : ℤ} {phase phase' : TickPhase}

theorem TickPhase.schedules_of_isOver (h : phase.isOver = true) : phase.working = none ∧ phase.ahead = [] := by
  cases phase with
  | rows schedules =>
      cases schedules with
      | nil => exact ⟨rfl, rfl⟩
      | cons schedule rest => cases h
  | read | targets | inFlight | devices | disable => cases h

theorem rowsFresh_of_isOver (s : ScheduleState) (now : ℤ) (h : phase.isOver = true) : RowsFresh s now phase := by
  obtain ⟨hworking, hahead⟩ := TickPhase.schedules_of_isOver h
  refine ⟨?_, ?_, ?_⟩ <;> simp [TickPhase.schedules, hworking, hahead]

/-- The row a pass works on is not ahead of it. -/
theorem TickPhase.ne_working (h : (phase.schedules.map ScheduleRow.id).Nodup) {schedule other : ScheduleRow}
    (hworking : other ∈ phase.working) (hahead : schedule ∈ phase.ahead) : other.id ≠ schedule.id := by
  rw [TickPhase.schedules, List.map_append, List.nodup_append] at h
  exact h.2.2 _ (List.mem_map_of_mem (Option.mem_toList.2 hworking)) _ (List.mem_map_of_mem hahead)

/-- The other passes are over. -/
theorem OrderlyInv.others_over (h : OrderlyInv s) {t u : Tick} (ht : s.ticks[i]? = some t)
    (hopen : t.phase.isOver = false) {j : ℕ} (hu : s.ticks[j]? = some u) (hne : j ≠ i) :
    u.phase.isOver = true := by
  by_contra hover
  exact hne (h.single j i u t hu ht (by simpa using hover) hopen)

/-- What the table still has of a dispatched occurrence, the pass under way works on. -/
theorem OrderlyInv.working (h : OrderlyInv s) (ht : s.ticks[i]? = some ⟨now, phase⟩)
    (hopen : phase.isOver = false) {r : ScheduleRow} (hr : r ∈ s.tables.schedules) (henabled : r.enabled = true)
    {occurrence : ℤ} (ho : occurrence ∈ r.planned) (hd : s.Dispatched r.id occurrence) :
    ∃ schedule ∈ phase.working, schedule.id = r.id := by
  obtain ⟨u, hu, hworking⟩ := h.table r hr henabled occurrence ho hd
  obtain ⟨j, hj⟩ := List.getElem?_of_mem hu
  by_cases hij : j = i
  · subst hij
    obtain rfl := Option.some.inj (ht.symm.trans hj)
    exact hworking
  · rw [(TickPhase.schedules_of_isOver (h.others_over ht hopen hj hij)).1] at hworking
    obtain ⟨_, hnone, -⟩ := hworking
    cases hnone

/-! ## A pass goes on -/

/-- What the pass under way has done by then is in the tables. -/
theorem OrderlyInv.setPhase (h : OrderlyInv s) (ht : s.ticks[i]? = some ⟨now, phase⟩)
    (hopen : phase.isOver = false) (hticks : s'.ticks = s.ticks.set i ⟨now, phase'⟩)
    (hbound : ∀ c ∈ s'.created, c.occurrence ≤ now)
    (htable : ∀ r ∈ s'.tables.schedules, r.enabled = true → ∀ occurrence ∈ r.planned,
      s'.Dispatched r.id occurrence → ∃ schedule ∈ phase'.working, schedule.id = r.id)
    (hrows : RowsFresh s' now phase') : OrderlyInv s' := by
  have hlt : i < s.ticks.length := (List.getElem?_eq_some_iff.1 ht).1
  have hat : ∀ (j : ℕ) (u : Tick), s'.ticks[j]? = some u →
      (j = i ∧ u = ⟨now, phase'⟩) ∨ u.phase.isOver = true := by
    intro j u hu
    rw [hticks] at hu
    by_cases hij : j = i
    · subst hij
      rw [List.getElem?_set_self hlt] at hu
      exact .inl ⟨rfl, (Option.some.inj hu).symm⟩
    · rw [List.getElem?_set_ne (Ne.symm hij)] at hu
      exact .inr (h.others_over ht hopen hu hij)
  have hopenAt : ∀ (j : ℕ) (u : Tick), s'.ticks[j]? = some u → u.phase.isOver = false →
      j = i ∧ u = ⟨now, phase'⟩ := by
    intro j u hu huopen
    refine (hat j u hu).resolve_right fun hover => ?_
    rw [hover] at huopen
    cases huopen
  refine ⟨?_, ?_, ?_, ?_⟩
  · intro j k t u htj huk htopen huopen
    exact (hopenAt j t htj htopen).1.trans (hopenAt k u huk huopen).1.symm
  · intro t hmem htopen
    obtain ⟨j, hj⟩ := List.getElem?_of_mem hmem
    obtain ⟨-, rfl⟩ := hopenAt j t hj htopen
    exact hbound
  · intro r hr henabled occurrence ho hd
    refine ⟨⟨now, phase'⟩, ?_, htable r hr henabled occurrence ho hd⟩
    rw [hticks]
    exact List.mem_of_getElem? (List.getElem?_set_self hlt)
  · intro t hmem
    obtain ⟨j, hj⟩ := List.getElem?_of_mem hmem
    rcases hat j t hj with ⟨-, rfl⟩ | hover
    · exact hrows
    · exact rowsFresh_of_isOver _ _ hover

/-- The pass under way leaves the clocks, and dispatches occurrences of the row it works on. -/
theorem OrderlyInv.goesOn (made : List Creation) (h : OrderlyInv s) (ht : s.ticks[i]? = some ⟨now, phase⟩)
    (hopen : phase.isOver = false) (hticks : s'.ticks = s.ticks.set i ⟨now, phase'⟩)
    (hcreated : s'.created = s.created ++ made) (htables : s'.tables.schedules = s.tables.schedules)
    (hmade : ∀ c ∈ made, c.occurrence ≤ now ∧ ∃ schedule ∈ phase'.working, schedule.id = c.scheduleId)
    (hschedules : phase'.schedules.Sublist phase.schedules) (hahead : phase'.ahead ⊆ phase.ahead)
    (hworking : ∀ schedule ∈ phase.working, schedule ∈ phase'.working) : OrderlyInv s' := by
  have hrows : RowsFresh s now phase := h.rows _ (List.mem_of_getElem? ht)
  have hsplit : ∀ (id : ℕ) (occurrence : ℤ), s'.Dispatched id occurrence →
      s.Dispatched id occurrence ∨ ∃ schedule ∈ phase'.working, schedule.id = id := by
    rintro id occurrence ⟨c, hc, rfl, rfl⟩
    rw [hcreated] at hc
    rcases List.mem_append.1 hc with hc | hc
    · exact .inl ⟨c, hc, rfl, rfl⟩
    · exact .inr (hmade c hc).2
  have hdistinct : (phase'.schedules.map ScheduleRow.id).Nodup := hrows.distinct.sublist (hschedules.map _)
  refine h.setPhase ht hopen hticks ?_ ?_ ⟨hdistinct, ?_, ?_⟩
  · intro c hc
    rw [hcreated] at hc
    rcases List.mem_append.1 hc with hc | hc
    · exact h.bound _ (List.mem_of_getElem? ht) hopen c hc
    · exact (hmade c hc).1
  · intro r hr henabled occurrence ho hd
    rw [htables] at hr
    rcases hsplit r.id occurrence hd with hd | hnew
    · obtain ⟨schedule, hschedule, hid⟩ := h.working ht hopen hr henabled ho hd
      exact ⟨schedule, hworking schedule hschedule, hid⟩
    · exact hnew
  · intro schedule hschedule occurrence ho hd
    rcases hsplit schedule.id occurrence hd with hd | ⟨other, hother, hid⟩
    · exact hrows.undispatched schedule (hahead hschedule) occurrence ho hd
    · exact TickPhase.ne_working hdistinct hother hschedule hid
  · intro schedule hschedule hcron r hr
    rw [htables] at hr
    exact hrows.later schedule (hschedules.subset hschedule) hcron r hr

/-- The query for the due rows: what the pass has before it is not dispatched. -/
theorem OrderlyInv.read (h : OrderlyInv s) (ht : s.ticks[i]? = some ⟨now, .read⟩) :
    OrderlyInv (s.setPhase i now (.rows (s.tables.schedules.filter (isDue now)))) := by
  have hnone : ∀ r ∈ s.tables.schedules, r.enabled = true → ∀ occurrence ∈ r.planned,
      ¬ s.Dispatched r.id occurrence := by
    intro r hr henabled occurrence ho hd
    obtain ⟨_, hworking, -⟩ := h.working ht rfl hr henabled ho hd
    cases hworking
  refine h.setPhase ht rfl rfl (h.bound _ (List.mem_of_getElem? ht) rfl) ?_ ⟨?_, ?_, ?_⟩
  · intro r hr henabled occurrence ho hd
    exact absurd hd (hnone r hr henabled occurrence ho)
  · exact s.tables.schedules_keyed.sublist (List.filter_sublist.map _)
  · intro schedule hschedule occurrence ho
    obtain ⟨hr, hdue⟩ := List.mem_filter.1 hschedule
    exact hnone schedule hr (Bool.and_eq_true _ _ ▸ hdue).1 occurrence
      (List.mem_of_mem_filter (List.mem_dedup.1 ho))
  · intro schedule hschedule hcron r hr hid _ instant hinstant
    obtain ⟨hmem, -⟩ := List.mem_filter.1 hschedule
    obtain rfl := s.tables.schedules_keyed.eq_of_key hr hmem hid
    rw [hcron] at hinstant
    cases hinstant

/-- The clock goes on to an instant after this pass. -/
theorem lt_of_mem_computeNextRun {schedule : ScheduleRow} {instant : ℤ}
    (h : instant ∈ computeNextRun host schedule now) : now < instant := by
  unfold computeNextRun at h
  split at h
  · cases h
  · obtain ⟨expression, -, rfl⟩ := Option.map_eq_some_iff.1 h
    cases hnext : host.parser.next expression schedule.timezone now with
    | none =>
        rw [Option.getD_none]
        omega
    | some time => exact host.parser.next_gt _ _ _ _ hnext

/-- Where a pass is after the clock of a row. -/
def afterClock (schedule : ScheduleRow) (rest : List ScheduleRow) : TickPhase :=
  if schedule.fireOnceAt.isSome then .disable schedule rest else .rows rest

theorem afterClock_ahead (schedule : ScheduleRow) (rest : List ScheduleRow) :
    (afterClock schedule rest).ahead = rest := by
  unfold afterClock
  split <;> rfl

theorem afterClock_schedules (schedule : ScheduleRow) (rest : List ScheduleRow) :
    (afterClock schedule rest).schedules.Sublist (schedule :: rest) := by
  unfold afterClock
  split
  · exact List.Sublist.refl _
  · exact List.sublist_cons_self _ _

/-- A row after the clock of a schedule is written, and the row it was. -/
theorem mem_writeClock {schedule r : ScheduleRow} (h : r ∈ (s.writeClock host schedule now).tables.schedules) :
    ∃ old ∈ s.tables.schedules, old.id = r.id ∧ old.enabled = r.enabled ∧ old.fireOnceAt = r.fireOnceAt ∧
      ((r.id = schedule.id ∧ r.nextRunAt = computeNextRun host schedule now) ∨
        r.id ≠ schedule.id ∧ old.nextRunAt = r.nextRunAt) := by
  obtain ⟨old, hold, rfl⟩ := mem_modify.1 h
  refine ⟨old, hold, ?_⟩
  by_cases hid : old.id = schedule.id
  · rw [if_pos hid]
    exact ⟨rfl, rfl, rfl, .inl ⟨hid, rfl⟩⟩
  · rw [if_neg hid]
    exact ⟨rfl, rfl, rfl, .inr ⟨hid, rfl⟩⟩

/-- The clock is written. -/
theorem OrderlyInv.writeClock {schedule : ScheduleRow} {rest : List ScheduleRow} (h : OrderlyInv s)
    (ht : s.ticks[i]? = some ⟨now, .devices schedule [] rest⟩) :
    OrderlyInv ((s.writeClock host schedule now).setPhase i now (afterClock schedule rest)) := by
  have hrows : RowsFresh s now (.devices schedule [] rest) := h.rows _ (List.mem_of_getElem? ht)
  have hbound : ∀ c ∈ s.created, c.occurrence ≤ now := h.bound _ (List.mem_of_getElem? ht) rfl
  have hschedules := afterClock_schedules schedule rest
  refine h.setPhase ht rfl rfl hbound ?_ ⟨hrows.distinct.sublist (hschedules.map _), ?_, ?_⟩
  · intro r hr henabled occurrence ho hd
    obtain ⟨old, hold, hid, holdEnabled, hfire, hnext⟩ := mem_writeClock hr
    rcases hnext with ⟨hself, hclock⟩ | ⟨hne, hclock⟩
    · cases hcron : schedule.fireOnceAt with
      | some instant =>
          refine ⟨schedule, ?_, hself.symm⟩
          rw [afterClock, hcron]
          rfl
      | none =>
          -- What the row is planned for now comes after this pass, what is dispatched does not.
          obtain ⟨c, hc, -, rfl⟩ := hd
          have hlt : now < c.occurrence := by
            rcases List.mem_append.1 ho with ho | ho
            · exact lt_of_mem_computeNextRun (hclock ▸ Option.mem_toList.1 ho)
            · exact hrows.later schedule (List.mem_cons_self ..) hcron old hold (hid.trans hself)
                (holdEnabled.trans henabled) _ (hfire ▸ Option.mem_toList.1 ho)
          exact absurd (hbound c hc) (not_le.2 hlt)
    · have hplanned : occurrence ∈ old.planned := by
        rw [ScheduleRow.planned, hclock, hfire]
        exact ho
      obtain ⟨other, hother, hotherId⟩ := h.working ht rfl hold (holdEnabled.trans henabled) hplanned (hid ▸ hd)
      obtain rfl := Option.some.inj hother
      exact absurd (hid.symm.trans hotherId.symm) hne
  · rw [afterClock_ahead]
    exact hrows.undispatched
  · intro other hother hcron r hr hotherId henabled instant hinstant
    obtain ⟨old, hold, hid, holdEnabled, hfire, -⟩ := mem_writeClock hr
    exact hrows.later other (hschedules.subset hother) hcron old hold (hid.trans hotherId)
      (holdEnabled.trans henabled) instant (hfire ▸ hinstant)

/-- A schedule that fires once is disabled. -/
theorem OrderlyInv.disable {schedule : ScheduleRow} {rest : List ScheduleRow} (h : OrderlyInv s)
    (ht : s.ticks[i]? = some ⟨now, .disable schedule rest⟩) :
    OrderlyInv ((s.disable schedule).setPhase i now (.rows rest)) := by
  have hrows : RowsFresh s now (.disable schedule rest) := h.rows _ (List.mem_of_getElem? ht)
  have hmem : ∀ r ∈ (s.disable schedule).tables.schedules, r.enabled = true →
      r ∈ s.tables.schedules ∧ r.id ≠ schedule.id := by
    intro r hr henabled
    obtain ⟨old, hold, rfl⟩ := mem_modify.1 hr
    by_cases hid : old.id = schedule.id
    · rw [if_pos hid] at henabled
      cases henabled
    · rw [if_neg hid]
      exact ⟨hold, hid⟩
  have hdistinct : (schedule.id :: rest.map ScheduleRow.id).Nodup := hrows.distinct
  refine h.setPhase ht rfl rfl (h.bound _ (List.mem_of_getElem? ht) rfl) ?_
    ⟨(List.nodup_cons.1 hdistinct).2, hrows.undispatched, ?_⟩
  · intro r hr henabled occurrence ho hd
    obtain ⟨hold, hne⟩ := hmem r hr henabled
    obtain ⟨other, hother, hid⟩ := h.working ht rfl hold henabled ho hd
    obtain rfl := Option.some.inj hother
    exact absurd hid.symm hne
  · intro other hother hcron r hr hid henabled
    exact hrows.later other (List.mem_cons_of_mem _ hother) hcron r (hmem r hr henabled).1 hid henabled

/-! ## Steps -/

theorem occurrence_le_of_mem {schedule : ScheduleRow} {id : ℕ} {c : Creation} (h : c ∈ creations schedule now id) :
    c.scheduleId = schedule.id ∧ c.occurrence ∈ schedule.due now ∧ c.occurrence ≤ now := by
  obtain ⟨occurrence, ho, rfl⟩ := List.mem_map.1 h
  exact ⟨rfl, ho, of_decide_eq_true (List.mem_filter.1 (List.mem_dedup.1 ho)).2⟩

/-- The next device of the list. -/
theorem OrderlyInv.device {schedule : ScheduleRow} {device : ScheduleDevice} {devices : List ScheduleDevice}
    {rest : List ScheduleRow} (runs : Bool) (h : OrderlyInv s)
    (ht : s.ticks[i]? = some ⟨now, .devices schedule (device :: devices) rest⟩) :
    OrderlyInv ((if runs then s.dispatchExecution schedule now device else s).setPhase i now
      (.devices schedule devices rest)) := by
  have hskip : OrderlyInv (s.setPhase i now (.devices schedule devices rest)) :=
    h.goesOn [] ht rfl rfl (List.append_nil _).symm rfl (by simp) (List.Sublist.refl _) (List.Subset.refl _)
      fun _ hworking => hworking
  cases runs with
  | false => exact hskip
  | true =>
      rw [if_pos rfl]
      unfold ScheduleState.dispatchExecution
      split
      · refine h.goesOn (creations schedule now device.id) ht rfl rfl rfl rfl ?_ (List.Sublist.refl _)
          (List.Subset.refl _) fun _ hworking => hworking
        intro c hc
        obtain ⟨hid, -, hle⟩ := occurrence_le_of_mem hc
        exact ⟨hle, schedule, rfl, hid.symm⟩
      · exact hskip

theorem OrderlyInv.runTick (h : OrderlyInv s) (hs : runTick host s i = some s') : OrderlyInv s' := by
  obtain ⟨⟨now, phase⟩, ht, hs⟩ := Option.bind_eq_some_iff.1 hs
  -- A query changes neither the tables nor what was made.
  have hquery : ∀ phase', phase.isOver = false → phase'.schedules = phase.schedules → phase'.ahead ⊆ phase.ahead →
      phase.working = none → OrderlyInv (s.setPhase i now phase') := by
    intro phase' hopen hschedules hahead hworking
    refine h.goesOn [] ht hopen rfl (List.append_nil _).symm rfl (by simp) (hschedules ▸ List.Sublist.refl _) hahead ?_
    intro schedule hschedule
    rw [hworking] at hschedule
    cases hschedule
  cases phase with
  | read => exact Option.some.inj hs ▸ h.read ht
  | rows schedules =>
      cases schedules with
      | nil => cases hs
      | cons schedule rest => exact Option.some.inj hs ▸ hquery _ rfl rfl (List.Subset.refl _) rfl
  | targets schedule groups rest =>
      obtain ⟨devices, -, rfl⟩ := Option.map_eq_some_iff.1 hs
      exact hquery _ rfl rfl (List.Subset.refl _) rfl
  | inFlight schedule devices rest =>
      exact Option.some.inj hs ▸ hquery _ rfl rfl (List.subset_cons_self _ _) rfl
  | devices schedule devices rest =>
      cases devices with
      | nil =>
          dsimp only at hs
          split at hs
          · cases hs
          · exact Option.some.inj hs ▸ h.writeClock ht
      | cons device devices =>
          obtain ⟨runs, -, rfl⟩ := Option.map_eq_some_iff.1 hs
          exact h.device runs ht
  | disable schedule rest => exact Option.some.inj hs ▸ h.disable ht

theorem OrderlyInv.throwTick (h : OrderlyInv s) (horderly : Orderly s (.throws i))
    (hs : throwTick s i = some s') : OrderlyInv s' := by
  obtain ⟨⟨now, phase⟩, ht, hs⟩ := Option.bind_eq_some_iff.1 hs
  have hworking : phase.working = none := Option.isNone_iff_eq_none.1 (horderly _ ht)
  have hgone : ∀ rest, phase.isOver = false → rest.Sublist phase.ahead →
      OrderlyInv (s.setPhase i now (.rows rest)) := by
    intro rest hopen hrest
    refine h.goesOn [] ht hopen rfl (List.append_nil _).symm rfl (by simp) ?_ hrest.subset ?_
    · exact hrest.trans (List.sublist_append_right _ _)
    · intro schedule hschedule
      rw [hworking] at hschedule
      cases hschedule
  cases phase with
  | read => exact Option.some.inj hs ▸ hgone [] rfl (List.nil_sublist _)
  | rows schedules =>
      cases schedules with
      | nil => cases hs
      | cons schedule rest => exact Option.some.inj hs ▸ hgone rest rfl (List.sublist_cons_self _ _)
  | targets schedule groups rest => exact Option.some.inj hs ▸ hgone rest rfl (List.sublist_cons_self _ _)
  | inFlight schedule devices rest => exact Option.some.inj hs ▸ hgone rest rfl (List.sublist_cons_self _ _)
  | devices schedule devices rest => cases hworking
  | disable schedule rest => cases hworking

/-- Whatever the rest of the server writes, rows it plans anew are not dispatched yet. -/
theorem OrderlyInv.others {tables : ScheduleTables} (h : OrderlyInv s) (horderly : Orderly s (.others tables)) :
    OrderlyInv { s with tables := tables } := by
  refine ⟨h.single, h.bound, ?_, ?_⟩
  · intro r hr henabled occurrence ho hd
    rcases horderly r hr henabled with ⟨old, hold, hid, holdEnabled, hnext, hfire⟩ | hahead
    · have hplanned : occurrence ∈ old.planned := by
        rw [ScheduleRow.planned, hnext, hfire]
        exact ho
      rw [← hid]
      exact h.table old hold holdEnabled occurrence hplanned (hid ▸ hd)
    · exact absurd hd (hahead occurrence ho).1
  · intro t ht
    have hrows := h.rows t ht
    refine ⟨hrows.distinct, hrows.undispatched, ?_⟩
    intro schedule hschedule hcron r hr hid henabled instant hinstant
    rcases horderly r hr henabled with ⟨old, hold, holdId, holdEnabled, -, hfire⟩ | hahead
    · exact hrows.later schedule hschedule hcron old hold (holdId.trans hid) holdEnabled instant (hfire ▸ hinstant)
    · have hplanned : instant ∈ r.planned := List.mem_append_right _ (Option.mem_toList.2 hinstant)
      refine (hahead instant hplanned).2 t ht ?_
      by_contra hover
      obtain ⟨hworking, hempty⟩ := TickPhase.schedules_of_isOver (Bool.eq_true_of_not_eq_false hover)
      rw [TickPhase.schedules, hworking, hempty] at hschedule
      cases hschedule

/-- A pass starts when the one before is over. -/
theorem OrderlyInv.tick (h : OrderlyInv s) (horderly : Orderly s (.tick now)) :
    OrderlyInv { s with ticks := s.ticks ++ [⟨now, .read⟩] } := by
  obtain ⟨hover, hclock⟩ := horderly
  have hlast : ∀ (j : ℕ) (t : Tick), (s.ticks ++ [⟨now, .read⟩])[j]? = some t → t.phase.isOver = false →
      j = s.ticks.length ∧ t = ⟨now, .read⟩ := by
    intro j t ht hopen
    rcases lt_or_ge j s.ticks.length with hlt | hge
    · rw [List.getElem?_append_left hlt] at ht
      rw [hover t (List.mem_of_getElem? ht)] at hopen
      cases hopen
    · rw [List.getElem?_append_right hge] at ht
      obtain ⟨hlt, heq⟩ := List.getElem?_eq_some_iff.1 ht
      have hzero : j - s.ticks.length = 0 := by simpa using hlt
      refine ⟨by omega, ?_⟩
      simp only [hzero, List.getElem_cons_zero] at heq
      exact heq.symm
  refine ⟨?_, ?_, ?_, ?_⟩
  · intro j k t u htj huk htopen huopen
    exact (hlast j t htj htopen).1.trans (hlast k u huk huopen).1.symm
  · intro t ht hopen
    obtain ⟨j, hj⟩ := List.getElem?_of_mem ht
    obtain ⟨-, rfl⟩ := hlast j t hj hopen
    exact hclock
  · intro r hr henabled occurrence ho hd
    obtain ⟨t, ht, hworking⟩ := h.table r hr henabled occurrence ho hd
    exact ⟨t, List.mem_append_left _ ht, hworking⟩
  · intro t ht
    rcases List.mem_append.1 ht with ht | ht
    · exact ⟨(h.rows t ht).distinct, (h.rows t ht).undispatched, (h.rows t ht).later⟩
    · rw [List.mem_singleton.1 ht]
      refine ⟨List.nodup_nil, ?_, ?_⟩ <;> simp [TickPhase.schedules, TickPhase.working, TickPhase.ahead]

theorem OrderlyInv.restart (h : OrderlyInv s) (horderly : Orderly s .restart) :
    OrderlyInv { s with ticks := [] } := by
  refine ⟨by simp, by simp, ?_, by simp⟩
  intro r hr henabled occurrence ho hd
  obtain ⟨t, ht, schedule, hschedule, -⟩ := h.table r hr henabled occurrence ho hd
  rw [Option.isNone_iff_eq_none.1 (horderly t ht)] at hschedule
  cases hschedule

theorem OrderlyInv.step {op : ScheduleOp} (h : OrderlyInv s) (horderly : Orderly s op)
    (hs : scheduleStep host s op = some s') : OrderlyInv s' := by
  cases op with
  | tick now => exact Option.some.inj hs ▸ h.tick horderly
  | run i => exact h.runTick hs
  | throws i => exact h.throwTick horderly hs
  | others tables => exact Option.some.inj hs ▸ h.others horderly
  | restart => exact Option.some.inj hs ▸ h.restart horderly

/-! ## Looks -/

/-- The pass under way looks at rows that are not dispatched, and no other pass has anything to dispatch. -/
theorem OrderlyInv.readsApart (h : OrderlyInv s) (op : ScheduleOp) : ReadsApart host s op := by
  cases op with
  | run i =>
      rintro ⟨now, phase⟩ ht
      cases phase with
      | inFlight schedule devices rest =>
          intro id _ _ c hc
          obtain ⟨hid, hdue, -⟩ := occurrence_le_of_mem hc
          have hrows : RowsFresh s now (.inFlight schedule devices rest) := h.rows _ (List.mem_of_getElem? ht)
          refine ⟨fun hmade => ?_, fun hclaimed => ?_⟩
          · exact hrows.undispatched schedule (List.mem_cons_self ..) c.occurrence hdue ⟨c, hmade, hid, rfl⟩
          · obtain ⟨u, hu, hcu⟩ := List.mem_flatMap.1 hclaimed
            obtain ⟨j, hj⟩ := List.getElem?_of_mem hu
            by_cases hij : j = i
            · subst hij
              obtain rfl := Option.some.inj (ht.symm.trans hj)
              cases hcu
            · have hnone := (TickPhase.schedules_of_isOver (h.others_over ht rfl hj hij)).1
              obtain ⟨unow, uphase⟩ := u
              cases uphase with
              | devices => cases hnone
              | read | rows | targets | inFlight | disable => cases hcu
      | read | rows | targets | devices | disable => trivial
  | tick | throws | others | restart => trivial

end Obliance.Schedules

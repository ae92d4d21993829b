import Obliance.Commands.Statuses
import Obliance.Lib.Pool

/-!
# The notification of a batch (`services/command.service.ts`, `services/schedule.service.ts`)

An ack that ends an execution reads its batch afterwards and notifies when all of it is over. The sweeper ends
executions too and reads no batch; nothing remembers that a batch was notified.

* `Task.deals` : an ack that has ended an execution of the batch and has its look at it, or the notice, ahead;
* `Timely` : the batch comes to its end with one such ack under way, and no execution of it is ended again;
* `BatchInv` : a batch that is over has one notice, dispatched or under way;
* `batch_notified_once` : in runs of such steps a batch has one notice when it is over, and none before.
-/

namespace Obliance.Commands
open GuardedRun KeyedTable Pool

namespace StatusState
variable (s : StatusState) (batchId : ℕ)

def IsOver : Prop := s.batch batchId ≠ [] ∧ batchDone (s.batch batchId) = true

/-- The end of an execution is the end of its batch. -/
def Completes (id : ℕ) : Prop := ∀ e ∈ s.batch batchId, e.id = id ∨ e.isOver = true

def InBatch (id : ℕ) : Prop := ∃ e ∈ s.batch batchId, e.id = id

/-- The batch belongs to a schedule with channels and without `notify_once`. -/
def Notifies : Prop :=
  ∃ scheduleId schedule, s.madeFor batchId = some scheduleId ∧ s.schedules scheduleId = some schedule ∧
    schedule.bindings ≠ [] ∧ schedule.notifyOnce = false

/-- A binding of the schedule has something to say of the batch, a summary or its failures, and a channel
that the tenant can dispatch to. -/
def Reports (tenantId scheduleId : ℕ) (batch : List ScriptExecution) : Prop :=
  ∃ schedule ∈ s.schedules scheduleId, ∃ b ∈ schedule.bindings,
    (b.mode = .summary ∨ (b.mode = .onError ∧ ∃ e ∈ batch, e.hasFailed = true)) ∧
      ∃ c ∈ s.channels b.channelId, c.dispatches tenantId = true

def notices : ℕ := s.notified.countP fun n => decide (n.batchId = batchId)

instance : Decidable (s.IsOver batchId) := inferInstanceAs (Decidable (_ ∧ _))

instance (id : ℕ) : Decidable (s.Completes batchId id) :=
  inferInstanceAs (Decidable (∀ e ∈ s.batch batchId, _))

instance (id : ℕ) : Decidable (s.InBatch batchId id) := inferInstanceAs (Decidable (∃ e ∈ s.batch batchId, _))

end StatusState

/-- An ack has ended an execution of the batch and has its look at the batch, or the notice, ahead. -/
def Task.deals (s : StatusState) (batchId : ℕ) : Task → Bool
  | .ack _ (.batch id) => decide (s.InBatch batchId id)
  | .ack _ (.notify _ noticed _) => decide (noticed = batchId)
  | _ => false

def StatusState.dealing (s : StatusState) (batchId : ℕ) : ℕ := s.tasks.countP (Task.deals s batchId)

/-- The execution an ack ends next; the sweeper's. -/
def Task.ackEnds : Task → Option ℕ
  | .ack _ (.execution row) => row.executionId
  | _ => none

def Task.sweepEnds : Task → Option ℕ
  | .sweep (id :: _) => some id
  | _ => none

/-- The notice of the batch that a task is about to dispatch reaches a channel. -/
def Task.Heard (s : StatusState) (batchId : ℕ) : Task → Prop
  | .ack job (.notify scheduleId noticed batch) => noticed = batchId → s.Reports job.tenantId scheduleId batch
  | _ => True

instance (s : StatusState) (tenantId scheduleId : ℕ) (batch : List ScriptExecution) :
    Decidable (s.Reports tenantId scheduleId batch) :=
  inferInstanceAs (Decidable (∃ schedule ∈ s.schedules scheduleId, ∃ b ∈ schedule.bindings,
    (b.mode = .summary ∨ (b.mode = .onError ∧ ∃ e ∈ batch, e.hasFailed = true)) ∧
      ∃ c ∈ s.channels b.channelId, c.dispatches tenantId = true))

instance (s : StatusState) (batchId : ℕ) : (task : Task) → Decidable (task.Heard s batchId)
  | .ack job (.notify scheduleId noticed batch) =>
      inferInstanceAs (Decidable (noticed = batchId → s.Reports job.tenantId scheduleId batch))
  | .ack _ .queue | .ack _ (.insert _) | .ack _ .read | .ack _ (.tunnel _) | .ack _ (.updates _)
  | .ack _ (.probe _) | .ack _ (.execution _) | .ack _ (.batch _) | .ack _ (.scenario _) | .select _
  | .sweep _ | .sweepQueue _ _ | .done => .isTrue trivial

/-! ## The condition -/

/-- An ack ends no execution of a batch that is over, and completes one while no other ack deals with it; the
sweeper completes one while an ack does; a notice reaches a channel. -/
structure Task.Timely (s : StatusState) (batchId : ℕ) (task : Task) : Prop where
  ack : ∀ id ∈ task.ackEnds, s.InBatch batchId id →
    ¬ s.IsOver batchId ∧ (s.Completes batchId id → s.dealing batchId = 0)
  sweep : ∀ id ∈ task.sweepEnds, s.InBatch batchId id → ¬ s.IsOver batchId → s.Completes batchId id →
    s.dealing batchId = 1
  heard : task.Heard s batchId

/-- **The steps that notify once.** No ack fails between the end of the batch and its notice, and no execution
is added to a batch that is over. -/
def Timely (batchId : ℕ) (s : StatusState) : StatusOp → Prop
  | .run i _ => ∀ task ∈ s.tasks[i]?, task.Timely s batchId
  | .throws i => ∀ task ∈ s.tasks[i]?, task.deals s batchId = true → ¬ s.IsOver batchId
  | .insertExecution _ info => info.batchId = some batchId → ¬ s.IsOver batchId
  | _ => True

instance (s : StatusState) (batchId : ℕ) (task : Task) : Decidable (task.Timely s batchId) :=
  decidable_of_iff ((∀ id ∈ task.ackEnds, s.InBatch batchId id →
      ¬ s.IsOver batchId ∧ (s.Completes batchId id → s.dealing batchId = 0)) ∧
    (∀ id ∈ task.sweepEnds, s.InBatch batchId id → ¬ s.IsOver batchId → s.Completes batchId id →
      s.dealing batchId = 1) ∧ task.Heard s batchId)
    ⟨fun h => ⟨h.1, h.2.1, h.2.2⟩, fun h => ⟨h.ack, h.sweep, h.heard⟩⟩

instance (batchId : ℕ) (s : StatusState) : (op : StatusOp) → Decidable (Timely batchId s op)
  | .run i _ => inferInstanceAs (Decidable (∀ task ∈ s.tasks[i]?, task.Timely s batchId))
  | .throws i => inferInstanceAs (Decidable (∀ task ∈ s.tasks[i]?, _))
  | .insertExecution _ _ => inferInstanceAs (Decidable (_ → _))
  | .processAcks _ _ _ | .sweep _ | .expire _ | .cancelCommand _ _ | .enqueue _ => .isTrue trivial

/-! ## Invariant -/

/-- The tables of a batch, its schedule, and the notices. -/
structure BatchInv (batchId : ℕ) (s : StatusState) : Prop where
  fits : ∀ e ∈ s.db.executions, s.FitsBatch (s.info e.id)
  bound : s.Notifies batchId
  noticed : ∀ job scheduleId batch, .ack job (.notify scheduleId batchId batch) ∈ s.tasks →
    s.IsOver batchId ∧ s.madeFor batchId = some scheduleId
  early : ¬ s.IsOver batchId → s.notices batchId = 0
  late : s.IsOver batchId → s.notices batchId + s.dealing batchId = 1

section Inv
variable {s t : StatusState} {batchId i : ℕ} {task next : Task}

theorem nextAck_deals (deviceId tenantId : ℕ) (acks : List Ack) :
    (nextAck deviceId tenantId acks).deals s batchId = false := by
  induction acks with
  | nil => rfl
  | cons a acks ih =>
      rw [nextAck]
      split
      · exact ih
      · rfl

/-- The executions, with what stays of them, and the schedules. -/
structure SameTables (s t : StatusState) : Prop where
  executions : t.db.executions = s.db.executions
  info : t.info = s.info
  schedules : t.schedules = s.schedules
  madeFor : t.madeFor = s.madeFor

section Same
variable (h : SameTables s t)
include h

theorem SameTables.batch : t.batch batchId = s.batch batchId := by
  unfold StatusState.batch
  rw [h.executions, h.info]

theorem SameTables.isOver : t.IsOver batchId ↔ s.IsOver batchId := by
  unfold StatusState.IsOver
  rw [h.batch]

theorem SameTables.deals : task.deals t batchId = task.deals s batchId := by
  unfold Task.deals
  split
  · apply decide_eq_decide.2
    rw [StatusState.InBatch, StatusState.InBatch, h.batch]
  · rfl
  · rfl

theorem SameTables.notifies : t.Notifies batchId ↔ s.Notifies batchId := by
  unfold StatusState.Notifies
  rw [h.madeFor, h.schedules]

theorem SameTables.dealing_set (ht : s.tasks[i]? = some task) (htasks : t.tasks = s.tasks.set i next) :
    t.dealing batchId + (if task.deals s batchId then 1 else 0) =
      s.dealing batchId + (if next.deals s batchId then 1 else 0) := by
  have hdeals : Task.deals t batchId = Task.deals s batchId := funext fun _ => h.deals
  unfold StatusState.dealing
  rw [htasks, hdeals]
  exact countP_set_add ht next _

end Same

/-- A task goes on without a word to the executions; `k` notices are dispatched. -/
theorem BatchInv.goesOn {k : ℕ} (h : BatchInv batchId s) (hsame : SameTables s t) (ht : s.tasks[i]? = some task)
    (htasks : t.tasks = s.tasks.set i next) (hnotices : t.notices batchId = s.notices batchId + k)
    (hearly : ¬ s.IsOver batchId → k = 0)
    (hlate : s.IsOver batchId →
      k + (if next.deals s batchId then 1 else 0) = if task.deals s batchId then 1 else 0)
    (hnoticed : ∀ job scheduleId batch, next = .ack job (.notify scheduleId batchId batch) →
      s.IsOver batchId ∧ s.madeFor batchId = some scheduleId) : BatchInv batchId t where
  fits := by
    rw [hsame.executions, hsame.info]
    intro e he
    rw [StatusState.FitsBatch, hsame.madeFor]
    exact h.fits e he
  bound := hsame.notifies.2 h.bound
  noticed := by
    intro job scheduleId batch hmem
    rw [hsame.isOver, hsame.madeFor]
    rw [htasks] at hmem
    obtain hmem | heq := List.mem_or_eq_of_mem_set hmem
    · exact h.noticed job scheduleId batch hmem
    · exact hnoticed job scheduleId batch heq.symm
  early := by
    intro hover
    have hover := hsame.isOver.not.1 hover
    rw [hnotices, h.early hover, hearly hover]
  late := by
    intro hover
    have hover := hsame.isOver.1 hover
    have hset : t.dealing batchId + _ = _ := hsame.dealing_set ht htasks
    have hcount := h.late hover
    have hk := hlate hover
    omega

/-! ## An execution is ended -/

/-- The update of an execution, to a status that is over. -/
structure Ends (s t : StatusState) (id : ℕ) : Prop where
  executions : ∃ f : ScriptExecution → ScriptExecution, (∀ e, (f e).id = e.id) ∧ (∀ e, (f e).isOver = true) ∧
    t.db.executions = modify ScriptExecution.id s.db.executions id f
  info : t.info = s.info
  schedules : t.schedules = s.schedules
  madeFor : t.madeFor = s.madeFor
  notified : t.notified = s.notified

section End
variable {id : ℕ}

variable (batchId) in
theorem Ends.batch (h : Ends s t id) : ∃ f : ScriptExecution → ScriptExecution, (∀ e, (f e).id = e.id) ∧
    (∀ e, (f e).isOver = true) ∧ t.batch batchId = modify ScriptExecution.id (s.batch batchId) id f := by
  obtain ⟨f, hid, hover, hexecutions⟩ := h.executions
  refine ⟨f, hid, hover, ?_⟩
  have hkey := key_ite (k := id) hid
  unfold StatusState.batch KeyedTable.modify
  rw [hexecutions, h.info, KeyedTable.modify, List.filter_map]
  congr 1
  apply List.filter_congr
  intro e _
  simp only [Function.comp_apply, hkey]

theorem Ends.inBatch (h : Ends s t id) (other : ℕ) : t.InBatch batchId other ↔ s.InBatch batchId other := by
  obtain ⟨f, hid, -, hbatch⟩ := h.batch batchId
  have hids : (t.batch batchId).map ScriptExecution.id = (s.batch batchId).map ScriptExecution.id := by
    rw [hbatch]
    exact map_key_map (key_ite hid)
  unfold StatusState.InBatch
  rw [← List.mem_map, ← List.mem_map, hids]

theorem Ends.deals (h : Ends s t id) : task.deals t batchId = task.deals s batchId := by
  unfold Task.deals
  split
  · exact decide_eq_decide.2 (h.inBatch _)
  · rfl
  · rfl

/-- The batch is over when nothing but the ended execution was left. -/
theorem Ends.isOver_iff (h : Ends s t id) :
    t.IsOver batchId ↔ s.batch batchId ≠ [] ∧ s.Completes batchId id := by
  obtain ⟨f, -, hover, hbatch⟩ := h.batch batchId
  unfold StatusState.IsOver
  rw [hbatch, batchDone, List.all_eq_true, KeyedTable.modify, Ne, List.map_eq_nil_iff]
  refine and_congr_right fun _ => ?_
  constructor
  · intro hall e he
    have hdone := hall _ (List.mem_map_of_mem he)
    by_cases hid : e.id = id
    · exact .inl hid
    · rw [if_neg hid] at hdone
      exact .inr hdone
  · rintro hcompletes e he
    obtain ⟨e, hmem, rfl⟩ := List.mem_map.1 he
    split
    · exact hover e
    · exact (hcompletes e hmem).resolve_left ‹_›

theorem completes_of_isOver (h : s.IsOver batchId) (id : ℕ) : s.Completes batchId id := by
  intro e he
  exact .inr (List.all_eq_true.1 h.2 e he)

theorem isOver_of_completes (hne : s.batch batchId ≠ []) (h : s.Completes batchId id)
    (hnot : ¬ s.InBatch batchId id) : s.IsOver batchId := by
  refine ⟨hne, List.all_eq_true.2 fun e he => ?_⟩
  exact (h e he).resolve_left fun hid => hnot ⟨e, he, hid⟩

/-- An execution is ended, and the task goes on. -/
theorem BatchInv.ends (h : BatchInv batchId s) (hends : Ends s t id) (ht : s.tasks[i]? = some task)
    (htasks : t.tasks = s.tasks.set i next) (htask : task.deals s batchId = false)
    (hover : s.IsOver batchId → next.deals s batchId = false)
    (hcomplete : ¬ s.IsOver batchId → s.InBatch batchId id → s.Completes batchId id →
      s.dealing batchId + (if next.deals s batchId then 1 else 0) = 1)
    (hnoticed : ∀ job scheduleId batch, next ≠ .ack job (.notify scheduleId batchId batch)) : BatchInv batchId t := by
  have hdeals : Task.deals t batchId = Task.deals s batchId := funext fun _ => hends.deals
  have hnotices : t.notices batchId = s.notices batchId := by
    unfold StatusState.notices
    rw [hends.notified]
  have hdealing : t.dealing batchId = s.dealing batchId + (if next.deals s batchId then 1 else 0) := by
    have hset := countP_set_add ht next (Task.deals s batchId)
    unfold StatusState.dealing
    rw [htasks, hdeals]
    rw [htask] at hset
    exact hset
  have hkept : s.IsOver batchId → t.IsOver batchId := fun hs =>
    hends.isOver_iff.2 ⟨hs.1, completes_of_isOver hs id⟩
  refine ⟨?_, ?_, ?_, ?_, ?_⟩
  · obtain ⟨f, hid, -, hexecutions⟩ := hends.executions
    intro e he
    rw [hexecutions] at he
    obtain ⟨e', he', rfl⟩ := List.mem_map.1 he
    rw [key_ite hid, hends.info, StatusState.FitsBatch, hends.madeFor]
    exact h.fits e' he'
  · unfold StatusState.Notifies
    rw [hends.madeFor, hends.schedules]
    exact h.bound
  · intro job scheduleId batch hmem
    rw [htasks] at hmem
    obtain hmem | heq := List.mem_or_eq_of_mem_set hmem
    · obtain ⟨hs, hmade⟩ := h.noticed job scheduleId batch hmem
      exact ⟨hkept hs, hends.madeFor ▸ hmade⟩
    · exact absurd heq.symm (hnoticed job scheduleId batch)
  · intro hnot
    rw [hnotices]
    exact h.early fun hs => hnot (hkept hs)
  · intro hend
    rw [hnotices, hdealing]
    by_cases hs : s.IsOver batchId
    · rw [hover hs]
      exact h.late hs
    · obtain ⟨hne, hcompletes⟩ := hends.isOver_iff.1 hend
      rw [h.early hs, Nat.zero_add]
      by_cases hin : s.InBatch batchId id
      · exact hcomplete hs hin hcompletes
      · exact absurd (isOver_of_completes hne hcompletes hin) hs

end End

/-! ## The steps -/

section Steps
variable {job : AckJob} {now : ℤ} {op : StatusOp}

theorem AckJob.next_deals : job.next.deals s batchId = false := nextAck_deals _ _ _

theorem ne_notify_of_deals (h : next.deals s batchId = false) (job : AckJob) (scheduleId : ℕ)
    (batch : List ScriptExecution) : next ≠ .ack job (.notify scheduleId batchId batch) := by
  rintro rfl
  simp [Task.deals] at h

/-- A task goes on that deals with no batch, before and after. -/
theorem BatchInv.passes (h : BatchInv batchId s) (hsame : SameTables s t) (hnotified : t.notified = s.notified)
    (ht : s.tasks[i]? = some task) (htasks : t.tasks = s.tasks.set i next) (htask : task.deals s batchId = false)
    (hnext : next.deals s batchId = false) : BatchInv batchId t := by
  refine h.goesOn (k := 0) hsame ht htasks ?_ (fun _ => rfl) ?_ ?_
  · rw [StatusState.notices, hnotified]
    rfl
  · intro _
    rw [htask, hnext]
    rfl
  · exact fun job scheduleId batch heq => absurd heq (ne_notify_of_deals hnext job scheduleId batch)

theorem mem_batch {e : ScriptExecution} :
    e ∈ s.batch batchId ↔ e ∈ s.db.executions ∧ (s.info e.id).batchId = some batchId := by
  rw [StatusState.batch, List.mem_filter, decide_eq_true_eq]

/-- What a look at a batch leads to. -/
theorem checkBatch_cases (s : StatusState) (job : AckJob) (id : ℕ) :
    s.checkBatch job id = job.next ∨ ∃ e scheduleId batchId, e ∈ s.batch batchId ∧ e.id = id ∧
      (s.info e.id).scheduleId = some scheduleId ∧ s.IsOver batchId ∧
      s.checkBatch job id = .ack job (.notify scheduleId batchId (s.batch batchId)) := by
  unfold StatusState.checkBatch
  split
  · rename_i deviceId scheduleId batchId triggeredAt timeoutSeconds heq
    obtain ⟨e, he, hinfo⟩ := Option.map_eq_some_iff.1 heq
    split
    · rename_i hdone
      have hmem : e ∈ s.batch batchId := mem_batch.2 ⟨mem_of_get he, by rw [hinfo]⟩
      refine .inr ⟨e, scheduleId, batchId, hmem, key_of_get he, by rw [hinfo], ⟨?_, hdone⟩, rfl⟩
      exact List.ne_nil_of_mem hmem
    · exact .inl rfl
  · exact .inl rfl

/-- A batch that is over is noticed. -/
theorem checkBatch_of_isOver {id : ℕ} (h : BatchInv batchId s) (hover : s.IsOver batchId)
    (hin : s.InBatch batchId id) : (s.checkBatch job id).deals s batchId = true := by
  obtain ⟨e, he, rfl⟩ := hin
  obtain ⟨hmem, hbatch⟩ := mem_batch.1 he
  obtain ⟨scheduleId, -, hmade, -⟩ := h.bound
  have hschedule : (s.info e.id).scheduleId = some scheduleId := (h.fits e hmem batchId hbatch).trans hmade
  have hsome : (get ScriptExecution.id s.db.executions e.id).isSome := get_isSome_iff.2 ⟨e, hmem, rfl⟩
  obtain ⟨e', he'⟩ := Option.isSome_iff_exists.1 hsome
  have hinfo : (get ScriptExecution.id s.db.executions e.id).map (fun e => s.info e.id) = some (s.info e.id) := by
    rw [he', Option.map_some, key_of_get he']
  unfold StatusState.checkBatch
  rw [hinfo]
  cases hcolumns : s.info e.id with
  | mk deviceId scheduleId' batchId' triggeredAt timeoutSeconds =>
      rw [hcolumns] at hbatch hschedule
      obtain rfl : batchId' = some batchId := hbatch
      obtain rfl : scheduleId' = some scheduleId := hschedule
      simp [hover.2, Task.deals]

theorem BatchInv.look {id : ℕ} (h : BatchInv batchId s) (ht : s.tasks[i]? = some (.ack job (.batch id))) :
    BatchInv batchId (s.setTask i (s.checkBatch job id)) := by
  refine h.goesOn (k := 0) ⟨rfl, rfl, rfl, rfl⟩ ht rfl rfl (fun _ => rfl) ?_ ?_
  · intro hover
    by_cases hin : s.InBatch batchId id
    · rw [checkBatch_of_isOver h hover hin]
      simp [Task.deals, hin]
    · have hquiet : (s.checkBatch job id).deals s batchId = false := by
        rcases checkBatch_cases s job id with heq | ⟨e, scheduleId, batchId', hmem, hid, -, -, heq⟩ <;> rw [heq]
        · exact AckJob.next_deals
        · apply decide_eq_false
          rintro rfl
          exact hin ⟨e, hmem, hid⟩
      rw [hquiet]
      simp [Task.deals, hin]
  · intro job' scheduleId batch heq
    rcases checkBatch_cases s job id with hnext | ⟨e, scheduleId', batchId', hmem, -, hschedule, hover, hnotify⟩
    · exact absurd (hnext.symm.trans heq) (ne_notify_of_deals (s := s) AckJob.next_deals _ _ _)
    · cases hnotify.symm.trans heq
      obtain ⟨hrow, hbatch⟩ := mem_batch.1 hmem
      exact ⟨hover, (h.fits e hrow batchId hbatch).symm.trans hschedule⟩

theorem message_isSome {b : NotificationBinding} {batch : List ScriptExecution}
    (h : b.mode = .summary ∨ (b.mode = .onError ∧ ∃ e ∈ batch, e.hasFailed = true)) :
    ∃ m, b.message (s.aggregateResult batch) = some m := by
  rcases h with hmode | ⟨hmode, e, he, hfailed⟩
  · exact ⟨_, by rw [NotificationBinding.message, hmode]⟩
  · have hne : batch.filter ScriptExecution.hasFailed ≠ [] :=
      List.ne_nil_of_mem (List.mem_filter.2 ⟨he, hfailed⟩)
    have hcount : (s.aggregateResult batch).failureCount ≠ 0 := fun h0 => hne (List.eq_nil_of_length_eq_zero h0)
    simp only [NotificationBinding.message, hmode, if_neg hcount]
    exact ⟨_, rfl⟩

theorem messages_ne_nil {b : NotificationBinding} {bindings : List NotificationBinding} {r : AggregateResult}
    {m : AutomationMessage} {c : AutomationChannel} {tenantId : ℕ} (hb : b ∈ bindings)
    (hm : b.message r = some m) (hc : s.channels b.channelId = some c) (hd : c.dispatches tenantId = true) :
    s.messages tenantId bindings r ≠ [] := by
  have hsent : (if (s.channels b.channelId).any (·.dispatches tenantId) then
      (b.message r).map fun m => (b.channelId, m) else none) = some (b.channelId, m) := by
    rw [hc, hm, Option.any_some, if_pos hd]
    rfl
  exact List.ne_nil_of_mem (List.mem_filterMap.2 ⟨b, hb, hsent⟩)

/-- The notice of a batch of the schedule. -/
theorem batchNotice_isSome {tenantId scheduleId : ℕ} {batch : List ScriptExecution} (h : s.Notifies batchId)
    (hmade : s.madeFor batchId = some scheduleId) (hreports : s.Reports tenantId scheduleId batch) :
    ∃ n, s.batchNotice tenantId scheduleId batchId batch = some n ∧ n.batchId = batchId := by
  obtain ⟨scheduleId', schedule, hmade', hschedule, hbindings, honce⟩ := h
  obtain rfl : scheduleId = scheduleId' := Option.some.inj (hmade.symm.trans hmade')
  obtain ⟨schedule', hschedule', b, hb, hmode, c, hc, hd⟩ := hreports
  obtain rfl : schedule = schedule' := Option.some.inj (hschedule.symm.trans hschedule')
  obtain ⟨m, hm⟩ := message_isSome (s := s) hmode
  have hkept : ¬ (schedule.bindings = [] ∨ s.skipsNotification schedule scheduleId batchId batch = true) := by
    rw [StatusState.skipsNotification, honce, Bool.false_and]
    simpa using hbindings
  simp only [StatusState.batchNotice, hschedule, Option.bind_some, if_neg hkept,
    if_neg (messages_ne_nil hb hm hc hd)]
  exact ⟨_, rfl, rfl⟩

theorem batchId_of_batchNotice {tenantId scheduleId noticed : ℕ} {batch : List ScriptExecution} {n : BatchNotice}
    (h : s.batchNotice tenantId scheduleId noticed batch = some n) : n.batchId = noticed := by
  obtain ⟨schedule, -, h⟩ := Option.bind_eq_some_iff.1 h
  dsimp only at h
  split_ifs at h
  exact Option.some.inj h ▸ rfl

theorem BatchInv.notify {scheduleId noticed : ℕ} {batch : List ScriptExecution} (h : BatchInv batchId s)
    (ht : s.tasks[i]? = some (.ack job (.notify scheduleId noticed batch)))
    (htimely : Task.Timely s batchId (.ack job (.notify scheduleId noticed batch))) :
    BatchInv batchId (((runAck s job now (.notify scheduleId noticed batch)).1).setTask i job.next) := by
  have hmem : Task.ack job (.notify scheduleId noticed batch) ∈ s.tasks := List.mem_of_getElem? ht
  have hcount : ((runAck s job now (.notify scheduleId noticed batch)).1).notices batchId = s.notices batchId +
      if noticed = batchId then 1 else 0 := by
    show (s.notified ++ (s.batchNotice job.tenantId scheduleId noticed batch).toList).countP _ = _
    rw [List.countP_append, ← StatusState.notices]
    congr 1
    split
    · rename_i heq
      subst heq
      obtain ⟨n, hn, hid⟩ := batchNotice_isSome h.bound (h.noticed _ _ _ hmem).2 (htimely.heard rfl)
      simp [hn, hid]
    · rename_i hne
      cases hn : s.batchNotice job.tenantId scheduleId noticed batch with
      | none => rfl
      | some n => simp [batchId_of_batchNotice hn, hne]
  refine h.goesOn ⟨rfl, rfl, rfl, rfl⟩ ht rfl hcount ?_ ?_ ?_
  · intro hover
    apply if_neg
    rintro rfl
    exact hover (h.noticed _ _ _ hmem).1
  · intro _
    rw [AckJob.next_deals]
    simp [Task.deals]
  · exact fun job' scheduleId' batch' heq =>
      absurd heq (ne_notify_of_deals (s := s) AckJob.next_deals job' scheduleId' batch')

theorem execStatus_isOver (a : AckStatus) : execStatus a ∈ [.success, .failure, .timeout, .cancelled, .skipped] := by
  cases a <;> decide

theorem BatchInv.endByAck {row : CommandRow} {id : ℕ} (h : BatchInv batchId s)
    (ht : s.tasks[i]? = some (.ack job (.execution row))) (hid : row.executionId = some id)
    (htimely : Task.Timely s batchId (.ack job (.execution row))) :
    BatchInv batchId ((s.withDb (ackExecution s.db row job.ack now)).setTask i (.ack job (.batch id))) := by
  have hexecutions : (ackExecution s.db row job.ack now).executions = _ := ackExecution_executions
  rw [hid] at hexecutions
  have hends : Ends s ((s.withDb (ackExecution s.db row job.ack now)).setTask i (.ack job (.batch id))) id :=
    ⟨⟨ScriptExecution.acked job.ack now, fun _ => rfl, fun _ => decide_eq_true (execStatus_isOver _), hexecutions⟩,
      rfl, rfl, rfl, rfl⟩
  refine h.ends hends ht rfl rfl ?_ ?_ ?_
  · intro hover
    exact decide_eq_false fun hin => (htimely.ack id hid hin).1 hover
  · intro _ hin hcompletes
    simp [(htimely.ack id hid hin).2 hcompletes, Task.deals, hin]
  · rintro job' scheduleId batch ⟨⟩

/-- The sweeper ends an execution. -/
theorem BatchInv.endBySweep {id : ℕ} {ids : List ℕ} (h : BatchInv batchId s)
    (ht : s.tasks[i]? = some (.sweep (id :: ids))) (htimely : Task.Timely s batchId (.sweep (id :: ids))) :
    BatchInv batchId ((s.withDb (timeOutExecution s.db id (s.info id).timeout now)).setTask i
      (.sweepQueue id ids)) := by
  have hends : Ends s ((s.withDb (timeOutExecution s.db id (s.info id).timeout now)).setTask i
      (.sweepQueue id ids)) id := by
    refine ⟨⟨_, ?_, ?_, rfl⟩, rfl, rfl, rfl, rfl⟩ <;> exact fun _ => rfl
  refine h.ends hends ht rfl rfl (fun _ => rfl) ?_ ?_
  · intro hnot hin hcompletes
    rw [htimely.sweep id rfl hin hnot hcompletes]
    rfl
  · rintro job scheduleId batch ⟨⟩

theorem BatchInv.runAck {point : AckPoint} (h : BatchInv batchId s) (ht : s.tasks[i]? = some (.ack job point))
    (htimely : Task.Timely s batchId (.ack job point)) :
    BatchInv batchId ((runAck s job now point).1.setTask i (runAck s job now point).2) := by
  have hexecutions := runAck_executions s job now point
  cases point with
  | queue | insert affected | tunnel row | probe row | scenario row =>
      refine h.passes ⟨hexecutions, rfl, rfl, rfl⟩ rfl ht rfl rfl ?_
      first | rfl | exact AckJob.next_deals
  | read =>
      refine h.passes ⟨rfl, rfl, rfl, rfl⟩ rfl ht rfl rfl ?_
      dsimp only [Commands.runAck]
      split
      · exact AckJob.next_deals
      · split <;> rfl
  | updates row =>
      refine h.passes ⟨rfl, rfl, rfl, rfl⟩ rfl ht rfl rfl ?_
      dsimp only [Commands.runAck]
      split
      · rfl
      · exact AckJob.next_deals
  | execution row =>
      dsimp only [Commands.runAck]
      cases hid : row.executionId with
      | none =>
          simp only [hid] at hexecutions
          exact h.passes ⟨hexecutions, rfl, rfl, rfl⟩ rfl ht rfl rfl rfl
      | some id => exact h.endByAck ht hid htimely
  | batch id => exact h.look ht
  | notify scheduleId noticed batch => exact h.notify ht htimely

theorem BatchInv.throwTask (h : BatchInv batchId s) (ht : s.tasks[i]? = some task)
    (hnot : task.deals s batchId = true → ¬ s.IsOver batchId) (hnext : throwTask task = some next) :
    BatchInv batchId (s.setTask i next) := by
  have hquiet : next.deals s batchId = false := by
    cases task with
    | ack job point =>
        cases hnext
        cases point with
        | updates row =>
            rw [throwAck]
            split
            · rfl
            · exact AckJob.next_deals
        | queue | insert affected | tunnel row | probe row | execution row => rfl
        | read | batch id | notify scheduleId noticed batch | scenario row => exact AckJob.next_deals
    | sweep ids =>
        cases ids with
        | nil => cases hnext
        | cons id ids => exact Option.some.inj hnext ▸ rfl
    | select now | sweepQueue id ids => exact Option.some.inj hnext ▸ rfl
    | done => cases hnext
  refine h.goesOn (k := 0) ⟨rfl, rfl, rfl, rfl⟩ ht rfl rfl (fun _ => rfl) ?_ ?_
  · intro hover
    rw [hquiet, Bool.eq_false_iff.2 fun hdeals => hnot hdeals hover]
    rfl
  · exact fun job scheduleId batch heq => absurd heq (ne_notify_of_deals hquiet job scheduleId batch)

/-- What is written to the queue, and calls that start. -/
theorem BatchInv.congr (h : BatchInv batchId s) (hsame : SameTables s t) (hnotified : t.notified = s.notified)
    (hold : ∀ task ∈ t.tasks, task ∈ s.tasks ∨ task.deals s batchId = false)
    (hdealing : t.tasks.countP (Task.deals s batchId) = s.tasks.countP (Task.deals s batchId)) :
    BatchInv batchId t := by
  have hdeals : Task.deals t batchId = Task.deals s batchId := funext fun _ => hsame.deals
  have hcount : t.dealing batchId = s.dealing batchId := by rw [StatusState.dealing, hdeals, hdealing]; rfl
  have hnotices : t.notices batchId = s.notices batchId := by rw [StatusState.notices, hnotified]; rfl
  refine ⟨?_, hsame.notifies.2 h.bound, ?_, ?_, ?_⟩
  · rw [hsame.executions, hsame.info]
    intro e he
    rw [StatusState.FitsBatch, hsame.madeFor]
    exact h.fits e he
  · intro job scheduleId batch hmem
    rw [hsame.isOver, hsame.madeFor]
    refine h.noticed job scheduleId batch ((hold _ hmem).resolve_right fun hquiet => ?_)
    exact ne_notify_of_deals hquiet job scheduleId batch rfl
  · rw [hsame.isOver, hnotices]
    exact h.early
  · rw [hsame.isOver, hnotices, hcount]
    exact h.late

theorem BatchInv.addTask (h : BatchInv batchId s) (hquiet : next.deals s batchId = false) :
    BatchInv batchId (s.addTask next) := by
  refine h.congr ⟨rfl, rfl, rfl, rfl⟩ rfl ?_ ?_
  · intro task htask
    rcases List.mem_append.1 htask with htask | htask
    · exact .inl htask
    · rw [List.mem_singleton.1 htask]
      exact .inr hquiet
  · rw [StatusState.addTask, List.countP_append, List.countP_singleton, hquiet]
    rfl

variable (batchId) in
theorem batch_withExecution {id : ℕ} (info : ExecutionInfo)
    (hfresh : get ScriptExecution.id s.db.executions id = none) : (s.withExecution id info).batch batchId =
      s.batch batchId ++ if info.batchId = some batchId then [newExecution id] else [] := by
  show List.filter _ (s.db.executions ++ [newExecution id]) = _
  rw [List.filter_append]
  congr 1
  · apply List.filter_congr
    intro e he
    have hne : e.id ≠ id := get_eq_none_iff.1 hfresh e he
    simp only [StatusState.withExecution, Function.update_of_ne hne]
  · rw [List.filter_singleton]
    simp [StatusState.withExecution, newExecution]

/-- An execution is added, to this batch or another. -/
theorem BatchInv.insertExecution {id : ℕ} {info : ExecutionInfo} (h : BatchInv batchId s)
    (hfresh : get ScriptExecution.id s.db.executions id = none) (hfits : s.FitsBatch info)
    (hnot : info.batchId = some batchId → ¬ s.IsOver batchId) : BatchInv batchId (s.withExecution id info) := by
  have hbatch := batch_withExecution batchId info hfresh
  have hall : ∀ e ∈ (s.withExecution id info).db.executions,
      (s.withExecution id info).FitsBatch ((s.withExecution id info).info e.id) := by
    intro e he
    rcases List.mem_append.1 he with he | he
    · have hne : e.id ≠ id := get_eq_none_iff.1 hfresh e he
      simp only [StatusState.withExecution, Function.update_of_ne hne]
      exact h.fits e he
    · rw [List.mem_singleton.1 he]
      simp only [StatusState.withExecution, newExecution, Function.update_self]
      exact hfits
  by_cases hinfo : info.batchId = some batchId
  · rw [if_pos hinfo] at hbatch
    have hopen : ¬ (s.withExecution id info).IsOver batchId := by
      rintro ⟨-, hdone⟩
      rw [hbatch, batchDone, List.all_append, Bool.and_eq_true] at hdone
      simp [newExecution, ScriptExecution.isOver] at hdone
    refine ⟨hall, h.bound, ?_, fun _ => h.early (hnot hinfo), fun hover => absurd hover hopen⟩
    intro job scheduleId batch hmem
    exact absurd (h.noticed job scheduleId batch hmem).1 (hnot hinfo)
  · rw [if_neg hinfo, List.append_nil] at hbatch
    have hover : (s.withExecution id info).IsOver batchId ↔ s.IsOver batchId := by
      rw [StatusState.IsOver, hbatch, StatusState.IsOver]
    have hdeals : Task.deals (s.withExecution id info) batchId = Task.deals s batchId := by
      funext task
      unfold Task.deals
      split
      · apply decide_eq_decide.2
        rw [StatusState.InBatch, StatusState.InBatch, hbatch]
      · rfl
      · rfl
    have hdealing : (s.withExecution id info).dealing batchId = s.dealing batchId := by
      rw [StatusState.dealing, hdeals]
      rfl
    refine ⟨hall, h.bound, ?_, ?_, ?_⟩
    · intro job scheduleId batch hmem
      rw [hover]
      exact h.noticed job scheduleId batch hmem
    · rw [hover]
      exact h.early
    · rw [hover, hdealing]
      exact h.late

theorem BatchInv.step (h : BatchInv batchId s) (htimely : Timely batchId s op) (hs : statusStep s op = some t) :
    BatchInv batchId t := by
  cases op with
  | processAcks deviceId tenantId acks => exact Option.some.inj hs ▸ h.addTask (nextAck_deals _ _ _)
  | sweep now => exact Option.some.inj hs ▸ h.addTask rfl
  | run i now =>
      obtain ⟨task, htask, hs⟩ := Option.bind_eq_some_iff.1 hs
      obtain ⟨next, hnext, rfl⟩ := Option.map_eq_some_iff.1 hs
      have htimely : task.Timely s batchId := htimely task htask
      cases task with
      | ack job point =>
          cases hnext
          exact h.runAck htask htimely
      | select now =>
          cases hnext
          exact h.passes ⟨rfl, rfl, rfl, rfl⟩ rfl htask rfl rfl rfl
      | sweep ids =>
          cases ids with
          | nil => cases hnext
          | cons id ids =>
              cases hnext
              exact h.endBySweep htask htimely
      | sweepQueue id ids =>
          cases hnext
          exact h.passes ⟨rfl, rfl, rfl, rfl⟩ rfl htask rfl rfl rfl
      | done => cases hnext
  | throws i =>
      obtain ⟨task, htask, hs⟩ := Option.bind_eq_some_iff.1 hs
      obtain ⟨next, hnext, rfl⟩ := Option.map_eq_some_iff.1 hs
      exact h.throwTask htask (htimely task htask) hnext
  | expire now | cancelCommand id tenantId =>
      cases hs
      exact h.congr ⟨rfl, rfl, rfl, rfl⟩ rfl (fun task htask => .inl htask) rfl
  | insertExecution id info =>
      simp only [statusStep] at hs
      split at hs
      · rename_i hok
        exact Option.some.inj hs ▸ h.insertExecution (Option.isNone_iff_eq_none.1 hok.1) hok.2 htimely
      · cases hs
  | enqueue row =>
      simp only [statusStep] at hs
      split at hs
      · exact Option.some.inj hs ▸ h.congr ⟨rfl, rfl, rfl, rfl⟩ rfl (fun task htask => .inl htask) rfl
      · cases hs

end Steps

end Inv

/-! ## Runs -/

/-- The runs from a server that just started, with the batch not over yet. -/
def batchMachine (batchId : ℕ) : Machine StatusState StatusOp where
  init s := statusMachine.init s ∧ s.Notifies batchId ∧ ¬ s.IsOver batchId
  step := statusStep

/-- **One notice**: none before the batch is over, one when no ack has it ahead any more, never two. -/
structure NotifiedOnce (s : StatusState) (batchId : ℕ) : Prop where
  before : ¬ s.IsOver batchId → s.notices batchId = 0
  after : s.IsOver batchId → s.dealing batchId = 0 → s.notices batchId = 1
  atMost : s.notices batchId ≤ 1

instance (s : StatusState) (batchId : ℕ) : Decidable (NotifiedOnce s batchId) :=
  decidable_of_iff ((¬ s.IsOver batchId → s.notices batchId = 0) ∧
    (s.IsOver batchId → s.dealing batchId = 0 → s.notices batchId = 1) ∧ s.notices batchId ≤ 1)
    ⟨fun h => ⟨h.1, h.2.1, h.2.2⟩, fun h => ⟨h.before, h.after, h.atMost⟩⟩

theorem BatchInv.notifiedOnce {s : StatusState} {batchId : ℕ} (h : BatchInv batchId s) : NotifiedOnce s batchId := by
  refine ⟨h.early, fun hover hquiet => ?_, ?_⟩
  · have hlate := h.late hover
    omega
  · by_cases hover : s.IsOver batchId
    · have hlate := h.late hover
      omega
    · rw [h.early hover]
      exact Nat.zero_le 1

/-- **When a batch comes to its end under exactly one ack, which does not fail, and none of its executions is
ended again or added afterwards, it has one notice, and none before its end.** -/
theorem batch_notified_once {batchId : ℕ} {s : StatusState} (h : Reach (batchMachine batchId) (Timely batchId) s) :
    NotifiedOnce s batchId := by
  have hinv : BatchInv batchId s := by
    refine h.invariant (I := BatchInv batchId) ?_ fun s op t hI htimely hs => hI.step htimely hs
    rintro s ⟨⟨htasks, hnotified, hfits⟩, hbound, hover⟩
    refine ⟨hfits, hbound, ?_, ?_, fun hs => absurd hs hover⟩
    · simp [htasks]
    · simp [StatusState.notices, hnotified]
  exact hinv.notifiedOnce

/-! ## A batch of two -/

/-- Batch 9 of schedule 4: executions 1 and 2, on devices 7 and 8. Channel 3 gets its failures. -/
def batchState : StatusState where
  db := sentScripts [(1, 7), (2, 8)]
  info := fun id => ⟨if id = 1 then 7 else 8, some 4, some 9, some 0, none⟩
  schedules := fun id => if id = 4 then some ⟨[⟨3, .onError⟩], false⟩ else none
  channels := fun id => if id = 3 then some ⟨1, true, [], true⟩ else none
  madeFor := fun id => if id = 9 then some 4 else none
  tasks := []
  notified := []

theorem batchState_init : (batchMachine 9).init batchState :=
  ⟨⟨rfl, rfl, by decide⟩, ⟨4, ⟨[⟨3, .onError⟩], false⟩, rfl, rfl, by decide, rfl⟩, by decide⟩

/-- Both agents report, the second one twice before the first. -/
def bothReport : List StatusOp :=
  ackRun 8 2 .failure 0 8 1000 ++ ackRun 8 2 .failure 1 8 2000 ++ ackRun 7 1 .success 2 9 3000

theorem both_report_once : ∃ s ∈ (batchMachine 9).exec batchState bothReport,
    s.notified = [⟨9, 4, [(3, .onError 1 2 [8])]⟩] ∧ NotifiedOnce s 9 := by
  refine ⟨_, rfl, by decide, batch_notified_once ?_⟩
  exact (Reach.start batchState_init).of_exec bothReport (by decide) rfl

/-- The report that ends the batch arrives twice. -/
def repeatedEnd : List StatusOp :=
  ackRun 8 2 .failure 0 8 1000 ++ ackRun 7 1 .success 1 9 2000 ++ ackRun 7 1 .success 2 9 3000

theorem repeated_end_notifies_twice :
    ¬ ∀ batchId s, Reach (batchMachine batchId) anyStep s → NotifiedOnce s batchId := by
  intro hall
  exact not_forall_reach batchState_init repeatedEnd ⟨_, rfl, by decide⟩ (hall 9)

/-- Both executions succeed: a binding for failures sends nothing. -/
example : ∃ s ∈ (batchMachine 9).exec batchState (ackRun 8 2 .success 0 8 1000 ++ ackRun 7 1 .success 1 9 2000),
    s.IsOver 9 ∧ s.notified = [] := ⟨_, rfl, by decide⟩

/-- The sweeper ends the batch: no notice. -/
example : ∃ s ∈ (batchMachine 9).exec batchState
    (ackRun 8 2 .success 0 8 1000 ++ .sweep 400000 :: List.replicate 3 (.run 1 400000)),
      s.IsOver 9 ∧ s.notified = [] := ⟨_, rfl, by decide⟩

end Obliance.Commands

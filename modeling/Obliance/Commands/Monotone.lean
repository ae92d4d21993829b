import Obliance.Commands.Statuses

/-!
# Statuses that are final (`services/command.service.ts`, `services/schedule.service.ts`)

The cleanup job, a cancellation and the sweeper's update of the queue only write to rows that wait. The
updates of an ack and the sweeper's update of an execution write to whatever they find.

* `KeepsTerminal` : a statement leaves the final statuses as they were;
* `EndsOnce` : an update that does not look at the status finds none that is final, or the one it writes;
* `keepsTerminal_iff` : a statement keeps the final statuses exactly when it meets that;
* `final_statuses_kept_iff` : so does a whole run, from any state on.
-/

namespace Obliance.Commands
open GuardedRun KeyedTable

/-! ## One table -/

section Table
variable {ρ σ : Type} {key : ρ → ℕ} {status : ρ → σ} {isTerminal : σ → Bool} {t t' : List ρ}

/-- The rows that are in both tables have their final statuses in both. -/
def KeepsFinal (key : ρ → ℕ) (status : ρ → σ) (isTerminal : σ → Bool) (t t' : List ρ) : Prop :=
  ∀ id row row', get key t id = some row → get key t' id = some row' → isTerminal (status row) = true →
    status row' = status row

theorem KeepsFinal.refl (t : List ρ) : KeepsFinal key status isTerminal t t := by
  intro id row row' h h' _
  rw [h, Option.some.injEq] at h'
  rw [h']

/-- An update, with what it does to the final statuses. -/
theorem keepsFinal_map_iff {f : ρ → ρ} (hkey : ∀ r, key (f r) = key r) :
    KeepsFinal key status isTerminal t (t.map f) ↔
      ∀ id, ∀ row ∈ get key t id, isTerminal (status row) = true → status (f row) = status row := by
  constructor
  · intro h id row hrow hterminal
    refine h id row (f row) hrow ?_ hterminal
    rw [get_map hkey, Option.mem_def.1 hrow]
    rfl
  · intro h id row row' hrow hrow' hterminal
    rw [get_map hkey, hrow, Option.map_some, Option.some.injEq] at hrow'
    rw [← hrow']
    exact h id row hrow hterminal

/-- An update of the row of a key, if it meets `p`, that writes a status. -/
theorem keepsFinal_write_iff {f : ρ → ρ} {k : ℕ} {p : ρ → Prop} [DecidablePred p] {w : σ}
    (hkey : ∀ r, key (f r) = key r) (hf : ∀ r, status (f r) = if key r = k ∧ p r then w else status r) :
    KeepsFinal key status isTerminal t (t.map f) ↔
      ∀ row ∈ get key t k, p row → isTerminal (status row) = true → status row = w := by
  rw [keepsFinal_map_iff hkey]
  constructor
  · intro h row hrow hp hterminal
    have hkept := h k row hrow hterminal
    rw [hf, if_pos ⟨key_of_get hrow, hp⟩] at hkept
    exact hkept.symm
  · intro h id row hrow hterminal
    rw [hf]
    split
    · rename_i hhit
      refine (h row ?_ hhit.2 hterminal).symm
      rw [← hhit.1, key_of_get hrow]
      exact hrow
    · rfl

theorem KeepsFinal.append {row : ρ} : KeepsFinal key status isTerminal t (t ++ [row]) := by
  intro id r r' hr hr' _
  rw [KeyedTable.get, List.find?_append] at hr'
  rw [KeyedTable.get] at hr
  rw [hr] at hr'
  exact congrArg status (Option.some.inj hr').symm

theorem KeepsFinal.remove {id : ℕ} : KeepsFinal key status isTerminal t (remove key t id) := by
  intro id' r r' hr hr' _
  by_cases hid : id' = id
  · rw [hid, get_remove_self] at hr'
    cases hr'
  · rw [get_remove_ne hid, hr, Option.some.injEq] at hr'
    rw [hr']

end Table

/-- The command is over. -/
def CommandStatus.isTerminal : CommandStatus → Bool
  | .success | .failure | .timeout | .cancelled => true
  | .pending | .sent | .ackRunning => false

/-- The execution is over; a skipped one never started. -/
def ExecutionStatus.isTerminal : ExecutionStatus → Bool
  | .success | .failure | .timeout | .cancelled => true
  | .pending | .sent | .running | .skipped => false

/-- **No final status is changed.** -/
structure KeepsTerminal (s t : StatusState) : Prop where
  commands : KeepsFinal CommandRow.id CommandRow.status CommandStatus.isTerminal s.db.commands t.db.commands
  executions : KeepsFinal ScriptExecution.id ScriptExecution.status ExecutionStatus.isTerminal
    s.db.executions t.db.executions

/-- The update of the queue that an ack makes next, by id, device and status. -/
def Task.ackedCommand : Task → Option (ℕ × ℕ × CommandStatus)
  | .ack job .queue => some (job.id, job.deviceId, job.ack.status.toCommandStatus)
  | _ => none

/-- The execution that is ended next, and how. -/
def Task.endedExecution : Task → Option (ℕ × ExecutionStatus)
  | .ack job (.execution row) => row.executionId.map fun id => (id, execStatus job.ack.status)
  | .sweep (id :: _) => some (id, .timeout)
  | _ => none

/-- **The statements that end a row once.** -/
structure Task.EndsOnce (s : StatusState) (task : Task) : Prop where
  command : ∀ w ∈ task.ackedCommand, ∀ row ∈ get CommandRow.id s.db.commands w.1,
    row.deviceId = w.2.1 → row.status.isTerminal = true → row.status = w.2.2
  execution : ∀ w ∈ task.endedExecution, ∀ e ∈ get ScriptExecution.id s.db.executions w.1,
    e.status.isTerminal = true → e.status = w.2

/-- A step runs such a statement. -/
def EndsOnce (s : StatusState) : StatusOp → Prop
  | .run i _ => ∀ task ∈ s.tasks[i]?, task.EndsOnce s
  | _ => True

instance (s : StatusState) (task : Task) : Decidable (task.EndsOnce s) :=
  decidable_of_iff ((∀ w ∈ task.ackedCommand, ∀ row ∈ get CommandRow.id s.db.commands w.1,
      row.deviceId = w.2.1 → row.status.isTerminal = true → row.status = w.2.2) ∧
    ∀ w ∈ task.endedExecution, ∀ e ∈ get ScriptExecution.id s.db.executions w.1,
      e.status.isTerminal = true → e.status = w.2) ⟨fun h => ⟨h.1, h.2⟩, fun h => ⟨h.command, h.execution⟩⟩

instance (s : StatusState) : (op : StatusOp) → Decidable (EndsOnce s op)
  | .run i _ => inferInstanceAs (Decidable (∀ task ∈ s.tasks[i]?, task.EndsOnce s))
  | .processAcks _ _ _ | .sweep _ | .throws _ | .expire _ | .cancelCommand _ _ | .insertExecution _ _
  | .enqueue _ => .isTrue trivial

/-! ## The statements -/

section Statements
variable {s t : StatusState} {task : Task} {job : AckJob} {now : ℤ}

theorem KeepsTerminal.of_same (hcommands : t.db.commands = s.db.commands)
    (hexecutions : t.db.executions = s.db.executions) : KeepsTerminal s t := by
  refine ⟨?_, ?_⟩
  · rw [hcommands]
    exact .refl _
  · rw [hexecutions]
    exact .refl _

theorem Task.EndsOnce.of_none (hcommand : task.ackedCommand = none) (hexecution : task.endedExecution = none) :
    task.EndsOnce s := by
  refine ⟨?_, ?_⟩
  · simp [hcommand]
  · simp [hexecution]

/-- A statement that writes to no final status, whatever it finds. -/
theorem keeps_iff_of_none (hcommand : task.ackedCommand = none) (hexecution : task.endedExecution = none)
    (h : KeepsTerminal s t) : KeepsTerminal s t ↔ task.EndsOnce s :=
  iff_of_true h (.of_none hcommand hexecution)

/-- A guarded update leaves rows that are over alone. -/
theorem KeepsTerminal.of_guarded {f : CommandRow → CommandRow} (hid : ∀ r, (f r).id = r.id)
    (hf : ∀ r : CommandRow, r.status.isTerminal = true → (f r).status = r.status)
    (hcommands : t.db.commands = s.db.commands.map f) (hexecutions : t.db.executions = s.db.executions) :
    KeepsTerminal s t := by
  refine ⟨?_, ?_⟩
  · rw [hcommands]
    exact (keepsFinal_map_iff hid).2 fun _ r _ => hf r
  · rw [hexecutions]
    exact .refl _

theorem keeps_timeOutCommands {p : CommandRow → Bool} (ht : t.db = timeOutCommands s.db p now) :
    KeepsTerminal s t := by
  refine .of_guarded (f := fun r =>
    if (p r && r.isWaiting) = true then { r with status := .timeout, finishedAt := some now } else r) ?_ ?_
    (by rw [ht]; rfl) (by rw [ht]; rfl)
  · intro r
    split <;> rfl
  · intro r hterminal
    split
    · rename_i hhit
      have hwaiting := (Bool.and_eq_true _ _ ▸ hhit).2
      rw [CommandRow.isWaiting, decide_eq_true_eq] at hwaiting
      cases hstatus : r.status <;> simp_all [CommandStatus.isTerminal]
    · rfl

/-- The update of the queue by an ack. -/
theorem keeps_ackQueue_iff (now : ℤ)
    (hcommands : t.db.commands = updateQueue s.db.commands job.deviceId job.id job.ack now)
    (hexecutions : t.db.executions = s.db.executions) :
    KeepsTerminal s t ↔ (Task.ack job .queue).EndsOnce s := by
  have hiff : KeepsFinal CommandRow.id CommandRow.status CommandStatus.isTerminal s.db.commands t.db.commands ↔
      ∀ row ∈ get CommandRow.id s.db.commands job.id, row.deviceId = job.deviceId →
        row.status.isTerminal = true → row.status = job.ack.status.toCommandStatus := by
    rw [hcommands]
    apply keepsFinal_write_iff
    · intro r
      split <;> rfl
    · intro r
      split <;> rfl
  constructor
  · intro h
    refine ⟨?_, by simp [Task.endedExecution]⟩
    rintro _ ⟨⟩
    exact hiff.1 h.commands
  · intro h
    refine ⟨hiff.2 (h.command _ rfl), ?_⟩
    rw [hexecutions]
    exact .refl _

/-- An execution is ended. -/
theorem keeps_modify_iff {id : ℕ} {status : ExecutionStatus} {f : ScriptExecution → ScriptExecution}
    (hid : ∀ e, (f e).id = e.id) (hf : ∀ e, (f e).status = status)
    (hcommand : task.ackedCommand = none) (hexecution : task.endedExecution = some (id, status))
    (hcommands : t.db.commands = s.db.commands)
    (hexecutions : t.db.executions = modify ScriptExecution.id s.db.executions id f) :
    KeepsTerminal s t ↔ task.EndsOnce s := by
  have hiff : KeepsFinal ScriptExecution.id ScriptExecution.status ExecutionStatus.isTerminal s.db.executions
      t.db.executions ↔ ∀ e ∈ get ScriptExecution.id s.db.executions id, True →
        e.status.isTerminal = true → e.status = status := by
    rw [hexecutions]
    apply keepsFinal_write_iff (key_ite hid)
    intro e
    by_cases he : e.id = id <;> simp [he, hf]
  constructor
  · intro h
    refine ⟨by simp [hcommand], ?_⟩
    intro w hw e he
    obtain rfl : (id, status) = w := Option.some.inj (hexecution.symm.trans hw)
    exact hiff.1 h.executions e he trivial
  · intro h
    refine ⟨?_, hiff.2 fun e he _ => h.execution _ hexecution e he⟩
    rw [hcommands]
    exact .refl _

/-- A command that is inserted for an ack that found none ends no other. -/
theorem keeps_insertSynthetic {deviceId tenantId id : ℕ} {a : Ack}
    (ht : t.db = insertSynthetic s.db deviceId tenantId id a now) : KeepsTerminal s t := by
  have hexecutions : t.db.executions = s.db.executions := by
    rw [ht]
    exact insertSynthetic_executions
  have hcommands : (insertSynthetic s.db deviceId tenantId id a now).commands = s.db.commands ∨ _ :=
    insertSynthetic_commands
  rw [← ht] at hcommands
  rcases hcommands with hsame | ⟨row, happend⟩
  · exact .of_same hsame hexecutions
  · refine ⟨?_, ?_⟩
    · rw [happend]
      exact .append
    · rw [hexecutions]
      exact .refl _

theorem keeps_deleteProbe {row : CommandRow} (ht : t.db = deleteProbe s.db row) : KeepsTerminal s t := by
  refine ⟨?_, ?_⟩ <;> rw [ht]
  · unfold deleteProbe
    split
    · exact .remove
    · exact .refl _
  · rw [deleteProbe_executions]
    exact .refl _

/-- The execution of an acked command is ended, if it has one. -/
theorem keeps_ackExecution_iff {row : CommandRow} (ht : t.db = ackExecution s.db row job.ack now) :
    KeepsTerminal s t ↔ (Task.ack job (.execution row)).EndsOnce s := by
  have hcommands : t.db.commands = s.db.commands := by
    rw [ht]
    exact ackExecution_commands
  have hexecutions : (ackExecution s.db row job.ack now).executions = _ := ackExecution_executions
  rw [← ht] at hexecutions
  cases hid : row.executionId with
  | none =>
      rw [hid] at hexecutions
      refine keeps_iff_of_none rfl ?_ (.of_same hcommands hexecutions)
      rw [Task.endedExecution, hid]
      rfl
  | some id =>
      rw [hid] at hexecutions
      have hended : (Task.ack job (.execution row)).endedExecution = some (id, execStatus job.ack.status) := by
        rw [Task.endedExecution, hid]
        rfl
      exact keeps_modify_iff (f := ScriptExecution.acked job.ack now) (fun _ => rfl) (fun _ => rfl) rfl hended
        hcommands hexecutions

/-- The statements of an ack: two of them end rows, the others keep what is final. -/
theorem runAck_keeps_iff {point : AckPoint} (ht : t.db = (runAck s job now point).1.db) :
    KeepsTerminal s t ↔ (Task.ack job point).EndsOnce s := by
  cases point with
  | queue =>
      refine keeps_ackQueue_iff now ?_ ?_
      · rw [ht]
        show updateQueue (resolveWaiter _ _ _ _).commands _ _ _ _ = _
        rw [resolveWaiter_commands]
      · rw [ht]
        exact resolveWaiter_executions
  | insert affected =>
      refine keeps_iff_of_none rfl rfl ?_
      cases affected with
      | true => exact .of_same (by rw [ht]; rfl) (by rw [ht]; rfl)
      | false => exact keeps_insertSynthetic ht
  | tunnel row =>
      refine keeps_iff_of_none rfl rfl (.of_same ?_ ?_) <;> rw [ht]
      · exact failTunnel_commands
      · exact failTunnel_executions
  | probe row => exact keeps_iff_of_none rfl rfl (keeps_deleteProbe ht)
  | execution row => exact keeps_ackExecution_iff ht
  | updates row | read | batch id | notify scheduleId batchId batch | scenario row =>
      exact keeps_iff_of_none rfl rfl (.of_same (by rw [ht]; rfl) (by rw [ht]; rfl))

theorem runTask_keeps_iff {next : StatusState × Task} (h : runTask s now task = some next) (ht : t.db = next.1.db) :
    KeepsTerminal s t ↔ task.EndsOnce s := by
  cases task with
  | ack job point =>
      cases h
      exact runAck_keeps_iff ht
  | select now =>
      cases h
      exact keeps_iff_of_none rfl rfl (.of_same (by rw [ht]) (by rw [ht]))
  | sweep ids =>
      cases ids with
      | nil => cases h
      | cons id ids =>
          cases h
          have hexecutions : t.db.executions = (timeOutExecution s.db id (s.info id).timeout now).executions := by
            rw [ht]
            rfl
          have hcommands : t.db.commands = s.db.commands := by
            rw [ht]
            rfl
          apply keeps_modify_iff _ _ rfl rfl hcommands hexecutions <;> exact fun _ => rfl
  | sweepQueue id ids =>
      cases h
      exact keeps_iff_of_none rfl rfl (keeps_timeOutCommands ht)
  | done => cases h

/-- **A statement keeps the final statuses** exactly when it ends no row a second time and otherwise. -/
theorem keepsTerminal_iff {op : StatusOp} (h : statusStep s op = some t) : KeepsTerminal s t ↔ EndsOnce s op := by
  have hguarded : KeepsTerminal s t → EndsOnce s op = True → (KeepsTerminal s t ↔ EndsOnce s op) := by
    intro hkeeps htrue
    rw [htrue]
    exact iff_of_true hkeeps trivial
  cases op with
  | run i now =>
      obtain ⟨task, htask, h⟩ := Option.bind_eq_some_iff.1 h
      obtain ⟨next, hnext, rfl⟩ := Option.map_eq_some_iff.1 h
      rw [runTask_keeps_iff (t := next.1.setTask i next.2) hnext rfl]
      constructor
      · intro hends task' htask'
        obtain rfl := Option.some.inj (htask.symm.trans htask')
        exact hends
      · exact fun hends => hends task htask
  | throws i =>
      obtain ⟨task, -, h⟩ := Option.bind_eq_some_iff.1 h
      obtain ⟨next, -, rfl⟩ := Option.map_eq_some_iff.1 h
      exact hguarded (.of_same rfl rfl) rfl
  | processAcks deviceId tenantId acks | sweep now =>
      cases h
      exact hguarded (.of_same rfl rfl) rfl
  | expire now =>
      cases h
      exact hguarded (keeps_timeOutCommands rfl) rfl
  | cancelCommand id tenantId =>
      cases h
      refine hguarded (.of_guarded (fun r => ?_) (fun r hterminal => ?_) rfl rfl) rfl
      · split <;> rfl
      · split
        · rename_i hhit
          rw [hhit.2.2] at hterminal
          cases hterminal
        · rfl
  | insertExecution id info =>
      simp only [statusStep] at h
      split at h <;> cases h
      exact hguarded ⟨.refl _, .append⟩ rfl
  | enqueue row =>
      simp only [statusStep] at h
      split at h <;> cases h
      exact hguarded ⟨.append, .refl _⟩ rfl

/-- A step that is not enabled ends nothing. -/
theorem endsOnce_of_idle {op : StatusOp} (h : statusStep s op = none) : EndsOnce s op := by
  cases op with
  | run i now =>
      intro task htask
      have hnone : runTask s now task = none := by
        simp only [statusStep, Option.mem_def.1 htask, Option.bind_some, Option.map_eq_none_iff] at h
        exact h
      cases task with
      | done => exact .of_none rfl rfl
      | sweep ids =>
          cases ids with
          | nil => exact .of_none rfl rfl
          | cons id ids => cases hnone
      | ack job point | select now | sweepQueue id ids => cases hnone
  | processAcks | sweep | throws | expire | cancelCommand | insertExecution | enqueue => trivial

end Statements

/-- **A run changes no final status** exactly when each of its statements ends no row a second time and
otherwise. -/
theorem final_statuses_kept_iff (s : StatusState) (ops : List StatusOp) :
    statusMachine.Along KeepsTerminal s ops ↔ statusMachine.Admits EndsOnce s ops := by
  apply Machine.along_iff_admits
  · exact fun s op hidle => endsOnce_of_idle hidle
  · exact fun s op t h => keepsTerminal_iff h

/-! ## A late ack and a late sweep -/

/-- Execution 1, run on device 7 by command 1, triggered at 0 with a timeout of 300 s. -/
def sentState : StatusState where
  db := sentScripts [(1, 7)]
  info := fun _ => ⟨7, none, none, some 0, none⟩
  schedules := fun _ => none
  channels := fun _ => none
  madeFor := fun _ => none
  tasks := []
  notified := []

/-- The agent reports that it runs the command after it has reported its end. -/
def lateRunning : List StatusOp := ackRun 7 1 .success 0 8 1000 ++ ackRun 7 1 .ackRunning 1 4 2000

theorem late_ack_reopens_command : ¬ ∀ s ops, statusMachine.init s → statusMachine.Along KeepsTerminal s ops := by
  intro hall
  have hrun := hall sentState lateRunning ⟨rfl, rfl, by decide⟩
  rw [Machine.along_iff_admits (fun _ _ => endsOnce_of_idle) fun _ _ _ => keepsTerminal_iff] at hrun
  exact absurd hrun (by decide)

/-- The agent reports its success after the sweeper has read the execution. -/
def lateSweep : List StatusOp :=
  [.sweep 400000, .run 0 400000] ++ ackRun 7 1 .success 1 8 400001 ++ [.run 0 400002]

example : ¬ statusMachine.Admits EndsOnce sentState lateSweep := by decide

/-- An ack in time, its repetition, and the cleanup job afterwards. -/
example : statusMachine.Admits EndsOnce sentState
    (ackRun 7 1 .success 0 8 1000 ++ ackRun 7 1 .success 1 8 2000 ++ [.expire 700000]) := by decide

end Obliance.Commands

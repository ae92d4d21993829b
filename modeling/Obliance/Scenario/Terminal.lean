import Obliance.Scenario.Provenance

/-!
# The status of a run (`services/scenarioGraph.service.ts`)

* `Thread.ends` : the run a task ends with its next statement, and the status it writes: `markRunSuccess`,
  `markRunFailure` and the update of `cancelRun` do not look at the row;
* `engineStep_status` : the status of a run after a step is what such a task writes, else as it was;
* `KeepsEnds` : the runs that had ended have the status they ended with.
-/

namespace Obliance.Scenario
open GuardedRun KeyedTable Obliance.Commands

/-- The run is over. -/
def RunStatus.isTerminal : RunStatus → Bool
  | .success | .failure | .cancelled => true
  | .pending | .running => false

/-- The run a task ends with its next statement, and the status it writes. -/
def Thread.ends : Thread → Option (ℕ × RunStatus)
  | .mark runId none => some (runId, .success)
  | .mark runId (some _) => some (runId, .failure)
  | .cancelRun runId => some (runId, .cancelled)
  | _ => none

/-- The run a step ends, and the status it writes. -/
def ending (s : EngineState) : EngineOp → Option (ℕ × RunStatus)
  | .run i _ => s.threads[i]?.bind Thread.ends
  | _ => none

/-- What is written to the status of a run. -/
def statusAfter (write : Option (ℕ × RunStatus)) (run : RunRow) : RunStatus :=
  match write with
  | some (id, status) => if run.id = id then status else run.status
  | none => run.status

/-! ## What a step writes to a status -/

/-- The rows of the runs stay, with the statuses that `write` gives them. -/
def Writes (write : Option (ℕ × RunStatus)) (s t : EngineState) : Prop :=
  ∀ id run, s.run id = some run → ∃ run', t.run id = some run' ∧ run'.status = statusAfter write run

section Writes
variable {s t u : EngineState} {write : Option (ℕ × RunStatus)}

theorem Writes.of_runs (h : t.runs = s.runs) : Writes none s t := by
  intro id run hrun
  refine ⟨run, ?_, rfl⟩
  rw [EngineState.run, h]
  exact hrun

/-- Rows are rewritten in place. -/
theorem Writes.of_map {f : RunRow → RunRow} (hruns : t.runs = s.runs.map f) (hid : ∀ r, (f r).id = r.id)
    (hf : ∀ r, (f r).status = statusAfter write r) : Writes write s t := by
  intro id run hrun
  refine ⟨f run, ?_, hf run⟩
  rw [EngineState.run, hruns, get_map hid, ← EngineState.run, hrun]
  rfl

theorem Writes.of_modify {id : ℕ} {f : RunRow → RunRow} (hruns : t.runs = modify RunRow.id s.runs id f)
    (hid : ∀ r, (f r).id = r.id) (hf : ∀ r, (f r).status = r.status) : Writes none s t := by
  apply Writes.of_map hruns (key_ite hid)
  intro r
  split
  · exact hf r
  · rfl

theorem Writes.of_end {id : ℕ} {status : RunStatus} {f : RunRow → RunRow}
    (hruns : t.runs = modify RunRow.id s.runs id f) (hid : ∀ r, (f r).id = r.id) (hf : ∀ r, (f r).status = status) :
    Writes (some (id, status)) s t := by
  apply Writes.of_map hruns (key_ite hid)
  intro r
  by_cases hr : r.id = id
  · simp [statusAfter, hr, hf]
  · simp [statusAfter, hr]

/-- A row is added behind the others. -/
theorem Writes.of_append {run : RunRow} (hruns : t.runs = s.runs ++ [run]) : Writes none s t := by
  intro id run' hrun'
  refine ⟨run', ?_, rfl⟩
  rw [EngineState.run, hruns, KeyedTable.get, List.find?_append]
  rw [EngineState.run, KeyedTable.get] at hrun'
  rw [hrun']
  rfl

end Writes

section Steps
variable {s t : EngineState} {i nodeRunId : ℕ} {now : ℤ} {r : NodeResult}

theorem startAck_runs : (startAck s nodeRunId r).runs = s.runs := by
  rcases startAck_cases s nodeRunId r with ⟨fanOuts, heq⟩ | ⟨fanOuts, result, heq⟩ <;> rw [heq]

theorem ackCommand_runs {deviceId : ℕ} {a : Ack} : (ackCommand s deviceId a now).runs = s.runs := by
  rcases ackCommand_cases s deviceId a now with heq | ⟨id, s', rfl, heq | ⟨nodeRunId, r, heq⟩⟩ <;> rw [heq]
  exact startAck_runs

theorem notifyTimeout_runs (h : notifyTimeout s = some t) : t.runs = s.runs := by
  obtain ⟨rest, s', rfl, rfl | ⟨nodeRunId, r, rfl⟩⟩ := notifyTimeout_cases h
  · rfl
  · exact startAck_runs

theorem rearmWaitTimers_runs : (rearmWaitTimers s now).runs = s.runs := by
  apply rearmWaitTimers_induction (R := fun s t => t.runs = s.runs) (fun _ => rfl) (fun h h' => h'.trans h)
    (fun _ _ _ => startAck_runs) (fun _ _ _ => rfl)

theorem readAck_runs : (readAck s i nodeRunId r).runs = s.runs := by
  unfold readAck
  split
  · rfl
  · split
    · rfl
    · split <;> rfl

theorem advance_runs {v : Visit} {exitCode : Option ℤ} {byAck : Bool} :
    (advance s i v exitCode byAck).runs = s.runs := by
  unfold advance
  dsimp only
  split
  · rfl
  · split
    · rfl
    · split <;> rfl

theorem runExecutor_runs {run : RunRow} {node : NodeRow} :
    (runExecutor s i run node nodeRunId now).runs = s.runs := by
  unfold runExecutor
  dsimp only
  cases startExecutor s.db run node now with
  | none => rfl
  | some next =>
      obtain ⟨db, step⟩ := next
      cases step with
      | terminate success exitCode message => cases success <;> rfl
      | enqueue command targets =>
          dsimp only
          split <;> rfl
      | done exitCode | sleep delayMs | pass | throws message => rfl

theorem executeNode_writes {runId nodeId : ℕ} {cause : Option ℕ} :
    Writes none s (executeNode s i runId nodeId cause now) := by
  unfold executeNode
  split
  · exact .of_runs rfl
  · split
    · exact .of_runs rfl
    · split
      · exact .of_runs rfl
      · dsimp only
        split
        · exact .of_runs rfl
        · exact .of_modify rfl (fun _ => rfl) fun _ => rfl

theorem runTask_writes {task : Thread} (h : runTask s i now task = some t) : Writes task.ends s t := by
  cases task with
  | ack nodeRunId r => exact Option.some.inj h ▸ .of_runs readAck_runs
  | mirror v r next byAck =>
      refine Option.some.inj h ▸ .of_modify rfl ?_ ?_ <;> exact fun _ => rfl
  | advance v exitCode byAck => exact Option.some.inj h ▸ .of_runs advance_runs
  | execute runId nodeId cause => exact Option.some.inj h ▸ executeNode_writes
  | executor run node nodeRunId => exact Option.some.inj h ▸ .of_runs runExecutor_runs
  | enqueue run node nodeRunId command targets =>
      cases targets <;> exact Option.some.inj h ▸ .of_runs rfl
  | mark runId failure =>
      cases failure <;> refine Option.some.inj h ▸ .of_end rfl ?_ ?_ <;> exact fun _ => rfl
  | cancelRun runId =>
      refine Option.some.inj h ▸ .of_end rfl ?_ ?_ <;> exact fun _ => rfl
  | complete | stamp | cancelNodes | cancelCommands => exact Option.some.inj h ▸ .of_runs rfl
  | done => cases h

/-- **The status of a run after a step**: what the step ends it with, else as it was. -/
theorem engineStep_status {op : EngineOp} (h : engineStep s op = some t) : Writes (ending s op) s t := by
  cases op with
  | startRun scenarioId deviceId opts denial record =>
      rw [← Option.some.inj h]
      rcases startRun_cases s scenarioId deviceId opts denial record with
        heq | ⟨run, -, heq⟩ | ⟨run, th, -, -, heq⟩ <;> rw [heq]
      · exact .of_runs rfl
      · exact .of_append rfl
      · exact .of_append rfl
  | run i now =>
      obtain ⟨task, hth, htask⟩ := Option.bind_eq_some_iff.1 h
      rw [ending, hth, Option.bind_some]
      exact runTask_writes htask
  | fail i message =>
      simp only [engineStep, failThread] at h
      split at h <;> cases h <;> exact .of_runs rfl
  | ack deviceId a now => exact Option.some.inj h ▸ .of_runs ackCommand_runs
  | notifyTimeout => exact .of_runs (notifyTimeout_runs h)
  | fire nodeRunId =>
      simp only [engineStep] at h
      split at h
      · exact Option.some.inj h ▸ .of_runs startAck_runs
      · cases h
  | cancelRun runId tenantId =>
      rw [← Option.some.inj h]
      unfold startCancel
      split
      · exact .of_runs rfl
      · split <;> exact .of_runs rfl
  | edit db =>
      refine Option.some.inj h ▸ .of_map rfl ?_ ?_ <;> exact fun _ => rfl
  | rearm now =>
      simp only [engineStep] at h
      split at h
      · cases h
      · exact Option.some.inj h ▸ .of_runs rearmWaitTimers_runs
  | expire now | restart => exact Option.some.inj h ▸ .of_runs rfl

end Steps

/-! ## Ended runs -/

/-- Runs that had ended in `s` have their status in `t`. -/
def KeepsEnds (s t : EngineState) : Prop :=
  ∀ id run, s.run id = some run → run.status.isTerminal = true →
    ∃ run', t.run id = some run' ∧ run'.status = run.status

section Ends
variable {s t u : EngineState}

theorem KeepsEnds.trans (h : KeepsEnds s t) (h' : KeepsEnds t u) : KeepsEnds s u := by
  intro id run hrun hterminal
  obtain ⟨run', hrun', hstatus⟩ := h id run hrun hterminal
  obtain ⟨run'', hrun'', hstatus'⟩ := h' id run' hrun' (by rw [hstatus]; exact hterminal)
  exact ⟨run'', hrun'', hstatus'.trans hstatus⟩

end Ends

end Obliance.Scenario

import Obliance.Scenario.Engine

/-!
# What the engine writes to the tables of others (`services/scenarioGraph.service.ts`)

* `Rewrites db db'` : the tags and groups of devices and the cooldown stamps change, nothing else;
* `engineStep_rewrites` : that is all the engine does to the tables of graphs and devices.
-/

namespace Obliance.Scenario
open GuardedRun KeyedTable Obliance.Commands

/-- Devices are rewritten in place, in their tenants, and cooldowns are stamped. -/
def Rewrites (db db' : GraphDb) : Prop :=
  ∃ (f : EngineDevice → EngineDevice) (cooldowns : List CooldownRow),
    (∀ d, (f d).id = d.id ∧ (f d).tenantId = d.tenantId) ∧
      db' = { db with devices := db.devices.map f, cooldowns := cooldowns }

theorem Rewrites.of_eq {db db' : GraphDb} (h : db' = db) : Rewrites db db' := by
  subst h
  exact ⟨id, db'.cooldowns, fun _ => ⟨rfl, rfl⟩, by rw [List.map_id]⟩

theorem Rewrites.of_devices {db : GraphDb} {f : EngineDevice → EngineDevice}
    (hf : ∀ d, (f d).id = d.id ∧ (f d).tenantId = d.tenantId) :
    Rewrites db { db with devices := db.devices.map f } := ⟨f, db.cooldowns, hf, rfl⟩

theorem Rewrites.of_cooldowns {db : GraphDb} (cooldowns : List CooldownRow) :
    Rewrites db { db with cooldowns := cooldowns } :=
  ⟨id, cooldowns, fun _ => ⟨rfl, rfl⟩, by rw [List.map_id]⟩

theorem startRun_db {s : EngineState} {scenarioId deviceId : ℕ} {opts : StartOpts} {denial : Option String}
    {record : Bool} : (startRun s scenarioId deviceId opts denial record).db = s.db := by
  rcases startRun_cases s scenarioId deviceId opts denial record with
    heq | ⟨run, -, heq⟩ | ⟨run, th, -, -, heq⟩ <;> rw [heq]

theorem startExecutor_rewrites {db db' : GraphDb} {run : RunRow} {node : NodeRow} {now : ℤ} {step : ExecStep}
    (h : startExecutor db run node now = some (db', step)) : Rewrites db db' := by
  unfold startExecutor at h
  split at h
  case h_8 =>
    simp only [execTagDevice, Option.some.injEq] at h
    split_ifs at h
    · exact .of_eq (Prod.mk.inj h).1.symm
    · obtain ⟨rfl, -⟩ := Prod.mk.inj h
      exact .of_devices fun d => by split_ifs <;> exact ⟨rfl, rfl⟩
  case h_9 =>
    simp only [execMoveDevice, Option.some.injEq] at h
    split_ifs at h
    · exact .of_eq (Prod.mk.inj h).1.symm
    · exact .of_eq (Prod.mk.inj h).1.symm
    · obtain ⟨rfl, -⟩ := Prod.mk.inj h
      exact .of_devices fun d => by split_ifs <;> exact ⟨rfl, rfl⟩
  case h_13 => cases h
  all_goals exact .of_eq (Prod.mk.inj (Option.some.inj h)).1.symm

section Statements
variable {s t : EngineState} {i runId nodeId nodeRunId : ℕ} {now : ℤ} {r : NodeResult} {v : Visit} {byAck : Bool}

theorem startAck_db : (startAck s nodeRunId r).db = s.db := by
  rcases startAck_cases s nodeRunId r with ⟨fanOuts, heq⟩ | ⟨fanOuts, result, heq⟩ <;> rw [heq]

theorem executeNode_db {cause : Option ℕ} : (executeNode s i runId nodeId cause now).db = s.db := by
  unfold executeNode
  split
  · rfl
  · split
    · rfl
    · split
      · rfl
      · dsimp only
        split <;> rfl

theorem readAck_db : (readAck s i nodeRunId r).db = s.db := by
  unfold readAck
  split
  · rfl
  · split
    · rfl
    · split <;> rfl

theorem advance_db {exitCode : Option ℤ} : (advance s i v exitCode byAck).db = s.db := by
  unfold advance
  dsimp only
  split
  · rfl
  · split
    · rfl
    · split <;> rfl

theorem runExecutor_db {run : RunRow} {node : NodeRow} :
    (runExecutor s i run node nodeRunId now).db = ((startExecutor s.db run node now).map Prod.fst).getD s.db := by
  unfold runExecutor
  dsimp only
  cases startExecutor s.db run node now with
  | none => rfl
  | some next =>
      obtain ⟨db, step⟩ := next
      cases step with
      | terminate success exitCode message => cases success <;> rfl
      | enqueue command targets =>
          dsimp only
          split <;> rfl
      | done exitCode | sleep delayMs | pass | throws message => rfl

theorem runExecutor_rewrites {run : RunRow} {node : NodeRow} :
    Rewrites s.db (runExecutor s i run node nodeRunId now).db := by
  rw [runExecutor_db]
  cases hstep : startExecutor s.db run node now with
  | none => exact .of_eq rfl
  | some next => exact startExecutor_rewrites hstep

theorem runTask_rewrites {task : Thread} (h : runTask s i now task = some t) : Rewrites s.db t.db := by
  cases task with
  | executor run node nodeRunId => exact Option.some.inj h ▸ runExecutor_rewrites
  | execute runId nodeId cause => exact Option.some.inj h ▸ .of_eq executeNode_db
  | ack nodeRunId r => exact Option.some.inj h ▸ .of_eq readAck_db
  | advance v exitCode byAck => exact Option.some.inj h ▸ .of_eq advance_db
  | enqueue run node nodeRunId command targets => cases targets <;> cases h <;> exact .of_eq rfl
  | stamp run node nodeRunId =>
      cases h
      exact .of_cooldowns _
  | done => cases h
  | complete | mirror | mark | cancelRun | cancelNodes | cancelCommands =>
      cases h
      exact .of_eq rfl

theorem ackCommand_db {deviceId : ℕ} {a : Ack} : (ackCommand s deviceId a now).db = s.db := by
  rcases ackCommand_cases s deviceId a now with heq | ⟨id, s', rfl, heq | ⟨nodeRunId, r, heq⟩⟩ <;> rw [heq]
  exact startAck_db

theorem notifyTimeout_db (h : notifyTimeout s = some t) : t.db = s.db := by
  obtain ⟨rest, s', rfl, rfl | ⟨nodeRunId, r, rfl⟩⟩ := notifyTimeout_cases h
  · rfl
  · exact startAck_db

theorem failThread_db {message : String} (h : failThread s i message = some t) : t.db = s.db := by
  unfold failThread at h
  split at h <;> cases h <;> rfl

theorem rearmWaitTimers_db : (rearmWaitTimers s now).db = s.db := by
  apply rearmWaitTimers_induction (R := fun s t => t.db = s.db) (fun _ => rfl) (fun h h' => h'.trans h)
    (fun _ _ _ => startAck_db) (fun _ _ _ => rfl)

/-- What the engine does by itself only rewrites devices and stamps cooldowns. -/
theorem engineStep_rewrites {op : EngineOp} (h : engineStep s op = some t) (hop : ∀ db, op ≠ .edit db) :
    Rewrites s.db t.db := by
  cases op with
  | startRun scenarioId deviceId opts denial record => exact Option.some.inj h ▸ .of_eq startRun_db
  | run i now =>
      obtain ⟨task, -, htask⟩ := Option.bind_eq_some_iff.1 h
      exact runTask_rewrites htask
  | fail i message => exact .of_eq (failThread_db h)
  | ack deviceId a now => exact Option.some.inj h ▸ .of_eq ackCommand_db
  | notifyTimeout => exact .of_eq (notifyTimeout_db h)
  | fire nodeRunId =>
      simp only [engineStep] at h
      split at h
      · exact Option.some.inj h ▸ .of_eq startAck_db
      · cases h
  | cancelRun runId tenantId =>
      cases h
      unfold startCancel
      split
      · exact .of_eq rfl
      · split <;> exact .of_eq rfl
  | edit db => exact absurd rfl (hop db)
  | rearm now =>
      simp only [engineStep] at h
      split at h
      · cases h
      · exact Option.some.inj h ▸ .of_eq rearmWaitTimers_db
  | expire now | restart =>
      cases h
      exact .of_eq rfl

end Statements

end Obliance.Scenario

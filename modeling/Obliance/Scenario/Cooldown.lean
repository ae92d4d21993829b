import Mathlib.Data.List.Basic
import Obliance.Lib.GuardedRun
import Obliance.Scenario.Executors

/-!
# A cooldown node under runs side by side (`services/scenarioGraph.service.ts`, `EXECUTORS.cooldown`)

The executions of one cooldown node by runs of one scenario on one device. The read of the row, the test of what
was read and the upsert are one step each; the stamp is taken at the test and stored by the upsert. A pass is at
the instant of its stamp, in milliseconds.

* `cooldownTest`, `execCooldown_eq` : the test, and the executor by it;
* `cooldownMachine` : executions begun and advanced in any order, upserts for other nodes, the passing of time;
* `Spaced`, `Stopped` : passes are a window apart, a run is only stopped after a pass;
* `KeepsWindow` : a run that passes would also have passed on what is in the table and on its way there;
* `passes_apart_iff` : passes stay apart exactly along the runs that keep to that.
-/

namespace Obliance.Scenario.Cooldown
open GuardedRun

/-! ## The test -/

/-- What the executor makes of the row it has read: the output of a run that is stopped, `none` for a pass. -/
def cooldownTest (seconds : ℤ) (existing : Option CooldownRow) (now : ℤ) : Option String :=
  match existing with
  | none => none
  | some row =>
      let elapsedMs := now - row.lastPassAt
      if elapsedMs < seconds * 1000 then
        some ("cooldown active (" ++ toString ((seconds * 1000 - elapsedMs) / 1000) ++ "s remaining)")
      else none

theorem cooldownTest_eq_none_iff {seconds now : ℤ} {existing : Option CooldownRow} :
    cooldownTest seconds existing now = none ↔ ∀ row ∈ existing, seconds * 1000 ≤ now - row.lastPassAt := by
  cases existing with
  | none => simp [cooldownTest]
  | some row =>
      unfold cooldownTest
      by_cases h : now - row.lastPassAt < seconds * 1000
      · simp [h]
      · simp [h, Int.not_lt.1 h]

/-- The executor is the test of the row it reads, when nothing happens in between. -/
theorem execCooldown_eq (db : GraphDb) (run : RunRow) (node : NodeRow) (now : ℤ) :
    execCooldown db run node now =
      if cooldownToSeconds node.config ≤ 0 then .done (some 0)
      else if (cooldownTest (cooldownToSeconds node.config) (cooldownRow db run node) now).isSome then
        .terminate true (some (-1)) none
      else .pass := by
  unfold execCooldown cooldownTest
  cases cooldownRow db run node with
  | none => rfl
  | some row =>
      by_cases h : now - row.lastPassAt < cooldownToSeconds node.config * 1000
      · simp [h]
      · simp [h]

/-! ## Executions side by side -/

/-- A cooldown node, and the scenario and the device whose runs reach it. -/
structure Window where
  scenarioId : ℕ
  deviceId : ℕ
  node : NodeRow

def Window.seconds (w : Window) : ℤ := cooldownToSeconds w.node.config

/-- The duration in milliseconds. -/
def Window.ms (w : Window) : ℤ := w.seconds * 1000

def Window.Reached (w : Window) (run : RunRow) : Prop :=
  run.scenarioId = w.scenarioId ∧ run.deviceId = w.deviceId

def Window.owns (w : Window) (row : CooldownRow) : Bool :=
  decide (row.scenarioId = w.scenarioId ∧ row.deviceId = w.deviceId ∧ row.nodeId = w.node.id)

/-- Where an execution stands: the step it does next, or what it came to. -/
inductive Execution where
  | reading (run : RunRow)
  | testing (run : RunRow) (existing : Option CooldownRow)
  | stamping (run : RunRow) (stamp : ℤ)
  /-- Exit code 0; `stamp` is the instant of the pass. -/
  | passed (stamp : ℤ)
  /-- Exit code -1, and the run ends with success. -/
  | stopped (instant : ℤ) (stdout : String)
  | thrown

structure CooldownState where
  db : GraphDb
  now : ℤ
  executions : List Execution

def CooldownState.row (s : CooldownState) (w : Window) : Option CooldownRow := s.db.cooldowns.find? w.owns

def CooldownState.set (s : CooldownState) (i : ℕ) (e : Execution) : CooldownState :=
  { s with executions := s.executions.set i e }

def CooldownState.upsert (s : CooldownState) (node : NodeRow) (i : ℕ) (run : RunRow) (stamp : ℤ) : CooldownState :=
  { s.set i (.passed stamp) with db := stampCooldown s.db run node stamp }

inductive CooldownOp where
  | start (run : RunRow)
  | read (i : ℕ)
  | test (i : ℕ)
  | upsert (i : ℕ)
  /-- The query the execution waits for is rejected. -/
  | reject (i : ℕ)
  | elapse (ms : ℕ)
  /-- An upsert for another scenario, device or node. -/
  | elsewhere (run : RunRow) (node : NodeRow) (stamp : ℤ)

instance (w : Window) (run : RunRow) : Decidable (w.Reached run) :=
  inferInstanceAs (Decidable (_ ∧ _))

variable (w : Window)

def cooldownStep (s : CooldownState) : CooldownOp → Option CooldownState
  | .start run =>
      if w.Reached run then
        some { s with
          executions := s.executions ++ [if w.seconds ≤ 0 then .passed s.now else .reading run] }
      else none
  | .read i =>
      match s.executions[i]? with
      | some (.reading run) => some (s.set i (.testing run (cooldownRow s.db run w.node)))
      | _ => none
  | .test i =>
      match s.executions[i]? with
      | some (.testing run existing) =>
          match cooldownTest w.seconds existing s.now with
          | some stdout => some (s.set i (.stopped s.now stdout))
          | none => some (s.set i (.stamping run s.now))
      | _ => none
  | .upsert i =>
      match s.executions[i]? with
      | some (.stamping run stamp) => some (s.upsert w.node i run stamp)
      | _ => none
  | .reject i =>
      match s.executions[i]? with
      | some (.reading _) | some (.stamping _ _) => some (s.set i .thrown)
      | _ => none
  | .elapse ms => some { s with now := s.now + ms }
  | .elsewhere run node stamp =>
      if w.Reached run ∧ node.id = w.node.id then none
      else some { s with db := stampCooldown s.db run node stamp }

/-- No run has reached the node yet. -/
structure Fresh (s : CooldownState) : Prop where
  executions : s.executions = []
  row : s.row w = none

def cooldownMachine : Machine CooldownState CooldownOp := ⟨Fresh w, cooldownStep w⟩

/-! ## What a cooldown is for -/

/-- The instant an execution passes at, once it has passed the test. -/
def Execution.stamp? : Execution → Option ℤ
  | .stamping _ stamp | .passed stamp => some stamp
  | .reading _ | .testing _ _ | .stopped _ _ | .thrown => none

/-- The instant of an upsert that is still on its way. -/
def Execution.flying? : Execution → Option ℤ
  | .stamping _ stamp => some stamp
  | .passed _ | .reading _ | .testing _ _ | .stopped _ _ | .thrown => none

def Apart (p q : ℤ) : Prop := w.ms ≤ q - p ∨ w.ms ≤ p - q

/-- Any two passes are a window apart. -/
def Spaced (s : CooldownState) : Prop :=
  ∀ (i j : ℕ) (p q : ℤ), i ≠ j → s.executions[i]? = some (.passed p) → s.executions[j]? = some (.passed q) → Apart w p q

/-- A run is only stopped within a window after a pass. -/
def Stopped (s : CooldownState) : Prop :=
  ∀ instant stdout, .stopped instant stdout ∈ s.executions →
    ∃ p, .passed p ∈ s.executions ∧ p ≤ instant ∧ instant - p < w.ms

/-- A run passes only when the row in the table and the upserts on their way are a window old, and an upsert puts
no older stamp in the place of one that is not. -/
def KeepsWindow (s : CooldownState) : CooldownOp → Prop
  | .test i =>
      match s.executions[i]? with
      | some (.testing _ existing) =>
          cooldownTest w.seconds existing s.now = none →
            (∀ row ∈ s.row w, w.ms ≤ s.now - row.lastPassAt) ∧
              ∀ e ∈ s.executions, ∀ q ∈ e.flying?, w.ms ≤ s.now - q
      | _ => True
  | .upsert i =>
      match s.executions[i]? with
      | some (.stamping _ stamp) =>
          ∀ row ∈ s.row w, stamp < row.lastPassAt → w.ms ≤ s.now - row.lastPassAt
      | _ => True
  | .start _ | .read _ | .reject _ | .elapse _ | .elsewhere _ _ _ => True

/-- Passes are apart now, and stay so as long as the rule is kept from here on. -/
def Lasting (s : CooldownState) : Prop :=
  ∀ t, Reach ((cooldownMachine w).startingAt s) (KeepsWindow w) t → Spaced w t

/-! ## What a step can do -/

section Rows
variable {w} {db : GraphDb} {run : RunRow} {node : NodeRow} {stamp : ℤ}

theorem owns_iff {row : CooldownRow} : w.owns row = true ↔
    row.scenarioId = w.scenarioId ∧ row.deviceId = w.deviceId ∧ row.nodeId = w.node.id := decide_eq_true_iff

theorem cooldownRow_eq (h : w.Reached run) : cooldownRow db run w.node = db.cooldowns.find? w.owns := by
  unfold cooldownRow Window.owns
  rw [h.1, h.2]

variable (db stamp) in
/-- The upsert of an execution leaves its stamp in the row. -/
theorem row_upsert (h : w.Reached run) :
    ∃ row, (stampCooldown db run w.node stamp).cooldowns.find? w.owns = some row ∧ row.lastPassAt = stamp := by
  unfold stampCooldown
  rw [cooldownRow_eq h]
  cases hrow : db.cooldowns.find? w.owns with
  | none =>
      refine ⟨⟨run.scenarioId, run.deviceId, w.node.id, stamp⟩, ?_, rfl⟩
      have hown : w.owns ⟨run.scenarioId, run.deviceId, w.node.id, stamp⟩ = true := owns_iff.2 ⟨h.1, h.2, rfl⟩
      simp [List.find?_append, hrow, hown]
  | some row =>
      have hown : w.owns row = true := List.find?_some hrow
      refine ⟨{ row with lastPassAt := stamp }, ?_, rfl⟩
      have hkeys (c : CooldownRow) : w.owns (if c.scenarioId = run.scenarioId ∧ c.deviceId = run.deviceId ∧
          c.nodeId = w.node.id then { c with lastPassAt := stamp } else c) = w.owns c := by
        split_ifs <;> rfl
      simp only [Option.isSome_some, if_true, List.find?_map, Function.comp_def, hkeys]
      rw [hrow, Option.map_some, h.1, h.2, if_pos (owns_iff.1 hown)]

/-- An upsert for another key leaves the row alone. -/
theorem row_elsewhere (h : ¬ (w.Reached run ∧ node.id = w.node.id)) :
    (stampCooldown db run node stamp).cooldowns.find? w.owns = db.cooldowns.find? w.owns := by
  have hother (c : CooldownRow) (hc : w.owns c = true) :
      ¬ (c.scenarioId = run.scenarioId ∧ c.deviceId = run.deviceId ∧ c.nodeId = node.id) := by
    rintro ⟨hscenario, hdevice, hnode⟩
    obtain ⟨hscenario', hdevice', hnode'⟩ := owns_iff.1 hc
    exact h ⟨⟨hscenario.symm.trans hscenario', hdevice.symm.trans hdevice'⟩, hnode.symm.trans hnode'⟩
  unfold stampCooldown
  dsimp only
  split_ifs
  · have hkeys (c : CooldownRow) : w.owns (if c.scenarioId = run.scenarioId ∧ c.deviceId = run.deviceId ∧
        c.nodeId = node.id then { c with lastPassAt := stamp } else c) = w.owns c := by
      split_ifs <;> rfl
    simp only [List.find?_map, Function.comp_def, hkeys]
    cases hrow : db.cooldowns.find? w.owns with
    | none => rfl
    | some row => rw [Option.map_some, if_neg (hother row (List.find?_some hrow))]
  · rw [List.find?_append]
    have hnew : w.owns ⟨run.scenarioId, run.deviceId, node.id, stamp⟩ = false :=
      Bool.eq_false_iff.2 fun hown => h ⟨⟨(owns_iff.1 hown).1, (owns_iff.1 hown).2.1⟩, (owns_iff.1 hown).2.2⟩
    simp [hnew]

end Rows

/-- The effects of a step, one constructor each. -/
inductive Moves (s : CooldownState) : CooldownOp → CooldownState → Prop
  | free {run : RunRow} (hrun : w.Reached run) (hzero : w.seconds ≤ 0) :
      Moves s (.start run) { s with executions := s.executions ++ [.passed s.now] }
  | started {run : RunRow} (hrun : w.Reached run) :
      Moves s (.start run) { s with executions := s.executions ++ [.reading run] }
  | read {i : ℕ} {run : RunRow} (h : s.executions[i]? = some (.reading run)) :
      Moves s (.read i) (s.set i (.testing run (cooldownRow s.db run w.node)))
  | stopped {i : ℕ} {run : RunRow} {existing : Option CooldownRow} {stdout : String}
      (h : s.executions[i]? = some (.testing run existing))
      (hrow : ∃ row ∈ existing, s.now - row.lastPassAt < w.ms) :
      Moves s (.test i) (s.set i (.stopped s.now stdout))
  | passed {i : ℕ} {run : RunRow} {existing : Option CooldownRow}
      (h : s.executions[i]? = some (.testing run existing)) (hnone : cooldownTest w.seconds existing s.now = none) :
      Moves s (.test i) (s.set i (.stamping run s.now))
  | upserted {i : ℕ} {run : RunRow} {stamp : ℤ} (h : s.executions[i]? = some (.stamping run stamp)) :
      Moves s (.upsert i) (s.upsert w.node i run stamp)
  | rejected {i : ℕ} {e : Execution} (h : s.executions[i]? = some e) (hopen : ∀ p, e ≠ .passed p) :
      Moves s (.reject i) (s.set i .thrown)
  | elapsed {ms : ℕ} : Moves s (.elapse ms) { s with now := s.now + ms }
  | elsewhere {run : RunRow} {node : NodeRow} {stamp : ℤ} (h : ¬ (w.Reached run ∧ node.id = w.node.id)) :
      Moves s (.elsewhere run node stamp) { s with db := stampCooldown s.db run node stamp }

variable {w} {s t : CooldownState} {op : CooldownOp}

theorem step_moves (h : cooldownStep w s op = some t) : Moves w s op t := by
  cases op with
  | start run =>
      dsimp only [cooldownStep] at h
      split_ifs at h with hrun hzero
      · obtain rfl := Option.some.inj h
        exact .free hrun hzero
      · obtain rfl := Option.some.inj h
        exact .started hrun
  | read i =>
      dsimp only [cooldownStep] at h
      split at h
      case h_1 run hi =>
        obtain rfl := Option.some.inj h
        exact .read hi
      case h_2 => cases h
  | test i =>
      dsimp only [cooldownStep] at h
      split at h
      case h_1 run existing hi =>
        split at h
        case h_1 stdout htest =>
          obtain rfl := Option.some.inj h
          refine .stopped hi ?_
          by_contra hnot
          have hnone : cooldownTest w.seconds existing s.now = none := by
            refine cooldownTest_eq_none_iff.2 fun row hrow => ?_
            by_contra hlt
            exact hnot ⟨row, hrow, Int.not_le.1 hlt⟩
          rw [hnone] at htest
          cases htest
        case h_2 hnone =>
          obtain rfl := Option.some.inj h
          exact .passed hi hnone
      case h_2 => cases h
  | upsert i =>
      dsimp only [cooldownStep] at h
      split at h
      case h_1 run stamp hi =>
        obtain rfl := Option.some.inj h
        exact .upserted hi
      case h_2 => cases h
  | reject i =>
      dsimp only [cooldownStep] at h
      split at h
      case h_1 run hi =>
        obtain rfl := Option.some.inj h
        exact .rejected hi (by simp)
      case h_2 run stamp hi =>
        obtain rfl := Option.some.inj h
        exact .rejected hi (by simp)
      case h_3 => cases h
  | elapse ms =>
      obtain rfl := Option.some.inj h
      exact .elapsed
  | elsewhere run node stamp =>
      dsimp only [cooldownStep] at h
      split_ifs at h with helse
      obtain rfl := Option.some.inj h
      exact .elsewhere helse

/-! ## What holds in every run -/

/-- What an execution stands on. -/
def Execution.Lawful (w : Window) (s : CooldownState) : Execution → Prop
  | .reading run => w.Reached run
  | .testing run existing => w.Reached run ∧ ∀ row ∈ existing, .passed row.lastPassAt ∈ s.executions
  | .stamping run stamp => w.Reached run ∧ stamp ≤ s.now
  | .passed stamp => stamp ≤ s.now
  | .stopped instant _ => ∃ p, .passed p ∈ s.executions ∧ p ≤ instant ∧ instant - p < w.ms
  | .thrown => True

structure Lawful (w : Window) (s : CooldownState) : Prop where
  executions : ∀ e ∈ s.executions, e.Lawful w s
  /-- The row is the stamp of a pass. -/
  stored : ∀ row ∈ s.row w, .passed row.lastPassAt ∈ s.executions

theorem Execution.Lawful.mono {e : Execution} (h : e.Lawful w s) (hnow : s.now ≤ t.now)
    (hpassed : ∀ p, .passed p ∈ s.executions → .passed p ∈ t.executions) : e.Lawful w t := by
  cases e with
  | reading run => exact h
  | testing run existing => exact ⟨h.1, fun row hrow => hpassed _ (h.2 row hrow)⟩
  | stamping run stamp => exact ⟨h.1, Int.le_trans h.2 hnow⟩
  | passed stamp => exact Int.le_trans h hnow
  | stopped instant stdout =>
      obtain ⟨p, hp, hle, hlt⟩ := h
      exact ⟨p, hpassed p hp, hle, hlt⟩
  | thrown => trivial

/-- A pass is there for good. -/
theorem mem_set_of_passed {i : ℕ} {old e : Execution} (hi : s.executions[i]? = some old)
    (hopen : ∀ p, old ≠ .passed p) {p : ℤ} (hp : .passed p ∈ s.executions) :
    .passed p ∈ (s.set i e).executions := by
  obtain ⟨j, hj⟩ := List.mem_iff_getElem?.1 hp
  have hij : i ≠ j := by
    rintro rfl
    exact hopen p (Option.some.inj (hi.symm.trans hj))
  exact List.mem_iff_getElem?.2 ⟨j, (List.getElem?_set_ne hij).trans hj⟩

theorem Lawful.set (h : Lawful w s) {i : ℕ} {old e : Execution} (hi : s.executions[i]? = some old)
    (hopen : ∀ p, old ≠ .passed p) (he : e.Lawful w s) : Lawful w (s.set i e) where
  executions e' he' := by
    have hlawful : e'.Lawful w s := by
      rcases List.mem_or_eq_of_mem_set he' with hold | rfl
      · exact h.executions e' hold
      · exact he
    exact hlawful.mono (Int.le_refl _) fun p hp => mem_set_of_passed hi hopen hp
  stored row hrow := mem_set_of_passed hi hopen (h.stored row hrow)

theorem Lawful.append (h : Lawful w s) {e : Execution} (he : e.Lawful w s) :
    Lawful w { s with executions := s.executions ++ [e] } where
  executions e' he' := by
    have hlawful : e'.Lawful w s := by
      rcases List.mem_append.1 he' with hold | hnew
      · exact h.executions e' hold
      · obtain rfl := List.mem_singleton.1 hnew
        exact he
    exact hlawful.mono (Int.le_refl _) fun p hp => List.mem_append_left _ hp
  stored row hrow := List.mem_append_left _ (h.stored row hrow)

theorem Lawful.elapse (h : Lawful w s) (ms : ℕ) : Lawful w { s with now := s.now + ms } where
  executions e he := (h.executions e he).mono (by show s.now ≤ s.now + ms; omega) fun _ => id
  stored := h.stored

/-- The row is the one of the window for every run that reaches the node. -/
theorem Lawful.at (h : Lawful w s) {i : ℕ} {e : Execution} (hi : s.executions[i]? = some e) : e.Lawful w s :=
  h.executions e (List.mem_of_getElem? hi)

theorem lawful_of_fresh (h : Fresh w s) : Lawful w s where
  executions e he := by
    rw [h.executions] at he
    cases he
  stored row hrow := by
    rw [h.row] at hrow
    cases hrow

theorem Lawful.step (h : Lawful w s) (hm : Moves w s op t) : Lawful w t := by
  cases hm with
  | free _ _ => exact h.append (Int.le_refl _)
  | started hrun => exact h.append hrun
  | @read i run hi =>
      have hrun : w.Reached run := h.at hi
      refine h.set hi (by simp) ⟨hrun, fun row hrow => h.stored row ?_⟩
      rwa [cooldownRow_eq hrun] at hrow
  | @stopped i run existing stdout hi hinside =>
      obtain ⟨row, hrow, hlt⟩ := hinside
      have hpassed := (h.at hi).2 row hrow
      have hpast : row.lastPassAt ≤ s.now := h.executions _ hpassed
      exact h.set hi (by simp) ⟨row.lastPassAt, hpassed, hpast, hlt⟩
  | passed hi _ => exact h.set hi (by simp) ⟨(h.at hi).1, Int.le_refl _⟩
  | @upserted i run stamp hi =>
      obtain ⟨hrun, hpast⟩ := h.at hi
      have hset := h.set hi (by simp) (e := .passed stamp) hpast
      refine ⟨hset.executions, fun row hrow => ?_⟩
      obtain ⟨row', hrow', rfl⟩ := row_upsert s.db stamp hrun
      obtain rfl := Option.some.inj (hrow.symm.trans hrow')
      obtain ⟨hlt, -⟩ := List.getElem?_eq_some_iff.1 hi
      exact List.mem_iff_getElem?.2 ⟨i, List.getElem?_set_self hlt⟩
  | rejected hi hopen => exact h.set hi hopen trivial
  | elapsed => exact h.elapse _
  | elsewhere helse =>
      refine ⟨h.executions, fun row hrow => h.stored row ?_⟩
      exact (row_elsewhere helse).symm.trans hrow

theorem Lawful.stopped (h : Lawful w s) : Stopped w s := fun _ _ he => h.executions _ he

/-! ## Runs that keep the rule -/

theorem keepsWindow_test_iff {i : ℕ} {run : RunRow} {existing : Option CooldownRow}
    (hi : s.executions[i]? = some (.testing run existing)) :
    KeepsWindow w s (.test i) ↔ (cooldownTest w.seconds existing s.now = none →
      (∀ row ∈ s.row w, w.ms ≤ s.now - row.lastPassAt) ∧ ∀ e ∈ s.executions, ∀ q ∈ e.flying?, w.ms ≤ s.now - q) := by
  rw [KeepsWindow, hi]

theorem keepsWindow_upsert_iff {i : ℕ} {run : RunRow} {stamp : ℤ}
    (hi : s.executions[i]? = some (.stamping run stamp)) :
    KeepsWindow w s (.upsert i) ↔
      ∀ row ∈ s.row w, stamp < row.lastPassAt → w.ms ≤ s.now - row.lastPassAt := by
  rw [KeepsWindow, hi]

/-- The instant of the `i`-th execution, once it has passed the test. -/
def CooldownState.stampAt (s : CooldownState) (i : ℕ) : Option ℤ := s.executions[i]?.bind Execution.stamp?

/-- What the guarded steps keep: all stamps are apart, and the row is the newest pass that still counts. -/
structure Kept (w : Window) (s : CooldownState) : Prop where
  lawful : Lawful w s
  apart : ∀ i j p q, i ≠ j → s.stampAt i = some p → s.stampAt j = some q → Apart w p q
  newest : ∀ p, .passed p ∈ s.executions → (∃ row ∈ s.row w, p ≤ row.lastPassAt) ∨ w.ms ≤ s.now - p

theorem stampAt_set {i : ℕ} {old : Execution} (hi : s.executions[i]? = some old) (e : Execution) (j : ℕ) :
    (s.set i e).stampAt j = if j = i then e.stamp? else s.stampAt j := by
  obtain ⟨hlt, -⟩ := List.getElem?_eq_some_iff.1 hi
  show ((s.executions.set i e)[j]?).bind _ = _
  split_ifs with hij
  · rw [hij, List.getElem?_set_self hlt]
    rfl
  · rw [List.getElem?_set_ne (Ne.symm hij)]
    rfl

theorem Lawful.stamp_le (h : Lawful w s) {i : ℕ} {p : ℤ} (hp : s.stampAt i = some p) : p ≤ s.now := by
  obtain ⟨e, he, hstamp⟩ := Option.bind_eq_some_iff.1 hp
  have hlawful := h.at he
  cases e with
  | stamping run stamp =>
      obtain rfl := Option.some.inj hstamp
      exact hlawful.2
  | passed stamp =>
      obtain rfl := Option.some.inj hstamp
      exact hlawful
  | reading _ | testing _ _ | stopped _ _ | thrown => cases hstamp

/-- An execution that goes on without a stamp. -/
theorem Kept.set (h : Kept w s) {i : ℕ} {old e : Execution} (hi : s.executions[i]? = some old)
    (hlawful : Lawful w (s.set i e)) (hnone : e.stamp? = none) : Kept w (s.set i e) where
  lawful := hlawful
  apart j k p q hjk hp hq := by
    rw [stampAt_set hi] at hp hq
    split_ifs at hp with hj
    · rw [hnone] at hp
      cases hp
    · split_ifs at hq with hk
      · rw [hnone] at hq
        cases hq
      · exact h.apart j k p q hjk hp hq
  newest p hp := by
    rcases List.mem_or_eq_of_mem_set hp with hold | rfl
    · exact h.newest p hold
    · cases hnone

theorem Kept.append (h : Kept w s) {e : Execution} (hlawful : Lawful w { s with executions := s.executions ++ [e] })
    (hstamp : ∀ p, e.stamp? = some p → p = s.now ∧ w.ms ≤ 0) :
    Kept w { s with executions := s.executions ++ [e] } := by
  have hcases {j : ℕ} {p : ℤ} (hp : ((s.executions ++ [e])[j]?).bind Execution.stamp? = some p) :
      s.stampAt j = some p ∨ e.stamp? = some p := by
    obtain ⟨e', he', hp'⟩ := Option.bind_eq_some_iff.1 hp
    rcases Nat.lt_or_ge j s.executions.length with hj | hj
    · rw [List.getElem?_append_left hj] at he'
      exact .inl (Option.bind_eq_some_iff.2 ⟨e', he', hp'⟩)
    · rw [List.getElem?_append_right hj] at he'
      obtain rfl := List.mem_singleton.1 (List.mem_of_getElem? he')
      exact .inr hp'
  refine ⟨hlawful, fun j k p q hjk hp hq => ?_, fun p hp => ?_⟩
  · rcases hcases hp with hp | hp
    · rcases hcases hq with hq | hq
      · exact h.apart j k p q hjk hp hq
      · obtain ⟨rfl, hzero⟩ := hstamp q hq
        have hle := h.lawful.stamp_le hp
        exact .inl (by omega)
    · obtain ⟨rfl, hzero⟩ := hstamp p hp
      have hle : q ≤ s.now := hlawful.stamp_le hq
      exact .inr (by omega)
  · rcases List.mem_append.1 hp with hold | hnew
    · exact h.newest p hold
    · obtain rfl := List.mem_singleton.1 hnew
      obtain ⟨rfl, hzero⟩ := hstamp p rfl
      exact .inr (by show w.ms ≤ s.now - s.now; omega)

theorem Kept.step (h : Kept w s) (hok : KeepsWindow w s op) (hm : Moves w s op t) : Kept w t := by
  have hlawful := h.lawful.step hm
  cases hm with
  | free _ hzero =>
      refine h.append hlawful fun p hp => ⟨(Option.some.inj hp).symm, ?_⟩
      rw [Window.ms]
      omega
  | started _ => exact h.append hlawful fun p hp => by cases hp
  | read hi | stopped hi _ | rejected hi _ => exact h.set hi hlawful rfl
  | @passed i run existing hi hnone =>
      obtain ⟨hrow, hflying⟩ := (keepsWindow_test_iff hi).1 hok hnone
      -- every stamp is a window old now
      have hold {j : ℕ} {q : ℤ} (hq : s.stampAt j = some q) : w.ms ≤ s.now - q := by
        obtain ⟨e, he, hstamp⟩ := Option.bind_eq_some_iff.1 hq
        cases e with
        | stamping run' stamp => exact hflying _ (List.mem_of_getElem? he) q hstamp
        | passed stamp =>
            obtain rfl := Option.some.inj hstamp
            rcases h.newest stamp (List.mem_of_getElem? he) with ⟨row, hmem, hle⟩ | hle
            · have hage := hrow row hmem
              omega
            · exact hle
        | reading _ | testing _ _ | stopped _ _ | thrown => cases hstamp
      refine ⟨hlawful, fun j k p q hjk hp hq => ?_, fun p hp => ?_⟩
      · rw [stampAt_set hi] at hp hq
        split_ifs at hp hq with hj hk hk
        · exact absurd (hj.trans hk.symm) hjk
        · obtain rfl := Option.some.inj hp
          exact .inr (hold hq)
        · obtain rfl := Option.some.inj hq
          exact .inl (hold hp)
        · exact h.apart j k p q hjk hp hq
      · rcases List.mem_or_eq_of_mem_set hp with hpassed | hnew
        · exact h.newest p hpassed
        · cases hnew
  | @upserted i run stamp hi =>
      have hguard := (keepsWindow_upsert_iff hi).1 hok
      obtain ⟨row', hrow', hstamp'⟩ := row_upsert s.db stamp (h.lawful.at hi).1
      refine ⟨hlawful, fun j k p q hjk hp hq => ?_, fun p hp => ?_⟩
      · have hsame (j : ℕ) : (s.set i (.passed stamp)).stampAt j = s.stampAt j := by
          rw [stampAt_set hi]
          split_ifs with hj
          · rw [hj, CooldownState.stampAt, hi]
            rfl
          · rfl
        exact h.apart j k p q hjk ((hsame j).symm.trans hp) ((hsame k).symm.trans hq)
      · rcases List.mem_or_eq_of_mem_set hp with hpassed | hnew
        · by_cases hle : p ≤ stamp
          · exact .inl ⟨row', hrow', by omega⟩
          · refine .inr ?_
            rcases h.newest p hpassed with ⟨row, hmem, hle'⟩ | hage
            · have hage := hguard row hmem (by omega)
              show w.ms ≤ s.now - p
              omega
            · exact hage
        · obtain rfl := Execution.passed.inj hnew
          exact .inl ⟨row', hrow', by omega⟩
  | elapsed =>
      refine ⟨hlawful, h.apart, fun p hp => (h.newest p hp).imp_right fun hage => ?_⟩
      show w.ms ≤ s.now + _ - p
      omega
  | elsewhere helse =>
      refine ⟨hlawful, h.apart, fun p hp => (h.newest p hp).imp_left ?_⟩
      rintro ⟨row, hrow, hle⟩
      exact ⟨row, (row_elsewhere helse).trans hrow, hle⟩

theorem kept_of_fresh (h : Fresh w s) : Kept w s where
  lawful := lawful_of_fresh h
  apart i j p q _ hp _ := by
    rw [CooldownState.stampAt, h.executions] at hp
    cases hp
  newest p hp := by
    rw [h.executions] at hp
    cases hp

theorem stampAt_passed {i : ℕ} {p : ℤ} (h : s.executions[i]? = some (.passed p)) : s.stampAt i = some p := by
  rw [CooldownState.stampAt, h]
  rfl

theorem Kept.lasting (h : Kept w s) : Lasting w s := by
  intro t ht
  have hkept : Kept w t :=
    ht.invariant (fun u hu => hu ▸ h) fun u op v hu hok hstep => hu.step hok (step_moves hstep)
  exact fun i j p q hij hp hq => hkept.apart i j p q hij (stampAt_passed hp) (stampAt_passed hq)

/-! ## Runs that break it -/

theorem Lasting.spaced (h : Lasting w s) : Spaced w s := h s (.start rfl)

theorem Lasting.step (h : Lasting w s) (op : CooldownOp) (hok : KeepsWindow w s op)
    (hs : cooldownStep w s op = some t) : Lasting w t := by
  intro u hu
  refine h u ?_
  induction hu with
  | start heq =>
      obtain rfl := heq
      exact .next _ (.start rfl) hok hs
  | next op' _ hop hstep ih => exact ih.next op' hop hstep

theorem step_upsert {i : ℕ} {run : RunRow} {stamp : ℤ} (hi : s.executions[i]? = some (.stamping run stamp)) :
    cooldownStep w s (.upsert i) = some (s.upsert w.node i run stamp) := by
  rw [cooldownStep, hi]

theorem get_set_self {i : ℕ} {old : Execution} (hi : s.executions[i]? = some old) (e : Execution) :
    (s.set i e).executions[i]? = some e := by
  obtain ⟨hlt, -⟩ := List.getElem?_eq_some_iff.1 hi
  exact List.getElem?_set_self hlt

theorem get_set_of_ne {i j : ℕ} (h : i ≠ j) (e : Execution) :
    (s.set i e).executions[j]? = s.executions[j]? := List.getElem?_set_ne h

/-- A pass within a window after the row, or after a stamp on its way. -/
theorem not_lasting_of_test (h : Lawful w s) {i : ℕ} {run : RunRow} {existing : Option CooldownRow}
    (hi : s.executions[i]? = some (.testing run existing))
    (hno : ¬ ((∀ row ∈ s.row w, w.ms ≤ s.now - row.lastPassAt) ∧
      ∀ e ∈ s.executions, ∀ q ∈ e.flying?, w.ms ≤ s.now - q)) :
    ¬ Lasting w (s.set i (.stamping run s.now)) := by
  intro hl
  have hit := get_set_self hi (.stamping run s.now)
  by_cases hrows : ∀ row ∈ s.row w, w.ms ≤ s.now - row.lastPassAt
  · -- the other stamp is stored first, then this one
    obtain ⟨e, he, q, hq, hyoung⟩ : ∃ e ∈ s.executions, ∃ q ∈ e.flying?, ¬ w.ms ≤ s.now - q := by
      by_contra hnone
      refine hno ⟨hrows, fun e he q hq => ?_⟩
      by_contra hyoung
      exact hnone ⟨e, he, q, hq, hyoung⟩
    obtain ⟨j, hj⟩ := List.mem_iff_getElem?.1 he
    cases e with
    | stamping run' stamp =>
        obtain rfl := Option.some.inj hq
        obtain ⟨hrun', hpast⟩ := h.at hj
        have hij : i ≠ j := by
          rintro rfl
          cases hi.symm.trans hj
        have hjt := (get_set_of_ne hij (.stamping run s.now)).trans hj
        have hfirst := hl.step (.upsert j) ((keepsWindow_upsert_iff hjt).2 fun row hrow _ => hrows row hrow)
          (step_upsert hjt)
        have hiu : ((s.set i (.stamping run s.now)).upsert w.node j run' stamp).executions[i]? =
            some (.stamping run s.now) := (get_set_of_ne (Ne.symm hij) _).trans hit
        obtain ⟨row, hrow, hlast⟩ := row_upsert s.db stamp hrun'
        have hsecond := hfirst.step (.upsert i) ((keepsWindow_upsert_iff hiu).2 fun row' hrow' hnewer => by
          obtain rfl := Option.some.inj (hrow.symm.trans hrow')
          omega) (step_upsert hiu)
        have happart := hsecond.spaced i j s.now stamp hij (get_set_self hiu _)
          ((get_set_of_ne hij _).trans (get_set_self hjt _))
        unfold Apart at happart
        omega
    | passed _ | reading _ | testing _ _ | stopped _ _ | thrown => cases hq
  · obtain ⟨row, hrow, hyoung⟩ : ∃ row ∈ s.row w, ¬ w.ms ≤ s.now - row.lastPassAt := by
      by_contra hnone
      refine hrows fun row hrow => ?_
      by_contra hyoung
      exact hnone ⟨row, hrow, hyoung⟩
    obtain ⟨j, hj⟩ := List.mem_iff_getElem?.1 (h.stored row hrow)
    have hpast : row.lastPassAt ≤ s.now := h.at hj
    have hij : i ≠ j := by
      rintro rfl
      cases hi.symm.trans hj
    have hnext := hl.step (.upsert i) ((keepsWindow_upsert_iff hit).2 fun row' hrow' hnewer => by
      obtain rfl := Option.some.inj (hrow.symm.trans hrow')
      omega) (step_upsert hit)
    have happart := hnext.spaced i j s.now row.lastPassAt hij (get_set_self hit _)
      ((get_set_of_ne hij _).trans ((get_set_of_ne hij _).trans hj))
    unfold Apart at happart
    omega

/-- The state with one more execution, which is the last. -/
def CooldownState.add (s : CooldownState) (e : Execution) : CooldownState :=
  { s with executions := s.executions ++ [e] }

theorem get_add (s : CooldownState) (e : Execution) : (s.add e).executions[s.executions.length]? = some e :=
  List.getElem?_concat_length

theorem set_add (s : CooldownState) (e e' : Execution) : (s.add e).set s.executions.length e' = s.add e' := by
  have hset : (s.executions ++ [e]).set s.executions.length e' = s.executions ++ [e'] := by
    rw [List.set_append_right _ _ (Nat.le_refl _), Nat.sub_self]
    rfl
  exact congrArg (fun executions => { s with executions := executions }) hset

/-- One more run may pass when the row and the stamps on their way are a window old. -/
theorem Lasting.pass (h : Lasting w s) {run : RunRow} (hrun : w.Reached run) (hpos : 0 < w.ms)
    (hrows : ∀ row ∈ s.row w, w.ms ≤ s.now - row.lastPassAt)
    (hflying : ∀ e ∈ s.executions, ∀ q ∈ e.flying?, w.ms ≤ s.now - q) :
    ∃ db, Lasting w { s.add (.passed s.now) with db := db } := by
  have hseconds : ¬ w.seconds ≤ 0 := by
    unfold Window.ms at hpos
    omega
  have hstart : Lasting w (s.add (.reading run)) := h.step (.start run) trivial (by
    rw [cooldownStep, if_pos hrun, if_neg hseconds]
    rfl)
  have hread : Lasting w (s.add (.testing run (s.row w))) := hstart.step (.read s.executions.length) trivial (by
    rw [cooldownStep, get_add]
    show some ((s.add _).set _ (.testing run (cooldownRow s.db run w.node))) = _
    rw [set_add, cooldownRow_eq hrun]
    rfl)
  have htest : Lasting w (s.add (.stamping run s.now)) := by
    refine hread.step (.test s.executions.length) ((keepsWindow_test_iff (get_add ..)).2 fun _ => ?_) ?_
    · refine ⟨hrows, fun e he q hq => ?_⟩
      rcases List.mem_append.1 he with hold | hnew
      · exact hflying e hold q hq
      · obtain rfl := List.mem_singleton.1 hnew
        cases hq
    · rw [cooldownStep, get_add]
      dsimp only [CooldownState.add]
      rw [cooldownTest_eq_none_iff.2 hrows]
      exact congrArg some (set_add ..)
  refine ⟨stampCooldown s.db run w.node s.now, ?_⟩
  refine htest.step (.upsert s.executions.length) ((keepsWindow_upsert_iff (get_add ..)).2 ?_) ?_
  · intro row hrow hnewer
    have hage := hrows row hrow
    omega
  · rw [step_upsert (get_add ..)]
    exact congrArg (fun u : CooldownState => some { u with db := stampCooldown s.db run w.node s.now }) (set_add ..)

/-- An older stamp in the place of one that still counts. -/
theorem not_lasting_of_upsert (h : Kept w s) {i : ℕ} {run : RunRow} {stamp : ℤ}
    (hi : s.executions[i]? = some (.stamping run stamp)) {row : CooldownRow} (hrow : row ∈ s.row w)
    (hnewer : stamp < row.lastPassAt) (hyoung : s.now - row.lastPassAt < w.ms) :
    ¬ Lasting w (s.upsert w.node i run stamp) := by
  intro hl
  obtain ⟨k, hk⟩ := List.mem_iff_getElem?.1 (h.lawful.stored row hrow)
  have hpast : row.lastPassAt ≤ s.now := h.lawful.at hk
  obtain ⟨hrun, -⟩ := h.lawful.at hi
  obtain ⟨row', hrow', hlast⟩ := row_upsert s.db stamp hrun
  have hik : i ≠ k := by
    rintro rfl
    cases hi.symm.trans hk
  have hapart := h.apart i k stamp row.lastPassAt hik (by rw [CooldownState.stampAt, hi]; rfl) (stampAt_passed hk)
  unfold Apart at hapart
  have hkt : (s.upsert w.node i run stamp).executions[k]? = some (.passed row.lastPassAt) :=
    (get_set_of_ne hik _).trans hk
  have hrows : ∀ r ∈ (s.upsert w.node i run stamp).row w, w.ms ≤ s.now - r.lastPassAt := by
    intro r hr
    obtain rfl := Option.some.inj (hrow'.symm.trans hr)
    omega
  -- a stamp on its way is apart from the row
  have hflying : ∀ e ∈ (s.upsert w.node i run stamp).executions, ∀ q ∈ e.flying?, w.ms ≤ s.now - q := by
    intro e he q hq
    rcases List.mem_or_eq_of_mem_set he with hold | rfl
    · obtain ⟨j, hj⟩ := List.mem_iff_getElem?.1 hold
      cases e with
      | stamping run' q' =>
          obtain rfl := Option.some.inj hq
          have hjk : j ≠ k := by
            rintro rfl
            cases hj.symm.trans hk
          have hother := h.apart j k q' row.lastPassAt hjk (by rw [CooldownState.stampAt, hj]; rfl) (stampAt_passed hk)
          have hpast' : q' ≤ s.now := (h.lawful.at hj).2
          unfold Apart at hother
          omega
      | passed _ | reading _ | testing _ _ | stopped _ _ | thrown => cases hq
    · cases hq
  obtain ⟨db, hpassed⟩ := hl.pass hrun (by omega) hrows hflying
  have hlt : k < s.executions.length := (List.getElem?_eq_some_iff.1 hk).1
  have hlength : (s.upsert w.node i run stamp).executions.length = s.executions.length := List.length_set
  have happart := hpassed.spaced (s.upsert w.node i run stamp).executions.length k s.now row.lastPassAt (by omega)
    (get_add ..) ((List.getElem?_append_left (by omega)).trans hkt)
  unfold Apart at happart
  omega

theorem not_lasting (h : Kept w s) (hno : ¬ KeepsWindow w s op) (hm : Moves w s op t) : ¬ Lasting w t := by
  cases hm with
  | free _ _ | started _ | read _ | rejected _ _ | elapsed | elsewhere _ => exact absurd trivial hno
  | @stopped i run existing stdout hi hinside =>
      refine absurd ((keepsWindow_test_iff hi).2 fun hnone => ?_) hno
      obtain ⟨row, hrow, hlt⟩ := hinside
      have hage := cooldownTest_eq_none_iff.1 hnone row hrow
      exact absurd hage (Int.not_le.2 hlt)
  | passed hi hnone =>
      rw [keepsWindow_test_iff hi] at hno
      exact not_lasting_of_test h.lawful hi fun hall => hno fun _ => hall
  | upserted hi =>
      rw [keepsWindow_upsert_iff hi] at hno
      intro hl
      refine hno fun row hrow hnewer => ?_
      by_contra hyoung
      exact not_lasting_of_upsert h hi hrow hnewer (Int.not_le.1 hyoung) hl

theorem keeps_of_idle (h : cooldownStep w s op = none) : KeepsWindow w s op := by
  cases op with
  | test i =>
      rw [cooldownStep] at h
      rw [KeepsWindow]
      cases hi : s.executions[i]? with
      | none => trivial
      | some e =>
          cases e with
          | testing run existing =>
              rw [hi] at h
              dsimp only at h
              split at h <;> cases h
          | reading _ | stamping _ _ | passed _ | stopped _ _ | thrown => trivial
  | upsert i =>
      rw [KeepsWindow]
      cases hi : s.executions[i]? with
      | none => trivial
      | some e =>
          cases e with
          | stamping run stamp =>
              rw [step_upsert hi] at h
              cases h
          | reading _ | testing _ _ | passed _ | stopped _ _ | thrown => trivial
  | start _ | read _ | reject _ | elapse _ | elsewhere _ _ _ => trivial

/-! ## The passes of a cooldown node -/

/-- **Passes are a window apart** now and for as long as the rule is kept, and every stop is within a window of a
pass, exactly along the runs that keep the rule; stops are so along every run. -/
theorem passes_apart_iff (w : Window) {s : CooldownState} (hs : Fresh w s) (ops : List CooldownOp) :
    ((cooldownMachine w).Along (fun _ t => Lasting w t) s ops ↔ (cooldownMachine w).Admits (KeepsWindow w) s ops) ∧
      ∀ t, Reach (cooldownMachine w) anyStep t → Stopped w t := by
  refine ⟨?_, fun t ht => ?_⟩
  · refine Machine.along_iff_admits_of (I := Kept w) (fun u op => keeps_of_idle) (fun u op v hu hstep => ?_)
      (fun u op v hu hok hstep => hu.step hok (step_moves hstep)) ops s (kept_of_fresh hs)
    have hm := step_moves hstep
    refine ⟨fun hl => ?_, fun hok => (hu.step hok hm).lasting⟩
    by_contra hno
    exact not_lasting hu hno hm hl
  · exact (ht.invariant (fun u hu => lawful_of_fresh hu)
      fun u op v (hu : Lawful w u) _ hstep => hu.step (step_moves hstep)).stopped

instance decidableKeepsWindow (w : Window) (s : CooldownState) : ∀ op, Decidable (KeepsWindow w s op)
  | .test i =>
      match h : s.executions[i]? with
      | some (.testing _ _) => decidable_of_iff _ (keepsWindow_test_iff h).symm
      | none | some (.reading _) | some (.stamping _ _) | some (.passed _) | some (.stopped _ _) | some .thrown =>
          .isTrue (by rw [KeepsWindow, h]; trivial)
  | .upsert i =>
      match h : s.executions[i]? with
      | some (.stamping _ _) => decidable_of_iff _ (keepsWindow_upsert_iff h).symm
      | none | some (.reading _) | some (.testing _ _) | some (.passed _) | some (.stopped _ _) | some .thrown =>
          .isTrue (by rw [KeepsWindow, h]; trivial)
  | .start _ | .read _ | .reject _ | .elapse _ | .elsewhere _ _ _ => .isTrue trivial

/-- A cooldown of an hour. -/
def hourly : Window := ⟨1, 1, ⟨7, 1, .cooldown, none, { NodeConfig.empty with duration := some 1, unit := some "hours" }⟩⟩

def newNode : CooldownState := ⟨⟨[], [], [], [], [], [], []⟩, 0, []⟩

theorem fresh_newNode : Fresh hourly newNode := ⟨rfl, rfl⟩

def triggered (id : ℕ) : RunRow := ⟨id, 1, 1, 1, none, .running, none, fun _ => 0, none, none, none, none⟩

/-- A second run ten minutes after the first. -/
def oneAfterTheOther : List CooldownOp :=
  [.start (triggered 1), .read 0, .test 0, .upsert 0, .elapse 600000, .start (triggered 2), .read 1, .test 1]

theorem passes_apart_oneAfterTheOther :
    (cooldownMachine hourly).Along (fun _ t => Lasting hourly t) newNode oneAfterTheOther :=
  (passes_apart_iff hourly fresh_newNode oneAfterTheOther).1.2 (by decide +kernel)

/-- Both runs read the row before either has stored its stamp. -/
def sideBySide : List CooldownOp :=
  [.start (triggered 1), .start (triggered 2), .read 0, .read 1, .test 0, .test 1, .upsert 0, .upsert 1]

theorem both_runs_pass : ¬ ∀ w s, Reach (cooldownMachine w) anyStep s → Spaced w s := by
  intro hall
  refine not_forall_reach (M := cooldownMachine hourly) fresh_newNode sideBySide ?_ (hall hourly)
  refine ⟨⟨⟨[], [], [], [], [], [], [⟨1, 1, 7, 0⟩]⟩, 0, [.passed 0, .passed 0]⟩, by with_unfolding_all rfl,
    fun hspaced => ?_⟩
  have happart : Apart hourly 0 0 := hspaced 0 1 0 0 (by decide) rfl rfl
  revert happart
  unfold Apart
  decide +kernel

end Obliance.Scenario.Cooldown

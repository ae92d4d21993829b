import Mathlib.Data.List.Infix
import Mathlib.Data.List.Induction
import Mathlib.Algebra.Ring.Int.Defs
import Mathlib.Data.Int.Order.Basic
import Mathlib.Order.Lattice
import Mathlib.Tactic.Common

/-!
# TOTP anti-replay (`services/deviceKey/stepUpProof.ts`)

`acceptTotpStep` keeps two columns per user, the newest accepted step and the session it was
accepted for. A run is a list of calls, each of them one atomic `UPDATE`.

* `acceptRow_true` : the two ways a call is accepted, a step above the newest one or a reuse;
* `acceptances_le` : every accepted step is at most the stored one;
* `one_session_per_step_iff` : two sessions never share a step exactly when no call reuses a step
  another session consumed; strict acceptances and the stored step need no condition.
-/

namespace Obliance.StepUp

/-- 'stepup' mode: a step already used in the same session stays reusable while it is at most this
many steps behind the newest accepted one. -/
def stepupReuseSteps : ℤ := 4

/-- `Number.isSafeInteger` on an integer. -/
def isSafeInteger (n : ℤ) : Bool := decide (-(2 ^ 53 - 1) ≤ n ∧ n ≤ 2 ^ 53 - 1)

inductive StepMode where
  | strict
  | stepup
  deriving DecidableEq, Repr

/-- The columns `totp_last_step` and `totp_last_session` of a `users` row (`none` is NULL). -/
structure TotpRow (H : Type) where
  lastStep : Option ℤ
  lastSession : Option H
  deriving DecidableEq, Repr

/-- One call of `acceptTotpStep`. -/
structure TotpCall (H : Type) where
  userId : ℕ
  step : ℤ
  sessionHash : H
  mode : StepMode
  deriving DecidableEq, Repr

/-- The `users` table, by id. -/
abbrev Users (H : Type) := ℕ → Option (TotpRow H)

variable {H : Type} [DecidableEq H]

/-- `totp_last_step IS NULL OR totp_last_step < ?` -/
def TotpRow.isNewer (r : TotpRow H) (step : ℤ) : Bool :=
  match r.lastStep with
  | none => true
  | some last => decide (last < step)

/-- `totp_last_session = ? AND ? >= totp_last_step - ?` (a NULL on either side is not true). -/
def TotpRow.isReuse (r : TotpRow H) (step : ℤ) (sessionHash : H) : Bool :=
  match r.lastStep with
  | none => false
  | some last => decide (r.lastSession = some sessionHash ∧ last - stepupReuseSteps ≤ step)

/-- The row part of `acceptTotpStep`: whether the `UPDATE` hit the row, and the row afterwards. -/
def acceptRow (r : TotpRow H) (step : ℤ) (sessionHash : H) (mode : StepMode) : Bool × TotpRow H :=
  if !isSafeInteger step || decide (step ≤ 0) then (false, r)
  else match mode with
    | .strict =>
        if r.isNewer step then (true, ⟨some step, some sessionHash⟩) else (false, r)
    | .stepup =>
        if r.isNewer step || r.isReuse step sessionHash then
          (true, { lastSession := if r.isNewer step then some sessionHash else r.lastSession
                   lastStep := some (max (r.lastStep.getD step) step) })
        else (false, r)

def acceptTotpStep (users : Users H) (c : TotpCall H) : Bool × Users H :=
  match users c.userId with
  | none => (false, users)
  | some r =>
      ((acceptRow r c.step c.sessionHash c.mode).1,
        Function.update users c.userId (some (acceptRow r c.step c.sessionHash c.mode).2))

/-- The table after the calls, in order. -/
def after (users : Users H) (cs : List (TotpCall H)) : Users H :=
  cs.foldl (fun u c => (acceptTotpStep u c).2) users

/-- The accepted calls, in order. -/
def acceptances : Users H → List (TotpCall H) → List (TotpCall H)
  | _, [] => []
  | users, c :: cs =>
      if (acceptTotpStep users c).1 then c :: acceptances (acceptTotpStep users c).2 cs
      else acceptances (acceptTotpStep users c).2 cs

theorem after_append (users : Users H) (cs ds : List (TotpCall H)) :
    after users (cs ++ ds) = after (after users cs) ds :=
  List.foldl_append

theorem acceptances_append (users : Users H) (cs ds : List (TotpCall H)) :
    acceptances users (cs ++ ds) = acceptances users cs ++ acceptances (after users cs) ds := by
  induction cs generalizing users with
  | nil => rfl
  | cons c cs ih =>
      simp only [List.cons_append, acceptances, after, List.foldl_cons]
      rw [ih]
      split <;> rfl

theorem acceptances_snoc (users : Users H) (cs : List (TotpCall H)) (c : TotpCall H) :
    acceptances users (cs ++ [c]) =
      acceptances users cs ++ if (acceptTotpStep (after users cs) c).1 then [c] else [] := by
  rw [acceptances_append]
  simp only [acceptances]

/-! ## What one call can do -/

omit [DecidableEq H] in
theorem isNewer_iff (r : TotpRow H) (step : ℤ) :
    r.isNewer step = true ↔ ∀ last, r.lastStep = some last → last < step := by
  unfold TotpRow.isNewer
  split <;> rename_i h <;> simp [h]

theorem acceptRow_false (r : TotpRow H) (step : ℤ) (h : H) (mode : StepMode)
    (hr : (acceptRow r step h mode).1 = false) : (acceptRow r step h mode).2 = r := by
  cases mode with
  | strict =>
      simp only [acceptRow] at hr ⊢
      split_ifs at hr ⊢ <;> rfl
  | stepup =>
      simp only [acceptRow] at hr ⊢
      split_ifs at hr ⊢ <;> rfl

/-- An accepted call names a step above the newest one, which it becomes, or reuses a step of its
own session and changes nothing. -/
theorem acceptRow_true (r : TotpRow H) (step : ℤ) (h : H) (mode : StepMode)
    (hr : (acceptRow r step h mode).1 = true) :
    (r.isNewer step = true ∧ (acceptRow r step h mode).2 = ⟨some step, some h⟩) ∨
      (r.isNewer step = false ∧ r.isReuse step h = true ∧ mode = .stepup ∧
        (acceptRow r step h mode).2 = r) := by
  cases mode with
  | strict =>
      simp only [acceptRow] at hr ⊢
      split_ifs at hr ⊢ with hbad hn
      exact .inl ⟨hn, rfl⟩
  | stepup =>
      simp only [acceptRow] at hr ⊢
      split_ifs at hr ⊢ with hbad hor hn
      · refine .inl ⟨hn, ?_⟩
        have hmax : max (r.lastStep.getD step) step = step := by
          cases hl : r.lastStep with
          | none => simp
          | some last => simpa using ((isNewer_iff r step).1 hn last hl).le
        rw [hmax]
      · have hn' : r.isNewer step = false := by simpa using hn
        have hre : r.isReuse step h = true := by simpa [hn'] using hor
        refine .inr ⟨hn', hre, trivial, ?_⟩
        obtain ⟨last, hl⟩ : ∃ last, r.lastStep = some last := by
          cases hl : r.lastStep with
          | none => simp [TotpRow.isNewer, hl] at hn'
          | some last => exact ⟨last, rfl⟩
        have hle : step ≤ last := by simpa [TotpRow.isNewer, hl] using hn'
        have hmax : max (r.lastStep.getD step) step = last := by simpa [hl] using hle
        rw [hmax, ← hl]

theorem acceptTotpStep_other (users : Users H) (c : TotpCall H) {u : ℕ} (hu : u ≠ c.userId) :
    (acceptTotpStep users c).2 u = users u := by
  unfold acceptTotpStep
  split
  · rfl
  · exact Function.update_of_ne hu _ _

theorem acceptTotpStep_self (users : Users H) (c : TotpCall H) {r : TotpRow H}
    (hr : users c.userId = some r) :
    (acceptTotpStep users c).1 = (acceptRow r c.step c.sessionHash c.mode).1 ∧
      (acceptTotpStep users c).2 c.userId = some (acceptRow r c.step c.sessionHash c.mode).2 := by
  unfold acceptTotpStep
  rw [hr]
  exact ⟨rfl, Function.update_self _ _ _⟩

/-! ## The stored step -/

/-- `totp_last_step` of the user is at least `step`. -/
def AtLeast (users : Users H) (u : ℕ) (step : ℤ) : Prop :=
  ∃ r last, users u = some r ∧ r.lastStep = some last ∧ step ≤ last

/-- **`totp_last_step` never decreases.** -/
theorem AtLeast.step {users : Users H} {u : ℕ} {step : ℤ} (h : AtLeast users u step)
    (c : TotpCall H) : AtLeast (acceptTotpStep users c).2 u step := by
  obtain ⟨r, last, hr, hl, hle⟩ := h
  by_cases hu : u = c.userId
  · subst hu
    obtain ⟨-, hrow⟩ := acceptTotpStep_self users c hr
    cases hok : (acceptRow r c.step c.sessionHash c.mode).1 with
    | false =>
        rw [acceptRow_false _ _ _ _ hok] at hrow
        exact ⟨r, last, hrow, hl, hle⟩
    | true =>
        rcases acceptRow_true _ _ _ _ hok with ⟨hn, he⟩ | ⟨-, -, -, he⟩
        · rw [he] at hrow
          exact ⟨_, c.step, hrow, rfl, hle.trans ((isNewer_iff r _).1 hn last hl).le⟩
        · rw [he] at hrow
          exact ⟨r, last, hrow, hl, hle⟩
  · exact ⟨r, last, (acceptTotpStep_other users c hu).trans hr, hl, hle⟩

/-- The step of an accepted call is at most the stored one right after it. -/
theorem atLeast_of_accepted (users : Users H) (c : TotpCall H)
    (hok : (acceptTotpStep users c).1 = true) :
    AtLeast (acceptTotpStep users c).2 c.userId c.step := by
  cases hr : users c.userId with
  | none => simp [acceptTotpStep, hr] at hok
  | some r =>
      obtain ⟨h1, hrow⟩ := acceptTotpStep_self users c hr
      rw [h1] at hok
      rcases acceptRow_true _ _ _ _ hok with ⟨-, he⟩ | ⟨hn, -, -, he⟩
      · rw [he] at hrow
        exact ⟨_, c.step, hrow, rfl, le_rfl⟩
      · rw [he] at hrow
        cases hl : r.lastStep with
        | none => simp [TotpRow.isNewer, hl] at hn
        | some last => exact ⟨r, last, hrow, hl, by simpa [TotpRow.isNewer, hl] using hn⟩

/-- Every step accepted so far is at most the stored one. -/
theorem acceptances_le (users : Users H) (cs : List (TotpCall H)) :
    ∀ c ∈ acceptances users cs, AtLeast (after users cs) c.userId c.step := by
  induction cs using List.reverseRecOn with
  | nil => intro c hc; cases hc
  | append_singleton cs d ih =>
      intro c hc
      rw [acceptances_snoc] at hc
      have hlast : after users (cs ++ [d]) = (acceptTotpStep (after users cs) d).2 := by
        rw [after_append]; rfl
      rw [hlast]
      rcases List.mem_append.1 hc with hc | hc
      · exact (ih c hc).step d
      · split_ifs at hc with hok
        · rw [List.mem_singleton.1 hc]
          exact atLeast_of_accepted _ _ hok
        · cases hc

/-! ## The law over a whole run -/

/-- The call takes the second disjunct of the step-up `WHERE`: its own session already holds the
row, and the step is not above the newest one but inside the reuse window. -/
def Reuses (users : Users H) (c : TotpCall H) : Prop :=
  c.mode = .stepup ∧ isSafeInteger c.step = true ∧ 0 < c.step ∧
    ∃ r, users c.userId = some r ∧ r.isNewer c.step = false ∧
      r.isReuse c.step c.sessionHash = true

theorem Reuses.accepted {users : Users H} {c : TotpCall H} (h : Reuses users c) :
    (acceptTotpStep users c).1 = true := by
  obtain ⟨hm, hs, hpos, r, hr, hn, hre⟩ := h
  rw [(acceptTotpStep_self users c hr).1, hm]
  simp [acceptRow, hs, hn, hre, hpos.not_ge]

/-- An accepted call that is not a reuse names a step above the newest one. -/
theorem isNewer_of_not_reuses {users : Users H} {c : TotpCall H} {r : TotpRow H}
    (hr : users c.userId = some r) (hok : (acceptTotpStep users c).1 = true)
    (hre : ¬ Reuses users c) : r.isNewer c.step = true := by
  rw [(acceptTotpStep_self users c hr).1] at hok
  have hvalid : isSafeInteger c.step = true ∧ 0 < c.step := by
    by_contra hbad
    have : (!isSafeInteger c.step || decide (c.step ≤ 0)) = true := by
      rw [Bool.or_eq_true, Bool.not_eq_true', decide_eq_true_eq, ← not_lt]
      by_cases hs : isSafeInteger c.step = true
      · exact .inr fun hpos => hbad ⟨hs, hpos⟩
      · exact .inl (by simpa using hs)
    simp only [acceptRow, this, if_true] at hok
    cases hok
  rcases acceptRow_true _ _ _ _ hok with ⟨hn, -⟩ | ⟨hn, hru, hm, -⟩
  · exact hn
  · exact absurd ⟨hm, hvalid.1, hvalid.2, r, hr, hn, hru⟩ hre

/-- No two accepted calls of a user give one step to two sessions. -/
def OneSessionPerStep (accepted : List (TotpCall H)) : Prop :=
  ∀ c ∈ accepted, ∀ d ∈ accepted, c.userId = d.userId → c.step = d.step →
    c.sessionHash = d.sessionHash

/-- No call of the run reuses a step that an earlier call consumed for another session. -/
def ReusesOwnSteps (users : Users H) (cs : List (TotpCall H)) : Prop :=
  ∀ pre c, pre ++ [c] <+: cs → Reuses (after users pre) c →
    ∀ d ∈ acceptances users pre, d.userId = c.userId → d.step = c.step →
      d.sessionHash = c.sessionHash

/-- A strict acceptance is given only to a step that no earlier call accepted. -/
def StrictStepsFresh (users : Users H) (cs : List (TotpCall H)) : Prop :=
  ∀ pre c, pre ++ [c] <+: cs → c.mode = .strict → (acceptTotpStep (after users pre) c).1 = true →
    ∀ d ∈ acceptances users pre, d.userId = c.userId → d.step ≠ c.step

/-- The stored step of every user only grows along the run. -/
def LastStepGrows (users : Users H) (cs : List (TotpCall H)) : Prop :=
  ∀ pre c, pre ++ [c] <+: cs → ∀ u r last, after users pre u = some r → r.lastStep = some last →
    AtLeast (after users (pre ++ [c])) u last

/-- A call accepted without a reuse names a step above every step accepted before. -/
theorem step_fresh_of_not_reuses (users : Users H) (pre : List (TotpCall H)) (c : TotpCall H)
    (hok : (acceptTotpStep (after users pre) c).1 = true) (hre : ¬ Reuses (after users pre) c) :
    ∀ d ∈ acceptances users pre, d.userId = c.userId → d.step < c.step := by
  intro d hd hu
  obtain ⟨r, last, hr, hl, hle⟩ := acceptances_le users pre d hd
  rw [hu] at hr
  exact lt_of_le_of_lt hle ((isNewer_iff r _).1 (isNewer_of_not_reuses hr hok hre) last hl)

theorem strictStepsFresh (users : Users H) (cs : List (TotpCall H)) : StrictStepsFresh users cs := by
  intro pre c _ hmode hok d hd hu
  refine (step_fresh_of_not_reuses users pre c hok ?_ d hd hu).ne
  rintro ⟨hm, -⟩
  rw [hmode] at hm
  cases hm

theorem lastStepGrows (users : Users H) (cs : List (TotpCall H)) : LastStepGrows users cs := by
  intro pre c _ u r last hr hl
  rw [after_append]
  exact AtLeast.step ⟨r, last, hr, hl, le_rfl⟩ c

theorem reusesOwnSteps_snoc (users : Users H) (cs : List (TotpCall H)) (c : TotpCall H) :
    ReusesOwnSteps users (cs ++ [c]) ↔ ReusesOwnSteps users cs ∧
      (Reuses (after users cs) c → ∀ d ∈ acceptances users cs, d.userId = c.userId →
        d.step = c.step → d.sessionHash = c.sessionHash) := by
  constructor
  · intro h
    exact ⟨fun pre d hp => h pre d (hp.trans (List.prefix_append _ _)), h cs c List.prefix_rfl⟩
  · rintro ⟨h, hc⟩ pre d hp
    rcases List.prefix_concat_iff.1 hp with he | hp
    · obtain ⟨rfl, hd⟩ := List.append_inj' he rfl
      rw [List.singleton_inj.1 hd]
      exact hc
    · exact h pre d hp

omit [DecidableEq H] in
theorem oneSessionPerStep_snoc (acc : List (TotpCall H)) (c : TotpCall H) :
    OneSessionPerStep (acc ++ [c]) ↔ OneSessionPerStep acc ∧
      ∀ d ∈ acc, d.userId = c.userId → d.step = c.step → d.sessionHash = c.sessionHash := by
  simp only [OneSessionPerStep, List.mem_append, List.mem_singleton]
  constructor
  · intro h
    exact ⟨fun a ha b hb => h a (.inl ha) b (.inl hb), fun d hd => h d (.inl hd) c (.inr rfl)⟩
  · rintro ⟨h, hc⟩ a (ha | rfl) b (hb | rfl) hu hs
    · exact h a ha b hb hu hs
    · exact hc a ha hu hs
    · exact (hc b hb hu.symm hs.symm).symm
    · rfl

/-- Two sessions never share an accepted step exactly when no reuse hits a step of another session. -/
theorem oneSessionPerStep_iff (users : Users H) (cs : List (TotpCall H)) :
    OneSessionPerStep (acceptances users cs) ↔ ReusesOwnSteps users cs := by
  induction cs using List.reverseRecOn with
  | nil =>
      refine ⟨fun _ pre c hp => ?_, fun _ c hc => by cases hc⟩
      simp at hp
  | append_singleton cs c ih =>
      rw [acceptances_snoc, reusesOwnSteps_snoc]
      by_cases hok : (acceptTotpStep (after users cs) c).1 = true
      · rw [if_pos hok, oneSessionPerStep_snoc, ih, and_congr_right_iff]
        intro _
        by_cases hre : Reuses (after users cs) c
        · exact ⟨fun h _ => h, fun h => h hre⟩
        · -- not a reuse: the step is new, so nothing is asked on either side
          refine ⟨fun _ h => absurd h hre, fun _ d hd hu hs => ?_⟩
          exact absurd hs (step_fresh_of_not_reuses users cs c hok hre d hd hu).ne
      · rw [if_neg hok, List.append_nil, ih]
        exact ⟨fun h => ⟨h, fun hre => absurd hre.accepted hok⟩, And.left⟩

/-- **TOTP anti-replay over every run of calls.** -/
theorem one_session_per_step_iff (users : Users H) (cs : List (TotpCall H)) :
    (OneSessionPerStep (acceptances users cs) ↔ ReusesOwnSteps users cs) ∧
      StrictStepsFresh users cs ∧ LastStepGrows users cs :=
  ⟨oneSessionPerStep_iff users cs, strictStepsFresh users cs, lastStepGrows users cs⟩

/-- Session `2` takes the row over at step 12 and is then given step 10, which session `1` used. -/
theorem older_step_shared_by_two_sessions :
    ¬ ∀ (users : Users ℕ) (cs : List (TotpCall ℕ)), OneSessionPerStep (acceptances users cs) := by
  intro h
  have hacc : acceptances (fun _ => some ⟨none, none⟩)
      [⟨7, 10, 1, .stepup⟩, ⟨7, 12, 2, .stepup⟩, ⟨7, 10, 2, .stepup⟩] =
        [⟨7, 10, 1, .stepup⟩, ⟨7, 12, 2, .stepup⟩, (⟨7, 10, 2, .stepup⟩ : TotpCall ℕ)] := by
    decide
  have h2 := h (fun _ => some ⟨none, none⟩)
    [⟨7, 10, 1, .stepup⟩, ⟨7, 12, 2, .stepup⟩, ⟨7, 10, 2, .stepup⟩]
  rw [hacc] at h2
  have := h2 ⟨7, 10, 1, .stepup⟩ (by simp) ⟨7, 10, 2, .stepup⟩ (by simp) rfl rfl
  simp at this

end Obliance.StepUp

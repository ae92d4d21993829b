import Mathlib.Data.List.Basic

/-!
# Runs of a labelled machine, with a guard on its steps

* `Machine σ α` : the initial states and a partial step `σ → α → Option σ`;
* `Reach M ok s` : `s` is reached by steps that all meet the guard `ok` (a condition on the state
  before the step and the label); `Reach.mono` weakens a guard, `Reach.invariant` is the induction;
* `M.exec s as` : the labels `as` executed in order; `Reach.of_exec`, `reach_of_exec`, `not_forall_reach`;
* `M.startingAt s` : the runs that go on from `s`;
* `M.Along R s as` : every step of the run relates its states by `R`; `along_iff_admits` when the steps that
  do so are those that meet a guard.
-/

namespace GuardedRun

universe u v
variable {σ : Type u} {α : Type v}

/-- A labelled machine: `step s a = none` when `a` is not enabled in `s`. -/
structure Machine (σ : Type u) (α : Type v) where
  init : σ → Prop
  step : σ → α → Option σ

/-- The guard that allows every step. -/
abbrev anyStep : σ → α → Prop := fun _ _ => True

/-- The states reached by runs all of whose steps meet `ok`. -/
inductive Reach (M : Machine σ α) (ok : σ → α → Prop) : σ → Prop
  | start {s : σ} : M.init s → Reach M ok s
  | next {s t : σ} (a : α) : Reach M ok s → ok s a → M.step s a = some t → Reach M ok t

/-- A property of the initial states that every guarded step keeps holds in every reached state. -/
theorem Reach.invariant {M : Machine σ α} {ok : σ → α → Prop} {I : σ → Prop}
    (hinit : ∀ s, M.init s → I s)
    (hstep : ∀ s a t, I s → ok s a → M.step s a = some t → I t) {s : σ} (h : Reach M ok s) : I s := by
  induction h with
  | start h0 => exact hinit _ h0
  | next a _ hok hs ih => exact hstep _ a _ ih hok hs

theorem Reach.mono {M : Machine σ α} {ok ok' : σ → α → Prop} (hok : ∀ s a, ok s a → ok' s a) {s : σ}
    (h : Reach M ok s) : Reach M ok' s := by
  induction h with
  | start h0 => exact .start h0
  | next a _ ha hs ih => exact .next a ih (hok _ a ha) hs

namespace Machine

/-- The labels executed in order, `none` as soon as one is not enabled. -/
def exec (M : Machine σ α) : σ → List α → Option σ
  | s, [] => some s
  | s, a :: as => (M.step s a).bind fun t => M.exec t as

/-- The machine with `s` as its only initial state. -/
def startingAt (M : Machine σ α) (s : σ) : Machine σ α := ⟨(· = s), M.step⟩

/-- Every label of the run meets the guard in the state it is executed in. -/
def Admits (M : Machine σ α) (ok : σ → α → Prop) : σ → List α → Prop
  | _, [] => True
  | s, a :: as => ok s a ∧ ∀ t, M.step s a = some t → M.Admits ok t as

/-- A guard that can be checked can be checked along a run. -/
instance decidableAdmits (M : Machine σ α) (ok : σ → α → Prop) [∀ s a, Decidable (ok s a)] :
    ∀ (s : σ) (as : List α), Decidable (M.Admits ok s as)
  | _, [] => .isTrue trivial
  | s, a :: as =>
      have (t : σ) : Decidable (M.Admits ok t as) := decidableAdmits M ok t as
      inferInstanceAs (Decidable (ok s a ∧ ∀ t ∈ M.step s a, M.Admits ok t as))

/-- Every step of the run relates the states before and after it. -/
def Along (M : Machine σ α) (R : σ → σ → Prop) : σ → List α → Prop
  | _, [] => True
  | s, a :: as => ∀ t, M.step s a = some t → R s t ∧ M.Along R t as

@[simp] theorem exec_nil (M : Machine σ α) (s : σ) : M.exec s [] = some s := rfl

theorem exec_cons (M : Machine σ α) (s : σ) (a : α) (as : List α) :
    M.exec s (a :: as) = (M.step s a).bind fun t => M.exec t as := rfl

/-- Where an invariant that the guarded steps keep makes the relation and the guard agree. -/
theorem along_iff_admits_of {M : Machine σ α} {R : σ → σ → Prop} {ok : σ → α → Prop} {I : σ → Prop}
    (hidle : ∀ s a, M.step s a = none → ok s a)
    (hstep : ∀ s a t, I s → M.step s a = some t → (R s t ↔ ok s a))
    (hkeep : ∀ s a t, I s → ok s a → M.step s a = some t → I t) :
    ∀ (as : List α) (s : σ), I s → (M.Along R s as ↔ M.Admits ok s as) := by
  intro as
  induction as with
  | nil => exact fun s _ => Iff.rfl
  | cons a as ih =>
      intro s hs
      constructor
      · intro h
        have hok : ok s a := by
          cases ht : M.step s a with
          | none => exact hidle s a ht
          | some t => exact (hstep s a t hs ht).1 (h t ht).1
        exact ⟨hok, fun t ht => (ih t (hkeep s a t hs hok ht)).1 (h t ht).2⟩
      · rintro ⟨hok, h⟩ t ht
        exact ⟨(hstep s a t hs ht).2 hok, (ih t (hkeep s a t hs hok ht)).2 (h t ht)⟩

theorem along_iff_admits {M : Machine σ α} {R : σ → σ → Prop} {ok : σ → α → Prop}
    (hidle : ∀ s a, M.step s a = none → ok s a) (hstep : ∀ s a t, M.step s a = some t → (R s t ↔ ok s a))
    (as : List α) (s : σ) : M.Along R s as ↔ M.Admits ok s as :=
  along_iff_admits_of (I := fun _ => True) hidle (fun s a t _ => hstep s a t) (fun _ _ _ _ _ _ => trivial) as s
    trivial

end Machine

theorem Reach.of_exec {M : Machine σ α} {ok : σ → α → Prop} {s t : σ} (h : Reach M ok s) :
    ∀ as : List α, M.Admits ok s as → M.exec s as = some t → Reach M ok t := by
  intro as
  induction as generalizing s with
  | nil =>
      intro _ he
      rw [Machine.exec_nil, Option.some.injEq] at he
      exact he ▸ h
  | cons a as ih =>
      intro hok he
      rw [Machine.exec_cons, Option.bind_eq_some_iff] at he
      obtain ⟨u, hu, he⟩ := he
      exact ih (h.next a hok.1 hu) (hok.2 u hu) he

theorem admits_anyStep (M : Machine σ α) : ∀ (as : List α) (s : σ), M.Admits anyStep s as
  | [], _ => trivial
  | _ :: as, _ => ⟨trivial, fun t _ => admits_anyStep M as t⟩

/-- An executed run from an initial state reaches its last state. -/
theorem reach_of_exec {M : Machine σ α} {s t : σ} (h : M.init s) (as : List α)
    (he : M.exec s as = some t) : Reach M anyStep t :=
  (Reach.start h).of_exec as (admits_anyStep M as s) he

/-- A run that ends where `P` does not hold. -/
theorem not_forall_reach {M : Machine σ α} {P : σ → Prop} {s : σ} (h : M.init s) (as : List α)
    (he : ∃ t ∈ M.exec s as, ¬ P t) : ¬ ∀ t, Reach M anyStep t → P t := by
  obtain ⟨t, ht, hP⟩ := he
  exact fun hall => hP (hall t (reach_of_exec h as ht))

end GuardedRun

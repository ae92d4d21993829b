import Mathlib.Data.List.Induction
import Obliance.Lib.GuardedRun

/-!
# What was observed during a run

* `M.Seen view s as b` : `view` gave `b` at some moment of the run `as` from `s`, its first state included;
* `seen_append` : what one more step adds;
* `exec_observed` : the induction for invariants that speak of what was observed so far.
-/

namespace GuardedRun.Machine

universe u v w
variable {σ : Type u} {α : Type v} {β : Type w} {M : Machine σ α} {view : σ → β} {s t : σ}

theorem exec_append (M : Machine σ α) (s : σ) (as bs : List α) :
    M.exec s (as ++ bs) = (M.exec s as).bind fun t => M.exec t bs := by
  induction as generalizing s with
  | nil => rfl
  | cons a as ih =>
      rw [List.cons_append, exec_cons, exec_cons, Option.bind_assoc]
      exact Option.bind_congr fun u _ => ih u

/-- What `view` gave at some moment of the run. -/
def Seen (M : Machine σ α) (view : σ → β) (s : σ) (as : List α) (b : β) : Prop :=
  ∃ past, past <+: as ∧ ∃ t, M.exec s past = some t ∧ view t = b

theorem seen_nil (b : β) : M.Seen view s [] b ↔ b = view s := by
  constructor
  · rintro ⟨past, hpast, t, ht, rfl⟩
    obtain rfl := List.prefix_nil.1 hpast
    rw [exec_nil, Option.some.injEq] at ht
    rw [ht]
  · rintro rfl
    exact ⟨[], List.prefix_rfl, s, rfl, rfl⟩

theorem seen_append {as : List α} {a : α} {u : σ} (hu : M.exec s as = some u) (ht : M.step u a = some t) (b : β) :
    M.Seen view s (as ++ [a]) b ↔ M.Seen view s as b ∨ b = view t := by
  have hlast : M.exec s (as ++ [a]) = some t := by
    rw [exec_append, hu, Option.bind_some, exec_cons, ht]
    rfl
  constructor
  · rintro ⟨past, hpast, u', hu', rfl⟩
    rcases List.prefix_concat_iff.1 hpast with rfl | hpast
    · rw [hlast, Option.some.injEq] at hu'
      exact .inr (hu' ▸ rfl)
    · exact .inl ⟨past, hpast, u', hu', rfl⟩
  · rintro (⟨past, hpast, u', hu', rfl⟩ | rfl)
    · exact ⟨past, hpast.trans (List.prefix_append ..), u', hu', rfl⟩
    · exact ⟨as ++ [a], List.prefix_rfl, t, hlast, rfl⟩

/-- An invariant of what was observed so far and the state. -/
theorem exec_observed {I : (β → Prop) → σ → Prop} (hstart : I (· = view s) s)
    (hstep : ∀ P u a t, P (view u) → I P u → M.step u a = some t → I (fun b => P b ∨ b = view t) t) (as : List α)
    (ht : M.exec s as = some t) : I (M.Seen view s as) t := by
  have hnow : M.Seen view s as (view t) ∧ I (M.Seen view s as) t := by
    induction as using List.reverseRecOn generalizing t with
    | nil =>
        rw [exec_nil, Option.some.injEq] at ht
        subst ht
        refine ⟨(seen_nil _).2 rfl, ?_⟩
        rw [show M.Seen view s [] = (· = view s) from funext fun b => propext (seen_nil b)]
        exact hstart
    | append_singleton as a ih =>
        rw [exec_append, Option.bind_eq_some_iff] at ht
        obtain ⟨u, hu, ht⟩ := ht
        rw [exec_cons, Option.bind_eq_some_iff] at ht
        obtain ⟨t', ht', hlast⟩ := ht
        rw [exec_nil, Option.some.injEq] at hlast
        subst hlast
        obtain ⟨hseen, hI⟩ := ih hu
        refine ⟨(seen_append hu ht' _).2 (.inr rfl), ?_⟩
        rw [show M.Seen view s (as ++ [a]) = fun b => M.Seen view s as b ∨ b = view t' from
          funext fun b => propext (seen_append hu ht' b)]
        exact hstep _ u a t' hseen hI ht'
  exact hnow.2

end GuardedRun.Machine

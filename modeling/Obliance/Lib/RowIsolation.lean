import Mathlib.Data.List.Basic

/-!
# Which rows of a table an answer depends on

* `Agree p t t'` : the two tables have the same rows where `p` holds, in the same order;
* `Isolated p f t` : at `t`, the answer `f` is the same for every table that agrees on `p`;
* `not_isolated_of_insert` : one inserted row outside `p` that changes the answer refutes isolation;
* `isolated_any_iff` : when the answer is whether some row satisfies a test.
-/

namespace RowIsolation

universe u v
variable {α : Type u} {β : Type v}

def Agree (p : α → Bool) (t t' : List α) : Prop := t.filter p = t'.filter p

def Isolated (p : α → Bool) (f : List α → β) (t : List α) : Prop := ∀ t', Agree p t t' → f t' = f t

theorem Agree.refl (p : α → Bool) (t : List α) : Agree p t t := rfl

theorem Agree.trans {p : α → Bool} {t t' t'' : List α} (h : Agree p t t') (h' : Agree p t' t'') :
    Agree p t t'' := Eq.trans h h'

/-- Agreement passes to every selection inside `p`. -/
theorem Agree.of_imp {p q : α → Bool} {t t' : List α} (h : Agree p t t')
    (hqp : ∀ r, q r = true → p r = true) : Agree q t t' := by
  have hq : ∀ l : List α, (l.filter p).filter q = l.filter q := by
    intro l
    rw [List.filter_filter]
    refine List.filter_congr fun r _ => ?_
    cases hr : q r with
    | false => rfl
    | true => rw [hqp r hr]; rfl
  rw [Agree, ← hq t, ← hq t', h]

theorem agree_insert {p : α → Bool} {r : α} (hr : p r = false) (t : List α) :
    Agree p t (t ++ [r]) := by
  rw [Agree, List.filter_append, List.filter_singleton, hr]
  simp

/-- A table agrees with its `p` rows alone. -/
theorem agree_filter (p : α → Bool) (t : List α) : Agree p t (t.filter p) := by
  rw [Agree, List.filter_filter]
  exact List.filter_congr fun _ _ => (Bool.and_self _).symm

theorem not_isolated_of_insert {p : α → Bool} {f : List α → β} {t : List α} (r : α)
    (hr : p r = false) (hne : f (t ++ [r]) ≠ f t) : ¬ Isolated p f t :=
  fun h => hne (h _ (agree_insert hr t))

/-- Whether some row satisfies `q` is independent of the rows outside `p`, when such a row could
satisfy `q`, exactly when a row of `p` already does. -/
theorem isolated_any_iff {p q : α → Bool} {t : List α} (r : α) (hr : p r = false) (hq : q r = true) :
    Isolated p (fun t => t.any q) t ↔ (t.filter p).any q = true := by
  constructor
  · intro h
    -- the rows of `p` alone, and the same with `r`, give the same answer
    have h1 := h _ (agree_filter p t)
    have h2 := h _ ((agree_filter p t).trans (agree_insert hr _))
    simp only [List.any_append, List.any_cons, hq, List.any_nil, Bool.or_false, Bool.or_true] at h1 h2
    rw [h1, ← h2]
  · intro h t' hag
    have hmono : ∀ l : List α, (l.filter p).any q = true → l.any q = true := fun l hl => by
      obtain ⟨x, hx, hxq⟩ := List.any_eq_true.1 hl
      exact List.any_eq_true.2 ⟨x, List.mem_of_mem_filter hx, hxq⟩
    change t'.any q = t.any q
    rw [hmono t h, hmono t' (hag ▸ h)]

/-- A number that is not in the list, for the key of an inserted row. -/
def freshNat (xs : List ℕ) : ℕ := xs.foldr (fun x n => x + n) 1

theorem freshNat_pos : ∀ xs : List ℕ, 0 < freshNat xs
  | [] => Nat.one_pos
  | x :: xs => Nat.lt_of_lt_of_le (freshNat_pos xs) (Nat.le_add_left _ x)

theorem lt_freshNat {xs : List ℕ} {x : ℕ} (hx : x ∈ xs) : x < freshNat xs := by
  induction xs with
  | nil => cases hx
  | cons y xs ih =>
      rw [freshNat, List.foldr_cons]
      rcases List.mem_cons.1 hx with rfl | hx
      · exact Nat.lt_add_of_pos_right (freshNat_pos xs)
      · exact Nat.lt_of_lt_of_le (ih hx) (Nat.le_add_left _ _)

end RowIsolation

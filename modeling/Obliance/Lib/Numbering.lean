import Mathlib.Data.List.Forall2
import Mathlib.Data.List.Nodup
import Mathlib.Tactic.Common

/-!
# Elements numbered by a sequence

A loop that inserts one row for each element of a list gives the elements consecutive numbers.

* `numberOf key l n k` : the number of the element with key `k`, the first element having number `n`;
* `numberOf_bounds`, `numberOf_inj` : numbers are consecutive, and different keys have different ones;
* `numberOf_of_mem`, `numberOf_congr` : with distinct keys every element has its own, under any key;
* `forall₂_zipIdx_map` : a relation between the elements and what they are turned into.
-/

namespace Numbering

universe u v
variable {α : Type u} {κ : Type v} [DecidableEq κ] (key : α → κ)

def numberOf : List α → ℕ → κ → Option ℕ
  | [], _, _ => none
  | a :: l, n, k => if key a = k then some n else numberOf l (n + 1) k

variable {key} {l : List α} {n i : ℕ} {k k' : κ} {a : α}

theorem numberOf_isSome_iff : (numberOf key l n k).isSome ↔ ∃ a ∈ l, key a = k := by
  induction l generalizing n with
  | nil => simp [numberOf]
  | cons b l ih =>
      rw [numberOf]
      by_cases h : key b = k
      · simp [h]
      · simp [h, ih]

theorem numberOf_bounds (h : numberOf key l n k = some i) : n ≤ i ∧ i < n + l.length := by
  induction l generalizing n with
  | nil => cases h
  | cons b l ih =>
      rw [numberOf] at h
      rw [List.length_cons]
      split_ifs at h with hb
      · obtain rfl := Option.some.inj h
        omega
      · have := ih h
        omega

/-- Different keys have different numbers. -/
theorem numberOf_inj (h : numberOf key l n k = some i) (h' : numberOf key l n k' = some i) : k = k' := by
  induction l generalizing n with
  | nil => cases h
  | cons b l ih =>
      rw [numberOf] at h h'
      split_ifs at h h' with hb hb' hb'
      · exact hb.symm.trans hb'
      · obtain rfl := Option.some.inj h
        have := numberOf_bounds h'
        omega
      · obtain rfl := Option.some.inj h'
        have := numberOf_bounds h
        omega
      · exact ih h h'

/-- With distinct keys an element has the number it is listed with. -/
theorem numberOf_of_mem (hkeys : (l.map key).Nodup) (h : (a, i) ∈ l.zipIdx n) :
    numberOf key l n (key a) = some i := by
  induction l generalizing n with
  | nil => simp at h
  | cons b l ih =>
      rw [List.map_cons, List.nodup_cons] at hkeys
      rw [List.zipIdx_cons, List.mem_cons] at h
      rw [numberOf]
      rcases h with h | h
      · obtain ⟨rfl, rfl⟩ := Prod.mk.inj h
        rw [if_pos rfl]
      · have ha : a ∈ l := List.fst_mem_of_mem_zipIdx h
        have hne : key b ≠ key a := fun he => hkeys.1 (he ▸ List.mem_map_of_mem ha)
        rw [if_neg hne]
        exact ih hkeys.2 h

/-- The number of an element does not depend on the key it is looked up by. -/
theorem numberOf_congr {κ' : Type*} [DecidableEq κ'] {key' : α → κ'} (ha : a ∈ l)
    (h : ∀ b ∈ l, key b = key a ↔ key' b = key' a) :
    numberOf key l n (key a) = numberOf key' l n (key' a) := by
  induction l generalizing n with
  | nil => cases ha
  | cons b l ih =>
      rw [numberOf, numberOf]
      by_cases hb : key b = key a
      · rw [if_pos hb, if_pos ((h b (.head _)).1 hb)]
      · rw [if_neg hb, if_neg fun hb' => hb ((h b (.head _)).2 hb')]
        rcases List.mem_cons.1 ha with rfl | ha
        · exact absurd rfl hb
        · exact ih ha fun c hc => h c (.tail _ hc)

theorem numberOf_map {β : Type*} (f : β → α) (l : List β) :
    numberOf key (l.map f) n k = numberOf (key ∘ f) l n k := by
  induction l generalizing n with
  | nil => rfl
  | cons b l ih => rw [List.map_cons, numberOf, numberOf, ih, Function.comp]

omit [DecidableEq κ] in
theorem exists_mem_zipIdx (n : ℕ) (h : a ∈ l) : ∃ i, (a, i) ∈ l.zipIdx n := by
  rw [← List.zipIdx_map_fst n l] at h
  obtain ⟨p, hp, rfl⟩ := List.mem_map.1 h
  exact ⟨p.2, hp⟩

omit [DecidableEq κ] in
/-- Later elements have greater numbers. -/
theorem pairwise_zipIdx : (l.zipIdx n).Pairwise fun p q => p.2 < q.2 := by
  have hrange : (List.range' n l.length).Pairwise (· < ·) := List.pairwise_lt_range'
  rw [← List.zipIdx_map_snd] at hrange
  exact List.pairwise_map.1 hrange

omit [DecidableEq κ] in
theorem forall_zipIdx_iff {p : α → Prop} : (∀ q ∈ l.zipIdx n, p q.1) ↔ ∀ a ∈ l, p a := by
  conv_rhs => rw [← List.zipIdx_map_fst n l]
  exact List.forall_mem_map.symm

omit [DecidableEq κ] in
theorem forall₂_zipIdx_map {β : Type*} {R : α → β → Prop} {f : α × ℕ → β} :
    List.Forall₂ R l ((l.zipIdx n).map f) ↔ ∀ p ∈ l.zipIdx n, R p.1 (f p) := by
  induction l generalizing n with
  | nil => simp
  | cons b l ih => simp [List.zipIdx_cons, ih]

end Numbering

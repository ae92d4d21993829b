import Mathlib.Data.List.GetD
import Mathlib.Order.Compare
import Mathlib.Order.PiLex

/-!
# Lists compared as if a fill value went on behind their ends

* `padded` : a list as a sequence, ordered lexicographically;
* `compareFrom` : the comparison place by place, for a number of places;
* `compareFrom_eq` : over the places of both lists it is the comparison of the sequences.
-/

namespace PaddedOrder

universe u
variable {α : Type u} [LinearOrder α]

def padded (fill : α) (xs : List α) : Lex (ℕ → α) := toLex fun i => xs.getD i fill

/-- The comparison of `places` places from place `i` on. -/
def compareFrom (fill : α) (xs ys : List α) : ℕ → ℕ → Ordering
  | 0, _ => .eq
  | places + 1, i =>
      if xs.getD i fill < ys.getD i fill then .lt
      else if ys.getD i fill < xs.getD i fill then .gt
      else compareFrom fill xs ys places (i + 1)

variable {fill : α} {xs ys : List α}

theorem padded_lt {i : ℕ} (heq : ∀ j < i, xs.getD j fill = ys.getD j fill) (hlt : xs.getD i fill < ys.getD i fill) :
    padded fill xs < padded fill ys :=
  ⟨i, heq, hlt⟩

theorem compareFrom_from {places i : ℕ} (heq : ∀ j < i, xs.getD j fill = ys.getD j fill)
    (hxs : xs.length ≤ i + places) (hys : ys.length ≤ i + places) :
    compareFrom fill xs ys places i = compare (padded fill xs) (padded fill ys) := by
  induction places generalizing i with
  | zero =>
      have hsame : padded fill xs = padded fill ys := by
        refine congrArg toLex (funext fun j => ?_)
        by_cases hj : j < i
        · exact heq j hj
        · rw [List.getD_eq_default _ _ (by omega), List.getD_eq_default _ _ (by omega)]
      rw [compareFrom, hsame, compare_eq_iff_eq.2 rfl]
  | succ places ih =>
      rw [compareFrom]
      split_ifs with hlt hgt
      · exact (compare_lt_iff_lt.2 (padded_lt heq hlt)).symm
      · exact (compare_gt_iff_gt.2 (padded_lt (fun j hj => (heq j hj).symm) hgt)).symm
      · refine ih (fun j hj => ?_) (by omega) (by omega)
        rcases Nat.lt_succ_iff_lt_or_eq.1 hj with hj | rfl
        · exact heq j hj
        · exact le_antisymm (not_lt.1 hgt) (not_lt.1 hlt)

/-- Place by place up to the end of the longer list, the comparison is that of the sequences. -/
theorem compareFrom_eq :
    compareFrom fill xs ys (max xs.length ys.length) 0 = compare (padded fill xs) (padded fill ys) :=
  compareFrom_from (fun _ hj => absurd hj (Nat.not_lt_zero _)) (by omega) (by omega)

end PaddedOrder

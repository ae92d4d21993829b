import Mathlib.Algebra.Order.Field.Rat
import Mathlib.Order.WithBot
import Mathlib.Data.Option.NAry

/-!
# `Math.max` and `Math.min`

* `JsNum` : a number that may be infinite or NaN;
* `mathMax`, `mathMin` : the extremes of a list, NaN when one of its elements is;
* `foldl_map₂_iff` : a property that splits over an operation, along a fold that may meet NaN.
-/

namespace Obliance.Js

/-- `none` is NaN, `⊥` and `⊤` are the infinities. -/
abbrev JsNum := Option (WithBot (WithTop ℚ))

def JsNum.ofRat (q : ℚ) : JsNum := some ((q : WithTop ℚ) : WithBot (WithTop ℚ))

def mathMax (xs : List JsNum) : JsNum := xs.foldl (Option.map₂ max) (some ⊥)

def mathMin (xs : List JsNum) : JsNum := xs.foldl (Option.map₂ min) (some ⊤)

section Fold
variable {α : Type*} {f : α → α → α} {P : α → Prop}

theorem foldl_map₂_none (xs : List (Option α)) : xs.foldl (Option.map₂ f) none = none := by
  induction xs with
  | nil => rfl
  | cons x xs ih => exact ih

/-- A property that holds of `f x y` exactly when it holds of `x` or of `y`. -/
theorem foldl_map₂_iff (hP : ∀ x y, P (f x y) ↔ P x ∨ P y) (xs : List (Option α)) :
    ∀ a, (∃ y, xs.foldl (Option.map₂ f) (some a) = some y ∧ P y) ↔
      none ∉ xs ∧ (P a ∨ ∃ x, some x ∈ xs ∧ P x) := by
  induction xs with
  | nil => simp
  | cons x xs ih =>
      intro a
      cases x with
      | none =>
          rw [List.foldl_cons, Option.map₂_none_right, foldl_map₂_none]
          simp
      | some x =>
          rw [List.foldl_cons, Option.map₂_some_some, ih, hP]
          simp [or_assoc]

end Fold

theorem lt_mathMax_iff (xs : List JsNum) (t : WithBot (WithTop ℚ)) :
    (∃ y, mathMax xs = some y ∧ t < y) ↔ none ∉ xs ∧ ∃ x, some x ∈ xs ∧ t < x := by
  refine (foldl_map₂_iff (fun x y => lt_max_iff) xs ⊥).trans ?_
  simp

theorem mathMin_lt_iff (xs : List JsNum) (t : WithBot (WithTop ℚ)) :
    (∃ y, mathMin xs = some y ∧ y < t) ↔ none ∉ xs ∧ ∃ x, some x ∈ xs ∧ x < t := by
  refine (foldl_map₂_iff (fun x y => min_lt_iff) xs ⊤).trans ?_
  simp

end Obliance.Js

import Mathlib.Data.List.Basic

/-!
# Tasks in flight, counted

A pool is the list of the tasks in flight; a task keeps its position and is replaced by what is left
of it.

* `countP_set_add` : how the count of a kind of tasks changes when the `i`-th goes from `a` to `b`;
* `mem_flatMap_set`, `count_flatMap_set` : the same for what the tasks hold.
-/

namespace Pool

universe u
variable {τ : Type u} {pool : List τ} {i : ℕ} {a b : τ}

/-- The count before and after the `i`-th task goes from `a` to `b`. -/
theorem countP_set_add (h : pool[i]? = some a) (b : τ) (p : τ → Bool) :
    (pool.set i b).countP p + (if p a then 1 else 0) = pool.countP p + (if p b then 1 else 0) := by
  obtain ⟨hlt, rfl⟩ := List.getElem?_eq_some_iff.1 h
  rw [List.countP_set hlt]
  have hle : (if p pool[i] then 1 else 0) ≤ pool.countP p := List.boole_getElem_le_countP hlt
  omega

variable {κ : Type u}

theorem mem_flatMap_set {f : τ → List κ} {x : κ} (h : x ∈ (pool.set i b).flatMap f) :
    x ∈ pool.flatMap f ∨ x ∈ f b := by
  obtain ⟨c, hc, hx⟩ := List.mem_flatMap.mp h
  obtain hc | rfl := List.mem_or_eq_of_mem_set hc
  · exact .inl (List.mem_flatMap.mpr ⟨c, hc, hx⟩)
  · exact .inr hx

variable [DecidableEq κ]

/-- How often `x` is held before and after the `i`-th task goes from `a` to `b`. -/
theorem count_flatMap_set (h : pool[i]? = some a) (b : τ) (f : τ → List κ) (x : κ) :
    ((pool.set i b).flatMap f).count x + (f a).count x = (pool.flatMap f).count x + (f b).count x := by
  induction pool generalizing i with
  | nil => cases h
  | cons c pool ih =>
      cases i with
      | zero =>
          obtain rfl := Option.some.inj h
          simp only [List.set_cons_zero, List.flatMap_cons, List.count_append]
          omega
      | succ i =>
          have := ih h
          simp only [List.set_cons_succ, List.flatMap_cons, List.count_append]
          omega

end Pool

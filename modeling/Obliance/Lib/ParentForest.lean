import Mathlib.Logic.Function.Basic
import Mathlib.Tactic.Common

/-!
# Forests given by parents, and their closure

* `up P k d` : the node `k` parents above `d`;
* `IsClosure M P C` : `C a d k` holds exactly when `d` is a node and `a` is `k` parents above it;
* `IsClosure.acyclic` : a closure with one depth for each pair has an acyclic parent relation;
* `closure_addLeaf`, `closure_remove`, `closure_move` : the closure of the forest after a leaf is
  added, a node is removed, a subtree is moved;
* `Acyclic.mono`, `Acyclic.move_iff` : whether a change of parents closes a cycle.
-/

namespace ParentForest

universe u
variable {α : Type u} {M : α → Prop} {P : α → Option α} {C : α → α → ℕ → Prop}

def up (P : α → Option α) : ℕ → α → Option α
  | 0, d => some d
  | k + 1, d => (P d).bind (up P k)

/-- No node is above itself. -/
def Acyclic (P : α → Option α) : Prop := ∀ d k, up P (k + 1) d ≠ some d

/-- Parents of nodes are nodes, and only nodes have parents. -/
structure Closed (M : α → Prop) (P : α → Option α) : Prop where
  parent_mem : ∀ {d p}, P d = some p → M p
  of_parent : ∀ {d p}, P d = some p → M d

/-- The transitive closure, with depths. -/
def IsClosure (M : α → Prop) (P : α → Option α) (C : α → α → ℕ → Prop) : Prop :=
  ∀ a d k, C a d k ↔ M d ∧ up P k d = some a

@[simp] theorem up_zero (d : α) : up P 0 d = some d := rfl

theorem up_succ (k : ℕ) (d : α) : up P (k + 1) d = (P d).bind (up P k) := rfl

theorem up_succ_of_parent {d p : α} (h : P d = some p) (k : ℕ) : up P (k + 1) d = up P k p := by
  rw [up_succ, h, Option.bind_some]

theorem up_succ_of_root {d : α} (h : P d = none) (k : ℕ) : up P (k + 1) d = none := by
  rw [up_succ, h, Option.bind_none]

theorem up_add (j k : ℕ) (d : α) : up P (j + k) d = (up P j d).bind (up P k) := by
  induction j generalizing d with
  | zero => rw [Nat.zero_add, up_zero, Option.bind_some]
  | succ j ih =>
      rw [Nat.succ_add, up_succ, up_succ]
      cases P d with
      | none => rfl
      | some p => exact ih p

theorem up_add_of {j k : ℕ} {d x : α} (h : up P j d = some x) : up P (j + k) d = up P k x := by
  rw [up_add, h, Option.bind_some]

theorem Closed.mem_of_up (hc : Closed M P) {d a : α} (hd : M d) : ∀ {k : ℕ}, up P k d = some a → M a := by
  intro k
  induction k generalizing d with
  | zero =>
      rintro ⟨⟩
      exact hd
  | succ k ih =>
      intro h
      cases hp : P d with
      | none => rw [up_succ_of_root hp] at h; cases h
      | some p =>
          rw [up_succ_of_parent hp] at h
          exact ih (hc.parent_mem hp) h

/-- In an acyclic forest a node is above another at one distance only. -/
theorem Acyclic.up_inj (ha : Acyclic P) {d a : α} {j k : ℕ} (hj : up P j d = some a)
    (hk : up P k d = some a) : j = k := by
  rcases Nat.lt_trichotomy j k with h | h | h
  · obtain ⟨i, rfl⟩ := Nat.exists_eq_add_of_lt h
    rw [Nat.add_assoc, up_add_of hj] at hk
    exact absurd hk (ha a i)
  · exact h
  · obtain ⟨i, rfl⟩ := Nat.exists_eq_add_of_lt h
    rw [Nat.add_assoc, up_add_of hk] at hj
    exact absurd hj (ha a i)

/-- A closure that gives each pair one depth has an acyclic parent relation. -/
theorem IsClosure.acyclic (hC : IsClosure M P C) (hc : Closed M P)
    (hone : ∀ a d j k, C a d j → C a d k → j = k) : Acyclic P := by
  intro d k h
  have hd : M d := by
    cases hp : P d with
    | none => rw [up_succ_of_root hp] at h; cases h
    | some p => exact hc.of_parent hp
  have h0 : C d d 0 := (hC d d 0).2 ⟨hd, rfl⟩
  exact absurd (hone d d 0 (k + 1) h0 ((hC d d _).2 ⟨hd, h⟩)) (Nat.succ_ne_zero k).symm

theorem IsClosure.congr {M' : α → Prop} {C' : α → α → ℕ → Prop} (hC : IsClosure M P C)
    (hM : ∀ d, M' d ↔ M d) (hC' : ∀ a d k, C' a d k ↔ C a d k) : IsClosure M' P C' := by
  intro a d k
  rw [hC', hM, hC]

/-! ## Paths that a change of parents leaves alone -/

variable {Q : α → Option α}

/-- Two parent functions that agree on the nodes passed give the same path. -/
theorem up_congr {d : α} {k : ℕ} (h : ∀ j < k, ∀ b, up P j d = some b → Q b = P b) :
    up Q k d = up P k d := by
  induction k generalizing d with
  | zero => rfl
  | succ k ih =>
      have hd : Q d = P d := h 0 (Nat.succ_pos k) d rfl
      rw [up_succ, up_succ, hd]
      cases hp : P d with
      | none => rfl
      | some p =>
          refine ih fun j hj b hb => h (j + 1) (Nat.succ_lt_succ hj) b ?_
          rw [up_succ_of_parent hp, hb]

/-! ## Adding a leaf -/

section AddLeaf
variable {x : α} {p : Option α} (hc : Closed M P) (hx : ¬ M x) (hp : ∀ q, p = some q → M q)
  (hP' : ∀ d, d ≠ x → Q d = P d) (hPx : Q x = p)
include hc hx hP'

theorem up_addLeaf_of_ne {d : α} (hd : M d) (k : ℕ) : up Q k d = up P k d := by
  refine up_congr fun j _ b hb => hP' b ?_
  rintro rfl
  exact hx (hc.mem_of_up hd hb)

include hp hPx

theorem up_addLeaf_succ (k : ℕ) : up Q (k + 1) x = p.bind (up P k) := by
  rw [up_succ, hPx]
  cases hq : p with
  | none => rfl
  | some q => exact up_addLeaf_of_ne hc hx hP' (hp q hq) k

/-- **The closure after a leaf is added**: its own row, and the rows of its parent one deeper. -/
theorem closure_addLeaf (hC : IsClosure M P C) :
    IsClosure (fun d => M d ∨ d = x) Q fun a d k =>
      C a d k ∨ (a = x ∧ d = x ∧ k = 0) ∨ ∃ q, p = some q ∧ d = x ∧ ∃ j, C a q j ∧ k = j + 1 := by
  intro a d k
  simp only [hC a d k]
  by_cases hd : d = x
  · subst hd
    cases k with
    | zero => simp [hx, eq_comm]
    | succ k =>
        rw [up_addLeaf_succ hc hx hp hP' hPx]
        simp only [hx, false_and, false_or, true_and, or_true, Nat.add_right_cancel_iff,
          Nat.add_one_ne_zero, and_false, Option.bind_eq_some_iff]
        constructor
        · rintro ⟨q, hq, j, hj, rfl⟩
          exact ⟨q, hq, ((hC _ _ _).1 hj).2⟩
        · rintro ⟨q, hq, hk⟩
          exact ⟨q, hq, k, (hC _ _ _).2 ⟨hp q hq, hk⟩, rfl⟩
  · simp only [hd, or_false, false_and, and_false, exists_false]
    exact and_congr_right fun hm => by rw [up_addLeaf_of_ne hc hx hP' hm]

end AddLeaf

/-! ## Removing a node -/

section Remove
variable {x : α} (hcut : ∀ d, d ≠ x → P d = some x → Q d = none)
  (hkeep : ∀ d, d ≠ x → P d ≠ some x → Q d = P d)
include hcut hkeep

/-- After a root or a leaf `x` is removed, the paths are the old ones that do not end in `x`. -/
theorem up_remove (hx : P x = none ∨ ∀ d, P d ≠ some x) {d a : α} (hd : d ≠ x) (k : ℕ) :
    up Q k d = some a ↔ up P k d = some a ∧ a ≠ x := by
  induction k generalizing d with
  | zero =>
      rw [up_zero, up_zero]
      refine ⟨?_, And.left⟩
      rintro ⟨⟩
      exact ⟨rfl, hd⟩
  | succ k ih =>
      by_cases hp : P d = some x
      · rw [up_succ_of_root (hcut d hd hp), up_succ_of_parent hp]
        have hroot : P x = none := hx.resolve_right fun h => h d hp
        cases k with
        | zero => simp +contextual [eq_comm]
        | succ k => simp [up_succ_of_root hroot]
      · have hpd := hkeep d hd hp
        cases hq : P d with
        | none => simp [up_succ_of_root hq, up_succ_of_root (hpd.trans hq)]
        | some q =>
            rw [up_succ_of_parent hq, up_succ_of_parent (hpd.trans hq)]
            exact ih fun e => hp (by rw [hq, e])

/-- **The closure after a root or a leaf is removed**: the rows that name it are gone. -/
theorem closure_remove (hx : P x = none ∨ ∀ d, P d ≠ some x) (hC : IsClosure M P C) :
    IsClosure (fun d => M d ∧ d ≠ x) Q fun a d k => C a d k ∧ a ≠ x ∧ d ≠ x := by
  intro a d k
  simp only [hC a d k]
  by_cases hd : d = x
  · simp [hd]
  · rw [up_remove hcut hkeep hx hd]
    tauto

end Remove

/-! ## Moving a subtree -/

section Move
variable {x : α} {p : Option α} (ha : Acyclic P)
  (hp : ∀ q, p = some q → M q) (hsub : ∀ q, p = some q → ∀ k, up P k q ≠ some x)
  (hP' : ∀ d, d ≠ x → Q d = P d) (hPx : Q x = p)

include hP' in
theorem up_move_of_outside {d : α} (hd : ∀ k, up P k d ≠ some x) (k : ℕ) : up Q k d = up P k d := by
  refine up_congr fun j _ b hb => hP' b ?_
  rintro rfl
  exact hd j hb

include ha hP' in
/-- Inside the subtree nothing changes up to its root. -/
theorem up_move_of_le {d : α} {j k : ℕ} (hd : up P j d = some x) (hk : k ≤ j) :
    up Q k d = up P k d := by
  refine up_congr fun i hi b hb => hP' b ?_
  rintro rfl
  exact absurd (ha.up_inj hb hd) (by omega)

include ha hP' hPx hsub in
/-- Above its root the subtree continues with the new parent. -/
theorem up_move_above {d : α} {j : ℕ} (hd : up P j d = some x) (k : ℕ) :
    up Q (j + (k + 1)) d = p.bind (up P k) := by
  have hj : up Q j d = some x := (up_move_of_le ha hP' hd (Nat.le_refl j)).trans hd
  rw [up_add_of hj, up_succ, hPx]
  cases hq : p with
  | none => rfl
  | some q => exact up_move_of_outside hP' (hsub q hq) k

/-- The nodes of the subtree of `x`. -/
def Under (P : α → Option α) (x d : α) : Prop := ∃ j, up P j d = some x

include hp hsub ha hP' hPx in
/-- **The closure after a move**: the rows from outside the subtree into it are replaced by the rows
from the new parent's ancestors. -/
theorem closure_move (hC : IsClosure M P C) :
    IsClosure M Q fun a d k => (C a d k ∧ ¬ (Under P x d ∧ ¬ Under P x a)) ∨
      ∃ q i j, p = some q ∧ C a q i ∧ C x d j ∧ k = i + j + 1 := by
  intro a d k
  simp only [hC a d k, hC x d]
  by_cases hd : Under P x d
  · obtain ⟨j, hj⟩ := hd
    have hxj : ∀ i, up P i d = some x → i = j := fun i hi => ha.up_inj hi hj
    rcases Nat.lt_or_ge j k with hk | hk
    · -- strictly above the subtree's root: the old rows went, the new ones come from `p`
      obtain ⟨i, rfl⟩ : ∃ i, k = j + (i + 1) := ⟨k - j - 1, by omega⟩
      rw [up_move_above ha hsub hP' hPx hj, Option.bind_eq_some_iff]
      have hout : up P (j + (i + 1)) d = some a → ¬ Under P x a := by
        rintro h ⟨l, hl⟩
        rw [← up_add_of h] at hl
        exact absurd (hxj _ hl) (by omega)
      constructor
      · rintro (⟨⟨hm, h⟩, hn⟩ | ⟨q, i', j', hq, hi', ⟨hm, hj'⟩, hk'⟩)
        · exact absurd ⟨⟨j, hj⟩, hout h⟩ hn
        · obtain rfl : i' = i := by have := hxj _ hj'; omega
          exact ⟨hm, q, hq, ((hC _ _ _).1 hi').2⟩
      · rintro ⟨hm, q, hq, h⟩
        exact .inr ⟨q, i, j, hq, (hC _ _ _).2 ⟨hp q hq, h⟩, ⟨hm, hj⟩, by omega⟩
    · -- inside the subtree: the old rows stay
      rw [up_move_of_le ha hP' hj hk]
      constructor
      · rintro (⟨h, -⟩ | ⟨q, i', j', -, -, ⟨-, hj'⟩, hk'⟩)
        · exact h
        · exact absurd (hxj _ hj') (by omega)
      · rintro ⟨hm, h⟩
        refine .inl ⟨⟨hm, h⟩, fun hn => hn.2 ⟨j - k, ?_⟩⟩
        rw [← up_add_of h, Nat.add_sub_cancel' hk]
        exact hj
  · rw [up_move_of_outside hP' fun k hk => hd ⟨k, hk⟩]
    constructor
    · rintro (⟨h, -⟩ | ⟨q, i', j', -, -, ⟨-, hj'⟩, -⟩)
      · exact h
      · exact absurd ⟨j', hj'⟩ hd
    · exact fun h => .inl ⟨h, fun hn => hd hn.1⟩

end Move

/-! ## Cycles after a change -/

section Cycles
variable {x : α} {p : Option α}

theorem up_mono (h : ∀ d q, Q d = some q → P d = some q) {d a : α} {k : ℕ} (hk : up Q k d = some a) :
    up P k d = some a := by
  induction k generalizing d with
  | zero => exact hk
  | succ k ih =>
      rw [up_succ, Option.bind_eq_some_iff] at hk
      obtain ⟨q, hq, hk⟩ := hk
      rw [up_succ_of_parent (h d q hq)]
      exact ih hk

/-- Fewer parents close no cycle. -/
theorem Acyclic.mono (ha : Acyclic P) (h : ∀ d q, Q d = some q → P d = some q) : Acyclic Q :=
  fun d k hk => ha d k (up_mono h hk)

/-- Where only the parent of `x` differs, the nodes below `x` are the same. -/
theorem Under.congr (h : ∀ d, d ≠ x → Q d = P d) {d : α} (hd : Under Q x d) : Under P x d := by
  obtain ⟨k, hk⟩ := hd
  induction k generalizing d with
  | zero => exact ⟨0, hk⟩
  | succ k ih =>
      by_cases hx : d = x
      · exact ⟨0, by rw [hx, up_zero]⟩
      · rw [up_succ, Option.bind_eq_some_iff] at hk
        obtain ⟨q, hq, hk⟩ := hk
        obtain ⟨j, hj⟩ := ih hk
        exact ⟨j + 1, by rw [up_succ_of_parent ((h d hx).symm.trans hq), hj]⟩

/-- **A node gets another parent**: that closes a cycle exactly when the new parent is below the node. -/
theorem Acyclic.move_iff (ha : Acyclic P) (hP' : ∀ d, d ≠ x → Q d = P d) (hPx : Q x = p) :
    Acyclic Q ↔ ∀ q, p = some q → ¬ Under P x q := by
  constructor
  · rintro hQ q rfl hunder
    obtain ⟨k, hk⟩ := Under.congr (fun d hd => (hP' d hd).symm) hunder
    exact hQ x k (by rw [up_succ_of_parent hPx, hk])
  · intro hp d k hk
    by_cases hd : Under Q x d
    · -- the cycle passes `x`, so it leads from the new parent back to `x`
      obtain ⟨j, hj⟩ := hd
      have hx : up Q (k + 1) x = some x := by rw [← up_add_of hj, Nat.add_comm, up_add_of hk, hj]
      rw [up_succ, hPx, Option.bind_eq_some_iff] at hx
      obtain ⟨q, hq, hx⟩ := hx
      exact hp q hq (Under.congr hP' ⟨k, hx⟩)
    · have hout : ∀ i, up P i d ≠ some x := fun i hi =>
        hd (Under.congr (fun d hd => (hP' d hd).symm) ⟨i, hi⟩)
      rw [up_move_of_outside hP' hout] at hk
      exact ha d k hk

end Cycles

/-- The ancestors of a node form a chain. -/
theorem under_or_under {x y d : α} (hx : Under P x d) (hy : Under P y d) : Under P x y ∨ Under P y x := by
  obtain ⟨j, hj⟩ := hx
  obtain ⟨k, hk⟩ := hy
  rcases Nat.le_total j k with hle | hle
  · refine .inr ⟨k - j, ?_⟩
    rw [← up_add_of hj, Nat.add_sub_cancel' hle]
    exact hk
  · refine .inl ⟨j - k, ?_⟩
    rw [← up_add_of hk, Nat.add_sub_cancel' hle]
    exact hj

theorem Under.trans {x y d : α} (hxy : Under P x y) (hyd : Under P y d) : Under P x d := by
  obtain ⟨j, hj⟩ := hxy
  obtain ⟨k, hk⟩ := hyd
  exact ⟨k + j, by rw [up_add_of hk, hj]⟩

end ParentForest

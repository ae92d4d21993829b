import Mathlib.Data.List.Flatten
import Mathlib.Data.List.Perm.Basic
import Mathlib.Order.Lattice
import Mathlib.Order.Monotone.Defs

/-!
# The newest elements of several lists

* `Newest time n xs taken` : `taken` are `n` newest elements of `xs`, all of them where there are no more;
* `newest_take` : the beginning of a list that is sorted newest first;
* `Newest.merge`, `lt_length_merge` : the `n` newest of several lists are found among the `n + 1` newest of each, which
  also tell whether there are more than `n`.
-/

namespace NewestFirst

universe u v
variable {α : Type u} {τ : Type v} [LinearOrder τ] {time : α → τ} {n : ℕ} {xs ys taken : List α}

/-- No element that is left out is newer than one that is taken. -/
structure Splits (time : α → τ) (n : ℕ) (xs taken left : List α) : Prop where
  perm : xs.Perm (taken ++ left)
  length : taken.length = min n xs.length
  le : ∀ a ∈ taken, ∀ b ∈ left, time b ≤ time a

def Newest (time : α → τ) (n : ℕ) (xs taken : List α) : Prop := ∃ left, Splits time n xs taken left

theorem newest_take (hperm : ys.Perm xs) (hsorted : ys.Pairwise fun a b => time b ≤ time a) :
    Newest time n xs (ys.take n) := by
  refine ⟨ys.drop n, ?_, ?_, fun a ha b hb => ?_⟩
  · rw [List.take_append_drop]
    exact hperm.symm
  · rw [List.length_take, hperm.length_eq]
  · rw [← List.take_append_drop n ys, List.pairwise_append] at hsorted
    exact hsorted.2.2 a ha b hb

/-- A coarser clock does not mind. -/
theorem Newest.coarse {σ : Type*} [LinearOrder σ] {clock : τ → σ} (hclock : Monotone clock)
    (h : Newest time n xs taken) : Newest (fun a => clock (time a)) n xs taken := by
  obtain ⟨left, hleft⟩ := h
  exact ⟨left, hleft.perm, hleft.length, fun a ha b hb => hclock (hleft.le a ha b hb)⟩

/-- Elements are left out of a full list only. -/
theorem Splits.full {left : List α} (h : Splits time n xs taken left) (hleft : left ≠ []) : taken.length = n := by
  have hlength : xs.length = taken.length + left.length := by rw [h.perm.length_eq, List.length_append]
  have hpos : 0 < left.length := List.length_pos_of_ne_nil hleft
  have hmin := h.length
  omega

section Merge
variable {sources takens : List (List α)} {result : List α}

/-- What the lists leave out together is left out of a full one that is not older. -/
theorem exists_left (h : List.Forall₂ (Newest time n) sources takens) : ∃ left,
    sources.flatten.Perm (takens.flatten ++ left) ∧
      ∀ d ∈ left, ∃ taken ∈ takens, taken.length = n ∧ ∀ a ∈ taken, time d ≤ time a := by
  induction h with
  | nil => exact ⟨[], List.Perm.refl _, fun d hd => nomatch hd⟩
  | @cons xs taken sources takens hhead _ ih =>
      obtain ⟨left, hleft⟩ := hhead
      obtain ⟨lefts, hperm, hfull⟩ := ih
      refine ⟨left ++ lefts, ?_, fun d hd => ?_⟩
      · rw [List.flatten_cons, List.flatten_cons]
        calc (xs ++ sources.flatten).Perm ((taken ++ left) ++ (takens.flatten ++ lefts)) := hleft.perm.append hperm
          _ = taken ++ ((left ++ takens.flatten) ++ lefts) := by simp only [List.append_assoc]
          List.Perm _ (taken ++ ((takens.flatten ++ left) ++ lefts)) :=
              List.Perm.append_left taken (List.Perm.append_right lefts List.perm_append_comm)
          _ = taken ++ takens.flatten ++ (left ++ lefts) := by simp only [List.append_assoc]
      · rcases List.mem_append.1 hd with hd | hd
        · exact ⟨taken, List.mem_cons_self, hleft.full (List.ne_nil_of_mem hd), fun a ha => hleft.le a ha d hd⟩
        · obtain ⟨taken', hmem, hlength, hle⟩ := hfull d hd
          exact ⟨taken', List.mem_cons_of_mem _ hmem, hlength, hle⟩

/-- Where something is left out, more than `n` elements are there. -/
theorem left_eq_nil_or {left : List α}
    (hfull : ∀ d ∈ left, ∃ taken ∈ takens, taken.length = n + 1 ∧ ∀ a ∈ taken, time d ≤ time a) :
    left = [] ∨ n < takens.flatten.length := by
  cases left with
  | nil => exact .inl rfl
  | cons d left =>
      obtain ⟨taken, hmem, hcount, -⟩ := hfull d List.mem_cons_self
      have hle : taken.length ≤ takens.flatten.length := (List.sublist_flatten_of_mem hmem).length_le
      exact .inr (by omega)

/-- There are more than `n` elements exactly when the lists together have more than `n` left. -/
theorem lt_length_merge (h : List.Forall₂ (Newest time (n + 1)) sources takens) :
    n < takens.flatten.length ↔ n < sources.flatten.length := by
  obtain ⟨left, hperm, hfull⟩ := exists_left h
  have hlength : sources.flatten.length = takens.flatten.length + left.length := by
    rw [hperm.length_eq, List.length_append]
  refine ⟨fun hlt => by omega, fun hlt => ?_⟩
  rcases left_eq_nil_or hfull with rfl | hmore
  · rw [List.length_nil] at hlength
    omega
  · exact hmore

/-- **The newest of the newest**: the `n` newest elements of the `n + 1` newest of each list are `n` newest of all. -/
theorem Newest.merge (h : List.Forall₂ (Newest time (n + 1)) sources takens)
    (hresult : Newest time n takens.flatten result) : Newest time n sources.flatten result := by
  obtain ⟨left, hperm, hfull⟩ := exists_left h
  obtain ⟨rest, hrest⟩ := hresult
  refine ⟨rest ++ left, ?_, ?_, fun a ha b hb => ?_⟩
  · rw [← List.append_assoc]
    exact hperm.trans (hrest.perm.append_right left)
  · have hlength := hrest.length
    have htotal : sources.flatten.length = takens.flatten.length + left.length := by
      rw [hperm.length_eq, List.length_append]
    rcases left_eq_nil_or hfull with rfl | hmore
    · rw [hlength, htotal, List.length_nil, Nat.add_zero]
    · omega
  · rcases List.mem_append.1 hb with hb | hb
    · exact hrest.le a ha b hb
    · obtain ⟨taken, hmem, hcount, hle⟩ := hfull b hb
      by_contra hlt
      -- the whole of the full list would be newer than `a`, and the result too short to hold it
      have hnewer : ∀ c ∈ taken, time a < time c := fun c hc => lt_of_lt_of_le (not_le.1 hlt) (hle c hc)
      have htaken : taken.countP (fun c => decide (time a < time c)) = n + 1 := by
        rw [List.countP_eq_length.2 fun c hc => decide_eq_true (hnewer c hc), hcount]
      have hsub : taken.countP (fun c => decide (time a < time c)) ≤
          takens.flatten.countP (fun c => decide (time a < time c)) :=
        (List.sublist_flatten_of_mem hmem).countP_le
      have hnone : rest.countP (fun c => decide (time a < time c)) = 0 :=
        List.countP_eq_zero.2 fun c hc => by simpa using hrest.le a ha c hc
      have hsplit : takens.flatten.countP (fun c => decide (time a < time c)) =
          result.countP (fun c => decide (time a < time c)) := by
        rw [hrest.perm.countP_eq, List.countP_append, hnone, Nat.add_zero]
      have hcap : result.countP (fun c => decide (time a < time c)) ≤ result.length := List.countP_le_length
      have hlength := hrest.length
      omega

end Merge

end NewestFirst

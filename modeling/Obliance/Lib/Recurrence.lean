import Mathlib.Data.List.DropRight
import Obliance.Lib.JsSet

/-!
# Values that come back, and logs that keep their newest entries

* `CameBack xs` : a value of `xs` came back after another one; `cameBack_concat` for the next value;
* `distinct xs` : the number of different values;
* both only grow with the list: `CameBack.mono`, `distinct_mono`;
* `filter_rtake` : the newest `n` entries of a log hold all the recent ones, when there are at most `n` of these;
* `rtake_concat`, `getLast?_rtake` : a log of which only the newest entries are kept, one entry more.
-/

namespace Recurrence

universe u
variable {α : Type u} {xs ys : List α} {v w x : α} {n : ℕ}

def CameBack (xs : List α) : Prop := ∃ v w, v ≠ w ∧ [v, w, v].Sublist xs

theorem CameBack.mono (h : xs.Sublist ys) : CameBack xs → CameBack ys
  | ⟨v, w, hne, hsub⟩ => ⟨v, w, hne, hsub.trans h⟩

theorem CameBack.length_le : CameBack xs → 3 ≤ xs.length
  | ⟨_, _, _, hsub⟩ => hsub.length_le

theorem concat_sublist_concat : (ys ++ [w]).Sublist (xs ++ [v]) ↔ (ys ++ [w]).Sublist xs ∨ w = v ∧ ys.Sublist xs := by
  rw [← List.reverse_sublist, ← @List.reverse_sublist _ (ys ++ [w]), ← @List.reverse_sublist _ ys]
  simp only [List.reverse_append, List.reverse_cons, List.reverse_nil, List.nil_append, List.singleton_append]
  exact List.cons_sublist_cons'

/-- In a list in which nothing came back, a value that was seen and is not the last one comes back. -/
theorem cameBack_concat (h : ¬ CameBack xs) : CameBack (xs ++ [v]) ↔ v ∈ xs ∧ xs.getLast? ≠ some v := by
  constructor
  · rintro ⟨a, b, hne, hsub⟩
    -- the value that came back is the new one: otherwise it came back before
    obtain ⟨rfl, hpair⟩ :=
      ((@concat_sublist_concat _ xs [a, b] v a).1 hsub).resolve_left fun hold => h ⟨a, b, hne, hold⟩
    refine ⟨hpair.subset (by simp), fun hlast => h ⟨a, b, hne, ?_⟩⟩
    obtain ⟨zs, rfl⟩ := List.getLast?_eq_some_iff.1 hlast
    have hzs := ((@concat_sublist_concat _ zs [a] a b).1 hpair).resolve_right fun hb => hne hb.1.symm
    exact hzs.append (List.Sublist.refl [a])
  · rintro ⟨hmem, hlast⟩
    cases hxs : xs.getLast? with
    | none => exact absurd (List.getLast?_eq_none_iff.1 hxs ▸ hmem) List.not_mem_nil
    | some b =>
        obtain ⟨zs, rfl⟩ := List.getLast?_eq_some_iff.1 hxs
        have hne : v ≠ b := fun hvb => hlast (hvb ▸ hxs)
        have hzs : v ∈ zs := by simpa [hne] using hmem
        refine ⟨v, b, hne, ?_⟩
        exact ((List.singleton_sublist.2 hzs).append (List.Sublist.refl [b])).append (List.Sublist.refl [v])

section Distinct
variable [DecidableEq α]

/-- `new Set(xs).size` -/
def distinct (xs : List α) : ℕ := (JsSet.ofList xs).length

theorem distinct_mono (h : xs ⊆ ys) : distinct xs ≤ distinct ys := by
  refine (JsSet.nodup_ofList xs).length_le_of_subset fun a ha => ?_
  exact JsSet.mem_ofList.2 (h (JsSet.mem_ofList.1 ha))

theorem distinct_le_length (xs : List α) : distinct xs ≤ xs.length :=
  (JsSet.nodup_ofList xs).length_le_of_subset fun _ => JsSet.mem_ofList.1

end Distinct

/-! ## The newest entries of a log -/

/-- The recent entries stand at the end of a log: where one is recent, all later ones are. -/
theorem filter_rtake {p : α → Bool} (hsorted : xs.Pairwise fun a b => p a → p b) (hn : (xs.filter p).length ≤ n) :
    (xs.rtake n).filter p = xs.filter p := by
  have hsplit : xs.take (xs.length - n) ++ xs.rtake n = xs := List.take_append_drop _ _
  have hnone : (xs.take (xs.length - n)).filter p = [] := by
    refine List.filter_eq_nil_iff.2 fun a ha hpa => ?_
    have hall : (xs.rtake n).filter p = xs.rtake n := by
      refine List.filter_eq_self.2 fun b hb => ?_
      rw [← hsplit] at hsorted
      exact (List.pairwise_append.1 hsorted).2.2 a ha b hb hpa
    have hpos : 0 < ((xs.take (xs.length - n)).filter p).length :=
      List.length_pos_of_mem (List.mem_filter.2 ⟨ha, hpa⟩)
    have hlt : n < xs.length := by
      have := List.length_pos_of_mem ha
      rw [List.length_take] at this
      omega
    have hlen : (xs.rtake n).length = n := by
      rw [List.rtake, List.length_drop]
      omega
    rw [← hsplit, List.filter_append, List.length_append, hall, hlen] at hn
    omega
  conv_rhs => rw [← hsplit, List.filter_append, hnone, List.nil_append]

theorem rtake_rtake (xs : List α) (m n : ℕ) : (xs.rtake n).rtake m = xs.rtake (min m n) := by
  simp only [List.rtake_eq_reverse_take_reverse, List.reverse_reverse, List.take_take]

theorem rtake_concat (xs : List α) (x : α) (n : ℕ) :
    (xs.rtake (n + 1) ++ [x]).rtake (n + 1) = (xs ++ [x]).rtake (n + 1) := by
  rw [List.rtake_concat_succ, List.rtake_concat_succ, rtake_rtake, Nat.min_eq_left (Nat.le_succ n)]

theorem getLast?_rtake (xs : List α) (n : ℕ) : (xs.rtake (n + 1)).getLast? = xs.getLast? := by
  rw [List.rtake_eq_reverse_take_reverse, List.getLast?_reverse, List.head?_take, if_neg (Nat.succ_ne_zero n),
    List.head?_reverse]

theorem rtake_one (xs : List α) : xs.rtake 1 = xs.getLast?.toList := by
  induction xs using List.reverseRecOn with
  | nil => rfl
  | append_singleton xs x _ => rw [List.rtake_concat_succ, List.rtake_zero, List.getLast?_concat]; rfl

end Recurrence

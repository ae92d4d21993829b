import Mathlib.Algebra.Order.BigOperators.Group.List
import Mathlib.Algebra.Order.Group.Nat
import Mathlib.Algebra.Ring.Nat
import Mathlib.Data.List.Nodup
import Mathlib.Logic.Function.Basic
import Mathlib.Tactic.Common

/-!
# Tallies of visits under a cap

Owners visit places. Each owner keeps its own counts, a log has the visits of all, and a visit is only made
while the count of the place is under the cap.

* `Tally` : no owner has two counts, the log has at most as many visits as the counts say, no count is over
  the cap;
* `Tally.sublist`, `Tally.start`, `Tally.visit` : entries of the log are dropped, an owner is new, a visit;
* `Tally.countP_le` : no owner has more than the cap in the log, at any place;
* `left` : the visits still to be made on some places; `left_visit_lt` : a visit leaves fewer.
-/

namespace CappedTally

universe u v
variable {ι : Type u} {ν : Type v} [DecidableEq ι] [DecidableEq ν]

structure Tally (cap : ℕ) (counts : List (ι × (ν → ℕ))) (log : List (ι × ν)) : Prop where
  keyed : (counts.map Prod.fst).Nodup
  known : ∀ e ∈ log, e.1 ∈ counts.map Prod.fst
  counted : ∀ c ∈ counts, ∀ p, (log.countP fun e => decide (e = (c.1, p))) ≤ c.2 p
  capped : ∀ c ∈ counts, ∀ p, c.2 p ≤ cap

/-- The counts after a visit of `o`, whose counts are `f`, to `p`. -/
def visit (counts : List (ι × (ν → ℕ))) (o : ι) (f : ν → ℕ) (p : ν) : List (ι × (ν → ℕ)) :=
  counts.map fun c => if c.1 = o then (c.1, Function.update f p (f p + 1)) else c

variable {cap : ℕ} {counts : List (ι × (ν → ℕ))} {log log' : List (ι × ν)} {o : ι} {f : ν → ℕ} {p : ν}

theorem map_fst_visit : (visit counts o f p).map Prod.fst = counts.map Prod.fst := by
  rw [visit, List.map_map]
  refine List.map_congr_left fun c _ => ?_
  dsimp only [Function.comp]
  split_ifs <;> rfl

theorem Tally.nil : Tally cap ([] : List (ι × (ν → ℕ))) [] :=
  ⟨List.nodup_nil, fun _ h => absurd h List.not_mem_nil, fun _ h => absurd h List.not_mem_nil,
    fun _ h => absurd h List.not_mem_nil⟩

theorem Tally.sublist (h : Tally cap counts log) (hlog : log'.Sublist log) : Tally cap counts log' where
  keyed := h.keyed
  known e he := h.known e (hlog.subset he)
  counted c hc p := hlog.countP_le.trans (h.counted c hc p)
  capped := h.capped

/-- A new owner has made no visit. -/
theorem Tally.start (h : Tally cap counts log) (ho : o ∉ counts.map Prod.fst) :
    Tally cap (counts ++ [(o, fun _ => 0)]) log where
  keyed := by
    rw [List.map_append]
    refine List.nodup_append.2 ⟨h.keyed, List.nodup_singleton _, ?_⟩
    rintro a ha b hb rfl
    obtain rfl : a = o := List.mem_singleton.1 hb
    exact ho ha
  known e he := by
    rw [List.map_append]
    exact List.mem_append_left _ (h.known e he)
  counted c hc p := by
    rcases List.mem_append.1 hc with hc | hc
    · exact h.counted c hc p
    · obtain rfl := List.mem_singleton.1 hc
      rw [Nat.le_zero, List.countP_eq_zero]
      rintro e he heq
      obtain rfl := of_decide_eq_true heq
      exact ho (h.known _ he)
  capped c hc p := by
    rcases List.mem_append.1 hc with hc | hc
    · exact h.capped c hc p
    · rw [List.mem_singleton.1 hc]
      exact Nat.zero_le _

theorem Tally.visit (h : Tally cap counts log) (hmem : (o, f) ∈ counts) (hcap : f p + 1 ≤ cap) :
    Tally cap (visit counts o f p) (log ++ [(o, p)]) where
  keyed := by
    rw [map_fst_visit]
    exact h.keyed
  known e he := by
    rw [map_fst_visit]
    rcases List.mem_append.1 he with he | he
    · exact h.known e he
    · rw [List.mem_singleton.1 he]
      exact List.mem_map_of_mem hmem
  counted c hc q := by
    obtain ⟨c₀, hc₀, rfl⟩ := List.mem_map.1 hc
    rw [List.countP_append, List.countP_singleton]
    by_cases ho : c₀.1 = o
    · rw [if_pos ho]
      dsimp only
      rw [ho]
      by_cases hq : q = p
      · -- the owner at the place: both sides gain one
        rw [hq, if_pos (decide_eq_true rfl), Function.update_self]
        exact Nat.add_le_add_right (h.counted (o, f) hmem p) 1
      · rw [if_neg fun heq => hq (Prod.mk.inj (of_decide_eq_true heq)).2.symm, Function.update_of_ne hq, add_zero]
        exact h.counted (o, f) hmem q
    · rw [if_neg ho, if_neg fun heq => ho (Prod.mk.inj (of_decide_eq_true heq)).1.symm, add_zero]
      exact h.counted c₀ hc₀ q
  capped c hc q := by
    obtain ⟨c₀, hc₀, rfl⟩ := List.mem_map.1 hc
    by_cases ho : c₀.1 = o
    · rw [if_pos ho]
      dsimp only
      by_cases hq : q = p
      · rw [hq, Function.update_self]
        exact hcap
      · rw [Function.update_of_ne hq]
        exact h.capped (o, f) hmem q
    · rw [if_neg ho]
      exact h.capped c₀ hc₀ q

/-- What the log has of an owner at a place never goes over the cap. -/
theorem Tally.countP_le (h : Tally cap counts log) (o : ι) (p : ν) :
    (log.countP fun e => decide (e = (o, p))) ≤ cap := by
  by_cases ho : o ∈ counts.map Prod.fst
  · obtain ⟨c, hc, rfl⟩ := List.mem_map.1 ho
    exact (h.counted c hc p).trans (h.capped c hc p)
  · rw [List.countP_eq_zero.2]
    · exact Nat.zero_le _
    · rintro e he heq
      obtain rfl := of_decide_eq_true heq
      exact ho (h.known _ he)

/-! ## What is left -/

/-- The visits that the counts still allow on the places. -/
def left (cap : ℕ) (places : List ν) (counts : List (ι × (ν → ℕ))) : ℕ :=
  (counts.map fun c => (places.map fun p => cap - c.2 p).sum).sum

theorem sum_update_le (places : List ν) (q : ν) :
    (places.map fun p => cap - Function.update f q (f q + 1) p).sum ≤ (places.map fun p => cap - f p).sum := by
  refine List.sum_le_sum fun p _ => ?_
  by_cases hp : p = q
  · rw [hp, Function.update_self]
    omega
  · rw [Function.update_of_ne hp]

theorem sum_update_lt {places : List ν} {q : ν} (hq : q ∈ places) (hcap : f q + 1 ≤ cap) :
    (places.map fun p => cap - Function.update f q (f q + 1) p).sum < (places.map fun p => cap - f p).sum := by
  refine List.sum_lt_sum _ _ (fun p _ => ?_) ⟨q, hq, ?_⟩
  · by_cases hp : p = q
    · rw [hp, Function.update_self]
      omega
    · rw [Function.update_of_ne hp]
  · rw [Function.update_self]
    omega

/-- A visit to one of the places leaves fewer. -/
theorem left_visit_lt {places : List ν} (hkeyed : (counts.map Prod.fst).Nodup) (hmem : (o, f) ∈ counts)
    (hp : p ∈ places) (hcap : f p + 1 ≤ cap) : left cap places (visit counts o f p) < left cap places counts := by
  have hown {c : ι × (ν → ℕ)} (hc : c ∈ counts) (ho : c.1 = o) : c.2 = f :=
    congrArg Prod.snd (List.inj_on_of_nodup_map hkeyed hc hmem ho)
  unfold left visit
  rw [List.map_map]
  refine List.sum_lt_sum _ _ (fun c hc => ?_) ⟨(o, f), hmem, ?_⟩
  · dsimp only [Function.comp]
    split_ifs with ho
    · rw [hown hc ho]
      exact sum_update_le places p
    · exact le_rfl
  · dsimp only [Function.comp]
    rw [if_pos rfl]
    exact sum_update_lt hp hcap

end CappedTally

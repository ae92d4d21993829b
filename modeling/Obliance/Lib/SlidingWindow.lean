import Mathlib.Data.List.Basic
import Mathlib.Data.List.Perm.Subperm
import Mathlib.Data.List.TakeWhile

/-!
# The widest window of a sorted list

* `Within` : elements whose keys are no more than `width` apart;
* `widest` : a window whose left end follows its right end, the largest one seen;
* `widest_spec` : on a sorted list it is a largest group of elements that are `Within`.
-/

namespace SlidingWindow

universe u
variable {α : Type u} (key : α → ℤ) (width : ℤ)

def Within (g : List α) : Prop := ∀ a ∈ g, ∀ b ∈ g, key b - key a ≤ width

/-! ## The scan -/

/-- The left end is moved while it is too far from the right end `stop`; `none` when it leaves the list. -/
def advance (l : List α) (stop : ℕ) : ℕ → ℕ → Option ℕ
  | 0, _ => none
  | fuel + 1, start =>
      match l[stop]?, l[start]? with
      | some b, some a => if width < key b - key a then advance l stop fuel (start + 1) else some start
      | _, _ => none

/-- The elements from `start` to `stop`. -/
def slice (l : List α) (start stop : ℕ) : List α := (l.drop start).take (stop + 1 - start)

/-- One right end: the left end follows, and a longer window is kept. -/
def scanStep (l : List α) (state : List α × ℕ) (stop : ℕ) : Option (List α × ℕ) :=
  (advance key width l stop (stop + 1) state.2).map fun start =>
    (if state.1.length < stop + 1 - start then slice l start stop else state.1, start)

def scan (l : List α) (n : ℕ) : Option (List α × ℕ) := (List.range n).foldlM (scanStep key width l) ([], 0)

def widest (l : List α) : Option (List α) := (scan key width l l.length).map Prod.fst

/-! ## What it finds -/

variable {key width} {l : List α}

theorem mem_slice {start stop : ℕ} {a : α} (h : a ∈ slice l start stop) :
    ∃ i, start ≤ i ∧ i ≤ stop ∧ l[i]? = some a := by
  obtain ⟨k, hk⟩ := List.mem_iff_getElem?.1 h
  have hlt : k < stop + 1 - start := by
    by_contra hge
    rw [slice, List.getElem?_take_eq_none (Nat.not_lt.1 hge)] at hk
    cases hk
  rw [slice, List.getElem?_take_of_lt hlt, List.getElem?_drop] at hk
  exact ⟨start + k, by omega, by omega, hk⟩

theorem length_slice {start stop : ℕ} (h : stop < l.length) : (slice l start stop).length = stop + 1 - start := by
  rw [slice, List.length_take, List.length_drop]
  omega

theorem slice_sublist (start stop : ℕ) : (slice l start stop).Sublist l :=
  (List.take_sublist _ _).trans (List.drop_sublist _ _)

theorem key_le (hl : l.Pairwise fun a b => key a ≤ key b) {i j : ℕ} {a b : α} (hij : i ≤ j)
    (ha : l[i]? = some a) (hb : l[j]? = some b) : key a ≤ key b := by
  obtain ⟨hi, rfl⟩ := List.getElem?_eq_some_iff.1 ha
  obtain ⟨hj, rfl⟩ := List.getElem?_eq_some_iff.1 hb
  rcases Nat.lt_or_eq_of_le hij with hlt | rfl
  · exact List.pairwise_iff_getElem.1 hl i j hi hj hlt
  · exact Int.le_refl _

/-- The left end stops at the first element that is near enough. -/
theorem advance_spec (hwidth : 0 ≤ width) {stop : ℕ} {b : α} (hb : l[stop]? = some b) :
    ∀ {fuel start : ℕ}, start ≤ stop → stop < start + fuel →
      ∃ start' a, advance key width l stop fuel start = some start' ∧ start ≤ start' ∧ start' ≤ stop ∧
        l[start']? = some a ∧ key b - key a ≤ width ∧
        ∀ i c, start ≤ i → i < start' → l[i]? = some c → width < key b - key c := by
  intro fuel
  induction fuel with
  | zero => exact fun hle hlt => absurd hlt (Nat.not_lt.2 hle)
  | succ fuel ih =>
      intro start hle hlt
      obtain ⟨hstop, -⟩ := List.getElem?_eq_some_iff.1 hb
      have hstart : start < l.length := Nat.lt_of_le_of_lt hle hstop
      have ha : l[start]? = some l[start] := List.getElem?_eq_getElem hstart
      rw [advance, hb, ha]
      dsimp only
      by_cases hfar : width < key b - key l[start]
      · have hne : start ≠ stop := by
          rintro rfl
          obtain rfl := Option.some.inj (ha.symm.trans hb)
          omega
        have hnext : start + 1 ≤ stop := by omega
        obtain ⟨start', a, hadvance, hmoved, hbefore, hget, hnear, hskipped⟩ := ih hnext (by omega)
        refine ⟨start', a, by rw [if_pos hfar, hadvance], by omega, hbefore, hget, hnear, fun i c hi hlt' hc => ?_⟩
        rcases Nat.eq_or_lt_of_le hi with rfl | hi
        · obtain rfl := Option.some.inj (ha.symm.trans hc)
          exact hfar
        · exact hskipped i c hi hlt' hc
      · refine ⟨start, l[start], if_neg hfar, Nat.le_refl _, hle, ha, Int.not_lt.1 hfar, fun i c hi hlt' _ => ?_⟩
        exact absurd hi (Nat.not_le.2 hlt')

/-- What the scan knows after `n` right ends. -/
structure Scanned (key : α → ℤ) (width : ℤ) (l : List α) (n : ℕ) (best : List α) (start : ℕ) : Prop where
  start_le : start ≤ n
  /-- The elements the left end has passed are too far from a right end seen. -/
  far : ∀ i a, i < start → l[i]? = some a → ∃ j b, j < n ∧ l[j]? = some b ∧ width < key b - key a
  sublist : best.Sublist l
  within : Within key width best
  largest : ∀ i j a b, i ≤ j → j < n → l[i]? = some a → l[j]? = some b → key b - key a ≤ width →
    j + 1 - i ≤ best.length

theorem scanned_step (hl : l.Pairwise fun a b => key a ≤ key b) (hwidth : 0 ≤ width) {n start : ℕ} {best : List α}
    (h : Scanned key width l n best start) (hn : n < l.length) :
    ∃ best' start', scanStep key width l (best, start) n = some (best', start') ∧
      Scanned key width l (n + 1) best' start' := by
  have hb : l[n]? = some l[n] := List.getElem?_eq_getElem hn
  have hfuel : n < start + (n + 1) := by omega
  obtain ⟨start', a, hadvance, hmoved, hbefore, hget, hnear, hskipped⟩ := advance_spec hwidth hb h.start_le hfuel
  refine ⟨_, start', by rw [scanStep, hadvance]; rfl, by omega, fun i c hi hc => ?_, ?_, ?_, ?_⟩
  · by_cases hold : i < start
    · obtain ⟨j, b, hj, hbj, hfar⟩ := h.far i c hold hc
      exact ⟨j, b, by omega, hbj, hfar⟩
    · exact ⟨n, l[n], by omega, hb, hskipped i c (Nat.not_lt.1 hold) hi hc⟩
  · split_ifs
    · exact slice_sublist _ _
    · exact h.sublist
  · split_ifs
    · intro x hx y hy
      obtain ⟨i, hi, -, hxi⟩ := mem_slice hx
      obtain ⟨j, -, hj, hyj⟩ := mem_slice hy
      have hlow := key_le hl hi hget hxi
      have hhigh := key_le hl hj hyj hb
      omega
    · exact h.within
  · dsimp only
    intro i j x y hij hj hx hy hxy
    have hlength : start' ≤ i → n + 1 - i ≤ (if best.length < n + 1 - start' then slice l start' n else best).length := by
      intro hi
      split_ifs with hlonger
      · rw [length_slice hn]
        omega
      · omega
    rcases Nat.lt_or_eq_of_le (Nat.lt_succ_iff.1 hj) with hlt | rfl
    · have hold := h.largest i j x y hij hlt hx hy hxy
      split_ifs with hlonger
      · rw [length_slice hn]
        omega
      · exact hold
    · refine hlength (Nat.not_lt.1 fun hi => ?_)
      by_cases hpassed : i < start
      · obtain ⟨k, z, hk, hz, hfar⟩ := h.far i x hpassed hx
        have hmono := key_le hl (Nat.le_of_lt hk) hz hy
        omega
      · have hfar := hskipped i x (Nat.not_lt.1 hpassed) hi hx
        obtain rfl := Option.some.inj (hb.symm.trans hy)
        omega

theorem scan_spec (hl : l.Pairwise fun a b => key a ≤ key b) (hwidth : 0 ≤ width) :
    ∀ n ≤ l.length, ∃ best start, scan key width l n = some (best, start) ∧ Scanned key width l n best start := by
  intro n
  induction n with
  | zero =>
      refine fun _ => ⟨[], 0, rfl, Nat.le_refl _, ?_, List.nil_sublist _, ?_, ?_⟩
      · exact fun i a hi => absurd hi (Nat.not_lt_zero i)
      · exact fun a ha => absurd ha List.not_mem_nil
      · exact fun i j a b _ hj => absurd hj (Nat.not_lt_zero j)
  | succ n ih =>
      intro hn
      obtain ⟨best, start, hscan, h⟩ := ih (Nat.le_of_lt hn)
      obtain ⟨best', start', hstep, h'⟩ := scanned_step hl hwidth h hn
      refine ⟨best', start', ?_, h'⟩
      rw [scan, List.range_succ, List.foldlM_append, ← scan, hscan]
      show (scanStep key width l (best, start) n >>= fun state => [].foldlM _ state) = _
      rw [hstep]
      rfl

theorem le_of_mem_dropWhile (hl : l.Pairwise fun a b => key a ≤ key b) {low : ℤ} {a : α}
    (h : a ∈ l.dropWhile fun a => decide (key a < low)) : low ≤ key a := by
  induction l with
  | nil => cases h
  | cons x l ih =>
      rw [List.pairwise_cons] at hl
      rw [List.dropWhile_cons] at h
      split_ifs at h with hx
      · exact ih hl.2 h
      · have hlow : low ≤ key x := Int.not_lt.1 fun hlt => hx (decide_eq_true hlt)
        rcases List.mem_cons.1 h with rfl | hmem
        · exact hlow
        · exact Int.le_trans hlow (hl.1 a hmem)

/-- The elements of a sorted list whose keys lie between two values stand side by side. -/
theorem filter_between (hl : l.Pairwise fun a b => key a ≤ key b) (low high : ℤ) :
    ∃ A mid C, l = A ++ mid ++ C ∧ (∀ a ∈ mid, low ≤ key a ∧ key a ≤ high) ∧
      (l.filter fun a => decide (low ≤ key a ∧ key a ≤ high)).length ≤ mid.length := by
  let A := l.takeWhile fun a => decide (key a < low)
  let rest := l.dropWhile fun a => decide (key a < low)
  let mid := rest.takeWhile fun a => decide (key a < high + 1)
  let C := rest.dropWhile fun a => decide (key a < high + 1)
  have hsplit : l = A ++ mid ++ C := by
    rw [List.append_assoc, List.takeWhile_append_dropWhile, List.takeWhile_append_dropWhile]
  have hA : A.filter (fun a => decide (low ≤ key a ∧ key a ≤ high)) = [] := by
    refine List.filter_eq_nil_iff.2 fun a ha => ?_
    have hlt := List.mem_takeWhile_imp ha
    simp only [decide_eq_true_eq] at hlt ⊢
    omega
  have hC : C.filter (fun a => decide (low ≤ key a ∧ key a ≤ high)) = [] := by
    refine List.filter_eq_nil_iff.2 fun a ha => ?_
    have hle := le_of_mem_dropWhile (hl.sublist (List.dropWhile_sublist _)) ha
    simp only [decide_eq_true_eq]
    omega
  refine ⟨A, mid, C, hsplit, fun a ha => ⟨?_, ?_⟩, ?_⟩
  · exact le_of_mem_dropWhile hl ((List.takeWhile_sublist _).mem ha)
  · have hlt := List.mem_takeWhile_imp ha
    simp only [decide_eq_true_eq] at hlt
    omega
  · rw [hsplit, List.filter_append, List.filter_append, hA, hC, List.append_nil, List.nil_append]
    exact List.length_filter_le _ _

variable (key) in
theorem exists_least : ∀ {g : List α}, g ≠ [] → ∃ a ∈ g, ∀ b ∈ g, key a ≤ key b
  | [a], _ => ⟨a, List.mem_singleton_self a, fun b hb => by
      obtain rfl := List.mem_singleton.1 hb
      exact Int.le_refl _⟩
  | a :: b :: g, _ => by
      obtain ⟨c, hc, hleast⟩ := exists_least (List.cons_ne_nil b g)
      by_cases hac : key a ≤ key c
      · refine ⟨a, List.mem_cons_self, fun d hd => ?_⟩
        rcases List.mem_cons.1 hd with rfl | hd
        · exact Int.le_refl _
        · exact Int.le_trans hac (hleast d hd)
      · refine ⟨c, List.mem_cons_of_mem _ hc, fun d hd => ?_⟩
        rcases List.mem_cons.1 hd with rfl | hd
        · omega
        · exact hleast d hd

/-- **The scan finds a largest group** of elements of a sorted list that are no more than `width` apart. -/
theorem widest_spec (hl : l.Pairwise fun a b => key a ≤ key b) (hwidth : 0 ≤ width) :
    ∃ best, widest key width l = some best ∧ best.Sublist l ∧ Within key width best ∧
      ∀ g : List α, g.Subperm l → Within key width g → g.length ≤ best.length := by
  obtain ⟨best, start, hscan, h⟩ := scan_spec hl hwidth l.length (Nat.le_refl _)
  refine ⟨best, by rw [widest, hscan]; rfl, h.sublist, h.within, fun g hg hin => ?_⟩
  by_cases hne : g = []
  · rw [hne]
    exact Nat.zero_le _
  · obtain ⟨a, ha, hleast⟩ := exists_least key hne
    obtain ⟨A, mid, C, hsplit, hmid, hcount⟩ := filter_between hl (key a) (key a + width)
    have hall : g.filter (fun b => decide (key a ≤ key b ∧ key b ≤ key a + width)) = g := by
      refine List.filter_eq_self.2 fun b hb => ?_
      have hle := hleast b hb
      have hnear := hin a ha b hb
      simp only [decide_eq_true_eq]
      omega
    have hgmid : g.length ≤ mid.length := by
      rw [← hall]
      exact Nat.le_trans (hg.filter _).length_le hcount
    have hpos : 0 < mid.length := Nat.lt_of_lt_of_le (List.length_pos_iff.2 hne) hgmid
    have hget {k : ℕ} (hk : k < mid.length) : l[A.length + k]? = some (mid[k]) := by
      rw [hsplit, List.append_assoc, List.getElem?_append_right (Nat.le_add_right _ _), Nat.add_sub_cancel_left,
        List.getElem?_append_left hk, List.getElem?_eq_getElem hk]
    have hlt : A.length + (mid.length - 1) < l.length := by
      rw [hsplit, List.length_append, List.length_append]
      omega
    have hfirst := hmid mid[0] (List.getElem_mem hpos)
    have hend : mid.length - 1 < mid.length := by omega
    have hlast := hmid mid[mid.length - 1] (List.getElem_mem hend)
    have hlarge := h.largest (A.length + 0) (A.length + (mid.length - 1)) _ _ (by omega) hlt (hget hpos)
      (hget (by omega)) (by omega)
    omega

end SlidingWindow

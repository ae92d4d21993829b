import Mathlib.Algebra.BigOperators.Group.List.Basic
import Mathlib.Data.List.Find
import Mathlib.Data.List.Induction
import Mathlib.Tactic.Common
import Obliance.Lib.KeyedTable

/-!
# Write-behind aggregation

Samples are folded into rows in memory. From time to time the rows in memory are taken as a batch, and a
batch is merged into the stored rows when its write lands.

* `Kind` : how a sample starts and continues an aggregate, and how aggregates merge; `Lawful`, `fold`;
* `fold_elim` : the columns of a fold that add up;
* `Kind.sum` : the parts of an aggregate merged from left to right; `sum_insert` : when a part may go first;
* `Row`, `statsAt` : the rows of a table or a batch, and the aggregate they have at a key;
* `accumulate`, `upsertRows` : a sample into the memory, a batch into the stored rows;
* `total` : what the stored rows, the batches on their way and the memory have at a key together;
* `total_take`, `total_land`, `total_accumulate` : what each step does to it.
-/

namespace WriteBehind

variable {β σ κ τ η : Type}

/-! ## Aggregates -/

structure Kind (β σ : Type) where
  first : β → σ
  add : σ → β → σ
  merge : σ → σ → σ

namespace Kind
variable {K : Kind β σ} {s : Option σ} {x : β} {a b : Option σ} {l pre post : List (Option σ)}

/-- Adding a sample is merging the aggregate of that sample alone. -/
structure Lawful (K : Kind β σ) : Prop where
  add_eq : ∀ s x, K.add s x = K.merge s (K.first x)
  merge_assoc : ∀ a b c, K.merge (K.merge a b) c = K.merge a (K.merge b c)

def Commutes (K : Kind β σ) : Prop := ∀ a b, K.merge a b = K.merge b a

def push (K : Kind β σ) (s : Option σ) (x : β) : Option σ := some (s.elim (K.first x) (K.add · x))

/-- The samples one by one. -/
def fold (K : Kind β σ) (xs : List β) : Option σ := xs.foldl K.push none

theorem fold_append_singleton (xs : List β) : K.fold (xs ++ [x]) = K.push (K.fold xs) x := by
  rw [fold, List.foldl_append, List.foldl_cons, List.foldl_nil, fold]

/-- A column that adds up over the samples. -/
theorem fold_elim {M : Type} [AddCommMonoid M] {m : σ → M} {w : β → M} (hfirst : ∀ x, m (K.first x) = w x)
    (hadd : ∀ s x, m (K.add s x) = m s + w x) (xs : List β) : (K.fold xs).elim 0 m = (xs.map w).sum := by
  induction xs using List.reverseRecOn with
  | nil => rfl
  | append_singleton xs x ih =>
      rw [fold_append_singleton, List.map_append, List.sum_append, ← ih, List.map_singleton, List.sum_singleton,
        push]
      cases K.fold xs with
      | none => exact (hfirst x).trans (zero_add _).symm
      | some s => exact hadd s x

/-- The parts, merged from left to right. -/
def sum (K : Kind β σ) (parts : List (Option σ)) : Option σ := parts.foldr (Option.merge K.merge) none

@[simp] theorem sum_nil : K.sum [] = none := rfl

@[simp] theorem sum_cons : K.sum (a :: l) = Option.merge K.merge a (K.sum l) := rfl

theorem push_eq (hK : K.Lawful) : K.push s x = Option.merge K.merge s (some (K.first x)) := by
  cases s with
  | none => rfl
  | some s => rw [push, Option.elim_some, hK.add_eq, Option.merge_some_some]

theorem merge_assoc (hK : K.Lawful) (c : Option σ) :
    Option.merge K.merge (Option.merge K.merge a b) c =
      Option.merge K.merge a (Option.merge K.merge b c) := by
  cases a <;> cases b <;> cases c <;> simp [hK.merge_assoc]

theorem sum_append (hK : K.Lawful) : K.sum (pre ++ post) = Option.merge K.merge (K.sum pre) (K.sum post) := by
  induction pre with
  | nil => rw [List.nil_append, sum_nil, Option.merge_none_left]
  | cons a pre ih => rw [List.cons_append, sum_cons, sum_cons, ih, merge_assoc hK]

/-- A part may be merged before the parts on its left if the order does not matter, or it is not there, or
they are not. -/
theorem sum_insert (hK : K.Lawful) (h : K.Commutes ∨ b = none ∨ ∀ a ∈ pre, a = none) :
    K.sum (pre ++ b :: post) = Option.merge K.merge b (K.sum (pre ++ post)) := by
  induction pre with
  | nil => rfl
  | cons a pre ih =>
      have htail : K.Commutes ∨ b = none ∨ ∀ a ∈ pre, a = none :=
        h.imp_right (Or.imp_right fun hnone a ha => hnone a (List.mem_cons_of_mem _ ha))
      rw [List.cons_append, sum_cons, ih htail, List.cons_append, sum_cons, ← merge_assoc hK, ← merge_assoc hK]
      congr 1
      rcases h with hcomm | rfl | hnone
      · cases a <;> cases b <;> simp [hcomm _ _]
      · rw [Option.merge_none_left, Option.merge_none_right]
      · rw [hnone a List.mem_cons_self, Option.merge_none_left, Option.merge_none_right]

end Kind

/-! ## Rows -/

/-- `label` stands for the columns that a merge leaves alone. -/
structure Row (κ η σ : Type) where
  key : κ
  label : η
  stats : σ
  deriving DecidableEq, Repr

def Row.update (f : σ → σ) (r : Row κ η σ) : Row κ η σ := { r with stats := f r.stats }

variable [DecidableEq κ] [DecidableEq τ] {K : Kind β σ} {text : κ → τ}
variable {rows batch memory : List (Row κ η σ)} {batches pre post : List (List (Row κ η σ))}
variable {buckets : List (τ × Row κ η σ)} {k k' : κ} {x : β} {label : η}

def statsAt (rows : List (Row κ η σ)) (k : κ) : Option σ := (KeyedTable.get Row.key rows k).map Row.stats

@[simp] theorem statsAt_nil : statsAt ([] : List (Row κ η σ)) k = none := rfl

theorem statsAt_eq_none_iff : statsAt rows k = none ↔ k ∉ rows.map Row.key := by
  rw [statsAt, Option.map_eq_none_iff, KeyedTable.get_eq_none_iff]
  simp

theorem statsAt_of_mem (h : KeyedTable.Keyed Row.key rows) {r : Row κ η σ} (hr : r ∈ rows) :
    statsAt rows r.key = some r.stats := by
  rw [statsAt, (KeyedTable.get_eq_some_iff h).2 ⟨hr, rfl⟩, Option.map_some]

/-- The rows of a batch, each inserted or merged into the row of its key. -/
def upsertRows (K : Kind β σ) (rows batch : List (Row κ η σ)) : List (Row κ η σ) :=
  batch.foldl (fun rows r => KeyedTable.upsert Row.key rows r (Row.update (K.merge · r.stats))) rows

theorem statsAt_upsert (f : σ → σ) (r : Row κ η σ) :
    statsAt (KeyedTable.upsert Row.key rows r (Row.update f)) k =
      if k = r.key then some ((statsAt rows k).elim r.stats f) else statsAt rows k := by
  have hkey (old : Row κ η σ) : (old.update f).key = old.key := rfl
  unfold statsAt
  rw [KeyedTable.get_upsert hkey]
  split_ifs with hk
  · cases KeyedTable.get Row.key rows k <;> rfl
  · rfl

theorem statsAt_upsertRows (h : KeyedTable.Keyed Row.key batch) :
    statsAt (upsertRows K rows batch) k = Option.merge K.merge (statsAt rows k) (statsAt batch k) := by
  induction batch generalizing rows with
  | nil => rw [statsAt_nil, Option.merge_none_right, upsertRows, List.foldl_nil]
  | cons r batch ih =>
      obtain ⟨hnotMem, htail⟩ := List.nodup_cons.1 h
      rw [upsertRows, List.foldl_cons, ← upsertRows, ih htail, statsAt_upsert]
      by_cases hk : k = r.key
      · have hnone : statsAt batch k = none := statsAt_eq_none_iff.2 (hk ▸ hnotMem)
        have hcons : statsAt (r :: batch) k = some r.stats := by
          rw [hk, statsAt_of_mem h List.mem_cons_self]
        rw [if_pos hk, hnone, hcons, Option.merge_none_right]
        cases statsAt rows k <;> rfl
      · have hcons : statsAt (r :: batch) k = statsAt batch k := by
          rw [statsAt, KeyedTable.get_cons, if_neg (Ne.symm hk), ← statsAt]
        rw [if_neg hk, hcons]

theorem keyed_upsertRows (h : KeyedTable.Keyed Row.key rows) :
    KeyedTable.Keyed Row.key (upsertRows K rows batch) := by
  induction batch generalizing rows with
  | nil => exact h
  | cons r batch ih =>
      have hkey (old : Row κ η σ) : (old.update (K.merge · r.stats)).key = old.key := rfl
      exact ih (KeyedTable.nodup_upsert hkey h)

/-! ## The memory -/

/-- A sample into the row of its key, under the text of the key. -/
def accumulate (K : Kind β σ) (text : κ → τ) (k : κ) (label : η) (x : β) (buckets : List (τ × Row κ η σ)) :
    List (τ × Row κ η σ) :=
  KeyedTable.upsert Prod.fst buckets (text k, ⟨k, label, K.first x⟩) fun e => (e.1, e.2.update (K.add · x))

/-- Each row stands once, under the text of its key. -/
structure Named (text : κ → τ) (buckets : List (τ × Row κ η σ)) : Prop where
  fst_eq : ∀ e ∈ buckets, e.1 = text e.2.key
  keyed : KeyedTable.Keyed Prod.fst buckets

omit [DecidableEq κ] [DecidableEq τ] in
theorem Named.nil : Named text ([] : List (τ × Row κ η σ)) :=
  ⟨fun _ he => absurd he List.not_mem_nil, List.nodup_nil⟩

omit [DecidableEq κ] in
theorem Named.accumulate (h : Named text buckets) : Named text (accumulate K text k label x buckets) where
  fst_eq := by
    intro e he
    rcases KeyedTable.mem_upsert_cases he with rfl | he | ⟨e₀, he₀, rfl⟩
    · rfl
    · exact h.fst_eq e he
    · exact h.fst_eq e₀ he₀
  keyed := by
    have hfst (e : τ × Row κ η σ) : Prod.fst (e.1, e.2.update (K.add · x)) = e.1 := rfl
    exact KeyedTable.nodup_upsert hfst h.keyed

omit [DecidableEq κ] [DecidableEq τ] in
/-- What is taken from the memory has no key twice. -/
theorem Named.rows_keyed (h : Named text buckets) : KeyedTable.Keyed Row.key (buckets.map Prod.snd) := by
  have htexts : buckets.map Prod.fst = ((buckets.map Prod.snd).map Row.key).map text := by
    rw [List.map_map, List.map_map]
    exact List.map_congr_left h.fst_eq
  have hkeyed := h.keyed
  rw [KeyedTable.Keyed, htexts] at hkeyed
  exact hkeyed.of_map text

theorem Named.get_snd (h : Named text buckets) (htext : Function.Injective text) :
    KeyedTable.get Row.key (buckets.map Prod.snd) k =
      (KeyedTable.get Prod.fst buckets (text k)).map Prod.snd := by
  unfold KeyedTable.get
  rw [List.find?_map]
  congr 1
  apply List.find?_congr
  intro e he
  simp [h.fst_eq e he, htext.eq_iff]

theorem statsAt_accumulate (h : Named text buckets) (htext : Function.Injective text) :
    statsAt ((accumulate K text k label x buckets).map Prod.snd) k' =
      if k' = k then K.push (statsAt (buckets.map Prod.snd) k) x else statsAt (buckets.map Prod.snd) k' := by
  have hfst (e : τ × Row κ η σ) : Prod.fst (e.1, e.2.update (K.add · x)) = e.1 := rfl
  unfold statsAt
  rw [h.accumulate.get_snd htext, h.get_snd htext, h.get_snd htext, accumulate, KeyedTable.get_upsert hfst]
  by_cases hk : k' = k
  · rw [if_pos hk, if_pos (by rw [hk]), hk]
    cases KeyedTable.get Prod.fst buckets (text k) <;> rfl
  · rw [if_neg hk, if_neg (htext.ne hk)]

/-! ## The whole -/

/-- What the stored rows, the batches in the order they were taken and the memory have at a key. -/
def total (K : Kind β σ) (rows : List (Row κ η σ)) (batches : List (List (Row κ η σ)))
    (memory : List (Row κ η σ)) (k : κ) : Option σ :=
  K.sum (statsAt rows k :: (batches.map (statsAt · k) ++ [statsAt memory k]))

/-- What is taken is on its way, and the memory no longer has it. -/
theorem total_take : total K rows (batches ++ [memory]) [] k = total K rows batches memory k := by
  simp [total, Kind.sum]

/-- A batch lands without a trace if no batch taken before it has one of its keys, or the order of the merges
does not matter. -/
theorem total_land (hK : K.Lawful) (hbatch : KeyedTable.Keyed Row.key batch)
    (h : K.Commutes ∨ ∀ earlier ∈ pre, ∀ r ∈ batch, r.key ∉ earlier.map Row.key) :
    total K (upsertRows K rows batch) (pre ++ post) memory k =
      total K rows (pre ++ batch :: post) memory k := by
  have hinsert : K.Commutes ∨ statsAt batch k = none ∨ ∀ a ∈ pre.map (statsAt · k), a = none := by
    refine h.imp_right fun hdisjoint => ?_
    by_cases hk : k ∈ batch.map Row.key
    · obtain ⟨r, hr, rfl⟩ := List.mem_map.1 hk
      refine .inr fun a ha => ?_
      obtain ⟨earlier, hearlier, rfl⟩ := List.mem_map.1 ha
      exact statsAt_eq_none_iff.2 (hdisjoint earlier hearlier r hr)
    · exact .inl (statsAt_eq_none_iff.2 hk)
  unfold total
  rw [Kind.sum_cons, Kind.sum_cons, statsAt_upsertRows hbatch, Kind.merge_assoc hK, List.map_append,
    List.map_append, List.map_cons, List.append_assoc, List.append_assoc, List.cons_append,
    Kind.sum_insert hK hinsert]

theorem total_accumulate (hK : K.Lawful) (hnamed : Named text buckets) (htext : Function.Injective text) :
    total K rows batches ((accumulate K text k label x buckets).map Prod.snd) k' =
      if k' = k then K.push (total K rows batches (buckets.map Prod.snd) k) x
      else total K rows batches (buckets.map Prod.snd) k' := by
  unfold total
  rw [statsAt_accumulate hnamed htext]
  split_ifs with hk
  · subst hk
    rw [← List.cons_append, ← List.cons_append, Kind.sum_append hK, Kind.sum_append hK, Kind.push_eq hK,
      Kind.push_eq hK, Kind.merge_assoc hK]
    congr 1
    simp [Kind.sum]
  · rfl

end WriteBehind

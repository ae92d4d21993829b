import Mathlib.Data.List.Nodup

/-!
# Tables as lists of rows with a key

* `get`, `modify`, `remove` : the row of a key, an update of it, its deletion;
* `get_eq_some_iff`, `get_filter` : with distinct keys, the row of a key is the row that carries it;
* `get_modify_self`, `get_modify_ne`, `get_remove_self`, `get_remove_ne`, `get_append_fresh` : what each write does to
  a read;
* `upsert`, `mem_upsert`, `get_upsert` : an insertion that updates the row of its key;
* `nodup_modify`, `nodup_remove`, `nodup_append`, `nodup_upsert` : the writes keep the keys distinct.
-/

namespace KeyedTable

universe u v
variable {ρ : Type u} {κ : Type v} [DecidableEq κ] (key : ρ → κ)

def get (t : List ρ) (k : κ) : Option ρ := t.find? fun r => key r = k

def modify (t : List ρ) (k : κ) (f : ρ → ρ) : List ρ := t.map fun r => if key r = k then f r else r

def remove (t : List ρ) (k : κ) : List ρ := t.filter fun r => key r ≠ k

/-- The primary key: no two rows with the same key. -/
def Keyed (t : List ρ) : Prop := (t.map key).Nodup

instance (t : List ρ) : Decidable (Keyed key t) := inferInstanceAs (Decidable (t.map key).Nodup)

variable {key} {t : List ρ} {k k' : κ} {r r' : ρ}

theorem key_of_get (h : get key t k = some r) : key r = k := by
  simpa using List.find?_some h

theorem mem_of_get (h : get key t k = some r) : r ∈ t := List.mem_of_find?_eq_some h

theorem get_eq_none_iff : get key t k = none ↔ ∀ r ∈ t, key r ≠ k := by
  simp [get, List.find?_eq_none]

omit [DecidableEq κ] in
theorem Keyed.eq_of_key (h : Keyed key t) (hr : r ∈ t) (hr' : r' ∈ t) (hk : key r = key r') : r = r' :=
  List.inj_on_of_nodup_map h hr hr' hk

theorem get_eq_some_iff (h : Keyed key t) : get key t k = some r ↔ r ∈ t ∧ key r = k := by
  constructor
  · exact fun hg => ⟨mem_of_get hg, key_of_get hg⟩
  · rintro ⟨hr, rfl⟩
    cases hg : get key t (key r) with
    | none => exact absurd rfl (get_eq_none_iff.1 hg r hr)
    | some r' => rw [h.eq_of_key (mem_of_get hg) hr (key_of_get hg)]

theorem get_cons (r : ρ) (t : List ρ) (k : κ) :
    get key (r :: t) k = if key r = k then some r else get key t k := by
  unfold get
  rw [List.find?_cons]
  by_cases h : key r = k <;> simp [h]

theorem get_isSome_iff : (get key t k).isSome ↔ ∃ r ∈ t, key r = k := by
  simp [get, List.find?_isSome]

/-- With distinct keys a key selects its row only. -/
theorem filter_key (h : Keyed key t) (hg : get key t k = some r) :
    (t.filter fun r => decide (key r = k)) = [r] := by
  induction t with
  | nil => cases hg
  | cons r₀ t ih =>
      obtain ⟨hnot, htail⟩ := List.nodup_cons.1 h
      rw [get_cons] at hg
      by_cases hk : key r₀ = k
      · rw [if_pos hk, Option.some.injEq] at hg
        have hrest : (t.filter fun r => decide (key r = k)) = [] := by
          rw [List.filter_eq_nil_iff]
          intro r' hr' he
          exact hnot (List.mem_map.2 ⟨r', hr', (of_decide_eq_true he).trans hk.symm⟩)
        rw [List.filter_cons, if_pos (decide_eq_true hk), hrest, hg]
      · rw [if_neg hk] at hg
        rw [List.filter_cons, if_neg fun he => hk (of_decide_eq_true he)]
        exact ih htail hg

theorem get_filter (h : Keyed key t) (p : ρ → Bool) : get key (t.filter p) k = (get key t k).filter p := by
  have hfilter : Keyed key (t.filter p) := h.sublist (List.filter_sublist.map key)
  ext r
  rw [get_eq_some_iff hfilter, Option.filter_eq_some_iff, get_eq_some_iff h, List.mem_filter]
  tauto

/-! ## Updates -/

section Modify
variable {f : ρ → ρ}

theorem get_map (hf : ∀ r, key (f r) = key r) : get key (t.map f) k = (get key t k).map f := by
  induction t with
  | nil => rfl
  | cons r t ih =>
      rw [List.map_cons, get_cons, get_cons, hf, ih]
      split_ifs <;> rfl

theorem key_ite (hf : ∀ r, key (f r) = key r) (r : ρ) : key (if key r = k then f r else r) = key r := by
  split_ifs
  · exact hf r
  · rfl

theorem get_modify (hf : ∀ r, key (f r) = key r) :
    get key (modify key t k f) k' = (get key t k').map fun r => if key r = k then f r else r :=
  get_map (key_ite hf)

theorem get_modify_self (hf : ∀ r, key (f r) = key r) :
    get key (modify key t k f) k = (get key t k).map f := by
  rw [get_modify hf]
  cases hg : get key t k with
  | none => rfl
  | some r => simp [key_of_get hg]

theorem get_modify_ne (hf : ∀ r, key (f r) = key r) (hk : k' ≠ k) :
    get key (modify key t k f) k' = get key t k' := by
  rw [get_modify hf]
  cases hg : get key t k' with
  | none => rfl
  | some r => simp [key_of_get hg, hk]

omit [DecidableEq κ] in
theorem map_key_map (hf : ∀ r, key (f r) = key r) : (t.map f).map key = t.map key := by
  rw [List.map_map]
  exact List.map_congr_left fun r _ => hf r

omit [DecidableEq κ] in
theorem nodup_map (hf : ∀ r, key (f r) = key r) (h : Keyed key t) : Keyed key (t.map f) := by
  rw [Keyed, map_key_map hf]
  exact h

theorem nodup_modify (hf : ∀ r, key (f r) = key r) (h : Keyed key t) : Keyed key (modify key t k f) :=
  nodup_map (key_ite hf) h

theorem mem_modify : r ∈ modify key t k f ↔ ∃ r' ∈ t, (if key r' = k then f r' else r') = r := by
  simp [modify]

end Modify

/-! ## Deletions and insertions -/

theorem mem_remove : r ∈ remove key t k ↔ r ∈ t ∧ key r ≠ k := by
  simp [remove]

theorem get_remove_self : get key (remove key t k) k = none :=
  get_eq_none_iff.2 fun _ hr => (mem_remove.1 hr).2

theorem get_remove_ne (hk : k' ≠ k) : get key (remove key t k) k' = get key t k' := by
  induction t with
  | nil => rfl
  | cons r t ih =>
      rw [remove, List.filter_cons, get_cons]
      by_cases h : key r = k'
      · rw [if_pos (by simp [h, hk]), get_cons]
        simp [h]
      · rw [if_neg h, ← ih]
        split_ifs
        · rw [get_cons, if_neg h]
          rfl
        · rfl

theorem nodup_remove (h : Keyed key t) : Keyed key (remove key t k) :=
  h.sublist (List.filter_sublist.map key)

theorem get_append_fresh (hr : get key t (key r) = none) :
    get key (t ++ [r]) k = if k = key r then some r else get key t k := by
  by_cases h : k = key r
  · rw [if_pos h, get, List.find?_append, ← get, h, hr]
    simp
  · rw [if_neg h, get, List.find?_append, ← get]
    simp [Ne.symm h]

theorem nodup_append (h : Keyed key t) (hr : get key t (key r) = none) : Keyed key (t ++ [r]) := by
  rw [Keyed, List.map_append]
  refine List.nodup_append.2 ⟨h, List.nodup_singleton _, ?_⟩
  rintro a ha b hb rfl
  obtain ⟨r', hr', rfl⟩ := List.mem_map.1 ha
  rw [List.map_singleton, List.mem_singleton] at hb
  exact get_eq_none_iff.1 hr r' hr' hb

/-! ## Upserts -/

section Upsert
variable {f : ρ → ρ}

/-- The row is inserted, or the row of its key updated. -/
def upsert (key : ρ → κ) (t : List ρ) (r : ρ) (f : ρ → ρ) : List ρ :=
  if (get key t (key r)).isSome then modify key t (key r) f else t ++ [r]

/-- An update that makes the row of the key the new row. -/
theorem mem_upsert (hf : ∀ r', key r' = key r → f r' = r) :
    r' ∈ upsert key t r f ↔ r' = r ∨ r' ∈ t ∧ key r' ≠ key r := by
  unfold upsert
  split_ifs with hs
  · obtain ⟨r₀, hr₀, hk₀⟩ := get_isSome_iff.1 hs
    rw [mem_modify]
    constructor
    · rintro ⟨r₁, hr₁, rfl⟩
      by_cases hk : key r₁ = key r
      · exact .inl (by rw [if_pos hk, hf r₁ hk])
      · rw [if_neg hk]
        exact .inr ⟨hr₁, hk⟩
    · rintro (rfl | ⟨hr', hk⟩)
      · exact ⟨r₀, hr₀, by rw [if_pos hk₀, hf r₀ hk₀]⟩
      · exact ⟨r', hr', if_neg hk⟩
  · have hnone : ∀ r₁ ∈ t, key r₁ ≠ key r := fun r₁ hr₁ hk => hs (get_isSome_iff.2 ⟨r₁, hr₁, hk⟩)
    rw [List.mem_append, List.mem_singleton]
    constructor
    · rintro (hr' | rfl)
      · exact .inr ⟨hr', hnone r' hr'⟩
      · exact .inl rfl
    · rintro (rfl | ⟨hr', -⟩)
      · exact .inr rfl
      · exact .inl hr'

theorem get_upsert (hf : ∀ r', key (f r') = key r') :
    get key (upsert key t r f) k =
      if k = key r then some ((get key t k).elim r f) else get key t k := by
  unfold upsert
  cases hold : get key t (key r) with
  | none =>
      rw [if_neg (by simp), get_append_fresh hold]
      split_ifs with hk
      · rw [hk, hold, Option.elim_none]
      · rfl
  | some old =>
      rw [if_pos (by simp)]
      split_ifs with hk
      · rw [hk, get_modify_self hf, hold, Option.map_some, Option.elim_some]
      · rw [get_modify_ne hf hk]

theorem nodup_upsert (hf : ∀ r', key (f r') = key r') (h : Keyed key t) : Keyed key (upsert key t r f) := by
  unfold upsert
  split_ifs with hs
  · exact nodup_modify hf h
  · exact nodup_append h (Option.not_isSome_iff_eq_none.1 hs)

/-- An update that makes the row of the key the new row. -/
theorem nodup_upsert_self (hf : ∀ r', key r' = key r → f r' = r) (h : Keyed key t) :
    Keyed key (upsert key t r f) := by
  unfold upsert
  split_ifs with hs
  · have hkeys : (modify key t (key r) f).map key = t.map key := by
      rw [modify, List.map_map]
      refine List.map_congr_left fun r' _ => ?_
      by_cases hk : key r' = key r
      · simp [hk, hf r' hk]
      · simp [hk]
    rw [Keyed, hkeys]
    exact h
  · exact nodup_append h (Option.not_isSome_iff_eq_none.1 hs)

theorem mem_upsert_cases (h : r' ∈ upsert key t r f) : r' = r ∨ r' ∈ t ∨ ∃ r₀ ∈ t, r' = f r₀ := by
  unfold upsert at h
  split_ifs at h with hs
  · obtain ⟨r₀, hr₀, rfl⟩ := mem_modify.1 h
    split_ifs
    · exact .inr (.inr ⟨r₀, hr₀, rfl⟩)
    · exact .inr (.inl hr₀)
  · rcases List.mem_append.1 h with h | h
    · exact .inr (.inl h)
    · exact .inl (List.mem_singleton.1 h)

end Upsert

end KeyedTable

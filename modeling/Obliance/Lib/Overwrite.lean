import Mathlib.Data.Set.Lattice

/-!
# Partial overwrites of a set

An overwrite settles membership on the part it covers and leaves the rest as it was.

* `Overwrite α` : what is covered and what is written there; `apply`, `comp`, `seq`;
* `apply_comp`, `apply_seq_cons` : overwrites one after another are one overwrite;
* `apply_eq_writes_iff` : the outcome is what was written iff nothing stood outside the covered part;
* `mem_seq_writes` : with disjoint parts, each keeps what was written to it.
-/

universe u v

/-- Membership settled on `covers`: inside it, exactly `writes`. -/
structure Overwrite (α : Type u) where
  covers : Set α
  writes : Set α
  writes_subset : writes ⊆ covers

namespace Overwrite
variable {α : Type u} {o p : Overwrite α} {s : Set α} {x : α}

def apply (o : Overwrite α) (s : Set α) : Set α := o.writes ∪ s \ o.covers

theorem mem_apply : x ∈ o.apply s ↔ x ∈ o.writes ∨ x ∈ s ∧ x ∉ o.covers := Iff.rfl

/-- Nothing is settled. -/
def skip : Overwrite α := ⟨∅, ∅, subset_rfl⟩

/-- `o`, then `p`: where both cover, `p` has the last word. -/
def comp (o p : Overwrite α) : Overwrite α where
  covers := o.covers ∪ p.covers
  writes := p.apply o.writes
  writes_subset := by
    apply Set.union_subset
    · exact p.writes_subset.trans Set.subset_union_right
    · exact Set.sdiff_subset.trans (o.writes_subset.trans Set.subset_union_left)

@[simp] theorem apply_skip : (skip : Overwrite α).apply s = s := by
  simp [apply, skip]

theorem apply_comp : (o.comp p).apply s = p.apply (o.apply s) := by
  ext x
  simp only [apply, comp, Set.mem_union, Set.mem_sdiff]
  tauto

theorem apply_eq_writes_iff : o.apply s = o.writes ↔ s ⊆ o.covers := by
  constructor
  · intro h x hx
    by_contra hout
    have hw : x ∈ o.writes := h ▸ mem_apply.2 (.inr ⟨hx, hout⟩)
    exact hout (o.writes_subset hw)
  · intro h
    rw [apply, Set.sdiff_eq_empty.2 h, Set.union_empty]

/-! ## Sequences -/

def seq : List (Overwrite α) → Overwrite α
  | [] => skip
  | o :: os => o.comp (seq os)

theorem apply_seq_cons {os : List (Overwrite α)} : (seq (o :: os)).apply s = (seq os).apply (o.apply s) :=
  apply_comp

theorem mem_seq_covers {os : List (Overwrite α)} : x ∈ (seq os).covers ↔ ∃ o ∈ os, x ∈ o.covers := by
  induction os with
  | nil => simp [seq, skip]
  | cons o os ih => simp [seq, comp, ih]

theorem mem_seq_writes {os : List (Overwrite α)} (h : os.Pairwise fun o p => ∀ x ∈ o.covers, x ∉ p.covers) :
    x ∈ (seq os).writes ↔ ∃ o ∈ os, x ∈ o.writes := by
  induction os with
  | nil => simp [seq, skip]
  | cons o os ih =>
      obtain ⟨hfirst, hrest⟩ := List.pairwise_cons.1 h
      have hout : x ∈ o.writes → x ∉ (seq os).covers := by
        intro hx hc
        obtain ⟨p, hp, hxp⟩ := mem_seq_covers.1 hc
        exact hfirst p hp x (o.writes_subset hx) hxp
      simp only [seq, comp, mem_apply, ih hrest, List.mem_cons, exists_eq_or_imp]
      constructor
      · rintro (h | ⟨h, -⟩)
        · exact .inr h
        · exact .inl h
      · rintro (h | h)
        · exact .inr ⟨h, hout h⟩
        · exact .inl h

end Overwrite

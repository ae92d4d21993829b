import Obliance.Lib.GuardedRun

/-!
# Machines that use up a measure

* `length_add_le` : a run of labels that each use up some of a measure is no longer than the measure;
* `exec_of_admits` : what every guarded step keeps, a guarded run keeps;
* `admits_or` : a run keeps to a guard, or ends with the mark that a step against it leaves.
-/

namespace GuardedRun.Machine

universe u v
variable {σ : Type u} {α : Type v} {M : Machine σ α} {I : σ → Prop} {ok : σ → α → Prop} {spends : α → Prop}

theorem length_add_le (measure : σ → ℕ) (hinv : ∀ s a t, I s → M.step s a = some t → I t)
    (hlt : ∀ s a t, I s → spends a → M.step s a = some t → measure t < measure s) {as : List α} {s t : σ}
    (hs : I s) (has : ∀ a ∈ as, spends a) (h : M.exec s as = some t) : as.length + measure t ≤ measure s := by
  induction as generalizing s with
  | nil =>
      obtain rfl := Option.some.inj h
      exact Nat.le_of_eq (Nat.zero_add _)
  | cons a as ih =>
      obtain ⟨u, hstep, hrest⟩ := Option.bind_eq_some_iff.1 h
      have hspent : measure u < measure s := hlt s a u hs (has a List.mem_cons_self) hstep
      have htail := ih (hinv s a u hs hstep) (fun b hb => has b (List.mem_cons_of_mem _ hb)) hrest
      rw [List.length_cons]
      omega

theorem exec_of_admits (hstep : ∀ s a t, I s → ok s a → M.step s a = some t → I t) {as : List α} {s t : σ}
    (hs : I s) (hok : M.Admits ok s as) (h : M.exec s as = some t) : I t := by
  induction as generalizing s with
  | nil =>
      obtain rfl := Option.some.inj h
      exact hs
  | cons a as ih =>
      obtain ⟨u, hu, hrest⟩ := Option.bind_eq_some_iff.1 h
      exact ih (hstep s a u hs hok.1 hu) (hok.2 u hu) hrest

/-- A guard that only looks at the label. -/
theorem admits_of_forall {P : α → Prop} : ∀ {as : List α} {s : σ}, (∀ a ∈ as, P a) → M.Admits (fun _ a => P a) s as
  | [], _, _ => trivial
  | a :: _, _, h => ⟨h a List.mem_cons_self, fun _ _ => admits_of_forall fun b hb => h b (List.mem_cons_of_mem _ hb)⟩

/-- Where a step against the guard leaves a mark for good, a run keeps to the guard or ends with the mark. -/
theorem admits_or {B : σ → Prop} (hstep : ∀ s a t, I s → M.step s a = some t → I t)
    (hbreak : ∀ s a t, I s → ¬ ok s a → M.step s a = some t → B t)
    (hbad : ∀ s a t, I s → B s → M.step s a = some t → B t) {as : List α} {s t : σ}
    (hs : I s) (h : M.exec s as = some t) : M.Admits ok s as ∨ B t := by
  induction as generalizing s with
  | nil => exact .inl trivial
  | cons a as ih =>
      obtain ⟨u, hu, hrest⟩ := Option.bind_eq_some_iff.1 h
      have hkept : I u := hstep s a u hs hu
      by_cases hok : ok s a
      · refine (ih hkept hrest).imp_left fun htail => ⟨hok, fun v hv => ?_⟩
        obtain rfl := Option.some.inj (hu.symm.trans hv)
        exact htail
      · have hmarked : I t ∧ B t :=
          exec_of_admits (I := fun s => I s ∧ B s)
            (fun s a t h (_ : anyStep s a) hs => ⟨hstep s a t h.1 hs, hbad s a t h.1 h.2 hs⟩)
            ⟨hkept, hbreak s a u hs hok hu⟩
            (admits_anyStep M as u) hrest
        exact .inr hmarked.2

end GuardedRun.Machine

import Mathlib.Data.List.Basic

/-!
# Folds that may refuse an item

A loop over items in which an item is refused or acts on the state, by what the item is and not by
the state, as long as an invariant holds: the loop is refused when one of its items is.
-/

namespace GuardedFold

universe u v w
variable {σ : Type u} {α : Type v} {κ : Type w}

/-- `I` is the invariant, `bad` says which items are refused, `act` what the others do. -/
theorem foldlM_eq {f : σ → α → Option σ} (I : σ → Prop) (bad : α → Prop) [DecidablePred bad] (act : σ → α → σ)
    (items : List α) (hstep : ∀ s, I s → ∀ x ∈ items, f s x = if bad x then none else some (act s x))
    (hinv : ∀ s, I s → ∀ x ∈ items, ¬ bad x → I (act s x)) :
    ∀ {s : σ}, I s →
      items.foldlM f s = if ∃ x ∈ items, bad x then none else some (items.foldl act s) := by
  induction items with
  | nil => exact fun {s} _ => by simp
  | cons x items ih =>
      intro s hs
      rw [List.foldlM_cons, hstep s hs x List.mem_cons_self]
      by_cases hx : bad x
      · simp [hx]
      · have htail := ih (fun s hs y hy => hstep s hs y (List.mem_cons_of_mem _ hy))
          (fun s hs y hy => hinv s hs y (List.mem_cons_of_mem _ hy)) (hinv s hs x List.mem_cons_self hx)
        rw [if_neg hx, Option.bind_eq_bind, Option.bind_some, htail]
        simp [hx]

/-- A loop that refuses every item only ends when there is none. -/
theorem foldlM_refused {f : σ → α → Option σ} {p : Prop} [Decidable p] {items : List α}
    (h : ∀ s, ∀ x ∈ items, f s x = none) (hp : p ↔ ∃ x, x ∈ items) (s : σ) :
    items.foldlM f s = if p then none else some s := by
  cases items with
  | nil =>
      have hnot : ¬ p := by simp [hp]
      rw [if_neg hnot, List.foldlM_nil]
      rfl
  | cons x items =>
      have hyes : p := hp.2 ⟨x, List.mem_cons_self⟩
      rw [if_pos hyes, List.foldlM_cons, h s x List.mem_cons_self]
      rfl

theorem foldl_snd (act : σ → α → σ) (items : List α) (k : κ) :
    ∀ s : σ, items.foldl (fun p x => (p.1, act p.2 x)) (k, s) = (k, items.foldl act s) := by
  induction items with
  | nil => exact fun _ => rfl
  | cons x items ih => exact fun s => ih _

/-- The same for a loop that also carries something it leaves as it was. -/
theorem foldlM_snd_eq {f : κ × σ → α → Option (κ × σ)} (I : σ → Prop) (bad : α → Prop) [DecidablePred bad]
    (act : σ → α → σ) (items : List α) (k : κ)
    (hstep : ∀ s, I s → ∀ x ∈ items, f (k, s) x = if bad x then none else some (k, act s x))
    (hinv : ∀ s, I s → ∀ x ∈ items, ¬ bad x → I (act s x)) {s : σ} (hs : I s) :
    items.foldlM f (k, s) = if ∃ x ∈ items, bad x then none else some (k, items.foldl act s) := by
  rw [← foldl_snd]
  apply foldlM_eq (fun p => p.1 = k ∧ I p.2) bad (fun p x => (p.1, act p.2 x)) items
  · rintro ⟨_, s⟩ ⟨rfl, hs⟩ x hx
    exact hstep s hs x hx
  · rintro ⟨_, s⟩ ⟨rfl, hs⟩ x hx hbad
    exact ⟨rfl, hinv s hs x hx hbad⟩
  · exact ⟨rfl, hs⟩

end GuardedFold

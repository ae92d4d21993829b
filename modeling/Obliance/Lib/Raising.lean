import Mathlib.Data.List.Basic

/-!
# Searches and maps that may raise

A test `p : α → Option Bool` raises where it is `none`. `List.anyM p` stops at the first element that is not
answered `false`; `List.mapM` asks for all of them.

* `AnsweredBy p v l` : the first element of `l` that is not answered `false` is answered by `v`;
* `anyM_eq_true_iff`, `anyM_eq_none_iff` : a search finds, or raises, by its first such element;
* `anyM_append` : two searches one after the other;
* `mapM_eq_none_iff`, `mem_of_mapM` : a map raises by any element, and what it gives otherwise.
-/

namespace Raising

universe u v
variable {α : Type u} {β : Type v}

/-- The elements before are answered `false`, this one by `v`. -/
def AnsweredBy (p : α → Option Bool) (v : Option Bool) (l : List α) : Prop :=
  ∃ before x after, l = before ++ x :: after ∧ p x = v ∧ ∀ y ∈ before, p y = some false

section Search
variable {p : α → Option Bool} {l l' : List α} {x : α} {v : Option Bool}

theorem not_answeredBy_nil : ¬ AnsweredBy p v [] := by
  rintro ⟨before, x, after, heq, -⟩
  simp at heq

theorem answeredBy_cons_of_false (hx : p x = some false) (hv : v ≠ some false) :
    AnsweredBy p v (x :: l) ↔ AnsweredBy p v l := by
  constructor
  · rintro ⟨before, y, after, heq, hy, hbefore⟩
    cases before with
    | nil =>
        obtain ⟨rfl, rfl⟩ := List.cons.inj heq
        exact absurd (hy.symm.trans hx) hv
    | cons z before =>
        obtain ⟨rfl, rfl⟩ := List.cons.inj heq
        exact ⟨before, y, after, rfl, hy, fun w hw => hbefore w (List.mem_cons_of_mem _ hw)⟩
  · rintro ⟨before, y, after, rfl, hy, hbefore⟩
    refine ⟨x :: before, y, after, rfl, hy, fun w hw => ?_⟩
    rcases List.mem_cons.1 hw with rfl | hw
    · exact hx
    · exact hbefore w hw

theorem answeredBy_cons_of_ne (hx : p x ≠ some false) : AnsweredBy p v (x :: l) ↔ p x = v := by
  constructor
  · rintro ⟨before, y, after, heq, hy, hbefore⟩
    cases before with
    | nil => exact (List.cons.inj heq).1 ▸ hy
    | cons z before => exact absurd ((List.cons.inj heq).1 ▸ hbefore z List.mem_cons_self) hx
  · exact fun hv => ⟨[], x, l, rfl, hv, fun _ h => (List.not_mem_nil h).elim⟩

theorem anyM_cons (p : α → Option Bool) (x : α) (l : List α) :
    (x :: l).anyM p = (p x).bind fun found => if found then some true else l.anyM p := by
  rw [List.anyM_cons]
  rfl

/-- A search ends at the first element that is not answered `false`. -/
theorem anyM_eq_iff (hv : v ≠ some false) : l.anyM p = v ↔ AnsweredBy p v l := by
  induction l with
  | nil => exact iff_of_false (fun h => hv h.symm) not_answeredBy_nil
  | cons x l ih =>
      rw [anyM_cons]
      by_cases hx : p x = some false
      · rw [answeredBy_cons_of_false hx hv, ← ih, hx]
        rfl
      · rw [answeredBy_cons_of_ne hx]
        match hp : p x with
        | none => rfl
        | some true => rfl
        | some false => exact absurd hp hx

theorem anyM_eq_true_iff : l.anyM p = some true ↔ AnsweredBy p (some true) l := anyM_eq_iff (by decide)

theorem anyM_eq_none_iff : l.anyM p = none ↔ AnsweredBy p none l := anyM_eq_iff (by decide)

theorem anyM_append (p : α → Option Bool) (l l' : List α) :
    (l ++ l').anyM p = (l.anyM p).bind fun found => if found then some true else l'.anyM p := by
  induction l with
  | nil => rfl
  | cons x l ih =>
      rw [List.cons_append, anyM_cons, anyM_cons, ih]
      match p x with
      | none => rfl
      | some true => rfl
      | some false => rfl

/-- Where no test raises it is the search of the answers. -/
theorem anyM_some (q : α → Bool) (l : List α) : l.anyM (fun x => some (q x)) = some (l.any q) :=
  List.anyM_pure

theorem exists_of_answeredBy (h : AnsweredBy p (some true) l) : ∃ x ∈ l, p x = some true := by
  obtain ⟨before, x, after, rfl, hx, -⟩ := h
  exact ⟨x, List.mem_append_right _ List.mem_cons_self, hx⟩

/-- Where nothing raises the first element that is answered `true` is found. -/
theorem answeredBy_of_exists (hp : ∀ y ∈ l, p y ≠ none) (hx : x ∈ l) (htrue : p x = some true) :
    AnsweredBy p (some true) l := by
  induction l with
  | nil => exact (List.not_mem_nil hx).elim
  | cons y l ih =>
      by_cases hy : p y = some false
      · rw [answeredBy_cons_of_false hy (by decide)]
        rcases List.mem_cons.1 hx with rfl | hx
        · rw [hy] at htrue
          cases htrue
        · exact ih (fun z hz => hp z (List.mem_cons_of_mem _ hz)) hx
      · rw [answeredBy_cons_of_ne hy]
        match hvalue : p y with
        | none => exact absurd hvalue (hp y List.mem_cons_self)
        | some true => rfl
        | some false => exact absurd hvalue hy

end Search

section Map
variable {f : α → Option β} {l : List α} {bs : List β}

theorem mapM_cons (f : α → Option β) (x : α) (l : List α) :
    (x :: l).mapM f = (f x).bind fun b => (l.mapM f).map (b :: ·) := by
  rw [List.mapM_cons]
  cases f x with
  | none => rfl
  | some b => cases l.mapM f <;> rfl

theorem mapM_eq_none_iff : l.mapM f = none ↔ ∃ x ∈ l, f x = none := by
  induction l with
  | nil => simp
  | cons x l ih =>
      rw [mapM_cons]
      cases hx : f x with
      | none => simp [hx]
      | some b => simp [hx, ih]

/-- What the map gives are the answers of the elements. -/
theorem mem_of_mapM (h : l.mapM f = some bs) {b : β} : b ∈ bs ↔ ∃ x ∈ l, f x = some b := by
  induction l generalizing bs with
  | nil =>
      obtain rfl := Option.some.inj h
      simp
  | cons x l ih =>
      rw [mapM_cons, Option.bind_eq_some_iff] at h
      obtain ⟨b₀, hx, h⟩ := h
      obtain ⟨rest, hrest, rfl⟩ := Option.map_eq_some_iff.1 h
      rw [List.mem_cons, ih hrest]
      simp [hx, eq_comm]

theorem mapM_some (g : α → β) (l : List α) : l.mapM (fun x => some (g x)) = some (l.map g) := by
  induction l with
  | nil => rfl
  | cons x l ih => rw [mapM_cons, ih]; rfl

end Map

end Raising

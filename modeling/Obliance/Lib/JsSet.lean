import Mathlib.Data.List.Nodup

/-!
# Insertion-ordered sets

The built-in `Set` of JavaScript as the list of its elements in insertion order: `add` keeps the
place of an element that is already there, `delete` removes it, and iteration is the list.
-/

namespace JsSet

universe u
variable {α : Type u} [DecidableEq α]

def add (s : List α) (x : α) : List α := if x ∈ s then s else s ++ [x]

def delete (s : List α) (x : α) : List α := s.filter (· ≠ x)

/-- `new Set(xs)` -/
def ofList (xs : List α) : List α := xs.foldl add []

/-- The elements `f b` of the selected `b`, added in order. -/
def addAll {β : Type*} (s : List α) (bs : List β) (p : β → Bool) (f : β → α) : List α :=
  bs.foldl (fun s b => if p b then add s (f b) else s) s

def deleteAll {β : Type*} (s : List α) (bs : List β) (p : β → Bool) (f : β → α) : List α :=
  bs.foldl (fun s b => if p b then delete s (f b) else s) s

@[simp] theorem mem_add {s : List α} {x y : α} : y ∈ add s x ↔ y ∈ s ∨ y = x := by
  unfold add
  split_ifs with h
  · exact ⟨.inl, fun hy => hy.elim id fun e => e ▸ h⟩
  · simp

@[simp] theorem mem_delete {s : List α} {x y : α} : y ∈ delete s x ↔ y ∈ s ∧ y ≠ x := by
  simp [delete]

theorem nodup_add {s : List α} {x : α} (h : s.Nodup) : (add s x).Nodup := by
  unfold add
  split_ifs with hx
  · exact h
  · exact List.nodup_append.2 ⟨h, List.nodup_singleton x, fun a ha b hb hab =>
      hx (List.mem_singleton.1 hb ▸ hab ▸ ha)⟩

theorem nodup_foldl_add : ∀ (xs s : List α), s.Nodup → (xs.foldl add s).Nodup
  | [], _, hs => hs
  | _ :: xs, _, hs => nodup_foldl_add xs _ (nodup_add hs)

theorem nodup_ofList (xs : List α) : (ofList xs).Nodup := nodup_foldl_add xs [] List.nodup_nil

theorem mem_foldl_add {xs : List α} {y : α} : ∀ {s : List α}, y ∈ xs.foldl add s ↔ y ∈ s ∨ y ∈ xs := by
  induction xs with
  | nil => simp
  | cons x xs ih =>
      intro s
      rw [List.foldl_cons, ih, mem_add, List.mem_cons, or_assoc]

theorem mem_ofList {xs : List α} {y : α} : y ∈ ofList xs ↔ y ∈ xs := by
  rw [ofList, mem_foldl_add, or_iff_right List.not_mem_nil]

theorem foldl_add_of_nodup {xs : List α} : ∀ {s : List α}, (s ++ xs).Nodup → xs.foldl add s = s ++ xs := by
  induction xs with
  | nil => exact fun _ => (List.append_nil _).symm
  | cons x xs ih =>
      intro s h
      have hx : x ∉ s := fun hmem => (List.nodup_append.1 h).2.2 x hmem x List.mem_cons_self rfl
      rw [← List.singleton_append, ← List.append_assoc] at h ⊢
      rw [List.singleton_append, List.foldl_cons, add, if_neg hx, ih h]

/-- A list without duplicates is its own set. -/
theorem ofList_of_nodup {xs : List α} (h : xs.Nodup) : ofList xs = xs := foldl_add_of_nodup (s := []) h

section Selected
variable {β : Type*} {p : β → Bool} {f : β → α} {y : α}

theorem mem_addAll {bs : List β} :
    ∀ {s : List α}, y ∈ addAll s bs p f ↔ y ∈ s ∨ ∃ b ∈ bs, p b = true ∧ f b = y := by
  induction bs with
  | nil => simp [addAll]
  | cons b bs ih =>
      intro s
      rw [addAll, List.foldl_cons]
      change y ∈ addAll (if p b then add s (f b) else s) bs p f ↔ _
      rw [ih]
      cases hb : p b with
      | false => simp [hb]
      | true => simp [hb, or_assoc, eq_comm (a := y)]

theorem mem_deleteAll {bs : List β} :
    ∀ {s : List α}, y ∈ deleteAll s bs p f ↔ y ∈ s ∧ ∀ b ∈ bs, p b = true → f b ≠ y := by
  induction bs with
  | nil => simp [deleteAll]
  | cons b bs ih =>
      intro s
      rw [deleteAll, List.foldl_cons]
      change y ∈ deleteAll (if p b then delete s (f b) else s) bs p f ↔ _
      rw [ih]
      cases hb : p b with
      | false => simp [hb]
      | true => simp [hb, and_assoc, eq_comm (a := y)]

end Selected

end JsSet

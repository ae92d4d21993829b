import Mathlib.Data.Finset.Card
import Mathlib.Data.List.Nodup
import Obliance.Lib.JsSet

/-!
# The first elements with different keys

A loop over a list keeps an element unless one with its key is kept already, and stops once it holds `n`.

* `collect` : the loop, with the keys it has seen beside what it keeps;
* `Kept` : the invariant, the kept elements have different keys and come from the list;
* `collect_full_or_all` : the loop stops at `n` elements or keeps every key of the list;
* `collect_append_of_full` : a first part with `n` different keys is all that is kept;
* `keeps_all_iff` : it keeps every key exactly when the list has at most `n` different ones.
-/

namespace FirstDistinct

universe u v
variable {α : Type u} {κ : Type v}

def collect [DecidableEq κ] (key : α → κ) (n : ℕ) (seen : List κ) (top : List α) : List α → List α
  | [] => top
  | x :: xs =>
      if key x ∈ seen then collect key n seen top xs
      else if n ≤ (top ++ [x]).length then top ++ [x]
      else collect key n (JsSet.add seen (key x)) (top ++ [x]) xs

structure Kept (key : α → κ) (n : ℕ) (seen : List κ) (top : List α) : Prop where
  seen_iff : ∀ k, k ∈ seen ↔ k ∈ top.map key
  nodup : (top.map key).Nodup
  room : top.length < n

variable {key : α → κ} {n : ℕ} {seen : List κ} {top : List α} {x : α}

theorem Kept.start (hn : 0 < n) : Kept key n [] ([] : List α) := ⟨by simp, by simp, by simpa⟩

theorem Kept.nodup_append (h : Kept key n seen top) (hx : key x ∉ seen) : ((top ++ [x]).map key).Nodup := by
  rw [List.map_append, List.map_singleton]
  exact List.nodup_append.2 ⟨h.nodup, List.nodup_singleton _, fun a ha b hb hab =>
    hx ((h.seen_iff _).2 (List.mem_singleton.1 hb ▸ hab ▸ ha))⟩

variable [DecidableEq κ]

theorem Kept.add (h : Kept key n seen top) (hx : key x ∉ seen) (hroom : ¬ n ≤ (top ++ [x]).length) :
    Kept key n (JsSet.add seen (key x)) (top ++ [x]) where
  seen_iff := fun k => by rw [JsSet.mem_add, h.seen_iff]; simp
  nodup := h.nodup_append hx
  room := not_le.1 hroom

theorem mem_collect (xs : List α) :
    ∀ {seen top y}, y ∈ collect key n seen top xs → y ∈ top ∨ y ∈ xs := by
  induction xs with
  | nil => exact fun h => .inl h
  | cons x xs ih =>
      intro seen top y h
      have hlast : y ∈ top ++ [x] → y ∈ top ∨ y ∈ x :: xs := fun hy =>
        (List.mem_append.1 hy).imp_right fun e => List.mem_cons.2 (.inl (List.mem_singleton.1 e))
      rw [collect] at h
      split_ifs at h
      · exact (ih h).imp_right (List.mem_cons_of_mem x)
      · exact hlast h
      · exact (ih h).elim hlast fun hy => .inr (List.mem_cons_of_mem x hy)

theorem nodup_collect (xs : List α) :
    ∀ {seen top}, Kept key n seen top → ((collect key n seen top xs).map key).Nodup := by
  induction xs with
  | nil => exact fun h => h.nodup
  | cons x xs ih =>
      intro seen top h
      rw [collect]
      split_ifs with hseen hroom
      · exact ih h
      · exact h.nodup_append hseen
      · exact ih (h.add hseen hroom)

theorem length_collect_le (xs : List α) :
    ∀ {seen top}, Kept key n seen top → (collect key n seen top xs).length ≤ n := by
  induction xs with
  | nil => exact fun h => h.room.le
  | cons x xs ih =>
      intro seen top h
      rw [collect]
      split_ifs with hseen hroom
      · exact ih h
      · have := h.room
        rw [List.length_append, List.length_singleton]
        omega
      · exact ih (h.add hseen hroom)

/-- Before the loop is full it passes over no new key. -/
theorem collect_full_or_all (xs : List α) :
    ∀ {seen top}, Kept key n seen top →
      (collect key n seen top xs).length = n ∨
        ∀ k, k ∈ top.map key ∨ k ∈ xs.map key → k ∈ (collect key n seen top xs).map key := by
  induction xs with
  | nil => exact fun h => .inr fun k hk => hk.elim id fun h => absurd h List.not_mem_nil
  | cons x xs ih =>
      intro seen top h
      rw [collect]
      split_ifs with hseen hroom
      · refine (ih h).imp_right fun hall k hk => ?_
        rw [List.map_cons, List.mem_cons] at hk
        obtain hk | rfl | hk := hk
        · exact hall k (.inl hk)
        · exact hall _ (.inl ((h.seen_iff _).1 hseen))
        · exact hall k (.inr hk)
      · have := h.room
        refine .inl (le_antisymm ?_ hroom)
        rw [List.length_append, List.length_singleton]
        omega
      · refine (ih (h.add hseen hroom)).imp_right fun hall k hk => ?_
        rw [List.map_cons, List.mem_cons] at hk
        obtain hk | rfl | hk := hk
        · exact hall k (.inl (by simp [hk]))
        · exact hall _ (.inl (by simp))
        · exact hall k (.inr hk)

theorem collect_append_of_full {ys : List α} (xs : List α) :
    ∀ {seen top}, Kept key n seen top → ((top ++ xs).map key).Nodup → (top ++ xs).length = n →
      collect key n seen top (xs ++ ys) = top ++ xs := by
  induction xs with
  | nil =>
      intro seen top h hnd hlen
      have := h.room
      rw [List.append_nil] at hlen
      omega
  | cons x xs ih =>
      intro seen top h hnd hlen
      have hsplit : top ++ x :: xs = (top ++ [x]) ++ xs := by simp
      have hseen : key x ∉ seen := fun hx => by
        rw [List.map_append, List.map_cons, List.nodup_append] at hnd
        exact hnd.2.2 _ ((h.seen_iff _).1 hx) _ List.mem_cons_self rfl
      rw [List.cons_append, collect, if_neg hseen]
      rw [hsplit] at hnd hlen ⊢
      split_ifs with hroom
      · have hnil : xs = [] := List.eq_nil_of_length_eq_zero (by rw [List.length_append] at hlen; omega)
        rw [hnil, List.append_nil]
      · exact ih (h.add hseen hroom) hnd hlen

/-- The keys kept are those of the list exactly when there are at most `n` of them. -/
theorem keeps_all_iff (hn : 0 < n) (xs : List α) :
    (∀ k, k ∈ (collect key n [] [] xs).map key ↔ k ∈ xs.map key) ↔ (xs.map key).toFinset.card ≤ n := by
  have hkept : Kept key n [] ([] : List α) := .start hn
  have hcard : ((collect key n [] [] xs).map key).toFinset.card = (collect key n [] [] xs).length := by
    rw [List.toFinset_card_of_nodup (nodup_collect xs hkept), List.length_map]
  have hsub : ∀ k, k ∈ (collect key n [] [] xs).map key → k ∈ xs.map key := fun k hk => by
    obtain ⟨y, hy, rfl⟩ := List.mem_map.1 hk
    exact List.mem_map_of_mem ((mem_collect xs hy).resolve_left List.not_mem_nil)
  constructor
  · intro hall
    have heq : (xs.map key).toFinset = ((collect key n [] [] xs).map key).toFinset := by
      ext k
      rw [List.mem_toFinset, List.mem_toFinset, hall]
    rw [heq, hcard]
    exact length_collect_le xs hkept
  · intro hle k
    refine ⟨hsub k, fun hk => ?_⟩
    obtain hfull | hall := collect_full_or_all xs hkept
    · have heq := Finset.eq_of_subset_of_card_le
        (fun k hk => List.mem_toFinset.2 (hsub k (List.mem_toFinset.1 hk)))
        (hle.trans (hfull.ge.trans hcard.ge))
      exact List.mem_toFinset.1 (heq ▸ List.mem_toFinset.2 hk)
    · exact hall k (.inr hk)

end FirstDistinct

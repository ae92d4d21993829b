import Mathlib.Data.Rat.Defs
import Mathlib.Tactic.Common

/-!
# JavaScript values and maps

* `JsVal` : the values a JSON payload can hold, with objects and arrays by their JSON text;
* `truthy`, `or`, `orElse` : the conditions of `if`, `||` and `??`;
* `JsMap` : the built-in `Map`, as far as `get` and `set` see it.
-/

namespace Obliance.Js

inductive JsVal where
  | undefined
  | null
  | bool (b : Bool)
  | num (q : ℚ)
  | str (s : String)
  | obj (json : String)
  deriving DecidableEq, Repr

namespace JsVal

/-- The condition of `if (v)`. -/
def truthy : JsVal → Bool
  | undefined => false
  | null => false
  | bool b => b
  | num q => decide (q ≠ 0)
  | str s => decide (s ≠ "")
  | obj _ => true

/-- `v ?? d` -/
def orElse (v d : JsVal) : JsVal :=
  match v with
  | undefined => d
  | null => d
  | v => v

/-- `v || d` -/
def or (v d : JsVal) : JsVal := if v.truthy then v else d

end JsVal

/-- The entries of a `Map`, the newest first. -/
abbrev JsMap (κ ν : Type) := List (κ × ν)

namespace JsMap
variable {κ ν : Type} [DecidableEq κ]

def set (m : JsMap κ ν) (k : κ) (v : ν) : JsMap κ ν := (k, v) :: m

def get (m : JsMap κ ν) (k : κ) : Option ν := (m.find? fun e => e.1 = k).map Prod.snd

@[simp] theorem get_empty (k : κ) : get ([] : JsMap κ ν) k = none := rfl

theorem get_set (m : JsMap κ ν) (k k' : κ) (v : ν) :
    (m.set k v).get k' = if k' = k then some v else m.get k' := by
  unfold get set
  rw [List.find?_cons]
  by_cases h : k = k'
  · simp [h]
  · simp [h, Ne.symm h]

theorem get_map {μ : Type} (m : JsMap κ ν) (f : ν → μ) (k : κ) :
    get (m.map fun e => (e.1, f e.2)) k = (m.get k).map f := by
  unfold get
  rw [List.find?_map, Option.map_map, Option.map_map]
  rfl

theorem lookup_eq_get (m : JsMap κ ν) (k : κ) : List.lookup k m = m.get k := by
  unfold get
  induction m with
  | nil => rfl
  | cons e m ih =>
      rw [List.lookup_cons, List.find?_cons, ih]
      by_cases h : k = e.1
      · simp [h]
      · rw [beq_eq_false_iff_ne.2 h, decide_eq_false (Ne.symm h)]

section OfList
variable {α : Type} {f : α → κ} {v : α → ν} {l : List α} {k : κ}

theorem get_foldl_set_of_notMem (h : ∀ a ∈ l, f a ≠ k) :
    ∀ m : JsMap κ ν, (l.foldl (fun m a => m.set (f a) (v a)) m).get k = m.get k := by
  induction l with
  | nil => exact fun _ => rfl
  | cons a l ih =>
      intro m
      rw [List.foldl_cons, ih fun b hb => h b (List.mem_cons_of_mem _ hb), get_set,
        if_neg (h a List.mem_cons_self).symm]

/-- A map made of entries with distinct keys has each of them. -/
theorem get_foldl_set_of_mem (hd : (l.map f).Nodup) {a : α} (ha : a ∈ l) :
    ∀ m : JsMap κ ν, (l.foldl (fun m a => m.set (f a) (v a)) m).get (f a) = some (v a) := by
  induction l with
  | nil => cases ha
  | cons b l ih =>
      intro m
      obtain ⟨hb, hl⟩ := List.nodup_cons.1 hd
      rw [List.foldl_cons]
      rcases List.mem_cons.1 ha with rfl | ha
      · have hout : ∀ c ∈ l, f c ≠ f a := fun c hc he => hb (List.mem_map.2 ⟨c, hc, he⟩)
        rw [get_foldl_set_of_notMem hout, get_set, if_pos rfl]
      · exact ih hl ha _

end OfList

/-- Every value the map holds satisfies `p`. -/
def Holds (p : ν → Prop) (m : JsMap κ ν) : Prop := ∀ e ∈ m, p e.2

omit [DecidableEq κ] in
theorem Holds.set {p : ν → Prop} {m : JsMap κ ν} (h : Holds p m) {v : ν} (hv : p v) (k : κ) :
    Holds p (m.set k v) := by
  intro e he
  rcases List.mem_cons.1 he with rfl | he
  · exact hv
  · exact h e he

theorem Holds.get {p : ν → Prop} {m : JsMap κ ν} (h : Holds p m) {k : κ} {v : ν}
    (hg : m.get k = some v) : p v := by
  obtain ⟨e, he, rfl⟩ := Option.map_eq_some_iff.1 hg
  exact h e (List.mem_of_find?_eq_some he)

omit [DecidableEq κ] in
theorem Holds.mono {p q : ν → Prop} {m : JsMap κ ν} (h : Holds p m) (hpq : ∀ v, p v → q v) :
    Holds q m := fun e he => hpq _ (h e he)

end JsMap

end Obliance.Js

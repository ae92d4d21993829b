import Obliance.Groups.Runs

/-!
# Moves that fail and moves that succeed (`services/group.service.ts`, `move`)

* `Refused` : the new parent is the group, is below it or does not exist;
* `MoveExact` : a move fails exactly then and changes nothing; otherwise it changes one parent, with an exact
  closure;
* `move_exact_iff` : it is so unless a group that has a parent is moved to a group that does not exist.
-/

namespace Obliance.Groups
open Obliance.Js KeyedTable ParentForest GroupDb

def Refused (db : GroupDb) (id : ℕ) (newParentId : Option ℕ) : Prop :=
  ∃ p, newParentId = some p ∧ (Under db.parent id p ∨ ¬ db.Mem p)

/-- The call throws. -/
def MoveFails (db : GroupDb) (id : ℕ) (newParentId : Option ℕ) : Prop :=
  ∃ e, (move db id newParentId).1 = .error e

structure MoveExact (db : GroupDb) (id : ℕ) (newParentId : Option ℕ) : Prop where
  fails_iff : MoveFails db id newParentId ↔ Refused db id newParentId
  unchanged : MoveFails db id newParentId → (move db id newParentId).2 = db
  /-- The only parent that changes is that of the group. -/
  groups : ¬ MoveFails db id newParentId → (move db id newParentId).2.groups =
    modify GroupRow.id db.groups id fun g => { g with parentId := newParentId }
  exact : ¬ MoveFails db id newParentId → (move db id newParentId).2.Exact

section
variable {db : GroupDb} {id : ℕ} {newParentId : Option ℕ}

theorem moveExact_of_refused {e : GroupError} (hrefused : Refused db id newParentId)
    (hmove : move db id newParentId = (.error e, db)) : MoveExact db id newParentId := by
  have hfails : MoveFails db id newParentId := ⟨e, congrArg Prod.fst hmove⟩
  exact ⟨iff_of_true hfails hrefused, fun _ => congrArg Prod.snd hmove, absurd hfails, absurd hfails⟩

theorem moveExact_of_moved (h : db.Sound) (hid : db.Mem id) {row : Option GroupRow} {rows : List ClosureRow}
    (hp : ∀ q, newParentId = some q → db.Mem q ∧ ¬ Under db.parent id q)
    (hmove : move db id newParentId = (.ok row, reparented db id newParentId rows)) :
    MoveExact db id newParentId := by
  have hok : ¬ MoveFails db id newParentId := by
    rintro ⟨e, he⟩
    rw [hmove] at he
    cases he
  have hnot : ¬ Refused db id newParentId := by
    rintro ⟨q, hq, hbad⟩
    exact hbad.elim (hp q hq).2 (not_not_intro (hp q hq).1)
  refine ⟨iff_of_false hok hnot, fun hf => absurd hf hok, fun _ => ?_, fun _ => (sound_moved h hid hp).exact⟩
  rw [hmove]
  rfl

/-- The row from its parent to a group is cut. -/
theorem cutOutside_ne (h : db.Sound) (hid : db.Mem id) (hparent : db.parent id ≠ none) :
    cutOutside db (descendantIds db id) ≠ db := by
  obtain ⟨p, hp⟩ := Option.ne_none_iff_exists'.1 hparent
  have hrow : db.InClosure p id 1 := (h.exact p id 1).2 ⟨hid, by rw [up_succ_of_parent hp, up_zero]⟩
  have hout : ¬ Under db.parent id p := by
    rintro ⟨k, hk⟩
    exact h.acyclic id k (by rw [up_succ_of_parent hp, hk])
  intro heq
  rw [← heq, inClosure_cut h] at hrow
  exact hrow.2 ⟨⟨0, rfl⟩, hout⟩

end

/-- **A move is atomic and exact** unless it takes a group that has a parent to a group that does not exist. -/
theorem move_exact_iff {db : GroupDb} (h : db.Sound) {id : ℕ} (hid : db.Mem id) (newParentId : Option ℕ) :
    MoveExact db id newParentId ↔ ∀ p, newParentId = some p → db.Mem p ∨ db.parent id = none := by
  cases newParentId with
  | none => exact iff_of_true (moveExact_of_moved h hid (by simp) (move_root hid)) (by simp)
  | some p =>
      by_cases hp : db.Mem p
      · refine iff_of_true ?_ (by rintro q ⟨⟩; exact .inl hp)
        by_cases hu : Under db.parent id p
        · exact moveExact_of_refused ⟨p, rfl, .inl hu⟩
            (move_descendant hid ((mem_descendantIds_iff h hp).2 hu))
        · obtain ⟨row, hmove⟩ := move_under h hid hp hu
          exact moveExact_of_moved h hid (by rintro q ⟨⟩; exact ⟨hp, hu⟩) hmove
      · have hmove := move_missing h hid hp
        constructor
        · intro hexact
          have hsame := hexact.unchanged ⟨_, congrArg Prod.fst hmove⟩
          rw [hmove] at hsame
          rintro q ⟨⟩
          exact .inr (of_not_not fun hparent => cutOutside_ne h hid hparent hsame)
        · intro hok
          rw [cutOutside_of_root h ((hok p rfl).resolve_left hp)] at hmove
          exact moveExact_of_refused ⟨p, rfl, .inr hp⟩ hmove

/-! ## Two trees -/

/-- Group 2 is below group 1, group 3 is a root. -/
def twoTrees : GroupDb :=
  let one := (create lenientPg emptyGroups (newGroup "A" none) 1 "a").2
  let chain := (create lenientPg one (newGroup "B" (some 1)) 1 "b").2
  (create lenientPg chain (newGroup "C" none) 1 "c").2

theorem twoTrees_sound : twoTrees.Sound := by
  have hempty : emptyGroups.Sound := @sound_of_init lenientPg _ ⟨rfl, rfl, Nat.one_pos⟩
  have hone := create_sound lenientPg hempty (newGroup "A" none) 1 "a" (by simp [newGroup])
  have hchain := create_sound lenientPg hone (newGroup "B" (some 1)) 1 "b" (by decide)
  exact create_sound lenientPg hchain (newGroup "C" none) 1 "c" (by simp [newGroup])

/-- Group 2 goes below group 3. -/
theorem twoTrees_moved : MoveExact twoTrees 2 (some 3) :=
  (move_exact_iff twoTrees_sound (by unfold Mem; decide) (some 3)).2 fun p hp =>
    .inl (by obtain rfl := Option.some.inj hp; unfold Mem; decide)

/-- Group 2 does not go below a group 9, and has lost its row from group 1. -/
theorem missing_parent_cuts : ¬ ∀ (db : GroupDb) (id : ℕ) (newParentId : Option ℕ), db.Sound → db.Mem id →
    MoveExact db id newParentId := by
  intro h
  have hexact := h twoTrees 2 (some 9) twoTrees_sound (by unfold Mem; decide)
  have hsame := hexact.unchanged ⟨.database, by decide⟩
  exact absurd hsame (by decide)

end Obliance.Groups

import Obliance.Groups.Closure
import Obliance.Groups.Import
import Obliance.Lib.GuardedRun

/-!
# The closure table over whole runs

* `importGroup_sound`, `importLoop_sound`, `import_sound` : an import keeps the closure exact when
  each update it makes writes the parent the group already has;
* `groupMachine` : `create`, `move`, `delete` and `importData` in any order;
* `closure_exact` : the closure table is exact and the groups are acyclic in every state reached by
  operations that meet `KeepsClosure`;
* `delete_leaves_stale_row` : without the condition they are not.
-/

namespace Obliance.Groups
open Obliance.Js KeyedTable ParentForest GuardedRun GroupDb

/-! ## Imports -/

section Import
variable (pg : Pg) (req : ImportRequest)

/-- The maps of the import name groups that exist. -/
structure ImportSound (st : ImportState) : Prop where
  sound : st.db.Sound
  byUuid : JsMap.Holds st.db.Mem st.groupIdByUuid
  batch : JsMap.Holds st.db.Mem st.batchGroupByOrigUuid

variable {pg req} {st : ImportState}

theorem ImportSound.resolveGroup_mem (h : ImportSound st) {uuid : JsVal} {p : ℕ}
    (hp : resolveGroup st uuid = some p) : st.db.Mem p := by
  unfold resolveGroup at hp
  split_ifs at hp
  rcases Option.or_eq_some_iff.1 hp with hp | ⟨-, hp⟩
  · exact h.batch.get hp
  · exact h.byUuid.get hp

theorem resolveConflict_update {g : ImportItem} {uuid : JsVal} {id : ℕ}
    (h : resolveConflict req st g = .update uuid id) :
    uuid = g.uuid ∧ st.groupIdByUuid.get g.uuid = some id := by
  unfold resolveConflict at h
  split at h
  · cases h
  split at h
  · cases h
  cases hg : st.groupIdByUuid.get g.uuid with
  | none => rw [hg] at h; cases h
  | some existingId =>
      rw [hg] at h
      cases hs : req.conflictStrategy <;> rw [hs] at h <;> cases h
      exact ⟨rfl, rfl⟩

variable (pg req) in
/-- If the item overwrites a group, it writes the parent the group has. -/
def KeepsParent (st : ImportState) (g : ImportItem) : Prop :=
  g.name.truthy = true → ∀ uuid id, resolveConflict req st g = .update uuid id →
    ∀ r ∈ st.db.groups, pg.uuidIn uuid = some r.uuid → r.tenantId = req.tenantId →
      r.parentId = resolveGroup st g.parentUuid

theorem updateImported_sound {db db' : GroupDb} (h : db.Sound) {uuid : JsVal} {columns : GroupColumns}
    {parentId : Option ℕ}
    (hkeep : ∀ r ∈ db.groups, pg.uuidIn uuid = some r.uuid → r.tenantId = req.tenantId →
      r.parentId = parentId)
    (hu : updateImported pg req db uuid columns parentId = some db') :
    db'.Sound ∧ ∀ d, db.Mem d → db'.Mem d := by
  unfold updateImported at hu
  cases ht : pg.uuidIn uuid with
  | none => rw [ht] at hu; cases hu
  | some text =>
      rw [ht] at hu
      simp only at hu
      split at hu
      · rw [Option.some.injEq] at hu
        have hid : ∀ r : GroupRow, (if r.uuid = text ∧ r.tenantId = req.tenantId then
            ({ r with columns := columns, parentId := parentId } : GroupRow) else r).id = r.id := by
          intro r
          split <;> rfl
        refine ⟨?_, fun d hd => ?_⟩
        · refine h.of_map (by rw [← hu]) hid (fun r hr => ?_) (by rw [← hu]) (by rw [← hu])
          split
          · rename_i hr'
            exact (hkeep r hr (by rw [ht, hr'.1]) hr'.2).symm
          · rfl
        · rw [← hu, Mem, group, get_map hid, Option.isSome_map]
          exact hd
      · cases hu

theorem updateImported_nextId {db db' : GroupDb} {uuid : JsVal} {columns : GroupColumns}
    {parentId : Option ℕ} (hu : updateImported pg req db uuid columns parentId = some db') :
    db'.nextId = db.nextId := by
  unfold updateImported at hu
  split at hu
  · cases hu
  · split at hu
    · rw [Option.some.injEq] at hu
      rw [← hu]
    · cases hu

theorem insertGroup_nextId {db db' : GroupDb} {d : GroupDraft} {inserted : Option GroupRow}
    (hi : insertGroup pg db d = (inserted, db')) : db.nextId ≤ db'.nextId := by
  rcases insertGroup_cases pg db d with ⟨n, he, hn⟩ | ⟨row, he, -⟩
  · rw [he, Prod.mk.injEq] at hi
    rw [← hi.2]
    exact hn
  · rw [he, Prod.mk.injEq] at hi
    rw [← hi.2]
    exact Nat.le_succ _

theorem insertGroupClosure_withGroup {db : GroupDb} (h : db.Sound) {row : GroupRow}
    (hid : row.id = db.nextId) (hp : ∀ p, row.parentId = some p → db.Mem p) :
    insertGroupClosure (withGroup db row) row.id row.parentId =
      some { withGroup db row with closure := db.closure ++ leafRows db row } := by
  unfold insertGroupClosure
  rw [insertClosure_self h hid]
  cases hq : row.parentId with
  | none =>
      simp only [leafRows, hq]
      rfl
  | some p => exact insertClosure_ancestors h hid hp hq

theorem recordCreated_sound (h : ImportSound st) {row : GroupRow} (hid : row.id = st.db.nextId)
    (hp : ∀ p, row.parentId = some p → st.db.Mem p) (g : ImportItem) (uuid : JsVal) :
    ImportSound (st.recordCreated
      { withGroup st.db row with closure := st.db.closure ++ leafRows st.db row } g uuid row.id) := by
  have hmono : ∀ d, st.db.Mem d → (withGroup st.db row).Mem d := by
    intro d hd
    rw [Mem, group_withGroup h.sound hid]
    split_ifs
    · rfl
    · exact hd
  have hnew : (withGroup st.db row).Mem row.id := by
    rw [Mem, group_withGroup h.sound hid, if_pos rfl]
    rfl
  refine ⟨sound_addLeaf h.sound hid hp, (h.byUuid.mono hmono).set hnew _, ?_⟩
  refine JsMap.Holds.set ?_ hnew _
  split_ifs
  · exact (h.batch.mono hmono).set hnew _
  · exact h.batch.mono hmono

theorem recordSkipped_db (st : ImportState) (g : ImportItem) :
    (st.recordSkipped g).db.nextId = st.db.nextId := by
  unfold ImportState.recordSkipped
  split <;> rfl

theorem recordSkipped_sound (h : ImportSound st) (g : ImportItem) : ImportSound (st.recordSkipped g) := by
  unfold ImportState.recordSkipped
  cases hg : st.groupIdByUuid.get g.uuid with
  | none => exact ⟨h.sound, h.byUuid, h.batch⟩
  | some id => exact ⟨h.sound, h.byUuid, h.batch.set (h.byUuid.get hg) _⟩

/-- The group that a new item becomes. -/
theorem importCreate_sound (h : ImportSound st) (g : ImportItem) (uuid : JsVal) (d : GroupDraft)
    (hd : d.parentId = resolveGroup st g.parentUuid) {row : GroupRow} {db : GroupDb}
    (hi : insertGroup pg st.db d = (some row, db)) :
    ∃ db', insertGroupClosure db row.id (resolveGroup st g.parentUuid) = some db' ∧
      st.db.nextId ≤ db'.nextId ∧ ImportSound (st.recordCreated db' g uuid row.id) := by
  rcases insertGroup_cases pg st.db d with ⟨n, he, -⟩ | ⟨row', he, hid, -, -, hpar, -⟩
  · rw [he] at hi
    cases hi
  · rw [he, Prod.mk.injEq, Option.some.injEq] at hi
    obtain ⟨rfl, rfl⟩ := hi
    have hp : ∀ p, row'.parentId = some p → st.db.Mem p := fun p hp =>
      h.resolveGroup_mem (hd ▸ hpar ▸ hp)
    rw [← hd, ← hpar, insertGroupClosure_withGroup h.sound hid hp]
    exact ⟨_, rfl, Nat.le_succ _, recordCreated_sound h hid hp g uuid⟩

/-- One item leaves exact tables when it succeeds, and never takes back an id. -/
theorem importGroup_sound (h : ImportSound st) (g : ImportItem) (hkeep : KeepsParent pg req st g) :
    st.db.nextId ≤ (importGroup pg req st g).2.db.nextId ∧
      ∀ u, (importGroup pg req st g).1 = .ok u → ImportSound (importGroup pg req st g).2 := by
  unfold importGroup
  cases hname : g.name.truthy with
  | false => exact ⟨le_rfl, fun _ _ => ⟨h.sound, h.byUuid, h.batch⟩⟩
  | true =>
      simp only [Bool.not_true, Bool.false_eq_true, if_false]
      cases hdec : resolveConflict req st g with
      | skip =>
          exact ⟨(recordSkipped_db st g).ge, fun _ _ => recordSkipped_sound h g⟩
      | update uuid existingId =>
          obtain ⟨-, hex⟩ := resolveConflict_update hdec
          dsimp only
          cases hu : updateImported pg req st.db uuid g.columns (resolveGroup st g.parentUuid) with
          | none => exact ⟨le_rfl, fun _ he => by cases he⟩
          | some db' =>
              obtain ⟨hs, hm⟩ := updateImported_sound h.sound (hkeep hname uuid existingId hdec) hu
              refine ⟨?_, fun _ _ => ⟨hs, h.byUuid.mono hm, ?_⟩⟩
              · exact (updateImported_nextId hu).ge
              · exact (h.batch.mono hm).set (hm _ (h.byUuid.get hex)) _
      | create uuid =>
          dsimp only
          cases g.name with
          | str name =>
              cases pg.uuidIn uuid with
              | none => exact ⟨le_rfl, fun _ he => by cases he⟩
              | some text =>
                  dsimp only
                  cases hi : insertGroup pg st.db (importDraft req st g name text) with
                  | mk inserted db =>
                      cases inserted with
                      | none => exact ⟨insertGroup_nextId hi, fun _ he => by cases he⟩
                      | some row =>
                          obtain ⟨db', he, hn, hs⟩ := importCreate_sound h g uuid _ rfl hi
                          simp only [he]
                          exact ⟨hn, fun _ _ => hs⟩
          | undefined => exact ⟨le_rfl, fun _ he => by cases he⟩
          | null => exact ⟨le_rfl, fun _ he => by cases he⟩
          | bool b => exact ⟨le_rfl, fun _ he => by cases he⟩
          | num q => exact ⟨le_rfl, fun _ he => by cases he⟩
          | obj json => exact ⟨le_rfl, fun _ he => by cases he⟩

variable (pg req) in
/-- Every item of the loop that overwrites a group writes the parent the group has then. -/
def KeepsParents : List ImportItem → ImportState → Prop
  | [], _ => True
  | g :: gs, st => KeepsParent pg req st g ∧
      ∀ st', importGroup pg req st g = (.ok (), st') → KeepsParents gs st'

theorem importLoop_sound (gs : List ImportItem) :
    ∀ {st : ImportState}, ImportSound st → KeepsParents pg req gs st →
      st.db.nextId ≤ (importLoop pg req gs st).2.db.nextId ∧
        ∀ u, (importLoop pg req gs st).1 = .ok u → ImportSound (importLoop pg req gs st).2 := by
  induction gs with
  | nil => exact fun h _ => ⟨le_rfl, fun _ _ => h⟩
  | cons g gs ih =>
      intro st h hkeep
      obtain ⟨hn, hs⟩ := importGroup_sound h g hkeep.1
      rw [importLoop]
      cases hg : importGroup pg req st g with
      | mk result st' =>
          rw [hg] at hn hs
          cases result with
          | error e => exact ⟨hn, fun _ he => by cases he⟩
          | ok u =>
              obtain ⟨hn', hs'⟩ := ih (hs u rfl) (hkeep.2 st' hg)
              exact ⟨hn.trans hn', hs'⟩

theorem startImport_sound {db : GroupDb} (h : db.Sound) (tenantId : ℕ) :
    ImportSound (startImport db tenantId) := by
  have hfold : ∀ (rows : List GroupRow) (m : JsMap JsVal ℕ), JsMap.Holds db.Mem m →
      (∀ r ∈ rows, db.Mem r.id) →
      JsMap.Holds db.Mem (rows.foldl (fun m r => m.set (.str r.uuid) r.id) m) := by
    intro rows
    induction rows with
    | nil => exact fun m hm _ => hm
    | cons r rows ih =>
        intro m hm hrows
        exact ih _ (hm.set (hrows r List.mem_cons_self) _) fun r' hr' =>
          hrows r' (List.mem_cons_of_mem _ hr')
  refine ⟨h, hfold _ [] (fun e he => by cases he) fun r hr => ?_, fun e he => by cases he⟩
  exact mem_iff.2 ⟨r, (List.mem_filter.1 hr).1, rfl⟩

variable (pg) in
/-- The updates of an import write the parents that are already there. -/
def ImportKeepsParents (db : GroupDb) (c : ImportCall) : Prop :=
  c.wantsGroups = true → ∀ items, c.payload = .items items →
    ∀ foreign, foreignGroupUuids pg db c.tenantId items = some foreign →
      KeepsParents pg (c.request foreign) (topoSort items) (startImport db c.tenantId)

/-- A rolled back import leaves both tables as they were. -/
theorem rollback_sound {db after : GroupDb} (h : db.Sound) (hn : db.nextId ≤ after.nextId) :
    (rollback db after).Sound := h.of_tables rfl rfl hn

/-- **An import whose updates keep the parents keeps the closure exact.** -/
theorem import_sound {db : GroupDb} (h : db.Sound) (c : ImportCall)
    (hkeep : ImportKeepsParents pg db c) : (importData pg db c).2.Sound := by
  unfold importData
  cases hp : c.payload with
  | absent => exact h
  | malformed => exact h
  | items items =>
      dsimp only
      cases hf : foreignGroupUuids pg db c.tenantId items with
      | none => exact h
      | some foreign =>
          dsimp only
          cases hw : c.wantsGroups with
          | false => exact h
          | true =>
              obtain ⟨hn, hs⟩ := importLoop_sound (topoSort items) (startImport_sound h c.tenantId)
                (hkeep hw items hp foreign hf)
              simp only [Bool.not_true, Bool.false_eq_true, if_false]
              cases hr : (importLoop pg (c.request foreign) (topoSort items)
                  (startImport db c.tenantId)).1 with
              | error e => exact rollback_sound h hn
              | ok u =>
                  dsimp only
                  split
                  · exact (hs u hr).sound
                  · exact rollback_sound h hn

end Import

/-! ## Runs of the four operations -/

inductive GroupOp where
  | create (data : CreateGroup) (tenantId : ℕ) (uuid : String)
  | move (id : ℕ) (newParentId : Option ℕ)
  | delete (id : ℕ)
  | importData (call : ImportCall)

def applyOp (pg : Pg) (db : GroupDb) : GroupOp → GroupDb
  | .create data tenantId uuid => (create pg db data tenantId uuid).2
  | .move id newParentId => (move db id newParentId).2
  | .delete id => (delete db id).2
  | .importData call => (importData pg db call).2

/-- The operations in any order, from empty tables. -/
def groupMachine (pg : Pg) : Machine GroupDb GroupOp where
  init db := db.groups = [] ∧ db.closure = [] ∧ 0 < db.nextId
  step db op := some (applyOp pg db op)

/-- The operation, in this state, does none of what leaves the closure table wrong: a `create` below
the id that the new group gets, a `move` of a group with a parent to a group that does not exist, the
`delete` of a group with a parent and children, an import that changes a parent by an update. -/
def KeepsClosure (pg : Pg) (db : GroupDb) : GroupOp → Prop
  | .create data _ _ => data.parentId ≠ some db.nextId
  | .move id newParentId => ∀ p, newParentId = some p → db.Mem p ∨ db.parent id = none
  | .delete id => db.parent id = none ∨ ∀ d, db.parent d ≠ some id
  | .importData call => ImportKeepsParents pg db call

theorem applyOp_sound (pg : Pg) {db : GroupDb} (h : db.Sound) {op : GroupOp}
    (hok : KeepsClosure pg db op) : (applyOp pg db op).Sound := by
  cases op with
  | create data tenantId uuid => exact create_sound pg h data tenantId uuid hok
  | move id newParentId => exact move_sound h newParentId hok
  | delete id => exact sound_deleteGroup h hok
  | importData call => exact import_sound h call hok

theorem sound_of_init {pg : Pg} {db : GroupDb} (h : (groupMachine pg).init db) : db.Sound := by
  obtain ⟨hg, hc, hn⟩ := h
  have hnone : ∀ d, db.group d = none := fun d => by rw [group, hg]; rfl
  constructor
  · constructor
    · exact hn
    · rw [hg]; exact List.nodup_nil
    · rw [hg]; simp
    · rw [hg]; simp
    · rw [hc]; exact List.nodup_nil
  · intro a d k
    simp [InClosure, hc, Mem, hnone]

/-- **The closure table is exact, and no group is its own ancestor**, in every state reached from
empty tables by operations that meet `KeepsClosure`. -/
theorem closure_exact (pg : Pg) {db : GroupDb} (h : Reach (groupMachine pg) (KeepsClosure pg) db) :
    db.Exact ∧ Acyclic db.parent := by
  have hs : db.Sound := h.invariant (fun _ => sound_of_init) fun s op t hs hok hstep => by
    rw [← Option.some.inj hstep]
    exact applyOp_sound pg hs hok
  exact ⟨hs.exact, hs.acyclic⟩

/-- A PostgreSQL that refuses nothing. -/
def lenientPg : Pg where
  uuidIn v := match v with
    | .str s => some s
    | _ => none
  acceptsColumns _ := true
  acceptsOwner _ _ := true

def newGroup (name : String) (parentId : Option ℕ) : CreateGroup :=
  ⟨name, .undefined, parentId, .undefined, .undefined, .undefined⟩

def emptyGroups : GroupDb := ⟨[], [], 1⟩

/-- Three groups, one of them moved into a chain whose root is then deleted. -/
theorem closure_exact_chain :
    ∃ db, Reach (groupMachine lenientPg) (KeepsClosure lenientPg) db ∧ db.groups.length = 2 ∧
      db.Exact ∧ Acyclic db.parent := by
  have h0 : Reach (groupMachine lenientPg) (KeepsClosure lenientPg) emptyGroups :=
    .start ⟨rfl, rfl, Nat.one_pos⟩
  have h1 := h0.next (.create (newGroup "A" none) 1 "a") (by simp [KeepsClosure, newGroup]) rfl
  have h2 := h1.next (.create (newGroup "B" (some 1)) 1 "b") (by rintro ⟨⟩) rfl
  have h3 := h2.next (.create (newGroup "C" none) 1 "c") (by simp [KeepsClosure, newGroup]) rfl
  have h4 := h3.next (.move 3 (some 2)) (by rintro p ⟨⟩; exact .inl rfl) rfl
  have h5 := h4.next (.delete 1) (by exact Or.inl rfl) rfl
  exact ⟨_, h5, rfl, closure_exact lenientPg h5⟩

/-- **Without the condition the closure goes stale**: the middle group of a chain of three is
deleted, its child becomes a root, and the row from the first group to that child stays. -/
theorem delete_leaves_stale_row :
    ¬ ∀ (pg : Pg) (db : GroupDb), Reach (groupMachine pg) anyStep db →
      db.Exact ∧ Acyclic db.parent := by
  intro h
  have h0 : Reach (groupMachine lenientPg) anyStep emptyGroups := .start ⟨rfl, rfl, Nat.one_pos⟩
  have h1 := h0.next (.create (newGroup "A" none) 1 "a") trivial rfl
  have h2 := h1.next (.create (newGroup "B" (some 1)) 1 "b") trivial rfl
  have h3 := h2.next (.create (newGroup "C" (some 2)) 1 "c") trivial rfl
  have h4 := h3.next (.delete 2) trivial rfl
  have hrow := ((h lenientPg _ h4).1 1 3 2).1 (by unfold InClosure; decide)
  have hup : up _ 2 3 = some 1 := hrow.2
  revert hup
  decide

end Obliance.Groups

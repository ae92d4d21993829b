import Obliance.Groups.Service

/-!
# The closure table after each group operation

* `Sound` : the keys hold and the closure table is exact;
* `sound_addLeaf` : a group inserted with its closure rows;
* `sound_deleteGroup` : the deletion of a root or of a childless group;
* `move_sound` : a move, unless a group with a parent is moved to a group that does not exist.
-/

namespace Obliance.Groups
open Obliance.Js KeyedTable ParentForest

namespace GroupDb

/-- The keys hold, and the closure table is exact. -/
structure Sound (db : GroupDb) : Prop where
  schema : db.Schema
  exact : db.Exact

variable {db : GroupDb}

theorem Sound.acyclic (h : db.Sound) : Acyclic db.parent := h.schema.acyclic h.exact

/-- Soundness depends on ids, parents and closure rows only; ids may be skipped. -/
theorem Sound.of_map {db' : GroupDb} (h : db.Sound) {f : GroupRow → GroupRow}
    (hg : db'.groups = db.groups.map f) (hid : ∀ g, (f g).id = g.id)
    (hpar : ∀ g ∈ db.groups, (f g).parentId = g.parentId) (hc : db'.closure = db.closure)
    (hn : db.nextId ≤ db'.nextId) : db'.Sound := by
  have hgroup : ∀ d, db'.group d = (db.group d).map f := fun d => by rw [group, hg, get_map hid]; rfl
  have hmem : ∀ d, db'.Mem d ↔ db.Mem d := fun d => by rw [Mem, Mem, hgroup, Option.isSome_map]
  have hparent : db'.parent = db.parent := by
    funext d
    rw [parent, parent, hgroup]
    cases he : db.group d with
    | none => rfl
    | some g => exact hpar g (mem_of_get he)
  constructor
  · constructor
    · exact lt_of_lt_of_le h.schema.nextPos hn
    · rw [hg]; exact nodup_map hid h.schema.ids
    · rw [hg]
      intro g hm
      obtain ⟨g', hg', rfl⟩ := List.mem_map.1 hm
      rw [hid]
      exact ⟨(h.schema.idsUsed g' hg').1, (h.schema.idsUsed g' hg').2.trans_le hn⟩
    · rw [hg]
      intro g hm p hp
      obtain ⟨g', hg', rfl⟩ := List.mem_map.1 hm
      rw [hpar g' hg'] at hp
      exact (hmem p).2 (h.schema.parents g' hg' p hp)
    · rw [hc]; exact h.schema.pairs
  · rw [Exact, hparent]
    exact h.exact.congr hmem fun a d k => by rw [InClosure, InClosure, hc]

theorem Sound.of_tables {db' : GroupDb} (h : db.Sound) (hg : db'.groups = db.groups)
    (hc : db'.closure = db.closure) (hn : db.nextId ≤ db'.nextId) : db'.Sound :=
  h.of_map (hg.trans (List.map_id _).symm) (fun _ => rfl) (fun _ _ => rfl) hc hn

end GroupDb

open GroupDb

/-! ## Insertion -/

section Insert
variable {db : GroupDb}

/-- The tables with a new group, before its closure rows. -/
def withGroup (db : GroupDb) (row : GroupRow) : GroupDb :=
  { db with groups := db.groups ++ [row], nextId := db.nextId + 1 }

/-- The tables with the new group and its own closure row. -/
def withSelf (db : GroupDb) (row : GroupRow) : GroupDb :=
  { withGroup db row with closure := db.closure ++ [⟨row.id, row.id, 0⟩] }

theorem insertGroup_cases (pg : Pg) (db : GroupDb) (d : GroupDraft) :
    (∃ n, (insertGroup pg db d) = (none, { db with nextId := n }) ∧ db.nextId ≤ n) ∨
      ∃ row, insertGroup pg db d = (some row, withGroup db row) ∧ row.id = db.nextId ∧
        row.tenantId = d.tenantId ∧ row.uuid = d.uuid ∧ row.parentId = d.parentId ∧
        ∀ p, d.parentId = some p → p = db.nextId ∨ db.Mem p := by
  unfold insertGroup
  cases pg.acceptsColumns d.columns && pg.acceptsOwner d.tenantId d.slug with
  | false => exact .inl ⟨db.nextId, rfl, le_rfl⟩
  | true =>
      simp only [Bool.not_true, Bool.false_eq_true, if_false]
      split
      · rename_i hok
        simp only [Bool.and_eq_true] at hok
        refine .inr ⟨_, rfl, rfl, rfl, rfl, rfl, fun p hp => ?_⟩
        have := hok.1.1
        rw [hp] at this
        simpa [Mem] using this
      · exact .inl ⟨db.nextId + 1, rfl, Nat.le_succ _⟩

/-- The closure rows of a new group. -/
def leafRows (db : GroupDb) (row : GroupRow) : List ClosureRow :=
  ⟨row.id, row.id, 0⟩ :: match row.parentId with
    | none => []
    | some p => ancestorRows db row.id p

theorem mem_ancestorRows {db : GroupDb} {id p a d k : ℕ} :
    (⟨a, d, k⟩ : ClosureRow) ∈ ancestorRows db id p ↔ d = id ∧ ∃ j, db.InClosure a p j ∧ k = j + 1 := by
  simp only [ancestorRows, List.mem_map, List.mem_filter, ClosureRow.mk.injEq, decide_eq_true_eq,
    InClosure]
  constructor
  · rintro ⟨⟨a', p', j⟩, ⟨hr, rfl⟩, rfl, rfl, rfl⟩
    exact ⟨rfl, j, hr, rfl⟩
  · rintro ⟨rfl, j, hr, rfl⟩
    exact ⟨_, ⟨hr, rfl⟩, rfl, rfl, rfl⟩

/-- A primary key leaves one row for each ancestor of a node, and one for each descendant. -/
theorem nodup_ancestors {rows : List ClosureRow} (h : Keyed ClosureRow.pair rows) (p : ℕ) :
    ((rows.filter fun r => r.descendantId = p).map ClosureRow.ancestorId).Nodup := by
  refine List.Nodup.map_on ?_ (h.of_map.filter _)
  rintro r hr r' hr' he
  simp only [List.mem_filter, decide_eq_true_eq] at hr hr'
  exact h.eq_of_key hr.1 hr'.1 (Prod.ext he (hr.2.trans hr'.2.symm))

theorem nodup_descendants {rows : List ClosureRow} (h : Keyed ClosureRow.pair rows) (x : ℕ) :
    ((rows.filter fun r => r.ancestorId = x).map ClosureRow.descendantId).Nodup := by
  refine List.Nodup.map_on ?_ (h.of_map.filter _)
  rintro r hr r' hr' he
  simp only [List.mem_filter, decide_eq_true_eq] at hr hr'
  exact h.eq_of_key hr.1 hr'.1 (Prod.ext (hr.2.trans hr'.2.symm) he)

theorem mem_leafRows {row : GroupRow} {a d k : ℕ} : (⟨a, d, k⟩ : ClosureRow) ∈ leafRows db row ↔
    (a = row.id ∧ d = row.id ∧ k = 0) ∨
      ∃ p, row.parentId = some p ∧ d = row.id ∧ ∃ j, db.InClosure a p j ∧ k = j + 1 := by
  unfold leafRows
  rw [List.mem_cons, ClosureRow.mk.injEq]
  cases row.parentId with
  | none => simp
  | some p => simp [mem_ancestorRows]

variable (h : db.Sound) {row : GroupRow} (hid : row.id = db.nextId)
  (hp : ∀ p, row.parentId = some p → db.Mem p)
include h hid

theorem not_mem_new : ¬ db.Mem row.id := by
  intro hm
  rw [Mem, hid, h.schema.group_nextId] at hm
  cases hm

/-- The new rows break no key of the closure table. -/
theorem nodup_leafRows : ((db.closure ++ leafRows db row).map ClosureRow.pair).Nodup := by
  have hnew := not_mem_new h hid
  have hanc : ∀ p, ((ancestorRows db row.id p).map ClosureRow.pair).Nodup := by
    intro p
    have := (nodup_ancestors h.schema.pairs p).map (f := fun a => (a, row.id))
      fun _ _ he => congrArg Prod.fst he
    rw [List.map_map] at this
    rw [ancestorRows, List.map_map]
    exact this
  have hrows : ((leafRows db row).map ClosureRow.pair).Nodup := by
    unfold leafRows
    cases row.parentId with
    | none => simp
    | some p =>
        refine List.nodup_cons.2 ⟨fun hm => ?_, hanc p⟩
        obtain ⟨⟨a, d, k⟩, hr, he⟩ := List.mem_map.1 hm
        obtain ⟨-, j, hj, -⟩ := mem_ancestorRows.1 hr
        have ha : a = row.id := congrArg Prod.fst he
        exact hnew (ha ▸ h.exact.mem_ancestor h.schema hj)
  rw [List.map_append]
  refine List.nodup_append.2 ⟨h.schema.pairs, hrows, ?_⟩
  rintro x hx y hy rfl
  obtain ⟨⟨a, d, k⟩, hr, rfl⟩ := List.mem_map.1 hx
  obtain ⟨⟨a', d', k'⟩, hr', he⟩ := List.mem_map.1 hy
  have hd : d' = d := congrArg Prod.snd he
  have hd' : d' = row.id := by
    rcases mem_leafRows.1 hr' with ⟨-, e, -⟩ | ⟨p, -, e, -⟩ <;> exact e
  exact hnew (hd' ▸ hd ▸ h.exact.mem_descendant hr)

include hp

/-- **A group inserted with its closure rows keeps the closure exact.** -/
theorem sound_addLeaf :
    Sound { withGroup db row with closure := db.closure ++ leafRows db row } := by
  have hnew := not_mem_new h hid
  have hfresh : get GroupRow.id db.groups row.id = none := by
    rw [hid]
    exact h.schema.group_nextId
  set db' : GroupDb := { withGroup db row with closure := db.closure ++ leafRows db row } with hdb'
  have hgroup : ∀ d, db'.group d = if d = row.id then some row else db.group d :=
    fun d => get_append_fresh hfresh
  have hmem : ∀ d, db'.Mem d ↔ db.Mem d ∨ d = row.id := by
    intro d
    rw [Mem, Mem, hgroup]
    split_ifs with hd <;> simp [hd]
  have hparent : ∀ d, d ≠ row.id → db'.parent d = db.parent d := fun d hd => by
    rw [parent, parent, hgroup, if_neg hd]
  have hparentNew : db'.parent row.id = row.parentId := by
    rw [parent, hgroup, if_pos rfl, Option.bind_some]
  constructor
  · constructor
    · exact Nat.succ_pos _
    · exact nodup_append h.schema.ids hfresh
    · intro g hg
      rcases List.mem_append.1 hg with hg | hg
      · exact ⟨(h.schema.idsUsed g hg).1, (h.schema.idsUsed g hg).2.trans (Nat.lt_succ_self _)⟩
      · rw [List.mem_singleton.1 hg, hid]
        exact ⟨h.schema.nextPos, Nat.lt_succ_self _⟩
    · intro g hg p hgp
      rcases List.mem_append.1 hg with hg | hg
      · exact (hmem p).2 (.inl (h.schema.parents g hg p hgp))
      · rw [List.mem_singleton.1 hg] at hgp
        exact (hmem p).2 (.inl (hp p hgp))
    · exact nodup_leafRows h hid
  · have hclosure := closure_addLeaf h.schema.closed hnew hp hparent hparentNew h.exact
    refine hclosure.congr hmem fun a d k => ?_
    rw [InClosure, hdb', List.mem_append, mem_leafRows]
    rfl

omit hp

theorem group_withGroup (d : ℕ) :
    (withGroup db row).group d = if d = row.id then some row else db.group d := by
  refine get_append_fresh ?_
  rw [hid]
  exact h.schema.group_nextId

theorem insertClosure_self :
    insertClosure (withGroup db row) [⟨row.id, row.id, 0⟩] = some (withSelf db row) := by
  have hsub : (db.closure ++ [(⟨row.id, row.id, 0⟩ : ClosureRow)]).Sublist
      (db.closure ++ leafRows db row) :=
    (List.Sublist.refl _).append (List.singleton_sublist.2 List.mem_cons_self)
  refine if_pos ⟨(nodup_leafRows h hid).sublist (hsub.map _), fun r hr => ?_⟩
  rw [List.mem_singleton.1 hr]
  simp [group_withGroup h hid]

include hp in
theorem insertClosure_ancestors {p : ℕ} (hrp : row.parentId = some p) :
    insertClosure (withSelf db row) (ancestorRows (withSelf db row) row.id p) =
      some { withGroup db row with closure := db.closure ++ leafRows db row } := by
  have hne : row.id ≠ p := fun e => not_mem_new h hid (e ▸ hp p hrp)
  have hrows : ancestorRows (withSelf db row) row.id p = ancestorRows db row.id p := by
    simp [ancestorRows, withSelf, hne]
  have hall : (withSelf db row).closure ++ ancestorRows db row.id p =
      db.closure ++ leafRows db row := by
    rw [leafRows, hrp]
    exact List.append_assoc _ [_] _
  unfold insertClosure
  rw [hrows, hall]
  refine if_pos ⟨nodup_leafRows h hid, ?_⟩
  rintro ⟨a, d, k⟩ hr
  obtain ⟨rfl, j, hj, -⟩ := mem_ancestorRows.1 hr
  have ha : db.Mem a := h.exact.mem_ancestor h.schema hj
  have hg := group_withGroup h hid
  refine ⟨?_, ?_⟩
  · change ((withGroup db row).group a).isSome = true
    rw [hg]
    split_ifs
    · rfl
    · exact ha
  · change ((withGroup db row).group row.id).isSome = true
    rw [hg, if_pos rfl]
    rfl

end Insert

/-- **`create` keeps the closure exact**, unless it names the id it is about to get as the parent. -/
theorem create_sound (pg : Pg) {db : GroupDb} (h : db.Sound) (data : CreateGroup) (tenantId : ℕ)
    (uuid : String) (hnext : data.parentId ≠ some db.nextId) :
    Sound (create pg db data tenantId uuid).2 := by
  unfold create
  rcases insertGroup_cases pg db (createDraft db data tenantId uuid) with ⟨n, he, hn⟩ | ⟨row, he, hid, -, -, hparent, hfk⟩
  · rw [he]
    exact h.of_tables rfl rfl hn
  · have hp : ∀ p, row.parentId = some p → db.Mem p := by
      intro p hrp
      rw [hparent] at hrp
      exact (hfk p hrp).resolve_left fun e => hnext (e ▸ hrp)
    rw [he]
    simp only
    rw [insertClosure_self h hid]
    have hsound := sound_addLeaf h hid hp
    cases hq : data.parentId with
    | none =>
        have hself : { withGroup db row with closure := db.closure ++ leafRows db row } =
            withSelf db row := by
          rw [leafRows, hparent.trans hq]
          rfl
        rw [hself] at hsound
        exact hsound
    | some p =>
        have hp0 : p ≠ 0 := (h.schema.lt_nextId (hp p (hparent.trans hq))).1.ne'
        have hfilter : (some p).filter (fun p => decide (p ≠ 0)) = some p := by simp [hp0]
        simp only [hfilter, insertClosure_ancestors h hid hp (hparent.trans hq)]
        exact hsound

/-! ## Deletion -/

section Delete
variable {db : GroupDb} {id : ℕ}

theorem group_deleteGroup (d : ℕ) : (deleteGroup db id).group d = if d = id then none else
    (db.group d).map fun g => if g.parentId = some id then { g with parentId := none } else g := by
  have hf : ∀ g : GroupRow, (if g.parentId = some id then { g with parentId := none } else g).id = g.id := by
    intro g
    split_ifs <;> rfl
  rw [group, deleteGroup, get_map hf]
  split_ifs with hd
  · rw [hd, get_remove_self]
    rfl
  · rw [get_remove_ne hd]
    rfl

theorem parent_deleteGroup {d : ℕ} (hd : d ≠ id) :
    (deleteGroup db id).parent d = if db.parent d = some id then none else db.parent d := by
  rw [parent, group_deleteGroup, if_neg hd, parent]
  cases db.group d with
  | none => simp
  | some g =>
      simp only [Option.map_some, Option.bind_some]
      split_ifs <;> rfl

theorem mem_deleteGroup {d : ℕ} : (deleteGroup db id).Mem d ↔ db.Mem d ∧ d ≠ id := by
  rw [Mem, group_deleteGroup, Mem]
  split_ifs with hd <;> simp [hd]

theorem schema_deleteGroup (h : db.Schema) : (deleteGroup db id).Schema := by
  have hmem : ∀ g ∈ (deleteGroup db id).groups, ∃ g' ∈ db.groups, g.id = g'.id ∧
      ∀ p, g.parentId = some p → g'.parentId = some p ∧ p ≠ id := by
    intro g hg
    obtain ⟨g', hg', rfl⟩ := List.mem_map.1 hg
    refine ⟨g', (mem_remove.1 hg').1, ?_⟩
    split_ifs with hp
    · exact ⟨rfl, fun p e => by cases e⟩
    · exact ⟨rfl, fun p e => ⟨e, fun hpi => hp (hpi ▸ e)⟩⟩
  constructor
  · exact h.nextPos
  · refine nodup_map (fun g => ?_) (nodup_remove h.ids)
    split_ifs <;> rfl
  · intro g hg
    obtain ⟨g', hg', he, -⟩ := hmem g hg
    rw [he]
    exact h.idsUsed g' hg'
  · intro g hg p hp
    obtain ⟨g', hg', -, hpar⟩ := hmem g hg
    obtain ⟨hp', hne⟩ := hpar p hp
    exact mem_deleteGroup.2 ⟨h.parents g' hg' p hp', hne⟩
  · exact h.pairs.sublist (List.filter_sublist.map _)

/-- **The deletion of a root or of a childless group keeps the closure exact.** -/
theorem sound_deleteGroup (h : db.Sound) (hx : db.parent id = none ∨ ∀ d, db.parent d ≠ some id) :
    (deleteGroup db id).Sound := by
  refine ⟨schema_deleteGroup h.schema, ?_⟩
  have hclosure := closure_remove (Q := (deleteGroup db id).parent)
    (fun d hd hp => by rw [parent_deleteGroup hd, if_pos hp])
    (fun d hd hp => by rw [parent_deleteGroup hd, if_neg hp]) hx h.exact
  refine hclosure.congr (fun d => mem_deleteGroup) fun a d k => ?_
  simp [InClosure, deleteGroup]

end Delete

/-! ## Moves -/

section Move
variable {db : GroupDb} {id : ℕ}

theorem mem_descendantIds {d : ℕ} : d ∈ descendantIds db id ↔ ∃ k, db.InClosure id d k := by
  simp only [descendantIds, List.mem_map, List.mem_filter, decide_eq_true_eq, InClosure]
  constructor
  · rintro ⟨⟨a, d', k⟩, ⟨hr, rfl⟩, rfl⟩
    exact ⟨k, hr⟩
  · rintro ⟨k, hr⟩
    exact ⟨_, ⟨hr, rfl⟩, rfl⟩

theorem mem_descendantIds_iff (h : db.Sound) {d : ℕ} (hd : db.Mem d) :
    d ∈ descendantIds db id ↔ Under db.parent id d := by
  rw [mem_descendantIds, h.exact.under_iff hd]

theorem inClosure_cut (h : db.Sound) {a d k : ℕ} :
    (cutOutside db (descendantIds db id)).InClosure a d k ↔
      db.InClosure a d k ∧ ¬ (Under db.parent id d ∧ ¬ Under db.parent id a) := by
  rw [InClosure, cutOutside, List.mem_filter]
  refine and_congr_right fun hr => ?_
  have hd := @mem_descendantIds_iff db id h _ (h.exact.mem_descendant hr)
  have ha := @mem_descendantIds_iff db id h _ (h.exact.mem_ancestor h.schema hr)
  simp only [Bool.not_eq_true', Bool.and_eq_false_iff, decide_eq_false_iff_not, not_not, hd, ha]
  tauto

/-- The rows down from `id` and those down to a node outside its subtree survive the cut. -/
theorem mem_reconnectRows (h : db.Sound) {p : ℕ}
    (hp : ¬ Under db.parent id p) {a d k : ℕ} :
    (⟨a, d, k⟩ : ClosureRow) ∈ reconnectRows (cutOutside db (descendantIds db id)) id p ↔
      ∃ i j, db.InClosure a p i ∧ db.InClosure id d j ∧ k = i + j + 1 := by
  have hcut := fun a d k => @inClosure_cut db id h a d k
  have hroot : Under db.parent id id := ⟨0, rfl⟩
  simp only [reconnectRows, List.mem_flatMap, List.mem_map, List.mem_filter, decide_eq_true_eq,
    ClosureRow.mk.injEq]
  constructor
  · rintro ⟨⟨a', p', i⟩, ⟨hr, rfl⟩, ⟨x', d', j⟩, ⟨hs, rfl⟩, rfl, rfl, rfl⟩
    exact ⟨i, j, ((hcut _ _ _).1 hr).1, ((hcut _ _ _).1 hs).1, rfl⟩
  · rintro ⟨i, j, hr, hs, rfl⟩
    refine ⟨⟨a, p, i⟩, ⟨(hcut _ _ _).2 ⟨hr, fun hn => hp hn.1⟩, rfl⟩, ⟨id, d, j⟩,
      ⟨(hcut _ _ _).2 ⟨hs, fun hn => hn.2 hroot⟩, rfl⟩, rfl, rfl, rfl⟩

theorem nodup_reconnectRows {rows : GroupDb} (h : Keyed ClosureRow.pair rows.closure) (p : ℕ) :
    ((reconnectRows rows id p).map ClosureRow.pair).Nodup := by
  have hprod := (nodup_ancestors h p).product (nodup_descendants h id)
  have he : (reconnectRows rows id p).map ClosureRow.pair =
      ((rows.closure.filter fun r => r.descendantId = p).map ClosureRow.ancestorId).product
        ((rows.closure.filter fun r => r.ancestorId = id).map ClosureRow.descendantId) := by
    simp only [reconnectRows, List.product, List.map_flatMap, List.flatMap_map, List.map_map]
    rfl
  rw [he]
  exact hprod

/-- The reconnecting rows break no key: they lead from outside the subtree into it. -/
theorem insertClosure_reconnect (h : db.Sound) {p : ℕ} (hp : ¬ Under db.parent id p) :
    insertClosure (cutOutside db (descendantIds db id))
        (reconnectRows (cutOutside db (descendantIds db id)) id p) =
      some { db with closure := (cutOutside db (descendantIds db id)).closure ++
        reconnectRows (cutOutside db (descendantIds db id)) id p } := by
  have hcutPairs : Keyed ClosureRow.pair (cutOutside db (descendantIds db id)).closure :=
    h.schema.pairs.sublist (List.filter_sublist.map _)
  have hmemNew : ∀ {a d k : ℕ}, (⟨a, d, k⟩ : ClosureRow) ∈
      reconnectRows (cutOutside db (descendantIds db id)) id p →
      ¬ Under db.parent id a ∧ Under db.parent id d ∧ db.Mem a ∧ db.Mem d := by
    intro a d k hr
    obtain ⟨i, j, hi, hj, -⟩ := (mem_reconnectRows h hp).1 hr
    obtain ⟨hmd, hup⟩ := (h.exact id d j).1 hj
    refine ⟨?_, ⟨j, hup⟩, h.exact.mem_ancestor h.schema hi, hmd⟩
    rintro ⟨l, hl⟩
    obtain ⟨-, hpa⟩ := (h.exact a p i).1 hi
    exact hp ⟨i + l, by rw [up_add_of hpa, hl]⟩
  refine if_pos ⟨?_, ?_⟩
  · rw [List.map_append]
    refine List.nodup_append.2 ⟨hcutPairs, nodup_reconnectRows hcutPairs p, ?_⟩
    rintro x hx y hy rfl
    obtain ⟨⟨a, d, k⟩, hr, rfl⟩ := List.mem_map.1 hx
    obtain ⟨⟨a', d', k'⟩, hr', he⟩ := List.mem_map.1 hy
    obtain ⟨rfl, rfl⟩ : a' = a ∧ d' = d := ⟨congrArg Prod.fst he, congrArg Prod.snd he⟩
    obtain ⟨hna, hd, -, -⟩ := hmemNew hr'
    exact ((inClosure_cut h).1 hr).2 ⟨hd, hna⟩
  · rintro ⟨a, d, k⟩ hr
    obtain ⟨-, -, ha, hd⟩ := hmemNew hr
    exact ⟨ha, hd⟩

/-- The tables after a successful move, for the closure rows `rows`. -/
def reparented (db : GroupDb) (id : ℕ) (parentId : Option ℕ) (rows : List ClosureRow) : GroupDb :=
  { db with
    groups := modify GroupRow.id db.groups id fun g => { g with parentId := parentId }
    closure := rows }

theorem sound_reparented (h : db.Sound) (hid : db.Mem id) {p : Option ℕ} {rows : List ClosureRow}
    (hp : ∀ q, p = some q → db.Mem q ∧ ¬ Under db.parent id q) (hrows : Keyed ClosureRow.pair rows)
    (hmem : ∀ a d k, (⟨a, d, k⟩ : ClosureRow) ∈ rows ↔
      (db.InClosure a d k ∧ ¬ (Under db.parent id d ∧ ¬ Under db.parent id a)) ∨
        ∃ q i j, p = some q ∧ db.InClosure a q i ∧ db.InClosure id d j ∧ k = i + j + 1) :
    (reparented db id p rows).Sound := by
  have hkey : ∀ g : GroupRow, ({ g with parentId := p } : GroupRow).id = g.id := fun _ => rfl
  have hne : ∀ d, d ≠ id → (reparented db id p rows).group d = db.group d :=
    fun d hd => get_modify_ne hkey hd
  have hself : (reparented db id p rows).group id =
      (db.group id).map fun g => { g with parentId := p } := get_modify_self hkey
  have hMem : ∀ d, (reparented db id p rows).Mem d ↔ db.Mem d := by
    intro d
    rw [Mem, Mem]
    by_cases hd : d = id
    · rw [hd, hself, Option.isSome_map]
    · rw [hne d hd]
  obtain ⟨g, hg⟩ := Option.isSome_iff_exists.1 hid
  constructor
  · constructor
    · exact h.schema.nextPos
    · exact nodup_modify hkey h.schema.ids
    · intro r hr
      obtain ⟨r', hr', rfl⟩ := mem_modify.1 hr
      rw [key_ite hkey]
      exact h.schema.idsUsed r' hr'
    · intro r hr q hq
      obtain ⟨r', hr', rfl⟩ := mem_modify.1 hr
      rw [hMem]
      split_ifs at hq
      · exact (hp q hq).1
      · exact h.schema.parents r' hr' q hq
    · exact hrows
  · have hclosure := closure_move (Q := (reparented db id p rows).parent) (x := id) (p := p)
      h.acyclic (fun q hq => (hp q hq).1) (fun q hq k hk => (hp q hq).2 ⟨k, hk⟩)
      (fun d hd => by rw [parent, parent, hne d hd])
      (by rw [parent, hself, hg]; rfl) h.exact
    exact hclosure.congr hMem hmem

/-- A group without a parent has no closure row from outside its subtree. -/
theorem cutOutside_of_root (h : db.Sound) (hroot : db.parent id = none) :
    cutOutside db (descendantIds db id) = db := by
  have hall : ∀ r ∈ db.closure, r ∈ (cutOutside db (descendantIds db id)).closure := by
    rintro ⟨a, d, k⟩ hr
    refine (inClosure_cut h).2 ⟨hr, ?_⟩
    rintro ⟨⟨j, hj⟩, hna⟩
    obtain ⟨-, hk⟩ := (h.exact a d k).1 hr
    refine hna ⟨j - k, ?_⟩
    rcases Nat.lt_or_ge j k with hlt | hge
    · obtain ⟨i, rfl⟩ := Nat.exists_eq_add_of_lt hlt
      rw [Nat.add_assoc, up_add_of hj, up_succ_of_root hroot] at hk
      cases hk
    · rw [← up_add_of hk, Nat.add_sub_cancel' hge]
      exact hj
  have hclosure : (cutOutside db (descendantIds db id)).closure = db.closure :=
    List.filter_eq_self.2 fun r hr => (List.mem_filter.1 (hall r hr)).2
  calc cutOutside db (descendantIds db id)
      = { db with closure := (cutOutside db (descendantIds db id)).closure } := rfl
    _ = db := by rw [hclosure]

theorem setParent_of_mem {p : Option ℕ} (hp : ∀ q, p = some q → db.Mem q) :
    setParent db id p = some (reparented db id p db.closure) := by
  refine if_pos ?_
  cases p with
  | none => rfl
  | some q => exact hp q rfl

/-- The rows after the cut are those of a tree in which the group is a root. -/
theorem move_root (hid : db.Mem id) :
    move db id none = (.ok ((reparented db id none (cutOutside db (descendantIds db id)).closure).group id),
      reparented db id none (cutOutside db (descendantIds db id)).closure) := by
  unfold move
  rw [if_neg (by simpa [Mem, Option.isSome_iff_ne_none] using hid)]
  simp only [Option.any_none, Bool.false_eq_true, if_false]
  rw [setParent_of_mem (by simp)]
  rfl

theorem move_descendant (hid : db.Mem id) {p : ℕ} (hp : p ∈ descendantIds db id) :
    move db id (some p) = (.error .intoOwnDescendant, db) := by
  unfold move
  rw [if_neg (by simpa [Mem, Option.isSome_iff_ne_none] using hid), if_pos (by simpa using hp)]

theorem move_under (h : db.Sound) (hid : db.Mem id) {p : ℕ} (hp : db.Mem p) (hnu : ¬ Under db.parent id p) :
    ∃ row, move db id (some p) = (.ok row, reparented db id (some p)
      ((cutOutside db (descendantIds db id)).closure ++
        reconnectRows (cutOutside db (descendantIds db id)) id p)) := by
  have hdesc : p ∉ descendantIds db id := mt (mem_descendantIds_iff h hp).1 hnu
  unfold move
  rw [if_neg (by simpa [Mem, Option.isSome_iff_ne_none] using hid)]
  simp only [Option.any_some, hdesc, decide_false, Bool.false_eq_true, if_false]
  rw [insertClosure_reconnect h hnu]
  simp only
  rw [setParent_of_mem (by rintro q ⟨⟩; exact hp)]
  exact ⟨_, rfl⟩

/-- No row leads to a group that does not exist: nothing is reconnected, and the update is refused. -/
theorem move_missing (h : db.Sound) (hid : db.Mem id) {p : ℕ} (hp : ¬ db.Mem p) :
    move db id (some p) = (.error .database, cutOutside db (descendantIds db id)) := by
  have hdesc : p ∉ descendantIds db id := by
    intro hd
    obtain ⟨k, hk⟩ := mem_descendantIds.1 hd
    exact hp (h.exact.mem_descendant hk)
  have hrows : reconnectRows (cutOutside db (descendantIds db id)) id p = [] := by
    have hnone : ((cutOutside db (descendantIds db id)).closure.filter fun r => r.descendantId = p) = [] := by
      rw [List.filter_eq_nil_iff]
      rintro ⟨a, d, k⟩ hr
      have hrow := List.mem_of_mem_filter hr
      simpa using fun e : d = p => hp (e ▸ h.exact.mem_descendant hrow)
    rw [reconnectRows, hnone]
    rfl
  have hcut : Keyed ClosureRow.pair (cutOutside db (descendantIds db id)).closure :=
    h.schema.pairs.sublist (List.filter_sublist.map _)
  have hins : insertClosure (cutOutside db (descendantIds db id)) [] =
      some (cutOutside db (descendantIds db id)) := by
    unfold insertClosure
    rw [List.append_nil]
    exact if_pos ⟨hcut, by simp⟩
  have hset : setParent (cutOutside db (descendantIds db id)) id (some p) = none :=
    if_neg (show ¬ (db.group p).isSome = true from hp)
  unfold move
  rw [if_neg (by simpa [Mem, Option.isSome_iff_ne_none] using hid)]
  simp only [Option.any_some, hdesc, decide_false, Bool.false_eq_true, if_false]
  rw [hrows, hins]
  simp only [hset]

theorem sound_moved (h : db.Sound) (hid : db.Mem id) {p : Option ℕ}
    (hp : ∀ q, p = some q → db.Mem q ∧ ¬ Under db.parent id q) : (move db id p).2.Sound := by
  have hcutPairs : Keyed ClosureRow.pair (cutOutside db (descendantIds db id)).closure :=
    h.schema.pairs.sublist (List.filter_sublist.map _)
  cases p with
  | none =>
      rw [move_root hid]
      refine sound_reparented h hid (by simp) hcutPairs fun a d k => ?_
      rw [← InClosure, inClosure_cut h]
      simp
  | some q =>
      obtain ⟨hq, hnu⟩ := hp q rfl
      obtain ⟨row, hmove⟩ := move_under h hid hq hnu
      rw [hmove]
      refine sound_reparented h hid (by rintro q' ⟨⟩; exact ⟨hq, hnu⟩) ?_ fun a d k => ?_
      · have hins := insertClosure_reconnect h hnu
        unfold insertClosure at hins
        split_ifs at hins with hk
        exact hk.1
      · rw [List.mem_append, mem_reconnectRows h hnu, ← InClosure, inClosure_cut h]
        simp

/-- **A move keeps the closure exact**, unless it takes a group that has a parent to a group that
does not exist: the rows are then cut before the foreign key refuses the update. -/
theorem move_sound (h : db.Sound) (newParentId : Option ℕ)
    (hok : ∀ p, newParentId = some p → db.Mem p ∨ db.parent id = none) :
    (move db id newParentId).2.Sound := by
  by_cases hid : db.Mem id
  · cases newParentId with
    | none => exact sound_moved h hid (by simp)
    | some p =>
        by_cases hp : db.Mem p
        · by_cases hu : Under db.parent id p
          · rw [move_descendant hid ((mem_descendantIds_iff h hp).2 hu)]
            exact h
          · exact sound_moved h hid (by rintro q ⟨⟩; exact ⟨hp, hu⟩)
        · rw [move_missing h hid hp, cutOutside_of_root h ((hok p rfl).resolve_left hp)]
          exact h
  · have hmove : move db id newParentId = (.ok none, db) := if_pos (by simpa [Mem] using hid)
    rw [hmove]
    exact h

end Move

end Obliance.Groups

import Obliance.Backup.Sections
import Obliance.Groups.TopoSort

/-!
# What importing a tenant's own groups writes

* `OwnUuids` : what the unique `uuid` columns give: an own uuid is known and not foreign;
* `restored` : the row of a group as its item writes it back;
* `importGroup_own` : one item; `importLoop_own`, `importGroups_own` : all of them, in the order of
  `topoSort`.
-/

namespace Obliance.Backup
open Obliance.Js Obliance.Groups KeyedTable

variable {host : Host} {tenantId : ℕ}

/-! ## Uuids of the tenant's own rows -/

section Uuids
variable {ρ : Type} {uuid : ρ → String} {owner id : ρ → ℕ} {rows : List ρ} {r : ρ}

variable (host uuid rows) in
/-- A `uuid` column: NOT NULL, unique, and read back as it was written. -/
structure OwnUuids : Prop where
  distinct : Keyed uuid rows
  text : ∀ r ∈ rows, uuid r ≠ "" ∧ host.pg.uuidIn (.str (uuid r)) = some (uuid r)

theorem OwnUuids.truthy (h : OwnUuids host uuid rows) (hr : r ∈ rows) : (JsVal.str (uuid r)).truthy = true :=
  decide_eq_true (h.text r hr).1

theorem OwnUuids.known (h : OwnUuids host uuid rows) (hr : r ∈ rows) (ho : owner r = tenantId) :
    (idByUuid tenantId uuid owner id rows).get (.str (uuid r)) = some (id r) := by
  apply JsMap.get_foldl_set_of_mem (f := fun r => JsVal.str (uuid r)) (v := id)
  · have hsub : ((rows.filter fun r => owner r = tenantId).map uuid).Nodup :=
      h.distinct.sublist (List.filter_sublist.map uuid)
    have := hsub.map (f := JsVal.str) fun a b hab => by simpa using hab
    rwa [List.map_map] at this
  · exact List.mem_filter.2 ⟨hr, decide_eq_true ho⟩

theorem OwnUuids.foreign (h : OwnUuids host uuid rows) {uuids : List JsVal}
    (hu : ∀ u ∈ uuids, ∃ r ∈ rows, owner r = tenantId ∧ u = .str (uuid r)) :
    foreignUuids host tenantId uuid owner rows uuids = some [] := by
  have hmap : ∀ us : List JsVal, (∀ u ∈ us, ∃ r ∈ rows, owner r = tenantId ∧ u = .str (uuid r)) →
      ∃ texts, us.mapM host.pg.uuidIn = some texts ∧
        ∀ t ∈ texts, ∃ r ∈ rows, owner r = tenantId ∧ t = uuid r := by
    intro us
    induction us with
    | nil => exact fun _ => ⟨[], rfl, fun t ht => by cases ht⟩
    | cons u us ih =>
        intro hus
        obtain ⟨r, hr, ho, rfl⟩ := hus u List.mem_cons_self
        obtain ⟨texts, htexts, hall⟩ := ih fun v hv => hus v (List.mem_cons_of_mem _ hv)
        refine ⟨uuid r :: texts, ?_, ?_⟩
        · simp [List.mapM_cons, (h.text r hr).2, htexts]
        · intro t ht
          rcases List.mem_cons.1 ht with rfl | ht
          · exact ⟨r, hr, ho, rfl⟩
          · exact hall t ht
  obtain ⟨texts, htexts, hall⟩ := hmap (uuids.filter JsVal.truthy) fun u hu' =>
    hu u (List.mem_of_mem_filter hu')
  have hnone : (rows.filter fun r => decide (uuid r ∈ texts) && decide (owner r ≠ tenantId)) = [] := by
    rw [List.filter_eq_nil_iff]
    intro r' hr' he
    simp only [Bool.and_eq_true, decide_eq_true_eq] at he
    obtain ⟨r, hr, ho, hu'⟩ := hall _ he.1
    exact he.2 (h.distinct.eq_of_key hr' hr hu' ▸ ho)
  rw [foreignUuids, htexts, Option.map_some, hnone]
  rfl

/-- With the strategy 'update', the item of an own row updates it. -/
theorem OwnUuids.update (h : OwnUuids host uuid rows) (hr : r ∈ rows) (ho : owner r = tenantId)
    (random : String) :
    resolveConflict .update random (.str (uuid r)) (idByUuid tenantId uuid owner id rows) [] =
      .update (.str (uuid r)) (id r) := by
  simp [resolveConflict, h.truthy hr, h.known hr ho]

end Uuids

/-! ## Groups by uuid and by id -/

/-- What the types of `device_groups` allow in the columns. -/
structure TypedColumns (c : GroupColumns) : Prop where
  description : c.description ≠ .undefined
  sortOrder : c.sortOrder ≠ .undefined
  notifications : ∃ b, c.groupNotifications = .bool b

variable (host) in
/-- Rows as the types and keys of `device_groups` let them be. -/
structure GroupsStored (db : GroupDb) : Prop where
  keys : db.Schema
  uuids : OwnUuids host GroupRow.uuid db.groups
  typed : ∀ g ∈ db.groups, TypedColumns g.columns

section Ids
variable {db : GroupDb} {g : GroupRow}

theorem mem_tenantGroups : g ∈ tenantGroups tenantId db ↔ g ∈ db.groups ∧ g.tenantId = tenantId := by
  simp [tenantGroups]

variable (tenantId db) in
/-- The id of a group of the tenant. -/
def inTenant (id : ℕ) : Bool := (tenantGroups tenantId db).any fun g => g.id = id

theorem inTenant_iff {id : ℕ} : inTenant tenantId db id = true ↔ ∃ g ∈ tenantGroups tenantId db, g.id = id := by
  simp [inTenant]

/-- A group of the tenant is exported by its uuid, whatever else an id leads to is not exported. -/
theorem uuidOf_eq {rows : List GroupRow} (hp : rows.Perm (tenantGroups tenantId db)) (hdb : db.Schema)
    (id : Option ℕ) :
    (∃ g ∈ tenantGroups tenantId db, id = some g.id ∧ uuidOf (groupUuidMap rows) id = .str g.uuid) ∨
      (∀ i, id = some i → inTenant tenantId db i = false) ∧ uuidOf (groupUuidMap rows) id = .null := by
  cases id with
  | none => exact .inr ⟨fun _ hi => (nomatch hi), rfl⟩
  | some i =>
      have hids : (rows.map GroupRow.id).Nodup :=
        (hp.map GroupRow.id).nodup_iff.2 (hdb.ids.sublist (List.filter_sublist.map GroupRow.id))
      by_cases hin : inTenant tenantId db i = true
      · obtain ⟨g, hg, rfl⟩ := inTenant_iff.1 hin
        refine .inl ⟨g, hg, rfl, ?_⟩
        have := JsMap.get_foldl_set_of_mem (v := GroupRow.uuid) hids (hp.mem_iff.2 hg) []
        simp [uuidOf, groupUuidMap, this]
      · refine .inr ⟨fun j hj => Option.some.inj hj ▸ Bool.eq_false_iff.2 hin, ?_⟩
        have hout : ∀ g ∈ rows, g.id ≠ i := fun g hg he =>
          hin (inTenant_iff.2 ⟨g, hp.mem_iff.1 hg, he⟩)
        have := JsMap.get_foldl_set_of_notMem (v := GroupRow.uuid) hout []
        simp [uuidOf, groupUuidMap, this]

end Ids

/-! ## The groups as the import leaves them -/

/-- The columns as an item writes them back: its defaults for a missing order and for a configuration
that counts as false. -/
def writtenBack (c : GroupColumns) : GroupColumns :=
  { c with sortOrder := if c.sortOrder = .null then .num 0 else c.sortOrder
           groupConfig := if c.groupConfig.truthy then c.groupConfig else .obj "{}" }

theorem exportGroup_columns {m : JsMap ℕ String} {g : GroupRow} (h : TypedColumns g.columns) :
    (exportGroup m g).columns = writtenBack g.columns := by
  obtain ⟨b, hb⟩ := h.notifications
  have hd : g.columns.description.orElse .null = g.columns.description := by
    have := h.description
    cases hc : g.columns.description <;> simp_all [JsVal.orElse]
  have hs : g.columns.sortOrder.orElse (.num 0) =
      if g.columns.sortOrder = .null then .num 0 else g.columns.sortOrder := by
    have := h.sortOrder
    cases hc : g.columns.sortOrder <;> simp_all [JsVal.orElse]
  have hn : g.columns.groupNotifications.orElse (.bool false) = g.columns.groupNotifications := by rw [hb]; rfl
  simp only [ImportItem.columns, exportGroup, writtenBack, hd, hs, hn]
  rfl

variable (tenantId) in
/-- The row a group becomes: its parent only if it is of the tenant too. -/
def restored (db : GroupDb) (g : GroupRow) : GroupRow :=
  { g with columns := writtenBack g.columns, parentId := g.parentId.filter (inTenant tenantId db) }

variable (tenantId) in
/-- The row after the groups of the uuids `done` were imported. -/
def afterGroups (db : GroupDb) (done : List String) (g : GroupRow) : GroupRow :=
  if g.tenantId = tenantId ∧ g.uuid ∈ done ∧ g.columns.name.truthy = true then restored tenantId db g else g

@[simp] theorem afterGroups_id (db : GroupDb) (done : List String) (g : GroupRow) :
    (afterGroups tenantId db done g).id = g.id := by
  unfold afterGroups
  split_ifs <;> rfl

@[simp] theorem afterGroups_uuid (db : GroupDb) (done : List String) (g : GroupRow) :
    (afterGroups tenantId db done g).uuid = g.uuid := by
  unfold afterGroups
  split_ifs <;> rfl

@[simp] theorem afterGroups_tenantId (db : GroupDb) (done : List String) (g : GroupRow) :
    (afterGroups tenantId db done g).tenantId = g.tenantId := by
  unfold afterGroups
  split_ifs <;> rfl

variable (tenantId) in
/-- Where the loop stands: the maps still lead to the rows the tenant had. -/
structure ImportingOwn (db : GroupDb) (done : List String) (st : ImportState) : Prop where
  tables : st.db = { db with groups := db.groups.map (afterGroups tenantId db done) }
  known : st.groupIdByUuid = idByUuid tenantId GroupRow.uuid GroupRow.tenantId GroupRow.id db.groups
  batch : ∀ uuid id, st.batchGroupByOrigUuid.get uuid = some id → st.groupIdByUuid.get uuid = some id

section Loop
variable {db : GroupDb} {done : List String} {st : ImportState} {g : GroupRow}

theorem ImportingOwn.resolveGroup (h : ImportingOwn tenantId db done st) (hdb : GroupsStored host db)
    (hg : g ∈ tenantGroups tenantId db) : resolveGroup st (.str g.uuid) = some g.id := by
  obtain ⟨hmem, ho⟩ := mem_tenantGroups.1 hg
  have hknown : st.groupIdByUuid.get (.str g.uuid) = some g.id := by
    rw [h.known]
    exact hdb.uuids.known hmem ho
  rw [Groups.resolveGroup, hdb.uuids.truthy hmem, hknown]
  cases hb : st.batchGroupByOrigUuid.get (.str g.uuid) with
  | none => rfl
  | some id =>
      have := h.batch _ _ hb
      rw [hknown] at this
      exact this.symm

/-- An exported reference leads back to the group, if it is of the tenant. -/
theorem ImportingOwn.resolve_uuidOf (h : ImportingOwn tenantId db done st) (hdb : GroupsStored host db)
    {rows : List GroupRow} (hp : rows.Perm (tenantGroups tenantId db)) (id : Option ℕ) :
    Groups.resolveGroup st (uuidOf (groupUuidMap rows) id) = id.filter (inTenant tenantId db) := by
  obtain ⟨g, hg, rfl, he⟩ | ⟨hout, he⟩ := uuidOf_eq hp hdb.keys id
  · rw [he, h.resolveGroup hdb hg, Option.filter_some, if_pos (inTenant_iff.2 ⟨g, hg, rfl⟩)]
  · rw [he]
    cases id with
    | none => rfl
    | some i => rw [Option.filter_some, hout i rfl]; rfl

theorem group_isSome_of_inTenant {id : ℕ} (h : inTenant tenantId db id = true) : (db.group id).isSome := by
  obtain ⟨g, hg, hid⟩ := inTenant_iff.1 h
  exact get_isSome_iff.2 ⟨g, (mem_tenantGroups.1 hg).1, hid⟩

/-- The rows other than that of the item keep what they are. -/
theorem afterGroups_cons (hdb : GroupsStored host db) (hg : g ∈ tenantGroups tenantId db)
    {r : GroupRow} (hr : r ∈ db.groups) :
    afterGroups tenantId db (g.uuid :: done) r =
      if r = g ∧ g.columns.name.truthy = true then restored tenantId db r
      else afterGroups tenantId db done r := by
  obtain ⟨hmem, ho⟩ := mem_tenantGroups.1 hg
  by_cases hrg : r = g
  · subst hrg
    by_cases hname : r.columns.name.truthy = true
    · simp [afterGroups, ho, hname]
    · simp [afterGroups, hname]
  · have hne : r.uuid ≠ g.uuid := fun he => hrg (hdb.uuids.distinct.eq_of_key hr hmem he)
    simp [afterGroups, hrg, hne]

variable {foreign : List String}

/-- The rows after the UPDATE of the item's row. -/
theorem map_afterGroups_cons (hdb : GroupsStored host db) (hg : g ∈ tenantGroups tenantId db)
    (hname : g.columns.name.truthy = true) :
    (db.groups.map (afterGroups tenantId db done)).map (fun r =>
        if r.uuid = g.uuid ∧ r.tenantId = tenantId then
          { r with columns := writtenBack g.columns, parentId := g.parentId.filter (inTenant tenantId db) }
        else r) =
      db.groups.map (afterGroups tenantId db (g.uuid :: done)) := by
  obtain ⟨hmem, ho⟩ := mem_tenantGroups.1 hg
  rw [List.map_map]
  apply List.map_congr_left
  intro r hr
  rw [afterGroups_cons hdb hg hr, Function.comp_apply, afterGroups_uuid, afterGroups_tenantId]
  by_cases hrg : r = g
  · subst hrg
    rw [if_pos ⟨rfl, ho⟩, if_pos ⟨rfl, hname⟩]
    unfold afterGroups
    split_ifs <;> rfl
  · rw [if_neg fun hc => hrg (hdb.uuids.distinct.eq_of_key hr hmem hc.1), if_neg fun hc => hrg hc.1]

/-- The UPDATE of an item's row is accepted: its parent is a group of the tenant, or NULL. -/
theorem updateImported_own (hdb : GroupsStored host db) (hback : host.pg.acceptsColumns (writtenBack g.columns) = true)
    {rows : List GroupRow} (hp : rows.Perm (tenantGroups tenantId db)) (hg : g ∈ tenantGroups tenantId db)
    (hname : g.columns.name.truthy = true) (h : ImportingOwn tenantId db done st) {req : ImportRequest}
    (hreq : req.tenantId = tenantId) :
    updateImported host.pg req st.db (.str g.uuid) (exportGroup (groupUuidMap rows) g).columns
        (Groups.resolveGroup st (uuidOf (groupUuidMap rows) g.parentId)) =
      some { db with groups := db.groups.map (afterGroups tenantId db (g.uuid :: done)) } := by
  obtain ⟨hmem, -⟩ := mem_tenantGroups.1 hg
  have hfound : (g.parentId.filter (inTenant tenantId db)).all fun p => (st.db.group p).isSome := by
    rw [h.tables]
    cases hf : g.parentId.filter (inTenant tenantId db) with
    | none => rfl
    | some p =>
        have hin := (Option.filter_eq_some_iff.1 hf).2
        simpa [GroupDb.group, get_map] using group_isSome_of_inTenant hin
  rw [exportGroup_columns (hdb.typed g hmem), h.resolve_uuidOf hdb hp]
  simp only [updateImported, (hdb.uuids.text g hmem).2]
  rw [if_pos (by rw [hback, hfound]; rfl), h.tables, hreq, map_afterGroups_cons hdb hg hname]

/-- One item of the export, imported with 'update': its row is written back. -/
theorem importGroup_own (hdb : GroupsStored host db) (hback : host.pg.acceptsColumns (writtenBack g.columns) = true)
    {rows : List GroupRow} (hp : rows.Perm (tenantGroups tenantId db)) (hg : g ∈ tenantGroups tenantId db)
    (h : ImportingOwn tenantId db done st) {req : ImportRequest} (hreq : req.tenantId = tenantId)
    (hupdate : req.conflictStrategy = .update) (hforeign : req.foreignGroupUuids = []) :
    ∃ st', importGroup host.pg req st (exportGroup (groupUuidMap rows) g) = (.ok (), st') ∧
      ImportingOwn tenantId db (g.uuid :: done) st' := by
  obtain ⟨hmem, ho⟩ := mem_tenantGroups.1 hg
  by_cases hname : g.columns.name.truthy = true
  · have hdecision : Groups.resolveConflict req st (exportGroup (groupUuidMap rows) g) =
        .update (.str g.uuid) g.id := by
      rw [resolveConflict_group, h.known, hupdate, hforeign]
      exact hdb.uuids.update hmem ho _
    refine ⟨{ st with
      db := { db with groups := db.groups.map (afterGroups tenantId db (g.uuid :: done)) }
      batchGroupByOrigUuid := st.batchGroupByOrigUuid.set (.str g.uuid) g.id
      updated := st.updated + 1 }, ?_, rfl, h.known, ?_⟩
    · unfold importGroup
      rw [if_neg (by simpa [exportGroup] using hname), hdecision]
      simp only [show (exportGroup (groupUuidMap rows) g).parentUuid = uuidOf (groupUuidMap rows) g.parentId from rfl,
        updateImported_own hdb hback hp hg hname h hreq]
    · intro uuid id hget
      simp only [JsMap.get_set] at hget
      split_ifs at hget with hu
      · rw [hu, h.known, ← Option.some.inj hget]
        exact hdb.uuids.known hmem ho
      · exact h.batch uuid id hget
  · refine ⟨{ st with skipped := st.skipped + 1 }, ?_, ?_, h.known, h.batch⟩
    · unfold importGroup
      exact if_pos (by simpa [exportGroup] using hname)
    · rw [h.tables, List.map_congr_left fun r hr => ?_]
      rw [afterGroups_cons hdb hg hr, if_neg fun hc => hname hc.2]

/-- The run over a list of items of the export. -/
theorem importLoop_own (hdb : GroupsStored host db)
    (hback : ∀ g ∈ db.groups, host.pg.acceptsColumns (writtenBack g.columns) = true)
    {rows : List GroupRow} (hp : rows.Perm (tenantGroups tenantId db)) {req : ImportRequest}
    (hreq : req.tenantId = tenantId) (hupdate : req.conflictStrategy = .update)
    (hforeign : req.foreignGroupUuids = []) (items : List ImportItem) :
    ∀ {done : List String} {st : ImportState}, ImportingOwn tenantId db done st →
      (∀ i ∈ items, ∃ g ∈ tenantGroups tenantId db, i = exportGroup (groupUuidMap rows) g) →
      ∃ done' st', importLoop host.pg req items st = (.ok (), st') ∧ ImportingOwn tenantId db done' st' ∧
        done ⊆ done' ∧ ∀ i ∈ items, ∀ uuid, i.uuid = .str uuid → uuid ∈ done' := by
  induction items with
  | nil => exact fun {done st} h _ => ⟨done, st, rfl, h, List.Subset.refl _, fun i hi => by cases hi⟩
  | cons i items ih =>
      intro done st h hitems
      obtain ⟨g, hg, rfl⟩ := hitems i List.mem_cons_self
      obtain ⟨st₁, hone, h₁⟩ :=
        importGroup_own hdb (hback g (mem_tenantGroups.1 hg).1) hp hg h hreq hupdate hforeign
      obtain ⟨done', st', hloop, h', hsub, hall⟩ := ih h₁ fun j hj => hitems j (List.mem_cons_of_mem _ hj)
      refine ⟨done', st', ?_, h', fun u hu => hsub (List.mem_cons_of_mem _ hu), ?_⟩
      · rw [importLoop, hone]
        exact hloop
      · intro j hj uuid huuid
        rcases List.mem_cons.1 hj with rfl | hj
        · have : g.uuid = uuid := by simpa [exportGroup] using huuid
          exact this ▸ hsub List.mem_cons_self
        · exact hall j hj uuid huuid

end Loop

variable (tenantId) in
/-- The groups after the tenant's own export was imported: every group with a name is written back. -/
def importedGroups (db : GroupDb) : List GroupRow :=
  db.groups.map fun g =>
    if g.tenantId = tenantId ∧ g.columns.name.truthy = true then restored tenantId db g else g

/-- The group section: no statement of it fails, and the maps lead to the tenant's own groups. -/
theorem importGroups_own {db : BackupDb} (hdb : GroupsStored host db.groups)
    (hback : ∀ g ∈ db.groups.groups, host.pg.acceptsColumns (writtenBack g.columns) = true) {req : ImportRequest}
    (hreq : req.tenantId = tenantId) (hupdate : req.conflictStrategy = .update)
    (hforeign : req.foreignGroupUuids = []) :
    ∃ done st, importLoop host.pg req (topoSort (exportGroups host tenantId db)) (startImport db.groups tenantId) =
        (.ok (), st) ∧ ImportingOwn tenantId db.groups done st ∧
      st.db = { db.groups with groups := importedGroups tenantId db.groups } := by
  have hp := host.groupOrder.perm (tenantGroups tenantId db.groups)
  have hd : ((exportGroups host tenantId db).map ImportItem.uuid).Nodup := by
    have hrows : ((host.groupOrder.order (tenantGroups tenantId db.groups)).map GroupRow.uuid).Nodup :=
      (hp.map GroupRow.uuid).nodup_iff.2 (hdb.uuids.distinct.sublist (List.filter_sublist.map GroupRow.uuid))
    have := hrows.map (f := JsVal.str) fun a b hab => by simpa using hab
    simpa [exportGroups, Function.comp_def, exportGroup] using this
  have hitems : ∀ i ∈ topoSort (exportGroups host tenantId db), ∃ g ∈ tenantGroups tenantId db.groups,
      i = exportGroup (groupUuidMap (host.groupOrder.order (tenantGroups tenantId db.groups))) g := by
    intro i hi
    obtain ⟨g, hg, rfl⟩ := List.mem_map.1 ((mem_topoSort hd).1 hi)
    exact ⟨g, hp.mem_iff.1 hg, rfl⟩
  have hstart : ImportingOwn tenantId db.groups [] (startImport db.groups tenantId) := by
    refine ⟨?_, rfl, fun uuid id hget => by cases hget⟩
    have hsame : db.groups.groups.map (afterGroups tenantId db.groups []) = db.groups.groups := by
      apply List.map_id''
      intro g
      simp [afterGroups]
    rw [hsame]
    rfl
  obtain ⟨done, st, hloop, h, -, hall⟩ :=
    importLoop_own hdb hback hp hreq hupdate hforeign _ hstart hitems
  refine ⟨done, st, hloop, h, h.tables.trans ?_⟩
  have hrows : db.groups.groups.map (afterGroups tenantId db.groups done) = importedGroups tenantId db.groups := by
    apply List.map_congr_left
    intro g hg
    by_cases ho : g.tenantId = tenantId
    · have hitem : exportGroup (groupUuidMap (host.groupOrder.order (tenantGroups tenantId db.groups))) g ∈
          topoSort (exportGroups host tenantId db) :=
        (mem_topoSort hd).2 (List.mem_map.2 ⟨g, hp.mem_iff.2 (mem_tenantGroups.2 ⟨hg, ho⟩), rfl⟩)
      have hdone : g.uuid ∈ done := hall _ hitem g.uuid rfl
      simp [afterGroups, ho, hdone]
    · simp [afterGroups, ho]
  rw [hrows]

end Obliance.Backup

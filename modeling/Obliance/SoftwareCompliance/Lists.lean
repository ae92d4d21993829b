import Mathlib.Data.List.ReduceOption
import Obliance.Js.Value
import Obliance.Lib.KeyedTable

/-!
# Software-compliance lists (`services/softwareCompliance.service.ts`)

A list of a tenant has entries, and an entry has sources; `entry_id` and `list_id` are ON DELETE CASCADE.

* `Tables` : the three tables with their keys (`Schema`); `ComplianceDb` : tables that keep them;
* `updateList` : the transaction, `none` when a statement or the code in it throws;
* `putList` : PUT /software-compliance/lists/:id.
-/

namespace Obliance.SoftwareCompliance
open Obliance.Js KeyedTable

/-! ## Rows -/

/-- Columns of a list, as they are bound to a statement. -/
structure ListColumns where
  name : JsVal
  description : JsVal
  listType : JsVal
  targetType : JsVal
  targetIds : JsVal
  targetPlatform : JsVal
  autoRemediate : JsVal
  enabled : JsVal
  deriving DecidableEq, Repr

structure ListRow where
  id : ℕ
  tenantId : ℕ
  columns : ListColumns
  updatedAt : ℤ
  deriving DecidableEq, Repr

structure EntryColumns where
  name : JsVal
  matchType : JsVal
  publisher : JsVal
  minVersion : JsVal
  maxVersion : JsVal
  installSource : JsVal
  installId : JsVal
  installScript : JsVal
  msiUrl : JsVal
  msiParams : JsVal
  sortOrder : JsVal
  deriving DecidableEq, Repr

structure EntryRow where
  id : ℕ
  listId : ℕ
  columns : EntryColumns
  deriving DecidableEq, Repr

structure SourceColumns where
  packageManager : JsVal
  packageId : JsVal
  msiUrl : JsVal
  repoPackageId : JsVal
  installScript : JsVal
  msiParams : JsVal
  platformScope : JsVal
  sortOrder : JsVal
  deriving DecidableEq, Repr

structure SourceRow where
  id : ℕ
  entryId : ℕ
  columns : SourceColumns
  deriving DecidableEq, Repr

/-- A row of `software_repo_packages`. -/
structure RepoPackage where
  id : ℕ
  uuid : String
  deriving DecidableEq, Repr

structure Tables where
  lists : List ListRow
  entries : List EntryRow
  sources : List SourceRow
  packages : List RepoPackage
  /-- The next values of the `id` sequences. -/
  nextEntryId : ℕ
  nextSourceId : ℕ
  deriving DecidableEq, Repr

/-- What the keys of the tables enforce. -/
structure Tables.Schema (t : Tables) : Prop where
  lists : Keyed ListRow.id t.lists
  entries : Keyed EntryRow.id t.entries
  entryUsed : ∀ e ∈ t.entries, e.id < t.nextEntryId
  entryList : ∀ e ∈ t.entries, ∃ l ∈ t.lists, l.id = e.listId
  sourceUsed : ∀ s ∈ t.sources, s.id < t.nextSourceId
  sourceEntry : ∀ s ∈ t.sources, ∃ e ∈ t.entries, e.id = s.entryId

structure ComplianceDb extends Tables where
  schema : toTables.Schema

/-! ## The body of a request -/

structure SourceData where
  packageManager : JsVal
  packageId : JsVal
  msiUrl : JsVal
  repoPackageId : JsVal
  installScript : JsVal
  msiParams : JsVal
  platformScope : JsVal
  sortOrder : JsVal
  deriving DecidableEq, Repr

/-- The value of `sources`: an array, whose elements may be null, or what `?.[0]` finds in something else
and whether its `length` is truthy. -/
inductive SourcesVal where
  | array (sources : List (Option SourceData))
  | other (first : Option SourceData) (length : Bool)
  deriving DecidableEq, Repr

structure EntryData where
  name : JsVal
  matchType : JsVal
  publisher : JsVal
  minVersion : JsVal
  maxVersion : JsVal
  installSource : JsVal
  installId : JsVal
  installScript : JsVal
  msiUrl : JsVal
  msiParams : JsVal
  sortOrder : JsVal
  sources : SourcesVal
  deriving DecidableEq, Repr

/-- The value of `entries`; of what is not an array, whether its `length` is truthy. -/
inductive EntriesVal where
  | undefined
  | null
  | array (entries : List (Option EntryData))
  | other (length : Bool)
  deriving DecidableEq, Repr

structure ListData where
  /-- A member that is undefined is not updated. -/
  columns : ListColumns
  entries : EntriesVal
  deriving DecidableEq, Repr

/-- PostgreSQL's part: the parameters of an UPDATE, and whether the values of a statement pass the types,
lengths and keys of its table. -/
structure Pg where
  bindsList : ListColumns → Bool
  acceptsList : ListColumns → Bool
  acceptsEntries : List EntryColumns → Bool
  acceptsSources : List SourceColumns → Bool
  /-- The integer of a bound value. -/
  int4 : JsVal → ℤ

variable (pg : Pg)

/-! ## The statements -/

def setColumn (old new : JsVal) : JsVal := if new = .undefined then old else new

/-- `updates` -/
def ListColumns.update (c data : ListColumns) : ListColumns :=
  { name := setColumn c.name data.name
    description := setColumn c.description data.description
    listType := setColumn c.listType data.listType
    targetType := setColumn c.targetType data.targetType
    targetIds := setColumn c.targetIds data.targetIds
    targetPlatform := setColumn c.targetPlatform data.targetPlatform
    autoRemediate := setColumn c.autoRemediate data.autoRemediate
    enabled := setColumn c.enabled data.enabled }

def ListRow.update (now : ℤ) (data : ListColumns) (r : ListRow) : ListRow :=
  { r with columns := r.columns.update data, updatedAt := now }

/-- `UPDATE software_compliance_lists … WHERE id = ? AND tenant_id = ?` -/
def updateLists (t : Tables) (now : ℤ) (id tenantId : ℕ) (data : ListColumns) : Option Tables :=
  let matched := fun r : ListRow => r.id = id ∧ r.tenantId = tenantId
  if pg.bindsList data && t.lists.all fun r => !(matched r) || pg.acceptsList (r.columns.update data) then
    some { t with lists := t.lists.map fun r => if matched r then r.update now data else r }
  else none

/-- `DELETE FROM software_compliance_entries WHERE list_id = ?`, with the cascade. -/
def deleteEntries (t : Tables) (listId : ℕ) : Tables :=
  { t with
    entries := t.entries.filter fun e => e.listId ≠ listId
    sources := t.sources.filter fun s => !(t.entries.any fun e => e.listId = listId ∧ e.id = s.entryId) }

def newEntries (t : Tables) (listId : ℕ) (columns : List EntryColumns) : List EntryRow :=
  columns.mapIdx fun i c => ⟨t.nextEntryId + i, listId, c⟩

def Tables.addEntries (t : Tables) (listId : ℕ) (columns : List EntryColumns) : Tables :=
  { t with
    entries := t.entries ++ newEntries t listId columns
    nextEntryId := t.nextEntryId + columns.length }

/-- `INSERT INTO software_compliance_entries … RETURNING *` -/
def insertEntries (t : Tables) (listId : ℕ) (columns : List EntryColumns) : Option (List EntryRow × Tables) :=
  if pg.acceptsEntries columns ∧ (get ListRow.id t.lists listId).isSome then
    some (newEntries t listId columns, t.addEntries listId columns)
  else none

def newSources (t : Tables) (entryId : ℕ) (columns : List SourceColumns) : List SourceRow :=
  columns.mapIdx fun i c => ⟨t.nextSourceId + i, entryId, c⟩

/-- `INSERT INTO software_compliance_entry_sources` -/
def insertSources (t : Tables) (entryId : ℕ) (columns : List SourceColumns) : Option Tables :=
  if pg.acceptsSources columns ∧ (get EntryRow.id t.entries entryId).isSome then
    some
      { t with
        sources := t.sources ++ newSources t entryId columns
        nextSourceId := t.nextSourceId + columns.length }
  else none

/-! ## `updateList` -/

/-- `sources?.[0]` -/
def SourcesVal.first : SourcesVal → Option SourceData
  | .array sources => sources.head?.join
  | .other first _ => first

/-- `e.sources?.[0]?.f || d || null` -/
def firstOr (sources : SourcesVal) (f : SourceData → JsVal) (d : JsVal) : JsVal :=
  ((sources.first.elim .undefined f).or d).or .null

def entryColumns (i : ℕ) (e : EntryData) : EntryColumns :=
  { name := e.name
    matchType := e.matchType.or (.str "contains")
    publisher := e.publisher.or .null
    minVersion := e.minVersion.or .null
    maxVersion := e.maxVersion.or .null
    installSource := firstOr e.sources SourceData.packageManager e.installSource
    installId := firstOr e.sources SourceData.packageId e.installId
    installScript := firstOr e.sources SourceData.installScript e.installScript
    msiUrl := firstOr e.sources SourceData.msiUrl e.msiUrl
    msiParams := firstOr e.sources SourceData.msiParams e.msiParams
    sortOrder := e.sortOrder.orElse (.num i) }

def sourceColumns (si : ℕ) (s : SourceData) : SourceColumns :=
  { packageManager := s.packageManager
    packageId := s.packageId.or .null
    msiUrl := s.msiUrl.or .null
    repoPackageId := s.repoPackageId.or .null
    installScript := s.installScript.or .null
    msiParams := s.msiParams.or .null
    platformScope := s.platformScope.or (.str "any")
    sortOrder := s.sortOrder.orElse (.num si) }

/-- The elements of an array, none of them null: `map` reads a member of each. -/
def readElements {α : Type} (xs : List (Option α)) : Option (List α) :=
  if xs.all Option.isSome then some xs.reduceOption else none

/-- `if (srcData?.length)` : what is not an array has no `map`. -/
def persistSources (t : Tables) (entryId : ℕ) : SourcesVal → Option Tables
  | .array [] => some t
  | .array sources => (readElements sources).bind fun data => insertSources pg t entryId (data.mapIdx sourceColumns)
  | .other _ length => if length then none else some t

/-- The loop over the inserted entries. -/
def persistAll : Tables → List (EntryRow × EntryData) → Option Tables
  | t, [] => some t
  | t, (row, e) :: rows => (persistSources pg t row.id e.sources).bind fun t => persistAll t rows

def rewriteEntries (t : Tables) (id : ℕ) : EntriesVal → Option Tables
  | .undefined => some t
  | .null => none
  | .other length => if length then none else some (deleteEntries t id)
  | .array [] => some (deleteEntries t id)
  | .array entries =>
      (readElements entries).bind fun data =>
        (insertEntries pg (deleteEntries t id) id (data.mapIdx entryColumns)).bind fun (inserted, t) =>
          persistAll pg t (inserted.zip data)

structure ListResult where
  list : ListRow
  /-- Each entry with its sources, and the uuid of a source's repository package. -/
  entries : List (EntryRow × List (SourceRow × Option String))
  deriving DecidableEq, Repr

def loadSources (t : Tables) (entryId : ℕ) : List (SourceRow × Option String) :=
  ((t.sources.filter fun s => s.entryId = entryId).mergeSort
      fun a b => pg.int4 a.columns.sortOrder ≤ pg.int4 b.columns.sortOrder).map fun s =>
    (s, (t.packages.find? fun p => s.columns.repoPackageId ≠ .null ∧ (p.id : ℤ) = pg.int4 s.columns.repoPackageId).map
      RepoPackage.uuid)

/-- The list read at the end of the transaction. -/
def readList (t : Tables) (id tenantId : ℕ) : Option ListResult :=
  (t.lists.find? fun r => r.id = id ∧ r.tenantId = tenantId).map fun row =>
    { list := row
      entries := ((t.entries.filter fun e => e.listId = id).mergeSort
          fun a b => pg.int4 a.columns.sortOrder ≤ pg.int4 b.columns.sortOrder).map fun e =>
        (e, loadSources pg t e.id) }

/-- The list of the response, and the tables the transaction commits. -/
def updateList (t : Tables) (now : ℤ) (id tenantId : ℕ) (data : ListData) : Option (Option ListResult × Tables) :=
  (updateLists pg t now id tenantId data.columns).bind fun t =>
    (rewriteEntries pg t id data.entries).map fun t => (readList pg t id tenantId, t)

theorem length_readElements {α : Type} {xs : List (Option α)} {ys : List α} (h : readElements xs = some ys) :
    ys.length = xs.length := by
  unfold readElements at h
  split_ifs at h with hall
  rw [← Option.some.inj h, List.reduceOption_length_eq_iff]
  exact List.all_eq_true.mp hall

/-! ## The statements keep the keys -/

variable {pg} {t t' : Tables} {now : ℤ} {id tenantId : ℕ}

theorem updateLists_eq_some {data : ListColumns} (h : updateLists pg t now id tenantId data = some t') :
    t' = { t with lists := t.lists.map fun r => if r.id = id ∧ r.tenantId = tenantId then r.update now data else r } := by
  unfold updateLists at h
  dsimp only at h
  split_ifs at h
  exact (Option.some.inj h).symm

theorem id_ite_update {data : ListColumns} (r : ListRow) :
    (if r.id = id ∧ r.tenantId = tenantId then r.update now data else r).id = r.id := by
  split_ifs <;> rfl

theorem schema_updateLists {data : ListColumns} (ht : t.Schema)
    (h : updateLists pg t now id tenantId data = some t') : t'.Schema := by
  rw [updateLists_eq_some h]
  refine ⟨nodup_map id_ite_update ht.lists, ht.entries, ht.entryUsed, fun e he => ?_, ht.sourceUsed, ht.sourceEntry⟩
  obtain ⟨l, hl, hid⟩ := ht.entryList e he
  exact ⟨_, List.mem_map_of_mem hl, by rw [id_ite_update, hid]⟩

theorem schema_deleteEntries (ht : t.Schema) : (deleteEntries t id).Schema := by
  refine ⟨ht.lists, ht.entries.sublist (List.filter_sublist.map _), fun e he => ?_, fun e he => ?_, fun s hs => ?_,
    fun s hs => ?_⟩
  · exact ht.entryUsed e (List.mem_of_mem_filter he)
  · exact ht.entryList e (List.mem_of_mem_filter he)
  · exact ht.sourceUsed s (List.mem_of_mem_filter hs)
  · -- the entry of a source that is kept is kept
    obtain ⟨hs, hkept⟩ := List.mem_filter.mp hs
    obtain ⟨e, he, hid⟩ := ht.sourceEntry s hs
    refine ⟨e, List.mem_filter.mpr ⟨he, ?_⟩, hid⟩
    simp only [Bool.not_eq_true', List.any_eq_false, decide_eq_true_eq, not_and] at hkept
    exact decide_eq_true fun hlist => hkept e he hlist hid

theorem mem_newEntries {columns : List EntryColumns} {e : EntryRow} (he : e ∈ newEntries t id columns) :
    e.listId = id ∧ t.nextEntryId ≤ e.id ∧ e.id < t.nextEntryId + columns.length := by
  obtain ⟨i, hi, rfl⟩ := List.mem_mapIdx.mp he
  exact ⟨rfl, Nat.le_add_right _ _, Nat.add_lt_add_left hi _⟩

theorem newEntries_keyed (columns : List EntryColumns) : Keyed EntryRow.id (newEntries t id columns) := by
  have hids : (newEntries t id columns).map EntryRow.id = (List.range columns.length).map (t.nextEntryId + ·) := by
    refine List.ext_getElem (by simp [newEntries]) fun i _ _ => ?_
    simp [newEntries]
  rw [Keyed, hids]
  exact List.nodup_range.map fun _ _ => Nat.add_left_cancel

theorem insertEntries_eq_some {columns : List EntryColumns} {rows : List EntryRow}
    (h : insertEntries pg t id columns = some (rows, t')) :
    rows = newEntries t id columns ∧ (get ListRow.id t.lists id).isSome ∧ t' = t.addEntries id columns := by
  unfold insertEntries at h
  split_ifs at h with haccepts
  obtain ⟨hrows, ht⟩ := Prod.mk.inj (Option.some.inj h)
  exact ⟨hrows.symm, haccepts.2, ht.symm⟩

theorem schema_insertEntries {columns : List EntryColumns} {rows : List EntryRow} (ht : t.Schema)
    (h : insertEntries pg t id columns = some (rows, t')) : t'.Schema := by
  obtain ⟨-, hlist, rfl⟩ := insertEntries_eq_some h
  have hnew : ∀ e ∈ newEntries t id columns, e.id < t.nextEntryId + columns.length := fun e he =>
    (mem_newEntries he).2.2
  refine ⟨ht.lists, ?_, fun e he => ?_, fun e he => ?_, ht.sourceUsed, fun s hs => ?_⟩
  · rw [Keyed, Tables.addEntries, List.map_append]
    refine List.nodup_append.mpr ⟨ht.entries, newEntries_keyed columns, ?_⟩
    rintro a ha b hb rfl
    obtain ⟨e, he, rfl⟩ := List.mem_map.mp ha
    obtain ⟨e', he', hid⟩ := List.mem_map.mp hb
    have := ht.entryUsed e he
    have := (mem_newEntries he').2.1
    omega
  · rcases List.mem_append.mp he with he | he
    · exact Nat.lt_add_right _ (ht.entryUsed e he)
    · exact hnew e he
  · rcases List.mem_append.mp he with he | he
    · exact ht.entryList e he
    · rw [(mem_newEntries he).1]
      exact get_isSome_iff.mp hlist
  · obtain ⟨e, he, hid⟩ := ht.sourceEntry s hs
    exact ⟨e, List.mem_append_left _ he, hid⟩

theorem insertSources_eq_some {columns : List SourceColumns} (h : insertSources pg t id columns = some t') :
    (get EntryRow.id t.entries id).isSome ∧ t' =
      { t with
        sources := t.sources ++ newSources t id columns
        nextSourceId := t.nextSourceId + columns.length } := by
  unfold insertSources at h
  split_ifs at h with haccepts
  exact ⟨haccepts.2, (Option.some.inj h).symm⟩

theorem schema_insertSources {columns : List SourceColumns} (ht : t.Schema)
    (h : insertSources pg t id columns = some t') : t'.Schema := by
  obtain ⟨hentry, rfl⟩ := insertSources_eq_some h
  refine ⟨ht.lists, ht.entries, ht.entryUsed, ht.entryList, fun s hs => ?_, fun s hs => ?_⟩
  · rcases List.mem_append.mp hs with hs | hs
    · exact Nat.lt_add_right _ (ht.sourceUsed s hs)
    · obtain ⟨i, hi, rfl⟩ := List.mem_mapIdx.mp hs
      exact Nat.add_lt_add_left hi _
  · rcases List.mem_append.mp hs with hs | hs
    · exact ht.sourceEntry s hs
    · obtain ⟨i, hi, rfl⟩ := List.mem_mapIdx.mp hs
      exact get_isSome_iff.mp hentry

theorem persistSources_induction {P : Tables → Prop} {sources : SourcesVal}
    (hinsert : ∀ t t' columns, P t → insertSources pg t id columns = some t' → P t') (ht : P t)
    (h : persistSources pg t id sources = some t') : P t' := by
  unfold persistSources at h
  split at h
  · exact Option.some.inj h ▸ ht
  · obtain ⟨data, -, h⟩ := Option.bind_eq_some_iff.mp h
    exact hinsert _ _ _ ht h
  · split_ifs at h
    exact Option.some.inj h ▸ ht

/-- What an insert of sources keeps, the loop keeps. -/
theorem persistAll_induction {P : Tables → Prop}
    (hinsert : ∀ t t' id columns, P t → insertSources pg t id columns = some t' → P t') :
    ∀ {rows : List (EntryRow × EntryData)} {t t' : Tables}, P t → persistAll pg t rows = some t' → P t'
  | [], t, t', ht, h => Option.some.inj h ▸ ht
  | (row, e) :: rows, t, t', ht, h => by
      obtain ⟨u, hu, h⟩ := Option.bind_eq_some_iff.mp h
      have hpu : P u := persistSources_induction (fun t t' => hinsert t t' row.id) ht hu
      exact persistAll_induction hinsert hpu h

theorem schema_rewriteEntries {entries : EntriesVal} (ht : t.Schema)
    (h : rewriteEntries pg t id entries = some t') : t'.Schema := by
  unfold rewriteEntries at h
  split at h
  · exact Option.some.inj h ▸ ht
  · cases h
  · split_ifs at h
    exact Option.some.inj h ▸ schema_deleteEntries ht
  · exact Option.some.inj h ▸ schema_deleteEntries ht
  · obtain ⟨data, -, h⟩ := Option.bind_eq_some_iff.mp h
    obtain ⟨⟨rows, u⟩, hinsert, h⟩ := Option.bind_eq_some_iff.mp h
    exact persistAll_induction (fun _ _ _ _ => schema_insertSources)
      (schema_insertEntries (schema_deleteEntries ht) hinsert) h

theorem schema_updateList {data : ListData} {list : Option ListResult} (ht : t.Schema)
    (h : updateList pg t now id tenantId data = some (list, t')) : t'.Schema := by
  obtain ⟨u, hu, h⟩ := Option.bind_eq_some_iff.mp h
  obtain ⟨v, hv, h⟩ := Option.map_eq_some_iff.mp h
  exact (Prod.mk.inj h).2 ▸ schema_rewriteEntries (schema_updateLists ht hu) hv

/-! ## The route -/

inductive Response where
  | json (list : Option ListResult)
  /-- `next(err)` -/
  | error
  deriving DecidableEq, Repr

variable (pg)

/-- PUT /software-compliance/lists/:id; a transaction that throws is rolled back. -/
def putList (db : ComplianceDb) (now : ℤ) (id tenantId : ℕ) (data : ListData) : Response × ComplianceDb :=
  match h : updateList pg db.toTables now id tenantId data with
  | some (list, t) => (.json list, ⟨t, schema_updateList db.schema h⟩)
  | none => (.error, db)

end Obliance.SoftwareCompliance

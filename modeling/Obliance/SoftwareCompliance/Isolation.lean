import Obliance.SoftwareCompliance.Lists

/-!
# A request of one tenant and the lists of another

`updateList` carries the tenant in its UPDATE and in its last query, and rewrites the entries between them
without it.

* `rowsOf` : the rows of a tenant in the three tables;
* `Rewritten` : the body has entries, and no statement on them throws;
* `lists_isolated_iff` : the rows of the other tenant are kept exactly when nothing is rewritten, or nothing
  is replaced by nothing.
-/

namespace Obliance.SoftwareCompliance
open Obliance.Js KeyedTable

def listTenant (t : Tables) (listId : ℕ) : Option ℕ := (get ListRow.id t.lists listId).map ListRow.tenantId

def entryTenant (t : Tables) (entryId : ℕ) : Option ℕ :=
  (get EntryRow.id t.entries entryId).bind fun e => listTenant t e.listId

structure TenantRows where
  lists : List ListRow
  entries : List EntryRow
  sources : List SourceRow
  deriving DecidableEq, Repr

/-- An entry is its list's tenant's, and a source its entry's. -/
def rowsOf (tenantId : ℕ) (t : Tables) : TenantRows :=
  { lists := t.lists.filter fun l => l.tenantId = tenantId
    entries := t.entries.filter fun e => listTenant t e.listId = some tenantId
    sources := t.sources.filter fun s => entryTenant t s.entryId = some tenantId }

variable (pg : Pg)

/-- `map` reads every element, and the INSERT takes the rows. -/
def SourcesAccepted : SourcesVal → Prop
  | .array [] => True
  | .array sources => ∃ data, readElements sources = some data ∧ pg.acceptsSources (data.mapIdx sourceColumns) = true
  | .other _ length => length = false

def EntriesAccepted : EntriesVal → Prop
  | .undefined => True
  | .null => False
  | .other length => length = false
  | .array [] => True
  | .array entries => ∃ data, readElements entries = some data ∧
      pg.acceptsEntries (data.mapIdx entryColumns) = true ∧ ∀ e ∈ data, SourcesAccepted pg e.sources

/-- The body has `entries`, and neither the code nor a statement refuses it. -/
def Rewritten (data : ListData) : Prop :=
  data.entries ≠ .undefined ∧ pg.bindsList data.columns = true ∧ EntriesAccepted pg data.entries

/-- `data.entries?.length` is truthy. -/
def EntriesVal.HasEntries : EntriesVal → Prop
  | .array entries => entries ≠ []
  | .other length => length = true
  | _ => False

/-! ## What the rewriting does to the tables -/

variable {pg} {t t' : Tables} {now : ℤ} {id : ℕ}

theorem insertSources_rest {columns : List SourceColumns} (h : insertSources pg t id columns = some t') :
    t'.entries = t.entries ∧ t'.lists = t.lists := by
  obtain ⟨-, rfl⟩ := insertSources_eq_some h
  exact ⟨rfl, rfl⟩

theorem persistSources_isSome {sources : SourcesVal} (hentry : (get EntryRow.id t.entries id).isSome) :
    (persistSources pg t id sources).isSome ↔ SourcesAccepted pg sources := by
  cases sources with
  | other first length => cases length <;> simp [persistSources, SourcesAccepted]
  | array sources =>
      cases sources with
      | nil => simp [persistSources, SourcesAccepted]
      | cons source sources =>
          simp only [persistSources, SourcesAccepted]
          cases readElements (source :: sources) with
          | none => simp
          | some data => simp [insertSources, hentry]

theorem persistAll_isSome : ∀ {rows : List (EntryRow × EntryData)} {t : Tables},
    (∀ r ∈ rows, (get EntryRow.id t.entries r.1.id).isSome) →
      ((persistAll pg t rows).isSome ↔ ∀ r ∈ rows, SourcesAccepted pg r.2.sources)
  | [], _, _ => by simp [persistAll]
  | (row, e) :: rows, t, hentries => by
      have hhead : (persistSources pg t row.id e.sources).isSome ↔ SourcesAccepted pg e.sources :=
        persistSources_isSome (hentries _ List.mem_cons_self)
      rw [persistAll, List.forall_mem_cons, ← hhead]
      cases hu : persistSources pg t row.id e.sources with
      | none => simp
      | some u =>
          have hkept : u.entries = t.entries :=
            persistSources_induction (P := fun u => u.entries = t.entries)
              (fun a b columns ha h => (insertSources_rest h).1.trans ha) rfl hu
          have htail : (persistAll pg u rows).isSome ↔ ∀ r ∈ rows, SourcesAccepted pg r.2.sources := by
            apply persistAll_isSome
            intro r hr
            rw [hkept]
            exact hentries r (List.mem_cons_of_mem _ hr)
          simpa using htail

/-- The loop goes over the rows just inserted, each with its element of the body. -/
theorem persistAll_newEntries (data : List EntryData) :
    (persistAll pg (t.addEntries id (data.mapIdx entryColumns))
        ((newEntries t id (data.mapIdx entryColumns)).zip data)).isSome ↔
      ∀ e ∈ data, SourcesAccepted pg e.sources := by
  have hsnd : ((newEntries t id (data.mapIdx entryColumns)).zip data).map Prod.snd = data := by
    rw [List.map_snd_zip]
    simp [newEntries]
  rw [persistAll_isSome]
  · conv_rhs => rw [← hsnd, List.forall_mem_map]
  · intro r hr
    exact get_isSome_iff.mpr ⟨r.1, List.mem_append_right _ (List.of_mem_zip hr).1, rfl⟩

theorem rewriteEntries_isSome {entries : EntriesVal} (hlist : (get ListRow.id t.lists id).isSome) :
    (rewriteEntries pg t id entries).isSome ↔ EntriesAccepted pg entries := by
  cases entries with
  | undefined => simp [rewriteEntries, EntriesAccepted]
  | null => simp [rewriteEntries, EntriesAccepted]
  | other length => cases length <;> simp [rewriteEntries, EntriesAccepted]
  | array elements =>
      cases elements with
      | nil => simp [rewriteEntries, EntriesAccepted]
      | cons e elements =>
          simp only [rewriteEntries, EntriesAccepted]
          cases readElements (e :: elements) with
          | none => simp
          | some data =>
              by_cases haccepts : pg.acceptsEntries (data.mapIdx entryColumns) = true
              · have hlist' : (get ListRow.id (deleteEntries t id).lists id).isSome := hlist
                simp [insertEntries, haccepts, hlist', persistAll_newEntries]
              · simp [insertEntries, haccepts]

/-- The entries of the other lists are kept, and those of the list are new ones. -/
theorem rewriteEntries_rest {entries : EntriesVal} (hne : entries ≠ .undefined)
    (h : rewriteEntries pg t id entries = some t') :
    t'.lists = t.lists ∧ ∃ rows : List EntryRow, t'.entries = (deleteEntries t id).entries ++ rows ∧
      (∀ e ∈ rows, e.listId = id ∧ t.nextEntryId ≤ e.id) ∧ (rows ≠ [] ↔ entries.HasEntries) := by
  unfold rewriteEntries at h
  split at h
  · exact absurd rfl hne
  · cases h
  · rename_i length
    split_ifs at h with hlength
    obtain rfl := Option.some.inj h
    exact ⟨rfl, [], by simp, by simp, by simp [EntriesVal.HasEntries, hlength]⟩
  · obtain rfl := Option.some.inj h
    exact ⟨rfl, [], by simp, by simp, by simp [EntriesVal.HasEntries]⟩
  · rename_i elements hnil
    obtain ⟨data, hread, h⟩ := Option.bind_eq_some_iff.mp h
    obtain ⟨⟨rows, u⟩, hinsert, h⟩ := Option.bind_eq_some_iff.mp h
    obtain ⟨rfl, -, hu⟩ := insertEntries_eq_some hinsert
    have hkept : t'.entries = u.entries ∧ t'.lists = u.lists :=
      persistAll_induction (P := fun t => t.entries = u.entries ∧ t.lists = u.lists)
        (fun a b _ _ ha h => ⟨(insertSources_rest h).1.trans ha.1, (insertSources_rest h).2.trans ha.2⟩) ⟨rfl, rfl⟩ h
    refine ⟨?_, newEntries (deleteEntries t id) id (data.mapIdx entryColumns), ?_, fun e he => ?_, ?_⟩
    · rw [hkept.2, hu]
      rfl
    · rw [hkept.1, hu, Tables.addEntries]
    · exact ⟨(mem_newEntries he).1, (mem_newEntries he).2.1⟩
    · have hlength := length_readElements hread
      have hmap : newEntries (deleteEntries t id) id (data.mapIdx entryColumns) ≠ [] ↔ elements ≠ [] := by
        rw [← List.length_pos_iff, ← List.length_pos_iff, ← hlength]
        simp [newEntries]
      exact hmap

theorem rewriteEntries_of_not_hasEntries {entries : EntriesVal} (hne : entries ≠ .undefined)
    (hno : ¬ entries.HasEntries) (h : rewriteEntries pg t id entries = some t') : t' = deleteEntries t id := by
  unfold rewriteEntries at h
  split at h
  · exact absurd rfl hne
  · cases h
  · split_ifs at h
    exact (Option.some.inj h).symm
  · exact (Option.some.inj h).symm
  · exact absurd (by assumption) hno

theorem deleteEntries_of_forall_ne (hnone : ∀ e ∈ t.entries, e.listId ≠ id) : deleteEntries t id = t := by
  have hentries : (t.entries.filter fun e => e.listId ≠ id) = t.entries :=
    List.filter_eq_self.mpr fun e he => decide_eq_true (hnone e he)
  have hsources : (t.sources.filter fun s => !(t.entries.any fun e => e.listId = id ∧ e.id = s.entryId)) = t.sources := by
    refine List.filter_eq_self.mpr fun s _ => ?_
    simp only [Bool.not_eq_true', List.any_eq_false, decide_eq_true_eq, not_and]
    exact fun e he hlist => absurd hlist (hnone e he)
  rw [deleteEntries, hentries, hsources]

/-! ## A list of another tenant -/

/-- The UPDATE finds no row. -/
theorem updateLists_other {l : ListRow} {B : ℕ} {data : ListColumns} (ht : t.Schema) (hl : l ∈ t.lists)
    (hB : l.tenantId ≠ B) :
    updateLists pg t now l.id B data = if pg.bindsList data then some t else none := by
  have hmatched : ∀ r ∈ t.lists, ¬ (r.id = l.id ∧ r.tenantId = B) := by
    rintro r hr ⟨hid, htenant⟩
    rw [ht.lists.eq_of_key hr hl hid] at htenant
    exact hB htenant
  have hlists : (t.lists.map fun r => if r.id = l.id ∧ r.tenantId = B then r.update now data else r) = t.lists := by
    conv_rhs => rw [← List.map_id t.lists]
    refine List.map_congr_left fun r hr => ?_
    rw [if_neg (hmatched r hr), id]
  have hall : (t.lists.all fun r => !decide (r.id = l.id ∧ r.tenantId = B) || pg.acceptsList (r.columns.update data)) := by
    rw [List.all_eq_true]
    intro r hr
    rw [decide_eq_false (hmatched r hr)]
    rfl
  unfold updateLists
  dsimp only
  rw [hlists, hall, Bool.and_true]

variable (pg)

variable {pg}

theorem mem_rowsOf_entries {l : ListRow} (ht : t.Schema) (hl : l ∈ t.lists) (hlists : t'.lists = t.lists)
    {e : EntryRow} (he : e.listId = l.id) : e ∈ (rowsOf l.tenantId t').entries ↔ e ∈ t'.entries := by
  have hget : get ListRow.id t.lists l.id = some l := (get_eq_some_iff ht.lists).mpr ⟨hl, rfl⟩
  simp [rowsOf, listTenant, he, hlists, hget]

theorem rowsOf_rewriteEntries_iff {l : ListRow} {entries : EntriesVal} (ht : t.Schema) (hl : l ∈ t.lists)
    (hne : entries ≠ .undefined) (h : rewriteEntries pg t l.id entries = some t') :
    rowsOf l.tenantId t' = rowsOf l.tenantId t ↔
      ¬ (entries.HasEntries ∨ ∃ e ∈ t.entries, e.listId = l.id) := by
  obtain ⟨hlists, rows, hentries, hrows, hhas⟩ := rewriteEntries_rest hne h
  constructor
  · intro heq
    have hiff : ∀ e : EntryRow, e.listId = l.id → (e ∈ t'.entries ↔ e ∈ t.entries) := by
      intro e he
      rw [← mem_rowsOf_entries ht hl hlists he, heq, mem_rowsOf_entries ht hl rfl he]
    -- an id is not used again, so the list has the same entries only when it has none
    have hold : ∀ e ∈ rows, e ∉ t.entries := fun e he hmem =>
      absurd (ht.entryUsed e hmem) (not_lt.mpr (hrows e he).2)
    rintro (hsome | ⟨e, he, hid⟩)
    · obtain ⟨e, he⟩ := List.exists_mem_of_ne_nil rows (hhas.mpr hsome)
      have hmem : e ∈ t'.entries := hentries ▸ List.mem_append_right _ he
      exact hold e he ((hiff e (hrows e he).1).mp hmem)
    · have hmem : e ∈ t'.entries := (hiff e hid).mpr he
      rw [hentries] at hmem
      rcases List.mem_append.mp hmem with hkept | hnew
      · simp [deleteEntries, hid] at hkept
      · exact hold e hnew he
  · intro hno
    rw [not_or] at hno
    have hnone : ∀ e ∈ t.entries, e.listId ≠ l.id := fun e he hid => hno.2 ⟨e, he, hid⟩
    rw [rewriteEntries_of_not_hasEntries hne hno.1 h, deleteEntries_of_forall_ne hnone]

variable (pg)

/-- **A request of another tenant keeps the rows of the list's tenant exactly when** nothing is rewritten, or
there is nothing to delete and nothing to insert. -/
theorem lists_isolated_iff (db : ComplianceDb) {l : ListRow} (hl : l ∈ db.lists) {B : ℕ} (hB : l.tenantId ≠ B)
    (now : ℤ) (data : ListData) :
    rowsOf l.tenantId (putList pg db now l.id B data).2.toTables = rowsOf l.tenantId db.toTables ↔
      ¬ (Rewritten pg data ∧ (data.entries.HasEntries ∨ ∃ e ∈ db.entries, e.listId = l.id)) := by
  have hlist : (get ListRow.id db.lists l.id).isSome := get_isSome_iff.mpr ⟨l, hl, rfl⟩
  have haccepted : (rewriteEntries pg db.toTables l.id data.entries).isSome ↔ EntriesAccepted pg data.entries :=
    rewriteEntries_isSome hlist
  unfold putList
  split
  · rename_i list t h
    obtain ⟨u, hu, h⟩ := Option.bind_eq_some_iff.mp h
    obtain ⟨v, hv, hlast⟩ := Option.map_eq_some_iff.mp h
    rw [updateLists_other db.schema hl hB] at hu
    split_ifs at hu with hbinds
    obtain rfl := Option.some.inj hu
    obtain rfl := (Prod.mk.inj hlast).2
    have haccepted := haccepted.mp (by rw [hv, Option.isSome_some])
    by_cases hne : data.entries = .undefined
    · rw [hne, rewriteEntries, Option.some.injEq] at hv
      subst hv
      exact iff_of_true rfl fun hrewritten => hrewritten.1.1 hne
    · rw [rowsOf_rewriteEntries_iff db.schema hl hne hv]
      simp [Rewritten, hne, hbinds, haccepted]
  · rename_i h
    refine iff_of_true rfl ?_
    rintro ⟨⟨-, hbinds, hentries⟩, -⟩
    rw [updateList, updateLists_other db.schema hl hB, if_pos hbinds, Option.bind_some, Option.map_eq_none_iff] at h
    rw [← haccepted, h] at hentries
    exact absurd hentries (by simp)

/-! ## Denied software of tenant 1 -/

/-- Texts and numbers, within their columns. -/
def pgTexts : Pg where
  bindsList := fun _ => true
  acceptsList := fun c => c.name ≠ .null
  acceptsEntries := fun rows => rows.all fun c => c.name ≠ .null ∧ c.name ≠ .undefined
  acceptsSources := fun rows => rows.all fun c => c.packageManager ≠ .null ∧ c.packageManager ≠ .undefined
  int4 := fun
    | .num q => q.num
    | _ => 0

def deniedSoftware : ComplianceDb where
  lists := [⟨1, 1, ⟨.str "denied", .null, .str "blacklist", .str "all", .obj "[]", .str "all", .bool true, .bool true⟩, 0⟩]
  entries :=
    [⟨1, 1, ⟨.str "torrent", .str "contains", .null, .null, .null, .str "winget", .null, .null, .null, .null, .num 0⟩⟩]
  sources := [⟨1, 1, ⟨.str "winget", .null, .null, .null, .null, .null, .str "windows", .num 0⟩⟩]
  packages := []
  nextEntryId := 2
  nextSourceId := 2
  schema := ⟨by decide, by decide, by decide, by decide, by decide, by decide⟩

def noColumns : ListColumns :=
  ⟨.undefined, .undefined, .undefined, .undefined, .undefined, .undefined, .undefined, .undefined⟩

/-- A body without entries, from tenant 2. -/
theorem lists_isolated_disable :
    rowsOf 1 (putList pgTexts deniedSoftware 60000 1 2 ⟨{ noColumns with enabled := .bool false }, .undefined⟩).2.toTables =
      rowsOf 1 deniedSoftware.toTables :=
  (lists_isolated_iff pgTexts deniedSoftware List.mem_cons_self (by decide : (1 : ℕ) ≠ 2) 60000 _).mpr
    fun hrewritten => hrewritten.1.1 rfl

/-- A body with an empty array of entries, from tenant 2, deletes the entries of the list of tenant 1. -/
theorem lists_not_isolated :
    ¬ ∀ (db : ComplianceDb) (l : ListRow) (B : ℕ) (now : ℤ) (data : ListData), l ∈ db.lists → l.tenantId ≠ B →
      rowsOf l.tenantId (putList pgTexts db now l.id B data).2.toTables = rowsOf l.tenantId db.toTables := by
  intro h
  have := h deniedSoftware _ 2 60000 ⟨noColumns, .array []⟩ List.mem_cons_self (by decide)
  exact absurd this (by decide)

end Obliance.SoftwareCompliance

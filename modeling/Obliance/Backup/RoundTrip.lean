import Obliance.Backup.RowSections
import Obliance.Groups.Runs

/-!
# The round trip of a tenant through its own backup

* `Restored` : the groups, their settings, the teams and their permissions are as they were;
* `Refused` : a statement of the export or of the import fails, and nothing is written;
* `WritesBack` : the import writes what was there;
* `backup_restored_iff` : exactly these two.
-/

namespace Obliance.Backup
open Obliance.Js Obliance.Groups Obliance.Notify Obliance.Users KeyedTable

/-! ## What should come back -/

/-- The permissions of the tenant's teams. -/
def teamPermissions (tenantId : ℕ) (db : BackupDb) : List PermissionRow :=
  db.permissions.filter fun p => db.teams.any fun t => decide (t.id = p.teamId ∧ t.tenantId = tenantId)

/-- Timestamps and the ids of settings and permissions aside. -/
structure Restored (tenantId : ℕ) (before after : BackupDb) : Prop where
  groups : tenantGroups tenantId after.groups = tenantGroups tenantId before.groups
  closure : after.groups.closure = before.groups.closure
  settings : groupSettings tenantId after.settings = groupSettings tenantId before.settings
  teams : (after.teams.filter fun t => t.tenantId = tenantId) = before.teams.filter fun t => t.tenantId = tenantId
  permissions : teamPermissions tenantId after = teamPermissions tenantId before

theorem Restored.refl (tenantId : ℕ) (db : BackupDb) : Restored tenantId db db := ⟨rfl, rfl, rfl, rfl, rfl⟩

/-- The rows as the types and keys of their tables let them be. -/
structure Stored (host : Host) (db : BackupDb) : Prop where
  groups : GroupsStored host db.groups
  columns : ∀ g ∈ db.groups.groups, host.pg.acceptsColumns g.columns = true
  slots : Keyed SettingRow.slot db.settings
  keys : ∀ s ∈ db.settings, s.key.length ≤ 100
  values : ∀ s ∈ db.settings, s.value ≠ some .undefined
  channels : OwnUuids host ChannelRow.uuid db.channels
  channelNames : ∀ c ∈ db.channels, c.name.length ≤ 200
  teams : OwnUuids host TeamRow.uuid db.teams
  teamNames : ∀ t ∈ db.teams, t.name.length ≤ 200

/-- The sections whose tables the migrations create. -/
def Requested.Covers (r : Requested) : Prop :=
  ∀ s ∈ [ExportSection.deviceGroups, .settings, .notificationChannels, .teams], r.want s = true

/-! ## When it does -/

/-- The export or the import fails, which leaves everything as it was. -/
inductive Refused (host : Host) (tenantId : ℕ) (r : Requested) (db : BackupDb) : Prop
  /-- A remediation section is asked for, and a statement on its tables fails. -/
  | remediation : wantsRemediation r.sections = true →
      (host.remediationExport = false ∨ host.remediationImport = false) → Refused host tenantId r db
  /-- The value of an exported setting is a string that is no JSON text. -/
  | setting (s : SettingRow) (text : String) : s ∈ db.settings → ExportedSetting tenantId db s → s.key ≠ "" →
      s.value = some (.str text) → host.jsonIn text = none → Refused host tenantId r db
  /-- A channel of the tenant with a name has a global binding, or one on a group of the tenant. -/
  | channel (c : ChannelRow) : c ∈ db.channels → c.tenantId = tenantId → RefusedChannel tenantId db c →
      Refused host tenantId r db
  /-- A team of the tenant with a name has a permission on a group of the tenant. -/
  | team (t : TeamRow) : t ∈ db.teams → t.tenantId = tenantId → RefusedTeam tenantId db t →
      Refused host tenantId r db

/-- Every row the import touches is written back as it was. -/
structure WritesBack (tenantId : ℕ) (db : BackupDb) : Prop where
  /-- Groups with a name: an order, a configuration that does not count as false, no parent elsewhere. -/
  groups : ∀ g ∈ tenantGroups tenantId db.groups, g.columns.name.truthy = true →
    g.columns.sortOrder ≠ .null ∧ g.columns.groupConfig.truthy = true ∧
      ∀ p, g.parentId = some p → inTenant tenantId db.groups p = true
  /-- Settings of groups: neither NULL nor a string. -/
  settings : ∀ s ∈ db.settings, ExportedSetting tenantId db s → s.scope = "group" → s.key ≠ "" →
    ∃ v, s.value = some v ∧ ∀ text, v ≠ .str text
  /-- No team with a name has any permission. -/
  permissions : ∀ t ∈ db.teams, t.tenantId = tenantId → t.name ≠ "" → ∀ p ∈ db.permissions, p.teamId ≠ t.id

variable {host : Host} {tenantId : ℕ} {r : Requested} {db : BackupDb}

theorem restored_group {g : GroupRow} :
    restored tenantId db.groups g = g ↔ g.columns.sortOrder ≠ .null ∧ g.columns.groupConfig.truthy = true ∧
      ∀ p, g.parentId = some p → inTenant tenantId db.groups p = true := by
  obtain ⟨id, tid, parentId, slug, uuid, name, description, sortOrder, notifications, config⟩ := g
  have hsort : (if sortOrder = JsVal.null then .num 0 else sortOrder) = sortOrder ↔ sortOrder ≠ .null := by
    split_ifs with hs
    · simp [hs]
    · simp [hs]
  have hconfig : (if config.truthy = true then config else .obj "{}") = config ↔ config.truthy = true := by
    split_ifs with hc
    · simp [hc]
    · constructor
      · rintro rfl
        exact absurd rfl hc
      · exact fun h => absurd h hc
  have hparent : parentId.filter (inTenant tenantId db.groups) = parentId ↔
      ∀ p, parentId = some p → inTenant tenantId db.groups p = true := by
    cases parentId with
    | none => simp
    | some p => simp
  simp only [restored, writtenBack, GroupRow.mk.injEq, GroupColumns.mk.injEq, hsort, hconfig, hparent, true_and]
  tauto

/-- A string is never read as itself, and NULL becomes the `null` of JSON. -/
theorem settingWritten_eq {s : SettingRow} (hv : s.value ≠ some .undefined) (hgroup : s.scope = "group") :
    settingWritten host s = s ↔ ∃ v, s.value = some v ∧ ∀ text, v ≠ .str text := by
  obtain ⟨tid, scope, scopeId, key, value⟩ := s
  subst hgroup
  have hval : settingWritten host ⟨tid, "group", scopeId, key, value⟩ = ⟨tid, "group", scopeId, key, value⟩ ↔
      (storeValue host (value.getD .null)).getD none = value := by
    simp [settingWritten]
  rw [hval]
  cases value with
  | none => simp [storeValue]
  | some v =>
      cases v with
      | undefined => exact absurd rfl hv
      | str text =>
          have := host.jsonIn_ne text
          cases hj : host.jsonIn text with
          | none => simp [storeValue, hj]
          | some w =>
              rw [hj] at this
              simpa [storeValue, hj] using fun h => this (congrArg some h)
      | null => simp [storeValue]
      | bool b => simp [storeValue]
      | num q => simp [storeValue]
      | obj json => simp [storeValue]

theorem refusedSetting_iff {s : SettingRow} :
    RefusedSetting host s ↔ s.key ≠ "" ∧ ∃ text, s.value = some (.str text) ∧ host.jsonIn text = none := by
  refine and_congr_right fun _ => ?_
  cases s.value with
  | none => simp [storeValue]
  | some v => cases v <;> simp [storeValue]

/-! ## The two requests, one after the other -/

variable (host tenantId r db) in
/-- The payload of an export that covers the tables. -/
def fullPayload : Payload where
  sections := r.sections
  deviceGroups := some (exportGroups host tenantId db)
  settings := some (exportSettings host tenantId db)
  notificationChannels := some (exportChannels host tenantId db)
  teams := some (exportTeams host tenantId db)

theorem exportData_covers (hr : r.Covers) :
    exportData host tenantId r db =
      if wantsRemediation r.sections && !host.remediationExport then none
      else some (fullPayload host tenantId r db) := by
  have hw : ∀ s ∈ [ExportSection.deviceGroups, .settings, .notificationChannels, .teams], r.want s = true := hr
  simp only [List.forall_mem_cons] at hw
  simp [exportData, fullPayload, hw]

theorem chosen_covers (hr : r.Covers) {ι : Type} {s : ExportSection} {items : List ι}
    (hs : s ∈ [ExportSection.deviceGroups, .settings, .notificationChannels, .teams]) :
    chosen r.sections s (some items) = items :=
  if_pos (of_decide_eq_true (hr s hs))

theorem foreignGroups_own (h : Stored host db) :
    foreignGroupUuids host.pg db.groups tenantId (exportGroups host tenantId db) = some [] := by
  show foreignUuids host tenantId GroupRow.uuid GroupRow.tenantId db.groups.groups
    ((exportGroups host tenantId db).map ImportItem.uuid) = some []
  apply h.groups.uuids.foreign
  intro u hu
  obtain ⟨i, hi, rfl⟩ := List.mem_map.1 hu
  obtain ⟨g, hg, rfl⟩ := List.mem_map.1 hi
  obtain ⟨hmem, ho⟩ := mem_tenantGroups.1 ((host.groupOrder.perm _).mem_iff.1 hg)
  exact ⟨g, hmem, ho, rfl⟩

theorem foreignChannels_own (h : Stored host db) :
    foreignUuids host tenantId ChannelRow.uuid ChannelRow.tenantId db.channels
      ((exportChannels host tenantId db).map ChannelItem.uuid) = some [] := by
  apply h.channels.foreign
  intro u hu
  obtain ⟨i, hi, rfl⟩ := List.mem_map.1 hu
  obtain ⟨c, hc, rfl⟩ := List.mem_map.1 hi
  obtain ⟨hmem, ho⟩ := List.mem_filter.1 ((host.channelOrder.perm _).mem_iff.1 hc)
  exact ⟨c, hmem, of_decide_eq_true ho, rfl⟩

theorem foreignTeams_own (h : Stored host db) :
    foreignUuids host tenantId TeamRow.uuid TeamRow.tenantId db.teams
      ((exportTeams host tenantId db).map TeamItem.uuid) = some [] := by
  apply h.teams.foreign
  intro u hu
  obtain ⟨i, hi, rfl⟩ := List.mem_map.1 hu
  obtain ⟨t, ht, rfl⟩ := List.mem_map.1 hi
  obtain ⟨hmem, ho⟩ := List.mem_filter.1 ((host.teamOrder.perm _).mem_iff.1 ht)
  exact ⟨t, hmem, of_decide_eq_true ho, rfl⟩

variable (host tenantId r db) in
/-- The tables after an import that no statement failed. -/
def written : BackupDb :=
  (teamRows host tenantId db).foldl putTeam ((channelRows host tenantId db).foldl (putChannel host tenantId db)
    { db with
      groups := { db.groups with groups := importedGroups tenantId db.groups }
      settings := (settingRows host tenantId db).foldl (putSetting host) db.settings })

/-- The transaction of the import of an own export, section by section. -/
theorem importSections_own (h : Stored host db) (hr : r.Covers)
    (hdefaults : ∀ c, host.pg.acceptsColumns c = true → host.pg.acceptsColumns (writtenBack c) = true) :
    importSections host tenantId .update r.sections (fullPayload host tenantId r db) db =
      if ∃ s ∈ settingRows host tenantId db, RefusedSetting host s then none
      else if ∃ c ∈ channelRows host tenantId db, RefusedChannel tenantId db c then none
      else if ∃ t ∈ teamRows host tenantId db, RefusedTeam tenantId db t then none
      else if wantsRemediation r.sections && !host.remediationImport then none
      else some (written host tenantId db) := by
  obtain ⟨done, st, hloop, hst, hgroups⟩ := @importGroups_own host tenantId db h.groups
    (fun g hg => hdefaults _ (h.columns g hg)) ⟨tenantId, .update, [], host.groupUuid⟩ rfl rfl rfl
  have hchosen : ∀ (s : ExportSection), s ∈ [ExportSection.deviceGroups, .settings, .notificationChannels, .teams] →
      ∀ {ι : Type} (items : List ι), chosen r.sections s (some items) = items :=
    fun s hs ι items => chosen_covers hr hs
  simp only [importSections, fullPayload, Option.getD_some, foreignGroups_own h, foreignChannels_own h,
    foreignTeams_own h, Option.bind_eq_bind, Option.bind_some, hchosen .deviceGroups (by simp),
    hchosen .settings (by simp), hchosen .notificationChannels (by simp), hchosen .teams (by simp), hloop, hgroups,
    importSettings_own hst h.groups h.keys]
  by_cases hs : ∃ s ∈ settingRows host tenantId db, RefusedSetting host s
  · simp [hs]
  rw [if_neg hs, if_neg hs, Option.bind_some, importChannels_own hst h.groups h.channels h.channelNames]
  by_cases hc : ∃ c ∈ channelRows host tenantId db, RefusedChannel tenantId db c
  · simp [hc]
  rw [if_neg hc, if_neg hc, Option.bind_some, importTeams_own hst h.groups h.teams h.teamNames, written]
  · by_cases ht : ∃ t ∈ teamRows host tenantId db, RefusedTeam tenantId db t
    · simp [ht]
    · simp [ht]
  · exact foldl_putChannel_teams _ _

theorem refused_iff :
    Refused host tenantId r db ↔
      (wantsRemediation r.sections = true ∧ (host.remediationExport = false ∨ host.remediationImport = false)) ∨
        (∃ s ∈ settingRows host tenantId db, RefusedSetting host s) ∨
        (∃ c ∈ channelRows host tenantId db, RefusedChannel tenantId db c) ∨
        ∃ t ∈ teamRows host tenantId db, RefusedTeam tenantId db t := by
  constructor
  · rintro (⟨hw, hf⟩ | ⟨s, text, hs, he, hk, hv, hj⟩ | ⟨c, hc, ho, hf⟩ | ⟨t, ht, ho, hf⟩)
    · exact .inl ⟨hw, hf⟩
    · exact .inr (.inl ⟨s, mem_settingRows.2 ⟨hs, he⟩, refusedSetting_iff.2 ⟨hk, text, hv, hj⟩⟩)
    · exact .inr (.inr (.inl ⟨c, mem_channelRows.2 ⟨hc, ho⟩, hf⟩))
    · exact .inr (.inr (.inr ⟨t, mem_teamRows.2 ⟨ht, ho⟩, hf⟩))
  · rintro (⟨hw, hf⟩ | ⟨s, hs, hf⟩ | ⟨c, hc, hf⟩ | ⟨t, ht, hf⟩)
    · exact .remediation hw hf
    · obtain ⟨hmem, he⟩ := mem_settingRows.1 hs
      obtain ⟨hk, text, hv, hj⟩ := refusedSetting_iff.1 hf
      exact .setting s text hmem he hk hv hj
    · exact .channel c (mem_channelRows.1 hc).1 (mem_channelRows.1 hc).2 hf
    · exact .team t (mem_teamRows.1 ht).1 (mem_teamRows.1 ht).2 hf

/-- A refused round trip leaves the tables, any other leaves what every section wrote. -/
theorem backupAndRestore_eq (h : Stored host db) (hr : r.Covers)
    (hdefaults : ∀ c, host.pg.acceptsColumns c = true → host.pg.acceptsColumns (writtenBack c) = true) :
    (Refused host tenantId r db → backupAndRestore host tenantId r db = db) ∧
      (¬ Refused host tenantId r db → backupAndRestore host tenantId r db = written host tenantId db) := by
  have hsections : r.sections ≠ [] := by
    intro hnil
    have := of_decide_eq_true (hr .deviceGroups (by simp))
    rw [hnil] at this
    cases this
  rw [refused_iff, backupAndRestore, exportData_covers hr]
  cases hw : wantsRemediation r.sections && !host.remediationExport with
  | true =>
      simp only [Bool.and_eq_true, Bool.not_eq_true'] at hw
      exact ⟨fun _ => rfl, fun hn => absurd (.inl ⟨hw.1, .inl hw.2⟩) hn⟩
  | false =>
      simp only [Bool.false_eq_true, if_false, importData]
      rw [show (fullPayload host tenantId r db).sections = r.sections from rfl, if_neg hsections,
        importSections_own h hr hdefaults]
      by_cases hs : ∃ s ∈ settingRows host tenantId db, RefusedSetting host s
      · simp [hs]
      by_cases hc : ∃ c ∈ channelRows host tenantId db, RefusedChannel tenantId db c
      · simp [hs, hc]
      by_cases ht : ∃ t ∈ teamRows host tenantId db, RefusedTeam tenantId db t
      · simp [hs, hc, ht]
      rw [if_neg hs, if_neg hc, if_neg ht]
      cases hi : wantsRemediation r.sections && !host.remediationImport with
      | true =>
          simp only [Bool.and_eq_true, Bool.not_eq_true'] at hi
          exact ⟨fun _ => rfl, fun hn => absurd (.inl ⟨hi.1, .inr hi.2⟩) hn⟩
      | false =>
          refine ⟨?_, fun _ => rfl⟩
          rintro (⟨hwants, hf⟩ | hf | hf | hf)
          · rw [hwants] at hw hi
            rcases hf with hf | hf
            · simp [hf] at hw
            · simp [hf] at hi
          · exact absurd hf hs
          · exact absurd hf hc
          · exact absurd hf ht

/-! ## The law -/

theorem groups_stay : tenantGroups tenantId { db.groups with groups := importedGroups tenantId db.groups } =
      tenantGroups tenantId db.groups ↔
    ∀ g ∈ tenantGroups tenantId db.groups, g.columns.name.truthy = true →
      restored tenantId db.groups g = g := by
  have hmap : tenantGroups tenantId { db.groups with groups := importedGroups tenantId db.groups } =
      (tenantGroups tenantId db.groups).map fun g =>
        if g.columns.name.truthy = true then restored tenantId db.groups g else g := by
    simp only [tenantGroups, importedGroups, List.filter_map]
    have hown : ∀ g : GroupRow, ((fun g : GroupRow => decide (g.tenantId = tenantId)) ∘ fun g =>
        if g.tenantId = tenantId ∧ g.columns.name.truthy = true then restored tenantId db.groups g else g) g =
          decide (g.tenantId = tenantId) := by
      intro g
      simp only [Function.comp_apply]
      split_ifs <;> rfl
    rw [List.filter_congr fun g _ => hown g]
    apply List.map_congr_left
    intro g hg
    simp [of_decide_eq_true (List.mem_filter.1 hg).2]
  rw [hmap]
  nth_rewrite 2 [← List.map_id (tenantGroups tenantId db.groups)]
  rw [List.map_inj_left]
  apply forall₂_congr
  intro g _
  by_cases hname : g.columns.name.truthy = true <;> simp [hname]

theorem permissions_stay {k : PermissionRow → Bool} :
    teamPermissions tenantId { db with permissions := db.permissions.filter k } = teamPermissions tenantId db ↔
      ∀ t ∈ db.teams, t.tenantId = tenantId → ∀ p ∈ db.permissions, p.teamId = t.id → k p = true := by
  rw [teamPermissions, teamPermissions]
  simp only
  rw [List.filter_comm, List.filter_eq_self]
  simp only [List.mem_filter, List.any_eq_true, decide_eq_true_eq]
  constructor
  · exact fun h t ht ho p hp hid => h p ⟨hp, t, ht, hid.symm, ho⟩
  · rintro h p ⟨hp, t, ht, hid, ho⟩
    exact h t ht ho p hp hid.symm

theorem restored_written (h : Stored host db) :
    Restored tenantId db (written host tenantId db) ↔ WritesBack tenantId db := by
  obtain ⟨cs, bs, hput⟩ := @foldl_putChannel host tenantId db (channelRows host tenantId db)
    { db with
      groups := { db.groups with groups := importedGroups tenantId db.groups }
      settings := (settingRows host tenantId db).foldl (putSetting host) db.settings }
  have hwritten : written host tenantId db =
      ({ groups := { db.groups with groups := importedGroups tenantId db.groups }
         settings := (settingRows host tenantId db).foldl (putSetting host) db.settings
         channels := cs
         bindings := bs
         teams := db.teams
         permissions := db.permissions.filter fun p =>
           (teamRows host tenantId db).all fun t => decide (t.name = "") || decide (p.teamId ≠ t.id) } : BackupDb) := by
    rw [written, hput, foldl_putTeam]
  have hkept : ∀ p : PermissionRow, ((teamRows host tenantId db).all fun t =>
      decide (t.name = "") || decide (p.teamId ≠ t.id)) = true ↔
        ∀ t ∈ db.teams, t.tenantId = tenantId → t.name ≠ "" → p.teamId ≠ t.id := by
    intro p
    simp only [List.all_eq_true, mem_teamRows, Bool.or_eq_true, decide_eq_true_eq, and_imp]
    exact forall₃_congr fun t _ _ => ⟨fun h hn => h.resolve_left hn, fun h => or_iff_not_imp_left.2 h⟩
  rw [hwritten]
  constructor
  · intro hres
    refine ⟨fun g hg hname => ?_, fun s hs he hgroup hk => ?_, fun t ht ho hname p hp hid => ?_⟩
    · exact restored_group.1 (groups_stay.1 hres.groups g hg hname)
    · exact (settingWritten_eq (h.values s hs) hgroup).1 ((groupSettings_stay h.slots).1 hres.settings s hs he hgroup hk)
    · exact (hkept p).1 (permissions_stay.1 hres.permissions t ht ho p hp hid) t ht ho hname hid
  · intro hw
    refine ⟨?_, rfl, ?_, rfl, ?_⟩
    · exact groups_stay.2 fun g hg hname => restored_group.2 (hw.groups g hg hname)
    · exact (groupSettings_stay h.slots).2 fun s hs he hgroup hk =>
        (settingWritten_eq (h.values s hs) hgroup).2 (hw.settings s hs he hgroup hk)
    · exact permissions_stay.2 fun _ _ _ p hp _ => (hkept p).2 fun t ht ho hname =>
        hw.permissions t ht ho hname p hp

/-- Exactly when something fails, or when nothing the import touches is lost, the round trip is harmless. -/
theorem backup_restored_iff (h : Stored host db) (hr : r.Covers)
    (hdefaults : ∀ c, host.pg.acceptsColumns c = true → host.pg.acceptsColumns (writtenBack c) = true) :
    Restored tenantId db (backupAndRestore host tenantId r db) ↔
      Refused host tenantId r db ∨ WritesBack tenantId db := by
  obtain ⟨hrefused, hwritten⟩ := backupAndRestore_eq h hr hdefaults
  by_cases hf : Refused host tenantId r db
  · rw [hrefused hf]
    exact iff_of_true (.refl tenantId db) (.inl hf)
  · rw [hwritten hf, restored_written h]
    simp [hf]

/-! ## A tenant that loses a permission -/

/-- A tenant with the group "Paris" and the team "Support", with the permissions of the team. -/
def supportTenant (permissions : List PermissionRow) : BackupDb where
  groups :=
    { groups := [⟨1, 1, none, "paris", "6a0ce7c6", ⟨.str "Paris", .null, .num 0, .bool false, .obj "{}"⟩⟩]
      closure := [⟨1, 1, 0⟩]
      nextId := 2 }
  settings := [⟨1, "group", some 1, "pushInterval", some (.num 60)⟩]
  channels := []
  bindings := []
  teams := [⟨1, 1, "0b5f4be4", "Support", none, false⟩]
  permissions := permissions

def listed (ρ : Type) : Arrangement ρ := ⟨id, fun rows => .refl rows⟩

/-- `remediation` says whether the remediation tables exist. -/
def plainHost (remediation : Bool) : Host where
  pg := lenientPg
  jsonIn := fun s => if s = "null" then some .null else none
  jsonIn_ne := by
    intro s
    split_ifs <;> simp
  jsonEntries := fun _ => none
  groupOrder := listed _
  settingOrder := listed _
  channelOrder := listed _
  bindingOrder := listed _
  teamOrder := listed _
  permissionOrder := listed _
  groupUuid := fun _ => "3d1f"
  channelUuid := fun _ => "5c2e"
  teamUuid := fun _ => "77ab"
  nextChannelId := fun rows => rows.length + 1
  nextTeamId := fun rows => rows.length + 1
  remediationExport := remediation
  remediationImport := remediation

/-- `Stored` says nothing about permissions. -/
theorem Stored.withPermissions (h : Stored host db) (permissions : List PermissionRow) :
    Stored host { db with permissions := permissions } := { h with }

theorem supportTenant_stored (remediation : Bool) : Stored (plainHost remediation) (supportTenant []) where
  groups :=
    { keys := ⟨by decide, by decide, by decide, by simp [supportTenant], by decide⟩
      uuids := ⟨by decide, by simp [supportTenant, plainHost, lenientPg]⟩
      typed := by
        intro g hg
        rw [List.mem_singleton.1 hg]
        exact ⟨by decide, by decide, false, rfl⟩ }
  columns := fun _ _ => rfl
  slots := by decide
  keys := by decide
  values := by simp [supportTenant]
  channels := ⟨by decide, by simp [supportTenant]⟩
  channelNames := by simp [supportTenant]
  teams := ⟨by decide, by simp [supportTenant, plainHost, lenientPg]⟩
  teamNames := by decide

theorem supportTenant_writesBack : WritesBack 1 (supportTenant []) := by
  refine ⟨?_, ?_, fun _ _ _ _ p hp => by cases hp⟩
  · intro g hg _
    rw [List.mem_singleton.1 (List.mem_of_mem_filter hg)]
    exact ⟨by decide, by decide, fun p hp => by cases hp⟩
  · intro s hs _ _ _
    rw [List.mem_singleton.1 hs]
    exact ⟨.num 60, rfl, fun text h => by cases h⟩

/-- Without permissions, nothing of this tenant is lost, with the remediation tables or without them. -/
theorem support_restored :
    Restored 1 (supportTenant []) (backupAndRestore (plainHost true) 1 .all (supportTenant [])) ∧
      Restored 1 (supportTenant []) (backupAndRestore (plainHost false) 1
        (.only [.deviceGroups, .settings, .notificationChannels, .teams]) (supportTenant [])) :=
  ⟨(backup_restored_iff (supportTenant_stored true) (by unfold Requested.Covers; decide) fun _ _ => rfl).2
      (.inr supportTenant_writesBack),
    (backup_restored_iff (supportTenant_stored false) (by unfold Requested.Covers; decide) fun _ _ => rfl).2
      (.inr supportTenant_writesBack)⟩

/-- Support may operate device 7, which is not a permission on a group: the import deletes it and has
nothing to put in its place. -/
def deviceAccess : List PermissionRow := [⟨1, 1, .device, 7, .rw, ["monitor", "execute"]⟩]

theorem device_access_lost :
    Stored (plainHost true) (supportTenant deviceAccess) ∧
      (backupAndRestore (plainHost true) 1 .all (supportTenant deviceAccess)).permissions = [] ∧
      ¬ Restored 1 (supportTenant deviceAccess) (backupAndRestore (plainHost true) 1 .all (supportTenant deviceAccess)) ∧
      ¬ Restored 1 (supportTenant deviceAccess) (backupAndRestore (plainHost false) 1
        (.only [.deviceGroups, .settings, .notificationChannels, .teams]) (supportTenant deviceAccess)) :=
  ⟨(supportTenant_stored true).withPermissions deviceAccess, by decide, fun h => absurd h.permissions (by decide),
    fun h => absurd h.permissions (by decide)⟩

end Obliance.Backup

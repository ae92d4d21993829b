import Obliance.Backup.GroupSection
import Obliance.Lib.GuardedFold
import Obliance.Lib.Overwrite

/-!
# What importing a tenant's own settings, channels and teams does

Each section is a loop that some rows of the tenant make fail. When none does:

* `importSettings_own` : each exported setting replaces its row;
* `importChannels_own` : only channels and bindings are written;
* `importTeams_own` : the teams stay, all permissions of the named ones are gone.
-/

namespace Obliance.Backup
open Obliance.Js Obliance.Groups Obliance.Notify Obliance.Users KeyedTable GuardedFold

variable {host : Host} {tenantId : ℕ} {db : BackupDb} {done : List String} {st : ImportState}

/-- The map of the export, from the groups of the tenant. -/
abbrev guMapOf (tenantId : ℕ) (db : GroupDb) : JsMap ℕ String := groupUuidMap (tenantGroups tenantId db)

theorem uuidOf_ne_null (hdb : db.groups.Schema) (id : Option ℕ) :
    uuidOf (guMapOf tenantId db.groups) id ≠ .null ↔ id.any (inTenant tenantId db.groups) = true := by
  obtain ⟨g, hg, rfl, he⟩ | ⟨hout, he⟩ := uuidOf_eq (List.Perm.refl (tenantGroups tenantId db.groups)) hdb id
  · simp [he, inTenant_iff.2 ⟨g, hg, rfl⟩]
  · cases id with
    | none => simp [he]
    | some i => simp [he, hout i rfl]

theorem filter_inTenant {id : Option ℕ} (h : id.any (inTenant tenantId db.groups) = true) :
    id.filter (inTenant tenantId db.groups) = id := by
  cases id with
  | none => rfl
  | some i => rw [Option.filter_some, if_pos (by simpa using h)]

/-- The id of an exported scope, resolved: that of the row, when it is on a group of the tenant. -/
theorem scopeIdOf_own (h : ImportingOwn tenantId db.groups done st) (hdb : GroupsStored host db.groups)
    {p : Prop} [Decidable p] {id : Option ℕ} (hin : p → id.any (inTenant tenantId db.groups) = true) :
    scopeIdOf st (decide p) (if p then uuidOf (guMapOf tenantId db.groups) id else .null) =
      if p then id else none := by
  by_cases hp : p
  · rw [if_pos hp, if_pos hp, scopeIdOf, if_pos (decide_eq_true hp), h.resolve_uuidOf hdb (List.Perm.refl _),
      filter_inTenant (hin hp)]
  · rw [if_neg hp, if_neg hp, scopeIdOf, if_neg (by simpa using hp)]

/-! ## Settings -/

section Settings

/-- A setting the export contains: a global one, or one on a group of the tenant. -/
def ExportedSetting (tenantId : ℕ) (db : BackupDb) (s : SettingRow) : Prop :=
  s.tenantId = tenantId ∧
    (s.scope = "global" ∨ s.scope = "group" ∧ s.scopeId.any (inTenant tenantId db.groups) = true)

instance : DecidablePred (ExportedSetting tenantId db) := fun _ => inferInstanceAs (Decidable (_ ∧ _))

/-- The rows of the export, in its order. -/
def settingRows (host : Host) (tenantId : ℕ) (db : BackupDb) : List SettingRow :=
  (host.settingOrder.order (db.settings.filter fun s => s.tenantId = tenantId)).filter fun s =>
    ExportedSetting tenantId db s

theorem mem_settingRows {s : SettingRow} :
    s ∈ settingRows host tenantId db ↔ s ∈ db.settings ∧ ExportedSetting tenantId db s := by
  rw [settingRows, List.mem_filter, (host.settingOrder.perm _).mem_iff, List.mem_filter, decide_eq_true_iff,
    decide_eq_true_iff, and_assoc]
  exact and_congr_right fun _ => and_iff_right_of_imp And.left

theorem keyed_settingRows (h : Keyed SettingRow.slot db.settings) :
    Keyed SettingRow.slot (settingRows host tenantId db) := by
  have hall : Keyed SettingRow.slot (host.settingOrder.order (db.settings.filter fun s => s.tenantId = tenantId)) :=
    ((host.settingOrder.perm _).map SettingRow.slot).nodup_iff.2 (h.sublist (List.filter_sublist.map SettingRow.slot))
  exact hall.sublist (List.filter_sublist.map SettingRow.slot)

theorem exportSettings_eq (hdb : db.groups.Schema) : exportSettings host tenantId db =
    (settingRows host tenantId db).map (exportSetting (guMapOf tenantId db.groups)) := by
  rw [exportSettings, List.filter_map, settingRows]
  congr 1
  apply List.filter_congr
  intro s hs
  have ho : s.tenantId = tenantId :=
    of_decide_eq_true (List.mem_filter.1 ((host.settingOrder.perm _).mem_iff.1 hs)).2
  have hnull : uuidOf (guMapOf tenantId db.groups) s.scopeId ≠ .null ↔ _ := uuidOf_ne_null hdb s.scopeId
  by_cases hgroup : s.scope = "group"
  · simp only [Function.comp_apply, ExportedSetting, exportSetting, hgroup, if_true, hnull, ho]
    simp
  · simp [ExportedSetting, exportSetting, hgroup, ho]

/-- The row an exported setting is written as. -/
def settingWritten (host : Host) (s : SettingRow) : SettingRow :=
  { s with scopeId := if s.scope = "group" then s.scopeId else none
           value := (storeValue host (s.value.getD .null)).getD none }

/-- A setting that makes the import fail: its value is a string that is no JSON text. -/
def RefusedSetting (host : Host) (s : SettingRow) : Prop :=
  s.key ≠ "" ∧ storeValue host (s.value.getD .null) = none

instance : DecidablePred (RefusedSetting host) := fun _ => inferInstanceAs (Decidable (_ ∧ _))

/-- The rows after the DELETE and the INSERT of an exported setting. -/
def putSetting (host : Host) (rows : List SettingRow) (s : SettingRow) : List SettingRow :=
  if s.key = "" then rows
  else rows.filter (fun r => r.slot ≠ (settingWritten host s).slot) ++ [settingWritten host s]

theorem importSetting_own (h : ImportingOwn tenantId db.groups done st) (hdb : GroupsStored host db.groups)
    {s : SettingRow} (hs : ExportedSetting tenantId db s) (hkey : s.key.length ≤ 100) (cur : BackupDb) :
    importSetting host tenantId st cur (exportSetting (guMapOf tenantId db.groups) s) =
      if RefusedSetting host s then none
      else some { cur with settings := putSetting host cur.settings s } := by
  obtain ⟨ho, hscope⟩ := hs
  by_cases hk : s.key = ""
  · simp [importSetting, exportSetting, RefusedSetting, putSetting, hk]
  have hgroup : s.scope = "group" → s.scopeId.any (inTenant tenantId db.groups) = true := by
    intro hg
    rcases hscope with hglobal | ⟨-, hin⟩
    · exact absurd (hglobal.symm.trans hg) (by decide)
    · exact hin
  have hid : scopeIdOf st ((exportSetting (guMapOf tenantId db.groups) s).scope = "group")
      (exportSetting (guMapOf tenantId db.groups) s).scopeUuid = (settingWritten host s).scopeId :=
    scopeIdOf_own h hdb hgroup
  have hstays : ¬(s.scope ≠ "global" ∧ (settingWritten host s).scopeId = none) := by
    rintro ⟨hne, hnone⟩
    rcases hscope with hg | ⟨hg, hin⟩
    · exact hne hg
    · simp [settingWritten, hg] at hnone
      simp [hnone] at hin
  have hempty : s.scope ≠ "" ∧ varchar 20 s.scope = true := by
    rcases hscope with hg | ⟨hg, -⟩ <;> rw [hg] <;> decide
  unfold importSetting
  rw [if_neg (by simp [exportSetting, hempty.1, hk])]
  simp only [hid]
  rw [if_neg (by simpa [exportSetting] using hstays)]
  simp only [exportSetting]
  cases hv : storeValue host (s.value.getD .null) with
  | none => simp [RefusedSetting, hk, hv]
  | some v =>
      have hrow : (⟨tenantId, s.scope, (settingWritten host s).scopeId, s.key, v⟩ : SettingRow) =
          settingWritten host s := by
        simp [settingWritten, hv, ho]
      have hvarchar : varchar 100 s.key = true := decide_eq_true hkey
      have hfree : ((cur.settings.filter fun r => r.slot ≠ (settingWritten host s).slot).all fun r =>
          decide (r.slot ≠ (settingWritten host s).slot)) = true := by simp
      rw [if_neg (by simp [RefusedSetting, hv])]
      simp only [hrow, insertSetting, putSetting, if_neg hk]
      rw [if_pos (by rw [hempty.2, hvarchar, hfree]; rfl)]

/-! ### The settings of groups afterwards -/

/-- The settings of the tenant's groups. -/
def groupSettings (tenantId : ℕ) (rows : List SettingRow) : Set SettingRow :=
  {r | r ∈ rows ∧ r.tenantId = tenantId ∧ r.scope = "group"}

theorem settingWritten_slot {s : SettingRow} (h : s.scope = "group") :
    (settingWritten host s).slot = s.slot := by
  simp [settingWritten, SettingRow.slot, h]

/-- What an exported setting does to the settings of groups: it settles its own slot. -/
def settingOverwrite (host : Host) (s : SettingRow) : Overwrite SettingRow :=
  if h : s.key ≠ "" ∧ s.scope = "group" then
    { covers := {r | r.slot = s.slot}
      writes := {settingWritten host s}
      writes_subset := by
        rintro r rfl
        exact settingWritten_slot h.2 }
  else Overwrite.skip

theorem mem_covers {s r : SettingRow} :
    r ∈ (settingOverwrite host s).covers ↔ (s.key ≠ "" ∧ s.scope = "group") ∧ r.slot = s.slot := by
  unfold settingOverwrite
  split_ifs with h
  · simp [h]
  · simp [h, Overwrite.skip]

theorem mem_writes {s r : SettingRow} :
    r ∈ (settingOverwrite host s).writes ↔ (s.key ≠ "" ∧ s.scope = "group") ∧ r = settingWritten host s := by
  unfold settingOverwrite
  split_ifs with h
  · simp [h]
  · simp [h, Overwrite.skip]

theorem mem_groupSettings {rows : List SettingRow} {r : SettingRow} :
    r ∈ groupSettings tenantId rows ↔ r ∈ rows ∧ r.tenantId = tenantId ∧ r.scope = "group" := Iff.rfl

theorem mem_putSetting {rows : List SettingRow} {s r : SettingRow} (hk : s.key ≠ "") :
    r ∈ putSetting host rows s ↔
      r = settingWritten host s ∨ r ∈ rows ∧ r.slot ≠ (settingWritten host s).slot := by
  simp [putSetting, hk, or_comm]

theorem groupSettings_put {s : SettingRow} (hs : s.tenantId = tenantId) (rows : List SettingRow) :
    groupSettings tenantId (putSetting host rows s) =
      (settingOverwrite host s).apply (groupSettings tenantId rows) := by
  by_cases hk : s.key = ""
  · simp [putSetting, settingOverwrite, hk]
  by_cases hgroup : s.scope = "group"
  · have hslot := @settingWritten_slot host s hgroup
    ext r
    rw [Overwrite.mem_apply, mem_groupSettings, mem_putSetting hk, mem_groupSettings, mem_covers, mem_writes, hslot]
    constructor
    · rintro ⟨rfl | ⟨hr, hne⟩, hin⟩
      · exact .inl ⟨⟨hk, hgroup⟩, rfl⟩
      · exact .inr ⟨⟨hr, hin⟩, fun hc => hne hc.2⟩
    · rintro (⟨-, rfl⟩ | ⟨⟨hr, hin⟩, hne⟩)
      · exact ⟨.inl rfl, hs, hgroup⟩
      · exact ⟨.inr ⟨hr, fun he => hne ⟨⟨hk, hgroup⟩, he⟩⟩, hin⟩
  · rw [settingOverwrite, dif_neg (fun h => hgroup h.2), Overwrite.apply_skip]
    ext r
    rw [mem_groupSettings, mem_putSetting hk, mem_groupSettings]
    -- a row on a group is neither the row of another scope nor in its slot
    have hother : r.scope = "group" → r ≠ settingWritten host s ∧ r.slot ≠ (settingWritten host s).slot := by
      intro hsc
      have hne : (settingWritten host s).scope ≠ r.scope := fun he => hgroup (he.trans hsc)
      exact ⟨fun he => hne (he ▸ rfl), fun he => hne (congrArg (fun k => k.2.1) he).symm⟩
    constructor
    · rintro ⟨he | ⟨hr, -⟩, hin⟩
      · exact absurd he (hother hin.2).1
      · exact ⟨hr, hin⟩
    · rintro ⟨hr, hin⟩
      exact ⟨.inr ⟨hr, (hother hin.2).2⟩, hin⟩

theorem groupSettings_foldl (items : List SettingRow) :
    ∀ rows : List SettingRow, (∀ s ∈ items, s.tenantId = tenantId) →
      groupSettings tenantId (items.foldl (putSetting host) rows) =
        (Overwrite.seq (items.map (settingOverwrite host))).apply (groupSettings tenantId rows) := by
  induction items with
  | nil => exact fun _ _ => Overwrite.apply_skip.symm
  | cons s items ih =>
      intro rows hitems
      rw [List.foldl_cons, ih _ fun r hr => hitems r (List.mem_cons_of_mem _ hr),
        groupSettings_put (hitems s List.mem_cons_self), List.map_cons, Overwrite.apply_seq_cons]

/-- The settings of groups stay exactly when each exported one is written as it was. -/
theorem groupSettings_stay (hslots : Keyed SettingRow.slot db.settings) :
    groupSettings tenantId ((settingRows host tenantId db).foldl (putSetting host) db.settings) =
        groupSettings tenantId db.settings ↔
      ∀ s ∈ db.settings, ExportedSetting tenantId db s → s.scope = "group" → s.key ≠ "" →
        settingWritten host s = s := by
  have hmem : ∀ s ∈ settingRows host tenantId db, s ∈ db.settings ∧ s.tenantId = tenantId := fun s hs =>
    ⟨(mem_settingRows.1 hs).1, (mem_settingRows.1 hs).2.1⟩
  have hkeyed := @keyed_settingRows host tenantId db hslots
  generalize hitems : settingRows host tenantId db = items at hmem hkeyed ⊢
  have hall : (∀ s ∈ db.settings, ExportedSetting tenantId db s → s.scope = "group" → s.key ≠ "" →
      settingWritten host s = s) ↔ ∀ s ∈ items, s.key ≠ "" → s.scope = "group" → settingWritten host s = s := by
    rw [← hitems]
    constructor
    · exact fun h s hs hk hg => h s (mem_settingRows.1 hs).1 (mem_settingRows.1 hs).2 hg hk
    · exact fun h s hs he hg hk => h s (mem_settingRows.2 ⟨hs, he⟩) hk hg
  rw [hall]
  have hdisjoint : (items.map (settingOverwrite host)).Pairwise fun o p => ∀ x ∈ o.covers, x ∉ p.covers := by
    rw [List.pairwise_map]
    have hne : items.Pairwise fun s r => s.slot ≠ r.slot := List.pairwise_map.1 hkeyed
    refine hne.imp fun {s r} hsr x hx hx' => ?_
    exact hsr ((mem_covers.1 hx).2.symm.trans (mem_covers.1 hx').2)
  have hwrites : ∀ x, x ∈ (Overwrite.seq (items.map (settingOverwrite host))).writes ↔
      ∃ s ∈ items, (s.key ≠ "" ∧ s.scope = "group") ∧ x = settingWritten host s := by
    intro x
    simp only [Overwrite.mem_seq_writes hdisjoint, List.mem_map, exists_exists_and_eq_and, mem_writes]
  have hcovers : ∀ x, x ∈ (Overwrite.seq (items.map (settingOverwrite host))).covers ↔
      ∃ s ∈ items, (s.key ≠ "" ∧ s.scope = "group") ∧ x.slot = s.slot := by
    intro x
    simp only [Overwrite.mem_seq_covers, List.mem_map, exists_exists_and_eq_and, mem_covers]
  rw [groupSettings_foldl items _ fun s hs => (hmem s hs).2]
  constructor
  · intro heq s hs hk hgroup
    have hin : settingWritten host s ∈ groupSettings tenantId db.settings := by
      rw [← heq]
      exact .inl ((hwrites _).2 ⟨s, hs, ⟨hk, hgroup⟩, rfl⟩)
    exact hslots.eq_of_key hin.1 (hmem s hs).1 (settingWritten_slot hgroup)
  · intro hsame
    ext r
    rw [Overwrite.mem_apply, hwrites, hcovers]
    constructor
    · rintro (⟨s, hs, ⟨hk, hgroup⟩, rfl⟩ | ⟨hr, -⟩)
      · rw [hsame s hs hk hgroup]
        exact ⟨(hmem s hs).1, (hmem s hs).2, hgroup⟩
      · exact hr
    · intro hr
      by_cases hc : ∃ s ∈ items, (s.key ≠ "" ∧ s.scope = "group") ∧ r.slot = s.slot
      · obtain ⟨s, hs, hkg, hslot⟩ := hc
        have : r = s := hslots.eq_of_key hr.1 (hmem s hs).1 hslot
        exact .inl ⟨s, hs, hkg, this.trans (hsame s hs hkg.1 hkg.2).symm⟩
      · exact .inr ⟨hr, hc⟩

theorem foldl_putSetting (items : List SettingRow) : ∀ cur : BackupDb,
    items.foldl (fun cur s => { cur with settings := putSetting host cur.settings s }) cur =
      { cur with settings := items.foldl (putSetting host) cur.settings } := by
  induction items with
  | nil => exact fun _ => rfl
  | cons s items ih => exact fun cur => ih _

/-- The settings section: it fails on a refused value, else it puts each exported setting. -/
theorem importSettings_own (h : ImportingOwn tenantId db.groups done st) (hdb : GroupsStored host db.groups)
    (hkeys : ∀ s ∈ db.settings, s.key.length ≤ 100) (cur : BackupDb) :
    importSettings host tenantId st (exportSettings host tenantId db) cur =
      if ∃ s ∈ settingRows host tenantId db, RefusedSetting host s then none
      else some { cur with settings := (settingRows host tenantId db).foldl (putSetting host) cur.settings } := by
  rw [importSettings, exportSettings_eq hdb.keys, List.foldlM_map, ← foldl_putSetting]
  apply foldlM_eq (fun _ => True) (RefusedSetting host)
    (fun cur s => ({ cur with settings := putSetting host cur.settings s } : BackupDb))
  · intro cur _ s hs
    obtain ⟨hmem, hexported⟩ := mem_settingRows.1 hs
    exact importSetting_own h hdb hexported (hkeys s hmem) cur
  · exact fun _ _ _ _ _ => trivial
  · trivial

end Settings

/-! ## Channels -/

section Channels

/-- A binding the export contains. -/
def ExportedBinding (tenantId : ℕ) (db : BackupDb) (b : BindingRow) : Prop :=
  b.scope = .global ∨ b.scope = .group ∧ b.scopeId.any (inTenant tenantId db.groups) = true

instance : DecidablePred (ExportedBinding tenantId db) := fun _ => inferInstanceAs (Decidable (_ ∨ _))

theorem exportBindings_eq (hdb : db.groups.Schema) (rows : List BindingRow) :
    exportBindings (guMapOf tenantId db.groups) rows =
      (rows.filter fun b => ExportedBinding tenantId db b).map (exportBinding (guMapOf tenantId db.groups)) := by
  rw [exportBindings, List.filter_map]
  congr 1
  apply List.filter_congr
  intro b _
  have hnull : uuidOf (guMapOf tenantId db.groups) b.scopeId ≠ .null ↔ _ := uuidOf_ne_null hdb b.scopeId
  by_cases hgroup : b.scope = .group
  · simp only [Function.comp_apply, ExportedBinding, exportBinding, hgroup, if_true, hnull]
    simp
  · simp [ExportedBinding, exportBinding, hgroup]

/-- The INSERT of an exported binding leaves out the tenant, and is refused. -/
theorem importBinding_own (h : ImportingOwn tenantId db.groups done st) (hdb : GroupsStored host db.groups)
    {b : BindingRow} (hb : ExportedBinding tenantId db b) (channelId : ℕ) (cur : BackupDb) :
    importBinding st channelId cur (exportBinding (guMapOf tenantId db.groups) b) = none := by
  have hin : b.scope = .group → b.scopeId.any (inTenant tenantId db.groups) = true := by
    intro hg
    rcases hb with hglobal | ⟨-, hin⟩
    · exact absurd (hglobal.symm.trans hg) (by decide)
    · exact hin
  have hid : scopeIdOf st ((exportBinding (guMapOf tenantId db.groups) b).scope = .group)
      (exportBinding (guMapOf tenantId db.groups) b).scopeUuid = if b.scope = .group then b.scopeId else none :=
    scopeIdOf_own h hdb hin
  have hstays : ¬(b.scope ≠ .global ∧ (if b.scope = .group then b.scopeId else none) = none) := by
    rintro ⟨hne, hnone⟩
    rcases hb with hg | ⟨hg, hin⟩
    · exact hne hg
    · rw [if_pos hg] at hnone
      simp [hnone] at hin
  unfold importBinding
  simp only [hid]
  rw [if_neg (by simpa [exportBinding] using hstays)]
  rfl

/-- A channel that makes the import fail: it has an exported binding. -/
def RefusedChannel (tenantId : ℕ) (db : BackupDb) (c : ChannelRow) : Prop :=
  c.name ≠ "" ∧ ∃ b ∈ db.bindings, b.channelId = c.id ∧ ExportedBinding tenantId db b

instance : DecidablePred (RefusedChannel tenantId db) := fun _ => inferInstanceAs (Decidable (_ ∧ _))

theorem importBindings_own (h : ImportingOwn tenantId db.groups done st) (hdb : GroupsStored host db.groups)
    (c : ChannelRow) (cur : BackupDb) :
    (exportBindings (guMapOf tenantId db.groups)
        ((host.bindingOrder.order db.bindings).filter fun b => b.channelId = c.id)).foldlM
        (importBinding st c.id) cur =
      if ∃ b ∈ db.bindings, b.channelId = c.id ∧ ExportedBinding tenantId db b then none else some cur := by
  rw [exportBindings_eq hdb.keys, List.foldlM_map]
  apply foldlM_refused
  · intro cur b hb
    exact importBinding_own h hdb (of_decide_eq_true (List.mem_filter.1 hb).2) c.id cur
  · simp [(host.bindingOrder.perm db.bindings).mem_iff, and_comm]

/-- The tables after an exported channel was written back. -/
def putChannel (host : Host) (tenantId : ℕ) (db cur : BackupDb) (c : ChannelRow) : BackupDb :=
  if c.name = "" then cur
  else { cur with
    channels := cur.channels.map fun r =>
      if r.uuid = c.uuid ∧ r.tenantId = tenantId then
        (exportChannel host (guMapOf tenantId db.groups) (host.bindingOrder.order db.bindings) c).row
          tenantId r.id r.uuid c.type
      else r
    bindings := cur.bindings.filter fun b => b.channelId ≠ c.id }

/-- Nothing but channels and bindings is written. -/
theorem foldl_putChannel (items : List ChannelRow) : ∀ cur : BackupDb, ∃ channels bindings,
    items.foldl (putChannel host tenantId db) cur = { cur with channels := channels, bindings := bindings } := by
  induction items with
  | nil => exact fun cur => ⟨cur.channels, cur.bindings, rfl⟩
  | cons c items ih =>
      intro cur
      obtain ⟨channels, bindings, he⟩ := ih (putChannel host tenantId db cur c)
      refine ⟨channels, bindings, he.trans ?_⟩
      unfold putChannel
      split_ifs <;> rfl

theorem foldl_putChannel_teams (items : List ChannelRow) (cur : BackupDb) :
    (items.foldl (putChannel host tenantId db) cur).teams = cur.teams := by
  obtain ⟨channels, bindings, he⟩ := @foldl_putChannel host tenantId db items cur
  rw [he]

/-- The ids of the tenant's channels, as the import starts with them. -/
abbrev channelIds (tenantId : ℕ) (db : BackupDb) : JsMap JsVal ℕ :=
  idByUuid tenantId ChannelRow.uuid ChannelRow.tenantId ChannelRow.id db.channels

theorem importChannel_own (h : ImportingOwn tenantId db.groups done st) (hdb : GroupsStored host db.groups)
    (huuids : OwnUuids host ChannelRow.uuid db.channels) {c : ChannelRow} (hc : c ∈ db.channels)
    (ho : c.tenantId = tenantId) (hname : c.name.length ≤ 200) (cur : BackupDb) :
    importChannel host tenantId .update [] st (channelIds tenantId db, cur)
        (exportChannel host (guMapOf tenantId db.groups) (host.bindingOrder.order db.bindings) c) =
      if RefusedChannel tenantId db c then none
      else some (channelIds tenantId db, putChannel host tenantId db cur c) := by
  by_cases hempty : c.name = ""
  · simp [importChannel, exportChannel, RefusedChannel, putChannel, hempty]
  have hdecision : resolveConflict .update (host.channelUuid (.str c.uuid)) (.str c.uuid)
      (channelIds tenantId db) [] = .update (.str c.uuid) c.id := huuids.update hc ho _
  simp only [importChannel, exportChannel, hempty, if_false, hdecision, writeChannel, (huuids.text c hc).2,
    Option.bind_eq_bind, Option.bind_some, varchar, hname, decide_true, if_true, recordCreated,
    importBindings_own h hdb, putChannel]
  by_cases hr : ∃ b ∈ db.bindings, b.channelId = c.id ∧ ExportedBinding tenantId db b
  · rw [if_pos hr, if_pos ⟨hempty, hr⟩]
    rfl
  · rw [if_neg hr, if_neg fun hf => hr hf.2]
    rfl

def channelRows (host : Host) (tenantId : ℕ) (db : BackupDb) : List ChannelRow :=
  host.channelOrder.order (db.channels.filter fun c => c.tenantId = tenantId)

theorem mem_channelRows {c : ChannelRow} :
    c ∈ channelRows host tenantId db ↔ c ∈ db.channels ∧ c.tenantId = tenantId := by
  simp [channelRows, (host.channelOrder.perm _).mem_iff]

/-- The channel section: it fails on an exported binding. -/
theorem importChannels_own (h : ImportingOwn tenantId db.groups done st) (hdb : GroupsStored host db.groups)
    (huuids : OwnUuids host ChannelRow.uuid db.channels) (hnames : ∀ c ∈ db.channels, c.name.length ≤ 200)
    (cur : BackupDb) :
    (exportChannels host tenantId db).foldlM (importChannel host tenantId .update [] st)
        (channelIds tenantId db, cur) =
      if ∃ c ∈ channelRows host tenantId db, RefusedChannel tenantId db c then none
      else some (channelIds tenantId db, (channelRows host tenantId db).foldl (putChannel host tenantId db) cur) := by
  rw [exportChannels, List.foldlM_map]
  apply foldlM_snd_eq (fun _ => True) (RefusedChannel tenantId db) (putChannel host tenantId db)
  · intro cur _ c hc
    obtain ⟨hmem, ho⟩ := mem_channelRows.1 hc
    exact importChannel_own h hdb huuids hmem ho (hnames c hmem) cur
  · exact fun _ _ _ _ _ => trivial
  · trivial

end Channels

/-! ## Teams -/

section Teams

/-- A permission the export contains, without its capabilities. -/
def ExportedPermission (tenantId : ℕ) (db : BackupDb) (p : PermissionRow) : Prop :=
  p.scope = .group ∧ inTenant tenantId db.groups p.scopeId = true

instance : DecidablePred (ExportedPermission tenantId db) := fun _ => inferInstanceAs (Decidable (_ ∧ _))

theorem exportPermissions_eq (hdb : db.groups.Schema) (rows : List PermissionRow) :
    exportPermissions (guMapOf tenantId db.groups) rows =
      (rows.filter fun p => ExportedPermission tenantId db p).map
        (exportPermission (guMapOf tenantId db.groups)) := by
  rw [exportPermissions, List.filter_map]
  congr 1
  apply List.filter_congr
  intro p _
  have hnull : uuidOf (guMapOf tenantId db.groups) (some p.scopeId) ≠ .null ↔ _ := uuidOf_ne_null hdb _
  by_cases hgroup : p.scope = .group
  · simp only [Function.comp_apply, ExportedPermission, exportPermission, hgroup, if_true, hnull]
    simp
  · simp [ExportedPermission, exportPermission, hgroup]

/-- The INSERT of an exported permission names a conflict target that is no key, and is refused. -/
theorem importPermission_own (h : ImportingOwn tenantId db.groups done st) (hdb : GroupsStored host db.groups)
    {p : PermissionRow} (hp : ExportedPermission tenantId db p) (teamId : ℕ) (cur : BackupDb) :
    importPermission st teamId cur (exportPermission (guMapOf tenantId db.groups) p) = none := by
  obtain ⟨hgroup, hin⟩ := hp
  have hresolve : scopeIdOf st ((exportPermission (guMapOf tenantId db.groups) p).scope = .group)
      (exportPermission (guMapOf tenantId db.groups) p).scopeUuid = some p.scopeId :=
    (scopeIdOf_own h hdb fun _ => by simpa using hin).trans (if_pos hgroup)
  have htruthy : (exportPermission (guMapOf tenantId db.groups) p).scopeUuid.truthy = true := by
    by_contra hf
    simp [scopeIdOf, resolveGroup, hf] at hresolve
  unfold importPermission
  simp only [htruthy, hresolve]
  rfl

/-- A team that makes the import fail: it has an exported permission. -/
def RefusedTeam (tenantId : ℕ) (db : BackupDb) (t : TeamRow) : Prop :=
  t.name ≠ "" ∧ ∃ p ∈ db.permissions, p.teamId = t.id ∧ ExportedPermission tenantId db p

instance : DecidablePred (RefusedTeam tenantId db) := fun _ => inferInstanceAs (Decidable (_ ∧ _))

theorem importPermissions_own (h : ImportingOwn tenantId db.groups done st) (hdb : GroupsStored host db.groups)
    (t : TeamRow) (cur : BackupDb) :
    (exportPermissions (guMapOf tenantId db.groups)
        ((host.permissionOrder.order db.permissions).filter fun p => p.teamId = t.id)).foldlM
        (importPermission st t.id) cur =
      if ∃ p ∈ db.permissions, p.teamId = t.id ∧ ExportedPermission tenantId db p then none else some cur := by
  rw [exportPermissions_eq hdb.keys, List.foldlM_map]
  apply foldlM_refused
  · intro cur p hp
    exact importPermission_own h hdb (of_decide_eq_true (List.mem_filter.1 hp).2) t.id cur
  · simp [(host.permissionOrder.perm db.permissions).mem_iff, and_comm]

/-- The tables after an exported team was written back. -/
def putTeam (cur : BackupDb) (t : TeamRow) : BackupDb :=
  if t.name = "" then cur else { cur with permissions := cur.permissions.filter fun p => p.teamId ≠ t.id }

theorem foldl_putTeam (items : List TeamRow) : ∀ cur : BackupDb, items.foldl putTeam cur =
    { cur with permissions := cur.permissions.filter fun p =>
        items.all fun t => decide (t.name = "") || decide (p.teamId ≠ t.id) } := by
  induction items with
  | nil => exact fun cur => by simp
  | cons t items ih =>
      intro cur
      rw [List.foldl_cons, ih]
      unfold putTeam
      by_cases hempty : t.name = ""
      · simp [hempty]
      · simp only [if_neg hempty, List.filter_filter]
        congr 1
        apply List.filter_congr
        intro p _
        simp [hempty, Bool.and_comm]

abbrev teamIds (tenantId : ℕ) (db : BackupDb) : JsMap JsVal ℕ :=
  idByUuid tenantId TeamRow.uuid TeamRow.tenantId TeamRow.id db.teams

/-- The UPDATE of an exported team writes what the row has. -/
theorem map_teams (huuids : OwnUuids host TeamRow.uuid db.teams) {t : TeamRow} (ht : t ∈ db.teams)
    (ho : t.tenantId = tenantId) (m : JsMap ℕ String) (rows : List PermissionRow) :
    (db.teams.map fun r => if r.uuid = t.uuid ∧ r.tenantId = tenantId then
      (exportTeam m rows t).row tenantId r.id r.uuid else r) = db.teams := by
  nth_rewrite 2 [← List.map_id db.teams]
  apply List.map_congr_left
  intro r hr
  split_ifs with hc
  · have : r = t := huuids.distinct.eq_of_key hr ht hc.1
    subst this
    simp [exportTeam, TeamItem.row, ← ho]
  · rfl

theorem importTeam_own (h : ImportingOwn tenantId db.groups done st) (hdb : GroupsStored host db.groups)
    (huuids : OwnUuids host TeamRow.uuid db.teams) {t : TeamRow} (ht : t ∈ db.teams)
    (ho : t.tenantId = tenantId) (hname : t.name.length ≤ 200) {cur : BackupDb} (hcur : cur.teams = db.teams) :
    importTeam host tenantId .update [] st (teamIds tenantId db, cur)
        (exportTeam (guMapOf tenantId db.groups) (host.permissionOrder.order db.permissions) t) =
      if RefusedTeam tenantId db t then none else some (teamIds tenantId db, putTeam cur t) := by
  by_cases hempty : t.name = ""
  · simp [importTeam, exportTeam, RefusedTeam, putTeam, hempty]
  have hdecision : resolveConflict .update (host.teamUuid (.str t.uuid)) (.str t.uuid)
      (teamIds tenantId db) [] = .update (.str t.uuid) t.id := huuids.update ht ho _
  have hwritten : writeTeam host tenantId cur
      (exportTeam (guMapOf tenantId db.groups) (host.permissionOrder.order db.permissions) t)
      (.update (.str t.uuid) t.id) = some (some (t.id, cur)) := by
    simp only [writeTeam, (huuids.text t ht).2, Option.bind_eq_bind, Option.bind_some, hcur,
      map_teams huuids ht ho, varchar]
    refine (if_pos (decide_eq_true hname)).trans ?_
    rw [← hcur]
  have huuid : (exportTeam (guMapOf tenantId db.groups) (host.permissionOrder.order db.permissions) t).uuid =
      .str t.uuid := rfl
  have hnamed : (exportTeam (guMapOf tenantId db.groups) (host.permissionOrder.order db.permissions) t).name ≠ "" :=
    hempty
  simp only [importTeam, if_neg hnamed, huuid, hdecision, hwritten, recordCreated]
  simp only [exportTeam, importPermissions_own h hdb, putTeam, if_neg hempty]
  by_cases hr : ∃ p ∈ db.permissions, p.teamId = t.id ∧ ExportedPermission tenantId db p
  · rw [if_pos hr, if_pos ⟨hempty, hr⟩]
    rfl
  · rw [if_neg hr, if_neg fun hf => hr hf.2]
    rfl

def teamRows (host : Host) (tenantId : ℕ) (db : BackupDb) : List TeamRow :=
  host.teamOrder.order (db.teams.filter fun t => t.tenantId = tenantId)

theorem mem_teamRows {t : TeamRow} : t ∈ teamRows host tenantId db ↔ t ∈ db.teams ∧ t.tenantId = tenantId := by
  simp [teamRows, (host.teamOrder.perm _).mem_iff]

/-- The team section: it fails on an exported permission. -/
theorem importTeams_own (h : ImportingOwn tenantId db.groups done st) (hdb : GroupsStored host db.groups)
    (huuids : OwnUuids host TeamRow.uuid db.teams) (hnames : ∀ t ∈ db.teams, t.name.length ≤ 200)
    {cur : BackupDb} (hcur : cur.teams = db.teams) :
    (exportTeams host tenantId db).foldlM (importTeam host tenantId .update [] st) (teamIds tenantId db, cur) =
      if ∃ t ∈ teamRows host tenantId db, RefusedTeam tenantId db t then none
      else some (teamIds tenantId db, (teamRows host tenantId db).foldl putTeam cur) := by
  rw [exportTeams, List.foldlM_map]
  apply foldlM_snd_eq (fun s => s.teams = db.teams) (RefusedTeam tenantId db) putTeam
  · intro s hs t ht
    obtain ⟨hmem, ho⟩ := mem_teamRows.1 ht
    exact importTeam_own h hdb huuids hmem ho (hnames t hmem) hs
  · intro s hs t _ _
    unfold putTeam
    split_ifs
    · exact hs
    · exact hs
  · exact hcur

end Teams

end Obliance.Backup

import Obliance.Notify.Bindings

/-!
# The channel list of a device with its sources (`services/notification.service.ts`)

The page of a device lists its channels with the scope each one comes from. The list is computed by a
second cascade, on a map of the channels in which an excluded channel stays, marked.

* `applyBindingsWithSources`, `resolveBindingsWithSourcesForAgent` : one scope of it, the list;
* `Shows` : the channels of a map that are not marked are those of a set;
* `shows_apply` : one scope keeps it, whatever modes the bindings of the scope mix.
-/

namespace Obliance.Notify
open Obliance.Groups Obliance.Devices KeyedTable

/-- The labels of the column type `notification_channel_type`. -/
def channelTypes : List String :=
  ["telegram", "discord", "slack", "teams", "smtp", "webhook", "gotify", "ntfy", "pushover", "freemobile"]

/-- A row of `notification_channels`. -/
structure ChannelRow where
  id : ℕ
  name : String
  type : String
  isEnabled : Bool
  typed : type ∈ channelTypes
  deriving DecidableEq, Repr

/-- The column `name` of `device_groups`. -/
structure GroupNameRow where
  id : ℕ
  name : String
  deriving DecidableEq, Repr

structure SourcesDb extends NotifyDb where
  groupNames : List GroupNameRow
  channels : List ChannelRow

inductive BindingSource where
  | global
  | group
  | agent
  deriving DecidableEq, Repr

structure SourceInfo where
  channelId : ℕ
  source : BindingSource
  sourceId : Option ℕ
  sourceName : String
  isDirect : Bool
  isExcluded : Bool
  deriving DecidableEq, Repr

/-- An entry of the answer. -/
structure ShownBinding extends SourceInfo where
  channelName : String
  channelType : String
  deriving DecidableEq, Repr

/-- `a || b` on texts. -/
def orText (a : Option String) (b : String) : String := (a.filter (· ≠ "")).getD b

/-- `result.set(info.channelId, info)`: a channel that is already in the map keeps its place. -/
def setSource (result : List SourceInfo) (info : SourceInfo) : List SourceInfo :=
  upsert SourceInfo.channelId result info fun _ => info

/-- `existing.isExcluded = true`, when the channel is in the map. -/
def markExcluded (result : List SourceInfo) (channelId : ℕ) : List SourceInfo :=
  modify SourceInfo.channelId result channelId fun info => { info with isExcluded := true }

def setAll (result : List SourceInfo) (bindings : List BindingRow) (info : ℕ → SourceInfo) : List SourceInfo :=
  bindings.foldl
    (fun m b => if b.overrideMode ≠ .exclude then setSource m (info b.channelId) else m) result

def markAll (result : List SourceInfo) (bindings : List BindingRow) : List SourceInfo :=
  bindings.foldl (fun m b => if b.overrideMode = .exclude then markExcluded m b.channelId else m) result

/-- The local function of the same name; `excludedSet` is written and never read. -/
def applyBindingsWithSources (result : List SourceInfo) (bindings : List BindingRow)
    (source : BindingSource) (sourceId : Option ℕ) (sourceName : String) (isDirect : Bool) : List SourceInfo :=
  if bindings.isEmpty then result
  else
    let start := if bindings.any fun b => b.overrideMode = .replace then [] else result
    markAll (setAll start bindings fun c => ⟨c, source, sourceId, sourceName, isDirect, false⟩) bindings

def applyGroupsWithSources (db : SourcesDb) (groupId : ℕ) (result : List SourceInfo) : List SourceInfo :=
  (ancestorIds db.closure groupId).foldl
    (fun m ancestorId =>
      applyBindingsWithSources m (getBindings db.bindings .group (some ancestorId)) .group (some ancestorId)
        (orText ((get GroupNameRow.id db.groupNames ancestorId).map GroupNameRow.name)
          ("Group #" ++ toString ancestorId)) false) result

/-- The map after the three scopes. -/
def bindingSources (db : SourcesDb) (deviceId : ℕ) : List SourceInfo :=
  let result := applyBindingsWithSources [] (getBindings db.bindings .global none) .global none "Global" false
  let result := match truthyGroup db.devices deviceId with
    | some g => applyGroupsWithSources db g result
    | none => result
  applyBindingsWithSources result (getBindings db.bindings .agent (some deviceId)) .agent (some deviceId)
    "Direct" true

/-- The entries of the map with the name and the type of their channels. -/
def resolveBindingsWithSourcesForAgent (db : SourcesDb) (deviceId : ℕ) : List ShownBinding :=
  (bindingSources db deviceId).map fun r =>
    let ch := get ChannelRow.id db.channels r.channelId
    { toSourceInfo := r
      channelName := orText (ch.map ChannelRow.name) ("Channel #" ++ toString r.channelId)
      channelType := orText (ch.map ChannelRow.type) "unknown" }

/-! ## The map against the set -/

/-- The channel is in the map and not marked. -/
def Active (m : List SourceInfo) (c : ℕ) : Prop := ∃ r ∈ m, r.channelId = c ∧ r.isExcluded = false

/-- The map lists no channel twice, and its channels that are not marked are the set `ids`. -/
structure Shows (m : List SourceInfo) (ids : List ℕ) : Prop where
  keyed : Keyed SourceInfo.channelId m
  nodup : ids.Nodup
  active : ∀ c, Active m c ↔ c ∈ ids

theorem shows_nil : Shows [] [] := ⟨List.nodup_nil, List.nodup_nil, fun c => by simp [Active]⟩

theorem active_setSource {m : List SourceInfo} {info : SourceInfo} (hinfo : info.isExcluded = false) (c : ℕ) :
    Active (setSource m info) c ↔ Active m c ∨ c = info.channelId := by
  have hmem : ∀ r, r ∈ setSource m info ↔ r = info ∨ r ∈ m ∧ r.channelId ≠ info.channelId :=
    fun r => mem_upsert fun _ _ => rfl
  constructor
  · rintro ⟨r, hr, rfl, he⟩
    rcases (hmem r).1 hr with rfl | ⟨hr, -⟩
    · exact .inr rfl
    · exact .inl ⟨r, hr, rfl, he⟩
  · intro h
    by_cases hc : c = info.channelId
    · exact ⟨info, (hmem info).2 (.inl rfl), hc.symm, hinfo⟩
    · obtain ⟨r, hr, rfl, he⟩ := h.resolve_right hc
      exact ⟨r, (hmem r).2 (.inr ⟨hr, hc⟩), rfl, he⟩

theorem active_markExcluded {m : List SourceInfo} (x c : ℕ) :
    Active (markExcluded m x) c ↔ Active m c ∧ c ≠ x := by
  constructor
  · rintro ⟨r, hr, rfl, he⟩
    obtain ⟨r', hr', rfl⟩ := mem_modify.1 hr
    split_ifs at he ⊢ with hk
    exact ⟨⟨r', hr', rfl, he⟩, hk⟩
  · rintro ⟨⟨r, hr, rfl, he⟩, hx⟩
    exact ⟨r, mem_modify.2 ⟨r, hr, if_neg hx⟩, rfl, he⟩

theorem shows_setAll {info : ℕ → SourceInfo} (hkey : ∀ c, (info c).channelId = c)
    (hinfo : ∀ c, (info c).isExcluded = false) (bindings : List BindingRow) :
    ∀ {m : List SourceInfo} {ids : List ℕ}, Shows m ids →
      Shows (setAll m bindings info)
        (JsSet.addAll ids bindings (fun b => b.overrideMode ≠ .exclude) BindingRow.channelId) := by
  induction bindings with
  | nil => exact fun h => h
  | cons b bindings ih =>
      intro m ids h
      by_cases hb : b.overrideMode = .exclude
      · simpa [setAll, JsSet.addAll, hb] using ih h
      · have hset : Shows (setSource m (info b.channelId)) (JsSet.add ids b.channelId) := by
          refine ⟨nodup_upsert_self (fun _ _ => rfl) h.keyed, JsSet.nodup_add h.nodup, fun c => ?_⟩
          rw [active_setSource (hinfo _), h.active, JsSet.mem_add, hkey]
        simpa [setAll, JsSet.addAll, hb] using ih hset

theorem shows_markAll (bindings : List BindingRow) :
    ∀ {m : List SourceInfo} {ids : List ℕ}, Shows m ids →
      Shows (markAll m bindings)
        (JsSet.deleteAll ids bindings (fun b => b.overrideMode = .exclude) BindingRow.channelId) := by
  induction bindings with
  | nil => exact fun h => h
  | cons b bindings ih =>
      intro m ids h
      by_cases hb : b.overrideMode = .exclude
      · have hmark : Shows (markExcluded m b.channelId) (JsSet.delete ids b.channelId) := by
          refine ⟨nodup_modify (fun _ => rfl) h.keyed, h.nodup.filter _, fun c => ?_⟩
          rw [active_markExcluded, h.active, JsSet.mem_delete]
        simpa [markAll, JsSet.deleteAll, hb] using ih hmark
      · simpa [markAll, JsSet.deleteAll, hb] using ih h

/-- **One scope keeps the two in step**, for every mixture of modes. -/
theorem shows_apply {m : List SourceInfo} {ids : List ℕ} (h : Shows m ids) (bindings : List BindingRow)
    (source : BindingSource) (sourceId : Option ℕ) (sourceName : String) (isDirect : Bool) :
    Shows (applyBindingsWithSources m bindings source sourceId sourceName isDirect)
      (applyBindings ids bindings) := by
  unfold applyBindingsWithSources applyBindings
  split_ifs
  · exact h
  · exact shows_markAll bindings (shows_setAll (fun _ => rfl) (fun _ => rfl) bindings shows_nil)
  · exact shows_markAll bindings (shows_setAll (fun _ => rfl) (fun _ => rfl) bindings h)

theorem shows_groups (db : SourcesDb) (groupId : ℕ) {m : List SourceInfo} {ids : List ℕ} (h : Shows m ids) :
    Shows (applyGroupsWithSources db groupId m) (applyGroups db.toNotifyDb groupId ids) := by
  unfold applyGroupsWithSources applyGroups
  induction ancestorIds db.closure groupId generalizing m ids with
  | nil => exact h
  | cons a ancestors ih => exact ih (shows_apply h _ _ _ _ _)

theorem shows_bindingSources (db : SourcesDb) (deviceId : ℕ) :
    Shows (bindingSources db deviceId) (resolveChannelsForAgent db.toNotifyDb deviceId) := by
  have hglobal := shows_apply shows_nil (getBindings db.bindings .global none) .global none "Global" false
  unfold bindingSources resolveChannelsForAgent
  refine shows_apply ?_ _ _ _ _ _
  cases truthyGroup db.devices deviceId with
  | none => exact hglobal
  | some g => exact shows_groups db g hglobal

/-! ## What the page shows -/

/-- The channels of the answer with `isExcluded` false. -/
def shownChannels (db : SourcesDb) (deviceId : ℕ) : List ℕ :=
  ((resolveBindingsWithSourcesForAgent db deviceId).filter fun r => !r.isExcluded).map fun r => r.channelId

theorem shownChannels_eq (db : SourcesDb) (deviceId : ℕ) :
    shownChannels db deviceId =
      ((bindingSources db deviceId).filter fun r => !r.isExcluded).map SourceInfo.channelId := by
  rw [shownChannels, resolveBindingsWithSourcesForAgent, List.filter_map, List.map_map]
  rfl

/-- **The list shows each channel of the device exactly once, and no channel that is not used.** -/
theorem shownChannels_perm (db : SourcesDb) (deviceId : ℕ) :
    (shownChannels db deviceId).Perm (resolveChannelsForAgent db.toNotifyDb deviceId) := by
  have h := shows_bindingSources db deviceId
  rw [shownChannels_eq]
  refine (List.perm_ext_iff_of_nodup (h.keyed.sublist (List.filter_sublist.map _)) h.nodup).2 fun c => ?_
  rw [← h.active, List.mem_map]
  constructor
  · rintro ⟨r, hr, rfl⟩
    obtain ⟨hr, he⟩ := List.mem_filter.1 hr
    exact ⟨r, hr, rfl, by simpa using he⟩
  · rintro ⟨r, hr, rfl, he⟩
    exact ⟨r, List.mem_filter.2 ⟨hr, by simp [he]⟩, rfl⟩

theorem slack_typed : "slack" ∈ channelTypes := by decide

/-- Channel 7 is bound globally and excluded in group 3, channel 8 is bound in group 2 above it, channel 9 on the
device. -/
def threeScopes : SourcesDb where
  bindings := [⟨1, 1, 7, .global, none, .merge⟩, ⟨2, 1, 8, .group, some 2, .merge⟩,
    ⟨3, 1, 7, .group, some 3, .exclude⟩, ⟨4, 1, 9, .agent, some 1, .merge⟩]
  closure := [⟨2, 2, 0⟩, ⟨3, 3, 0⟩, ⟨2, 3, 1⟩]
  devices := [⟨1, 1, some 3⟩]
  groupNames := [⟨2, "Paris"⟩, ⟨3, "Servers"⟩]
  channels := [⟨7, "ops", "slack", true, slack_typed⟩]

theorem shownChannels_perm_threeScopes : shownChannels threeScopes 1 = [8, 9] ∧
    [8, 9].Perm (resolveChannelsForAgent threeScopes.toNotifyDb 1) := by
  have hshown : shownChannels threeScopes 1 = [8, 9] := by decide
  exact ⟨hshown, hshown ▸ shownChannels_perm threeScopes 1⟩

end Obliance.Notify

import Obliance.Portability.Imported

/-!
# The round trip of a scenario

* `RoundTrip` : the imported graph is the exported one under other ids, its references follow;
* `Portable` : the exports for which this comes out;
* `comesBack_iff` : exactly these.
-/

namespace Obliance.Portability
open Obliance.Js Obliance.Db KeyedTable Numbering
open Obliance.Remote (isMasterTenant)
open Obliance.Scenario (NodeType TriggerType)

/-! ## The law -/

/-- A script row that an import into a tenant created from a script. -/
structure ScriptCopy (dst : Tables) (tenantId : ℕ) (s r : ScriptRow) : Prop where
  created : ∀ r' ∈ dst.scripts, r'.id ≠ r.id
  tenant : r.tenantId = some tenantId
  name : r.name = s.name
  content : r.content = s.content

structure ScheduleCopy (dst : Tables) (tenantId : ℕ) (s r : ScheduleRow) : Prop where
  created : ∀ r' ∈ dst.schedules, r'.id ≠ r.id
  tenant : r.tenantId = tenantId
  name : r.columns.name = s.columns.name

/-- The keys of a configuration that do not travel as they are: comments and target devices, and the
references to scripts and schedules. -/
def localKeys (t : NodeType) : List String :=
  ["_comment", "targetMode", "targetDeviceIds"] ++
    (if isRunScript t then ["scriptId", "scriptUuid"] else []) ++
    (if isTriggerSchedule t then ["scheduleId"] else [])

/-- `m` is `n` after the round trip, its references to what was created from what `n` refers to. -/
structure NodeCopy (src dst : Tables) (tenantId : ℕ) (out : Imported) (n m : NodeRow) : Prop where
  type : m.type = n.type
  label : m.label = n.label
  positionX : m.positionX = n.positionX
  positionY : m.positionY = n.positionY
  config : ∀ key, key ∉ localKeys n.type → m.config key = n.config key
  script : isRunScript n.type = true → ∀ s ∈ src.scripts, n.config "scriptId" = some (.num s.id) →
    ∃ r ∈ out.db.scripts, ScriptCopy dst tenantId s r ∧ out.resolvedScriptId.get s.uuid = some r.id ∧
      m.config "scriptId" = some (.num r.id)
  schedule : isTriggerSchedule n.type = true → ∀ s ∈ src.schedules, n.config "scheduleId" = some (.num s.id) →
    ∃ r ∈ out.db.schedules, ScheduleCopy dst tenantId s r ∧ out.scheduleIds.get s.uuid = some r.id ∧
      m.config "scheduleId" = some (.num r.id)

/-- `f` is `e` between the renamed nodes. -/
structure EdgeCopy (rename : ℕ → ℕ) (e f : EdgeRow) : Prop where
  source : f.sourceNodeId = rename e.sourceNodeId
  target : f.targetNodeId = rename e.targetNodeId
  handle : f.sourceHandle = e.sourceHandle
  condition : f.conditionOf = e.conditionOf
  sortOrder : f.sortOrder = e.sortOrder

/-- The scenario created is the exported one up to a renaming of ids. -/
structure RoundTrip (src dst : Tables) (tenantId : ℕ) (scenario : ScenarioRow) (out : Imported) : Prop where
  created : out.scenario ∈ out.db.scenarios ∧ ∀ s ∈ dst.scenarios, s.id ≠ out.scenario.id
  tenant : out.scenario.tenantId = tenantId
  name : out.scenario.name = scenario.name
  graph : ∃ rename : ℕ → ℕ,
    (∀ n ∈ nodeRows src scenario.id, ∀ m ∈ nodeRows src scenario.id, rename n.id = rename m.id → n = m) ∧
    List.Forall₂ (fun n m => m.id = rename n.id ∧ NodeCopy src dst tenantId out n m)
      (nodeRows src scenario.id) (nodeRows out.db out.scenario.id) ∧
    List.Forall₂ (EdgeCopy rename) (edgeRows src scenario.id) (edgeRows out.db out.scenario.id)

/-- A scenario a tenant sees, whose `run_script` nodes refer to scripts it sees and whose
`trigger_schedule…` nodes refer to schedules it sees. -/
structure Exportable (src : Tables) (tenantId : ℕ) (scenario : ScenarioRow) : Prop where
  row : scenarioRow src scenario.id tenantId = some scenario
  scripts : ∀ n ∈ nodeRows src scenario.id, isRunScript n.type = true →
    ∃ s ∈ src.scripts, seesScript tenantId s = true ∧ n.config "scriptId" = some (.num s.id)
  schedules : ∀ n ∈ nodeRows src scenario.id, isTriggerSchedule n.type = true →
    ∃ s ∈ src.schedules, seesSchedule tenantId s = true ∧ n.config "scheduleId" = some (.num s.id)

/-! ## When it comes out -/

section
variable (src dst : Tables) (tenantId : ℕ) (scenario : ScenarioRow)

/-- The references of a node that the import gets right. -/
structure ReferencesFollow (n : NodeRow) : Prop where
  /-- A `run_script` node also names its script by uuid, or the script gets the id it had. -/
  script : isRunScript n.type = true → ∀ s ∈ src.scripts, n.config "scriptId" = some (.num s.id) →
    n.config "scriptUuid" = some (.str s.uuid) ∨
      (∀ s' ∈ embedded src tenantId scenario, n.config "scriptUuid" ≠ some (.str s'.uuid)) ∧
        newScriptId src dst tenantId scenario s = some s.id
  /-- The updates lead a `trigger_schedule…` node to the id of its own schedule. -/
  schedule : isTriggerSchedule n.type = true → ∀ s ∈ src.schedules, n.config "scheduleId" = some (.num s.id) →
    ∃ i, newScheduleId src dst tenantId scenario s = some i ∧
      retargetedId src dst tenantId scenario n = some (some (.num i))
  /-- They leave every other node alone. -/
  other : isTriggerSchedule n.type = false →
    retargetedId src dst tenantId scenario n = some (n.config "scheduleId")

/-- What the import does not refuse, and the references it gets right. -/
structure Portable : Prop where
  name : scenario.name ≠ ""
  types : ∀ n ∈ nodeRows src scenario.id, n.type ∈ VALID_NODE_TYPES
  trigger : ∃ n ∈ nodeRows src scenario.id, isTrigger n.type = true
  texts : ∀ s ∈ embedded src tenantId scenario, s.name ≠ "" ∧ s.content ≠ ""
  scheduleScripts : ∀ r ∈ travelling src tenantId scenario, ScriptFound src dst tenantId scenario r
  references : ∀ n ∈ nodeRows src scenario.id, ReferencesFollow src dst tenantId scenario n

end

section
variable (genUuid : ℕ → String) {src dst : Tables} {sourceId tenantId : ℕ} {scenario : ScenarioRow}

/-! ## References -/

theorem mem_referenced {types : NodeType → Bool} {key : String} {nodes : List NodeRow} {q : ℚ} :
    q ∈ referenced types key nodes ↔ ∃ n ∈ nodes, types n.type = true ∧ n.config key = some (.num q) := by
  rw [referenced, List.mem_filterMap]
  refine exists_congr fun n => and_congr_right fun _ => ?_
  by_cases htypes : types n.type = true
  · rw [if_pos htypes]
    split
    · rename_i q' heq
      simp [htypes, heq]
    · rename_i hnot
      simp only [reduceCtorEq, false_iff, not_and]
      exact fun _ h => hnot q h
  · rw [if_neg htypes]
    simp [htypes]

/-- A script that a `run_script` node refers to is embedded. -/
theorem mem_embedded (hsrc : src.Schema) (h : Exportable src sourceId scenario) {n : NodeRow}
    (hn : n ∈ nodeRows src scenario.id) (hrun : isRunScript n.type = true) {s : ScriptRow} (hs : s ∈ src.scripts)
    (href : n.config "scriptId" = some (.num s.id)) : s ∈ embedded src sourceId scenario := by
  obtain ⟨s', hs', hsees, href'⟩ := h.scripts n hn hrun
  have hid : s.id = s'.id := by
    have := href.symm.trans href'
    simpa using this
  obtain rfl := hsrc.scripts.eq_of_key hs hs' hid
  refine List.mem_filter.2 ⟨hs, ?_⟩
  rw [hsees, Bool.and_true]
  exact decide_eq_true (mem_referenced.2 ⟨n, hn, hrun, href⟩)

/-- A schedule that a `trigger_schedule…` node refers to travels along. -/
theorem mem_travelling (hsrc : src.Schema) (h : Exportable src sourceId scenario) {n : NodeRow}
    (hn : n ∈ nodeRows src scenario.id) (htrigger : isTriggerSchedule n.type = true) {s : ScheduleRow}
    (hs : s ∈ src.schedules) (href : n.config "scheduleId" = some (.num s.id)) :
    s ∈ travelling src sourceId scenario := by
  obtain ⟨s', hs', hsees, href'⟩ := h.schedules n hn htrigger
  have hid : s.id = s'.id := by
    have := href.symm.trans href'
    simpa using this
  obtain rfl := hsrc.schedules.eq_of_key hs hs' hid
  refine List.mem_filter.2 ⟨hs, ?_⟩
  rw [hsees, Bool.and_true, Bool.or_eq_true]
  exact .inr (decide_eq_true (mem_referenced.2 ⟨n, hn, htrigger, href⟩))

/-! ## What the references of a node become -/

/-- The row created from an embedded script. -/
theorem scriptCopy (hdst : dst.Schema) (hsrc : src.Schema) {s : ScriptRow} (hs : s ∈ embedded src sourceId scenario) :
    ∃ i r, newScriptId src dst sourceId scenario s = some i ∧ r.id = i ∧
      r ∈ (allDone genUuid src dst sourceId tenantId scenario).db.scripts ∧ ScriptCopy dst tenantId s r := by
  obtain ⟨i, hi⟩ := exists_mem_zipIdx dst.nextScriptId hs
  have hnumber : newScriptId src dst sourceId scenario s = some i := numberOf_of_mem (keyed_embedded hsrc) hi
  refine ⟨i, insertedScript genUuid tenantId i s.name (s.entry src), hnumber, rfl, ?_, ?_, rfl, rfl, rfl⟩
  · refine List.mem_append_right _ (List.mem_map.2 ⟨(s.entry src, i), ?_, rfl⟩)
    change (s.entry src, i) ∈ ((embedded src sourceId scenario).map (ScriptRow.entry src)).zipIdx dst.nextScriptId
    rw [List.zipIdx_map]
    exact List.mem_map.2 ⟨(s, i), hi, rfl⟩
  · intro r' hr'
    have := hdst.scriptUsed r' hr'
    have := (numberOf_bounds hnumber).1
    change r'.id ≠ i
    omega

theorem scheduleCopy (hdst : dst.Schema) (hsrc : src.Schema) {s : ScheduleRow}
    (hs : s ∈ travelling src sourceId scenario) :
    ∃ i r, newScheduleId src dst sourceId scenario s = some i ∧ r.id = i ∧
      r ∈ (allDone genUuid src dst sourceId tenantId scenario).db.schedules ∧ ScheduleCopy dst tenantId s r := by
  obtain ⟨i, hi⟩ := exists_mem_zipIdx dst.nextScheduleId hs
  have hnumber : newScheduleId src dst sourceId scenario s = some i := numberOf_of_mem (keyed_travelling hsrc) hi
  refine ⟨i, _, hnumber, ?_, List.mem_append_right _ (List.mem_map.2 ⟨(s, i), hi, rfl⟩), ?_, rfl, rfl⟩
  · rfl
  · intro r' hr'
    have := hdst.scheduleUsed r' hr'
    have := (numberOf_bounds hnumber).1
    change r'.id ≠ i
    omega

/-- **The script of an imported node** is the one created from its own script. -/
theorem script_iff (hdst : dst.Schema) (hsrc : src.Schema) {n : NodeRow} (i : ℕ)
    (hrun : isRunScript n.type = true) {s : ScriptRow} (hs : s ∈ embedded src sourceId scenario)
    (href : n.config "scriptId" = some (.num s.id)) :
    (∃ r ∈ (allDone genUuid src dst sourceId tenantId scenario).db.scripts, ScriptCopy dst tenantId s r ∧
      (allDone genUuid src dst sourceId tenantId scenario).resolvedScriptId.get s.uuid = some r.id ∧
      (importedNode genUuid src dst sourceId tenantId scenario n i).config "scriptId" = some (.num r.id)) ↔
    (n.config "scriptUuid" = some (.str s.uuid) ∨
      (∀ s' ∈ embedded src sourceId scenario, n.config "scriptUuid" ≠ some (.str s'.uuid)) ∧
        newScriptId src dst sourceId scenario s = some s.id) := by
  obtain ⟨j, r, hj, hrj, hr, hcopy⟩ := @scriptCopy genUuid _ _ _ tenantId _ hdst hsrc s hs
  have hget : (allDone genUuid src dst sourceId tenantId scenario).resolvedScriptId.get s.uuid = some j := by
    rw [← hj, newScriptId_eq hsrc hs]
    exact @get_resolved genUuid src dst sourceId tenantId scenario hsrc s.uuid
  have hnode := (importedNode_of_ne genUuid n i (by decide)).trans
    (@importedConfig_scriptId (exportDone genUuid src dst sourceId tenantId scenario).resolvedScriptId n.entry hrun)
  have hconfig : (∃ r ∈ (allDone genUuid src dst sourceId tenantId scenario).db.scripts, ScriptCopy dst tenantId s r ∧
      (allDone genUuid src dst sourceId tenantId scenario).resolvedScriptId.get s.uuid = some r.id ∧
      (importedNode genUuid src dst sourceId tenantId scenario n i).config "scriptId" = some (.num r.id)) ↔
      (importedNode genUuid src dst sourceId tenantId scenario n i).config "scriptId" = some (.num j) := by
    constructor
    · rintro ⟨r', -, -, hget', hr'⟩
      rwa [← Option.some.inj (hget.symm.trans hget')] at hr'
    · intro h
      exact ⟨r, hr, hcopy, by rw [hget, hrj], by rw [h, hrj]⟩
  rw [hconfig, hnode]
  change ((resolvedOf _ (n.config "scriptUuid")).map fun scriptId : ℕ => JsVal.num scriptId).or (n.config "scriptId") =
    _ ↔ _
  cases hresolved : resolvedOf (exportDone genUuid src dst sourceId tenantId scenario).resolvedScriptId
      (n.config "scriptUuid") with
  | some k =>
      obtain ⟨s', hs', huuid, hk⟩ := (resolvedOf_eq_some_iff genUuid hsrc).1 hresolved
      constructor
      · intro h
        have hkj : k = j := by simpa using h
        have hid : s'.id = s.id := numberOf_inj (hkj ▸ hk) hj
        rw [(keyed_embedded hsrc).eq_of_key hs' hs hid] at huuid
        exact .inl huuid
      · rintro (h | ⟨hnone, -⟩)
        · have hsame : s'.uuid = s.uuid := by simpa using huuid.symm.trans h
          rw [(keyed_embedded_uuid hsrc).eq_of_key hs' hs hsame, hj] at hk
          rw [Option.some.inj hk]
          rfl
        · exact absurd huuid (hnone s' hs')
  | none =>
      have hnone : ∀ s' ∈ embedded src sourceId scenario, n.config "scriptUuid" ≠ some (.str s'.uuid) := by
        intro s' hs' huuid
        obtain ⟨k, -, hk, -⟩ := @scriptCopy genUuid _ _ _ tenantId _ hdst hsrc s' hs'
        rw [(resolvedOf_eq_some_iff genUuid hsrc).2 ⟨s', hs', huuid, hk⟩] at hresolved
        cases hresolved
      have hid : some (JsVal.num s.id) = some (JsVal.num j) ↔ s.id = j := by simp
      rw [Option.map_none, Option.none_or, href, hid, hj, Option.some.injEq]
      exact ⟨fun h => .inr ⟨hnone, h.symm⟩, fun h => (h.resolve_left (hnone s hs)).2.symm⟩

/-- **The schedule of an imported node.** -/
theorem schedule_iff (hdst : dst.Schema) (hsrc : src.Schema) {n : NodeRow} (i : ℕ)
    (hcast : (retargetedId src dst sourceId scenario n).isSome) {s : ScheduleRow}
    (hs : s ∈ travelling src sourceId scenario) :
    (∃ r ∈ (allDone genUuid src dst sourceId tenantId scenario).db.schedules, ScheduleCopy dst tenantId s r ∧
      (allDone genUuid src dst sourceId tenantId scenario).scheduleIds.get s.uuid = some r.id ∧
      (importedNode genUuid src dst sourceId tenantId scenario n i).config "scheduleId" = some (.num r.id)) ↔
    ∃ j, newScheduleId src dst sourceId scenario s = some j ∧
      retargetedId src dst sourceId scenario n = some (some (.num j)) := by
  obtain ⟨j, r, hj, hrj, hr, hcopy⟩ := @scheduleCopy genUuid _ _ _ tenantId _ hdst hsrc s hs
  have hget : (allDone genUuid src dst sourceId tenantId scenario).scheduleIds.get s.uuid = some j := by
    refine (get_numbered (keyed_travelling_uuid hsrc) dst.nextScheduleId [] s.uuid).trans ?_
    rw [← newScheduleId_eq hsrc hs, hj]
    rfl
  obtain ⟨v, hv⟩ := Option.isSome_iff_exists.1 hcast
  rw [importedNode_scheduleId, hv]
  constructor
  · rintro ⟨r', -, -, hget', hr'⟩
    rw [← Option.some.inj (hget.symm.trans hget')] at hr'
    exact ⟨j, hj, congrArg some hr'⟩
  · rintro ⟨k, hk, hvk⟩
    obtain rfl := Option.some.inj (hj.symm.trans hk)
    exact ⟨r, hr, hcopy, by rw [hget, hrj], by rw [hrj]; exact Option.some.inj hvk⟩

/-- **The rest of the configuration** travels as it is, if the updates leave it alone. -/
theorem config_iff {n : NodeRow} (i : ℕ) (hcast : (retargetedId src dst sourceId scenario n).isSome) :
    (∀ key, key ∉ localKeys n.type →
      (importedNode genUuid src dst sourceId tenantId scenario n i).config key = n.config key) ↔
    (isTriggerSchedule n.type = false →
      retargetedId src dst sourceId scenario n = some (n.config "scheduleId")) := by
  obtain ⟨v, hv⟩ := Option.isSome_iff_exists.1 hcast
  constructor
  · intro h htrigger
    have hkey : "scheduleId" ∉ localKeys n.type := by
      rw [localKeys, htrigger, if_neg Bool.false_ne_true]
      split_ifs <;> decide
    have := h "scheduleId" hkey
    rw [importedNode_scheduleId, hv] at this
    rw [hv]
    exact congrArg some this
  · intro h key hkey
    by_cases hid : key = "scheduleId"
    · subst hid
      have htrigger : isTriggerSchedule n.type = false := by
        rw [Bool.eq_false_iff]
        intro htrigger
        rw [localKeys, if_pos htrigger] at hkey
        exact hkey (List.mem_append_right _ (.head _))
      rw [importedNode_scheduleId, h htrigger]
      rfl
    · rw [importedNode_of_ne genUuid n i hid]
      unfold localKeys at hkey
      refine importedConfig_of_ne ?_ ?_ ?_ fun hrun => ?_
      · rintro rfl
        exact hkey (by simp)
      · rintro rfl
        exact hkey (by simp)
      · rintro rfl
        exact hkey (by simp)
      · rw [if_pos (show isRunScript n.type = true from hrun)] at hkey
        constructor
        · rintro rfl
          exact hkey (by simp)
        · rintro rfl
          exact hkey (by simp)

theorem nodeCopy_iff (hdst : dst.Schema) (hsrc : src.Schema) (h : Exportable src sourceId scenario) {n : NodeRow}
    (hn : n ∈ nodeRows src scenario.id) (i : ℕ) (hcast : (retargetedId src dst sourceId scenario n).isSome) :
    NodeCopy src dst tenantId (allDone genUuid src dst sourceId tenantId scenario) n
        (importedNode genUuid src dst sourceId tenantId scenario n i) ↔
      ReferencesFollow src dst sourceId scenario n := by
  constructor
  · intro hcopy
    refine ⟨fun hrun s hs href => ?_, fun htrigger s hs href => ?_, ?_⟩
    · have hmem := mem_embedded hsrc h hn hrun hs href
      exact (script_iff genUuid hdst hsrc i hrun hmem href).1 (hcopy.script hrun s hs href)
    · have hmem := mem_travelling hsrc h hn htrigger hs href
      exact (schedule_iff genUuid hdst hsrc i hcast hmem).1 (hcopy.schedule htrigger s hs href)
    · exact (config_iff genUuid i hcast).1 hcopy.config
  · intro hfollow
    have heq := @importedNode_eq genUuid src dst sourceId tenantId scenario n i
    refine ⟨?_, ?_, ?_, ?_, (config_iff genUuid i hcast).2 hfollow.other, fun hrun s hs href => ?_,
      fun htrigger s hs href => ?_⟩
    · rw [heq]
      rfl
    · rw [heq]
      rfl
    · rw [heq]
      rfl
    · rw [heq]
      rfl
    · have hmem := mem_embedded hsrc h hn hrun hs href
      exact (script_iff genUuid hdst hsrc i hrun hmem href).2 (hfollow.script hrun s hs href)
    · have hmem := mem_travelling hsrc h hn htrigger hs href
      exact (schedule_iff genUuid hdst hsrc i hcast hmem).2 (hfollow.schedule htrigger s hs href)

/-- References that follow are all castable. -/
theorem ReferencesFollow.castable (h : Exportable src sourceId scenario) {n : NodeRow}
    (hn : n ∈ nodeRows src scenario.id) (hfollow : ReferencesFollow src dst sourceId scenario n) :
    (retargetedId src dst sourceId scenario n).isSome := by
  cases htrigger : isTriggerSchedule n.type with
  | true =>
      obtain ⟨s, hs, -, href⟩ := h.schedules n hn htrigger
      obtain ⟨i, -, hi⟩ := hfollow.schedule htrigger s hs href
      rw [hi]
      rfl
  | false =>
      rw [hfollow.other htrigger]
      rfl

/-! ## The round trip -/

theorem orElse_orElse (v d : JsVal) : (v.orElse d).orElse d = v.orElse d := by
  cases v <;> cases d <;> rfl

/-- The renaming of node ids. -/
def renameNode (src dst : Tables) (scenario : ScenarioRow) (k : ℕ) : ℕ :=
  (numberOf NodeRow.id (nodeRows src scenario.id) dst.nextNodeId k).getD 0

theorem edgeCopy (hsrc : src.Schema) (hdst : dst.Schema) {e : EdgeRow} (he : e ∈ edgeRows src scenario.id) (i : ℕ) :
    EdgeCopy (renameNode src dst scenario) e
      (insertedEdge (numbered NodeEntry.clientId ((nodeRows src scenario.id).map NodeRow.entry) dst.nextNodeId [])
        dst.nextScenarioId i (e.entry (nodeRows src scenario.id))) := by
  obtain ⟨j, k, hj, hk, hsource, htarget⟩ := ends_imported hsrc hdst he
  refine ⟨?_, ?_, rfl, ?_, rfl⟩
  · rw [insertedEdge, hsource, renameNode, hj]
  · rw [insertedEdge, htarget, renameNode, hk]
  · change ((e.condition.orElse _).orElse _).orElse _ = e.condition.orElse _
    rw [orElse_orElse, orElse_orElse]

/-- What the import left is a round trip if the references of every node follow. -/
theorem roundTrip_allDone_iff (hsrc : src.Schema) (hdst : dst.Schema) (h : Exportable src sourceId scenario)
    (hcasts : ∀ n ∈ nodeRows src scenario.id, (retargetedId src dst sourceId scenario n).isSome) :
    RoundTrip src dst tenantId scenario (allDone genUuid src dst sourceId tenantId scenario) ↔
      ∀ n ∈ nodeRows src scenario.id, ReferencesFollow src dst sourceId scenario n := by
  have hnodes := @nodeRows_allDone genUuid src dst sourceId tenantId scenario hdst
  have hedges := @edgeRows_allDone genUuid src dst sourceId tenantId scenario hdst
  have hcopy : ∀ p ∈ (nodeRows src scenario.id).zipIdx dst.nextNodeId,
      NodeCopy src dst tenantId (allDone genUuid src dst sourceId tenantId scenario) p.1
          (importedNode genUuid src dst sourceId tenantId scenario p.1 p.2) ↔
        ReferencesFollow src dst sourceId scenario p.1 := fun p hp =>
    have hmem := List.fst_mem_of_mem_zipIdx hp
    nodeCopy_iff genUuid hdst hsrc h hmem p.2 (hcasts p.1 hmem)
  constructor
  · rintro ⟨-, -, -, rename, -, hgraph, -⟩
    rw [show (allDone genUuid src dst sourceId tenantId scenario).scenario.id = dst.nextScenarioId from rfl, hnodes,
      forall₂_zipIdx_map] at hgraph
    rw [← forall_zipIdx_iff (n := dst.nextNodeId)]
    exact fun p hp => (hcopy p hp).1 (hgraph p hp).2
  · intro hfollow
    refine ⟨⟨List.mem_append_right _ (.head _), fun s hs => (hdst.scenarioUsed s hs).ne⟩, rfl, rfl,
      renameNode src dst scenario, ?_, ?_, ?_⟩
    · intro n hn m hm heq
      obtain ⟨i, hi⟩ := exists_mem_zipIdx dst.nextNodeId hn
      obtain ⟨j, hj⟩ := exists_mem_zipIdx dst.nextNodeId hm
      have hi := numberOf_of_mem (keyed_nodeRows hsrc) hi
      have hj := numberOf_of_mem (keyed_nodeRows hsrc) hj
      rw [renameNode, renameNode, hi, hj] at heq
      obtain rfl : i = j := heq
      exact (keyed_nodeRows hsrc).eq_of_key hn hm (numberOf_inj hi hj)
    · rw [show (allDone genUuid src dst sourceId tenantId scenario).scenario.id = dst.nextScenarioId from rfl, hnodes,
        forall₂_zipIdx_map]
      intro p hp
      refine ⟨?_, (hcopy p hp).2 (hfollow p.1 (List.fst_mem_of_mem_zipIdx hp))⟩
      rw [importedNode, id_retargeted, renameNode, numberOf_of_mem (keyed_nodeRows hsrc) hp]
      rfl
    · rw [show (allDone genUuid src dst sourceId tenantId scenario).scenario.id = dst.nextScenarioId from rfl, hedges,
        forall₂_zipIdx_map]
      exact fun p hp => edgeCopy hsrc hdst (List.fst_mem_of_mem_zipIdx hp) p.2

/-- Such a scenario is exported. -/
theorem exportScenario_eq (hsrc : src.Schema) (h : Exportable src sourceId scenario) :
    exportScenario src scenario.id sourceId true = .ok (some (payloadOf src sourceId scenario true)) := by
  have hscripts : (scriptIds (nodeRows src scenario.id)).all bindsInt4 = true := by
    rw [List.all_eq_true]
    intro q hq
    obtain ⟨n, hn, hrun, href⟩ := mem_referenced.1 hq
    obtain ⟨s, hs, -, href'⟩ := h.scripts n hn hrun
    obtain rfl : q = s.id := by simpa using href.symm.trans href'
    rw [bindsInt4, castInt4_natCast (hsrc.scriptInt4 s hs)]
    rfl
  have hschedules : (scheduleIdsFromTriggers (nodeRows src scenario.id)).all bindsInt4 = true := by
    rw [List.all_eq_true]
    intro q hq
    obtain ⟨n, hn, htrigger, href⟩ := mem_referenced.1 hq
    obtain ⟨s, hs, -, href'⟩ := h.schedules n hn htrigger
    obtain rfl : q = s.id := by simpa using href.symm.trans href'
    rw [bindsInt4, castInt4_natCast (hsrc.scheduleInt4 s hs)]
    rfl
  rw [exportScenario, h.row]
  dsimp only
  rw [if_neg (by simp [hscripts]), if_neg (by simp [hschedules])]

/-- No script that the tenant sees in the destination has the uuid of an embedded one. -/
def NoConflicts (src dst : Tables) (sourceId tenantId : ℕ) (scenario : ScenarioRow) : Prop :=
  ∀ s ∈ embedded src sourceId scenario, ∀ r ∈ dst.scripts, seesScript tenantId r = true → r.uuid ≠ s.uuid

theorem existingByUuid_eq_nil (hconflicts : NoConflicts src dst sourceId tenantId scenario) :
    existingByUuid dst tenantId ((payloadOf src sourceId scenario true).scripts.getD []) = [] := by
  have hnone : (dst.scripts.filter fun r => decide (r.uuid ∈ ((payloadOf src sourceId scenario true).scripts.getD
      []).map ScriptEntry.uuid) && seesScript tenantId r) = [] := by
    rw [List.filter_eq_nil_iff]
    intro r hr hfound
    obtain ⟨hmem, hsees⟩ := (Bool.and_eq_true _ _).mp hfound
    obtain ⟨e, he, huuid⟩ := List.mem_map.1 (of_decide_eq_true hmem)
    obtain ⟨s, hs, rfl⟩ := List.mem_map.1 he
    exact hconflicts s hs r hr hsees huuid.symm
  rw [existingByUuid, hnone]
  rfl

/-- Without a conflict an import is committed when its document is valid and its transaction goes through. -/
theorem importScenario_iff (hconflicts : NoConflicts src dst sourceId tenantId scenario)
    (resolutions : Option (JsMap String Resolution)) (userId : ℕ) {out : Imported} :
    importScenario genUuid tenantId dst (payloadOf src sourceId scenario true) ⟨true, resolutions, userId⟩ =
        .ok (.commit out) ↔
      validate (payloadOf src sourceId scenario true) = .ok () ∧
        commitImport genUuid tenantId dst (payloadOf src sourceId scenario true) [] (resolutions.getD []) =
          some out := by
  have hforeign : ∀ isAdmin, overwritesForeign [] (resolutions.getD []) isAdmin tenantId
      ((payloadOf src sourceId scenario true).scripts.getD []) = none := fun isAdmin =>
    List.findSome?_eq_none_iff.2 fun s _ => rfl
  unfold importScenario
  cases hvalid : validate (payloadOf src sourceId scenario true) with
  | error e => simp
  | ok u =>
      cases u
      dsimp only
      rw [existingByUuid_eq_nil hconflicts, hforeign]
      dsimp only
      cases hcommit : commitImport genUuid tenantId dst (payloadOf src sourceId scenario true) []
          (resolutions.getD []) with
      | none => simp
      | some out' => simp

/-- The export of a scenario and its import come out as a round trip. -/
def ComesBack (genUuid : ℕ → String) (src dst : Tables) (sourceId tenantId : ℕ) (scenario : ScenarioRow)
    (opts : ImportOptions) : Prop :=
  ∃ payload out, exportScenario src scenario.id sourceId true = .ok (some payload) ∧
    importScenario genUuid tenantId dst payload opts = .ok (.commit out) ∧ RoundTrip src dst tenantId scenario out

theorem isNumber_scriptId (h : Exportable src sourceId scenario) :
    ∀ n ∈ nodeRows src scenario.id, isRunScript n.type = true → isNumber (n.config "scriptId") = true := by
  intro n hn hrun
  obtain ⟨s, -, -, href⟩ := h.scripts n hn hrun
  rw [href]
  rfl

theorem portable_of_comesBack (hsrc : src.Schema) (hdst : dst.Schema) (h : Exportable src sourceId scenario)
    (hconflicts : NoConflicts src dst sourceId tenantId scenario) {resolutions : Option (JsMap String Resolution)}
    {userId : ℕ} (hback : ComesBack genUuid src dst sourceId tenantId scenario ⟨true, resolutions, userId⟩) :
    Portable src dst sourceId scenario := by
  obtain ⟨payload, out, hexport, himport, hround⟩ := hback
  rw [exportScenario_eq hsrc h] at hexport
  obtain rfl := Option.some.inj (Except.ok.inj hexport)
  obtain ⟨hvalid, hcommit⟩ := (importScenario_iff genUuid hconflicts resolutions userId).1 himport
  obtain ⟨hname, htypes, htrigger, htexts⟩ := (validate_iff hsrc (isNumber_scriptId h)).1 hvalid
  obtain ⟨hscripts, hcasts, rfl⟩ := (commitExport_iff genUuid hsrc hdst _).1 hcommit
  exact ⟨hname, htypes, htrigger, htexts, hscripts, (roundTrip_allDone_iff genUuid hsrc hdst h hcasts).1 hround⟩

theorem comesBack_of_portable (hsrc : src.Schema) (hdst : dst.Schema) (h : Exportable src sourceId scenario)
    (hconflicts : NoConflicts src dst sourceId tenantId scenario) (resolutions : Option (JsMap String Resolution))
    (userId : ℕ) (hportable : Portable src dst sourceId scenario) :
    ComesBack genUuid src dst sourceId tenantId scenario ⟨true, resolutions, userId⟩ := by
  have hcasts := fun n hn => (hportable.references n hn).castable h hn
  have hvalid := (validate_iff hsrc (isNumber_scriptId h)).2
    ⟨hportable.name, hportable.types, hportable.trigger, hportable.texts⟩
  have hcommit := (@commitExport_iff genUuid src dst sourceId tenantId scenario hsrc hdst (resolutions.getD []) _).2
    ⟨hportable.scheduleScripts, hcasts, rfl⟩
  exact ⟨_, _, exportScenario_eq hsrc h,
    (importScenario_iff genUuid hconflicts resolutions userId).2 ⟨hvalid, hcommit⟩,
    (roundTrip_allDone_iff genUuid hsrc hdst h hcasts).2 hportable.references⟩

/-- **The round trip comes out exactly for the portable scenarios**, for every scenario a tenant can export
and every destination without a conflict. -/
theorem comesBack_iff (hsrc : src.Schema) (hdst : dst.Schema) (h : Exportable src sourceId scenario)
    (hconflicts : NoConflicts src dst sourceId tenantId scenario) (resolutions : Option (JsMap String Resolution))
    (userId : ℕ) :
    ComesBack genUuid src dst sourceId tenantId scenario ⟨true, resolutions, userId⟩ ↔
      Portable src dst sourceId scenario :=
  ⟨portable_of_comesBack genUuid hsrc hdst h hconflicts,
    comesBack_of_portable genUuid hsrc hdst h hconflicts resolutions userId⟩

end

/-! ## Two scenarios -/

section

def cleanUp : ScriptRow where
  id := 7
  uuid := "script-7"
  tenantId := some 2
  name := "Clean up"
  content := "rm -rf /tmp/cache"
  isBuiltin := false
  columns := ⟨.null, .str "linux", .str "bash", .num 300, .num 0, .str "system", .obj "[]", .str "execute", .bool false⟩

def nightly : ScheduleRow where
  id := 7
  uuid := "schedule-7"
  tenantId := 2
  scriptId := 7
  onFailureScenarioId := none
  enabled := true
  columns := ⟨.str "Nightly", .null, .str "all", .obj "[]", .str "0 2 * * *", .null, .str "UTC", .obj "\x7b\x7d",
    .bool true, .num 3, .bool true, .bool false, .obj "[]", .null, .bool true⟩

def onFailure : ScenarioRow where
  id := 1
  uuid := "scenario-1"
  tenantId := 2
  targetTenantIds := []
  name := "On failure"
  status := .active
  columns := ⟨.null, .str "manual", .obj "\x7b\x7d", .str "all", .obj "[]", .null, .num 3600, .bool false, .bool true,
    .bool false, .obj "[]", .obj "\x7b\x7d"⟩

def triggerNode : NodeRow where
  id := 1
  uuid := "node-1"
  scenarioId := 1
  type := .trigger .scheduleFailure
  label := none
  config := Function.update (fun _ => none) "scheduleId" (some (.num 7))
  positionX := 0
  positionY := 0

def scriptNode (scriptUuid : Option JsVal) : NodeRow where
  id := 2
  uuid := "node-2"
  scenarioId := 1
  type := .runScript
  label := none
  config := Function.update (Function.update (fun _ => none) "scriptId" (some (.num 7))) "scriptUuid" scriptUuid
  positionX := 0
  positionY := 120

/-- A failing schedule runs a script: tenant 2's tables, where a schedule and its script happen to have the
same id. -/
def cleanUpTables (scriptUuid : Option JsVal) : Tables where
  users := []
  scripts := [cleanUp]
  parameters := []
  scenarios := [onFailure]
  nodes := [triggerNode, scriptNode scriptUuid]
  edges := [⟨1, 1, 1, none, 2, .null, 0⟩]
  schedules := [nightly]
  nextScriptId := 8
  nextScenarioId := 2
  nextNodeId := 3
  nextEdgeId := 2
  nextScheduleId := 8

/-- A fresh install. -/
def freshTables : Tables := ⟨[], [], [], [], [], [], [], 1, 1, 1, 1, 1⟩

variable (scriptUuid : Option JsVal)

theorem schema_cleanUpTables : (cleanUpTables scriptUuid).Schema := by
  constructor <;> simp [cleanUpTables, cleanUp, nightly, onFailure, triggerNode, scriptNode, Keyed, int4Max]

theorem schema_freshTables : freshTables.Schema := by
  constructor <;> simp [freshTables, Keyed]

theorem embedded_cleanUpTables : embedded (cleanUpTables scriptUuid) 2 onFailure = [cleanUp] := by
  rw [embedded]
  rfl

theorem travelling_cleanUpTables : travelling (cleanUpTables scriptUuid) 2 onFailure = [nightly] := by
  rfl

theorem exportable_cleanUpTables : Exportable (cleanUpTables scriptUuid) 2 onFailure where
  row := rfl
  scripts := by
    change ∀ n ∈ [triggerNode, scriptNode scriptUuid], _
    rw [List.forall_mem_cons, List.forall_mem_singleton]
    exact ⟨fun h => absurd h (by decide), fun _ => ⟨cleanUp, .head _, by decide, rfl⟩⟩
  schedules := by
    change ∀ n ∈ [triggerNode, scriptNode scriptUuid], _
    rw [List.forall_mem_cons, List.forall_mem_singleton]
    exact ⟨fun _ => ⟨nightly, .head _, by decide, rfl⟩,
      fun h => absurd (show isTriggerSchedule .runScript = true from h) (by decide)⟩

theorem noConflicts_cleanUpTables : NoConflicts (cleanUpTables scriptUuid) freshTables 2 3 onFailure := by
  intro s _ r hr
  cases hr

end

/-- With the uuid beside the number the scenario comes back. -/
theorem portable_cleanUpTables : Portable (cleanUpTables (some (.str "script-7"))) freshTables 2 onFailure where
  name := by decide
  types := by
    change ∀ n ∈ [triggerNode, scriptNode _], _
    rw [List.forall_mem_cons, List.forall_mem_singleton]
    exact ⟨by decide, by decide⟩
  trigger := ⟨triggerNode, .head _, by decide⟩
  texts := by
    rw [embedded_cleanUpTables, List.forall_mem_singleton]
    exact ⟨by decide, by decide⟩
  scheduleScripts := by
    rw [travelling_cleanUpTables, List.forall_mem_singleton, ScriptFound, embedded_cleanUpTables]
    exact .inl ⟨cleanUp, .head _, rfl⟩
  references := by
    change ∀ n ∈ [triggerNode, scriptNode _], _
    rw [List.forall_mem_cons, List.forall_mem_singleton]
    refine ⟨⟨fun h => absurd h (by decide), fun _ => ?_, fun h => absurd h (by decide)⟩,
      ⟨fun _ => ?_, fun h => absurd h (by decide), fun _ => ?_⟩⟩
    · change ∀ s ∈ [nightly], _
      rw [List.forall_mem_singleton]
      exact fun _ => ⟨1, rfl, rfl⟩
    · change ∀ s ∈ [cleanUp], _
      rw [List.forall_mem_singleton]
      exact fun _ => .inl rfl
    · rfl

theorem comesBack_iff_named : ComesBack (fun id => s!"uuid-{id}") (cleanUpTables (some (.str "script-7"))) freshTables
    2 3 onFailure ⟨true, none, 1⟩ :=
  (comesBack_iff _ (schema_cleanUpTables _) schema_freshTables (exportable_cleanUpTables _)
    (noConflicts_cleanUpTables _) none 1).2 portable_cleanUpTables

/-- As the exporter writes it, the node keeps the number of its script, which names nothing in the
destination. -/
theorem script_left_behind :
    (cleanUpTables none).Schema ∧ freshTables.Schema ∧ Exportable (cleanUpTables none) 2 onFailure ∧
      NoConflicts (cleanUpTables none) freshTables 2 3 onFailure ∧
      ¬ ComesBack (fun id => s!"uuid-{id}") (cleanUpTables none) freshTables 2 3 onFailure ⟨true, none, 1⟩ := by
  refine ⟨schema_cleanUpTables _, schema_freshTables, exportable_cleanUpTables _, noConflicts_cleanUpTables _, ?_⟩
  intro hback
  have hportable := portable_of_comesBack _ (schema_cleanUpTables _) schema_freshTables (exportable_cleanUpTables _)
    (noConflicts_cleanUpTables _) hback
  have hfollow := (hportable.references (scriptNode none) (.tail _ (.head _))).script rfl cleanUp (.head _) rfl
  rcases hfollow with huuid | ⟨-, hid⟩
  · cases huuid
  · have hone : newScriptId (cleanUpTables none) freshTables 2 onFailure cleanUp = some 1 := rfl
    rw [hone] at hid
    cases hid

end Obliance.Portability

import Obliance.Portability.Commit
import Obliance.Portability.Validation

/-!
# What the import of an export leaves

* `embedded`, `travelling` : the scripts and schedules that travel with a scenario, and the ids they will get;
* `allDone` : the state a committed import leaves;
* `nodeRows_allDone`, `edgeRows_allDone` : the graph of the scenario it created;
* `importedNode_scheduleId`, `importedConfig_scriptId`, `importedConfig_of_ne` : the configuration of its nodes;
* `commitExport_iff` : when the transaction goes through.
-/

namespace Obliance.Portability
open Obliance.Js Obliance.Db KeyedTable Numbering
open Obliance.Scenario (NodeType)

/-! ## What travels -/

section
variable (src dst : Tables) (tenantId : ℕ) (scenario : ScenarioRow)

/-- The scripts embedded in the export. -/
def embedded : List ScriptRow := exportedScripts src tenantId (nodeRows src scenario.id)

/-- The schedules in the export. -/
def travelling : List ScheduleRow := exportedSchedules src tenantId scenario.id (nodeRows src scenario.id)

/-- The id that the destination's sequence will give to an embedded script. -/
def newScriptId (s : ScriptRow) : Option ℕ :=
  numberOf ScriptRow.id (embedded src tenantId scenario) dst.nextScriptId s.id

/-- The id that the destination's sequence will give to an exported schedule. -/
def newScheduleId (s : ScheduleRow) : Option ℕ :=
  numberOf ScheduleRow.id (travelling src tenantId scenario) dst.nextScheduleId s.id

/-- The script of an exported schedule is embedded, or its number is the id of some script that the
destination has by then. -/
def ScriptFound (r : ScheduleRow) : Prop :=
  (∃ s ∈ embedded src tenantId scenario, s.id = r.scriptId) ∨ (∃ s ∈ dst.scripts, s.id = r.scriptId) ∨
    dst.nextScriptId ≤ r.scriptId ∧ r.scriptId < dst.nextScriptId + (embedded src tenantId scenario).length

/-- A node's `scheduleId` after the updates made for the exported schedules in turn. -/
def retargetedId (n : NodeRow) : Option (Option JsVal) :=
  retarget ((travelling src tenantId scenario).map ScheduleRow.scriptId) dst.nextScheduleId (n.config "scheduleId")

end

/-! ## What an import leaves -/

section
variable (genUuid : ℕ → String) {src dst : Tables} {sourceId tenantId : ℕ} {scenario : ScenarioRow}

theorem getD_nonEmpty {α : Type} (l : List α) : (nonEmpty l).getD [] = l := by
  unfold nonEmpty
  split_ifs with h
  · exact h.symm
  · rfl

theorem keyed_embedded (hsrc : src.Schema) : Keyed ScriptRow.id (embedded src sourceId scenario) :=
  hsrc.scripts.sublist (List.filter_sublist.map _)

theorem keyed_embedded_uuid (hsrc : src.Schema) : Keyed ScriptRow.uuid (embedded src sourceId scenario) :=
  hsrc.scriptUuids.sublist (List.filter_sublist.map _)

theorem keyed_travelling (hsrc : src.Schema) : Keyed ScheduleRow.id (travelling src sourceId scenario) :=
  hsrc.schedules.sublist (List.filter_sublist.map _)

theorem keyed_travelling_uuid (hsrc : src.Schema) : Keyed ScheduleRow.uuid (travelling src sourceId scenario) :=
  hsrc.scheduleUuids.sublist (List.filter_sublist.map _)

/-- The state behind the loop of the edges, of an exported document. -/
def exportDone (genUuid : ℕ → String) (src dst : Tables) (sourceId tenantId : ℕ) (scenario : ScenarioRow) :
    ImportState :=
  graphDone genUuid tenantId dst (payloadOf src sourceId scenario true)

theorem get_resolved (hsrc : src.Schema) (k : String) :
    (exportDone genUuid src dst sourceId tenantId scenario).resolvedScriptId.get k =
      numberOf ScriptRow.uuid (embedded src sourceId scenario) dst.nextScriptId k := by
  have hkeys : (((embedded src sourceId scenario).map (ScriptRow.entry src)).map ScriptEntry.uuid).Nodup := by
    rw [List.map_map]
    exact keyed_embedded_uuid hsrc
  refine (get_numbered hkeys dst.nextScriptId [] k).trans ?_
  rw [numberOf_map]
  exact Option.or_none

/-- The id the import gives to a node. -/
theorem nodeIdOf_uuid (hsrc : src.Schema) (hdst : dst.Schema) {n : NodeRow} {i : ℕ}
    (hn : (n, i) ∈ (nodeRows src scenario.id).zipIdx dst.nextNodeId) :
    nodeIdOf (numbered NodeEntry.clientId ((nodeRows src scenario.id).map NodeRow.entry) dst.nextNodeId [])
      (some n.uuid) = some i := by
  have hkeys : (((nodeRows src scenario.id).map NodeRow.entry).map NodeEntry.clientId).Nodup := by
    rw [List.map_map]
    exact keyed_nodeRows_uuid hsrc
  have hnumber : numberOf (NodeEntry.clientId ∘ NodeRow.entry) (nodeRows src scenario.id) dst.nextNodeId n.uuid =
      some i := numberOf_of_mem (keyed_nodeRows_uuid hsrc) hn
  have hpos : i ≠ 0 := by
    have := (numberOf_bounds hnumber).1
    have := hdst.nodeSequence
    omega
  rw [nodeIdOf, Option.bind_some, get_numbered hkeys, numberOf_map, hnumber]
  simp [hpos]

/-- The ends of an exported edge, and the ids they get. -/
theorem ends_imported (hsrc : src.Schema) (hdst : dst.Schema) {e : EdgeRow} (he : e ∈ edgeRows src scenario.id) :
    ∃ i j, numberOf NodeRow.id (nodeRows src scenario.id) dst.nextNodeId e.sourceNodeId = some i ∧
      numberOf NodeRow.id (nodeRows src scenario.id) dst.nextNodeId e.targetNodeId = some j ∧
      nodeIdOf (numbered NodeEntry.clientId ((nodeRows src scenario.id).map NodeRow.entry) dst.nextNodeId [])
        (e.entry (nodeRows src scenario.id)).sourceNodeClientId = some i ∧
      nodeIdOf (numbered NodeEntry.clientId ((nodeRows src scenario.id).map NodeRow.entry) dst.nextNodeId [])
        (e.entry (nodeRows src scenario.id)).targetNodeClientId = some j := by
  obtain ⟨n, hn, m, hm, hnid, hmid, hsource, htarget⟩ := ends_entry hsrc he
  obtain ⟨i, hi⟩ := exists_mem_zipIdx dst.nextNodeId hn
  obtain ⟨j, hj⟩ := exists_mem_zipIdx dst.nextNodeId hm
  refine ⟨i, j, ?_, ?_, ?_, ?_⟩
  · rw [← hnid]
    exact numberOf_of_mem (keyed_nodeRows hsrc) hi
  · rw [← hmid]
    exact numberOf_of_mem (keyed_nodeRows hsrc) hj
  · rw [hsource]
    exact nodeIdOf_uuid hsrc hdst hi
  · rw [htarget]
    exact nodeIdOf_uuid hsrc hdst hj

/-- **The transaction of an export**: its graph, and the loop of its schedules. -/
theorem commitExport_eq (hsrc : src.Schema) (hdst : dst.Schema) (resolutions : JsMap String Resolution) :
    commitImport genUuid tenantId dst (payloadOf src sourceId scenario true) [] resolutions =
      (importSchedules genUuid tenantId dst.nextScenarioId
        ((travelling src sourceId scenario).map (ScheduleRow.entry src scenario.id))
        (exportDone genUuid src dst sourceId tenantId scenario)).map fun st =>
          ⟨st, insertedScenario genUuid tenantId dst.nextScenarioId scenario.entry⟩ := by
  have huuid : ∀ s ∈ (payloadOf src sourceId scenario true).scripts.getD [], s.uuid ≠ "" :=
    List.forall_mem_map.2 fun s hs => hsrc.scriptUuid s (List.mem_filter.1 hs).1
  rw [commitImport_eq genUuid tenantId resolutions dst huuid]
  · rw [show (payloadOf src sourceId scenario true).schedules.getD [] =
      (travelling src sourceId scenario).map (ScheduleRow.entry src scenario.id) from getD_nonEmpty _]
    rfl
  · refine List.forall_mem_map.2 fun e he => ?_
    obtain ⟨i, j, -, -, hi, hj⟩ := ends_imported hsrc hdst he
    exact ⟨Option.isSome_iff_exists.2 ⟨i, hi⟩, Option.isSome_iff_exists.2 ⟨j, hj⟩⟩

/-! ## The imported graph -/

/-- What a node becomes under the id `i`. -/
def importedNode (genUuid : ℕ → String) (src dst : Tables) (sourceId tenantId : ℕ) (scenario : ScenarioRow)
    (n : NodeRow) (i : ℕ) : NodeRow :=
  (insertedNode genUuid (exportDone genUuid src dst sourceId tenantId scenario).resolvedScriptId
    dst.nextScenarioId i n.entry).retargeted dst.nextScenarioId
      ((travelling src sourceId scenario).map ScheduleRow.scriptId) dst.nextScheduleId

/-- The state a committed import of the export leaves. -/
def allDone (genUuid : ℕ → String) (src dst : Tables) (sourceId tenantId : ℕ) (scenario : ScenarioRow) :
    Imported :=
  ⟨schedulesDone genUuid tenantId src scenario.id dst.nextScenarioId
      (exportDone genUuid src dst sourceId tenantId scenario) (travelling src sourceId scenario),
    insertedScenario genUuid tenantId dst.nextScenarioId scenario.entry⟩

theorem scenarioId_retargeted (n : NodeRow) (scenarioId : ℕ) (scripts : List ℕ) (next : ℕ) :
    (n.retargeted scenarioId scripts next).scenarioId = n.scenarioId := by
  unfold NodeRow.retargeted
  split_ifs <;> rfl

theorem id_retargeted (n : NodeRow) (scenarioId : ℕ) (scripts : List ℕ) (next : ℕ) :
    (n.retargeted scenarioId scripts next).id = n.id := by
  unfold NodeRow.retargeted
  split_ifs <;> rfl

theorem nodeRows_allDone (hdst : dst.Schema) :
    nodeRows (allDone genUuid src dst sourceId tenantId scenario).db dst.nextScenarioId =
      ((nodeRows src scenario.id).zipIdx dst.nextNodeId).map fun p =>
        importedNode genUuid src dst sourceId tenantId scenario p.1 p.2 := by
  have hnodes : (allDone genUuid src dst sourceId tenantId scenario).db.nodes =
      (dst.nodes ++ (((nodeRows src scenario.id).map NodeRow.entry).zipIdx dst.nextNodeId).map fun p =>
        insertedNode genUuid (exportDone genUuid src dst sourceId tenantId scenario).resolvedScriptId
          dst.nextScenarioId p.2 p.1).map fun n => n.retargeted dst.nextScenarioId
            ((travelling src sourceId scenario).map ScheduleRow.scriptId) dst.nextScheduleId := rfl
  rw [nodeRows, hnodes, List.filter_map]
  have hcomp : ((fun n : NodeRow => decide (n.scenarioId = dst.nextScenarioId)) ∘ fun n : NodeRow =>
      n.retargeted dst.nextScenarioId ((travelling src sourceId scenario).map ScheduleRow.scriptId)
        dst.nextScheduleId) = fun n : NodeRow => decide (n.scenarioId = dst.nextScenarioId) := by
    funext n
    rw [Function.comp, scenarioId_retargeted]
  have hnew : ((((nodeRows src scenario.id).map NodeRow.entry).zipIdx dst.nextNodeId).map fun p =>
      insertedNode genUuid (exportDone genUuid src dst sourceId tenantId scenario).resolvedScriptId
        dst.nextScenarioId p.2 p.1).filter (fun n => decide (n.scenarioId = dst.nextScenarioId)) = _ :=
    List.filter_eq_self.2 (List.forall_mem_map.2 fun p _ => decide_eq_true rfl)
  rw [hcomp, List.filter_append, nodeRows_eq_nil_of_fresh hdst, hnew, List.nil_append, List.zipIdx_map, List.map_map,
    List.map_map]
  refine List.Pairwise.insertionSort_eq (List.pairwise_map.2 ?_)
  refine pairwise_zipIdx.imp fun {p q} hlt => ?_
  simp only [Function.comp, id_retargeted]
  exact hlt.le

theorem edgeRows_allDone (hdst : dst.Schema) :
    edgeRows (allDone genUuid src dst sourceId tenantId scenario).db dst.nextScenarioId =
      ((edgeRows src scenario.id).zipIdx dst.nextEdgeId).map fun p =>
        insertedEdge (numbered NodeEntry.clientId ((nodeRows src scenario.id).map NodeRow.entry) dst.nextNodeId [])
          dst.nextScenarioId p.2 (p.1.entry (nodeRows src scenario.id)) := by
  have hedges : (allDone genUuid src dst sourceId tenantId scenario).db.edges =
      dst.edges ++ (((edgeRows src scenario.id).map (EdgeRow.entry (nodeRows src scenario.id))).zipIdx
        dst.nextEdgeId).map fun p =>
          insertedEdge (numbered NodeEntry.clientId ((nodeRows src scenario.id).map NodeRow.entry) dst.nextNodeId [])
            dst.nextScenarioId p.2 p.1 := rfl
  have hnew : ((((edgeRows src scenario.id).map (EdgeRow.entry (nodeRows src scenario.id))).zipIdx
      dst.nextEdgeId).map fun p =>
        insertedEdge (numbered NodeEntry.clientId ((nodeRows src scenario.id).map NodeRow.entry) dst.nextNodeId [])
          dst.nextScenarioId p.2 p.1).filter (fun e => decide (e.scenarioId = dst.nextScenarioId)) = _ :=
    List.filter_eq_self.2 (List.forall_mem_map.2 fun p _ => decide_eq_true rfl)
  rw [edgeRows, hedges, List.filter_append, edgeRows_eq_nil_of_fresh hdst, hnew, List.nil_append, List.zipIdx_map,
    List.map_map]
  refine List.Pairwise.insertionSort_eq (List.pairwise_map.2 ?_)
  -- the export lists the edges in their order
  have hsorted : (edgeRows src scenario.id).Pairwise fun e f => e.sortOrder ≤ f.sortOrder :=
    List.pairwise_insertionSort ..
  rw [← List.zipIdx_map_fst dst.nextEdgeId (edgeRows src scenario.id)] at hsorted
  exact (List.pairwise_map.1 hsorted).imp fun {p q} hle => hle

/-! ## The configuration of an imported node -/

section
variable {cfg : Config} {key : String}

theorem dropComment_of_ne (h : key ≠ "_comment") : dropComment cfg key = cfg key := Function.update_of_ne h _ _

theorem stripTargets_of_ne (hmode : key ≠ "targetMode") (hids : key ≠ "targetDeviceIds") :
    stripTargets cfg key = cfg key := by
  unfold stripTargets
  split_ifs
  · rw [Function.update_of_ne hids, Function.update_of_ne hmode]
  · rfl

theorem resolveScript_of_ne {resolved : JsMap String ℕ} {t : NodeType}
    (h : isRunScript t = true → key ≠ "scriptId" ∧ key ≠ "scriptUuid") :
    resolveScript resolved t cfg key = cfg key := by
  unfold resolveScript
  split_ifs with hrun
  · obtain ⟨hid, huuid⟩ := h hrun
    cases resolvedOf resolved (cfg "scriptUuid") with
    | none => rfl
    | some scriptId =>
        change Function.update (Function.update _ _ _) _ _ key = _
        rw [Function.update_of_ne huuid, Function.update_of_ne hid]
  · rfl

theorem importedConfig_of_ne {resolved : JsMap String ℕ} {e : NodeEntry} (hcomment : key ≠ "_comment")
    (hmode : key ≠ "targetMode") (hids : key ≠ "targetDeviceIds")
    (hscript : isRunScript e.type = true → key ≠ "scriptId" ∧ key ≠ "scriptUuid") :
    importedConfig resolved e key = e.config key := by
  rw [importedConfig, stripTargets_of_ne hmode hids, resolveScript_of_ne hscript, dropComment_of_ne hcomment]

/-- A `run_script` node takes the script its `scriptUuid` names, if one is embedded under it. -/
theorem importedConfig_scriptId {resolved : JsMap String ℕ} {e : NodeEntry} (hrun : isRunScript e.type = true) :
    importedConfig resolved e "scriptId" =
      ((resolvedOf resolved (e.config "scriptUuid")).map fun scriptId : ℕ => JsVal.num scriptId).or
        (e.config "scriptId") := by
  rw [importedConfig, stripTargets_of_ne (by decide) (by decide), resolveScript, if_pos hrun,
    dropComment_of_ne (by decide)]
  cases resolvedOf resolved (e.config "scriptUuid") with
  | none => exact dropComment_of_ne (by decide)
  | some scriptId =>
      change Function.update (Function.update _ _ _) _ _ "scriptId" = _
      rw [Function.update_of_ne (by decide), Function.update_self]
      rfl

end

theorem importedNode_eq (n : NodeRow) (i : ℕ) :
    importedNode genUuid src dst sourceId tenantId scenario n i =
      (insertedNode genUuid (exportDone genUuid src dst sourceId tenantId scenario).resolvedScriptId
        dst.nextScenarioId i n.entry).withScheduleId ((retargetedId src dst sourceId scenario n).getD none) := by
  have hid : importedConfig (exportDone genUuid src dst sourceId tenantId scenario).resolvedScriptId n.entry
      "scheduleId" = n.config "scheduleId" :=
    importedConfig_of_ne (by decide) (by decide) (by decide) fun _ => ⟨by decide, by decide⟩
  have hscenario : (insertedNode genUuid (exportDone genUuid src dst sourceId tenantId scenario).resolvedScriptId
      dst.nextScenarioId i n.entry).scenarioId = dst.nextScenarioId := rfl
  rw [importedNode, NodeRow.retargeted, if_pos hscenario, retargetedId, ← hid]
  rfl

theorem importedNode_scheduleId (n : NodeRow) (i : ℕ) :
    (importedNode genUuid src dst sourceId tenantId scenario n i).config "scheduleId" =
      (retargetedId src dst sourceId scenario n).getD none := by
  rw [importedNode_eq, NodeRow.config_withScheduleId, Function.update_self]

theorem importedNode_of_ne (n : NodeRow) (i : ℕ) {key : String} (h : key ≠ "scheduleId") :
    (importedNode genUuid src dst sourceId tenantId scenario n i).config key =
      importedConfig (exportDone genUuid src dst sourceId tenantId scenario).resolvedScriptId n.entry key := by
  rw [importedNode_eq, NodeRow.config_withScheduleId, Function.update_of_ne h]
  rfl

/-! ## The ids of what travels -/

theorem newScriptId_eq (hsrc : src.Schema) {s : ScriptRow} (hs : s ∈ embedded src sourceId scenario) :
    newScriptId src dst sourceId scenario s =
      numberOf ScriptRow.uuid (embedded src sourceId scenario) dst.nextScriptId s.uuid := by
  refine numberOf_congr hs fun s' hs' => ⟨fun h => ?_, fun h => ?_⟩
  · rw [(keyed_embedded hsrc).eq_of_key hs' hs h]
  · rw [(keyed_embedded_uuid hsrc).eq_of_key hs' hs h]

theorem newScheduleId_eq (hsrc : src.Schema) {s : ScheduleRow} (hs : s ∈ travelling src sourceId scenario) :
    newScheduleId src dst sourceId scenario s =
      numberOf ScheduleRow.uuid (travelling src sourceId scenario) dst.nextScheduleId s.uuid := by
  refine numberOf_congr hs fun s' hs' => ⟨fun h => ?_, fun h => ?_⟩
  · rw [(keyed_travelling hsrc).eq_of_key hs' hs h]
  · rw [(keyed_travelling_uuid hsrc).eq_of_key hs' hs h]

/-- Which embedded script a `scriptUuid` is resolved to. -/
theorem resolvedOf_eq_some_iff (hsrc : src.Schema) {v : Option JsVal} {j : ℕ} :
    resolvedOf (exportDone genUuid src dst sourceId tenantId scenario).resolvedScriptId v = some j ↔
      ∃ s ∈ embedded src sourceId scenario, v = some (.str s.uuid) ∧ newScriptId src dst sourceId scenario s = some j := by
  constructor
  · intro h
    unfold resolvedOf at h
    split at h
    · rename_i uuid
      split_ifs at h
      rw [get_resolved genUuid hsrc] at h
      obtain ⟨s, hs, rfl⟩ := numberOf_isSome_iff.1 (Option.isSome_iff_exists.2 ⟨j, h⟩)
      exact ⟨s, hs, rfl, (newScriptId_eq hsrc hs).trans h⟩
    · cases h
  · rintro ⟨s, hs, rfl, hj⟩
    rw [resolvedOf, if_neg (hsrc.scriptUuid s (List.mem_filter.1 hs).1), get_resolved genUuid hsrc]
    exact (newScriptId_eq hsrc hs).symm.trans hj

/-! ## When the transaction goes through -/

theorem scriptIds_exportDone {k : ℕ} :
    (∃ s ∈ (exportDone genUuid src dst sourceId tenantId scenario).db.scripts, s.id = k) ↔
      (∃ s ∈ dst.scripts, s.id = k) ∨
        dst.nextScriptId ≤ k ∧ k < dst.nextScriptId + (embedded src sourceId scenario).length := by
  have hscripts : (exportDone genUuid src dst sourceId tenantId scenario).db.scripts =
      dst.scripts ++ (((embedded src sourceId scenario).map (ScriptRow.entry src)).zipIdx dst.nextScriptId).map fun p =>
        insertedScript genUuid tenantId p.2 p.1.name p.1 := rfl
  have hids : (∃ s ∈ (((embedded src sourceId scenario).map (ScriptRow.entry src)).zipIdx dst.nextScriptId).map
      (fun p => insertedScript genUuid tenantId p.2 p.1.name p.1), s.id = k) ↔
        k ∈ (((embedded src sourceId scenario).map (ScriptRow.entry src)).zipIdx dst.nextScriptId).map Prod.snd := by
    constructor
    · rintro ⟨s, hs, rfl⟩
      obtain ⟨p, hp, rfl⟩ := List.mem_map.1 hs
      exact List.mem_map.2 ⟨p, hp, rfl⟩
    · intro hk
      obtain ⟨p, hp, rfl⟩ := List.mem_map.1 hk
      exact ⟨_, List.mem_map.2 ⟨p, hp, rfl⟩, rfl⟩
  rw [hscripts]
  simp only [List.mem_append, or_and_right, exists_or]
  rw [hids, List.zipIdx_map_snd, List.mem_range'_1, List.length_map]

/-- The foreign key of an imported schedule. -/
theorem scheduleScript_iff (hsrc : src.Schema) {r : ScheduleRow} (hr : r ∈ src.schedules) :
    (∃ s ∈ (exportDone genUuid src dst sourceId tenantId scenario).db.scripts,
      s.id = importedScript src scenario.id (exportDone genUuid src dst sourceId tenantId scenario).resolvedScriptId r) ↔
    ScriptFound src dst sourceId scenario r := by
  obtain ⟨s₀, hs₀, hid⟩ := hsrc.scheduleScript r hr
  have hentry : (r.entry src scenario.id).scriptUuid.map JsVal.str = some (.str s₀.uuid) := by
    rw [ScheduleRow.entry, (get_eq_some_iff hsrc.scripts).2 ⟨hs₀, hid⟩]
    rfl
  rw [scriptIds_exportDone, importedScript, scheduleScript, hentry, ScriptFound]
  cases hresolved : resolvedOf (exportDone genUuid src dst sourceId tenantId scenario).resolvedScriptId
      (some (.str s₀.uuid)) with
  | some j =>
      obtain ⟨s, hs, huuid, hj⟩ := (resolvedOf_eq_some_iff genUuid hsrc).1 hresolved
      have hsame : s₀.uuid = s.uuid := by simpa using huuid
      obtain rfl := hsrc.scriptUuids.eq_of_key hs₀ (List.mem_filter.1 hs).1 hsame
      exact iff_of_true (.inr (numberOf_bounds hj)) (.inl ⟨s₀, hs, hid⟩)
  | none =>
      have hnot : ¬ ∃ s ∈ embedded src sourceId scenario, s.id = r.scriptId := by
        rintro ⟨s, hs, hsid⟩
        obtain rfl := hsrc.scripts.eq_of_key (List.mem_filter.1 hs).1 hs₀ (hsid.trans hid.symm)
        obtain ⟨j, hj⟩ := Option.isSome_iff_exists.1
          ((numberOf_isSome_iff (n := dst.nextScriptId)).2 ⟨s, hs, rfl⟩ :
            (newScriptId src dst sourceId scenario s).isSome)
        rw [(resolvedOf_eq_some_iff genUuid hsrc).2 ⟨s, hs, rfl, hj⟩] at hresolved
        cases hresolved
      exact ⟨.inr, fun h => h.resolve_left hnot⟩

theorem castable_iff (hdst : dst.Schema) :
    (∀ n ∈ (exportDone genUuid src dst sourceId tenantId scenario).db.nodes,
      n.Castable dst.nextScenarioId ((travelling src sourceId scenario).map ScheduleRow.scriptId)
        dst.nextScheduleId) ↔
    ∀ n ∈ nodeRows src scenario.id, (retargetedId src dst sourceId scenario n).isSome := by
  have hid : ∀ n : NodeRow, importedConfig (exportDone genUuid src dst sourceId tenantId scenario).resolvedScriptId
      n.entry "scheduleId" = n.config "scheduleId" := fun n =>
    importedConfig_of_ne (by decide) (by decide) (by decide) fun _ => ⟨by decide, by decide⟩
  have hnodes : (exportDone genUuid src dst sourceId tenantId scenario).db.nodes =
      dst.nodes ++ (((nodeRows src scenario.id).map NodeRow.entry).zipIdx dst.nextNodeId).map fun p =>
        insertedNode genUuid (exportDone genUuid src dst sourceId tenantId scenario).resolvedScriptId
          dst.nextScenarioId p.2 p.1 := rfl
  rw [hnodes, List.forall_mem_append, List.zipIdx_map, List.map_map, List.forall_mem_map]
  constructor
  · rintro ⟨-, h⟩ n hn
    obtain ⟨i, hi⟩ := exists_mem_zipIdx dst.nextNodeId hn
    rw [retargetedId, ← hid n]
    exact h (n, i) hi rfl
  · intro h
    refine ⟨fun n hn hscenario => ?_, fun p hp _ => ?_⟩
    · exact absurd (decide_eq_true hscenario)
        (List.filter_eq_nil_iff.1 (nodeRows_eq_nil_of_fresh hdst) n hn)
    · have hcast := h p.1 (List.fst_mem_of_mem_zipIdx hp)
      rw [retargetedId, ← hid p.1] at hcast
      exact hcast

/-- **The transaction of an export**: when it goes through, and what it leaves. -/
theorem commitExport_iff (hsrc : src.Schema) (hdst : dst.Schema) (resolutions : JsMap String Resolution)
    {out : Imported} :
    commitImport genUuid tenantId dst (payloadOf src sourceId scenario true) [] resolutions = some out ↔
      (∀ r ∈ travelling src sourceId scenario, ScriptFound src dst sourceId scenario r) ∧
      (∀ n ∈ nodeRows src scenario.id, (retargetedId src dst sourceId scenario n).isSome) ∧
      out = allDone genUuid src dst sourceId tenantId scenario := by
  have hkeys : (∀ r ∈ travelling src sourceId scenario,
      ∃ s ∈ (exportDone genUuid src dst sourceId tenantId scenario).db.scripts, s.id = importedScript src scenario.id
        (exportDone genUuid src dst sourceId tenantId scenario).resolvedScriptId r) ↔ _ :=
    forall₂_congr fun r hr => scheduleScript_iff genUuid hsrc (List.mem_filter.1 hr).1
  rw [commitExport_eq genUuid hsrc hdst, Option.map_eq_some_iff, ← hkeys,
    ← @castable_iff genUuid src dst sourceId tenantId scenario hdst]
  constructor
  · rintro ⟨st, hst, rfl⟩
    obtain ⟨hscripts, hcasts, rfl⟩ := (importSchedules_iff genUuid tenantId).1 hst
    exact ⟨hscripts, hcasts, rfl⟩
  · rintro ⟨hscripts, hcasts, rfl⟩
    exact ⟨_, (importSchedules_iff genUuid tenantId).2 ⟨hscripts, hcasts, rfl⟩, rfl⟩

end

end Obliance.Portability

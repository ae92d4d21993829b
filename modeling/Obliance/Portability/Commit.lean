import Mathlib.Data.List.Nodup
import Obliance.Lib.Numbering
import Obliance.Portability.Import

/-!
# What a committed import of an export writes

* `importScripts_eq`, `importNodes_eq`, `importEdges_eq` : the loops without a conflict, as one insertion each;
* `commitImport_eq` : the transaction without a conflict;
* `retarget` : what the schedules of an import make of a `scheduleId`;
* `importSchedules_iff` : when the loop of the schedules goes through, and what it leaves.
-/

namespace Obliance.Portability
open Obliance.Js Obliance.Db KeyedTable Numbering
open Obliance.Scenario (NodeType TriggerType)

/-! ## Maps filled by a loop -/

section
variable {α : Type} {key : α → String}

/-- The entries a loop adds under the keys of its elements. -/
def numbered (key : α → String) (l : List α) (n : ℕ) (m : JsMap String ℕ) : JsMap String ℕ :=
  (l.zipIdx n).foldl (fun m p => m.set (key p.1) p.2) m

theorem numbered_cons (a : α) (l : List α) (n : ℕ) (m : JsMap String ℕ) :
    numbered key (a :: l) n m = numbered key l (n + 1) (m.set (key a) n) := by
  rw [numbered, List.zipIdx_cons, List.foldl_cons]
  rfl

theorem get_numbered {l : List α} (hkeys : (l.map key).Nodup) (n : ℕ) (m : JsMap String ℕ) (k : String) :
    (numbered key l n m).get k = (numberOf key l n k).or (m.get k) := by
  induction l generalizing n m with
  | nil => rfl
  | cons a l ih =>
      rw [List.map_cons, List.nodup_cons] at hkeys
      rw [numbered_cons, ih hkeys.2, JsMap.get_set, numberOf]
      by_cases hk : key a = k
      · have hnone : numberOf key l (n + 1) k = none := by
          rw [← Option.not_isSome_iff_eq_none, numberOf_isSome_iff]
          rintro ⟨b, hb, hbk⟩
          exact hkeys.1 (hk.trans hbk.symm ▸ List.mem_map_of_mem hb)
        rw [hnone, if_pos hk.symm, if_pos hk]
        rfl
      · rw [if_neg fun h => hk h.symm, if_neg hk]

end

/-! ## Scripts, nodes and edges -/

section
variable (genUuid : ℕ → String) (tenantId : ℕ)

/-- Without a conflict every embedded script is inserted. -/
theorem importScripts_eq (resolutions : JsMap String Resolution) {scripts : List ScriptEntry}
    (huuid : ∀ s ∈ scripts, s.uuid ≠ "") (st : ImportState) :
    scripts.foldl (importScript genUuid tenantId [] resolutions) st =
      { st with
        db :=
          { st.db with
            scripts := st.db.scripts ++ (scripts.zipIdx st.db.nextScriptId).map fun p =>
              insertedScript genUuid tenantId p.2 p.1.name p.1
            parameters := st.db.parameters ++ (scripts.zipIdx st.db.nextScriptId).flatMap fun p =>
              p.1.parameters.zipIdx.map fun q => insertedParameter p.2 q.2 q.1
            nextScriptId := st.db.nextScriptId + scripts.length }
        resolvedScriptId := numbered ScriptEntry.uuid scripts st.db.nextScriptId st.resolvedScriptId } := by
  induction scripts generalizing st with
  | nil => simp [numbered]
  | cons s scripts ih =>
      have hturn : importScript genUuid tenantId [] resolutions st s =
          { st with
            db := insertScript genUuid tenantId st.db s.name s
            resolvedScriptId := st.resolvedScriptId.set s.uuid st.db.nextScriptId } := by
        rw [importScript, if_neg (huuid s (.head _))]
        rfl
      rw [List.foldl_cons, hturn, ih fun s' hs' => huuid s' (.tail _ hs')]
      simp [insertScript, numbered_cons, List.zipIdx_cons, Nat.add_comm, Nat.add_left_comm]

theorem importNodes_eq (scenarioId : ℕ) (nodes : List NodeEntry) (st : ImportState) :
    nodes.foldl (importNode genUuid scenarioId) st =
      { st with
        db :=
          { st.db with
            nodes := st.db.nodes ++ (nodes.zipIdx st.db.nextNodeId).map fun p =>
              insertedNode genUuid st.resolvedScriptId scenarioId p.2 p.1
            nextNodeId := st.db.nextNodeId + nodes.length }
        nodeIdByClientId := numbered NodeEntry.clientId nodes st.db.nextNodeId st.nodeIdByClientId } := by
  induction nodes generalizing st with
  | nil => simp [numbered]
  | cons n nodes ih =>
      rw [List.foldl_cons, ih]
      simp [importNode, numbered_cons, List.zipIdx_cons, Nat.add_comm, Nat.add_left_comm]

/-- The row of an edge whose ends both have an id. -/
def insertedEdge (nodeIds : JsMap String ℕ) (scenarioId id : ℕ) (e : EdgeEntry) : EdgeRow where
  id := id
  scenarioId := scenarioId
  sourceNodeId := (nodeIdOf nodeIds e.sourceNodeClientId).getD 0
  sourceHandle := e.sourceHandle
  targetNodeId := (nodeIdOf nodeIds e.targetNodeClientId).getD 0
  condition := e.condition.orElse (.obj "\x7b\"kind\":\"always\"\x7d")
  sortOrder := e.sortOrder

/-- Edges whose ends are all resolved are all inserted. -/
theorem importEdges_eq (scenarioId : ℕ) {edges : List EdgeEntry} (st : ImportState)
    (hends : ∀ e ∈ edges, (nodeIdOf st.nodeIdByClientId e.sourceNodeClientId).isSome ∧
      (nodeIdOf st.nodeIdByClientId e.targetNodeClientId).isSome) :
    edges.foldl (importEdge scenarioId) st =
      { st with
        db :=
          { st.db with
            edges := st.db.edges ++ (edges.zipIdx st.db.nextEdgeId).map fun p =>
              insertedEdge st.nodeIdByClientId scenarioId p.2 p.1
            nextEdgeId := st.db.nextEdgeId + edges.length } } := by
  induction edges generalizing st with
  | nil => simp
  | cons e edges ih =>
      obtain ⟨hsource, htarget⟩ := hends e (.head _)
      obtain ⟨sourceId, hs⟩ := Option.isSome_iff_exists.1 hsource
      obtain ⟨targetId, ht⟩ := Option.isSome_iff_exists.1 htarget
      have hturn : importEdge scenarioId st e =
          { st with
            db :=
              { st.db with
                edges := st.db.edges ++ [insertedEdge st.nodeIdByClientId scenarioId st.db.nextEdgeId e]
                nextEdgeId := st.db.nextEdgeId + 1 } } := by
        simp [importEdge, insertedEdge, hs, ht]
      rw [List.foldl_cons, hturn]
      refine (ih _ ?_).trans ?_
      · exact fun e' he' => hends e' (.tail _ he')
      · simp [List.zipIdx_cons, Nat.add_comm, Nat.add_left_comm]

/-- The state behind the loop of the edges. -/
def graphDone (genUuid : ℕ → String) (tenantId : ℕ) (dst : Tables) (payload : Payload) : ImportState :=
  let scripts := payload.scripts.getD []
  let resolved := numbered ScriptEntry.uuid scripts dst.nextScriptId []
  let nodeIds := numbered NodeEntry.clientId payload.nodes dst.nextNodeId []
  { db :=
      { dst with
        scripts := dst.scripts ++ (scripts.zipIdx dst.nextScriptId).map fun p =>
          insertedScript genUuid tenantId p.2 p.1.name p.1
        parameters := dst.parameters ++ (scripts.zipIdx dst.nextScriptId).flatMap fun p =>
          p.1.parameters.zipIdx.map fun q => insertedParameter p.2 q.2 q.1
        nextScriptId := dst.nextScriptId + scripts.length
        scenarios := dst.scenarios ++ [insertedScenario genUuid tenantId dst.nextScenarioId payload.scenario]
        nextScenarioId := dst.nextScenarioId + 1
        nodes := dst.nodes ++ (payload.nodes.zipIdx dst.nextNodeId).map fun p =>
          insertedNode genUuid resolved dst.nextScenarioId p.2 p.1
        nextNodeId := dst.nextNodeId + payload.nodes.length
        edges := dst.edges ++ (payload.edges.zipIdx dst.nextEdgeId).map fun p =>
          insertedEdge nodeIds dst.nextScenarioId p.2 p.1
        nextEdgeId := dst.nextEdgeId + payload.edges.length }
    resolvedScriptId := resolved
    nodeIdByClientId := nodeIds
    scheduleIds := [] }

/-- **The transaction without a conflict**: the graph, and the loop of the schedules. -/
theorem commitImport_eq (resolutions : JsMap String Resolution) (dst : Tables) {payload : Payload}
    (huuid : ∀ s ∈ payload.scripts.getD [], s.uuid ≠ "")
    (hends : ∀ e ∈ payload.edges,
      (nodeIdOf (numbered NodeEntry.clientId payload.nodes dst.nextNodeId []) e.sourceNodeClientId).isSome ∧
        (nodeIdOf (numbered NodeEntry.clientId payload.nodes dst.nextNodeId []) e.targetNodeClientId).isSome) :
    commitImport genUuid tenantId dst payload [] resolutions =
      (importSchedules genUuid tenantId dst.nextScenarioId (payload.schedules.getD [])
        (graphDone genUuid tenantId dst payload)).map fun st =>
          ⟨st, insertedScenario genUuid tenantId dst.nextScenarioId payload.scenario⟩ := by
  unfold commitImport
  rw [importScripts_eq genUuid tenantId resolutions huuid ⟨dst, [], [], []⟩]
  dsimp only
  rw [importNodes_eq, importEdges_eq dst.nextScenarioId _ hends]
  rfl

end

/-! ## Schedules -/

/-- A `scheduleId` after the schedules that run the given scripts were inserted, the first of them with id
`next`: each update compares it with the script of the schedule. None when a cast fails. -/
def retarget : List ℕ → ℕ → Option JsVal → Option (Option JsVal)
  | [], _, v => some v
  | scriptId :: rest, next, v =>
      (castInt4 v).bind fun number =>
        retarget rest (next + 1) (if number = some (scriptId : ℤ) then some (.num next) else v)

theorem castInt4_natCast {k : ℕ} (hk : (k : ℤ) ≤ int4Max) : castInt4 (some (.num k)) = some (some (k : ℤ)) := by
  have hlow : -int4Max - 1 ≤ (k : ℤ) := by
    unfold int4Max
    omega
  exact if_pos ⟨rfl, hlow, hk⟩

/-- A node after all these updates. -/
def NodeRow.retargeted (n : NodeRow) (scenarioId : ℕ) (scripts : List ℕ) (next : ℕ) : NodeRow :=
  if n.scenarioId = scenarioId then
    n.withScheduleId ((retarget scripts next (n.config "scheduleId")).getD none)
  else n

/-- A node after one update. -/
def NodeRow.patched (n : NodeRow) (scenarioId number scheduleId : ℕ) : NodeRow :=
  if n.refersTo scenarioId number then n.setScheduleId scheduleId else n

section
variable {scenarioId number next : ℕ} {rest : List ℕ} {n : NodeRow}

theorem retargeted_nil : n.retargeted scenarioId [] next = n := by
  unfold NodeRow.retargeted
  split_ifs
  · rw [retarget, Option.getD_some, NodeRow.withScheduleId, Function.update_eq_self]
  · rfl

theorem scenarioId_patched : (n.patched scenarioId number next).scenarioId = n.scenarioId := by
  unfold NodeRow.patched
  split_ifs <;> rfl

theorem scheduleId_patched (hn : n.scenarioId = scenarioId) :
    (n.patched scenarioId number next).config "scheduleId" =
      if castInt4 (n.config "scheduleId") = some (some (number : ℤ)) then some (.num next)
        else n.config "scheduleId" := by
  unfold NodeRow.patched NodeRow.refersTo
  by_cases hcast : castInt4 (n.config "scheduleId") = some (some (number : ℤ))
  · rw [if_pos (by simp [hn, hcast]), if_pos hcast]
    simp [NodeRow.setScheduleId]
  · rw [if_neg (by simp [hcast]), if_neg hcast]

/-- Whatever an update makes of the key, writing the key again leaves no trace of it. -/
theorem withScheduleId_patched (v : Option JsVal) :
    (n.patched scenarioId number next).withScheduleId v = n.withScheduleId v := by
  unfold NodeRow.patched
  split_ifs
  · simp only [NodeRow.setScheduleId, NodeRow.withScheduleId, Function.update_idem]
  · rfl

theorem retarget_patched (hn : n.scenarioId = scenarioId)
    (hcast : (castInt4 (n.config "scheduleId")).isSome) :
    retarget (number :: rest) next (n.config "scheduleId") =
      retarget rest (next + 1) ((n.patched scenarioId number next).config "scheduleId") := by
  obtain ⟨v, hv⟩ := Option.isSome_iff_exists.1 hcast
  rw [retarget, hv, Option.bind_some, scheduleId_patched hn, hv]
  simp only [Option.some.injEq]

/-- The updates one after the other. -/
theorem retargeted_cons (hcast : n.scenarioId = scenarioId → (castInt4 (n.config "scheduleId")).isSome) :
    n.retargeted scenarioId (number :: rest) next =
      (n.patched scenarioId number next).retargeted scenarioId rest (next + 1) := by
  unfold NodeRow.retargeted
  rw [scenarioId_patched]
  by_cases hn : n.scenarioId = scenarioId
  · rw [if_pos hn, if_pos hn, retarget_patched hn (hcast hn), withScheduleId_patched]
  · rw [if_neg hn, if_neg hn, NodeRow.patched, if_neg (by simp [NodeRow.refersTo, hn])]

/-- The casts of all the updates of a node go through. -/
def NodeRow.Castable (n : NodeRow) (scenarioId : ℕ) (scripts : List ℕ) (next : ℕ) : Prop :=
  n.scenarioId = scenarioId → (retarget scripts next (n.config "scheduleId")).isSome

theorem castable_cons : n.Castable scenarioId (number :: rest) next ↔
    (n.scenarioId = scenarioId → (castInt4 (n.config "scheduleId")).isSome) ∧
      (n.patched scenarioId number next).Castable scenarioId rest (next + 1) := by
  unfold NodeRow.Castable
  rw [scenarioId_patched]
  by_cases hn : n.scenarioId = scenarioId
  · simp only [hn, true_implies]
    by_cases hcast : (castInt4 (n.config "scheduleId")).isSome
    · rw [retarget_patched hn hcast]
      exact ⟨fun h => ⟨hcast, h⟩, And.right⟩
    · rw [Option.not_isSome_iff_eq_none] at hcast
      rw [retarget, hcast]
      simp
  · simp [hn]

theorem patchNodes_eq_some_iff {nodes nodes' : List NodeRow} :
    patchNodes scenarioId number next nodes = some nodes' ↔
      (∀ n ∈ nodes, n.scenarioId = scenarioId → (castInt4 (n.config "scheduleId")).isSome) ∧
        nodes' = nodes.map fun n => n.patched scenarioId number next := by
  unfold patchNodes
  split_ifs with hall
  · rw [List.all_eq_true] at hall
    rw [Option.some.injEq]
    constructor
    · rintro rfl
      exact ⟨fun n hn => of_decide_eq_true (hall n hn), rfl⟩
    · exact fun h => h.2.symm
  · rw [List.all_eq_true] at hall
    simp only [false_iff, not_and]
    intro hcast
    exact absurd (fun n hn => decide_eq_true (hcast n hn)) hall

end

/-! ## The loop of the schedules -/

section
variable (genUuid : ℕ → String) (tenantId : ℕ) {src : Tables} {id scenarioId : ℕ}

/-- The script that the schedule made from a row runs. -/
def importedScript (src : Tables) (id : ℕ) (resolved : JsMap String ℕ) (r : ScheduleRow) : ℕ :=
  (scheduleScript resolved (r.entry src id)).getD r.scriptId

theorem scheduleScript_entry (resolved : JsMap String ℕ) (r : ScheduleRow) :
    scheduleScript resolved (r.entry src id) = some (importedScript src id resolved r) := by
  unfold importedScript scheduleScript
  rw [show (r.entry src id).scriptId = some r.scriptId from rfl, Option.or_some, Option.getD_some]

/-- The tables after the schedules of an export were inserted. -/
def schedulesDone (src : Tables) (id scenarioId : ℕ) (st : ImportState) (rows : List ScheduleRow) : ImportState :=
  { st with
    db :=
      { st.db with
        nodes := st.db.nodes.map fun n =>
          n.retargeted scenarioId (rows.map ScheduleRow.scriptId) st.db.nextScheduleId
        schedules := st.db.schedules ++ (rows.zipIdx st.db.nextScheduleId).map fun p =>
          insertedSchedule genUuid tenantId p.2 (importedScript src id st.resolvedScriptId p.1) scenarioId
            (p.1.entry src id)
        nextScheduleId := st.db.nextScheduleId + rows.length }
    scheduleIds := numbered ScheduleRow.uuid rows st.db.nextScheduleId st.scheduleIds }

/-- The state after the turn of one schedule. -/
def scheduleDone (src : Tables) (id scenarioId : ℕ) (st : ImportState) (r : ScheduleRow) : ImportState :=
  { st with
    db :=
      { st.db with
        nodes := st.db.nodes.map fun n => n.patched scenarioId r.scriptId st.db.nextScheduleId
        schedules := st.db.schedules ++
          [insertedSchedule genUuid tenantId st.db.nextScheduleId (importedScript src id st.resolvedScriptId r)
            scenarioId (r.entry src id)]
        nextScheduleId := st.db.nextScheduleId + 1 }
    scheduleIds := st.scheduleIds.set r.uuid st.db.nextScheduleId }

theorem importSchedule_iff {st st' : ImportState} {r : ScheduleRow} :
    importSchedule genUuid tenantId scenarioId st (r.entry src id) = some st' ↔
      (∃ s ∈ st.db.scripts, s.id = importedScript src id st.resolvedScriptId r) ∧
        (∀ n ∈ st.db.nodes, n.scenarioId = scenarioId → (castInt4 (n.config "scheduleId")).isSome) ∧
        st' = scheduleDone genUuid tenantId src id scenarioId st r := by
  have hkey : (get ScriptRow.id st.db.scripts (importedScript src id st.resolvedScriptId r)).isSome ↔ _ :=
    get_isSome_iff
  rw [importSchedule, scheduleScript_entry]
  dsimp only
  by_cases hscript : (get ScriptRow.id st.db.scripts (importedScript src id st.resolvedScriptId r)).isSome
  · rw [if_neg (by rwa [Option.isNone_iff_eq_none, ← Option.not_isSome_iff_eq_none, not_not])]
    rw [show (r.entry src id).scriptId = some r.scriptId from rfl]
    simp only [Option.map_eq_some_iff, patchNodes_eq_some_iff]
    constructor
    · rintro ⟨nodes, ⟨hcast, rfl⟩, rfl⟩
      exact ⟨hkey.1 hscript, hcast, rfl⟩
    · rintro ⟨-, hcast, rfl⟩
      exact ⟨_, ⟨hcast, rfl⟩, rfl⟩
  · rw [if_pos (by rwa [Option.isNone_iff_eq_none, ← Option.not_isSome_iff_eq_none])]
    constructor
    · intro h
      cases h
    · exact fun h => absurd (hkey.2 h.1) hscript

/-- **The loop of the schedules**: every foreign key and every cast has to go through. -/
theorem importSchedules_iff {rows : List ScheduleRow} {st st' : ImportState} :
    importSchedules genUuid tenantId scenarioId (rows.map (ScheduleRow.entry src id)) st = some st' ↔
      (∀ r ∈ rows, ∃ s ∈ st.db.scripts, s.id = importedScript src id st.resolvedScriptId r) ∧
        (∀ n ∈ st.db.nodes, n.Castable scenarioId (rows.map ScheduleRow.scriptId) st.db.nextScheduleId) ∧
        st' = schedulesDone genUuid tenantId src id scenarioId st rows := by
  induction rows generalizing st with
  | nil =>
      rw [List.map_nil, importSchedules, Option.some.injEq]
      simp [schedulesDone, NodeRow.Castable, retarget, retargeted_nil, numbered, eq_comm]
  | cons r rows ih =>
      rw [List.map_cons, importSchedules, Option.bind_eq_some_iff]
      have hnext : ∀ n ∈ st.db.nodes, (n.scenarioId = scenarioId → (castInt4 (n.config "scheduleId")).isSome) →
          (n.patched scenarioId r.scriptId st.db.nextScheduleId).retargeted scenarioId
              (rows.map ScheduleRow.scriptId) (st.db.nextScheduleId + 1) =
            n.retargeted scenarioId ((r :: rows).map ScheduleRow.scriptId) st.db.nextScheduleId :=
        fun n _ hcast => (retargeted_cons hcast).symm
      have hdone : (∀ n ∈ st.db.nodes, n.scenarioId = scenarioId → (castInt4 (n.config "scheduleId")).isSome) →
          schedulesDone genUuid tenantId src id scenarioId
              (scheduleDone genUuid tenantId src id scenarioId st r) rows =
            schedulesDone genUuid tenantId src id scenarioId st (r :: rows) := by
        intro hcast
        have hnodes : (scheduleDone genUuid tenantId src id scenarioId st r).db.nodes.map (fun n =>
              n.retargeted scenarioId (rows.map ScheduleRow.scriptId) (st.db.nextScheduleId + 1)) =
            st.db.nodes.map fun n =>
              n.retargeted scenarioId ((r :: rows).map ScheduleRow.scriptId) st.db.nextScheduleId := by
          rw [scheduleDone, List.map_map]
          exact List.map_congr_left fun n hn => hnext n hn (hcast n hn)
        rw [schedulesDone, schedulesDone, ← hnodes]
        simp [scheduleDone, List.zipIdx_cons, numbered_cons, Nat.add_comm, Nat.add_left_comm]
      constructor
      · rintro ⟨st₁, hturn, hrest⟩
        obtain ⟨hscript, hcast, rfl⟩ := (importSchedule_iff genUuid tenantId).1 hturn
        obtain ⟨hscripts, hcasts, rfl⟩ := ih.1 hrest
        refine ⟨List.forall_mem_cons.2 ⟨hscript, hscripts⟩, fun n hn => ?_, hdone hcast⟩
        exact castable_cons.2 ⟨hcast n hn, hcasts _ (List.mem_map_of_mem hn)⟩
      · rintro ⟨hscripts, hcasts, rfl⟩
        have hcast := fun n hn => (castable_cons.1 (hcasts n hn)).1
        refine ⟨scheduleDone genUuid tenantId src id scenarioId st r, ?_, ?_⟩
        · exact (importSchedule_iff genUuid tenantId).2 ⟨hscripts r (.head _), hcast, rfl⟩
        · refine ih.2 ⟨fun r' hr' => hscripts r' (.tail _ hr'), ?_, (hdone hcast).symm⟩
          intro n hn
          obtain ⟨n₀, hn₀, rfl⟩ := List.mem_map.1 hn
          exact (castable_cons.1 (hcasts n₀ hn₀)).2

end

end Obliance.Portability

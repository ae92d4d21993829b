import Obliance.Lib.Numbering
import Obliance.Portability.Import

/-!
# The validation of an export

* `checkNode_eq` : the turn of a node with a client id of its own;
* `issues_checkNodes`, `triggerCount_checkNodes` : what the loop finds;
* `validate_iff` : which exports the validation accepts.
-/

namespace Obliance.Portability
open KeyedTable Numbering

/-- Nodes with client ids of their own, none of them in `seen`, whose scripts are given by number. -/
structure WellNamed (seen : List String) (nodes : List NodeEntry) : Prop where
  clientId : ∀ n ∈ nodes, n.clientId ≠ ""
  nodup : (seen ++ nodes.map NodeEntry.clientId).Nodup
  script : ∀ n ∈ nodes, isRunScript n.type = true → isNumber (n.config "scriptId") = true

section
variable {n : NodeEntry} {nodes : List NodeEntry} {st : NodeCheck}

theorem WellNamed.tail {seen : List String} (h : WellNamed seen (n :: nodes)) :
    WellNamed (seen ++ [n.clientId]) nodes where
  clientId := fun m hm => h.clientId m (.tail _ hm)
  nodup := by simpa [List.append_assoc] using h.nodup
  script := fun m hm => h.script m (.tail _ hm)

theorem WellNamed.not_mem {seen : List String} (h : WellNamed seen (n :: nodes)) : n.clientId ∉ seen := by
  intro hmem
  exact (List.nodup_append.1 h.nodup).2.2 _ hmem _ (by simp) rfl

/-- The turn of such a node only looks at its type. -/
theorem checkNode_eq (h : WellNamed st.seenClientIds (n :: nodes)) (i : ℕ) :
    checkNode st i n =
      if n.type ∈ VALID_NODE_TYPES then
        { st with
          seenClientIds := st.seenClientIds ++ [n.clientId]
          triggerCount := if isTrigger n.type then st.triggerCount + 1 else st.triggerCount }
      else
        { st with
          seenClientIds := st.seenClientIds ++ [n.clientId]
          issues := st.issues ++ [unknownType (whereOf "node" n.clientId i) n.type] } := by
  have hscript : ¬ (isRunScript n.type = true ∧ ¬ isNumber (n.config "scriptId") = true ∧
      ¬ isText (n.config "scriptUuid") = true) := fun hbad => hbad.2.1 (h.script n (.head _) hbad.1)
  unfold checkNode
  dsimp only
  rw [if_neg (h.clientId n (.head _)), if_neg h.not_mem, if_neg hscript]
  by_cases hvalid : n.type ∈ VALID_NODE_TYPES
  · rw [if_neg (not_not.2 hvalid), if_pos hvalid]
    split_ifs <;> rfl
  · rw [if_pos hvalid, if_neg hvalid]

theorem seenClientIds_checkNode (h : WellNamed st.seenClientIds (n :: nodes)) (i : ℕ) :
    (checkNode st i n).seenClientIds = st.seenClientIds ++ [n.clientId] := by
  rw [checkNode_eq h]
  split_ifs <;> rfl

theorem seenClientIds_checkNodes (h : WellNamed st.seenClientIds nodes) (i : ℕ) :
    (checkNodes nodes i st).seenClientIds = st.seenClientIds ++ nodes.map NodeEntry.clientId := by
  induction nodes generalizing st i with
  | nil => simp [checkNodes]
  | cons n nodes ih =>
      have hseen := seenClientIds_checkNode h i
      rw [checkNodes, ih (by rw [hseen]; exact h.tail), hseen]
      simp

theorem issues_checkNodes (h : WellNamed st.seenClientIds nodes) (i : ℕ) :
    (checkNodes nodes i st).issues = [] ↔ st.issues = [] ∧ ∀ n ∈ nodes, n.type ∈ VALID_NODE_TYPES := by
  induction nodes generalizing st i with
  | nil => simp [checkNodes]
  | cons n nodes ih =>
      have hseen := seenClientIds_checkNode h i
      rw [checkNodes, ih (by rw [hseen]; exact h.tail), checkNode_eq h, List.forall_mem_cons]
      by_cases hvalid : n.type ∈ VALID_NODE_TYPES
      · simp [hvalid]
      · simp [hvalid]

theorem triggerCount_checkNodes (h : WellNamed st.seenClientIds nodes) (i : ℕ)
    (hvalid : ∀ n ∈ nodes, n.type ∈ VALID_NODE_TYPES) :
    (checkNodes nodes i st).triggerCount = 0 ↔
      st.triggerCount = 0 ∧ ∀ n ∈ nodes, isTrigger n.type = false := by
  induction nodes generalizing st i with
  | nil => simp [checkNodes]
  | cons n nodes ih =>
      have hseen := seenClientIds_checkNode h i
      rw [checkNodes, ih (by rw [hseen]; exact h.tail) _ fun m hm => hvalid m (.tail _ hm), checkNode_eq h,
        if_pos (hvalid n (.head _)), List.forall_mem_cons]
      cases htrigger : isTrigger n.type with
      | true => simp
      | false => simp

end

section
variable {src : Tables} {tenantId id : ℕ}

/-- The ends of an exported edge are nodes of the graph. -/
theorem ends_entry (hsrc : src.Schema) {e : EdgeRow} (he : e ∈ edgeRows src id) :
    ∃ n ∈ nodeRows src id, ∃ m ∈ nodeRows src id, n.id = e.sourceNodeId ∧ m.id = e.targetNodeId ∧
      (e.entry (nodeRows src id)).sourceNodeClientId = some n.uuid ∧
      (e.entry (nodeRows src id)).targetNodeClientId = some m.uuid := by
  obtain ⟨he, hid⟩ := mem_edgeRows.1 he
  obtain ⟨n, hn, hnid, hns⟩ := hsrc.edgeSource e he
  obtain ⟨m, hm, hmid, hms⟩ := hsrc.edgeTarget e he
  have hn : n ∈ nodeRows src id := mem_nodeRows.2 ⟨hn, hns.trans hid⟩
  have hm : m ∈ nodeRows src id := mem_nodeRows.2 ⟨hm, hms.trans hid⟩
  refine ⟨n, hn, m, hm, hnid, hmid, ?_, ?_⟩
  · rw [EdgeRow.entry, (get_eq_some_iff (keyed_nodeRows hsrc)).2 ⟨hn, hnid⟩]
    rfl
  · rw [EdgeRow.entry, (get_eq_some_iff (keyed_nodeRows hsrc)).2 ⟨hm, hmid⟩]
    rfl

theorem wellNamed_entries (hsrc : src.Schema)
    (hscripts : ∀ n ∈ nodeRows src id, isRunScript n.type = true → isNumber (n.config "scriptId") = true) :
    WellNamed [] ((nodeRows src id).map NodeRow.entry) where
  clientId := by
    intro e he
    obtain ⟨n, hn, rfl⟩ := List.mem_map.1 he
    exact hsrc.nodeUuid n (mem_nodeRows.1 hn).1
  nodup := by
    rw [List.nil_append, List.map_map]
    exact keyed_nodeRows_uuid hsrc
  script := by
    intro e he
    obtain ⟨n, hn, rfl⟩ := List.mem_map.1 he
    exact hscripts n hn

theorem edgeIssues_entry (hsrc : src.Schema) {e : EdgeRow} (he : e ∈ edgeRows src id) (i : ℕ) :
    edgeIssues ((nodeRows src id).map NodeRow.uuid) i (e.entry (nodeRows src id)) = [] := by
  obtain ⟨n, hn, m, hm, -, -, hsource, htarget⟩ := ends_entry hsrc he
  have hvalid : ∀ n ∈ nodeRows src id, n.uuid ≠ "" ∧ n.uuid ∈ (nodeRows src id).map NodeRow.uuid :=
    fun n hn => ⟨hsrc.nodeUuid n (mem_nodeRows.1 hn).1, List.mem_map_of_mem hn⟩
  simp only [edgeIssues, hsource, htarget, Option.any_some, decide_eq_true (hvalid n hn),
    decide_eq_true (hvalid m hm), if_true, List.append_nil]

theorem scriptIssues_entry {s : ScriptRow} (hs : s.uuid ≠ "") (i : ℕ) :
    scriptIssues i (s.entry src) = [] ↔ s.name ≠ "" ∧ s.content ≠ "" := by
  have hif : ∀ (p : Prop) [Decidable p] (m : String), (if p then [m] else []) = [] ↔ ¬ p := by
    intro p _ m
    split_ifs with hp <;> simp [hp]
  rw [scriptIssues, List.append_eq_nil_iff, List.append_eq_nil_iff, hif, hif, hif]
  exact ⟨fun h => ⟨h.1.2, h.2⟩, fun h => ⟨⟨hs, h.1⟩, h.2⟩⟩

/-- **Which exports the validation accepts.** -/
theorem issues_eq_nil_iff (hsrc : src.Schema) {scenario : ScenarioRow}
    (hscripts : ∀ n ∈ nodeRows src scenario.id, isRunScript n.type = true → isNumber (n.config "scriptId") = true) :
    issues (payloadOf src tenantId scenario true) = [] ↔
      (∀ n ∈ nodeRows src scenario.id, n.type ∈ VALID_NODE_TYPES) ∧
        (∃ n ∈ nodeRows src scenario.id, isTrigger n.type = true) ∧
        ∀ s ∈ exportedScripts src tenantId (nodeRows src scenario.id), s.name ≠ "" ∧ s.content ≠ "" := by
  have hnamed := wellNamed_entries hsrc hscripts
  have hseen := @seenClientIds_checkNodes _ ⟨[], [], 0⟩ hnamed 0
  have hissues := @issues_checkNodes _ ⟨[], [], 0⟩ hnamed 0
  have hcount := @triggerCount_checkNodes _ ⟨[], [], 0⟩ hnamed 0
  rw [List.nil_append, List.map_map] at hseen
  have hedges : ((edgeRows src scenario.id).map (EdgeRow.entry (nodeRows src scenario.id))).zipIdx.flatMap
      (fun p => edgeIssues ((nodeRows src scenario.id).map NodeRow.uuid) p.2 p.1) = [] := by
    rw [List.flatMap_eq_nil_iff]
    intro p hp
    obtain ⟨e, he, heq⟩ := List.mem_map.1 (List.fst_mem_of_mem_zipIdx hp)
    rw [← heq]
    exact edgeIssues_entry hsrc he p.2
  have hembedded : ((exportedScripts src tenantId (nodeRows src scenario.id)).map (ScriptRow.entry src)).zipIdx.flatMap
      (fun p => scriptIssues p.2 p.1) = [] ↔
        ∀ s ∈ exportedScripts src tenantId (nodeRows src scenario.id), s.name ≠ "" ∧ s.content ≠ "" := by
    rw [List.flatMap_eq_nil_iff]
    have hiff : ∀ p ∈ ((exportedScripts src tenantId (nodeRows src scenario.id)).map (ScriptRow.entry src)).zipIdx,
        scriptIssues p.2 p.1 = [] ↔ p.1.name ≠ "" ∧ p.1.content ≠ "" := by
      intro p hp
      obtain ⟨s, hs, heq⟩ := List.mem_map.1 (List.fst_mem_of_mem_zipIdx hp)
      rw [← heq]
      exact scriptIssues_entry (hsrc.scriptUuid s (List.mem_filter.1 hs).1) p.2
    rw [forall₂_congr hiff, forall_zipIdx_iff (p := fun s : ScriptEntry => s.name ≠ "" ∧ s.content ≠ ""),
      List.forall_mem_map]
    rfl
  have htypes : (∀ e ∈ (nodeRows src scenario.id).map NodeRow.entry, e.type ∈ VALID_NODE_TYPES) ↔
      ∀ n ∈ nodeRows src scenario.id, n.type ∈ VALID_NODE_TYPES := List.forall_mem_map
  unfold issues payloadOf
  dsimp only
  rw [if_pos rfl, Option.getD_some, List.append_eq_nil_iff, List.append_eq_nil_iff, List.append_eq_nil_iff, hissues,
    hseen]
  rw [show NodeEntry.clientId ∘ NodeRow.entry = NodeRow.uuid from rfl, hedges, hembedded, htypes]
  constructor
  · rintro ⟨⟨⟨⟨-, hvalid⟩, htrigger⟩, -⟩, hembedded⟩
    refine ⟨hvalid, ?_, hembedded⟩
    by_contra hnone
    push Not at hnone
    rw [if_pos ((hcount (htypes.2 hvalid)).2 ⟨rfl, List.forall_mem_map.2 fun n hn => ?_⟩)] at htrigger
    · cases htrigger
    · exact (Bool.not_eq_true _).mp (hnone n hn)
  · rintro ⟨hvalid, ⟨n, hn, htrigger⟩, hembedded⟩
    refine ⟨⟨⟨⟨rfl, hvalid⟩, if_neg fun hzero => ?_⟩, rfl⟩, hembedded⟩
    have hfalse := ((hcount (htypes.2 hvalid)).1 hzero).2 n.entry (List.mem_map_of_mem hn)
    rw [show n.entry.type = n.type from rfl, htrigger] at hfalse
    cases hfalse

/-- The validation as a whole. -/
theorem validate_iff (hsrc : src.Schema) {scenario : ScenarioRow}
    (hscripts : ∀ n ∈ nodeRows src scenario.id, isRunScript n.type = true → isNumber (n.config "scriptId") = true) :
    validate (payloadOf src tenantId scenario true) = .ok () ↔
      scenario.name ≠ "" ∧ (∀ n ∈ nodeRows src scenario.id, n.type ∈ VALID_NODE_TYPES) ∧
        (∃ n ∈ nodeRows src scenario.id, isTrigger n.type = true) ∧
        ∀ s ∈ exportedScripts src tenantId (nodeRows src scenario.id), s.name ≠ "" ∧ s.content ≠ "" := by
  have hissues : issues (payloadOf src tenantId scenario true) = [] ↔ _ := issues_eq_nil_iff hsrc hscripts
  unfold validate
  rw [show (payloadOf src tenantId scenario true).scenario.name = scenario.name from rfl]
  by_cases hname : scenario.name = ""
  · rw [if_pos hname]
    simp [hname]
  · rw [if_neg hname]
    by_cases hnodes : (payloadOf src tenantId scenario true).nodes = []
    · rw [if_pos hnodes]
      have hnil : nodeRows src scenario.id = [] := List.map_eq_nil_iff.1 hnodes
      simp [hnil]
    · rw [if_neg hnodes]
      cases hfound : issues (payloadOf src tenantId scenario true) with
      | nil => exact iff_of_true rfl ⟨hname, hissues.1 hfound⟩
      | cons m ms =>
          refine iff_of_false (fun h => by cases h) fun h => ?_
          rw [hissues.2 h.2] at hfound
          cases hfound

end

end Obliance.Portability

import Mathlib.Data.List.Induction
import Mathlib.Data.List.ReduceOption
import Obliance.Js.Number
import Obliance.Portability.Tables

/-!
# Cooldowns of older exports (`services/scenario.service.ts`, `migrateV1ToV2`)

In the first format a cooldown is a key of a trigger's configuration. The import gives each such trigger a
cooldown node behind it, which takes over the trigger's edges.

* `turn`, `migrateV1ToV2` : the turn of one node, the loop;
* `nodes_migrated`, `edges_migrated` : the lists of the result;
* `GraphPreserved` : what the rewrite keeps;
* `graph_preserved` : it keeps this, but for the key of every trigger.
-/

namespace Obliance.Portability
open Obliance.Js KeyedTable
open Obliance.Scenario (NodeType TriggerType)

/-- A node of a payload, `config` being `none` when it is not an object. -/
structure PayloadNode where
  clientId : String
  type : NodeType
  label : Option String
  config : Option Config
  positionX : Option ℚ
  positionY : Option ℚ

structure PayloadEdge where
  sourceNodeClientId : Option String
  sourceHandle : JsVal
  targetNodeClientId : Option String
  condition : JsVal
  sortOrder : JsVal
  deriving DecidableEq, Repr

/-- The keys of a payload the rewrite touches. An entry that is not an object is `none`. -/
structure ImportPayload where
  formatVersion : ℕ
  nodes : List (Option PayloadNode)
  edges : List (Option PayloadEdge)

/-- `triggerTypes.has(n.type)` -/
def isTriggerType : NodeType → Bool
  | .trigger _ => true
  | _ => false

/-- `(n.config && typeof n.config === 'object') ? { ...n.config } : {}` -/
def PayloadNode.cfg (n : PayloadNode) : Config := n.config.getD fun _ => none

/-- `delete cfg.cooldownSeconds; n.config = cfg` -/
def PayloadNode.dropCooldown (n : PayloadNode) : PayloadNode :=
  { n with config := some (Function.update n.cfg "cooldownSeconds" none) }

/-- `Number(cfg.cooldownSeconds)` -/
def PayloadNode.seconds (n : PayloadNode) : Option ℚ := ((n.cfg "cooldownSeconds").getD .undefined).toNumber

def cdId (clientId : String) : String := clientId ++ "__cooldown_v1mig"

def cooldownNode (n : PayloadNode) (seconds : ℚ) : PayloadNode where
  clientId := cdId n.clientId
  type := .cooldown
  label := some "Cooldown (v1-migrated)"
  config := some fun key =>
    if key = "duration" then some (.num seconds) else if key = "unit" then some (.str "seconds") else none
  positionX := some (n.positionX.getD 0 + 200)
  positionY := some (n.positionY.getD 0)

/-- The edge from the trigger to its cooldown node. -/
def bridge (n : PayloadNode) : PayloadEdge where
  sourceNodeClientId := some n.clientId
  sourceHandle := .undefined
  targetNodeClientId := some (cdId n.clientId)
  condition := .obj "\x7b\"kind\":\"always\"\x7d"
  sortOrder := .undefined

def repoint (n : PayloadNode) (e : PayloadEdge) : PayloadEdge :=
  if e.sourceNodeClientId = some n.clientId then { e with sourceNodeClientId := some (cdId n.clientId) } else e

/-- The nodes the loop has passed, the nodes it has appended, and the edges. -/
structure Rewriting where
  nodes : List (Option PayloadNode)
  appended : List (Option PayloadNode)
  edges : List (Option PayloadEdge)

/-- The turn of one node. -/
def turn (st : Rewriting) : Option PayloadNode → Rewriting
  | none => { st with nodes := st.nodes ++ [none] }
  | some n =>
      if !isTriggerType n.type then { st with nodes := st.nodes ++ [some n] }
      else
        match n.seconds.filter (0 < ·) with
        | none => { st with nodes := st.nodes ++ [some n.dropCooldown] }
        | some seconds =>
            { nodes := st.nodes ++ [some n.dropCooldown]
              appended := st.appended ++ [some (cooldownNode n seconds)]
              edges := st.edges.map (Option.map (repoint n)) ++ [some (bridge n)] }

/-- The loop also passes the nodes it appends, which are no triggers (`turn_appended`). -/
def migrateV1ToV2 (payload : ImportPayload) : ImportPayload :=
  let st := payload.nodes.foldl turn ⟨[], [], payload.edges⟩
  { formatVersion := 2, nodes := st.nodes ++ st.appended, edges := st.edges }

theorem turn_appended (st : Rewriting) (n : PayloadNode) (seconds : ℚ) :
    turn st (some (cooldownNode n seconds)) = { st with nodes := st.nodes ++ [some (cooldownNode n seconds)] } :=
  rfl

/-! ## The lists of the result -/

/-- A trigger loses the key. -/
def strip (n : PayloadNode) : PayloadNode := if isTriggerType n.type then n.dropCooldown else n

/-- The positive cooldown of a trigger. -/
def cooldownOf (n : PayloadNode) : Option ℚ := if isTriggerType n.type then n.seconds.filter (0 < ·) else none

/-- The triggers with a positive cooldown, with it. -/
def cooled (nodes : List (Option PayloadNode)) : List (PayloadNode × ℚ) :=
  nodes.reduceOption.filterMap fun n => (cooldownOf n).map fun s => (n, s)

/-- The edge behind the cooldown node, when its source is one of the triggers. -/
def moved (cs : List (PayloadNode × ℚ)) (e : PayloadEdge) : PayloadEdge :=
  match e.sourceNodeClientId with
  | none => e
  | some id =>
      if id ∈ cs.map (fun c => c.1.clientId) then { e with sourceNodeClientId := some (cdId id) } else e

def clientIds (nodes : List (Option PayloadNode)) : List String := nodes.reduceOption.map PayloadNode.clientId

section Lists
variable {nodes : List (Option PayloadNode)} {edges : List (Option PayloadEdge)} {n : PayloadNode} {s : ℚ}

theorem mem_cooled : (n, s) ∈ cooled nodes ↔ some n ∈ nodes ∧ cooldownOf n = some s := by
  simp only [cooled, List.mem_filterMap, Option.map_eq_some_iff, Prod.mk.injEq, List.reduceOption_mem_iff]
  constructor
  · rintro ⟨_, hn, _, hs, rfl, rfl⟩
    exact ⟨hn, hs⟩
  · rintro ⟨hn, hs⟩
    exact ⟨n, hn, s, hs, rfl, rfl⟩

theorem cooled_append (nodes : List (Option PayloadNode)) (n : Option PayloadNode) :
    cooled (nodes ++ [n]) = cooled nodes ++ (n.bind fun n => (cooldownOf n).map fun s => (n, s)).toList := by
  unfold cooled
  rw [List.reduceOption_append, List.filterMap_append]
  cases n with
  | none => rfl
  | some n => cases h : cooldownOf n <;> simp [List.reduceOption, h]

theorem turn_some (st : Rewriting) (n : PayloadNode) :
    turn st (some n) =
      { nodes := st.nodes ++ [some (strip n)]
        appended := st.appended ++ ((cooldownOf n).map fun s => some (cooldownNode n s)).toList
        edges := match cooldownOf n with
          | none => st.edges
          | some _ => st.edges.map (Option.map (repoint n)) ++ [some (bridge n)] } := by
  unfold turn strip cooldownOf
  cases ht : isTriggerType n.type with
  | false => simp [ht]
  | true => cases hs : n.seconds.filter (0 < ·) <;> simp [ht, hs]

/-- The nodes of the result: the old ones without the key, then the cooldown nodes. -/
theorem nodes_foldl (nodes : List (Option PayloadNode)) (edges : List (Option PayloadEdge)) :
    (nodes.foldl turn ⟨[], [], edges⟩).nodes = nodes.map (Option.map strip) ∧
      (nodes.foldl turn ⟨[], [], edges⟩).appended =
        (cooled nodes).map fun c => some (cooldownNode c.1 c.2) := by
  induction nodes using List.reverseRecOn with
  | nil => exact ⟨rfl, rfl⟩
  | append_singleton nodes n ih =>
      rw [List.foldl_append, List.foldl_cons, List.foldl_nil, List.map_append, cooled_append, List.map_append]
      cases n with
      | none => exact ⟨by rw [turn, ih.1]; rfl, by rw [turn, ih.2]; simp⟩
      | some n =>
          rw [turn_some, ih.1, ih.2]
          refine ⟨rfl, ?_⟩
          cases h : cooldownOf n <;> simp [h]

/-- The generated ids of the triggers are no ids of the payload's nodes. -/
def Generated (nodes : List (Option PayloadNode)) : Prop :=
  ∀ c ∈ cooled nodes, cdId c.1.clientId ∉ clientIds nodes

theorem clientId_mem (hn : some n ∈ nodes) : n.clientId ∈ clientIds nodes :=
  List.mem_map_of_mem (List.reduceOption_mem_iff.2 hn)

theorem cooled_clientId_mem {c : PayloadNode × ℚ} (hc : c ∈ cooled nodes) : c.1.clientId ∈ clientIds nodes :=
  clientId_mem (mem_cooled.1 hc).1

theorem moved_snoc {cs : List (PayloadNode × ℚ)} {e : PayloadEdge}
    (hgen : ∀ c ∈ cs, cdId c.1.clientId ≠ n.clientId) :
    repoint n (moved cs e) = moved (cs ++ [(n, s)]) e := by
  unfold moved
  cases he : e.sourceNodeClientId with
  | none => simp [repoint, he]
  | some id =>
      simp only [List.map_append, List.map_singleton, List.mem_append, List.mem_singleton]
      by_cases hin : id ∈ cs.map fun c => c.1.clientId
      · obtain ⟨c, hc, rfl⟩ := List.mem_map.1 hin
        rw [if_pos hin, if_pos (.inl hin), repoint, if_neg fun h => hgen c hc (Option.some.inj h)]
      · by_cases hid : id = n.clientId
        · rw [if_neg hin, if_pos (.inr hid), repoint, he, hid, if_pos rfl]
        · rw [if_neg hin, if_neg (not_or.2 ⟨hin, hid⟩), repoint, he,
            if_neg fun h => hid (Option.some.inj h)]

/-- The edges of the result: the old ones, behind the cooldown nodes where they leave a trigger, then the
bridges. -/
theorem edges_foldl (edges : List (Option PayloadEdge)) (nodes : List (Option PayloadNode))
    (hids : (clientIds nodes).Nodup) (hgen : Generated nodes) :
    (nodes.foldl turn ⟨[], [], edges⟩).edges =
      edges.map (Option.map (moved (cooled nodes))) ++ (cooled nodes).map fun c => some (bridge c.1) := by
  induction nodes using List.reverseRecOn with
  | nil =>
      have hmoved : ∀ e, moved [] e = e := fun e => by unfold moved; cases e.sourceNodeClientId <;> simp
      simp [cooled, show moved [] = id from funext hmoved]
  | append_singleton nodes n ih =>
      have hsplit : clientIds (nodes ++ [n]) = clientIds nodes ++ (n.map PayloadNode.clientId).toList := by
        unfold clientIds
        rw [List.reduceOption_append, List.map_append, List.reduceOption_singleton]
        cases n <;> rfl
      rw [hsplit] at hids
      have hprev := ih (List.nodup_append.1 hids).1 fun c hc hmem =>
        hgen c (by rw [cooled_append]; exact List.mem_append_left _ hc)
          (by rw [hsplit]; exact List.mem_append_left _ hmem)
      rw [List.foldl_append, List.foldl_cons, List.foldl_nil, cooled_append]
      cases n with
      | none => simpa [turn] using hprev
      | some n =>
          rw [turn_some]
          cases hc : cooldownOf n with
          | none => simpa [hc] using hprev
          | some s =>
              have hout : ∀ c ∈ cooled nodes, cdId c.1.clientId ≠ n.clientId := fun c hc' he =>
                hgen c (by rw [cooled_append]; exact List.mem_append_left _ hc')
                  (by rw [hsplit, he]; exact List.mem_append_right _ (by simp))
              have hother : ∀ c ∈ cooled nodes, repoint n (bridge c.1) = bridge c.1 := by
                intro c hc'
                refine if_neg fun he => ?_
                exact (List.nodup_append.1 hids).2.2 _ (cooled_clientId_mem hc') n.clientId (by simp)
                  (Option.some.inj he)
              have hedges : (edges.map (Option.map (moved (cooled nodes)))).map (Option.map (repoint n)) =
                  edges.map (Option.map (moved (cooled nodes ++ [(n, s)]))) := by
                rw [List.map_map]
                refine List.map_congr_left fun e _ => ?_
                rw [Function.comp_apply, Option.map_map]
                exact congrArg (Option.map · e) (funext fun e => moved_snoc hout)
              have hbridges : ((cooled nodes).map fun c => some (bridge c.1)).map (Option.map (repoint n)) =
                  (cooled nodes).map fun c => some (bridge c.1) := by
                rw [List.map_map]
                exact List.map_congr_left fun c hc' => congrArg some (hother c hc')
              simp only [hprev, List.map_append, hedges, hbridges, Option.bind_some, hc, Option.map_some,
                Option.toList_some, List.map_cons, List.map_nil, List.append_assoc]

end Lists

/-! ## What the rewrite keeps -/

/-- The ids of a payload whose rewrite cannot go wrong by a name: they are distinct, and no generated id is the
id of a node or the source of an edge. -/
structure Distinct (p : ImportPayload) : Prop where
  ids : (clientIds p.nodes).Nodup
  generated : Generated p.nodes
  sources : ∀ c ∈ cooled p.nodes, ∀ e ∈ p.edges.reduceOption, e.sourceNodeClientId ≠ some (cdId c.1.clientId)

/-- The edges that leave a node. -/
def outgoing (edges : List (Option PayloadEdge)) (id : String) : List PayloadEdge :=
  edges.reduceOption.filter fun e => e.sourceNodeClientId = some id

/-- The graph behind its new cooldown nodes; `kept` is what becomes of a node that has no positive
cooldown. -/
structure GraphPreserved (kept : PayloadNode → PayloadNode) (p : ImportPayload) : Prop where
  /-- A trigger with a cooldown leads to its cooldown node and nowhere else. -/
  oneEdge : ∀ c ∈ cooled p.nodes, outgoing (migrateV1ToV2 p).edges c.1.clientId = [bridge c.1]
  /-- The cooldown node has the edges of the trigger. -/
  carries : ∀ c ∈ cooled p.nodes, outgoing (migrateV1ToV2 p).edges (cdId c.1.clientId) =
    (outgoing p.edges c.1.clientId).map fun e => { e with sourceNodeClientId := some (cdId c.1.clientId) }
  /-- The nodes, then one cooldown node of its own for each such trigger, with its duration. -/
  nodes : (migrateV1ToV2 p).nodes =
    (p.nodes.map (Option.map fun n => if (cooldownOf n).isSome then n.dropCooldown else kept n)) ++
      (cooled p.nodes).map fun c => some (cooldownNode c.1 c.2)
  /-- Every other edge is where it was. -/
  edges : (migrateV1ToV2 p).edges =
    p.edges.map (Option.map (moved (cooled p.nodes))) ++ (cooled p.nodes).map fun c => some (bridge c.1)
  ids : (clientIds (migrateV1ToV2 p).nodes).Nodup
  edgesOnce : p.edges.reduceOption.Nodup → (migrateV1ToV2 p).edges.reduceOption.Nodup
  again : migrateV1ToV2 (migrateV1ToV2 p) = migrateV1ToV2 p

theorem cdId_inj {a b : String} (h : cdId a = cdId b) : a = b := by
  have hlist := congrArg String.toList h
  simp only [cdId, String.toList_append] at hlist
  exact String.toList_inj.1 (List.append_cancel_right hlist)

section Preserved
variable {p : ImportPayload}

theorem keyed_cooled (h : Distinct p) : Keyed (fun c : PayloadNode × ℚ => c.1.clientId) (cooled p.nodes) := by
  have hsub : ((cooled p.nodes).map fun c => c.1.clientId).Sublist (clientIds p.nodes) := by
    unfold cooled clientIds
    rw [List.map_filterMap]
    induction p.nodes.reduceOption with
    | nil => exact List.Sublist.refl _
    | cons n ns ih =>
        cases hc : cooldownOf n with
        | none => simpa [hc] using ih.cons n.clientId
        | some s => simpa [hc] using ih.cons_cons n.clientId
  exact h.ids.sublist hsub

theorem moved_source (cs : List (PayloadNode × ℚ)) (e : PayloadEdge) :
    (∃ c ∈ cs, e.sourceNodeClientId = some c.1.clientId ∧
        moved cs e = { e with sourceNodeClientId := some (cdId c.1.clientId) }) ∨
      (∀ c ∈ cs, e.sourceNodeClientId ≠ some c.1.clientId) ∧ moved cs e = e := by
  unfold moved
  cases he : e.sourceNodeClientId with
  | none =>
      refine .inr ⟨?_, rfl⟩
      intro c _ h
      cases h
  | some id =>
      by_cases hin : id ∈ cs.map fun c => c.1.clientId
      · obtain ⟨c, hc, rfl⟩ := List.mem_map.1 hin
        exact .inl ⟨c, hc, rfl, if_pos hin⟩
      · exact .inr ⟨fun c hc h => hin (List.mem_map.2 ⟨c, hc, (Option.some.inj h).symm⟩), if_neg hin⟩

theorem nodes_migrated (p : ImportPayload) : (migrateV1ToV2 p).nodes =
    p.nodes.map (Option.map strip) ++ (cooled p.nodes).map fun c => some (cooldownNode c.1 c.2) := by
  obtain ⟨hnodes, happended⟩ := nodes_foldl p.nodes p.edges
  exact congrArg₂ (· ++ ·) hnodes happended

theorem edges_migrated (h : Distinct p) : (migrateV1ToV2 p).edges =
    p.edges.map (Option.map (moved (cooled p.nodes))) ++ (cooled p.nodes).map fun c => some (bridge c.1) :=
  edges_foldl p.edges p.nodes h.ids h.generated

theorem edges_reduced (h : Distinct p) : (migrateV1ToV2 p).edges.reduceOption =
    p.edges.reduceOption.map (moved (cooled p.nodes)) ++ (cooled p.nodes).map fun c => bridge c.1 := by
  have hbridges : ∀ cs : List (PayloadNode × ℚ),
      (cs.map fun c => some (bridge c.1)).reduceOption = cs.map fun c => bridge c.1 := by
    intro cs
    induction cs with
    | nil => rfl
    | cons c cs ih => rw [List.map_cons, List.reduceOption_cons_of_some, ih, List.map_cons]
  rw [edges_migrated h, List.reduceOption_append, List.reduceOption_map, hbridges]

theorem outgoing_migrated (h : Distinct p) (id : String) : outgoing (migrateV1ToV2 p).edges id =
    (p.edges.reduceOption.map (moved (cooled p.nodes))).filter (fun e => e.sourceNodeClientId = some id) ++
      ((cooled p.nodes).filter fun c => c.1.clientId = id).map fun c => bridge c.1 := by
  have hfrom : ((cooled p.nodes).map fun c => bridge c.1).filter (fun e => e.sourceNodeClientId = some id) =
      ((cooled p.nodes).filter fun c => c.1.clientId = id).map fun c => bridge c.1 := by
    rw [List.filter_map]
    congr 1
    refine List.filter_congr fun c _ => ?_
    simp [bridge]
  rw [outgoing, edges_reduced h, List.filter_append, hfrom]

/-- The cooled trigger with a given id is the only one. -/
theorem filter_cooled (h : Distinct p) {c : PayloadNode × ℚ} (hc : c ∈ cooled p.nodes) :
    ((cooled p.nodes).filter fun c' => c'.1.clientId = c.1.clientId) = [c] :=
  filter_key (keyed_cooled h) ((get_eq_some_iff (keyed_cooled h)).2 ⟨hc, rfl⟩)

theorem cdId_ne (h : Distinct p) {c c' : PayloadNode × ℚ} (hc : c ∈ cooled p.nodes) (hc' : c' ∈ cooled p.nodes) :
    cdId c.1.clientId ≠ c'.1.clientId :=
  fun he => h.generated c hc (he ▸ cooled_clientId_mem hc')

/-- A trigger with a cooldown keeps none of its edges. -/
theorem source_moved (h : Distinct p) {c : PayloadNode × ℚ} (hc : c ∈ cooled p.nodes) (e : PayloadEdge) :
    (moved (cooled p.nodes) e).sourceNodeClientId ≠ some c.1.clientId := by
  rcases moved_source (cooled p.nodes) e with ⟨c', hc', -, hm⟩ | ⟨hnot, hm⟩
  · rw [hm]
    exact fun hs => cdId_ne h hc' hc (Option.some.inj hs)
  · rw [hm]
    exact hnot c hc

theorem oneEdge_of_distinct (h : Distinct p) {c : PayloadNode × ℚ} (hc : c ∈ cooled p.nodes) :
    outgoing (migrateV1ToV2 p).edges c.1.clientId = [bridge c.1] := by
  rw [outgoing_migrated h, filter_cooled h hc]
  have hnone : (p.edges.reduceOption.map (moved (cooled p.nodes))).filter
      (fun e => e.sourceNodeClientId = some c.1.clientId) = [] := by
    rw [List.filter_eq_nil_iff]
    intro e he hs
    obtain ⟨e₀, -, rfl⟩ := List.mem_map.1 he
    exact source_moved h hc e₀ (of_decide_eq_true hs)
  rw [hnone]
  rfl

theorem carries_of_distinct (h : Distinct p) {c : PayloadNode × ℚ} (hc : c ∈ cooled p.nodes) :
    outgoing (migrateV1ToV2 p).edges (cdId c.1.clientId) = (outgoing p.edges c.1.clientId).map fun e =>
      { e with sourceNodeClientId := some (cdId c.1.clientId) } := by
  have hnone : ((cooled p.nodes).filter fun c' => c'.1.clientId = cdId c.1.clientId) = [] := by
    rw [List.filter_eq_nil_iff]
    intro c' hc' he
    exact cdId_ne h hc hc' (by simpa using Eq.symm (of_decide_eq_true he))
  rw [outgoing_migrated h, hnone, List.map_nil, List.append_nil, List.filter_map, outgoing]
  have hsource : ∀ e ∈ p.edges.reduceOption,
      ((moved (cooled p.nodes) e).sourceNodeClientId = some (cdId c.1.clientId) ↔
        e.sourceNodeClientId = some c.1.clientId) := by
    intro e he
    rcases moved_source (cooled p.nodes) e with ⟨c', hc', hs, hm⟩ | ⟨hnot, hm⟩
    · rw [hm, hs]
      simp only [Option.some.injEq]
      exact ⟨cdId_inj, congrArg cdId⟩
    · rw [hm]
      constructor
      · exact fun hs => absurd hs (h.sources c hc e he)
      · exact fun hs => absurd hs (hnot c hc)
  have hfilter : p.edges.reduceOption.filter
      ((fun e : PayloadEdge => decide (e.sourceNodeClientId = some (cdId c.1.clientId))) ∘ moved (cooled p.nodes)) =
      p.edges.reduceOption.filter fun e => e.sourceNodeClientId = some c.1.clientId :=
    List.filter_congr fun e he => decide_eq_decide.2 (hsource e he)
  rw [hfilter]
  refine List.map_congr_left fun e he => ?_
  have hs : e.sourceNodeClientId = some c.1.clientId := by simpa using (List.mem_filter.1 he).2
  rcases moved_source (cooled p.nodes) e with ⟨c', -, hs', hm⟩ | ⟨hnot, -⟩
  · rw [hm, Option.some.inj (hs'.symm.trans hs)]
  · exact absurd hs (hnot c hc)

theorem clientId_strip (n : PayloadNode) : (strip n).clientId = n.clientId := by
  unfold strip
  split_ifs <;> rfl

theorem clientIds_migrated (p : ImportPayload) : clientIds (migrateV1ToV2 p).nodes =
    clientIds p.nodes ++ (cooled p.nodes).map fun c => cdId c.1.clientId := by
  have hcooldowns : ∀ cs : List (PayloadNode × ℚ),
      (cs.map fun c => some (cooldownNode c.1 c.2)).reduceOption.map PayloadNode.clientId =
        cs.map fun c => cdId c.1.clientId := by
    intro cs
    induction cs with
    | nil => rfl
    | cons c cs ih => rw [List.map_cons, List.reduceOption_cons_of_some, List.map_cons, ih, List.map_cons]; rfl
  unfold clientIds
  rw [nodes_migrated, List.reduceOption_append, List.map_append, List.reduceOption_map, List.map_map, hcooldowns]
  exact congrArg (· ++ _) (List.map_congr_left fun n _ => clientId_strip n)

theorem ids_of_distinct (h : Distinct p) : (clientIds (migrateV1ToV2 p).nodes).Nodup := by
  rw [clientIds_migrated]
  refine List.nodup_append.2 ⟨h.ids, ?_, ?_⟩
  · have hkeys := List.Nodup.map (fun _ _ => cdId_inj) (keyed_cooled h)
    rwa [List.map_map] at hkeys
  · rintro a ha b hb rfl
    obtain ⟨c, hc, rfl⟩ := List.mem_map.1 hb
    exact h.generated c hc ha

theorem moved_inj (h : Distinct p) {e e' : PayloadEdge} (he : e ∈ p.edges.reduceOption)
    (he' : e' ∈ p.edges.reduceOption) (heq : moved (cooled p.nodes) e = moved (cooled p.nodes) e') : e = e' := by
  -- an edge that stays does not leave a generated id
  have hstay : ∀ {c e}, c ∈ cooled p.nodes → e ∈ p.edges.reduceOption →
      e.sourceNodeClientId ≠ some (cdId c.1.clientId) :=
    fun hc he => h.sources _ hc _ he
  rcases moved_source (cooled p.nodes) e with ⟨c, hc, hs, hm⟩ | ⟨-, hm⟩ <;>
    rcases moved_source (cooled p.nodes) e' with ⟨c', hc', hs', hm'⟩ | ⟨-, hm'⟩ <;>
    rw [hm, hm'] at heq
  · obtain ⟨hid, hrest⟩ := (PayloadEdge.mk.injEq ..).mp heq
    have hsource : e.sourceNodeClientId = e'.sourceNodeClientId := by
      rw [hs, hs', cdId_inj (Option.some.inj hid)]
    exact (PayloadEdge.mk.injEq ..).mpr ⟨hsource, hrest⟩
  · exact absurd (congrArg PayloadEdge.sourceNodeClientId heq).symm (hstay hc he')
  · exact absurd (congrArg PayloadEdge.sourceNodeClientId heq) (hstay hc' he)
  · exact heq

theorem edgesOnce_of_distinct (h : Distinct p) (honce : p.edges.reduceOption.Nodup) :
    (migrateV1ToV2 p).edges.reduceOption.Nodup := by
  rw [edges_reduced h]
  refine List.nodup_append.2 ⟨?_, ?_, ?_⟩
  · exact honce.map_on fun e he e' he' => moved_inj h he he'
  · refine (List.Nodup.of_map (fun e : PayloadEdge => e.sourceNodeClientId) ?_)
    have hkeys := (keyed_cooled h).map (Option.some_injective String)
    rw [List.map_map] at hkeys ⊢
    exact hkeys
  · rintro a ha b hb rfl
    obtain ⟨e, he, rfl⟩ := List.mem_map.1 ha
    obtain ⟨c, hc, hbridge⟩ := List.mem_map.1 hb
    exact source_moved h hc e (hbridge ▸ rfl)

theorem cooldownOf_strip (n : PayloadNode) : cooldownOf (strip n) = none := by
  unfold cooldownOf strip
  cases ht : isTriggerType n.type with
  | false => simp [ht]
  | true => simp [ht, PayloadNode.seconds, PayloadNode.cfg, PayloadNode.dropCooldown, JsVal.toNumber]

/-- Nothing is left to move. -/
theorem cooled_migrated (p : ImportPayload) : cooled (migrateV1ToV2 p).nodes = [] := by
  refine List.eq_nil_iff_forall_not_mem.2 ?_
  rintro ⟨n, s⟩ hn
  obtain ⟨hmem, hs⟩ := mem_cooled.1 hn
  rw [nodes_migrated, List.mem_append, List.mem_map, List.mem_map] at hmem
  rcases hmem with ⟨n₀, -, hn₀⟩ | ⟨c, -, hc⟩
  · obtain ⟨n₁, -, rfl⟩ := Option.map_eq_some_iff.1 hn₀
    rw [cooldownOf_strip] at hs
    cases hs
  · obtain rfl := Option.some.inj hc
    cases hs

theorem strip_strip (n : PayloadNode) : strip (strip n) = strip n := by
  unfold strip
  cases ht : isTriggerType n.type with
  | false => simp [ht]
  | true => simp [ht, PayloadNode.dropCooldown, PayloadNode.cfg]

theorem again_of_distinct (h : Distinct p) : migrateV1ToV2 (migrateV1ToV2 p) = migrateV1ToV2 p := by
  have hnone := cooled_migrated p
  have hdistinct : Distinct (migrateV1ToV2 p) := by
    refine ⟨ids_of_distinct h, fun c hc => ?_, fun c hc => ?_⟩ <;>
    · rw [hnone] at hc
      cases hc
  have hnodes : (migrateV1ToV2 (migrateV1ToV2 p)).nodes = (migrateV1ToV2 p).nodes := by
    rw [nodes_migrated (migrateV1ToV2 p), hnone, List.map_nil, List.append_nil, nodes_migrated p, List.map_append,
      List.map_map, List.map_map]
    refine congrArg₂ (· ++ ·) (List.map_congr_left fun n _ => ?_) (List.map_congr_left fun c _ => rfl)
    rw [Function.comp_apply, Option.map_map]
    exact congrArg (Option.map · n) (funext strip_strip)
  have hedges : (migrateV1ToV2 (migrateV1ToV2 p)).edges = (migrateV1ToV2 p).edges := by
    have hmoved : moved [] = id := funext fun e => by
      unfold moved
      cases e.sourceNodeClientId <;> simp
    rw [edges_migrated hdistinct, hnone, hmoved]
    simp
  exact (ImportPayload.mk.injEq ..).mpr ⟨rfl, hnodes, hedges⟩

end Preserved

/-- **The import keeps the graph**, but for the key `cooldownSeconds` of every trigger, when the ids are
distinct and no generated one occurs among them. -/
theorem graph_preserved (p : ImportPayload) (h : Distinct p) : GraphPreserved strip p where
  oneEdge _ hc := oneEdge_of_distinct h hc
  carries _ hc := carries_of_distinct h hc
  nodes := by
    rw [nodes_migrated]
    have hstrip : (fun n : PayloadNode => if (cooldownOf n).isSome then n.dropCooldown else strip n) = strip := by
      funext n
      unfold cooldownOf strip
      cases isTriggerType n.type <;> simp
    rw [hstrip]
  edges := edges_migrated h
  ids := ids_of_distinct h
  edgesOnce := edgesOnce_of_distinct h
  again := again_of_distinct h

/-! ## Three payloads -/

def cooledTrigger (clientId : String) (type : TriggerType) (seconds : ℚ) : PayloadNode where
  clientId := clientId
  type := .trigger type
  label := none
  config := some fun key => if key = "cooldownSeconds" then some (.num seconds) else none
  positionX := some 0
  positionY := some 0

/-- A trigger without a cooldown. -/
def noCooldown : ImportPayload := ⟨1, [some (cooledTrigger "t" .manual 0)], []⟩

/-- A node that carries the id generated for a trigger. -/
def generatedTaken : ImportPayload where
  formatVersion := 1
  nodes := [some (cooledTrigger "t" .manual 60), some ⟨cdId "t", .endSuccess, none, none, none, none⟩]
  edges := []

/-- An edge that leaves the generated id, which no node carries. -/
def sourceTaken : ImportPayload where
  formatVersion := 1
  nodes := [some (cooledTrigger "t" .manual 60)]
  edges := [some ⟨some (cdId "t"), .undefined, some "t", .null, .undefined⟩]

/-- A trigger with `cooldownSeconds: 0` is changed as well: it loses the key. And a generated id that is
taken occurs twice, or has an edge that is none of the trigger's. -/
theorem zero_cooldown_dropped :
    (¬ ∀ p : ImportPayload, GraphPreserved id p) ∧
      (¬ ∀ p : ImportPayload, (clientIds p.nodes).Nodup → GraphPreserved strip p) ∧
      ¬ ∀ p : ImportPayload, (clientIds p.nodes).Nodup → Generated p.nodes → GraphPreserved strip p := by
  refine ⟨fun h => ?_, fun h => ?_, fun h => ?_⟩
  · have hnodes := (h noCooldown).nodes
    have hkey := congrArg (fun nodes => nodes.reduceOption.map fun n => n.cfg "cooldownSeconds") hnodes
    revert hkey
    decide +kernel
  · have hids := (h generatedTaken (by decide +kernel)).ids
    revert hids
    decide +kernel
  · have hgenerated : Generated sourceTaken.nodes := by
      unfold Generated
      decide +kernel
    have hcarries := (h sourceTaken (by decide +kernel) hgenerated).carries _ (List.mem_singleton.2 rfl)
    have hcount := congrArg List.length hcarries
    revert hcount
    decide +kernel

/-- Two triggers that share a target, one of them with an edge to the other. -/
def sharedTarget : ImportPayload where
  formatVersion := 1
  nodes := [some (cooledTrigger "a" .manual 60), some (cooledTrigger "b" .groupJoin 30),
    some ⟨"x", .endSuccess, none, none, none, none⟩]
  edges := [some ⟨some "a", .undefined, some "x", .null, .undefined⟩,
    some ⟨some "b", .undefined, some "x", .null, .undefined⟩, some ⟨some "a", .undefined, some "b", .null, .undefined⟩]

theorem sharedTarget_preserved : GraphPreserved strip sharedTarget := by
  refine graph_preserved sharedTarget ⟨by decide +kernel, ?_, by decide +kernel⟩
  unfold Generated
  decide +kernel

end Obliance.Portability

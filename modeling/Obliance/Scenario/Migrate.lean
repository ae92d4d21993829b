import Obliance.Scenario.Steps

/-!
# From step lists to graphs (`services/scenarioMigrate.service.ts`)

* `buildV2GraphFromV1Steps` : the nodes and edges of a step list, node by node;
* `migrateScenarioToV2` : the rows inserted for a scenario;
* `Walk` : where the edges of such a graph lead from a node, as a dialogue;
* `walk_build` : the graph of a step list walks the dialogue in which a resolve script may fail.
-/

namespace Obliance.Scenario
open KeyedTable Dialogues

structure NodeSpec where
  type : NodeType
  label : String
  config : NodeConfig
  positionX : ℤ
  positionY : ℤ
  deriving DecidableEq, Repr

/-- `source` and `target` are positions in the list of nodes. -/
structure EdgeSpec where
  source : ℕ
  target : ℕ
  condition : EdgeCondition
  sortOrder : ℤ
  deriving DecidableEq, Repr

/-- The variables of the builder. -/
structure GraphBuilder where
  nodes : List NodeSpec
  edges : List EdgeSpec
  edgeOrder : ℤ
  col : ℤ
  lastExitId : ℕ
  pendingForwardCondition : EdgeCondition
  pendingMergeFromBranch2 : Option ℕ
  deriving DecidableEq, Repr

def colX (n : ℤ) : ℤ := n * 220

namespace GraphBuilder

def pushNode (b : GraphBuilder) (n : NodeSpec) : GraphBuilder := { b with nodes := b.nodes ++ [n] }

def pushEdge (b : GraphBuilder) (source target : ℕ) (condition : EdgeCondition) : GraphBuilder :=
  { b with edges := b.edges ++ [⟨source, target, condition, b.edgeOrder⟩], edgeOrder := b.edgeOrder + 1 }

/-- The edges into the next forward node: from the last exit, and from a second branch. -/
def enter (b : GraphBuilder) (target : ℕ) : GraphBuilder :=
  let b := b.pushEdge b.lastExitId target b.pendingForwardCondition
  match b.pendingMergeFromBranch2 with
  | none => b
  | some branch2 => { (b.pushEdge branch2 target (.exitCodeEq 0)) with pendingMergeFromBranch2 := none }

/-- The next forward node, with the edges into it. -/
def chain (b : GraphBuilder) (n : NodeSpec) : GraphBuilder := (b.pushNode n).enter b.nodes.length

end GraphBuilder

def scriptConfig (scriptId timeoutSeconds : ℕ) : NodeConfig :=
  { NodeConfig.empty with scriptId := some scriptId, timeoutSeconds := some timeoutSeconds }

def triggerNode (triggerType : TriggerType) : NodeSpec :=
  ⟨.trigger triggerType, "Trigger",
    if triggerType = .scheduleCron then
      { NodeConfig.empty with cronExpression := some "0 0 * * *", timezone := some "UTC" }
    else .empty, 0, 0⟩

def initialBuilder (triggerType : TriggerType) : GraphBuilder where
  nodes := [triggerNode triggerType]
  edges := []
  edgeOrder := 0
  col := 1
  lastExitId := 0
  pendingForwardCondition := .always
  pendingMergeFromBranch2 := none

/-- A resolve script without a check: chained forward. -/
def buildResolve (b : GraphBuilder) (step : StepRow) (resolveScriptId : ℕ) : GraphBuilder :=
  let resolveIdx := b.nodes.length
  let b := b.chain ⟨.runScript, step.name ++ " — resolve",
    scriptConfig resolveScriptId step.timeoutSeconds, colX b.col, 0⟩
  { b with lastExitId := resolveIdx, pendingForwardCondition := .always, col := b.col + 1 }

/-- The check and its branch. -/
def buildCheck (b : GraphBuilder) (step : StepRow) (checkScriptId : ℕ) : GraphBuilder :=
  let checkIdx := b.nodes.length
  let b := b.chain ⟨.runScript, step.name ++ " — check",
    scriptConfig checkScriptId step.timeoutSeconds, colX b.col, 0⟩
  let b := { b with pendingForwardCondition := .always, col := b.col + 1 }
  let branchIdx := b.nodes.length
  let b := (b.pushNode ⟨.branchExitCode, step.name ++ " — pass?", .empty, colX b.col, 0⟩).pushEdge checkIdx
    branchIdx .always
  { b with lastExitId := branchIdx, pendingForwardCondition := .exitCodeEq 0, col := b.col + 1 }

/-- Behind the branch of a check without a resolve script: the failure. -/
def buildFailure (b : GraphBuilder) (step : StepRow) : GraphBuilder :=
  let failIdx := b.nodes.length
  (b.pushNode ⟨.endFailure, step.name ++ " — failed",
    { NodeConfig.empty with message := some ("Step \"" ++ step.name ++ "\" check failed") }, colX b.col,
    160⟩).pushEdge b.lastExitId failIdx .default

/-- Behind the branch of a check: the resolve script, the recheck and its branch. -/
def buildRecheck (b : GraphBuilder) (step : StepRow) (checkScriptId resolveScriptId : ℕ) : GraphBuilder :=
  let branchIdx := b.lastExitId
  let resolveIdx := b.nodes.length
  let b := b.pushNode ⟨.runScript, step.name ++ " — resolve",
    scriptConfig resolveScriptId step.timeoutSeconds, colX b.col, 160⟩
  let recheckIdx := b.nodes.length
  let b := b.pushNode ⟨.runScript, step.name ++ " — recheck",
    scriptConfig checkScriptId step.timeoutSeconds, colX (b.col + 1), 160⟩
  let branch2Idx := b.nodes.length
  let b := b.pushNode ⟨.branchExitCode, step.name ++ " — recheck pass?", .empty, colX (b.col + 2), 160⟩
  let failIdx := b.nodes.length
  let b := b.pushNode ⟨.endFailure, step.name ++ " — failed after resolve",
    { NodeConfig.empty with
      message := some ("Step \"" ++ step.name ++ "\" recheck failed after remediation") }, colX (b.col + 3),
    320⟩
  let b := (((b.pushEdge branchIdx resolveIdx .default).pushEdge resolveIdx recheckIdx .always).pushEdge
    recheckIdx branch2Idx .always).pushEdge branch2Idx failIdx .default
  { b with col := b.col + 4, pendingMergeFromBranch2 := some branch2Idx }

def buildStep (b : GraphBuilder) (step : StepRow) : GraphBuilder :=
  match step.checkScriptId, step.resolveScriptId with
  | none, none => b
  | none, some resolve => buildResolve b step resolve
  | some check, none => buildFailure (buildCheck b step check) step
  | some check, some resolve => buildRecheck (buildCheck b step check) step check resolve

/-- Where the lingering branches merge. -/
def buildSuccess (b : GraphBuilder) : GraphBuilder :=
  b.chain ⟨.endSuccess, "Done",
    { NodeConfig.empty with message := some "Scenario completed successfully" }, colX (b.col + 1), 0⟩

def buildFrom (b : GraphBuilder) (steps : List StepRow) : GraphBuilder := buildSuccess (steps.foldl buildStep b)

def buildV2GraphFromV1Steps (steps : List StepRow) (triggerType : TriggerType) : GraphBuilder :=
  buildFrom (initialBuilder triggerType) steps

def NodeSpec.row (scenarioId id : ℕ) (n : NodeSpec) : NodeRow := ⟨id, scenarioId, n.type, some n.label, n.config⟩

def EdgeSpec.row (scenarioId : ℕ) (nodeId : ℕ → ℕ) (id : ℕ) (e : EdgeSpec) : EdgeRow :=
  ⟨id, scenarioId, nodeId e.source, nodeId e.target, e.condition, e.sortOrder⟩

/-- The rows are inserted in order, with the ids the database gives them. -/
def migrateScenarioToV2 (db : GraphDb) (scenarioId : ℕ) (steps : List StepRow) (triggerType : TriggerType)
    (nodeId edgeId : ℕ → ℕ) : GraphDb :=
  if db.nodes.any fun n => decide (n.scenarioId = scenarioId) then db
  else if (db.scenario scenarioId).isNone then db
  else
    let g := buildV2GraphFromV1Steps steps triggerType
    { db with
      nodes := db.nodes ++ g.nodes.mapIdx fun i n => n.row scenarioId (nodeId i)
      edges := db.edges ++ g.edges.mapIdx fun i e => e.row scenarioId nodeId (edgeId i) }

/-! ## Where the edges lead -/

/-- The edges out of a node, in order. -/
def exitsOf (edges : List EdgeSpec) (i : ℕ) : List (EdgeCondition × ℕ) :=
  (edges.filter fun e => decide (e.source = i)).map fun e => (e.condition, e.target)

/-- An edge, if it leaves the `i`-th node. -/
def exitAt (i source target : ℕ) (condition : EdgeCondition) : List (EdgeCondition × ℕ) :=
  if source = i then [(condition, target)] else []

/-- `pickNextEdge` over the edges out of a node. -/
def pickExit (exits : List (EdgeCondition × ℕ)) (exitCode : Option ℤ) : Option ℕ :=
  ((exits.find? fun e => decide (e.1 ≠ .default) && edgeMatches e.1 exitCode).or
    (exits.find? fun e => decide (e.1 = .default))).map Prod.snd

/-- A node that runs the script. -/
def NodeSpec.Runs (n : NodeSpec) (scriptId : ℕ) : Prop :=
  n.type = .runScript ∧ ∃ timeout, n.config = scriptConfig scriptId timeout

/-- From the `i`-th node, after the exit code `last`, the graph asks the scripts of the dialogue; it only
goes forward. -/
inductive Walk (g : GraphBuilder) : ℕ → Option ℤ → Dialogue ℕ ℤ RunStatus → Prop where
  | script {i scriptId : ℕ} {last : Option ℤ} {k : ℤ → Dialogue ℕ ℤ RunStatus} {n : NodeSpec}
      {next : ℤ → ℕ} : g.nodes[i]? = some n → n.Runs scriptId → (∀ code, i < next code) →
      (∀ code, pickExit (exitsOf g.edges i) (some code) = some (next code)) →
      (∀ code, Walk g (next code) (some code) (k code)) → Walk g i last (.ask scriptId k)
  | branch {i j : ℕ} {last : Option ℤ} {d : Dialogue ℕ ℤ RunStatus} {n : NodeSpec} :
      g.nodes[i]? = some n → n.type = .branchExitCode → i < j →
      pickExit (exitsOf g.edges i) last = some j → Walk g j last d → Walk g i last d
  | endSuccess {i : ℕ} {last : Option ℤ} {n : NodeSpec} :
      g.nodes[i]? = some n → n.type = .endSuccess → Walk g i last (.stop .success)
  | endFailure {i : ℕ} {last : Option ℤ} {n : NodeSpec} :
      g.nodes[i]? = some n → n.type = .endFailure → Walk g i last (.stop .failure)

theorem exitAt_self (i target : ℕ) (condition : EdgeCondition) :
    exitAt i i target condition = [(condition, target)] := if_pos rfl

theorem exitAt_add (n i source target : ℕ) (condition : EdgeCondition) :
    exitAt (n + i) (n + source) target condition = exitAt i source target condition :=
  if_congr Nat.add_left_cancel_iff rfl rfl

theorem exitAt_ne {i source : ℕ} (h : source ≠ i) (target : ℕ) (condition : EdgeCondition) :
    exitAt i source target condition = [] := if_neg h

@[simp] theorem pickExit_always (target : ℕ) (exitCode : Option ℤ) :
    pickExit [(.always, target)] exitCode = some target := by
  simp [pickExit, edgeMatches]

/-- The exits of a branch: forward on 0, else the default edge. -/
theorem pickExit_branch (other target : ℕ) (exitCode : Option ℤ) :
    pickExit [(.default, other), (.exitCodeEq 0, target)] exitCode =
      if exitCode = some 0 then some target else some other := by
  by_cases h : exitCode = some 0 <;> simp [pickExit, edgeMatches, h]

namespace GraphBuilder
variable (b : GraphBuilder) (n : NodeSpec) (source target i : ℕ) (condition : EdgeCondition)

@[simp] theorem nodes_pushNode : (b.pushNode n).nodes = b.nodes ++ [n] := rfl

@[simp] theorem edges_pushNode : (b.pushNode n).edges = b.edges := rfl

@[simp] theorem nodes_pushEdge : (b.pushEdge source target condition).nodes = b.nodes := rfl

@[simp] theorem exitsOf_pushEdge : exitsOf (b.pushEdge source target condition).edges i =
    exitsOf b.edges i ++ exitAt i source target condition := by
  simp only [pushEdge, exitsOf, List.filter_append, List.map_append]
  by_cases h : source = i <;> simp [exitAt, h]

@[simp] theorem nodes_enter : (b.enter target).nodes = b.nodes := by
  unfold enter
  dsimp only
  split <;> rfl

@[simp] theorem merge_enter : (b.enter target).pendingMergeFromBranch2 = none := by
  unfold enter
  dsimp only
  split
  · assumption
  · rfl

/-- The edges the next forward node gets from the `i`-th node. -/
def entering : List (EdgeCondition × ℕ) :=
  exitAt i b.lastExitId target b.pendingForwardCondition ++
    b.pendingMergeFromBranch2.elim [] fun branch2 => exitAt i branch2 target (.exitCodeEq 0)

/-- The edges and the open ends leave nodes there are. -/
structure Open : Prop where
  last : b.lastExitId < b.nodes.length
  merge : ∀ m, b.pendingMergeFromBranch2 = some m → m < b.nodes.length
  exits : ∀ i, b.nodes.length ≤ i → exitsOf b.edges i = []

end GraphBuilder

open GraphBuilder

section Walks
variable {b b' g : GraphBuilder} {step : StepRow} {n : NodeSpec} {block : List NodeSpec}
  {d d' : Dialogue ℕ ℤ RunStatus} {target i k : ℕ}

theorem GraphBuilder.Open.entering_of_le (h : b.Open) (hle : b.nodes.length ≤ i) :
    b.entering target i = [] := by
  rw [entering, exitAt_ne (h.last.trans_le hle).ne, List.nil_append]
  cases hm : b.pendingMergeFromBranch2 with
  | none => rfl
  | some m => exact exitAt_ne ((h.merge m hm).trans_le hle).ne _ _

@[simp] theorem nodes_chain : (b.chain n).nodes = b.nodes ++ [n] := nodes_enter _ _

@[simp] theorem merge_chain : (b.chain n).pendingMergeFromBranch2 = none := merge_enter _ _

theorem exitsOf_chain : exitsOf (b.chain n).edges i =
    exitsOf b.edges i ++ b.entering b.nodes.length i := by
  unfold chain enter entering
  dsimp only
  split
  · rename_i hm
    replace hm : b.pendingMergeFromBranch2 = none := hm
    rw [hm, Option.elim_none, List.append_nil]
    exact exitsOf_pushEdge _ _ _ _ _
  · rename_i m hm
    replace hm : b.pendingMergeFromBranch2 = some m := hm
    rw [hm, Option.elim_some, ← List.append_assoc]
    exact (exitsOf_pushEdge _ _ _ _ _).trans (congrArg (· ++ _) (exitsOf_pushEdge _ _ _ _ _))

/-- In the finished graph `g` the open ends of `b` go to a node from which `d` is walked, and nothing
else was added to the nodes of `b`. -/
def Leads (b g : GraphBuilder) (d : Dialogue ℕ ℤ RunStatus) : Prop :=
  b.nodes <+: g.nodes ∧ ∃ target, b.nodes.length ≤ target ∧
    (∀ i < b.nodes.length, exitsOf g.edges i = exitsOf b.edges i ++ b.entering target i) ∧
    ∀ last, Walk g target last d

/-- The `k`-th node of a block. -/
theorem getElem?_block (hb : b'.nodes = b.nodes ++ block) (hg : b'.nodes <+: g.nodes)
    (hk : block[k]? = some n) : g.nodes[b.nodes.length + k]? = some n := by
  have hlt : k < block.length := (List.getElem?_eq_some_iff.1 hk).1
  obtain ⟨later, hg⟩ := hg
  rw [← hg, hb, List.getElem?_append_left (by rw [List.length_append]; omega),
    List.getElem?_append_right (Nat.le_add_right _ _), Nat.add_sub_cancel_left, hk]

/-- A block was added: the open ends of `b` go to its first node. -/
theorem leads_block (hlead : Leads b' g d') (hnodes : b'.nodes = b.nodes ++ block)
    (hexits : ∀ i < b.nodes.length, exitsOf b'.edges i = exitsOf b.edges i ++ b.entering b.nodes.length i)
    (hclosed : ∀ target, ∀ i < b.nodes.length, b'.entering target i = [])
    (hwalk : ∀ last, Walk g b.nodes.length last d) : Leads b g d := by
  obtain ⟨hg, target, -, hedges, -⟩ := hlead
  refine ⟨(hnodes ▸ List.prefix_append _ _).trans hg, b.nodes.length, le_rfl, fun i hi => ?_, hwalk⟩
  have hlt : i < b'.nodes.length := by
    rw [hnodes, List.length_append]
    exact Nat.lt_add_right _ hi
  rw [hedges i hlt, hclosed target i hi, List.append_nil, hexits i hi]

/-- A script node with one edge. -/
theorem Walk.ofScript {j scriptId : ℕ} {last : Option ℤ} {next : ℤ → Dialogue ℕ ℤ RunStatus}
    (hn : g.nodes[i]? = some n) (hruns : n.Runs scriptId) (hout : exitsOf g.edges i = [(.always, j)])
    (hij : i < j) (hnext : ∀ code, Walk g j (some code) (next code)) :
    Walk g i last (.ask scriptId next) := by
  have hpick : ∀ code, pickExit (exitsOf g.edges i) (some code) = some j := fun code => by
    rw [hout, pickExit_always]
  exact .script hn hruns (fun _ => hij) hpick hnext

/-- A branch behind a script. -/
theorem Walk.ofBranch {j other : ℕ} {code : ℤ} (hn : g.nodes[i]? = some n) (htype : n.type = .branchExitCode)
    (hout : exitsOf g.edges i = [(.default, other), (.exitCodeEq 0, j)]) (hother : i < other) (hij : i < j)
    (hd' : ∀ last, Walk g other last d') (hd : ∀ last, Walk g j last d) :
    Walk g i (some code) (if code = 0 then d else d') := by
  by_cases hc : code = 0
  · rw [if_pos hc]
    exact .branch hn htype hij (by rw [hout, pickExit_branch, if_pos (congrArg some hc)]) (hd _)
  · rw [if_neg hc]
    refine .branch hn htype hother ?_ (hd' _)
    rw [hout, pickExit_branch, if_neg fun he => hc (Option.some.inj he)]

theorem leads_buildSuccess (b : GraphBuilder) : Leads b (buildSuccess b) (.stop .success) := by
  have hnodes : (buildSuccess b).nodes = b.nodes ++ [_] := nodes_chain
  refine ⟨hnodes ▸ List.prefix_append _ _, b.nodes.length, le_rfl, fun i hi => exitsOf_chain, fun last => ?_⟩
  exact .endSuccess (getElem?_block (k := 0) hnodes (List.prefix_refl _) rfl) rfl

/-! ## A resolve script without a check -/

theorem entering_buildResolve (b : GraphBuilder) (step : StepRow) (resolve target i : ℕ) :
    (buildResolve b step resolve).entering target i = exitAt i b.nodes.length target .always := by
  simp [entering, buildResolve]

theorem exitsOf_buildResolve (resolve : ℕ) : exitsOf (buildResolve b step resolve).edges i =
    exitsOf b.edges i ++ b.entering b.nodes.length i := exitsOf_chain

theorem length_buildResolve (b : GraphBuilder) (step : StepRow) (resolve : ℕ) :
    (buildResolve b step resolve).nodes.length = b.nodes.length + 1 := by
  simp [buildResolve]

theorem open_buildResolve (h : b.Open) (resolve : ℕ) : (buildResolve b step resolve).Open := by
  refine ⟨by simp [buildResolve], fun m hm => by simp [buildResolve] at hm, fun i hi => ?_⟩
  rw [length_buildResolve] at hi
  have hle : b.nodes.length ≤ i := by omega
  rw [exitsOf_buildResolve, h.exits i hle, h.entering_of_le hle, List.append_nil]

theorem leads_buildResolve (h : b.Open) {resolve : ℕ} (hlead : Leads (buildResolve b step resolve) g d) :
    Leads b g (.ask resolve fun _ => d) := by
  have hnodes : (buildResolve b step resolve).nodes = b.nodes ++ [_] := nodes_chain
  have hlen := length_buildResolve b step resolve
  refine leads_block hlead hnodes (fun i _ => exitsOf_buildResolve resolve) (fun target i hi => ?_)
    fun last => ?_
  · rw [entering_buildResolve, exitAt_ne hi.ne']
  · obtain ⟨hg, target, hlt, hedges, hwalk⟩ := hlead
    have hout : exitsOf g.edges b.nodes.length = [(.always, target)] := by
      rw [hedges b.nodes.length (by omega), exitsOf_buildResolve, entering_buildResolve, h.exits _ le_rfl,
        h.entering_of_le le_rfl, exitAt_self]
      rfl
    exact .ofScript (getElem?_block (k := 0) hnodes hg rfl) ⟨rfl, _, rfl⟩ hout (by omega) fun _ => hwalk _

/-! ## A check without a resolve script -/

theorem exitsOf_buildCheck (check : ℕ) : exitsOf (buildCheck b step check).edges i =
    exitsOf b.edges i ++ b.entering b.nodes.length i ++
      exitAt i b.nodes.length (b.nodes.length + 1) .always := by
  have hlen : ∀ n : NodeSpec, (b.chain n).nodes.length = b.nodes.length + 1 := fun n => by simp
  rw [← exitsOf_chain (n := ⟨.runScript, step.name ++ " — check", scriptConfig check step.timeoutSeconds,
    colX b.col, 0⟩)]
  simp only [buildCheck, exitsOf_pushEdge, hlen]
  rfl

theorem nodes_buildCheck (b : GraphBuilder) (step : StepRow) (check : ℕ) : ∃ n₀ n₁ : NodeSpec,
    (buildCheck b step check).nodes = b.nodes ++ [n₀, n₁] ∧ n₀.Runs check ∧ n₁.type = .branchExitCode := by
  have hnodes : (buildCheck b step check).nodes = (b.nodes ++ [_]) ++ [_] := congrArg (· ++ [_]) nodes_chain
  exact ⟨_, _, hnodes.trans (List.append_assoc _ _ _), ⟨rfl, _, rfl⟩, rfl⟩

theorem length_buildCheck (step : StepRow) (check : ℕ) : (buildCheck b step check).nodes.length = b.nodes.length + 2 := by
  simp [buildCheck]

theorem lastExitId_buildCheck (step : StepRow) (check : ℕ) : (buildCheck b step check).lastExitId = b.nodes.length + 1 := by
  simp [buildCheck]

theorem length_buildFailure (b : GraphBuilder) (step : StepRow) (check : ℕ) :
    (buildFailure (buildCheck b step check) step).nodes.length = b.nodes.length + 3 := by
  simp [buildFailure, length_buildCheck]

theorem exitsOf_buildFailure (check : ℕ) :
    exitsOf (buildFailure (buildCheck b step check) step).edges i =
      (exitsOf b.edges i ++ b.entering b.nodes.length i ++
        exitAt i b.nodes.length (b.nodes.length + 1) .always) ++
        exitAt i (b.nodes.length + 1) (b.nodes.length + 2) .default := by
  rw [← exitsOf_buildCheck check, ← length_buildCheck step check, ← lastExitId_buildCheck step check]
  exact exitsOf_pushEdge _ _ _ _ _

theorem entering_buildFailure (b : GraphBuilder) (step : StepRow) (check target i : ℕ) :
    (buildFailure (buildCheck b step check) step).entering target i =
      exitAt i (b.nodes.length + 1) target (.exitCodeEq 0) := by
  rw [← lastExitId_buildCheck step check]
  simp [entering, buildFailure, buildCheck, pushEdge, pushNode]

theorem open_buildFailure (h : b.Open) (check : ℕ) : (buildFailure (buildCheck b step check) step).Open := by
  have hlast : (buildFailure (buildCheck b step check) step).lastExitId = b.nodes.length + 1 :=
    lastExitId_buildCheck step check
  have hmerge : (buildFailure (buildCheck b step check) step).pendingMergeFromBranch2 = none := by
    simp [buildFailure, buildCheck, pushEdge, pushNode]
  refine ⟨?_, fun m hm => ?_, fun i hi => ?_⟩
  · rw [hlast, length_buildFailure]
    omega
  · rw [hmerge] at hm
    cases hm
  · rw [length_buildFailure] at hi
    have hle : b.nodes.length ≤ i := by omega
    rw [exitsOf_buildFailure, h.exits i hle, h.entering_of_le hle, exitAt_ne (by omega), exitAt_ne (by omega)]
    rfl

/-- The check, its branch and the failure. -/
theorem leads_buildFailure (h : b.Open) {check : ℕ}
    (hlead : Leads (buildFailure (buildCheck b step check) step) g d) :
    Leads b g (.ask check fun code => if code = 0 then d else .stop .failure) := by
  obtain ⟨n₀, n₁, hcheck, hruns, hbranch⟩ := nodes_buildCheck b step check
  have hnodes : (buildFailure (buildCheck b step check) step).nodes = b.nodes ++ [n₀, n₁, _] :=
    (congrArg (· ++ [_]) hcheck).trans (List.append_assoc _ _ _)
  have hlen := length_buildFailure b step check
  refine leads_block hlead hnodes (fun i hi => ?_) (fun target i hi => ?_) fun last => ?_
  · rw [exitsOf_buildFailure, exitAt_ne (by omega), exitAt_ne (by omega), List.append_nil, List.append_nil]
  · rw [entering_buildFailure, exitAt_ne (by omega)]
  · obtain ⟨hg, target, hlt, hedges, hwalk⟩ := hlead
    have hout : ∀ i, b.nodes.length ≤ i → i < b.nodes.length + 3 → exitsOf g.edges i =
        ((exitAt i b.nodes.length (b.nodes.length + 1) .always) ++
          exitAt i (b.nodes.length + 1) (b.nodes.length + 2) .default) ++
          exitAt i (b.nodes.length + 1) target (.exitCodeEq 0) := by
      intro i hle hi
      rw [hedges i (by omega), exitsOf_buildFailure, entering_buildFailure, h.exits i hle,
        h.entering_of_le hle, List.nil_append, List.nil_append]
    have hout₀ : exitsOf g.edges b.nodes.length = [(.always, b.nodes.length + 1)] := by
      rw [hout _ le_rfl (by omega), exitAt_self, exitAt_ne (by omega), exitAt_ne (by omega)]
      rfl
    have hout₁ : exitsOf g.edges (b.nodes.length + 1) =
        [(.default, b.nodes.length + 2), (.exitCodeEq 0, target)] := by
      rw [hout _ (by omega) (by omega), exitAt_ne (by omega), exitAt_self, exitAt_self]
      rfl
    have hfail : ∀ last, Walk g (b.nodes.length + 2) last (.stop .failure) :=
      fun _ => .endFailure (getElem?_block (k := 2) hnodes hg rfl) rfl
    exact .ofScript (getElem?_block (k := 0) hnodes hg rfl) hruns hout₀ (Nat.lt_succ_self _) fun code =>
      .ofBranch (getElem?_block (k := 1) hnodes hg rfl) hbranch hout₁ (Nat.lt_succ_self _) (by omega) hfail
        hwalk

/-! ## A check with a resolve script -/

theorem nodes_buildRecheck (b : GraphBuilder) (step : StepRow) (check resolve : ℕ) : ∃ n₂ n₃ n₄ n₅ : NodeSpec,
    (buildRecheck b step check resolve).nodes = b.nodes ++ [n₂, n₃, n₄, n₅] ∧
      n₂.Runs resolve ∧ n₃.Runs check ∧ n₄.type = .branchExitCode ∧ n₅.type = .endFailure := by
  have hnodes : (buildRecheck b step check resolve).nodes = (((b.nodes ++ [_]) ++ [_]) ++ [_]) ++ [_] := rfl
  have hassoc : ∀ (ns : List NodeSpec) (n₂ n₃ n₄ n₅ : NodeSpec),
      (((ns ++ [n₂]) ++ [n₃]) ++ [n₄]) ++ [n₅] = ns ++ [n₂, n₃, n₄, n₅] := by simp
  exact ⟨_, _, _, _, hnodes.trans (hassoc _ _ _ _ _), ⟨rfl, _, rfl⟩, ⟨rfl, _, rfl⟩, rfl, rfl⟩

section Recheck
variable (b step) (check resolve : ℕ)

theorem length_buildRecheck :
    (buildRecheck (buildCheck b step check) step check resolve).nodes.length = b.nodes.length + 6 := by
  simp [buildRecheck, length_buildCheck]

theorem lastExitId_buildRecheck :
    (buildRecheck (buildCheck b step check) step check resolve).lastExitId = b.nodes.length + 1 :=
  lastExitId_buildCheck step check

theorem merge_buildRecheck :
    (buildRecheck (buildCheck b step check) step check resolve).pendingMergeFromBranch2 =
      some (b.nodes.length + 4) := by
  simp [buildRecheck, length_buildCheck]

theorem entering_buildRecheck (target i : ℕ) :
    (buildRecheck (buildCheck b step check) step check resolve).entering target i =
      exitAt i (b.nodes.length + 1) target (.exitCodeEq 0) ++
        exitAt i (b.nodes.length + 4) target (.exitCodeEq 0) := by
  rw [entering, lastExitId_buildRecheck, merge_buildRecheck]
  rfl

end Recheck

theorem exitsOf_buildRecheck (check resolve : ℕ) :
    exitsOf (buildRecheck (buildCheck b step check) step check resolve).edges i =
      ((((exitsOf b.edges i ++ b.entering b.nodes.length i ++
        exitAt i b.nodes.length (b.nodes.length + 1) .always) ++
        exitAt i (b.nodes.length + 1) (b.nodes.length + 2) .default) ++
        exitAt i (b.nodes.length + 2) (b.nodes.length + 3) .always) ++
        exitAt i (b.nodes.length + 3) (b.nodes.length + 4) .always) ++
        exitAt i (b.nodes.length + 4) (b.nodes.length + 5) .default := by
  simp only [buildRecheck, exitsOf_pushEdge, edges_pushNode, nodes_pushNode, List.length_append,
    List.length_cons, List.length_nil, Nat.zero_add, exitsOf_buildCheck, length_buildCheck,
    lastExitId_buildCheck]

theorem open_buildRecheck (h : b.Open) (check resolve : ℕ) :
    (buildRecheck (buildCheck b step check) step check resolve).Open := by
  refine ⟨?_, fun m hm => ?_, fun i hi => ?_⟩
  · rw [lastExitId_buildRecheck, length_buildRecheck]
    omega
  · rw [merge_buildRecheck, Option.some.injEq] at hm
    rw [length_buildRecheck]
    omega
  · rw [length_buildRecheck] at hi
    have hle : b.nodes.length ≤ i := by omega
    rw [exitsOf_buildRecheck, h.exits i hle, h.entering_of_le hle, exitAt_ne (by omega), exitAt_ne (by omega),
      exitAt_ne (by omega), exitAt_ne (by omega), exitAt_ne (by omega)]
    rfl

/-- The check, its branch, the resolve script, the recheck, its branch and the failure. -/
theorem leads_buildRecheck (h : b.Open) {check resolve : ℕ}
    (hlead : Leads (buildRecheck (buildCheck b step check) step check resolve) g d) :
    Leads b g (.ask check fun code => if code = 0 then d else .ask resolve fun _ =>
      .ask check fun code => if code = 0 then d else .stop .failure) := by
  obtain ⟨n₀, n₁, hcheck, hruns₀, hbranch₁⟩ := nodes_buildCheck b step check
  obtain ⟨n₂, n₃, n₄, n₅, hnodes, hruns₂, hruns₃, hbranch₄, hend⟩ :=
    nodes_buildRecheck (buildCheck b step check) step check resolve
  rw [hcheck, List.append_assoc] at hnodes
  have hlen := length_buildRecheck b step check resolve
  refine leads_block hlead hnodes (fun i hi => ?_) (fun target i hi => ?_) fun last => ?_
  · rw [exitsOf_buildRecheck, exitAt_ne (by omega), exitAt_ne (by omega), exitAt_ne (by omega), exitAt_ne (by omega),
      exitAt_ne (by omega)]
    simp only [List.append_nil]
  · rw [entering_buildRecheck, exitAt_ne (by omega), exitAt_ne (by omega)]
    rfl
  · obtain ⟨hg, target, hlt, hedges, hwalk⟩ := hlead
    have hout : ∀ k, k < 6 → exitsOf g.edges (b.nodes.length + k) =
        (((((exitAt k 0 (b.nodes.length + 1) .always) ++
          exitAt k 1 (b.nodes.length + 2) .default) ++
          exitAt k 2 (b.nodes.length + 3) .always) ++
          exitAt k 3 (b.nodes.length + 4) .always) ++
          exitAt k 4 (b.nodes.length + 5) .default) ++
          (exitAt k 1 target (.exitCodeEq 0) ++ exitAt k 4 target (.exitCodeEq 0)) := by
      intro k hk
      have hle : b.nodes.length ≤ b.nodes.length + k := Nat.le_add_right _ _
      have hzero := exitAt_add b.nodes.length k 0 (b.nodes.length + 1) .always
      rw [Nat.add_zero] at hzero
      rw [hedges _ (by omega), exitsOf_buildRecheck, entering_buildRecheck, h.exits _ hle,
        h.entering_of_le hle, List.nil_append, List.nil_append, hzero]
      simp only [exitAt_add]
    have hfail : ∀ last, Walk g (b.nodes.length + 5) last (.stop .failure) :=
      fun _ => .endFailure (getElem?_block (k := 5) hnodes hg rfl) hend
    have hrecheck : ∀ last, Walk g (b.nodes.length + 3) last
        (.ask check fun code => if code = 0 then d else .stop .failure) := fun _ =>
      .ofScript (getElem?_block (k := 3) hnodes hg rfl) hruns₃ (hout 3 (by decide)) (Nat.lt_succ_self _)
        fun code => .ofBranch (getElem?_block (k := 4) hnodes hg rfl) hbranch₄ (hout 4 (by decide))
          (Nat.lt_succ_self _) (by omega) hfail hwalk
    have hresolve : ∀ last, Walk g (b.nodes.length + 2) last (.ask resolve fun _ =>
        .ask check fun code => if code = 0 then d else .stop .failure) := fun _ =>
      .ofScript (getElem?_block (k := 2) hnodes hg rfl) hruns₂ (hout 2 (by decide)) (Nat.lt_succ_self _)
        fun _ => hrecheck _
    exact .ofScript (getElem?_block (k := 0) hnodes hg rfl) hruns₀ (hout 0 (by decide)) (Nat.lt_succ_self _)
      fun code => .ofBranch (getElem?_block (k := 1) hnodes hg rfl) hbranch₁ (hout 1 (by decide))
        (Nat.lt_succ_self _) (by omega) hresolve hwalk

/-! ## The whole list -/

/-- The steps still to be built lead on from the open ends. -/
theorem leads_buildFrom (steps : List StepRow) : ∀ b : GraphBuilder, b.Open →
    Leads b (buildFrom b steps) (stepsDialogue (fun _ => true) steps) := by
  induction steps with
  | nil => exact fun b _ => leads_buildSuccess b
  | cons step steps ih =>
      intro b h
      have hstep : buildFrom b (step :: steps) = buildFrom (buildStep b step) steps := rfl
      rw [hstep, stepsDialogue_cons]
      unfold buildStep stepDialogue
      cases step.checkScriptId with
      | none =>
          cases step.resolveScriptId with
          | none => exact ih b h
          | some resolve => exact leads_buildResolve h (ih _ (open_buildResolve h resolve))
      | some check =>
          cases step.resolveScriptId with
          | none => simpa using leads_buildFailure h (ih _ (open_buildFailure h check))
          | some resolve => simpa using leads_buildRecheck h (ih _ (open_buildRecheck h check resolve))

theorem open_initialBuilder (triggerType : TriggerType) : (initialBuilder triggerType).Open :=
  ⟨Nat.zero_lt_one, fun _ hm => (Option.some_ne_none _ hm.symm).elim, fun _ _ => rfl⟩

/-- **The graph of a step list**: behind the trigger, the graph asks the scripts of the list, and no
matter how a resolve script exits, it goes on. -/
theorem walk_build (steps : List StepRow) (triggerType : TriggerType) :
    ∃ target, 0 < target ∧
      (buildV2GraphFromV1Steps steps triggerType).nodes[0]? = some (triggerNode triggerType) ∧
      exitsOf (buildV2GraphFromV1Steps steps triggerType).edges 0 = [(.always, target)] ∧
      ∀ last, Walk (buildV2GraphFromV1Steps steps triggerType) target last
        (stepsDialogue (fun _ => true) steps) := by
  obtain ⟨⟨later, hnodes⟩, target, hle, hedges, hwalk⟩ :=
    leads_buildFrom steps _ (open_initialBuilder triggerType)
  refine ⟨target, hle, ?_, hedges 0 Nat.zero_lt_one, hwalk⟩
  rw [buildV2GraphFromV1Steps, ← hnodes]
  rfl

end Walks

/-! ## The order of the edges -/

/-- The edges are numbered in order, up to `edgeOrder`. -/
structure Ordered (edges : List EdgeSpec) (edgeOrder : ℤ) : Prop where
  sorted : edges.Pairwise fun e e' => e.sortOrder ≤ e'.sortOrder
  below : ∀ e ∈ edges, e.sortOrder < edgeOrder

theorem Ordered.push {edges : List EdgeSpec} {edgeOrder : ℤ} (h : Ordered edges edgeOrder) (source target : ℕ)
    (condition : EdgeCondition) :
    Ordered (edges ++ [⟨source, target, condition, edgeOrder⟩]) (edgeOrder + 1) := by
  refine ⟨List.pairwise_append.2 ⟨h.sorted, List.pairwise_singleton _ _, fun e he e' he' => ?_⟩,
    fun e he => ?_⟩
  · rw [List.mem_singleton.1 he']
    exact (h.below e he).le
  · rcases List.mem_append.1 he with he | he
    · exact (h.below e he).trans (Int.lt_succ _)
    · rw [List.mem_singleton.1 he]
      exact Int.lt_succ _

section Order
variable {b : GraphBuilder} (h : Ordered b.edges b.edgeOrder)
include h

theorem ordered_chain (n : NodeSpec) : Ordered (b.chain n).edges (b.chain n).edgeOrder := by
  unfold GraphBuilder.chain enter
  dsimp only
  split
  · exact h.push _ _ _
  · exact (h.push _ _ _).push _ _ _

theorem ordered_buildStep (step : StepRow) : Ordered (buildStep b step).edges (buildStep b step).edgeOrder := by
  have hcheck : ∀ check, Ordered (buildCheck b step check).edges (buildCheck b step check).edgeOrder :=
    fun _ => (ordered_chain h _).push _ _ _
  unfold buildStep
  split
  · exact h
  · exact ordered_chain h _
  · exact (hcheck _).push _ _ _
  · exact ((((hcheck _).push _ _ _).push _ _ _).push _ _ _).push _ _ _

end Order

theorem ordered_build (steps : List StepRow) (triggerType : TriggerType) :
    (buildV2GraphFromV1Steps steps triggerType).edges.Pairwise fun e e' => e.sortOrder ≤ e'.sortOrder := by
  have hfold : ∀ (steps : List StepRow) (b : GraphBuilder), Ordered b.edges b.edgeOrder →
      Ordered (steps.foldl buildStep b).edges (steps.foldl buildStep b).edgeOrder := by
    intro steps
    induction steps with
    | nil => exact fun _ h => h
    | cons step steps ih => exact fun b h => ih _ (ordered_buildStep h step)
  have hinitial : Ordered (initialBuilder triggerType).edges (initialBuilder triggerType).edgeOrder :=
    ⟨List.Pairwise.nil, fun _ he => (List.not_mem_nil he).elim⟩
  exact (ordered_chain (hfold steps _ hinitial) _).sorted

end Obliance.Scenario

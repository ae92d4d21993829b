import Mathlib.Data.List.Sort
import Obliance.Commands.Tables
import Obliance.Js.Value

/-!
# Scenario graphs (`services/scenarioGraph.service.ts`)

* `NodeRow`, `EdgeRow` : the rows of `scenario_nodes` and `scenario_edges`, a node's configuration by
  the fields its executor reads;
* `edgeMatches`, `pickNextEdge` : which edge an exit code takes;
* `pickNextEdge_mem` : the edge picked leaves the node, in the scenario.
-/

namespace Obliance.Scenario
open Obliance.Js Obliance.Commands

inductive TriggerType where
  | manual
  | sessionLogin
  | machineBoot
  | agentApproved
  | groupJoin
  | scheduleFailure
  | scheduleCron
  | agentBackOnline
  | metricWarning
  | metricCritical
  | metricCustom
  deriving DecidableEq, Repr

/-- The type of a node; `other` has no executor. -/
inductive NodeType where
  | trigger (type : TriggerType)
  | cooldown
  | runScript
  | sendNotification
  | wait
  | branchExitCode
  | runCommand
  | tagDevice
  | moveDeviceToGroup
  | branchOnDevice
  | endSuccess
  | endFailure
  | other (name : String)
  deriving DecidableEq, Repr

/-- `add` and `remove` of a tag node: an array or a comma-separated text. -/
inductive TagSpec where
  | list (tags : List String)
  | text (tags : String)
  deriving DecidableEq, Repr

/-- `none` is a missing field. -/
structure NodeConfig where
  scriptId : Option ℕ
  timeoutSeconds : Option ℕ
  commandType : Option CommandType
  targetMode : Option String
  targetDeviceIds : Option (List JsVal)
  seconds : Option ℚ
  duration : Option ℚ
  unit : Option String
  add : Option TagSpec
  remove : Option TagSpec
  groupId : Option ℕ
  field : Option String
  value : Option String
  message : Option String
  cronExpression : Option String
  timezone : Option String
  deriving DecidableEq, Repr

def NodeConfig.empty : NodeConfig :=
  ⟨none, none, none, none, none, none, none, none, none, none, none, none, none, none, none, none⟩

structure NodeRow where
  id : ℕ
  scenarioId : ℕ
  type : NodeType
  label : Option String
  config : NodeConfig
  deriving DecidableEq, Repr

inductive EdgeCondition where
  | always
  | default
  | exitCodeEq (value : ℤ)
  | exitCodeIn (values : List ℤ)
  | exitCodeNeq (value : ℤ)
  deriving DecidableEq, Repr

structure EdgeRow where
  id : ℕ
  scenarioId : ℕ
  sourceNodeId : ℕ
  targetNodeId : ℕ
  condition : EdgeCondition
  sortOrder : ℤ
  deriving DecidableEq, Repr

def edgeMatches (condition : EdgeCondition) (exitCode : Option ℤ) : Bool :=
  match condition with
  | .always => true
  | .default => false
  | .exitCodeEq value => decide (exitCode = some value)
  | .exitCodeIn values => exitCode.any fun code => decide (code ∈ values)
  | .exitCodeNeq value => decide (exitCode ≠ some value)

/-- `ORDER BY sort_order` -/
def outgoing (edges : List EdgeRow) (scenarioId fromNodeId : ℕ) : List EdgeRow :=
  (edges.filter fun e => decide (e.scenarioId = scenarioId ∧ e.sourceNodeId = fromNodeId)).insertionSort
    fun e e' => e.sortOrder ≤ e'.sortOrder

/-- The first edge that matches, or the first default edge. -/
def pickNextEdge (edges : List EdgeRow) (scenarioId fromNodeId : ℕ) (exitCode : Option ℤ) :
    Option EdgeRow :=
  let edges := outgoing edges scenarioId fromNodeId
  (edges.find? fun e => decide (e.condition ≠ .default) && edgeMatches e.condition exitCode).or
    (edges.find? fun e => decide (e.condition = .default))

theorem mem_outgoing {edges : List EdgeRow} {scenarioId fromNodeId : ℕ} {e : EdgeRow} :
    e ∈ outgoing edges scenarioId fromNodeId ↔
      e ∈ edges ∧ e.scenarioId = scenarioId ∧ e.sourceNodeId = fromNodeId := by
  rw [outgoing, List.mem_insertionSort, List.mem_filter, decide_eq_true_eq]

theorem pickNextEdge_mem {edges : List EdgeRow} {scenarioId fromNodeId : ℕ} {exitCode : Option ℤ}
    {e : EdgeRow} (h : pickNextEdge edges scenarioId fromNodeId exitCode = some e) :
    e ∈ edges ∧ e.scenarioId = scenarioId ∧ e.sourceNodeId = fromNodeId := by
  rcases Option.or_eq_some_iff.1 h with h | ⟨-, h⟩
  · exact mem_outgoing.1 (List.mem_of_find?_eq_some h)
  · exact mem_outgoing.1 (List.mem_of_find?_eq_some h)

end Obliance.Scenario

import ControlPlane.Cluster
import ControlPlane.Decimal.Binary
import ControlPlane.Decimal.Format
import ControlPlane.SortedMap

/-!
# What the rules of safe mode go by

The five rules by name, the events that they are told of, and the count that a
fraction of a total asks for.
-/

namespace ControlPlane.Readiness

/-- The rules that hold safe mode. -/
inductive RuleName
  | nodes
  | ratisContainers
  | ecContainers
  | healthyPipelines
  | reportedPipelines
  deriving DecidableEq, Repr

namespace RuleName

/-- The rules in order. -/
def all : List RuleName :=
  [.nodes, .ratisContainers, .ecContainers, .healthyPipelines, .reportedPipelines]

/-- The name of a rule as operators know it. -/
def text : RuleName → String
  | .nodes => "DataNodeSafeModeRule"
  | .ratisContainers => "RatisContainerSafeModeRule"
  | .ecContainers => "ECContainerSafeModeRule"
  | .healthyPipelines => "HealthyPipelineSafeModeRule"
  | .reportedPipelines => "AtleastOneDatanodeReportedRule"

/-- The rule that a text names. -/
def ofText? (text : String) : Option RuleName := all.find? fun n => n.text == text

/-- The place of a rule. -/
def place : RuleName → Nat
  | .nodes => 0
  | .ratisContainers => 1
  | .ecContainers => 2
  | .healthyPipelines => 3
  | .reportedPipelines => 4

instance : Ranked RuleName where
  rank := place
  rank_injective {a b} h := by cases a <;> cases b <;> first | rfl | exact absurd h (by decide)

end RuleName

/-- What happens in the cluster while it is in safe mode. -/
inductive Event
  /-- The first report of a node. -/
  | nodeRegistered (report : NodeReport)
  /-- A later report of a node. -/
  | containersReported (report : NodeReport)
  /-- A pipeline was opened. -/
  | pipelineOpened (pipeline : Pipeline)
  /-- A node says that it is a member of pipelines. -/
  | pipelinesReported (node : NodeId) (pipelines : List PipelineId)
  deriving DecidableEq

/-- The least count that is a fraction of a total. -/
def cutoff (fraction : Float) (total : Nat) : Nat :=
  Decimal.roundUp (fraction * Decimal.ofWord total)

end ControlPlane.Readiness

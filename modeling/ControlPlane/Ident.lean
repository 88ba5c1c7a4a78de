import ControlPlane.Json.Wire
import ControlPlane.Uuid

/-!
# Identifiers

The names of the three things that the control plane keeps account of.  Nodes
and pipelines are named by universally unique identifiers, containers by
numbers that the control plane hands out itself.
-/

namespace ControlPlane

open Json

/-- The identifier of a data node. -/
structure NodeId where
  uuid : Uuid
  deriving DecidableEq, Repr

/-- The identifier of a pipeline. -/
structure PipelineId where
  uuid : Uuid
  deriving DecidableEq, Repr

/-- The identifier of a container. -/
structure ContainerId where
  number : UInt64
  deriving DecidableEq, Repr

instance : Ranked NodeId where
  rank id := rank id.uuid
  rank_injective {a b} h := by
    cases a
    cases b
    exact congrArg NodeId.mk (rank_injective h)

instance : Ranked PipelineId where
  rank id := rank id.uuid
  rank_injective {a b} h := by
    cases a
    cases b
    exact congrArg PipelineId.mk (rank_injective h)

instance : Ranked ContainerId where
  rank id := id.number.toNat
  rank_injective {a b} h := by
    cases a
    cases b
    exact congrArg ContainerId.mk (UInt64.toNat_inj.1 h)

/-- Reads a universally unique identifier. -/
def Uuid.reader : Reader Uuid := parsed "a UUID" Uuid.parse?

namespace NodeId

/-- The node that a text names. -/
def parse? (text : String) : Option NodeId := (Uuid.parse? text).map NodeId.mk

/-- The text of a node's identifier. -/
def text (id : NodeId) : String := id.uuid.text

/-- The identifier in JSON. -/
def json (id : NodeId) : Value := id.text

/-- Reads the identifier of a node. -/
def reader : Reader NodeId := fun d => (Uuid.reader d).map NodeId.mk

end NodeId

namespace PipelineId

/-- The text of a pipeline's identifier. -/
def text (id : PipelineId) : String := id.uuid.text

/-- The identifier in JSON. -/
def json (id : PipelineId) : Value := id.text

/-- Reads the identifier of a pipeline. -/
def reader : Reader PipelineId := fun d => (Uuid.reader d).map PipelineId.mk

end PipelineId

namespace ContainerId

/-- The text of a container's identifier. -/
def text (id : ContainerId) : String := "#" ++ Nat.repr id.number.toNat

/-- The identifier in JSON. -/
def json (id : ContainerId) : Value := id.number.toNat

/-- Reads the identifier of a container. -/
def reader : Reader ContainerId := fun d => (word64 d).map ContainerId.mk

end ContainerId

instance : Wire NodeId := ⟨NodeId.json, NodeId.reader⟩
instance : Wire PipelineId := ⟨PipelineId.json, PipelineId.reader⟩
instance : Wire ContainerId := ⟨ContainerId.json, ContainerId.reader⟩

/-- A set of identifiers in JSON, in ascending order. -/
def SortedSet.json {α : Type} [Ranked α] (item : α → Value) (s : SortedSet α) : Value :=
  .array (s.toList.map item)

/-- Reads a list of values as a set. -/
def SortedSet.reader {α : Type} [Ranked α] (item : Reader α) : Reader (SortedSet α) :=
  fun d => (list item d).map SortedSet.ofList

end ControlPlane

import ControlPlane.Pipeline.Basic

/-!
# Exclusions

What one allocation request asks to stay away from: pipelines, nodes, and
containers, for instance those that a writer has just failed on.
-/

namespace ControlPlane

open Json

/-- The things that a request excludes. -/
structure Exclusions where
  pipelines : SortedSet PipelineId := ∅
  nodes : SortedSet NodeId := ∅
  containers : SortedSet ContainerId := ∅
  deriving DecidableEq

namespace Exclusions

/-- Excludes a pipeline too. -/
def addPipeline (e : Exclusions) (id : PipelineId) : Exclusions :=
  { e with pipelines := e.pipelines.insert id }

/-- Excludes a node too. -/
def addNode (e : Exclusions) (id : NodeId) : Exclusions := { e with nodes := e.nodes.insert id }

/-- Excludes a container too. -/
def addContainer (e : Exclusions) (id : ContainerId) : Exclusions :=
  { e with containers := e.containers.insert id }

/-- Is the node excluded? -/
def excludesNode (e : Exclusions) (id : NodeId) : Bool := e.nodes.contains id

/-- Is the container excluded? -/
def excludesContainer (e : Exclusions) (id : ContainerId) : Bool := e.containers.contains id

/-- Is the pipeline excluded, by itself or through one of its members? -/
def excludesPipeline (e : Exclusions) (p : Pipeline) : Bool :=
  e.pipelines.contains p.id || p.members.any e.excludesNode

/-- Is nothing excluded? -/
def isEmpty (e : Exclusions) : Bool :=
  e.pipelines.isEmpty && e.nodes.isEmpty && e.containers.isEmpty

/-- The exclusions in JSON. -/
def json (e : Exclusions) : Value :=
  .object [
    ("pipelines", e.pipelines.json PipelineId.json),
    ("nodes", e.nodes.json NodeId.json),
    ("containers", e.containers.json ContainerId.json)]

/-- Reads exclusions; all three sets have to be given. -/
def reader : Reader Exclusions :=
  Record.read (Exclusions.mk <$>
    Record.required "pipelines" (SortedSet.reader PipelineId.reader) <*>
    Record.required "nodes" (SortedSet.reader NodeId.reader) <*>
    Record.required "containers" (SortedSet.reader ContainerId.reader))

end Exclusions

instance : Wire Exclusions := ⟨Exclusions.json, Exclusions.reader⟩

end ControlPlane

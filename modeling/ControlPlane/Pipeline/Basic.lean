import ControlPlane.Ident
import ControlPlane.Instant
import ControlPlane.Replication

/-!
# Pipelines

A pipeline is a fixed, ordered group of nodes that replicates the containers
bound to it by one scheme.
-/

namespace ControlPlane

open Json

/-- The life of a pipeline. -/
inductive PipelineState
  /-- Its members are chosen, but no container may be written yet. -/
  | allocated
  | opened
  | dormant
  | closed
  deriving DecidableEq, Repr

/-- A group of nodes that replicates containers. -/
structure Pipeline where
  id : PipelineId
  scheme : Scheme
  /-- The members in order. -/
  members : List NodeId
  state : PipelineState
  createdAt : Instant
  deriving DecidableEq, Repr

namespace Pipeline

/-- May containers on the pipeline be written? -/
def isOpen (p : Pipeline) : Bool := p.state == .opened

/-- The first member. -/
def first? (p : Pipeline) : Option NodeId := p.members.head?

/-- Is the node a member? -/
def hasMember (p : Pipeline) (id : NodeId) : Bool := p.members.contains id

end Pipeline

/-! ## Names and JSON -/

/-- The states in order. -/
def PipelineState.all : List PipelineState := [.allocated, .opened, .dormant, .closed]

/-- The name of a state. -/
def PipelineState.name : PipelineState → String
  | .allocated => "Allocated"
  | .opened => "Open"
  | .dormant => "Dormant"
  | .closed => "Closed"

/-- Reads a state. -/
def PipelineState.reader : Reader PipelineState :=
  enumeration (PipelineState.all.map fun s => (s.name, s))

/-- A moment in JSON. -/
def Instant.json (i : Instant) : Value := i.text

/-- Reads a moment. -/
def Instant.reader : Reader Instant := parsed "a date and time" Instant.parse?

namespace Pipeline

/-- The pipeline in JSON. -/
def json (p : Pipeline) : Value :=
  .object [
    ("id", p.id.json),
    ("replication", p.scheme.json),
    ("nodes", .array (p.members.map NodeId.json)),
    ("state", p.state.name),
    ("created_at", p.createdAt.json)]

/-- Reads a pipeline. -/
def reader : Reader Pipeline :=
  Record.read (Pipeline.mk <$> Record.required "id" PipelineId.reader <*>
    Record.required "replication" Scheme.reader <*>
    Record.required "nodes" (list NodeId.reader) <*>
    Record.required "state" PipelineState.reader <*>
    Record.required "created_at" Instant.reader)

end Pipeline

instance : Wire PipelineState := ⟨fun s => .text s.name, PipelineState.reader⟩
instance : Wire Pipeline := ⟨Pipeline.json, Pipeline.reader⟩

end ControlPlane

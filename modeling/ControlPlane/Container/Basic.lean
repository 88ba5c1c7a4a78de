import ControlPlane.Ident
import ControlPlane.Instant
import ControlPlane.Pipeline.Basic
import ControlPlane.Replication

/-!
# Containers

A container holds up to a fixed number of bytes and is what writers are
handed.  It is bound to the pipeline that replicates it.
-/

namespace ControlPlane

open Json

/-- The life of a container. -/
inductive ContainerState
  | opened
  | closing
  | quasiClosed
  | closed
  | deleting
  | deleted
  deriving DecidableEq, Repr

/-- A container. -/
structure Container where
  id : ContainerId
  pipeline : PipelineId
  scheme : Scheme
  owner : String
  state : ContainerState
  usedBytes : UInt64
  keys : UInt64
  /-- When the container was last handed to a writer. -/
  lastUsed : Instant
  deriving DecidableEq, Repr

/-- Is the container closed, so that its replicas have to be reported? -/
def ContainerState.isClosed (s : ContainerState) : Bool := s == .closed || s == .quasiClosed

namespace Container

/-- A container without content. -/
def fresh (id : ContainerId) (pipeline : PipelineId) (scheme : Scheme) (owner : String)
    (now : Instant) : Container where
  id
  pipeline
  scheme
  owner
  state := .opened
  usedBytes := 0
  keys := 0
  lastUsed := now

/-- The bytes left below a limit. -/
def remaining (c : Container) (limit : UInt64) : Nat := limit.toNat - c.usedBytes.toNat

/-- Is there room for some more bytes below a limit? -/
def hasSpace (c : Container) (size limit : UInt64) : Bool := size.toNat ≤ c.remaining limit

/-- Can the container take some more bytes below a limit? -/
def accepts (c : Container) (size limit : UInt64) : Bool :=
  c.state == .opened && c.hasSpace size limit

/-- Does safe mode wait for replicas of the container?  It does if the
container is closed and holds a key. -/
def awaited (c : Container) : Bool := c.state.isClosed && 0 < c.keys

end Container

/-! ## Names and JSON -/

/-- The states in order. -/
def ContainerState.all : List ContainerState :=
  [.opened, .closing, .quasiClosed, .closed, .deleting, .deleted]

/-- The name of a state. -/
def ContainerState.name : ContainerState → String
  | .opened => "Open"
  | .closing => "Closing"
  | .quasiClosed => "QuasiClosed"
  | .closed => "Closed"
  | .deleting => "Deleting"
  | .deleted => "Deleted"

/-- Reads a state. -/
def ContainerState.reader : Reader ContainerState :=
  enumeration (ContainerState.all.map fun s => (s.name, s))

namespace Container

/-- The container in JSON. -/
def json (c : Container) : Value :=
  .object [
    ("id", c.id.json),
    ("pipeline_id", c.pipeline.json),
    ("replication", c.scheme.json),
    ("owner", c.owner),
    ("state", c.state.name),
    ("used_bytes", c.usedBytes.toNat),
    ("number_of_keys", c.keys.toNat),
    ("last_used", c.lastUsed.json)]

/-- Reads a container. -/
def reader : Reader Container :=
  Record.read (Container.mk <$> Record.required "id" ContainerId.reader <*>
    Record.required "pipeline_id" PipelineId.reader <*>
    Record.required "replication" Scheme.reader <*>
    Record.required "owner" Json.text <*>
    Record.required "state" ContainerState.reader <*>
    Record.required "used_bytes" word64 <*>
    Record.required "number_of_keys" word64 <*>
    Record.required "last_used" Instant.reader)

end Container

instance : Wire ContainerState := ⟨fun s => .text s.name, ContainerState.reader⟩
instance : Wire Container := ⟨Container.json, Container.reader⟩

end ControlPlane

import ControlPlane.Ident
import ControlPlane.Node.Status

/-!
# What nodes say about themselves

The description that a node registers with, the figures of its storage, and
the report that lists the containers it hosts.
-/

namespace ControlPlane

open Json

/-- Who a node is and where it stands. -/
structure Descriptor where
  id : NodeId
  host : String
  address : String
  /-- The rack of the node, as a path in the topology. -/
  location : String
  deriving DecidableEq, Repr

/-- The rack of a node that names none. -/
def Descriptor.defaultLocation : String := "/default-rack"

/-- The storage of a node. -/
structure Storage where
  /-- How many volumes can be used now. -/
  healthyVolumes : UInt64 := 0
  capacity : UInt64 := 0
  used : UInt64 := 0
  deriving DecidableEq, Repr

/-- The bytes left; none if more are used than there are. -/
def Storage.remaining (s : Storage) : Nat := s.capacity.toNat - s.used.toNat

/-- The full report of a node. -/
structure NodeReport where
  descriptor : Descriptor
  containers : List ContainerId
  storage : Storage := {}
  deriving DecidableEq, Repr

/-- What the registry knows about a node. -/
structure NodeInfo where
  descriptor : Descriptor
  status : NodeStatus
  containerCount : Nat
  storage : Storage
  deriving DecidableEq, Repr

/-! ## JSON -/

/-- The description in JSON. -/
def Descriptor.json (d : Descriptor) : Value :=
  .object [
    ("id", d.id.json),
    ("hostname", d.host),
    ("ip_address", d.address),
    ("network_location", d.location)]

/-- Reads a description. -/
def Descriptor.reader : Reader Descriptor :=
  Record.read (Descriptor.mk <$> Record.required "id" NodeId.reader <*>
    Record.required "hostname" Json.text <*>
    Record.required "ip_address" Json.text <*>
    Record.required "network_location" Json.text)

/-- The storage in JSON. -/
def Storage.json (s : Storage) : Value :=
  .object [
    ("healthy_volumes", s.healthyVolumes.toNat),
    ("capacity_bytes", s.capacity.toNat),
    ("used_bytes", s.used.toNat)]

/-- Reads the figures of a storage. -/
def Storage.reader : Reader Storage :=
  Record.read (Storage.mk <$> Record.required "healthy_volumes" word64 <*>
    Record.required "capacity_bytes" word64 <*>
    Record.required "used_bytes" word64)

/-- The report in JSON. -/
def NodeReport.json (r : NodeReport) : Value :=
  .object [
    ("descriptor", r.descriptor.json),
    ("containers", .array (r.containers.map ContainerId.json)),
    ("storage", r.storage.json)]

/-- Reads a report; its storage may be left out. -/
def NodeReport.reader : Reader NodeReport :=
  Record.read (NodeReport.mk <$> Record.required "descriptor" Descriptor.reader <*>
    Record.required "containers" (list ContainerId.reader) <*>
    Record.withDefault "storage" Storage.reader {})

/-- What is known about a node in JSON. -/
def NodeInfo.json (i : NodeInfo) : Value :=
  .object [
    ("descriptor", i.descriptor.json),
    ("status", i.status.json),
    ("container_count", i.containerCount),
    ("storage", i.storage.json)]

/-- Reads what is known about a node. -/
def NodeInfo.reader : Reader NodeInfo :=
  Record.read (NodeInfo.mk <$> Record.required "descriptor" Descriptor.reader <*>
    Record.required "status" NodeStatus.reader <*>
    (UInt64.toNat <$> Record.required "container_count" word64) <*>
    Record.required "storage" Storage.reader)

instance : Wire Descriptor := ⟨Descriptor.json, Descriptor.reader⟩
instance : Wire Storage := ⟨Storage.json, Storage.reader⟩
instance : Wire NodeReport := ⟨NodeReport.json, NodeReport.reader⟩
instance : Wire NodeInfo := ⟨NodeInfo.json, NodeInfo.reader⟩

end ControlPlane

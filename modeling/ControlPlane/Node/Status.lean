import ControlPlane.Json.Wire

/-!
# The status of a node

A status joins two axes that change independently: the operational state that
an operator gives a node, and the health that its heartbeats show.
-/

namespace ControlPlane

open Json

/-- What an operator has a node do. -/
inductive Operation
  | inService
  | decommissioning
  | decommissioned
  | enteringMaintenance
  | inMaintenance
  deriving DecidableEq, Repr

/-- What the heartbeats of a node show. -/
inductive Health
  | healthy
  | stale
  | dead
  deriving DecidableEq, Repr

/-- The status of a node. -/
structure NodeStatus where
  operation : Operation
  health : Health
  /-- When the operational state ends by itself, in seconds after 1970. -/
  expiry : Option Int := none
  deriving DecidableEq, Repr

/-- The operational states in order. -/
def Operation.all : List Operation :=
  [.inService, .decommissioning, .decommissioned, .enteringMaintenance, .inMaintenance]

/-- The healths in order. -/
def Health.all : List Health := [.healthy, .stale, .dead]

namespace NodeStatus

/-- The status of a node that takes part in everything. -/
def inServiceHealthy : NodeStatus := { operation := .inService, health := .healthy }

/-- The status of a node in service whose heartbeats are late. -/
def inServiceStale : NodeStatus := { operation := .inService, health := .stale }

/-- The status of a node in service whose heartbeats have stopped. -/
def inServiceDead : NodeStatus := { operation := .inService, health := .dead }

/-- Is the node in service? -/
def isInService (s : NodeStatus) : Bool := s.operation == .inService

/-- Is the node healthy? -/
def isHealthy (s : NodeStatus) : Bool := s.health == .healthy

/-- May the node become a member of a new pipeline? -/
def isEligible (s : NodeStatus) : Bool := s.isInService && s.isHealthy

/-- Is the node on its way out of the cluster, or out of it? -/
def isDecommission (s : NodeStatus) : Bool :=
  s.operation == .decommissioning || s.operation == .decommissioned

/-- Is the node on its way into maintenance, or in it? -/
def isMaintenance (s : NodeStatus) : Bool :=
  s.operation == .enteringMaintenance || s.operation == .inMaintenance

end NodeStatus

/-- A demand on the status of a node; an axis that is left out may have any value. -/
structure StatusFilter where
  operation : Option Operation := none
  health : Option Health := none
  deriving DecidableEq, Repr

/-- Does a status meet the demand? -/
def StatusFilter.accepts (f : StatusFilter) (s : NodeStatus) : Bool :=
  (f.operation.all fun o => o == s.operation) && (f.health.all fun h => h == s.health)

/-! ## Names and JSON -/

/-- The name of an operational state. -/
def Operation.name : Operation → String
  | .inService => "InService"
  | .decommissioning => "Decommissioning"
  | .decommissioned => "Decommissioned"
  | .enteringMaintenance => "EnteringMaintenance"
  | .inMaintenance => "InMaintenance"

/-- The operational state with a name. -/
def Operation.ofName? (name : String) : Option Operation :=
  Operation.all.find? fun o => o.name == name

/-- Reads an operational state. -/
def Operation.reader : Reader Operation := enumeration (Operation.all.map fun o => (o.name, o))

/-- The name of a health. -/
def Health.name : Health → String
  | .healthy => "Healthy"
  | .stale => "Stale"
  | .dead => "Dead"

/-- The health with a name. -/
def Health.ofName? (name : String) : Option Health := Health.all.find? fun h => h.name == name

/-- Reads a health. -/
def Health.reader : Reader Health := enumeration (Health.all.map fun h => (h.name, h))

namespace NodeStatus

/-- The text of a status. -/
def text (s : NodeStatus) : String := s.operation.name ++ "/" ++ s.health.name

/-- The status in JSON. -/
def json (s : NodeStatus) : Value :=
  .object [
    ("operational_state", s.operation.name),
    ("health", s.health.name),
    ("op_state_expiry_epoch_secs", s.expiry.elim .null .whole)]

/-- Reads a status. -/
def reader : Reader NodeStatus :=
  Record.read (NodeStatus.mk <$> Record.required "operational_state" Operation.reader <*>
    Record.required "health" Health.reader <*>
    Record.optional "op_state_expiry_epoch_secs" integer64)

end NodeStatus

instance : Wire Operation := ⟨fun o => .text o.name, Operation.reader⟩
instance : Wire Health := ⟨fun h => .text h.name, Health.reader⟩
instance : Wire NodeStatus := ⟨NodeStatus.json, NodeStatus.reader⟩

end ControlPlane

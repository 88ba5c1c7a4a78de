import ControlPlane.Decimal.Format

/-!
# Metrics

What the control plane counts, and the gauges that it was last given.  A
series is shown once something was recorded in it.
-/

namespace ControlPlane

/-- The figures of the gauges. -/
structure Gauges where
  nodes : UInt64
  healthyNodes : UInt64
  inSafeMode : Bool
  deriving DecidableEq, Repr

/-- The counters, and the gauges where they were set. -/
structure Metrics where
  /-- Nodes that registered. -/
  nodesRegistered : Nat := 0
  /-- Rules of safe mode that came to hold. -/
  rulesValidated : Nat := 0
  /-- Exits from safe mode by its rules. -/
  exits : Nat := 0
  /-- Exits from safe mode by force. -/
  forcedExits : Nat := 0
  /-- Pipelines made for a request that got its container there. -/
  pipelinesCreated : Nat := 0
  /-- Pipelines closed by a request. -/
  pipelinesClosed : Nat := 0
  /-- Requests that got a container on a new pipeline. -/
  newAllocations : Nat := 0
  /-- Requests that got a container that was there. -/
  reuses : Nat := 0
  /-- Requests that got no container. -/
  failures : Nat := 0
  gauges : Option Gauges := none
  deriving DecidableEq, Repr

namespace Metrics

/-- The metrics after an exit from safe mode. -/
def exited (m : Metrics) (forced : Bool) : Metrics :=
  if forced then { m with forcedExits := m.forcedExits + 1 } else { m with exits := m.exits + 1 }

/-- All allocations. -/
def allocations (m : Metrics) : Nat := m.newAllocations + m.reuses

/-- The counters with the names of their series. -/
def counters (m : Metrics) : List (String × Nat) :=
  [("scm_container_allocation_failures_total", m.failures),
    ("scm_container_allocations_total\x7bpath=\"new\"\x7d", m.newAllocations),
    ("scm_container_allocations_total\x7bpath=\"reuse\"\x7d", m.reuses),
    ("scm_nodes_registered_total", m.nodesRegistered),
    ("scm_pipelines_closed_total", m.pipelinesClosed),
    ("scm_pipelines_created_total", m.pipelinesCreated),
    ("scm_safemode_exits_total\x7bforced=\"false\"\x7d", m.exits),
    ("scm_safemode_exits_total\x7bforced=\"true\"\x7d", m.forcedExits),
    ("scm_safemode_rules_validated_total", m.rulesValidated)]

/-- The series of the gauges. -/
def Gauges.lines (g : Gauges) : List (String × String) :=
  [("scm_nodes_healthy", Decimal.plain g.healthyNodes.toFloat),
    ("scm_nodes_total", Decimal.plain g.nodes.toFloat),
    ("scm_safemode_in_safe_mode", if g.inSafeMode then "1" else "0")]

/-- The series in which something was recorded, each as a line, in order. -/
def lines (m : Metrics) : List String :=
  let counted := (m.counters.filter fun c => 0 < c.2).map fun c => (c.1, Nat.repr c.2)
  let shown := counted ++ m.gauges.elim [] Gauges.lines
  (shown.map fun s => s.1 ++ " " ++ s.2).mergeSort fun a b => a ≤ b

end Metrics

end ControlPlane

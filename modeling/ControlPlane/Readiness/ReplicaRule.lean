import ControlPlane.Readiness.Event

/-!
# Enough containers are reported

The rule tracks the closed containers of one kind of scheme that hold a key,
and counts those that enough different nodes report.  The reporters of a
container are forgotten once it is counted.
-/

namespace ControlPlane.Readiness

/-- The rule on the containers of one kind of scheme. -/
structure ReplicaRule where
  family : Family
  /-- The fraction of the tracked containers that has to be counted. -/
  threshold : Float
  /-- The containers to be reported, with the number of reporters each needs. -/
  tracked : SortedMap ContainerId Nat := ∅
  /-- Who reported a container that is not counted yet. -/
  reporters : SortedMap ContainerId (SortedSet NodeId) := ∅
  /-- The containers that enough nodes reported. -/
  counted : SortedSet ContainerId := ∅
  /-- Whether the rule is frozen. -/
  frozen : Bool := false

namespace ReplicaRule

/-- The containers to track, with the number of reporters each needs. -/
def awaited (family : Family) (containers : Inventory) : SortedMap ContainerId Nat :=
  .ofList (((containers.select (some family)).filter Container.awaited).map fun c =>
    (c.id, c.scheme.minReplicas))

/-- The rule over an inventory. -/
def make (family : Family) (threshold : Float) (containers : Inventory) : ReplicaRule where
  family
  threshold
  tracked := awaited family containers

/-- The fraction of the tracked containers that is counted; all, if there are
none. -/
def ratio (r : ReplicaRule) : Float :=
  if r.tracked.size = 0 then 1.0
  else Decimal.ofWord r.counted.size / Decimal.ofWord r.tracked.size

/-- Does the rule hold? -/
def holds (r : ReplicaRule) : Bool := r.ratio ≥ r.threshold

/-- The rule after a node reported a container. -/
def record (r : ReplicaRule) (node : NodeId) (c : ContainerId) : ReplicaRule :=
  match r.tracked.find? c with
  | none => r
  | some needed =>
    if r.counted.contains c then r
    else
      let reporters := ((r.reporters.find? c).getD ∅).insert node
      if needed ≤ reporters.size then
        { r with reporters := r.reporters.erase c, counted := r.counted.insert c }
      else { r with reporters := r.reporters.insert c reporters }

/-- The rule after a node reported some containers. -/
def recordAll (r : ReplicaRule) (node : NodeId) (cs : List ContainerId) : ReplicaRule :=
  cs.foldl (fun r c => r.record node c) r

/-- The rule after an event; a frozen one does not change. -/
def process (r : ReplicaRule) : Event → ReplicaRule
  | .nodeRegistered report | .containersReported report =>
    if r.frozen then r else r.recordAll report.descriptor.id report.containers
  | _ => r

/-- The rule counted anew from an inventory and what the nodes of a registry
host. -/
def recount (r : ReplicaRule) (k : Cluster) : ReplicaRule :=
  k.nodes.nodes.rows.foldl (fun r row => r.recordAll row.1 row.2.containers.toList)
    (make r.family r.threshold k.containers)

/-- The rule counted anew; one that holds is left alone unless it is forced,
and a frozen one does not change. -/
def refresh (r : ReplicaRule) (k : Cluster) (force : Bool) : ReplicaRule :=
  if !force && r.holds then r else if r.frozen then r else r.recount k

/-- The frozen rule. -/
def freeze (r : ReplicaRule) : ReplicaRule := { r with reporters := ∅, frozen := true }

/-- The kind of scheme in words. -/
def label (r : ReplicaRule) : String :=
  match r.family with
  | .ratis => "Ratis"
  | .ec => "EC"

/-- The state of the rule in words. -/
def text (r : ReplicaRule) : String :=
  "% of " ++ r.label ++ " containers with enough reported replicas (" ++
    Nat.repr r.counted.size ++ " of " ++ Nat.repr r.tracked.size ++ " = " ++
    Decimal.fixed 2 r.ratio ++ ") >= safe mode cutoff (=" ++ Decimal.fixed 2 r.threshold ++ ")"

end ReplicaRule

end ControlPlane.Readiness

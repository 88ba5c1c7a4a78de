import ControlPlane.Readiness.Event

/-!
# Enough nodes have registered

The rule counts the nodes that registered while it was told of events, and
those that were in the registry whenever it was refreshed.
-/

namespace ControlPlane.Readiness

/-- The rule on the number of nodes. -/
structure NodeRule where
  required : UInt64
  registered : SortedSet NodeId := ∅
  deriving DecidableEq

namespace NodeRule

/-- Does the rule hold? -/
def holds (r : NodeRule) : Bool := r.required.toNat ≤ r.registered.size

/-- The rule after an event. -/
def process (r : NodeRule) : Event → NodeRule
  | .nodeRegistered report => { r with registered := r.registered.insert report.descriptor.id }
  | _ => r

/-- The rule with the nodes of the registry added; one that holds is left alone
unless it is forced. -/
def refresh (r : NodeRule) (nodes : Registry) (force : Bool) : NodeRule :=
  if !force && r.holds then r else { r with registered := r.registered.insertAll nodes.ids }

/-- The state of the rule in words. -/
def text (r : NodeRule) : String :=
  "registered datanodes (=" ++ Nat.repr r.registered.size ++ ") >= required datanodes (=" ++
    Nat.repr r.required.toNat ++ ")"

end NodeRule

end ControlPlane.Readiness

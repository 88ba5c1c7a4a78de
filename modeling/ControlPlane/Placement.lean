import ControlPlane.Registry

/-!
# Placement

Choosing the members of a new pipeline among the nodes that are in service,
healthy and not excluded.  Favoured nodes that qualify come first, in the order
of the caller; a strategy fills the remaining places.
-/

namespace ControlPlane

open Json

/-- How the places are filled that favoured nodes leave. -/
inductive Strategy
  /-- With any nodes. -/
  | random
  /-- With nodes of as many racks as there are. -/
  | spreadRacks
  /-- With the nodes that host the fewest containers. -/
  | leastLoaded
  deriving DecidableEq, Repr

instance : Inhabited Strategy := ⟨.leastLoaded⟩

namespace Strategy

/-- The name of a strategy. -/
def name : Strategy → String
  | .random => "Random"
  | .spreadRacks => "SpreadRacks"
  | .leastLoaded => "LeastLoaded"

/-- Reads a strategy. -/
def reader : Reader Strategy :=
  enumeration ([Strategy.random, .spreadRacks, .leastLoaded].map fun s => (s.name, s))

end Strategy

instance : Wire Strategy := ⟨fun s => .text s.name, Strategy.reader⟩

namespace Placement

/-! ## The strategies -/

/-- The nodes by ascending number of containers; nodes with the same number
keep their order. -/
def byLoad (nodes : List NodeInfo) : List NodeInfo :=
  nodes.mergeSort fun a b => a.containerCount ≤ b.containerCount

/-- Some of the nodes in the order of draws; each draw picks among the nodes
that are left. -/
def draw (draws : Nat → Nat) : Nat → List NodeInfo → List NodeInfo
  | 0, _ => []
  | k + 1, nodes =>
    let i := draws k % nodes.length
    match nodes[i]? with
    | none => []
    | some node => node :: draw draws k (nodes.eraseIdx i)

/-- The nodes of each rack, the racks by ascending name and the nodes of a rack
by ascending number of containers. -/
def racks (nodes : List NodeInfo) : List (List NodeInfo) :=
  let names := ((nodes.map (·.descriptor.location)).eraseDups).mergeSort fun a b => a ≤ b
  names.map fun name => byLoad (nodes.filter fun n => n.descriptor.location == name)

/-- One node of each rack that has one, then a second of each, and so on. -/
def rounds : Nat → List (List NodeInfo) → List NodeInfo
  | 0, _ => []
  | k + 1, racks => racks.filterMap List.head? ++ rounds k (racks.map List.tail)

/-- The nodes in turns over their racks. -/
def spread (nodes : List NodeInfo) : List NodeInfo := rounds nodes.length (racks nodes)

/-- The nodes that a strategy fills some places with. -/
def fill (strategy : Strategy) (draws : Nat → Nat) (count : Nat) (nodes : List NodeInfo) :
    List NodeInfo :=
  match strategy with
  | .random => draw draws count nodes
  | .spreadRacks => (spread nodes).take count
  | .leastLoaded => (byLoad nodes).take count

/-! ## Choosing members -/

/-- What a new pipeline asks of its members. -/
structure Demand where
  count : Nat
  excluded : List NodeId := []
  favored : List NodeId := []
  deriving DecidableEq, Repr

/-- May the node become a member? -/
def Demand.accepts (d : Demand) (n : NodeInfo) : Bool :=
  n.status.isEligible && !d.excluded.contains n.descriptor.id

/-- The favoured nodes that take a place. -/
def Demand.preferred (d : Demand) (available : List NodeInfo) : List NodeId :=
  (d.favored.filter fun id => available.any fun n => n.descriptor.id == id).take d.count

/-- The members of a new pipeline among some nodes.  The draws decide where the
strategy leaves a choice. -/
def choose (strategy : Strategy) (draws : Nat → Nat) (nodes : List NodeInfo) (d : Demand) :
    Except Error (List NodeId) :=
  if d.count = 0 then .error (.placement .noMembers)
  else
    let available := nodes.filter d.accepts
    if available.length < d.count then
      .error (.placement (.tooFewNodes d.count available.length d.excluded.eraseDups.length))
    else
      let first := d.preferred available
      let rest := available.filter fun n => !first.contains n.descriptor.id
      .ok (first ++ (fill strategy draws (d.count - first.length) rest).map (·.descriptor.id))

/-- Every node that a strategy may choose, over all draws. -/
def support (strategy : Strategy) (nodes : List NodeInfo) (d : Demand) :
    Except Error (SortedSet NodeId) :=
  (List.range (max 1 nodes.length)).foldlM (fun s i =>
    (choose strategy (fun _ => i) nodes d).map s.insertAll) ∅

end Placement

end ControlPlane

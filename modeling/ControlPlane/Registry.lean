import ControlPlane.Error
import ControlPlane.Node.Report
import ControlPlane.Table

/-!
# The node registry

The registry keeps, for every node that was ever added, its description, its
status, the containers it hosts and its storage.  Nodes are listed in the
order in which they were added and are never removed.  An operation on a node
that was never added fails and changes nothing; any other changes the entry of
that node only.
-/

namespace ControlPlane

/-- What the registry keeps for a node. -/
structure Registry.Entry where
  descriptor : Descriptor
  status : NodeStatus
  containers : SortedSet ContainerId := ∅
  storage : Storage := {}
  deriving DecidableEq

/-- What is told about an entry. -/
def Registry.Entry.info (e : Registry.Entry) : NodeInfo where
  descriptor := e.descriptor
  status := e.status
  containerCount := e.containers.size
  storage := e.storage

/-- The nodes of the cluster. -/
@[ext] structure Registry where
  nodes : Table NodeId Registry.Entry
  /-- Every node stands under its own identifier. -/
  keyed : ∀ r ∈ nodes.rows, r.2.descriptor.id = r.1

namespace Registry

/-- The registry without nodes. -/
def empty : Registry := ⟨∅, nofun⟩

instance : EmptyCollection Registry := ⟨empty⟩
instance : Inhabited Registry := ⟨empty⟩

/-! ## Looking up a node -/

/-- The entry of a node. -/
def find? (r : Registry) (id : NodeId) : Option Entry := r.nodes.find? id

/-- Was the node added? -/
def contains (r : Registry) (id : NodeId) : Bool := r.nodes.contains id

/-- The entry of a node that has to exist. -/
def entry (r : Registry) (id : NodeId) : Except Error Entry :=
  match r.find? id with
  | some e => .ok e
  | none => .error (.nodeNotFound id)

/-- The status of a node. -/
def status (r : Registry) (id : NodeId) : Except Error NodeStatus := (r.entry id).map (·.status)

/-- The description of a node. -/
def descriptor (r : Registry) (id : NodeId) : Except Error Descriptor :=
  (r.entry id).map (·.descriptor)

/-- What is known about a node. -/
def info (r : Registry) (id : NodeId) : Except Error NodeInfo := (r.entry id).map (·.info)

/-- The containers that a node hosts. -/
def containers (r : Registry) (id : NodeId) : Except Error (SortedSet ContainerId) :=
  (r.entry id).map (·.containers)

/-- Is the node known, and healthy? -/
def isHealthy (r : Registry) (id : NodeId) : Bool := (r.find? id).any (·.status.isHealthy)

/-- The bytes left on a node; none on one that is not known. -/
def headroom (r : Registry) (id : NodeId) : Nat := (r.find? id).elim 0 (·.storage.remaining)

/-! ## Adding and changing nodes -/

/-- The registry with an entry put under the identifier of its node. -/
def put (r : Registry) (e : Entry) : Registry where
  nodes := r.nodes.insert e.descriptor.id e
  keyed _ hs := by
    rcases Table.mem_rows_insert hs with rfl | hs
    · rfl
    · exact r.keyed _ hs

/-- The registry with the entry of a node changed, where there is one, though
not its identifier. -/
def modify (r : Registry) (id : NodeId) (f : Entry → Entry)
    (hf : ∀ e, (f e).descriptor.id = e.descriptor.id) : Registry where
  nodes := r.nodes.modify id f
  keyed _ hs := by
    rcases Table.mem_rows_modify hs with hs | ⟨e, he, h⟩
    · exact r.keyed _ hs
    · rw [h, hf]
      exact r.keyed _ he

/-- Adds a node that hosts nothing yet.  A node that is known is not added again. -/
def add (r : Registry) (d : Descriptor) (status : NodeStatus) : Except Error Registry :=
  if r.contains d.id then .error (.nodeExists d.id) else .ok (r.put { descriptor := d, status })

/-- Changes the entry of a node that has to exist, though not its identifier. -/
def update (r : Registry) (id : NodeId) (f : Entry → Entry)
    (hf : ∀ e, (f e).descriptor.id = e.descriptor.id) : Except Error Registry :=
  (r.entry id).map fun _ => r.modify id f hf

/-- Gives a node another health. -/
def setHealth (r : Registry) (id : NodeId) (health : Health) : Except Error Registry :=
  r.update id (fun e => { e with status := { e.status with health } }) fun _ => rfl

/-- Gives a node another operational state, and a time for it to end. -/
def setOperation (r : Registry) (id : NodeId) (operation : Operation) (expiry : Option Int) :
    Except Error Registry :=
  r.update id (fun e => { e with status := { e.status with operation, expiry } }) fun _ => rfl

/-- Has a node host one more container. -/
def addContainer (r : Registry) (id : NodeId) (c : ContainerId) : Except Error Registry :=
  r.update id (fun e => { e with containers := e.containers.insert c }) fun _ => rfl

/-- Has a node host a container no longer. -/
def removeContainer (r : Registry) (id : NodeId) (c : ContainerId) : Except Error Registry :=
  r.update id (fun e => { e with containers := e.containers.erase c }) fun _ => rfl

/-- Has a node host the containers of a list and no others. -/
def setContainers (r : Registry) (id : NodeId) (cs : List ContainerId) : Except Error Registry :=
  r.update id (fun e => { e with containers := SortedSet.ofList cs }) fun _ => rfl

/-- Gives a node other figures of storage. -/
def setStorage (r : Registry) (id : NodeId) (storage : Storage) : Except Error Registry :=
  r.update id (fun e => { e with storage }) fun _ => rfl

/-! ## Ingesting reports -/

/-- Registers a node as in service and healthy, and tells whether it is new.  A
node that is known stays as it is. -/
def register (r : Registry) (d : Descriptor) : Bool × Registry :=
  match r.add d .inServiceHealthy with
  | .ok r => (true, r)
  | .error _ => (false, r)

/-- Takes the containers and the storage of a report over, registers the node
if it is not known, and tells whether it was new. -/
def report (r : Registry) (n : NodeReport) : Bool × Registry :=
  let (isNew, r) := r.register n.descriptor
  (isNew, r.modify n.descriptor.id
    (fun e => { e with containers := SortedSet.ofList n.containers, storage := n.storage })
    fun _ => rfl)

/-! ## Aggregates -/

/-- What is known about every node. -/
def infos (r : Registry) : List NodeInfo := r.nodes.values.map Entry.info

/-- What is known about the nodes whose status meets a demand. -/
def select (r : Registry) (f : StatusFilter) : List NodeInfo :=
  r.infos.filter fun i => f.accepts i.status

/-- The same by ascending identifier, as it is shown. -/
def listing (r : Registry) (f : StatusFilter) : List NodeInfo :=
  (r.select f).mergeSort fun a b => rank a.descriptor.id ≤ rank b.descriptor.id

/-- How many nodes have a status that meets a demand. -/
def count (r : Registry) (f : StatusFilter) : Nat :=
  (r.nodes.values.filter fun e => f.accepts e.status).length

/-- How many nodes have the operational state and the health of a status. -/
def countLike (r : Registry) (s : NodeStatus) : Nat :=
  r.count { operation := some s.operation, health := some s.health }

/-- The nodes in the order in which they were added. -/
def ids (r : Registry) : List NodeId := r.nodes.keys

/-- The number of nodes. -/
def size (r : Registry) : Nat := r.nodes.size

/-- The sum of two words, if it is a word. -/
def addChecked (m n : UInt64) : Option UInt64 :=
  if m.toNat + n.toNat < UInt64.size then some (m + n) else none

/-- The healthy volumes of all nodes in service and healthy, if they fit a word. -/
def healthyVolumes (r : Registry) : Option UInt64 :=
  ((r.nodes.values.filter fun e => e.status.isEligible).map (·.storage.healthyVolumes)).foldlM
    addChecked 0

end Registry

end ControlPlane

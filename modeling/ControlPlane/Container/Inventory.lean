import ControlPlane.Container.Basic
import ControlPlane.Error
import ControlPlane.SortedMap

/-!
# The inventory of containers

The inventory keeps every known container and the number that the next new
container gets.  The number is above those of all containers that were put in,
until the numbers of a machine word are used up and start over.
-/

namespace ControlPlane

/-- The known containers. -/
@[ext] structure Inventory where
  containers : SortedMap ContainerId Container
  /-- The number of the next new container. -/
  next : UInt64
  /-- Every container stands under its own identifier. -/
  keyed : ∀ r ∈ containers.rows, r.2.id = r.1

namespace Inventory

instance : EmptyCollection Inventory := ⟨⟨∅, 1, nofun⟩⟩
instance : Inhabited Inventory := ⟨∅⟩

/-- A container. -/
def find? (i : Inventory) (id : ContainerId) : Option Container := i.containers.find? id

/-- A container that has to exist. -/
def container (i : Inventory) (id : ContainerId) : Except Error Container :=
  match i.find? id with
  | some c => .ok c
  | none => .error (.containerNotFound id)

/-- The containers in ascending order, of one kind of scheme or of both. -/
def select (i : Inventory) (family : Option Family) : List Container :=
  i.containers.values.filter fun c => family.all fun f => c.scheme.family == f

/-- The number of containers. -/
def size (i : Inventory) : Nat := i.containers.size

/-- The inventory with a container put under its identifier. -/
def put (i : Inventory) (c : Container) : Inventory :=
  { i with
    containers := i.containers.insert c.id c
    keyed := fun r hr => by
      rcases SortedMap.mem_rows_insert hr with rfl | hr
      · rfl
      · exact i.keyed r hr }

/-- The inventory with a container changed, where it is known, though not its
identifier. -/
def modify (i : Inventory) (id : ContainerId) (f : Container → Container)
    (hf : ∀ c, (f c).id = c.id) : Inventory :=
  { i with
    containers := i.containers.modify id f
    keyed := fun r hr => by
      rcases SortedMap.mem_rows_modify hr with hr | ⟨c, hc, h⟩
      · exact i.keyed r hr
      · rw [h, hf]
        exact i.keyed _ hc }

/-- Puts a container in that was made elsewhere. -/
def insert (i : Inventory) (c : Container) : Inventory :=
  { i.put c with next := max i.next (c.id.number + 1) }

/-- Puts a new container in that takes the next number. -/
def allocate (i : Inventory) (owner : String) (p : Pipeline) (now : Instant) :
    Container × Inventory :=
  let c := Container.fresh ⟨i.next⟩ p.id p.scheme owner now
  (c, { i.put c with next := i.next + 1 })

/-- Changes a container that has to exist, though not its identifier. -/
def update (i : Inventory) (id : ContainerId) (f : Container → Container)
    (hf : ∀ c, (f c).id = c.id) : Except Error Inventory :=
  (i.container id).map fun _ => i.modify id f hf

/-- Gives a container another number of used bytes. -/
def setUsedBytes (i : Inventory) (id : ContainerId) (usedBytes : UInt64) : Except Error Inventory :=
  i.update id (fun c => { c with usedBytes }) fun _ => rfl

/-- Puts a container into another state. -/
def setState (i : Inventory) (id : ContainerId) (state : ContainerState) :
    Except Error Inventory :=
  i.update id (fun c => { c with state }) fun _ => rfl

/-- Notes that a container was handed to a writer. -/
def touch (i : Inventory) (id : ContainerId) (now : Instant) : Except Error Inventory :=
  i.update id (fun c => { c with lastUsed := now }) fun _ => rfl

end Inventory

end ControlPlane

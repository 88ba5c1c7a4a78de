import ControlPlane.Container.Inventory
import ControlPlane.Metrics
import ControlPlane.Pipeline.Pool
import ControlPlane.Placement

/-!
# The cluster and its collaborators

The cluster is the registry of nodes, the pool of pipelines and the inventory
of containers.  The allocator and safe mode reach pipelines and containers
through calls that a collaborator may refuse.  A session carries the cluster
through the calls of one request and keeps the trace of what was tried.
-/

namespace ControlPlane

/-- Everything that the control plane keeps account of. -/
structure Cluster where
  nodes : Registry := ∅
  pipelines : Pool := ∅
  containers : Inventory := ∅
  /-- How the members of new pipelines are chosen. -/
  strategy : Strategy := .leastLoaded

instance : Inhabited Cluster := ⟨{}⟩

/-- Registers a node and counts it if it is new. -/
def Cluster.register (k : Cluster) (m : Metrics) (d : Descriptor) : Bool × Cluster × Metrics :=
  let (isNew, nodes) := k.nodes.register d
  (isNew, { k with nodes },
    if isNew then { m with nodesRegistered := m.nodesRegistered + 1 } else m)

/-- Takes the report of a node over and counts the node if it is new. -/
def Cluster.report (k : Cluster) (m : Metrics) (r : NodeReport) : Bool × Cluster × Metrics :=
  let (isNew, nodes) := k.nodes.report r
  (isNew, { k with nodes },
    if isNew then { m with nodesRegistered := m.nodesRegistered + 1 } else m)

/-- A call to a collaborator. -/
inductive Call
  | create (scheme : Scheme) (excluded favored : List NodeId)
  | pipeline (id : PipelineId)
  | containers (id : PipelineId)
  | openPipeline (id : PipelineId)
  | closePipeline (id : PipelineId)
  | bind (id : PipelineId) (c : ContainerId)
  | allocate (id : PipelineId)
  | container (c : ContainerId)
  | touch (c : ContainerId)
  deriving DecidableEq, Repr

/-- What a request has done: a call, or an offer of pipelines to choose from. -/
inductive Step
  | call (c : Call)
  | offer (candidates : List PipelineId)
  deriving DecidableEq, Repr

/-- What a request has done so far, the latest first. -/
abbrev Trace := List Step

/-- The nodes to leave out and the favoured nodes of every pipeline that was
asked for, the first request first. -/
def Trace.creations (t : Trace) : List (List NodeId × List NodeId) :=
  t.reverse.filterMap fun
    | .call (.create _ excluded favored) => some (excluded, favored)
    | _ => none

/-- The pipelines of every offer, the first offer first. -/
def Trace.offers (t : Trace) : List (List PipelineId) :=
  t.reverse.filterMap fun
    | .offer candidates => some candidates
    | .call _ => none

/-- What the outside world contributes to a request. -/
structure Environment where
  /-- The moment of the request. -/
  now : Instant
  /-- The identifier of a new pipeline, by the number of pipelines in the pool. -/
  newId : Nat → PipelineId
  /-- The nodes of a registry in the order in which placement meets them. -/
  roster : Registry → List NodeInfo := Registry.infos
  /-- The draws for the members of a new pipeline, by the same number. -/
  draws : Nat → Nat → Nat := fun _ _ => 0
  /-- The refusal of a call after what a request has done so far, if the
  collaborator refuses it. -/
  refusal : Trace → Call → Option Error := fun _ _ => none

/-- A request under way. -/
structure Session where
  cluster : Cluster
  metrics : Metrics := {}
  trace : Trace := []

/-- An action of a session: its result, and the session after it. -/
abbrev Action (α : Type) := Session → Except Error α × Session

namespace Session

/-- Notes an offer of pipelines. -/
def offer (s : Session) (candidates : List Pipeline) : Session :=
  { s with trace := .offer (candidates.map (·.id)) :: s.trace }

/-- Makes a call, which is refused or acts on the cluster.  An act that fails
leaves the cluster as it is. -/
def call (env : Environment) (c : Call) (act : Cluster → Except Error (α × Cluster)) : Action α :=
  fun s =>
    let noted := { s with trace := .call c :: s.trace }
    match env.refusal s.trace c with
    | some e => (.error e, noted)
    | none =>
      match act s.cluster with
      | .error e => (.error e, noted)
      | .ok (a, cluster) => (.ok a, { noted with cluster })

/-! ## Calls on pipelines -/

/-- Makes a pipeline for a scheme without the excluded nodes and with the
favoured ones first.  It is not open yet. -/
def create (env : Environment) (scheme : Scheme) (excluded favored : List NodeId) :
    Action Pipeline :=
  call env (.create scheme excluded favored) fun k => do
    let serial := k.pipelines.entries.size
    let members ← Placement.choose k.strategy (env.draws serial) (env.roster k.nodes)
      { count := scheme.requiredNodes, excluded, favored }
    let p : Pipeline :=
      { id := env.newId serial, scheme, members, state := .allocated, createdAt := env.now }
    return (p, { k with pipelines := k.pipelines.insert p })

/-- Looks a pipeline up. -/
def pipeline (env : Environment) (id : PipelineId) : Action Pipeline :=
  call env (.pipeline id) fun k => do return (← k.pipelines.pipeline id, k)

/-- Lists the containers bound to a pipeline. -/
def containers (env : Environment) (id : PipelineId) : Action (SortedSet ContainerId) :=
  call env (.containers id) fun k => do return (← k.pipelines.containers id, k)

/-- Opens a pipeline. -/
def openPipeline (env : Environment) (id : PipelineId) : Action Unit :=
  call env (.openPipeline id) fun k => do
    return ((), { k with pipelines := ← k.pipelines.setState id .opened })

/-- Closes a pipeline. -/
def closePipeline (env : Environment) (id : PipelineId) : Action Unit :=
  call env (.closePipeline id) fun k => do
    return ((), { k with pipelines := ← k.pipelines.setState id .closed })

/-- Binds a container to a pipeline. -/
def bind (env : Environment) (id : PipelineId) (c : ContainerId) : Action Unit :=
  call env (.bind id c) fun k => do
    return ((), { k with pipelines := ← k.pipelines.bind id c })

/-! ## Calls on containers -/

/-- Puts a container for a pipeline into the inventory.  It is not bound yet. -/
def stock (env : Environment) (owner : String) (p : Pipeline) : Action Container :=
  call env (.allocate p.id) fun k =>
    let (c, containers) := k.containers.allocate owner p env.now
    .ok (c, { k with containers })

/-- Makes a container on a pipeline and binds it there.  If it cannot be bound
it stays in the inventory all the same. -/
def allocate (env : Environment) (owner : String) (p : Pipeline) : Action Container := fun s =>
  match stock env owner p s with
  | (.error e, s) => (.error e, s)
  | (.ok c, s) =>
    match bind env p.id c.id s with
    | (.error e, s) => (.error e, s)
    | (.ok (), s) => (.ok c, s)

/-- Looks a container up. -/
def container (env : Environment) (id : ContainerId) : Action Container :=
  call env (.container id) fun k => do return (← k.containers.container id, k)

/-- Notes that a container is handed to a writer. -/
def touch (env : Environment) (id : ContainerId) : Action Unit :=
  call env (.touch id) fun k => do
    return ((), { k with containers := ← k.containers.touch id env.now })

end Session

end ControlPlane

import ControlPlane.Error
import ControlPlane.Table

/-!
# The pool of pipelines

The pool keeps every pipeline that was ever made, with the containers bound to
it.  The state of a pipeline is set without a look at the state before.  An
operation on a pipeline that is not in the pool fails and changes nothing.
-/

namespace ControlPlane

/-- A pipeline and the containers bound to it. -/
structure Pool.Entry where
  pipeline : Pipeline
  containers : SortedSet ContainerId := ∅
  deriving DecidableEq

/-- The pipelines of the cluster. -/
@[ext] structure Pool where
  entries : Table PipelineId Pool.Entry
  /-- Every pipeline stands under its own identifier. -/
  keyed : ∀ r ∈ entries.rows, r.2.pipeline.id = r.1

namespace Pool

instance : EmptyCollection Pool := ⟨⟨∅, nofun⟩⟩
instance : Inhabited Pool := ⟨∅⟩

/-- The entry of a pipeline. -/
def find? (p : Pool) (id : PipelineId) : Option Entry := p.entries.find? id

/-- The entry of a pipeline that has to exist. -/
def entry (p : Pool) (id : PipelineId) : Except Error Entry :=
  match p.find? id with
  | some e => .ok e
  | none => .error (.pipelineNotFound id)

/-- A pipeline. -/
def pipeline (p : Pool) (id : PipelineId) : Except Error Pipeline := (p.entry id).map (·.pipeline)

/-- The containers bound to a pipeline. -/
def containers (p : Pool) (id : PipelineId) : Except Error (SortedSet ContainerId) :=
  (p.entry id).map (·.containers)

/-- All pipelines. -/
def all (p : Pool) : List Pipeline := p.entries.values.map (·.pipeline)

/-- The pipelines of a scheme in a state, the oldest first. -/
def select (p : Pool) (scheme : Scheme) (state : PipelineState) : List Pipeline :=
  (p.all.filter fun q => q.scheme == scheme && q.state == state).mergeSort fun a b =>
    a.createdAt.le b.createdAt

/-- The open pipelines of a scheme, the oldest first. -/
def opened (p : Pool) (scheme : Scheme) : List Pipeline := p.select scheme .opened

/-- The pool with an entry put under the identifier of its pipeline. -/
def put (p : Pool) (e : Entry) : Pool where
  entries := p.entries.insert e.pipeline.id e
  keyed _ hr := by
    rcases Table.mem_rows_insert hr with rfl | hr
    · rfl
    · exact p.keyed _ hr

/-- The pool with the entry of a pipeline changed, where there is one, though not
its identifier. -/
def modify (p : Pool) (id : PipelineId) (f : Entry → Entry)
    (hf : ∀ e, (f e).pipeline.id = e.pipeline.id) : Pool where
  entries := p.entries.modify id f
  keyed _ hr := by
    rcases Table.mem_rows_modify hr with hr | ⟨e, he, h⟩
    · exact p.keyed _ hr
    · rw [h, hf]
      exact p.keyed _ he

/-- Puts a pipeline without containers into the pool. -/
def insert (p : Pool) (q : Pipeline) : Pool := p.put { pipeline := q }

/-- Changes the entry of a pipeline that has to exist, though not its identifier. -/
def update (p : Pool) (id : PipelineId) (f : Entry → Entry)
    (hf : ∀ e, (f e).pipeline.id = e.pipeline.id) : Except Error Pool :=
  (p.entry id).map fun _ => p.modify id f hf

/-- Puts a pipeline into another state. -/
def setState (p : Pool) (id : PipelineId) (state : PipelineState) : Except Error Pool :=
  p.update id (fun e => { e with pipeline := { e.pipeline with state } }) fun _ => rfl

/-- Binds a container to a pipeline. -/
def bind (p : Pool) (id : PipelineId) (c : ContainerId) : Except Error Pool :=
  p.update id (fun e => { e with containers := e.containers.insert c }) fun _ => rfl

/-- Frees a container from a pipeline. -/
def unbind (p : Pool) (id : PipelineId) (c : ContainerId) : Except Error Pool :=
  p.update id (fun e => { e with containers := e.containers.erase c }) fun _ => rfl

end Pool

end ControlPlane

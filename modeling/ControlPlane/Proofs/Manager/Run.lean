import ControlPlane.Manager
import ControlPlane.Proofs.Session

/-!
# Runs of the control plane

A run is a list of operations of the control plane, each with what the world
contributes to it: reports, draws, the moment and the names of new pipelines.
`Op.InMemory` says that the world answers an operation from memory, and that a
pipeline which the operation makes gets a new name; `InMemory` says so of each
operation of a run, at the state that it meets.  `made` counts the containers that a
run makes.
-/

namespace ControlPlane

/-- Is the result a container that the cluster does not know? -/
def Cluster.isNew (k : Cluster) : Except Error Container → Bool
  | .ok c => (k.containers.find? c.id).isNone
  | .error _ => false

namespace Manager

/-- An operation of the control plane. -/
inductive Op
  | reportNode (r : NodeReport)
  | heartbeat (id : NodeId) (health : Health)
  | reportPipelines (id : NodeId) (pipelines : List PipelineId)
  | openPipeline (env : Environment) (id : PipelineId)
  | allocate (env : Environment) (draws : List Pipeline → Nat × Nat) (r : Request)
  | forceExit
  | refresh
  | register (name : String)
  | registerGate (name : String)

namespace Op

/-- The control plane after an operation, whatever that answers. -/
def run : Op → Manager → Manager
  | .reportNode r, m => m.reportNode r
  | .heartbeat id health, m => (m.heartbeat id health).2
  | .reportPipelines id pipelines, m => (m.reportPipelines id pipelines).2
  | .openPipeline env id, m => (m.openPipeline env id).2
  | .allocate env draws r, m => (m.allocate env draws r).2.1
  | .forceExit, m => m.forceExit
  | .refresh, m => m.refresh
  | .register name, m => m.register name
  | .registerGate name, m => (m.registerGate name).2

/-- The world answers the operation from memory, and the name that it has ready for
a pipeline made by a request is new. -/
def InMemory (m : Manager) : Op → Prop
  | .openPipeline env _ => env.InMemory
  | .allocate env _ _ => env.InMemory ∧
      m.cluster.pipelines.find? (env.newId m.cluster.pipelines.entries.size) = none
  | _ => True

/-- The world refuses no call of the operation. -/
def Willing : Op → Prop
  | .openPipeline env _ | .allocate env _ _ => env.Willing
  | _ => True

/-- Does the operation make a container, one that was not known before? -/
def makes (m : Manager) : Op → Bool
  | .allocate env draws r => (m.allocate env draws r).1.any m.cluster.isNew
  | _ => false

end Op

/-- The control plane after some operations, the first of the list first. -/
def after (m : Manager) (ops : List Op) : Manager := ops.foldl (fun m op => op.run m) m

/-- The world answers every operation of a run from memory. -/
def InMemory : Manager → List Op → Prop
  | _, [] => True
  | m, op :: ops => op.InMemory m ∧ InMemory (op.run m) ops

/-- How many containers a run makes. -/
def made : Manager → List Op → Nat
  | _, [] => 0
  | m, op :: ops => (if op.makes m then 1 else 0) + made (op.run m) ops

variable {m : Manager}

/-- What the control plane starts with. -/
theorem of_start_eq_ok {settings : Settings} {k : Cluster} {metrics : Metrics}
    (h : start settings k metrics = .ok m) :
    m.cluster = k ∧ m.safeMode = .start settings.safeMode.enabled
      (Readiness.rulesOf settings.safeMode k) {} {} metrics := by
  unfold start at h
  cases hvalid : settings.validate with
  | error err =>
    rw [hvalid] at h
    cases h
  | ok =>
    rw [hvalid] at h
    rw [← Except.ok.inj h]
    exact ⟨rfl, rfl⟩

/-- A heartbeat reaches nodes only. -/
theorem heartbeat_stores (m : Manager) (id : NodeId) (health : Health) :
    (m.heartbeat id health).2.cluster.pipelines = m.cluster.pipelines ∧
      (m.heartbeat id health).2.cluster.containers = m.cluster.containers := by
  unfold heartbeat
  split <;> exact ⟨rfl, rfl⟩

/-- A report of pipelines is for safe mode only. -/
theorem reportPipelines_cluster (m : Manager) (id : NodeId) (pipelines : List PipelineId) :
    (m.reportPipelines id pipelines).2.cluster = m.cluster := by
  unfold reportPipelines
  split <;> rfl

/-- The session in which a request starts. -/
def session (m : Manager) : Session := { cluster := m.cluster, metrics := m.metrics }

/-- After a pipeline was opened it is only looked up. -/
theorem openPipeline_session (m : Manager) (env : Environment) (id : PipelineId) :
    (m.openPipeline env id).2.cluster = (Session.openPipeline env id m.session).2.cluster := by
  unfold openPipeline run
  dsimp only
  rw [← session]
  generalize Session.openPipeline env id m.session = out
  obtain ⟨res, s⟩ := out
  cases res with
  | error err => rfl
  | ok _ =>
    have hlookup := Session.pipeline_same env s id
    dsimp only
    generalize Session.pipeline env id s = out at hlookup ⊢
    obtain ⟨res, s'⟩ := out
    cases res <;> exact hlookup

theorem after_append (m : Manager) (ops ops' : List Op) :
    m.after (ops ++ ops') = (m.after ops).after ops' :=
  List.foldl_append

theorem inMemory_append {ops ops' : List Op} :
    InMemory m (ops ++ ops') ↔ InMemory m ops ∧ InMemory (m.after ops) ops' := by
  induction ops generalizing m with
  | nil => exact ⟨fun h => ⟨trivial, h⟩, And.right⟩
  | cons op ops ih =>
    rw [List.cons_append, InMemory, InMemory, ih, and_assoc]
    rfl

theorem made_append {ops ops' : List Op} :
    made m (ops ++ ops') = made m ops + made (m.after ops) ops' := by
  induction ops generalizing m with
  | nil => exact (Nat.zero_add _).symm
  | cons op ops ih =>
    rw [List.cons_append, made, made, ih, Nat.add_assoc]
    rfl

end Manager

end ControlPlane

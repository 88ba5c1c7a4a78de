import ControlPlane.Proofs.Manager.Closed
import ControlPlane.Proofs.Manager.Publication

/-!
# Requests that are refused

Nothing is allocated before safe mode ends, and a request that is refused leaves no trace.

* `allocate_of_refusal` is a request that the control plane refuses itself, and
  `allocate_of_fault` one that its allocator refuses.  Neither changes anything.
* `Cluster.Keeps` says that the pipelines and containers of a cluster are still there, with
  some of the pipelines opened.  `Op.keeps` is one operation that ends in safe mode and
  `keeps_after` a run.  No operation leads back into safe mode (`Op.inSafeMode_of_run`), so
  the whole run was in safe mode if its end is.
* `allocates_after_exit` puts the two together.
-/

namespace ControlPlane

open Readiness

/-- A code without data, without parity or with too many units cannot be used. -/
theorem Scheme.exists_fault {data parity : UInt32}
    (hbad : data = 0 ∨ parity = 0 ∨ UInt32.size ≤ data.toNat + parity.toNat) :
    ∃ fault, (Scheme.ec data parity).fault? = some fault := by
  dsimp only [fault?]
  split
  · exact ⟨_, rfl⟩
  · next hdata =>
    split
    · exact ⟨_, rfl⟩
    · next hparity => exact ⟨_, if_pos ((hbad.resolve_left hdata).resolve_left hparity)⟩

/-! ## What stays in a cluster -/

namespace Cluster

variable {k k' k'' : Cluster} {opens opens' : PipelineId → Bool}

/-- The pipelines and containers are the same, but some pipelines were opened. -/
structure Keeps (opens : PipelineId → Bool) (k k' : Cluster) : Prop where
  pipelines : ∀ id, k'.pipelines.find? id =
    (k.pipelines.find? id).map fun e => if opens id then e.reopen else e
  containers : k'.containers = k.containers

theorem Keeps.of_same (hpipelines : k'.pipelines = k.pipelines)
    (hcontainers : k'.containers = k.containers) : Keeps (fun _ => false) k k' := by
  refine ⟨fun id => ?_, hcontainers⟩
  rw [hpipelines]
  exact Option.map_id'.symm

theorem Keeps.reopening (id : PipelineId) : Keeps (· == id) k (k.reopening id) := by
  refine ⟨fun j => ?_, rfl⟩
  rw [find?_reopening]
  by_cases hid : id = j
  · subst hid
    simp
  · simp [hid, Ne.symm hid]

theorem Keeps.trans (h : Keeps opens k k') (h' : Keeps opens' k' k'') :
    Keeps (fun id => opens id || opens' id) k k'' := by
  refine ⟨fun id => ?_, h'.containers.trans h.containers⟩
  rw [h'.pipelines, h.pipelines, Option.map_map]
  refine congrArg (Option.map · _) (funext fun e => ?_)
  -- A pipeline that is opened twice is just open.
  cases opens id <;> cases opens' id <;> rfl

end Cluster

namespace Manager

variable {m : Manager} {env : Environment} {draws : List Pipeline → Nat × Nat} {r : Request}

/-! ## Refusals -/

theorem allocate_of_refusal {err : Error} (h : m.refusal? r = some err) :
    m.allocate env draws r = (some (.error err), m, []) := by
  unfold allocate
  rw [h]

theorem allocate_of_inSafeMode (hin : m.status.inSafeMode = true) :
    m.allocate env draws r = (some (.error (.safeMode .allocation)), m, []) :=
  allocate_of_refusal (if_pos hin)

theorem allocate_of_tooLarge (hout : m.status.inSafeMode = false)
    (hsize : m.settings.container.maxSize < r.size) :
    m.allocate env draws r =
      (some (.error (.allocation (.tooLarge r.size m.settings.container.maxSize))), m, []) := by
  refine allocate_of_refusal ?_
  rw [refusal?, hout, if_neg Bool.false_ne_true, if_pos hsize]

/-- The allocator looks at the scheme before it looks at the cluster. -/
theorem allocate_of_fault {fault : SchemeFault} (hout : m.status.inSafeMode = false)
    (hsize : ¬m.settings.container.maxSize < r.size) (hfault : r.scheme.fault? = some fault) :
    m.allocate env draws r =
      (some (.error (.setting "replication" (.scheme fault r.scheme))), m, []) := by
  have hnone : m.refusal? r = none := by
    rw [refusal?, hout, if_neg Bool.false_ne_true, if_neg hsize]
  have hinvalid : r.scheme.validate = .error (.setting "replication" (.scheme fault r.scheme)) := by
    rw [Scheme.validate, hfault]
  unfold allocate
  rw [hnone]
  dsimp only [run]
  rw [Allocator.allocate_of_error hinvalid]
  rfl

/-! ## Safe mode does not come back -/

theorem Op.inSafeMode_of_run {op : Op} (h : (op.run m).status.inSafeMode = true) :
    m.status.inSafeMode = true := by
  by_contra hout
  rw [Bool.not_eq_true] at hout
  obtain ⟨services, metrics, hbeside⟩ := op.beside_of_exited hout
  rw [status, hbeside] at h
  exact Bool.false_ne_true (hout.symm.trans h)

/-! ## Runs in safe mode -/

/-- Does the operation open the pipeline? -/
def Op.opens (id : PipelineId) : Op → Bool
  | .openPipeline _ j => id == j
  | _ => false

theorem Op.keeps {op : Op} (hop : op.Willing) (hin : m.status.inSafeMode = true) :
    Cluster.Keeps (op.opens ·) m.cluster (op.run m).cluster := by
  cases op with
  | openPipeline env id =>
    have hopening : (m.openPipeline env id).2.cluster = m.cluster.reopening id :=
      openPipeline_reopening hop
    show Cluster.Keeps (· == id) m.cluster (m.openPipeline env id).2.cluster
    rw [hopening]
    exact .reopening id
  | allocate env draws r =>
    have hrefused : m.allocate env draws r = (some (.error (.safeMode .allocation)), m, []) :=
      allocate_of_inSafeMode hin
    show Cluster.Keeps _ m.cluster (m.allocate env draws r).2.1.cluster
    rw [hrefused]
    exact .of_same rfl rfl
  | heartbeat id health =>
    obtain ⟨hpipelines, hcontainers⟩ := heartbeat_stores m id health
    exact .of_same hpipelines hcontainers
  | reportPipelines id pipelines =>
    have hsame := reportPipelines_cluster m id pipelines
    exact .of_same (congrArg _ hsame) (congrArg _ hsame)
  | reportNode | forceExit | refresh | register | registerGate => exact .of_same rfl rfl

theorem keeps_after {ops : List Op} (hops : ∀ op ∈ ops, op.Willing)
    (hin : (m.after ops).status.inSafeMode = true) :
    Cluster.Keeps (fun id => ops.any (Op.opens id)) m.cluster (m.after ops).cluster := by
  induction ops using List.reverseRecOn with
  | nil => exact .of_same rfl rfl
  | append_singleton ops op ih =>
    rw [after_append] at hin ⊢
    rw [List.forall_mem_append, List.forall_mem_singleton] at hops
    have hin' : (m.after ops).status.inSafeMode = true := Op.inSafeMode_of_run hin
    simp only [List.any_append, List.any_cons, List.any_nil, Bool.or_false]
    exact (ih hops.1 hin').trans (Op.keeps hops.2 hin')

theorem settings_after (m : Manager) (ops : List Op) : (m.after ops).settings = m.settings := by
  induction ops generalizing m with
  | nil => rfl
  | cons op ops ih => exact (ih (op.run m)).trans (op.settings_run m)

/-- In safe mode the pipelines and containers are those of the start, except that pipelines
are opened on demand, and every request for a container is refused.  After it a request that
is too large or asks for a code that cannot be used is refused and changes nothing. -/
theorem allocates_after_exit {settings : Settings} {k : Cluster} {metrics : Metrics}
    {m₀ : Manager} (hstart : start settings k metrics = .ok m₀) (ops : List Op)
    (hops : ∀ op ∈ ops, op.Willing) :
    let m := m₀.after ops
    (m.status.inSafeMode = true →
      Cluster.Keeps (fun id => ops.any (Op.opens id)) k m.cluster ∧
        ∀ env draws r, m.allocate env draws r = (some (.error (.safeMode .allocation)), m, [])) ∧
    (m.status.inSafeMode = false → ∀ env draws r,
      (settings.container.maxSize < r.size → m.allocate env draws r =
        (some (.error (.allocation (.tooLarge r.size settings.container.maxSize))), m, [])) ∧
      (¬settings.container.maxSize < r.size → ∀ data parity, r.scheme = .ec data parity →
        data = 0 ∨ parity = 0 ∨ UInt32.size ≤ data.toNat + parity.toNat →
          ∃ fault, r.scheme.fault? = some fault ∧ m.allocate env draws r =
            (some (.error (.setting "replication" (.scheme fault r.scheme))), m, []))) := by
  intro m
  have hcluster : m₀.cluster = k := (of_start_eq_ok hstart).1
  have hsettings : m.settings = settings :=
    (settings_after m₀ ops).trans (settings_of_start hstart)
  rw [← hcluster, ← hsettings]
  refine ⟨fun hin => ⟨keeps_after hops hin, fun _ _ _ => allocate_of_inSafeMode hin⟩, ?_⟩
  intro hout env draws r
  refine ⟨allocate_of_tooLarge hout, fun hsize data parity hscheme hbad => ?_⟩
  obtain ⟨fault, hfault⟩ := Scheme.exists_fault hbad
  rw [← hscheme] at hfault
  exact ⟨fault, hfault, allocate_of_fault hout hsize hfault⟩

namespace Sample

/-- A pipeline that was not opened yet, with a container. -/
def reloaded : Pool.Entry where
  pipeline := { Allocator.Sample.pipeline with state := .allocated }
  containers := (∅ : SortedSet _).insert archive.id

def reloadedCluster : Cluster := { waiting.cluster with pipelines := (∅ : Pool).put reloaded }

/-- The control plane of a development node that has a pipeline and waits for the container
on it. -/
def reloading : Manager where
  settings := .development
  cluster := reloadedCluster
  safeMode := .start true (rulesOf Settings.development.safeMode reloadedCluster) {} {} {}

/-- Somebody opens the pipeline, and asks for a container. -/
def early : List Op :=
  [.openPipeline Allocator.Sample.world reloaded.pipeline.id,
    .allocate Allocator.Sample.world (fun _ => (0, 0)) Allocator.Sample.request]

/-- A request for a code without parity. -/
def unprotected : Request := { Allocator.Sample.request with scheme := .ec 3 0 }

end Sample

/-- The pipeline is opened in safe mode and nothing is put on it.  After it an operator ends
safe mode, and a code without parity is refused. -/
theorem allocates_after_exit_sample :
    let m := Sample.reloading.after Sample.early
    let m' := Sample.reloading.after (Sample.early ++ [.forceExit])
    (m.status.inSafeMode = true ∧
      m.cluster.pipelines.find? Sample.reloaded.pipeline.id = some Sample.reloaded.reopen) ∧
    m'.status.inSafeMode = false ∧ ∃ err,
      m'.allocate Allocator.Sample.world (fun _ => (0, 0)) Sample.unprotected =
        (some (.error err), m', []) := by
  intro m m'
  have hstart : start .development Sample.reloading.cluster {} = .ok Sample.reloading := by rfl
  have hearly : ∀ op ∈ Sample.early, op.Willing := by
    simp [Sample.early, Op.Willing, Allocator.Sample.world_inMemory.willing]
  have hforced : ∀ op ∈ Sample.early ++ [.forceExit], op.Willing := by
    rw [List.forall_mem_append, List.forall_mem_singleton]
    exact ⟨hearly, trivial⟩
  have hin : m.status.inSafeMode = true := by decide +kernel
  have hout : m'.status.inSafeMode = false := by decide +kernel
  have hkeeps := ((allocates_after_exit hstart Sample.early hearly).1 hin).1
  obtain ⟨fault, -, hrefused⟩ := ((allocates_after_exit hstart _ hforced).2 hout
    Allocator.Sample.world (fun _ => (0, 0)) Sample.unprotected).2 (by decide) 3 0 rfl (by decide)
  refine ⟨⟨hin, ?_⟩, hout, _, hrefused⟩
  rw [hkeeps.pipelines]
  rfl

end Manager

end ControlPlane

import ControlPlane.Proofs.Manager.Reports
import ControlPlane.Proofs.Readiness.Redelivery

/-!
# Operations that are delivered twice

Reports, heartbeats and what operators ask for say how things are or should be.  One that
is delivered twice in a row leaves the control plane as it was after the first time: the
cluster, the rules, what services were told and the metrics (`run_twice`).  The second
delivery goes another way than the first.  A registration comes in as a plain report
(`Registry.report_report`), a pipeline that is open is opened once more
(`Cluster.opening_opening`), and rules that hold by then are left alone
(`SafeMode.handle_again`).
-/

namespace ControlPlane

/-- What comes of opening a pipeline of a cluster and looking it up then. -/
def Cluster.opening (env : Environment) (id : PipelineId) (k : Cluster) :
    Except Error Pipeline × Cluster :=
  match env.refusal [] (.openPipeline id) with
  | some err => (.error err, k)
  | none =>
    match k.pipelines.setState id .opened with
    | .error err => (.error err, k)
    | .ok pipelines =>
      match env.refusal [.call (.openPipeline id)] (.pipeline id) with
      | some err => (.error err, { k with pipelines })
      | none => (pipelines.pipeline id, { k with pipelines })

/-- Opening the pipeline once more comes to the same. -/
theorem Cluster.opening_opening (env : Environment) (id : PipelineId) (k : Cluster) :
    opening env id (opening env id k).2 = opening env id k := by
  cases href : env.refusal [] (.openPipeline id) with
  | some err => simp only [opening, href]
  | none =>
    cases hset : k.pipelines.setState id .opened with
    | error err => simp only [opening, href, hset]
    | ok pipelines =>
      have hagain : pipelines.setState id .opened = .ok pipelines :=
        Pool.update_update (fun _ => rfl) hset
      cases hlookup : env.refusal [.call (.openPipeline id)] (.pipeline id) <;>
        simp only [opening, href, hset, hagain, hlookup]

namespace Manager

open Readiness

variable {m : Manager}

theorem handle_again (m : Manager) (e : Event) : (m.handle e).handle e.again = m.handle e :=
  congrArg (fun safeMode => { m with safeMode }) SafeMode.handle_again

/-! ## Pipelines that are opened -/

theorem openPipeline_opening (m : Manager) (env : Environment) (id : PipelineId) :
    (m.openPipeline env id).2 =
      match Cluster.opening env id m.cluster with
      | (.error _, cluster) => { m with cluster }
      | (.ok p, cluster) => { m with cluster }.handle (.pipelineOpened p) := by
  unfold openPipeline run
  rw [← session]
  cases href : env.refusal [] (.openPipeline id) with
  | some err =>
    have hopen : Session.openPipeline env id m.session = (.error err, _) :=
      Session.call_of_refused href
    simp only [hopen, Cluster.opening, href]
    rfl
  | none =>
    cases hset : m.cluster.pipelines.setState id .opened with
    | error err =>
      have hopen : Session.openPipeline env id m.session = (.error err, _) :=
        Session.call_of_error href (congrArg (· >>= _) hset)
      simp only [hopen, Cluster.opening, href, hset]
      rfl
    | ok pipelines =>
      let s : Session :=
        { m.session with
          cluster := { m.cluster with pipelines }
          trace := [.call (.openPipeline id)] }
      have hopen : Session.openPipeline env id m.session = (.ok (), s) :=
        Session.call_of_ok href (congrArg (· >>= _) hset)
      cases hlookup : env.refusal [.call (.openPipeline id)] (.pipeline id) with
      | some err =>
        have hfind : Session.pipeline env id s = (.error err, _) := Session.call_of_refused hlookup
        simp only [hopen, hfind, Cluster.opening, href, hset, hlookup]
        rfl
      | none =>
        cases hp : pipelines.pipeline id with
        | error err =>
          have hfind : Session.pipeline env id s = (.error err, _) :=
            Session.call_of_error hlookup (congrArg (· >>= _) hp)
          simp only [hopen, hfind, Cluster.opening, href, hset, hlookup, hp]
          rfl
        | ok p =>
          have hfind : Session.pipeline env id s = (.ok p, _) :=
            Session.call_of_ok hlookup (congrArg (· >>= _) hp)
          simp only [hopen, hfind, Cluster.opening, href, hset, hlookup, hp]
          rfl

/-! ## One operation twice -/

theorem openPipeline_twice (env : Environment) (id : PipelineId) :
    ((m.openPipeline env id).2.openPipeline env id).2 = (m.openPipeline env id).2 := by
  have hagain := Cluster.opening_opening env id m.cluster
  cases hopening : Cluster.opening env id m.cluster with
  | mk opened cluster =>
    rw [hopening] at hagain
    dsimp only at hagain
    cases opened with
    | error err => simp only [openPipeline_opening, hopening, hagain]
    | ok p =>
      have hcluster : (handle { m with cluster } (.pipelineOpened p)).cluster = cluster := rfl
      simp only [openPipeline_opening, hopening, hcluster, hagain]
      exact handle_again { m with cluster } (.pipelineOpened p)

/-- The report of a node that is known, with nothing new for the registry. -/
theorem reportNode_of_known {x : NodeReport}
    (h : m.cluster.nodes.report x = (false, m.cluster.nodes)) :
    m.reportNode x = m.handle (.containersReported x) := by
  simp only [reportNode, Cluster.report, h]
  rfl

theorem reportNode_twice (x : NodeReport) : (m.reportNode x).reportNode x = m.reportNode x := by
  have hknown : (m.reportNode x).cluster.nodes.report x = (false, (m.reportNode x).cluster.nodes) :=
    Registry.report_report x
  rw [reportNode_of_known hknown]
  cases hreport : m.cluster.nodes.report x with
  | mk isNew nodes =>
    -- The first time it was told of a registration or of a report.
    simp only [reportNode, Cluster.report, hreport]
    cases isNew with
    | true => exact handle_again _ (.nodeRegistered x)
    | false => exact handle_again _ (.containersReported x)

theorem heartbeat_twice (id : NodeId) (health : Health) :
    ((m.heartbeat id health).2.heartbeat id health).2 = (m.heartbeat id health).2 := by
  cases hset : m.cluster.nodes.setHealth id health with
  | error err => simp only [heartbeat, hset]
  | ok nodes =>
    have hagain : nodes.setHealth id health = .ok nodes :=
      Registry.update_update (fun _ => rfl) hset
    simp only [heartbeat, hset, hagain]

theorem reportPipelines_twice (id : NodeId) (pipelines : List PipelineId) :
    ((m.reportPipelines id pipelines).2.reportPipelines id pipelines).2 =
      (m.reportPipelines id pipelines).2 := by
  cases hknown : m.cluster.nodes.contains id with
  | false => simp only [reportPipelines, hknown, Bool.false_eq_true, if_false]
  | true =>
    have hsame : (m.handle (.pipelinesReported id pipelines)).cluster = m.cluster := rfl
    simp only [reportPipelines, hknown, hsame, if_true]
    exact handle_again m (.pipelinesReported id pipelines)

/-- An operation that says how things are, or should be. -/
def Op.repeats : Op → Bool
  | .reportNode _ | .heartbeat _ _ | .reportPipelines _ _ | .openPipeline _ _ => true
  | .forceExit | .refresh => true
  | .allocate _ _ _ | .register _ | .registerGate _ => false

/-- Such an operation, delivered twice, does what it does when it is delivered once. -/
theorem run_twice {op : Op} (hop : op.repeats = true) (m : Manager) :
    op.run (op.run m) = op.run m := by
  cases op with
  | reportNode x => exact reportNode_twice x
  | heartbeat id health => exact heartbeat_twice id health
  | reportPipelines id pipelines => exact reportPipelines_twice id pipelines
  | openPipeline env id => exact openPipeline_twice env id
  | forceExit => exact congrArg (fun safeMode => { m with safeMode }) SafeMode.force_again
  | refresh =>
    exact congrArg (fun safeMode => { m with safeMode }) SafeMode.refreshAndValidate_again
  | allocate | register | registerGate => exact (Bool.false_ne_true hop).elim

/-- The registration that ends safe mode may come in twice. -/
theorem run_twice_sample :
    let op : Op := .reportNode (Sample.reportOf 1 [Sample.archive.id])
    (op.run Sample.waiting).status = .exited false ∧
      op.run (op.run Sample.waiting) = op.run Sample.waiting := by
  intro op
  refine ⟨by decide +kernel, ?_⟩
  exact run_twice rfl Sample.waiting

end Manager

end ControlPlane

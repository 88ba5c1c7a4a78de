import ControlPlane.Proofs.Manager.Run
import ControlPlane.Proofs.Readiness.Notices
import ControlPlane.Proofs.Readiness.Reports
import ControlPlane.Proofs.Registry

/-!
# Reports of nodes in any order

The reports of nodes bring the control plane out of safe mode in whatever order they
come.  `Reachable` are the states of the control plane, with the cluster and safe mode
open to others.  `reports_caught` is a run of reports, and `reports_perm` compares two.
-/

namespace ControlPlane.Manager

open Readiness

variable {m : Manager}

/-- A state that the control plane can come to.  Others may change the cluster at any
time, and they may act on safe mode themselves. -/
inductive Reachable : Manager → Prop
  | start {settings : Settings} {k : Cluster} {metrics : Metrics} {m : Manager}
      (h : start settings k metrics = .ok m) : Reachable m
  | op {m : Manager} (op : Op) (h : Reachable m) : Reachable (op.run m)
  | cluster {m : Manager} (k : Cluster) (h : Reachable m) : Reachable { m with cluster := k }
  | safeMode {m : Manager} (op : SafeMode.Op) (h : Reachable m) :
      Reachable { m with safeMode := op.run m.safeMode }

theorem reportNode_safeMode (m : Manager) (x : NodeReport) :
    ∃ metrics, (m.reportNode x).safeMode =
      ({ m.safeMode with metrics } : SafeMode).handle (m.reportNode x).cluster
        (if !m.cluster.nodes.contains x.descriptor.id then .nodeRegistered x
          else .containersReported x) := by
  rw [← Registry.report_fst]
  exact ⟨_, rfl⟩

/-- What an operation does to safe mode: nothing but to the metrics, and then a move of
safe mode or none. -/
theorem Op.move_run (op : Op) (m : Manager) :
    ∃ metrics, (op.run m).safeMode = { m.safeMode with metrics } ∨
      ∃ mv : SafeMode.Move, (op.run m).safeMode = mv.run { m.safeMode with metrics } := by
  cases op with
  | reportNode r =>
    obtain ⟨metrics, h⟩ := reportNode_safeMode m r
    exact ⟨metrics, .inr ⟨.act (.handle _ _), h⟩⟩
  | heartbeat id health =>
    refine ⟨m.safeMode.metrics, .inl ?_⟩
    show (m.heartbeat id health).2.safeMode = _
    unfold Manager.heartbeat
    split <;> rfl
  | reportPipelines id pipelines =>
    refine ⟨m.safeMode.metrics, ?_⟩
    show (m.reportPipelines id pipelines).2.safeMode = _ ∨ ∃ mv : SafeMode.Move,
      (m.reportPipelines id pipelines).2.safeMode = _
    unfold Manager.reportPipelines
    split
    · exact .inr ⟨.act (.handle m.cluster (.pipelinesReported id pipelines)), rfl⟩
    · exact .inl rfl
  | openPipeline env id =>
    show ∃ metrics, (m.openPipeline env id).2.safeMode = _ ∨ ∃ mv : SafeMode.Move,
      (m.openPipeline env id).2.safeMode = _
    unfold Manager.openPipeline
    dsimp only
    split
    · exact ⟨_, .inl rfl⟩
    · exact ⟨_, .inr ⟨.act (.handle _ (.pipelineOpened _)), rfl⟩⟩
  | allocate env draws r =>
    show ∃ metrics, (m.allocate env draws r).2.1.safeMode = _ ∨ ∃ mv : SafeMode.Move,
      (m.allocate env draws r).2.1.safeMode = _
    unfold Manager.allocate
    split <;> exact ⟨_, .inl rfl⟩
  | forceExit => exact ⟨_, .inr ⟨.act .force, rfl⟩⟩
  | refresh => exact ⟨_, .inr ⟨.act (.refreshAndValidate m.cluster), rfl⟩⟩
  | register name | registerGate name => exact ⟨m.safeMode.metrics, .inr ⟨.join name, rfl⟩⟩

/-- What an operation does to safe mode: nothing but to what is beside it, and then an
operation of safe mode or none. -/
theorem Op.safeMode_run (op : Op) (m : Manager) :
    ∃ services metrics, (op.run m).safeMode = { m.safeMode with services, metrics } ∨
      ∃ act : SafeMode.Op,
        (op.run m).safeMode = act.run { m.safeMode with services, metrics } := by
  obtain ⟨metrics, hsame | ⟨act | name, hmove⟩⟩ := op.move_run m
  · exact ⟨m.safeMode.services, metrics, .inl hsame⟩
  · exact ⟨m.safeMode.services, metrics, .inr ⟨act, hmove⟩⟩
  · exact ⟨m.safeMode.services.register name, metrics, .inl hmove⟩

/-- Outside safe mode an operation changes only what is beside safe mode. -/
theorem Op.beside_of_exited (op : Op) (hout : m.status.inSafeMode = false) :
    ∃ services metrics, (op.run m).safeMode = { m.safeMode with services, metrics } := by
  obtain ⟨services, metrics, hsame | ⟨act, hact⟩⟩ := op.safeMode_run m
  · exact ⟨services, metrics, hsame⟩
  · exact ⟨services, metrics, hact.trans (act.run_of_exited hout)⟩

theorem Reachable.consistent (h : m.Reachable) : m.safeMode.Consistent := by
  induction h with
  | @start settings k metrics m h =>
    rw [(of_start_eq_ok h).2]
    exact SafeMode.start_consistent settings.safeMode k {} {} metrics
  | @op m op _ ih =>
    obtain ⟨services, metrics, hsame | ⟨act, hact⟩⟩ := op.safeMode_run m
    · rw [hsame]
      exact ih.beside m.safeMode.board services metrics
    · rw [hact]
      exact (ih.beside m.safeMode.board services metrics).op act
  | cluster k _ ih => exact ih
  | safeMode act _ ih => exact ih.op act

theorem Reachable.after (h : m.Reachable) (ops : List Op) : (m.after ops).Reachable := by
  induction ops generalizing m with
  | nil => exact h
  | cons op ops ih => exact ih (h.op op)

/-! ## Reports -/

/-- What some reports come to, and which nodes are known after them. -/
theorem reports_caught (h : m.safeMode.Unforced) (hmono : ∀ r ∈ m.safeMode.rules, r.Monotone)
    (hwithin : ∀ r ∈ m.safeMode.rules, r.Within) (l : List NodeReport) :
    SafeMode.Caught m.cluster.nodes m.safeMode l (l.foldl reportNode m).safeMode ∧
      ∀ id, (l.foldl reportNode m).cluster.nodes.contains id = true ↔
        m.cluster.nodes.contains id = true ∨ ∃ x ∈ l, x.descriptor.id = id := by
  induction l using List.reverseRecOn with
  | nil => exact ⟨SafeMode.caught_nil h, fun id => by simp⟩
  | append_singleton l x ih =>
    obtain ⟨hcaught, hknown⟩ := ih
    rw [List.foldl_append]
    show SafeMode.Caught _ _ _ ((l.foldl reportNode m).reportNode x).safeMode ∧ ∀ id,
      ((l.foldl reportNode m).reportNode x).cluster.nodes.contains id = true ↔ _
    generalize l.foldl reportNode m = m' at hcaught hknown ⊢
    refine ⟨?_, fun id => ?_⟩
    · obtain ⟨metrics, hsafeMode⟩ := reportNode_safeMode m' x
      rw [hsafeMode]
      refine (hcaught.beside m'.safeMode.board m'.safeMode.services metrics).handle hmono hwithin ?_
      have hid := hknown x.descriptor.id
      rw [Bool.not_eq_true', ← Bool.not_eq_true, hid, ← Bool.not_eq_true]
      grind
    · show (m'.cluster.nodes.report x).2.contains id = true ↔ _
      rw [Registry.contains_report, hknown]
      simp only [List.mem_append, List.mem_singleton]
      grind

/-- Readiness does not depend on the order in which nodes report. -/
theorem reports_perm {l l' : List NodeReport} (hm : m.Reachable)
    (hin : m.status.inSafeMode = true) (hmono : ∀ r ∈ m.safeMode.rules, r.Monotone)
    (h : l.Perm l') :
    (l.foldl reportNode m).status = (l'.foldl reportNode m).status ∧
      (l.foldl reportNode m).safeMode.validated = (l'.foldl reportNode m).safeMode.validated := by
  cases l with
  | nil =>
    obtain rfl := h.nil_eq
    exact ⟨rfl, rfl⟩
  | cons x l =>
    have hconsistent := hm.consistent
    have hunforced := hconsistent.unforced hin
    have hcaught := (reports_caught hunforced hmono hconsistent.within (x :: l)).1
    have hcaught' := (reports_caught hunforced hmono hconsistent.within l').1
    exact hcaught.perm hcaught' h (List.cons_ne_nil x l)

namespace Sample

/-- A closed container whose replica has to be reported. -/
def archive : Container :=
  { Container.fresh ⟨5⟩ ⟨.ofNat 7⟩ (.ratis .one) "app" ⟨0, 0⟩ with state := .closed, keys := 1 }

/-- The control plane of a development node that waits for the container. -/
def waiting : Manager where
  settings := .development
  cluster := { containers := (∅ : Inventory).insert archive }
  safeMode := .start true (rulesOf Settings.development.safeMode
    { containers := (∅ : Inventory).insert archive }) {} {} {}

/-- The report of a node that hosts some containers. -/
def reportOf (n : Nat) (containers : List ContainerId) : NodeReport where
  descriptor := ⟨⟨.ofNat n⟩, "dn", "10.0.0.1", "/rack1"⟩
  containers

end Sample

/-- The host of the only container may come first or last. -/
theorem reports_perm_sample :
    let l := [Sample.reportOf 1 [Sample.archive.id], Sample.reportOf 2 []]
    let l' := [Sample.reportOf 2 [], Sample.reportOf 1 [Sample.archive.id]]
    (l.foldl reportNode Sample.waiting).status = (l'.foldl reportNode Sample.waiting).status ∧
      (l.foldl reportNode Sample.waiting).safeMode.validated =
        (l'.foldl reportNode Sample.waiting).safeMode.validated := by
  have hstart : start .development Sample.waiting.cluster {} = .ok Sample.waiting := by rfl
  have hmono : ∀ r ∈ Sample.waiting.safeMode.rules, r.Monotone := by
    intro r hr
    have hrules : Sample.waiting.safeMode.rules =
        [.nodes { required := 1 },
          .containers (.make .ratis 0.99 Sample.waiting.cluster.containers),
          .containers (.make .ec 0.99 Sample.waiting.cluster.containers)] := by rfl
    rw [hrules] at hr
    simp only [List.mem_cons, List.not_mem_nil, or_false] at hr
    rcases hr with rfl | rfl | rfl
    · trivial
    · exact ReplicaRule.monotone_of_size_le_one (by decide) fun _ => by decide +kernel
    · exact ReplicaRule.monotone_of_size_le_one (by decide) fun _ => by decide +kernel
  exact reports_perm (.start hstart) rfl hmono (.swap _ _ [])

end ControlPlane.Manager

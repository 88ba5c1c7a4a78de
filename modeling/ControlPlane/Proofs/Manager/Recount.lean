import ControlPlane.Proofs.Manager.Reports
import ControlPlane.Proofs.Readiness.Frozen

/-!
# Counting from events and from the registry

A rule on replicas counts the reports of nodes as they come in, and it never takes back
what it has counted.  It may be counted anew from the registry instead, which has the
latest report of each node only.  `refresh_counted` compares the two: counting anew never
finds more, and it finds the same if no node left a container out of a later report.

The invariant of a run is `Ingested`: the rules have heard of all reports, and the registry
recalls them.  `Ingested.snoc` is one operation more.
-/

namespace ControlPlane.Manager

open Readiness

variable {m : Manager} {containers : Inventory} {l : List NodeReport} {op : Op} {ops : List Op}

/-- The report that an operation takes in. -/
def Op.report? : Op → Option NodeReport
  | .reportNode x => some x
  | _ => none

/-- Does the operation do no more than to take in what nodes tell? -/
def Op.ingests : Op → Bool
  | .reportNode _ | .heartbeat _ _ | .reportPipelines _ _ => true
  | _ => false

/-! ## One operation -/

/-- Over a fixed inventory some reports were taken in. -/
structure Ingested (containers : Inventory) (l : List NodeReport) (m : Manager) : Prop where
  inventory : m.cluster.containers = containers
  listening : m.safeMode.Listening containers l
  recalls : m.cluster.nodes.Recalls l

theorem Ingested.report (h : Ingested containers l m) (x : NodeReport) :
    Ingested containers (l ++ [x]) (m.reportNode x) := by
  obtain ⟨metrics, hsafeMode⟩ := reportNode_safeMode m x
  refine ⟨h.inventory, ?_, h.recalls.report x⟩
  rw [hsafeMode]
  refine (h.listening.beside m.safeMode.board m.safeMode.services metrics).report (x := x) ?_
  split
  · exact .inl rfl
  · exact .inr rfl

theorem Ingested.heartbeat (h : Ingested containers l m) (id : NodeId) (health : Health) :
    Ingested containers l (m.heartbeat id health).2 := by
  unfold Manager.heartbeat
  split
  · exact h
  · next nodes hset =>
    exact ⟨h.inventory, h.listening, h.recalls.of_hosts fun _ _ => Registry.hosts_setHealth hset⟩

theorem Ingested.reportPipelines (h : Ingested containers l m) (id : NodeId)
    (pipelines : List PipelineId) : Ingested containers l (m.reportPipelines id pipelines).2 := by
  unfold Manager.reportPipelines
  split
  · exact ⟨h.inventory, h.listening.handle fun _ => rfl, h.recalls⟩
  · exact h

theorem Ingested.snoc (h : Ingested containers l m) (hop : op.ingests = true) :
    Ingested containers (l ++ op.report?.toList) (op.run m) := by
  cases op with
  | reportNode x => exact h.report x
  | heartbeat id health => exact (List.append_nil l).symm ▸ h.heartbeat id health
  | reportPipelines id pipelines =>
    exact (List.append_nil l).symm ▸ h.reportPipelines id pipelines
  | openPipeline | allocate | forceExit | refresh | register | registerGate =>
    exact (Bool.false_ne_true hop).elim

/-! ## All operations -/

theorem Ingested.after (h : Ingested containers l m) (hops : ∀ op ∈ ops, op.ingests = true) :
    Ingested containers (l ++ ops.filterMap Op.report?) (m.after ops) := by
  induction ops generalizing l m with
  | nil => exact (List.append_nil l).symm ▸ h
  | cons op ops ih =>
    obtain ⟨hop, hrest⟩ := List.forall_mem_cons.1 hops
    have hreports : l ++ (op :: ops).filterMap Op.report? =
        l ++ op.report?.toList ++ ops.filterMap Op.report? := by
      cases hreport : op.report? <;> simp [hreport]
    rw [hreports]
    exact ih (h.snoc hop) hrest

theorem Ingested.start {settings : Settings} {k : Cluster} {metrics : Metrics}
    (hstart : start settings k metrics = .ok m) (henabled : settings.safeMode.enabled = true)
    (hnodes : k.nodes = ∅) : Ingested k.containers [] m := by
  obtain ⟨hcluster, hsafeMode⟩ := of_start_eq_ok hstart
  refine ⟨by rw [hcluster], ?_, ?_⟩
  · rw [hsafeMode]
    exact SafeMode.start_listening henabled k {} {} metrics
  · rw [hcluster, hnodes]
    exact Registry.recalls_empty

/-- What a rule on replicas counts anew from the registry it has counted from events, as long
as it is not frozen.  It is the same if no node left a container out of a later report. -/
theorem refresh_counted {settings : Settings} {k : Cluster} {metrics : Metrics} {m₀ : Manager}
    (hstart : start settings k metrics = .ok m₀) (henabled : settings.safeMode.enabled = true)
    (hnodes : k.nodes = ∅) {ops : List Op} (hops : ∀ op ∈ ops, op.ingests = true) :
    let m := m₀.after ops
    ∀ rule, .containers rule ∈ m.safeMode.rules → rule.frozen = false →
      (∀ c ∈ (rule.refresh m.cluster true).counted, c ∈ rule.counted) ∧
        (Registry.Faithful (ops.filterMap Op.report?) →
          (rule.refresh m.cluster true).counted = rule.counted) := by
  intro m rule hrule hopen
  have hingested : Ingested k.containers (ops.filterMap Op.report?) m :=
    (Ingested.start hstart henabled hnodes).after hops
  -- Both count from the same start, so that the words decide.
  let first := ReplicaRule.make rule.family rule.threshold k.containers
  let told := ReplicaRule.wordsOf (ops.filterMap Op.report?)
  let known := ReplicaRule.wordsIn m.cluster.nodes
  have hevents : rule.counted = (first.hearing told).counted :=
    congrArg ReplicaRule.counted
      ((hingested.listening.heard _ hrule hopen).trans ReplicaRule.taking_make)
  have hanew : (rule.refresh m.cluster true).counted = (first.hearing known).counted := by
    rw [ReplicaRule.refresh_of_open hopen, ReplicaRule.recount_eq, hingested.inventory]
  have hreported (n : NodeId) (c : ContainerId) (h : (n, c) ∈ known) : (n, c) ∈ told :=
    ReplicaRule.mem_wordsOf.2 (hingested.recalls.reported n c (ReplicaRule.mem_wordsIn.1 h))
  have hless (c : ContainerId) : c ∈ (first.hearing known).counted →
      c ∈ (first.hearing told).counted :=
    ReplicaRule.counted_mono fun n => hreported n c
  rw [hevents, hanew]
  refine ⟨hless, fun hfaithful => SortedSet.eq_of_mem fun c => ⟨hless c, ?_⟩⟩
  refine ReplicaRule.counted_mono fun n h => ?_
  obtain ⟨x, hx, rfl, hc⟩ := ReplicaRule.mem_wordsOf.1 h
  exact ReplicaRule.mem_wordsIn.2 (hingested.recalls.hosts hfaithful x hx c hc)

namespace Sample

/-- The control plane of a development node that waits for two containers. -/
def shelf : Manager :=
  let k : Cluster :=
    { containers := ((∅ : Inventory).insert archive).insert { archive with id := ⟨6⟩ } }
  { settings := .development
    cluster := k
    safeMode := .start true (rulesOf Settings.development.safeMode k) {} {} {} }

/-- What the rules on replicas have counted, and whether they are frozen. -/
def counted (m : SafeMode) : List (SortedSet ContainerId × Bool) :=
  m.rules.filterMap fun
    | .containers rule => some (rule.counted, rule.frozen)
    | _ => none

/-- A node loses a container between two reports. -/
def losing : List Op := [.reportNode (reportOf 1 [archive.id]), .reportNode (reportOf 1 [])]

end Sample

/-- The rule that is not frozen has counted a container that it would not count anew. -/
theorem refresh_counted_sample :
    let m := Sample.shelf.after Sample.losing
    Sample.counted m.safeMode = [(.ofList [Sample.archive.id], false), (∅, true)] ∧
      Sample.counted (m.safeMode.refresh m.cluster) = [(∅, false), (∅, true)] ∧
      ∀ rule, .containers rule ∈ m.safeMode.rules → rule.frozen = false →
        ∀ c ∈ (rule.refresh m.cluster true).counted, c ∈ rule.counted := by
  intro m
  have hstart : start .development Sample.shelf.cluster {} = .ok Sample.shelf := by rfl
  have hops : ∀ op ∈ Sample.losing, op.ingests = true := by decide
  refine ⟨by decide +kernel, by decide +kernel, fun rule hrule hopen => ?_⟩
  exact (refresh_counted hstart rfl rfl hops rule hrule hopen).1

end ControlPlane.Manager

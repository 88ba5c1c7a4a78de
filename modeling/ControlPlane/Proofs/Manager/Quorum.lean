import ControlPlane.Proofs.Allocation.Limit
import ControlPlane.Proofs.Manager.Reports
import ControlPlane.Proofs.Readiness.Quorum

/-!
# Enough nodes

In memory the control plane starts with nothing but nodes to wait for, and nothing is
allocated or opened before safe mode ends.  So it ends with the report of the node that
makes the number of nodes full.

* `contains_run` says which nodes an operation makes known: the one that it is a report of.
* `Op.decides` is one operation in safe mode; after it `Op.beside_of_exited` is enough.
* `Counted` ties safe mode to the nodes that have reported.  `Counted.snoc` is the step,
  and `inMemory_exits_at` reads the result off.
-/

namespace ControlPlane.Manager

open Readiness

variable {m : Manager} {op : Op} {ops : List Op} {id : NodeId}

/-! ## The nodes that are known -/

/-- The node that an operation is the report of. -/
def Op.reporter? : Op → Option NodeId
  | .reportNode r => some r.descriptor.id
  | _ => none

/-- Does the operation always make safe mode look at its rules? -/
def Op.looks : Op → Bool
  | .reportNode _ | .refresh => true
  | _ => false

/-- The nodes that reported in a run. -/
def reporters (ops : List Op) : SortedSet NodeId := .ofList (ops.filterMap Op.reporter?)

/-- The nodes that have reported after an operation, if some have before. -/
def Op.joins (op : Op) (present : SortedSet NodeId) : SortedSet NodeId :=
  op.reporter?.elim present present.insert

theorem Op.mem_joins {present : SortedSet NodeId} :
    id ∈ op.joins present ↔ id ∈ present ∨ op.reporter? = some id := by
  unfold Op.joins
  cases op.reporter? with
  | none => simp
  | some j => simp [or_comm, eq_comm]

theorem Op.joins_of_not_looks {present : SortedSet NodeId} (h : op.looks = false) :
    op.joins present = present := by
  cases op <;> first | rfl | simp [Op.looks] at h

theorem reporters_snoc : reporters (ops ++ [op]) = op.joins (reporters ops) := by
  refine SortedSet.eq_of_mem fun id => ?_
  rw [Op.mem_joins]
  simp [reporters]

theorem openPipeline_nodes (m : Manager) (env : Environment) (id : PipelineId) :
    (m.openPipeline env id).2.cluster.nodes = m.cluster.nodes := by
  rw [openPipeline_session]
  have hcall := Session.openPipeline_outcome env m.session id
  generalize Session.openPipeline env id m.session = out at hcall ⊢
  rcases hcall with ⟨-, hs⟩ | ⟨-, hs⟩ | ⟨-, hs⟩ <;> exact (congrArg Cluster.nodes hs :)

theorem allocate_nodes (m : Manager) (env : Environment) (draws : List Pipeline → Nat × Nat)
    (r : Request) : (m.allocate env draws r).2.1.cluster.nodes = m.cluster.nodes := by
  unfold allocate
  split
  · rfl
  · exact (Allocator.allocate_requested m.allocator env _ r m.session).nodes

/-- Only a report makes a node known. -/
theorem contains_of_not_report (hop : op.reporter? = none) :
    (op.run m).cluster.nodes.contains id = m.cluster.nodes.contains id := by
  cases op with
  | reportNode => cases hop
  | heartbeat j health =>
    show (m.heartbeat j health).2.cluster.nodes.contains id = _
    unfold heartbeat
    split
    · rfl
    · next hset => exact Registry.contains_setHealth hset
  | reportPipelines j pipelines =>
    exact congrArg (·.nodes.contains id) (reportPipelines_cluster m j pipelines)
  | openPipeline env j => exact congrArg (·.contains id) (openPipeline_nodes m env j)
  | allocate env draws r => exact congrArg (·.contains id) (allocate_nodes m env draws r)
  | forceExit | refresh | register | registerGate => rfl

theorem contains_run : (op.run m).cluster.nodes.contains id = true ↔
    m.cluster.nodes.contains id = true ∨ op.reporter? = some id := by
  cases op with
  | reportNode r =>
    show (m.cluster.nodes.report r).2.contains id = true ↔ _
    rw [Registry.contains_report, Op.reporter?, Option.some.injEq]
  | _ =>
    rw [contains_of_not_report rfl]
    exact (or_iff_left nofun).symm

/-! ## One operation -/

theorem Op.decides {required : UInt64} {present : SortedSet NodeId} (hop : op ≠ .forceExit)
    (h : m.safeMode.Waiting required present)
    (hknown : ∀ id, m.cluster.nodes.contains id = true ↔ id ∈ present) :
    op.looks = false ∧ (op.run m).safeMode.Waiting required (op.joins present) ∨
      (op.run m).safeMode.Decided required (op.joins present) := by
  have hids : ∀ id ∈ (op.run m).cluster.nodes.ids, id ∈ op.joins present := fun id hid => by
    rw [Registry.mem_ids_iff_contains, contains_run, hknown] at hid
    exact Op.mem_joins.2 hid
  cases op with
  | reportNode r =>
    refine .inr ?_
    obtain ⟨metrics, hsafeMode⟩ := reportNode_safeMode m r
    show (m.reportNode r).safeMode.Decided required (present.insert r.descriptor.id)
    -- A node that is known is counted already, so its report adds none.
    have hadds : Event.adds present (if !m.cluster.nodes.contains r.descriptor.id then
        .nodeRegistered r else .containersReported r) = present.insert r.descriptor.id := by
      cases hcontains : m.cluster.nodes.contains r.descriptor.id with
      | true => exact (SortedSet.insert_of_mem ((hknown _).1 hcontains)).symm
      | false => rfl
    rw [hsafeMode, ← hadds]
    exact (h.beside m.safeMode.services metrics).handle (hadds ▸ hids)
  | heartbeat j health =>
    refine .inl ⟨rfl, ?_⟩
    show (m.heartbeat j health).2.safeMode.Waiting required present
    unfold Manager.heartbeat
    split <;> exact h
  | reportPipelines j pipelines =>
    replace hids : ∀ id ∈ (m.reportPipelines j pipelines).2.cluster.nodes.ids, id ∈ present :=
      hids
    show _ ∧ (m.reportPipelines j pipelines).2.safeMode.Waiting required present ∨
      (m.reportPipelines j pipelines).2.safeMode.Decided required present
    unfold Manager.reportPipelines at hids ⊢
    split
    · next hcontains =>
      rw [if_pos hcontains] at hids
      exact .inr (h.handle (e := .pipelinesReported j pipelines) hids)
    · exact .inl ⟨rfl, h⟩
  | openPipeline env j =>
    replace hids : ∀ id ∈ (m.openPipeline env j).2.cluster.nodes.ids, id ∈ present := hids
    show _ ∧ (m.openPipeline env j).2.safeMode.Waiting required present ∨
      (m.openPipeline env j).2.safeMode.Decided required present
    unfold Manager.openPipeline at hids ⊢
    dsimp only at hids ⊢
    split
    · exact .inl ⟨rfl, h.beside _ _⟩
    · next p hopened =>
      rw [hopened] at hids
      exact .inr ((h.beside _ _).handle (e := .pipelineOpened p) hids)
  | allocate env draws r =>
    have hrefused : m.refusal? r = some (.safeMode .allocation) := if_pos h.inSafeMode
    refine .inl ⟨rfl, ?_⟩
    show (m.allocate env draws r).2.1.safeMode.Waiting required present
    unfold Manager.allocate
    rw [hrefused]
    exact h
  | forceExit => exact (hop rfl).elim
  | refresh => exact .inr (h.refreshAndValidate hids)
  | register name => exact .inl ⟨rfl, h.beside _ _⟩
  | registerGate name => exact .inl ⟨rfl, h.beside _ _⟩

/-! ## Runs -/

/-- Safe mode has counted the nodes that reported in a run. -/
structure Counted (required : UInt64) (ops : List Op) (m : Manager) : Prop where
  known : ∀ id, m.cluster.nodes.contains id = true ↔ id ∈ reporters ops
  safeMode : ops.any Op.looks = false ∧ m.safeMode.Waiting required (reporters ops) ∨
    m.safeMode.Decided required (reporters ops)

theorem Counted.snoc {required : UInt64} (h : Counted required ops m) (hop : op ≠ .forceExit) :
    Counted required (ops ++ [op]) (op.run m) := by
  refine ⟨fun id => ?_, ?_⟩
  · rw [contains_run, h.known, reporters_snoc, Op.mem_joins]
  have hdecides (hwaiting : m.safeMode.Waiting required (reporters ops)) :=
    Op.decides hop hwaiting h.known
  rw [reporters_snoc, List.any_append, List.any_cons, List.any_nil, Bool.or_false]
  rcases h.safeMode with ⟨hnone, hwaiting⟩ | hdecided
  · refine (hdecides hwaiting).imp_left fun ⟨hlooks, hwaiting'⟩ => ⟨?_, hwaiting'⟩
    rw [hnone, hlooks]
    rfl
  · refine .inr ?_
    cases hin : m.safeMode.status.inSafeMode with
    | true =>
      rcases hdecides (hdecided.waiting hin) with ⟨hlooks, hwaiting'⟩ | hdecided'
      · -- No node has reported since the last look at the rules.
        refine hwaiting'.decided fun henough => ?_
        rw [Op.joins_of_not_looks hlooks, ← hdecided.exited_iff, hin] at henough
        exact Bool.false_ne_true henough.symm
      · exact hdecided'
    | false =>
      obtain ⟨services, metrics, hbeside⟩ := op.beside_of_exited hin
      rw [hbeside]
      exact hdecided.beside_of_exited hin (fun id hid => Op.mem_joins.2 (.inl hid)) _ _

theorem Counted.after {required : UInt64} (h : Counted required [] m)
    (hunforced : .forceExit ∉ ops) : Counted required ops (m.after ops) := by
  induction ops using List.reverseRecOn with
  | nil => exact h
  | append_singleton ops op ih =>
    rw [List.mem_append, not_or, List.mem_singleton] at hunforced
    rw [after_append]
    exact (ih hunforced.1).snoc (Ne.symm hunforced.2)

/-- The thresholds of settings that can be used are fractions. -/
theorem isFraction_of_start {settings : Settings} {k : Cluster} {metrics : Metrics}
    (h : start settings k metrics = .ok m) :
    ∀ x ∈ settings.thresholds, Settings.isFraction x.2 = true := by
  have hvalid : settings.fault? = none := by
    unfold start Settings.validate at h
    cases hfault : settings.fault? with
    | none => rfl
    | some fault =>
      rw [hfault] at h
      cases h
  unfold Settings.fault? at hvalid
  split at hvalid
  · cases hvalid
  · next hnone => simpa using hnone

theorem counted_start {settings : Settings} {metrics : Metrics}
    (hstart : inMemory settings metrics = .ok m) (henabled : settings.safeMode.enabled = true) :
    Counted settings.safeMode.minNodes [] m := by
  obtain ⟨hcluster, hsafeMode⟩ := of_start_eq_ok hstart
  have hfractions := isFraction_of_start hstart
  simp only [Settings.thresholds, List.forall_mem_cons] at hfractions
  obtain ⟨hcontainers, hhealthy, hreported, -⟩ := hfractions
  refine ⟨fun id => ?_, .inl ⟨rfl, ?_⟩⟩
  · rw [hcluster]
    exact iff_of_false Bool.false_ne_true SortedSet.not_mem_empty
  · rw [hsafeMode]
    exact SafeMode.start_waiting henabled hcontainers hhealthy hreported {} {} metrics

/-- In memory safe mode ends with the number of nodes that the settings ask for, neither
before nor later, and until then the rule on nodes has counted the registry. -/
theorem inMemory_exits_at {settings : Settings} {metrics : Metrics}
    (hstart : inMemory settings metrics = .ok m) (henabled : settings.safeMode.enabled = true)
    (hunforced : .forceExit ∉ ops) (hlooked : ∃ op ∈ ops, op.looks = true) :
    let m' := m.after ops
    let enough := settings.safeMode.minNodes.toNat ≤ (reporters ops).size
    (m'.status.inSafeMode = false ↔ enough) ∧ (m'.status.preCheckComplete = true ↔ enough) ∧
      m'.status.forced = false ∧
      (∀ id, m'.cluster.nodes.contains id = true ↔ id ∈ reporters ops) ∧
      (m'.status.inSafeMode = true → ∀ r, r ∈ m'.safeMode.rules ∧ r.name = .nodes ↔
        r = .nodes
          { required := settings.safeMode.minNodes
            registered := .ofList m'.cluster.nodes.ids }) := by
  intro m' enough
  have hcounted : Counted settings.safeMode.minNodes ops m' :=
    (counted_start hstart henabled).after hunforced
  have hdecided : m'.safeMode.Decided settings.safeMode.minNodes (reporters ops) := by
    rcases hcounted.safeMode with ⟨hnone, -⟩ | hdecided
    · rw [List.any_eq_true.2 hlooked] at hnone
      exact (Bool.false_ne_true hnone.symm).elim
    · exact hdecided
  have hcounts : reporters ops = .ofList m'.cluster.nodes.ids := SortedSet.eq_of_mem fun id => by
    rw [SortedSet.mem_ofList, Registry.mem_ids_iff_contains, hcounted.known]
  refine ⟨hdecided.exited_iff, hdecided.preCheckComplete_iff, hdecided.forced, hcounted.known, ?_⟩
  intro hin r
  have hwaiting := hdecided.waiting hin
  rw [← hcounts]
  constructor
  · rintro ⟨hr, hname⟩
    exact (hwaiting.rules r hr).eq_of_name hname
  · rintro rfl
    exact ⟨hwaiting.mem_rules, rfl⟩

namespace Sample

/-- The control plane of a cluster that waits for two nodes. -/
def pair : Manager where
  settings := { safeMode := { minNodes := 2 } }
  cluster := {}
  safeMode := .start true (rulesOf { minNodes := 2 } {}) {} {} {}

/-- One node reports twice, with a heartbeat in between. -/
def twice : List Op :=
  [.reportNode (reportOf 1 []), .heartbeat ⟨.ofNat 1⟩ .stale, .reportNode (reportOf 1 [⟨5⟩])]

end Sample

/-- One node is not enough however often it reports; the second one ends safe mode. -/
theorem inMemory_exits_at_two :
    (Sample.pair.after Sample.twice).status.inSafeMode = true ∧
      (Sample.pair.after (Sample.twice ++ [.reportNode (Sample.reportOf 2 [])])).status.inSafeMode =
        false := by
  have hstart : inMemory Sample.pair.settings {} = .ok Sample.pair := by rfl
  have htwice : .forceExit ∉ Sample.twice := by simp [Sample.twice]
  have hmore : .forceExit ∉ Sample.twice ++ [.reportNode (Sample.reportOf 2 [])] := by
    simp [Sample.twice]
  have hone := inMemory_exits_at hstart rfl htwice ⟨_, List.mem_cons_self, rfl⟩
  have htwo := inMemory_exits_at hstart rfl hmore ⟨_, List.mem_cons_self, rfl⟩
  refine ⟨?_, htwo.1.2 (by decide)⟩
  rw [← Bool.not_eq_false]
  exact fun hout => absurd (hone.1.1 hout) (by decide)

end ControlPlane.Manager

import Mathlib.Data.List.Induction
import ControlPlane.Proofs.Pipeline.Pool
import ControlPlane.Proofs.Sorted
import ControlPlane.Readiness.PipelineRules

/-!
# What a rule on reported pipelines goes by

A rule on reported pipelines counts the pipelines anew from time to time, and between two
counts the pool may change in any way.  What the rule tracks and what it has for reported
follows from its operations all the same.

* `lastCount` is the pool of the last count that was made, and `Counted` is what every
  operation keeps of it: the rule tracks the open pipelines of that pool, and its cutoff is
  that of their number.
* `Credited` says of a pipeline that some node reported it while it was tracked, and that it
  has been tracked ever since.  `credited_snoc` is one operation, and `mem_reported_run_iff`
  says that these are the reported pipelines.
* `run_bookkeeping` has it together.
-/

namespace ControlPlane.Readiness.ReportedRule

variable {r : ReportedRule} {threshold : Float} {pool : Pool} {p : PipelineId}

/-! ## Operations -/

/-- An event in a cluster, or a new count. -/
inductive Op
  | process (k : Cluster) (e : Event)
  | refresh (k : Cluster) (force : Bool)

namespace Op

/-- The rule after an operation. -/
def run (r : ReportedRule) : Op → ReportedRule
  | .process _ e => r.process e
  | .refresh k force => r.refresh k.pipelines force

/-- The pool that an operation counts.  A new count that is skipped counts none. -/
def counts? (r : ReportedRule) : Op → Option Pool
  | .process _ _ => none
  | .refresh k force => if !force && r.holds then none else some k.pipelines

/-- A node reports the pipeline. -/
def Names (p : PipelineId) : Op → Prop
  | .process _ (.pipelinesReported _ pipelines) => p ∈ pipelines
  | _ => False

end Op

/-- The rule after some operations, the first of the list first. -/
def run (r : ReportedRule) (ops : List Op) : ReportedRule := ops.foldl Op.run r

theorem run_snoc {ops : List Op} {op : Op} : r.run (ops ++ [op]) = op.run (r.run ops) :=
  List.foldl_concat ..

/-! ## What is tracked -/

theorem mem_tracks : p ∈ tracks pool ↔ ∃ e, pool.find? p = some e ∧
    e.pipeline.scheme = .ratis .three ∧ e.pipeline.state = .opened := by
  simp only [tracks, observed, SortedSet.mem_ofList, List.mem_map, Pool.mem_opened]
  constructor
  · rintro ⟨q, ⟨⟨cs, hq⟩, hscheme, hopen⟩, rfl⟩
    exact ⟨⟨q, cs⟩, hq, hscheme, hopen⟩
  · rintro ⟨e, he, hscheme, hopen⟩
    have hid : e.pipeline.id = p := Pool.id_of_find? he
    exact ⟨e.pipeline, ⟨⟨e.containers, hid ▸ he⟩, hscheme, hopen⟩, hid⟩

/-- The pool that a rule counted last, if it counted the given one before some operations. -/
def lastCount : Pool → ReportedRule → List Op → Pool
  | pool, _, [] => pool
  | pool, r, op :: ops => lastCount ((op.counts? r).getD pool) (op.run r) ops

/-- The rule counted a pool last. -/
structure Counted (threshold : Float) (pool : Pool) (r : ReportedRule) : Prop where
  tracked : r.tracked = tracks pool
  cutoff : r.cutoff = Readiness.cutoff threshold r.tracked.size
  within : ∀ p ∈ r.reported, p ∈ r.tracked
  threshold : r.threshold = threshold

theorem counted_make : Counted threshold pool (make threshold pool) :=
  ⟨rfl, rfl, fun _ hp => (SortedSet.not_mem_empty hp).elim, rfl⟩

theorem Counted.process (h : Counted threshold pool r) (e : Event) :
    Counted threshold pool (r.process e) := by
  cases e with
  | pipelinesReported n pipelines =>
    refine ⟨h.tracked, h.cutoff, fun p hp => ?_, h.threshold⟩
    rcases SortedSet.mem_insertAll.1 hp with hp | hp
    · exact h.within p hp
    · exact SortedSet.contains_iff_mem.1 (List.mem_filter.1 hp).2
  | nodeRegistered | containersReported | pipelineOpened => exact h

/-- One operation. -/
theorem Counted.op (h : Counted threshold pool r) (op : Op) :
    Counted threshold ((op.counts? r).getD pool) (op.run r) := by
  cases op with
  | process k e => exact h.process e
  | refresh k force =>
    simp only [Op.run, Op.counts?, refresh]
    split
    · exact h
    · refine ⟨rfl, h.threshold ▸ rfl, fun p hp => ?_, h.threshold⟩
      exact SortedSet.contains_iff_mem.1 (SortedSet.mem_filter.1 hp).2

/-- A run. -/
theorem Counted.run (h : Counted threshold pool r) (ops : List Op) :
    Counted threshold (lastCount pool r ops) (r.run ops) := by
  induction ops generalizing pool r with
  | nil => exact h
  | cons op ops ih => exact ih (h.op op)

/-! ## What is reported -/

/-- Some node reported the pipeline while it was tracked, and it has been tracked since. -/
def Credited (r : ReportedRule) (ops : List Op) (p : PipelineId) : Prop :=
  ∃ before op after, ops = before ++ op :: after ∧ op.Names p ∧
    ∀ since, since <+: op :: after → p ∈ (r.run (before ++ since)).tracked

/-- One operation more. -/
theorem credited_snoc {ops : List Op} {op : Op} : r.Credited (ops ++ [op]) p ↔
    p ∈ (r.run (ops ++ [op])).tracked ∧
      (r.Credited ops p ∨ p ∈ (r.run ops).tracked ∧ op.Names p) := by
  constructor
  · rintro ⟨before, op', after, hops, hnames, htracked⟩
    refine ⟨hops ▸ htracked _ (List.prefix_refl _), ?_⟩
    rcases List.eq_nil_or_concat' after with rfl | ⟨after, last, rfl⟩
    · -- It is the last operation in which the pipeline is reported.
      obtain ⟨rfl, hop⟩ := List.append_inj' hops rfl
      obtain rfl := List.singleton_inj.1 hop
      have hbefore := htracked [] List.nil_prefix
      rw [List.append_nil] at hbefore
      exact .inr ⟨hbefore, hnames⟩
    · rw [← List.cons_append, ← List.append_assoc] at hops
      obtain ⟨rfl, -⟩ := List.append_inj' hops rfl
      exact .inl ⟨before, op', after, rfl, hnames, fun since hsince =>
        htracked since (hsince.trans (List.prefix_append _ _))⟩
  · rintro ⟨hlast, ⟨before, op', after, rfl, hnames, htracked⟩ | ⟨hbefore, hnames⟩⟩
    · refine ⟨before, op', after ++ [op], by simp, hnames, fun since hsince => ?_⟩
      rw [← List.cons_append, List.prefix_concat_iff] at hsince
      rcases hsince with rfl | hsince
      · rw [← List.append_assoc]
        exact hlast
      · exact htracked since hsince
    · refine ⟨ops, op, [], rfl, hnames, fun since hsince => ?_⟩
      rcases List.prefix_cons_iff.1 hsince with rfl | ⟨rest, rfl, hrest⟩
      · rw [List.append_nil]
        exact hbefore
      · rw [List.prefix_nil.1 hrest]
        exact hlast

/-- One operation keeps the reported pipelines that are still tracked, and it adds the
tracked ones that are reported with it. -/
theorem Counted.mem_reported_op (h : Counted threshold pool r) (op : Op) :
    p ∈ (op.run r).reported ↔
      p ∈ (op.run r).tracked ∧ (p ∈ r.reported ∨ p ∈ r.tracked ∧ op.Names p) := by
  have hwithin := h.within p
  cases op with
  | process k e =>
    cases e with
    | pipelinesReported n pipelines =>
      simp only [Op.run, ReportedRule.process, Op.Names, SortedSet.mem_insertAll,
        List.mem_filter, SortedSet.contains_iff_mem]
      grind
    | nodeRegistered | containersReported | pipelineOpened =>
      simp only [Op.run, ReportedRule.process, Op.Names]
      grind
  | refresh k force =>
    simp only [Op.run, refresh, Op.Names, and_false, or_false]
    split
    · grind
    · simp only [SortedSet.mem_filter, SortedSet.contains_iff_mem, and_comm]

/-- From its start on, a rule has those pipelines for reported that are credited. -/
theorem mem_reported_run_iff {ops : List Op} : p ∈ ((make threshold pool).run ops).reported ↔
    (make threshold pool).Credited ops p := by
  induction ops using List.reverseRecOn with
  | nil =>
    refine iff_of_false SortedSet.not_mem_empty ?_
    rintro ⟨before, op, after, hops, -⟩
    simp at hops
  | append_singleton ops op ih =>
    rw [credited_snoc, ← ih, run_snoc]
    exact (counted_make.run ops).mem_reported_op op

/-- A report adds nothing if it names no tracked pipeline but those that were reported. -/
theorem process_of_reported {n : NodeId} {pipelines : List PipelineId}
    (h : ∀ p ∈ pipelines, p ∈ r.tracked → p ∈ r.reported) :
    r.process (.pipelinesReported n pipelines) = r := by
  have hsame : r.reported.insertAll (pipelines.filter r.tracked.contains) = r.reported :=
    SortedSet.insertAll_of_forall fun p hp =>
      h p (List.mem_filter.1 hp).1 (SortedSet.contains_iff_mem.1 (List.mem_filter.1 hp).2)
  rw [process, hsame]

/-- After any run a rule tracks the open pipelines with three copies of its last count, its
cutoff is that of their number, and it has those of them for reported that some node
reported while they were tracked and that have been tracked since.  What is reported again
is not counted again. -/
theorem run_bookkeeping (threshold : Float) (pool : Pool) (ops : List Op) :
    let made := make threshold pool
    let r := made.run ops
    (∀ p, p ∈ r.tracked ↔ ∃ e, (lastCount pool made ops).find? p = some e ∧
      e.pipeline.scheme = .ratis .three ∧ e.pipeline.state = .opened) ∧
    r.cutoff = Readiness.cutoff threshold r.tracked.size ∧
    (∀ p, p ∈ r.reported ↔ made.Credited ops p) ∧
    (∀ p ∈ r.reported, p ∈ r.tracked) ∧
    ∀ n pipelines, (∀ p ∈ pipelines, p ∈ r.tracked → p ∈ r.reported) →
      r.process (.pipelinesReported n pipelines) = r := by
  intro made r
  have hcounted : Counted threshold (lastCount pool made ops) r := counted_make.run ops
  refine ⟨fun p => ?_, hcounted.cutoff, fun p => mem_reported_run_iff, hcounted.within,
    fun n pipelines => process_of_reported⟩
  rw [hcounted.tracked]
  exact mem_tracks

namespace Sample

/-- A pipeline of three nodes. -/
def trio (state : PipelineState) : Pipeline where
  id := ⟨.ofNat 1⟩
  scheme := .ratis .three
  state
  members := [⟨.ofNat 1⟩, ⟨.ofNat 2⟩, ⟨.ofNat 3⟩]
  createdAt := ⟨0, 0⟩

/-- A cluster with that pipeline. -/
def cluster (state : PipelineState) : Cluster where
  pipelines := (∅ : Pool).put { pipeline := trio state }

/-- The pipeline is reported, and then it is closed for a while. -/
def interruption : List Op :=
  [.process (cluster .opened) (.pipelinesReported ⟨.ofNat 1⟩ [⟨.ofNat 1⟩]),
    .refresh (cluster .closed) true, .refresh (cluster .opened) true]

end Sample

/-- A report does not outlast an interruption. -/
theorem run_bookkeeping_sample :
    let made := make 0.9 (Sample.cluster .opened).pipelines
    (⟨.ofNat 1⟩ : PipelineId) ∈ (made.run Sample.interruption).tracked ∧
      ¬made.Credited Sample.interruption ⟨.ofNat 1⟩ := by
  intro made
  obtain ⟨htracked, -, hreported, -⟩ :=
    run_bookkeeping 0.9 (Sample.cluster .opened).pipelines Sample.interruption
  refine ⟨(htracked _).2 ⟨{ pipeline := Sample.trio .opened }, ?_, rfl, rfl⟩, ?_⟩
  · decide +kernel
  · rw [← hreported]
    decide +kernel

end ControlPlane.Readiness.ReportedRule

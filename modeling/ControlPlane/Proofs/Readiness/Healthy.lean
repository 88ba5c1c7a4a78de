import ControlPlane.Proofs.Pipeline.Pool
import ControlPlane.Proofs.Sorted
import ControlPlane.Readiness.PipelineRules

/-!
# Which pipelines count as healthy

The rule on healthy pipelines takes its cutoff from the pipelines that are open when it is
made.  What it counts are the pipelines that are opened from then on, whether they were there
or not.  The rule on reported pipelines starts from the same pipelines and counts no others.

* `Event.Opens` says of an event that it opens a pipeline all of whose members are healthy.
  `mem_healthy_process` is one event and `mem_healthy_run` a run: what is opened is counted.
* `run_counts` sets the pipelines that were there against the new ones.
  `holds_without_old` is a rule that holds although no pipeline that was there is healthy.
-/

namespace ControlPlane

namespace Readiness

/-- The event opens the pipeline, which has three copies, and all of whose members are
healthy. -/
def Event.Opens (nodes : Registry) (id : PipelineId) : Event → Prop
  | .pipelineOpened p => p.id = id ∧ p.scheme = .ratis .three ∧
      p.members ≠ [] ∧ ∀ n ∈ p.members, nodes.isHealthy n = true
  | _ => False

namespace HealthyRule

variable {r : HealthyRule} {nodes : Registry} {e : Event} {id : PipelineId}
  {l : List (Registry × Event)} {threshold : Float} {pool : Pool}

/-- The rule after some events, each with the nodes as they are then. -/
def run (r : HealthyRule) (l : List (Registry × Event)) : HealthyRule :=
  l.foldl (fun r x => r.process x.1 x.2) r

/-- Some event opens the pipeline. -/
def OpenedIn (l : List (Registry × Event)) (id : PipelineId) : Prop := ∃ x ∈ l, x.2.Opens x.1 id

theorem accepts_iff {p : Pipeline} : accepts nodes p = true ↔
    p.members ≠ [] ∧ ∀ n ∈ p.members, nodes.isHealthy n = true := by
  simp only [accepts, Bool.and_eq_true, Bool.not_eq_true', List.isEmpty_eq_false_iff,
    List.all_eq_true]

/-! ## Events -/

theorem cutoff_process : (r.process nodes e).cutoff = r.cutoff := by
  unfold process
  split
  · split <;> rfl
  · rfl

/-- One event. -/
theorem mem_healthy_process :
    id ∈ (r.process nodes e).healthy ↔ id ∈ r.healthy ∨ e.Opens nodes id := by
  cases e with
  | pipelineOpened p =>
    simp only [process, Event.Opens, ← accepts_iff]
    split
    · next hopens =>
      rw [SortedSet.mem_insert, or_comm, and_iff_left hopens, eq_comm]
    · next hnot =>
      exact (or_iff_left fun h => hnot h.2).symm
  | nodeRegistered | containersReported | pipelinesReported => exact (or_iff_left not_false).symm

theorem cutoff_run : (r.run l).cutoff = r.cutoff := by
  induction l generalizing r with
  | nil => rfl
  | cons x l ih => exact ih.trans cutoff_process

/-- A run. -/
theorem mem_healthy_run : id ∈ (r.run l).healthy ↔ id ∈ r.healthy ∨ OpenedIn l id := by
  induction l generalizing r with
  | nil => simp [run, OpenedIn]
  | cons x l ih =>
    show id ∈ ((r.process x.1 x.2).run l).healthy ↔ _
    rw [ih, mem_healthy_process, or_assoc]
    simp only [OpenedIn, List.mem_cons, exists_eq_or_imp]

/-- The cutoff is that of the pipelines which the rule on reported pipelines tracks. -/
theorem cutoff_make : (make threshold pool).cutoff =
    Readiness.cutoff threshold (ReportedRule.tracks pool).size := by
  have hsize : (ReportedRule.tracks pool).size = (observed pool).length :=
    (SortedSet.size_ofList (pool.opened_ids_nodup _)).trans (List.length_map _)
  rw [hsize]
  rfl

/-! ## Pipelines that were there and new ones -/

/-- What a rule counts are the pipelines that were opened with healthy members.  They are all
among those that its cutoff comes from just if no other was opened in this way.  Whether the
rule holds does not depend on which of them are new; only if none is, as many as the cutoff
asks for were there. -/
theorem run_counts (threshold : Float) (pool : Pool) (l : List (Registry × Event)) :
    let r := (make threshold pool).run l
    let old := ReportedRule.tracks pool
    let kept := r.healthy.filter old.contains
    let new := r.healthy.filter fun id => !old.contains id
    r.cutoff = Readiness.cutoff threshold old.size ∧
    (∀ id, id ∈ r.healthy ↔ OpenedIn l id) ∧
    ((∀ id ∈ r.healthy, id ∈ old) ↔ ∀ id, OpenedIn l id → id ∈ old) ∧
    (r.holds = true ↔ r.cutoff ≤ kept.size + new.size) ∧
    ((∀ id, OpenedIn l id → id ∈ old) → (r.holds = true ↔ r.cutoff ≤ kept.size)) := by
  intro r old kept new
  have hhealthy (id : PipelineId) : id ∈ r.healthy ↔ OpenedIn l id :=
    mem_healthy_run.trans (or_iff_right SortedSet.not_mem_empty)
  have hholds : r.holds = true ↔ r.cutoff ≤ r.healthy.size := decide_eq_true_iff
  have hsize : r.healthy.size = kept.size + new.size := r.healthy.size_eq_size_filter_add _
  refine ⟨cutoff_run.trans cutoff_make, hhealthy, ?_, hsize ▸ hholds, fun hold => ?_⟩
  · exact forall_congr' fun id => imp_congr_left (hhealthy id)
  · have hkept : kept = r.healthy := SortedSet.filter_of_forall fun id hid =>
      SortedSet.contains_iff_mem.2 (hold id ((hhealthy id).1 hid))
    rw [hkept]
    exact hholds

namespace Sample

/-- Three healthy nodes. -/
def trusted : Registry :=
  [1, 2, 3].foldl (fun r n => r.put
    { descriptor := ⟨⟨.ofNat n⟩, "dn", "10.0.0.1", "/rack1"⟩, status := .inServiceHealthy }) ∅

/-- An open pipeline of the three nodes. -/
def trio (n : Nat) : Pipeline where
  id := ⟨.ofNat n⟩
  scheme := .ratis .three
  state := .opened
  members := [⟨.ofNat 1⟩, ⟨.ofNat 2⟩, ⟨.ofNat 3⟩]
  createdAt := ⟨0, 0⟩

/-- The first pipeline is there at the start. -/
def prior : Pool := (∅ : Pool).put { pipeline := trio 1 }

/-- Opens a pipeline. -/
def opening (n : Nat) : List (Registry × Event) := [(trusted, .pipelineOpened (trio n))]

end Sample

/-- The pipeline that was there is opened again, and the rule holds. -/
theorem run_counts_sample :
    let r := (make 1.0 Sample.prior).run (Sample.opening 1)
    r.cutoff = 1 ∧ r.holds = true ∧
      r.cutoff ≤ (r.healthy.filter (ReportedRule.tracks Sample.prior).contains).size := by
  intro r
  obtain ⟨-, -, -, -, hexact⟩ := run_counts 1.0 Sample.prior (Sample.opening 1)
  have hold (id : PipelineId) (h : OpenedIn (Sample.opening 1) id) :
      id ∈ ReportedRule.tracks Sample.prior := by
    obtain ⟨x, hx, hopens⟩ := h
    obtain rfl := List.mem_singleton.1 hx
    rw [← hopens.1]
    decide +kernel
  have hholds : r.holds = true := by decide +kernel
  exact ⟨by decide +kernel, hholds, (hexact hold).1 hholds⟩

/-- A new pipeline is opened, and the rule holds although the one that was there is not
healthy. -/
theorem holds_without_old :
    let r := (make 1.0 Sample.prior).run (Sample.opening 2)
    r.cutoff = 1 ∧ r.holds = true ∧ (⟨.ofNat 2⟩ : PipelineId) ∈ r.healthy ∧
      (⟨.ofNat 2⟩ : PipelineId) ∉ ReportedRule.tracks Sample.prior ∧
      (r.healthy.filter (ReportedRule.tracks Sample.prior).contains).size = 0 := by
  decide +kernel

end HealthyRule

end Readiness

end ControlPlane

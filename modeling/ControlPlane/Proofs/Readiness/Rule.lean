import ControlPlane.Readiness.Rule

/-!
# What a rule keeps

A rule counts, but nothing that happens to it changes its name.  The rules that
settings ask for have different names, and the pre-check waits for the rule on the
number of nodes only.
-/

namespace ControlPlane.Readiness

theorem RuleName.ofText?_eq_some_iff {n : RuleName} {text : String} :
    RuleName.ofText? text = some n ↔ n.text = text := by
  constructor
  · intro h
    simpa using List.find?_some h
  · rintro rfl
    cases n <;> decide

/-! ## The kind of scheme of a rule -/

namespace ReplicaRule

variable {r : ReplicaRule}

@[simp] theorem family_record {node : NodeId} {c : ContainerId} :
    (r.record node c).family = r.family := by
  unfold record
  split
  · rfl
  · split
    · rfl
    · dsimp only
      split <;> rfl

@[simp] theorem family_recordAll {node : NodeId} {cs : List ContainerId} :
    (r.recordAll node cs).family = r.family := by
  unfold recordAll
  induction cs generalizing r with
  | nil => rfl
  | cons c cs ih => exact ih.trans family_record

@[simp] theorem family_process {e : Event} : (r.process e).family = r.family := by
  unfold process
  split
  · split
    · rfl
    · exact family_recordAll
  · split
    · rfl
    · exact family_recordAll
  · rfl

@[simp] theorem family_recount {k : Cluster} : (r.recount k).family = r.family := by
  unfold recount
  generalize hs : make r.family r.threshold k.containers = s
  have hfamily : s.family = r.family := hs ▸ rfl
  clear hs
  induction k.nodes.nodes.rows generalizing s with
  | nil => exact hfamily
  | cons row rows ih => exact ih _ (family_recordAll.trans hfamily)

@[simp] theorem family_refresh {k : Cluster} {force : Bool} :
    (r.refresh k force).family = r.family := by
  unfold refresh
  split
  · rfl
  · split
    · rfl
    · exact family_recount

end ReplicaRule

/-! ## The name of a rule -/

namespace Rule

variable {r : Rule} {k : Cluster}

theorem name_containers {rule rule' : ReplicaRule} (h : rule'.family = rule.family) :
    (Rule.containers rule').name = (Rule.containers rule).name := by
  simp only [name, h]

@[simp] theorem name_process {e : Event} : (r.process k e).name = r.name := by
  cases r with
  | containers rule => exact name_containers ReplicaRule.family_process
  | nodes | healthy | reported => rfl

@[simp] theorem name_refresh {force : Bool} : (r.refresh k force).name = r.name := by
  cases r with
  | containers rule => exact name_containers ReplicaRule.family_refresh
  | nodes | healthy | reported => rfl

@[simp] theorem name_recounted {anew : Bool} : (r.recounted k anew).name = r.name := by
  unfold recounted
  split
  · exact name_refresh
  · rfl

@[simp] theorem name_cleanup : r.cleanup.name = r.name := by
  cases r with
  | containers rule => exact name_containers rfl
  | nodes | healthy | reported => rfl

theorem isPreCheck_iff : r.isPreCheck = true ↔ r.name = .nodes := by
  cases r with
  | containers rule => cases h : rule.family <;> simp [isPreCheck, name, h]
  | nodes | healthy | reported => simp [isPreCheck, name]

end Rule

/-! ## All rules -/

theorem mem_preCheckOf {rules : List Rule} {n : RuleName} :
    n ∈ preCheckOf rules ↔ n = .nodes ∧ n ∈ rules.map Rule.name := by
  simp only [preCheckOf, SortedSet.mem_ofList, List.mem_map, List.mem_filter, Rule.isPreCheck_iff]
  constructor
  · rintro ⟨r, ⟨hr, hname⟩, rfl⟩
    exact ⟨hname, r, hr, rfl⟩
  · rintro ⟨hn, r, hr, rfl⟩
    exact ⟨r, ⟨hr, hn⟩, rfl⟩

theorem rulesOf_names_nodup (s : SafeModeSettings) (k : Cluster) :
    ((rulesOf s k).map Rule.name).Nodup := by
  unfold rulesOf
  cases s.enabled with
  | false => exact .nil
  | true =>
    cases s.pipelineCheck with
    | false => exact (by decide : [RuleName.nodes, .ratisContainers, .ecContainers].Nodup)
    | true => exact (by decide : RuleName.all.Nodup)

/-- The rules on replicas have counted nothing at first. -/
theorem eq_make_of_mem_rulesOf {s : SafeModeSettings} {k : Cluster} {rule : ReplicaRule}
    (h : .containers rule ∈ rulesOf s k) :
    rule = .make rule.family rule.threshold k.containers := by
  unfold rulesOf at h
  cases henabled : s.enabled <;> cases hcheck : s.pipelineCheck <;>
    simp [henabled, hcheck] at h
  all_goals rcases h with rfl | rfl <;> rfl

end ControlPlane.Readiness

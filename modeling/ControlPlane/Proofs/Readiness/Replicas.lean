import Mathlib.Data.List.Induction
import ControlPlane.Proofs.Readiness.Counting
import ControlPlane.Proofs.Registry.Hosts

/-!
# Containers and their reporters

The rule on replicas forgets who reported a container once the container is counted.  Even
so, which containers are counted follows from all the words of nodes that the rule has
heard, a word being that a node hosts a container.

* `hearing` is a rule after some words.  Reports come down to it (`taking_make`), and so
  does counting anew from the registry (`recount_eq`).
* `Tallied` is what a rule knows of one container: whether enough different nodes
  reported it, and, as long as it is not counted, which.  One word keeps it
  (`Tallied.record`), and so does any number of them (`tallied_hearing`).
* `counted_hearing` reads the counted containers off the words, and `counted_mono` says
  that a rule which hears more counts more.
-/

namespace ControlPlane.Readiness.ReplicaRule

variable {r : ReplicaRule} {words words' : List (NodeId × ContainerId)} {n : NodeId}
  {c e : ContainerId} {needed : Nat} {l : List NodeReport} {nodes : Registry} {k : Cluster}

/-! ## Words of nodes -/

/-- The rule after some words, the first of the list first. -/
def hearing (r : ReplicaRule) (words : List (NodeId × ContainerId)) : ReplicaRule :=
  words.foldl (fun r word => r.record word.1 word.2) r

/-- The nodes that reported a container, each once. -/
def reportersOf (words : List (NodeId × ContainerId)) (c : ContainerId) : SortedSet NodeId :=
  .ofList ((words.filter fun word => word.2 = c).map (·.1))

theorem mem_reportersOf : n ∈ reportersOf words c ↔ (n, c) ∈ words := by
  simp [reportersOf]

theorem reportersOf_snoc : reportersOf (words ++ [(n, c)]) c = (reportersOf words c).insert n := by
  refine SortedSet.eq_of_mem fun d => ?_
  rw [SortedSet.mem_insert, mem_reportersOf, mem_reportersOf, List.mem_append, or_comm]
  simp

theorem reportersOf_snoc_of_ne (h : e ≠ c) :
    reportersOf (words ++ [(n, e)]) c = reportersOf words c := by
  refine SortedSet.eq_of_mem fun d => ?_
  simp [mem_reportersOf, h.symm]

/-- Several nodes report what they host, each all of it at once. -/
theorem foldl_recordAll {α : Type} (l : List α) (node : α → NodeId)
    (hosted : α → List ContainerId) (r : ReplicaRule) :
    l.foldl (fun r x => r.recordAll (node x) (hosted x)) r =
      r.hearing (l.flatMap fun x => (hosted x).map (node x, ·)) := by
  induction l generalizing r with
  | nil => rfl
  | cons x l ih =>
    have hone : r.recordAll (node x) (hosted x) = r.hearing ((hosted x).map (node x, ·)) := by
      rw [hearing, List.foldl_map]
      rfl
    rw [List.foldl_cons, ih, hone, List.flatMap_cons, hearing, hearing, hearing,
      List.foldl_append]

/-- What some reports tell, container by container. -/
def wordsOf (l : List NodeReport) : List (NodeId × ContainerId) :=
  l.flatMap fun x => x.containers.map (x.descriptor.id, ·)

theorem mem_wordsOf : (n, c) ∈ wordsOf l ↔ ∃ x ∈ l, x.descriptor.id = n ∧ c ∈ x.containers := by
  simp only [wordsOf, List.mem_flatMap, List.mem_map, Prod.mk.injEq]
  grind

theorem taking_make {family : Family} {threshold : Float} {containers : Inventory} :
    (make family threshold containers).taking l =
      (make family threshold containers).hearing (wordsOf l) :=
  (if_neg Bool.false_ne_true).trans (foldl_recordAll l _ _ _)

/-- What the registry tells, container by container. -/
def wordsIn (nodes : Registry) : List (NodeId × ContainerId) :=
  nodes.nodes.rows.flatMap fun row => row.2.containers.toList.map (row.1, ·)

theorem mem_wordsIn : (n, c) ∈ wordsIn nodes ↔ nodes.Hosts n c := by
  simp only [wordsIn, List.mem_flatMap, List.mem_map, Prod.mk.injEq, Registry.Hosts,
    Registry.find?_eq_some_iff]
  constructor
  · rintro ⟨⟨_, e⟩, hrow, _, hc, rfl, rfl⟩
    exact ⟨e, hrow, hc⟩
  · rintro ⟨e, hrow, hc⟩
    exact ⟨(n, e), hrow, c, hc, rfl, rfl⟩

theorem recount_eq :
    r.recount k = (make r.family r.threshold k.containers).hearing (wordsIn k.nodes) :=
  foldl_recordAll k.nodes.nodes.rows _ _ _

/-! ## One container -/

/-- The container is tracked, and enough nodes reported it, one at least. -/
def Reported (r : ReplicaRule) (words : List (NodeId × ContainerId)) (c : ContainerId) : Prop :=
  ∃ needed, r.tracked.find? c = some needed ∧ max 1 needed ≤ (reportersOf words c).size

/-- The rule knows of the container what some words say. -/
structure Tallied (r : ReplicaRule) (words : List (NodeId × ContainerId)) (c : ContainerId) :
    Prop where
  counted : c ∈ r.counted ↔ r.Reported words c
  known : c ∉ r.counted → ∀ needed, r.tracked.find? c = some needed →
    r.known c = reportersOf words c

theorem tallied_make (family : Family) (threshold : Float) (containers : Inventory)
    (c : ContainerId) : (make family threshold containers).Tallied [] c := by
  refine ⟨iff_of_false SortedSet.not_mem_empty ?_, fun _ _ _ => rfl⟩
  rintro ⟨needed, -, hsize⟩
  have hnone : (reportersOf [] c).size = 0 := rfl
  omega

theorem Tallied.record_of_settled (h : r.Tallied words c) (hc : r.Settled c) :
    (r.record n c).Tallied (words ++ [(n, c)]) c := by
  rw [ReplicaRule.record_of_settled hc]
  have hmore : (reportersOf words c).size ≤ (reportersOf (words ++ [(n, c)]) c).size := by
    rw [reportersOf_snoc]
    exact SortedSet.size_le_size_insert
  refine ⟨⟨fun hcounted => ?_, ?_⟩, fun hcounted needed hneeded => ?_⟩
  · obtain ⟨needed, hneeded, hsize⟩ := h.counted.1 hcounted
    exact ⟨needed, hneeded, Nat.le_trans hsize hmore⟩
  · rintro ⟨needed, hneeded, -⟩
    exact hc.resolve_left (by simp [hneeded])
  · exact (hc.elim (by simp [hneeded]) hcounted).elim

theorem Tallied.record_of_open (h : r.Tallied words c) (hneeded : r.tracked.find? c = some needed)
    (hcounted : c ∉ r.counted) : (r.record n c).Tallied (words ++ [(n, c)]) c := by
  have hrecord : r.record n c = r.credit c needed (reportersOf (words ++ [(n, c)]) c) := by
    rw [ReplicaRule.record_of_open hneeded hcounted, h.known hcounted needed hneeded,
      reportersOf_snoc]
  have hone : 0 < (reportersOf (words ++ [(n, c)]) c).size :=
    SortedSet.size_pos (mem_reportersOf.2 (List.mem_append_right _ List.mem_cons_self))
  have hreported : (r.record n c).Reported (words ++ [(n, c)]) c ↔
      needed ≤ (reportersOf (words ++ [(n, c)]) c).size := by
    simp only [Reported, tracked_record, hneeded, Option.some.injEq, exists_eq_left']
    omega
  by_cases hle : needed ≤ (reportersOf (words ++ [(n, c)]) c).size
  · have hnow : c ∈ (r.record n c).counted := by
      rw [hrecord, credit, if_pos hle]
      exact SortedSet.mem_insert.2 (.inl rfl)
    exact ⟨iff_of_true hnow (hreported.2 hle), fun hnot => (hnot hnow).elim⟩
  · have hstill : c ∉ (r.record n c).counted := by
      rw [hrecord, credit, if_neg hle]
      exact hcounted
    refine ⟨iff_of_false hstill (mt hreported.1 hle), fun _ _ _ => ?_⟩
    rw [hrecord, credit, if_neg hle, ReplicaRule.known, SortedMap.find?_insert_self]
    rfl

/-- One word more. -/
theorem Tallied.record (h : r.Tallied words c) (n : NodeId) (e : ContainerId) :
    (r.record n e).Tallied (words ++ [(n, e)]) c := by
  by_cases hce : e = c
  · subst hce
    by_cases hsettled : r.Settled e
    · exact h.record_of_settled hsettled
    · obtain ⟨needed, hneeded, hcounted⟩ := open_of_not_settled hsettled
      exact h.record_of_open hneeded hcounted
  · obtain ⟨hknown, hcounted⟩ := record_of_ne (r := r) (n := n) hce
    have hsame : reportersOf (words ++ [(n, e)]) c = reportersOf words c :=
      reportersOf_snoc_of_ne hce
    refine ⟨?_, fun hnot needed hneeded => ?_⟩
    · rw [hcounted, h.counted, Reported, Reported, tracked_record, hsame]
    · rw [tracked_record] at hneeded
      rw [hknown, hsame, h.known (mt hcounted.2 hnot) needed hneeded]

theorem tallied_hearing (h : r.Tallied [] c) (words : List (NodeId × ContainerId)) :
    (r.hearing words).Tallied words c := by
  induction words using List.reverseRecOn with
  | nil => exact h
  | append_singleton words word ih =>
    rw [hearing, List.foldl_append]
    exact ih.record word.1 word.2

/-! ## What is counted -/

theorem tracked_hearing (words : List (NodeId × ContainerId)) :
    (r.hearing words).tracked = r.tracked := by
  induction words generalizing r with
  | nil => rfl
  | cons word words ih => exact ih.trans tracked_record

/-- From its start on, a rule counts the tracked containers that enough different nodes
reported. -/
theorem counted_hearing {family : Family} {threshold : Float} {containers : Inventory} :
    c ∈ ((make family threshold containers).hearing words).counted ↔
      ∃ needed, (awaited family containers).find? c = some needed ∧
        max 1 needed ≤ (reportersOf words c).size := by
  have htallied := tallied_hearing (tallied_make family threshold containers c) words
  rw [htallied.counted, Reported, tracked_hearing]
  rfl

theorem reportersOf_size_le (h : ∀ n, (n, c) ∈ words → (n, c) ∈ words') :
    (reportersOf words c).size ≤ (reportersOf words' c).size :=
  SortedSet.size_le_of_subset fun n hn => mem_reportersOf.2 (h n (mem_reportersOf.1 hn))

/-- A rule that hears more counts more. -/
theorem counted_mono {family : Family} {threshold threshold' : Float} {containers : Inventory}
    (h : ∀ n, (n, c) ∈ words → (n, c) ∈ words')
    (hc : c ∈ ((make family threshold containers).hearing words).counted) :
    c ∈ ((make family threshold' containers).hearing words').counted := by
  obtain ⟨needed, hneeded, hsize⟩ := counted_hearing.1 hc
  exact counted_hearing.2 ⟨needed, hneeded, Nat.le_trans hsize (reportersOf_size_le h)⟩

end ControlPlane.Readiness.ReplicaRule

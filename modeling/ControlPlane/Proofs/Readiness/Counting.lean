import ControlPlane.Proofs.Readiness.Rule
import ControlPlane.Proofs.Sorted

/-!
# Counting reports

What the rules have counted after some reports does not depend on the order in which
the reports came.

* `ReplicaRule.record_comm`.  A node that reports a container and another report may
  change places.  The rule forgets the reporters of a container once it is counted, and
  both ways round it comes to forget the same.
* `Rule.taking` is a rule after a list of reports, of nodes that may be known before or
  not.  `taking_process` is one report more, and `taking_perm` another order.
* `Rule.holds_taking_snoc`.  A rule that holds still does after one report more, if the
  test of the fraction is monotone in the count.
-/

namespace ControlPlane.Readiness

namespace ReplicaRule

variable {r r' r'' : ReplicaRule} {c e : ContainerId} {n d : NodeId} {needed : Nat}

/-! ## One container and one reporter -/

/-- The rule after a container came to have some reporters. -/
def credit (r : ReplicaRule) (c : ContainerId) (needed : Nat) (nodes : SortedSet NodeId) :
    ReplicaRule :=
  if needed ≤ nodes.size then
    { r with reporters := r.reporters.erase c, counted := r.counted.insert c }
  else { r with reporters := r.reporters.insert c nodes }

/-- Who reported a container so far. -/
def known (r : ReplicaRule) (c : ContainerId) : SortedSet NodeId := (r.reporters.find? c).getD ∅

/-- No report of the container changes the rule. -/
def Settled (r : ReplicaRule) (c : ContainerId) : Prop :=
  r.tracked.find? c = none ∨ c ∈ r.counted

theorem record_of_settled (h : r.Settled c) : r.record n c = r := by
  unfold record
  split
  · rfl
  · next htracked =>
    rcases h with h | h
    · rw [h] at htracked
      simp at htracked
    · exact if_pos (SortedSet.contains_iff_mem.2 h)

theorem open_of_not_settled (h : ¬r.Settled c) :
    ∃ needed, r.tracked.find? c = some needed ∧ c ∉ r.counted := by
  obtain ⟨htracked, hcounted⟩ := not_or.1 h
  obtain ⟨needed, hneeded⟩ := Option.ne_none_iff_exists'.1 htracked
  exact ⟨needed, hneeded, hcounted⟩

theorem record_of_open (h : r.tracked.find? c = some needed) (hc : c ∉ r.counted) :
    r.record n c = r.credit c needed ((r.known c).insert n) := by
  have hnot : ¬r.counted.contains c = true := fun h => hc (SortedSet.contains_iff_mem.1 h)
  simp only [record, h, if_neg hnot]
  rfl

@[simp] theorem tracked_credit {nodes : SortedSet NodeId} :
    (r.credit c needed nodes).tracked = r.tracked := by
  unfold credit
  split <;> rfl

theorem tracked_record : (r.record n c).tracked = r.tracked := by
  by_cases h : r.Settled c
  · rw [record_of_settled h]
  · obtain ⟨needed, hneeded, hcounted⟩ := open_of_not_settled h
    rw [record_of_open hneeded hcounted, tracked_credit]

/-- What comes in for one container leaves the others alone. -/
theorem record_of_ne (h : c ≠ e) :
    (r.record n c).known e = r.known e ∧ (e ∈ (r.record n c).counted ↔ e ∈ r.counted) := by
  have hrank : rank c ≠ rank e := fun hrank => h (rank_injective hrank)
  by_cases hc : r.Settled c
  · rw [record_of_settled hc]
    exact ⟨rfl, Iff.rfl⟩
  · obtain ⟨needed, hneeded, hcounted⟩ := open_of_not_settled hc
    rw [record_of_open hneeded hcounted, credit]
    split
    · refine ⟨?_, ?_⟩
      · rw [known, SortedMap.find?_erase, if_neg hrank]
        rfl
      · exact SortedSet.mem_insert.trans (or_iff_right h.symm)
    · refine ⟨?_, Iff.rfl⟩
      rw [known, SortedMap.find?_insert, if_neg hrank]
      rfl

theorem settled_record_of_ne (h : c ≠ e) : (r.record n c).Settled e ↔ r.Settled e := by
  unfold Settled
  rw [tracked_record, (record_of_ne h).2]

theorem credit_comm {needed' : Nat} {nodes nodes' : SortedSet NodeId} (h : c ≠ e) :
    (r.credit c needed nodes).credit e needed' nodes' =
      (r.credit e needed' nodes').credit c needed nodes := by
  unfold credit
  by_cases hc : needed ≤ nodes.size
  · by_cases he : needed' ≤ nodes'.size
    · simp only [hc, he, if_true, SortedMap.erase_comm, SortedSet.insert_comm]
    · simp only [hc, he, if_true, if_false, SortedMap.erase_insert_of_ne h.symm]
  · by_cases he : needed' ≤ nodes'.size
    · simp only [hc, he, if_true, if_false, SortedMap.erase_insert_of_ne h]
    · simp only [hc, he, if_false, SortedMap.insert_comm h]

/-! ## Two reports of containers -/

/-- Two reporters of one container count together, whoever comes first. -/
theorem record_record (h : r.tracked.find? c = some needed) (hc : c ∉ r.counted) :
    (r.record n c).record d c = r.credit c needed (((r.known c).insert n).insert d) := by
  rw [record_of_open h hc]
  by_cases hfirst : needed ≤ ((r.known c).insert n).size
  · -- The first one sufficed, and the second one is one more.
    have hboth : needed ≤ (((r.known c).insert n).insert d).size :=
      Nat.le_trans hfirst SortedSet.size_le_size_insert
    rw [credit, if_pos hfirst, credit, if_pos hboth]
    exact record_of_settled (.inr (SortedSet.mem_insert.2 (.inl rfl)))
  · rw [credit, if_neg hfirst]
    generalize hr : ({ r with reporters := _ } : ReplicaRule) = r₁
    have htracked : r₁.tracked.find? c = some needed := by rw [← hr]; exact h
    have hcounted : c ∉ r₁.counted := by rw [← hr]; exact hc
    have hknown : r₁.known c = (r.known c).insert n := by
      rw [← hr, known, SortedMap.find?_insert_self]
      rfl
    rw [record_of_open htracked hcounted, hknown, ← hr, credit, credit]
    dsimp only
    rw [SortedMap.erase_insert, SortedMap.insert_insert]

/-- Two reports of containers may change places. -/
theorem record_comm : (r.record n c).record d e = (r.record d e).record n c := by
  by_cases hce : c = e
  · subst hce
    by_cases hc : r.Settled c
    · rw [record_of_settled hc, record_of_settled hc]
      exact (record_of_settled hc).symm
    · obtain ⟨needed, hneeded, hcounted⟩ := open_of_not_settled hc
      rw [record_record hneeded hcounted, record_record hneeded hcounted, SortedSet.insert_comm]
  · by_cases hc : r.Settled c
    · rw [record_of_settled hc, record_of_settled ((settled_record_of_ne (Ne.symm hce)).2 hc)]
    · by_cases he : r.Settled e
      · rw [record_of_settled he, record_of_settled ((settled_record_of_ne hce).2 he)]
      · obtain ⟨needed, hneeded, hcounted⟩ := open_of_not_settled hc
        obtain ⟨needed', hneeded', hcounted'⟩ := open_of_not_settled he
        obtain ⟨hknown, hmem⟩ := record_of_ne (r := r) (n := n) hce
        obtain ⟨hknown', hmem'⟩ := record_of_ne (r := r) (n := d) (Ne.symm hce)
        rw [record_of_open (by rw [tracked_record]; exact hneeded') (mt hmem.1 hcounted'),
          record_of_open (by rw [tracked_record]; exact hneeded) (mt hmem'.1 hcounted),
          hknown, hknown', record_of_open hneeded hcounted, record_of_open hneeded' hcounted']
        exact credit_comm hce

theorem record_recordAll {es : List ContainerId} :
    (r.record n c).recordAll d es = (r.recordAll d es).record n c := by
  induction es generalizing r with
  | nil => rfl
  | cons e es ih =>
    show ((r.record n c).record d e).recordAll d es = ((r.record d e).recordAll d es).record n c
    rw [record_comm, ih]

/-- Two reports of nodes may change places. -/
theorem recordAll_comm {cs es : List ContainerId} :
    (r.recordAll n cs).recordAll d es = (r.recordAll d es).recordAll n cs := by
  induction cs generalizing r with
  | nil => rfl
  | cons c cs ih =>
    show ((r.record n c).recordAll n cs).recordAll d es =
      ((r.recordAll d es).record n c).recordAll n cs
    rw [ih, record_recordAll]

/-! ## Many reports -/

/-- The rule after some reports; a frozen one does not change. -/
def taking (r : ReplicaRule) (l : List NodeReport) : ReplicaRule :=
  if r.frozen then r else l.foldl (fun r x => r.recordAll x.descriptor.id x.containers) r

theorem taking_perm {l l' : List NodeReport} (h : l.Perm l') : r.taking l = r.taking l' := by
  unfold taking
  split
  · rfl
  · exact h.foldl_eq' (fun _ _ _ _ _ => recordAll_comm) r

/-- Only containers that are tracked were counted. -/
def Within (r : ReplicaRule) : Prop := ∀ c ∈ r.counted, (r.tracked.find? c).isSome = true

theorem Within.size_le (h : r.Within) : r.counted.size ≤ r.tracked.size := by
  have hsub : r.counted.toList ⊆ r.tracked.keys := fun c hc => by
    obtain ⟨needed, hneeded⟩ := Option.isSome_iff_exists.1 (h c hc)
    exact List.mem_map.2 ⟨_, SortedMap.find?_eq_some_iff.1 hneeded, rfl⟩
  have hlen := (List.subperm_of_subset r.counted.nodup hsub).length_le
  rw [SortedMap.keys, List.length_map] at hlen
  exact hlen

/-- The rule after something was counted: it tracks the same, and no less is counted. -/
structure Grows (r r' : ReplicaRule) : Prop where
  family : r'.family = r.family
  tracked : r'.tracked = r.tracked
  threshold : r'.threshold = r.threshold
  frozen : r'.frozen = r.frozen
  counted : ∀ c ∈ r.counted, c ∈ r'.counted
  within : r.Within → r'.Within

theorem Grows.refl (r : ReplicaRule) : Grows r r := ⟨rfl, rfl, rfl, rfl, fun _ => id, id⟩

theorem Grows.trans (h : Grows r r') (h' : Grows r' r'') : Grows r r'' :=
  ⟨h'.family.trans h.family, h'.tracked.trans h.tracked, h'.threshold.trans h.threshold,
    h'.frozen.trans h.frozen, fun c hc => h'.counted c (h.counted c hc),
    fun hw => h'.within (h.within hw)⟩

theorem record_grows (r : ReplicaRule) (n : NodeId) (c : ContainerId) : Grows r (r.record n c) := by
  by_cases hc : r.Settled c
  · rw [record_of_settled hc]
    exact .refl r
  · obtain ⟨needed, hneeded, hcounted⟩ := open_of_not_settled hc
    rw [record_of_open hneeded hcounted, credit]
    split
    · refine ⟨rfl, rfl, rfl, rfl, fun e he => SortedSet.mem_insert.2 (.inr he), fun hw e he => ?_⟩
      rcases SortedSet.mem_insert.1 he with rfl | he
      · exact Option.isSome_iff_exists.2 ⟨needed, hneeded⟩
      · exact hw e he
    · exact ⟨rfl, rfl, rfl, rfl, fun _ => id, id⟩

theorem recordAll_grows (r : ReplicaRule) (n : NodeId) (cs : List ContainerId) :
    Grows r (r.recordAll n cs) := by
  induction cs generalizing r with
  | nil => exact .refl r
  | cons c cs ih => exact (record_grows r n c).trans (ih (r.record n c))

theorem taking_grows (r : ReplicaRule) (l : List NodeReport) : Grows r (r.taking l) := by
  unfold taking
  split
  · exact .refl r
  · next hfrozen =>
    clear hfrozen
    induction l generalizing r with
    | nil => exact .refl r
    | cons x l ih => exact (recordAll_grows r x.descriptor.id x.containers).trans (ih _)

theorem process_grows (r : ReplicaRule) (ev : Event) : Grows r (r.process ev) := by
  have hreport (x : NodeReport) :
      Grows r (if r.frozen then r else r.recordAll x.descriptor.id x.containers) := by
    split
    · exact .refl r
    · exact recordAll_grows r _ _
  cases ev with
  | nodeRegistered x => exact hreport x
  | containersReported x => exact hreport x
  | pipelineOpened | pipelinesReported => exact .refl r

/-- One report more. -/
theorem process_taking {l : List NodeReport} {x : NodeReport} {ev : Event}
    (hev : ev = .nodeRegistered x ∨ ev = .containersReported x) :
    (r.taking l).process ev = r.taking (l ++ [x]) := by
  have hprocess : (r.taking l).process ev = if (r.taking l).frozen then r.taking l
      else (r.taking l).recordAll x.descriptor.id x.containers := by
    rcases hev with rfl | rfl <;> rfl
  rw [hprocess, (taking_grows r l).frozen]
  unfold taking
  split
  · rfl
  · rw [List.foldl_append]
    rfl

theorem within_recount (r : ReplicaRule) (k : Cluster) : (r.recount k).Within := by
  have hmake : (make r.family r.threshold k.containers).Within := fun c hc =>
    (SortedSet.not_mem_empty hc).elim
  unfold recount
  generalize make r.family r.threshold k.containers = s at hmake
  induction k.nodes.nodes.rows generalizing s with
  | nil => exact hmake
  | cons row rows ih => exact ih _ ((recordAll_grows s _ _).within hmake)

theorem Within.refresh {k : Cluster} {force : Bool} (h : r.Within) :
    (r.refresh k force).Within := by
  unfold ReplicaRule.refresh
  split
  · exact h
  · split
    · exact h
    · exact within_recount r k

/-- The test of the fraction goes up with the count, as far as containers are tracked. -/
def Monotone (r : ReplicaRule) : Prop :=
  ∀ a b, a ≤ b → b ≤ r.tracked.size →
    Decimal.ofWord a / Decimal.ofWord r.tracked.size ≥ r.threshold →
      Decimal.ofWord b / Decimal.ofWord r.tracked.size ≥ r.threshold

/-- Where there is one container at most, it comes down to the whole of one. -/
theorem monotone_of_size_le_one (hsize : r.tracked.size ≤ 1)
    (hone : r.tracked.size = 1 → Decimal.ofWord 1 / Decimal.ofWord 1 ≥ r.threshold) :
    r.Monotone := by
  intro a b hab hb hholds
  by_cases hsame : a = b
  · exact hsame ▸ hholds
  · have hb' : b = 1 := by omega
    have hsize' : r.tracked.size = 1 := by omega
    rw [hb', hsize']
    exact hone hsize'

theorem Grows.monotone (h : Grows r r') (hmono : r.Monotone) : r'.Monotone := by
  unfold Monotone
  rw [h.tracked, h.threshold]
  exact hmono

theorem Grows.holds (h : Grows r r') (hmono : r.Monotone) (hwithin : r.Within)
    (hholds : r.holds = true) : r'.holds = true := by
  have hle : r'.counted.size ≤ r.tracked.size := by
    have := (h.within hwithin).size_le
    rwa [h.tracked] at this
  have hgrows : r.counted.size ≤ r'.counted.size := SortedSet.size_le_of_subset h.counted
  unfold ReplicaRule.holds ratio at hholds ⊢
  rw [h.tracked, h.threshold]
  rw [decide_eq_true_iff] at hholds ⊢
  split
  · next hnone => rwa [if_pos hnone] at hholds
  · next hsome =>
    rw [if_neg hsome] at hholds
    exact hmono _ _ hgrows hle hholds

theorem holds_taking_snoc {l : List NodeReport} {x : NodeReport} (hmono : r.Monotone)
    (hwithin : r.Within) (hholds : (r.taking l).holds = true) :
    (r.taking (l ++ [x])).holds = true := by
  have hbefore := taking_grows r l
  have hstep : Grows (r.taking l) (r.taking (l ++ [x])) := by
    rw [← process_taking (.inr rfl)]
    exact process_grows _ _
  exact hstep.holds (hbefore.monotone hmono) (hbefore.within hwithin) hholds

end ReplicaRule

/-! ## All rules -/

/-- The nodes of some reports that a registry does not know. -/
def newcomers (known : Registry) (l : List NodeReport) : List NodeId :=
  (l.map (·.descriptor.id)).filter fun id => !known.contains id

theorem mem_newcomers {known : Registry} {l : List NodeReport} {id : NodeId} :
    id ∈ newcomers known l ↔ (∃ x ∈ l, x.descriptor.id = id) ∧ known.contains id = false := by
  simp [newcomers]

namespace Rule

variable {r : Rule} {known : Registry} {l l' : List NodeReport} {x : NodeReport}

/-- The rule after some reports, when a registry knew some of the nodes before. -/
def taking (known : Registry) (l : List NodeReport) : Rule → Rule
  | .nodes r => .nodes { r with registered := r.registered.insertAll (newcomers known l) }
  | .containers r => .containers (r.taking l)
  | r => r

/-- Only containers that are tracked were counted. -/
def Within : Rule → Prop
  | .containers r => r.Within
  | _ => True

/-- The test of the fraction goes up with the count. -/
def Monotone : Rule → Prop
  | .containers r => r.Monotone
  | _ => True

theorem Within.process {k : Cluster} {ev : Event} (h : r.Within) : (r.process k ev).Within := by
  cases r with
  | containers rule => exact (rule.process_grows ev).within h
  | nodes | healthy | reported => trivial

theorem Within.refresh {k : Cluster} {force : Bool} (h : r.Within) :
    (r.refresh k force).Within := by
  cases r with
  | containers rule => exact ReplicaRule.Within.refresh h
  | nodes | healthy | reported => trivial

theorem Within.recounted {k : Cluster} {anew : Bool} (h : r.Within) :
    (r.recounted k anew).Within := by
  unfold Rule.recounted
  split
  · exact h.refresh
  · exact h

theorem Within.cleanup (h : r.Within) : r.cleanup.Within := by
  cases r with
  | containers rule => exact h
  | nodes | healthy | reported => trivial

theorem taking_nil : r.taking known [] = r := by
  cases r with
  | containers rule =>
    show Rule.containers (rule.taking []) = _
    unfold ReplicaRule.taking
    split <;> rfl
  | nodes | healthy | reported => rfl

theorem name_taking : (r.taking known l).name = r.name := by
  cases r with
  | containers rule => exact name_containers (ReplicaRule.taking_grows rule l).family
  | nodes | healthy | reported => rfl

theorem taking_perm (h : l.Perm l') : r.taking known l = r.taking known l' := by
  cases r with
  | nodes rule =>
    have hsame : rule.registered.insertAll (newcomers known l) =
        rule.registered.insertAll (newcomers known l') := by
      refine SortedSet.eq_of_mem fun id => ?_
      simp only [SortedSet.mem_insertAll, mem_newcomers, h.mem_iff]
    simp only [taking, hsame]
  | containers rule => exact congrArg Rule.containers (ReplicaRule.taking_perm h)
  | healthy | reported => rfl

/-- One report more; a node is new if it was not known and did not report before. -/
theorem process_taking {k : Cluster} {isNew : Bool}
    (hnew : isNew = true ↔ known.contains x.descriptor.id = false ∧
      ∀ y ∈ l, y.descriptor.id ≠ x.descriptor.id) :
    (r.taking known l).process k (if isNew then .nodeRegistered x else .containersReported x) =
      r.taking known (l ++ [x]) := by
  cases r with
  | nodes rule =>
    have hmem (id : NodeId) : id ∈ newcomers known (l ++ [x]) ↔
        id ∈ newcomers known l ∨ id = x.descriptor.id ∧ known.contains id = false := by
      simp only [mem_newcomers, List.mem_append, List.mem_singleton]
      grind
    have hrule {s : SortedSet NodeId}
        (h : ∀ id, id ∈ s ↔ id ∈ rule.registered.insertAll (newcomers known (l ++ [x]))) :
        Rule.nodes { rule with registered := s } = (Rule.nodes rule).taking known (l ++ [x]) := by
      rw [SortedSet.eq_of_mem h]
      rfl
    cases isNew with
    | true =>
      have hunknown := (hnew.1 rfl).1
      refine hrule fun id => ?_
      simp only [SortedSet.mem_insert, SortedSet.mem_insertAll, hmem]
      grind
    | false =>
      -- A node that is not new either was known or is a newcomer already.
      have hold : known.contains x.descriptor.id = false →
          x.descriptor.id ∈ newcomers known l := fun hunknown => by
        by_contra hnot
        have hfirst : ∀ y ∈ l, y.descriptor.id ≠ x.descriptor.id := fun y hy hid =>
          hnot (mem_newcomers.2 ⟨⟨y, hy, hid⟩, hunknown⟩)
        exact Bool.false_ne_true (hnew.2 ⟨hunknown, hfirst⟩)
      refine hrule fun id => ?_
      simp only [SortedSet.mem_insertAll, hmem]
      grind
  | containers rule =>
    refine congrArg Rule.containers (ReplicaRule.process_taking ?_)
    cases isNew with
    | true => exact .inl rfl
    | false => exact .inr rfl
  | healthy | reported => cases isNew <;> rfl

/-- A rule that holds still does after one report more. -/
theorem holds_taking_snoc (hmono : r.Monotone) (hwithin : r.Within)
    (hholds : (r.taking known l).holds = true) :
    (r.taking known (l ++ [x])).holds = true := by
  cases r with
  | nodes rule =>
    have hgrows : (rule.registered.insertAll (newcomers known l)).size ≤
        (rule.registered.insertAll (newcomers known (l ++ [x]))).size := by
      refine SortedSet.size_le_of_subset fun id hid => ?_
      simp only [SortedSet.mem_insertAll, mem_newcomers, List.mem_append] at hid ⊢
      grind
    have hrequired := of_decide_eq_true hholds
    exact decide_eq_true (Nat.le_trans hrequired hgrows)
  | containers rule => exact ReplicaRule.holds_taking_snoc hmono hwithin hholds
  | healthy | reported => exact hholds

end Rule

end ControlPlane.Readiness

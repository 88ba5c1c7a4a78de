import ControlPlane.Proofs.Readiness.Reports

/-!
# What is delivered twice

An event that safe mode is told of once more changes nothing, and neither does anything
else that is done twice in a row.

* A rule.  `Rule.process_again` delivers an event a second time.  The node whose
  registration was delivered is known by then, so that the second time its report is a
  plain one (`Event.again`).  `Rule.refresh_again` counts a rule anew a second time.
* A pass.  After a pass every rule that was not validated is `Quiet`: it does not hold,
  and counting it once more finds what was found (`visit_quiet`).  A pass over quiet
  rules does nothing (`visit_of_quiet`).
* Safe mode.  `handle_again`, `refreshAndValidate_again` and `force_again`.
-/

namespace ControlPlane.Readiness

/-- The event as it is delivered once more. -/
def Event.again : Event → Event
  | .nodeRegistered report => .containersReported report
  | e => e

/-! ## Rules -/

namespace ReplicaRule

variable {r : ReplicaRule} {k : Cluster} {n : NodeId} {c : ContainerId} {cs : List ContainerId}

/-- A reporter counts once. -/
theorem record_again : (r.record n c).record n c = r.record n c := by
  by_cases h : r.Settled c
  · rw [record_of_settled h, record_of_settled h]
  · obtain ⟨needed, hneeded, hcounted⟩ := open_of_not_settled h
    have hknown : n ∈ (r.known c).insert n := SortedSet.mem_insert.2 (.inl rfl)
    rw [record_record hneeded hcounted, SortedSet.insert_of_mem hknown,
      record_of_open hneeded hcounted]

theorem recordAll_again : (r.recordAll n cs).recordAll n cs = r.recordAll n cs := by
  induction cs generalizing r with
  | nil => rfl
  | cons c cs ih =>
    calc (((r.record n c).recordAll n cs).record n c).recordAll n cs
        = (((r.record n c).record n c).recordAll n cs).recordAll n cs := by rw [← record_recordAll]
      _ = (r.record n c).recordAll n cs := by rw [record_again, ih]

theorem process_of_frozen {e : Event} (h : r.frozen = true) : r.process e = r := by
  cases e with
  | nodeRegistered | containersReported => exact if_pos h
  | pipelineOpened | pipelinesReported => rfl

theorem process_again {e : Event} : (r.process e).process e.again = r.process e := by
  have htwice (x : NodeReport) : ((if r.frozen then r
      else r.recordAll x.descriptor.id x.containers).process (.containersReported x)) =
        if r.frozen then r else r.recordAll x.descriptor.id x.containers := by
    split
    · next hfrozen => exact process_of_frozen hfrozen
    · next hfrozen =>
      rw [← (recordAll_grows r x.descriptor.id x.containers).frozen] at hfrozen
      exact (if_neg hfrozen).trans recordAll_again
  cases e with
  | nodeRegistered x => exact htwice x
  | containersReported x => exact htwice x
  | pipelineOpened | pipelinesReported => rfl

/-- A rule counted anew is the rule on its kind of scheme after one round of reports. -/
theorem recount_grows (r : ReplicaRule) (k : Cluster) :
    Grows (make r.family r.threshold k.containers) (r.recount k) := by
  unfold recount
  generalize make r.family r.threshold k.containers = s
  induction k.nodes.nodes.rows generalizing s with
  | nil => exact .refl s
  | cons row rows ih => exact (recordAll_grows s _ _).trans (ih _)

theorem recount_recount : (r.recount k).recount k = r.recount k := by
  have hgrows := recount_grows r k
  have hfamily : (r.recount k).family = r.family := hgrows.family
  have hthreshold : (r.recount k).threshold = r.threshold := hgrows.threshold
  rw [recount, hfamily, hthreshold]
  rfl

/-- A rule that is not frozen can be forced to count anew. -/
theorem refresh_of_open (h : r.frozen = false) : r.refresh k true = r.recount k := by
  simp only [refresh, h, Bool.not_true, Bool.false_and, Bool.false_eq_true, if_false]

theorem refresh_of_frozen {force : Bool} (h : r.frozen = true) : r.refresh k force = r := by
  simp only [refresh, h, if_true, ite_self]

theorem refresh_refresh : (r.refresh k true).refresh k true = r.refresh k true := by
  cases hfrozen : r.frozen with
  | true => rw [refresh_of_frozen hfrozen, refresh_of_frozen hfrozen]
  | false =>
    have hopen : (r.recount k).frozen = false := (recount_grows r k).frozen
    rw [refresh_of_open hfrozen, refresh_of_open hopen, recount_recount]

end ReplicaRule

namespace Rule

variable {r : Rule} {k : Cluster} {anew : Bool}

theorem process_again {e : Event} : (r.process k e).process k e.again = r.process k e := by
  cases r with
  | nodes rule => cases e <;> rfl
  | containers rule => exact congrArg Rule.containers ReplicaRule.process_again
  | healthy rule =>
    refine congrArg Rule.healthy ?_
    cases e with
    | nodeRegistered | containersReported | pipelinesReported => rfl
    | pipelineOpened p =>
      simp only [Event.again, HealthyRule.process]
      split
      · rw [SortedSet.insert_of_mem (SortedSet.mem_insert.2 (.inl rfl))]
      · rfl
  | reported rule =>
    refine congrArg Rule.reported ?_
    cases e with
    | nodeRegistered | containersReported | pipelineOpened => rfl
    | pipelinesReported node pipelines =>
      simp only [Event.again, ReportedRule.process]
      rw [SortedSet.insertAll_of_forall fun id hid => SortedSet.mem_insertAll.2 (.inr hid)]

theorem process_cleanup {e : Event} (h : r.process k e = r) :
    r.cleanup.process k e = r.cleanup := by
  cases r with
  | containers rule => exact congrArg Rule.containers (ReplicaRule.process_of_frozen rfl)
  | nodes | healthy | reported => exact h

theorem refresh_refresh : (r.refresh k true).refresh k true = r.refresh k true := by
  cases r with
  | nodes rule =>
    refine congrArg (fun s => Rule.nodes { rule with registered := s }) ?_
    exact SortedSet.insertAll_of_forall fun id hid => SortedSet.mem_insertAll.2 (.inr hid)
  | containers rule => exact congrArg Rule.containers ReplicaRule.refresh_refresh
  | healthy rule => rfl
  | reported rule =>
    refine congrArg (fun s => Rule.reported { rule with
      cutoff := cutoff rule.threshold (ReportedRule.tracks k.pipelines).size
      tracked := ReportedRule.tracks k.pipelines
      reported := s }) ?_
    exact SortedSet.filter_of_forall fun id hid => (SortedSet.mem_filter.1 hid).2

theorem refresh_of_holds (h : r.holds = true) : r.refresh k false = r := by
  cases r with
  | nodes rule => exact congrArg Rule.nodes (if_pos h)
  | containers rule => exact congrArg Rule.containers (if_pos h)
  | healthy rule => exact congrArg Rule.healthy (if_pos h)
  | reported rule => exact congrArg Rule.reported (if_pos h)

theorem refresh_of_not_holds (h : r.holds = false) : r.refresh k false = r.refresh k true := by
  have hnot : ¬(!false && r.holds) = true := by simp [h]
  cases r with
  | nodes rule => exact congrArg Rule.nodes (if_neg hnot)
  | containers rule => exact congrArg Rule.containers (if_neg hnot)
  | healthy rule => exact congrArg Rule.healthy (if_neg hnot)
  | reported rule => exact congrArg Rule.reported (if_neg hnot)

/-- A rule that does not hold although it was counted anew is not changed by counting it
once more. -/
theorem recounted_again (h : (r.recounted k anew).holds = false) :
    (r.recounted k anew).recounted k anew = r.recounted k anew := by
  cases anew with
  | false => rfl
  | true =>
    show (r.refresh k false).refresh k false = r.refresh k false
    replace h : (r.refresh k false).holds = false := h
    cases hholds : r.holds with
    | true =>
      rw [refresh_of_holds hholds, hholds] at h
      exact (Bool.false_ne_true h.symm).elim
    | false => rw [refresh_of_not_holds h, refresh_of_not_holds hholds, refresh_refresh]

end Rule

/-! ## Passes -/

namespace SafeMode

variable {m : SafeMode} {k : Cluster} {anew : Bool} {rs : List Rule}

/-- A pass leaves the rule alone: it is validated, or it does not hold and does not
change when it is counted. -/
def Quiet (k : Cluster) (anew : Bool) (m : SafeMode) (r : Rule) : Prop :=
  r.name ∈ m.validated ∨ r.recounted k anew = r ∧ r.holds = false

theorem visit_of_exited (hout : m.status.inSafeMode = false) : visit k anew rs m = (rs, m) := by
  cases rs <;> simp [visit, hout]

theorem visit_of_quiet (h : ∀ r ∈ rs, m.Quiet k anew r) : visit k anew rs m = (rs, m) := by
  induction rs with
  | nil => rfl
  | cons r rs ih =>
    obtain ⟨hr, hrs⟩ := List.forall_mem_cons.1 h
    unfold visit
    rw [ih hrs]
    split
    · rfl
    · split
      · rfl
      · next hnot =>
        obtain ⟨hsame, hholds⟩ := hr.resolve_left (mt SortedSet.contains_iff_mem.2 hnot)
        simp [hsame, hholds]

/-- After a pass that does not end safe mode all rules are quiet. -/
theorem visit_quiet (k : Cluster) (anew : Bool) (rs : List Rule) (m : SafeMode) :
    (visit k anew rs m).2.status.inSafeMode = true →
      ∀ r ∈ (visit k anew rs m).1, (visit k anew rs m).2.Quiet k anew r := by
  induction rs generalizing m with
  | nil => exact fun _ => nofun
  | cons r rs ih =>
    unfold visit
    split
    · next hexited =>
      intro hin
      have hout : m.status.inSafeMode = false := by simpa using hexited
      exact (Bool.false_ne_true (hout.symm.trans hin)).elim
    · split
      · next hvalidated =>
        intro hin
        refine List.forall_mem_cons.2 ⟨.inl ?_, ih m hin⟩
        exact (visit_kept k anew rs m).2.2.grows _ (SortedSet.contains_iff_mem.1 hvalidated)
      · dsimp only
        split
        · intro hin
          refine List.forall_mem_cons.2 ⟨.inl ?_, ih _ hin⟩
          rw [Rule.name_cleanup]
          exact (visit_kept k anew rs _).2.2.grows _ (mem_validated_record.2 (.inl rfl))
        · next hholds =>
          intro hin
          have hopen : (r.recounted k anew).holds = false := Bool.eq_false_iff.2 hholds
          exact List.forall_mem_cons.2 ⟨.inr ⟨Rule.recounted_again hopen, hopen⟩, ih m hin⟩

/-- A second pass does nothing. -/
theorem pass_again : (m.pass k anew).pass k anew = m.pass k anew := by
  have hvisit : visit k anew (m.pass k anew).rules (m.pass k anew) =
      ((m.pass k anew).rules, m.pass k anew) := by
    cases hin : (m.pass k anew).status.inSafeMode with
    | false => exact visit_of_exited hin
    | true => exact visit_of_quiet (visit_quiet k anew m.rules m hin)
  rw [pass, hvisit]

/-! ## Operations -/

theorem handle_of_exited {e : Event} (hout : m.status.inSafeMode = false) : m.handle k e = m :=
  Op.run_of_exited (.handle k e) hout

/-- After an event every rule knows of it. -/
theorem handle_rules {e : Event} (hin : m.status.inSafeMode = true) :
    ∀ r ∈ (m.handle k e).rules, r.process k e.again = r := by
  rw [handle_of_inSafeMode hin]
  refine visit_forall (fun r hr => hr) (fun r hr => Rule.process_cleanup hr) ?_
  exact List.forall_mem_map.2 fun r _ => Rule.process_again

theorem handle_again {e : Event} : (m.handle k e).handle k e.again = m.handle k e := by
  cases hout : (m.handle k e).status.inSafeMode with
  | false => exact handle_of_exited hout
  | true =>
    have hin : m.status.inSafeMode = true := by
      by_contra hnot
      rw [handle_of_exited (Bool.eq_false_iff.2 hnot)] at hout
      exact hnot hout
    have hrules : (m.handle k e).rules.map (Rule.process k e.again) = (m.handle k e).rules :=
      (List.map_congr_left (handle_rules hin)).trans (List.map_id _)
    rw [handle_of_inSafeMode hout, hrules, handle_of_inSafeMode hin]
    exact pass_again

theorem refreshAndValidate_again :
    (m.refreshAndValidate k).refreshAndValidate k = m.refreshAndValidate k :=
  pass_again

theorem force_again : m.force.force = m.force := by
  refine Op.run_of_exited .force ?_
  cases hin : m.status.inSafeMode with
  | false =>
    have hsame : m.force = m := Op.run_of_exited .force hin
    rw [hsame, hin]
  | true =>
    rw [force_of_inSafeMode hin]
    rfl

end SafeMode

end ControlPlane.Readiness

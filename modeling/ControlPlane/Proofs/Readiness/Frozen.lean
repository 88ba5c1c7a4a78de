import ControlPlane.Proofs.Readiness.Redelivery
import ControlPlane.Proofs.Readiness.Replicas

/-!
# Rules that listen until they are validated

A rule is cleaned up in the pass that validates it, and a rule on replicas hears of no
report after that.  Until then it has heard of all of them, whatever else came in.

* `Latched` says that validated rules are cleaned up.  An event keeps it
  (`Latched.handle`).
* `Listening` adds what the rules on replicas have heard.  Safe mode is not over as long
  as one of them listens, so that no report is lost on it (`Listening.handle`).
-/

namespace ControlPlane.Readiness

@[simp] theorem Rule.cleanup_cleanup (r : Rule) : r.cleanup.cleanup = r.cleanup := by
  cases r <;> rfl

/-- An event has nothing for a rule that is cleaned up to clean. -/
theorem Rule.cleanup_process {r : Rule} {k : Cluster} {e : Event} (h : r.cleanup = r) :
    (r.process k e).cleanup = r.process k e := by
  cases r with
  | containers rule =>
    have hfrozen : rule.frozen = true := by
      rw [← Rule.containers.inj h]
      rfl
    have hsame : (Rule.containers rule).process k e = .containers rule :=
      congrArg Rule.containers (ReplicaRule.process_of_frozen hfrozen)
    rw [hsame, h]
  | nodes | healthy | reported => rfl

namespace SafeMode

variable {m : SafeMode} {k : Cluster} {n : RuleName}

/-! ## Validated rules -/

/-- A pass validates none but the rules that it looks at. -/
theorem mem_validated_of_visit {anew : Bool} {rs : List Rule}
    (h : n ∈ (visit k anew rs m).2.validated) : n ∈ m.validated ∨ n ∈ rs.map Rule.name := by
  induction rs generalizing m with
  | nil => exact .inl h
  | cons r rs ih =>
    -- What the rest of the pass validates.
    have hrest (h : n ∈ (visit k anew rs m).2.validated) :
        n ∈ m.validated ∨ n ∈ (r :: rs).map Rule.name :=
      (ih h).imp_right (List.mem_cons_of_mem _)
    revert h
    unfold visit
    split
    · exact .inl
    · split
      · exact hrest
      · dsimp only
        split
        · intro h
          rw [Rule.name_recounted] at h
          rcases ih h with h | h
          · rcases mem_validated_record.1 h with rfl | h
            · exact .inr List.mem_cons_self
            · exact .inl h
          · exact .inr (List.mem_cons_of_mem _ h)
        · exact hrest

/-- The rules that are validated are cleaned up. -/
def Latched (m : SafeMode) : Prop := ∀ r ∈ m.rules, r.name ∈ m.validated → r.cleanup = r

/-- No two rules have one name, so that a pass which validates a rule cleans it up and
leaves the books on the others alone. -/
theorem visit_latched {anew : Bool} {rs : List Rule} (hnodup : (rs.map Rule.name).Nodup)
    (h : ∀ r ∈ rs, r.name ∈ m.validated → r.cleanup = r) :
    ∀ r ∈ (visit k anew rs m).1, r.name ∈ (visit k anew rs m).2.validated → r.cleanup = r := by
  induction rs generalizing m with
  | nil => exact h
  | cons r rs ih =>
    obtain ⟨hname, hnames⟩ := List.nodup_cons.1 hnodup
    obtain ⟨hr, hrs⟩ := List.forall_mem_cons.1 h
    unfold visit
    split
    · exact h
    · split
      · next hvalidated =>
        have hclean := hr (SortedSet.contains_iff_mem.1 hvalidated)
        exact List.forall_mem_cons.2 ⟨fun _ => hclean, ih hnames hrs⟩
      · next hopen =>
        dsimp only
        split
        · refine List.forall_mem_cons.2 ⟨fun _ => Rule.cleanup_cleanup _, ih hnames ?_⟩
          intro r' hr' hvalidated
          rw [Rule.name_recounted] at hvalidated
          rcases mem_validated_record.1 hvalidated with heq | hvalidated
          · exact (hname (heq ▸ List.mem_map_of_mem hr')).elim
          · exact hrs r' hr' hvalidated
        · refine List.forall_mem_cons.2 ⟨fun hvalidated => ?_, ih hnames hrs⟩
          rw [Rule.name_recounted] at hvalidated
          rcases mem_validated_of_visit hvalidated with hvalidated | hmem
          · exact (hopen (SortedSet.contains_iff_mem.2 hvalidated)).elim
          · exact (hname hmem).elim

theorem Latched.handle {e : Event} (h : m.Latched) (hnodup : m.names.Nodup) :
    (m.handle k e).Latched := by
  cases hin : m.status.inSafeMode with
  | false =>
    rw [handle_of_exited hin]
    exact h
  | true =>
    rw [handle_of_inSafeMode hin]
    have hnames : ((m.rules.map (Rule.process k e)).map Rule.name).Nodup := by
      rw [names_map_rules fun _ => Rule.name_process]
      exact hnodup
    refine visit_latched hnames (List.forall_mem_map.2 fun r hr hvalidated => ?_)
    rw [Rule.name_process] at hvalidated
    exact Rule.cleanup_process (h r hr hvalidated)

/-! ## Rules on replicas -/

/-- The rule counted from some reports on, unless it is frozen. -/
def Heard (containers : Inventory) (l : List NodeReport) : Rule → Prop
  | .containers rule =>
    rule.frozen = false → rule = (ReplicaRule.make rule.family rule.threshold containers).taking l
  | _ => True

/-- Safe mode is not forced, and as long as a rule on replicas is not frozen it has heard
of some reports. -/
structure Listening (containers : Inventory) (l : List NodeReport) (m : SafeMode) : Prop where
  unforced : m.Unforced
  latched : m.Latched
  heard : ∀ r ∈ m.rules, Heard containers l r

variable {containers : Inventory} {l l' : List NodeReport} {x : NodeReport} {e : Event}

theorem heard_cleanup (r : Rule) : Heard containers l r.cleanup := by
  cases r with
  | containers rule => exact fun hopen => (Bool.false_ne_true hopen.symm).elim
  | nodes | healthy | reported => trivial

/-- Safe mode is over only when all rules are frozen. -/
theorem Listening.heard_of_exited (h : m.Listening containers l)
    (hout : m.status.inSafeMode = false) : ∀ r ∈ m.rules, Heard containers l' r := by
  intro r hr
  have hclean : r.cleanup = r := h.latched r hr (h.unforced.complete_of_exited hout r hr)
  exact hclean ▸ heard_cleanup r

/-- An event that the rules on replicas understand. -/
theorem Listening.handle (h : m.Listening containers l)
    (hprocess : ∀ r : ReplicaRule, (r.taking l).process e = r.taking l') :
    (m.handle k e).Listening containers l' := by
  have hunforced : (m.handle k e).Unforced := (Op.handle k e).unforced nofun h.unforced
  refine ⟨hunforced, h.latched.handle h.unforced.nodup, ?_⟩
  cases hin : m.status.inSafeMode with
  | false =>
    rw [handle_of_exited hin]
    exact h.heard_of_exited hin
  | true =>
    rw [handle_of_inSafeMode hin]
    refine visit_forall (fun _ hr => hr) (fun r _ => heard_cleanup r) ?_
    refine List.forall_mem_map.2 fun r hr => ?_
    have hheard := h.heard r hr
    cases r with
    | nodes | healthy | reported => trivial
    | containers rule =>
      intro hopen
      have hgrows := rule.process_grows e
      rw [hgrows.frozen] at hopen
      rw [hgrows.family, hgrows.threshold, ← hprocess, ← hheard hopen]

theorem Listening.report (h : m.Listening containers l)
    (he : e = .nodeRegistered x ∨ e = .containersReported x) :
    (m.handle k e).Listening containers (l ++ [x]) :=
  h.handle fun _ => ReplicaRule.process_taking he

/-- Who watches safe mode does not change what was heard. -/
theorem Listening.beside (h : m.Listening containers l) (board : Board) (services : Services)
    (metrics : Metrics) : Listening containers l { m with board, services, metrics } :=
  ⟨h.unforced.beside board services metrics, h.latched, h.heard⟩

/-- At the start there was no report. -/
theorem start_listening {s : SafeModeSettings} (henabled : s.enabled = true) (k : Cluster)
    (board : Board) (services : Services) (metrics : Metrics) :
    (start s.enabled (rulesOf s k) board services metrics).Listening k.containers [] := by
  rw [henabled]
  refine ⟨start_unforced (rulesOf_names_nodup s k) board services metrics, ?_, ?_⟩
  · intro r _ hvalidated
    rw [start_validated] at hvalidated
    exact (SortedSet.not_mem_empty hvalidated).elim
  · rw [start_rules]
    intro r hr
    cases r with
    | nodes | healthy | reported => trivial
    | containers rule => exact fun _ => eq_make_of_mem_rulesOf hr

end SafeMode

end ControlPlane.Readiness

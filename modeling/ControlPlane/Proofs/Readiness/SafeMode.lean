import Mathlib.Data.List.Nodup
import Mathlib.Data.List.Perm.Subperm
import ControlPlane.Proofs.Readiness.Rule
import ControlPlane.Readiness.SafeMode

/-!
# The states of safe mode

However safe mode came to where it is, its status follows from the rules that have
been validated, unless it was ended by force.  `due` is that status.

* `Sound` says that the books on the rules are in order, so that counting the
  validated rules tells whether all are.
* `Unforced` says that the status is the one that is due.  Recording a rule keeps it
  (`Unforced.record`).
-/

namespace ControlPlane

/-- Two lists without repetition, one within the other, are of one length only if
they have the same members. -/
theorem length_eq_iff_subset {α : Type} {l l' : List α} (hl : l.Nodup) (hl' : l'.Nodup)
    (h : l ⊆ l') : l.length = l'.length ↔ l' ⊆ l := by
  constructor
  · intro hlen
    have hperm := (List.subperm_of_subset hl h).perm_of_length_le (Nat.le_of_eq hlen.symm)
    exact hperm.symm.subset
  · intro h'
    exact Nat.le_antisymm (List.subperm_of_subset hl h).length_le
      (List.subperm_of_subset hl' h').length_le

namespace Readiness.SafeMode

variable {m m' : SafeMode} {n : RuleName} {k : Cluster}

/-- The names of the rules. -/
def names (m : SafeMode) : List RuleName := m.rules.map Rule.name

/-! ## What is validated -/

/-- All rules are validated. -/
def Complete (m : SafeMode) : Prop := ∀ r ∈ m.rules, r.name ∈ m.validated

/-- All rules that the pre-check waits for are validated. -/
def PreChecked (m : SafeMode) : Prop := ∀ r ∈ m.rules, r.isPreCheck = true → r.name ∈ m.validated

instance : Decidable m.Complete := inferInstanceAs (Decidable (∀ _ ∈ _, _))
instance : Decidable m.PreChecked := inferInstanceAs (Decidable (∀ _ ∈ _, _))

/-- The status that goes with the validated rules, when nothing was forced. -/
def due (m : SafeMode) : Status :=
  if m.Complete then .exited false else ⟨true, decide m.PreChecked, false⟩

theorem complete_iff : m.Complete ↔ ∀ n ∈ m.names, n ∈ m.validated := by
  simp only [Complete, names, List.forall_mem_map]

theorem preChecked_iff : m.PreChecked ↔ (.nodes ∈ m.names → .nodes ∈ m.validated) := by
  simp only [PreChecked, Rule.isPreCheck_iff, names, List.mem_map]
  constructor
  · rintro h ⟨r, hr, hname⟩
    exact hname ▸ h r hr hname
  · intro h r hr hname
    exact hname ▸ h ⟨r, hr, hname⟩

/-- What is due depends on the names and on what is validated only. -/
theorem due_congr (hnames : m'.names = m.names) (hvalidated : m'.validated = m.validated) :
    m'.due = m.due := by
  simp only [due, complete_iff, preChecked_iff, hnames, hvalidated]

@[simp] theorem due_forced : m.due.forced = false := by
  unfold due
  split <;> rfl

theorem due_inSafeMode : m.due.inSafeMode = true ↔ ¬m.Complete := by
  unfold due
  split <;> simp_all [Status.exited]

theorem due_of_not_complete (h : ¬m.Complete) : m.due = ⟨true, decide m.PreChecked, false⟩ :=
  if_neg h

theorem due_preCheckComplete :
    m.due.preCheckComplete = true ↔ m.due.inSafeMode = false ∨ m.PreChecked := by
  unfold due
  split <;> simp [Status.exited]

/-! ## The books on the rules -/

/-- No two rules have one name, the pre-check waits for the rule on nodes, and only
rules are validated. -/
structure Sound (m : SafeMode) : Prop where
  nodup : m.names.Nodup
  preCheck : ∀ n, n ∈ m.preCheck ↔ n = .nodes ∧ n ∈ m.names
  known : ∀ n ∈ m.validated, n ∈ m.names

/-- Nothing was forced: the status is the one that is due. -/
structure Unforced (m : SafeMode) : Prop extends Sound m where
  status : m.status = m.due

/-- Counting the validated rules tells whether all are. -/
theorem Sound.size_eq_iff (h : m.Sound) : m.validated.size = m.rules.length ↔ m.Complete := by
  have hlen : m.rules.length = m.names.length := (List.length_map _).symm
  rw [hlen, complete_iff]
  exact length_eq_iff_subset m.validated.nodup h.nodup h.known

/-- Counting the validated rules of the pre-check tells whether all of those are. -/
theorem Sound.preCheck_size_eq_iff (h : m.Sound) :
    (m.validated.filter m.preCheck.contains).size = m.preCheck.size ↔ m.PreChecked := by
  have hsub : (m.validated.filter m.preCheck.contains).toList ⊆ m.preCheck.toList := fun n hn =>
    SortedSet.contains_iff_mem.1 (SortedSet.mem_filter.1 hn).2
  refine (length_eq_iff_subset (SortedSet.nodup _) m.preCheck.nodup hsub).trans ?_
  rw [preChecked_iff]
  constructor
  · intro hall hnodes
    exact (SortedSet.mem_filter.1 (hall ((h.preCheck _).2 ⟨rfl, hnodes⟩))).1
  · intro hnodes n hn
    obtain ⟨rfl, hmem⟩ := (h.preCheck n).1 hn
    exact SortedSet.mem_filter.2 ⟨hnodes hmem, SortedSet.contains_iff_mem.2 hn⟩

theorem Unforced.inSafeMode_iff (h : m.Unforced) : m.status.inSafeMode = true ↔ ¬m.Complete :=
  h.status ▸ due_inSafeMode

/-- Rules may be exchanged for others of the same names. -/
theorem Unforced.with_rules {rules : List Rule} (h : m.Unforced)
    (hrules : rules.map Rule.name = m.names) : Unforced { m with rules } := by
  have hnames : names { m with rules } = m.names := hrules
  exact ⟨⟨hnames ▸ h.nodup, hnames ▸ h.preCheck, hnames ▸ h.known⟩,
    h.status.trans (due_congr hnames rfl).symm⟩

/-- Those who watch safe mode have no part in its status. -/
theorem Unforced.beside (h : m.Unforced) (board : Board) (services : Services)
    (metrics : Metrics) : Unforced { m with board, services, metrics } :=
  ⟨⟨h.nodup, h.preCheck, h.known⟩, h.status⟩

/-! ## Recording one rule -/

theorem Sound.note (h : m.Sound) (hn : n ∈ m.names) : (m.note n).Sound := by
  refine ⟨h.nodup, h.preCheck, fun n' hn' => ?_⟩
  rcases SortedSet.mem_insert.1 hn' with rfl | hn'
  · exact hn
  · exact h.known n' hn'

@[simp] theorem check_rules : (m.check n).rules = m.rules := by
  unfold check completePreCheck
  split
  · split <;> rfl
  · rfl

@[simp] theorem check_preCheck : (m.check n).preCheck = m.preCheck := by
  unfold check completePreCheck
  split
  · split <;> rfl
  · rfl

@[simp] theorem check_validated : (m.check n).validated = m.validated := by
  unfold check completePreCheck
  split
  · split <;> rfl
  · rfl

/-- What recording a rule keeps. -/
theorem record_fields (m : SafeMode) (n : RuleName) :
    (m.record n).rules = m.rules ∧ (m.record n).preCheck = m.preCheck ∧
      ∀ n', n' ∈ (m.record n).validated ↔ n' = n ∨ n' ∈ m.validated := by
  unfold record
  split
  · next hmem =>
    refine ⟨rfl, rfl, fun n' => ⟨.inr, ?_⟩⟩
    rintro (rfl | h)
    · exact SortedSet.contains_iff_mem.1 hmem
    · exact h
  · dsimp only
    split <;> simp [leave, announce, note]

theorem names_record : (m.record n).names = m.names :=
  congrArg (List.map Rule.name) (record_fields m n).1

theorem mem_validated_record {n' : RuleName} :
    n' ∈ (m.record n).validated ↔ n' = n ∨ n' ∈ m.validated :=
  (record_fields m n).2.2 n'

theorem Sound.record (h : m.Sound) (hn : n ∈ m.names) : (m.record n).Sound := by
  obtain ⟨-, hpre, hvalidated⟩ := record_fields m n
  refine ⟨?_, fun n' => ?_, fun n' hn' => ?_⟩
  · rw [names_record]
    exact h.nodup
  · rw [hpre, names_record, h.preCheck]
  · rw [names_record]
    rcases (hvalidated n').1 hn' with rfl | hn'
    · exact hn
    · exact h.known n' hn'

theorem completePreCheck_status (h : m.Sound) (hstatus : m.status = ⟨true, false, false⟩) :
    m.completePreCheck.status = ⟨true, decide m.PreChecked, false⟩ := by
  have hsize := h.preCheck_size_eq_iff
  unfold completePreCheck
  split
  · next hdone =>
    have hchecked : m.PreChecked := hsize.1 hdone.1
    simp [hchecked, hstatus, announce]
  · next hnot =>
    have hunchecked : ¬m.PreChecked := fun hchecked =>
      hnot ⟨hsize.2 hchecked, congrArg Status.preCheckComplete hstatus⟩
    simp [hunchecked, hstatus]

/-- Before the last step of recording a rule, the pre-check is up to date. -/
theorem Unforced.check_status (h : m.Unforced) (hin : ¬m.Complete) (hn : n ∈ m.names)
    (hnew : n ∉ m.validated) :
    ((m.note n).check n).status = ⟨true, decide (m.note n).PreChecked, false⟩ := by
  have hstatus : (m.note n).status = ⟨true, decide m.PreChecked, false⟩ :=
    h.status.trans (due_of_not_complete hin)
  unfold check
  split
  · next hpre =>
    -- The rule that is validated now was wanting to the pre-check.
    have hnodes : n = .nodes := ((h.preCheck n).1 (SortedSet.contains_iff_mem.1 hpre)).1
    have hunchecked : ¬m.PreChecked := by
      rw [preChecked_iff]
      subst hnodes
      exact fun hchecked => hnew (hchecked hn)
    rw [decide_eq_false hunchecked] at hstatus
    exact completePreCheck_status (h.toSound.note hn) hstatus
  · next hpre =>
    have hnodes : .nodes ≠ n := by
      rintro rfl
      exact hpre (SortedSet.contains_iff_mem.2 ((h.preCheck _).2 ⟨rfl, hn⟩))
    have hsame : (m.note n).PreChecked ↔ m.PreChecked := by
      simp [preChecked_iff, note, names, hnodes]
    rw [hstatus, decide_eq_decide.2 hsame]

theorem Unforced.record (h : m.Unforced) (hin : m.status.inSafeMode = true) (hn : n ∈ m.names) :
    (m.record n).Unforced := by
  refine ⟨h.toSound.record hn, ?_⟩
  have hcomplete : ¬m.Complete := h.inSafeMode_iff.1 hin
  unfold SafeMode.record
  split
  · exact h.status
  · next hmem =>
    have hnew : n ∉ m.validated := fun hmem' => hmem (SortedSet.contains_iff_mem.2 hmem')
    have hstatus := h.check_status hcomplete hn hnew
    have hdue : ((m.note n).check n).due = (m.note n).due :=
      due_congr (congrArg (List.map Rule.name) check_rules) check_validated
    have hsize := (h.toSound.note hn).size_eq_iff
    simp only [check_rules, check_validated]
    split
    · next hall =>
      show Status.exited false = ((m.note n).check n).due
      rw [hdue, due, if_pos (hsize.1 hall)]
    · next hnot =>
      rw [hstatus, hdue, due_of_not_complete fun hall => hnot (hsize.2 hall)]

end Readiness.SafeMode

end ControlPlane

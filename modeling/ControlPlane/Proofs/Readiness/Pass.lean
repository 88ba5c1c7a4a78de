import ControlPlane.Proofs.Readiness.Notices
import ControlPlane.Proofs.Readiness.Redelivery

/-!
# What a pass records

A pass goes from rule to rule, leaves out those that are validated and stops when safe
mode ends.  It comes to the same as looking at every other rule by itself: no rule that
holds is missed, and none has a part in what becomes of the next.

* `visit_rules` says what becomes of the rules.  Safe mode ends in the middle of a pass
  only when the rest of the rules were validated before it.
* `Recorded` is what a pass leaves.  `pass_recorded` is any pass, and `after_recorded` the
  two operations that make one, in every state that safe mode can be in.
* `Op.Records` says of an operation that it finds a rule to hold.  `Op.mem_validated` is
  one operation and `validated_run_iff` a run: the validated rules are those that some
  operation found to hold.
-/

namespace ControlPlane.Readiness

/-- A rule that was looked at, cleaned up if it holds. -/
def Rule.settled (r : Rule) : Rule := if r.holds then r.cleanup else r

@[simp] theorem Rule.name_settled {r : Rule} : r.settled.name = r.name := by
  unfold settled
  split
  · exact name_cleanup
  · rfl

namespace SafeMode

variable {m m' : SafeMode} {k : Cluster} {anew : Bool} {rs : List Rule} {n : RuleName}

/-! ## The rules after a pass -/

/-- What becomes of a rule in a pass, when some rules are validated. -/
def passed (k : Cluster) (anew : Bool) (validated : SortedSet RuleName) (r : Rule) : Rule :=
  if r.name ∈ validated then r else (r.recounted k anew).settled

theorem passed_of_validated {validated : SortedSet RuleName} {r : Rule}
    (h : r.name ∈ validated) : passed k anew validated r = r :=
  if_pos h

theorem passed_of_pending {validated : SortedSet RuleName} {r : Rule}
    (h : r.name ∉ validated) : passed k anew validated r = (r.recounted k anew).settled :=
  if_neg h

/-- A rule that was recorded in a pass makes no difference to the rest of it. -/
theorem map_passed_record (hn : n ∉ rs.map Rule.name) :
    rs.map (passed k anew (m.record n).validated) = rs.map (passed k anew m.validated) := by
  refine List.map_congr_left fun r hr => ?_
  have hne : r.name ≠ n := fun hname => hn (hname ▸ List.mem_map_of_mem hr)
  have hmem : r.name ∈ (m.record n).validated ↔ r.name ∈ m.validated := by
    rw [mem_validated_record]
    exact or_iff_right hne
  simp only [passed, hmem]

theorem visit_rules (h : m.Unforced) (hrs : ∀ r ∈ rs, r.name ∈ m.names)
    (hnodup : (rs.map Rule.name).Nodup) :
    (visit k anew rs m).1 = rs.map (passed k anew m.validated) := by
  induction rs generalizing m with
  | nil => rfl
  | cons r rs ih =>
    obtain ⟨hname, hnames⟩ := List.nodup_cons.1 hnodup
    have hrest : ∀ r ∈ rs, r.name ∈ m.names := fun r hr => hrs r (List.mem_cons_of_mem _ hr)
    unfold visit
    split
    · next hout =>
      -- Safe mode is over, so the rules that are left are validated.
      have hcomplete : m.Complete := by
        by_contra hnot
        rw [h.inSafeMode_iff.2 hnot] at hout
        simp at hout
      have hsame : (r :: rs).map (passed k anew m.validated) = (r :: rs).map id :=
        List.map_congr_left fun r' hr' =>
          passed_of_validated (complete_iff.1 hcomplete _ (hrs r' hr'))
      exact (hsame.trans (List.map_id _)).symm
    · next hin =>
      rw [List.map_cons]
      split
      · next hvalidated =>
        rw [passed_of_validated (SortedSet.contains_iff_mem.1 hvalidated), ← ih h hrest hnames]
      · next hopen =>
        rw [passed_of_pending (mt SortedSet.contains_iff_mem.2 hopen)]
        dsimp only
        split
        · next hholds =>
          have hmem : r.name ∈ m.names := hrs r List.mem_cons_self
          have hrecord := h.record (by simpa using hin) hmem
          rw [Rule.name_recounted, ih hrecord (by rw [names_record]; exact hrest) hnames,
            map_passed_record hname, Rule.settled, if_pos hholds]
        · next hholds =>
          rw [ih h hrest hnames, Rule.settled, if_neg hholds]

/-! ## What a pass leaves -/

/-- What a pass leaves, when all rules were told of something and the pending ones were
looked at. -/
structure Recorded (m : SafeMode) (tell look : Rule → Rule) (m' : SafeMode) : Prop where
  /-- The pending rules that hold when they are looked at are validated, and no others. -/
  validated : ∀ n, n ∈ m'.validated ↔
    n ∈ m.validated ∨ ∃ r ∈ m.rules, r.name = n ∧ n ∉ m.validated ∧ (look r).holds = true
  /-- A rule that was validated before is not looked at. -/
  rules : m'.rules = m.rules.map fun r =>
    if r.name ∈ m.validated then tell r else (look r).settled
  /-- Safe mode ends just if all rules are validated. -/
  exits : m'.status.inSafeMode = false ↔ ∀ r ∈ m'.rules, r.name ∈ m'.validated
  unforced : m'.status.forced = false
  /-- If safe mode goes on, no rule that is left holds. -/
  pending : m'.status.inSafeMode = true →
    ∀ r ∈ m'.rules, r.name ∉ m'.validated → r.holds = false

/-- A pending rule that is left was looked at and does not hold. -/
theorem Recorded.of_fields {tell look : Rule → Rule} (h' : m'.Unforced)
    (htell : ∀ r, (tell r).name = r.name) (hlook : ∀ r, (look r).name = r.name)
    (hvalidated : ∀ n, n ∈ m'.validated ↔
      n ∈ m.validated ∨ ∃ r ∈ m.rules, r.name = n ∧ n ∉ m.validated ∧ (look r).holds = true)
    (hrules : m'.rules = m.rules.map fun r =>
      if r.name ∈ m.validated then tell r else (look r).settled) :
    Recorded m tell look m' := by
  have hstatus := h'.inSafeMode_iff
  refine ⟨hvalidated, hrules, ?_, h'.status ▸ due_forced, fun _ r' hr' hopen => ?_⟩
  · rw [← Bool.not_eq_true, hstatus, Decidable.not_not]
    rfl
  · rw [hrules] at hr'
    obtain ⟨r, hr, rfl⟩ := List.mem_map.1 hr'
    split at hopen
    · next hmem =>
      rw [htell] at hopen
      exact (hopen ((hvalidated _).2 (.inl hmem))).elim
    · next hmem =>
      rw [if_neg hmem]
      rw [Rule.name_settled, hlook] at hopen
      have hholds : (look r).holds = false := Bool.eq_false_iff.2 fun hholds =>
        hopen ((hvalidated _).2 (.inr ⟨r, hr, rfl, hmem, hholds⟩))
      rw [Rule.settled, if_neg (Bool.eq_false_iff.1 hholds), hholds]

theorem pass_recorded (h : m.Unforced) (k : Cluster) (anew : Bool) (tell : Rule → Rule)
    (htell : ∀ r, (tell r).name = r.name) :
    Recorded m tell (fun r => (tell r).recounted k anew)
      (pass { m with rules := m.rules.map tell } k anew) := by
  have htold := h.with_rules (names_map_rules htell)
  refine .of_fields htold.pass htell (fun r => Rule.name_recounted.trans (htell r)) (fun n => ?_) ?_
  · rw [pass_validated htold]
    refine ⟨fun hor => ?_, fun hor => hor.imp_right ?_⟩
    · by_cases hn : n ∈ m.validated
      · exact .inl hn
      · obtain ⟨r', hr', hname, hholds⟩ := hor.resolve_left hn
        obtain ⟨r, hr, rfl⟩ := List.mem_map.1 hr'
        exact .inr ⟨r, hr, (htell r).symm.trans hname, hn, hholds⟩
    · rintro ⟨r, hr, hname, -, hholds⟩
      exact ⟨tell r, List.mem_map_of_mem hr, (htell r).trans hname, hholds⟩
  · have hall : ∀ r ∈ m.rules.map tell, r.name ∈ names { m with rules := m.rules.map tell } :=
      fun r hr => List.mem_map_of_mem hr
    refine (visit_rules htold hall htold.nodup).trans ?_
    rw [List.map_map]
    refine List.map_congr_left fun r _ => ?_
    rw [Function.comp_apply, passed, htell]

/-! ## The operations that make a pass -/

theorem handle_recorded {e : Event} (h : m.Unforced) (hin : m.status.inSafeMode = true) :
    Recorded m (Rule.process k e) (Rule.process k e) (m.handle k e) := by
  rw [handle_of_inSafeMode hin]
  exact pass_recorded h k false (Rule.process k e) fun _ => Rule.name_process

theorem refreshAndValidate_recorded (h : m.Unforced) :
    Recorded m id (Rule.refresh k false) (m.refreshAndValidate k) := by
  have hpass := pass_recorded h k true id fun _ => rfl
  rw [List.map_id] at hpass
  exact hpass

/-! ## All states -/

theorem Consistent.move (h : m.Consistent) (mv : Move) : (mv.run m).Consistent := by
  cases mv with
  | act op => exact h.op op
  | join name => exact h.beside m.board (m.services.register name) m.metrics

theorem Consistent.after (h : m.Consistent) (moves : List Move) : (m.after moves).Consistent := by
  induction moves generalizing m with
  | nil => exact h
  | cons mv moves ih => exact ih (h.move mv)

/-- In every state that safe mode can be in, an event and a new count of the pending rules
record just the rules that hold then, and safe mode ends just if these are the last. -/
theorem after_recorded (s : SafeModeSettings) (k₀ : Cluster) (board : Board)
    (services : Services) (metrics : Metrics) (moves : List Move) :
    let m := (start s.enabled (rulesOf s k₀) board services metrics).after moves
    m.status.inSafeMode = true → ∀ (k : Cluster) (e : Event),
      Recorded m (Rule.process k e) (Rule.process k e) (m.handle k e) ∧
      Recorded m id (Rule.refresh k false) (m.refreshAndValidate k) := by
  intro m hin k e
  have hconsistent : m.Consistent := (start_consistent s k₀ board services metrics).after moves
  have hunforced := hconsistent.unforced hin
  exact ⟨handle_recorded hunforced hin, refreshAndValidate_recorded hunforced⟩

namespace Sample

/-- Safe mode over an empty cluster, which waits for one node. -/
def waiting : SafeMode := start true (rulesOf {} {}) {} {} {}

def report : NodeReport := ⟨⟨⟨.ofNat 1⟩, "dn1", "10.0.0.1", "/rack1"⟩, [], {}⟩

end Sample

/-- The first node that registers is enough for the rule on nodes. -/
theorem after_recorded_sample :
    Sample.waiting.status.inSafeMode = true ∧ .nodes ∉ Sample.waiting.validated ∧
      .nodes ∈ (Sample.waiting.handle {} (.nodeRegistered Sample.report)).validated := by
  have hin : Sample.waiting.status.inSafeMode = true := by decide
  have hopen : .nodes ∉ Sample.waiting.validated := by decide
  have hrule : Rule.nodes { required := 1 } ∈ Sample.waiting.rules := List.mem_cons_self
  have hhandle := (after_recorded {} {} {} {} {} [] hin {} (.nodeRegistered Sample.report)).1
  exact ⟨hin, hopen, (hhandle.validated _).2 (.inr ⟨_, hrule, rfl, hopen, by decide⟩)⟩

/-! ## Runs -/

/-- The operation finds the rule to hold, or it is told so. -/
def Op.Records (m : SafeMode) (n : RuleName) : Op → Prop
  | .validate text => n ∈ m.names ∧ n.text = text
  | .handle k e => ∃ r ∈ m.rules, r.name = n ∧ (r.process k e).holds = true
  | .refreshAndValidate k => ∃ r ∈ m.rules, r.name = n ∧ (r.refresh k false).holds = true
  | .refresh _ | .force => False

theorem Recorded.mem_iff {tell look : Rule → Rule} (h : Recorded m tell look m') :
    n ∈ m'.validated ↔
      n ∈ m.validated ∨ ∃ r ∈ m.rules, r.name = n ∧ (look r).holds = true := by
  rw [h.validated]
  constructor
  · rintro (hn | ⟨r, hr, hname, -, hholds⟩)
    · exact .inl hn
    · exact .inr ⟨r, hr, hname, hholds⟩
  · rintro (hn | ⟨r, hr, hname, hholds⟩)
    · exact .inl hn
    · by_cases hn : n ∈ m.validated
      · exact .inl hn
      · exact .inr ⟨r, hr, hname, hn, hholds⟩

theorem Op.mem_validated (op : Op) (h : m.Unforced) (hin : m.status.inSafeMode = true) :
    n ∈ (op.run m).validated ↔ n ∈ m.validated ∨ op.Records m n := by
  cases op with
  | validate text =>
    show n ∈ (m.validate text).validated ↔ n ∈ m.validated ∨ n ∈ m.names ∧ n.text = text
    rcases validate_cases m text with hsame | ⟨-, n', hn', htext', hrecord⟩
    · rw [hsame]
      refine (or_iff_left_of_imp fun ⟨hn, htext⟩ => ?_).symm
      have hmem : n ∈ (m.record n).validated := mem_validated_record.2 (.inl rfl)
      rwa [← validate_of_inSafeMode hin hn htext, hsame] at hmem
    · rw [hrecord, mem_validated_record, or_comm]
      refine or_congr_right ⟨?_, ?_⟩
      · rintro rfl
        exact ⟨hn', htext'⟩
      · rintro ⟨-, htext⟩
        exact Option.some.inj ((RuleName.ofText?_eq_some_iff.2 htext).symm.trans
          (RuleName.ofText?_eq_some_iff.2 htext'))
  | handle k e => exact (handle_recorded h hin).mem_iff
  | refreshAndValidate k => exact (refreshAndValidate_recorded h).mem_iff
  | refresh k =>
    show n ∈ (m.refresh k).validated ↔ n ∈ m.validated ∨ False
    rw [(refresh_same m k).2, or_false]
  | force =>
    show n ∈ m.force.validated ↔ n ∈ m.validated ∨ False
    rw [force_of_inSafeMode hin, or_false]
    rfl

theorem Consistent.run (h : m.Consistent) (ops : List Op) : (m.run ops).Consistent := by
  induction ops generalizing m with
  | nil => exact h
  | cons op ops ih => exact ih (h.op op)

/-- Some operation of the run finds the rule to hold while safe mode goes on. -/
def RecordedIn (m : SafeMode) (ops : List Op) (n : RuleName) : Prop :=
  ∃ before op after, ops = before ++ op :: after ∧
    (m.run before).status.inSafeMode = true ∧ op.Records (m.run before) n

theorem recordedIn_snoc {ops : List Op} {op : Op} :
    m.RecordedIn (ops ++ [op]) n ↔
      m.RecordedIn ops n ∨ (m.run ops).status.inSafeMode = true ∧ op.Records (m.run ops) n := by
  constructor
  · rintro ⟨before, op', after, hops, hin, hrecords⟩
    rcases List.eq_nil_or_concat' after with rfl | ⟨after, last, rfl⟩
    · obtain ⟨rfl, hop⟩ := List.append_inj' hops rfl
      obtain rfl := List.singleton_inj.1 hop
      exact .inr ⟨hin, hrecords⟩
    · rw [← List.cons_append, ← List.append_assoc] at hops
      obtain ⟨rfl, -⟩ := List.append_inj' hops rfl
      exact .inl ⟨before, op', after, rfl, hin, hrecords⟩
  · rintro (⟨before, op', after, rfl, hin, hrecords⟩ | ⟨hin, hrecords⟩)
    · exact ⟨before, op', after ++ [op], by simp, hin, hrecords⟩
    · exact ⟨ops, op, [], rfl, hin, hrecords⟩

/-- What is validated after a run was validated at its start or was found to hold in it. -/
theorem validated_run_iff (h : m.Consistent) (ops : List Op) :
    n ∈ (m.run ops).validated ↔ n ∈ m.validated ∨ m.RecordedIn ops n := by
  induction ops using List.reverseRecOn with
  | nil =>
    refine (or_iff_left ?_).symm
    rintro ⟨before, op, after, hops, -⟩
    simp at hops
  | append_singleton ops op ih =>
    rw [run_snoc, recordedIn_snoc, ← or_assoc, ← ih]
    cases hin : (m.run ops).status.inSafeMode with
    | false => simp [op.run_of_exited hin]
    | true => simp [op.mem_validated ((h.run ops).unforced hin) hin]

end SafeMode

end ControlPlane.Readiness

import Mathlib.Data.List.Induction
import ControlPlane.Proofs.Readiness.SafeMode

/-!
# Runs of safe mode

A run is a list of operations, each of which meets the cluster as it is by then.
`Op.unforced` is the step: every operation but the forced exit leaves the status
that is due.  `run_standing` carries it through a run, which ends with the status
that is due, or after force.  `run_lawful` reads the three flags and the validated
rules off it.
-/

namespace ControlPlane.Readiness.SafeMode

variable {m m' : SafeMode} {k : Cluster}

/-- The rules keep their names, and those that are validated stay so. -/
structure Kept (m m' : SafeMode) : Prop where
  names : m'.names = m.names
  grows : ∀ n ∈ m.validated, n ∈ m'.validated

theorem Kept.refl (m : SafeMode) : Kept m m := ⟨rfl, fun _ => id⟩

theorem Kept.trans {m'' : SafeMode} (h : Kept m m') (h' : Kept m' m'') : Kept m m'' :=
  ⟨h'.names.trans h.names, fun n hn => h'.grows n (h.grows n hn)⟩

theorem record_kept (m : SafeMode) (n : RuleName) : Kept m (m.record n) :=
  ⟨names_record, fun _ hn => mem_validated_record.2 (.inr hn)⟩

/-! ## Validating by name -/

theorem validate_of_inSafeMode {text : String} (hin : m.status.inSafeMode = true) {n : RuleName}
    (hn : n ∈ m.names) (htext : n.text = text) : m.validate text = m.record n := by
  have hcontains : (m.rules.map Rule.name).contains n = true := List.contains_iff_mem.2 hn
  simp only [validate, hin, RuleName.ofText?_eq_some_iff.2 htext, hcontains, Bool.not_true,
    Bool.false_eq_true, if_false, if_true]

/-- A name that no rule has is ignored. -/
theorem validate_of_unknown {text : String} (h : ∀ n ∈ m.names, n.text ≠ text) :
    m.validate text = m := by
  unfold validate
  split
  · rfl
  · split
    · rfl
    · next n hn =>
      have hnot : ¬n ∈ m.names := fun hmem => h n hmem (RuleName.ofText?_eq_some_iff.1 hn)
      exact if_neg fun hcontains => hnot (List.contains_iff_mem.1 hcontains)

theorem validate_cases (m : SafeMode) (text : String) :
    m.validate text = m ∨
      m.status.inSafeMode = true ∧ ∃ n ∈ m.names, n.text = text ∧ m.validate text = m.record n := by
  cases hin : m.status.inSafeMode with
  | false => exact .inl (by simp [validate, hin])
  | true =>
    by_cases hn : ∃ n ∈ m.names, n.text = text
    · obtain ⟨n, hn, htext⟩ := hn
      exact .inr ⟨rfl, n, hn, htext, validate_of_inSafeMode hin hn htext⟩
    · exact .inl (validate_of_unknown fun n hmem htext => hn ⟨n, hmem, htext⟩)

/-- A rule that is validated already is not recorded again. -/
theorem validate_of_validated {text : String} {n : RuleName} (hn : n ∈ m.validated)
    (htext : n.text = text) : m.validate text = m := by
  rcases validate_cases m text with h | ⟨-, n', -, htext', h⟩
  · exact h
  · have hname : n' = n := Option.some.inj ((RuleName.ofText?_eq_some_iff.2 htext').symm.trans
      (RuleName.ofText?_eq_some_iff.2 htext))
    rw [h, hname, record, if_pos (SortedSet.contains_iff_mem.2 hn)]

theorem validate_kept (m : SafeMode) (text : String) : Kept m (m.validate text) := by
  rcases validate_cases m text with h | ⟨-, n, -, -, h⟩
  · rw [h]
    exact .refl m
  · rw [h]
    exact record_kept m n

theorem Unforced.validate {text : String} (h : m.Unforced) : (m.validate text).Unforced := by
  rcases validate_cases m text with hsame | ⟨hin, n, hn, -, hrecord⟩
  · rw [hsame]
    exact h
  · rw [hrecord]
    exact h.record hin hn

/-! ## Passes over the rules -/

/-- What a pass keeps. -/
theorem visit_kept (k : Cluster) (anew : Bool) (rs : List Rule) (m : SafeMode) :
    (visit k anew rs m).1.map Rule.name = rs.map Rule.name ∧
      (visit k anew rs m).2.rules = m.rules ∧ Kept m (visit k anew rs m).2 := by
  induction rs generalizing m with
  | nil => exact ⟨rfl, rfl, .refl m⟩
  | cons r rs ih =>
    unfold visit
    split
    · exact ⟨rfl, rfl, .refl m⟩
    · split
      · obtain ⟨hnames, hrules, hkept⟩ := ih m
        exact ⟨congrArg (r.name :: ·) hnames, hrules, hkept⟩
      · dsimp only
        split
        · obtain ⟨hnames, hrules, hkept⟩ := ih (m.record (r.recounted k anew).name)
          refine ⟨?_, hrules.trans (record_fields m _).1, (record_kept m _).trans hkept⟩
          rw [List.map_cons, hnames, Rule.name_cleanup, Rule.name_recounted, List.map_cons]
        · obtain ⟨hnames, hrules, hkept⟩ := ih m
          refine ⟨?_, hrules, hkept⟩
          rw [List.map_cons, hnames, Rule.name_recounted, List.map_cons]

theorem Unforced.visit {anew : Bool} {rs : List Rule} (h : m.Unforced)
    (hrs : ∀ r ∈ rs, r.name ∈ m.names) : (visit k anew rs m).2.Unforced := by
  induction rs generalizing m with
  | nil => exact h
  | cons r rs ih =>
    have hrest : ∀ r ∈ rs, r.name ∈ m.names := fun r hr => hrs r (List.mem_cons_of_mem _ hr)
    unfold SafeMode.visit
    split
    · exact h
    · next hin =>
      split
      · exact ih h hrest
      · dsimp only
        split
        · have hname : (r.recounted k anew).name ∈ m.names := by
            rw [Rule.name_recounted]
            exact hrs r List.mem_cons_self
          refine ih (h.record (by simpa using hin) hname) ?_
          rw [names_record]
          exact hrest
        · exact ih h hrest

theorem pass_kept (m : SafeMode) (k : Cluster) (anew : Bool) : Kept m (m.pass k anew) := by
  obtain ⟨hnames, -, hkept⟩ := visit_kept k anew m.rules m
  exact ⟨hnames, hkept.grows⟩

theorem Unforced.pass {anew : Bool} (h : m.Unforced) : (m.pass k anew).Unforced := by
  obtain ⟨hnames, -, hkept⟩ := visit_kept k anew m.rules m
  have hrs : ∀ r ∈ m.rules, r.name ∈ m.names := fun r hr => List.mem_map.2 ⟨r, hr, rfl⟩
  exact (h.visit hrs).with_rules (hnames.trans hkept.names.symm)

/-! ## Operations -/

theorem handle_of_inSafeMode {e : Event} (hin : m.status.inSafeMode = true) :
    m.handle k e = pass { m with rules := m.rules.map (Rule.process k e) } k false := by
  rw [handle, hin]
  rfl

theorem refresh_of_inSafeMode (hin : m.status.inSafeMode = true) :
    m.refresh k = { m with rules := m.rules.map (Rule.refresh k true) } := by
  rw [refresh, hin]
  rfl

theorem force_of_inSafeMode (hin : m.status.inSafeMode = true) : m.force = m.leave true := by
  rw [force, hin]
  rfl

/-- An operation on safe mode, with the cluster that it meets. -/
inductive Op
  | validate (text : String)
  | handle (k : Cluster) (e : Event)
  | refresh (k : Cluster)
  | refreshAndValidate (k : Cluster)
  | force

/-- Safe mode after an operation. -/
def Op.run : Op → SafeMode → SafeMode
  | .validate text, m => m.validate text
  | .handle k e, m => m.handle k e
  | .refresh k, m => m.refresh k
  | .refreshAndValidate k, m => m.refreshAndValidate k
  | .force, m => m.force

/-- Outside safe mode nothing changes. -/
theorem Op.run_of_exited (op : Op) (hout : m.status.inSafeMode = false) : op.run m = m := by
  cases op with
  | validate | handle | refresh | force =>
    simp [run, SafeMode.validate, SafeMode.handle, SafeMode.refresh, SafeMode.force, hout]
  | refreshAndValidate k =>
    have hvisit : visit k true m.rules m = (m.rules, m) := by
      cases m.rules <;> simp [visit, hout]
    simp [run, SafeMode.refreshAndValidate, pass, hvisit]

theorem names_map_rules {f : Rule → Rule} (hf : ∀ r, (f r).name = r.name) :
    (m.rules.map f).map Rule.name = m.names := by
  rw [List.map_map]
  exact List.map_congr_left fun r _ => hf r

theorem Op.kept (op : Op) (m : SafeMode) : Kept m (op.run m) := by
  cases hin : m.status.inSafeMode with
  | false => exact (op.run_of_exited hin).symm ▸ .refl m
  | true =>
    cases op with
    | validate text => exact validate_kept m text
    | refreshAndValidate k => exact pass_kept m k true
    | force => exact ⟨by simp [run, SafeMode.force, hin, leave, announce, names],
        by simp [run, SafeMode.force, hin, leave, announce]⟩
    | refresh k =>
      have hrules : (m.refresh k).names = m.names := by
        simp only [SafeMode.refresh, hin, Bool.not_true, Bool.false_eq_true, if_false]
        exact names_map_rules fun _ => Rule.name_refresh
      exact ⟨hrules, by simp [run, SafeMode.refresh, hin]⟩
    | handle k e =>
      have hprocessed : Kept m { m with rules := m.rules.map (Rule.process k e) } :=
        ⟨names_map_rules fun _ => Rule.name_process, fun _ => id⟩
      simpa [run, SafeMode.handle, hin] using hprocessed.trans (pass_kept _ k false)

theorem Op.unforced {op : Op} (hop : op ≠ .force) (h : m.Unforced) : (op.run m).Unforced := by
  cases hin : m.status.inSafeMode with
  | false => exact (op.run_of_exited hin).symm ▸ h
  | true =>
    cases op with
    | validate text => exact h.validate
    | refreshAndValidate k => exact h.pass
    | force => exact (hop rfl).elim
    | refresh k =>
      have := h.with_rules (names_map_rules (f := Rule.refresh k true) fun _ => Rule.name_refresh)
      simpa [run, SafeMode.refresh, hin] using this
    | handle k e =>
      have := h.with_rules (names_map_rules (f := Rule.process k e) fun _ => Rule.name_process)
      simpa [run, SafeMode.handle, hin] using this.pass

/-! ## Runs -/

/-- Safe mode after some operations, the first of the list first. -/
def run (m : SafeMode) (ops : List Op) : SafeMode := ops.foldl (fun m op => op.run m) m

theorem run_snoc (m : SafeMode) (ops : List Op) (op : Op) :
    m.run (ops ++ [op]) = op.run (m.run ops) := by
  simp [run]

/-- Some forced exit of the run found safe mode going on. -/
def Forced (m : SafeMode) (ops : List Op) : Prop :=
  ∃ before after, ops = before ++ .force :: after ∧ (m.run before).status.inSafeMode = true

theorem forced_snoc {ops : List Op} {op : Op} :
    m.Forced (ops ++ [op]) ↔
      m.Forced ops ∨ op = .force ∧ (m.run ops).status.inSafeMode = true := by
  constructor
  · rintro ⟨before, after, hops, hin⟩
    rcases List.eq_nil_or_concat' after with rfl | ⟨after, last, rfl⟩
    · obtain ⟨rfl, hop⟩ := List.append_inj' hops rfl
      exact .inr ⟨List.singleton_inj.1 hop, hin⟩
    · rw [← List.cons_append, ← List.append_assoc] at hops
      obtain ⟨rfl, -⟩ := List.append_inj' hops rfl
      exact .inl ⟨before, after, rfl, hin⟩
  · rintro (⟨before, after, rfl, hin⟩ | ⟨rfl, hin⟩)
    · exact ⟨before, after ++ [op], by simp, hin⟩
    · exact ⟨ops, [], rfl, hin⟩

theorem run_kept (m : SafeMode) (ops : List Op) : Kept m (m.run ops) := by
  induction ops generalizing m with
  | nil => exact .refl m
  | cons op ops ih => exact (op.kept m).trans (ih (op.run m))

/-- Where a run ends: with the status that is due, or after force. -/
inductive Standing (m : SafeMode) (ops : List Op) : Prop
  | unforced (hnot : ¬m.Forced ops) (h : (m.run ops).Unforced)
  | forced (hforced : m.Forced ops) (hsound : (m.run ops).Sound)
      (hstatus : (m.run ops).status = .exited true)

theorem Standing.sound {ops : List Op} (h : m.Standing ops) : (m.run ops).Sound := by
  cases h with
  | unforced _ h => exact h.toSound
  | forced _ hsound => exact hsound

theorem run_standing (h : m.Unforced) (ops : List Op) : m.Standing ops := by
  induction ops using List.reverseRecOn with
  | nil =>
    refine .unforced ?_ h
    rintro ⟨before, after, hops, -⟩
    simp at hops
  | append_singleton ops op ih =>
    cases hin : (m.run ops).status.inSafeMode with
    | false =>
      have hsnoc : m.Forced (ops ++ [op]) ↔ m.Forced ops := by simp [forced_snoc, hin]
      have hrun : m.run (ops ++ [op]) = m.run ops :=
        (run_snoc m ops op).trans (op.run_of_exited hin)
      cases ih with
      | unforced hnot h => exact .unforced (hsnoc.not.2 hnot) (hrun ▸ h)
      | forced hforced hsound hstatus =>
        exact .forced (hsnoc.2 hforced) (hrun ▸ hsound) (hrun ▸ hstatus)
    | true =>
      cases ih with
      | forced _ _ hstatus =>
        simp [hstatus, Status.exited] at hin
      | unforced hnot h =>
        by_cases hop : op = .force
        · subst hop
          have hleave : m.run (ops ++ [.force]) = (m.run ops).leave true := by
            simp [run_snoc, Op.run, SafeMode.force, hin]
          refine .forced (forced_snoc.2 (.inr ⟨rfl, hin⟩)) ?_ ?_ <;> rw [hleave]
          · exact ⟨h.nodup, h.preCheck, h.known⟩
          · rfl
        · refine .unforced (fun hforced => ?_) ?_
          · exact (forced_snoc.1 hforced).elim hnot fun h => hop h.1
          · rw [run_snoc]
            exact Op.unforced hop h

/-! ## The start -/

/-- As long as nothing is validated, the pre-check is complete only if it waits for
nothing. -/
theorem Sound.preChecked_iff_isEmpty (h : m.Sound) (hnone : ∀ n, n ∉ m.validated) :
    m.PreChecked ↔ m.preCheck.isEmpty = true := by
  rw [preChecked_iff, SortedSet.isEmpty, List.isEmpty_iff]
  constructor
  · intro hchecked
    refine List.eq_nil_iff_forall_not_mem.2 fun n hn => ?_
    obtain ⟨rfl, hnodes⟩ := (h.preCheck n).1 hn
    exact hnone _ (hchecked hnodes)
  · intro hempty hnodes
    have hmem : .nodes ∈ m.preCheck.toList := (h.preCheck _).2 ⟨rfl, hnodes⟩
    rw [hempty] at hmem
    simp at hmem

/-- Safe mode starts with the status that is due. -/
theorem start_unforced {rules : List Rule} (hrules : (rules.map Rule.name).Nodup) (board : Board)
    (services : Services) (metrics : Metrics) :
    (start true rules board services metrics).Unforced := by
  let m : SafeMode := { rules, preCheck := preCheckOf rules, board, services, metrics }
  have hsound : m.Sound := ⟨hrules, fun n => mem_preCheckOf, nofun⟩
  unfold start
  simp only [Bool.not_true, Bool.false_eq_true, if_false]
  split
  · next hempty =>
    have hcomplete : m.Complete := by simp [Complete, m, List.isEmpty_iff.1 hempty]
    exact ⟨⟨hsound.nodup, hsound.preCheck, hsound.known⟩, (if_pos hcomplete).symm⟩
  · next hempty =>
    have hsome : ¬m.Complete := by
      obtain ⟨r, hr⟩ := List.exists_mem_of_ne_nil rules (by simpa using hempty)
      exact fun hall => SortedSet.not_mem_empty (hall r hr)
    have hdue := due_of_not_complete hsome
    have hchecked := hsound.preChecked_iff_isEmpty fun n => SortedSet.not_mem_empty
    split
    · next hpre =>
      rw [decide_eq_true (hchecked.2 hpre)] at hdue
      exact ⟨⟨hsound.nodup, hsound.preCheck, hsound.known⟩, hdue.symm⟩
    · next hpre =>
      rw [decide_eq_false (mt hchecked.1 hpre)] at hdue
      exact ⟨⟨hsound.nodup, hsound.preCheck, hsound.known⟩, hdue.symm⟩

/-! ## Validating several rules -/

theorem run_of_exited (hout : m.status.inSafeMode = false) (ops : List Op) : m.run ops = m := by
  induction ops with
  | nil => rfl
  | cons op ops ih =>
    show (op.run m).run ops = m
    rw [op.run_of_exited hout, ih]

theorem Unforced.run {ops : List Op} (h : m.Unforced) (hops : ∀ op ∈ ops, op ≠ .force) :
    (m.run ops).Unforced := by
  induction ops generalizing m with
  | nil => exact h
  | cons op ops ih =>
    refine ih (Op.unforced (hops op List.mem_cons_self) h) fun op hop => ?_
    exact hops op (List.mem_cons_of_mem _ hop)

/-- Only rules that are named are validated. -/
theorem mem_validated_of_run {n : RuleName} {texts : List String}
    (hn : n ∈ (m.run (texts.map .validate)).validated) : n ∈ m.validated ∨ n.text ∈ texts := by
  induction texts generalizing m with
  | nil => exact .inl hn
  | cons text texts ih =>
    rcases ih (m := m.validate text) hn with hn | hn
    · rcases validate_cases m text with h | ⟨-, n', -, htext, h⟩
      · exact .inl (h ▸ hn)
      · rw [h] at hn
        rcases mem_validated_record.1 hn with rfl | hn
        · exact .inr (htext ▸ List.mem_cons_self)
        · exact .inl hn
    · exact .inr (List.mem_cons_of_mem _ hn)

/-- While safe mode lasts all rules that are named are validated. -/
theorem mem_validated_run {n : RuleName} {texts : List String} (hn : n ∈ m.names)
    (htext : n.text ∈ texts) (hin : (m.run (texts.map .validate)).status.inSafeMode = true) :
    n ∈ (m.run (texts.map .validate)).validated := by
  induction texts generalizing m with
  | nil => simp at htext
  | cons text texts ih =>
    have hkept := validate_kept m text
    rcases List.mem_cons.1 htext with htext | htext
    · have hbefore : m.status.inSafeMode = true := by
        refine Bool.not_eq_false _ ▸ fun hout => ?_
        rw [run_of_exited hout, hout] at hin
        simp at hin
      have hnow : n ∈ (m.validate text).validated := by
        rw [validate_of_inSafeMode hbefore hn htext]
        exact mem_validated_record.2 (.inl rfl)
      exact (run_kept (m.validate text) _).grows n hnow
    · exact ih (hkept.names ▸ hn) htext hin

theorem Unforced.validates_iff (h : m.Unforced) (texts : List String) :
    (m.run (texts.map .validate)).status = .exited false ↔
      ∀ r ∈ m.rules, r.name ∈ m.validated ∨ r.name.text ∈ texts := by
  have hend : (m.run (texts.map .validate)).Unforced := h.run fun op hop => by
    obtain ⟨text, -, rfl⟩ := List.mem_map.1 hop
    exact nofun
  have hnames := (run_kept m (texts.map .validate)).names
  constructor
  · intro hexited r hr
    have hcomplete : (m.run (texts.map .validate)).Complete := by
      refine Decidable.not_not.1 (mt hend.inSafeMode_iff.2 ?_)
      simp [hexited, Status.exited]
    have hmem : r.name ∈ m.names := List.mem_map.2 ⟨r, hr, rfl⟩
    exact mem_validated_of_run (complete_iff.1 hcomplete _ (hnames ▸ hmem))
  · intro hall
    have hcomplete : (m.run (texts.map .validate)).Complete := by
      by_contra hnot
      -- Safe mode would go on, with every rule validated.
      have hon := hend.inSafeMode_iff.2 hnot
      refine hnot (complete_iff.2 fun n hn => ?_)
      rw [hnames] at hn
      obtain ⟨r, hr, rfl⟩ := List.mem_map.1 hn
      rcases hall r hr with hvalidated | htext
      · exact (run_kept m _).grows _ hvalidated
      · exact mem_validated_run hn htext hon
    exact hend.status.trans (if_pos hcomplete)

/-! ## All runs -/

/-- The laws of the status and of the validated rules after a run. -/
structure Lawful (m₀ : SafeMode) (ops : List Op) (m : SafeMode) : Prop where
  /-- Safe mode lasts while nothing was forced and some rule is not validated. -/
  inSafeMode : m.status.inSafeMode = true ↔
    ¬m₀.Forced ops ∧ ∃ r ∈ m.rules, r.name ∉ m.validated
  /-- The pre-check is complete after safe mode, or when its rules are validated. -/
  preCheckComplete : m.status.preCheckComplete = true ↔
    m.status.inSafeMode = false ∨ ∀ r ∈ m.rules, r.isPreCheck = true → r.name ∈ m.validated
  forced : m.status.forced = true ↔ m₀.Forced ops
  exited_of_forced : m.status.forced = true → m.status.inSafeMode = false
  /-- The rules are those of the start, and only they are validated. -/
  names : m.names = m₀.names
  known : ∀ n ∈ m.validated, n ∈ m.names
  grows : ∀ (op : Op), ∀ n ∈ m.validated, n ∈ (op.run m).validated
  /-- A name that no rule has, or of a rule that is validated, changes nothing. -/
  ignored : ∀ text, (∀ n ∈ m.names, n.text ≠ text) ∨ (∃ n ∈ m.validated, n.text = text) →
    m.validate text = m
  refreshed : ∀ k, (m.refresh k).status = m.status ∧ (m.refresh k).validated = m.validated
  /-- Naming some rules, in whatever order and however often, ends safe mode just when
  they are all that were wanting. -/
  validates : ∀ texts : List String,
    (m.run (texts.map .validate)).status = .exited m.status.forced ↔
      m.status.inSafeMode = false ∨ ∀ r ∈ m.rules, r.name ∈ m.validated ∨ r.name.text ∈ texts

theorem not_complete_iff : ¬m.Complete ↔ ∃ r ∈ m.rules, r.name ∉ m.validated := by
  simp [Complete]

theorem refresh_same (m : SafeMode) (k : Cluster) :
    (m.refresh k).status = m.status ∧ (m.refresh k).validated = m.validated := by
  unfold refresh
  split <;> exact ⟨rfl, rfl⟩

theorem ignored_of {text : String}
    (h : (∀ n ∈ m.names, n.text ≠ text) ∨ ∃ n ∈ m.validated, n.text = text) :
    m.validate text = m := by
  rcases h with h | ⟨n, hn, htext⟩
  · exact validate_of_unknown h
  · exact validate_of_validated hn htext

/-- After force nothing that is named changes anything. -/
theorem validates_of_forced (hstatus : m.status = .exited true) (texts : List String) :
    (m.run (texts.map .validate)).status = .exited m.status.forced := by
  have hout : m.status.inSafeMode = false := congrArg Status.inSafeMode hstatus
  rw [run_of_exited hout, hstatus]
  rfl

theorem run_lawful (s : SafeModeSettings) (k : Cluster) (board : Board) (services : Services)
    (metrics : Metrics) (ops : List Op) :
    let m₀ := start true (rulesOf s k) board services metrics
    Lawful m₀ ops (m₀.run ops) := by
  intro m₀
  have hstart : m₀.Unforced := start_unforced (rulesOf_names_nodup s k) board services metrics
  have hstanding := run_standing hstart ops
  have hnames := (run_kept m₀ ops).names
  have hknown := hstanding.sound.known
  have hgrows (op : Op) := (op.kept (m₀.run ops)).grows
  cases hstanding with
  | unforced hnot h =>
    have hforced : (m₀.run ops).status.forced = false := h.status ▸ due_forced
    refine ⟨?_, h.status ▸ due_preCheckComplete, by simp [hforced, hnot], by simp [hforced], hnames,
      hknown, hgrows, fun _ => ignored_of, refresh_same _, fun texts => ?_⟩
    · rw [h.inSafeMode_iff, not_complete_iff]
      exact (and_iff_right hnot).symm
    · rw [hforced, h.validates_iff]
      refine ⟨.inr, fun hor => hor.elim (fun hout r hr => .inl ?_) id⟩
      -- Outside safe mode all rules are validated, as nothing was forced.
      have hcomplete := mt h.inSafeMode_iff.2 (Bool.eq_false_iff.1 hout)
      exact Decidable.not_not.1 hcomplete r hr
  | forced hforced _ hstatus =>
    have hout : (m₀.run ops).status.inSafeMode = false := congrArg Status.inSafeMode hstatus
    refine ⟨by simp [hout, hforced], by simp [hstatus, Status.exited], by simp [hstatus, hforced,
      Status.exited], fun _ => hout, hnames, hknown, hgrows, fun _ => ignored_of, refresh_same _,
      fun texts => iff_of_true (validates_of_forced hstatus texts) (.inl hout)⟩

end ControlPlane.Readiness.SafeMode

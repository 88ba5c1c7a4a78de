import ControlPlane.Proofs.Readiness.Counting
import ControlPlane.Proofs.Readiness.Run

/-!
# Safe mode while reports come in

What the reports of nodes come to in safe mode follows from the rules at the start and
from what they count in the end.

* `pass_validated` says which rules a pass validates, and `mem_pass_rules` what becomes
  of the rules.  Safe mode may end in the middle of a pass, but then every rule has
  been validated.
* `Caught` is the state of safe mode after some reports.  `Caught.handle` is one report
  more.  `Caught.perm` compares two orders of the same reports.
* `Consistent` holds of every state that safe mode can be in.
-/

namespace ControlPlane.Readiness.SafeMode

variable {m m' : SafeMode} {k : Cluster} {n : RuleName}

/-! ## Passes -/

theorem visit_validated {anew : Bool} {rs : List Rule} (h : m.Unforced)
    (hrs : ∀ r ∈ rs, r.name ∈ m.names) :
    n ∈ (visit k anew rs m).2.validated ↔
      n ∈ m.validated ∨ ∃ r ∈ rs, r.name = n ∧ (r.recounted k anew).holds = true := by
  induction rs generalizing m with
  | nil => simp [visit]
  | cons r rs ih =>
    have hrest : ∀ r ∈ rs, r.name ∈ m.names := fun r hr => hrs r (List.mem_cons_of_mem _ hr)
    have hname : r.name ∈ m.names := hrs r List.mem_cons_self
    unfold visit
    split
    · next hout =>
      -- Safe mode is over, so every rule was validated.
      have hcomplete : m.Complete := by
        by_contra hnot
        rw [h.inSafeMode_iff.2 hnot] at hout
        simp at hout
      refine ⟨.inl, fun hor => hor.elim id ?_⟩
      rintro ⟨r', hr', rfl, -⟩
      exact complete_iff.1 hcomplete _ (hrs r' hr')
    · next hin =>
      split
      · next hvalidated =>
        have hmem := SortedSet.contains_iff_mem.1 hvalidated
        dsimp only
        rw [ih h hrest]
        simp only [List.mem_cons, exists_eq_or_imp]
        grind
      · dsimp only
        split
        · next hholds =>
          have hrecord := h.record (by simpa using hin) hname
          dsimp only
          rw [Rule.name_recounted, ih hrecord (by rw [names_record]; exact hrest),
            mem_validated_record]
          simp only [List.mem_cons, exists_eq_or_imp]
          grind
        · next hnot =>
          dsimp only
          rw [ih h hrest]
          simp only [List.mem_cons, exists_eq_or_imp]
          grind

theorem pass_validated {anew : Bool} (h : m.Unforced) :
    n ∈ (m.pass k anew).validated ↔
      n ∈ m.validated ∨ ∃ r ∈ m.rules, r.name = n ∧ (r.recounted k anew).holds = true :=
  visit_validated h fun r hr => List.mem_map.2 ⟨r, hr, rfl⟩

/-- A rule that a pass changes was validated by it. -/
theorem mem_visit_rules {rs : List Rule} {r' : Rule} :
    r' ∈ (visit k false rs m).1 →
      r' ∈ rs ∨ r'.name ∈ (visit k false rs m).2.validated := by
  induction rs generalizing m with
  | nil => exact .inl
  | cons r rs ih =>
    -- What the rest of the pass says of the rest of the rules.
    have hrest (m : SafeMode) (h : r' ∈ (visit k false rs m).1) :
        r' ∈ r :: rs ∨ r'.name ∈ (visit k false rs m).2.validated :=
      (ih h).imp_left (List.mem_cons_of_mem r)
    unfold visit
    split
    · exact .inl
    · split
      · intro h
        rcases List.mem_cons.1 h with rfl | h
        · exact .inl List.mem_cons_self
        · exact hrest m h
      · have hsame : r.recounted k false = r := rfl
        dsimp only
        rw [hsame]
        split
        · intro h
          rcases List.mem_cons.1 h with rfl | h
          · have hkept := (visit_kept k false rs (m.record r.name)).2.2
            rw [Rule.name_cleanup]
            exact .inr (hkept.grows _ (mem_validated_record.2 (.inl rfl)))
          · exact hrest _ h
        · intro h
          rcases List.mem_cons.1 h with rfl | h
          · exact .inl List.mem_cons_self
          · exact hrest m h

theorem mem_pass_rules {r' : Rule} (h : r' ∈ (m.pass k false).rules) :
    r' ∈ m.rules ∨ r'.name ∈ (m.pass k false).validated :=
  mem_visit_rules h

/-! ## After some reports -/

variable {known : Registry} {l l' : List NodeReport} {x : NodeReport}

/-- The rule was validated before, or it holds after some reports. -/
def Reached (known : Registry) (m : SafeMode) (l : List NodeReport) (n : RuleName) : Prop :=
  n ∈ m.validated ∨ ∃ r ∈ m.rules, r.name = n ∧ (r.taking known l).holds = true

/-- What some reports come to. -/
structure Caught (known : Registry) (m : SafeMode) (l : List NodeReport) (m' : SafeMode) :
    Prop where
  unforced : m'.Unforced
  names : m'.names = m.names
  grows : ∀ n ∈ m.validated, n ∈ m'.validated
  reached : ∀ n ∈ m'.validated, Reached known m l n
  /-- A rule may hold at the start, but it is looked at with the first report only. -/
  all : l ≠ [] → ∀ n, Reached known m l n → n ∈ m'.validated
  rules : m'.status.inSafeMode = true → ∀ r' ∈ m'.rules,
    r'.name ∈ m'.validated ∨ ∃ r ∈ m.rules, r' = r.taking known l

theorem Reached.snoc (hmono : ∀ r ∈ m.rules, r.Monotone) (hwithin : ∀ r ∈ m.rules, r.Within)
    (h : Reached known m l n) : Reached known m (l ++ [x]) n := by
  rcases h with h | ⟨r, hr, hname, hholds⟩
  · exact .inl h
  · exact .inr ⟨r, hr, hname, Rule.holds_taking_snoc (hmono r hr) (hwithin r hr) hholds⟩

theorem Reached.perm (h : Reached known m l n) (hperm : l.Perm l') : Reached known m l' n := by
  rcases h with h | ⟨r, hr, hname, hholds⟩
  · exact .inl h
  · rw [Rule.taking_perm hperm] at hholds
    exact .inr ⟨r, hr, hname, hholds⟩

theorem caught_nil (h : m.Unforced) : Caught known m [] m where
  unforced := h
  names := rfl
  grows _ := id
  reached _ := .inl
  all := fun hnil => (hnil rfl).elim
  rules := fun _ r hr => .inr ⟨r, hr, Rule.taking_nil.symm⟩

/-- Outside safe mode every rule of an unforced state is validated. -/
theorem Unforced.complete_of_exited (h : m.Unforced) (hout : m.status.inSafeMode = false) :
    m.Complete := by
  by_contra hnot
  rw [h.inSafeMode_iff.2 hnot] at hout
  simp at hout

/-- After safe mode all reports are ignored, as all rules were validated. -/
theorem Caught.exited (h : Caught known m l m') (hout : m'.status.inSafeMode = false)
    (hmono : ∀ r ∈ m.rules, r.Monotone) (hwithin : ∀ r ∈ m.rules, r.Within) :
    Caught known m (l ++ [x]) m' := by
  have hcomplete := complete_iff.1 (h.unforced.complete_of_exited hout)
  refine ⟨h.unforced, h.names, h.grows, fun n hn => (h.reached n hn).snoc hmono hwithin, ?_, ?_⟩
  · rintro - n (hn | ⟨r, hr, rfl, -⟩)
    · exact h.grows n hn
    · exact hcomplete _ (h.names ▸ List.mem_map.2 ⟨r, hr, rfl⟩)
  · intro hin
    rw [hout] at hin
    simp at hin

/-- A rule that took the next report is as it should be, or it was validated before. -/
theorem Caught.process (h : Caught known m l m') (hin : m'.status.inSafeMode = true)
    {isNew : Bool}
    (hnew : isNew = true ↔ known.contains x.descriptor.id = false ∧
      ∀ y ∈ l, y.descriptor.id ≠ x.descriptor.id) :
    ∀ r' ∈ m'.rules.map
        (Rule.process k (if isNew then .nodeRegistered x else .containersReported x)),
      r'.name ∈ m'.validated ∨ ∃ r ∈ m.rules, r' = r.taking known (l ++ [x]) := by
  intro r' hr'
  obtain ⟨r₀, hr₀, rfl⟩ := List.mem_map.1 hr'
  rw [Rule.name_process]
  rcases h.rules hin r₀ hr₀ with hvalidated | ⟨r, hr, rfl⟩
  · exact .inl hvalidated
  · exact .inr ⟨r, hr, Rule.process_taking hnew⟩

/-- One report more. -/
theorem Caught.handle (h : Caught known m l m') (hmono : ∀ r ∈ m.rules, r.Monotone)
    (hwithin : ∀ r ∈ m.rules, r.Within) {isNew : Bool}
    (hnew : isNew = true ↔ known.contains x.descriptor.id = false ∧
      ∀ y ∈ l, y.descriptor.id ≠ x.descriptor.id) :
    Caught known m (l ++ [x])
      (m'.handle k (if isNew then .nodeRegistered x else .containersReported x)) := by
  cases hin : m'.status.inSafeMode with
  | false =>
    have hsame : m'.handle k (if isNew then .nodeRegistered x else .containersReported x) = m' :=
      Op.run_of_exited (.handle k _) hin
    rw [hsame]
    exact h.exited hin hmono hwithin
  | true =>
    have hrules := h.process (k := k) hin hnew
    generalize (if isNew then Event.nodeRegistered x else .containersReported x) = ev at hrules ⊢
    let p : SafeMode := { m' with rules := m'.rules.map (Rule.process k ev) }
    have hhandle : m'.handle k ev = p.pass k false := handle_of_inSafeMode hin
    have hnames : p.names = m'.names := names_map_rules fun _ => Rule.name_process
    have hp : p.Unforced := h.unforced.with_rules hnames
    have hpass (n : RuleName) : n ∈ (p.pass k false).validated ↔
        n ∈ m'.validated ∨ ∃ r ∈ p.rules, r.name = n ∧ r.holds = true := pass_validated hp
    have hkept := pass_kept p k false
    rw [hhandle]
    refine ⟨hp.pass, ?_, fun n hn => ?_, fun n hn => ?_, fun _ n hn => ?_, fun _ r' hr' => ?_⟩
    · rw [hkept.names, hnames, h.names]
    · exact (hpass n).2 (.inl (h.grows n hn))
    · rcases (hpass n).1 hn with hn | ⟨r', hr', rfl, hholds⟩
      · exact (h.reached n hn).snoc hmono hwithin
      · rcases hrules r' hr' with hvalidated | ⟨r, hr, rfl⟩
        · exact (h.reached _ hvalidated).snoc hmono hwithin
        · exact .inr ⟨r, hr, Rule.name_taking.symm, hholds⟩
    · rcases hn with hn | ⟨r, hr, rfl, hholds⟩
      · exact (hpass n).2 (.inl (h.grows n hn))
      · -- Some rule goes by the name now, and by the name only one comes of `r`.
        have hmem : r.name ∈ p.names := by
          rw [hnames, h.names]
          exact List.mem_map.2 ⟨r, hr, rfl⟩
        obtain ⟨r', hr', hname⟩ := List.mem_map.1 hmem
        rcases hrules r' hr' with hvalidated | ⟨r₀, hr₀, rfl⟩
        · exact (hpass _).2 (.inl (hname ▸ hvalidated))
        · have hnodup : m.names.Nodup := h.names ▸ h.unforced.nodup
          rw [Rule.name_taking] at hname
          obtain rfl := List.inj_on_of_nodup_map hnodup hr₀ hr hname
          exact (hpass _).2 (.inr ⟨_, hr', Rule.name_taking, hholds⟩)
    · rcases mem_pass_rules hr' with hr' | hvalidated
      · rcases hrules r' hr' with hvalidated | htaking
        · exact .inl ((hpass _).2 (.inl hvalidated))
        · exact .inr htaking
      · exact .inl hvalidated

/-- Two orders of the same reports come to the same. -/
theorem Caught.perm {m₁ m₂ : SafeMode} (h : Caught known m l m₁) (h' : Caught known m l' m₂)
    (hperm : l.Perm l') (hsome : l ≠ []) :
    m₁.status = m₂.status ∧ m₁.validated = m₂.validated := by
  have hsome' : l' ≠ [] := fun hnil => hsome (List.Perm.eq_nil (hnil ▸ hperm))
  have hvalidated : m₁.validated = m₂.validated := by
    refine SortedSet.eq_of_mem fun n => ⟨fun hn => ?_, fun hn => ?_⟩
    · exact h'.all hsome' n ((h.reached n hn).perm hperm)
    · exact h.all hsome n ((h'.reached n hn).perm hperm.symm)
  refine ⟨?_, hvalidated⟩
  rw [h.unforced.status, h'.unforced.status]
  exact due_congr (h.names.trans h'.names.symm) hvalidated

/-- The board, the services and the metrics play no part. -/
theorem Caught.beside (h : Caught known m l m') (board : Board) (services : Services)
    (metrics : Metrics) : Caught known m l { m' with board, services, metrics } :=
  ⟨h.unforced.beside board services metrics, h.names, h.grows, h.reached, h.all, h.rules⟩

/-! ## States that safe mode can be in -/

/-- The status is the one that is due, or safe mode was ended by force, and no rule has
counted what it does not track. -/
structure Consistent (m : SafeMode) : Prop where
  standing : m.Unforced ∨ m.Sound ∧ m.status = .exited true
  within : ∀ r ∈ m.rules, r.Within

theorem Consistent.beside (h : m.Consistent) (board : Board) (services : Services)
    (metrics : Metrics) : Consistent { m with board, services, metrics } := by
  refine ⟨?_, h.within⟩
  rcases h.standing with h | ⟨h, hstatus⟩
  · exact .inl (h.beside board services metrics)
  · exact .inr ⟨⟨h.nodup, h.preCheck, h.known⟩, hstatus⟩

theorem Consistent.unforced (h : m.Consistent) (hin : m.status.inSafeMode = true) :
    m.Unforced := by
  rcases h.standing with h | ⟨-, hstatus⟩
  · exact h
  · rw [hstatus] at hin
    exact (Bool.false_ne_true hin).elim

theorem visit_forall {P : Rule → Prop} {anew : Bool} {rs : List Rule}
    (hrecounted : ∀ r, P r → P (r.recounted k anew)) (hcleanup : ∀ r, P r → P r.cleanup)
    (h : ∀ r ∈ rs, P r) : ∀ r ∈ (visit k anew rs m).1, P r := by
  induction rs generalizing m with
  | nil => exact h
  | cons r rs ih =>
    obtain ⟨hr, hrs⟩ := List.forall_mem_cons.1 h
    unfold visit
    split
    · exact h
    · split
      · exact List.forall_mem_cons.2 ⟨hr, ih hrs⟩
      · dsimp only
        split
        · exact List.forall_mem_cons.2 ⟨hcleanup _ (hrecounted r hr), ih hrs⟩
        · exact List.forall_mem_cons.2 ⟨hrecounted r hr, ih hrs⟩

theorem visit_within {anew : Bool} {rs : List Rule} (h : ∀ r ∈ rs, r.Within) :
    ∀ r ∈ (visit k anew rs m).1, r.Within :=
  visit_forall (fun _ hr => hr.recounted) (fun _ hr => hr.cleanup) h

theorem Op.within (op : Op) (h : ∀ r ∈ m.rules, r.Within) : ∀ r ∈ (op.run m).rules, r.Within := by
  cases hin : m.status.inSafeMode with
  | false =>
    rw [op.run_of_exited hin]
    exact h
  | true =>
    cases op with
    | validate text =>
      show ∀ r ∈ (m.validate text).rules, r.Within
      rcases validate_cases m text with hsame | ⟨-, n, -, -, hrecord⟩
      · rw [hsame]
        exact h
      · rw [hrecord, (record_fields m n).1]
        exact h
    | handle k ev =>
      show ∀ r ∈ (m.handle k ev).rules, r.Within
      rw [handle_of_inSafeMode hin]
      exact visit_within (List.forall_mem_map.2 fun r hr => (h r hr).process)
    | refresh k =>
      show ∀ r ∈ (m.refresh k).rules, r.Within
      rw [refresh_of_inSafeMode hin]
      exact List.forall_mem_map.2 fun r hr => (h r hr).refresh
    | refreshAndValidate k => exact visit_within h
    | force =>
      show ∀ r ∈ m.force.rules, r.Within
      rw [force_of_inSafeMode hin]
      exact h

theorem Consistent.op (h : m.Consistent) (op : Op) : (op.run m).Consistent := by
  refine ⟨?_, op.within h.within⟩
  cases hin : m.status.inSafeMode with
  | false =>
    rw [op.run_of_exited hin]
    exact h.standing
  | true =>
    have hunforced := h.unforced hin
    by_cases hop : op = .force
    · subst hop
      have hleave : Op.force.run m = m.leave true := force_of_inSafeMode hin
      rw [hleave]
      exact .inr ⟨⟨hunforced.nodup, hunforced.preCheck, hunforced.known⟩, rfl⟩
    · exact .inl (Op.unforced hop hunforced)

theorem rulesOf_within (s : SafeModeSettings) (k : Cluster) : ∀ r ∈ rulesOf s k, r.Within := by
  intro r hr
  cases r with
  | nodes | healthy | reported => trivial
  | containers rule =>
    intro c hc
    rw [eq_make_of_mem_rulesOf hr] at hc
    exact (SortedSet.not_mem_empty hc).elim

theorem start_rules (rules : List Rule) (board : Board) (services : Services)
    (metrics : Metrics) : (start true rules board services metrics).rules = rules := by
  unfold start
  simp only [Bool.not_true, Bool.false_eq_true, if_false]
  split
  · rfl
  · split <;> rfl

theorem start_validated (enabled : Bool) (rules : List Rule) (board : Board) (services : Services)
    (metrics : Metrics) : (start enabled rules board services metrics).validated = ∅ := by
  unfold start
  split
  · rfl
  · dsimp only
    split
    · rfl
    · split <;> rfl

theorem start_consistent (s : SafeModeSettings) (k : Cluster) (board : Board)
    (services : Services) (metrics : Metrics) :
    (start s.enabled (rulesOf s k) board services metrics).Consistent := by
  cases s.enabled with
  | false => exact ⟨.inr ⟨⟨.nil, by simp [start, leave, announce, names], nofun⟩, rfl⟩, nofun⟩
  | true =>
    refine ⟨.inl (start_unforced (rulesOf_names_nodup s k) board services metrics), ?_⟩
    rw [start_rules]
    exact rulesOf_within s k

end ControlPlane.Readiness.SafeMode

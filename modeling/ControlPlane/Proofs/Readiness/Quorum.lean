import ControlPlane.Proofs.Readiness.Reports

/-!
# Waiting for nodes only

Where there is neither a container nor a pipeline to wait for, safe mode waits for nodes.

* `cutoff_zero`.  A fraction of nothing is nothing, so the rules on pipelines hold.
* `Rule.AwaitsNodes` says that only nodes can be wanting to a rule, and which of them it
  has counted.  Events and passes keep it, and `holds_iff` says when the rule holds.
* `Waiting` is a state of safe mode before enough nodes are there, and `Decided` one in
  which a pass has found out whether they are.  `Waiting.handle` and
  `Waiting.refreshAndValidate` lead from the one to the other.
-/

namespace ControlPlane.Readiness

/-! ## A fraction of nothing -/

section

open Float.Model

theorem le_unpacked {x y : Float} (h : x ≤ y) : x.toModel.unpack.le y.toModel.unpack = true :=
  of_decide_eq_true (p := x.toModel ≤ y.toModel) h

theorem cutoff_zero {x : Float} (h : Settings.isFraction x = true) : cutoff x 0 = 0 := by
  obtain ⟨hlow, hhigh⟩ := Bool.and_eq_true_iff.1 h
  have hle := le_unpacked (of_decide_eq_true hlow)
  have hge := le_unpacked (of_decide_eq_true hhigh)
  have hnone : (Decimal.ofWord 0).toModel.unpack = .zero .positive := by rfl
  have hproduct : x * Decimal.ofWord 0 =
      .ofModel (pack (.mul .binary64 x.toModel.unpack (.zero .positive))) := by
    rw [← hnone]
    rfl
  have hround (sign : UnpackedFloat.Sign) :
      Decimal.roundUp (.ofModel (pack (.zero sign))) = 0 := by
    cases sign <;> decide +kernel
  rw [cutoff, hproduct]
  generalize x.toModel.unpack = u at hle hge ⊢
  -- A finite number times zero is zero, of either sign, and a fraction is finite.
  cases u with
  | zero sign => exact hround _
  | finite sign mantissa exponent hpos => exact hround _
  | notANumber => exact absurd hle (by decide +kernel)
  | infinity sign =>
    cases sign with
    | negative => exact absurd hle (by decide +kernel)
    | positive => exact absurd hge (by decide +kernel)

end

/-! ## Rules that wait for nodes -/

/-- The nodes that are registered after an event, if some were before. -/
def Event.adds (present : SortedSet NodeId) : Event → SortedSet NodeId
  | .nodeRegistered x => present.insert x.descriptor.id
  | _ => present

namespace Rule

variable {r : Rule} {required : UInt64} {present : SortedSet NodeId} {k : Cluster}

/-- The rule waits for a number of nodes, of which it has counted some, or for nothing. -/
def AwaitsNodes (required : UInt64) (present : SortedSet NodeId) : Rule → Prop
  | .nodes r => r = { required, registered := present }
  | .containers r => r.tracked.size = 0 ∧ r.threshold ≤ 1.0
  | .healthy r => r.cutoff = 0
  | .reported r => r.cutoff = 0

theorem AwaitsNodes.holds_iff (h : r.AwaitsNodes required present) :
    r.holds = true ↔ (r.name = .nodes → required.toNat ≤ present.size) := by
  cases r with
  | nodes rule =>
    obtain rfl : rule = { required, registered := present } := h
    simp [holds, NodeRule.holds, name]
  | containers rule =>
    obtain ⟨hnone, hthreshold⟩ := h
    have hratio : rule.ratio = 1.0 := if_pos hnone
    refine iff_of_true ?_ fun hname => (Bool.false_ne_true (isPreCheck_iff.2 hname)).elim
    show decide (rule.ratio ≥ rule.threshold) = true
    rw [hratio]
    exact decide_eq_true hthreshold
  | healthy rule =>
    have hnone : rule.cutoff = 0 := h
    simp [holds, HealthyRule.holds, name, hnone]
  | reported rule =>
    have hnone : rule.cutoff = 0 := h
    simp [holds, ReportedRule.holds, name, hnone]

theorem AwaitsNodes.eq_of_name (h : r.AwaitsNodes required present) (hname : r.name = .nodes) :
    r = .nodes { required, registered := present } := by
  cases r with
  | nodes rule => exact congrArg Rule.nodes h
  | containers | healthy | reported => exact (Bool.false_ne_true (isPreCheck_iff.2 hname)).elim

theorem AwaitsNodes.process {e : Event} (h : r.AwaitsNodes required present) :
    (r.process k e).AwaitsNodes required (e.adds present) := by
  cases r with
  | nodes rule =>
    obtain rfl : rule = { required, registered := present } := h
    cases e <;> rfl
  | containers rule =>
    have hgrows := rule.process_grows e
    show (rule.process e).tracked.size = 0 ∧ (rule.process e).threshold ≤ 1.0
    rw [hgrows.tracked, hgrows.threshold]
    exact h
  | healthy rule =>
    show (rule.process k.nodes e).cutoff = 0
    unfold HealthyRule.process
    split
    · split <;> exact h
    · exact h
  | reported rule =>
    show (rule.process e).cutoff = 0
    unfold ReportedRule.process
    split <;> exact h

/-- Counting anew finds nothing new, as the registry has no nodes but those counted. -/
theorem AwaitsNodes.recounted {anew : Bool} (h : r.AwaitsNodes required present)
    (hpresent : ∀ id ∈ k.nodes.ids, id ∈ present) : r.recounted k anew = r := by
  unfold Rule.recounted
  split
  · cases r with
    | nodes rule =>
      obtain rfl : rule = { required, registered := present } := h
      have hsame : present.insertAll k.nodes.ids = present := by
        refine SortedSet.eq_of_mem fun id => ?_
        rw [SortedSet.mem_insertAll]
        exact or_iff_left_of_imp (hpresent id)
      simp [refresh, NodeRule.refresh, hsame]
    | containers rule =>
      have hholds : rule.holds = true := h.holds_iff.2 fun hname =>
        (Bool.false_ne_true (isPreCheck_iff.2 hname)).elim
      simp [refresh, ReplicaRule.refresh, hholds]
    | healthy rule =>
      have hholds : rule.holds = true := h.holds_iff.2 nofun
      simp [refresh, HealthyRule.refresh, hholds]
    | reported rule =>
      have hholds : rule.holds = true := h.holds_iff.2 nofun
      simp [refresh, ReportedRule.refresh, hholds]
  · rfl

theorem AwaitsNodes.cleanup (h : r.AwaitsNodes required present) :
    r.cleanup.AwaitsNodes required present := by
  cases r with
  | nodes | containers | healthy | reported => exact h

end Rule

theorem observed_empty : observed ∅ = [] := List.mergeSort_nil

/-- Over an empty cluster all rules wait for nodes. -/
theorem rulesOf_awaitsNodes {s : SafeModeSettings}
    (hcontainers : Settings.isFraction s.containerThreshold = true)
    (hhealthy : Settings.isFraction s.healthyThreshold = true)
    (hreported : Settings.isFraction s.reportedThreshold = true) :
    ∀ r ∈ rulesOf s {}, r.AwaitsNodes s.minNodes ∅ := by
  have hreplicas (family : Family) :
      (Rule.containers (.make family s.containerThreshold ∅)).AwaitsNodes s.minNodes ∅ :=
    ⟨rfl, of_decide_eq_true (Bool.and_eq_true_iff.1 hcontainers).2⟩
  have hfirst : ∀ r ∈ [Rule.nodes { required := s.minNodes },
      .containers (.make .ratis s.containerThreshold ∅),
      .containers (.make .ec s.containerThreshold ∅)], r.AwaitsNodes s.minNodes ∅ :=
    List.forall_mem_cons.2 ⟨rfl, List.forall_mem_cons.2 ⟨hreplicas _,
      List.forall_mem_singleton.2 (hreplicas _)⟩⟩
  have hhealthy : (Rule.healthy (.make s.healthyThreshold ∅)).AwaitsNodes s.minNodes ∅ := by
    show cutoff s.healthyThreshold (observed ∅).length = 0
    rw [observed_empty]
    exact cutoff_zero hhealthy
  have hreported : (Rule.reported (.make s.reportedThreshold ∅)).AwaitsNodes s.minNodes ∅ := by
    show cutoff s.reportedThreshold (ReportedRule.tracks ∅).size = 0
    rw [ReportedRule.tracks, observed_empty]
    exact cutoff_zero hreported
  unfold rulesOf
  split
  · nofun
  · refine List.forall_mem_append.2 ⟨hfirst, ?_⟩
    split
    · exact List.forall_mem_cons.2 ⟨hhealthy, List.forall_mem_singleton.2 hreported⟩
    · nofun

namespace SafeMode

variable {m : SafeMode} {required : UInt64} {present : SortedSet NodeId} {k : Cluster}

/-! ## Safe mode that waits for nodes -/

/-- Safe mode waits for a number of nodes, of which some are there. -/
structure Waiting (required : UInt64) (present : SortedSet NodeId) (m : SafeMode) : Prop
    extends Unforced m where
  rules : ∀ r ∈ m.rules, r.AwaitsNodes required present
  named : .nodes ∈ m.names
  pending : .nodes ∉ m.validated

/-- It is settled whether there are enough nodes, and safe mode is over just if they are. -/
structure Decided (required : UInt64) (present : SortedSet NodeId) (m : SafeMode) : Prop
    extends Unforced m where
  exited_iff : m.status.inSafeMode = false ↔ required.toNat ≤ present.size
  waiting : m.status.inSafeMode = true → m.Waiting required present

theorem Waiting.inSafeMode (h : m.Waiting required present) : m.status.inSafeMode = true :=
  h.inSafeMode_iff.2 fun hcomplete => h.pending (complete_iff.1 hcomplete _ h.named)

theorem Waiting.preCheckComplete (h : m.Waiting required present) :
    m.status.preCheckComplete = false := by
  have hunchecked : ¬m.PreChecked := fun hchecked => h.pending (preChecked_iff.1 hchecked h.named)
  have hdue := due_of_not_complete (h.inSafeMode_iff.1 h.inSafeMode)
  rw [h.status, hdue]
  exact decide_eq_false hunchecked

/-- Safe mode over an empty cluster waits for nodes from the start. -/
theorem start_waiting {s : SafeModeSettings} (henabled : s.enabled = true)
    (hcontainers : Settings.isFraction s.containerThreshold = true)
    (hhealthy : Settings.isFraction s.healthyThreshold = true)
    (hreported : Settings.isFraction s.reportedThreshold = true) (board : Board)
    (services : Services) (metrics : Metrics) :
    (start s.enabled (rulesOf s {}) board services metrics).Waiting s.minNodes ∅ := by
  have hnamed : .nodes ∈ (rulesOf s {}).map Rule.name := by
    rw [rulesOf, henabled]
    exact List.mem_cons_self
  have hunforced := start_unforced (rulesOf_names_nodup s {}) board services metrics
  have hrules := start_rules (rulesOf s {}) board services metrics
  rw [henabled]
  refine ⟨hunforced, ?_, ?_, ?_⟩
  · rw [hrules]
    exact rulesOf_awaitsNodes hcontainers hhealthy hreported
  · rw [names, hrules]
    exact hnamed
  · rw [start_validated]
    exact SortedSet.not_mem_empty

/-- The rule on nodes has counted those that are there. -/
theorem Waiting.mem_rules (h : m.Waiting required present) :
    .nodes { required, registered := present } ∈ m.rules := by
  obtain ⟨r, hr, hname⟩ := List.mem_map.1 h.named
  rwa [(h.rules r hr).eq_of_name hname] at hr

theorem Waiting.beside (h : m.Waiting required present) (services : Services) (metrics : Metrics) :
    Waiting required present { m with services, metrics } :=
  ⟨h.toUnforced.beside m.board services metrics, h.rules, h.named, h.pending⟩

theorem Waiting.decided (h : m.Waiting required present)
    (hshort : ¬required.toNat ≤ present.size) : m.Decided required present :=
  ⟨h.toUnforced, iff_of_false (by simp [h.inSafeMode]) hshort, fun _ => h⟩

/-- Once safe mode is over there are enough nodes, and they do not get fewer. -/
theorem Decided.beside_of_exited {present' : SortedSet NodeId} (h : m.Decided required present)
    (hout : m.status.inSafeMode = false) (hsub : ∀ id ∈ present, id ∈ present')
    (services : Services) (metrics : Metrics) :
    Decided required present' { m with services, metrics } := by
  have henough : required.toNat ≤ present'.size :=
    Nat.le_trans (h.exited_iff.1 hout) (SortedSet.size_le_of_subset hsub)
  exact ⟨h.toUnforced.beside m.board services metrics, iff_of_true hout henough,
    fun hin => absurd hin (by simp [hout])⟩

theorem Decided.preCheckComplete_iff (h : m.Decided required present) :
    m.status.preCheckComplete = true ↔ required.toNat ≤ present.size := by
  rw [← h.exited_iff]
  cases hin : m.status.inSafeMode with
  | true => simp [(h.waiting hin).preCheckComplete]
  | false =>
    refine iff_of_true ?_ rfl
    rw [h.status] at hin ⊢
    exact due_preCheckComplete.2 (.inl hin)

theorem Decided.forced (h : m.Decided required present) : m.status.forced = false :=
  h.status ▸ due_forced

/-- A pass finds out whether there are enough nodes. -/
theorem Waiting.pass {anew : Bool} (h : m.Waiting required present)
    (hpresent : ∀ id ∈ k.nodes.ids, id ∈ present) : (m.pass k anew).Decided required present := by
  have hkept := pass_kept m k anew
  have hpass : (m.pass k anew).Unforced := h.toUnforced.pass
  have hvalidated (n : RuleName) : n ∈ (m.pass k anew).validated ↔
      n ∈ m.validated ∨ ∃ r ∈ m.rules, r.name = n ∧
        (r.name = .nodes → required.toNat ≤ present.size) := by
    rw [pass_validated h.toUnforced]
    refine or_congr_right (exists_congr fun r => and_congr_right fun hr =>
      and_congr_right fun _ => ?_)
    rw [(h.rules r hr).recounted hpresent, (h.rules r hr).holds_iff]
  have hrules : ∀ r ∈ (m.pass k anew).rules, r.AwaitsNodes required present :=
    visit_forall (fun r hr => (hr.recounted hpresent).symm ▸ hr) (fun _ hr => hr.cleanup) h.rules
  by_cases henough : required.toNat ≤ present.size
  · -- Every rule holds, so all are validated.
    have hcomplete : (m.pass k anew).Complete := complete_iff.2 fun n hn => by
      rw [hkept.names] at hn
      obtain ⟨r, hr, rfl⟩ := List.mem_map.1 hn
      exact (hvalidated _).2 (.inr ⟨r, hr, rfl, fun _ => henough⟩)
    have hout : (m.pass k anew).status.inSafeMode = false :=
      Bool.eq_false_iff.2 fun hin => hpass.inSafeMode_iff.1 hin hcomplete
    exact ⟨hpass, iff_of_true hout henough, fun hin => absurd hin (by rw [hout]; decide)⟩
  · have hpending : .nodes ∉ (m.pass k anew).validated := fun hmem => by
      rcases (hvalidated _).1 hmem with hmem | ⟨r, -, hname, hholds⟩
      · exact h.pending hmem
      · exact henough (hholds hname)
    have hwaiting : (m.pass k anew).Waiting required present :=
      ⟨hpass, hrules, hkept.names.symm ▸ h.named, hpending⟩
    exact hwaiting.decided henough

theorem Waiting.handle {e : Event} (h : m.Waiting required present)
    (hpresent : ∀ id ∈ k.nodes.ids, id ∈ e.adds present) :
    (m.handle k e).Decided required (e.adds present) := by
  rw [handle_of_inSafeMode h.inSafeMode]
  have hnames : (m.rules.map (Rule.process k e)).map Rule.name = m.names :=
    names_map_rules fun _ => Rule.name_process
  have hrules : ∀ r ∈ m.rules.map (Rule.process k e), r.AwaitsNodes required (e.adds present) :=
    List.forall_mem_map.2 fun r hr => (h.rules r hr).process
  have hnamed : .nodes ∈ (m.rules.map (Rule.process k e)).map Rule.name := hnames ▸ h.named
  exact Waiting.pass ⟨h.toUnforced.with_rules hnames, hrules, hnamed, h.pending⟩ hpresent

theorem Waiting.refreshAndValidate (h : m.Waiting required present)
    (hpresent : ∀ id ∈ k.nodes.ids, id ∈ present) :
    (m.refreshAndValidate k).Decided required present :=
  h.pass hpresent

end SafeMode

end ControlPlane.Readiness

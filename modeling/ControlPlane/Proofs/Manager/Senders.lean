import ControlPlane.Proofs.Manager.Reports
import ControlPlane.Proofs.Readiness.Pass
import ControlPlane.Proofs.Readiness.Reported

/-!
# Who reports a pipeline

A report of pipelines counts for safe mode whoever sends it.  No one asks whether the sender
is a member of the pipelines that it names, so it is for the nodes to be honest.

* `ReportedRule.Heard` is what the reports of a run come to.  The sender of a report has no
  part in it.  Only if nodes are honest do members stand behind every reported pipeline.
* `told` picks out of a run of the control plane what the rule on reported pipelines hears
  of it.  `SafeMode.Follows` ties the rule of safe mode to it.  `Op.follows` is one operation
  and `after_follows` a run.
* `reported_by_anyone` has it together, and `exits_on_outsider` is the word of a node that is
  a member of no pipeline.
-/

namespace ControlPlane

/-- Is the node a member of the pipeline? -/
def Pool.hasMember (pool : Pool) (p : PipelineId) (n : NodeId) : Bool :=
  (pool.find? p).any (·.pipeline.members.contains n)

namespace Readiness

/-! ## Senders -/

namespace ReportedRule

/-- The operation with its report from another sender. -/
def Op.sentBy (sender : NodeId → NodeId) : Op → Op
  | .process k (.pipelinesReported n pipelines) =>
    .process k (.pipelinesReported (sender n) pipelines)
  | op => op

/-- Does a member report the pipeline? -/
def Op.fromMember (p : PipelineId) : Op → Bool
  | .process k (.pipelinesReported n pipelines) =>
    pipelines.contains p && k.pipelines.hasMember p n
  | _ => false

/-- Some member reported the pipeline. -/
def ByMember (ops : List Op) (p : PipelineId) : Prop := ∃ op ∈ ops, op.fromMember p = true

instance (ops : List Op) (p : PipelineId) : Decidable (ByMember ops p) :=
  inferInstanceAs (Decidable (∃ op ∈ ops, op.fromMember p = true))

/-- Nodes report pipelines that they are members of, and no others. -/
def Honest (ops : List Op) : Prop := ∀ op ∈ ops, ∀ p, op.Names p → op.fromMember p = true

/-- What the reports of a run come to. -/
structure Heard (made : ReportedRule) (ops : List Op) (r : ReportedRule) : Prop where
  /-- The reported pipelines are those that anyone reported while they were tracked. -/
  reported : ∀ p, p ∈ r.reported ↔ made.Credited ops p
  /-- Members stand behind all of them just if some member reported each of these. -/
  members : (∀ p ∈ r.reported, ByMember ops p) ↔ ∀ p, made.Credited ops p → ByMember ops p
  honest : Honest ops → ∀ p ∈ r.reported, ByMember ops p
  /-- The rule is the same if others send the reports. -/
  senders : ∀ sender, made.run (ops.map (Op.sentBy sender)) = r

theorem Op.run_sentBy (op : Op) (sender : NodeId → NodeId) (r : ReportedRule) :
    (op.sentBy sender).run r = op.run r := by
  cases op with
  | process k e => cases e <;> rfl
  | refresh k force => rfl

theorem run_sentBy (ops : List Op) (sender : NodeId → NodeId) (r : ReportedRule) :
    r.run (ops.map (Op.sentBy sender)) = r.run ops := by
  rw [run, List.foldl_map]
  simp only [Op.run_sentBy]
  rfl

theorem byMember_of_credited {r : ReportedRule} {ops : List Op} {p : PipelineId}
    (hhonest : Honest ops) (h : r.Credited ops p) : ByMember ops p := by
  obtain ⟨before, op, after, rfl, hnames, -⟩ := h
  have hop : op ∈ before ++ op :: after := List.mem_append_right _ List.mem_cons_self
  exact ⟨op, hop, hhonest op hop p hnames⟩

theorem heard_run (threshold : Float) (pool : Pool) (ops : List Op) :
    Heard (make threshold pool) ops ((make threshold pool).run ops) := by
  have hreported (p : PipelineId) : p ∈ ((make threshold pool).run ops).reported ↔
      (make threshold pool).Credited ops p := mem_reported_run_iff
  refine ⟨hreported, forall_congr' fun p => imp_congr_left (hreported p), fun hhonest p hp => ?_,
    fun sender => run_sentBy ops sender _⟩
  exact byMember_of_credited hhonest ((hreported p).1 hp)

end ReportedRule

/-! ## The rule among the others -/

namespace Rule

variable {r : Rule} {k : Cluster}

/-- The rule on reported pipelines, if it is one. -/
def reported? : Rule → Option ReportedRule
  | .reported rule => some rule
  | _ => none

theorem reported?_eq_some_iff {rule : ReportedRule} :
    r.reported? = some rule ↔ r = .reported rule := by
  cases r <;> simp [reported?]

theorem exists_reported? (h : r.name = .reportedPipelines) : ∃ rule, r.reported? = some rule := by
  cases r with
  | reported rule => exact ⟨rule, rfl⟩
  | containers rule => cases hfamily : rule.family <;> simp [name, hfamily] at h
  | nodes | healthy => simp [name] at h

/-- Some rule of safe mode has the pipeline for reported. -/
theorem exists_reported {rules : List Rule} {p : PipelineId}
    (h : (rules.findSome? reported?).any (·.reported.contains p) = true) :
    ∃ rule, .reported rule ∈ rules ∧ p ∈ rule.reported := by
  obtain ⟨rule, hfind, hp⟩ := (Option.any_eq_true _ _).1 h
  obtain ⟨r, hr, hrule⟩ := List.exists_of_findSome?_eq_some hfind
  exact ⟨rule, reported?_eq_some_iff.1 hrule ▸ hr, SortedSet.contains_iff_mem.1 hp⟩

theorem reported?_process {e : Event} :
    (r.process k e).reported? = r.reported?.map (·.process e) := by
  cases r <;> rfl

theorem reported?_refresh {force : Bool} :
    (r.refresh k force).reported? = r.reported?.map (·.refresh k.pipelines force) := by
  cases r <;> rfl

theorem reported?_settled : r.settled.reported? = r.reported? := by
  unfold settled
  split
  · cases r <;> rfl
  · rfl

end Rule

namespace ReportedRule

variable {r : ReportedRule}

theorem holds_process (h : r.holds = true) (e : Event) : (r.process e).holds = true := by
  cases e with
  | pipelinesReported n pipelines =>
    refine decide_eq_true (Nat.le_trans (of_decide_eq_true h) (SortedSet.size_le_of_subset ?_))
    exact fun p hp => SortedSet.mem_insertAll.2 (.inl hp)
  | nodeRegistered | containersReported | pipelineOpened => exact h

theorem refresh_of_holds (h : r.holds = true) (pool : Pool) : r.refresh pool false = r :=
  if_pos h

end ReportedRule

namespace SafeMode

variable {m m' : SafeMode} {rule : ReportedRule} {k : Cluster}

/-- The rule on reported pipelines is the given one, and once it is validated it holds. -/
structure Follows (rule : ReportedRule) (m : SafeMode) : Prop where
  rules : ∀ r ∈ m.rules, ∀ rule', r.reported? = some rule' → rule' = rule
  holds : .reportedPipelines ∈ m.validated → rule.holds = true

/-- What is beside safe mode plays no part, and neither does the status. -/
theorem Follows.beside (h : Follows rule m) (status : Status) (board : Board)
    (services : Services) (metrics : Metrics) :
    Follows rule { m with status, board, services, metrics } :=
  ⟨h.rules, h.holds⟩

/-- A pass in which the rule is told of something if it is validated, and looked at if not.
If it holds, it makes no difference which. -/
theorem Follows.recorded {tell look : Rule → Rule} {told looked : ReportedRule → ReportedRule}
    (h : Follows rule m) (hpass : Recorded m tell look m')
    (htell : ∀ r, (tell r).reported? = r.reported?.map told)
    (hlook : ∀ r, (look r).reported? = r.reported?.map looked)
    (hsame : rule.holds = true → told rule = looked rule)
    (hholds : rule.holds = true → (looked rule).holds = true) : Follows (looked rule) m' := by
  constructor
  · intro r' hr' rule' hrule'
    rw [hpass.rules] at hr'
    obtain ⟨r, hr, rfl⟩ := List.mem_map.1 hr'
    split at hrule'
    · next hvalidated =>
      rw [htell] at hrule'
      obtain ⟨rule₀, hrule₀, rfl⟩ := Option.map_eq_some_iff.1 hrule'
      obtain rfl := h.rules r hr rule₀ hrule₀
      rw [Rule.reported?_eq_some_iff.1 hrule₀] at hvalidated
      exact hsame (h.holds hvalidated)
    · rw [Rule.reported?_settled, hlook] at hrule'
      obtain ⟨rule₀, hrule₀, rfl⟩ := Option.map_eq_some_iff.1 hrule'
      rw [h.rules r hr rule₀ hrule₀]
  · intro hvalidated
    rcases hpass.mem_iff.1 hvalidated with hvalidated | ⟨r, hr, hname, hlooked⟩
    · exact hholds (h.holds hvalidated)
    · obtain ⟨rule₀, hrule₀⟩ := Rule.exists_reported? hname
      obtain rfl := h.rules r hr rule₀ hrule₀
      have hlook' := hlook r
      rw [hrule₀, Option.map_some] at hlook'
      rw [Rule.reported?_eq_some_iff.1 hlook'] at hlooked
      exact hlooked

theorem Follows.handle (h : Follows rule m) (hm : m.Unforced) (hin : m.status.inSafeMode = true)
    (e : Event) : Follows (rule.process e) (m.handle k e) :=
  h.recorded (handle_recorded hm hin) (fun _ => Rule.reported?_process)
    (fun _ => Rule.reported?_process) (fun _ => rfl)
    fun hholds => ReportedRule.holds_process hholds e

theorem Follows.refreshAndValidate (h : Follows rule m) (hm : m.Unforced) :
    Follows (rule.refresh k.pipelines false) (m.refreshAndValidate k) := by
  have hskipped (hholds : rule.holds = true) : rule.refresh k.pipelines false = rule :=
    ReportedRule.refresh_of_holds hholds _
  have htell (r : Rule) : (id r).reported? = r.reported?.map id := Option.map_id'.symm
  refine h.recorded (refreshAndValidate_recorded hm) htell (fun _ => Rule.reported?_refresh)
    (fun hholds => (hskipped hholds).symm) fun hholds => ?_
  rw [hskipped hholds]
  exact hholds

theorem follows_start (s : SafeModeSettings) (k : Cluster) (board : Board) (services : Services)
    (metrics : Metrics) : Follows (.make s.reportedThreshold k.pipelines)
      (start s.enabled (rulesOf s k) board services metrics) := by
  refine ⟨fun r hr rule hrule => ?_, fun hvalidated => ?_⟩
  · obtain rfl := Rule.reported?_eq_some_iff.1 hrule
    cases henabled : s.enabled with
    | false =>
      rw [henabled] at hr
      exact absurd hr List.not_mem_nil
    | true =>
      rw [henabled, start_rules] at hr
      unfold rulesOf at hr
      cases hcheck : s.pipelineCheck <;> simp [henabled, hcheck] at hr
      exact hr
  · rw [start_validated] at hvalidated
    exact (SortedSet.not_mem_empty hvalidated).elim

/-- Safe mode does not end, unless by force, before the rule holds. -/
theorem Follows.holds_of_exited (h : Follows rule m) (hm : m.Consistent)
    (hout : m.status.inSafeMode = false) (hforced : m.status.forced = false)
    (hrule : .reported rule ∈ m.rules) : rule.holds = true := by
  rcases hm.standing with hunforced | ⟨-, hstatus⟩
  · exact h.holds (hunforced.complete_of_exited hout _ hrule)
  · rw [hstatus] at hforced
    exact absurd hforced (by decide)

end SafeMode

end Readiness

namespace Manager

open Readiness

variable {m : Manager} {rule : ReportedRule}

/-- What an operation is to the rule on reported pipelines: the report of a registered node,
a new count, or nothing. -/
def Op.news (m : Manager) : Op → List ReportedRule.Op
  | .reportPipelines n pipelines =>
    if m.cluster.nodes.contains n then
      [.process m.cluster (.pipelinesReported n pipelines)]
    else []
  | .refresh => [.refresh m.cluster false]
  | _ => []

/-- What the rule on reported pipelines hears of a run.  After safe mode that is nothing. -/
def told : Manager → List Op → List ReportedRule.Op
  | _, [] => []
  | m, op :: ops => (if m.status.inSafeMode then op.news m else []) ++ told (op.run m) ops

/-- One operation. -/
theorem Op.follows (h : SafeMode.Follows rule m.safeMode) (hm : m.safeMode.Consistent)
    (op : Op) : SafeMode.Follows (rule.run (if m.status.inSafeMode then op.news m else []))
      (op.run m).safeMode := by
  cases hin : m.status.inSafeMode with
  | false =>
    obtain ⟨services, metrics, hbeside⟩ := op.beside_of_exited hin
    rw [hbeside]
    exact h.beside _ _ _ _
  | true =>
    have hunforced : m.safeMode.Unforced := hm.unforced hin
    have hhandle (metrics : Metrics) (k : Cluster) (e : Event) : SafeMode.Follows (rule.process e)
        (SafeMode.handle { m.safeMode with metrics } k e) :=
      (h.beside _ _ _ metrics).handle (hunforced.beside _ _ metrics) hin e
    rw [if_pos rfl]
    cases op with
    | reportNode r =>
      obtain ⟨metrics, hsafeMode⟩ := reportNode_safeMode m r
      show SafeMode.Follows rule (m.reportNode r).safeMode
      rw [hsafeMode]
      split
      · exact hhandle metrics _ (.nodeRegistered r)
      · exact hhandle metrics _ (.containersReported r)
    | heartbeat id health =>
      show SafeMode.Follows rule (m.heartbeat id health).2.safeMode
      unfold Manager.heartbeat
      split <;> exact h
    | reportPipelines n pipelines =>
      show SafeMode.Follows _ (m.reportPipelines n pipelines).2.safeMode
      unfold Manager.reportPipelines
      rw [news]
      split
      · exact h.handle hunforced hin (.pipelinesReported n pipelines)
      · exact h
    | openPipeline env id =>
      show SafeMode.Follows rule (m.openPipeline env id).2.safeMode
      unfold Manager.openPipeline
      dsimp only
      split
      · exact h.beside _ _ _ _
      · next p _ =>
        exact hhandle _ _ (.pipelineOpened p)
    | allocate env draws r =>
      show SafeMode.Follows rule (m.allocate env draws r).2.1.safeMode
      unfold Manager.allocate
      split <;> exact h.beside _ _ _ _
    | forceExit =>
      have hleave : m.safeMode.force = m.safeMode.leave true := SafeMode.force_of_inSafeMode hin
      show SafeMode.Follows rule m.safeMode.force
      rw [hleave]
      exact h.beside _ _ _ _
    | refresh => exact h.refreshAndValidate hunforced
    | register name | registerGate name => exact h.beside _ _ _ _

/-- A run. -/
theorem after_follows (h : SafeMode.Follows rule m.safeMode) (hm : m.Reachable) (ops : List Op) :
    SafeMode.Follows (rule.run (told m ops)) (m.after ops).safeMode := by
  induction ops generalizing m rule with
  | nil => exact h
  | cons op ops ih =>
    rw [told, ReportedRule.run, List.foldl_append]
    exact ih (Op.follows h hm.consistent op) (hm.op op)

/-- A pipeline is reported as soon as anyone reports it, be it a member or not.  That goes for
every rule on reported pipelines and for the one of the control plane, and safe mode does
not end, unless by force, before enough pipelines are reported in that sense. -/
theorem reported_by_anyone {settings : Settings} {k : Cluster} {metrics : Metrics}
    {m₀ : Manager} (h : start settings k metrics = .ok m₀) (ops : List Op) :
    let m := m₀.after ops
    let made := ReportedRule.make settings.safeMode.reportedThreshold k.pipelines
    (∀ (threshold : Float) (pool : Pool) (ops : List ReportedRule.Op),
      ReportedRule.Heard (.make threshold pool) ops ((ReportedRule.make threshold pool).run ops)) ∧
    ∀ rule, .reported rule ∈ m.safeMode.rules →
      ReportedRule.Heard made (told m₀ ops) rule ∧
      (m.status.inSafeMode = false → m.status.forced = false →
        rule.cutoff ≤ rule.reported.size) := by
  intro m made
  refine ⟨ReportedRule.heard_run, fun rule hrule => ?_⟩
  have hm₀ : m₀.Reachable := .start h
  have hstart : SafeMode.Follows made m₀.safeMode := by
    rw [(of_start_eq_ok h).2]
    exact SafeMode.follows_start settings.safeMode k {} {} metrics
  have hfollows := after_follows hstart hm₀ ops
  obtain rfl : rule = made.run (told m₀ ops) := hfollows.rules _ hrule rule rfl
  refine ⟨ReportedRule.heard_run _ _ _, fun hout hforced => ?_⟩
  exact of_decide_eq_true
    (hfollows.holds_of_exited (hm₀.after ops).consistent hout hforced hrule)

namespace Sample

/-- Settings that wait for one node, and for every pipeline to be reported. -/
def strict : Settings :=
  { Settings.development with safeMode := { healthyThreshold := 0.0, reportedThreshold := 1.0 } }

/-- The only pipeline. -/
def lone : PipelineId := ⟨.ofNat 1⟩

/-- The control plane over a pipeline of the first three nodes. -/
def guarded : Manager where
  settings := strict
  cluster := ReportedRule.Sample.cluster .opened
  safeMode := .start true (rulesOf strict.safeMode (ReportedRule.Sample.cluster .opened)) {} {} {}

/-- A node registers, and then it reports the pipeline. -/
def wordOf (n : Nat) : List Op :=
  [.reportNode (reportOf n []), .reportPipelines ⟨.ofNat n⟩ [lone]]

theorem start_guarded : start strict (ReportedRule.Sample.cluster .opened) {} = .ok guarded := by
  rfl

end Sample

/-- The word of a member ends safe mode. -/
theorem reported_by_anyone_sample :
    let ops := Sample.wordOf 2
    let m := Sample.guarded.after ops
    m.status = .exited false ∧ ∃ rule, .reported rule ∈ m.safeMode.rules ∧
      rule.cutoff ≤ rule.reported.size ∧
      (ReportedRule.make 1.0 Sample.guarded.cluster.pipelines).Credited
        (told Sample.guarded ops) Sample.lone ∧
      ReportedRule.ByMember (told Sample.guarded ops) Sample.lone := by
  intro ops m
  have hstatus : m.status = .exited false := by decide +kernel
  have hreported : ∃ rule, .reported rule ∈ m.safeMode.rules ∧ Sample.lone ∈ rule.reported :=
    Rule.exists_reported (by decide +kernel)
  obtain ⟨rule, hrule, hlone⟩ := hreported
  obtain ⟨hheard, hexit⟩ := (reported_by_anyone Sample.start_guarded ops).2 rule hrule
  exact ⟨hstatus, rule, hrule,
    hexit (congrArg Status.inSafeMode hstatus) (congrArg Status.forced hstatus),
    (hheard.reported _).1 hlone, by decide +kernel⟩

/-- The word of a node that is a member of no pipeline ends safe mode just as well. -/
theorem exits_on_outsider :
    let ops := Sample.wordOf 4
    let m := Sample.guarded.after ops
    start Sample.strict (ReportedRule.Sample.cluster .opened) {} = .ok Sample.guarded ∧
      (Sample.guarded.after (ops.take 1)).status.inSafeMode = true ∧
      m.status = .exited false ∧
      (∃ rule, .reported rule ∈ m.safeMode.rules ∧ Sample.lone ∈ rule.reported) ∧
      ¬ReportedRule.ByMember (told Sample.guarded ops) Sample.lone := by
  intro ops m
  exact ⟨Sample.start_guarded, by decide +kernel, by decide +kernel,
    Rule.exists_reported (by decide +kernel), by decide +kernel⟩

end Manager

end ControlPlane

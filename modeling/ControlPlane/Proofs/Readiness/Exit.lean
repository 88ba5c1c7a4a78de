import ControlPlane.Proofs.Readiness.Notices

/-!
# The end of safe mode

Safe mode ends at most once, and nothing that happens to it after that leaves a trace.

* `Status.Onward` orders the statuses: safe mode does not come back, and what is complete
  or forced stays so.  `Stage.onward` is one stage, and `Path.onward` any number of them.
* `balance` counts the exits so far and the one that is still to come.  No operation
  changes it (`Op.balance_run`), and no run does (`balance_after`).
* `exited_frozen` puts both together with the guards of the operations, which let
  nothing through outside safe mode (`Op.stages_of_exited`).
-/

namespace ControlPlane.Readiness

/-- The one status may come before the other. -/
structure Status.Onward (s s' : Status) : Prop where
  inSafeMode : s.inSafeMode = false → s'.inSafeMode = false
  preCheckComplete : s.preCheckComplete = true → s'.preCheckComplete = true
  forced : s.forced = true → s'.forced = true

namespace Status.Onward

variable {s s' s'' : Status}

theorem refl (s : Status) : s.Onward s := ⟨id, id, id⟩

theorem trans (h : s.Onward s') (h' : s'.Onward s'') : s.Onward s'' :=
  ⟨h'.inSafeMode ∘ h.inSafeMode, h'.preCheckComplete ∘ h.preCheckComplete,
    h'.forced ∘ h.forced⟩

/-- Any status that nobody forced may come before the end. -/
theorem exited (hforced : s.forced = false) (forced : Bool) : s.Onward (.exited forced) := by
  refine ⟨fun _ => rfl, fun _ => rfl, fun h => ?_⟩
  rw [hforced] at h
  exact (Bool.false_ne_true h).elim

end Status.Onward

/-- What was forced is over. -/
def Status.Settled (s : Status) : Prop := s.forced = true → s.inSafeMode = false

theorem Status.Settled.unforced {s : Status} (h : s.Settled) (hin : s.inSafeMode = true) :
    s.forced = false := by
  refine Bool.eq_false_iff.2 fun hforced => ?_
  rw [h hforced] at hin
  exact Bool.false_ne_true hin

namespace SafeMode

variable {m m' : SafeMode} {ms : List SafeMode}

/-! ## From one status to the next -/

theorem Stage.onward (h : Stage m m') (hm : m.status.Settled) :
    m.status.Onward m'.status ∧ m'.status.Settled := by
  cases h with
  | quiet hstatus =>
    rw [hstatus]
    exact ⟨.refl _, hm⟩
  | joined name hstatus =>
    rw [hstatus]
    exact ⟨.refl _, hm⟩
  | preChecked hin hnot hstatus =>
    rw [hstatus]
    exact ⟨⟨id, fun _ => rfl, id⟩, hm⟩
  | left forced hin hstatus =>
    rw [hstatus]
    exact ⟨.exited (hm.unforced hin) forced, fun _ => rfl⟩

/-- The induction is on the path.  What was forced is over at each stage, so a forced exit
is never written over. -/
theorem Path.onward (h : Path m ms m') (hm : m.status.Settled) :
    (m :: ms).Pairwise fun t t' => t.status.Onward t'.status := by
  induction h with
  | nil => exact List.pairwise_singleton _ _
  | cons hstage hrest ih =>
    obtain ⟨honward, hsettled⟩ := hstage.onward hm
    have hlater := ih hsettled
    refine List.pairwise_cons.2 ⟨fun t ht => ?_, hlater⟩
    rcases List.mem_cons.1 ht with rfl | ht
    · exact honward
    · exact honward.trans ((List.pairwise_cons.1 hlater).1 t ht)

/-! ## The exits in all -/

/-- The exits so far, by rules or by force, and the one that is still to come. -/
def balance (m : SafeMode) : Nat :=
  m.metrics.exits + m.metrics.forcedExits + if m.status.inSafeMode then 1 else 0

theorem balance_leave {forced : Bool} (hin : m.status.inSafeMode = true) :
    (m.leave forced).balance = m.balance := by
  cases forced <;> simp [balance, leave, announce, Metrics.exited, Status.exited, hin] <;> omega

theorem balance_check {n : RuleName} : (m.check n).balance = m.balance := by
  unfold check completePreCheck
  split
  · split <;> rfl
  · rfl

theorem balance_record {n : RuleName} (hin : m.status.inSafeMode = true) :
    (m.record n).balance = m.balance := by
  unfold record
  split
  · rfl
  · have hchecked : ((m.note n).check n).balance = m.balance := balance_check
    have hon : ((m.note n).check n).status.inSafeMode = true := check_inSafeMode.trans hin
    dsimp only
    split
    · rw [balance_leave hon, hchecked]
    · exact hchecked

theorem balance_visit (k : Cluster) (anew : Bool) (rs : List Rule) (m : SafeMode) :
    (visit k anew rs m).2.balance = m.balance := by
  induction rs generalizing m with
  | nil => rfl
  | cons r rs ih =>
    unfold visit
    split
    · rfl
    · next hin =>
      split
      · exact ih m
      · dsimp only
        split
        · exact (ih _).trans (balance_record (by simpa using hin))
        · exact ih m

theorem Op.balance_run (op : Op) (m : SafeMode) : (op.run m).balance = m.balance := by
  cases hin : m.status.inSafeMode with
  | false => rw [op.run_of_exited hin]
  | true =>
    cases op with
    | validate text =>
      show (m.validate text).balance = m.balance
      rcases validate_cases m text with hsame | ⟨-, n, -, -, hrecord⟩
      · rw [hsame]
      · rw [hrecord, balance_record hin]
    | handle k e =>
      show (m.handle k e).balance = m.balance
      rw [handle_of_inSafeMode hin]
      exact balance_visit k false _ _
    | refresh k =>
      show (m.refresh k).balance = m.balance
      rw [refresh_of_inSafeMode hin]
      rfl
    | refreshAndValidate k => exact balance_visit k true m.rules m
    | force =>
      show m.force.balance = m.balance
      rw [force_of_inSafeMode hin, balance_leave hin]

theorem balance_after (m : SafeMode) (moves : List Move) : (m.after moves).balance = m.balance := by
  induction moves generalizing m with
  | nil => rfl
  | cons mv moves ih =>
    have hmove : (mv.run m).balance = m.balance := by
      cases mv with
      | act op => exact op.balance_run m
      | join name => rfl
    exact (ih (mv.run m)).trans hmove

/-- However safe mode starts, there is one exit to come or to count. -/
theorem balance_start (enabled : Bool) (rules : List Rule) (board : Board) (services : Services)
    (metrics : Metrics) :
    (start enabled rules board services metrics).balance =
      metrics.exits + metrics.forcedExits + 1 := by
  unfold start
  split
  · exact balance_leave rfl
  · dsimp only
    split
    · exact balance_leave rfl
    · split <;> rfl

/-! ## After the end -/

/-- Outside safe mode an operation goes through no state but the one that it finds. -/
theorem Op.stages_of_exited (op : Op) (hout : m.status.inSafeMode = false) :
    ∀ t ∈ op.stages m, t = m := by
  have hrun := op.run_of_exited hout
  cases op with
  | validate | handle => simp [stages, hout]
  | refresh k =>
    have hrefresh : m.refresh k = m := hrun
    simp [stages, hrefresh]
  | force =>
    have hforce : m.force = m := hrun
    simp [stages, hforce]
  | refreshAndValidate k =>
    have hvisit : visitStages k true m.rules m = [] := by
      cases m.rules <;> simp [visitStages, hout]
    have hpass : m.pass k true = m := hrun
    simp [stages, passStages, hvisit, hpass]

theorem stages_of_exited (hout : m.status.inSafeMode = false) (ops : List Op) :
    ∀ t ∈ m.stages (ops.map .act), t = m := by
  induction ops with
  | nil => simp [stages]
  | cons op ops ih =>
    intro t ht
    have hrun : Move.run (.act op) m = m := op.run_of_exited hout
    rw [List.map_cons, stages, hrun] at ht
    rcases List.mem_append.1 ht with ht | ht
    · exact op.stages_of_exited hout t ht
    · exact ih t ht

/-- Outside safe mode no operation changes anything, not even for a moment.  Over a whole
run, in which services may register, the status goes onward only, and safe mode was left
once or it still lasts. -/
theorem exited_frozen :
    (∀ (m : SafeMode) (ops : List Op), m.status.inSafeMode = false →
      m.run ops = m ∧ ∀ t ∈ m.stages (ops.map .act), t = m) ∧
    ∀ (enabled : Bool) (rules : List Rule) (board : Board) (services : Services)
        (metrics : Metrics) (moves : List Move),
      let m₀ := start enabled rules board services metrics
      let m := m₀.after moves
      ((m₀ :: m₀.stages moves).Pairwise fun t t' => t.status.Onward t'.status) ∧
        m.metrics.exits + m.metrics.forcedExits =
          metrics.exits + metrics.forcedExits + if m.status.inSafeMode then 0 else 1 := by
  refine ⟨fun m ops hout => ⟨run_of_exited hout ops, stages_of_exited hout ops⟩, ?_⟩
  intro enabled rules board services metrics moves m₀ m
  have hsettled : m₀.status.Settled :=
    ((start_stage enabled rules board services metrics).onward nofun).2
  have hbalance : m.balance = metrics.exits + metrics.forcedExits + 1 :=
    (balance_after m₀ moves).trans (balance_start enabled rules board services metrics)
  refine ⟨(stages_path m₀ moves).onward hsettled, ?_⟩
  unfold balance at hbalance
  cases hin : m.status.inSafeMode <;> simp [hin] at hbalance ⊢ <;> omega

namespace Sample

/-- One rule waits for a node, and one for a report of pipeline 1. -/
def awaited : List Rule :=
  [.nodes { required := 1 },
    .reported { threshold := 0.5, cutoff := 1, tracked := .ofList [⟨.ofNat 1⟩] }]

/-- Safe mode over both rules, with one service. -/
def guarded : SafeMode := start true awaited {} (({} : Services).register "writer") {}

/-- Node 1 registers and reports the pipeline. -/
def arrivals : List Op :=
  [.handle {} (.nodeRegistered ⟨⟨⟨.ofNat 1⟩, "dn1", "10.0.0.1", "/rack1"⟩, [], {}⟩),
    .handle {} (.pipelinesReported ⟨.ofNat 1⟩ [⟨.ofNat 1⟩])]

end Sample

/-- Once both rules have held safe mode is over, and the service was told of it.  Nothing that
comes later changes the rules, the validated ones, the notices or the exits. -/
theorem exited_frozen_sample :
    let m := Sample.guarded.run Sample.arrivals
    Sample.guarded.status.inSafeMode = true ∧ m.status = .exited false ∧
      m.names = [.nodes, .reportedPipelines] ∧
      m.validated = .ofList [.nodes, .reportedPipelines] ∧
      m.services.received 0 = [.preCheckCompleted, .statusChanged (.exited false)] ∧
      m.metrics.exits + m.metrics.forcedExits = 1 ∧
      m.run (Sample.arrivals ++ [.validate RuleName.nodes.text, .refresh {},
        .refreshAndValidate {}, .force]) = m := by
  intro m
  have hleft : m.status = .exited false := by decide
  have hout : m.status.inSafeMode = false := congrArg Status.inSafeMode hleft
  have hexits := (exited_frozen.2 true Sample.awaited {} (({} : Services).register "writer") {}
    (Sample.arrivals.map .act)).2
  exact ⟨by decide, hleft, by decide, by decide, by decide, hexits,
    (exited_frozen.1 m _ hout).1⟩

end SafeMode

end ControlPlane.Readiness

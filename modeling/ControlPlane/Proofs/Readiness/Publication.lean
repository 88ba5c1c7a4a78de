import ControlPlane.Proofs.Readiness.Notices

/-!
# What is published

The status of safe mode is kept in three places: safe mode has it, the board shows it, and
every gate works it out from the notices that it got.  They never disagree.

* `Posted` says that the board shows the status.  Only `announce` writes on the board, and
  whatever changes the status announces it (`Posted.move`).
* `Published` adds what services were told, so that a gate knows the status
  (`Published.gate`).  A gate that registers late is told what it missed, and it makes no
  difference to it how many notices it got.
-/

namespace ControlPlane.Readiness

/-- Once safe mode is over the pre-check is complete. -/
def Status.Over (s : Status) : Prop := s.inSafeMode = false → s.preCheckComplete = true

namespace SafeMode

variable {m m' : SafeMode} {ms : List SafeMode} {k : Cluster} {n : RuleName}

/-! ## The board -/

/-- The board shows the status. -/
def Posted (m : SafeMode) : Prop := m.board.status = m.status

theorem posted_announce : m.announce.Posted := by
  show (m.board.publish m.status).status = m.status
  unfold Board.publish
  split
  · assumption
  · rfl

theorem posted_leave (forced : Bool) : (m.leave forced).Posted := posted_announce

theorem posted_start (enabled : Bool) (rules : List Rule) (board : Board) (services : Services)
    (metrics : Metrics) : (start enabled rules board services metrics).Posted := by
  unfold start
  split
  · exact posted_leave true
  · dsimp only
    split
    · exact posted_leave false
    · split <;> exact posted_announce

theorem Posted.check (h : m.Posted) : (m.check n).Posted := by
  unfold SafeMode.check completePreCheck
  split
  · split
    · exact posted_announce
    · exact h
  · exact h

theorem Posted.record (h : m.Posted) : (m.record n).Posted := by
  unfold SafeMode.record
  split
  · exact h
  · dsimp only
    split
    · exact posted_leave false
    · have hnoted : (m.note n).Posted := h
      exact hnoted.check

theorem Posted.visit {anew : Bool} {rs : List Rule} (h : m.Posted) :
    (visit k anew rs m).2.Posted := by
  induction rs generalizing m with
  | nil => exact h
  | cons r rs ih =>
    unfold SafeMode.visit
    split
    · exact h
    · split
      · exact ih h
      · dsimp only
        split
        · exact ih h.record
        · exact ih h

theorem Posted.op (op : Op) (h : m.Posted) : (op.run m).Posted := by
  cases hin : m.status.inSafeMode with
  | false =>
    rw [op.run_of_exited hin]
    exact h
  | true =>
    cases op with
    | validate text =>
      show (m.validate text).Posted
      rcases validate_cases m text with hsame | ⟨-, n, -, -, hrecord⟩
      · rw [hsame]
        exact h
      · rw [hrecord]
        exact h.record
    | handle k e =>
      show (m.handle k e).Posted
      rw [handle_of_inSafeMode hin]
      have htold : Posted { m with rules := m.rules.map (Rule.process k e) } := h
      exact htold.visit
    | refresh k =>
      show (m.refresh k).Posted
      rw [refresh_of_inSafeMode hin]
      exact h
    | refreshAndValidate k => exact Posted.visit h
    | force =>
      show m.force.Posted
      rw [force_of_inSafeMode hin]
      exact posted_leave true

theorem Posted.move (mv : Move) (h : m.Posted) : (mv.run m).Posted := by
  cases mv with
  | act op => exact h.op op
  | join name => exact h

/-! ## Gates -/

theorem Stage.ended (h : Stage m m') (hm : m.status.Over) : m'.status.Over := by
  cases h with
  | quiet hstatus => exact hstatus ▸ hm
  | joined name hstatus => exact hstatus ▸ hm
  | preChecked hin hnot hstatus => exact hstatus ▸ fun _ => rfl
  | left forced hin hstatus => exact hstatus ▸ fun _ => rfl

theorem Path.ended (h : Path m ms m') (hm : m.status.Over) : m'.status.Over := by
  induction h with
  | nil => exact hm
  | cons hstage _ ih => exact ih (hstage.ended hm)

theorem Stage.size_le (h : Stage m m') : m.services.size ≤ m'.services.size := by
  cases h with
  | quiet _ hservices => exact Nat.le_of_eq (congrArg Services.size hservices.symm)
  | preChecked _ _ _ hservices | left _ _ _ hservices =>
    have hsame : m'.services.size = m.services.size := by rw [hservices, Services.size_notify]
    exact Nat.le_of_eq hsame.symm
  | joined name _ hservices =>
    rw [hservices, Services.size_register]
    exact Nat.le_succ _

/-- No service leaves. -/
theorem Path.size_le (h : Path m ms m') : m.services.size ≤ m'.services.size := by
  induction h with
  | nil => exact Nat.le_refl _
  | cons hstage _ ih => exact Nat.le_trans hstage.size_le ih

theorem Move.size_le (mv : Move) (m : SafeMode) : m.services.size ≤ (mv.run m).services.size :=
  (mv.stages_path m).size_le

/-- The board shows the status, and services were told what they are to be told of it. -/
structure Published (m : SafeMode) : Prop where
  posted : m.Posted
  ended : m.status.Over
  told : ∃ stages, Told stages m

theorem start_published (enabled : Bool) (rules : List Rule) (board : Board) (metrics : Metrics) :
    (start enabled rules board {} metrics).Published where
  posted := posted_start enabled rules board {} metrics
  ended := (start_stage enabled rules board {} metrics).ended nofun
  told := ⟨_, told_start enabled rules board metrics (Services.joined_untold [])⟩

theorem Published.move (h : m.Published) (mv : Move) : (mv.run m).Published := by
  obtain ⟨stages, htold⟩ := h.told
  have hpath := mv.stages_path m
  exact ⟨h.posted.move mv, hpath.ended h.ended, _, htold.path hpath⟩

/-- The metrics are nobody's notice. -/
theorem Published.beside (h : m.Published) (metrics : Metrics) :
    Published { m with metrics } := by
  obtain ⟨stages, htold⟩ := h.told
  exact ⟨h.posted, h.ended, _, htold.quiet rfl rfl⟩

/-- A gate knows as much of the status as it wants to know. -/
theorem Published.gate (h : m.Published) {i : Nat} (hi : i < m.services.size) :
    Gate.ofNotices (m.services.received i) =
      ⟨m.status.inSafeMode, m.status.preCheckComplete⟩ := by
  obtain ⟨stages, htold⟩ := h.told
  rw [htold.received i hi, owed]
  cases hin : m.status.inSafeMode with
  | true =>
    have hseen := htold.witnessed hin i hi
    cases hpre : m.status.preCheckComplete with
    | true =>
      rw [if_pos (hseen.2 hpre)]
      rfl
    | false =>
      rw [if_neg (mt hseen.1 (Bool.eq_false_iff.1 hpre))]
      rfl
  | false =>
    rw [h.ended hin]
    -- The notice of the end says all, so that the one before it adds nothing.
    split <;> rfl

end SafeMode

end ControlPlane.Readiness

import ControlPlane.Proofs.Manager.Reports
import ControlPlane.Proofs.Readiness.Publication

/-!
# The status that everybody sees

The status of the control plane, the one on its board and the one that its gates know
agree after every turn of a run, and it makes no difference when a gate was registered
(`status_agrees`).  A `Turn` is an operation of the control plane, or others act on safe
mode or on the cluster meanwhile; nobody else writes on the board.
-/

namespace ControlPlane.Manager

open Readiness

variable {m : Manager}

/-! ## Turns -/

/-- An operation of the control plane, or something that others do. -/
inductive Turn
  | operation (op : Op)
  | safeMode (op : SafeMode.Op)
  | cluster (k : Cluster)

/-- The control plane after a turn. -/
def Turn.run : Turn → Manager → Manager
  | .operation op, m => op.run m
  | .safeMode op, m => { m with safeMode := op.run m.safeMode }
  | .cluster k, m => { m with cluster := k }

/-- The control plane after some turns, the first of the list first. -/
def through (m : Manager) (turns : List Turn) : Manager := turns.foldl (fun m t => t.run m) m

theorem through_append (m : Manager) (turns turns' : List Turn) :
    m.through (turns ++ turns') = (m.through turns).through turns' :=
  List.foldl_append

/-! ## One turn -/

theorem Op.settings_run (op : Op) (m : Manager) : (op.run m).settings = m.settings := by
  cases op with
  | reportNode | forceExit | refresh | register | registerGate => rfl
  | heartbeat id health =>
    show (m.heartbeat id health).2.settings = m.settings
    unfold Manager.heartbeat
    split <;> rfl
  | reportPipelines id pipelines =>
    show (m.reportPipelines id pipelines).2.settings = m.settings
    unfold Manager.reportPipelines
    split <;> rfl
  | openPipeline env id =>
    show (m.openPipeline env id).2.settings = m.settings
    unfold Manager.openPipeline
    dsimp only
    split <;> rfl
  | allocate env draws r =>
    show (m.allocate env draws r).2.1.settings = m.settings
    unfold Manager.allocate
    split <;> rfl

/-- The settings stay, the status is published, and every service stays registered. -/
structure Shows (m m' : Manager) : Prop where
  settings : m'.settings = m.settings
  published : m'.safeMode.Published
  sizes : m.safeMode.services.size ≤ m'.safeMode.services.size

theorem Shows.trans {m' m'' : Manager} (h : Shows m m') (h' : Shows m' m'') : Shows m m'' :=
  ⟨h'.settings.trans h.settings, h'.published, Nat.le_trans h.sizes h'.sizes⟩

theorem Turn.shows (t : Turn) (h : m.safeMode.Published) : Shows m (t.run m) := by
  cases t with
  | operation op =>
    have hsettings : (op.run m).settings = m.settings := op.settings_run m
    obtain ⟨metrics, hsame | ⟨mv, hmove⟩⟩ := op.move_run m
    · refine ⟨hsettings, ?_, ?_⟩
      · exact hsame ▸ h.beside metrics
      · exact Nat.le_of_eq (congrArg (·.services.size) hsame.symm)
    · refine ⟨hsettings, ?_, ?_⟩
      · exact hmove ▸ (h.beside metrics).move mv
      · exact hmove ▸ mv.size_le { m.safeMode with metrics }
  | safeMode op => exact ⟨rfl, h.move (.act op), SafeMode.Move.size_le (.act op) m.safeMode⟩
  | cluster k => exact ⟨rfl, h, Nat.le_refl _⟩

theorem through_shows (h : m.safeMode.Published) (turns : List Turn) :
    Shows m (m.through turns) := by
  induction turns generalizing m with
  | nil => exact ⟨rfl, h, Nat.le_refl _⟩
  | cons t turns ih =>
    have hturn := t.shows h
    exact hturn.trans (ih hturn.published)

/-! ## All turns -/

theorem settings_of_start {settings : Settings} {k : Cluster} {metrics : Metrics}
    (h : start settings k metrics = .ok m) : m.settings = settings := by
  unfold start at h
  cases hvalid : settings.validate with
  | error err =>
    rw [hvalid] at h
    cases h
  | ok =>
    rw [hvalid] at h
    rw [← Except.ok.inj h]

/-- After every turn the board shows the status, and every gate knows whether the pre-check
is complete.  Without a delay work behind a gate may run as soon as safe mode is over. -/
theorem status_agrees {settings : Settings} {k : Cluster} {metrics : Metrics} {m₀ : Manager}
    (hstart : start settings k metrics = .ok m₀) (turns : List Turn) :
    let m := m₀.through turns
    m.safeMode.board.status = m.status ∧
      ∀ before name later, turns = before ++ .operation (.registerGate name) :: later →
        let place := ((m₀.through before).registerGate name).1
        (m.gate place).preCheckComplete = m.status.preCheckComplete ∧
          (settings.safeMode.exitDelay.millis = 0 →
            ∀ elapsed, m.mayRun place elapsed = !m.status.inSafeMode) := by
  intro m
  have hpublished : m₀.safeMode.Published := by
    rw [(of_start_eq_ok hstart).2]
    exact SafeMode.start_published _ _ _ _
  have hshows : Shows m₀ m := through_shows hpublished turns
  refine ⟨hshows.published.posted, ?_⟩
  intro before name later hturns place
  -- The gate is there after its turn, and no service leaves.
  have hthere : place < m.safeMode.services.size := by
    let t : Turn := .operation (.registerGate name)
    have hbefore : (m₀.through before).safeMode.Published :=
      (through_shows hpublished before).published
    have hafter : m = (t.run (m₀.through before)).through later := by
      show m₀.through turns = _
      rw [hturns, through_append]
      rfl
    have hjoined : (t.run (m₀.through before)).safeMode.services.size = place + 1 :=
      Services.size_register
    have hlater := (through_shows (t.shows hbefore).published later).sizes
    rw [← hafter, hjoined] at hlater
    exact hlater
  have hgate : m.gate place = ⟨m.status.inSafeMode, m.status.preCheckComplete⟩ :=
    hshows.published.gate hthere
  refine ⟨congrArg Gate.preCheckComplete hgate, fun hdelay elapsed => ?_⟩
  have hsettings : m.settings.safeMode.exitDelay.millis = 0 := by
    rw [hshows.settings, settings_of_start hstart, hdelay]
  rw [mayRun, hgate, Gate.mayRun, hsettings]
  simp

namespace Sample

/-- The node comes that the control plane waits for, between two gates. -/
def gates : List Turn :=
  [.operation (.registerGate "early"), .operation (.reportNode (reportOf 1 [archive.id])),
    .operation (.registerGate "late")]

end Sample

/-- Both gates are open, the one before the end of safe mode and the one after it. -/
theorem status_agrees_sample :
    let m := Sample.waiting.through Sample.gates
    m.safeMode.board.status = .exited false ∧
      ∀ elapsed, m.mayRun 0 elapsed = true ∧ m.mayRun 1 elapsed = true := by
  intro m
  have hstart : start .development Sample.waiting.cluster {} = .ok Sample.waiting := by rfl
  have hstatus : m.status = .exited false := by decide +kernel
  obtain ⟨hboard, hgates⟩ := status_agrees hstart Sample.gates
  refine ⟨hboard.trans hstatus, fun elapsed => ⟨?_, ?_⟩⟩
  · have hearly := (hgates [] "early" _ rfl).2 rfl elapsed
    exact hearly.trans (by rw [hstatus]; rfl)
  · have hplace : ((Sample.waiting.through (Sample.gates.take 2)).registerGate "late").1 = 1 := by
      decide +kernel
    have hlate := (hgates (Sample.gates.take 2) "late" [] rfl).2 rfl elapsed
    rw [hplace] at hlate
    exact hlate.trans (by rw [hstatus]; rfl)

end ControlPlane.Manager

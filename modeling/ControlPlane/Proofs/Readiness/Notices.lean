import ControlPlane.Proofs.Readiness.Run

/-!
# What services are told

A service is told once that safe mode has ended, and once that the pre-check is
complete if it was there while safe mode went on with the pre-check complete.  It
makes no difference on which side of a milestone it registered.

* `Move` is an operation of safe mode or a service that joins, and `stages` are the
  states that a run of moves goes through.  Recording the last rule has a stage
  between the end of the pre-check and the end of safe mode.
* `Stage` says what can happen from one stage to the next, and `Path` that the stages
  of a run follow one another so.
* `Told` relates what services were told to the stages so far.  Each `Stage` keeps it
  (`Told.stage`), so every run does (`received_after`).
-/

namespace ControlPlane.Readiness

namespace Services

variable {s : Services} {i : Nat} {notice : Notice}

/-- The services that registered before there was a safe mode. -/
def joined (names : List String) : Services := names.foldl register {}

theorem received_append (deliveries : List (Nat × Notice)) :
    received { s with deliveries := s.deliveries ++ deliveries } i =
      s.received i ++ (deliveries.filter fun d => d.1 == i).map (·.2) := by
  simp only [received, List.filter_append, List.map_append]

theorem received_deliver {j : Nat} :
    (s.deliver j notice).received i = s.received i ++ if j = i then [notice] else [] := by
  refine (received_append _).trans ?_
  by_cases hj : j = i <;> simp [hj]

theorem filter_range (n : Nat) :
    (((List.range n).map fun j => (j, notice)).filter fun d => d.1 == i).map (·.2) =
      if i < n then [notice] else [] := by
  induction n with
  | zero => rfl
  | succ n ih =>
    rw [List.range_succ, List.map_append, List.filter_append, List.map_append, ih]
    by_cases hi : n = i
    · subst hi
      simp
    · have hlt : i < n + 1 ↔ i < n := by omega
      simp [hi, hlt]

theorem received_broadcast :
    (s.broadcast notice).received i = s.received i ++ if i < s.size then [notice] else [] := by
  refine (received_append _).trans ?_
  rw [filter_range]

theorem received_notify :
    (s.notify notice).received i = s.received i ++ if i < s.size then [notice] else [] := by
  cases notice <;> exact received_broadcast

@[simp] theorem size_notify : (s.notify notice).size = s.size := by
  cases notice <;> rfl

/-- A service that registers is told what it missed, and nobody else is told anything. -/
theorem received_register {name : String} :
    (s.register name).received i = s.received i ++ if s.size = i then s.missed.toList else [] := by
  unfold register
  cases hmissed : s.missed with
  | none => simp [received]
  | some notice => exact received_deliver

@[simp] theorem size_register {name : String} : (s.register name).size = s.size + 1 := by
  unfold register
  cases s.missed <;> simp [size, deliver]

@[simp] theorem lastStatus_register {name : String} :
    (s.register name).lastStatus = s.lastStatus := by
  unfold register
  cases s.missed <;> rfl

@[simp] theorem announced_register {name : String} :
    (s.register name).announced = s.announced := by
  unfold register
  cases s.missed <;> rfl

/-- Nobody was told anything yet. -/
structure Untold (s : Services) : Prop where
  lastStatus : s.lastStatus = none
  announced : s.announced = false
  deliveries : s.deliveries = []

theorem Untold.register {name : String} (h : s.Untold) : (s.register name).Untold := by
  have hmissed : s.missed = none := by simp [missed, h.lastStatus, h.announced]
  unfold Services.register
  rw [hmissed]
  exact ⟨h.lastStatus, h.announced, h.deliveries⟩

theorem joined_untold (names : List String) : (joined names).Untold := by
  have hall (s : Services) (h : s.Untold) : (names.foldl Services.register s).Untold := by
    induction names generalizing s with
    | nil => exact h
    | cons name names ih => exact ih _ h.register
  exact hall {} ⟨rfl, rfl, rfl⟩

end Services

namespace SafeMode

/-! ## The stages of a run -/

/-- The states that recording a rule goes through: the rule is added, the pre-check is
looked at, and safe mode ends if it was the last. -/
def recordStages (m : SafeMode) (n : RuleName) : List SafeMode :=
  if m.validated.contains n then [] else [m.note n, (m.note n).check n, m.record n]

/-- The states that a pass over some rules goes through. -/
def visitStages (k : Cluster) (anew : Bool) : List Rule → SafeMode → List SafeMode
  | [], _ => []
  | r :: rs, m =>
    if !m.status.inSafeMode then []
    else if m.validated.contains r.name then visitStages k anew rs m
    else
      let r := r.recounted k anew
      if r.holds then m.recordStages r.name ++ visitStages k anew rs (m.record r.name)
      else visitStages k anew rs m

def passStages (m : SafeMode) (k : Cluster) (anew : Bool) : List SafeMode :=
  visitStages k anew m.rules m ++ [m.pass k anew]

/-- The states that an operation goes through, with the one that it ends in unless
that is the one before it. -/
def Op.stages : Op → SafeMode → List SafeMode
  | .validate text, m =>
    if !m.status.inSafeMode then []
    else
      match RuleName.ofText? text with
      | none => []
      | some n => if (m.rules.map Rule.name).contains n then m.recordStages n else []
  | .handle k e, m =>
    if !m.status.inSafeMode then []
    else
      let told := { m with rules := m.rules.map (Rule.process k e) }
      told :: told.passStages k false
  | .refresh k, m => [m.refresh k]
  | .refreshAndValidate k, m => m.passStages k true
  | .force, m => [m.force]

/-- An operation on safe mode, or a service that registers. -/
inductive Move
  | act (op : Op)
  | join (name : String)

/-- Safe mode after a move. -/
def Move.run : Move → SafeMode → SafeMode
  | .act op, m => op.run m
  | .join name, m => { m with services := m.services.register name }

/-- The states that a move goes through. -/
def Move.stages : Move → SafeMode → List SafeMode
  | .act op, m => op.stages m
  | .join name, m => [Move.run (.join name) m]

/-- Safe mode after some moves, the first of the list first. -/
def after (m : SafeMode) (moves : List Move) : SafeMode := moves.foldl (fun m mv => mv.run m) m

/-- The states that some moves go through, after the one at their start. -/
def stages : SafeMode → List Move → List SafeMode
  | _, [] => []
  | m, mv :: moves => mv.stages m ++ stages (mv.run m) moves

/-! ## From one stage to the next -/

variable {m m' m'' : SafeMode} {ms ms' : List SafeMode}

/-- What can happen between two stages. -/
inductive Stage (m m' : SafeMode) : Prop
  | quiet (hstatus : m'.status = m.status) (hservices : m'.services = m.services)
  | preChecked (hin : m.status.inSafeMode = true) (hnot : m.status.preCheckComplete = false)
      (hstatus : m'.status = { m.status with preCheckComplete := true })
      (hservices : m'.services = m.services.notify .preCheckCompleted)
  | left (forced : Bool) (hin : m.status.inSafeMode = true) (hstatus : m'.status = .exited forced)
      (hservices : m'.services = m.services.notify (.statusChanged (.exited forced)))
  | joined (name : String) (hstatus : m'.status = m.status)
      (hservices : m'.services = m.services.register name)

/-- The list leads from one state to another stage by stage. -/
inductive Path : SafeMode → List SafeMode → SafeMode → Prop
  | nil (m : SafeMode) : Path m [] m
  | cons {m m' m'' : SafeMode} {ms : List SafeMode} (h : Stage m m') (hrest : Path m' ms m'') :
      Path m (m' :: ms) m''

theorem Path.append (h : Path m ms m') (h' : Path m' ms' m'') : Path m (ms ++ ms') m'' := by
  induction h with
  | nil => exact h'
  | cons hstage _ ih => exact .cons hstage (ih h')

theorem Path.single (h : Stage m m') : Path m [m'] m' := .cons h (.nil m')

theorem leave_stage (forced : Bool) (hin : m.status.inSafeMode = true) :
    Stage m (m.leave forced) :=
  .left forced hin rfl rfl

theorem completePreCheck_stage (hin : m.status.inSafeMode = true) :
    Stage m m.completePreCheck := by
  unfold completePreCheck
  split
  · next hdone =>
    refine .preChecked hin hdone.2 rfl ?_
    simp [announce, hin]
  · exact .quiet rfl rfl

theorem check_stage {n : RuleName} (hin : m.status.inSafeMode = true) : Stage m (m.check n) := by
  unfold check
  split
  · exact completePreCheck_stage hin
  · exact .quiet rfl rfl

theorem check_inSafeMode {n : RuleName} : (m.check n).status.inSafeMode = m.status.inSafeMode := by
  unfold check completePreCheck
  split
  · split <;> rfl
  · rfl

/-! ## The stages of each operation -/

theorem recordStages_path (n : RuleName) (hin : m.status.inSafeMode = true) :
    Path m (m.recordStages n) (m.record n) := by
  unfold recordStages record
  split
  · exact .nil m
  · have hnoted : (m.note n).status.inSafeMode = true := hin
    have hchecked : ((m.note n).check n).status.inSafeMode = true := check_inSafeMode.trans hin
    refine .cons (.quiet rfl rfl) (.cons (check_stage hnoted) ?_)
    dsimp only
    split
    · exact .single (leave_stage false hchecked)
    · exact .single (.quiet rfl rfl)

theorem visitStages_path (k : Cluster) (anew : Bool) (rs : List Rule) (m : SafeMode) :
    Path m (visitStages k anew rs m) (visit k anew rs m).2 := by
  induction rs generalizing m with
  | nil => exact .nil m
  | cons r rs ih =>
    unfold visitStages visit
    split
    · exact .nil m
    · next hin =>
      split
      · exact ih m
      · dsimp only
        split
        · have hrecord := recordStages_path (r.recounted k anew).name (by simpa using hin)
          exact hrecord.append (ih _)
        · exact ih m

theorem passStages_path (m : SafeMode) (k : Cluster) (anew : Bool) :
    Path m (m.passStages k anew) (m.pass k anew) :=
  (visitStages_path k anew m.rules m).append (.single (.quiet rfl rfl))

theorem Op.stages_path (op : Op) (m : SafeMode) : Path m (op.stages m) (op.run m) := by
  cases op with
  | validate text =>
    unfold stages run SafeMode.validate
    dsimp only
    split
    · exact .nil m
    · next hin =>
      cases RuleName.ofText? text with
      | none => exact .nil m
      | some n =>
        dsimp only
        split
        · exact recordStages_path n (by simpa using hin)
        · exact .nil m
  | handle k e =>
    unfold stages run SafeMode.handle
    dsimp only
    split
    · exact .nil m
    · exact .cons (.quiet rfl rfl) (passStages_path _ k false)
  | refresh k =>
    refine .single ?_
    show Stage m (m.refresh k)
    unfold SafeMode.refresh
    split <;> exact .quiet rfl rfl
  | refreshAndValidate k => exact passStages_path m k true
  | force =>
    refine .single ?_
    show Stage m m.force
    unfold SafeMode.force
    split
    · exact .quiet rfl rfl
    · next hin => exact leave_stage true (by simpa using hin)

theorem Move.stages_path (mv : Move) (m : SafeMode) : Path m (mv.stages m) (mv.run m) := by
  cases mv with
  | act op => exact op.stages_path m
  | join name => exact .single (.joined name rfl rfl)

theorem stages_path (m : SafeMode) (moves : List Move) :
    Path m (m.stages moves) (m.after moves) := by
  induction moves generalizing m with
  | nil => exact .nil m
  | cons mv moves ih => exact (mv.stages_path m).append (ih (mv.run m))

/-! ## What services were told -/

/-- Was some stage in safe mode with the pre-check complete, and the service there? -/
def Witnessed (stages : List SafeMode) (i : Nat) : Prop :=
  ∃ t ∈ stages, i < t.services.size ∧ t.status.inSafeMode = true ∧
    t.status.preCheckComplete = true

instance (stages : List SafeMode) (i : Nat) : Decidable (Witnessed stages i) :=
  inferInstanceAs (Decidable (∃ _ ∈ stages, _))

/-- What a service is to be told in some stages that end with a state. -/
def owed (stages : List SafeMode) (m : SafeMode) (i : Nat) : List Notice :=
  (if Witnessed stages i then [.preCheckCompleted] else []) ++
    if m.status.inSafeMode then [] else [.statusChanged (.exited m.status.forced)]

/-- The services were told what they are to be told, and those that come later will be. -/
structure Told (stages : List SafeMode) (m : SafeMode) : Prop where
  lastStatus : m.services.lastStatus =
    if m.status.inSafeMode then none else some (.exited m.status.forced)
  announced : m.status.inSafeMode = true → m.services.announced = m.status.preCheckComplete
  /-- No stage had a service that is not there any more. -/
  sizes : ∀ t ∈ stages, t.services.size ≤ m.services.size
  /-- As long as safe mode goes on, all services saw the pre-check complete if it is. -/
  witnessed : m.status.inSafeMode = true → ∀ i < m.services.size,
    (Witnessed stages i ↔ m.status.preCheckComplete = true)
  received : ∀ i < m.services.size, m.services.received i = owed stages m i
  nobody : ∀ i, m.services.size ≤ i → m.services.received i = []

theorem witnessed_snoc {i : Nat} :
    Witnessed (ms ++ [m]) i ↔ Witnessed ms i ∨
      i < m.services.size ∧ m.status.inSafeMode = true ∧ m.status.preCheckComplete = true := by
  simp only [Witnessed, List.mem_append, List.mem_singleton]
  constructor
  · rintro ⟨t, ht | rfl, hi⟩
    · exact .inl ⟨t, ht, hi⟩
    · exact .inr hi
  · rintro (⟨t, ht, hi⟩ | hi)
    · exact ⟨t, .inl ht, hi⟩
    · exact ⟨m, .inr rfl, hi⟩

/-- Nobody saw a stage that came before he registered. -/
theorem Told.not_witnessed (h : Told ms m) {i : Nat} (hi : m.services.size ≤ i) :
    ¬Witnessed ms i := by
  rintro ⟨t, ht, hlt, -⟩
  have hle := h.sizes t ht
  omega

theorem Told.sizes_snoc (h : Told ms m) (hle : m.services.size ≤ m'.services.size) :
    ∀ t ∈ ms ++ [m'], t.services.size ≤ m'.services.size := by
  intro t ht
  rcases List.mem_append.1 ht with ht | ht
  · exact Nat.le_trans (h.sizes t ht) hle
  · obtain rfl := List.mem_singleton.1 ht
    exact Nat.le_refl _

/-- A stage of the same status shows nothing new to those who were there before. -/
theorem Told.witnessed_same (h : Told ms m) (hstatus : m'.status = m.status) {i : Nat}
    (hi : i < m.services.size) : Witnessed (ms ++ [m']) i ↔ Witnessed ms i := by
  rw [witnessed_snoc, hstatus]
  refine or_iff_left_of_imp fun ⟨_, hin, hpre⟩ => ?_
  exact (h.witnessed hin i hi).2 hpre

theorem Told.owed_same (h : Told ms m) (hstatus : m'.status = m.status) {i : Nat}
    (hi : i < m.services.size) : owed (ms ++ [m']) m' i = owed ms m i := by
  simp only [owed, h.witnessed_same hstatus hi, hstatus]

theorem Told.quiet (h : Told ms m) (hstatus : m'.status = m.status)
    (hservices : m'.services = m.services) : Told (ms ++ [m']) m' where
  lastStatus := by
    rw [hservices, hstatus]
    exact h.lastStatus
  announced := by
    rw [hservices, hstatus]
    exact h.announced
  sizes := h.sizes_snoc (Nat.le_of_eq (congrArg Services.size hservices.symm))
  witnessed := by
    rw [hservices, hstatus]
    intro hin i hi
    exact (h.witnessed_same hstatus hi).trans (h.witnessed hin i hi)
  received := by
    rw [hservices]
    intro i hi
    rw [h.owed_same hstatus hi]
    exact h.received i hi
  nobody := by
    rw [hservices]
    exact h.nobody

theorem Told.preChecked (h : Told ms m) (hin : m.status.inSafeMode = true)
    (hnot : m.status.preCheckComplete = false)
    (hstatus : m'.status = { m.status with preCheckComplete := true })
    (hservices : m'.services = m.services.notify .preCheckCompleted) : Told (ms ++ [m']) m' := by
  have hin' : m'.status.inSafeMode = true := by rw [hstatus]; exact hin
  have hpre' : m'.status.preCheckComplete = true := by rw [hstatus]
  have hsize : m'.services.size = m.services.size := by rw [hservices, Services.size_notify]
  have hlast : m'.services.lastStatus = m.services.lastStatus := by rw [hservices]; rfl
  have hseen {i : Nat} (hi : i < m.services.size) : Witnessed (ms ++ [m']) i :=
    witnessed_snoc.2 (.inr ⟨hsize ▸ hi, hin', hpre'⟩)
  refine ⟨?_, fun _ => ?_, h.sizes_snoc (Nat.le_of_eq hsize.symm), fun _ i hi => ?_, fun i hi => ?_,
    fun i hi => ?_⟩
  · rw [hlast, h.lastStatus, if_pos hin, if_pos hin']
  · rw [hpre', hservices]
    rfl
  · exact iff_of_true (hseen (hsize ▸ hi)) hpre'
  · rw [hsize] at hi
    -- Until now nobody there was told anything.
    have hunseen : ¬Witnessed ms i := fun hw => by
      rw [(h.witnessed hin i hi).1 hw] at hnot
      simp at hnot
    have hbefore : m.services.received i = [] := by
      rw [h.received i hi, owed, if_neg hunseen, if_pos hin]
      rfl
    rw [hservices, Services.received_notify, hbefore, if_pos hi, owed, if_pos (hseen hi),
      if_pos hin']
    rfl
  · rw [hsize] at hi
    rw [hservices, Services.received_notify, h.nobody i hi, if_neg (by omega)]
    rfl

theorem Told.left (h : Told ms m) {forced : Bool} (hin : m.status.inSafeMode = true)
    (hstatus : m'.status = .exited forced)
    (hservices : m'.services = m.services.notify (.statusChanged (.exited forced))) :
    Told (ms ++ [m']) m' := by
  have hout : m'.status.inSafeMode ≠ true := by rw [hstatus]; exact Bool.false_ne_true
  have hforced : m'.status.forced = forced := by rw [hstatus]; rfl
  have hsize : m'.services.size = m.services.size := by rw [hservices, Services.size_notify]
  refine ⟨?_, fun hin' => (hout hin').elim, h.sizes_snoc (Nat.le_of_eq hsize.symm),
    fun hin' => (hout hin').elim, fun i hi => ?_, fun i hi => ?_⟩
  · rw [if_neg hout, hforced, hservices]
    rfl
  · rw [hsize] at hi
    have hseen : Witnessed (ms ++ [m']) i ↔ Witnessed ms i :=
      witnessed_snoc.trans (or_iff_left fun hlast => hout hlast.2.1)
    rw [hservices, Services.received_notify, h.received i hi, if_pos hi, owed, owed, if_pos hin,
      if_neg hout, hforced, List.append_nil]
    simp only [hseen]
  · rw [hsize] at hi
    rw [hservices, Services.received_notify, h.nobody i hi, if_neg (by omega)]
    rfl

/-- What a service is told when it registers is what it is to be told. -/
theorem Told.missed (h : Told ms m) (hstatus : m'.status = m.status)
    (hsize : m'.services.size = m.services.size + 1) :
    m.services.missed.toList = owed (ms ++ [m']) m' m.services.size := by
  have hbefore := h.not_witnessed (Nat.le_refl m.services.size)
  have hseen : Witnessed (ms ++ [m']) m.services.size ↔
      m.status.inSafeMode = true ∧ m.status.preCheckComplete = true := by
    rw [witnessed_snoc, hstatus, hsize]
    simp [hbefore]
  have hlast := h.lastStatus
  rw [owed, Services.missed, hlast, hstatus]
  cases hin : m.status.inSafeMode with
  | true =>
    rw [if_pos rfl, if_pos rfl, List.append_nil]
    dsimp only
    rw [h.announced hin]
    simp only [hseen, hin, true_and]
    split <;> rfl
  | false =>
    have hunseen : ¬Witnessed (ms ++ [m']) m.services.size := by simp [hseen, hin]
    rw [if_neg hunseen]
    rfl

theorem Told.joined (h : Told ms m) {name : String} (hstatus : m'.status = m.status)
    (hservices : m'.services = m.services.register name) : Told (ms ++ [m']) m' := by
  have hsize : m'.services.size = m.services.size + 1 := by
    rw [hservices, Services.size_register]
  refine ⟨?_, ?_, h.sizes_snoc (by omega), fun hin i hi => ?_, fun i hi => ?_, fun i hi => ?_⟩
  · rw [hservices, Services.lastStatus_register, hstatus]
    exact h.lastStatus
  · rw [hservices, Services.announced_register, hstatus]
    exact h.announced
  · rw [hstatus] at hin ⊢
    by_cases hold : i < m.services.size
    · exact (h.witnessed_same hstatus hold).trans (h.witnessed hin i hold)
    · rw [witnessed_snoc, or_iff_right (h.not_witnessed (Nat.le_of_not_lt hold)), hstatus]
      simp [hi, hin]
  · rw [hservices, Services.received_register]
    by_cases hold : i < m.services.size
    · rw [if_neg (by omega), List.append_nil, h.owed_same hstatus hold]
      exact h.received i hold
    · obtain rfl : m.services.size = i := by omega
      rw [if_pos rfl, h.nobody _ (Nat.le_refl _)]
      exact h.missed hstatus hsize
  · rw [hservices, Services.received_register, h.nobody i (by omega), if_neg (by omega)]
    rfl

theorem Told.stage (h : Told ms m) (hstage : Stage m m') : Told (ms ++ [m']) m' := by
  cases hstage with
  | quiet hstatus hservices => exact h.quiet hstatus hservices
  | preChecked hin hnot hstatus hservices => exact h.preChecked hin hnot hstatus hservices
  | left forced hin hstatus hservices => exact h.left hin hstatus hservices
  | joined name hstatus hservices => exact h.joined hstatus hservices

theorem Told.path (h : Told ms m) (hpath : Path m ms' m') : Told (ms ++ ms') m' := by
  induction hpath generalizing ms with
  | nil =>
    rw [List.append_nil]
    exact h
  | cons hstage _ ih =>
    rw [List.append_cons]
    exact ih (h.stage hstage)

/-! ## Runs -/

/-- Before safe mode starts nobody was told anything. -/
theorem told_initial (hstatus : m.status = .initial) (h : m.services.Untold) : Told [] m := by
  have hin : m.status.inSafeMode = true := by rw [hstatus]; rfl
  have hpre : m.status.preCheckComplete = false := by rw [hstatus]; rfl
  have hunseen (i : Nat) : ¬Witnessed [] i := by
    rintro ⟨t, ht, -⟩
    simp at ht
  have hnothing (i : Nat) : m.services.received i = [] := by
    rw [Services.received, h.deliveries]
    rfl
  have hnone : ∀ t ∈ ([] : List SafeMode), t.services.size ≤ m.services.size := by
    intro t ht
    simp at ht
  refine ⟨?_, fun _ => ?_, hnone, fun _ i _ => ?_, fun i _ => ?_, fun i _ => hnothing i⟩
  · rw [h.lastStatus, if_pos hin]
  · rw [h.announced, hpre]
  · rw [hpre]
    exact iff_of_false (hunseen i) Bool.false_ne_true
  · rw [hnothing, owed, if_neg (hunseen i), if_pos hin]
    rfl

theorem start_stage (enabled : Bool) (rules : List Rule) (board : Board) (services : Services)
    (metrics : Metrics) :
    Stage { rules, preCheck := preCheckOf rules, board, services, metrics }
      (start enabled rules board services metrics) := by
  unfold start
  split
  · exact .left true rfl rfl rfl
  · dsimp only
    split
    · exact .left false rfl rfl rfl
    · split
      · exact .preChecked rfl rfl rfl rfl
      · exact .quiet rfl rfl

theorem told_start (enabled : Bool) (rules : List Rule) (board : Board) (metrics : Metrics)
    {services : Services} (h : services.Untold) :
    Told [start enabled rules board services metrics]
      (start enabled rules board services metrics) := by
  have hstage := start_stage enabled rules board services metrics
  generalize start enabled rules board services metrics = m at hstage ⊢
  exact Told.stage (told_initial rfl h) hstage

/-- Every service is told of each milestone once, whichever side of it it joined on. -/
theorem received_after (enabled : Bool) (rules : List Rule) (board : Board)
    (early : List String) (metrics : Metrics) (moves : List Move) :
    let m₀ := start enabled rules board (.joined early) metrics
    let m := m₀.after moves
    ∀ i : Fin m.services.size, m.services.received i = owed (m₀ :: m₀.stages moves) m i := by
  intro m₀ m i
  have huntold := Services.joined_untold early
  have hstart : Told [m₀] m₀ := told_start enabled rules board metrics huntold
  exact (hstart.path (stages_path m₀ moves)).received i i.isLt

-- The only rule ends the pre-check and safe mode in one operation.
example :
    let m := (start true [.nodes { required := 1 }] {} (.joined ["early"]) {}).after
      [.act (.validate "DataNodeSafeModeRule"), .join "late"]
    m.services.received 0 = [.preCheckCompleted, .statusChanged (.exited false)] ∧
      m.services.received 1 = [.statusChanged (.exited false)] := by
  decide +kernel

end SafeMode
end ControlPlane.Readiness

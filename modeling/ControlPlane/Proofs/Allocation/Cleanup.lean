import ControlPlane.Proofs.Allocation.Request

/-!
# Pipelines that are made in vain

A request sets out at most twice to make a pipeline, and every call on the way may be refused.
As long as it may close pipelines, each pipeline that it made is closed at its end, but for the
one whose container it returns, and the error that it ends with is that of its last try.

* `Call.creation?` reads off the trace how often a request asked for a pipeline.
* `Ended` is one try.  A pipeline that was put into the pool is closed if the try failed, and
  open if it gave a container.
* `Narrowed` is the search in between, which closes pipelines and asks for none.
* `tries` are the sessions in which a request sets out to make a pipeline, and `Cleared` says
  what it leaves behind.  Its parts are put together by `Cleared.after` and `Cleared.append`.
-/

namespace ControlPlane

/-- No call to close a pipeline is refused. -/
def Environment.Closes (env : Environment) : Prop :=
  ∀ t id, env.refusal t (.closePipeline id) = none

/-! ## What was asked for -/

/-- The nodes to leave out and the favoured nodes, if the call asks for a pipeline. -/
def Call.creation? : Call → Option (List NodeId × List NodeId)
  | .create _ excluded favored => some (excluded, favored)
  | _ => none

theorem Trace.creations_call (t : Trace) (c : Call) :
    Trace.creations (.call c :: t) = t.creations ++ c.creation?.toList := by
  cases c <;> simp [Trace.creations, Call.creation?]

namespace Session

variable (env : Environment) (s : Session)

theorem call_creations {α : Type} (c : Call) (act : Cluster → Except Error (α × Cluster)) :
    (call env c act s).2.trace.creations = s.trace.creations ++ c.creation?.toList := by
  rw [call_trace, Trace.creations_call]

/-- Most calls ask for no pipeline. -/
theorem call_creations_same {α : Type} {c : Call} (act : Cluster → Except Error (α × Cluster))
    (hc : c.creation? = none) : (call env c act s).2.trace.creations = s.trace.creations := by
  rw [call_creations, hc, Option.toList_none, List.append_nil]

theorem allocate_creations (owner : String) (p : Pipeline) :
    (allocate env owner p s).2.trace.creations = s.trace.creations :=
  allocate_keeps (P := (·.trace.creations = s.trace.creations)) env s
    (call_creations_same env s _ rfl)
    fun _ _ s' h => (call_creations_same env s' _ rfl).trans h

end Session

/-! ## Closed pipelines -/

namespace Pool

variable {p : Pool} {id : PipelineId} {ids : List PipelineId}

/-- There is a closed pipeline of the name. -/
def HasClosed (p : Pool) (id : PipelineId) : Prop :=
  ∃ e, p.find? id = some e ∧ e.pipeline.state = .closed

theorem HasClosed.closing (h : p.HasClosed id) : (p.closing ids).HasClosed id := by
  obtain ⟨e, he, hclosed⟩ := h
  rw [HasClosed, find?_closing]
  split
  · exact ⟨e.close, congrArg _ he, rfl⟩
  · exact ⟨e, he, hclosed⟩

end Pool

namespace Allocator

variable {a : Allocator} {env : Environment} {choose : Chooser} {r : Request} {s s' s'' : Session}
  {tried tried' : List Session} {out : Ending × Session}

theorem close_creations (env : Environment) (p : Pipeline) (s : Session) :
    (close env p s).trace.creations = s.trace.creations := by
  have hcall : (Session.closePipeline env p.id s).2.trace.creations = s.trace.creations :=
    Session.call_creations_same env s _ rfl
  unfold close
  generalize Session.closePipeline env p.id s = out at hcall ⊢
  obtain ⟨_ | _, s₁⟩ := out <;> exact hcall

/-! ## One try -/

/-- The pipeline that a try in a session makes, if it makes one. -/
def madeIn (env : Environment) (r : Request) (s : Session) : Option Pipeline :=
  (Session.create env r.scheme r.exclude.nodes.toList [] s).1.toOption

/-- How a try ends.  No pipeline is made, or one is put into the pool; that one is closed
where the try failed and open where it gave a container. -/
inductive Ended (env : Environment) (r : Request) (s : Session) :
    Except Error Container × Session → Prop
  | nothing {err : Error} {s' : Session} (hmade : madeIn env r s = none)
      (hpool : s'.cluster.pipelines = s.cluster.pipelines) : Ended env r s (.error err, s')
  | closed {p : Pipeline} {e : Pool.Entry} {err : Error} {s' : Session}
      (hmade : madeIn env r s = some p) (hid : e.pipeline.id = p.id)
      (hstate : e.pipeline.state = .closed)
      (hpool : s'.cluster.pipelines = s.cluster.pipelines.put e) : Ended env r s (.error err, s')
  | opened {p : Pipeline} {e : Pool.Entry} {c : Container} {s' : Session}
      (hmade : madeIn env r s = some p) (hid : e.pipeline.id = p.id)
      (hstate : e.pipeline.state = .opened) (hc : c.pipeline = p.id)
      (hpool : s'.cluster.pipelines = s.cluster.pipelines.put e) : Ended env r s (.ok c, s')

theorem create_ended (hcloses : env.Closes) (r : Request) (s : Session) :
    Ended env r s (create env r s) := by
  have hundertaken := create_undertaken env r s
  generalize create env r s = out at hundertaken ⊢
  cases hundertaken with
  | failed hcreate _ hs =>
    exact .nothing (congrArg Except.toOption hcreate) (congrArg Cluster.pipelines hs)
  | @givenUp err p e containers s' hcreate _ he _ hs =>
    have hid : e.pipeline.id = p.id := congrArg _ he
    have hclosed : (close env p s').cluster = s.cluster.started e.close containers := by
      rw [close_of_granted (hcloses _ _), hs]
      exact s.cluster.started_modify e containers hid Pool.Entry.close_id
    exact .closed (e := e.close) (congrArg Except.toOption hcreate) hid rfl
      (congrArg Cluster.pipelines hclosed)
  | done hcreate _ hc hs =>
    have hpipeline := congrArg (·.1.pipeline) hc.symm
    exact .opened (congrArg Except.toOption hcreate) rfl rfl hpipeline
      (congrArg Cluster.pipelines hs)

theorem create_creations (env : Environment) (r : Request) (s : Session) :
    (create env r s).2.trace.creations =
      s.trace.creations ++ [(r.exclude.nodes.toList, [])] := by
  refine create_keeps (P := (·.trace.creations = s.trace.creations ++ _)) ?_ (fun p s' h => ?_)
    (fun id s' h => ?_) (fun p s' h => ?_) fun _ _ h => h
  · exact Session.call_creations env s _ _
  · exact (Session.allocate_creations env s' r.owner p).trans h
  · exact (Session.call_creations_same env s' _ rfl).trans h
  · exact (close_creations env p s').trans h

/-! ## The search in between -/

/-- No pipeline was asked for, and some were closed. -/
structure Narrowed (s s' : Session) : Prop where
  asked : s'.trace.creations = s.trace.creations
  closed : ∃ ids, s'.cluster.pipelines = s.cluster.pipelines.closing ids

theorem Narrowed.of_same (hasked : s'.trace.creations = s.trace.creations)
    (hpool : s'.cluster.pipelines = s.cluster.pipelines) : Narrowed s s' :=
  ⟨hasked, [], hpool⟩

theorem Narrowed.trans (h : Narrowed s s') (h' : Narrowed s' s'') : Narrowed s s'' := by
  obtain ⟨hasked, ids, hpool⟩ := h
  obtain ⟨hasked', ids', hpool'⟩ := h'
  refine ⟨hasked'.trans hasked, ids ++ ids', ?_⟩
  rw [hpool', hpool, Pool.closing_append]

theorem close_narrowed (hcloses : env.Closes) (s : Session) (p : Pipeline) :
    Narrowed s (close env p s) :=
  ⟨close_creations env p s, [p.id], congrArg Cluster.pipelines (close_of_granted (hcloses _ _))⟩

theorem narrowed_carried (hcloses : env.Closes) : Carried env Narrowed where
  refl _ := .of_same rfl rfl
  trans := Narrowed.trans
  offer s candidates := .of_same (by simp [Session.offer, Trace.creations]) rfl
  containers s id := .of_same (Session.call_creations_same env s _ rfl)
    ((Session.containers_outcome env s id).pipelines fun _ => rfl)
  container s id := .of_same (Session.call_creations_same env s _ rfl)
    ((Session.container_outcome env s id).pipelines fun _ => rfl)
  touch s id := .of_same (Session.call_creations_same env s _ rfl)
    ((Session.touch_outcome env s id).pipelines fun _ => rfl)
  close := close_narrowed hcloses
  count _ _ := .of_same rfl rfl

/-! ## All tries of a request -/

/-- The session in which a request sets out once more to make a pipeline, if it does. -/
def retries (a : Allocator) (env : Environment) (choose : Chooser) (r : Request) (limit : Nat)
    (s : Session) : List Session :=
  match a.search env choose r s with
  | (some _, _) => []
  | (none, s) => if openCount s r.scheme < limit then [s] else []

/-- The sessions in which a request under a limit sets out to make a pipeline. -/
def triesWithin (a : Allocator) (env : Environment) (choose : Chooser) (r : Request)
    (limit : Nat) (s : Session) : List Session :=
  if openCount s r.scheme < limit then
    match create env r s with
    | (.ok _, _) => [s]
    | (.error _, s') => s :: a.retries env choose r limit s'
  else a.retries env choose r limit s

/-- The sessions in which a request sets out to make a pipeline. -/
def tries (a : Allocator) (env : Environment) (choose : Chooser) (r : Request) (s : Session) :
    List Session :=
  match r.scheme.validate with
  | .error _ => []
  | .ok () =>
    match a.limit s.cluster.nodes r.scheme with
    | none => []
    | some limit => a.triesWithin env choose r limit s

/-- The pipelines that some tries make. -/
def made (env : Environment) (r : Request) (tried : List Session) : List Pipeline :=
  tried.filterMap (madeIn env r)

theorem length_retries_le (limit : Nat) (s : Session) :
    (a.retries env choose r limit s).length ≤ 1 := by
  unfold retries
  split
  · exact Nat.zero_le 1
  · split
    · exact Nat.le_refl 1
    · exact Nat.zero_le 1

theorem length_triesWithin_le (limit : Nat) (s : Session) :
    (a.triesWithin env choose r limit s).length ≤ 2 := by
  unfold triesWithin
  split
  · split
    · exact (by decide : 1 ≤ 2)
    · exact Nat.succ_le_succ (length_retries_le _ _)
  · exact Nat.le_succ_of_le (length_retries_le _ _)

theorem length_tries_le (s : Session) : (a.tries env choose r s).length ≤ 2 := by
  unfold tries
  split
  · exact Nat.zero_le 2
  · split
    · exact Nat.zero_le 2
    · exact length_triesWithin_le _ _

/-- The pipeline is closed, or it is open and that of the container that is returned. -/
def PutAway (out : Ending × Session) (id : PipelineId) : Prop :=
  out.2.cluster.pipelines.HasClosed id ∨
    ∃ c, out.1 = some (.ok c) ∧ c.pipeline = id ∧
      ∃ e, out.2.cluster.pipelines.find? id = some e ∧ e.pipeline.state = .opened

theorem PutAway.hasClosed {err : Error} {id : PipelineId}
    (h : PutAway (some (.error err), s) id) : s.cluster.pipelines.HasClosed id := by
  rcases h with hclosed | ⟨c, hc, -⟩
  · exact hclosed
  · cases hc

/-- What a request leaves behind, or a part of it, that set out in some sessions to make a
pipeline. -/
structure Cleared (env : Environment) (r : Request) (tried : List Session) (s : Session)
    (out : Ending × Session) : Prop where
  /-- A pipeline is asked for in each of the sessions, and only there. -/
  asked : out.2.trace.creations =
    s.trace.creations ++ tried.map fun _ => (r.exclude.nodes.toList, [])
  /-- No other pipelines come into the pool. -/
  absent : ∀ id, s.cluster.pipelines.find? id = none →
    (∀ p ∈ made env r tried, p.id ≠ id) → out.2.cluster.pipelines.find? id = none
  putAway : ∀ p ∈ made env r tried, PutAway out p.id
  /-- What was closed before is as good as made in vain. -/
  closed : ∀ id, s.cluster.pipelines.HasClosed id → PutAway out id
  /-- An error is that of the last try. -/
  cause : ∀ err, out.1 = some (.error err) → ∀ s' ∈ tried.getLast?, (create env r s').1 = .error err

/-- The only try is the last. -/
theorem cause_singleton (env : Environment) (r : Request) (s : Session) :
    ∀ err, some (create env r s).1 = some (.error err) →
      ∀ s' ∈ [s].getLast?, (create env r s').1 = .error err := by
  rintro err herr s' hs'
  obtain rfl : s = s' := Option.some.inj hs'
  exact Option.some.inj herr

namespace Cleared

theorem untried (s : Session) (ending : Ending) : Cleared env r [] s (ending, s) where
  asked := (List.append_nil _).symm
  absent _ hnone _ := hnone
  putAway _ hp := (List.not_mem_nil hp).elim
  closed _ hclosed := .inl hclosed
  cause _ _ _ hs' := (Option.not_mem_none _ hs').elim

/-- A try that makes no pipeline. -/
theorem nothing (hout : (create env r s).map some id = out) (hmade : madeIn env r s = none)
    (hpool : out.2.cluster.pipelines = s.cluster.pipelines) : Cleared env r [s] s out := by
  have hnone : made env r [s] = [] := by rw [made, List.filterMap_cons_none hmade]; rfl
  refine ⟨?_, fun id habsent _ => ?_, ?_, fun id hclosed => .inl ?_, ?_⟩
  · rw [← hout]
    exact create_creations env r s
  · rw [hpool]
    exact habsent
  · rw [hnone]
    exact nofun
  · rw [hpool]
    exact hclosed
  · rw [← hout]
    exact cause_singleton env r s

/-- A try that puts a pipeline into the pool. -/
theorem put {p : Pipeline} {e : Pool.Entry} (hout : (create env r s).map some id = out)
    (hmade : madeIn env r s = some p) (hid : e.pipeline.id = p.id)
    (hpool : out.2.cluster.pipelines = s.cluster.pipelines.put e) (haway : PutAway out p.id) :
    Cleared env r [s] s out := by
  have hone : made env r [s] = [p] := by rw [made, List.filterMap_cons_some hmade]; rfl
  have hfind (id : PipelineId) : out.2.cluster.pipelines.find? id =
      if p.id = id then some e else s.cluster.pipelines.find? id := by
    rw [hpool, Pool.find?_put, hid]
  refine ⟨?_, fun id habsent hne => ?_, ?_, ?_, ?_⟩
  · rw [← hout]
    exact create_creations env r s
  · rw [hfind, if_neg (hne p (hone ▸ List.mem_singleton_self p)), habsent]
  · rw [hone]
    exact fun q hq => List.mem_singleton.1 hq ▸ haway
  · rintro id ⟨e', he', hclosed⟩
    by_cases hkey : p.id = id
    · exact hkey ▸ haway
    · exact .inl ⟨e', (hfind id).trans ((if_neg hkey).trans he'), hclosed⟩
  · rw [← hout]
    exact cause_singleton env r s

theorem of_create (hcloses : env.Closes) (r : Request) (s : Session) :
    Cleared env r [s] s ((create env r s).map some id) := by
  have hended := create_ended hcloses r s
  generalize hout : create env r s = out at hended ⊢
  have hmap := congrArg (Prod.map some id) hout
  cases hended with
  | nothing hmade hpool => exact .nothing hmap hmade hpool
  | closed hmade hid hstate hpool =>
    refine .put hmap hmade hid hpool (.inl ⟨_, ?_, hstate⟩)
    exact (congrArg (Pool.find? · _) hpool).trans (Pool.find?_put.trans (if_pos hid))
  | opened hmade hid hstate hc hpool =>
    refine .put hmap hmade hid hpool (.inr ⟨_, rfl, hc, _, ?_, hstate⟩)
    exact (congrArg (Pool.find? · _) hpool).trans (Pool.find?_put.trans (if_pos hid))

/-- What is counted at the end makes no difference. -/
theorem counted {ending : Ending} (h : Cleared env r tried s (ending, s'))
    (metrics : Metrics) : Cleared env r tried s (ending, { s' with metrics }) :=
  ⟨h.asked, h.absent, h.putAway, h.closed, h.cause⟩

/-- The search comes before the last try. -/
theorem after (hsearch : Narrowed s s') (h : Cleared env r tried s' out) :
    Cleared env r tried s out := by
  obtain ⟨hasked, ids, hpool⟩ := hsearch
  refine ⟨hasked ▸ h.asked, fun id hnone => h.absent id ?_, h.putAway, fun id hclosed => ?_,
    h.cause⟩
  · rw [hpool]
    exact Pool.find?_closing_eq_none.2 hnone
  · refine h.closed id ?_
    rw [hpool]
    exact hclosed.closing

/-- More tries come after some that failed. -/
theorem append {err : Error} (h : Cleared env r tried s (some (.error err), s'))
    (h' : Cleared env r tried' s' out)
    (hsame : tried' = [] → ∀ err', out.1 = some (.error err') → err' = err) :
    Cleared env r (tried ++ tried') s out := by
  have hmade : made env r (tried ++ tried') = made env r tried ++ made env r tried' :=
    List.filterMap_append
  refine ⟨?_, fun id hnone hne => ?_, fun p hp => ?_, fun id hclosed => ?_, ?_⟩
  · rw [h'.asked, h.asked, List.append_assoc, List.map_append]
  · rw [hmade] at hne
    have hmiddle : s'.cluster.pipelines.find? id = none :=
      h.absent id hnone fun p hp => hne p (List.mem_append_left _ hp)
    exact h'.absent id hmiddle fun p hp => hne p (List.mem_append_right _ hp)
  · rw [hmade] at hp
    rcases List.mem_append.1 hp with hp | hp
    · exact h'.closed p.id (h.putAway p hp).hasClosed
    · exact h'.putAway p hp
  · exact h'.closed id (h.closed id hclosed).hasClosed
  · intro err' herr' s₁ hlast
    rw [List.getLast?_append] at hlast
    cases htried : tried' with
    | nil =>
      obtain rfl := hsame htried err' herr'
      rw [htried] at hlast
      exact h.cause _ rfl s₁ hlast
    | cons s₂ later =>
      refine h'.cause err' herr' s₁ ?_
      rw [htried] at hlast ⊢
      simpa using hlast

end Cleared

/-! ## Requests -/

theorem lastAttempt_cleared (hcloses : env.Closes) (limit : Nat) (first : Option Error)
    (s : Session) :
    Cleared env r (if openCount s r.scheme < limit then [s] else []) s
      ((lastAttempt env r limit first s).map some id) := by
  unfold lastAttempt
  by_cases hroom : openCount s r.scheme < limit
  · rw [if_pos hroom, if_pos hroom]
    have hcreate := Cleared.of_create hcloses r s
    generalize create env r s = out at hcreate ⊢
    obtain ⟨res, s'⟩ := out
    cases res with
    | ok c => exact hcreate
    | error err => exact hcreate.counted _
  · rw [if_neg hroom, if_neg hroom]
    exact (Cleared.untried s _).counted _

theorem fallBack_cleared (a : Allocator) (hcloses : env.Closes) (choose : Chooser) (r : Request)
    (limit : Nat) (first : Option Error) (s : Session) :
    Cleared env r (a.retries env choose r limit s) s
      ((a.fallBack env choose r limit first s).map some id) := by
  have hsearch : Narrowed s (a.search env choose r s).2 :=
    (narrowed_carried hcloses).search choose s
  rw [fallBack_eq, retries]
  generalize a.search env choose r s = out at hsearch ⊢
  obtain ⟨res, s'⟩ := out
  cases res with
  | some c => exact .after hsearch (.untried s' _)
  | none => exact .after hsearch (lastAttempt_cleared hcloses limit first s')

/-- Without another try the error of the first one stands. -/
theorem fallBack_error (a : Allocator) (choose : Chooser) {limit : Nat} {first err : Error}
    (hnone : a.retries env choose r limit s = [])
    (herr : (a.fallBack env choose r limit (some first) s).1 = .error err) : err = first := by
  rw [retries] at hnone
  rw [fallBack_eq] at herr
  generalize a.search env choose r s = out at hnone herr
  obtain ⟨_ | c, s'⟩ := out
  · have hfull : ¬openCount s' r.scheme < limit := fun hroom => by simp [hroom] at hnone
    simp only [lastAttempt, if_neg hfull] at herr
    exact (Except.error.inj herr).symm
  · cases herr

theorem allocateWithin_cleared (a : Allocator) (hcloses : env.Closes) (choose : Chooser)
    (r : Request) (limit : Nat) (s : Session) :
    Cleared env r (a.triesWithin env choose r limit s) s
      ((a.allocateWithin env choose r limit s).map some id) := by
  unfold allocateWithin triesWithin
  by_cases hroom : openCount s r.scheme < limit
  · rw [if_pos hroom, if_pos hroom]
    have hcreate := Cleared.of_create hcloses r s
    generalize create env r s = out at hcreate ⊢
    obtain ⟨res, s'⟩ := out
    cases res with
    | ok c => exact hcreate
    | error err =>
      exact hcreate.append (a.fallBack_cleared hcloses choose r _ _ s') fun hnone _ herr =>
        a.fallBack_error choose hnone (Option.some.inj herr)
  · rw [if_neg hroom, if_neg hroom]
    exact a.fallBack_cleared hcloses choose r _ _ s

theorem allocate_cleared (a : Allocator) (hcloses : env.Closes) (choose : Chooser) (r : Request)
    (s : Session) :
    Cleared env r (a.tries env choose r s) s (a.allocate env choose r s) := by
  unfold tries
  cases hvalid : r.scheme.validate with
  | error err =>
    rw [allocate_of_error hvalid]
    exact .untried s _
  | ok =>
    cases hlimit : a.limit s.cluster.nodes r.scheme with
    | none =>
      rw [allocate_of_unlimited hvalid hlimit]
      exact .untried s _
    | some limit =>
      rw [allocate_of_limit hvalid hlimit]
      exact a.allocateWithin_cleared hcloses choose r limit s

/-- A request makes at most two pipelines, and what it made is closed in the end, but for the
pipeline of the container that it returns.  If it fails, then with the error of its last try. -/
theorem allocate_clears (a : Allocator) (hcloses : env.Closes) (choose : Chooser) (r : Request)
    (s : Session) :
    let out := a.allocate env choose r s
    let tried := a.tries env choose r s
    (made env r tried).length ≤ 2 ∧ Cleared env r tried s out :=
  ⟨Nat.le_trans (List.length_filterMap_le _ _) (length_tries_le s),
    a.allocate_cleared hcloses choose r s⟩

namespace Sample

/-- The world in which the first new pipeline does not open and the second gets no
container. -/
def failing : Environment :=
  { world with
    refusal := fun _ c =>
      if c = .openPipeline (world.newId 1) then some (.internal "did not come up")
      else if c = .allocate (world.newId 2) then some (.internal "no container")
      else none }

end Sample

/-- Both tries make a pipeline in vain, and the error is that of the second one. -/
theorem allocate_clears_sample :
    let choose := Policy.capacity.chooser Sample.cluster.nodes fun _ => (0, 0)
    let out := Sample.allocator.allocate Sample.failing choose Sample.request
      { cluster := Sample.cluster }
    out.1 = some (.error (.internal "no container")) ∧
      out.2.cluster.pipelines.HasClosed (Sample.world.newId 1) ∧
      out.2.cluster.pipelines.HasClosed (Sample.world.newId 2) := by
  intro choose out
  have hcloses : Sample.failing.Closes := fun _ _ => by simp [Sample.failing]
  let tried := Sample.allocator.tries Sample.failing choose Sample.request
    { cluster := Sample.cluster }
  have hmade : (made Sample.failing Sample.request tried).map (·.id) =
      [Sample.world.newId 1, Sample.world.newId 2] := by decide +kernel
  have hcleared : Cleared Sample.failing Sample.request tried _ out :=
    (Sample.allocator.allocate_clears hcloses choose Sample.request
      { cluster := Sample.cluster }).2
  have herr : out.1 = some (.error (.internal "no container")) := by decide +kernel
  have hclosed : ∀ id ∈ [Sample.world.newId 1, Sample.world.newId 2],
      out.2.cluster.pipelines.HasClosed id := by
    intro id hid
    rw [← hmade] at hid
    obtain ⟨p, hp, rfl⟩ := List.mem_map.1 hid
    rcases hcleared.putAway p hp with hclosed | ⟨c, hc, -⟩
    · exact hclosed
    · rw [herr] at hc
      cases hc
  exact ⟨herr, hclosed _ (by simp), hclosed _ (by simp)⟩

end Allocator

end ControlPlane

import ControlPlane.Proofs.Allocation.Closing

/-!
# The counters of requests balance the state

What a request counts can be told from what it returns and from the pipelines before and
after.  Where no call is refused, and the names of new pipelines are new, this holds of every
run of requests, whatever happens to nodes and containers in between.  There are three groups.

* `Balanced` compares two sessions by the results of the requests between them.  It goes from
  step to step (`Balanced.trans`), and there is a lemma for each way to count.
* The stages.  A pipeline is closed only while it is open (`Pool.Listed` is what the search
  keeps for that), a pipeline is counted as made only when it is open, and no stage counts an
  end of the request but the one that ends it.
* `serve_balanced` is a run, by induction over its turns.
-/

namespace ControlPlane

/-- Does the error say that a setting cannot be used? -/
def Error.isSetting : Error → Bool
  | .setting .. => true
  | _ => false

/-- The number that a counter rose by from the one session to the other. -/
def Session.rise (s : Session) (counter : Metrics → Nat) (s' : Session) : Int :=
  counter s'.metrics - counter s.metrics

section Rise

variable {s s' : Session} {counter : Metrics → Nat}

theorem Session.rise_eq {n : Nat} (h : counter s'.metrics = counter s.metrics + n) :
    s.rise counter s' = n := by
  unfold rise
  omega

theorem Session.rise_add (s s' s'' : Session) (counter : Metrics → Nat) :
    s.rise counter s' + s'.rise counter s'' = s.rise counter s'' := by
  unfold rise
  omega

end Rise

/-- The pipelines are the same, and nothing was counted. -/
structure Session.Quiet (s s' : Session) : Prop where
  pipelines : s'.cluster.pipelines = s.cluster.pipelines
  metrics : s'.metrics = s.metrics

namespace Session.Quiet

variable {s s' s'' : Session}

theorem refl (s : Session) : s.Quiet s := ⟨rfl, rfl⟩

theorem trans (h : s.Quiet s') (h' : s'.Quiet s'') : s.Quiet s'' :=
  ⟨h'.pipelines.trans h.pipelines, h'.metrics.trans h.metrics⟩

end Session.Quiet

/-! ## Open pipelines -/

namespace Pool

variable {p : Pool} {id : PipelineId} {ids : List PipelineId} {ps ps' : List Pipeline}
  {q : Pipeline}

/-- There is an open pipeline of the name. -/
def HasOpen (p : Pool) (id : PipelineId) : Prop :=
  ∃ e, p.find? id = some e ∧ e.pipeline.state = .opened

theorem HasOpen.closing (h : p.HasOpen id) (hid : id ∉ ids) : (p.closing ids).HasOpen id := by
  obtain ⟨e, he, hopen⟩ := h
  exact ⟨e, find?_closing.trans ((if_neg hid).trans he), hopen⟩

/-- The pipelines on the list are open, and none is on it twice. -/
structure Listed (p : Pool) (ps : List Pipeline) : Prop where
  nodup : (ps.map (·.id)).Nodup
  opened : ∀ q ∈ ps, p.HasOpen q.id

theorem listed_opened (p : Pool) (scheme : Scheme) : p.Listed (p.opened scheme) := by
  refine ⟨opened_ids_nodup p scheme, fun q hq => ?_⟩
  obtain ⟨⟨cs, he⟩, -, hopen⟩ := mem_opened.1 hq
  exact ⟨⟨q, cs⟩, he, hopen⟩

namespace Listed

theorem head (h : p.Listed (q :: ps)) : p.HasOpen q.id := h.opened q List.mem_cons_self

theorem tail (h : p.Listed (q :: ps)) : p.Listed ps :=
  ⟨(List.nodup_cons.1 h.nodup).2, fun q' hq' => h.opened q' (List.mem_cons_of_mem _ hq')⟩

theorem sublist (h : p.Listed ps) (hsub : ps'.Sublist ps) : p.Listed ps' :=
  ⟨h.nodup.sublist (hsub.map _), fun q hq => h.opened q (hsub.subset hq)⟩

theorem perm (h : p.Listed ps) (hperm : ps'.Perm ps) : p.Listed ps' :=
  ⟨(hperm.map _).nodup_iff.2 h.nodup, fun q hq => h.opened q (hperm.subset hq)⟩

/-- Closing others keeps the pipelines on the list open. -/
theorem closing (h : p.Listed ps) (hids : ∀ q ∈ ps, q.id ∉ ids) : (p.closing ids).Listed ps :=
  ⟨h.nodup, fun q hq => (h.opened q hq).closing (hids q hq)⟩

/-- The first pipeline may be closed without those after it. -/
theorem closing_head (h : p.Listed (q :: ps)) (hids : ∀ id ∈ ids, id = q.id) :
    (p.closing ids).Listed ps := by
  refine h.tail.closing fun q' hq' hid => (List.nodup_cons.1 h.nodup).1 ?_
  exact List.mem_map.2 ⟨q', hq', hids q'.id hid⟩

/-- Two pipelines on the list with one name are the same. -/
theorem eq_of_id (h : p.Listed ps) {q q' : Pipeline} (hq : q ∈ ps) (hq' : q' ∈ ps)
    (hid : q.id = q'.id) : q = q' :=
  List.inj_on_of_nodup_map h.nodup hq hq' hid

end Listed

end Pool

namespace Allocator

/-! ## What is counted -/

/-- Did the request fail, though not for a setting that cannot be used? -/
def failed : Except Error Container → Bool
  | .ok _ => false
  | .error err => !err.isSetting

/-- The counters rose from the one session to the other as the results of the requests in
between and the pipelines say. -/
structure Balanced (results : List (Except Error Container)) (s s' : Session) : Prop where
  allocations : s.rise Metrics.allocations s' = results.countP (·.isOk)
  failures : s.rise Metrics.failures s' = results.countP failed
  /-- As many pipelines were made as containers were given out on new ones. -/
  newPath : s.rise Metrics.newAllocations s' = s.rise Metrics.pipelinesCreated s'
  /-- As many were added to the pool, and none was taken out. -/
  added : ∃ ids : List PipelineId,
    s'.cluster.pipelines.entries.keys = s.cluster.pipelines.entries.keys ++ ids ∧
      s.rise Metrics.pipelinesCreated s' = ids.length
  opened : (s'.cluster.pipelines.openTotal : Int) = s.cluster.pipelines.openTotal +
    s.rise Metrics.pipelinesCreated s' - s.rise Metrics.pipelinesClosed s'

namespace Balanced

variable {results results' : List (Except Error Container)} {s s' s'' : Session}

/-- Where the pipelines are the same, only the ends of requests were counted, and nodes. -/
theorem of_pipelines (hpipelines : s'.cluster.pipelines = s.cluster.pipelines)
    (hmetrics : s'.metrics =
      { s.metrics with
        nodesRegistered := s'.metrics.nodesRegistered
        reuses := s.metrics.reuses + results.countP (·.isOk)
        failures := s.metrics.failures + results.countP failed }) : Balanced results s s' := by
  have hcreated : s.rise Metrics.pipelinesCreated s' = (0 : Nat) :=
    Session.rise_eq (by rw [hmetrics]; rfl)
  have hclosed : s.rise Metrics.pipelinesClosed s' = (0 : Nat) :=
    Session.rise_eq (by rw [hmetrics]; rfl)
  have hnew : s.rise Metrics.newAllocations s' = (0 : Nat) :=
    Session.rise_eq (by rw [hmetrics]; rfl)
  refine ⟨Session.rise_eq ?_, Session.rise_eq ?_, hnew.trans hcreated.symm,
    ⟨[], ?_, hcreated⟩, ?_⟩
  · rw [hmetrics, Metrics.allocations, Metrics.allocations, Nat.add_assoc]
  · rw [hmetrics]
  · rw [hpipelines, List.append_nil]
  · rw [hpipelines, hcreated, hclosed]
    omega

theorem of_quiet (h : s.Quiet s') : Balanced [] s s' :=
  of_pipelines h.pipelines (by rw [h.metrics]; rfl)

theorem refl (s : Session) : Balanced [] s s := of_quiet (.refl s)

theorem trans (h : Balanced results s s') (h' : Balanced results' s' s'') :
    Balanced (results ++ results') s s'' := by
  obtain ⟨ids, hkeys, hids⟩ := h.added
  obtain ⟨ids', hkeys', hids'⟩ := h'.added
  refine ⟨?_, ?_, ?_, ⟨ids ++ ids', ?_, ?_⟩, ?_⟩
  · rw [← s.rise_add s', h.allocations, h'.allocations, List.countP_append, Int.natCast_add]
  · rw [← s.rise_add s', h.failures, h'.failures, List.countP_append, Int.natCast_add]
  · rw [← s.rise_add s' s'' Metrics.newAllocations, h.newPath, h'.newPath, s.rise_add]
  · rw [hkeys', hkeys, List.append_assoc]
  · rw [← s.rise_add s', hids, hids', List.length_append, Int.natCast_add]
  · rw [h'.opened, h.opened, ← s.rise_add s' s'' Metrics.pipelinesCreated,
      ← s.rise_add s' s'' Metrics.pipelinesClosed]
    omega

/-- A container that was there was given out. -/
theorem reused (c : Container) (s : Session) :
    Balanced [.ok c] s { s with metrics := { s.metrics with reuses := s.metrics.reuses + 1 } } :=
  of_pipelines rfl rfl

/-- A request failed in the end. -/
theorem failure {err : Error} (herr : err.isSetting = false) (s : Session) :
    Balanced [.error err] s
      { s with metrics := { s.metrics with failures := s.metrics.failures + 1 } } := by
  have hfailed : [.error err].countP failed = 1 := by
    rw [List.countP_singleton, failed, herr]
    rfl
  exact of_pipelines rfl (by rw [hfailed]; rfl)

/-- A request was refused for its scheme. -/
theorem invalid {err : Error} (herr : err.isSetting = true) (s : Session) :
    Balanced [.error err] s s := by
  have hfailed : [.error err].countP failed = 0 := by
    rw [List.countP_singleton, failed, herr]
    rfl
  exact of_pipelines rfl (by rw [hfailed]; rfl)

/-- An open pipeline was closed. -/
theorem closed {id : PipelineId} (hopen : s.cluster.pipelines.HasOpen id)
    (hpipelines : s'.cluster.pipelines = s.cluster.pipelines.closing [id])
    (hmetrics : s'.metrics =
      { s.metrics with pipelinesClosed := s.metrics.pipelinesClosed + 1 }) :
    Balanced [] s s' := by
  have hcreated : s.rise Metrics.pipelinesCreated s' = (0 : Nat) :=
    Session.rise_eq (by rw [hmetrics]; rfl)
  have hclosed : s.rise Metrics.pipelinesClosed s' = (1 : Nat) :=
    Session.rise_eq (by rw [hmetrics])
  have hnew : s.rise Metrics.newAllocations s' = (0 : Nat) :=
    Session.rise_eq (by rw [hmetrics]; rfl)
  obtain ⟨e, he, hstate⟩ := hopen
  have htotal := Pool.openTotal_closing he hstate
  refine ⟨Session.rise_eq ?_, Session.rise_eq ?_, hnew.trans hcreated.symm,
    ⟨[], ?_, hcreated⟩, ?_⟩
  · rw [hmetrics]
    rfl
  · rw [hmetrics]
    rfl
  · rw [hpipelines, Pool.keys_closing, List.append_nil]
  · rw [hpipelines, hcreated, hclosed]
    omega

/-- A container was given out on a new pipeline, which is open. -/
theorem made {e : Pool.Entry} (c : Container)
    (hnew : s.cluster.pipelines.find? e.pipeline.id = none) (hopen : e.isOpen = true)
    (hpipelines : s'.cluster.pipelines = s.cluster.pipelines.put e)
    (hmetrics : s'.metrics =
      { s.metrics with
        pipelinesCreated := s.metrics.pipelinesCreated + 1
        newAllocations := s.metrics.newAllocations + 1 }) : Balanced [.ok c] s s' := by
  have hcreated : s.rise Metrics.pipelinesCreated s' = (1 : Nat) :=
    Session.rise_eq (by rw [hmetrics])
  have hclosed : s.rise Metrics.pipelinesClosed s' = (0 : Nat) :=
    Session.rise_eq (by rw [hmetrics]; rfl)
  have hpath : s.rise Metrics.newAllocations s' = (1 : Nat) :=
    Session.rise_eq (by rw [hmetrics])
  have htotal := Pool.openTotal_put_of_new hnew
  rw [hopen, if_pos rfl] at htotal
  refine ⟨Session.rise_eq ?_, Session.rise_eq ?_, hpath.trans hcreated.symm,
    ⟨[e.pipeline.id], ?_, hcreated⟩, ?_⟩
  · rw [hmetrics]
    exact Nat.add_right_comm _ _ _
  · rw [hmetrics]
    rfl
  · rw [hpipelines, Pool.keys_put_of_new hnew]
  · rw [hpipelines, hcreated, hclosed, htotal]
    omega

end Balanced

variable {a : Allocator} {env : Environment} {choose : Chooser} {k : Cluster} {r : Request}
  {p : Pipeline} {ps : List Pipeline} {s s' : Session}

/-! ## Pipelines that are there -/

theorem containers_quiet (env : Environment) (p : Pipeline) (s : Session) :
    s.Quiet (Session.containers env p.id s).2 :=
  ⟨(Session.containers_outcome env s p.id).pipelines fun _ => rfl, Session.call_metrics ..⟩

theorem reuse_quiet (a : Allocator) (env : Environment) (r : Request) (p : Pipeline)
    (s : Session) : s.Quiet (a.reuse env r p s).2 := by
  have hlookup (id : ContainerId) (s : Session) : s.Quiet (Session.container env id s).2 :=
    ⟨(Session.container_outcome env s id).pipelines fun _ => rfl, Session.call_metrics ..⟩
  have htouch (id : ContainerId) (s : Session) : s.Quiet (Session.touch env id s).2 :=
    ⟨(Session.touch_outcome env s id).pipelines fun _ => rfl, Session.call_metrics ..⟩
  exact reuse_related .refl .trans (containers_quiet env p) hlookup htouch s

theorem present_of_listed (h : k.pipelines.Listed ps) : Present k ps := fun q hq =>
  (h.opened q hq).imp fun _ he => he.1

/-- A pipeline is counted as closed if it was open. -/
theorem close_balanced (hw : env.Willing) (hopen : s.cluster.pipelines.HasOpen p.id) :
    Balanced [] s (close env p s) := by
  have hcall := Session.closePipeline_outcome env s p.id
  have hmetrics : (Session.closePipeline env p.id s).2.metrics = s.metrics :=
    Session.call_metrics ..
  unfold close
  generalize Session.closePipeline env p.id s = out at hcall hmetrics ⊢
  rcases hcall with ⟨href, -⟩ | ⟨hmissing, -⟩ | ⟨-, hs⟩
  · exact (hw.not_refuses _ href).elim
  · obtain ⟨e, he, -⟩ := hopen
    obtain ⟨habsent, -⟩ := Pool.entry_eq_error_iff.1 hmissing
    rw [he] at habsent
    cases habsent
  · exact .closed hopen (congrArg _ hs) (by rw [← hmetrics])

theorem close_of_willing (hw : env.Willing) (p : Pipeline) (s : Session) :
    (close env p s).cluster = s.cluster.closing [p.id] :=
  close_of_granted (hw _ _)

theorem candidates_balanced (r : Request) (hw : env.Willing)
    (h : s.cluster.pipelines.Listed ps) :
    Balanced [] s (candidates env r ps s).2 := by
  induction ps generalizing s with
  | nil => exact .refl s
  | cons p ps ih =>
    unfold candidates
    split
    · have hlist := containers_quiet env p s
      generalize Session.containers env p.id s = out at hlist ⊢
      obtain ⟨res, s₁⟩ := out
      have hthere : s₁.cluster.pipelines.Listed (p :: ps) := hlist.pipelines ▸ h
      have hstart : Balanced [] s s₁ := .of_quiet hlist
      cases res with
      | error err => exact hstart.trans (ih hthere.tail)
      | ok ids =>
        dsimp only
        split
        · have hclose : Balanced [] s₁ (close env p s₁) := close_balanced hw hthere.head
          have hrest : (close env p s₁).cluster.pipelines.Listed ps := by
            rw [close_of_willing hw]
            exact hthere.closing_head fun _ => List.mem_singleton.1
          exact (hstart.trans hclose).trans (ih hrest)
        · exact hstart.trans (ih hthere.tail)
    · exact ih h.tail

/-- The candidates stay open while the others are looked through. -/
theorem candidates_listed (r : Request) (hw : env.Willing) (h : s.cluster.pipelines.Listed ps) :
    let out := candidates env r ps s
    out.2.cluster.pipelines.Listed out.1 := by
  have hscreened := candidates_screened env r (present_of_listed h)
  generalize candidates env r ps s = out at hscreened ⊢
  obtain ⟨hids, hs⟩ := hscreened
  next ids s₁ =>
  have husable : s.cluster.pipelines.Listed (ps.filter fun q => !r.exclude.excludesPipeline q) :=
    h.sublist List.filter_sublist
  dsimp only
  rw [hs]
  refine husable.closing fun q hq hid => ?_
  -- A pipeline under the name of a candidate is the candidate, and that is not excluded.
  obtain ⟨hq, hexcl⟩ := List.mem_filter.1 hq
  obtain ⟨q', hq', hqq', hvacant⟩ := hids.only q.id hid
  obtain rfl := h.eq_of_id hq' hq hqq'
  rw [(hvacant hw).1] at hexcl
  cases hexcl

theorem attempt_balanced (a : Allocator) (r : Request) (hw : env.Willing)
    (hopen : s.cluster.pipelines.HasOpen p.id) :
    let out := a.attempt env r p s
    Balanced (out.1.toList.map .ok) s out.2 := by
  have hreuse := a.reuse_quiet env r p s
  unfold attempt
  generalize a.reuse env r p s = out at hreuse ⊢
  obtain ⟨res, s₁⟩ := out
  have hstart : Balanced [] s s₁ := .of_quiet hreuse
  have hthere : s₁.cluster.pipelines.HasOpen p.id := hreuse.pipelines ▸ hopen
  match res with
  | .ok (.found c) => exact hstart.trans (.reused c s₁)
  | .ok .skipped => exact hstart
  | .ok .exhausted => exact hstart.trans (close_balanced hw hthere)
  | .error err =>
    dsimp only
    split
    · exact hstart.trans (close_balanced hw hthere)
    · exact hstart

theorem drain_balanced (a : Allocator) (choose : Chooser) (r : Request) (hw : env.Willing)
    (n : Nat) (h : s.cluster.pipelines.Listed ps) :
    let out := a.drain env choose r n ps s
    Balanced (out.1.toList.map .ok) s out.2 := by
  induction n generalizing ps s with
  | zero => exact .refl s
  | succ n ih =>
    have hoffer : Balanced [] s (s.offer ps) := .of_quiet ⟨rfl, rfl⟩
    unfold drain
    dsimp only
    split
    · exact hoffer
    · next p rest hsome =>
      have hpicked := h.perm (perm_of_picked hsome)
      obtain ⟨e, he, -⟩ := hpicked.head
      have hattempt := attempt_balanced (s := s.offer ps) a r hw hpicked.head
      have htried := attempt_tried a env r (s := s.offer ps) he
      generalize a.attempt env r p (s.offer ps) = out at hattempt htried ⊢
      rcases htried with - | ⟨-, hids, hs⟩
      · exact hoffer.trans hattempt
      · next ids s₁ =>
        have hs₁ : s₁.cluster = s.cluster.closing ids := hs
        have hrest : s₁.cluster.pipelines.Listed rest := by
          rw [hs₁]
          refine hpicked.closing_head fun id hid => ?_
          obtain ⟨q, hq, hqid, -⟩ := hids.only id hid
          rw [← hqid, List.mem_singleton.1 hq]
        exact (hoffer.trans hattempt).trans (ih hrest)

/-! ## New pipelines -/

/-- A pipeline is counted as made if its container is given out. -/
theorem create_metrics {c : Container} (h : create env r s = (.ok c, s')) :
    s'.metrics =
      { s.metrics with
        pipelinesCreated := s.metrics.pipelinesCreated + 1
        newAllocations := s.metrics.newAllocations + 1 } := by
  have hcreate : (Session.create env r.scheme r.exclude.nodes.toList [] s).2.metrics = s.metrics :=
    Session.call_metrics ..
  unfold create at h
  generalize Session.create env r.scheme r.exclude.nodes.toList [] s = out at hcreate h
  obtain ⟨_ | p, s₁⟩ := out
  · cases h
  have hallocate := Session.allocate_metrics env s₁ r.owner p
  dsimp only at h
  generalize Session.allocate env r.owner p s₁ = out at hallocate h
  obtain ⟨_ | d, s₂⟩ := out
  · cases h
  have hopen : (Session.openPipeline env p.id s₂).2.metrics = s₂.metrics :=
    Session.call_metrics ..
  dsimp only at h
  generalize Session.openPipeline env p.id s₂ = out at hopen h
  obtain ⟨_ | _, s₃⟩ := out
  · cases h
  obtain ⟨-, rfl⟩ := Prod.mk.inj h
  have hsame : s₃.metrics = s.metrics := (hopen.trans hallocate).trans hcreate
  dsimp only
  rw [hsame]

theorem create_balanced {c : Container}
    (hfresh : s.cluster.pipelines.find? (env.newId s.cluster.pipelines.entries.size) = none)
    (h : create env r s = (.ok c, s')) : Balanced [.ok c] s s' := by
  have hcreated := create_created env r s
  rw [h] at hcreated
  cases hcreated with
  | made _ _ hs => exact .made c hfresh rfl (congrArg _ hs) (create_metrics h)

/-- An attempt in vain counts nothing, and it is not for a setting. -/
theorem create_error (hw : env.Willing) {err : Error} (h : create env r s = (.error err, s')) :
    err.isSetting = false ∧ s.Quiet s' := by
  have hcreated := create_created env r s
  rw [h] at hcreated
  obtain ⟨hs, hmembers⟩ := hcreated.of_error hw
  refine ⟨?_, congrArg _ hs, ?_⟩
  · rcases Placement.choose_eq_error_iff.1 hmembers with ⟨-, rfl⟩ | ⟨-, -, rfl⟩ <;> rfl
  · -- The members are wanting at the first call, and no other is made.
    have hcall : Session.create env r.scheme r.exclude.nodes.toList [] s = (.error err, _) :=
      Session.call_of_error (hw ..) (congrArg (Except.map _) hmembers)
    simp only [create, hcall] at h
    rw [← (Prod.mk.inj h).2]

/-! ## Requests -/

/-- The last attempt ends the request, and counts how. -/
theorem lastAttempt_balanced (hw : env.Willing)
    (hfresh : s.cluster.pipelines.find? (env.newId s.cluster.pipelines.entries.size) = none)
    (limit : Nat) {first : Option Error} (hfirst : ∀ err ∈ first, err.isSetting = false) :
    let out := lastAttempt env r limit first s
    Balanced [out.1] s out.2 := by
  unfold lastAttempt
  by_cases hroom : openCount s r.scheme < limit
  · rw [if_pos hroom]
    cases hcreate : create env r s with
    | mk res s₁ =>
      cases res with
      | ok c => exact create_balanced hfresh hcreate
      | error err =>
        obtain ⟨hnot, hquiet⟩ := create_error hw hcreate
        exact (Balanced.of_quiet hquiet).trans (.failure hnot s₁)
  · rw [if_neg hroom]
    refine .failure ?_ s
    cases first with
    | none => rfl
    | some err => exact hfirst err rfl

theorem fallBack_balanced (hw : env.Willing)
    (hfresh : s.cluster.pipelines.find? (env.newId s.cluster.pipelines.entries.size) = none)
    (limit : Nat) {first : Option Error} (hfirst : ∀ err ∈ first, err.isSetting = false) :
    let out := a.fallBack env choose r limit first s
    Balanced [out.1] s out.2 := by
  have hopened := Pool.listed_opened s.cluster.pipelines r.scheme
  have hscreen := candidates_balanced r hw hopened
  have hlisted := candidates_listed r hw hopened
  have hscreened := candidates_screened env r (present_opened s.cluster r.scheme)
  unfold fallBack
  generalize candidates env r (s.cluster.pipelines.opened r.scheme) s = out
    at hscreen hlisted hscreened ⊢
  obtain ⟨-, hs⟩ := hscreened
  next ids s₁ =>
  dsimp only at hscreen hlisted ⊢
  rw [← usable] at hlisted ⊢
  have hdrain := drain_balanced a choose r hw (usable s.cluster r).length hlisted
  have hdrained := drain_drained a env choose r (present_of_listed hlisted)
  generalize a.drain env choose r _ _ s₁ = out at hdrain hdrained ⊢
  obtain ⟨_ | c, s₂⟩ := out
  · -- The pool is the one at the start with some pipelines closed.
    cases hdrained with
    | left _ _ _ _ hs' =>
      refine (hscreen.trans hdrain).trans (lastAttempt_balanced hw ?_ limit hfirst)
      rw [hs', hs]
      exact Cluster.fresh_closing (Cluster.fresh_closing hfresh)
  · exact hscreen.trans hdrain

theorem allocateWithin_balanced (a : Allocator) (choose : Chooser) (r : Request)
    (hw : env.Willing)
    (hfresh : s.cluster.pipelines.find? (env.newId s.cluster.pipelines.entries.size) = none)
    (limit : Nat) :
    let out := a.allocateWithin env choose r limit s
    Balanced [out.1] s out.2 := by
  unfold allocateWithin
  split
  · cases hcreate : create env r s with
    | mk res s₁ =>
      cases res with
      | ok c => exact create_balanced hfresh hcreate
      | error err =>
        obtain ⟨hnot, hquiet⟩ := create_error hw hcreate
        have hfresh₁ := hquiet.pipelines.symm ▸ hfresh
        exact (Balanced.of_quiet hquiet).trans (fallBack_balanced hw hfresh₁ _
          fun err' herr => Option.some.inj herr ▸ hnot)
  · exact fallBack_balanced hw hfresh _ nofun

/-- One request, as long as the name of the pipeline that it may make is new.  It counts
nothing if it breaks off. -/
theorem allocate_balanced (a : Allocator) (choose : Chooser) (r : Request) (hw : env.Willing)
    (hfresh : s.cluster.pipelines.find? (env.newId s.cluster.pipelines.entries.size) = none) :
    let out := a.allocate env choose r s
    Balanced out.1.toList s out.2 := by
  cases hvalid : r.scheme.validate with
  | error err =>
    rw [allocate_of_error hvalid]
    refine .invalid ?_ s
    unfold Scheme.validate at hvalid
    split at hvalid
    · cases hvalid
    · obtain rfl := Except.error.inj hvalid
      rfl
  | ok =>
    cases hlimit : a.limit s.cluster.nodes r.scheme with
    | none =>
      rw [allocate_of_unlimited hvalid hlimit]
      exact .refl s
    | some limit =>
      rw [allocate_of_limit hvalid hlimit]
      exact allocateWithin_balanced a choose r hw hfresh limit

/-! ## Runs -/

/-- A request, or something that happens to the nodes or to the containers between
requests. -/
inductive Turn
  | request (env : Environment) (choose : Chooser) (r : Request)
  /-- The nodes change, and some of them may be counted as new. -/
  | nodes (change : Registry → Registry) (registered : Nat)
  | containers (change : Inventory → Inventory)

/-- What comes of a turn: the result if it is a request that has one, and the session after
it. -/
def take (a : Allocator) : Turn → Session → Option (Except Error Container) × Session
  | .request env choose r, s => a.allocate env choose r { s with trace := [] }
  | .nodes change registered, s =>
    (none, { s with
      cluster := { s.cluster with nodes := change s.cluster.nodes }
      metrics := { s.metrics with nodesRegistered := s.metrics.nodesRegistered + registered } })
  | .containers change, s =>
    (none, { s with
      cluster := { s.cluster with containers := change s.cluster.containers } })

/-- The results of the requests of a run, and the session after it. -/
def serve (a : Allocator) : List Turn → Session → List (Except Error Container) × Session
  | [], s => ([], s)
  | t :: ts, s =>
    let (result, s) := a.take t s
    let (results, s) := a.serve ts s
    (result.toList ++ results, s)

/-- If the turn is a request no call of it is refused, and the name of the pipeline that it may
make is new. -/
def Turn.Faultless : Turn → Session → Prop
  | .request env _ _, s =>
    env.Willing ∧ s.cluster.pipelines.find? (env.newId s.cluster.pipelines.entries.size) = none
  | .nodes .., _ | .containers _, _ => True

/-- Every turn of the run is faultless when it comes. -/
def Faultless (a : Allocator) : List Turn → Session → Prop
  | [], _ => True
  | t :: ts, s => t.Faultless s ∧ a.Faultless ts (a.take t s).2

theorem take_balanced (a : Allocator) {t : Turn} (h : t.Faultless s) :
    let out := a.take t s
    Balanced out.1.toList s out.2 := by
  cases t with
  | request env choose r =>
    have hstart : Balanced [] s { s with trace := [] } := .of_quiet ⟨rfl, rfl⟩
    have hrequest := allocate_balanced (s := { s with trace := [] }) a choose r h.1 h.2
    exact hstart.trans hrequest
  | nodes change registered => exact .of_pipelines rfl rfl
  | containers change => exact .of_quiet ⟨rfl, rfl⟩

/-- What a run of requests counts is what it returned and what it did to the pipelines. -/
theorem serve_balanced (a : Allocator) (ts : List Turn) (s : Session) (h : a.Faultless ts s) :
    let out := a.serve ts s
    Balanced out.1 s out.2 := by
  induction ts generalizing s with
  | nil => exact .refl s
  | cons t ts ih => exact (take_balanced a h.1).trans (ih _ h.2)

namespace Sample

def first : Chooser := fun _ => some 0

/-- The first request closes the full pipeline and gets a new one, and the second gets the
container there.  A request that is larger than any container closes that pipeline too, and
gets none as no node is left.  The last one has a scheme that cannot be used. -/
def turns : List Turn :=
  [.request world first request, .request world first request, .nodes (fun _ => ∅) 0,
    .request world first { request with size := 200 }, .request world first strandedRequest]

end Sample

theorem serve_balanced_sample :
    let s : Session := { cluster := Sample.cluster }
    let out := Sample.strict.serve Sample.turns s
    Sample.strict.Faultless Sample.turns s ∧ Balanced out.1 s out.2 ∧
      out.1.map (·.isOk) = [true, true, false, false] ∧
      out.1.map failed = [false, false, true, false] ∧
      s.cluster.pipelines.openTotal = 1 ∧ out.2.cluster.pipelines.openTotal = 0 ∧
      out.2.metrics =
        { pipelinesCreated := 1
          pipelinesClosed := 2
          newAllocations := 1
          reuses := 1
          failures := 1 } := by
  intro s out
  have hw := Sample.world_inMemory.willing
  have hfaultless : Sample.strict.Faultless Sample.turns s :=
    ⟨⟨hw, by decide +kernel⟩, ⟨hw, by decide +kernel⟩, trivial, ⟨hw, by decide +kernel⟩,
      ⟨hw, by decide +kernel⟩, trivial⟩
  exact ⟨hfaultless, serve_balanced Sample.strict Sample.turns s hfaultless, by decide +kernel,
    by decide +kernel, by decide +kernel, by decide +kernel, by decide +kernel⟩

end Allocator

end ControlPlane

import ControlPlane.Proofs.Allocation.Closing

/-!
# When the limit is reached

A request that finds no container and no room for a new pipeline fails with a message
that says two things: the scheme has as many open pipelines as it may have, and no
pipelines were closed.  Only the pipelines that are left are counted, so the first is
always true and the second need not be.

* `Full` is how such a request ends: the useless pipelines are closed, and nothing else has
  changed (`Requested.full`).
* `limitReached_truthful_iff` says when nothing was closed indeed.  It is so unless there
  were more open pipelines than the limit allows, as there may be after nodes were lost.
  `limitReached_untruthful` is a request that closes a pipeline and denies it.
* `limitReached_again`.  The same request made again finds nothing left to close.
-/

namespace ControlPlane.Allocator

variable {a : Allocator} {env : Environment} {choose : Chooser} {k : Cluster} {r : Request}
  {scheme : Scheme} {limit : Nat} {ids : List PipelineId} {s : Session}

/-- The open pipelines of the scheme that can serve nobody any more. -/
def uselessOpen (a : Allocator) (k : Cluster) (r : Request) : List Pipeline :=
  (k.pipelines.opened r.scheme).filter fun q => a.Useless k r q

theorem mem_uselessOpen {q : Pipeline} :
    q ∈ a.uselessOpen k r ↔ q ∈ k.pipelines.opened r.scheme ∧ a.Useless k r q := by
  simp only [uselessOpen, List.mem_filter, decide_eq_true_eq]

/-! ## What the request leaves -/

/-- An exact account names the pipelines that meet the condition. -/
theorem Closes.mem_iff {exact : Prop} {P : Pipeline → Prop} {ps : List Pipeline}
    (h : Closes exact P ps ids) (hexact : exact) {id : PipelineId} :
    id ∈ ids ↔ ∃ q ∈ ps, P q ∧ q.id = id := by
  constructor
  · intro hid
    obtain ⟨q, hq, hid', hP⟩ := h.only id hid
    exact ⟨q, hq, hP hexact, hid'⟩
  · rintro ⟨q, hq, hP, rfl⟩
    exact h.all hexact q hq hP

theorem closes_uselessOpen : Closes True (a.Useless k r) (k.pipelines.opened r.scheme)
    ((a.uselessOpen k r).map (·.id)) := by
  constructor
  · intro id hid
    obtain ⟨q, hq, hid'⟩ := List.mem_map.1 hid
    obtain ⟨hq, huseless⟩ := mem_uselessOpen.1 hq
    exact ⟨q, hq, hid', fun _ => huseless⟩
  · intro _ q hq huseless
    exact List.mem_map_of_mem (mem_uselessOpen.2 ⟨hq, huseless⟩)

/-- A search in vain closes the useless pipelines. -/
theorem Searched.closing_eq (h : Searched a env choose k r ids)
    (hexact : env.Willing ∧ choose.Picks) :
    k.closing ids = k.closing ((a.uselessOpen k r).map (·.id)) := by
  have hids : ∀ id, id ∈ ids ↔ id ∈ (a.uselessOpen k r).map (·.id) := fun id =>
    (h.closes.mem_iff hexact).trans (closes_uselessOpen.mem_iff trivial).symm
  rw [Cluster.closing, Pool.closing_congr hids]
  rfl

/-- What is closed and what is left open add up. -/
theorem opens_add_useless : opens (k.closing ((a.uselessOpen k r).map (·.id))) r.scheme +
    (a.uselessOpen k r).length = opens k r.scheme := by
  have hleft := opens_of_closes (a := a) (k := k) (r := r) closes_uselessOpen trivial
  have hsplit := length_filter_useless (a := a) (k := k) (r := r) (k.pipelines.opened r.scheme)
  have hle := List.length_filter_le (fun q => decide (a.Useless k r q))
    (k.pipelines.opened r.scheme)
  rw [hleft, remaining, opens, uselessOpen, usable]
  omega

/-- None of the pipelines that are left open is useless. -/
theorem uselessOpen_closing :
    a.uselessOpen (k.closing ((a.uselessOpen k r).map (·.id))) r = [] := by
  refine List.eq_nil_iff_forall_not_mem.2 fun q hq => ?_
  obtain ⟨hq, huseless⟩ := mem_uselessOpen.1 hq
  obtain ⟨hopen, hid⟩ := Pool.mem_opened_closing.1 hq
  rw [Useless, vacant_closing, spent_closing] at huseless
  exact hid (List.mem_map_of_mem (mem_uselessOpen.2 ⟨hopen, huseless⟩))

/-- A request that gets to the pipelines has a scheme that can be used. -/
theorem validate_of_limitReached (h : (a.allocate env choose r s).1 =
    some (.error (.allocation (.limitReached scheme limit)))) : r.scheme.validate = .ok () := by
  cases hvalid : r.scheme.validate with
  | ok => rfl
  | error err =>
    rw [allocate_of_error hvalid] at h
    obtain rfl := Except.error.inj (Option.some.inj h)
    unfold Scheme.validate at hvalid
    split at hvalid <;> simp at hvalid

/-- How a request ends that found the limit reached.  No pipeline could serve it, and it did
nothing but close the useless ones. -/
structure Full (a : Allocator) (k : Cluster) (r : Request) (scheme : Scheme) (limit : Nat)
    (k' : Cluster) : Prop where
  valid : r.scheme.validate = .ok ()
  asked : scheme = r.scheme
  allowed : a.limit k.nodes r.scheme = some limit
  serving : ∀ q ∈ usable k r, ¬a.Serving k r q
  cluster : k' = k.closing ((a.uselessOpen k r).map (·.id))
  reached : limit ≤ opens k' r.scheme

theorem Requested.full (henv : env.InMemory) (hpicks : choose.Picks)
    (hvalid : r.scheme.validate = .ok ()) {err : Error}
    (h : Requested a env choose k r (some (.error err), s))
    (herr : err = .allocation (.limitReached scheme limit)) :
    Full a k r scheme limit s.cluster := by
  have hexact : env.Willing ∧ choose.Picks := ⟨henv.willing, hpicks⟩
  cases h with
  | invalid hfault =>
    rw [hvalid] at hfault
    simp at hfault
  | fellBack hlimit hfirst hback =>
    obtain rfl := hfirst.cluster henv.willing
    cases hback with
    | full hsearched hfull hs =>
      rw [hfirst.eq_none (Nat.le_trans hfull Pool.length_opened_closing_le)] at herr
      simp only [Option.getD_none, Error.allocation.injEq,
        AllocationFault.limitReached.injEq] at herr
      obtain ⟨rfl, rfl⟩ := herr
      exact ⟨hvalid, rfl, hlimit, hsearched.serving hexact, hs.trans (hsearched.closing_eq hexact),
        hs ▸ hfull⟩
    | again _ _ hcreated =>
      rw [(hcreated.error henv hvalid).2] at herr
      simp at herr

theorem allocate_full (henv : env.InMemory) (hpicks : choose.Picks)
    (herr : (a.allocate env choose r s).1 =
      some (.error (.allocation (.limitReached scheme limit)))) :
    Full a s.cluster r scheme limit (a.allocate env choose r s).2.cluster := by
  have hvalid := validate_of_limitReached herr
  have hrequested := allocate_requested a env choose r s
  generalize a.allocate env choose r s = out at hrequested herr ⊢
  obtain ⟨res, s'⟩ := out
  obtain rfl : res = some (.error (.allocation (.limitReached scheme limit))) := herr
  exact hrequested.full henv hpicks hvalid rfl

/-! ## What the message says -/

/-- The message is right about the limit.  It is right that nothing was closed just if no
open pipeline was useless, and then nothing has changed at all; this is so if the scheme
had no more open pipelines than the limit.  Otherwise the useless pipelines were closed
and nothing else has changed. -/
theorem limitReached_truthful_iff (henv : env.InMemory) (policy : Policy)
    (draws : List Pipeline → Nat × Nat) (r : Request) (s : Session)
    (herr : (a.allocate env (policy.chooser s.cluster.nodes draws) r s).1 =
      some (.error (.allocation (.limitReached scheme limit)))) :
    let k := s.cluster
    let k' := (a.allocate env (policy.chooser k.nodes draws) r s).2.cluster
    scheme = r.scheme ∧ a.limit k.nodes r.scheme = some limit ∧ limit ≤ opens k' r.scheme ∧
    k' = k.closing ((a.uselessOpen k r).map (·.id)) ∧
    opens k' r.scheme + (a.uselessOpen k r).length = opens k r.scheme ∧
    ((∀ q, ¬k.Retires k' q) ↔ k' = k) ∧ (k' = k ↔ a.uselessOpen k r = []) ∧
    (opens k r.scheme ≤ limit → k' = k) := by
  intro k k'
  have hfull : Full a k r scheme limit k' :=
    allocate_full henv (policy.chooser_picks k.nodes draws) herr
  clear_value k'
  have hcount : opens k' r.scheme + (a.uselessOpen k r).length = opens k r.scheme := by
    rw [hfull.cluster]
    exact opens_add_useless
  have hsame : a.uselessOpen k r = [] → k' = k := fun hnone => by
    rw [hfull.cluster, hnone]
    rfl
  have hretires : (∀ q, ¬k.Retires k' q) → a.uselessOpen k r = [] := fun hnone => by
    refine List.eq_nil_iff_forall_not_mem.2 fun q hq => hnone q ?_
    have hopen := (mem_uselessOpen.1 hq).1
    rw [hfull.cluster, retires_closing_iff, (Pool.mem_opened.1 hopen).2.1]
    exact ⟨hopen, List.mem_map_of_mem hq⟩
  have hnone : k' = k → ∀ q, ¬k.Retires k' q := fun hk q => by
    rw [hk]
    exact not_retires_self
  have hlimit := hfull.reached
  refine ⟨hfull.asked, hfull.allowed, hlimit, hfull.cluster, hcount, ⟨hsame ∘ hretires, hnone⟩,
    ⟨hretires ∘ hnone, hsame⟩, fun hle => hsame (List.eq_nil_of_length_eq_zero ?_)⟩
  omega

namespace Sample

/-- A second open pipeline, without containers. -/
def idle : Pipeline := { pipeline with id := ⟨.ofNat 8⟩ }

def crowded : Cluster := { cluster with pipelines := cluster.pipelines.put { pipeline := idle } }

/-- A request that leaves the container of the first pipeline alone. -/
def evasive : Request :=
  { request with exclude := { containers := (∅ : SortedSet _).insert full.id } }

end Sample

/-- At the limit nothing is closed. -/
theorem limitReached_truthful_iff_sample :
    let out := Sample.strict.allocate Sample.world
      (Policy.random.chooser Sample.cluster.nodes fun _ => (0, 0)) Sample.evasive
      { cluster := Sample.cluster }
    out.1 = some (.error (.allocation (.limitReached (.ratis .one) 1))) ∧
      out.2.cluster = Sample.cluster := by
  intro out
  have herr : out.1 = some (.error (.allocation (.limitReached (.ratis .one) 1))) := by
    decide +kernel
  have htruthful := limitReached_truthful_iff Sample.world_inMemory .random (fun _ => (0, 0))
    Sample.evasive { cluster := Sample.cluster } herr
  have hopens : opens Sample.cluster (.ratis .one) ≤ 1 := by decide +kernel
  exact ⟨herr, htruthful.2.2.2.2.2.2.2 hopens⟩

/-- With one pipeline more than the limit allows, the request closes the idle one and says
that it closed none. -/
theorem limitReached_untruthful :
    let out := Sample.strict.allocate Sample.world
      (Policy.random.chooser Sample.crowded.nodes fun _ => (0, 0)) Sample.evasive
      { cluster := Sample.crowded }
    out.1 = some (.error (.allocation (.limitReached (.ratis .one) 1))) ∧
      Sample.crowded.Retires out.2.cluster Sample.idle := by
  intro out
  have hopened : Sample.crowded.pipelines.opened (.ratis .one) =
      [Sample.pipeline, Sample.idle] := List.mergeSort_of_pairwise (by decide +kernel)
  have hout : out.1 = some (.error (.allocation (.limitReached (.ratis .one) 1))) ∧
      (out.2.cluster.pipelines.find? Sample.idle.id).map (·.pipeline.state) = some .closed := by
    -- Sorting the two pipelines does not reduce, so they are put in by hand.
    simp only [out, allocate, allocateWithin, fallBack, openCount, Sample.evasive, Sample.request,
      hopened]
    decide +kernel
  have hidle : Sample.idle ∈ Sample.crowded.pipelines.opened Sample.idle.scheme := by
    rw [show Sample.idle.scheme = .ratis .one from rfl, hopened]
    exact List.mem_cons_of_mem _ List.mem_cons_self
  exact ⟨hout.1, hidle, Option.map_eq_some_iff.1 hout.2⟩

/-! ## The request made again -/

/-- A request that nobody can serve and that finds nothing to close changes nothing. -/
theorem Requested.of_settled (henv : env.InMemory) (hpicks : choose.Picks)
    (hvalid : r.scheme.validate = .ok ()) {out : Ending × Session}
    (h : Requested a env choose k r out) (hserving : ∀ q ∈ usable k r, ¬a.Serving k r q)
    (huseless : a.uselessOpen k r = []) (hlimit : a.limit k.nodes r.scheme = some limit)
    (hfull : limit ≤ opens k r.scheme) :
    out.1 = some (.error (.allocation (.limitReached r.scheme limit))) ∧ out.2.cluster = k := by
  have hclosing {ids : List PipelineId} (hsearched : Searched a env choose k r ids) :
      k.closing ids = k := by
    rw [hsearched.closing_eq ⟨henv.willing, hpicks⟩, huseless]
    rfl
  rcases h.of_limit hvalid hlimit with
    ⟨c, s, rfl, hroom, -⟩ | ⟨first, k', result, s, rfl, hfirst, hback⟩
  · exact (Nat.not_lt.2 hfull hroom).elim
  · obtain rfl := hfirst.cluster henv.willing
    cases hback with
    | reused hfound => exact (hserving _ hfound.usable hfound.serves.serving).elim
    | full hsearched _ hs =>
      rw [hfirst.eq_none hfull]
      exact ⟨rfl, hs.trans (hclosing hsearched)⟩
    | again hsearched hroom =>
      rw [hclosing hsearched] at hroom
      exact (Nat.not_lt.2 hfull hroom).elim

/-- Made again, the request fails in the same way, and now it is true that nothing was
closed. -/
theorem limitReached_again (henv : env.InMemory) (policy policy' : Policy)
    (draws draws' : List Pipeline → Nat × Nat) (r : Request) (s : Session)
    (herr : (a.allocate env (policy.chooser s.cluster.nodes draws) r s).1 =
      some (.error (.allocation (.limitReached scheme limit)))) :
    let s' := (a.allocate env (policy.chooser s.cluster.nodes draws) r s).2
    let again := a.allocate env (policy'.chooser s'.cluster.nodes draws') r s'
    again.1 = some (.error (.allocation (.limitReached scheme limit))) ∧
      again.2.cluster = s'.cluster := by
  intro s' again
  have hfull : Full a s.cluster r scheme limit s'.cluster :=
    allocate_full henv (policy.chooser_picks s.cluster.nodes draws) herr
  have hrequested : Requested a env (policy'.chooser s'.cluster.nodes draws') s'.cluster r again :=
    allocate_requested a env _ r s'
  have hnodes : s'.cluster.nodes = s.cluster.nodes := by
    rw [hfull.cluster]
    rfl
  have hserving : ∀ q ∈ usable s'.cluster r, ¬a.Serving s'.cluster r q := by
    intro q hq
    obtain ⟨hopen, husable⟩ := mem_usable.1 hq
    rw [hfull.cluster] at hopen ⊢
    rw [serving_closing]
    exact hfull.serving q (mem_usable.2 ⟨(Pool.mem_opened_closing.1 hopen).1, husable⟩)
  have huseless : a.uselessOpen s'.cluster r = [] := by
    rw [hfull.cluster]
    exact uselessOpen_closing
  have hlimit : a.limit s'.cluster.nodes r.scheme = some limit := by
    rw [hnodes]
    exact hfull.allowed
  obtain ⟨hres, hcluster⟩ := hrequested.of_settled henv
    (policy'.chooser_picks s'.cluster.nodes draws') hfull.valid hserving huseless hlimit
    hfull.reached
  rw [hres, hfull.asked]
  exact ⟨rfl, hcluster⟩

end ControlPlane.Allocator

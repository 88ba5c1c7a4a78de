import ControlPlane.Proofs.Allocation.Outcome

/-!
# Which pipelines a request closes

A request over collaborators in memory closes pipelines of its own scheme only, and
of those only the ones that can serve nobody any more.  There are four groups.

* `Retires` compares the states of one pipeline before and after.  The lemmas on it
  say what closing, handing out a container and adding a pipeline do to it.
* The stages.  Making a pipeline closes none (`Created.retires`), and a search in
  vain closes every useless one (`Searched.retires`).
* `Useless.of_allKnown`.  A container that is excluded, or that has room, keeps its
  pipeline open as long as the pipeline lists no container that is not known.
* `allocate_closings` puts the stages together.  A request that fails has closed all
  that it could, unless its scheme cannot be used.  Such a request is refused before it
  looks at any pipeline (`allocate_of_error`), and leaves the cluster as it was, also
  with a pipeline in it that could be closed (`failed_closes_not_all`).
-/

namespace ControlPlane

/-- The pipeline was open in the one cluster and is closed in the other. -/
structure Cluster.Retires (k k' : Cluster) (q : Pipeline) : Prop where
  opened : q ∈ k.pipelines.opened q.scheme
  closed : ∃ e, k'.pipelines.find? q.id = some e ∧ e.pipeline.state = .closed

namespace Allocator

variable {a : Allocator} {env : Environment} {choose : Chooser} {k k' : Cluster} {r : Request}
  {q : Pipeline} {ids : List PipelineId} {out : Except Error Container × Session}

/-! ## Pipelines that turn closed -/

theorem not_retires_of_open {e : Pool.Entry} (hfind : k'.pipelines.find? q.id = some e)
    (hopen : e.pipeline.state = .opened) : ¬k.Retires k' q := by
  rintro ⟨-, e', hfind', hclosed⟩
  rw [hfind] at hfind'
  rw [← Option.some.inj hfind', hopen] at hclosed
  simp at hclosed

theorem retires_closing_iff :
    k.Retires (k.closing ids) q ↔ q ∈ k.pipelines.opened q.scheme ∧ q.id ∈ ids := by
  constructor
  · intro h
    refine ⟨h.opened, Decidable.not_not.1 fun hid => ?_⟩
    obtain ⟨⟨cs, hfind⟩, -, hopen⟩ := Pool.mem_opened.1 h.opened
    exact not_retires_of_open ((Pool.find?_closing.trans (if_neg hid)).trans hfind) hopen h
  · rintro ⟨hq, hid⟩
    obtain ⟨⟨cs, hfind⟩, -⟩ := Pool.mem_opened.1 hq
    refine ⟨hq, Pool.Entry.close ⟨q, cs⟩, ?_, rfl⟩
    exact (Pool.find?_closing.trans (if_pos hid)).trans (congrArg _ hfind)

theorem not_retires_self : ¬k.Retires k q := by
  intro h
  have hclosing : k.Retires (k.closing []) q := h
  exact List.not_mem_nil (retires_closing_iff.1 hclosing).2

theorem retires_handing_iff {id : ContainerId} {now : Instant} :
    k.Retires (k'.handing id now) q ↔ k.Retires k' q :=
  ⟨fun h => ⟨h.opened, h.closed⟩, fun h => ⟨h.opened, h.closed⟩⟩

/-- A new open pipeline takes the place of none, unless it has the identifier of one. -/
theorem retires_started_iff {e : Pool.Entry} {containers : Inventory}
    (hopen : e.pipeline.state = .opened) :
    k.Retires (k'.started e containers) q ↔ k.Retires k' q ∧ e.pipeline.id ≠ q.id := by
  have hfind : (k'.started e containers).pipelines.find? q.id =
      if e.pipeline.id = q.id then some e else k'.pipelines.find? q.id := Pool.find?_put
  by_cases hid : e.pipeline.id = q.id
  · rw [if_pos hid] at hfind
    exact iff_of_false (not_retires_of_open hfind hopen) fun h => h.2 hid
  · rw [if_neg hid] at hfind
    constructor
    · rintro ⟨hq, e', he', hclosed⟩
      exact ⟨⟨hq, e', hfind ▸ he', hclosed⟩, hid⟩
    · rintro ⟨⟨hq, e', he', hclosed⟩, -⟩
      exact ⟨hq, e', hfind.trans he', hclosed⟩

/-! ## The stages of a request -/

/-- Making a pipeline closes none. -/
theorem Created.retires (hw : env.Willing) (h : Created env k' r out)
    (hq : k.Retires out.2.cluster q) : k.Retires k' q := by
  cases h with
  | failed _ hs => exact hs ▸ hq
  | abandoned href => exact (hw.not_refuses _ href).elim
  | made _ _ hs =>
    rw [hs] at hq
    exact ((retires_started_iff rfl).1 hq).1

/-- It reopens none either, as long as its identifier is new. -/
theorem Created.retires_of_closing (hw : env.Willing)
    (hnew : k'.pipelines.find? (env.newId k'.pipelines.entries.size) = none)
    (h : Created env k' r out) (hq : k.Retires k' q) : k.Retires out.2.cluster q := by
  cases h with
  | failed _ hs => exact hs.symm ▸ hq
  | abandoned href => exact (hw.not_refuses _ href).elim
  | made _ _ hs =>
    rw [hs]
    refine (retires_started_iff rfl).2 ⟨hq, fun hid => ?_⟩
    obtain ⟨e, he, -⟩ := hq.closed
    rw [← hid] at he
    exact Option.some_ne_none _ (he.symm.trans hnew)

/-- In memory it depends on the members only whether a pipeline can be made. -/
theorem create_eq_ok (hw : env.Willing) {members : List NodeId} {s : Session}
    (h : membersFor env s.cluster r = .ok members) : ∃ c s', create env r s = (.ok c, s') := by
  have hcreated := create_created env r s
  generalize create env r s = out at hcreated ⊢
  obtain ⟨res, s'⟩ := out
  cases res with
  | ok c => exact ⟨c, s', rfl⟩
  | error err =>
    have hmembers := (hcreated.of_error hw).2
    rw [h] at hmembers
    simp at hmembers

/-- Every pipeline that the request closes is useless to it. -/
theorem Requested.retires {out : Ending × Session} (hw : env.Willing) (hpicks : choose.Picks)
    (h : Requested a env choose k r out) (hq : k.Retires out.2.cluster q) :
    q.scheme = r.scheme ∧ a.Useless k r q := by
  -- An account of closed pipelines has `q` on it, and no other pipeline under its name.
  have hfound {ids : List PipelineId} (hretires : k.Retires (k.closing ids) q)
      (hids : ∀ id ∈ ids, ∃ p ∈ k.pipelines.opened r.scheme, p.id = id ∧ a.Useless k r p) :
      q.scheme = r.scheme ∧ a.Useless k r q := by
    obtain ⟨hopened, hid⟩ := retires_closing_iff.1 hretires
    obtain ⟨p, hp, hpq, huseless⟩ := hids q.id hid
    obtain rfl := Pool.eq_of_mem_opened hp hopened hpq
    exact ⟨(Pool.mem_opened.1 hp).2.1, huseless⟩
  have hsearch {ids : List PipelineId} (hsearched : Searched a env choose k r ids) :
      ∀ id ∈ ids, ∃ p ∈ k.pipelines.opened r.scheme, p.id = id ∧ a.Useless k r p := by
    intro id hid
    obtain ⟨p, hp, hpid, huseless⟩ := hsearched.closes.only id hid
    exact ⟨p, hp, hpid, huseless ⟨hw, hpicks⟩⟩
  cases h with
  | invalid _ hs | brokenOff _ hs => exact (not_retires_self (hs ▸ hq)).elim
  | created _ _ hcreated => exact (not_retires_self (hcreated.retires hw hq)).elim
  | fellBack _ hfirst hback =>
    obtain rfl := hfirst.cluster hw
    cases hback with
    | reused hreused hs =>
      rw [hs, retires_handing_iff] at hq
      refine hfound hq fun id hid => ?_
      obtain ⟨p, hp, hpid, hother⟩ := hreused.closes id hid
      exact ⟨p, hp, hpid, (hother hw).2⟩
    | full hsearched _ hs => exact hfound (hs ▸ hq) (hsearch hsearched)
    | again hsearched _ hcreated => exact hfound (hcreated.retires hw hq) (hsearch hsearched)

/-- A search in vain closes every useless pipeline. -/
theorem Searched.retires (hw : env.Willing) (hpicks : choose.Picks)
    (h : Searched a env choose k r ids) (hq : q ∈ k.pipelines.opened r.scheme)
    (huseless : a.Useless k r q) : k.Retires (k.closing ids) q := by
  have hscheme := (Pool.mem_opened.1 hq).2.1
  exact retires_closing_iff.2 ⟨hscheme.symm ▸ hq, h.closes.all ⟨hw, hpicks⟩ q hq huseless⟩

/-! ## Known containers -/

/-- Every container that the pipeline lists is known. -/
def AllKnown (k : Cluster) (p : Pipeline) : Prop :=
  ∀ id ∈ (k.pipelines.bound p.id).toList, (k.containers.find? id).isSome = true

/-- A useless pipeline whose containers are known lists none that is excluded and
none with room. -/
theorem Useless.of_allKnown {p : Pipeline} (h : a.Useless k r p) (hknown : AllKnown k p) :
    ∀ id ∈ (k.pipelines.bound p.id).toList,
      r.exclude.excludesContainer id = false ∧ ¬a.Fits k r id := by
  intro id hid
  rcases h with ⟨-, hempty⟩ | ⟨-, ⟨j, hj, -, hunknown, -⟩ | hall⟩
  · rw [List.isEmpty_iff.1 hempty] at hid
    simp at hid
  · have hfound := hknown j hj
    rw [hunknown] at hfound
    simp at hfound
  · exact hall id hid

/-! ## What a request closes -/

/-- The first attempt to make a pipeline is due, and it succeeds. -/
def FirstServes (a : Allocator) (env : Environment) (r : Request) (s : Session) : Prop :=
  ∃ limit, a.limit s.cluster.nodes r.scheme = some limit ∧ openCount s r.scheme < limit ∧
    ∃ c s', create env r s = (.ok c, s')

/-- A pipeline was made, under a name that was new. -/
def Adds (env : Environment) (k k' : Cluster) : Prop :=
  k.pipelines.find? (env.newId k.pipelines.entries.size) = none ∧
    k'.pipelines.find? (env.newId k.pipelines.entries.size) ≠ none

/-- What a request closes, by its start, its ending and the cluster after it. -/
structure Closings (a : Allocator) (env : Environment) (r : Request) (s : Session)
    (ending : Ending) (k' : Cluster) : Prop where
  /-- A request whose scheme cannot be used is refused for that, and nothing is closed or
  changed otherwise. -/
  refused : ∀ err, r.scheme.validate = .error err →
    ending = some (.error err) ∧ k' = s.cluster
  /-- Nor is it by a request that breaks off. -/
  brokenOff : ending = none → k' = s.cluster
  /-- Only pipelines that can serve nobody any more are closed. -/
  useless : ∀ q, s.cluster.Retires k' q → q.scheme = r.scheme ∧ a.Useless s.cluster r q
  /-- None is closed if the first attempt serves. -/
  first : a.FirstServes env r s → ∀ q, ¬s.cluster.Retires k' q
  /-- All of them are closed if the request fails, though not for its scheme. -/
  failed : r.scheme.validate = .ok () → (∃ err, ending = some (.error err)) →
    ∀ q ∈ s.cluster.pipelines.opened r.scheme, a.Useless s.cluster r q → s.cluster.Retires k' q
  /-- They are closed too if a pipeline is made by the last attempt only. -/
  last : Adds env s.cluster k' → ¬a.FirstServes env r s →
    ∀ q ∈ s.cluster.pipelines.opened r.scheme, a.Useless s.cluster r q → s.cluster.Retires k' q
  /-- A pipeline that lists known containers only stays open if one of them has room
  or is excluded. -/
  known : ∀ q, s.cluster.Retires k' q → AllKnown s.cluster q →
    ∀ id ∈ (s.cluster.pipelines.bound q.id).toList,
      r.exclude.excludesContainer id = false ∧ ¬a.Fits s.cluster r id

theorem Created.firstServes (hw : env.Willing) {limit : Nat} {s s' : Session} {c : Container}
    (hlimit : a.limit s.cluster.nodes r.scheme = some limit)
    (hroom : opens s.cluster r.scheme < limit)
    (h : Created env s.cluster r (.ok c, s')) : a.FirstServes env r s := by
  cases h with
  | made hmembers => exact ⟨limit, hlimit, hroom, create_eq_ok hw hmembers⟩

/-- A request of a scheme that can be used fails only after it closed all it could. -/
theorem Requested.retires_of_error (hw : env.Willing) (hpicks : choose.Picks)
    (hvalid : r.scheme.validate = .ok ()) {err : Error} {s : Session}
    (h : Requested a env choose k r (some (.error err), s))
    (hq : q ∈ k.pipelines.opened r.scheme)
    (huseless : a.Useless k r q) : k.Retires s.cluster q := by
  cases h with
  | invalid hfault =>
    rw [hvalid] at hfault
    simp at hfault
  | fellBack _ hfirst hback =>
    obtain rfl := hfirst.cluster hw
    cases hback with
    | full hsearched _ hs => exact hs ▸ hsearched.retires hw hpicks hq huseless
    | again hsearched _ hcreated =>
      rw [(hcreated.of_error hw).1]
      exact hsearched.retires hw hpicks hq huseless

/-- So does one that makes a pipeline, if not by its first attempt. -/
theorem Requested.retires_of_made (hw : env.Willing) (hpicks : choose.Picks) {s : Session}
    {out : Ending × Session} (h : Requested a env choose s.cluster r out)
    (hnot : ¬a.FirstServes env r s)
    (hadds : Adds env s.cluster out.2.cluster)
    (hq : q ∈ s.cluster.pipelines.opened r.scheme) (huseless : a.Useless s.cluster r q) :
    s.cluster.Retires out.2.cluster q := by
  obtain ⟨hnew, hmade⟩ := hadds
  cases h with
  | invalid _ hs | brokenOff _ hs => exact (hmade (hs ▸ hnew)).elim
  | created hlimit hroom hcreated =>
    exact (hnot (hcreated.firstServes hw hlimit hroom)).elim
  | fellBack _ hfirst hback =>
    obtain hsame := hfirst.cluster hw
    rw [hsame] at hback
    cases hback with
    | reused _ hs =>
      -- The pipeline was there before, and no other was made.
      refine (hmade ?_).elim
      rw [hs]
      exact Pool.find?_closing_eq_none.2 hnew
    | full hsearched _ hs => exact hs ▸ hsearched.retires hw hpicks hq huseless
    | again hsearched _ hcreated =>
      exact hcreated.retires_of_closing hw (Cluster.fresh_closing hnew)
        (hsearched.retires hw hpicks hq huseless)

theorem allocate_closings (henv : env.InMemory) (policy : Policy)
    (draws : List Pipeline → Nat × Nat) (r : Request) (s : Session) :
    let out := a.allocate env (policy.chooser s.cluster.nodes draws) r s
    Closings a env r s out.1 out.2.cluster := by
  intro out
  have hw := henv.willing
  have hpicks := policy.chooser_picks s.cluster.nodes draws
  have hrequested : Requested a env _ s.cluster r out := allocate_requested a env _ r s
  have hrefused (err : Error) (hfault : r.scheme.validate = .error err) :
      out = (some (.error err), s) := allocate_of_error hfault s
  refine ⟨fun err hfault => ?_, fun hnone => ?_, fun q => hrequested.retires hw hpicks,
    ?_, ?_, ?_, fun q hq => (hrequested.retires hw hpicks hq).2.of_allKnown⟩
  · rw [hrefused err hfault]
    exact ⟨rfl, rfl⟩
  · exact congrArg Session.cluster (allocate_unchanged hnone)
  · rintro ⟨limit, hlimit, hroom, c, s', hcreate⟩ q hq
    cases hvalid : r.scheme.validate with
    | error err => exact not_retires_self (hrefused err hvalid ▸ hq)
    | ok =>
      have hout : out = (some (.ok c), s') := allocate_of_create hvalid hlimit hroom hcreate
      have hcreated := create_created env r s
      rw [hcreate] at hcreated
      rw [hout] at hq
      exact not_retires_self (hcreated.retires hw hq)
  · rintro hvalid ⟨err, herr⟩ q hq huseless
    rw [show out = (some (.error err), out.2) from Prod.ext herr rfl] at hrequested
    exact hrequested.retires_of_error hw hpicks hvalid hq huseless
  · intro hadds hnot q hq huseless
    exact hrequested.retires_of_made hw hpicks hnot hadds hq huseless

/-! ## A request that closes, and one that closes nothing -/

namespace Sample

/-- The allocator that allows the one pipeline that is there. -/
def strict : Allocator := { allocator with minPipelines := 1 }

/-- A pipeline of a scheme that cannot be used, without containers. -/
def stranded : Pipeline := { pipeline with scheme := .ec 0 1 }

def strandedCluster : Cluster :=
  { cluster with pipelines := (∅ : Pool).put { pipeline := stranded } }

def strandedRequest : Request :=
  { request with
    scheme := .ec 0 1
    exclude := { pipelines := (∅ : SortedSet _).insert stranded.id } }

end Sample

/-- The full pipeline makes room for a new one. -/
theorem allocate_closings_sample :
    Sample.cluster.Retires (Sample.strict.allocate Sample.world
      (Policy.healthy.chooser Sample.cluster.nodes fun _ => (0, 0)) Sample.request
      { cluster := Sample.cluster }).2.cluster Sample.pipeline := by
  have hclosings := allocate_closings (a := Sample.strict) Sample.world_inMemory .healthy
    (fun _ => (0, 0)) Sample.request { cluster := Sample.cluster }
  have hadds : Adds Sample.world Sample.cluster (Sample.strict.allocate Sample.world
      (Policy.healthy.chooser Sample.cluster.nodes fun _ => (0, 0)) Sample.request
      { cluster := Sample.cluster }).2.cluster := ⟨by decide, by decide +kernel⟩
  have hlimit : Sample.strict.limit Sample.cluster.nodes Sample.request.scheme = some 1 := by
    decide +kernel
  have hfull : ¬openCount { cluster := Sample.cluster } Sample.request.scheme < 1 := by
    decide +kernel
  refine hclosings.last hadds ?_ Sample.pipeline (by decide +kernel) (by decide)
  rintro ⟨limit, hsome, hroom, -⟩
  obtain rfl := Option.some.inj (hlimit.symm.trans hsome)
  exact hfull hroom

/-- The pipeline is excluded and empty, and stays open, as its scheme cannot be used. -/
theorem failed_closes_not_all :
    ¬∀ (policy : Policy) (draws : List Pipeline → Nat × Nat) (r : Request) (s : Session),
      let out := Sample.strict.allocate Sample.world (policy.chooser s.cluster.nodes draws) r s
      (∃ err, out.1 = some (.error err)) → ∀ q ∈ s.cluster.pipelines.opened r.scheme,
        Sample.strict.Useless s.cluster r q → s.cluster.Retires out.2.cluster q := by
  intro hall
  have hretires := hall .random (fun _ => (0, 0)) Sample.strandedRequest
    { cluster := Sample.strandedCluster } ⟨_, rfl⟩ Sample.stranded (by decide +kernel) (by decide)
  exact not_retires_self hretires

end Allocator

end ControlPlane

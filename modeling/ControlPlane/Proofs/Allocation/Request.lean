import ControlPlane.Proofs.Allocation.Create

/-!
# What may come of a request

A request goes through at most three stages: a first attempt to make a pipeline,
the search through the open pipelines, and a last attempt to make one.
`allocate_requested` says which of them a request went through, what each did to
the cluster, and which of them the result is from.  Properties of requests are
read off it case by case.
-/

namespace ControlPlane.Allocator

variable {a : Allocator} {env : Environment} {choose : Chooser} {k : Cluster} {r : Request}

/-- The number of open pipelines of a scheme. -/
def opens (k : Cluster) (scheme : Scheme) : Nat := (k.pipelines.opened scheme).length

/-- The open pipelines of the scheme that the request may use. -/
def usable (k : Cluster) (r : Request) : List Pipeline :=
  (k.pipelines.opened r.scheme).filter fun q => !r.exclude.excludesPipeline q

theorem mem_usable {p : Pipeline} :
    p ∈ usable k r ↔ p ∈ k.pipelines.opened r.scheme ∧ r.exclude.excludesPipeline p = false := by
  simp only [usable, List.mem_filter, Bool.not_eq_true']

theorem usable_nodup (k : Cluster) (r : Request) : (usable k r).Nodup :=
  (Pool.opened_nodup _ _).filter _

/-- The pipeline can serve nobody any more: it is vacant, or the request may use
it and it is spent. -/
def Useless (a : Allocator) (k : Cluster) (r : Request) (p : Pipeline) : Prop :=
  Vacant k r p ∨ r.exclude.excludesPipeline p = false ∧ a.Spent k r p

instance (p : Pipeline) : Decidable (a.Useless k r p) := inferInstanceAs (Decidable (_ ∨ _))

/-! ## The search -/

/-- The search through the open pipelines gave nothing and closed some.  The account
is exact if nothing is refused and the chooser picks. -/
structure Searched (a : Allocator) (env : Environment) (choose : Chooser) (k : Cluster)
    (r : Request) (ids : List PipelineId) : Prop where
  serving : env.Willing ∧ choose.Picks → ∀ q ∈ usable k r, ¬a.Serving k r q
  closes : Closes (env.Willing ∧ choose.Picks) (a.Useless k r) (k.pipelines.opened r.scheme) ids

/-- The search gave a container of a pipeline, after others were closed. -/
structure Found (a : Allocator) (env : Environment) (k : Cluster) (r : Request) (p : Pipeline)
    (c : Container) (ids : List PipelineId) : Prop where
  usable : p ∈ usable k r
  serves : a.Serves k r p c
  closes : ∀ id ∈ ids, ∃ q ∈ k.pipelines.opened r.scheme, q.id = id ∧
    (env.Willing → q ≠ p ∧ a.Useless k r q)

/-- A search closes open pipelines only. -/
theorem Searched.opened {ids : List PipelineId} (h : Searched a env choose k r ids) :
    ∀ id ∈ ids, ∃ q ∈ k.pipelines.opened r.scheme, q.id = id := fun id hid =>
  (h.closes.only id hid).imp fun _ hq => ⟨hq.1, hq.2.1⟩

theorem Found.opened {p : Pipeline} {c : Container} {ids : List PipelineId}
    (h : Found a env k r p c ids) :
    ∀ id ∈ ids, ∃ q ∈ k.pipelines.opened r.scheme, q.id = id := fun id hid =>
  (h.closes id hid).imp fun _ hq => ⟨hq.1, hq.2.1⟩

/-- The pipelines that were closed are the vacant ones and the spent ones that the
request may use. -/
theorem closes_useless {exact : Prop} {ids ids' : List PipelineId}
    (h : Closes exact (Vacant k r) (k.pipelines.opened r.scheme) ids)
    (h' : Closes exact (a.Spent k r) (usable k r) ids') :
    Closes exact (a.Useless k r) (k.pipelines.opened r.scheme) (ids ++ ids') := by
  refine ⟨fun id hid => ?_, fun hw q hq huseless => List.mem_append.2 ?_⟩
  · rcases List.mem_append.1 hid with hid | hid
    · obtain ⟨q, hq, hq', hvacant⟩ := h.only id hid
      exact ⟨q, hq, hq', fun hw => .inl (hvacant hw)⟩
    · obtain ⟨q, hq, hq', hspent⟩ := h'.only id hid
      obtain ⟨hqopen, husable⟩ := mem_usable.1 hq
      exact ⟨q, hqopen, hq', fun hw => .inr ⟨husable, hspent hw⟩⟩
  · rcases huseless with hvacant | ⟨husable, hspent⟩
    · exact .inl (h.all hw q hq hvacant)
    · exact .inr (h'.all hw q (mem_usable.2 ⟨hq, husable⟩) hspent)

theorem found_of_drained {tried rest : List Pipeline} {p : Pipeline} {c : Container}
    {ids ids' : List PipelineId}
    (hids : Closes env.Willing (Vacant k r) (k.pipelines.opened r.scheme) ids)
    (hps : (tried ++ p :: rest).Perm (usable k r))
    (hids' : Closes env.Willing (a.Spent (k.closing ids) r) tried ids')
    (hserves : a.Serves (k.closing ids) r p c) : Found a env k r p c (ids ++ ids') := by
  have hp : p ∈ usable k r := hps.subset (List.mem_append_right _ List.mem_cons_self)
  have husable := (mem_usable.1 hp).2
  refine ⟨hp, serves_closing hserves, fun id hid => ?_⟩
  rcases List.mem_append.1 hid with hid | hid
  · obtain ⟨q, hq, hq', hvacant⟩ := hids.only id hid
    refine ⟨q, hq, hq', fun hw => ⟨?_, .inl (hvacant hw)⟩⟩
    rintro rfl
    rw [(hvacant hw).1] at husable
    simp at husable
  · obtain ⟨q, hq, hq', hspent⟩ := hids'.only id hid
    obtain ⟨hqopen, hqusable⟩ := mem_usable.1 (hps.subset (List.mem_append_left _ hq))
    -- What was tried before `p` is not `p`.
    have hne : q ≠ p := by
      rintro rfl
      have hnodup := hps.nodup_iff.2 (usable_nodup k r)
      exact (List.nodup_append.1 hnodup).2.2 q hq q List.mem_cons_self rfl
    exact ⟨q, hqopen, hq', fun hw => ⟨hne, .inr ⟨hqusable, spent_closing.1 (hspent hw)⟩⟩⟩

theorem searched_of_drained {tried rest : List Pipeline} {ids ids' : List PipelineId}
    (hids : Closes env.Willing (Vacant k r) (k.pipelines.opened r.scheme) ids)
    (hps : (tried ++ rest).Perm (usable k r)) (hrest : choose.Picks → rest = [])
    (hserving : env.Willing → ∀ q ∈ tried, ¬a.Serving (k.closing ids) r q)
    (hids' : Closes env.Willing (a.Spent (k.closing ids) r) tried ids') :
    Searched a env choose k r (ids ++ ids') := by
  have htried (hpicks : choose.Picks) {q : Pipeline} (hq : q ∈ usable k r) : q ∈ tried := by
    obtain rfl := hrest hpicks
    rw [List.append_nil] at hps
    exact hps.mem_iff.2 hq
  refine ⟨fun ⟨hw, hpicks⟩ q hq => ?_, closes_useless (hids.mono And.left) ⟨fun id hid => ?_, ?_⟩⟩
  · exact mt serving_closing.2 (hserving hw q (htried hpicks hq))
  · obtain ⟨q, hq, hq', hspent⟩ := hids'.only id hid
    have hqusable : q ∈ usable k r := hps.subset (List.mem_append_left _ hq)
    exact ⟨q, hqusable, hq', fun hw => spent_closing.1 (hspent hw.1)⟩
  · intro ⟨hw, hpicks⟩ q hq hspent
    exact hids'.all hw q (htried hpicks hq) (spent_closing.2 hspent)

/-! ## The last attempt -/

/-- Only the cluster of the session matters. -/
theorem Created.of_cluster {res : Except Error Container} {s s' : Session}
    (h : Created env k r (res, s)) (hs' : s'.cluster = s.cluster) : Created env k r (res, s') := by
  cases h with
  | failed hwhy hs => exact .failed hwhy (hs'.trans hs)
  | abandoned href he hs => exact .abandoned href he (hs'.trans hs)
  | made hmembers hc hs => exact .made hmembers hc (hs'.trans hs)

/-- What may come of the search and the last attempt. -/
inductive FellBack (a : Allocator) (env : Environment) (choose : Chooser) (k : Cluster)
    (r : Request) (limit : Nat) (first : Option Error) : Except Error Container × Session → Prop
  | reused {p : Pipeline} {c : Container} {ids : List PipelineId} {s : Session}
      (hfound : Found a env k r p c ids) (hs : s.cluster = (k.closing ids).handing c.id env.now) :
      FellBack a env choose k r limit first (.ok c, s)
  | full {ids : List PipelineId} {s : Session} (hsearched : Searched a env choose k r ids)
      (hfull : limit ≤ opens (k.closing ids) r.scheme) (hs : s.cluster = k.closing ids) :
      FellBack a env choose k r limit first
        (.error (first.getD (.allocation (.limitReached r.scheme limit))), s)
  | again {ids : List PipelineId} {out : Except Error Container × Session}
      (hsearched : Searched a env choose k r ids)
      (hroom : opens (k.closing ids) r.scheme < limit)
      (hcreated : Created env (k.closing ids) r out) : FellBack a env choose k r limit first out

theorem FellBack.of_lastAttempt {limit : Nat} {first : Option Error} {ids : List PipelineId}
    {s : Session} (hsearched : Searched a env choose k r ids) (hs : s.cluster = k.closing ids) :
    FellBack a env choose k r limit first (lastAttempt env r limit first s) := by
  have hopens : openCount s r.scheme = opens (k.closing ids) r.scheme := by
    rw [openCount, hs]
    rfl
  have hcreated := create_created env r s
  rw [hs] at hcreated
  unfold lastAttempt
  rw [hopens]
  by_cases hroom : opens (k.closing ids) r.scheme < limit
  · rw [if_pos hroom]
    generalize create env r s = out at hcreated ⊢
    obtain ⟨res, s'⟩ := out
    cases res with
    | ok c => exact .again hsearched hroom hcreated
    | error err => exact .again hsearched hroom (hcreated.of_cluster rfl)
  · rw [if_neg hroom]
    exact .full hsearched (Nat.le_of_not_lt hroom) hs

theorem fallBack_fellBack (a : Allocator) (env : Environment) (choose : Chooser) (r : Request)
    (limit : Nat) (first : Option Error) (s : Session) :
    FellBack a env choose s.cluster r limit first (a.fallBack env choose r limit first s) := by
  have hpresent := present_opened s.cluster r.scheme
  have hscreened := candidates_screened env r hpresent
  unfold fallBack
  generalize candidates env r (s.cluster.pipelines.opened r.scheme) s = out at hscreened ⊢
  obtain ⟨hids, hs⟩ := hscreened
  next ids s₁ =>
  -- The candidates are still in the pool, and nothing about them has changed.
  have hcands : Present s₁.cluster (usable s.cluster r) := by
    rw [hs]
    exact fun q hq => hpresent.closing ids q (mem_usable.1 hq).1
  have hdrained := drain_drained a env choose r hcands
  rw [hs] at hdrained
  dsimp only
  rw [← usable]
  generalize a.drain env choose r _ _ s₁ = out at hdrained ⊢
  cases hdrained with
  | found hps hids' hserves hs' =>
    rw [Cluster.closing_closing] at hs'
    exact .reused (found_of_drained hids hps hids' hserves) hs'
  | left hps hrest hserving hids' hs' =>
    rw [Cluster.closing_closing] at hs'
    exact .of_lastAttempt (searched_of_drained hids hps hrest hserving hids') hs'

/-! ## The limit -/

theorem limit_eq_none_iff {nodes : Registry} {scheme : Scheme} :
    a.limit nodes scheme = none ↔ a.Scales scheme ∧ nodes.healthyVolumes = none := by
  unfold limit
  by_cases hscales : a.Scales scheme
  · rw [if_pos hscales, Option.map_eq_none_iff]
    exact (and_iff_right hscales).symm
  · rw [if_neg hscales]
    exact iff_of_false nofun fun h => hscales h.1

theorem minPipelines_le_limit {nodes : Registry} {scheme : Scheme} {limit : Nat}
    (h : a.limit nodes scheme = some limit) : a.minPipelines.toNat ≤ limit := by
  unfold Allocator.limit at h
  split at h
  · obtain ⟨volumes, -, rfl⟩ := Option.map_eq_some_iff.1 h
    exact Nat.le_max_right _ _
  · exact Nat.le_of_eq (Option.some.inj h)

theorem allocate_of_error {err : Error} (h : r.scheme.validate = .error err) (s : Session) :
    a.allocate env choose r s = (some (.error err), s) := by
  simp only [allocate, h]

/-- A request whose limit cannot be told does nothing. -/
theorem allocate_of_unlimited {s : Session} (hvalid : r.scheme.validate = .ok ())
    (hlimit : a.limit s.cluster.nodes r.scheme = none) :
    a.allocate env choose r s = (none, s) := by
  simp only [allocate, hvalid, hlimit]

theorem allocate_of_limit {s : Session} {limit : Nat} (hvalid : r.scheme.validate = .ok ())
    (hlimit : a.limit s.cluster.nodes r.scheme = some limit) :
    a.allocate env choose r s = (a.allocateWithin env choose r limit s).map some id := by
  simp only [allocate, hvalid, hlimit]
  rfl

/-- A request has no result just if it gets as far as the limit and this cannot be told. -/
theorem allocate_eq_none_iff {s : Session} : (a.allocate env choose r s).1 = none ↔
    r.scheme.validate = .ok () ∧ a.limit s.cluster.nodes r.scheme = none := by
  cases hvalid : r.scheme.validate with
  | error err => exact iff_of_false (by rw [allocate_of_error hvalid]; nofun) (by nofun)
  | ok =>
    cases hlimit : a.limit s.cluster.nodes r.scheme with
    | none => exact iff_of_true (by rw [allocate_of_unlimited hvalid hlimit]) ⟨rfl, rfl⟩
    | some limit => exact iff_of_false (by rw [allocate_of_limit hvalid hlimit]; nofun) (by nofun)

/-- Then it has done nothing. -/
theorem allocate_unchanged {s : Session} (h : (a.allocate env choose r s).1 = none) :
    (a.allocate env choose r s).2 = s := by
  obtain ⟨hvalid, hlimit⟩ := allocate_eq_none_iff.1 h
  rw [allocate_of_unlimited hvalid hlimit]

/-! ## Requests -/

/-- What the first attempt leaves behind, when it is not the last. -/
inductive First (env : Environment) (k : Cluster) (r : Request) (limit : Nat) :
    Option Error → Cluster → Prop
  | notDue (hfull : limit ≤ opens k r.scheme) : First env k r limit none k
  | failed {err : Error} {s : Session} (hroom : opens k r.scheme < limit)
      (hcreated : Created env k r (.error err, s)) : First env k r limit (some err) s.cluster

theorem First.eq_none {limit : Nat} {first : Option Error} {k' : Cluster}
    (h : First env k r limit first k') (hfull : limit ≤ opens k r.scheme) :
    first = none := by
  cases h with
  | notDue => rfl
  | failed hroom => exact (Nat.not_lt.2 hfull hroom).elim

/-- Where no call is refused the first attempt changes nothing that the rest of the
request sees. -/
theorem First.cluster {limit : Nat} {first : Option Error} {k' : Cluster} (hw : env.Willing)
    (h : First env k r limit first k') : k' = k := by
  cases h with
  | notDue => rfl
  | failed _ hcreated => exact (hcreated.of_error hw).1

/-- What may come of a request. -/
inductive Requested (a : Allocator) (env : Environment) (choose : Chooser) (k : Cluster)
    (r : Request) : Ending × Session → Prop
  | invalid {err : Error} {s : Session} (hfault : r.scheme.validate = .error err)
      (hs : s.cluster = k) : Requested a env choose k r (some (.error err), s)
  | brokenOff {s : Session} (hlimit : a.limit k.nodes r.scheme = none) (hs : s.cluster = k) :
      Requested a env choose k r (none, s)
  | created {limit : Nat} {c : Container} {s : Session}
      (hlimit : a.limit k.nodes r.scheme = some limit) (hroom : opens k r.scheme < limit)
      (hcreated : Created env k r (.ok c, s)) : Requested a env choose k r (some (.ok c), s)
  | fellBack {limit : Nat} {k' : Cluster} {first : Option Error}
      {result : Except Error Container} {s : Session}
      (hlimit : a.limit k.nodes r.scheme = some limit) (hfirst : First env k r limit first k')
      (hback : FellBack a env choose k' r limit first (result, s)) :
      Requested a env choose k r (some result, s)

theorem allocate_requested (a : Allocator) (env : Environment) (choose : Chooser) (r : Request)
    (s : Session) : Requested a env choose s.cluster r (a.allocate env choose r s) := by
  cases hvalid : r.scheme.validate with
  | error err =>
    rw [allocate_of_error hvalid]
    exact .invalid hvalid rfl
  | ok =>
    cases hlimit : a.limit s.cluster.nodes r.scheme with
    | none =>
      rw [allocate_of_unlimited hvalid hlimit]
      exact .brokenOff hlimit rfl
    | some limit =>
      rw [allocate_of_limit hvalid hlimit]
      unfold allocateWithin
      split
      · next hroom =>
        have hcreated := create_created env r s
        generalize create env r s = out at hcreated ⊢
        split
        · exact .created hlimit hroom hcreated
        · exact .fellBack hlimit (.failed hroom hcreated) (fallBack_fellBack ..)
      · next hfull =>
        exact .fellBack hlimit (.notDue (Nat.le_of_not_lt hfull)) (fallBack_fellBack ..)

/-- A request that gets as far as the limit, and has one, goes through the attempts under it. -/
theorem Requested.of_limit {limit : Nat} {out : Ending × Session}
    (h : Requested a env choose k r out) (hvalid : r.scheme.validate = .ok ())
    (hlimit : a.limit k.nodes r.scheme = some limit) :
    (∃ c s, out = (some (.ok c), s) ∧ opens k r.scheme < limit ∧
      Created env k r (.ok c, s)) ∨
    ∃ first k' result s, out = (some result, s) ∧ First env k r limit first k' ∧
      FellBack a env choose k' r limit first (result, s) := by
  cases h with
  | invalid hfault =>
    rw [hvalid] at hfault
    cases hfault
  | brokenOff hnone =>
    rw [hlimit] at hnone
    cases hnone
  | created hsome hroom hcreated =>
    obtain rfl := Option.some.inj (hlimit.symm.trans hsome)
    exact .inl ⟨_, _, rfl, hroom, hcreated⟩
  | fellBack hsome hfirst hback =>
    obtain rfl := Option.some.inj (hlimit.symm.trans hsome)
    exact .inr ⟨_, _, _, _, rfl, hfirst, hback⟩

/-- A first attempt that succeeds settles the request. -/
theorem allocate_of_create {limit : Nat} {c : Container} {s s' : Session}
    (hvalid : r.scheme.validate = .ok ())
    (hlimit : a.limit s.cluster.nodes r.scheme = some limit)
    (hroom : openCount s r.scheme < limit) (hcreate : create env r s = (.ok c, s')) :
    a.allocate env choose r s = (some (.ok c), s') := by
  simp only [allocate_of_limit hvalid hlimit, allocateWithin, hroom, hcreate, if_true]
  rfl

/-! ## A small cluster

One node, and one open pipeline on it whose only container is full. -/

namespace Sample

def node : Registry.Entry where
  descriptor := ⟨⟨.ofNat 1⟩, "dn1", "10.0.0.1", "/rack1"⟩
  status := .inServiceHealthy

def full : Container :=
  { Container.fresh ⟨1⟩ ⟨.ofNat 7⟩ (.ratis .one) "app" ⟨0, 0⟩ with usedBytes := 100 }

def pipeline : Pipeline where
  id := ⟨.ofNat 7⟩
  scheme := .ratis .one
  members := [node.descriptor.id]
  state := .opened
  createdAt := ⟨0, 0⟩

def cluster : Cluster where
  nodes := (∅ : Registry).put node
  pipelines := (∅ : Pool).put { pipeline, containers := (∅ : SortedSet _).insert full.id }
  containers := (∅ : Inventory).insert full

/-- The world without refusals, in which pipelines are numbered from 100 on. -/
def world : Environment where
  now := ⟨60, 0⟩
  newId n := ⟨.ofNat (100 + n)⟩

theorem world_inMemory : world.InMemory := ⟨fun _ _ => rfl, fun _ => .rfl⟩

def allocator : Allocator where
  minPipelines := 2
  factor := 0
  maxSize := 100

def request : Request where
  size := 10
  scheme := .ratis .one
  owner := "app"

end Sample

end ControlPlane.Allocator

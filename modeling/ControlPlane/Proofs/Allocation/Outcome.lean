import ControlPlane.Proofs.Allocation.Volumes
import ControlPlane.Proofs.Choice
import ControlPlane.Proofs.Placement

/-!
# How a request ends

Over collaborators in memory the end of a request is settled by the cluster at its
start.  It gets a container if some pipeline that it may use can serve it, or if
there are enough nodes for a new pipeline and room for one once all useless
pipelines are closed.  Otherwise its error tells which of the two is wanting.
The order in which the chooser goes through the pipelines does not matter.

All this needs a limit.  Where the healthy volumes count for it and do not fit a word, the
request ends with neither, even if a pipeline could serve it (`serving_breaks_off`).
-/

namespace ControlPlane

theorem Scheme.requiredNodes_pos {scheme : Scheme} (h : scheme.validate = .ok ()) :
    0 < scheme.requiredNodes := by
  cases scheme with
  | ratis copies => cases copies <;> decide
  | ec data parity =>
    by_cases hdata : data = 0
    · simp [validate, fault?, hdata] at h
    · have hpos : 0 < data.toNat := Nat.pos_of_ne_zero fun h => hdata (UInt32.toNat_inj.1 h)
      simp only [requiredNodes]
      omega

/-- Every policy picks, whatever is drawn. -/
theorem Policy.chooser_picks (policy : Policy) (nodes : Registry)
    (draws : List Pipeline → Nat × Nat) : (policy.chooser nodes draws).Picks :=
  fun _ h => policy.choose_eq_some nodes _ h

namespace Allocator

variable {a : Allocator} {env : Environment} {choose : Chooser} {k : Cluster} {r : Request}

/-! ## What the cluster has to offer -/

/-- The nodes that may become members of a pipeline for the request. -/
def eligible (k : Cluster) (r : Request) : List NodeInfo :=
  k.nodes.infos.filter fun n => n.status.isEligible && !r.exclude.excludesNode n.descriptor.id

/-- The number of open pipelines of the scheme without the vacant ones and the
spent ones that the request may use. -/
def remaining (a : Allocator) (k : Cluster) (r : Request) : Nat :=
  opens k r.scheme -
    ((k.pipelines.opened r.scheme).filter fun q => Vacant k r q).length -
    ((usable k r).filter fun q => a.Spent k r q).length

theorem remaining_le : a.remaining k r ≤ opens k r.scheme :=
  Nat.le_trans (Nat.sub_le _ _) (Nat.sub_le _ _)

/-! ## What is left when the useless pipelines are closed -/

theorem useless_iff_of_excluded {p : Pipeline} (h : r.exclude.excludesPipeline p = true) :
    a.Useless k r p ↔ Vacant k r p := by
  simp [Useless, h]

theorem not_vacant_of_usable {p : Pipeline} (h : r.exclude.excludesPipeline p = false) :
    ¬Vacant k r p := by
  simp [Vacant, h]

theorem useless_iff_of_usable {p : Pipeline} (h : r.exclude.excludesPipeline p = false) :
    a.Useless k r p ↔ a.Spent k r p := by
  simp [Useless, h, not_vacant_of_usable h]

/-- No pipeline is useless for two reasons. -/
theorem length_filter_useless (ps : List Pipeline) :
    (ps.filter fun q => a.Useless k r q).length =
      (ps.filter fun q => Vacant k r q).length +
        ((ps.filter fun q => !r.exclude.excludesPipeline q).filter fun q =>
          a.Spent k r q).length := by
  induction ps with
  | nil => rfl
  | cons q ps ih =>
    cases hexcl : r.exclude.excludesPipeline q with
    | true =>
      have huseless := useless_iff_of_excluded (a := a) (k := k) hexcl
      by_cases hvacant : Vacant k r q
      · simp [hexcl, huseless, hvacant, ih]
        omega
      · simp [hexcl, huseless, hvacant, ih]
    | false =>
      have hvacant := not_vacant_of_usable (k := k) hexcl
      have huseless := useless_iff_of_usable (a := a) (k := k) hexcl
      by_cases hspent : a.Spent k r q
      · simp [hexcl, huseless, hvacant, hspent, ih]
        omega
      · simp [hexcl, huseless, hvacant, hspent, ih]

theorem opens_of_closes {exact : Prop} {ids : List PipelineId}
    (hids : Closes exact (a.Useless k r) (k.pipelines.opened r.scheme) ids) (hexact : exact) :
    opens (k.closing ids) r.scheme = a.remaining k r := by
  have hkept : (k.pipelines.opened r.scheme).filter (fun q => q.id ∉ ids) =
      (k.pipelines.opened r.scheme).filter fun q => !decide (a.Useless k r q) := by
    refine List.filter_congr fun q hq => ?_
    rw [← decide_not]
    refine decide_eq_decide.2 (not_congr ⟨fun hid => ?_, hids.all hexact q hq⟩)
    obtain ⟨q', hq', hid', huseless⟩ := hids.only q.id hid
    obtain rfl := Pool.eq_of_mem_opened hq' hq hid'
    exact huseless hexact
  have hsplit := List.length_eq_length_filter_add (l := k.pipelines.opened r.scheme)
    fun q => decide (a.Useless k r q)
  have huseless := length_filter_useless (a := a) (k := k) (r := r) (k.pipelines.opened r.scheme)
  rw [opens, Cluster.closing, Pool.opened_closing.length_eq, hkept, remaining, opens, usable]
  omega

/-! ## Making a pipeline without refusals -/

theorem membersFor_eq_error_iff (henv : env.InMemory) (hvalid : r.scheme.validate = .ok ())
    {err : Error} :
    membersFor env k r = .error err ↔
      (eligible k r).length < r.scheme.requiredNodes ∧
        err = .placement (.tooFewNodes r.scheme.requiredNodes (eligible k r).length
          r.exclude.nodes.size) := by
  have hpos := Scheme.requiredNodes_pos hvalid
  have havailable : ((env.roster k.nodes).filter
      (Placement.Demand.accepts
        { count := r.scheme.requiredNodes, excluded := r.exclude.nodes.toList })).length =
      (eligible k r).length := by
    refine ((henv.roster k.nodes).filter _).length_eq.trans (congrArg List.length ?_)
    refine List.filter_congr fun n _ => congrArg (n.status.isEligible && !·) ?_
    rw [Bool.eq_iff_iff, List.contains_iff_mem, Exclusions.excludesNode,
      SortedSet.contains_iff_mem, SortedSet.mem_def]
  have hexcluded : r.exclude.nodes.toList.eraseDups.length = r.exclude.nodes.size :=
    congrArg List.length (Placement.eraseDups_of_nodup r.exclude.nodes.nodup)
  rw [membersFor, Placement.choose_eq_error_iff]
  simp only [havailable, hexcluded, Nat.ne_of_gt hpos, false_and, false_or, ne_eq,
    not_false_eq_true, true_and]

/-- Making a pipeline fails for want of nodes only. -/
theorem Created.error {err : Error} {s : Session} (henv : env.InMemory)
    (hvalid : r.scheme.validate = .ok ()) (h : Created env k r (.error err, s)) :
    (eligible k r).length < r.scheme.requiredNodes ∧
      err = .placement (.tooFewNodes r.scheme.requiredNodes (eligible k r).length
        r.exclude.nodes.size) :=
  (membersFor_eq_error_iff henv hvalid).1 (h.of_error henv.willing).2

theorem Created.ok {c : Container} {s : Session} (henv : env.InMemory)
    (hvalid : r.scheme.validate = .ok ()) (h : Created env k r (.ok c, s)) :
    r.scheme.requiredNodes ≤ (eligible k r).length := by
  cases h with
  | made hmembers =>
    refine Nat.le_of_not_lt fun hfew => ?_
    rw [(membersFor_eq_error_iff henv hvalid).2 ⟨hfew, rfl⟩] at hmembers
    simp at hmembers

/-! ## The end -/

/-- The volumes count for every scheme that can be used, if the factor is positive. -/
theorem limit_eq_none_iff_of_valid {nodes : Registry} (hvalid : r.scheme.validate = .ok ()) :
    a.limit nodes r.scheme = none ↔ a.factor > 0.0 ∧ UInt64.size ≤ nodes.volumes := by
  have hscales : a.Scales r.scheme ↔ a.factor > 0.0 :=
    and_iff_left (Scheme.requiredNodes_pos hvalid)
  rw [Registry.limit_overflows_iff, hscales]

/-- How a request ends that has a limit. -/
theorem Requested.outcome (henv : env.InMemory) (hpicks : choose.Picks)
    (hvalid : r.scheme.validate = .ok ()) {limit : Nat}
    (hlimit : a.limit k.nodes r.scheme = some limit) {out : Ending × Session}
    (h : Requested a env choose k r out) :
    ((∃ c, out.1 = some (.ok c)) ↔ (∃ p ∈ usable k r, a.Serving k r p) ∨
      r.scheme.requiredNodes ≤ (eligible k r).length ∧ a.remaining k r < limit) ∧
    ∀ err, out.1 = some (.error err) → err = if a.remaining k r < limit
      then .placement (.tooFewNodes r.scheme.requiredNodes (eligible k r).length
        r.exclude.nodes.size)
      else .allocation (.limitReached r.scheme limit) := by
  have hexact : env.Willing ∧ choose.Picks := ⟨henv.willing, hpicks⟩
  rcases h.of_limit hvalid hlimit with
    ⟨c, s, rfl, hroom, hcreated⟩ | ⟨first, k', result, s, rfl, hfirst, hback⟩
  · have hremaining : a.remaining k r < limit := Nat.lt_of_le_of_lt remaining_le hroom
    exact ⟨iff_of_true ⟨_, rfl⟩ (.inr ⟨hcreated.ok henv hvalid, hremaining⟩), nofun⟩
  · have hsame := hfirst.cluster henv.willing
    rw [hsame] at hfirst hback
    have hnone {ids : List PipelineId} (hsearched : Searched a env choose k r ids) :
        ¬∃ p ∈ usable k r, a.Serving k r p := by
      rintro ⟨p, hp, hserves⟩
      exact hsearched.serving hexact p hp hserves
    cases hback with
    | reused hfound =>
      exact ⟨iff_of_true ⟨_, rfl⟩ (.inl ⟨_, hfound.usable, hfound.serves.serving⟩), nofun⟩
    | full hsearched hfull =>
      rw [opens_of_closes hsearched.closes hexact] at hfull
      have hnot : ¬a.remaining k r < limit := Nat.not_lt.2 hfull
      refine ⟨iff_of_false nofun (not_or.2 ⟨hnone hsearched, fun h => hnot h.2⟩), ?_⟩
      rintro err herr
      obtain rfl := Except.error.inj (Option.some.inj herr)
      rw [if_neg hnot, hfirst.eq_none (Nat.le_trans hfull remaining_le)]
      rfl
    | again hsearched hroom hcreated =>
      rw [opens_of_closes hsearched.closes hexact] at hroom
      cases result with
      | ok c =>
        have henough := hcreated.ok henv hvalid
        exact ⟨iff_of_true ⟨_, rfl⟩ (.inr ⟨henough, hroom⟩), nofun⟩
      | error err =>
        obtain ⟨hfew, rfl⟩ := hcreated.error henv hvalid
        refine ⟨iff_of_false nofun (not_or.2 ⟨hnone hsearched, fun h => ?_⟩), ?_⟩
        · exact absurd h.1 (Nat.not_le.2 hfew)
        · rintro err herr
          obtain rfl := Except.error.inj (Option.some.inj herr)
          exact (if_pos hroom).symm

/-- A request has no result just if the volumes count for its limit and do not fit a word, and
then it has done nothing.  Otherwise it has a limit, and what it gets is settled by the
pipelines that can serve it, the nodes and the limit. -/
theorem allocate_outcome (henv : env.InMemory) (hpicks : choose.Picks)
    (hvalid : r.scheme.validate = .ok ()) (s : Session) :
    let k := s.cluster
    let nodes := (eligible k r).length
    let out := a.allocate env choose r s
    (out.1 = none ↔ a.factor > 0.0 ∧ UInt64.size ≤ k.nodes.volumes) ∧
    (out.1 = none → out.2 = s) ∧
    (out.1 ≠ none → ∃ limit, a.limit k.nodes r.scheme = some limit ∧
      ((∃ c, out.1 = some (.ok c)) ↔
        (∃ p ∈ usable k r, a.Serving k r p) ∨
          r.scheme.requiredNodes ≤ nodes ∧ a.remaining k r < limit) ∧
      ∀ err, out.1 = some (.error err) →
        err = if a.remaining k r < limit
          then .placement (.tooFewNodes r.scheme.requiredNodes nodes r.exclude.nodes.size)
          else .allocation (.limitReached r.scheme limit)) := by
  intro k nodes out
  have hnone : out.1 = none ↔ a.limit k.nodes r.scheme = none :=
    allocate_eq_none_iff.trans (and_iff_right hvalid)
  refine ⟨hnone.trans (limit_eq_none_iff_of_valid hvalid), allocate_unchanged, fun hsome => ?_⟩
  obtain ⟨limit, hlimit⟩ := Option.ne_none_iff_exists'.1 (mt hnone.2 hsome)
  have hrequested : Requested a env choose k r out := allocate_requested a env choose r s
  exact ⟨limit, hlimit, hrequested.outcome henv hpicks hvalid hlimit⟩

/-- The full pipeline does not count against the limit, so there is room. -/
theorem allocate_outcome_sample :
    ∃ c, (Sample.allocator.allocate Sample.world
      (Policy.capacity.chooser Sample.cluster.nodes fun _ => (0, 0)) Sample.request
      { cluster := Sample.cluster }).1 = some (.ok c) := by
  have hremaining : Sample.allocator.remaining Sample.cluster Sample.request < 2 := by
    decide +kernel
  have houtcome := allocate_outcome (a := Sample.allocator) (r := Sample.request)
    Sample.world_inMemory (Policy.capacity.chooser_picks Sample.cluster.nodes fun _ => (0, 0)) rfl
    { cluster := Sample.cluster }
  have hfits : ¬UInt64.size ≤ Sample.cluster.nodes.volumes := by decide
  obtain ⟨limit, hlimit, hok, -⟩ := houtcome.2.2 fun hnone => hfits (houtcome.1.1 hnone).2
  have htwo : 2 ≤ limit := minPipelines_le_limit hlimit
  exact hok.2 (.inr ⟨by decide, Nat.lt_of_lt_of_le hremaining htwo⟩)

namespace Sample

/-- A node with half as many volumes as do not fit a word any more. -/
def vastNode (n : Nat) : Registry.Entry :=
  { node with
    descriptor := { node.descriptor with id := ⟨.ofNat n⟩ }
    storage := { healthyVolumes := Registry.Sample.half } }

def wide : Pipeline :=
  { pipeline with
    scheme := .ratis .three
    members := [⟨.ofNat 1⟩, ⟨.ofNat 2⟩, ⟨.ofNat 3⟩] }

/-- Two such nodes, too few for a new pipeline, and an open one whose container is empty. -/
def vast : Cluster where
  nodes := ((∅ : Registry).put (vastNode 1)).put (vastNode 2)
  pipelines := (∅ : Pool).put { pipeline := wide, containers := (∅ : SortedSet _).insert full.id }
  containers := (∅ : Inventory).insert { full with scheme := .ratis .three, usedBytes := 0 }

def wideRequest : Request := { request with scheme := .ratis .three }

end Sample

/-- The pipeline could serve the request, but there is no total of the volumes. -/
theorem serving_breaks_off :
    ¬∀ (a : Allocator) (policy : Policy) (draws : List Pipeline → Nat × Nat) (r : Request)
      (s : Session), r.scheme.validate = .ok () →
        (∃ p ∈ usable s.cluster r, a.Serving s.cluster r p) →
          ∃ c, (a.allocate Sample.world (policy.chooser s.cluster.nodes draws) r s).1 =
            some (.ok c) := by
  intro hall
  have hserving : Registry.Sample.onePerVolume.Serving Sample.vast Sample.wideRequest
      Sample.wide := by decide +kernel
  obtain ⟨c, hc⟩ := hall Registry.Sample.onePerVolume .random (fun _ => (0, 0)) Sample.wideRequest
    { cluster := Sample.vast } rfl ⟨Sample.wide, by decide +kernel, hserving⟩
  have hnone : (Registry.Sample.onePerVolume.allocate Sample.world
      (Policy.random.chooser Sample.vast.nodes fun _ => (0, 0)) Sample.wideRequest
      { cluster := Sample.vast }).1 = none := by decide +kernel
  rw [hc] at hnone
  cases hnone

end Allocator

end ControlPlane

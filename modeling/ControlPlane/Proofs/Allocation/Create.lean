import ControlPlane.Proofs.Allocation.Drain

/-!
# Making a pipeline for a request

A new pipeline is put into the pool, gets its first container, and is opened.
It may fail at once and leave the cluster alone.  It may be given up half way, and
then the pipeline stays in the pool though it is not open.  Or the pipeline is made
with its container.  `create_undertaken` says so call by call, and `create_created`
what that comes to for the cluster.
-/

namespace ControlPlane

/-- The cluster with one more pipeline and some containers. -/
def Cluster.started (k : Cluster) (e : Pool.Entry) (containers : Inventory) : Cluster :=
  { k with pipelines := k.pipelines.put e, containers }

theorem Cluster.started_modify (k : Cluster) (e : Pool.Entry) (containers : Inventory)
    {id : PipelineId} (hid : e.pipeline.id = id) {f : Pool.Entry → Pool.Entry}
    (hf : ∀ e, (f e).pipeline.id = e.pipeline.id) :
    ({ k.started e containers with
        pipelines := (k.started e containers).pipelines.modify id f hf } : Cluster) =
      k.started (f e) containers := by
  subst hid
  simp only [started, Pool.modify_put]

theorem Cluster.started_entry (k : Cluster) (e : Pool.Entry) (containers : Inventory)
    {id : PipelineId} (hid : e.pipeline.id = id) :
    (k.started e containers).pipelines.entry id = .ok e :=
  Pool.entry_eq_ok_iff.2 (Pool.find?_put.trans (if_pos hid))

namespace Allocator

variable {env : Environment} {k : Cluster} {r : Request}

/-- The members that a new pipeline for the request would get. -/
def membersFor (env : Environment) (k : Cluster) (r : Request) : Except Error (List NodeId) :=
  Placement.choose k.strategy (env.draws k.pipelines.entries.size) (env.roster k.nodes)
    { count := r.scheme.requiredNodes, excluded := r.exclude.nodes.toList }

/-- The pipeline that the request would get with some members. -/
def planned (env : Environment) (k : Cluster) (r : Request) (members : List NodeId)
    (state : PipelineState) : Pipeline where
  id := env.newId k.pipelines.entries.size
  scheme := r.scheme
  members
  state
  createdAt := env.now

/-- The entry of the new pipeline with its first container. -/
def newEntry (env : Environment) (k : Cluster) (r : Request) (members : List NodeId)
    (id : ContainerId) : Pool.Entry where
  pipeline := planned env k r members .opened
  containers := (∅ : SortedSet _).insert id

/-- The entry is that of the new pipeline, which is not open. -/
structure Abandoned (env : Environment) (k : Cluster) (r : Request) (e : Pool.Entry) : Prop where
  id : e.pipeline.id = env.newId k.pipelines.entries.size
  scheme : e.pipeline.scheme = r.scheme
  state : e.pipeline.state ≠ .opened

/-- What may come of making a pipeline. -/
inductive Created (env : Environment) (k : Cluster) (r : Request) :
    Except Error Container × Session → Prop
  | failed {err : Error} {s : Session}
      (hwhy : env.Refuses err ∨ membersFor env k r = .error err) (hs : s.cluster = k) :
      Created env k r (.error err, s)
  | abandoned {err : Error} {e : Pool.Entry} {containers : Inventory} {s : Session}
      (href : env.Refuses err) (he : Abandoned env k r e)
      (hs : s.cluster = k.started e containers) : Created env k r (.error err, s)
  | made {members : List NodeId} {c : Container} {containers : Inventory} {s : Session}
      (hmembers : membersFor env k r = .ok members)
      (hc : k.containers.allocate r.owner (planned env k r members .opened) env.now =
        (c, containers))
      (hs : s.cluster = k.started (newEntry env k r members c.id) containers) :
      Created env k r (.ok c, s)

/-- Where no call is refused, making a pipeline fails for want of members only and
then it changes nothing. -/
theorem Created.of_error {err : Error} {s : Session} (hw : env.Willing)
    (h : Created env k r (.error err, s)) : s.cluster = k ∧ membersFor env k r = .error err := by
  cases h with
  | failed hwhy hs => exact ⟨hs, hwhy.resolve_left (hw.not_refuses err)⟩
  | abandoned href => exact (hw.not_refuses err href).elim

/-- Giving a pipeline up leaves it in the pool, not open. -/
theorem Created.of_close {e : Pool.Entry} {containers : Inventory} {p : Pipeline} {s : Session}
    {err : Error} (href : env.Refuses err) (he : Abandoned env k r e) (hp : e.pipeline.id = p.id)
    (hs : s.cluster = k.started e containers) : Created env k r (.error err, close env p s) := by
  rcases close_cluster env p s with h | ⟨h, -⟩
  · have hclosed : (close env p s).cluster = k.started e.close containers := by
      rw [h, hs]
      exact k.started_modify e containers hp Pool.Entry.close_id
    have he' : Abandoned env k r e.close := ⟨he.id, he.scheme, nofun⟩
    exact .abandoned href he' hclosed
  · exact .abandoned href he (h.trans hs)

/-- What may come of making a container on a pipeline that was just put in. -/
inductive Allocated (env : Environment) (k : Cluster) (owner : String) (p : Pipeline) :
    Except Error Container × Session → Prop
  | refused {err : Error} {containers : Inventory} {s : Session} (href : env.Refuses err)
      (hs : s.cluster = k.started { pipeline := p } containers) :
      Allocated env k owner p (.error err, s)
  | done {c : Container} {containers : Inventory} {s : Session}
      (hc : k.containers.allocate owner p env.now = (c, containers))
      (hs : s.cluster =
        k.started { pipeline := p, containers := (∅ : SortedSet _).insert c.id } containers) :
      Allocated env k owner p (.ok c, s)

theorem allocate_allocated (env : Environment) (owner : String) {p : Pipeline} {s : Session}
    (hs : s.cluster = k.started { pipeline := p } k.containers) :
    Allocated env k owner p (Session.allocate env owner p s) := by
  have hstocked := Session.allocate_stocked env s owner p
  rw [hs] at hstocked
  generalize Session.allocate env owner p s = out at hstocked ⊢
  rcases hstocked with ⟨href, hs'⟩ | ⟨hwhy, hs'⟩ | ⟨hc, -, hs'⟩
  · exact .refused href hs'
  · refine .refused (hwhy.resolve_right fun hmissing => ?_) hs'
    have hentry := k.started_entry { pipeline := p } k.containers rfl
    rw [Pool.entry_eq_error_iff.2 ⟨hmissing.1, rfl⟩] at hentry
    simp at hentry
  · refine .done hc (hs'.trans ?_)
    rw [Cluster.stocking, hc]
    exact k.started_modify _ _ rfl _

/-- How far making a pipeline comes, while the calls on the way may be refused. -/
inductive Undertaken (env : Environment) (r : Request) (s : Session) :
    Except Error Container × Session → Prop
  | failed {err : Error} {s' : Session}
      (hcreate : (Session.create env r.scheme r.exclude.nodes.toList [] s).1 = .error err)
      (hwhy : env.Refuses err ∨ membersFor env s.cluster r = .error err)
      (hs : s'.cluster = s.cluster) : Undertaken env r s (.error err, s')
  | givenUp {err : Error} {p : Pipeline} {e : Pool.Entry} {containers : Inventory} {s' : Session}
      (hcreate : (Session.create env r.scheme r.exclude.nodes.toList [] s).1 = .ok p)
      (href : env.Refuses err) (he : e.pipeline = p) (habandoned : Abandoned env s.cluster r e)
      (hs : s'.cluster = s.cluster.started e containers) :
      Undertaken env r s (.error err, close env p s')
  | done {members : List NodeId} {c : Container} {containers : Inventory} {s' : Session}
      (hcreate : (Session.create env r.scheme r.exclude.nodes.toList [] s).1 =
        .ok (planned env s.cluster r members .allocated))
      (hmembers : membersFor env s.cluster r = .ok members)
      (hc : s.cluster.containers.allocate r.owner (planned env s.cluster r members .opened)
        env.now = (c, containers))
      (hs : s'.cluster = s.cluster.started (newEntry env s.cluster r members c.id) containers) :
      Undertaken env r s (.ok c, s')

theorem create_undertaken (env : Environment) (r : Request) (s : Session) :
    Undertaken env r s (create env r s) := by
  unfold create
  have hcall := Session.create_outcome env s r.scheme r.exclude.nodes.toList []
  dsimp only
  generalize hout : Session.create env r.scheme r.exclude.nodes.toList [] s = out at hcall ⊢
  have hcreate := congrArg (·.1) hout
  rcases hcall with ⟨href, hs⟩ | ⟨hno, hs⟩ | ⟨hmembers, hs⟩
  · exact .failed hcreate (.inl href) hs
  · exact .failed hcreate (.inr hno) hs
  · next members s₁ =>
    have hcall := allocate_allocated env (k := s.cluster) r.owner hs
    dsimp only
    generalize Session.allocate env r.owner _ s₁ = out at hcall ⊢
    rcases hcall with ⟨href, hs⟩ | ⟨hc, hs⟩
    · exact .givenUp hcreate href rfl ⟨rfl, rfl, by simp⟩ hs
    · next c containers s₂ =>
      have hcall := Session.openPipeline_outcome env s₂ (env.newId s.cluster.pipelines.entries.size)
      dsimp only
      generalize Session.openPipeline env _ s₂ = out at hcall ⊢
      rcases hcall with ⟨href, hs'⟩ | ⟨hmissing, -⟩ | ⟨-, hs'⟩
      · exact .givenUp hcreate href rfl ⟨rfl, rfl, by simp⟩ (hs'.trans hs)
      · rw [hs, Cluster.started_entry _ _ _ rfl] at hmissing
        simp at hmissing
      · refine .done hcreate hmembers hc ?_
        dsimp only
        rw [hs', hs]
        exact Cluster.started_modify _ _ _ rfl _

theorem create_created (env : Environment) (r : Request) (s : Session) :
    Created env s.cluster r (create env r s) := by
  have hundertaken := create_undertaken env r s
  generalize create env r s = out at hundertaken ⊢
  cases hundertaken with
  | failed _ hwhy hs => exact .failed hwhy hs
  | givenUp _ href he habandoned hs => exact .of_close href habandoned (congrArg _ he) hs
  | done _ hmembers hc hs => exact .made hmembers hc hs

/-- What holds once a pipeline was asked for, and is kept by what comes after. -/
theorem create_keeps {P : Session → Prop} {s : Session}
    (hcreate : P (Session.create env r.scheme r.exclude.nodes.toList [] s).2)
    (hallocate : ∀ p s, P s → P (Session.allocate env r.owner p s).2)
    (hopen : ∀ id s, P s → P (Session.openPipeline env id s).2)
    (hclose : ∀ p s, P s → P (close env p s)) (hcount : ∀ s metrics, P s → P { s with metrics }) :
    P (create env r s).2 := by
  unfold create
  generalize Session.create env r.scheme r.exclude.nodes.toList [] s = out at hcreate ⊢
  obtain ⟨_ | p, s₁⟩ := out
  · exact hcreate
  have hallocated := hallocate p s₁ hcreate
  dsimp only
  generalize Session.allocate env r.owner p s₁ = out at hallocated ⊢
  obtain ⟨_ | c, s₂⟩ := out
  · exact hclose p s₂ hallocated
  have hopened := hopen p.id s₂ hallocated
  dsimp only
  generalize Session.openPipeline env p.id s₂ = out at hopened ⊢
  obtain ⟨_ | _, s₃⟩ := out
  · exact hclose p s₃ hopened
  · exact hcount s₃ _ hopened

end Allocator

end ControlPlane

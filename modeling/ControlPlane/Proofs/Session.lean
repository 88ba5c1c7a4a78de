import ControlPlane.Cluster
import ControlPlane.Proofs.Container.Inventory
import ControlPlane.Proofs.Pipeline.Pool

/-!
# What the calls of a session do

One lemma for each call of the allocator says everything that the call can do
to the cluster.  A call that fails leaves the cluster alone, and it fails because
the collaborator refuses it or because what it names is not there.  Callers take
a call apart by these lemmas and never open it.  No call counts anything
(`call_metrics`).
-/

namespace ControlPlane

/-! ## Refusals -/

namespace Environment

/-- Some call is refused with the error. -/
def Refuses (env : Environment) (err : Error) : Prop := ∃ t c, env.refusal t c = some err

/-- No call is refused. -/
def Willing (env : Environment) : Prop := ∀ t c, env.refusal t c = none

theorem Willing.not_refuses {env : Environment} (h : env.Willing) (err : Error) :
    ¬env.Refuses err := by
  rintro ⟨t, c, ht⟩
  rw [h t c] at ht
  simp at ht

/-- The collaborators keep everything in memory: they refuse no call, and placement
meets the nodes of a registry in some order. -/
structure InMemory (env : Environment) : Prop where
  willing : env.Willing
  roster : ∀ nodes, (env.roster nodes).Perm nodes.infos

end Environment

/-- The cluster with some pipelines closed. -/
def Cluster.closing (k : Cluster) (ids : List PipelineId) : Cluster :=
  { k with pipelines := k.pipelines.closing ids }

@[simp] theorem Cluster.closing_nil (k : Cluster) : k.closing [] = k := rfl

theorem Cluster.closing_closing (k : Cluster) (ids ids' : List PipelineId) :
    (k.closing ids).closing ids' = k.closing (ids ++ ids') := by
  simp only [closing, Pool.closing_append]

/-- Closing pipelines takes no name. -/
theorem Cluster.fresh_closing {k : Cluster} {env : Environment} {ids : List PipelineId}
    (h : k.pipelines.find? (env.newId k.pipelines.entries.size) = none) :
    (k.closing ids).pipelines.find? (env.newId (k.closing ids).pipelines.entries.size) = none := by
  rw [closing, Pool.size_closing]
  exact Pool.find?_closing_eq_none.2 h

/-- The cluster after a container was handed to a writer. -/
def Cluster.handing (k : Cluster) (id : ContainerId) (now : Instant) : Cluster :=
  { k with containers := k.containers.modify id (·.usedAt now) (Container.usedAt_id now) }

theorem Cluster.handing_find? (k : Cluster) (id : ContainerId) (now : Instant) :
    (k.handing id now).containers.find? id = (k.containers.find? id).map (·.usedAt now) := by
  rw [handing, Inventory.find?_modify, if_pos rfl]

theorem Cluster.handing_keys (k : Cluster) (id : ContainerId) (now : Instant) :
    (k.handing id now).containers.containers.keys = k.containers.containers.keys := by
  rw [handing, Inventory.keys_modify]

/-- The cluster with a new container for a pipeline, which does not list it yet. -/
def Cluster.stocking (k : Cluster) (owner : String) (p : Pipeline) (now : Instant) : Cluster :=
  { k with containers := (k.containers.allocate owner p now).2 }

/-- The cluster after a pipeline was given a container to list. -/
def Cluster.listing (k : Cluster) (id : PipelineId) (c : ContainerId) : Cluster :=
  { k with pipelines := k.pipelines.modify id (·.holding c) (Pool.Entry.holding_id c) }

/-- What may come of a call that needs a thing.  The collaborator refuses it, or
the thing is not to be had, or the call is done; only the last changes the
cluster. -/
inductive Outcome {α β : Type} (env : Environment) (k : Cluster) (thing : Except Error β)
    (done : β → α × Cluster) : Except Error α × Session → Prop
  | refused {err : Error} {s : Session} (href : env.Refuses err) (hs : s.cluster = k) :
      Outcome env k thing done (.error err, s)
  | failed {err : Error} {s : Session} (hthing : thing = .error err) (hs : s.cluster = k) :
      Outcome env k thing done (.error err, s)
  | done {b : β} {s : Session} (hthing : thing = .ok b) (hs : s.cluster = (done b).2) :
      Outcome env k thing done (.ok (done b).1, s)

/-- A call keeps the pipelines if what it does when it is done does. -/
theorem Outcome.pipelines {α β : Type} {env : Environment} {k : Cluster}
    {thing : Except Error β} {done : β → α × Cluster} {out : Except Error α × Session}
    (h : Outcome env k thing done out) (hdone : ∀ b, (done b).2.pipelines = k.pipelines) :
    out.2.cluster.pipelines = k.pipelines := by
  cases h with
  | refused _ hs => rw [hs]
  | failed _ hs => rw [hs]
  | done _ hs => rw [hs, hdone]

namespace Session

variable (env : Environment) (s : Session)

section Calls

variable {env s} {α : Type} {c : Call} {act : Cluster → Except Error (α × Cluster)} {err : Error}

theorem call_of_refused (href : env.refusal s.trace c = some err) :
    call env c act s = (.error err, { s with trace := .call c :: s.trace }) := by
  simp only [call, href]

theorem call_of_error (href : env.refusal s.trace c = none) (hact : act s.cluster = .error err) :
    call env c act s = (.error err, { s with trace := .call c :: s.trace }) := by
  simp only [call, href, hact]

theorem call_of_ok {a : α} {k : Cluster} (href : env.refusal s.trace c = none)
    (hact : act s.cluster = .ok (a, k)) :
    call env c act s = (.ok a, { s with trace := .call c :: s.trace, cluster := k }) := by
  simp only [call, href, hact]

end Calls

/-- A call counts nothing. -/
theorem call_metrics {α : Type} (c : Call) (act : Cluster → Except Error (α × Cluster)) :
    (call env c act s).2.metrics = s.metrics := by
  cases href : env.refusal s.trace c with
  | some err => rw [call_of_refused href]
  | none =>
    cases hact : act s.cluster with
    | error err => rw [call_of_error href hact]
    | ok result => rw [call_of_ok href hact]

/-- A call is noted, whatever comes of it. -/
theorem call_trace {α : Type} (c : Call) (act : Cluster → Except Error (α × Cluster)) :
    (call env c act s).2.trace = .call c :: s.trace := by
  cases href : env.refusal s.trace c with
  | some err => rw [call_of_refused href]
  | none =>
    cases hact : act s.cluster with
    | error err => rw [call_of_error href hact]
    | ok result => rw [call_of_ok href hact]

theorem call_outcome {α β : Type} (c : Call) {act : Cluster → Except Error (α × Cluster)}
    {thing : Except Error β} {done : β → α × Cluster} (hact : act s.cluster = thing.map done) :
    Outcome env s.cluster thing done (call env c act s) := by
  cases href : env.refusal s.trace c with
  | some err =>
    rw [call_of_refused href]
    exact .refused ⟨_, _, href⟩ rfl
  | none =>
    cases thing with
    | error err =>
      rw [call_of_error href hact]
      exact .failed rfl rfl
    | ok b =>
      rw [call_of_ok href hact]
      exact .done rfl rfl

/-! ## Calls on pipelines -/

theorem create_outcome (scheme : Scheme) (excluded favored : List NodeId) :
    let k := s.cluster
    let serial := k.pipelines.entries.size
    Outcome env k
      (Placement.choose k.strategy (env.draws serial) (env.roster k.nodes)
        { count := scheme.requiredNodes, excluded, favored })
      (fun members =>
        let p : Pipeline :=
          { id := env.newId serial, scheme, members, state := .allocated, createdAt := env.now }
        (p, { k with pipelines := k.pipelines.insert p }))
      (create env scheme excluded favored s) := by
  refine call_outcome env s _ ?_
  dsimp only
  cases Placement.choose s.cluster.strategy (env.draws s.cluster.pipelines.entries.size)
    (env.roster s.cluster.nodes) { count := scheme.requiredNodes, excluded, favored } <;> rfl

theorem pipeline_outcome (id : PipelineId) :
    Outcome env s.cluster (s.cluster.pipelines.pipeline id) (fun p => (p, s.cluster))
      (pipeline env id s) := by
  refine call_outcome env s _ ?_
  cases s.cluster.pipelines.pipeline id <;> rfl

/-- Looking a pipeline up changes nothing. -/
theorem pipeline_same (id : PipelineId) : (pipeline env id s).2.cluster = s.cluster := by
  have hcall := pipeline_outcome env s id
  generalize pipeline env id s = out at hcall ⊢
  rcases hcall with ⟨-, hs⟩ | ⟨-, hs⟩ | ⟨-, hs⟩ <;> exact hs

theorem containers_outcome (id : PipelineId) :
    Outcome env s.cluster (s.cluster.pipelines.entry id) (fun e => (e.containers, s.cluster))
      (containers env id s) := by
  refine call_outcome env s _ ?_
  unfold Pool.containers
  cases s.cluster.pipelines.entry id <;> rfl

theorem openPipeline_outcome (id : PipelineId) :
    Outcome env s.cluster (s.cluster.pipelines.entry id)
      (fun _ => ((), { s.cluster with
        pipelines := s.cluster.pipelines.modify id Pool.Entry.reopen Pool.Entry.reopen_id }))
      (openPipeline env id s) := by
  refine call_outcome env s _ ?_
  unfold Pool.setState Pool.update
  cases s.cluster.pipelines.entry id <;> rfl

theorem closePipeline_outcome (id : PipelineId) :
    Outcome env s.cluster (s.cluster.pipelines.entry id)
      (fun _ => ((), s.cluster.closing [id])) (closePipeline env id s) := by
  refine call_outcome env s _ ?_
  unfold Pool.setState Pool.update
  cases s.cluster.pipelines.entry id <;> rfl

theorem bind_outcome (id : PipelineId) (c : ContainerId) :
    Outcome env s.cluster (s.cluster.pipelines.entry id)
      (fun _ => ((), { s.cluster with
        pipelines := s.cluster.pipelines.modify id (·.holding c) (Pool.Entry.holding_id c) }))
      (bind env id c s) := by
  refine call_outcome env s _ ?_
  unfold Pool.bind Pool.update
  cases s.cluster.pipelines.entry id <;> rfl

/-! ## Calls on containers -/

theorem stock_outcome (owner : String) (p : Pipeline) :
    Outcome env s.cluster
      (.ok (s.cluster.containers.allocate owner p env.now) : Except Error (Container × Inventory))
      (fun x => (x.1, { s.cluster with containers := x.2 })) (stock env owner p s) :=
  call_outcome env s _ rfl

theorem container_outcome (id : ContainerId) :
    Outcome env s.cluster (s.cluster.containers.container id) (fun c => (c, s.cluster))
      (container env id s) := by
  refine call_outcome env s _ ?_
  cases s.cluster.containers.container id <;> rfl

theorem touch_outcome (id : ContainerId) :
    Outcome env s.cluster (s.cluster.containers.container id)
      (fun _ => ((), s.cluster.handing id env.now)) (touch env id s) := by
  refine call_outcome env s _ ?_
  unfold Inventory.touch Inventory.update
  cases s.cluster.containers.container id <;> rfl

/-- What may come of making a container on a pipeline and binding it there.  Once it was put
into the inventory it stays, whatever comes of binding it. -/
inductive Stocked (env : Environment) (k : Cluster) (owner : String) (p : Pipeline) :
    Except Error Container × Session → Prop
  | refused {err : Error} {s : Session} (href : env.Refuses err) (hs : s.cluster = k) :
      Stocked env k owner p (.error err, s)
  | loose {err : Error} {s : Session}
      (hwhy : env.Refuses err ∨ k.pipelines.find? p.id = none ∧ err = .pipelineNotFound p.id)
      (hs : s.cluster = k.stocking owner p env.now) : Stocked env k owner p (.error err, s)
  | bound {c : Container} {containers : Inventory} {e : Pool.Entry} {s : Session}
      (hc : k.containers.allocate owner p env.now = (c, containers))
      (he : k.pipelines.find? p.id = some e)
      (hs : s.cluster = (k.stocking owner p env.now).listing p.id c.id) :
      Stocked env k owner p (.ok c, s)

theorem allocate_stocked (owner : String) (p : Pipeline) :
    Stocked env s.cluster owner p (allocate env owner p s) := by
  unfold allocate
  have hcall := stock_outcome env s owner p
  generalize stock env owner p s = out at hcall ⊢
  rcases hcall with ⟨href, hs⟩ | ⟨hno, -⟩ | ⟨hyes, hs⟩
  · exact .refused href hs
  · simp at hno
  · next made s₁ =>
    obtain ⟨c, containers⟩ := made
    have hc : s.cluster.containers.allocate owner p env.now = (c, containers) := Except.ok.inj hyes
    replace hs : s₁.cluster = s.cluster.stocking owner p env.now := by
      rw [hs, Cluster.stocking, hc]
    have hpipelines : s₁.cluster.pipelines = s.cluster.pipelines := by rw [hs]; rfl
    have hcall := bind_outcome env s₁ p.id c.id
    rw [hpipelines] at hcall
    dsimp only
    generalize bind env p.id c.id s₁ = out at hcall ⊢
    rcases hcall with ⟨href, hs₂⟩ | ⟨hmissing, hs₂⟩ | ⟨hfound, hs₂⟩
    · exact .loose (.inl href) (hs₂.trans hs)
    · exact .loose (.inr (Pool.entry_eq_error_iff.1 hmissing)) (hs₂.trans hs)
    · refine .bound hc (Pool.entry_eq_ok_iff.1 hfound) ?_
      rw [hs₂, hs]
      rfl

/-- What holds once a container was put into the inventory, and still after it was bound. -/
theorem allocate_keeps {P : Session → Prop} {owner : String} {p : Pipeline}
    (hstock : P (stock env owner p s).2)
    (hbind : ∀ id c s, P s → P (bind env id c s).2) : P (allocate env owner p s).2 := by
  unfold allocate
  generalize stock env owner p s = out at hstock ⊢
  obtain ⟨_ | c, s₁⟩ := out
  · exact hstock
  · have hbound := hbind p.id c.id s₁ hstock
    dsimp only
    generalize bind env p.id c.id s₁ = out at hbound ⊢
    obtain ⟨_ | _, s₂⟩ := out <;> exact hbound

/-- Making a container and binding it counts nothing. -/
theorem allocate_metrics (owner : String) (p : Pipeline) :
    (allocate env owner p s).2.metrics = s.metrics :=
  allocate_keeps (P := (·.metrics = s.metrics)) env s (call_metrics env s _ _)
    fun _ _ s' h => (call_metrics env s' _ _).trans h

end Session

end ControlPlane

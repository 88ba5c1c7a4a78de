import ControlPlane.Proofs.Manager.Pairing

/-!
# Closed pipelines

A pipeline that was closed stays closed until somebody opens it.  The operations of the
control plane run side by side with writers, who fill containers and change their states,
and none of that opens a pipeline.  There are four groups.

* `Happening` is an operation of the control plane or a change of a container.
* `Tidy` is the invariant: the counter of the inventory is above every container that is
  known or listed, so a new container is not one that some pipeline lists already.
* `Evolves` says what a step keeps.  `Happening.evolves` is one step and `after_evolves` a
  run.
* `closed_until_opened` says that opening a closed pipeline is what opens it, and the only
  thing, and that until then no request is given a container on it.
  `opened_after_closed` is a run in which a closed pipeline is opened and used.
-/

namespace ControlPlane

/-- The state of a pipeline, if the pool has it. -/
def Cluster.stateOf? (k : Cluster) (id : PipelineId) : Option PipelineState :=
  (k.pipelines.find? id).map (·.pipeline.state)

/-- The cluster with a pipeline opened. -/
def Cluster.reopening (k : Cluster) (id : PipelineId) : Cluster :=
  { k with pipelines := k.pipelines.modify id Pool.Entry.reopen Pool.Entry.reopen_id }

namespace Manager

/-! ## What happens -/

/-- Something that happens to the cluster. -/
inductive Happening
  | operation (op : Op)
  | usedBytes (id : ContainerId) (bytes : UInt64)
  | containerState (id : ContainerId) (state : ContainerState)

namespace Happening

/-- The control plane with other containers, unless the change of them failed. -/
def restock (m : Manager) (change : Except Error Inventory) : Manager :=
  match change with
  | .ok containers => { m with cluster := { m.cluster with containers } }
  | .error _ => m

/-- The control plane after something happened. -/
def run : Happening → Manager → Manager
  | .operation op, m => op.run m
  | .usedBytes id bytes, m => restock m (m.cluster.containers.setUsedBytes id bytes)
  | .containerState id state, m => restock m (m.cluster.containers.setState id state)

/-- The world answers an operation from memory. -/
def InMemory (m : Manager) : Happening → Prop
  | .operation op => op.InMemory m
  | _ => True

/-- Does it make a container, one that was not known before? -/
def makes (m : Manager) : Happening → Bool
  | .operation op => op.makes m
  | _ => false

/-- Somebody opens the pipeline. -/
def Opens (id : PipelineId) (h : Happening) : Prop := ∃ env, h = .operation (.openPipeline env id)

end Happening

/-- The control plane after some things happened, the first of the list first. -/
def following (m : Manager) (hs : List Happening) : Manager := hs.foldl (fun m h => h.run m) m

/-- The world answers from memory all the time. -/
def AllInMemory : Manager → List Happening → Prop
  | _, [] => True
  | m, h :: hs => h.InMemory m ∧ AllInMemory (h.run m) hs

/-- How many containers are made. -/
def madeOf : Manager → List Happening → Nat
  | _, [] => 0
  | m, h :: hs => (if h.makes m then 1 else 0) + madeOf (h.run m) hs

variable {m : Manager} {hs hs' : List Happening}

theorem following_append : m.following (hs ++ hs') = (m.following hs).following hs' :=
  List.foldl_append

theorem allInMemory_append :
    AllInMemory m (hs ++ hs') ↔ AllInMemory m hs ∧ AllInMemory (m.following hs) hs' := by
  induction hs generalizing m with
  | nil => exact ⟨fun h => ⟨trivial, h⟩, And.right⟩
  | cons h hs ih =>
    rw [List.cons_append, AllInMemory, AllInMemory, ih, and_assoc]
    rfl

theorem madeOf_append : madeOf m (hs ++ hs') = madeOf m hs + madeOf (m.following hs) hs' := by
  induction hs generalizing m with
  | nil => exact (Nat.zero_add _).symm
  | cons h hs ih =>
    rw [List.cons_append, madeOf, madeOf, ih, Nat.add_assoc]
    rfl

end Manager

/-! ## The invariant -/

namespace Cluster

variable {k k' k'' : Cluster}

/-- The counter of the inventory is above every container that is known or listed. -/
structure Tidy (k : Cluster) : Prop where
  linked : k.Linked
  known : ∀ id c, k.containers.find? id = some c → rank id < k.containers.next.toNat
  listed : ∀ j e, k.pipelines.find? j = some e → ∀ id ∈ e.containers,
    rank id < k.containers.next.toNat

theorem tidy_empty : Tidy {} := by
  refine ⟨fun id e c he => ?_, fun id c hc => ?_, fun j e he => ?_⟩
  · cases he
  · cases hc
  · cases he

theorem Tidy.find?_next (h : k.Tidy) : k.containers.find? ⟨k.containers.next⟩ = none :=
  Option.eq_none_iff_forall_ne_some.2 fun c hc => Nat.lt_irrefl _ (h.known _ c hc)

/-- The clusters have the same pipelines and containers, whatever their states. -/
structure Like (k k' : Cluster) : Prop where
  pipelines : ∀ id e', k'.pipelines.find? id = some e' →
    ∃ e, k.pipelines.find? id = some e ∧ e.containers = e'.containers ∧
      e.pipeline.scheme = e'.pipeline.scheme
  containers : ∀ id c', k'.containers.find? id = some c' →
    ∃ c, k.containers.find? id = some c ∧ c.pipeline = c'.pipeline ∧ c.scheme = c'.scheme
  next : k'.containers.next = k.containers.next

/-- The states of some pipelines are changed. -/
theorem Like.of_pipelines (f : Pool.Entry → Pool.Entry) (ids : List PipelineId)
    (hcontainers : k'.containers = k.containers)
    (hfind : ∀ id, k'.pipelines.find? id =
      if id ∈ ids then (k.pipelines.find? id).map f else k.pipelines.find? id)
    (hlists : ∀ e, (f e).containers = e.containers)
    (hscheme : ∀ e, (f e).pipeline.scheme = e.pipeline.scheme) : k.Like k' := by
  refine ⟨fun id e' he' => ?_, fun id c hc => ⟨c, hcontainers ▸ hc, rfl, rfl⟩, by rw [hcontainers]⟩
  rw [hfind] at he'
  split at he'
  · obtain ⟨e, he, rfl⟩ := Option.map_eq_some_iff.1 he'
    exact ⟨e, he, (hlists e).symm, (hscheme e).symm⟩
  · exact ⟨e', he', rfl, rfl⟩

theorem Tidy.like (h : k.Tidy) (hlike : k.Like k') : k'.Tidy := by
  refine ⟨fun id e' c' he' hmem hc' => ?_, fun id c' hc' => ?_, fun j e' he' id hmem => ?_⟩
  · obtain ⟨e, he, hcontainers, hscheme⟩ := hlike.pipelines id e' he'
    obtain ⟨c, hc, hpipeline, hscheme'⟩ := hlike.containers c'.id c' hc'
    have hid : c.id = c'.id := Inventory.id_of_find? hc
    rw [← hcontainers, ← hid] at hmem
    obtain ⟨hp, hs⟩ := h.linked id e c he hmem (hid ▸ hc)
    exact ⟨hpipeline ▸ hp, hscheme' ▸ hscheme ▸ hs⟩
  · obtain ⟨c, hc, -⟩ := hlike.containers id c' hc'
    rw [hlike.next]
    exact h.known id c hc
  · obtain ⟨e, he, hcontainers, -⟩ := hlike.pipelines j e' he'
    rw [hlike.next]
    exact h.listed j e he id (hcontainers ▸ hmem)

/-! ## States of pipelines -/

theorem stateOf?_closing {ids : List PipelineId} {id : PipelineId} :
    (k.closing ids).stateOf? id =
      if id ∈ ids then (k.stateOf? id).map fun _ => .closed else k.stateOf? id := by
  show ((k.pipelines.closing ids).find? id).map _ = _
  rw [Pool.find?_closing]
  split
  · rw [stateOf?, Option.map_map, Option.map_map]
    rfl
  · rfl

theorem find?_reopening {id j : PipelineId} : (k.reopening id).pipelines.find? j =
    if id = j then (k.pipelines.find? j).map Pool.Entry.reopen else k.pipelines.find? j := by
  rw [reopening, Pool.find?_modify]

theorem stateOf?_reopening {id j : PipelineId} :
    (k.reopening id).stateOf? j =
      if id = j then (k.stateOf? j).map fun _ => .opened else k.stateOf? j := by
  rw [stateOf?, find?_reopening]
  split
  · rw [stateOf?, Option.map_map, Option.map_map]
    rfl
  · rfl

theorem stateOf?_started {e : Pool.Entry} {containers : Inventory} {id : PipelineId} :
    (k.started e containers).stateOf? id =
      if e.pipeline.id = id then some e.pipeline.state else k.stateOf? id := by
  show ((k.pipelines.put e).find? id).map _ = _
  rw [Pool.find?_put]
  split <;> rfl

/-! ## Steps -/

/-- What a step keeps, when it makes a bounded number of containers.  A pipeline stays in
the pool, and a closed one stays closed unless the step opens it. -/
structure Evolves (opens : PipelineId → Prop) (k k' : Cluster) (n : Nat) : Prop where
  tidy : k'.Tidy
  next : k'.containers.next.toNat ≤ k.containers.next.toNat + n
  present : ∀ id, (k.stateOf? id).isSome = true → (k'.stateOf? id).isSome = true
  closed : ∀ id, ¬opens id → k.stateOf? id = some .closed → k'.stateOf? id = some .closed

namespace Evolves

variable {opens opens' : PipelineId → Prop} {n n' : Nat}

theorem mono (h : Evolves opens k k' n) (hopens : ∀ id, opens id → opens' id) (hn : n ≤ n') :
    Evolves opens' k k' n' := by
  have hnext := h.next
  exact ⟨h.tidy, by omega, h.present, fun id hid => h.closed id (mt (hopens id) hid)⟩

theorem trans (h : Evolves opens k k' n) (h' : Evolves opens k' k'' n') :
    Evolves opens k k'' (n + n') := by
  have hnext := h.next
  have hnext' := h'.next
  exact ⟨h'.tidy, by omega, fun id hid => h'.present id (h.present id hid),
    fun id hid hclosed => h'.closed id hid (h.closed id hid hclosed)⟩

theorem of_like (h : k.Tidy) (hlike : k.Like k')
    (hpresent : ∀ id, (k.stateOf? id).isSome = true → (k'.stateOf? id).isSome = true)
    (hclosed : ∀ id, ¬opens id → k.stateOf? id = some .closed → k'.stateOf? id = some .closed) :
    Evolves opens k k' 0 :=
  ⟨h.like hlike, Nat.le_of_eq (congrArg UInt64.toNat hlike.next), hpresent, hclosed⟩

/-- Nothing about pipelines and containers is changed. -/
theorem of_same (h : k.Tidy) (hpipelines : k'.pipelines = k.pipelines)
    (hcontainers : k'.containers = k.containers) : Evolves opens k k' 0 := by
  have hstate (id : PipelineId) : k'.stateOf? id = k.stateOf? id := by
    rw [stateOf?, hpipelines, stateOf?]
  refine of_like h (.of_pipelines id [] hcontainers (fun id => ?_) ?_ ?_) ?_ ?_
  · simp [hpipelines]
  · exact fun _ => rfl
  · exact fun _ => rfl
  · exact fun id hid => hstate id ▸ hid
  · exact fun id _ hclosed => hstate id ▸ hclosed

/-- A container is changed, though not its pipeline or scheme. -/
theorem modify (h : k.Tidy) {id : ContainerId} {f : Container → Container}
    {hf : ∀ c, (f c).id = c.id} (hpipeline : ∀ c, (f c).pipeline = c.pipeline)
    (hscheme : ∀ c, (f c).scheme = c.scheme) :
    Evolves opens k { k with containers := k.containers.modify id f hf } 0 := by
  refine of_like h ⟨fun j e he => ⟨e, he, rfl, rfl⟩, fun j c' hc' => ?_, rfl⟩
    (fun _ hpresent => hpresent) (fun _ _ hclosed => hclosed)
  rw [Inventory.find?_modify] at hc'
  split at hc'
  · obtain ⟨c, hc, rfl⟩ := Option.map_eq_some_iff.1 hc'
    exact ⟨c, hc, (hpipeline c).symm, (hscheme c).symm⟩
  · exact ⟨c', hc', rfl, rfl⟩

theorem closing (h : k.Tidy) (ids : List PipelineId) : Evolves opens k (k.closing ids) 0 := by
  have hlike : k.Like (k.closing ids) :=
    .of_pipelines _ ids rfl (fun _ => Pool.find?_closing) (fun _ => rfl) (fun _ => rfl)
  refine of_like h hlike (fun id hpresent => ?_) (fun id _ hclosed => ?_)
  · rw [stateOf?_closing]
    split
    · rwa [Option.isSome_map]
    · exact hpresent
  · rw [stateOf?_closing, hclosed]
    split <;> rfl

theorem reopening (h : k.Tidy) (id : PipelineId) : Evolves (· = id) k (k.reopening id) 0 := by
  have hfind (j : PipelineId) : (k.reopening id).pipelines.find? j =
      if j ∈ [id] then (k.pipelines.find? j).map Pool.Entry.reopen else k.pipelines.find? j := by
    simp only [find?_reopening, List.mem_singleton, eq_comm]
  have hlike : k.Like (k.reopening id) :=
    .of_pipelines _ [id] rfl hfind (fun _ => rfl) (fun _ => rfl)
  refine of_like h hlike (fun j hpresent => ?_) (fun j hne hclosed => ?_)
  · rw [stateOf?_reopening]
    split
    · rwa [Option.isSome_map]
    · exact hpresent
  · rw [stateOf?_reopening, if_neg (Ne.symm hne)]
    exact hclosed

/-- A new pipeline with a new container. -/
theorem started (h : k.Tidy) {e : Pool.Entry} {owner : String} {p : Pipeline} {now : Instant}
    (hroom : k.containers.next.toNat + 1 < 2 ^ 64)
    (hnew : k.pipelines.find? e.pipeline.id = none)
    (hid : p.id = e.pipeline.id) (hscheme : p.scheme = e.pipeline.scheme)
    (hlists : ∀ j ∈ e.containers, j = ⟨k.containers.next⟩) :
    Evolves opens k (k.started e (k.containers.allocate owner p now).2) 1 := by
  have hnext : (k.containers.next + 1).toNat = k.containers.next.toNat + 1 := by
    rw [UInt64.toNat_add]
    exact Nat.mod_eq_of_lt hroom
  have hrank : rank (⟨k.containers.next⟩ : ContainerId) = k.containers.next.toNat := rfl
  generalize hk' : k.started e _ = k'
  have hpool (id : PipelineId) : k'.pipelines.find? id =
      if e.pipeline.id = id then some e else k.pipelines.find? id := hk' ▸ Pool.find?_put
  have hstock (id : ContainerId) : k'.containers.find? id =
      if ⟨k.containers.next⟩ = id then some (.fresh ⟨k.containers.next⟩ p.id p.scheme owner now)
      else k.containers.find? id := hk' ▸ Inventory.find?_put
  have hnext' : k'.containers.next.toNat = k.containers.next.toNat + 1 := hk' ▸ hnext
  have hstate (id : PipelineId) : k'.stateOf? id =
      if e.pipeline.id = id then some e.pipeline.state else k.stateOf? id :=
    hk' ▸ stateOf?_started
  refine ⟨⟨?_, ?_, ?_⟩, Nat.le_of_eq hnext', ?_, ?_⟩
  · intro id e' c he' hmem hc
    rw [hpool] at he'
    rw [hstock] at hc
    split at he'
    · next hkey =>
      -- The new pipeline lists the new container, which names it.
      obtain rfl := Option.some.inj he'
      rw [if_pos (hlists c.id hmem).symm] at hc
      rw [← Option.some.inj hc, ← hkey]
      exact ⟨hid, hscheme⟩
    · have hlt := h.listed id e' he' c.id hmem
      rw [if_neg (fun heq => by rw [← heq] at hlt; omega)] at hc
      exact h.linked id e' c he' hmem hc
  · intro id c hc
    rw [hstock] at hc
    split at hc
    · next hkey =>
      rw [← hkey]
      omega
    · have hlt := h.known id c hc
      omega
  · intro j e' he' id hmem
    rw [hpool] at he'
    split at he'
    · obtain rfl := Option.some.inj he'
      rw [hlists id hmem]
      omega
    · have hlt := h.listed j e' he' id hmem
      omega
  · intro id hpresent
    rw [hstate]
    split
    · rfl
    · exact hpresent
  · intro id _ hclosed
    rw [hstate, if_neg]
    · exact hclosed
    · rintro rfl
      simp [stateOf?, hnew] at hclosed

end Evolves

end Cluster

/-! ## Requests -/

namespace Allocator

variable {a : Allocator} {env : Environment} {choose : Chooser} {k : Cluster} {r : Request}
  {out : Except Error Container × Session} {opens : PipelineId → Prop}

theorem Created.evolves (h : Created env k r out) (hk : k.Tidy) (hw : env.Willing)
    (hnew : k.pipelines.find? (env.newId k.pipelines.entries.size) = none)
    (hroom : k.isNew out.1 = true → k.containers.next.toNat + 1 < 2 ^ 64) :
    Cluster.Evolves opens k out.2.cluster (if k.isNew out.1 then 1 else 0) := by
  cases h with
  | failed _ hs =>
    rw [hs]
    exact (Cluster.Evolves.of_same hk rfl rfl).mono (fun _ => id) (Nat.zero_le _)
  | abandoned href => exact (hw.not_refuses _ href).elim
  | @made members c containers _ _ hc hs =>
    have hid : (⟨k.containers.next⟩ : ContainerId) = c.id := congrArg (·.1.id) hc
    have hstock : (k.containers.allocate r.owner (planned env k r members .opened) env.now).2 =
        containers := congrArg Prod.snd hc
    have hmakes : k.isNew (.ok c) = true := by
      show (k.containers.find? c.id).isNone = true
      rw [← hid, hk.find?_next]
      rfl
    rw [if_pos hmakes, hs, ← hid, ← hstock]
    refine .started hk (hroom hmakes) hnew rfl rfl fun j hj => ?_
    rcases SortedSet.mem_insert.1 hj with hj | hj
    · exact hj
    · exact (SortedSet.not_mem_empty hj).elim

theorem Requested.evolves {out : Ending × Session} (h : Requested a env choose k r out)
    (hk : k.Tidy) (hw : env.Willing)
    (hnew : k.pipelines.find? (env.newId k.pipelines.entries.size) = none)
    (hroom : out.1.any k.isNew = true → k.containers.next.toNat + 1 < 2 ^ 64) :
    Cluster.Evolves opens k out.2.cluster (if out.1.any k.isNew then 1 else 0) := by
  cases h with
  | invalid _ hs | brokenOff _ hs =>
    rw [hs]
    exact (Cluster.Evolves.of_same hk rfl rfl).mono (fun _ => id) (Nat.zero_le _)
  | created _ _ hcreated => exact hcreated.evolves hk hw hnew hroom
  | fellBack _ hfirst hback =>
    obtain rfl := (hfirst.cluster hw).symm
    cases hback with
    | @reused p c ids s _ hs =>
      have hclosing : Cluster.Evolves opens k (k.closing ids) 0 := .closing hk ids
      have hhanding : Cluster.Evolves opens (k.closing ids)
          ((k.closing ids).handing c.id env.now) 0 :=
        .modify hclosing.tidy (fun _ => rfl) fun _ => rfl
      rw [hs]
      exact (hclosing.trans hhanding).mono (fun _ => id) (Nat.zero_le _)
    | @full ids s _ _ hs =>
      have hclosing : Cluster.Evolves opens k (k.closing ids) 0 := .closing hk ids
      dsimp only
      rw [hs]
      exact hclosing.mono (fun _ => id) (Nat.zero_le _)
    | @again ids _ _ _ hcreated =>
      have hclosing : Cluster.Evolves opens k (k.closing ids) 0 := .closing hk ids
      have hnew' : (k.closing ids).pipelines.find? _ = none := Cluster.fresh_closing hnew
      have hcreating := hclosing.trans (hcreated.evolves hclosing.tidy hw hnew' hroom)
      rw [Nat.zero_add] at hcreating
      exact hcreating

end Allocator

/-! ## One step -/

namespace Manager

variable {m : Manager} {hs hs' : List Happening} {id : PipelineId}

theorem openPipeline_reopening {env : Environment} (hw : env.Willing) :
    (m.openPipeline env id).2.cluster = m.cluster.reopening id := by
  rw [openPipeline_session]
  have hcall := Session.openPipeline_outcome env m.session id
  generalize Session.openPipeline env id m.session = out at hcall ⊢
  rcases hcall with ⟨href, -⟩ | ⟨hmissing, hs⟩ | ⟨-, hs⟩
  · exact (hw.not_refuses _ href).elim
  · have habsent : m.cluster.pipelines.find? id = none := (Pool.entry_eq_error_iff.1 hmissing).1
    rw [hs, Cluster.reopening, Pool.modify_of_absent habsent]
    rfl
  · exact hs

theorem allocate_evolves {opens : PipelineId → Prop} {env : Environment}
    {draws : List Pipeline → Nat × Nat} {r : Request} (h : m.cluster.Tidy) (henv : env.InMemory)
    (hnew : m.cluster.pipelines.find? (env.newId m.cluster.pipelines.entries.size) = none)
    (hroom : (m.allocate env draws r).1.any m.cluster.isNew = true →
      m.cluster.containers.next.toNat + 1 < 2 ^ 64) :
    Cluster.Evolves opens m.cluster (m.allocate env draws r).2.1.cluster
      (if (m.allocate env draws r).1.any m.cluster.isNew then 1 else 0) := by
  unfold allocate at hroom ⊢
  cases hrefusal : m.refusal? r with
  | some e => exact (Cluster.Evolves.of_same h rfl rfl).mono (fun _ => id) (Nat.zero_le _)
  | none =>
    rw [hrefusal] at hroom
    exact (Allocator.allocate_requested _ env _ r _).evolves h henv.willing hnew hroom

theorem restock_evolves {opens : PipelineId → Prop} {id : ContainerId}
    {f : Container → Container} {hf : ∀ c, (f c).id = c.id} (h : m.cluster.Tidy)
    (hpipeline : ∀ c, (f c).pipeline = c.pipeline) (hscheme : ∀ c, (f c).scheme = c.scheme) :
    Cluster.Evolves opens m.cluster
      (Happening.restock m (m.cluster.containers.update id f hf)).cluster 0 := by
  unfold Inventory.update
  cases m.cluster.containers.container id with
  | error err => exact .of_same h rfl rfl
  | ok c => exact .modify h hpipeline hscheme

theorem Happening.evolves (happens : Happening) (h : m.cluster.Tidy) (hmem : happens.InMemory m)
    (hroom : happens.makes m = true → m.cluster.containers.next.toNat + 1 < 2 ^ 64) :
    Cluster.Evolves (fun id => happens.Opens id) m.cluster (happens.run m).cluster
      (if happens.makes m then 1 else 0) := by
  cases happens with
  | usedBytes id bytes => exact restock_evolves h (fun _ => rfl) (fun _ => rfl)
  | containerState id state => exact restock_evolves h (fun _ => rfl) (fun _ => rfl)
  | operation op =>
    cases op with
    | openPipeline env id =>
      have hopening : (m.openPipeline env id).2.cluster = m.cluster.reopening id :=
        openPipeline_reopening hmem.willing
      show Cluster.Evolves _ m.cluster (m.openPipeline env id).2.cluster 0
      rw [hopening]
      exact (Cluster.Evolves.reopening h id).mono (fun _ hid => hid ▸ ⟨env, rfl⟩) (Nat.le_refl 0)
    | allocate env draws r => exact allocate_evolves h hmem.1 hmem.2 hroom
    | heartbeat id health =>
      obtain ⟨hpipelines, hcontainers⟩ := heartbeat_stores m id health
      exact .of_same h hpipelines hcontainers
    | reportPipelines id pipelines =>
      have hsame := reportPipelines_cluster m id pipelines
      exact .of_same h (congrArg _ hsame) (congrArg _ hsame)
    | reportNode | forceExit | refresh | register | registerGate => exact .of_same h rfl rfl

/-! ## Runs -/

theorem following_evolves (h : m.cluster.Tidy) (hmem : AllInMemory m hs)
    (hroom : m.cluster.containers.next.toNat + madeOf m hs < 2 ^ 64) :
    Cluster.Evolves (fun id => ∃ happens ∈ hs, happens.Opens id) m.cluster
      (m.following hs).cluster (madeOf m hs) := by
  induction hs generalizing m with
  | nil => exact .of_same h rfl rfl
  | cons happens hs ih =>
    obtain ⟨hfirst, hrest⟩ := hmem
    rw [madeOf] at hroom ⊢
    have hstep := happens.evolves h hfirst fun hmakes => by
      rw [if_pos hmakes] at hroom
      omega
    have hnext := hstep.next
    have hthen := ih hstep.tidy hrest (by omega)
    refine (hstep.mono (fun id hid => ?_) (Nat.le_refl _)).trans
      (hthen.mono (fun id hid => ?_) (Nat.le_refl _))
    · exact ⟨happens, List.mem_cons_self, hid⟩
    · obtain ⟨later, hlater, hid⟩ := hid
      exact ⟨later, List.mem_cons_of_mem _ hlater, hid⟩

/-- The container that a request returns is on a pipeline that is open after it. -/
theorem stateOf?_of_allocate {env : Environment} {draws : List Pipeline → Nat × Nat} {r : Request}
    {c : Container} (h : m.cluster.Tidy) (henv : env.InMemory)
    (hnew : m.cluster.pipelines.find? (env.newId m.cluster.pipelines.entries.size) = none)
    (hc : (m.allocate env draws r).1 = some (.ok c)) :
    (m.allocate env draws r).2.1.cluster.stateOf? c.pipeline = some .opened := by
  unfold allocate at hc ⊢
  cases hrefusal : m.refusal? r with
  | some e =>
    rw [hrefusal] at hc
    cases hc
  | none =>
    rw [hrefusal] at hc
    dsimp only [Manager.run] at hc ⊢
    obtain ⟨⟨e, he, hopen, -⟩, -⟩ := (Allocator.allocate_sound henv h.linked
      (size_le_of_refusal? hrefusal) hnew (Prod.ext hc rfl)).1
    rw [Cluster.stateOf?, he]
    exact congrArg some hopen

/-- The room that is left after the first part of a run is enough for the second. -/
theorem following_room {first later : List Happening} (h : m.cluster.Tidy)
    (hmem : AllInMemory m (first ++ later))
    (hroom : m.cluster.containers.next.toNat + madeOf m (first ++ later) < 2 ^ 64) :
    (m.following first).cluster.Tidy ∧ AllInMemory (m.following first) later ∧
      (m.following first).cluster.containers.next.toNat +
        madeOf (m.following first) later < 2 ^ 64 := by
  obtain ⟨hfirst, hlater⟩ := allInMemory_append.1 hmem
  rw [madeOf_append] at hroom
  have hrun := following_evolves h hfirst (by omega)
  have hnext := hrun.next
  exact ⟨hrun.tidy, hlater, by omega⟩

/-- A closed pipeline that nobody opens stays closed. -/
theorem closed_of_unopened (h : m.cluster.Tidy) (hmem : AllInMemory m hs)
    (hroom : m.cluster.containers.next.toNat + madeOf m hs < 2 ^ 64)
    (hclosed : m.cluster.stateOf? id = some .closed)
    (hnot : ∀ happens ∈ hs, ¬happens.Opens id) :
    (m.following hs).cluster.stateOf? id = some .closed :=
  (following_evolves h hmem hroom).closed id (fun ⟨happens, hin, hopens⟩ => hnot happens hin hopens)
    hclosed

/-- A pipeline that is opened is open, whatever it was before. -/
theorem opened_of_opens {soon rest : List Happening} {happens : Happening} (h : m.cluster.Tidy)
    (hmem : AllInMemory m (soon ++ happens :: rest))
    (hroom : m.cluster.containers.next.toNat + madeOf m (soon ++ happens :: rest) < 2 ^ 64)
    (hpresent : (m.cluster.stateOf? id).isSome = true) (hopens : happens.Opens id) :
    (m.following (soon ++ [happens])).cluster.stateOf? id = some .opened := by
  obtain ⟨env, rfl⟩ := hopens
  obtain ⟨hsoon, henv, -⟩ := allInMemory_append.1 hmem
  rw [madeOf_append] at hroom
  have hthere := (following_evolves h hsoon (by omega)).present id hpresent
  obtain ⟨state, hstate⟩ := Option.isSome_iff_exists.1 hthere
  rw [following_append]
  show ((m.following soon).openPipeline env id).2.cluster.stateOf? id = some .opened
  rw [openPipeline_reopening henv.willing, Cluster.stateOf?_reopening, if_pos rfl, hstate]
  rfl

/-- A closed pipeline is open at some later time if and only if somebody opens it.  If
nobody does it stays closed, and no request is given a container on it. -/
theorem closed_until_opened {before later : List Happening}
    (h : m.cluster.Tidy) (hmem : AllInMemory m (before ++ later))
    (hroom : m.cluster.containers.next.toNat + madeOf m (before ++ later) < 2 ^ 64)
    (hclosed : (m.following before).cluster.stateOf? id = some .closed) :
    ((∃ soon, soon <+: later ∧
        (m.following (before ++ soon)).cluster.stateOf? id = some .opened) ↔
      ∃ happens ∈ later, happens.Opens id) ∧
    ((∀ happens ∈ later, ¬happens.Opens id) →
      (m.following (before ++ later)).cluster.stateOf? id = some .closed ∧
      ∀ soon env draws r rest, later = soon ++ .operation (.allocate env draws r) :: rest →
        ∀ c, ((m.following (before ++ soon)).allocate env draws r).1 = some (.ok c) →
          c.pipeline ≠ id) := by
  obtain ⟨h, hmem, hroom⟩ := following_room h hmem hroom
  simp only [following_append]
  generalize m.following before = m at h hmem hroom hclosed
  refine ⟨⟨?_, ?_⟩, fun hnot => ⟨closed_of_unopened h hmem hroom hclosed hnot, ?_⟩⟩
  · rintro ⟨soon, ⟨rest, rfl⟩, hopen⟩
    -- If nobody had opened it, it would be closed.
    refine Classical.byContradiction fun hnone => ?_
    have hnot : ∀ happens ∈ soon, ¬happens.Opens id := fun happens hin hopens =>
      hnone ⟨happens, List.mem_append_left rest hin, hopens⟩
    rw [madeOf_append] at hroom
    have hstays := closed_of_unopened h (allInMemory_append.1 hmem).1 (by omega) hclosed hnot
    rw [hopen] at hstays
    cases hstays
  · rintro ⟨happens, hin, hopens⟩
    obtain ⟨soon, rest, rfl⟩ := List.append_of_mem hin
    have hpresent : (m.cluster.stateOf? id).isSome = true := by
      rw [hclosed]
      rfl
    refine ⟨soon ++ [happens], ⟨rest, by rw [List.append_assoc]; rfl⟩, ?_⟩
    exact opened_of_opens h hmem hroom hpresent hopens
  · rintro soon env draws r rest rfl c hc rfl
    obtain ⟨htidy, ⟨⟨henv, hnew⟩, -⟩, -⟩ := following_room h hmem hroom
    have hopen := stateOf?_of_allocate htidy henv hnew hc
    -- The request itself does not open the pipeline either.
    have hsplit : soon ++ .operation (.allocate env draws r) :: rest =
        (soon ++ [.operation (.allocate env draws r)]) ++ rest := by
      rw [List.append_assoc]
      rfl
    rw [hsplit] at hmem hroom hnot
    rw [madeOf_append] at hroom
    have hstays := closed_of_unopened h (allInMemory_append.1 hmem).1 (by omega) hclosed
      fun happens hin => hnot happens (List.mem_append_left rest hin)
    rw [following_append] at hstays
    cases hopen.symm.trans hstays

namespace Sample

/-- The pipeline that the first request makes. -/
def first : PipelineId := ⟨.ofNat 100⟩

/-- A request for a container. -/
def asking : Happening :=
  .operation (.allocate Allocator.Sample.world (fun _ => (0, 0)) Allocator.Sample.request)

/-- A request makes a pipeline, a writer fills its container, and the next request closes
the pipeline.  The node is dead by then, so no other one is made. -/
def wearing : List Happening :=
  [.operation (.reportNode { descriptor := Allocator.Sample.node.descriptor, containers := [] }),
    .operation .forceExit, asking, .usedBytes ⟨1⟩ 18446744073709551615,
    .operation (.heartbeat Allocator.Sample.node.descriptor.id .dead), asking]

/-- Somebody opens the pipeline, whose container has room again. -/
def opening : List Happening :=
  [.operation (.openPipeline Allocator.Sample.world first), .usedBytes ⟨1⟩ 0]

end Sample

theorem closed_until_opened_sample :
    (Sample.manager.following (Sample.wearing ++ [.usedBytes ⟨1⟩ 0])).cluster.stateOf?
      Sample.first = some .closed := by
  have hmem : AllInMemory Sample.manager (Sample.wearing ++ [.usedBytes ⟨1⟩ 0]) :=
    ⟨trivial, trivial, ⟨Allocator.Sample.world_inMemory, by decide +kernel⟩, trivial, trivial,
      ⟨Allocator.Sample.world_inMemory, by decide +kernel⟩, trivial, trivial⟩
  refine ((closed_until_opened Cluster.tidy_empty hmem (by decide +kernel)
    (by decide +kernel)).2 fun happens hin => ?_).1
  rintro ⟨env, rfl⟩
  simp at hin

/-- A pipeline that was closed is open once somebody opens it, and then a request is given
the container on it. -/
theorem opened_after_closed :
    inMemory .development {} = .ok Sample.manager ∧
      (Sample.manager.following Sample.wearing).cluster.stateOf? Sample.first = some .closed ∧
      (Sample.manager.following (Sample.wearing ++ Sample.opening)).cluster.stateOf? Sample.first =
        some .opened ∧
      (((Sample.manager.following (Sample.wearing ++ Sample.opening)).allocate
        Allocator.Sample.world (fun _ => (0, 0)) Allocator.Sample.request).1.bind
          Except.toOption).map (·.pipeline) = some Sample.first :=
  ⟨by rfl, by decide +kernel, by decide +kernel, by decide +kernel⟩

end Manager

end ControlPlane

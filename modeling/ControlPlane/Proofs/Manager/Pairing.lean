import Mathlib.Algebra.Group.Nat.Defs
import Mathlib.Data.List.Forall2
import ControlPlane.Proofs.Allocation.Outcome
import ControlPlane.Proofs.Allocation.Serviceable
import ControlPlane.Proofs.Manager.Run

/-!
# Pipelines and containers in memory

As long as nothing but the operations of the control plane changes a cluster in
memory, its pipelines and its containers come in pairs.  The pairs are in the order
in which they were made, and no operation takes one apart.

* `Pair` and `Paired` are the invariant.  `Paired.matched` reads it off by
  identifiers.
* `Paired.serviceable`.  Every container is empty, so no open pipeline is ever of no
  use, and a request that `refusal?` lets through closes none.
* `Op.grown` is one operation and `after_grown` a run.  Only a request that makes a
  container adds a pair, and what was there before stays as it was.
-/

namespace ControlPlane

/-! ## Rows -/

/-- Opening a pipeline that is open changes nothing. -/
theorem Pool.modify_reopen {p : Pool} {id : PipelineId}
    (h : ∀ e, p.find? id = some e → e.pipeline.state = .opened) :
    p.modify id Entry.reopen Entry.reopen_id = p := by
  refine Pool.ext (Table.ext ?_)
  refine (List.map_congr_left fun r hr => ?_).trans (List.map_id _)
  by_cases hid : r.1 = id
  · subst hid
    have hopen : r.2.pipeline.state = .opened := h r.2 (find?_eq_some_iff.2 hr)
    rw [if_pos rfl]
    show (r.1, r.2.reopen) = r
    rw [Entry.reopen, ← hopen]
  · exact if_neg hid

theorem exists_of_forall₂ {α β : Type} {R : α → β → Prop} {as : List α} {bs : List β}
    (h : List.Forall₂ R as bs) {a : α} (ha : a ∈ as) : ∃ b ∈ bs, R a b := by
  induction h with
  | nil => simp at ha
  | cons hab _ ih =>
    rcases List.mem_cons.1 ha with rfl | ha
    · exact ⟨_, List.mem_cons_self, hab⟩
    · obtain ⟨b, hb, hab⟩ := ih ha
      exact ⟨b, List.mem_cons_of_mem _ hb, hab⟩

/-! ## Pairs -/

/-- A row of the pool and a row of the inventory that belong together. -/
structure Pair (p : PipelineId × Pool.Entry) (c : ContainerId × Container) : Prop where
  opened : p.2.pipeline.state = .opened
  valid : p.2.pipeline.scheme.validate = .ok ()
  members : p.2.pipeline.members.length = p.2.pipeline.scheme.requiredNodes
  distinct : p.2.pipeline.members.Nodup
  /-- The pipeline lists the container and no other. -/
  lists : p.2.containers.toList = [c.1]
  /-- The container names the pipeline. -/
  names : c.2.pipeline = p.1
  scheme : c.2.scheme = p.2.pipeline.scheme
  writable : c.2.state = .opened
  blank : c.2.usedBytes = 0

/-- The number of the container that was made after some others. -/
def ContainerId.nth (i : Nat) : ContainerId := ⟨UInt64.ofNat (i + 1)⟩

theorem ContainerId.rank_nth {i : Nat} (h : i + 1 < 2 ^ 64) : rank (nth i) = i + 1 :=
  UInt64.toNat_ofNat_of_lt' h

namespace Cluster

/-- Pipelines and containers come in pairs, in the order in which they were made,
and the containers are numbered from one on. -/
structure Paired (k : Cluster) : Prop where
  pairs : List.Forall₂ Pair k.pipelines.entries.rows k.containers.containers.rows
  numbered : k.containers.containers.keys = (List.range k.containers.size).map .nth
  next : k.containers.next.toNat = k.containers.size + 1

/-- Pipelines and containers belong together one to one. -/
structure Matched (k : Cluster) : Prop where
  /-- A container is listed by the pipeline that it names and by no other. -/
  container : ∀ id c, k.containers.find? id = some c →
    ∃ e, k.pipelines.find? c.pipeline = some e ∧ e.containers.toList = [id] ∧
      c.scheme = e.pipeline.scheme ∧
      ∀ j e', k.pipelines.find? j = some e' → id ∈ e'.containers → j = c.pipeline
  /-- A pipeline lists one container, which names it. -/
  pipeline : ∀ id e, k.pipelines.find? id = some e →
    ∃ c, k.containers.find? c.id = some c ∧ e.containers.toList = [c.id] ∧ c.pipeline = id

variable {k k' : Cluster}

theorem paired_empty : Paired {} := ⟨.nil, rfl, rfl⟩

namespace Paired

theorem of_find?_pipeline (h : k.Paired) {id : PipelineId} {e : Pool.Entry}
    (he : k.pipelines.find? id = some e) :
    ∃ c, k.containers.find? c.id = some c ∧ Pair (id, e) (c.id, c) := by
  obtain ⟨⟨j, c⟩, hrow, hpair⟩ := exists_of_forall₂ h.pairs (Pool.find?_eq_some_iff.1 he)
  have hid : c.id = j := k.containers.keyed _ hrow
  subst hid
  exact ⟨c, SortedMap.find?_eq_some_iff.2 hrow, hpair⟩

theorem of_find?_container (h : k.Paired) {id : ContainerId} {c : Container}
    (hc : k.containers.find? id = some c) :
    ∃ e, k.pipelines.find? c.pipeline = some e ∧ Pair (c.pipeline, e) (id, c) := by
  have hpairs : List.Forall₂ (flip Pair) _ _ := h.pairs.flip
  obtain ⟨⟨j, e⟩, hrow, hpair⟩ := exists_of_forall₂ hpairs (SortedMap.find?_eq_some_iff.1 hc)
  have hnames : c.pipeline = j := hpair.names
  subst hnames
  exact ⟨e, Pool.find?_eq_some_iff.2 hrow, hpair⟩

theorem matched (h : k.Paired) : k.Matched := by
  constructor
  · intro id c hc
    obtain ⟨e, he, hpair⟩ := h.of_find?_container hc
    refine ⟨e, he, hpair.lists, hpair.scheme, fun j e' he' hmem => ?_⟩
    obtain ⟨c', hc', hpair'⟩ := h.of_find?_pipeline he'
    -- The other pipeline lists one container only, so that is this one.
    have hlists : e'.containers.toList = [c'.id] := hpair'.lists
    rw [SortedSet.mem_def, hlists, List.mem_singleton] at hmem
    subst hmem
    obtain rfl := Option.some.inj (hc.symm.trans hc')
    exact hpair'.names.symm
  · intro id e he
    obtain ⟨c, hc, hpair⟩ := h.of_find?_pipeline he
    exact ⟨c, hc, hpair.lists, hpair.names⟩

/-! ## What requests meet -/

/-- Pipelines are open, so opening one again changes nothing. -/
theorem modify_reopen (h : k.Paired) (id : PipelineId) :
    k.pipelines.modify id Pool.Entry.reopen Pool.Entry.reopen_id = k.pipelines := by
  refine Pool.modify_reopen fun e he => ?_
  obtain ⟨c, -, hpair⟩ := h.of_find?_pipeline he
  exact hpair.opened

theorem serviceable (h : k.Paired) : k.Serviceable := by
  intro id e he
  obtain ⟨c, hc, hpair⟩ := h.of_find?_pipeline he
  have hlists : e.containers.toList = [c.id] := hpair.lists
  have hmem {j : ContainerId} : j ∈ e.containers ↔ j = c.id := by
    rw [SortedSet.mem_def, hlists, List.mem_singleton]
  exact ⟨⟨c.id, hmem.2 rfl⟩, fun j hj => hmem.1 hj ▸ ⟨c, hc, hpair.writable, hpair.blank⟩⟩

/-- The number of the next container is above those of all others. -/
theorem rank_lt_next (h : k.Paired) {row : ContainerId × Container}
    (hrow : row ∈ k.containers.containers.rows) :
    rank row.1 < rank (⟨k.containers.next⟩ : ContainerId) := by
  have hmem : row.1 ∈ k.containers.containers.keys := List.mem_map.2 ⟨row, hrow, rfl⟩
  rw [h.numbered] at hmem
  obtain ⟨i, hi, hnth⟩ := List.mem_map.1 hmem
  have hlt : i < k.containers.size := List.mem_range.1 hi
  have hnext : k.containers.next.toNat = k.containers.size + 1 := h.next
  have hword : k.containers.next.toNat < 2 ^ 64 := k.containers.next.toNat_lt
  rw [← hnth, ContainerId.rank_nth (by omega)]
  show i + 1 < k.containers.next.toNat
  omega

theorem find?_next (h : k.Paired) : k.containers.find? ⟨k.containers.next⟩ = none := by
  refine Option.eq_none_iff_forall_ne_some.2 fun c hc => ?_
  have hlt := h.rank_lt_next (SortedMap.find?_eq_some_iff.1 hc)
  exact Nat.lt_irrefl _ hlt

end Paired

/-- A cluster of pairs that has every pipeline of another one as it was there, and a
bounded number of pairs more. -/
structure Grown (k k' : Cluster) (n : Nat) : Prop where
  paired : k'.Paired
  rows : k.pipelines.entries.rows <+: k'.pipelines.entries.rows
  size : k'.containers.size ≤ k.containers.size + n

namespace Grown

theorem of_same (h : k.Paired) (hpipelines : k'.pipelines = k.pipelines)
    (hcontainers : k'.containers = k.containers) : k.Grown k' 0 := by
  refine ⟨⟨?_, ?_, ?_⟩, ?_, ?_⟩
  · rw [hpipelines, hcontainers]
    exact h.pairs
  · rw [hcontainers]
    exact h.numbered
  · rw [hcontainers]
    exact h.next
  · exact hpipelines ▸ List.prefix_refl _
  · exact Nat.le_of_eq (congrArg Inventory.size hcontainers)

theorem mono {n n' : Nat} (h : k.Grown k' n) (hn : n ≤ n') : k.Grown k' n' := by
  have hsize := h.size
  exact ⟨h.paired, h.rows, by omega⟩

theorem trans {k'' : Cluster} {n n' : Nat} (h : k.Grown k' n) (h' : k'.Grown k'' n') :
    k.Grown k'' (n + n') := by
  have hsize := h.size
  have hsize' := h'.size
  exact ⟨h'.paired, h.rows.trans h'.rows, by omega⟩

end Grown

/-- Handing a container to a writer leaves the pairs as they are. -/
theorem Paired.handing (h : k.Paired) (id : ContainerId) (now : Instant) :
    k.Grown (k.handing id now) 0 := by
  have hrows : (k.handing id now).containers.containers.rows =
      k.containers.containers.rows.map fun row =>
        if rank row.1 = rank id then (row.1, row.2.usedAt now) else row := rfl
  have hkeys := k.handing_keys id now
  have hsize : (k.handing id now).containers.size = k.containers.size := List.length_map _
  refine ⟨⟨?_, ?_, ?_⟩, List.prefix_refl _, Nat.le_of_eq hsize⟩
  · show List.Forall₂ Pair k.pipelines.entries.rows _
    rw [hrows]
    refine List.forall₂_map_right_iff.2 (h.pairs.imp fun p c hpair => ?_)
    -- The moment of the last use is no part of what makes a pair.
    split
    · exact ⟨hpair.opened, hpair.valid, hpair.members, hpair.distinct, hpair.lists, hpair.names,
        hpair.scheme, hpair.writable, hpair.blank⟩
    · exact hpair
  · rw [hkeys, hsize]
    exact h.numbered
  · rw [hsize]
    exact h.next

/-- Making a pipeline adds one pair. -/
theorem Paired.started (h : k.Paired) {env : Environment} {r : Request} {members : List NodeId}
    {c : Container} {containers : Inventory} (henv : env.InMemory)
    (hvalid : r.scheme.validate = .ok ())
    (hnew : k.pipelines.find? (env.newId k.pipelines.entries.size) = none)
    (hroom : k.containers.size + 2 < 2 ^ 64)
    (hmembers : Allocator.membersFor env k r = .ok members)
    (hc : k.containers.allocate r.owner (Allocator.planned env k r members .opened) env.now =
      (c, containers)) :
    k.Grown (k.started (Allocator.newEntry env k r members c.id) containers) 1 := by
  obtain ⟨rfl, rfl⟩ := Prod.mk.inj hc
  obtain ⟨hlength, hdistinct, -⟩ := Allocator.of_membersFor_eq_ok henv hmembers
  have hnext : k.containers.next.toNat = k.containers.size + 1 := h.next
  have hid : (⟨k.containers.next⟩ : ContainerId) = .nth k.containers.size := by
    refine rank_injective ?_
    rw [ContainerId.rank_nth (by omega)]
    exact hnext
  generalize hk' : k.started _ _ = k'
  -- Both rows go to the end of their tables.
  have hpool : k'.pipelines.entries.rows = k.pipelines.entries.rows ++
      [(env.newId k.pipelines.entries.size,
        Allocator.newEntry env k r members ⟨k.containers.next⟩)] := by
    rw [← hk']
    exact Pool.rows_put_of_new hnew
  have hstock : k'.containers.containers.rows = k.containers.containers.rows ++
      [(⟨k.containers.next⟩, Container.fresh ⟨k.containers.next⟩
        (env.newId k.pipelines.entries.size) r.scheme r.owner env.now)] := by
    rw [← hk']
    exact Inventory.rows_put_of_greatest fun row => h.rank_lt_next
  have hsize : k'.containers.size = k.containers.size + 1 := by
    rw [Inventory.size, SortedMap.size, hstock, List.length_append]
    rfl
  refine ⟨⟨?_, ?_, ?_⟩, ?_, ?_⟩
  · rw [hpool, hstock]
    refine List.rel_append h.pairs (.cons ?_ .nil)
    exact ⟨rfl, hvalid, hlength, hdistinct, rfl, rfl, rfl, rfl, rfl⟩
  · rw [SortedMap.keys, hstock, List.map_append, hsize, List.range_succ, List.map_append]
    have hnumbered : k.containers.containers.rows.map (·.1) = _ := h.numbered
    rw [hnumbered, List.map_singleton, List.map_singleton, hid]
  · have hword : k'.containers.next = k.containers.next + 1 := hk' ▸ rfl
    rw [hword, UInt64.toNat_add, hsize, hnext]
    exact Nat.mod_eq_of_lt hroom
  · rw [hpool]
    exact List.prefix_append _ _
  · omega

end Cluster

/-! ## Requests -/

namespace Allocator

variable {a : Allocator} {env : Environment} {choose : Chooser} {k : Cluster} {r : Request}
  {out : Except Error Container × Session}

theorem Created.grown (h : Created env k r out) (hk : k.Paired) (henv : env.InMemory)
    (hvalid : r.scheme.validate = .ok ())
    (hnew : k.pipelines.find? (env.newId k.pipelines.entries.size) = none)
    (hroom : k.isNew out.1 = true → k.containers.size + 2 < 2 ^ 64) :
    k.Grown out.2.cluster (if k.isNew out.1 then 1 else 0) := by
  cases h with
  | failed _ hs =>
    rw [hs]
    exact (Cluster.Grown.of_same hk rfl rfl).mono (Nat.zero_le _)
  | abandoned href => exact (henv.willing.not_refuses _ href).elim
  | made hmembers hc hs =>
    next c _ _ =>
    have hid : (⟨k.containers.next⟩ : ContainerId) = c.id := congrArg (·.1.id) hc
    have hmakes : k.isNew (.ok c) = true := by
      show (k.containers.find? c.id).isNone = true
      rw [← hid, hk.find?_next]
      rfl
    rw [hs, if_pos hmakes]
    exact hk.started henv hvalid hnew (hroom hmakes) hmembers hc

theorem Requested.grown {out : Ending × Session} (h : Requested a env choose k r out)
    (hk : k.Paired) (henv : env.InMemory) (hpicks : choose.Picks)
    (hvalid : r.scheme.validate = .ok ()) (hsize : r.size.toNat ≤ a.maxSize.toNat)
    (hnew : k.pipelines.find? (env.newId k.pipelines.entries.size) = none)
    (hroom : out.1.any k.isNew = true → k.containers.size + 2 < 2 ^ 64) :
    k.Grown out.2.cluster (if out.1.any k.isNew then 1 else 0) := by
  have hw := henv.willing
  -- Only useless pipelines are closed, and there is none.
  have hnone : ∀ q ∈ k.pipelines.opened r.scheme, ¬a.Useless k r q := fun q =>
    hk.serviceable.not_useless hsize
  cases h with
  | invalid hfault =>
    rw [hvalid] at hfault
    simp at hfault
  | brokenOff _ hs =>
    rw [hs]
    exact Cluster.Grown.of_same hk rfl rfl
  | created _ _ hcreated => exact hcreated.grown hk henv hvalid hnew hroom
  | fellBack _ hfirst hback =>
    obtain rfl := hfirst.cluster hw
    cases hback with
    | reused hfound hs =>
      rw [hfound.eq_nil hw hnone, Cluster.closing_nil] at hs
      rw [hs]
      exact (hk.handing _ env.now).mono (Nat.zero_le _)
    | full hsearched _ hs =>
      rw [hsearched.eq_nil hw hpicks hnone, Cluster.closing_nil] at hs
      rw [hs]
      exact (Cluster.Grown.of_same hk rfl rfl).mono (Nat.zero_le _)
    | again hsearched _ hcreated =>
      rw [hsearched.eq_nil hw hpicks hnone, Cluster.closing_nil] at hcreated
      exact hcreated.grown hk henv hvalid hnew hroom

theorem allocate_grown (hk : k.Paired) (henv : env.InMemory) (hpicks : choose.Picks)
    (hsize : r.size.toNat ≤ a.maxSize.toNat)
    {s : Session} (hs : s.cluster = k)
    (hnew : k.pipelines.find? (env.newId k.pipelines.entries.size) = none)
    (hroom : (a.allocate env choose r s).1.any k.isNew = true → k.containers.size + 2 < 2 ^ 64) :
    k.Grown (a.allocate env choose r s).2.cluster
      (if (a.allocate env choose r s).1.any k.isNew then 1 else 0) := by
  cases hvalid : r.scheme.validate with
  | error err =>
    rw [allocate_of_error hvalid]
    exact (Cluster.Grown.of_same hk (by rw [hs]) (by rw [hs])).mono (Nat.zero_le _)
  | ok =>
    have hrequested := allocate_requested a env choose r s
    rw [hs] at hrequested
    exact hrequested.grown hk henv hpicks hvalid hsize hnew hroom

end Allocator

/-! ## Operations -/

namespace Session

/-- Opening a pipeline and looking it up changes nothing, as it is open already. -/
theorem openPipeline_same {env : Environment} {id : PipelineId} {s : Session}
    (h : s.cluster.Paired) : (openPipeline env id s).2.cluster = s.cluster := by
  have hcall := openPipeline_outcome env s id
  generalize openPipeline env id s = out at hcall ⊢
  rcases hcall with ⟨-, hs⟩ | ⟨-, hs⟩ | ⟨-, hs⟩
  · exact hs
  · exact hs
  · rw [h.modify_reopen] at hs
    exact hs

end Session

namespace Manager

variable {m : Manager}

theorem openPipeline_cluster {env : Environment} {id : PipelineId} (h : m.cluster.Paired) :
    (m.openPipeline env id).2.cluster = m.cluster := by
  rw [openPipeline_session]
  exact Session.openPipeline_same h

theorem size_le_of_refusal? {r : Request} (h : m.refusal? r = none) :
    r.size.toNat ≤ m.allocator.maxSize.toNat := by
  unfold refusal? at h
  split at h
  · simp at h
  · split at h
    · simp at h
    · next hsize => exact Nat.le_of_not_lt fun hlt => hsize (UInt64.lt_iff_toNat_lt.2 hlt)

theorem allocate_grown {env : Environment} {draws : List Pipeline → Nat × Nat} {r : Request}
    (h : m.cluster.Paired) (henv : env.InMemory)
    (hnew : m.cluster.pipelines.find? (env.newId m.cluster.pipelines.entries.size) = none)
    (hroom : (m.allocate env draws r).1.any m.cluster.isNew = true →
      m.cluster.containers.size + 2 < 2 ^ 64) :
    m.cluster.Grown (m.allocate env draws r).2.1.cluster
      (if (m.allocate env draws r).1.any m.cluster.isNew then 1 else 0) := by
  unfold allocate at hroom ⊢
  cases hrefusal : m.refusal? r with
  | some e => exact (Cluster.Grown.of_same h rfl rfl).mono (Nat.zero_le _)
  | none =>
    have hpicks := m.settings.provider.policy.chooser_picks m.cluster.nodes draws
    rw [hrefusal] at hroom
    exact Allocator.allocate_grown h henv hpicks (size_le_of_refusal? hrefusal) rfl hnew hroom

/-- One operation. -/
theorem Op.grown {op : Op} (h : m.cluster.Paired) (hop : op.InMemory m)
    (hroom : op.makes m = true → m.cluster.containers.size + 2 < 2 ^ 64) :
    m.cluster.Grown (op.run m).cluster (if op.makes m then 1 else 0) := by
  cases op with
  | reportNode r => exact .of_same h rfl rfl
  | heartbeat id health =>
    obtain ⟨hpipelines, hcontainers⟩ := heartbeat_stores m id health
    exact .of_same h hpipelines hcontainers
  | reportPipelines id pipelines =>
    have hsame := reportPipelines_cluster m id pipelines
    exact .of_same h (congrArg _ hsame) (congrArg _ hsame)
  | openPipeline env id =>
    have hsame : (m.openPipeline env id).2.cluster = m.cluster := openPipeline_cluster h
    exact .of_same h (congrArg _ hsame) (congrArg _ hsame)
  | allocate env draws r => exact allocate_grown h hop.1 hop.2 hroom
  | forceExit => exact .of_same h rfl rfl
  | refresh => exact .of_same h rfl rfl
  | register name => exact .of_same h rfl rfl
  | registerGate name => exact .of_same h rfl rfl

/-! ## Runs -/

theorem after_grown {ops : List Op} (h : m.cluster.Paired) (hops : InMemory m ops)
    (hroom : m.cluster.containers.size + made m ops + 1 < 2 ^ 64) :
    m.cluster.Grown (m.after ops).cluster (made m ops) := by
  induction ops generalizing m with
  | nil => exact .of_same h rfl rfl
  | cons op ops ih =>
    obtain ⟨hop, hops⟩ := hops
    rw [made] at hroom ⊢
    have hstep := Op.grown h hop fun hmakes => by
      rw [if_pos hmakes] at hroom
      omega
    have hsize := hstep.size
    exact hstep.trans (ih hstep.paired hops (by omega))

/-- Over a cluster in memory pipelines and containers are made in pairs, and every
pipeline stays as it was made. -/
theorem inMemory_paired {settings : Settings} {metrics : Metrics} {ops : List Op}
    (hstart : inMemory settings metrics = .ok m) (hops : InMemory m ops)
    (hmade : made m ops < 2 ^ 64 - 1) :
    (m.after ops).cluster.Paired ∧ (m.after ops).cluster.Matched ∧
      ∀ before, before <+: ops →
        (m.after before).cluster.pipelines.entries.rows <+:
          (m.after ops).cluster.pipelines.entries.rows := by
  have hempty : m.cluster = {} := (of_start_eq_ok hstart).1
  have hpaired : m.cluster.Paired := hempty ▸ Cluster.paired_empty
  have hnone : m.cluster.containers.size = 0 := hempty ▸ rfl
  have hrun := after_grown hpaired hops (by omega)
  refine ⟨hrun.paired, hrun.paired.matched, ?_⟩
  rintro before ⟨rest, rfl⟩
  obtain ⟨hbefore, hrest⟩ := inMemory_append.1 hops
  rw [made_append] at hmade
  have hfirst := after_grown hpaired hbefore (by omega)
  have hsize := hfirst.size
  have hthen := after_grown hfirst.paired hrest (by omega)
  rw [after_append]
  exact hthen.rows

namespace Sample

/-- A node reports, safe mode ends, and two requests come. -/
def ops : List Op :=
  [.reportNode { descriptor := Allocator.Sample.node.descriptor, containers := [] }, .forceExit,
    .allocate Allocator.Sample.world (fun _ => (0, 0)) Allocator.Sample.request,
    .allocate Allocator.Sample.world (fun _ => (0, 0)) Allocator.Sample.request]

/-- The control plane of a development node. -/
def manager : Manager where
  settings := .development
  cluster := {}
  safeMode := .start true (Readiness.rulesOf Settings.development.safeMode {}) {} {} {}

end Sample

theorem inMemory_paired_sample :
    (Sample.manager.after Sample.ops).cluster.Paired ∧
      (Sample.manager.after Sample.ops).cluster.pipelines.entries.rows.length = 1 := by
  have hstart : inMemory .development {} = .ok Sample.manager := by rfl
  have hops : InMemory Sample.manager Sample.ops :=
    ⟨trivial, trivial, ⟨Allocator.Sample.world_inMemory, by decide +kernel⟩,
      ⟨Allocator.Sample.world_inMemory, by decide +kernel⟩, trivial⟩
  exact ⟨(inMemory_paired hstart hops (by decide +kernel)).1, by decide +kernel⟩

end Manager
end ControlPlane

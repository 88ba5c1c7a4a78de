import ControlPlane.Proofs.Allocation.Request
import ControlPlane.Proofs.Placement
import ControlPlane.Proofs.Registry

/-!
# What a request is given

A container that a request gets is on an open pipeline of the scheme, which lists
it, and it has room for the bytes.  Either the request made both, and then the
members of the pipeline are different nodes in service that it does not exclude.
Or both were there before, and then nothing about them is excluded and no container
before it on the pipeline would have done.
-/

namespace ControlPlane

/-- Every known container that a pipeline lists names that pipeline and has its
scheme. -/
def Cluster.Linked (k : Cluster) : Prop :=
  ∀ id e c, k.pipelines.find? id = some e → c.id ∈ e.containers →
    k.containers.find? c.id = some c → c.pipeline = id ∧ c.scheme = e.pipeline.scheme

namespace Allocator

variable {a : Allocator} {env : Environment} {choose : Chooser} {k k' : Cluster} {r : Request}
  {c : Container}

/-- After the request the container is on an open pipeline of the scheme, and it is
known as it was given out, as used just now. -/
structure Delivered (a : Allocator) (env : Environment) (k' : Cluster) (r : Request)
    (c : Container) : Prop where
  pipeline : ∃ e, k'.pipelines.find? c.pipeline = some e ∧ e.pipeline.state = .opened ∧
    e.pipeline.scheme = r.scheme ∧ c.id ∈ e.containers
  known : k'.containers.find? c.id = some (c.usedAt env.now)
  state : c.state = .opened
  space : c.hasSpace r.size a.maxSize = true

/-- The request made the container and its pipeline. -/
structure MadeNew (env : Environment) (k k' : Cluster) (r : Request) (c : Container) : Prop where
  absent : k.pipelines.find? c.pipeline = none
  /-- The container was not known either, if the inventory has not run out of numbers. -/
  unknown : (∀ id d, k.containers.find? id = some d → id.number < k.containers.next) →
    k.containers.find? c.id = none
  present : ∃ e, k'.pipelines.find? c.pipeline = some e ∧
    k.containers.allocate r.owner e.pipeline env.now = (c, k'.containers) ∧
    e.pipeline.members.length = r.scheme.requiredNodes ∧ e.pipeline.members.Nodup ∧
    ∀ id ∈ e.pipeline.members, id ∉ r.exclude.nodes ∧
      ∃ n, k.nodes.find? id = some n ∧ n.status.isInService = true ∧ n.status.isHealthy = true

/-- The container was on an open pipeline before, and it is the first there that
serves the request. -/
structure Reused (a : Allocator) (k : Cluster) (r : Request) (c : Container) : Prop where
  pipeline : ∃ e, k.pipelines.find? c.pipeline = some e ∧ e.pipeline.state = .opened ∧
    c.pipeline ∉ r.exclude.pipelines ∧ (∀ id ∈ e.pipeline.members, id ∉ r.exclude.nodes) ∧
    c.id ∈ e.containers ∧
    ∀ j ∈ e.containers, rank j < rank c.id → j ∉ r.exclude.containers →
      ∀ d, k.containers.find? j = some d →
        ¬(d.state = .opened ∧ d.hasSpace r.size a.maxSize = true)
  known : k.containers.find? c.id = some c
  usable : c.id ∉ r.exclude.containers

theorem accepts_eq_true_iff {size limit : UInt64} :
    c.accepts size limit = true ↔ c.state = .opened ∧ c.hasSpace size limit = true := by
  simp only [Container.accepts, Bool.and_eq_true, beq_iff_eq]

theorem excludesContainer_eq_false_iff {x : Exclusions} {id : ContainerId} :
    x.excludesContainer id = false ↔ id ∉ x.containers := by
  rw [← Bool.not_eq_true, Exclusions.excludesContainer, SortedSet.contains_iff_mem]

theorem excludesPipeline_eq_false_iff {x : Exclusions} {p : Pipeline} :
    x.excludesPipeline p = false ↔ p.id ∉ x.pipelines ∧ ∀ id ∈ p.members, id ∉ x.nodes := by
  simp only [Exclusions.excludesPipeline, Exclusions.excludesNode, Bool.or_eq_false_iff,
    List.any_eq_false, SortedSet.contains_iff_mem]
  rw [← Bool.not_eq_true, SortedSet.contains_iff_mem]

/-! ## A new pipeline -/

/-- The members of a new pipeline. -/
theorem of_membersFor_eq_ok (henv : env.InMemory) {members : List NodeId}
    (h : membersFor env k r = .ok members) :
    members.length = r.scheme.requiredNodes ∧ members.Nodup ∧
      ∀ id ∈ members, id ∉ r.exclude.nodes ∧
        ∃ n, k.nodes.find? id = some n ∧ n.status.isInService = true ∧
          n.status.isHealthy = true := by
  have hroster := henv.roster k.nodes
  have hnodup : ((env.roster k.nodes).map (·.descriptor.id)).Nodup :=
    (hroster.map _).nodup_iff.2 (Registry.infos_ids_nodup k.nodes)
  obtain ⟨hlength, hmembers, hall⟩ := Placement.of_choose_eq_ok hnodup h
  refine ⟨hlength, hmembers, fun id hid => ?_⟩
  obtain ⟨n, hn, rfl, heligible, hexcl⟩ := hall id hid
  obtain ⟨e, he, rfl⟩ := Registry.mem_infos.1 (hroster.subset hn)
  have hstatus : e.status.isInService = true ∧ e.status.isHealthy = true := by
    simpa [Registry.Entry.info, NodeStatus.isEligible] using heligible
  exact ⟨hexcl, e, he, hstatus⟩

theorem Created.delivered {s : Session} (hsize : r.size.toNat ≤ a.maxSize.toNat)
    (h : Created env k r (.ok c, s)) : Delivered a env s.cluster r c := by
  cases h with
  | made hmembers hc hs =>
    next members containers =>
    obtain ⟨hcontainer, hcontainers⟩ := Prod.mk.inj hc
    refine ⟨⟨newEntry env k r members c.id, ?_, rfl, rfl, ?_⟩, ?_, ?_, ?_⟩
    · rw [hs, ← hcontainer]
      exact Pool.find?_put.trans (if_pos rfl)
    · exact SortedSet.mem_insert.2 (.inl rfl)
    · rw [hs, ← hcontainer, ← hcontainers]
      exact Inventory.find?_put.trans (if_pos rfl)
    · rw [← hcontainer]
      rfl
    · rw [← hcontainer]
      simpa [Container.hasSpace, Container.remaining, Container.fresh] using hsize

theorem Created.madeNew {s : Session} (henv : env.InMemory)
    (hfresh : k.pipelines.find? (env.newId k.pipelines.entries.size) = none)
    (h : Created env k r (.ok c, s)) : MadeNew env k s.cluster r c := by
  cases h with
  | made hmembers hc hs =>
    next members containers =>
    obtain ⟨hlength, hnodup, hall⟩ := of_membersFor_eq_ok henv hmembers
    have hpipeline : c.pipeline = env.newId k.pipelines.entries.size :=
      (congrArg (·.1.pipeline) hc).symm
    have hnumber : c.id.number = k.containers.next := (congrArg (·.1.id.number) hc).symm
    refine ⟨hpipeline ▸ hfresh, fun hnext => ?_,
      newEntry env k r members c.id, ?_, ?_, hlength, hnodup, hall⟩
    · refine Option.eq_none_iff_forall_ne_some.2 fun d hd => ?_
      have := hnext c.id d hd
      rw [hnumber] at this
      exact absurd this (UInt64.lt_irrefl _)
    · rw [hs, hpipeline]
      exact Pool.find?_put.trans (if_pos rfl)
    · rw [hs]
      exact hc

/-- Closing pipelines before does not make a new one less new. -/
theorem MadeNew.of_closing {ids : List PipelineId} (h : MadeNew env (k.closing ids) k' r c) :
    MadeNew env k k' r c :=
  ⟨Pool.find?_closing_eq_none.1 h.absent, h.unknown, h.present⟩

/-! ## A pipeline that was there -/

theorem Serves.delivered {p : Pipeline} {ids : List PipelineId} (hlinked : k.Linked)
    (hp : p ∈ k.pipelines.opened r.scheme) (hids : p.id ∉ ids) (h : a.Serves k r p c) :
    Delivered a env ((k.closing ids).handing c.id env.now) r c := by
  obtain ⟨⟨cs, he⟩, hscheme, hstate⟩ := Pool.mem_opened.1 hp
  have hbound : k.pipelines.bound p.id = cs := Pool.bound_of_find? he
  have hmem : c.id ∈ cs := hbound ▸ h.mem
  obtain ⟨hpipeline, -⟩ := hlinked _ _ _ he hmem h.known
  obtain ⟨hopen, hspace⟩ := accepts_eq_true_iff.1 h.accepts
  refine ⟨⟨⟨p, cs⟩, ?_, hstate, hscheme, hmem⟩, ?_, hopen, hspace⟩
  · rw [hpipeline]
    exact (Pool.find?_closing.trans (if_neg hids)).trans he
  · rw [Cluster.handing_find?]
    exact congrArg (Option.map (·.usedAt env.now)) h.known

theorem Serves.reused {p : Pipeline} (hlinked : k.Linked)
    (hp : p ∈ k.pipelines.opened r.scheme) (husable : r.exclude.excludesPipeline p = false)
    (h : a.Serves k r p c) : Reused a k r c := by
  obtain ⟨⟨cs, he⟩, -, hstate⟩ := Pool.mem_opened.1 hp
  have hbound : k.pipelines.bound p.id = cs := Pool.bound_of_find? he
  obtain ⟨hpipeline, -⟩ := hlinked _ _ _ he (hbound ▸ h.mem) h.known
  obtain ⟨hid, hmembers⟩ := excludesPipeline_eq_false_iff.1 husable
  refine ⟨⟨⟨p, cs⟩, hpipeline ▸ he, hstate, hpipeline ▸ hid, hmembers, hbound ▸ h.mem, ?_⟩,
    h.known, excludesContainer_eq_false_iff.1 h.usable⟩
  intro j hj hlt hexcl d hd haccepts
  obtain ⟨d', hd', hfull⟩ := h.first j (hbound ▸ hj) hlt (excludesContainer_eq_false_iff.2 hexcl)
  obtain rfl := Option.some.inj (hd.symm.trans hd')
  rw [accepts_eq_true_iff.2 haccepts] at hfull
  simp at hfull

/-! ## Both -/

theorem allocate_sound (henv : env.InMemory) {s s' : Session} (hlinked : s.cluster.Linked)
    (hsize : r.size.toNat ≤ a.maxSize.toNat)
    (hfresh : s.cluster.pipelines.find? (env.newId s.cluster.pipelines.entries.size) = none)
    (h : a.allocate env choose r s = (some (.ok c), s')) :
    Delivered a env s'.cluster r c ∧
      (MadeNew env s.cluster s'.cluster r c ∨ Reused a s.cluster r c) := by
  have hrequested := allocate_requested a env choose r s
  rw [h] at hrequested
  rcases hrequested with - | - | ⟨-, -, hcreated⟩ | ⟨-, hfirst, hback⟩
  · exact ⟨hcreated.delivered hsize, .inl (hcreated.madeNew henv hfresh)⟩
  · obtain rfl := hfirst.cluster henv.willing
    rcases hback with ⟨hfound, hs⟩ | - | ⟨-, -, hcreated⟩
    · next p ids =>
      obtain ⟨hp, husable⟩ := mem_usable.1 hfound.usable
      have hstays : p.id ∉ ids := fun hid => by
        obtain ⟨q, hq, hid', hother⟩ := hfound.closes p.id hid
        exact (hother henv.willing).1 (Pool.eq_of_mem_opened hq hp hid')
      exact ⟨hs ▸ hfound.serves.delivered hlinked hp hstays,
        .inr (hfound.serves.reused hlinked hp husable)⟩
    · next ids =>
      have hfresh' : (s.cluster.closing ids).pipelines.find?
          (env.newId (s.cluster.closing ids).pipelines.entries.size) = none := by
        rw [Cluster.closing, Pool.size_closing]
        exact Pool.find?_closing_eq_none.2 hfresh
      exact ⟨hcreated.delivered hsize, .inl (hcreated.madeNew henv hfresh').of_closing⟩

theorem Sample.cluster_linked : Sample.cluster.Linked := by
  intro id e c he hc hknown
  rw [Sample.cluster, Pool.find?_put] at he
  split at he
  · next hid =>
    obtain rfl := Option.some.inj he
    have hfull : Sample.full.id = c.id := by
      rcases SortedSet.mem_insert.1 hc with h | h
      · exact h.symm
      · exact (SortedSet.not_mem_empty h).elim
    rw [← hfull] at hknown
    obtain rfl := Option.some.inj hknown
    exact ⟨hid, rfl⟩
  · cases he

theorem allocate_sound_sample :
    ∃ c s', Sample.allocator.allocate Sample.world (fun _ => none) Sample.request
        { cluster := Sample.cluster } = (some (.ok c), s') ∧
      Delivered Sample.allocator Sample.world s'.cluster Sample.request c ∧
      (MadeNew Sample.world Sample.cluster s'.cluster Sample.request c ∨
        Reused Sample.allocator Sample.cluster Sample.request c) := by
  have hlimit : Sample.allocator.limit Sample.cluster.nodes Sample.request.scheme = some 2 := by
    decide +kernel
  have hcreate : (create Sample.world Sample.request { cluster := Sample.cluster }).1 =
      .ok (Container.fresh ⟨2⟩ ⟨.ofNat 101⟩ (.ratis .one) "app" ⟨60, 0⟩) := by rfl
  have h : Sample.allocator.allocate Sample.world (fun _ => none) Sample.request
      { cluster := Sample.cluster } = (some (.ok _), _) :=
    allocate_of_create rfl hlimit (by decide +kernel) (Prod.ext hcreate rfl)
  exact ⟨_, _, h,
    allocate_sound Sample.world_inMemory Sample.cluster_linked (by decide) (by decide) h⟩

end Allocator

end ControlPlane

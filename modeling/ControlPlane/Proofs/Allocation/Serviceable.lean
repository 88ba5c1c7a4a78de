import ControlPlane.Proofs.Allocation.Soundness

/-!
# Clusters in which no pipeline is spent

Every pipeline that a request makes gets an empty container, and nothing that the control
plane does by itself fills one.  So a request that does not ask for too much meets no
pipeline that can serve nobody any more, and if it fails it leaves the cluster as it was.

* `Serviceable` is the invariant.  It does not need the names and the numbers of what is
  made to be new: what takes the place of another is empty too.
* `Requested.serviceable` is one request, and `Requested.cluster_of_error` one that fails.
-/

namespace ControlPlane

namespace Cluster

variable {k k' : Cluster}

/-- The container is known and open, and nothing was written to it. -/
def Blank (k : Cluster) (id : ContainerId) : Prop :=
  ∃ c, k.containers.find? id = some c ∧ c.state = .opened ∧ c.usedBytes = 0

/-- Every pipeline lists a container, and no other containers than blank ones. -/
def Serviceable (k : Cluster) : Prop :=
  ∀ id e, k.pipelines.find? id = some e →
    (∃ c, c ∈ e.containers) ∧ ∀ c ∈ e.containers, k.Blank c

theorem serviceable_empty : Serviceable {} := fun _ _ he => by cases he

namespace Serviceable

/-- A pipeline that lists a blank container is of use to any request that does not ask for
too much. -/
theorem not_useless (h : k.Serviceable) {a : Allocator} {r : Request}
    (hsize : r.size.toNat ≤ a.maxSize.toNat) {q : Pipeline}
    (hq : q ∈ k.pipelines.opened r.scheme) : ¬a.Useless k r q := by
  obtain ⟨⟨cs, he⟩, -⟩ := Pool.mem_opened.1 hq
  have hbound : k.pipelines.bound q.id = cs := Pool.bound_of_find? he
  obtain ⟨⟨c, hc⟩, hblank⟩ := h _ _ he
  have hfits : a.Fits k r c := by
    obtain ⟨d, hd, hopen, hused⟩ := hblank c hc
    refine ⟨d, hd, Allocator.accepts_eq_true_iff.2 ⟨hopen, ?_⟩⟩
    simpa [Container.hasSpace, Container.remaining, hused] using hsize
  rw [← hbound] at hc hblank
  rintro (⟨-, hempty⟩ | ⟨-, ⟨id, hid, -, hunknown, -⟩ | hall⟩)
  · rw [SortedSet.isEmpty, List.isEmpty_iff] at hempty
    rw [SortedSet.mem_def, hempty] at hc
    cases hc
  · obtain ⟨d, hd, -⟩ := hblank id hid
    rw [hd] at hunknown
    cases hunknown
  · exact (hall c hc).2 hfits

/-- Pipelines may change as long as they list what they listed before. -/
theorem of_pipelines (h : k.Serviceable) (hcontainers : k'.containers = k.containers)
    (hpipelines : ∀ id e', k'.pipelines.find? id = some e' →
      ∃ e, k.pipelines.find? id = some e ∧ e.containers = e'.containers) : k'.Serviceable := by
  intro id e' he'
  obtain ⟨e, he, hlists⟩ := hpipelines id e' he'
  have hblank := h id e he
  rw [hlists] at hblank
  unfold Blank at hblank ⊢
  rwa [hcontainers]

theorem of_same (h : k.Serviceable) (hpipelines : k'.pipelines = k.pipelines)
    (hcontainers : k'.containers = k.containers) : k'.Serviceable :=
  h.of_pipelines hcontainers fun _ e' he' => ⟨e', hpipelines ▸ he', rfl⟩

theorem modify (h : k.Serviceable) (id : PipelineId) {f : Pool.Entry → Pool.Entry} {hf}
    (hlists : ∀ e, (f e).containers = e.containers) :
    Serviceable { k with pipelines := k.pipelines.modify id f hf } := by
  refine h.of_pipelines rfl fun j e' he' => ?_
  rw [Pool.find?_modify] at he'
  split at he'
  · obtain ⟨e, he, rfl⟩ := Option.map_eq_some_iff.1 he'
    exact ⟨e, he, (hlists e).symm⟩
  · exact ⟨e', he', rfl⟩

theorem closing (h : k.Serviceable) (ids : List PipelineId) : (k.closing ids).Serviceable := by
  refine h.of_pipelines rfl fun j e' he' => ?_
  rw [Cluster.closing, Pool.find?_closing] at he'
  split at he'
  · obtain ⟨e, he, rfl⟩ := Option.map_eq_some_iff.1 he'
    exact ⟨e, he, rfl⟩
  · exact ⟨e', he', rfl⟩

/-- Handing a container to a writer writes nothing. -/
theorem handing (h : k.Serviceable) (id : ContainerId) (now : Instant) :
    (k.handing id now).Serviceable := by
  intro j e he
  obtain ⟨hsome, hblank⟩ := h j e he
  refine ⟨hsome, fun c hc => ?_⟩
  obtain ⟨d, hd, hopen, hused⟩ := hblank c hc
  unfold Blank
  rw [Cluster.handing, Inventory.find?_modify, hd]
  split
  · exact ⟨d.usedAt now, rfl, hopen, hused⟩
  · exact ⟨d, rfl, hopen, hused⟩

/-- A new pipeline lists a new container, whatever the names of the two. -/
theorem started (h : k.Serviceable) {e : Pool.Entry} {owner : String} {p : Pipeline}
    {now : Instant} {c : Container} {containers : Inventory}
    (hc : k.containers.allocate owner p now = (c, containers))
    (hlists : e.containers = (∅ : SortedSet _).insert c.id) :
    (k.started e containers).Serviceable := by
  obtain ⟨rfl, rfl⟩ := Prod.mk.inj hc
  generalize hk' : k.started e _ = k'
  have hfind (id : ContainerId) : k'.containers.find? id =
      if ⟨k.containers.next⟩ = id
        then some (.fresh ⟨k.containers.next⟩ p.id p.scheme owner now)
        else k.containers.find? id := hk' ▸ Inventory.find?_put
  have hnew : k'.Blank ⟨k.containers.next⟩ := ⟨_, (hfind _).trans (if_pos rfl), rfl, rfl⟩
  have hblank {id : ContainerId} (hid : k.Blank id) : k'.Blank id := by
    by_cases hnext : (⟨k.containers.next⟩ : ContainerId) = id
    · exact hnext ▸ hnew
    · unfold Blank
      rwa [hfind, if_neg hnext]
  intro j e' he'
  rw [← hk', Cluster.started, Pool.find?_put] at he'
  split at he'
  · obtain rfl := Option.some.inj he'
    rw [hlists]
    refine ⟨⟨_, SortedSet.mem_insert.2 (.inl rfl)⟩, fun id hid => ?_⟩
    rcases SortedSet.mem_insert.1 hid with rfl | hid
    · exact hnew
    · exact (SortedSet.not_mem_empty hid).elim
  · obtain ⟨hsome, hall⟩ := h j e' he'
    exact ⟨hsome, fun id hid => hblank (hall id hid)⟩

end Serviceable

end Cluster

/-! ## Requests -/

namespace Allocator

variable {a : Allocator} {env : Environment} {choose : Chooser} {k : Cluster} {r : Request}
  {ids : List PipelineId} {out : Except Error Container × Session}

theorem eq_nil_of_not_useless (hnone : ∀ q ∈ k.pipelines.opened r.scheme, ¬a.Useless k r q)
    (hids : ∀ id ∈ ids, ∃ q ∈ k.pipelines.opened r.scheme, q.id = id ∧ a.Useless k r q) :
    ids = [] := by
  refine List.eq_nil_iff_forall_not_mem.2 fun id hid => ?_
  obtain ⟨q, hq, -, huseless⟩ := hids id hid
  exact hnone q hq huseless

/-- Where no pipeline is useless a search in vain closes none. -/
theorem Searched.eq_nil (h : Searched a env choose k r ids) (hw : env.Willing)
    (hpicks : choose.Picks) (hnone : ∀ q ∈ k.pipelines.opened r.scheme, ¬a.Useless k r q) :
    ids = [] := by
  refine eq_nil_of_not_useless hnone fun id hid => ?_
  obtain ⟨q, hq, hqid, huseless⟩ := h.closes.only id hid
  exact ⟨q, hq, hqid, huseless ⟨hw, hpicks⟩⟩

/-- Neither does one that finds a container. -/
theorem Found.eq_nil {p : Pipeline} {c : Container} (h : Found a env k r p c ids)
    (hw : env.Willing) (hnone : ∀ q ∈ k.pipelines.opened r.scheme, ¬a.Useless k r q) :
    ids = [] := by
  refine eq_nil_of_not_useless hnone fun id hid => ?_
  obtain ⟨q, hq, hqid, hother⟩ := h.closes id hid
  exact ⟨q, hq, hqid, (hother hw).2⟩

theorem Created.serviceable (h : Created env k r out) (hw : env.Willing) (hk : k.Serviceable) :
    out.2.cluster.Serviceable := by
  cases h with
  | failed _ hs => exact hs ▸ hk
  | abandoned href => exact (hw.not_refuses _ href).elim
  | made _ hc hs => exact hs ▸ hk.started hc rfl

theorem Requested.serviceable {out : Ending × Session} (h : Requested a env choose k r out)
    (hw : env.Willing) (hk : k.Serviceable) : out.2.cluster.Serviceable := by
  cases h with
  | invalid _ hs | brokenOff _ hs => exact hs ▸ hk
  | created _ _ hcreated => exact hcreated.serviceable hw hk
  | fellBack _ hfirst hback =>
    obtain rfl := hfirst.cluster hw
    cases hback with
    | reused _ hs => exact hs ▸ (hk.closing _).handing _ _
    | full _ _ hs => exact hs ▸ hk.closing _
    | again _ _ hcreated => exact hcreated.serviceable hw (hk.closing _)

/-- A request that fails has not even closed a pipeline. -/
theorem Requested.cluster_of_error {err : Error} {s : Session}
    (h : Requested a env choose k r (some (.error err), s)) (hw : env.Willing)
    (hpicks : choose.Picks) (hnone : ∀ q ∈ k.pipelines.opened r.scheme, ¬a.Useless k r q) :
    s.cluster = k := by
  cases h with
  | invalid _ hs => exact hs
  | fellBack _ hfirst hback =>
    obtain rfl := hfirst.cluster hw
    cases hback with
    | full hsearched _ hs =>
      rw [hsearched.eq_nil hw hpicks hnone] at hs
      exact hs
    | again hsearched _ hcreated =>
      rw [hsearched.eq_nil hw hpicks hnone] at hcreated
      exact (hcreated.of_error hw).1

end Allocator

end ControlPlane

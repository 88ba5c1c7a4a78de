import ControlPlane.Proofs.Allocation.Request
import ControlPlane.Proofs.Container.Numbers

/-!
# Containers that no pipeline lists

A new container goes into the inventory first and is bound after that.  If its pipeline
is not in the pool it cannot be bound.  The call fails then, but the container stays in
the inventory, open and empty, and no pipeline lists it.  There are three groups.

* `Houses` and `Stray` say of a container that its pipeline lists it, or does not.  `Whole`
  is what one expects of a call that makes a container.
* `stray_listing` and `stray_stocking` are the two ends of such a call.
  `allocate_whole_iff` says when the call is whole and what is left behind otherwise.
* `stray_allocating` is a run of such calls: every call for a pipeline that is not in the
  pool leaves one stray container, and no call clears one away.
-/

namespace ControlPlane

namespace Cluster

/-- The container is in the inventory, and its pipeline lists it. -/
structure Houses (k : Cluster) (c : Container) : Prop where
  known : k.containers.find? c.id = some c
  listed : c.id ∈ k.pipelines.bound c.pipeline

/-- The container is in the inventory, but its pipeline does not list it. -/
structure Stray (k : Cluster) (c : Container) : Prop where
  known : k.containers.find? c.id = some c
  unlisted : c.id ∉ k.pipelines.bound c.pipeline

/-- A call that makes a container did all of it, or it failed and the inventory has the
containers that it had. -/
def Whole (k : Cluster) : Except Error Container × Session → Prop
  | (.ok c, s) => s.cluster.Houses c
  | (.error _, s) => s.cluster.containers.containers = k.containers.containers

variable {k : Cluster} {owner : String} {p : Pipeline} {now : Instant} {c d : Container}

/-! ## One call -/

theorem find?_stocking (hc : (k.containers.allocate owner p now).1 = c) {id : ContainerId} :
    (k.stocking owner p now).containers.find? id =
      if c.id = id then some c else k.containers.find? id := by
  rw [← hc]
  exact Inventory.find?_allocate

/-- A known container is put in where it stands already. -/
theorem containers_stocking_eq_iff (hc : (k.containers.allocate owner p now).1 = c) :
    (k.stocking owner p now).containers.containers = k.containers.containers ↔
      k.containers.find? c.id = some c := by
  refine ⟨fun h => ?_, fun h => SortedMap.eq_of_find? fun id => ?_⟩
  · have hself : (k.stocking owner p now).containers.find? c.id = some c := by
      rw [find?_stocking hc, if_pos rfl]
    rwa [Inventory.find?, h] at hself
  · show (k.stocking owner p now).containers.find? id = k.containers.find? id
    rw [find?_stocking hc]
    split
    · next hid => rw [← hid, h]
    · rfl

theorem mem_bound_listing {e : Pool.Entry} (he : k.pipelines.find? p.id = some e)
    {id : ContainerId} {j : PipelineId} :
    id ∈ ((k.stocking owner p now).listing p.id c.id).pipelines.bound j ↔
      p.id = j ∧ id = c.id ∨ id ∈ k.pipelines.bound j :=
  Pool.mem_bound_holding he

theorem find?_listing_eq_none {id j : PipelineId} {i : ContainerId} :
    (k.listing id i).pipelines.find? j = none ↔ k.pipelines.find? j = none := by
  rw [listing, Pool.find?_modify]
  split <;> simp

/-- A container that is bound is in its place. -/
theorem houses_listing (hc : (k.containers.allocate owner p now).1 = c) {e : Pool.Entry}
    (he : k.pipelines.find? p.id = some e) :
    ((k.stocking owner p now).listing p.id c.id).Houses c := by
  have hpipeline : p.id = c.pipeline := by rw [← hc]; rfl
  exact ⟨(find?_stocking hc).trans (if_pos rfl), (mem_bound_listing he).2 (.inl ⟨hpipeline, rfl⟩)⟩

/-- A container that is bound is no stray, and no other container becomes one. -/
theorem stray_listing (hc : (k.containers.allocate owner p now).1 = c) {e : Pool.Entry}
    (he : k.pipelines.find? p.id = some e) :
    ((k.stocking owner p now).listing p.id c.id).Stray d ↔ k.Stray d ∧ d.id ≠ c.id := by
  have hpipeline : c.pipeline = p.id := by rw [← hc]; rfl
  have hfind : ((k.stocking owner p now).listing p.id c.id).containers.find? d.id = _ :=
    find?_stocking hc
  by_cases hid : d.id = c.id
  · refine iff_of_false (fun h => h.unlisted ((mem_bound_listing he).2 (.inl ⟨?_, hid⟩)))
      fun h => h.2 hid
    rw [if_pos hid.symm] at hfind
    obtain rfl := Option.some.inj (hfind.symm.trans h.known)
    exact hpipeline.symm
  · rw [if_neg (Ne.symm hid)] at hfind
    have hmem : d.id ∈ ((k.stocking owner p now).listing p.id c.id).pipelines.bound d.pipeline ↔
        d.id ∈ k.pipelines.bound d.pipeline := by
      rw [mem_bound_listing he]
      exact or_iff_right fun h => hid h.2
    refine ⟨fun h => ⟨⟨hfind ▸ h.known, mt hmem.2 h.unlisted⟩, hid⟩, fun h => ?_⟩
    exact ⟨hfind.trans h.1.known, mt hmem.1 h.1.unlisted⟩

/-- A container for a pipeline that is not in the pool is a stray. -/
theorem stray_stocking (hc : (k.containers.allocate owner p now).1 = c)
    (hp : k.pipelines.find? p.id = none) :
    (k.stocking owner p now).Stray d ↔ d = c ∨ k.Stray d ∧ d.id ≠ c.id := by
  have hfind : (k.stocking owner p now).containers.find? d.id = _ := find?_stocking hc
  by_cases hid : d.id = c.id
  · rw [if_pos hid.symm] at hfind
    refine ⟨fun h => .inl (Option.some.inj (h.known.symm.trans hfind)), ?_⟩
    rintro (rfl | ⟨-, hne⟩)
    · have hbound : k.pipelines.bound d.pipeline = ∅ := by
        have hpipeline : d.pipeline = p.id := by rw [← hc]; rfl
        rw [hpipeline, Pool.bound, hp, Option.elim_none]
      refine ⟨hfind, fun hmem => ?_⟩
      rw [stocking, hbound] at hmem
      exact SortedSet.not_mem_empty hmem
    · exact (hne hid).elim
  · rw [if_neg (Ne.symm hid)] at hfind
    refine ⟨fun h => .inr ⟨⟨hfind ▸ h.known, h.unlisted⟩, hid⟩, ?_⟩
    rintro (rfl | ⟨h, -⟩)
    · exact (hid rfl).elim
    · exact ⟨hfind.trans h.known, h.unlisted⟩

/-- No stray is new just if the very container stood in the inventory before. -/
theorem strays_stocking_iff (hc : (k.containers.allocate owner p now).1 = c)
    (hp : k.pipelines.find? p.id = none) :
    (∀ d, (k.stocking owner p now).Stray d → k.Stray d) ↔ k.containers.find? c.id = some c := by
  have hnew : (k.stocking owner p now).Stray c := (stray_stocking hc hp).2 (.inl rfl)
  refine ⟨fun h => (h c hnew).known, fun h d hd => ?_⟩
  rcases (stray_stocking hc hp).1 hd with rfl | ⟨hd, -⟩
  · exact ⟨h, hnew.unlisted⟩
  · exact hd

end Cluster

namespace Session

open Cluster

variable {env : Environment} {s : Session} {p : Pipeline}

/-- A container for a pipeline that is in the pool is made and bound. -/
theorem allocate_of_some (henv : env.Willing) (owner : String) {e : Pool.Entry}
    (hp : s.cluster.pipelines.find? p.id = some e) :
    let c := (s.cluster.containers.allocate owner p env.now).1
    (Session.allocate env owner p s).1 = .ok c ∧
      (Session.allocate env owner p s).2.cluster =
        (s.cluster.stocking owner p env.now).listing p.id c.id := by
  have hstocked := allocate_stocked env s owner p
  generalize Session.allocate env owner p s = out at hstocked ⊢
  rcases hstocked with ⟨href, -⟩ | ⟨hwhy, -⟩ | ⟨hc, -, hs⟩
  · exact (henv.not_refuses _ href).elim
  · have hmissing := (hwhy.resolve_left (henv.not_refuses _)).1
    simp [hp] at hmissing
  · rw [hc]
    exact ⟨rfl, hs⟩

/-- A container for a pipeline that is not in the pool is made and cannot be bound. -/
theorem allocate_of_none (henv : env.Willing) (owner : String)
    (hp : s.cluster.pipelines.find? p.id = none) :
    (Session.allocate env owner p s).1 = .error (.pipelineNotFound p.id) ∧
      (Session.allocate env owner p s).2.cluster = s.cluster.stocking owner p env.now := by
  have hstocked := allocate_stocked env s owner p
  generalize Session.allocate env owner p s = out at hstocked ⊢
  rcases hstocked with ⟨href, -⟩ | ⟨hwhy, hs⟩ | ⟨-, he, -⟩
  · exact (henv.not_refuses _ href).elim
  · exact ⟨congrArg _ (hwhy.resolve_left (henv.not_refuses _)).2, hs⟩
  · simp [hp] at he

/-- A call that makes a container is whole, and leaves no new stray, just if its pipeline is
in the pool, or if the very container stood in the inventory before.  If the pipeline is
not in the pool the call fails, and does nothing but leave a stray container. -/
theorem allocate_whole_iff (henv : env.Willing) (owner : String) (p : Pipeline) (s : Session) :
    let k := s.cluster
    let c := Container.fresh ⟨k.containers.next⟩ p.id p.scheme owner env.now
    let out := Session.allocate env owner p s
    let fits := (∃ e, k.pipelines.find? p.id = some e) ∨ k.containers.find? c.id = some c
    (Whole k out ↔ fits) ∧ ((∀ d, out.2.cluster.Stray d → k.Stray d) ↔ fits) ∧
    ((∃ e, k.pipelines.find? p.id = some e) →
      out.1 = .ok c ∧ out.2.cluster = (k.stocking owner p env.now).listing p.id c.id) ∧
    (k.pipelines.find? p.id = none →
      out.1 = .error (.pipelineNotFound p.id) ∧ out.2.cluster = k.stocking owner p env.now ∧
        out.2.cluster.Stray c) := by
  intro k c
  have hc : (k.containers.allocate owner p env.now).1 = c := rfl
  cases hp : k.pipelines.find? p.id with
  | some e =>
    obtain ⟨hres, hcluster⟩ := allocate_of_some henv owner hp
    generalize Session.allocate env owner p s = out at hres hcluster ⊢
    obtain ⟨res, s'⟩ := out
    obtain rfl : res = .ok c := hres
    have hhouses : s'.cluster.Houses c := by
      rw [hcluster]
      exact houses_listing hc hp
    have hstrays : ∀ d, s'.cluster.Stray d → k.Stray d := fun d hd => by
      rw [hcluster] at hd
      exact ((stray_listing hc hp).1 hd).1
    exact ⟨iff_of_true hhouses (.inl ⟨e, rfl⟩), iff_of_true hstrays (.inl ⟨e, rfl⟩),
      fun _ => ⟨rfl, hcluster⟩, nofun⟩
  | none =>
    obtain ⟨hres, hcluster⟩ := allocate_of_none henv owner hp
    generalize Session.allocate env owner p s = out at hres hcluster ⊢
    obtain ⟨res, s'⟩ := out
    obtain rfl : res = .error (.pipelineNotFound p.id) := hres
    have hfits (P : Prop) : ((∃ e : Pool.Entry, none = some e) ∨ P) ↔ P := or_iff_right (by simp)
    have hwhole : s'.cluster.containers.containers = k.containers.containers ↔
        k.containers.find? c.id = some c := by
      rw [hcluster]
      exact containers_stocking_eq_iff hc
    have hstrays : (∀ d, s'.cluster.Stray d → k.Stray d) ↔ k.containers.find? c.id = some c := by
      rw [hcluster]
      exact strays_stocking_iff hc hp
    have hnew : s'.cluster.Stray c := by
      rw [hcluster]
      exact (stray_stocking hc hp).2 (.inl rfl)
    exact ⟨hwhole.trans (hfits _).symm, hstrays.trans (hfits _).symm, by simp,
      fun _ => ⟨rfl, hcluster, hnew⟩⟩

/-- The call for a pipeline that is in the pool and the one for a pipeline that is not. -/
theorem allocate_whole_iff_sample :
    let s : Session := { cluster := Allocator.Sample.cluster }
    let missing := { Allocator.Sample.pipeline with id := ⟨.ofNat 8⟩ }
    Whole s.cluster (Session.allocate Allocator.Sample.world "app" Allocator.Sample.pipeline s) ∧
      (Session.allocate Allocator.Sample.world "app" missing s).1 =
        .error (.pipelineNotFound missing.id) := by
  have henv := Allocator.Sample.world_inMemory.willing
  have hfound : ∃ e, Allocator.Sample.cluster.pipelines.find? Allocator.Sample.pipeline.id =
    some e := ⟨_, rfl⟩
  exact ⟨(allocate_whole_iff henv _ _ _).1.2 (.inl hfound),
    ((allocate_whole_iff henv _ _ _).2.2.2 rfl).1⟩

/-- The call fails, and there is a container more, which nobody lists. -/
theorem allocate_leaves_stray :
    let k := Allocator.Sample.cluster
    let missing := { Allocator.Sample.pipeline with id := ⟨.ofNat 8⟩ }
    let out := Session.allocate Allocator.Sample.world "app" missing { cluster := k }
    out.1 = .error (.pipelineNotFound missing.id) ∧ ¬Whole k out ∧
      k.containers.containers.keys = [⟨1⟩] ∧
      out.2.cluster.containers.containers.keys = [⟨1⟩, ⟨2⟩] ∧
      out.2.cluster.Stray (.fresh ⟨2⟩ missing.id missing.scheme "app" ⟨60, 0⟩) := by
  intro k missing out
  have hbefore : k.containers.containers.keys = [⟨1⟩] := rfl
  have hafter : out.2.cluster.containers.containers.keys = [⟨1⟩, ⟨2⟩] := rfl
  refine ⟨rfl, fun hwhole => ?_, hbefore, hafter, rfl, by decide⟩
  have hsame : out.2.cluster.containers.containers = k.containers.containers := hwhole
  rw [hsame, hbefore] at hafter
  cases hafter

/-! ## A run of calls -/

/-- The session after some calls that make containers, each for an owner and on a pipeline,
the first of the list first. -/
def allocating (env : Environment) (s : Session) (calls : List (String × Pipeline)) : Session :=
  calls.foldl (fun s call => (Session.allocate env call.1 call.2 s).2) s

/-- While the counter does not start over, a call adds one stray container or none. -/
theorem allocate_strays {n : Nat} (henv : env.Willing)
    (h : s.cluster.containers.Below n) (hn : n < 2 ^ 64) (owner : String) (p : Pipeline) :
    let k' := (Session.allocate env owner p s).2.cluster
    k'.containers.Below (n + 1) ∧
    (∀ id, k'.pipelines.find? id = none ↔ s.cluster.pipelines.find? id = none) ∧
    ∀ d, k'.Stray d ↔ s.cluster.Stray d ∨ s.cluster.pipelines.find? p.id = none ∧
      d = .fresh ⟨.ofNat n⟩ p.id p.scheme owner env.now := by
  intro k'
  have hnext : s.cluster.containers.next = .ofNat n := by
    rw [← h.next hn, UInt64.ofNat_toNat]
  have hc : (s.cluster.containers.allocate owner p env.now).1 =
      .fresh ⟨.ofNat n⟩ p.id p.scheme owner env.now := by
    rw [← hnext]
    rfl
  -- The number of the new container is that of no other one.
  have hnew : ∀ d, s.cluster.Stray d → d.id ≠ ⟨.ofNat n⟩ := by
    rintro d ⟨hd, -⟩ hid
    rw [hid, ← hnext, h.find?_next hn] at hd
    cases hd
  have hbelow : (s.cluster.stocking owner p env.now).containers.Below (n + 1) := h.allocate hn
  cases hp : s.cluster.pipelines.find? p.id with
  | none =>
    have hk : k' = s.cluster.stocking owner p env.now := (allocate_of_none henv owner hp).2
    refine ⟨hk ▸ hbelow, fun id => by rw [hk]; rfl, fun d => ?_⟩
    rw [hk, stray_stocking hc hp, or_comm]
    simp only [true_and]
    exact or_congr_left ⟨And.left, fun hd => ⟨hd, hnew d hd⟩⟩
  | some e =>
    have hk : k' = (s.cluster.stocking owner p env.now).listing p.id ⟨.ofNat n⟩ := by
      rw [← hnext]
      exact (allocate_of_some henv owner hp).2
    refine ⟨hk ▸ hbelow, fun id => ?_, fun d => ?_⟩
    · rw [hk]
      exact find?_listing_eq_none
    · rw [hk]
      refine (stray_listing hc hp).trans ?_
      simp only [reduceCtorEq, false_and, or_false]
      exact ⟨And.left, fun hd => ⟨hd, hnew d hd⟩⟩

/-- Each call for a pipeline that is not in the pool leaves a stray container for good. -/
theorem stray_allocating {n : Nat} {calls : List (String × Pipeline)} {d : Container}
    (henv : env.Willing) (h : s.cluster.containers.Below n) (hn : n + calls.length ≤ 2 ^ 64) :
    (allocating env s calls).cluster.Stray d ↔
      s.cluster.Stray d ∨ ∃ i owner p, calls[i]? = some (owner, p) ∧
        s.cluster.pipelines.find? p.id = none ∧
        d = .fresh ⟨.ofNat (n + i)⟩ p.id p.scheme owner env.now := by
  induction calls generalizing s n with
  | nil => simp [allocating]
  | cons call calls ih =>
    obtain ⟨owner, p⟩ := call
    rw [List.length_cons] at hn
    obtain ⟨hbelow, hpool, hstray⟩ := allocate_strays henv h (by omega) owner p
    have hrest := ih hbelow (by omega)
    rw [hstray, or_assoc] at hrest
    refine hrest.trans (or_congr_right ⟨?_, ?_⟩)
    · rintro (⟨hp, hd⟩ | ⟨i, owner', p', hcall, hp, hd⟩)
      · exact ⟨0, owner, p, rfl, hp, hd⟩
      · refine ⟨i + 1, owner', p', hcall, (hpool _).1 hp, ?_⟩
        rwa [Nat.add_right_comm] at hd
    · rintro ⟨_ | i, owner', p', hcall, hp, hd⟩
      · obtain ⟨rfl, rfl⟩ := Prod.mk.inj (Option.some.inj hcall)
        exact .inl ⟨hp, hd⟩
      · refine .inr ⟨i, owner', p', hcall, (hpool _).2 hp, ?_⟩
        rwa [Nat.add_right_comm]

end Session

end ControlPlane

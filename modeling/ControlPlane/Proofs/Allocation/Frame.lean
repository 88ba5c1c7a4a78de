import ControlPlane.Proofs.Allocation.Request

/-!
# What a request leaves alone

Where no call is refused, a request reaches three things only: the states of open
pipelines, the moment at which the container that it hands out was last used, and the
pipeline and the container that it makes.

* `Pool.Upholds` compares a pool before and after.  It is kept by closing open pipelines
  and by putting new ones in, and it goes from step to step (`Upholds.trans`).
* `Cluster.Framed` is the frame of a request with some ending.  There is a lemma for each
  thing that a request can come to, and `Framed.after_closing` puts the pipelines that are
  closed on the way before it.
-/

namespace ControlPlane

/-! ## Pipelines -/

namespace Pool

/-- Every pipeline of the one pool is in the other as it was, or it was open there and is
closed here. -/
def Upholds (p p' : Pool) : Prop :=
  ∀ id e, p.find? id = some e →
    p'.find? id = some e ∨ e.pipeline.state = .opened ∧ p'.find? id = some e.close

namespace Upholds

variable {p p' p'' : Pool}

theorem refl (p : Pool) : p.Upholds p := fun _ _ he => .inl he

theorem trans (h : p.Upholds p') (h' : p'.Upholds p'') : p.Upholds p'' := by
  intro id e he
  rcases h id e he with he' | ⟨hopen, he'⟩
  · exact h' id e he'
  · -- What is closed is not open, so it stays as it is.
    rcases h' id e.close he' with he'' | ⟨hopen', -⟩
    · exact .inr ⟨hopen, he''⟩
    · cases hopen'

theorem closing {scheme : Scheme} {ids : List PipelineId}
    (hids : ∀ id ∈ ids, ∃ q ∈ p.opened scheme, q.id = id) : p.Upholds (p.closing ids) := by
  intro id e he
  rw [find?_closing]
  split
  · next hid =>
    obtain ⟨q, hq, rfl⟩ := hids id hid
    obtain ⟨⟨cs, he'⟩, -, hopen⟩ := mem_opened.1 hq
    obtain rfl := Option.some.inj (he'.symm.trans he)
    exact .inr ⟨hopen, congrArg _ he⟩
  · exact .inl he

theorem put {e : Entry} (hnew : p.find? e.pipeline.id = none) : p.Upholds (p.put e) := by
  intro id e' he'
  have hne : e.pipeline.id ≠ id := by
    rintro rfl
    rw [hnew] at he'
    cases he'
  exact .inl (find?_put.trans ((if_neg hne).trans he'))

end Upholds

end Pool

/-! ## Clusters -/

namespace Cluster

variable {k k' : Cluster} {now : Instant} {ending : Allocator.Ending}

/-- The next number is above those of all containers. -/
def NextAbove (k : Cluster) : Prop :=
  ∀ id c, k.containers.find? id = some c → id.number < k.containers.next

theorem NextAbove.unknown (h : k.NextAbove) : k.containers.find? ⟨k.containers.next⟩ = none :=
  Option.eq_none_iff_forall_ne_some.2 fun c hc => UInt64.lt_irrefl _ (h _ c hc)

theorem NextAbove.rank_lt_next (h : k.NextAbove) :
    ∀ row ∈ k.containers.containers.rows, rank row.1 < rank (⟨k.containers.next⟩ : ContainerId) :=
  fun _ hrow => UInt64.lt_iff_toNat_lt.1 (h _ _ (SortedMap.find?_eq_some_iff.2 hrow))

/-- What a request with an ending may have done to a cluster.  A container is made if the
request ends with one that was not known before. -/
structure Framed (now : Instant) (k : Cluster) (ending : Allocator.Ending) (k' : Cluster) :
    Prop where
  nodes : k'.nodes = k.nodes
  pipelines : k.pipelines.Upholds k'.pipelines
  containers : ∀ id c, k.containers.find? id = some c →
    k'.containers.find? id = some c ∨
      (∃ given, ending = some (.ok given) ∧ given.id = id) ∧
        k'.containers.find? id = some (c.usedAt now)
  same : (∀ c, ending = some (.ok c) → k.containers.find? c.id ≠ none) →
    k'.pipelines.entries.keys = k.pipelines.entries.keys ∧
      k'.containers.containers.keys = k.containers.containers.keys
  grown : ∀ c, ending = some (.ok c) → k.containers.find? c.id = none →
    k'.pipelines.entries.keys = k.pipelines.entries.keys ++ [c.pipeline] ∧
      k'.containers.containers.keys = k.containers.containers.keys ++ [c.id]

namespace Framed

theorem unchanged (hnot : ∀ c, ending ≠ some (.ok c)) : k.Framed now ending k :=
  ⟨rfl, .refl _, fun _ _ hc => .inl hc, fun _ => ⟨rfl, rfl⟩, fun c hc => (hnot c hc).elim⟩

theorem handing {c : Container} (hknown : k.containers.find? c.id = some c) :
    k.Framed now (some (.ok c)) (k.handing c.id now) := by
  refine ⟨rfl, .refl _, fun id d hd => ?_, fun _ => ⟨rfl, k.handing_keys c.id now⟩, ?_⟩
  · by_cases hid : c.id = id
    · subst hid
      exact .inr ⟨⟨c, rfl, rfl⟩, (k.handing_find? c.id now).trans (congrArg _ hd)⟩
    · refine .inl ?_
      rw [Cluster.handing, Inventory.find?_modify, if_neg hid]
      exact hd
  · rintro _ hending hunknown
    obtain rfl := Except.ok.inj (Option.some.inj hending)
    rw [hknown] at hunknown
    cases hunknown

theorem after_closing {scheme : Scheme} {ids : List PipelineId}
    (hids : ∀ id ∈ ids, ∃ q ∈ k.pipelines.opened scheme, q.id = id)
    (h : (k.closing ids).Framed now ending k') : k.Framed now ending k' := by
  have hkeys : (k.closing ids).pipelines.entries.keys = k.pipelines.entries.keys :=
    Pool.keys_closing
  refine ⟨h.nodes, (Pool.Upholds.closing hids).trans h.pipelines, h.containers, fun hknown => ?_,
    fun c hending hunknown => ?_⟩
  · rw [← hkeys]
    exact h.same hknown
  · rw [← hkeys]
    exact h.grown c hending hunknown

/-- Making a pipeline adds it and its container. -/
theorem started {r : Request} {env : Environment} {members : List NodeId} {c : Container}
    {containers : Inventory} (habove : k.NextAbove)
    (hfresh : k.pipelines.find? (env.newId k.pipelines.entries.size) = none)
    (hc : k.containers.allocate r.owner (Allocator.planned env k r members .opened) env.now =
      (c, containers)) :
    k.Framed now (some (.ok c))
      (k.started (Allocator.newEntry env k r members c.id) containers) := by
  obtain ⟨rfl, rfl⟩ := Prod.mk.inj hc
  refine ⟨rfl, .put hfresh, fun id d hd => .inl ?_, fun hknown => ?_, ?_⟩
  · have hne : (⟨k.containers.next⟩ : ContainerId) ≠ id := by
      rintro rfl
      rw [habove.unknown] at hd
      cases hd
    exact Inventory.find?_put.trans ((if_neg hne).trans hd)
  · exact (hknown _ rfl habove.unknown).elim
  · rintro _ hending -
    obtain rfl := Except.ok.inj (Option.some.inj hending)
    exact ⟨Pool.keys_put_of_new hfresh, Inventory.keys_put_of_greatest habove.rank_lt_next⟩

end Framed

end Cluster

/-! ## Requests -/

namespace Allocator

variable {a : Allocator} {env : Environment} {choose : Chooser} {k : Cluster} {r : Request}
  {out : Except Error Container × Session}

theorem Created.framed (h : Created env k r out) (hw : env.Willing) (habove : k.NextAbove)
    (hfresh : k.pipelines.find? (env.newId k.pipelines.entries.size) = none) :
    k.Framed env.now (some out.1) out.2.cluster := by
  cases h with
  | failed _ hs => exact hs ▸ .unchanged nofun
  | abandoned href => exact (hw.not_refuses _ href).elim
  | made _ hc hs => exact hs ▸ .started habove hfresh hc

theorem FellBack.framed {limit : Nat} {first : Option Error}
    (h : FellBack a env choose k r limit first out) (hw : env.Willing) (habove : k.NextAbove)
    (hfresh : k.pipelines.find? (env.newId k.pipelines.entries.size) = none) :
    k.Framed env.now (some out.1) out.2.cluster := by
  cases h with
  | reused hfound hs =>
    rw [hs]
    exact .after_closing hfound.opened (.handing hfound.serves.known)
  | full hsearched _ hs =>
    rw [hs]
    exact .after_closing hsearched.opened (.unchanged nofun)
  | again hsearched _ hcreated =>
    exact .after_closing hsearched.opened
      (hcreated.framed hw habove (Cluster.fresh_closing hfresh))

/-- A request changes nothing but what it has to, as long as the names and the numbers of
what it makes are new. -/
theorem allocate_framed (a : Allocator) {env : Environment} (choose : Chooser) (r : Request)
    (s : Session) (hw : env.Willing) (habove : s.cluster.NextAbove)
    (hfresh : s.cluster.pipelines.find? (env.newId s.cluster.pipelines.entries.size) = none) :
    let out := a.allocate env choose r s
    s.cluster.Framed env.now out.1 out.2.cluster := by
  have hrequested := allocate_requested a env choose r s
  generalize a.allocate env choose r s = out at hrequested ⊢
  cases hrequested with
  | invalid _ hs | brokenOff _ hs => exact hs ▸ .unchanged nofun
  | created _ _ hcreated => exact hcreated.framed hw habove hfresh
  | fellBack _ hfirst hback =>
    obtain hsame := hfirst.cluster hw
    rw [hsame] at hback
    exact hback.framed hw habove hfresh

/-- A request over the small cluster. -/
theorem allocate_framed_sample :
    let choose := Policy.capacity.chooser Sample.cluster.nodes fun _ => (0, 0)
    let out := Sample.allocator.allocate Sample.world choose Sample.request
      { cluster := Sample.cluster }
    Sample.cluster.NextAbove ∧ Sample.cluster.Framed Sample.world.now out.1 out.2.cluster := by
  intro choose
  have habove : Sample.cluster.NextAbove := fun id c hc => by
    have hput : (if Sample.full.id = id then some Sample.full else none) = some c :=
      Inventory.find?_put.symm.trans hc
    split at hput
    · next hid =>
      subst hid
      decide
    · cases hput
  exact ⟨habove, allocate_framed Sample.allocator choose Sample.request
    { cluster := Sample.cluster } Sample.world_inMemory.willing habove (by decide)⟩

end Allocator

end ControlPlane

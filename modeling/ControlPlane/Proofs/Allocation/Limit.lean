import Mathlib.Logic.Relation
import ControlPlane.Proofs.Allocation.Request

/-!
# The limit of open pipelines

A request never has more pipelines of its scheme open than the limit, or than were
open before it, and it lets the pipelines of other schemes be.  This holds whichever
calls are refused, so it carries over to every run of requests.  It does not take
the new identifiers to be new: a pipeline put over another one adds none.  Only the
pipelines of other schemes need that, as one of them might be written over.
-/

namespace ControlPlane

/-- The identifiers of the next two pipelines are new and different. -/
structure Environment.Fresh (env : Environment) (p : Pool) : Prop where
  first : p.find? (env.newId p.entries.size) = none
  second : p.find? (env.newId (p.entries.size + 1)) = none
  distinct : env.newId p.entries.size ≠ env.newId (p.entries.size + 1)

/-- The pools have the same pipelines in the same states with the same containers,
those of one scheme aside. -/
def Pool.SameBeside (scheme : Scheme) (p p' : Pool) : Prop :=
  ∀ id e, e.pipeline.scheme ≠ scheme → (p.find? id = some e ↔ p'.find? id = some e)

namespace Pool.SameBeside

variable {scheme : Scheme} {p p' p'' : Pool}

theorem rfl : SameBeside scheme p p := fun _ _ _ => Iff.rfl

theorem trans (h : SameBeside scheme p p') (h' : SameBeside scheme p' p'') :
    SameBeside scheme p p'' := fun id e he => (h id e he).trans (h' id e he)

theorem put {e : Entry} (he : e.pipeline.scheme = scheme) (hnew : p.find? e.pipeline.id = none) :
    SameBeside scheme p (p.put e) := by
  intro id e' he'
  rw [find?_put]
  split
  · next hid =>
    -- Neither the new entry nor one under its identifier before is of another scheme.
    rw [← hid, hnew]
    refine iff_of_false nofun fun h => he' ?_
    rw [← Option.some.inj h]
    exact he
  · rfl

theorem closing {ids : List PipelineId} (h : ∀ id ∈ ids, ∃ q ∈ p.opened scheme, q.id = id) :
    SameBeside scheme p (p.closing ids) := by
  intro id e he
  rw [find?_closing]
  split
  · next hid =>
    obtain ⟨q, hq, rfl⟩ := h id hid
    obtain ⟨⟨cs, hfind⟩, hscheme, -⟩ := mem_opened.1 hq
    rw [hfind]
    refine iff_of_false ?_ ?_
    all_goals
      rintro h
      obtain rfl := Option.some.inj h
      exact he hscheme
  · rfl

end Pool.SameBeside

namespace Allocator

variable {a : Allocator} {env : Environment} {choose : Chooser} {k k' : Cluster} {r : Request}
  {out : Except Error Container × Session} {scheme : Scheme}

theorem opens_closing_le {ids : List PipelineId} : opens (k.closing ids) scheme ≤ opens k scheme :=
  Pool.length_opened_closing_le

/-! ## Making a pipeline -/

theorem Created.nodes (h : Created env k r out) : out.2.cluster.nodes = k.nodes := by
  cases h with
  | failed _ hs => rw [hs]
  | abandoned _ _ hs => rw [hs]; rfl
  | made _ _ hs => rw [hs]; rfl

theorem Created.opens_le_succ (h : Created env k r out) :
    opens out.2.cluster scheme ≤ opens k scheme + 1 := by
  cases h with
  | failed _ hs => exact hs ▸ Nat.le_succ _
  | abandoned _ _ hs => exact hs ▸ Pool.length_opened_put_le
  | made _ _ hs => exact hs ▸ Pool.length_opened_put_le

/-- A pipeline that was made in vain is not open, and none is of another scheme. -/
theorem Created.opens_le (h : Created env k r out)
    (hnot : scheme ≠ r.scheme ∨ ∃ err, out.1 = .error err) :
    opens out.2.cluster scheme ≤ opens k scheme := by
  cases h with
  | failed _ hs => exact hs ▸ Nat.le_refl _
  | abandoned _ he hs => exact hs ▸ Pool.length_opened_put_le_of_not fun _ => he.state
  | made _ _ hs =>
    refine hs ▸ Pool.length_opened_put_le_of_not fun hscheme => ?_
    rcases hnot with hne | ⟨err, herr⟩
    · exact (hne hscheme.symm).elim
    · simp at herr

theorem Created.sameBeside (hnew : k.pipelines.find? (env.newId k.pipelines.entries.size) = none)
    (h : Created env k r out) : k.pipelines.SameBeside r.scheme out.2.cluster.pipelines := by
  cases h with
  | failed _ hs => exact hs ▸ .rfl
  | abandoned _ he hs => exact hs ▸ .put he.scheme (he.id ▸ hnew)
  | made _ _ hs => exact hs ▸ .put rfl hnew

/-! ## The stages of a request -/

theorem First.nodes {limit : Nat} {first : Option Error} (h : First env k r limit first k') :
    k'.nodes = k.nodes := by
  cases h with
  | notDue => rfl
  | failed _ hcreated => exact hcreated.nodes

theorem First.opens_le {limit : Nat} {first : Option Error} (h : First env k r limit first k') :
    opens k' scheme ≤ opens k scheme := by
  cases h with
  | notDue => exact Nat.le_refl _
  | failed _ hcreated => exact hcreated.opens_le (.inr ⟨_, rfl⟩)

theorem First.sameBeside {limit : Nat} {first : Option Error} (hfresh : env.Fresh k.pipelines)
    (h : First env k r limit first k') : k.pipelines.SameBeside r.scheme k'.pipelines := by
  cases h with
  | notDue => exact .rfl
  | failed _ hcreated => exact hcreated.sameBeside hfresh.first

/-- The first attempt takes one new identifier at most. -/
theorem First.fresh {limit : Nat} {first : Option Error} (hfresh : env.Fresh k.pipelines)
    (h : First env k r limit first k') :
    k'.pipelines.find? (env.newId k'.pipelines.entries.size) = none := by
  cases h with
  | notDue => exact hfresh.first
  | failed _ hcreated =>
    cases hcreated with
    | failed _ hs => exact hs ▸ hfresh.first
    | abandoned _ he hs =>
      next e containers s =>
      have hnew : k.pipelines.find? e.pipeline.id = none := he.id ▸ hfresh.first
      have hsize : (k.pipelines.put e).entries.size = k.pipelines.entries.size + 1 :=
        Pool.size_put_of_new hnew
      have hother : e.pipeline.id ≠ env.newId (k.pipelines.entries.size + 1) :=
        he.id ▸ hfresh.distinct
      rw [hs]
      show (k.pipelines.put e).find? (env.newId (k.pipelines.put e).entries.size) = none
      rw [hsize, Pool.find?_put, if_neg hother]
      exact hfresh.second

theorem FellBack.nodes {limit : Nat} {first : Option Error}
    (h : FellBack a env choose k r limit first out) : out.2.cluster.nodes = k.nodes := by
  cases h with
  | reused _ hs => rw [hs]; rfl
  | full _ _ hs => rw [hs]; rfl
  | again _ _ hcreated => exact hcreated.nodes

/-- The last attempt is made below the limit only. -/
theorem FellBack.opens_le_max {limit : Nat} {first : Option Error}
    (h : FellBack a env choose k r limit first out) :
    opens out.2.cluster r.scheme ≤ max (opens k r.scheme) limit := by
  cases h with
  | reused _ hs => exact hs ▸ Nat.le_trans opens_closing_le (Nat.le_max_left _ _)
  | full _ _ hs => exact hs ▸ Nat.le_trans opens_closing_le (Nat.le_max_left _ _)
  | again _ hroom hcreated =>
    have hone : opens out.2.cluster r.scheme ≤ opens (k.closing _) r.scheme + 1 :=
      hcreated.opens_le_succ
    exact Nat.le_trans hone (Nat.le_trans hroom (Nat.le_max_right _ _))

theorem FellBack.opens_le {limit : Nat} {first : Option Error} (hscheme : scheme ≠ r.scheme)
    (h : FellBack a env choose k r limit first out) :
    opens out.2.cluster scheme ≤ opens k scheme := by
  cases h with
  | reused _ hs => exact hs ▸ opens_closing_le
  | full _ _ hs => exact hs ▸ opens_closing_le
  | again _ _ hcreated => exact Nat.le_trans (hcreated.opens_le (.inl hscheme)) opens_closing_le

theorem FellBack.sameBeside {limit : Nat} {first : Option Error}
    (hnew : k.pipelines.find? (env.newId k.pipelines.entries.size) = none)
    (h : FellBack a env choose k r limit first out) :
    k.pipelines.SameBeside r.scheme out.2.cluster.pipelines := by
  cases h with
  | reused hfound hs => exact hs ▸ .closing hfound.opened
  | full hsearched _ hs => exact hs ▸ .closing hsearched.opened
  | again hsearched _ hcreated =>
    have hclosing : k.pipelines.SameBeside r.scheme (k.closing _).pipelines :=
      .closing hsearched.opened
    exact hclosing.trans (hcreated.sameBeside (Cluster.fresh_closing hnew))

/-! ## One request -/

section Requested

variable {out : Ending × Session}

theorem Requested.nodes (h : Requested a env choose k r out) : out.2.cluster.nodes = k.nodes := by
  cases h with
  | invalid _ hs | brokenOff _ hs => rw [hs]
  | created _ _ hcreated => exact hcreated.nodes
  | fellBack _ hfirst hback => exact hback.nodes.trans hfirst.nodes

theorem Requested.opens_le_max (h : Requested a env choose k r out) {limit : Nat}
    (hlimit : a.limit k.nodes r.scheme = some limit) :
    opens out.2.cluster r.scheme ≤ max (opens k r.scheme) limit := by
  cases h with
  | invalid _ hs | brokenOff _ hs => exact hs ▸ Nat.le_max_left _ _
  | created hsome hroom hcreated =>
    obtain rfl := Option.some.inj (hlimit.symm.trans hsome)
    exact Nat.le_trans hcreated.opens_le_succ (Nat.le_trans hroom (Nat.le_max_right _ _))
  | @fellBack _ _ _ _ s hsome hfirst hback =>
    obtain rfl := Option.some.inj (hlimit.symm.trans hsome)
    have hbefore : opens _ r.scheme ≤ opens k r.scheme := hfirst.opens_le
    have hafter : opens s.cluster r.scheme ≤ _ := hback.opens_le_max
    show opens s.cluster r.scheme ≤ _
    omega

theorem Requested.opens_le (hscheme : scheme ≠ r.scheme) (h : Requested a env choose k r out) :
    opens out.2.cluster scheme ≤ opens k scheme := by
  cases h with
  | invalid _ hs | brokenOff _ hs => exact hs ▸ Nat.le_refl _
  | created _ _ hcreated => exact hcreated.opens_le (.inl hscheme)
  | fellBack _ hfirst hback => exact Nat.le_trans (hback.opens_le hscheme) hfirst.opens_le

theorem Requested.sameBeside (hfresh : env.Fresh k.pipelines)
    (h : Requested a env choose k r out) :
    k.pipelines.SameBeside r.scheme out.2.cluster.pipelines := by
  cases h with
  | invalid _ hs | brokenOff _ hs => exact hs ▸ .rfl
  | created _ _ hcreated => exact hcreated.sameBeside hfresh.first
  | fellBack _ hfirst hback =>
    exact (hfirst.sameBeside hfresh).trans (hback.sameBeside (hfirst.fresh hfresh))

/-- Without a limit nothing happens to any pipeline. -/
theorem Requested.unchanged (hlimit : a.limit k.nodes r.scheme = none)
    (h : Requested a env choose k r out) : out.2.cluster = k := by
  cases h with
  | invalid _ hs | brokenOff _ hs => exact hs
  | created hsome | fellBack hsome =>
    rw [hlimit] at hsome
    cases hsome

end Requested

/-! ## Runs of requests -/

/-- One request takes the one cluster to the other, whatever the world does. -/
inductive Serviced (a : Allocator) : Cluster → Cluster → Prop
  | request (env : Environment) (choose : Chooser) (r : Request) (s : Session) :
      Serviced a s.cluster (a.allocate env choose r s).2.cluster

theorem Serviced.within (h : a.Serviced k k') {limit : Nat}
    (hlimit : a.limit k.nodes scheme = some limit) (hwithin : opens k scheme ≤ limit) :
    k'.nodes = k.nodes ∧ opens k' scheme ≤ limit := by
  cases h with
  | request env choose r s =>
    have hrequested := allocate_requested a env choose r s
    refine ⟨hrequested.nodes, ?_⟩
    by_cases hscheme : scheme = r.scheme
    · subst hscheme
      exact Nat.le_trans (hrequested.opens_le_max hlimit)
        (Nat.max_le.2 ⟨hwithin, Nat.le_refl _⟩)
    · exact Nat.le_trans (hrequested.opens_le hscheme) hwithin

theorem serviced_within (h : Relation.ReflTransGen a.Serviced k k') {limit : Nat}
    (hlimit : a.limit k.nodes scheme = some limit) (hwithin : opens k scheme ≤ limit) :
    k'.nodes = k.nodes ∧ opens k' scheme ≤ limit := by
  induction h with
  | refl => exact ⟨rfl, hwithin⟩
  | tail _ hstep ih =>
    obtain ⟨hnodes, hle⟩ := ih
    obtain ⟨hnodes', hle'⟩ := hstep.within (hnodes ▸ hlimit) hle
    exact ⟨hnodes'.trans hnodes, hle'⟩

/-- The limit holds for every request and every run of requests.  A request whose limit cannot
be told leaves everything as it was. -/
theorem limit_kept (a : Allocator) :
    (∀ (env : Environment) (choose : Chooser) (r : Request) (s : Session),
      let k := s.cluster
      let k' := (a.allocate env choose r s).2.cluster
      (∀ limit, a.limit k.nodes r.scheme = some limit →
        opens k' r.scheme ≤ max (opens k r.scheme) limit) ∧
        (a.limit k.nodes r.scheme = none → k' = k) ∧
        (env.Fresh k.pipelines → k.pipelines.SameBeside r.scheme k'.pipelines)) ∧
    ∀ k k', Relation.ReflTransGen a.Serviced k k' → k'.nodes = k.nodes ∧
      ∀ scheme limit, a.limit k.nodes scheme = some limit →
        opens k scheme ≤ limit → opens k' scheme ≤ limit := by
  refine ⟨fun env choose r s => ?_, fun k k' hrun => ?_⟩
  · have hrequested := allocate_requested a env choose r s
    exact ⟨fun _ => hrequested.opens_le_max, fun hlimit => hrequested.unchanged hlimit,
      hrequested.sameBeside⟩
  · have hnodes : k'.nodes = k.nodes := by
      induction hrun with
      | refl => rfl
      | tail _ hstep ih =>
        cases hstep with
        | request env choose r s => exact (allocate_requested a env choose r s).nodes.trans ih
    exact ⟨hnodes, fun scheme limit hlimit hwithin => (serviced_within hrun hlimit hwithin).2⟩

theorem limit_kept_sample :
    Sample.world.Fresh Sample.cluster.pipelines ∧
      Sample.cluster.pipelines.SameBeside Sample.request.scheme
        (Sample.allocator.allocate Sample.world (fun _ => none) Sample.request
          { cluster := Sample.cluster }).2.cluster.pipelines := by
  have hfresh : Sample.world.Fresh Sample.cluster.pipelines :=
    ⟨by decide, by decide, by decide⟩
  have hrequest := (limit_kept Sample.allocator).1 Sample.world (fun _ => none) Sample.request
    { cluster := Sample.cluster }
  exact ⟨hfresh, hrequest.2.2 hfresh⟩

end Allocator

end ControlPlane

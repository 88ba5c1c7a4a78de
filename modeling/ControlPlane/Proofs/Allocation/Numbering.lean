import ControlPlane.Proofs.Allocation.Request
import ControlPlane.Proofs.Container.Numbers

/-!
# The containers that requests make

Requests reach the inventory through its calls, and put nothing in from elsewhere.
`allocate_stocks` says so of every request, whichever calls are refused, and
`made_new` joins it with the law of the inventory: the container that is made, by a
request or without one, is new, until the counter of the inventory starts over.
-/

namespace ControlPlane

/-- The containers of the one cluster come from those of the other by calls that make
containers or change them. -/
def Cluster.Stocks (k k' : Cluster) : Prop :=
  ∃ calls, Inventory.inserted calls = [] ∧ k'.containers = k.containers.after calls

namespace Cluster.Stocks

variable {k k' k'' : Cluster}

theorem of_eq (h : k'.containers = k.containers) : k.Stocks k' := ⟨[], rfl, h⟩

theorem trans (h : k.Stocks k') (h' : k'.Stocks k'') : k.Stocks k'' := by
  obtain ⟨calls, hnone, hafter⟩ := h
  obtain ⟨calls', hnone', hafter'⟩ := h'
  refine ⟨calls ++ calls', ?_, ?_⟩
  · rw [Inventory.inserted, List.filterMap_append]
    exact List.append_eq_nil_iff.2 ⟨hnone, hnone'⟩
  · rw [Inventory.after_append, ← hafter, hafter']

end Cluster.Stocks

/-- A call goes by the inventory if what it does when it is done does. -/
theorem Outcome.stocks {α β : Type} {env : Environment} {k : Cluster} {thing : Except Error β}
    {done : β → α × Cluster} {out : Except Error α × Session} (h : Outcome env k thing done out)
    (hdone : ∀ b, thing = .ok b → k.Stocks (done b).2) : k.Stocks out.2.cluster := by
  cases h with
  | refused _ hs => exact .of_eq (congrArg _ hs)
  | failed _ hs => exact .of_eq (congrArg _ hs)
  | done hthing hs =>
    rw [hs]
    exact hdone _ hthing

namespace Session

variable (env : Environment) (s : Session)

theorem stock_stocks (owner : String) (p : Pipeline) :
    s.cluster.Stocks (stock env owner p s).2.cluster := by
  refine (stock_outcome env s owner p).stocks fun made hmade => ?_
  rw [← Except.ok.inj hmade]
  exact ⟨[.allocate owner p env.now], rfl, rfl⟩

theorem touch_stocks (id : ContainerId) : s.cluster.Stocks (touch env id s).2.cluster :=
  (touch_outcome env s id).stocks fun _ _ =>
    ⟨[.modify id (·.usedAt env.now) (Container.usedAt_id env.now)], rfl, rfl⟩

theorem allocate_stocks (owner : String) (p : Pipeline) :
    s.cluster.Stocks (allocate env owner p s).2.cluster :=
  allocate_keeps (P := (s.cluster.Stocks ·.cluster)) env s (stock_stocks env s owner p)
    fun id c s' h => h.trans ((bind_outcome env s' id c).stocks fun _ _ => .of_eq rfl)

end Session

namespace Allocator

variable (a : Allocator) (env : Environment) (choose : Chooser) (r : Request) (p : Pipeline)

/-! ## Pipelines that are there -/

theorem close_stocks (s : Session) : s.cluster.Stocks (close env p s).cluster := by
  rcases close_cluster env p s with h | ⟨h, -⟩
  · rw [h]
    exact .of_eq rfl
  · rw [h]
    exact .of_eq rfl

theorem stocks_carried : Carried env fun s s' => s.cluster.Stocks s'.cluster where
  refl _ := .of_eq rfl
  trans := Cluster.Stocks.trans
  offer _ _ := .of_eq rfl
  containers s id := (Session.containers_outcome env s id).stocks fun _ _ => .of_eq rfl
  container s id := (Session.container_outcome env s id).stocks fun _ _ => .of_eq rfl
  touch s id := Session.touch_stocks env s id
  close s p := close_stocks env p s
  count _ _ := .of_eq rfl

/-! ## New pipelines -/

theorem create_stocks (s : Session) : s.cluster.Stocks (create env r s).2.cluster := by
  refine create_keeps (P := (s.cluster.Stocks ·.cluster)) ?_ (fun p s' h => h.trans ?_)
    (fun id s' h => h.trans ?_) (fun p s' h => h.trans ?_) fun _ _ h => h
  · exact (Session.create_outcome env s r.scheme r.exclude.nodes.toList []).stocks
      fun _ _ => .of_eq rfl
  · exact Session.allocate_stocks env s' r.owner p
  · exact (Session.openPipeline_outcome env s' id).stocks fun _ _ => .of_eq rfl
  · exact close_stocks env p s'

/-! ## Requests -/

theorem lastAttempt_stocks (limit : Nat) (first : Option Error) (s : Session) :
    s.cluster.Stocks (lastAttempt env r limit first s).2.cluster := by
  unfold lastAttempt
  by_cases hroom : openCount s r.scheme < limit
  · have hcreate := create_stocks env r s
    rw [if_pos hroom]
    generalize create env r s = out at hcreate ⊢
    obtain ⟨res, s₁⟩ := out
    cases res <;> exact hcreate
  · rw [if_neg hroom]
    exact .of_eq rfl

theorem fallBack_stocks (limit : Nat) (first : Option Error) (s : Session) :
    s.cluster.Stocks (a.fallBack env choose r limit first s).2.cluster := by
  have hsearch := (stocks_carried env).search (a := a) (r := r) choose s
  rw [fallBack_eq]
  generalize a.search env choose r s = out at hsearch ⊢
  obtain ⟨res, s₁⟩ := out
  cases res with
  | some c => exact hsearch
  | none => exact hsearch.trans (lastAttempt_stocks env r limit first s₁)

theorem allocateWithin_stocks (limit : Nat) (s : Session) :
    s.cluster.Stocks (a.allocateWithin env choose r limit s).2.cluster := by
  unfold allocateWithin
  split
  · have hcreate := create_stocks env r s
    generalize create env r s = out at hcreate ⊢
    obtain ⟨res, s₁⟩ := out
    cases res with
    | ok c => exact hcreate
    | error err => exact hcreate.trans (a.fallBack_stocks env choose r _ _ s₁)
  · exact a.fallBack_stocks env choose r _ _ s

theorem allocate_stocks (s : Session) :
    s.cluster.Stocks (a.allocate env choose r s).2.cluster := by
  unfold allocate
  split
  · exact .of_eq rfl
  · split
    · exact .of_eq rfl
    · exact a.allocateWithin_stocks env choose r _ s

/-! ## What a request returns -/

variable {a env choose r} {k : Cluster} {c : Container} {s : Session}

theorem Created.known (h : Created env k r (.ok c, s)) :
    (s.cluster.containers.find? c.id).isSome = true := by
  cases h with
  | made _ hc hs =>
    obtain ⟨hcontainer, hcontainers⟩ := Prod.mk.inj hc
    rw [hs, ← hcontainer, ← hcontainers]
    show ((k.containers.allocate _ _ _).2.find? ⟨k.containers.next⟩).isSome = true
    rw [Inventory.find?_allocate, if_pos rfl]
    rfl

theorem Requested.known (h : Requested a env choose k r (some (.ok c), s)) :
    (s.cluster.containers.find? c.id).isSome = true := by
  cases h with
  | created _ _ hcreated => exact hcreated.known
  | fellBack _ _ hback =>
    cases hback with
    | reused hfound hs =>
      rw [hs, Cluster.handing_find?, Option.isSome_map]
      exact Option.isSome_of_eq_some hfound.serves.known
    | again _ _ hcreated => exact hcreated.known

/-- A container that is made is new and writes over none, and each gets a greater number
than the ones before it, as long as the counter of the inventory does not start over.
Requests make containers by the calls of the inventory, and return one that they made
or one that was known. -/
theorem made_new (ops : List Inventory.Op) (a : Allocator) (env : Environment)
    (choose : Chooser) (r : Request) (s : Session) :
    ((∀ c ∈ Inventory.inserted ops, c.id.number.toNat + 1 < 2 ^ 64) →
      Inventory.raised 1 ops ≤ 2 ^ 64 →
        (∀ before owner p now rest, ops = before ++ .allocate owner p now :: rest →
          let i := Inventory.after ∅ before
          let made := i.allocate owner p now
          i.find? made.1.id = none ∧ ∀ id c, i.find? id = some c → made.2.find? id = some c) ∧
        (Inventory.handed ∅ ops).Pairwise fun id j => rank id < rank j) ∧
    let i := s.cluster.containers
    ∃ calls, Inventory.inserted calls = [] ∧
      (a.allocate env choose r s).2.cluster.containers = i.after calls ∧
      ∀ c, (a.allocate env choose r s).1 = some (.ok c) →
        (i.find? c.id).isSome = true ∨ c.id ∈ Inventory.handed i calls := by
  refine ⟨fun hops hn => ⟨fun before owner p now rest heq => ?_, ?_⟩, ?_⟩
  · exact Inventory.allocate_new hops hn heq
  · exact Inventory.handed_ascending Inventory.below_empty hops hn
  · obtain ⟨calls, hnone, hafter⟩ := a.allocate_stocks env choose r s
    refine ⟨calls, hnone, hafter, fun c hc => (Inventory.isSome_find?_after hnone).1 ?_⟩
    have hrequested := allocate_requested a env choose r s
    rw [← hafter]
    generalize a.allocate env choose r s = out at hrequested hc ⊢
    obtain ⟨res, s'⟩ := out
    obtain rfl : res = some (.ok c) := hc
    exact hrequested.known

namespace Sample

/-- Makes a container. -/
def making : Inventory.Op := .allocate "app" pipeline ⟨60, 0⟩

/-- Puts a container with a number in. -/
def inserting (number : UInt64) : Inventory.Op := .insert { full with id := ⟨number⟩ }

end Sample

theorem made_new_sample :
    let before := [Sample.inserting 1, Sample.making, Sample.inserting 7]
    (Inventory.after ∅ before).find? ⟨8⟩ = none ∧
      Inventory.handed ∅ (before ++ [Sample.making]) = [⟨2⟩, ⟨8⟩] ∧
      (Inventory.handed ∅ (before ++ [Sample.making])).Pairwise fun id j => rank id < rank j := by
  intro before
  have hnew := (made_new (before ++ [Sample.making]) Sample.allocator Sample.world
    (Policy.capacity.chooser Sample.cluster.nodes fun _ => (0, 0)) Sample.request
    { cluster := Sample.cluster }).1 (by decide) (by decide)
  exact ⟨(hnew.1 before _ _ _ [] rfl).1, by decide, hnew.2⟩

/-- Above the greatest number but one there is room for one more container.  The one
after that gets the number zero, and the next is put in the place of one that is known. -/
theorem made_over_known :
    let ops := [Sample.inserting 1, Sample.inserting 18446744073709551614, Sample.making,
      Sample.making, Sample.making]
    (∀ c ∈ Inventory.inserted ops, c.id.number.toNat + 1 < 2 ^ 64) ∧
      Inventory.handed ∅ ops = [⟨18446744073709551615⟩, ⟨0⟩, ⟨1⟩] ∧
      (Inventory.after ∅ (ops.take 4)).find? ⟨1⟩ = some Sample.full ∧
      (Inventory.after ∅ ops).find? ⟨1⟩ = some (.fresh ⟨1⟩ Sample.pipeline.id Sample.pipeline.scheme
        "app" ⟨60, 0⟩) := by
  decide

end Allocator

end ControlPlane

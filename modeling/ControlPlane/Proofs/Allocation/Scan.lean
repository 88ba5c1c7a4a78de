import ControlPlane.Allocation
import ControlPlane.Proofs.Session

/-!
# Looking for a container on a pipeline

A request looks through the containers of a pipeline in ascending order, passes
over the ones it excludes, and stops at an open container with room or at one
that is not known.  `Serving` and `Spent` say from outside, by the order of the
containers alone, what it will find: a container, or nothing now and ever.
`reuse_scanned` says that it does find that.  `reuse_related` is for what the search
has in common with the calls that it makes.
-/

namespace ControlPlane.Allocator

variable (a : Allocator) (k : Cluster) (r : Request) (p : Pipeline)

/-! ## What a pipeline has for a request -/

/-- The container is known, open, and has room for the request. -/
def Fits (id : ContainerId) : Prop :=
  ∃ c, k.containers.find? id = some c ∧ c.accepts r.size a.maxSize = true

instance (id : ContainerId) : Decidable (a.Fits k r id) :=
  decidable_of_iff ((k.containers.find? id).any (·.accepts r.size a.maxSize) = true)
    (Option.any_eq_true _ _)

/-- A container with room comes before any that is not known. -/
def Serving : Prop :=
  ∃ id ∈ (k.pipelines.bound p.id).toList,
    r.exclude.excludesContainer id = false ∧ a.Fits k r id ∧
      ∀ j ∈ (k.pipelines.bound p.id).toList, rank j < rank id →
        r.exclude.excludesContainer j = false → (k.containers.find? j).isSome = true

/-- Either a container that is not known comes before any with room, or none is
excluded and none has room. -/
def Spent : Prop :=
  (∃ id ∈ (k.pipelines.bound p.id).toList,
    r.exclude.excludesContainer id = false ∧ k.containers.find? id = none ∧
      ∀ j ∈ (k.pipelines.bound p.id).toList, rank j < rank id →
        r.exclude.excludesContainer j = false → ¬a.Fits k r j) ∨
  ∀ id ∈ (k.pipelines.bound p.id).toList,
    r.exclude.excludesContainer id = false ∧ ¬a.Fits k r id

instance : Decidable (a.Serving k r p) := inferInstanceAs (Decidable (∃ _ ∈ _, _))
instance : Decidable (a.Spent k r p) := inferInstanceAs (Decidable (_ ∨ _))

/-- The container is the first on the pipeline that can serve the request, and
those before it that the request may use are known and full. -/
structure Serves (c : Container) : Prop where
  mem : c.id ∈ (k.pipelines.bound p.id).toList
  usable : r.exclude.excludesContainer c.id = false
  known : k.containers.find? c.id = some c
  accepts : c.accepts r.size a.maxSize = true
  first : ∀ j ∈ (k.pipelines.bound p.id).toList, rank j < rank c.id →
    r.exclude.excludesContainer j = false →
      ∃ d, k.containers.find? j = some d ∧ d.accepts r.size a.maxSize = false

variable {a k r p}

theorem Serves.serving {c : Container} (h : a.Serves k r p c) : a.Serving k r p := by
  refine ⟨c.id, h.mem, h.usable, ⟨c, h.known, h.accepts⟩, fun j hj hlt husable => ?_⟩
  obtain ⟨d, hd, -⟩ := h.first j hj hlt husable
  rw [hd]
  rfl

/-! ## Closing changes none of it -/

@[simp] theorem serving_closing {ids : List PipelineId} :
    a.Serving (k.closing ids) r p ↔ a.Serving k r p := by
  simp only [Serving, Fits, Cluster.closing, Pool.bound_closing]

@[simp] theorem spent_closing {ids : List PipelineId} :
    a.Spent (k.closing ids) r p ↔ a.Spent k r p := by
  simp only [Spent, Fits, Cluster.closing, Pool.bound_closing]

theorem serves_closing {ids : List PipelineId} {c : Container}
    (h : a.Serves (k.closing ids) r p c) : a.Serves k r p c := by
  obtain ⟨hmem, husable, hknown, haccepts, hfirst⟩ := h
  simp only [Cluster.closing, Pool.bound_closing] at hmem hknown hfirst
  exact ⟨hmem, husable, hknown, haccepts, hfirst⟩

/-! ## The search -/

/-- What may come of looking for a container on a pipeline. -/
inductive Scanned (a : Allocator) (env : Environment) (k : Cluster) (r : Request) (p : Pipeline) :
    Except Error Reuse × Session → Prop
  | refused {err : Error} {s : Session} (href : env.Refuses err) (hs : s.cluster = k) :
      Scanned a env k r p (.error err, s)
  | found {c : Container} {s : Session} (hserves : a.Serves k r p c)
      (hs : s.cluster = k.handing c.id env.now) : Scanned a env k r p (.ok (.found c), s)
  | skipped {s : Session} (hserving : ¬a.Serving k r p) (hspent : ¬a.Spent k r p)
      (hs : s.cluster = k) : Scanned a env k r p (.ok .skipped, s)
  | exhausted {s : Session} (hserving : ¬a.Serving k r p) (hspent : a.Spent k r p)
      (hs : s.cluster = k) : Scanned a env k r p (.ok .exhausted, s)
  | vanished {id : ContainerId} {s : Session} (hserving : ¬a.Serving k r p)
      (hspent : a.Spent k r p) (hs : s.cluster = k) :
      Scanned a env k r p (.error (.containerNotFound id), s)

/-- The container is one that a search goes past: excluded, or known and full. -/
def Passed (a : Allocator) (k : Cluster) (r : Request) (id : ContainerId) : Prop :=
  r.exclude.excludesContainer id = true ∨
    ∃ c, k.containers.find? id = some c ∧ c.accepts r.size a.maxSize = false

theorem Passed.not_fits {id : ContainerId} (h : a.Passed k r id)
    (husable : r.exclude.excludesContainer id = false) : ¬a.Fits k r id := by
  rintro ⟨c, hc, haccepts⟩
  rcases h with hexcl | ⟨d, hd, hfull⟩
  · rw [husable] at hexcl
    simp at hexcl
  · obtain rfl := Option.some.inj (hc.symm.trans hd)
    rw [haccepts] at hfull
    simp at hfull

theorem not_serving_of_passed (h : ∀ id ∈ (k.pipelines.bound p.id).toList, a.Passed k r id) :
    ¬a.Serving k r p := by
  rintro ⟨id, hid, husable, hfits, -⟩
  exact (h id hid).not_fits husable hfits

theorem spent_iff_of_passed (h : ∀ id ∈ (k.pipelines.bound p.id).toList, a.Passed k r id) :
    a.Spent k r p ↔
      ∀ id ∈ (k.pipelines.bound p.id).toList, r.exclude.excludesContainer id = false := by
  constructor
  · rintro (⟨id, hid, husable, hunknown, -⟩ | hall) j hj
    · rcases h id hid with hexcl | ⟨c, hc, -⟩
      · rw [husable] at hexcl
        simp at hexcl
      · rw [hunknown] at hc
        simp at hc
    · exact (hall j hj).1
  · exact fun husable => .inr fun id hid => ⟨husable id hid, (h id hid).not_fits (husable id hid)⟩

theorem scanned_of_passed (env : Environment) {s : Session} (hs : s.cluster = k)
    (h : ∀ id ∈ (k.pipelines.bound p.id).toList, a.Passed k r id) :
    Scanned a env k r p
      (.ok (if (k.pipelines.bound p.id).toList.any r.exclude.excludesContainer then .skipped
        else .exhausted), s) := by
  have hspent := spent_iff_of_passed h
  split
  · next hany =>
    obtain ⟨id, hid, hexcl⟩ := List.any_eq_true.1 hany
    refine .skipped (not_serving_of_passed h) (fun hsp => ?_) hs
    rw [hspent.1 hsp id hid] at hexcl
    simp at hexcl
  · next hany =>
    refine .exhausted (not_serving_of_passed h) (hspent.2 fun id hid => ?_) hs
    exact Bool.eq_false_iff.2 fun hexcl => hany (List.any_eq_true.2 ⟨id, hid, hexcl⟩)

theorem scanned_of_unknown (env : Environment) {id : ContainerId} {s : Session}
    (hs : s.cluster = k) (hmem : id ∈ (k.pipelines.bound p.id).toList)
    (husable : r.exclude.excludesContainer id = false) (hunknown : k.containers.find? id = none)
    (hfirst : ∀ j ∈ (k.pipelines.bound p.id).toList, rank j < rank id → a.Passed k r j) :
    Scanned a env k r p (.error (.containerNotFound id), s) := by
  have hspent : a.Spent k r p :=
    .inl ⟨id, hmem, husable, hunknown, fun j hj hlt => (hfirst j hj hlt).not_fits⟩
  refine .vanished ?_ hspent hs
  rintro ⟨j, hj, hjusable, hfits, hknown⟩
  rcases Nat.lt_trichotomy (rank j) (rank id) with hlt | heq | hgt
  · exact (hfirst j hj hlt).not_fits hjusable hfits
  · obtain ⟨c, hc, -⟩ := hfits
    rw [rank_injective heq, hunknown] at hc
    simp at hc
  · have := hknown id hmem hgt husable
    rw [hunknown] at this
    simp at this

/-- The container that the search stops at is handed out unless that is refused. -/
theorem scanned_of_serves (env : Environment) {c : Container} {s : Session} (hs : s.cluster = k)
    (hserves : a.Serves k r p c) :
    Scanned a env k r p
      (match Session.touch env c.id s with
      | (.error e, s) => (.error e, s)
      | (.ok (), s) => (.ok (.found c), s)) := by
  have hcall := Session.touch_outcome env s c.id
  generalize Session.touch env c.id s = out at hcall ⊢
  rcases hcall with ⟨href, hs'⟩ | ⟨hmissing, -⟩ | ⟨-, hs'⟩
  · exact .refused href (hs'.trans hs)
  · obtain ⟨hunknown, -⟩ := Inventory.container_eq_error_iff.1 hmissing
    rw [hs, hserves.known] at hunknown
    simp at hunknown
  · exact .found hserves (hs ▸ hs')

/-- The search from some point on, when it went past all containers before. -/
theorem scan_scanned (env : Environment) (before : List ContainerId) {ids : List ContainerId}
    {s : Session}
    (hs : s.cluster = k) (hids : (k.pipelines.bound p.id).toList = before ++ ids)
    (hbefore : ∀ id ∈ before, a.Passed k r id) :
    Scanned a env k r p (a.scan env r (before.any r.exclude.excludesContainer) ids s) := by
  induction ids generalizing before s with
  | nil =>
    rw [List.append_nil] at hids
    subst hids
    exact scanned_of_passed env hs hbefore
  | cons id ids ih =>
    -- The containers before `id` that the request may use are known and full.
    have hfirst : ∀ j ∈ (k.pipelines.bound p.id).toList, rank j < rank id → a.Passed k r j :=
      fun j hj hlt => hbefore j (SortedSet.mem_of_rank_lt hids hj hlt)
    have hmem : id ∈ (k.pipelines.bound p.id).toList := by simp [hids]
    have hnext : (k.pipelines.bound p.id).toList = (before ++ [id]) ++ ids := by simp [hids]
    have hpassed (hid : a.Passed k r id) : ∀ j ∈ before ++ [id], a.Passed k r j := by
      intro j hj
      rcases List.mem_append.1 hj with hj | hj
      · exact hbefore j hj
      · obtain rfl := List.mem_singleton.1 hj
        exact hid
    unfold scan
    split
    · next hexcl =>
      have := ih _ hs hnext (hpassed (.inl hexcl))
      simpa [hexcl] using this
    · next hexcl =>
      have husable : r.exclude.excludesContainer id = false := Bool.eq_false_iff.2 hexcl
      have hcall := Session.container_outcome env s id
      generalize Session.container env id s = out at hcall ⊢
      rcases hcall with ⟨href, hs'⟩ | ⟨hmissing, hs'⟩ | ⟨hfound, hs'⟩
      · exact .refused href (hs'.trans hs)
      · obtain ⟨hunknown, rfl⟩ := Inventory.container_eq_error_iff.1 hmissing
        rw [hs] at hunknown
        exact scanned_of_unknown env (hs'.trans hs) hmem husable hunknown hfirst
      · next c s' =>
        have hknown := Inventory.container_eq_ok_iff.1 hfound
        rw [hs] at hknown
        replace hs' : s'.cluster = k := hs'.trans hs
        dsimp only
        split
        · next haccepts =>
          obtain rfl := Inventory.id_of_find? hknown
          refine scanned_of_serves env hs' ⟨hmem, husable, hknown, haccepts, fun j hj hlt hj' => ?_⟩
          exact (hfirst j hj hlt).resolve_left (Bool.eq_false_iff.1 hj')
        · next haccepts =>
          have hfull : c.accepts r.size a.maxSize = false := Bool.eq_false_iff.2 haccepts
          have := ih _ hs' hnext (hpassed (.inr ⟨c, hknown, hfull⟩))
          simpa [husable] using this

/-- Trying a pipeline that is in the pool comes to what its containers say. -/
theorem reuse_scanned (a : Allocator) (env : Environment) (r : Request) {p : Pipeline}
    {s : Session} {e : Pool.Entry} (hp : s.cluster.pipelines.find? p.id = some e) :
    Scanned a env s.cluster r p (a.reuse env r p s) := by
  unfold reuse
  have hcall := Session.containers_outcome env s p.id
  generalize Session.containers env p.id s = out at hcall ⊢
  rcases hcall with ⟨href, hs'⟩ | ⟨hmissing, -⟩ | ⟨hfound, hs'⟩
  · exact .refused href hs'
  · obtain ⟨habsent, -⟩ := Pool.entry_eq_error_iff.1 hmissing
    rw [hp] at habsent
    simp at habsent
  · have hbound := Pool.bound_of_find? (Pool.entry_eq_ok_iff.1 hfound)
    exact scan_scanned env [] hs' (congrArg SortedSet.toList hbound) (by simp)

/-! ## The calls of the search -/

section Calls

variable {env : Environment} {R : Session → Session → Prop}

/-- What holds of the calls of the search, and goes from call to call, holds of the search. -/
theorem scan_related (hrefl : ∀ s, R s s) (htrans : ∀ {s s' s''}, R s s' → R s' s'' → R s s'')
    (hlookup : ∀ id s, R s (Session.container env id s).2)
    (htouch : ∀ id s, R s (Session.touch env id s).2) (skipped : Bool) (ids : List ContainerId)
    (s : Session) : R s (a.scan env r skipped ids s).2 := by
  induction ids generalizing skipped s with
  | nil => exact hrefl s
  | cons id ids ih =>
    unfold scan
    split
    · exact ih true s
    · have hfirst := hlookup id s
      generalize Session.container env id s = out at hfirst ⊢
      obtain ⟨res, s₁⟩ := out
      cases res with
      | error err => exact hfirst
      | ok c =>
        dsimp only
        split
        · have hthen := htouch id s₁
          generalize Session.touch env id s₁ = out at hthen ⊢
          obtain ⟨res, s₂⟩ := out
          cases res <;> exact htrans hfirst hthen
        · exact htrans hfirst (ih skipped s₁)

theorem reuse_related (hrefl : ∀ s, R s s) (htrans : ∀ {s s' s''}, R s s' → R s' s'' → R s s'')
    (hlist : ∀ s, R s (Session.containers env p.id s).2)
    (hlookup : ∀ id s, R s (Session.container env id s).2)
    (htouch : ∀ id s, R s (Session.touch env id s).2) (s : Session) :
    R s (a.reuse env r p s).2 := by
  have hfirst := hlist s
  unfold reuse
  generalize Session.containers env p.id s = out at hfirst ⊢
  obtain ⟨res, s₁⟩ := out
  cases res with
  | error err => exact hfirst
  | ok ids => exact htrans hfirst (scan_related hrefl htrans hlookup htouch false ids.toList s₁)

end Calls

end ControlPlane.Allocator

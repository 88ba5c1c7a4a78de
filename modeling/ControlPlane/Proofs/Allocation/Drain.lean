import Mathlib.Data.List.Perm.Basic
import ControlPlane.Proofs.Allocation.Scan

/-!
# Trying the open pipelines

A request that gets no new pipeline tries the open ones of its scheme that it
does not exclude.  It closes pipelines on the way, and that is all it does to the
cluster until it finds a container.  There are three steps.

* `candidates_screened`.  The excluded pipelines without containers are closed.
* `attempt_tried`.  One candidate gives its first container with room, or it is
  closed if it is spent, or it is left as it is.
* `drain_drained`.  Trying candidate after candidate does this to every one of
  them, whatever the order of the chooser, up to the first that gives a container.

Each says what may happen when calls are refused, and exactly what happens when
none is.  `search` is all of it, and `Carried` is for what it has in common with its
steps.
-/

namespace ControlPlane

/-- The chooser always picks one of the pipelines that are left. -/
def Chooser.Picks (choose : Chooser) : Prop :=
  ∀ candidates, candidates ≠ [] → ∃ i, choose candidates = some i ∧ i < candidates.length

namespace Allocator

variable {a : Allocator} {env : Environment} {k : Cluster} {r : Request} {p : Pipeline}

/-- Every pipeline of a list is in the pool. -/
def Present (k : Cluster) (ps : List Pipeline) : Prop :=
  ∀ q ∈ ps, ∃ e, k.pipelines.find? q.id = some e

theorem Present.closing {ps : List Pipeline} (h : Present k ps) (ids : List PipelineId) :
    Present (k.closing ids) ps := by
  intro q hq
  refine Option.isSome_iff_exists.1 (Option.isSome_iff_ne_none.2 fun hnone => ?_)
  obtain ⟨e, he⟩ := h q hq
  rw [Pool.find?_closing_eq_none.1 hnone] at he
  simp at he

theorem present_opened (k : Cluster) (scheme : Scheme) :
    Present k (k.pipelines.opened scheme) := fun _ hq =>
  let ⟨⟨_, h⟩, _⟩ := Pool.mem_opened.1 hq
  ⟨_, h⟩

/-! ## Pipelines that are closed -/

/-- The identifiers are those of pipelines on a list.  If the account is exact
they are those of the pipelines that meet a condition. -/
structure Closes (exact : Prop) (P : Pipeline → Prop) (ps : List Pipeline)
    (ids : List PipelineId) : Prop where
  only : ∀ id ∈ ids, ∃ q ∈ ps, q.id = id ∧ (exact → P q)
  all : exact → ∀ q ∈ ps, P q → q.id ∈ ids

namespace Closes

variable {exact exact' : Prop} {P P' : Pipeline → Prop} {ps ps' : List Pipeline}
  {ids ids' : List PipelineId}

/-- Nothing has to be closed where nothing meets the condition. -/
theorem nothing (h : exact → ∀ q ∈ ps, ¬P q) : Closes exact P ps [] :=
  ⟨nofun, fun hw q hq hP => (h hw q hq hP).elim⟩

theorem nil : Closes exact P [] [] := nothing fun _ => nofun

theorem mono (h : Closes exact P ps ids) (hexact : exact' → exact) : Closes exact' P ps ids := by
  refine ⟨fun id hid => ?_, fun hw => h.all (hexact hw)⟩
  obtain ⟨q, hq, hid', hP⟩ := h.only id hid
  exact ⟨q, hq, hid', hP ∘ hexact⟩

theorem congr (h : Closes exact P ps ids) (hP : ∀ q ∈ ps, P q ↔ P' q) :
    Closes exact P' ps ids := by
  refine ⟨fun id hid => ?_, fun hw q hq hq' => h.all hw q hq ((hP q hq).2 hq')⟩
  obtain ⟨q, hq, hid', hq'⟩ := h.only id hid
  exact ⟨q, hq, hid', (hP q hq).1 ∘ hq'⟩

theorem append (h : Closes exact P ps ids) (h' : Closes exact P ps' ids') :
    Closes exact P (ps ++ ps') (ids ++ ids') := by
  refine ⟨fun id hid => ?_, fun hw q hq hP => List.mem_append.2 ?_⟩
  · rcases List.mem_append.1 hid with hid | hid
    · obtain ⟨q, hq, hq'⟩ := h.only id hid
      exact ⟨q, List.mem_append_left _ hq, hq'⟩
    · obtain ⟨q, hq, hq'⟩ := h'.only id hid
      exact ⟨q, List.mem_append_right _ hq, hq'⟩
  · exact (List.mem_append.1 hq).imp (h.all hw q · hP) (h'.all hw q · hP)

end Closes

/-- A pipeline is closed unless that is refused.  One that is not in the pool is closed by
doing nothing. -/
theorem close_of_granted {s : Session} (href : env.refusal s.trace (.closePipeline p.id) = none) :
    (close env p s).cluster = s.cluster.closing [p.id] := by
  unfold close Session.closePipeline
  cases hfind : s.cluster.pipelines.find? p.id with
  | none =>
    have hnothing : s.cluster.closing [p.id] = s.cluster := by
      simp only [Cluster.closing, Pool.closing_cons, Pool.closing_nil, Pool.modify_of_absent hfind]
    have hmissing := Pool.entry_eq_error_iff.2 ⟨hfind, rfl⟩
    rw [Session.call_of_error href (by rw [Pool.setState, Pool.update, hmissing]; rfl), hnothing]
  | some e =>
    have hthere := Pool.entry_eq_ok_iff.2 hfind
    rw [Session.call_of_ok href (by rw [Pool.setState, Pool.update, hthere]; rfl)]
    rfl

/-- A pipeline is closed, or that is refused and nothing happens. -/
theorem close_cluster (env : Environment) (p : Pipeline) (s : Session) :
    (close env p s).cluster = s.cluster.closing [p.id] ∨
      (close env p s).cluster = s.cluster ∧ ¬env.Willing := by
  cases href : env.refusal s.trace (.closePipeline p.id) with
  | none => exact .inl (close_of_granted href)
  | some err =>
    refine .inr ⟨?_, fun hw => hw.not_refuses err ⟨_, _, href⟩⟩
    rw [close, Session.closePipeline, Session.call_of_refused href]

/-- Closing a pipeline that meets the condition. -/
theorem close_closes (env : Environment) (s : Session) {P : Pipeline → Prop}
    (hP : env.Willing → P p) :
    ∃ ids, Closes env.Willing P [p] ids ∧ (close env p s).cluster = s.cluster.closing ids := by
  rcases close_cluster env p s with h | ⟨h, hnot⟩
  · exact ⟨[p.id], ⟨by simpa using hP, by simp⟩, h⟩
  · exact ⟨[], .nothing fun hw => (hnot hw).elim, h⟩

/-! ## Excluded pipelines -/

/-- The request excludes the pipeline, which has no containers. -/
def Vacant (k : Cluster) (r : Request) (p : Pipeline) : Prop :=
  r.exclude.excludesPipeline p = true ∧ (k.pipelines.bound p.id).isEmpty = true

instance : Decidable (Vacant k r p) := inferInstanceAs (Decidable (_ ∧ _))

@[simp] theorem vacant_closing {ids : List PipelineId} :
    Vacant (k.closing ids) r p ↔ Vacant k r p := by
  simp only [Vacant, Cluster.closing, Pool.bound_closing]

/-- What comes of choosing the candidates among some pipelines: those that the
request does not exclude, and the vacant ones are closed. -/
inductive Screened (env : Environment) (k : Cluster) (r : Request) (ps : List Pipeline) :
    List Pipeline × Session → Prop
  | intro {ids : List PipelineId} {s : Session} (hids : Closes env.Willing (Vacant k r) ps ids)
      (hs : s.cluster = k.closing ids) :
      Screened env k r ps (ps.filter fun q => !r.exclude.excludesPipeline q, s)

theorem Screened.cons_of_usable {ps : List Pipeline} {out : List Pipeline × Session}
    (husable : r.exclude.excludesPipeline p = false) (h : Screened env k r ps out) :
    Screened env k r (p :: ps) (p :: out.1, out.2) := by
  obtain ⟨hids, hs⟩ := h
  have hnone : Closes env.Willing (Vacant k r) [p] [] := .nothing fun _ q hq hvacant => by
    rw [List.mem_singleton.1 hq, Vacant, husable] at hvacant
    simp at hvacant
  have := Screened.intro (hnone.append hids) hs
  simpa [husable] using this

theorem Screened.cons_of_excluded {ps : List Pipeline} {out : List Pipeline × Session}
    {ids : List PipelineId} (hexcl : r.exclude.excludesPipeline p = true)
    (hids : Closes env.Willing (Vacant k r) [p] ids) (h : Screened env (k.closing ids) r ps out) :
    Screened env k r (p :: ps) out := by
  obtain ⟨hids', hs⟩ := h
  have hboth := hids.append (hids'.congr fun _ _ => vacant_closing)
  have := Screened.intro hboth (by rw [hs, Cluster.closing_closing])
  simpa [hexcl] using this

theorem candidates_screened (env : Environment) (r : Request) {ps : List Pipeline} {s : Session}
    (hps : Present s.cluster ps) :
    Screened env s.cluster r ps (candidates env r ps s) := by
  induction ps generalizing s with
  | nil => exact .intro .nil rfl
  | cons p ps ih =>
    have hrest : Present s.cluster ps := fun q hq => hps q (List.mem_cons_of_mem _ hq)
    unfold candidates
    split
    · next hexcl =>
      -- The search goes on with a session in which `p` was closed or was not.
      have hnext {ids : List PipelineId} {s' : Session}
          (hids : Closes env.Willing (Vacant s.cluster r) [p] ids)
          (hs' : s'.cluster = s.cluster.closing ids) :
          Screened env s.cluster r (p :: ps) (candidates env r ps s') :=
        .cons_of_excluded hexcl hids (hs' ▸ ih (hs' ▸ hrest.closing ids))
      have hcall := Session.containers_outcome env s p.id
      generalize Session.containers env p.id s = out at hcall ⊢
      rcases hcall with ⟨href, hs'⟩ | ⟨hmissing, -⟩ | ⟨hfound, hs'⟩
      · exact hnext (.nothing fun hw => (hw.not_refuses _ href).elim) hs'
      · obtain ⟨e, he⟩ := hps p List.mem_cons_self
        obtain ⟨habsent, -⟩ := Pool.entry_eq_error_iff.1 hmissing
        rw [he] at habsent
        simp at habsent
      · next e s' =>
        have hbound := Pool.bound_of_find? (Pool.entry_eq_ok_iff.1 hfound)
        dsimp only at hs' ⊢
        split
        · next hempty =>
          have hvacant : Vacant s.cluster r p := ⟨hexcl, hbound ▸ hempty⟩
          obtain ⟨ids, hids, hs''⟩ := close_closes env s' fun _ => hvacant
          exact hnext hids (hs' ▸ hs'')
        · next hbusy =>
          refine hnext (.nothing fun _ q hq hvacant => hbusy ?_) hs'
          rw [List.mem_singleton.1 hq] at hvacant
          exact hbound ▸ hvacant.2
    · next husable => exact .cons_of_usable (Bool.eq_false_iff.2 husable) (ih hrest)

/-! ## One candidate -/

/-- What may come of trying one pipeline. -/
inductive Tried (a : Allocator) (env : Environment) (k : Cluster) (r : Request) (p : Pipeline) :
    Option Container × Session → Prop
  | found {c : Container} {s : Session} (hserves : a.Serves k r p c)
      (hs : s.cluster = k.handing c.id env.now) : Tried a env k r p (some c, s)
  | left {ids : List PipelineId} {s : Session} (hserving : env.Willing → ¬a.Serving k r p)
      (hids : Closes env.Willing (a.Spent k r) [p] ids) (hs : s.cluster = k.closing ids) :
      Tried a env k r p (none, s)

theorem attempt_tried (a : Allocator) (env : Environment) (r : Request) {p : Pipeline}
    {s : Session} {e : Pool.Entry} (hp : s.cluster.pipelines.find? p.id = some e) :
    Tried a env s.cluster r p (a.attempt env r p s) := by
  have hreuse := reuse_scanned a env r hp
  unfold attempt
  generalize a.reuse env r p s = out at hreuse ⊢
  rcases hreuse with ⟨href, hs⟩ | ⟨hserves, hs⟩ | ⟨hserving, hspent, hs⟩ | ⟨hserving, hspent, hs⟩ |
    ⟨hserving, hspent, hs⟩
  · next err s' =>
    -- A refusal may look like a vanished pipeline, which is then closed.
    have hnot (hw : env.Willing) : False := hw.not_refuses _ href
    dsimp only
    split
    · obtain ⟨ids, hids, hs''⟩ := close_closes env (P := a.Spent s.cluster r) (p := p) s'
        fun hw => (hnot hw).elim
      exact .left (fun hw => (hnot hw).elim) hids (hs ▸ hs'')
    · exact .left (fun hw => (hnot hw).elim) (.nothing fun hw => (hnot hw).elim) hs
  · exact .found hserves hs
  · refine .left (fun _ => hserving) (.nothing fun _ q hq => ?_) hs
    rwa [List.mem_singleton.1 hq]
  all_goals
    obtain ⟨ids, hids, hs''⟩ := close_closes env ‹Session› fun _ => hspent
    exact .left (fun _ => hserving) hids (hs ▸ hs'')

/-! ## One candidate after the other -/

/-- What may come of trying pipelines one after the other.  Those that were tried
before the last one gave no container, and the spent ones of them are closed. -/
inductive Drained (a : Allocator) (env : Environment) (choose : Chooser) (k : Cluster)
    (r : Request) (ps : List Pipeline) : Option Container × Session → Prop
  | found {tried rest : List Pipeline} {p : Pipeline} {c : Container} {ids : List PipelineId}
      {s : Session} (hps : (tried ++ p :: rest).Perm ps)
      (hids : Closes env.Willing (a.Spent k r) tried ids) (hserves : a.Serves k r p c)
      (hs : s.cluster = (k.closing ids).handing c.id env.now) :
      Drained a env choose k r ps (some c, s)
  | left {tried rest : List Pipeline} {ids : List PipelineId} {s : Session}
      (hps : (tried ++ rest).Perm ps) (hrest : choose.Picks → rest = [])
      (hserving : env.Willing → ∀ q ∈ tried, ¬a.Serving k r q)
      (hids : Closes env.Willing (a.Spent k r) tried ids) (hs : s.cluster = k.closing ids) :
      Drained a env choose k r ps (none, s)

/-- Nothing is tried if nothing is left or the chooser does not pick. -/
theorem Drained.of_untried {choose : Chooser} {ps : List Pipeline} {s : Session}
    (hps : choose.Picks → ps = []) (hs : s.cluster = k) :
    Drained a env choose k r ps (none, s) := by
  have hserving : env.Willing → ∀ q ∈ ([] : List Pipeline), ¬a.Serving k r q := fun _ => nofun
  exact .left (List.Perm.refl ([] ++ ps)) hps hserving .nil hs

/-- One candidate that gave nothing goes before what came of the rest. -/
theorem Drained.cons {choose : Chooser} {ps rest : List Pipeline} {ids : List PipelineId}
    {out : Option Container × Session} (hps : (p :: rest).Perm ps)
    (hserving : env.Willing → ¬a.Serving k r p) (hids : Closes env.Willing (a.Spent k r) [p] ids)
    (h : Drained a env choose (k.closing ids) r rest out) : Drained a env choose k r ps out := by
  cases h with
  | found hps' hids' hserves hs =>
    refine .found ((hps'.cons p).trans hps) (hids.append (hids'.congr fun _ _ => spent_closing))
      (serves_closing hserves) ?_
    rw [hs, Cluster.closing_closing]
  | left hps' hrest hserving' hids' hs =>
    refine .left ((hps'.cons p).trans hps) hrest (fun hw q hq => ?_)
      (hids.append (hids'.congr fun _ _ => spent_closing)) ?_
    · rcases List.mem_cons.1 hq with rfl | hq
      · exact hserving hw
      · exact mt serving_closing.2 (hserving' hw q hq)
    · rw [hs, Cluster.closing_closing]

/-- The pipeline that was picked and those that are left are the candidates. -/
theorem perm_of_picked {choose : Chooser} {ps rest : List Pipeline}
    (h : ((choose ps).bind fun i => ps[i]?.map fun p => (p, ps.eraseIdx i)) = some (p, rest)) :
    (p :: rest).Perm ps := by
  obtain ⟨i, -, hi⟩ := Option.bind_eq_some_iff.1 h
  obtain ⟨q, hq, hqp⟩ := Option.map_eq_some_iff.1 hi
  obtain ⟨hlt, rfl⟩ := List.getElem?_eq_some_iff.1 hq
  obtain ⟨rfl, rfl⟩ := Prod.mk.inj hqp
  exact List.getElem_cons_eraseIdx_perm hlt

theorem drain_drained (a : Allocator) (env : Environment) (choose : Chooser) (r : Request)
    {ps : List Pipeline} {s : Session} (hps : Present s.cluster ps) :
    Drained a env choose s.cluster r ps (a.drain env choose r ps.length ps s) := by
  generalize hn : ps.length = n
  induction n generalizing ps s with
  | zero =>
    obtain rfl := List.length_eq_zero_iff.1 hn
    exact .of_untried (fun _ => rfl) rfl
  | succ n ih =>
    unfold drain
    dsimp only
    split
    · next hnone =>
      -- A chooser that picks would not have stopped here.
      refine .of_untried (fun hpicks => ?_) rfl
      obtain ⟨i, hi, hlt⟩ := hpicks ps (List.ne_nil_of_length_eq_add_one hn)
      simp [hi, hlt] at hnone
    · next p rest hsome =>
      have hperm := perm_of_picked hsome
      have hrest : Present s.cluster rest := fun q hq =>
        hps q (hperm.subset (List.mem_cons_of_mem _ hq))
      have hlen : rest.length = n := Nat.succ.inj (hperm.length_eq.trans hn)
      obtain ⟨e, he⟩ := hps p (hperm.subset List.mem_cons_self)
      have htried := attempt_tried a env r (s := s.offer ps) he
      generalize a.attempt env r p (s.offer ps) = out at htried ⊢
      rcases htried with ⟨hserves, hs⟩ | ⟨hserving, hids, hs⟩
      · exact .found hperm .nil hserves hs
      · next ids s' =>
        have hs' : s'.cluster = s.cluster.closing ids := hs
        have hthen := ih (s := s') (hs' ▸ hrest.closing ids) hlen
        rw [hs'] at hthen
        exact .cons hperm hserving hids hthen

/-! ## The whole search -/

/-- Looks through the open pipelines of the scheme for a container. -/
def search (a : Allocator) (env : Environment) (choose : Chooser) (r : Request) (s : Session) :
    Option Container × Session :=
  let (candidates, s) := candidates env r (s.cluster.pipelines.opened r.scheme) s
  a.drain env choose r candidates.length candidates s

theorem fallBack_eq (a : Allocator) (env : Environment) (choose : Chooser) (r : Request)
    (limit : Nat) (first : Option Error) (s : Session) :
    a.fallBack env choose r limit first s =
      match a.search env choose r s with
      | (some c, s) => (.ok c, s)
      | (none, s) => lastAttempt env r limit first s :=
  rfl

/-- What holds of every step of a search, and goes from step to step. -/
structure Carried (env : Environment) (R : Session → Session → Prop) : Prop where
  refl : ∀ s, R s s
  trans : ∀ {s s' s''}, R s s' → R s' s'' → R s s''
  offer : ∀ s candidates, R s (s.offer candidates)
  containers : ∀ s id, R s (Session.containers env id s).2
  container : ∀ s id, R s (Session.container env id s).2
  touch : ∀ s id, R s (Session.touch env id s).2
  close : ∀ s p, R s (close env p s)
  count : ∀ s metrics, R s { s with metrics }

namespace Carried

variable {R : Session → Session → Prop}

theorem candidates (h : Carried env R) (ps : List Pipeline) (s : Session) :
    R s (candidates env r ps s).2 := by
  induction ps generalizing s with
  | nil => exact h.refl s
  | cons p ps ih =>
    unfold Allocator.candidates
    split
    · have hlist := h.containers s p.id
      generalize Session.containers env p.id s = out at hlist ⊢
      obtain ⟨res, s₁⟩ := out
      cases res with
      | error err => exact h.trans hlist (ih s₁)
      | ok ids =>
        dsimp only
        split
        · exact h.trans (h.trans hlist (h.close s₁ p)) (ih _)
        · exact h.trans hlist (ih s₁)
    · exact ih s

theorem attempt (h : Carried env R) (p : Pipeline) (s : Session) :
    R s (a.attempt env r p s).2 := by
  have hreuse : R s (a.reuse env r p s).2 :=
    reuse_related h.refl h.trans (fun s => h.containers s p.id) (fun id s => h.container s id)
      (fun id s => h.touch s id) s
  unfold Allocator.attempt
  generalize a.reuse env r p s = out at hreuse ⊢
  obtain ⟨res, s₁⟩ := out
  match res with
  | .ok (.found c) => exact h.trans hreuse (h.count s₁ _)
  | .ok .skipped => exact hreuse
  | .ok .exhausted => exact h.trans hreuse (h.close s₁ p)
  | .error err =>
    dsimp only
    split
    · exact h.trans hreuse (h.close s₁ p)
    · exact hreuse

theorem drain (h : Carried env R) (choose : Chooser) (n : Nat) (ps : List Pipeline)
    (s : Session) : R s (a.drain env choose r n ps s).2 := by
  induction n generalizing ps s with
  | zero => exact h.refl s
  | succ n ih =>
    have hoffer := h.offer s ps
    unfold Allocator.drain
    dsimp only
    split
    · exact hoffer
    · next p rest _ =>
      have hattempt := h.trans hoffer (h.attempt (a := a) (r := r) p (s.offer ps))
      generalize a.attempt env r p (s.offer ps) = out at hattempt ⊢
      obtain ⟨res, s₁⟩ := out
      cases res with
      | some c => exact hattempt
      | none => exact h.trans hattempt (ih rest s₁)

theorem search (h : Carried env R) (choose : Chooser) (s : Session) :
    R s (a.search env choose r s).2 :=
  h.trans (h.candidates _ s) (h.drain choose _ _ _)

end Carried

end Allocator

end ControlPlane

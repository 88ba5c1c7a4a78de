import ControlPlane.Admin.Router
import ControlPlane.Proofs.Manager.Pairing

/-!
# Requests that fail

A request of an operator or a client that is not answered with success, or not answered at
all, leaves the control plane as it was, up to the metrics.

* `Manager.Op.serviceable`.  Over a cluster in memory no pipeline is ever spent, so
  `Manager.allocate_failed` holds: a container that cannot be had costs nothing.
* `Answered` lists what an answer may come from, and `reply_answered` opens the routes once
  and for all.
* `Reachable` are the states that the control plane can come to in memory.
-/

namespace ControlPlane

/-! ## Operations in memory -/

namespace Manager

variable {m : Manager} {env : Environment}

theorem openPipeline_serviceable {id : PipelineId} (h : m.cluster.Serviceable) :
    (m.openPipeline env id).2.cluster.Serviceable := by
  rw [openPipeline_session]
  have hcall := Session.openPipeline_outcome env m.session id
  generalize Session.openPipeline env id m.session = out at hcall ⊢
  rcases hcall with ⟨-, hs⟩ | ⟨-, hs⟩ | ⟨-, hs⟩
  · exact hs ▸ h
  · exact hs ▸ h
  · exact hs ▸ h.modify id fun _ => rfl

theorem allocate_serviceable {draws : List Pipeline → Nat × Nat} {r : Request}
    (hw : env.Willing) (h : m.cluster.Serviceable) :
    (m.allocate env draws r).2.1.cluster.Serviceable := by
  unfold allocate
  split
  · exact h
  · exact (Allocator.allocate_requested m.allocator env _ r m.session).serviceable hw h

/-- One operation. -/
theorem Op.serviceable {op : Op} (hop : op.Willing) (h : m.cluster.Serviceable) :
    (op.run m).cluster.Serviceable := by
  cases op with
  | heartbeat id health =>
    obtain ⟨hpipelines, hcontainers⟩ := heartbeat_stores m id health
    exact h.of_same hpipelines hcontainers
  | reportPipelines id pipelines =>
    have hsame := reportPipelines_cluster m id pipelines
    exact h.of_same (congrArg _ hsame) (congrArg _ hsame)
  | openPipeline env id => exact openPipeline_serviceable h
  | allocate env draws r => exact allocate_serviceable hop h
  | reportNode | forceExit | refresh | register | registerGate => exact h.of_same rfl rfl

/-- A request for a container that fails leaves nothing half done. -/
theorem allocate_failed {draws : List Pipeline → Nat × Nat} {r : Request} {err : Error}
    (hw : env.Willing) (h : m.cluster.Serviceable)
    (herr : (m.allocate env draws r).1 = some (.error err)) :
    (m.allocate env draws r).2.1 = m.withMetrics (m.allocate env draws r).2.1.metrics := by
  unfold allocate at herr ⊢
  cases hrefusal : m.refusal? r with
  | some e => rfl
  | none =>
    rw [hrefusal] at herr
    have hpicks := m.settings.provider.policy.chooser_picks m.cluster.nodes draws
    have hrequested := Allocator.allocate_requested m.allocator env
      (m.settings.provider.policy.chooser m.cluster.nodes draws) r m.session
    dsimp only [run] at herr ⊢
    rw [← session] at herr ⊢
    generalize m.allocator.allocate env _ r m.session = out at hrequested herr ⊢
    obtain ⟨res, s⟩ := out
    obtain rfl : res = some (.error err) := herr
    have hsame : s.cluster = m.cluster := hrequested.cluster_of_error hw hpicks fun q =>
      h.not_useless (size_le_of_refusal? hrefusal)
    dsimp only
    rw [hsame]
    rfl

/-- A request for a container that breaks off has not even counted anything. -/
theorem allocate_brokenOff {draws : List Pipeline → Nat × Nat} {r : Request}
    (hnone : (m.allocate env draws r).1 = none) : (m.allocate env draws r).2.1 = m := by
  unfold allocate at hnone ⊢
  cases hrefusal : m.refusal? r with
  | some e => rfl
  | none =>
    rw [hrefusal] at hnone
    dsimp only [run] at hnone ⊢
    rw [← session] at hnone ⊢
    rw [Allocator.allocate_unchanged hnone]
    rfl

end Manager

/-! ## Routes -/

namespace Admin

variable {m : Manager} {env : Environment} {draws : List Pipeline → Nat × Nat} {q : Query}

/-- The request posts something to a path. -/
def Query.Posts (q : Query) (path : List String) : Prop :=
  q.method = "POST" ∧ (Target.ofText q.target).segments.map String.ofList = path

/-- The paths to which something is to be posted. -/
def postedPaths : List (List String) :=
  [["safemode", "exit"], ["nodes", "report"], ["containers"]]

/-- The answer tells of success. -/
def Answer.Succeeds (a : Answer) : Prop := 200 ≤ a.status ∧ a.status < 300

theorem ok_succeeds (v : Json.Value) : (ok v).Succeeds :=
  ⟨Nat.le_refl 200, (by decide : 200 < 300)⟩

/-- What an answer may come from. -/
inductive Answered (m : Manager) (env : Environment) (draws : List Pipeline → Nat × Nat)
    (q : Query) : Reply → Prop
  | kept (a : Answer) : Answered m env draws q { answer := a, manager := m }
  | exited (hroute : q.Posts ["safemode", "exit"]) :
      Answered m env draws q
        { answer := ok m.forceExit.status.json, manager := m.forceExit }
  | reported (r : NodeReport) (hroute : q.Posts ["nodes", "report"]) :
      Answered m env draws q
        { answer := ok (m.reportNode r).status.json, manager := m.reportNode r }
  | served {r : Request} {c : Container} (trace : Trace) (hroute : q.Posts ["containers"])
      (hc : (m.allocate env draws r).1 = some (.ok c)) :
      Answered m env draws q
        { answer := some { status := 201, body := .json c.json }
          manager := (m.allocate env draws r).2.1
          trace }
  | failed {r : Request} {err : Error} (trace : Trace) (hroute : q.Posts ["containers"])
      (herr : (m.allocate env draws r).1 = some (.error err)) :
      Answered m env draws q
        { answer := failure err, manager := (m.allocate env draws r).2.1, trace }
  | brokenOff {r : Request} (trace : Trace) (hroute : q.Posts ["containers"])
      (hnone : (m.allocate env draws r).1 = none) :
      Answered m env draws q { answer := none, manager := (m.allocate env draws r).2.1, trace }

/-- The path of a route that is posted. -/
def Route.postedAt : Route → List String
  | .exit => ["safemode", "exit"]
  | .report => ["nodes", "report"]
  | .containers => ["containers"]
  | _ => []

theorem Route.path_of_posted {segments : List (List Char)} {route : Route}
    (h : Route.ofSegments? segments = some route) (hposted : route.isPosted = true) :
    segments.map String.ofList = route.postedAt := by
  unfold Route.ofSegments? at h
  split at h
  case h_4 hpath | h_6 hpath | h_8 hpath =>
    obtain rfl := Option.some.inj h
    exact hpath
  case h_7 =>
    split at h
    · cases h
    · obtain rfl := Option.some.inj h
      cases hposted
  case h_9 => cases h
  all_goals
    obtain rfl := Option.some.inj h
    cases hposted

theorem allocate_answered (m : Manager) (env : Environment)
    (draws : List Pipeline → Nat × Nat) (hroute : q.Posts ["containers"]) :
    Answered m env draws q (allocate m env draws q) := by
  unfold allocate
  split
  · exact .kept _
  · next r _ =>
    split
    · next c manager trace hout =>
      have hserved := Answered.served trace hroute (congrArg (·.1) hout)
      rwa [hout] at hserved
    · next err manager trace hout =>
      have hfailed := Answered.failed trace hroute (congrArg (·.1) hout)
      rwa [hout] at hfailed
    · next manager trace hout =>
      have hbroken := Answered.brokenOff trace hroute (congrArg (·.1) hout)
      rwa [hout] at hbroken

theorem reply_answered (m : Manager) (env : Environment) (draws : List Pipeline → Nat × Nat)
    (q : Query) : Answered m env draws q (reply m env draws q) := by
  unfold reply
  dsimp only
  split
  · exact .kept _
  · next route hroute =>
    split
    · next hposted =>
      split
      · next hmethod =>
        have hposts : q.Posts route.postedAt := ⟨hmethod, Route.path_of_posted hroute hposted⟩
        cases route with
        | exit => exact .exited hposts
        | report =>
          unfold act
          dsimp only
          split
          · exact .kept _
          · exact .reported _ hposts
        | containers => exact allocate_answered m env draws hposts
        | health | status | rules | nodes | node => cases hposted
      · exact .kept _
    · split
      · exact .kept _
      · split <;> exact .kept _

/-! ## What requests change -/

variable {out : Reply}

theorem Answered.serviceable (h : Answered m env draws q out) (hw : env.Willing)
    (hk : m.cluster.Serviceable) : out.manager.cluster.Serviceable := by
  cases h with
  | kept | exited => exact hk
  | reported r => exact hk.of_same rfl rfl
  | served | failed | brokenOff => exact Manager.allocate_serviceable hw hk

theorem Answered.unchanged_of_fails (h : Answered m env draws q out) (hw : env.Willing)
    (hk : m.cluster.Serviceable) (hfails : ¬∃ a ∈ out.answer, a.Succeeds) :
    out.manager = m.withMetrics out.manager.metrics := by
  cases h with
  | kept => rfl
  | exited | reported => exact (hfails ⟨_, rfl, ok_succeeds _⟩).elim
  | served =>
    exact (hfails ⟨_, rfl, (by decide : 200 ≤ 201), (by decide : 201 < 300)⟩).elim
  | failed _ _ herr => exact Manager.allocate_failed hw hk herr
  | brokenOff _ _ hnone =>
    rw [Manager.allocate_brokenOff hnone]
    rfl

theorem Answered.unchanged_of_not_posts (h : Answered m env draws q out)
    (hnot : ∀ path ∈ postedPaths, ¬q.Posts path) : out.manager = m := by
  cases h with
  | kept => rfl
  | exited hroute | reported _ hroute | served _ hroute | failed _ hroute
    | brokenOff _ hroute =>
    exact (hnot _ (by simp [postedPaths]) hroute).elim

/-! ## States that the control plane can come to -/

/-- A state that the control plane comes to in memory, by its own operations and by
requests. -/
inductive Reachable : Manager → Prop
  | start {settings : Settings} {metrics : Metrics} {m : Manager}
      (h : Manager.inMemory settings metrics = .ok m) : Reachable m
  | op {m : Manager} {op : Manager.Op} (hop : op.Willing) (h : Reachable m) : Reachable (op.run m)
  | request {m : Manager} {env : Environment} (hw : env.Willing)
      (draws : List Pipeline → Nat × Nat) (q : Query) (h : Reachable m) :
      Reachable (reply m env draws q).manager

theorem Reachable.after {ops : List Manager.Op} (h : Reachable m) (hops : ∀ op ∈ ops, op.Willing) :
    Reachable (m.after ops) := by
  induction ops generalizing m with
  | nil => exact h
  | cons op ops ih =>
    rw [List.forall_mem_cons] at hops
    exact ih (.op hops.1 h) hops.2

/-- No pipeline is ever spent. -/
theorem Reachable.serviceable (h : Reachable m) : m.cluster.Serviceable := by
  induction h with
  | start hstart =>
    rw [(Manager.of_start_eq_ok hstart).1]
    exact Cluster.serviceable_empty
  | op hop _ ih => exact Manager.Op.serviceable hop ih
  | request hw draws q _ ih => exact (reply_answered _ _ draws q).serviceable hw ih

/-- A request that is not answered with success changes nothing but the metrics, and a request
that posts nothing to a path where something is to be posted changes nothing at all. -/
theorem reply_unchanged (hm : Reachable m) (hw : env.Willing) (draws : List Pipeline → Nat × Nat)
    (q : Query) :
    let out := reply m env draws q
    ((¬∃ a ∈ out.answer, a.Succeeds) →
      out.manager = m.withMetrics out.manager.metrics) ∧
      ((∀ path ∈ postedPaths, ¬q.Posts path) → out.manager = m) := by
  have hanswered := reply_answered m env draws q
  exact ⟨hanswered.unchanged_of_fails hw hm.serviceable, hanswered.unchanged_of_not_posts⟩

namespace Sample

/-- The control plane of a development node with one pipeline, after safe mode. -/
def busy : Manager := Manager.Sample.manager.after (Manager.Sample.ops.take 3)

/-- A request that may not have the only container. -/
def excluding : Query where
  method := "POST"
  target := "/containers"
  contentType := some "application/json"
  body := Json.Value.compact <| .object [
    ("size", (10 : Nat)),
    ("replication", (Scheme.ratis .one).json),
    ("owner", "app"),
    ("exclude", Exclusions.json { containers := .ofList [⟨1⟩] })]

end Sample

/-- The container is excluded and there is no room for another pipeline. -/
theorem reply_unchanged_sample :
    let out := reply Sample.busy Allocator.Sample.world (fun _ => (0, 0)) Sample.excluding
    out.answer.map (·.status) = some 503 ∧
      out.manager = Sample.busy.withMetrics out.manager.metrics := by
  intro out
  have hstatus : out.answer.map (·.status) = some 503 := by decide +kernel
  have hstart : Manager.inMemory .development {} = .ok Manager.Sample.manager := by rfl
  have hwilling : ∀ op ∈ Manager.Sample.ops.take 3, op.Willing := by
    simp [Manager.Sample.ops, Manager.Op.Willing, Allocator.Sample.world_inMemory.willing]
  have hreachable : Reachable Sample.busy := (Reachable.start hstart).after hwilling
  refine ⟨hstatus, (reply_unchanged hreachable Allocator.Sample.world_inMemory.willing
    (fun _ => (0, 0)) Sample.excluding).1 ?_⟩
  rintro ⟨a, ha, hsucceeds⟩
  obtain ⟨a', ha', hcode⟩ := Option.map_eq_some_iff.1 hstatus
  obtain rfl := Option.some.inj (ha.symm.trans ha')
  have hbelow := hsucceeds.2
  rw [hcode] at hbelow
  exact absurd hbelow (by decide)

end Admin

end ControlPlane

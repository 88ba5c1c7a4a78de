import ControlPlane.Proofs.Container.Inventory
import ControlPlane.Proofs.Readiness.Redelivery
import ControlPlane.Proofs.Readiness.Replicas

/-!
# What a rule on replicas goes by

Until it is frozen, a rule on replicas follows from three things: the inventory and the
registry of its last count, and the reports that came in since.  What it did in between,
and whom it forgot, does not matter.

* `hearing_perm`.  What a rule hears it may hear in any order, so that neither the order of
  events matters (`run_perm`) nor that in which the registry is gone through.
* `Ledger` keeps the three things.  The rule of a ledger is the one that hears all of it at
  once, and it stays that after an operation (`Ledger.rule_run`) and a run
  (`Ledger.rule_after`).
* `Ledger.Exact` reads off the ledger what the rule tracks and counts, and `run_exact` says
  so of any run.
-/

namespace ControlPlane.Readiness

/-- The report of a node that an event brings, if it brings one. -/
def Event.report? : Event → Option NodeReport
  | .nodeRegistered x | .containersReported x => some x
  | _ => none

namespace ReplicaRule

variable {r : ReplicaRule} {n : NodeId} {c : ContainerId} {family : Family} {threshold : Float}
  {needed : Nat}

/-! ## Operations -/

/-- An event, or a new count. -/
inductive Op
  | process (e : Event)
  | refresh (k : Cluster) (force : Bool)

/-- The rule after an operation. -/
def Op.run (r : ReplicaRule) : Op → ReplicaRule
  | .process e => r.process e
  | .refresh k force => r.refresh k force

/-- The rule after some operations, the first of the list first. -/
def run (r : ReplicaRule) (ops : List Op) : ReplicaRule := ops.foldl Op.run r

/-- What a rule goes by: the inventory and the registry of its last count, and the reports
since then. -/
structure Ledger where
  containers : Inventory
  nodes : Registry := ∅
  heard : List NodeReport := []

namespace Ledger

/-- All that was said, container by container. -/
def said (l : Ledger) : List (NodeId × ContainerId) := wordsIn l.nodes ++ wordsOf l.heard

/-- The nodes that reported a container, each once. -/
def reporters (l : Ledger) (c : ContainerId) : SortedSet NodeId := reportersOf l.said c

/-- The container is closed, holds a key and is of the kind of scheme, which asks for so
many reporters. -/
def Awaits (l : Ledger) (family : Family) (c : ContainerId) (needed : Nat) : Prop :=
  ∃ d, l.containers.find? c = some d ∧ (d.state = .closed ∨ d.state = .quasiClosed) ∧
    0 < d.keys ∧ d.scheme.family = family ∧ d.scheme.minReplicas = needed

/-- The rule that hears all that was said. -/
def rule (l : Ledger) (family : Family) (threshold : Float) : ReplicaRule :=
  (make family threshold l.containers).hearing l.said

/-- The ledger of a rule after an operation.  A new count starts it over, and one that is
not made leaves it alone. -/
def next (l : Ledger) (r : ReplicaRule) : Op → Ledger
  | .process e => { l with heard := l.heard ++ e.report?.toList }
  | .refresh k force =>
    if !force && r.holds then l else { containers := k.containers, nodes := k.nodes }

/-- The ledger of a rule after some operations. -/
def after : Ledger → ReplicaRule → List Op → Ledger
  | l, _, [] => l
  | l, r, op :: ops => (l.next r op).after (op.run r) ops

theorem mem_reporters {l : Ledger} : n ∈ l.reporters c ↔
    l.nodes.Hosts n c ∨ ∃ x ∈ l.heard, x.descriptor.id = n ∧ c ∈ x.containers := by
  rw [reporters, mem_reportersOf, said, List.mem_append, mem_wordsIn, mem_wordsOf]

end Ledger

/-! ## Hearing -/

section Hearing

variable {words words' : List (NodeId × ContainerId)}

theorem hearing_append : r.hearing (words ++ words') = (r.hearing words).hearing words' :=
  List.foldl_append

theorem hearing_grows (r : ReplicaRule) (words : List (NodeId × ContainerId)) :
    Grows r (r.hearing words) := by
  induction words generalizing r with
  | nil => exact .refl r
  | cons word words ih => exact (record_grows r word.1 word.2).trans (ih _)

/-- It does not matter in which order things are heard. -/
theorem hearing_perm (h : words.Perm words') : r.hearing words = r.hearing words' :=
  h.foldl_eq' (fun _ _ _ _ _ => record_comm) r

/-- A rule that is not frozen hears the report of an event. -/
theorem process_of_open {e : Event} (h : r.frozen = false) :
    r.process e = r.hearing (wordsOf e.report?.toList) := by
  have hreport (x : NodeReport) : r.recordAll x.descriptor.id x.containers =
      r.hearing (wordsOf [x]) :=
    foldl_recordAll [x] (·.descriptor.id) (·.containers) r
  cases e with
  | nodeRegistered x =>
    rw [process, h]
    exact hreport x
  | containersReported x =>
    rw [process, h]
    exact hreport x
  | pipelineOpened | pipelinesReported => rfl

theorem process_comm {e e' : Event} : (r.process e).process e' = (r.process e').process e := by
  cases hfrozen : r.frozen with
  | true => simp only [process_of_frozen hfrozen]
  | false =>
    have hopen (e : Event) : (r.process e).frozen = false :=
      (process_grows r e).frozen.trans hfrozen
    rw [process_of_open (hopen e), process_of_open (hopen e'), process_of_open hfrozen,
      process_of_open hfrozen, ← hearing_append, ← hearing_append]
    exact hearing_perm List.perm_append_comm

/-- Events may come in any order. -/
theorem run_perm {events events' : List Event} (h : events.Perm events') :
    r.run (events.map .process) = r.run (events'.map .process) := by
  rw [run, run, List.foldl_map, List.foldl_map]
  exact h.foldl_eq' (fun _ _ _ _ _ => process_comm) r

end Hearing

/-! ## The rule of a ledger -/

namespace Ledger

variable {l : Ledger}

theorem rule_frozen : (l.rule family threshold).frozen = false :=
  (hearing_grows _ _).frozen

/-- One operation. -/
theorem rule_run (op : Op) : op.run (l.rule family threshold) =
    (l.next (l.rule family threshold) op).rule family threshold := by
  cases op with
  | process e =>
    have hsaid : (l.next (l.rule family threshold) (.process e)).said =
        l.said ++ wordsOf e.report?.toList := by
      simp only [said, next, wordsOf, List.flatMap_append, List.append_assoc]
    rw [Op.run, process_of_open rule_frozen, rule, ← hearing_append, ← hsaid]
    rfl
  | refresh k force =>
    simp only [Op.run, refresh, next]
    split
    · rfl
    · have hgrows := hearing_grows (make family threshold l.containers) l.said
      have hsaid : said { containers := k.containers, nodes := k.nodes } = wordsIn k.nodes :=
        List.append_nil _
      rw [rule_frozen, if_neg Bool.false_ne_true, recount_eq, rule, rule, hgrows.family,
        hgrows.threshold, hsaid]
      rfl

/-- A run. -/
theorem rule_after (ops : List Op) : (l.rule family threshold).run ops =
    (l.after (l.rule family threshold) ops).rule family threshold := by
  induction ops generalizing l with
  | nil => rfl
  | cons op ops ih =>
    show (op.run (l.rule family threshold)).run ops =
      ((l.next _ op).after (op.run (l.rule family threshold)) ops).rule family threshold
    rw [rule_run, ih]

/-! ## What is tracked and counted -/

theorem awaited_iff {d : Container} :
    d.awaited = true ↔ (d.state = .closed ∨ d.state = .quasiClosed) ∧ 0 < d.keys := by
  simp only [Container.awaited, ContainerState.isClosed, Bool.and_eq_true, Bool.or_eq_true,
    beq_iff_eq, decide_eq_true_eq]

theorem find?_awaited : (awaited family l.containers).find? c = some needed ↔
    l.Awaits family c needed := by
  have hids : (((l.containers.select (some family)).filter Container.awaited).map fun d =>
      (d.id, d.scheme.minReplicas)).map (·.1) =
        ((l.containers.select (some family)).filter Container.awaited).map (·.id) := by
    rw [List.map_map]
    rfl
  have hnodup := (l.containers.select_ids_nodup (some family)).sublist
    ((List.filter_sublist (p := Container.awaited)).map _)
  rw [awaited, SortedMap.find?_ofList (hids ▸ hnodup), List.mem_map]
  constructor
  · rintro ⟨d, hd, hrow⟩
    obtain ⟨rfl, rfl⟩ := Prod.mk.inj hrow
    obtain ⟨hlisted, hawaited⟩ := List.mem_filter.1 hd
    obtain ⟨hfind, hfamily⟩ := Inventory.mem_select.1 hlisted
    obtain ⟨hclosed, hkeys⟩ := awaited_iff.1 hawaited
    exact ⟨d, hfind, hclosed, hkeys, hfamily family rfl, rfl⟩
  · rintro ⟨d, hfind, hclosed, hkeys, rfl, rfl⟩
    have hid : d.id = c := Inventory.id_of_find? hfind
    subst hid
    have hlisted : d ∈ l.containers.select (some d.scheme.family) :=
      Inventory.mem_select.2 ⟨hfind, by simp⟩
    exact ⟨d, List.mem_filter.2 ⟨hlisted, awaited_iff.2 ⟨hclosed, hkeys⟩⟩, rfl⟩

/-- The rule tracks and counts what the ledger says. -/
structure Exact (l : Ledger) (family : Family) (r : ReplicaRule) : Prop where
  /-- The containers of the inventory that are waited for. -/
  tracked : ∀ c needed, r.tracked.find? c = some needed ↔ l.Awaits family c needed
  /-- Those of them that enough different nodes reported, one at least. -/
  counted : ∀ c, c ∈ r.counted ↔
    ∃ needed, r.tracked.find? c = some needed ∧ max 1 needed ≤ (l.reporters c).size
  within : ∀ c ∈ r.counted, (r.tracked.find? c).isSome = true

theorem rule_exact : l.Exact family (l.rule family threshold) := by
  have htracked : (l.rule family threshold).tracked = awaited family l.containers :=
    tracked_hearing l.said
  have hcounted (c : ContainerId) : c ∈ (l.rule family threshold).counted ↔
      ∃ needed, (awaited family l.containers).find? c = some needed ∧
        max 1 needed ≤ (l.reporters c).size :=
    counted_hearing
  constructor
  · intro c needed
    rw [htracked]
    exact find?_awaited
  · intro c
    rw [htracked]
    exact hcounted c
  · intro c hc
    obtain ⟨needed, hneeded, -⟩ := (hcounted c).1 hc
    rw [htracked]
    exact Option.isSome_iff_exists.2 ⟨needed, hneeded⟩

end Ledger

/-! ## Frozen rules -/

/-- Nothing is done to a rule that is frozen. -/
theorem frozen_run (h : r.frozen = true) (ops : List Op) : r.run ops = r := by
  induction ops with
  | nil => rfl
  | cons op ops ih =>
    have hop : op.run r = r := by
      cases op with
      | process e => exact process_of_frozen h
      | refresh k force => exact refresh_of_frozen h
    show (op.run r).run ops = r
    rw [hop, ih]

/-! ## Runs -/

/-- After any run a rule counts the containers it tracks that enough different nodes
reported, at its last count or since then, in whatever order they came; and once it is
frozen it stays as it is. -/
theorem run_exact (family : Family) (threshold : Float) (containers : Inventory)
    (ops : List Op) :
    let made := make family threshold containers
    let r := made.run ops
    let l := Ledger.after { containers } made ops
    l.Exact family r ∧
    (∀ n c, n ∈ l.reporters c ↔
      l.nodes.Hosts n c ∨ ∃ x ∈ l.heard, x.descriptor.id = n ∧ c ∈ x.containers) ∧
    (∀ events events' : List Event, events.Perm events' →
      r.run (events.map .process) = r.run (events'.map .process)) ∧
    (∀ (k : Cluster) (words : List (NodeId × ContainerId)), words.Perm (wordsIn k.nodes) →
      r.recount k = (make family threshold k.containers).hearing words) ∧
    (∀ ops', r.freeze.run ops' = r.freeze) ∧
    r.freeze.tracked = r.tracked ∧ r.freeze.counted = r.counted ∧ r.freeze.holds = r.holds := by
  intro made r l
  have hrule : r = l.rule family threshold := Ledger.rule_after (l := { containers }) ops
  have hgrows := hearing_grows (make family threshold l.containers) l.said
  have hfamily : r.family = family := by
    rw [hrule]
    exact hgrows.family
  have hthreshold : r.threshold = threshold := by
    rw [hrule]
    exact hgrows.threshold
  have hexact : l.Exact family r := by
    rw [hrule]
    exact Ledger.rule_exact
  have hrecount (k : Cluster) (words : List (NodeId × ContainerId))
      (hwords : words.Perm (wordsIn k.nodes)) :
      r.recount k = (make family threshold k.containers).hearing words := by
    rw [recount_eq, hfamily, hthreshold, hearing_perm hwords]
  exact ⟨hexact, fun n c => Ledger.mem_reporters, fun events events' => run_perm, hrecount,
    frozen_run rfl, rfl, rfl, rfl⟩

namespace Sample

/-- A closed container in three pieces, two of which make it whole. -/
def pieces : Container :=
  { Container.fresh ⟨1⟩ ⟨.ofNat 1⟩ (.ec 2 1) "a" ⟨0, 0⟩ with state := .closed, keys := 1 }

def inventory : Inventory := (∅ : Inventory).put pieces

/-- A node has a piece, and says so twice. -/
def piece (n : Nat) : Event :=
  .containersReported ⟨⟨⟨.ofNat n⟩, "dn", "10.0.0.1", "/rack1"⟩, [pieces.id, pieces.id], {}⟩

/-- One node reports, all is counted anew, and another node reports. -/
def ops : List Op :=
  [.process (piece 1), .refresh { containers := inventory } true, .process (piece 2)]

end Sample

/-- What was reported before the last count does not count; after it two nodes do, in any
order. -/
theorem run_exact_sample :
    let r := (make .ec 0.99 Sample.inventory).run Sample.ops
    let events := [Sample.piece 1, Sample.piece 3]
    Sample.pieces.id ∉ r.counted ∧ Sample.pieces.id ∈ (r.process (Sample.piece 1)).counted ∧
      r.run (events.map .process) = r.run (events.reverse.map .process) := by
  obtain ⟨hexact, -, hperm, -⟩ := run_exact .ec 0.99 Sample.inventory Sample.ops
  obtain ⟨hmore, -⟩ :=
    run_exact .ec 0.99 Sample.inventory (Sample.ops ++ [.process (Sample.piece 1)])
  refine ⟨fun hcounted => ?_, (hmore.counted _).2 ⟨2, by decide, by decide⟩,
    hperm _ _ (List.reverse_perm _).symm⟩
  obtain ⟨needed, hneeded, hsize⟩ := (hexact.counted _).1 hcounted
  obtain rfl : needed = 2 := Option.some.inj (hneeded.symm.trans (by decide))
  exact absurd hsize (by decide)

end ReplicaRule

end ControlPlane.Readiness

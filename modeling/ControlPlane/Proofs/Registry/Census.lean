import Mathlib.Algebra.BigOperators.Group.Finset.Basic
import Mathlib.Data.Fintype.Defs
import Mathlib.Data.Set.Card
import ControlPlane.Proofs.Registry.History

/-!
# Lists and counts of nodes

The registry lists and counts its nodes in passes of their own: all of them, or those whose
status meets a demand.  All passes tell of the same nodes, and of each once.

* What is to be told.  `account` reads off the calls what is known about a node, and
  `find?_map_info` says that the registry knows just that.
* Lists.  `Enumerates` says which list of nodes is to be given for a demand, up to the
  order, and `perm_select_iff` says that `select` gives it.
* Counts.  Every list counts a set that is read off the calls, as no node stands in it
  twice.
* Sums.  `count_eq_sum` splits a count by the values of an axis.
-/

namespace ControlPlane

/-! ## Demands on a status -/

/-- The status has the value that is demanded on each axis. -/
structure StatusFilter.Meets (f : StatusFilter) (s : NodeStatus) : Prop where
  operation : ∀ o, f.operation = some o → s.operation = o
  health : ∀ x, f.health = some x → s.health = x

theorem StatusFilter.accepts_iff_meets {f : StatusFilter} {s : NodeStatus} :
    f.accepts s = true ↔ f.Meets s := by
  simp only [accepts, Bool.and_eq_true, Option.all_eq_true, beq_iff_eq]
  constructor
  · rintro ⟨hoperation, hhealth⟩
    exact ⟨fun o ho => (hoperation o ho).symm, fun x hx => (hhealth x hx).symm⟩
  · rintro ⟨hoperation, hhealth⟩
    exact ⟨fun o ho => (hoperation o ho).symm, fun x hx => (hhealth x hx).symm⟩

theorem StatusFilter.meets_any (s : NodeStatus) : StatusFilter.Meets {} s := ⟨nofun, nofun⟩

instance : Fintype Operation where
  elems := ⟨Operation.all, by decide⟩
  complete o := by cases o <;> decide

instance : Fintype Health where
  elems := ⟨Health.all, by decide⟩
  complete x := by cases x <;> decide

/-! ## Lists of a set -/

/-- A list that has each element of a set once is as long as the set is large. -/
theorem length_eq_ncard {α : Type} {l : List α} {s : Set α} (hl : l.Nodup)
    (hs : ∀ a, a ∈ l ↔ a ∈ s) : l.length = s.ncard := by
  classical
  have hset : s = ↑l.toFinset := by
    ext a
    rw [List.coe_toFinset]
    exact (hs a).symm
  rw [hset, Set.ncard_coe_finset, List.toFinset_card_of_nodup hl]

namespace Registry

variable {h : List Op} {f : StatusFilter} {id : NodeId} {n : NodeInfo} {l : List NodeInfo}

/-! ## What is to be told -/

/-- The nodes that some calls have added. -/
def added (h : List Op) : Set NodeId := {id | ∃ op ∈ h, (op.adds? id).isSome}

/-- What is known about a node that was added with a description and a first status, from
the calls since. -/
noncomputable def summary (id : NodeId) (d : Descriptor) (status : NodeStatus) (calls : List Op) :
    NodeInfo :=
  let operation := latest (Op.operation? id) (status.operation, status.expiry) calls
  { descriptor := d
    status :=
      { operation := operation.1
        health := latest (Op.health? id) status.health calls
        expiry := operation.2 }
    containerCount := (hosted id calls).ncard
    storage := latest (Op.storage? id) {} calls }

/-- What is known about a node after some calls, where one of them added the node. -/
noncomputable def account (h : List Op) (id : NodeId) : Option NodeInfo :=
  (h.findSome? (Op.adds? id)).map fun first => summary id first.1 first.2 (since id h)

/-- The nodes that were added and whose status meets a demand after some calls. -/
def matching (h : List Op) (f : StatusFilter) : Set NodeId :=
  {id | ∃ n, account h id = some n ∧ f.Meets n.status}

theorem Entry.Recalls.info_eq {e : Entry} {d : Descriptor} {status : NodeStatus} {calls : List Op}
    (he : e.Recalls id d status calls) : e.info = summary id d status calls := by
  have hcount : e.containers.size = (hosted id calls).ncard := by
    rw [← he.containers]
    exact length_eq_ncard e.containers.nodup fun _ => Iff.rfl
  unfold Entry.info summary
  rw [← he.descriptor, ← he.health, ← he.operation, ← he.storage, ← hcount]

/-- The registry knows about each node what the calls have told. -/
theorem find?_map_info (h : List Op) (id : NodeId) :
    ((after h).find? id).map Entry.info = account h id := by
  have hfind := find?_after h id
  unfold account
  cases hfirst : h.findSome? (Op.adds? id) with
  | none =>
    rw [hfirst] at hfind
    rw [show (after h).find? id = none from hfind]
    rfl
  | some first =>
    rw [hfirst] at hfind
    obtain ⟨e, he, hrecalls⟩ := hfind
    rw [he, Option.map_some, Option.map_some, hrecalls.info_eq]

theorem account_id (hn : account h id = some n) : n.descriptor.id = id := by
  rw [← find?_map_info] at hn
  obtain ⟨e, he, rfl⟩ := Option.map_eq_some_iff.1 hn
  exact (after h).keyed _ (find?_eq_some_iff.1 he)

theorem matching_any (h : List Op) : matching h {} = added h := by
  ext id
  simp only [matching, added, StatusFilter.meets_any, and_true, Set.mem_ofPred_eq,
    ← Option.isSome_iff_exists, account, Option.isSome_map, List.findSome?_isSome_iff]

/-- Looking a node up tells what the calls have told. -/
theorem lookups_after (h : List Op) (id : NodeId) :
    match account h id with
    | none => (after h).Misses id
    | some n => (after h).info id = .ok n ∧ (after h).status id = .ok n.status ∧
        ∃ cs, (after h).containers id = .ok cs ∧ n.containerCount = cs.size := by
  have hfind := find?_map_info h id
  cases he : (after h).find? id with
  | none =>
    rw [he] at hfind
    rw [← hfind]
    exact misses_of_absent he
  | some e =>
    rw [he] at hfind
    rw [← hfind]
    have hshows : (after h).Shows id e := shows_of_find? he
    exact ⟨hshows.info, hshows.status, e.containers, hshows.containers, rfl⟩

/-! ## Lists -/

/-- The list has every node whose status meets a demand after some calls, once and with
what is known about it, and no other. -/
structure Enumerates (h : List Op) (f : StatusFilter) (l : List NodeInfo) : Prop where
  once : (l.map (·.descriptor.id)).Nodup
  exact : ∀ n, n ∈ l ↔ account h n.descriptor.id = some n ∧ f.Meets n.status

theorem mem_select :
    n ∈ (after h).select f ↔ account h n.descriptor.id = some n ∧ f.Meets n.status := by
  rw [select, List.mem_filter, mem_infos, StatusFilter.accepts_iff_meets, ← find?_map_info,
    Option.map_eq_some_iff]

theorem enumerates_select (h : List Op) (f : StatusFilter) :
    Enumerates h f ((after h).select f) := by
  refine ⟨?_, fun n => mem_select⟩
  exact (infos_ids_nodup (after h)).sublist (List.filter_sublist.map _)

/-- The demand and the calls determine the list up to its order. -/
theorem perm_select_iff : l.Perm ((after h).select f) ↔ Enumerates h f l := by
  have hselect := enumerates_select h f
  constructor
  · intro hperm
    exact ⟨(hperm.map _).nodup_iff.2 hselect.once, fun n => hperm.mem_iff.trans (hselect.exact n)⟩
  · intro hl
    refine (List.perm_ext_iff_of_nodup hl.once.of_map hselect.once.of_map).2 fun n => ?_
    exact (hl.exact n).trans (hselect.exact n).symm

theorem Enumerates.mem_ids (hl : Enumerates h f l) :
    id ∈ l.map (·.descriptor.id) ↔ id ∈ matching h f := by
  constructor
  · intro hid
    obtain ⟨n, hn, rfl⟩ := List.mem_map.1 hid
    exact ⟨n, (hl.exact n).1 hn⟩
  · rintro ⟨n, hn, hmeets⟩
    obtain rfl := account_id hn
    exact List.mem_map_of_mem ((hl.exact n).2 ⟨hn, hmeets⟩)

theorem Enumerates.length (hl : Enumerates h f l) : l.length = (matching h f).ncard := by
  rw [← length_eq_ncard hl.once fun _ => hl.mem_ids, List.length_map]

/-! ## Counts -/

theorem count_eq_length (r : Registry) (f : StatusFilter) : r.count f = (r.select f).length := by
  rw [select, infos, List.filter_map, List.length_map]
  rfl

theorem select_any (r : Registry) : r.select {} = r.infos :=
  List.filter_eq_self.2 fun n _ =>
    StatusFilter.accepts_iff_meets.2 (StatusFilter.meets_any n.status)

theorem perm_ids_iff {ids : List NodeId} :
    ids.Perm (after h).ids ↔ ids.Nodup ∧ ∀ id, id ∈ ids ↔ id ∈ added h := by
  have hinfos : Enumerates h {} (after h).infos := select_any (after h) ▸ enumerates_select h {}
  have hnodup : (after h).ids.Nodup := infos_ids (after h) ▸ hinfos.once
  have hmem : ∀ id, id ∈ (after h).ids ↔ id ∈ added h := by
    intro id
    rw [← infos_ids, hinfos.mem_ids, matching_any]
  constructor
  · intro hperm
    exact ⟨hperm.nodup_iff.2 hnodup, fun id => hperm.mem_iff.trans (hmem id)⟩
  · rintro ⟨hids, hadded⟩
    exact (List.perm_ext_iff_of_nodup hids hnodup).2 fun id => (hadded id).trans (hmem id).symm

theorem size_after (h : List Op) : (after h).size = (added h).ncard := by
  obtain ⟨hnodup, hmem⟩ := perm_ids_iff.1 (List.Perm.refl (after h).ids)
  rw [← length_eq_ncard hnodup hmem, ids, Table.keys, List.length_map]
  rfl

/-- A node that was registered twice counts once, under the state that it was given last. -/
example : (after Sample.history).count { operation := some .decommissioning } = 1 ∧
    (after Sample.history).count { operation := some .inService } = 0 ∧
    (after Sample.history).ids = [Sample.node] := by
  decide

/-! ## Sums over an axis -/

section Axis

variable {κ : Type} [Fintype κ] [DecidableEq κ]

theorem length_eq_sum_count (ks : List κ) : ks.length = ∑ k, ks.count k := by
  have hcard : ∑ k, (ks : Multiset κ).count k = (ks : Multiset κ).card :=
    Multiset.sum_count_eq_card fun k _ => Finset.mem_univ k
  simpa only [Multiset.coe_count, Multiset.coe_card] using hcard.symm

/-- A count splits by the values of an axis, where each of the narrower demands wants one
value more on that axis. -/
theorem count_eq_sum (r : Registry) (axis : NodeStatus → κ) {narrow : κ → StatusFilter}
    (hnarrow : ∀ k s, (narrow k).Meets s ↔ f.Meets s ∧ axis s = k) :
    r.count f = ∑ k, r.count (narrow k) := by
  -- The narrower demands sort the list for the wider one by the values of its nodes.
  have hcount (k : κ) : r.count (narrow k) = ((r.select f).map (axis ·.status)).count k := by
    rw [count_eq_length, select, select, List.count, List.countP_map, List.countP_filter,
      ← List.countP_eq_length_filter]
    refine List.countP_congr fun n _ => ?_
    simp only [StatusFilter.accepts_iff_meets, hnarrow, Function.comp_apply, Bool.and_eq_true,
      beq_iff_eq, and_comm]
  calc r.count f
      = ((r.select f).map (axis ·.status)).length := by rw [count_eq_length, List.length_map]
    _ = ∑ k, ((r.select f).map (axis ·.status)).count k := length_eq_sum_count _
    _ = ∑ k, r.count (narrow k) := Finset.sum_congr rfl fun k _ => (hcount k).symm

end Axis

theorem count_eq_sum_operation (r : Registry) (f : StatusFilter) :
    r.count { f with operation := none } = ∑ o, r.count { f with operation := some o } := by
  refine count_eq_sum r (·.operation) fun o s => ⟨fun hmeets => ?_, ?_⟩
  · exact ⟨⟨nofun, hmeets.health⟩, hmeets.operation o rfl⟩
  · rintro ⟨hmeets, rfl⟩
    exact ⟨fun _ => Option.some.inj, hmeets.health⟩

theorem count_eq_sum_health (r : Registry) (f : StatusFilter) :
    r.count { f with health := none } = ∑ x, r.count { f with health := some x } := by
  refine count_eq_sum r (·.health) fun x s => ⟨fun hmeets => ?_, ?_⟩
  · exact ⟨⟨hmeets.operation, nofun⟩, hmeets.health x rfl⟩
  · rintro ⟨hmeets, rfl⟩
    exact ⟨hmeets.operation, fun _ => Option.some.inj⟩

/-! ## The census -/

/-- After any calls, a list of nodes for a demand has every node that was added and whose
status meets the demand, once and with what is known about it, and no other; what is known
about a node is what looking it up tells, and what the calls have told.  The counts are
those of the lists, the nodes in all are those that were added, and a count that leaves an
axis open is the sum over all values of the axis. -/
theorem aggregates_exact (h : List Op) (f : StatusFilter) :
    let r := after h
    (∀ l, l.Perm (r.select f) ↔ Enumerates h f l) ∧
    (∀ id, match account h id with
      | none => r.Misses id
      | some n => r.info id = .ok n ∧ r.status id = .ok n.status ∧
          ∃ cs, r.containers id = .ok cs ∧ n.containerCount = cs.size) ∧
    (r.count f = (r.select f).length ∧ r.count f = (matching h f).ncard) ∧
    ((∀ ids : List NodeId, ids.Perm r.ids ↔ ids.Nodup ∧ ∀ id, id ∈ ids ↔ id ∈ added h) ∧
      (∀ l, l.Perm r.infos ↔ Enumerates h {} l) ∧ matching h {} = added h ∧
      r.size = (added h).ncard ∧ r.count {} = r.size) ∧
    r.count { f with operation := none } = ∑ o, r.count { f with operation := some o } ∧
    r.count { f with health := none } = ∑ x, r.count { f with health := some x } := by
  have hcount (f : StatusFilter) : (after h).count f = (matching h f).ncard := by
    rw [count_eq_length, (enumerates_select h f).length]
  refine ⟨fun l => perm_select_iff, lookups_after h, ⟨count_eq_length _ f, hcount f⟩,
    ⟨fun ids => perm_ids_iff, ?_, matching_any h, size_after h, ?_⟩,
    count_eq_sum_operation _ f, count_eq_sum_health _ f⟩
  · intro l
    rw [← select_any]
    exact perm_select_iff
  · rw [hcount, matching_any, size_after]

end Registry

end ControlPlane

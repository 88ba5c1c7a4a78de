import Mathlib.Data.Set.Insert
import Mathlib.Data.List.Induction
import Mathlib.Data.List.TakeWhile
import ControlPlane.Proofs.Registry

/-!
# The registry as a record of its history

The registry holds for each node what the calls that name the node have told about
it, and nothing else.  There are four groups.

* Calls.  `Op` lists the calls, and `Op.apply` is the registry after one of them.
* What a call tells.  `Op.adds?`, `Op.health?`, `Op.operation?`, `Op.storage?` and
  `Op.hosts` read off a call what it says about a node.  None of them looks at a
  registry.
* What a call does.  `find?_apply` says that a call changes the entry of the node that
  it names and no other, and `run_eq_error_iff` says when it fails.
* Histories.  `Entry.Recalls` compares an entry with the calls since the node was
  added: the last word counts for the health, the operational state and the storage,
  and the containers are those of a replay on sets.  `find?_after` is the induction.
-/

namespace ControlPlane.Registry

/-! ## Calls -/

/-- A call on the registry.  A heartbeat is a call that sets a health, and what an
operator decides about a node is one that sets an operational state. -/
inductive Op
  | add (d : Descriptor) (status : NodeStatus)
  | register (d : Descriptor)
  | report (n : NodeReport)
  | setHealth (id : NodeId) (health : Health)
  | setOperation (id : NodeId) (operation : Operation) (expiry : Option Int)
  | addContainer (id : NodeId) (c : ContainerId)
  | removeContainer (id : NodeId) (c : ContainerId)
  | setContainers (id : NodeId) (cs : List ContainerId)
  | setStorage (id : NodeId) (storage : Storage)

namespace Op

/-- The node that a call names. -/
def node : Op → NodeId
  | .add d _ | .register d => d.id
  | .report n => n.descriptor.id
  | .setHealth id _ | .setOperation id _ _ | .addContainer id _ | .removeContainer id _
  | .setContainers id _ | .setStorage id _ => id

/-- What comes of a call. -/
def run (r : Registry) : Op → Except Error Registry
  | .add d status => r.add d status
  | .register d => .ok (r.register d).2
  | .report n => .ok (r.report n).2
  | .setHealth id health => r.setHealth id health
  | .setOperation id operation expiry => r.setOperation id operation expiry
  | .addContainer id c => r.addContainer id c
  | .removeContainer id c => r.removeContainer id c
  | .setContainers id cs => r.setContainers id cs
  | .setStorage id storage => r.setStorage id storage

/-- The registry after a call, which is the one before if the call fails. -/
def apply (r : Registry) (op : Op) : Registry :=
  match op.run r with
  | .ok r' => r'
  | .error _ => r

/-! ## What a call tells -/

/-- The description and the first status that a node gets if the call is the first to
add it. -/
def adds? (id : NodeId) : Op → Option (Descriptor × NodeStatus)
  | .add d status => if d.id = id then some (d, status) else none
  | .register d => if d.id = id then some (d, .inServiceHealthy) else none
  | .report n => if n.descriptor.id = id then some (n.descriptor, .inServiceHealthy) else none
  | _ => none

/-- The health that a call tells of a node. -/
def health? (id : NodeId) : Op → Option Health
  | .setHealth j health => if j = id then some health else none
  | _ => none

/-- The operational state that a call tells of a node, and when it ends. -/
def operation? (id : NodeId) : Op → Option (Operation × Option Int)
  | .setOperation j operation expiry => if j = id then some (operation, expiry) else none
  | _ => none

/-- The storage that a call tells of a node. -/
def storage? (id : NodeId) : Op → Option Storage
  | .setStorage j storage => if j = id then some storage else none
  | .report n => if n.descriptor.id = id then some n.storage else none
  | _ => none

/-- The containers on a node after a call, from those before. -/
def hosts (id : NodeId) (cs : Set ContainerId) : Op → Set ContainerId
  | .addContainer j c => if j = id then insert c cs else cs
  | .removeContainer j c => if j = id then cs \ {c} else cs
  | .setContainers j l => if j = id then {c | c ∈ l} else cs
  | .report n => if n.descriptor.id = id then {c | c ∈ n.containers} else cs
  | _ => cs

/-- A call tells nothing about a node that it does not name. -/
theorem silent {op : Op} {id : NodeId} (h : op.node ≠ id) :
    op.adds? id = none ∧ op.health? id = none ∧ op.operation? id = none ∧
      op.storage? id = none ∧ ∀ cs, op.hosts id cs = cs := by
  cases op <;> simp_all [node, adds?, health?, operation?, storage?, hosts]

end Op

/-! ## What a call does -/

variable {r : Registry} {id : NodeId} {e : Entry} {op : Op}

theorem find?_put : (r.put e).find? id = if e.descriptor.id = id then some e else r.find? id :=
  Table.find?_insert

theorem find?_modify {j : NodeId} {f : Entry → Entry} {hf} :
    (r.modify j f hf).find? id = if j = id then (r.find? id).map f else r.find? id :=
  Table.find?_modify

theorem entry_of_find? (h : r.find? id = some e) : r.entry id = .ok e := by
  simp only [entry, h]

theorem entry_of_absent (h : r.find? id = none) : r.entry id = .error (.nodeNotFound id) := by
  simp only [entry, h]

theorem add_of_find? {d : Descriptor} {status : NodeStatus} (h : r.find? d.id = some e) :
    r.add d status = .error (.nodeExists d.id) := by
  have hknown : r.contains d.id = true := Option.isSome_iff_exists.2 ⟨e, h⟩
  exact if_pos hknown

theorem add_of_absent {d : Descriptor} {status : NodeStatus} (h : r.find? d.id = none) :
    r.add d status = .ok (r.put { descriptor := d, status }) := by
  have hnew : ¬r.contains d.id = true := by
    show ¬(r.find? d.id).isSome = true
    rw [h]
    exact Bool.false_ne_true
  exact if_neg hnew

theorem update_of_find? {f : Entry → Entry} {hf} (h : r.find? id = some e) :
    r.update id f hf = .ok (r.modify id f hf) := by
  simp only [update, entry_of_find? h, Except.map]

theorem update_of_absent {f : Entry → Entry} {hf} (h : r.find? id = none) :
    r.update id f hf = .error (.nodeNotFound id) := by
  simp only [update, entry_of_absent h, Except.map]

/-- The entry of a node that hosts nothing yet. -/
def Entry.blank (d : Descriptor) (status : NodeStatus) : Entry := { descriptor := d, status }

/-- The entry with what a call tells about its node. -/
def Entry.told (e : Entry) : Op → Entry
  | .add _ _ | .register _ => e
  | .report n => { e with containers := SortedSet.ofList n.containers, storage := n.storage }
  | .setHealth _ health => { e with status := { e.status with health } }
  | .setOperation _ operation expiry => { e with status := { e.status with operation, expiry } }
  | .addContainer _ c => { e with containers := e.containers.insert c }
  | .removeContainer _ c => { e with containers := e.containers.erase c }
  | .setContainers _ cs => { e with containers := SortedSet.ofList cs }
  | .setStorage _ storage => { e with storage }

theorem Entry.told_id (op : Op) (e : Entry) : (e.told op).descriptor.id = e.descriptor.id := by
  cases op <;> rfl

/-- The entry of a node after an attempt to add it. -/
def enrolled (known : Option Entry) (d : Descriptor) (status : NodeStatus) : Option Entry :=
  known.or (some (.blank d status))

/-- An attempt to add a node that leaves a known node as it is. -/
theorem find?_add {d : Descriptor} {status : NodeStatus} :
    (match r.add d status with
      | .ok r' => r'
      | .error _ => r).find? id =
        if d.id = id then enrolled (r.find? id) d status else r.find? id := by
  cases hknown : r.find? d.id with
  | some e =>
    rw [add_of_find? hknown]
    dsimp only
    split
    · next hid =>
      rw [← hid, hknown]
      rfl
    · rfl
  | none =>
    rw [add_of_absent hknown]
    dsimp only
    rw [find?_put]
    split
    · next hid =>
      rw [← hid, hknown]
      rfl
    · rfl

theorem report_snd (n : NodeReport) :
    (r.report n).2 = (r.register n.descriptor).2.modify n.descriptor.id (Entry.told · (.report n))
      (Entry.told_id (.report n)) := rfl

theorem find?_register {d : Descriptor} :
    (r.register d).2.find? id =
      if d.id = id then enrolled (r.find? id) d .inServiceHealthy else r.find? id := by
  rw [← find?_add]
  unfold register
  cases r.add d .inServiceHealthy <;> rfl

/-- A change to a node that has to exist. -/
theorem find?_update {j : NodeId} {f : Entry → Entry} {hf} :
    (match r.update j f hf with
      | .ok r' => r'
      | .error _ => r).find? id = if j = id then (r.find? id).map f else r.find? id := by
  cases hknown : r.find? j with
  | some e =>
    rw [update_of_find? hknown]
    exact find?_modify
  | none =>
    rw [update_of_absent hknown]
    dsimp only
    split
    · next hid =>
      rw [← hid, hknown]
      rfl
    · rfl

/-- The entry of the node that a call names: there is one if there was one or the call
adds it, and the call tells about it. -/
def Op.change (known : Option Entry) (op : Op) : Option Entry :=
  (known.or ((op.adds? op.node).map fun first => .blank first.1 first.2)).map (·.told op)

theorem Op.change_of_adds {known : Option Entry} {d : Descriptor} {status : NodeStatus}
    (h : op.adds? op.node = some (d, status)) :
    op.change known = (enrolled known d status).map (·.told op) := by
  rw [change, h]
  rfl

theorem Op.change_of_not_adds {known : Option Entry} (h : op.adds? op.node = none) :
    op.change known = known.map (·.told op) := by
  rw [change, h, Option.map_none, Option.or_none]

/-- A call changes the entry of the node that it names, and no other. -/
theorem find?_apply :
    (op.apply r).find? id = if op.node = id then op.change (r.find? id) else r.find? id := by
  cases op with
  | add d status =>
    have hadds : (Op.add d status).adds? (Op.add d status).node = some (d, status) := if_pos rfl
    rw [Op.change_of_adds hadds]
    have htold : (Entry.told · (.add d status)) = fun e => e := rfl
    rw [htold, Option.map_id']
    exact find?_add
  | register d =>
    have hadds : (Op.register d).adds? (Op.register d).node = some (d, .inServiceHealthy) :=
      if_pos rfl
    rw [Op.change_of_adds hadds]
    have htold : (Entry.told · (.register d)) = fun e => e := rfl
    rw [htold, Option.map_id']
    exact find?_register
  | report n =>
    have hadds : (Op.report n).adds? (Op.report n).node =
      some (n.descriptor, .inServiceHealthy) := if_pos rfl
    rw [Op.change_of_adds hadds]
    show (r.report n).2.find? id = _
    rw [report_snd, find?_modify, find?_register]
    by_cases hid : n.descriptor.id = id <;> simp only [Op.node, hid, if_true, if_false]
  | setHealth j health =>
    rw [Op.change_of_not_adds rfl]
    exact find?_update
  | setOperation j operation expiry =>
    rw [Op.change_of_not_adds rfl]
    exact find?_update
  | addContainer j c =>
    rw [Op.change_of_not_adds rfl]
    exact find?_update
  | removeContainer j c =>
    rw [Op.change_of_not_adds rfl]
    exact find?_update
  | setContainers j cs =>
    rw [Op.change_of_not_adds rfl]
    exact find?_update
  | setStorage j storage =>
    rw [Op.change_of_not_adds rfl]
    exact find?_update

/-! ## Histories -/

/-- The registry after some calls, the first of the list first. -/
def after (h : List Op) : Registry := h.foldl Op.apply ∅

/-- The calls since a node was added, from the one that added it on. -/
def since (id : NodeId) (h : List Op) : List Op := h.dropWhile fun op => (op.adds? id).isNone

/-- The last word of some calls on a matter, or else a first one. -/
def latest {α : Type} (word : Op → Option α) (first : α) (h : List Op) : α :=
  (h.filterMap word).getLast?.getD first

/-- The containers on a node after some calls, from none on. -/
def hosted (id : NodeId) (h : List Op) : Set ContainerId := h.foldl (Op.hosts id) ∅

theorem after_snoc (h : List Op) (op : Op) : after (h ++ [op]) = op.apply (after h) :=
  List.foldl_append

theorem latest_snoc {α : Type} {word : Op → Option α} {first : α} {h : List Op} :
    latest word first (h ++ [op]) = (word op).getD (latest word first h) := by
  unfold latest
  cases hword : word op with
  | none => simp [hword]
  | some a => simp [hword]

theorem hosted_snoc {h : List Op} : hosted id (h ++ [op]) = op.hosts id (hosted id h) :=
  List.foldl_append

/-- The entry holds what some calls have told about a node that was added with a
description and a first status. -/
structure Entry.Recalls (e : Entry) (id : NodeId) (d : Descriptor) (status : NodeStatus)
    (h : List Op) : Prop where
  descriptor : e.descriptor = d
  health : e.status.health = latest (Op.health? id) status.health h
  operation : (e.status.operation, e.status.expiry) =
    latest (Op.operation? id) (status.operation, status.expiry) h
  storage : e.storage = latest (Op.storage? id) {} h
  containers : {c | c ∈ e.containers} = hosted id h

theorem Entry.recalls_blank (id : NodeId) (d : Descriptor) (status : NodeStatus) :
    (Entry.blank d status).Recalls id d status [] :=
  ⟨rfl, rfl, rfl, rfl, Set.eq_empty_of_forall_notMem fun _ => SortedSet.not_mem_empty⟩

/-! What a call tells about the node that it names goes into the entry. -/

theorem Entry.told_descriptor (e : Entry) (op : Op) : (e.told op).descriptor = e.descriptor := by
  cases op <;> rfl

theorem Entry.told_health (e : Entry) (op : Op) :
    (e.told op).status.health = (op.health? op.node).getD e.status.health := by
  cases op <;> simp [told, Op.health?, Op.node]

theorem Entry.told_operation (e : Entry) (op : Op) :
    ((e.told op).status.operation, (e.told op).status.expiry) =
      (op.operation? op.node).getD (e.status.operation, e.status.expiry) := by
  cases op <;> simp [told, Op.operation?, Op.node]

theorem Entry.told_storage (e : Entry) (op : Op) :
    (e.told op).storage = (op.storage? op.node).getD e.storage := by
  cases op <;> simp [told, Op.storage?, Op.node]

theorem Entry.told_containers (e : Entry) (op : Op) :
    {c | c ∈ (e.told op).containers} = op.hosts op.node {c | c ∈ e.containers} := by
  ext c
  cases op <;> simp [told, Op.hosts, Op.node]

/-- A call that names the node adds its word to what the entry recalls. -/
theorem Entry.Recalls.told {d : Descriptor} {status : NodeStatus} {h : List Op}
    (he : e.Recalls id d status h) (hnode : op.node = id) :
    (e.told op).Recalls id d status (h ++ [op]) := by
  subst hnode
  constructor
  · rw [e.told_descriptor, he.descriptor]
  · rw [e.told_health, latest_snoc, he.health]
  · rw [e.told_operation, latest_snoc, he.operation]
  · rw [e.told_storage, latest_snoc, he.storage]
  · rw [e.told_containers, hosted_snoc, he.containers]

/-- A call that names another node has no word on this one. -/
theorem Entry.Recalls.untold {d : Descriptor} {status : NodeStatus} {h : List Op}
    (he : e.Recalls id d status h) (hnode : op.node ≠ id) :
    e.Recalls id d status (h ++ [op]) := by
  obtain ⟨-, hhealth, hoperation, hstorage, hhosts⟩ := Op.silent hnode
  constructor
  · exact he.descriptor
  · rw [latest_snoc, hhealth]
    exact he.health
  · rw [latest_snoc, hoperation]
    exact he.operation
  · rw [latest_snoc, hstorage]
    exact he.storage
  · rw [hosted_snoc, hhosts]
    exact he.containers

/-! A node is added by the first call that may add it. -/

theorem since_of_added {h : List Op} {first : Descriptor × NodeStatus}
    (hfirst : h.findSome? (Op.adds? id) = some first) :
    since id (h ++ [op]) = since id h ++ [op] := by
  obtain ⟨op', hop', hadds⟩ := List.exists_of_findSome?_eq_some hfirst
  unfold since
  rw [List.dropWhile_append, if_neg]
  rw [List.isEmpty_iff, List.dropWhile_eq_nil_iff]
  intro hall
  have hnone := hall op' hop'
  rw [hadds] at hnone
  exact absurd hnone Bool.false_ne_true

theorem since_of_not_added {h : List Op} (hnone : h.findSome? (Op.adds? id) = none) :
    since id (h ++ [op]) = since id [op] := by
  unfold since
  rw [List.dropWhile_append, if_pos]
  rw [List.isEmpty_iff, List.dropWhile_eq_nil_iff]
  intro op' hop'
  rw [List.findSome?_eq_none_iff.1 hnone op' hop']
  rfl

/-- The entry of a node after some calls. -/
theorem find?_after (h : List Op) (id : NodeId) :
    match h.findSome? (Op.adds? id) with
    | none => (after h).find? id = none
    | some (d, status) =>
      ∃ e, (after h).find? id = some e ∧ e.Recalls id d status (since id h) := by
  induction h using List.reverseRecOn with
  | nil => rfl
  | append_singleton h op ih =>
    rw [List.findSome?_append, after_snoc, find?_apply]
    cases hfirst : h.findSome? (Op.adds? id) with
    | some first =>
      obtain ⟨d, status⟩ := first
      rw [hfirst] at ih
      obtain ⟨e, he, hrecalls⟩ := ih
      rw [he, since_of_added hfirst]
      by_cases hnode : op.node = id
      · exact ⟨e.told op, if_pos hnode, hrecalls.told hnode⟩
      · exact ⟨e, if_neg hnode, hrecalls.untold hnode⟩
    | none =>
      rw [hfirst] at ih
      rw [show (after h).find? id = none from ih, since_of_not_added hfirst]
      rw [Option.none_or, List.findSome?_singleton]
      by_cases hnode : op.node = id
      · rw [if_pos hnode]
        cases hadds : op.adds? id with
        | none => exact Op.change_of_not_adds (hnode ▸ hadds)
        | some first =>
          obtain ⟨d, status⟩ := first
          have hsince : since id [op] = [op] := by simp [since, hadds]
          rw [hsince]
          refine ⟨_, Op.change_of_adds (hnode ▸ hadds), ?_⟩
          exact (Entry.recalls_blank id d status).told hnode
      · rw [if_neg hnode, (Op.silent hnode).1]

/-! ## What is told of a node -/

/-- The registry tells of a node what its entry holds. -/
structure Shows (r : Registry) (id : NodeId) (e : Entry) : Prop where
  known : r.contains id = true
  descriptor : r.descriptor id = .ok e.descriptor
  status : r.status id = .ok e.status
  containers : r.containers id = .ok e.containers
  info : r.info id = .ok e.info

/-- The registry says of a node that it is not there. -/
structure Misses (r : Registry) (id : NodeId) : Prop where
  unknown : r.contains id = false
  descriptor : r.descriptor id = .error (.nodeNotFound id)
  status : r.status id = .error (.nodeNotFound id)
  containers : r.containers id = .error (.nodeNotFound id)
  info : r.info id = .error (.nodeNotFound id)

theorem shows_of_find? (h : r.find? id = some e) : r.Shows id e := by
  have hcontains : r.contains id = true := Option.isSome_iff_exists.2 ⟨e, h⟩
  have hmap {α : Type} (f : Entry → α) : (r.entry id).map f = .ok (f e) := by
    rw [entry_of_find? h]
    rfl
  exact ⟨hcontains, hmap _, hmap _, hmap _, hmap _⟩

theorem misses_of_absent (h : r.find? id = none) : r.Misses id := by
  have hcontains : r.contains id = false := by
    show (r.find? id).isSome = false
    rw [h]
    rfl
  have hmap {α : Type} (f : Entry → α) : (r.entry id).map f = .error (.nodeNotFound id) := by
    rw [entry_of_absent h]
    rfl
  exact ⟨hcontains, hmap _, hmap _, hmap _, hmap _⟩

/-! ## When a call fails -/

/-- Why a call fails, if it does. -/
def Op.fault? (r : Registry) (op : Op) : Option Error :=
  match op with
  | .add d _ => if r.contains d.id then some (.nodeExists d.id) else none
  | .register _ | .report _ => none
  | op => if r.contains op.node then none else some (.nodeNotFound op.node)

theorem update_eq_error_iff {f : Entry → Entry} {hf} {err : Error} :
    r.update id f hf = .error err ↔
      (if r.contains id then none else some (Error.nodeNotFound id)) = some err := by
  cases hknown : r.find? id with
  | some e =>
    rw [update_of_find? hknown, if_pos (shows_of_find? hknown).known]
    simp
  | none =>
    rw [update_of_absent hknown, (misses_of_absent hknown).unknown, if_neg Bool.false_ne_true]
    simp

theorem run_eq_error_iff {err : Error} : op.run r = .error err ↔ op.fault? r = some err := by
  cases op with
  | add d status =>
    show r.add d status = _ ↔ (if r.contains d.id then _ else _) = _
    unfold add
    split <;> simp
  | register d => simp [Op.run, Op.fault?]
  | report n => simp [Op.run, Op.fault?]
  | setHealth j health => exact update_eq_error_iff
  | setOperation j operation expiry => exact update_eq_error_iff
  | addContainer j c => exact update_eq_error_iff
  | removeContainer j c => exact update_eq_error_iff
  | setContainers j cs => exact update_eq_error_iff
  | setStorage j storage => exact update_eq_error_iff

theorem apply_of_fault {err : Error} (h : op.fault? r = some err) : op.apply r = r := by
  unfold Op.apply
  rw [run_eq_error_iff.2 h]

/-! ## What calls leave alone -/

/-- No call takes a node away. -/
theorem contains_apply (hknown : r.contains id = true) : (op.apply r).contains id = true := by
  obtain ⟨e, he⟩ := Option.isSome_iff_exists.1 hknown
  show ((op.apply r).find? id).isSome = true
  rw [find?_apply, show r.find? id = some e from he]
  split <;> rfl

theorem contains_after_append {h : List Op} (h' : List Op)
    (hknown : (after h).contains id = true) : (after (h ++ h')).contains id = true := by
  induction h' using List.reverseRecOn with
  | nil => rwa [List.append_nil]
  | append_singleton h' op ih =>
    rw [← List.append_assoc, after_snoc]
    exact contains_apply ih

/-- A report changes neither the description nor the status of a known node. -/
theorem status_report {n : NodeReport} (hknown : r.contains id = true) :
    (Op.apply r (.report n)).descriptor id = r.descriptor id ∧
      (Op.apply r (.report n)).status id = r.status id := by
  obtain ⟨e, he⟩ := Option.isSome_iff_exists.1 hknown
  have hbefore : r.Shows id e := shows_of_find? he
  have hafter : ∃ e', (Op.apply r (.report n)).Shows id e' ∧
      e'.descriptor = e.descriptor ∧ e'.status = e.status := by
    by_cases hnode : n.descriptor.id = id
    · refine ⟨e.told (.report n), shows_of_find? ?_, rfl, rfl⟩
      rw [find?_apply, show r.find? id = some e from he]
      exact if_pos hnode
    · refine ⟨e, shows_of_find? ?_, rfl, rfl⟩
      rw [find?_apply]
      exact (if_neg hnode).trans he
  obtain ⟨e', hshows, hdescriptor, hstatus⟩ := hafter
  rw [hshows.descriptor, hshows.status, hbefore.descriptor, hbefore.status, hdescriptor, hstatus]
  exact ⟨rfl, rfl⟩

/-- The entry of a node depends on the calls that name the node only. -/
theorem find?_after_filter (h : List Op) (id : NodeId) :
    (after (h.filter fun op => op.node = id)).find? id = (after h).find? id := by
  induction h using List.reverseRecOn with
  | nil => rfl
  | append_singleton h op ih =>
    rw [List.filter_append, after_snoc, find?_apply, ← ih]
    by_cases hnode : op.node = id
    · have hnamed : [op].filter (fun op => op.node = id) = [op] := by simp [hnode]
      rw [hnamed, after_snoc, find?_apply]
    · have hother : [op].filter (fun op => op.node = id) = [] := by simp [hnode]
      rw [hother, List.append_nil, if_neg hnode]

/-! ## The whole history -/

/-- The registry tells of each node what the calls that name it have told.  A node that
no call has added is not there, a call that fails changes nothing, a report changes
neither the description nor the status of a known node, and no node disappears. -/
theorem after_recalls (h : List Op) (id : NodeId) :
    (match h.findSome? (Op.adds? id) with
      | none => (after h).Misses id
      | some (d, status) =>
        ∃ e, (after h).Shows id e ∧ e.Recalls id d status (since id h) ∧
          e.containers.toList.Pairwise fun c c' => c.number < c'.number) ∧
    (∀ op err, (op.run (after h) = .error err ↔ op.fault? (after h) = some err) ∧
      (op.run (after h) = .error err → after (h ++ [op]) = after h)) ∧
    (∀ n, (after h).contains id = true →
      (after (h ++ [.report n])).descriptor id = (after h).descriptor id ∧
        (after (h ++ [.report n])).status id = (after h).status id) ∧
    (∀ h', (after h).contains id = true → (after (h ++ h')).contains id = true) ∧
    ∀ h', (h.filter fun op => op.node = id) = (h'.filter fun op => op.node = id) →
      (after h).find? id = (after h').find? id := by
  refine ⟨?_, ?_, ?_, contains_after_append, ?_⟩
  · have hfind := find?_after h id
    cases hfirst : h.findSome? (Op.adds? id) with
    | none =>
      rw [hfirst] at hfind
      exact misses_of_absent hfind
    | some first =>
      rw [hfirst] at hfind
      obtain ⟨e, he, hrecalls⟩ := hfind
      exact ⟨e, shows_of_find? he, hrecalls, e.containers.ascending.imp UInt64.lt_iff_toNat_lt.2⟩
  · intro op err
    refine ⟨run_eq_error_iff, ?_⟩
    intro hfails
    rw [after_snoc]
    exact apply_of_fault (run_eq_error_iff.1 hfails)
  · intro n hknown
    rw [after_snoc]
    exact status_report hknown
  · intro h' hsame
    rw [← find?_after_filter h, ← find?_after_filter h', hsame]

/-! ## A small history -/

namespace Sample

def node : NodeId := ⟨.ofNat 1⟩

/-- A report of the node under a host name. -/
def report (host : String) : NodeReport where
  descriptor := ⟨node, host, "10.0.0.1", "/rack1"⟩
  containers := [⟨5⟩, ⟨2⟩, ⟨5⟩]

/-- The node is spoken of before it is there, is added by a report, and then an attempt is
made to add it again. -/
def history : List Op :=
  [.setHealth node .dead, .report (report "dn1"), .setOperation node .decommissioning (some 60),
    .removeContainer node ⟨5⟩, .addContainer node ⟨9⟩, .setHealth ⟨.ofNat 2⟩ .stale,
    .add (report "dn2").descriptor .inServiceDead]

end Sample

theorem after_recalls_sample :
    (after Sample.history).contains Sample.node = true ∧
      (after (Sample.history ++ [.report (Sample.report "dn3")])).descriptor Sample.node =
        .ok (Sample.report "dn1").descriptor ∧
      (after (Sample.history ++ [.report (Sample.report "dn3")])).status Sample.node =
        .ok { operation := .decommissioning, health := .healthy, expiry := some 60 } := by
  obtain ⟨-, -, hreport, -, -⟩ := after_recalls Sample.history Sample.node
  have hknown : (after Sample.history).contains Sample.node = true := by decide
  obtain ⟨hdescriptor, hstatus⟩ := hreport (Sample.report "dn3") hknown
  exact ⟨hknown, hdescriptor.trans (by rfl), hstatus.trans (by rfl)⟩

end ControlPlane.Registry

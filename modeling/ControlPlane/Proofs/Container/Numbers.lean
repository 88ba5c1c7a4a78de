import Mathlib.Algebra.Group.Nat.Defs
import Mathlib.Data.List.Infix
import ControlPlane.Proofs.Container.Inventory

/-!
# The numbers of new containers

A new container takes the number of a counter, which is a machine word.  Putting a
container in raises the counter above that container, and making one counts it up.

* `Below` is the invariant.  It compares the inventory with a counter that never
  starts over, and as long as that one is a machine word the two agree and are above
  every known container.
* `Op.below` is one call and `after_below` a run.  `find?_next` and `handed_ascending`
  read off that a new container is new.
* `exists_handed_again` is about the counter that does start over: sooner or later it
  comes to any container that is known.
-/

namespace ControlPlane.Inventory

/-- A call that puts containers in or changes one. -/
inductive Op
  | insert (c : Container)
  | allocate (owner : String) (p : Pipeline) (now : Instant)
  | modify (id : ContainerId) (f : Container → Container) (hf : ∀ c, (f c).id = c.id)

namespace Op

/-- The inventory after a call. -/
def run (i : Inventory) : Op → Inventory
  | .insert c => i.insert c
  | .allocate owner p now => (i.allocate owner p now).2
  | .modify id f hf => i.modify id f hf

/-- The identifier that a call hands out. -/
def handed? (i : Inventory) : Op → Option ContainerId
  | .allocate .. => some ⟨i.next⟩
  | _ => none

/-- The container that a call puts in from elsewhere. -/
def inserted? : Op → Option Container
  | .insert c => some c
  | _ => none

/-- A counter after a call, if it never starts over. -/
def raise (n : Nat) : Op → Nat
  | .insert c => max n (c.id.number.toNat + 1)
  | .allocate .. => n + 1
  | .modify .. => n

end Op

/-- The inventory after some calls, the first of the list first. -/
def after (i : Inventory) (ops : List Op) : Inventory := ops.foldl Op.run i

/-- The identifiers that some calls hand out, in their order. -/
def handed : Inventory → List Op → List ContainerId
  | _, [] => []
  | i, op :: ops => (op.handed? i).toList ++ handed (op.run i) ops

/-- The containers that some calls put in from elsewhere. -/
def inserted (ops : List Op) : List Container := ops.filterMap Op.inserted?

/-- A counter after some calls, if it never starts over. -/
def raised (n : Nat) (ops : List Op) : Nat := ops.foldl Op.raise n

variable {i : Inventory} {n : Nat} {op : Op} {ops ops' : List Op} {id : ContainerId} {c : Container}

theorem after_append : i.after (ops ++ ops') = (i.after ops).after ops' := List.foldl_append

theorem forall_mem_inserted_cons {P : Container → Prop} :
    (∀ c ∈ inserted (op :: ops), P c) ↔ (∀ c ∈ op.inserted?, P c) ∧ ∀ c ∈ inserted ops, P c := by
  cases op <;> simp [inserted, Op.inserted?]

theorem raised_append : raised n (ops ++ ops') = raised (raised n ops) ops' := List.foldl_append

theorem Op.le_raise (op : Op) : n ≤ op.raise n := by
  cases op with
  | insert c => exact Nat.le_max_left _ _
  | allocate => exact Nat.le_succ n
  | modify => exact Nat.le_refl n

theorem le_raised (n : Nat) (ops : List Op) : n ≤ raised n ops := by
  induction ops generalizing n with
  | nil => exact Nat.le_refl n
  | cons op ops ih => exact Nat.le_trans op.le_raise (ih _)

/-! ## What is known after a call -/

theorem find?_insert : (i.insert c).find? id = if c.id = id then some c else i.find? id := find?_put

theorem find?_allocate {owner : String} {p : Pipeline} {now : Instant} :
    (i.allocate owner p now).2.find? id =
      if ⟨i.next⟩ = id then some (.fresh ⟨i.next⟩ p.id p.scheme owner now) else i.find? id :=
  find?_put

theorem isSome_find?_modify (f : Container → Container) (hf : ∀ c, (f c).id = c.id) :
    ((i.modify id f hf).find? j).isSome = (i.find? j).isSome := by
  rw [find?_modify]
  split
  · exact Option.isSome_map
  · rfl

/-- Without containers from elsewhere, what is known was known or was handed out. -/
theorem isSome_find?_after (hops : inserted ops = []) :
    ((i.after ops).find? id).isSome = true ↔
      (i.find? id).isSome = true ∨ id ∈ handed i ops := by
  induction ops generalizing i with
  | nil => simp [after, handed]
  | cons op ops ih =>
    cases op with
    | insert c => simp [inserted, Op.inserted?] at hops
    | allocate owner p now =>
      have hstep : ((i.allocate owner p now).2.find? id).isSome = true ↔
          (i.find? id).isSome = true ∨ id = ⟨i.next⟩ := by
        rw [find?_allocate]
        split
        · next h => simp [h]
        · next h => simp [Ne.symm h]
      show ((after (i.allocate owner p now).2 ops).find? id).isSome = true ↔ _
      rw [ih hops, hstep, or_assoc]
      simp [handed, Op.handed?, Op.run]
    | modify j f hf =>
      show ((after (i.modify j f hf) ops).find? id).isSome = true ↔ _
      rw [ih hops, isSome_find?_modify]
      rfl

/-! ## The counter -/

/-- Every known container is below the number, and if that is a machine word it is the
next one. -/
structure Below (i : Inventory) (n : Nat) : Prop where
  known : ∀ id c, i.find? id = some c → rank id < n
  next : n < 2 ^ 64 → i.next.toNat = n

theorem below_empty : Below ∅ 1 := ⟨nofun, fun _ => rfl⟩

/-- A known container does not have the next number. -/
theorem Below.find?_next (h : Below i n) (hn : n < 2 ^ 64) : i.find? ⟨i.next⟩ = none := by
  refine Option.eq_none_iff_forall_ne_some.2 fun c hc => ?_
  have hlt : i.next.toNat < n := h.known _ c hc
  have hnext := h.next hn
  omega

theorem Below.insert (h : Below i n) (hc : c.id.number.toNat + 1 < 2 ^ 64) :
    Below (i.insert c) (max n (c.id.number.toNat + 1)) := by
  refine ⟨fun id d hd => ?_, fun hn => ?_⟩
  · rw [find?_insert] at hd
    split at hd
    · next hid =>
      have hrank : rank c.id = c.id.number.toNat := rfl
      rw [← hid]
      omega
    · have hlt := h.known id d hd
      omega
  · have hnext : i.next.toNat = n := h.next (by omega)
    have hsucc : (c.id.number + 1).toNat = c.id.number.toNat + 1 := by
      rw [UInt64.toNat_add]
      exact Nat.mod_eq_of_lt hc
    show (if i.next ≤ c.id.number + 1 then c.id.number + 1 else i.next).toNat = _
    split
    · next hle =>
      have hle := UInt64.le_iff_toNat_le.1 hle
      omega
    · next hlt =>
      have hlt := mt UInt64.le_iff_toNat_le.2 hlt
      omega

theorem Below.allocate (h : Below i n) {owner : String} {p : Pipeline} {now : Instant}
    (hn : n < 2 ^ 64) : Below (i.allocate owner p now).2 (n + 1) := by
  have hnext := h.next hn
  refine ⟨fun id d hd => ?_, fun hn' => ?_⟩
  · rw [find?_allocate] at hd
    split at hd
    · next hid =>
      have hrank : rank (⟨i.next⟩ : ContainerId) = i.next.toNat := rfl
      rw [← hid]
      omega
    · have hlt := h.known id d hd
      omega
  · show (i.next + 1).toNat = n + 1
    rw [UInt64.toNat_add, hnext]
    exact Nat.mod_eq_of_lt hn'

theorem Below.modify (h : Below i n) (id : ContainerId) (f : Container → Container)
    (hf : ∀ c, (f c).id = c.id) : Below (i.modify id f hf) n := by
  refine ⟨fun j d hd => ?_, h.next⟩
  have hsome : (i.find? j).isSome = true := by
    rw [← isSome_find?_modify f hf, hd]
    rfl
  obtain ⟨c, hc⟩ := Option.isSome_iff_exists.1 hsome
  exact h.known j c hc

/-- One call. -/
theorem Op.below (op : Op) (h : Below i n)
    (hop : ∀ c ∈ op.inserted?, c.id.number.toNat + 1 < 2 ^ 64)
    (hn : op.raise n ≤ 2 ^ 64) : Below (op.run i) (op.raise n) := by
  cases op with
  | insert c => exact h.insert (hop c rfl)
  | allocate => exact h.allocate hn
  | modify id f hf => exact h.modify id f hf

/-- A run of calls. -/
theorem after_below (h : Below i n) (hops : ∀ c ∈ inserted ops, c.id.number.toNat + 1 < 2 ^ 64)
    (hn : raised n ops ≤ 2 ^ 64) : Below (i.after ops) (raised n ops) := by
  induction ops generalizing i n with
  | nil => exact h
  | cons op ops ih =>
    have hle : op.raise n ≤ raised n (op :: ops) := le_raised _ ops
    obtain ⟨hop, hrest⟩ := forall_mem_inserted_cons.1 hops
    exact ih (op.below h hop (Nat.le_trans hle hn)) hrest hn

/-! ## What is handed out -/

theorem handed_cons : handed i (op :: ops) = (op.handed? i).toList ++ handed (op.run i) ops := rfl

/-- What is handed out is not below the counter. -/
theorem le_rank_of_mem_handed (h : Below i n)
    (hops : ∀ c ∈ inserted ops, c.id.number.toNat + 1 < 2 ^ 64) (hn : raised n ops ≤ 2 ^ 64)
    (hid : id ∈ handed i ops) : n ≤ rank id := by
  induction ops generalizing i n with
  | nil => simp [handed] at hid
  | cons op ops ih =>
    obtain ⟨hop, hrest⟩ := forall_mem_inserted_cons.1 hops
    have hle : op.raise n ≤ 2 ^ 64 := Nat.le_trans (le_raised _ ops) hn
    rw [handed_cons, List.mem_append, Option.mem_toList] at hid
    rcases hid with hid | hid
    · cases op with
      | allocate =>
        obtain rfl := Option.some.inj hid
        exact Nat.le_of_eq (h.next hle).symm
      | insert | modify => simp [Op.handed?] at hid
    · exact Nat.le_trans op.le_raise (ih (op.below h hop hle) hrest hn hid)

/-- Each container gets a greater number than the ones before it. -/
theorem handed_ascending (h : Below i n)
    (hops : ∀ c ∈ inserted ops, c.id.number.toNat + 1 < 2 ^ 64) (hn : raised n ops ≤ 2 ^ 64) :
    (handed i ops).Pairwise fun id j => rank id < rank j := by
  induction ops generalizing i n with
  | nil => exact .nil
  | cons op ops ih =>
    obtain ⟨hop, hrest⟩ := forall_mem_inserted_cons.1 hops
    have hle : op.raise n ≤ 2 ^ 64 := Nat.le_trans (le_raised _ ops) hn
    have hthen := ih (op.below h hop hle) hrest hn
    cases op with
    | allocate owner p now =>
      refine List.pairwise_cons.2 ⟨fun j hj => ?_, hthen⟩
      have hnext : i.next.toNat = n := h.next hle
      have hlater : n + 1 ≤ rank j := le_rank_of_mem_handed (h.allocate hle) hrest hn hj
      show i.next.toNat < rank j
      omega
    | insert | modify => exact hthen

/-- While the counter does not start over, a new container is new and writes over none. -/
theorem allocate_new (hops : ∀ c ∈ inserted ops, c.id.number.toNat + 1 < 2 ^ 64)
    (hn : raised 1 ops ≤ 2 ^ 64) {before rest : List Op} {owner : String} {p : Pipeline}
    {now : Instant} (heq : ops = before ++ .allocate owner p now :: rest) :
    let i := after ∅ before
    let made := i.allocate owner p now
    i.find? made.1.id = none ∧ ∀ id c, i.find? id = some c → made.2.find? id = some c := by
  subst heq
  have hbefore : ∀ c ∈ inserted before, c.id.number.toNat + 1 < 2 ^ 64 := fun c hc =>
    hops c (by rw [inserted, List.filterMap_append]; exact List.mem_append_left _ hc)
  rw [raised_append] at hn
  have hroom : raised 1 before + 1 ≤ 2 ^ 64 := Nat.le_trans (le_raised _ rest) hn
  have hbelow := after_below below_empty hbefore (by omega)
  have hnone := hbelow.find?_next hroom
  refine ⟨hnone, fun id c hc => (find?_allocate.trans (if_neg ?_)).trans hc⟩
  rintro rfl
  rw [hnone] at hc
  cases hc

/-! ## When the counter starts over -/

/-- The calls that make some containers one after the other. -/
def allocations (count : Nat) (owner : String) (p : Pipeline) (now : Instant) : List Op :=
  List.replicate count (.allocate owner p now)

theorem next_after_allocations {count : Nat} {owner : String} {p : Pipeline} {now : Instant} :
    (i.after (allocations count owner p now)).next = i.next + UInt64.ofNat count := by
  induction count generalizing i with
  | zero => simp [allocations, after]
  | succ count ih =>
    show ((i.allocate owner p now).2.after (allocations count owner p now)).next = _
    rw [ih]
    show i.next + 1 + UInt64.ofNat count = _
    rw [UInt64.ofNat_add, UInt64.add_assoc, UInt64.add_comm 1]
    rfl

/-- If containers are made for long enough, one of them gets the number of a container
that is known. -/
theorem exists_handed_again (i : Inventory) (id : ContainerId) (owner : String) (p : Pipeline)
    (now : Instant) :
    ∃ count, ((i.after (allocations count owner p now)).allocate owner p now).1.id = id := by
  refine ⟨(id.number - i.next).toNat, ?_⟩
  show (⟨(i.after (allocations _ owner p now)).next⟩ : ContainerId) = id
  rw [next_after_allocations, UInt64.ofNat_toNat, UInt64.add_comm, UInt64.sub_add_cancel]

end ControlPlane.Inventory

/-!
# Ascending sets

A finite set of ranked values, kept as the list of its members in ascending
order.  Two sets with the same members are equal, so states that hold sets can
be compared with `=`, and listing a set needs no sorting.
-/

namespace ControlPlane

universe u

/-- Values that a natural number tells apart and puts in order. -/
class Ranked (α : Type u) where
  /-- The place of a value in the order. -/
  rank : α → Nat
  /-- Distinct values have distinct places. -/
  rank_injective : ∀ {a b : α}, rank a = rank b → a = b

export Ranked (rank rank_injective)

theorem rank_inj {α : Type u} [Ranked α] {a b : α} : rank a = rank b ↔ a = b :=
  ⟨rank_injective, congrArg rank⟩

instance : Ranked Nat := ⟨id, id⟩

/-- A finite set, as the list of its members from the least to the greatest. -/
@[ext] structure SortedSet (α : Type u) [Ranked α] where
  /-- The members in ascending order. -/
  toList : List α
  /-- Each member ranks below the ones after it. -/
  ascending : toList.Pairwise fun a b => rank a < rank b

namespace SortedSet

variable {α : Type u} [Ranked α]

instance [DecidableEq α] : DecidableEq (SortedSet α) := fun a b =>
  decidable_of_iff (a.toList = b.toList) SortedSet.ext_iff.symm

/-- The set without members. -/
def empty : SortedSet α := ⟨[], .nil⟩

instance : EmptyCollection (SortedSet α) := ⟨empty⟩
instance : Inhabited (SortedSet α) := ⟨empty⟩

instance : Membership α (SortedSet α) := ⟨fun s a => a ∈ s.toList⟩

theorem mem_def {a : α} {s : SortedSet α} : a ∈ s ↔ a ∈ s.toList := Iff.rfl

/-- Does the set hold a value of the same rank, that is, the value? -/
def contains (s : SortedSet α) (a : α) : Bool := s.toList.any fun b => rank b == rank a

theorem contains_iff_mem {s : SortedSet α} {a : α} : s.contains a = true ↔ a ∈ s := by
  simp only [contains, List.any_eq_true, beq_iff_eq, mem_def]
  exact ⟨fun ⟨b, hb, h⟩ => rank_injective h ▸ hb, fun h => ⟨a, h, rfl⟩⟩

instance (a : α) (s : SortedSet α) : Decidable (a ∈ s) :=
  decidable_of_iff _ contains_iff_mem

/-- The number of members. -/
def size (s : SortedSet α) : Nat := s.toList.length

/-- Has the set no member? -/
def isEmpty (s : SortedSet α) : Bool := s.toList.isEmpty

/-- A value put into an ascending list at its place, once. -/
def insertInto (a : α) : List α → List α
  | [] => [a]
  | b :: bs =>
    if rank a < rank b then a :: b :: bs
    else if rank a = rank b then b :: bs
    else b :: insertInto a bs

theorem mem_insertInto {a b : α} {l : List α} : b ∈ insertInto a l ↔ b = a ∨ b ∈ l := by
  induction l with
  | nil => simp [insertInto]
  | cons c cs ih =>
    simp only [insertInto]
    split
    · simp
    · split
      · next h =>
        have := rank_injective h
        subst this
        simp
      · simp only [List.mem_cons, ih]
        grind

theorem insertInto_ascending {a : α} {l : List α}
    (h : l.Pairwise fun x y => rank x < rank y) :
    (insertInto a l).Pairwise fun x y => rank x < rank y := by
  induction l with
  | nil => simp [insertInto]
  | cons c cs ih =>
    have ⟨hc, hcs⟩ := List.pairwise_cons.1 h
    simp only [insertInto]
    split
    · next hlt =>
      refine List.pairwise_cons.2 ⟨fun y hy => ?_, h⟩
      rcases List.mem_cons.1 hy with rfl | hy
      · exact hlt
      · exact Nat.lt_trans hlt (hc y hy)
    · split
      · exact h
      · next hlt hne =>
        refine List.pairwise_cons.2 ⟨fun y hy => ?_, ih hcs⟩
        rcases mem_insertInto.1 hy with rfl | hy
        · omega
        · exact hc y hy

/-- The set with one more member. -/
def insert (s : SortedSet α) (a : α) : SortedSet α :=
  ⟨insertInto a s.toList, insertInto_ascending s.ascending⟩

@[simp] theorem mem_insert {s : SortedSet α} {a b : α} : b ∈ s.insert a ↔ b = a ∨ b ∈ s :=
  mem_insertInto

/-- The members that satisfy a test. -/
def filter (s : SortedSet α) (p : α → Bool) : SortedSet α :=
  ⟨s.toList.filter p, s.ascending.filter p⟩

@[simp] theorem mem_filter {s : SortedSet α} {p : α → Bool} {a : α} :
    a ∈ s.filter p ↔ a ∈ s ∧ p a = true := by
  simp [mem_def, filter]

/-- The set without one value. -/
def erase (s : SortedSet α) (a : α) : SortedSet α := s.filter fun b => rank b != rank a

@[simp] theorem mem_erase {s : SortedSet α} {a b : α} : b ∈ s.erase a ↔ b ∈ s ∧ b ≠ a := by
  simp only [erase, mem_filter, bne_iff_ne, ne_eq]
  exact and_congr_right fun _ => not_congr ⟨rank_injective, congrArg rank⟩

/-- The set with every value of a list added.  The last value goes in first, so
that an ascending list goes in from the front. -/
def insertAll (s : SortedSet α) (l : List α) : SortedSet α := l.foldr (fun a s => s.insert a) s

@[simp] theorem mem_insertAll {s : SortedSet α} {l : List α} {a : α} :
    a ∈ s.insertAll l ↔ a ∈ s ∨ a ∈ l := by
  induction l with
  | nil => simp [insertAll]
  | cons b bs ih =>
    have : s.insertAll (b :: bs) = (s.insertAll bs).insert b := rfl
    simp only [this, ih, mem_insert, List.mem_cons]
    grind

/-- The values of a list, each once, in ascending order. -/
def ofList (l : List α) : SortedSet α := (∅ : SortedSet α).insertAll l

@[simp] theorem not_mem_empty {a : α} : a ∉ (∅ : SortedSet α) := List.not_mem_nil

@[simp] theorem mem_ofList {l : List α} {a : α} : a ∈ ofList l ↔ a ∈ l := by
  simp [ofList]

/-- A member below another one stands before it. -/
theorem mem_of_rank_lt {s : SortedSet α} {a b : α} {before after : List α}
    (hs : s.toList = before ++ a :: after) (hb : b ∈ s.toList) (hlt : rank b < rank a) :
    b ∈ before := by
  have hasc := s.ascending
  rw [hs] at hasc hb
  rcases List.mem_append.1 hb with hb | hb
  · exact hb
  · have hle : rank a ≤ rank b := by
      rcases List.mem_cons.1 hb with rfl | hb
      · exact Nat.le_refl _
      · exact Nat.le_of_lt ((List.pairwise_cons.1 (List.pairwise_append.1 hasc).2.1).1 b hb)
    omega

theorem nodup (s : SortedSet α) : s.toList.Nodup := by
  refine s.ascending.imp fun {a b} h e => ?_
  subst e
  exact Nat.lt_irrefl _ h

end SortedSet

end ControlPlane

import ControlPlane.SortedSet

/-!
# Ascending maps

A finite map with ranked keys, kept as the list of its rows in ascending order
of the keys.  As with `SortedSet`, equal contents mean equal values.
-/

namespace ControlPlane

universe u v

/-- A finite map, as its rows from the least key to the greatest. -/
@[ext] structure SortedMap (κ : Type u) (α : Type v) [Ranked κ] where
  /-- The rows in ascending order of their keys. -/
  rows : List (κ × α)
  /-- Each key ranks below the ones after it. -/
  ascending : rows.Pairwise fun a b => rank a.1 < rank b.1

namespace SortedMap

variable {κ : Type u} {α : Type v} [Ranked κ]

/-- The map without rows. -/
def empty : SortedMap κ α := ⟨[], .nil⟩

instance : EmptyCollection (SortedMap κ α) := ⟨empty⟩
instance : Inhabited (SortedMap κ α) := ⟨empty⟩

/-- The value that a list of rows has under a key. -/
def lookup (k : κ) : List (κ × α) → Option α
  | [] => none
  | (j, a) :: rest => if rank j = rank k then some a else lookup k rest

/-- The value under a key. -/
def find? (m : SortedMap κ α) (k : κ) : Option α := lookup k m.rows

/-- Has the map a row for the key? -/
def contains (m : SortedMap κ α) (k : κ) : Bool := (m.find? k).isSome

/-- The number of rows. -/
def size (m : SortedMap κ α) : Nat := m.rows.length

/-- The keys in ascending order. -/
def keys (m : SortedMap κ α) : List κ := m.rows.map (·.1)

/-- The values in ascending order of their keys. -/
def values (m : SortedMap κ α) : List α := m.rows.map (·.2)

/-- A row put into ascending rows at its place, in the stead of one with its key. -/
def insertInto (k : κ) (a : α) : List (κ × α) → List (κ × α)
  | [] => [(k, a)]
  | (j, b) :: rest =>
    if rank k < rank j then (k, a) :: (j, b) :: rest
    else if rank k = rank j then (k, a) :: rest
    else (j, b) :: insertInto k a rest

theorem mem_of_mem_insertInto {k : κ} {a : α} {l : List (κ × α)} {r : κ × α}
    (h : r ∈ insertInto k a l) : r = (k, a) ∨ r ∈ l := by
  induction l with
  | nil => simpa [insertInto] using h
  | cons c cs ih =>
    simp only [insertInto] at h
    split at h
    · exact List.mem_cons.1 h
    · split at h
      · exact (List.mem_cons.1 h).imp_right (List.mem_cons_of_mem _)
      · rcases List.mem_cons.1 h with rfl | h
        · exact .inr List.mem_cons_self
        · exact (ih h).imp_right (List.mem_cons_of_mem _)

theorem insertInto_ascending {k : κ} {a : α} {l : List (κ × α)}
    (h : l.Pairwise fun x y => rank x.1 < rank y.1) :
    (insertInto k a l).Pairwise fun x y => rank x.1 < rank y.1 := by
  induction l with
  | nil => simp [insertInto]
  | cons c cs ih =>
    have ⟨hc, hcs⟩ := List.pairwise_cons.1 h
    simp only [insertInto]
    split
    · next hlt =>
      refine List.pairwise_cons.2 ⟨fun y hy => ?_, h⟩
      rcases List.mem_cons.1 hy with rfl | hy
      · exact hlt
      · exact Nat.lt_trans hlt (hc y hy)
    · split
      · next heq =>
        exact List.pairwise_cons.2 ⟨fun y hy => by simpa only [heq] using hc y hy, hcs⟩
      · next hlt hne =>
        refine List.pairwise_cons.2 ⟨fun y hy => ?_, ih hcs⟩
        rcases mem_of_mem_insertInto hy with rfl | hy
        · show rank c.1 < rank k
          omega
        · exact hc y hy

/-- The map with a value put under a key. -/
def insert (m : SortedMap κ α) (k : κ) (a : α) : SortedMap κ α :=
  ⟨insertInto k a m.rows, insertInto_ascending m.ascending⟩

/-- The map without the row of a key. -/
def erase (m : SortedMap κ α) (k : κ) : SortedMap κ α :=
  ⟨m.rows.filter fun r => rank r.1 != rank k, m.ascending.filter _⟩

/-- The map with the value under one key changed, where there is one. -/
def modify (m : SortedMap κ α) (k : κ) (f : α → α) : SortedMap κ α where
  rows := m.rows.map fun r => if rank r.1 = rank k then (r.1, f r.2) else r
  ascending := by
    refine List.pairwise_map.2 (m.ascending.imp fun {a b} h => ?_)
    grind

/-- The map that has every row of a list, later rows over earlier ones. -/
def ofList (l : List (κ × α)) : SortedMap κ α := l.foldl (fun m r => m.insert r.1 r.2) ∅

/-! ## Rows that were written -/

theorem mem_rows_insert {m : SortedMap κ α} {k : κ} {a : α} {r : κ × α}
    (h : r ∈ (m.insert k a).rows) : r = (k, a) ∨ r ∈ m.rows :=
  mem_of_mem_insertInto h

theorem mem_rows_modify {m : SortedMap κ α} {k : κ} {f : α → α} {r : κ × α}
    (h : r ∈ (m.modify k f).rows) : r ∈ m.rows ∨ ∃ a, (r.1, a) ∈ m.rows ∧ r.2 = f a := by
  obtain ⟨s, hs, rfl⟩ := List.mem_map.1 h
  split
  · exact .inr ⟨s.2, hs, rfl⟩
  · exact .inl hs

/-! ## Looking up what was written -/

@[simp] theorem find?_empty {k : κ} : (∅ : SortedMap κ α).find? k = none := rfl

theorem lookup_insertInto {k j : κ} {a : α} {l : List (κ × α)} :
    lookup j (insertInto k a l) = if rank k = rank j then some a else lookup j l := by
  induction l with
  | nil => simp [insertInto, lookup]
  | cons c cs ih =>
    simp only [insertInto, lookup]
    split
    · simp only [lookup]
    · split
      · next h => simp only [lookup, ← h]; grind
      · simp only [lookup, ih]; grind

theorem lookup_eq_some_iff {k : κ} {a : α} {l : List (κ × α)}
    (h : l.Pairwise fun x y => rank x.1 < rank y.1) : lookup k l = some a ↔ (k, a) ∈ l := by
  induction l with
  | nil => simp [lookup]
  | cons c cs ih =>
    obtain ⟨hc, hcs⟩ := List.pairwise_cons.1 h
    simp only [lookup, List.mem_cons]
    split
    · next hk =>
      have hnot : (k, a) ∉ cs := fun hm => Nat.ne_of_lt (hc _ hm) hk
      obtain rfl := rank_injective hk
      simp only [hnot, or_false, Option.some.injEq]
      exact ⟨fun e => Prod.ext rfl e.symm, fun e => (congrArg Prod.snd e).symm⟩
    · next hk =>
      rw [ih hcs]
      refine ⟨.inr, fun hm => hm.resolve_left fun e => hk ?_⟩
      exact congrArg (fun r => rank r.1) e.symm

theorem find?_eq_some_iff {m : SortedMap κ α} {k : κ} {a : α} :
    m.find? k = some a ↔ (k, a) ∈ m.rows :=
  lookup_eq_some_iff m.ascending

theorem find?_insert {m : SortedMap κ α} {k j : κ} {a : α} :
    (m.insert k a).find? j = if rank k = rank j then some a else m.find? j :=
  lookup_insertInto

@[simp] theorem find?_insert_self {m : SortedMap κ α} {k : κ} {a : α} :
    (m.insert k a).find? k = some a := by
  simp [find?_insert]

theorem lookup_filter_ne {k j : κ} {l : List (κ × α)} :
    lookup j (l.filter fun r => rank r.1 != rank k) =
      if rank k = rank j then none else lookup j l := by
  induction l with
  | nil => simp [lookup]
  | cons c cs ih => simp only [List.filter_cons, lookup]; grind [lookup]

theorem find?_erase {m : SortedMap κ α} {k j : κ} :
    (m.erase k).find? j = if rank k = rank j then none else m.find? j :=
  lookup_filter_ne

theorem find?_modify {m : SortedMap κ α} {k j : κ} {f : α → α} :
    (m.modify k f).find? j = if rank k = rank j then (m.find? j).map f else m.find? j := by
  show lookup j (m.rows.map _) = if _ then (lookup j m.rows).map f else lookup j m.rows
  induction m.rows with
  | nil => simp [lookup]
  | cons c cs ih => simp only [List.map_cons, lookup]; grind

end SortedMap

end ControlPlane

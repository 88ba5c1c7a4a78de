/-!
# Tables in order of arrival

A finite map whose rows stay in the order in which their keys first arrived.
Writing under a known key changes its row in place; a new key goes to the end.
The order of the rows is the order in which the table lists its values.
-/

namespace ControlPlane

universe u v

/-- A finite map, as its rows in the order in which the keys arrived. -/
@[ext] structure Table (κ : Type u) (α : Type v) where
  /-- The rows, the first to arrive first. -/
  rows : List (κ × α)
  /-- No key has two rows. -/
  nodup_keys : (rows.map (·.1)).Nodup

namespace Table

variable {κ : Type u} {α : Type v}

/-- The table without rows. -/
def empty : Table κ α := ⟨[], .nil⟩

instance : EmptyCollection (Table κ α) := ⟨empty⟩
instance : Inhabited (Table κ α) := ⟨empty⟩

/-- The keys in order of arrival. -/
def keys (t : Table κ α) : List κ := t.rows.map (·.1)

/-- The values in order of arrival of their keys. -/
def values (t : Table κ α) : List α := t.rows.map (·.2)

/-- The number of rows. -/
def size (t : Table κ α) : Nat := t.rows.length

variable [DecidableEq κ]

/-- The value that a list of rows has under a key. -/
def lookup (k : κ) : List (κ × α) → Option α
  | [] => none
  | (j, a) :: rest => if j = k then some a else lookup k rest

/-- The value under a key. -/
def find? (t : Table κ α) (k : κ) : Option α := lookup k t.rows

/-- Has the table a row for the key? -/
def contains (t : Table κ α) (k : κ) : Bool := (t.find? k).isSome

/-- The row of a key changed in place, or a new row at the end. -/
def insertInto (k : κ) (a : α) : List (κ × α) → List (κ × α)
  | [] => [(k, a)]
  | (j, b) :: rest => if j = k then (k, a) :: rest else (j, b) :: insertInto k a rest

theorem map_fst_insertInto {k : κ} {a : α} {l : List (κ × α)} :
    (insertInto k a l).map (·.1) =
      if k ∈ l.map (·.1) then l.map (·.1) else l.map (·.1) ++ [k] := by
  induction l with
  | nil => simp [insertInto]
  | cons c cs ih =>
    simp only [insertInto]
    split
    · next h => simp [h]
    · next h =>
      simp only [List.map_cons, ih, List.mem_cons]
      grind

theorem mem_of_mem_insertInto {k : κ} {a : α} {l : List (κ × α)} {r : κ × α}
    (h : r ∈ insertInto k a l) : r = (k, a) ∨ r ∈ l := by
  induction l with
  | nil => simpa [insertInto] using h
  | cons c cs ih =>
    simp only [insertInto] at h
    split at h
    · rcases List.mem_cons.1 h with rfl | h
      · exact .inl rfl
      · exact .inr (List.mem_cons_of_mem _ h)
    · rcases List.mem_cons.1 h with rfl | h
      · exact .inr List.mem_cons_self
      · exact (ih h).imp_right (List.mem_cons_of_mem _)

/-- The table with a value put under a key. -/
def insert (t : Table κ α) (k : κ) (a : α) : Table κ α where
  rows := insertInto k a t.rows
  nodup_keys := by
    rw [map_fst_insertInto]
    split
    · exact t.nodup_keys
    · next h =>
      refine List.nodup_append.2 ⟨t.nodup_keys, by simp, ?_⟩
      intro x hx y hy e
      simp only [List.mem_singleton] at hy
      subst hy e
      exact h hx

/-- The table with the value under one key changed, where there is one. -/
def modify (t : Table κ α) (k : κ) (f : α → α) : Table κ α where
  rows := t.rows.map fun r => if r.1 = k then (r.1, f r.2) else r
  nodup_keys := by
    have : (t.rows.map fun r => if r.1 = k then (r.1, f r.2) else r).map (·.1) =
        t.rows.map (·.1) := by
      simp only [List.map_map]
      exact List.map_congr_left fun r _ => by simp only [Function.comp]; split <;> rfl
    rw [this]
    exact t.nodup_keys

/-! ## Rows that were written -/

theorem mem_rows_insert {t : Table κ α} {k : κ} {a : α} {r : κ × α}
    (h : r ∈ (t.insert k a).rows) : r = (k, a) ∨ r ∈ t.rows :=
  mem_of_mem_insertInto h

theorem mem_rows_modify {t : Table κ α} {k : κ} {f : α → α} {r : κ × α}
    (h : r ∈ (t.modify k f).rows) : r ∈ t.rows ∨ ∃ a, (r.1, a) ∈ t.rows ∧ r.2 = f a := by
  obtain ⟨s, hs, rfl⟩ := List.mem_map.1 h
  split
  · exact .inr ⟨s.2, hs, rfl⟩
  · exact .inl hs

/-! ## Looking up what was written -/

@[simp] theorem find?_empty {k : κ} : (∅ : Table κ α).find? k = none := rfl

theorem lookup_insertInto {k j : κ} {a : α} {l : List (κ × α)} :
    lookup j (insertInto k a l) = if k = j then some a else lookup j l := by
  induction l with
  | nil => simp [insertInto, lookup]
  | cons c cs ih => simp only [insertInto, lookup]; grind [lookup]

theorem find?_insert {t : Table κ α} {k j : κ} {a : α} :
    (t.insert k a).find? j = if k = j then some a else t.find? j :=
  lookup_insertInto

@[simp] theorem find?_insert_self {t : Table κ α} {k : κ} {a : α} :
    (t.insert k a).find? k = some a := by
  simp [find?_insert]

theorem find?_modify {t : Table κ α} {k j : κ} {f : α → α} :
    (t.modify k f).find? j = if k = j then (t.find? j).map f else t.find? j := by
  show lookup j (t.rows.map _) = if _ then (lookup j t.rows).map f else lookup j t.rows
  induction t.rows with
  | nil => simp [lookup]
  | cons c cs ih => simp only [List.map_cons, lookup]; grind

theorem lookup_eq_some_iff {k : κ} {a : α} {l : List (κ × α)} (h : (l.map (·.1)).Nodup) :
    lookup k l = some a ↔ (k, a) ∈ l := by
  induction l with
  | nil => simp [lookup]
  | cons c cs ih =>
    obtain ⟨hc, hcs⟩ := List.nodup_cons.1 h
    simp only [lookup, List.mem_cons]
    split
    · next hk =>
      subst hk
      have hnot : (c.1, a) ∉ cs := fun hm => hc (List.mem_map.2 ⟨_, hm, rfl⟩)
      simp only [hnot, or_false, Option.some.injEq]
      exact ⟨fun e => Prod.ext rfl e.symm, fun e => (congrArg Prod.snd e).symm⟩
    · next hk =>
      rw [ih hcs]
      refine ⟨.inr, fun hm => hm.resolve_left fun e => hk ?_⟩
      exact (congrArg Prod.fst e).symm

theorem find?_eq_some_iff {t : Table κ α} {k : κ} {a : α} :
    t.find? k = some a ↔ (k, a) ∈ t.rows :=
  lookup_eq_some_iff t.nodup_keys

theorem lookup_isSome_iff {k : κ} {l : List (κ × α)} :
    (lookup k l).isSome = true ↔ k ∈ l.map (·.1) := by
  induction l with
  | nil => simp [lookup]
  | cons c cs ih => simp only [lookup, List.map_cons, List.mem_cons]; grind

theorem contains_iff_mem_keys {t : Table κ α} {k : κ} :
    t.contains k = true ↔ k ∈ t.keys :=
  lookup_isSome_iff

theorem find?_eq_none_iff {t : Table κ α} {k : κ} : t.find? k = none ↔ k ∉ t.keys := by
  rw [← contains_iff_mem_keys, contains, Option.not_isSome_iff_eq_none]

/-! ## Rows that stay -/

@[simp] theorem size_modify {t : Table κ α} {k : κ} {f : α → α} :
    (t.modify k f).size = t.size :=
  List.length_map _

theorem size_insert_of_new {t : Table κ α} {k : κ} {a : α} (h : t.find? k = none) :
    (t.insert k a).size = t.size + 1 := by
  have hkeys : (t.insert k a).keys = t.keys ++ [k] :=
    map_fst_insertInto.trans (if_neg (find?_eq_none_iff.1 h))
  simpa [keys, size] using congrArg List.length hkeys

theorem map_of_absent {k : κ} {f : α → α} {l : List (κ × α)} (h : k ∉ l.map (·.1)) :
    (l.map fun r => if r.1 = k then (r.1, f r.2) else r) = l := by
  refine (List.map_congr_left fun r hr => if_neg fun e => h ?_).trans (List.map_id l)
  exact e ▸ List.mem_map.2 ⟨r, hr, rfl⟩

theorem modify_of_absent {t : Table κ α} {k : κ} {f : α → α} (h : t.find? k = none) :
    t.modify k f = t :=
  Table.ext (map_of_absent (find?_eq_none_iff.1 h))

/-- A change that may be made twice in a row. -/
theorem modify_modify {t : Table κ α} {k : κ} {f : α → α} (hf : ∀ a, f (f a) = f a) :
    (t.modify k f).modify k f = t.modify k f := by
  refine Table.ext ?_
  simp only [modify, List.map_map]
  refine List.map_congr_left fun r _ => ?_
  by_cases hk : r.1 = k
  · simp [hk, hf]
  · simp [hk]

/-- One row is changed, so that a count of the values changes by no more than that. -/
theorem countP_map {k : κ} {a : α} {f : α → α} {l : List (κ × α)} (test : α → Bool)
    (hl : (l.map (·.1)).Nodup) (h : lookup k l = some a) :
    (l.map fun r => if r.1 = k then (r.1, f r.2) else r).countP (test ·.2) +
        (if test a then 1 else 0) =
      l.countP (test ·.2) + if test (f a) then 1 else 0 := by
  induction l with
  | nil => cases h
  | cons c cs ih =>
    obtain ⟨hc, hcs⟩ := List.nodup_cons.1 hl
    by_cases hk : c.1 = k
    · subst hk
      obtain rfl : c.2 = a := Option.some.inj ((if_pos rfl).symm.trans h)
      simp only [List.map_cons, if_true, map_of_absent hc, List.countP_cons]
      omega
    · have hlater := ih hcs ((if_neg hk).symm.trans h)
      simp only [List.map_cons, if_neg hk, List.countP_cons]
      omega

theorem map_insertInto {k : κ} {a : α} {f : α → α} {l : List (κ × α)}
    (h : (l.map (·.1)).Nodup) :
    ((insertInto k a l).map fun r => if r.1 = k then (r.1, f r.2) else r) =
      insertInto k (f a) l := by
  induction l with
  | nil => simp [insertInto]
  | cons c cs ih =>
    obtain ⟨hc, hcs⟩ := List.nodup_cons.1 h
    simp only [insertInto]
    split
    · next hk =>
      subst hk
      simp only [List.map_cons, if_true, map_of_absent hc]
    · next hk => simp [hk, ih hcs]

/-- A change to what was just written. -/
theorem modify_insert {t : Table κ α} {k : κ} {a : α} {f : α → α} :
    (t.insert k a).modify k f = t.insert k (f a) :=
  Table.ext (map_insertInto t.nodup_keys)

end Table

end ControlPlane

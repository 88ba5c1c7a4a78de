import Mathlib.Data.List.Perm.Subperm
import Mathlib.Data.List.Sort
import ControlPlane.SortedMap

/-!
# Equal contents

Ascending sets with the same members are equal, and so are ascending maps that give
the same values.  Entries that go in one after the other may go in either way round.
-/

namespace ControlPlane

namespace SortedSet

variable {α : Type} [Ranked α] {s t : SortedSet α} {a b : α}

theorem eq_of_mem (h : ∀ a, a ∈ s ↔ a ∈ t) : s = t := by
  have hirrefl : Std.Irrefl fun a b : α => rank a < rank b := ⟨fun _ => Nat.lt_irrefl _⟩
  have hantisymm : Std.Antisymm fun a b : α => rank a < rank b :=
    ⟨fun _ _ hab hba => (Nat.lt_asymm hab hba).elim⟩
  exact SortedSet.ext (s.ascending.eq_of_mem_iff t.ascending h)

theorem insert_comm : (s.insert a).insert b = (s.insert b).insert a := by
  refine eq_of_mem fun c => ?_
  simp only [mem_insert]
  exact or_left_comm

theorem insert_of_mem (h : a ∈ s) : s.insert a = s := by
  refine eq_of_mem fun b => ?_
  rw [mem_insert]
  exact or_iff_right_of_imp fun hb => hb ▸ h

theorem insertAll_of_forall {l : List α} (h : ∀ a ∈ l, a ∈ s) : s.insertAll l = s := by
  refine eq_of_mem fun a => ?_
  rw [mem_insertAll]
  exact or_iff_left_of_imp (h a)

theorem filter_of_forall {p : α → Bool} (h : ∀ a ∈ s, p a = true) : s.filter p = s := by
  refine eq_of_mem fun a => ?_
  rw [mem_filter]
  exact and_iff_left_of_imp (h a)

theorem size_pos (h : a ∈ s) : 0 < s.size := List.length_pos_of_mem h

theorem size_le_of_subset (h : ∀ a ∈ s, a ∈ t) : s.size ≤ t.size :=
  (List.subperm_of_subset s.nodup h).length_le

theorem size_le_size_insert : s.size ≤ (s.insert a).size :=
  size_le_of_subset fun _ ha => mem_insert.2 (.inr ha)

theorem size_ofList {l : List α} (h : l.Nodup) : (ofList l).size = l.length :=
  ((List.perm_ext_iff_of_nodup (ofList l).nodup h).2 fun _ => mem_ofList).length_eq

/-- A set is as large as its two parts. -/
theorem size_eq_size_filter_add (s : SortedSet α) (p : α → Bool) :
    s.size = (s.filter p).size + (s.filter fun a => !p a).size :=
  List.length_eq_length_filter_add p

end SortedSet

namespace SortedMap

variable {κ α : Type} [Ranked κ] {m m' : SortedMap κ α} {k j : κ} {a b : α}

theorem eq_of_find? (h : ∀ k, m.find? k = m'.find? k) : m = m' := by
  have hirrefl : Std.Irrefl fun a b : κ × α => rank a.1 < rank b.1 := ⟨fun _ => Nat.lt_irrefl _⟩
  have hantisymm : Std.Antisymm fun a b : κ × α => rank a.1 < rank b.1 :=
    ⟨fun _ _ hab hba => (Nat.lt_asymm hab hba).elim⟩
  refine SortedMap.ext (m.ascending.eq_of_mem_iff m'.ascending fun ⟨k, a⟩ => ?_)
  rw [← find?_eq_some_iff, ← find?_eq_some_iff, h]

theorem nodup_keys (m : SortedMap κ α) : m.keys.Nodup := by
  refine List.pairwise_map.2 (m.ascending.imp fun {r s} h heq => ?_)
  rw [heq] at h
  exact Nat.lt_irrefl _ h

/-- Rows with different keys go into a map one by one. -/
theorem find?_ofList {l : List (κ × α)} (h : (l.map (·.1)).Nodup) :
    (ofList l).find? k = some a ↔ (k, a) ∈ l := by
  have hput (m : SortedMap κ α) :
      (l.foldl (fun m row => m.insert row.1 row.2) m).find? k = some a ↔
        (k, a) ∈ l ∨ k ∉ l.map (·.1) ∧ m.find? k = some a := by
    induction l generalizing m with
    | nil => simp
    | cons row l ih =>
      obtain ⟨hrow, hl⟩ := List.nodup_cons.1 h
      rw [List.foldl_cons, ih hl, find?_insert, List.mem_cons, List.map_cons, List.mem_cons]
      by_cases hk : row.1 = k
      · subst hk
        have hnot : (row.1, a) ∉ l := fun hmem => hrow (List.mem_map.2 ⟨_, hmem, rfl⟩)
        simp [hrow, hnot, Prod.ext_iff, eq_comm]
      · have hrank : rank row.1 ≠ rank k := fun hrank => hk (rank_injective hrank)
        simp [hrank, Prod.ext_iff, Ne.symm hk]
  rw [ofList, hput]
  exact or_iff_left (by simp)

theorem insert_comm (h : k ≠ j) : (m.insert k a).insert j b = (m.insert j b).insert k a := by
  have hrank : rank k ≠ rank j := fun e => h (rank_injective e)
  refine eq_of_find? fun i => ?_
  simp only [find?_insert]
  grind

theorem insert_insert : (m.insert k a).insert k b = m.insert k b := by
  refine eq_of_find? fun i => ?_
  simp only [find?_insert]
  grind

theorem erase_insert : (m.insert k a).erase k = m.erase k := by
  refine eq_of_find? fun i => ?_
  simp only [find?_erase, find?_insert]
  grind

theorem erase_insert_of_ne (h : k ≠ j) : (m.insert k a).erase j = (m.erase j).insert k a := by
  have hrank : rank k ≠ rank j := fun e => h (rank_injective e)
  refine eq_of_find? fun i => ?_
  simp only [find?_erase, find?_insert]
  grind

theorem erase_comm : (m.erase k).erase j = (m.erase j).erase k := by
  refine eq_of_find? fun i => ?_
  simp only [find?_erase]
  grind

end SortedMap

end ControlPlane

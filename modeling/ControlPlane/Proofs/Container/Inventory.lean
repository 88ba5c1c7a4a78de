import ControlPlane.Container.Inventory
import ControlPlane.Proofs.Sorted

/-!
# What the inventory keeps

The lookup laws of the inventory, and what is in its lists.
-/

namespace ControlPlane

/-- The container after it was handed to a writer. -/
def Container.usedAt (c : Container) (now : Instant) : Container := { c with lastUsed := now }

@[simp] theorem Container.usedAt_id (now : Instant) (c : Container) : (c.usedAt now).id = c.id :=
  rfl

theorem SortedMap.insertInto_of_greatest {κ α : Type} [Ranked κ] {k : κ} {a : α}
    {l : List (κ × α)} (h : ∀ r ∈ l, rank r.1 < rank k) : insertInto k a l = l ++ [(k, a)] := by
  induction l with
  | nil => rfl
  | cons c cs ih =>
    have hc := h c List.mem_cons_self
    rw [insertInto, if_neg (by omega), if_neg (by omega),
      ih fun r hr => h r (List.mem_cons_of_mem _ hr), List.cons_append]

namespace Inventory

variable {i : Inventory} {id j : ContainerId} {c : Container}

/-- A container is found under its own identifier. -/
theorem id_of_find? (h : i.find? id = some c) : c.id = id :=
  i.keyed _ (SortedMap.find?_eq_some_iff.1 h)

theorem find?_put : (i.put c).find? id = if c.id = id then some c else i.find? id := by
  simp only [find?, put, SortedMap.find?_insert, rank_inj]

theorem find?_modify {f : Container → Container} {hf} :
    (i.modify id f hf).find? j = if id = j then (i.find? j).map f else i.find? j := by
  simp only [find?, modify, SortedMap.find?_modify, rank_inj]

theorem keys_modify {f : Container → Container} {hf} :
    (i.modify id f hf).containers.keys = i.containers.keys := by
  show (i.containers.rows.map fun row =>
    if rank row.1 = rank id then (row.1, f row.2) else row).map (·.1) = _
  rw [List.map_map]
  refine List.map_congr_left fun row _ => ?_
  rw [Function.comp_apply]
  split <;> rfl

/-- The row of a container with the greatest number goes to the end of the map. -/
theorem rows_put_of_greatest (h : ∀ r ∈ i.containers.rows, rank r.1 < rank c.id) :
    (i.put c).containers.rows = i.containers.rows ++ [(c.id, c)] :=
  SortedMap.insertInto_of_greatest h

theorem keys_put_of_greatest (h : ∀ r ∈ i.containers.rows, rank r.1 < rank c.id) :
    (i.put c).containers.keys = i.containers.keys ++ [c.id] := by
  rw [SortedMap.keys, rows_put_of_greatest h, List.map_append]
  rfl

theorem container_eq_ok_iff : i.container id = .ok c ↔ i.find? id = some c := by
  unfold container
  cases i.find? id <;> simp

theorem container_eq_error_iff {err : Error} :
    i.container id = .error err ↔ i.find? id = none ∧ err = .containerNotFound id := by
  unfold container
  cases i.find? id <;> simp [eq_comm]

/-! ## Lists of containers -/

theorem mem_select {family : Option Family} :
    c ∈ i.select family ↔ i.find? c.id = some c ∧ ∀ f ∈ family, c.scheme.family = f := by
  have hmem : c ∈ i.containers.values ↔ i.find? c.id = some c := by
    rw [find?, SortedMap.find?_eq_some_iff]
    constructor
    · intro h
      obtain ⟨⟨id, c⟩, hrow, rfl⟩ := List.mem_map.1 h
      have hid : c.id = id := i.keyed _ hrow
      rwa [hid]
    · exact fun hrow => List.mem_map_of_mem hrow
  rw [select, List.mem_filter, hmem]
  cases family <;> simp

/-- No container is listed twice. -/
theorem select_ids_nodup (i : Inventory) (family : Option Family) :
    ((i.select family).map (·.id)).Nodup := by
  have hids : i.containers.values.map (·.id) = i.containers.keys := by
    rw [SortedMap.values, List.map_map]
    exact List.map_congr_left fun row hrow => i.keyed row hrow
  have hall : (i.containers.values.map (·.id)).Nodup := hids ▸ i.containers.nodup_keys
  exact hall.sublist (List.filter_sublist.map _)

end Inventory

end ControlPlane

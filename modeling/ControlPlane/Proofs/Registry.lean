import ControlPlane.Registry

/-!
# What the registry tells about its nodes

The list of what is known about the nodes has every node of the registry once.  A report
adds the node that it is of, and no other change adds any.
-/

namespace ControlPlane.Registry

variable {r : Registry}

theorem find?_eq_some_iff {id : NodeId} {e : Entry} :
    r.find? id = some e ↔ (id, e) ∈ r.nodes.rows :=
  Table.find?_eq_some_iff

theorem mem_infos {n : NodeInfo} :
    n ∈ r.infos ↔ ∃ e, r.find? n.descriptor.id = some e ∧ e.info = n := by
  simp only [infos, Table.values, List.map_map, List.mem_map, Function.comp_apply,
    find?_eq_some_iff]
  constructor
  · rintro ⟨row, hrow, rfl⟩
    have hid : row.2.descriptor.id = row.1 := r.keyed row hrow
    refine ⟨row.2, ?_, rfl⟩
    show (row.2.descriptor.id, row.2) ∈ r.nodes.rows
    exact hid ▸ hrow
  · rintro ⟨e, he, rfl⟩
    exact ⟨_, he, rfl⟩

theorem infos_ids (r : Registry) : r.infos.map (·.descriptor.id) = r.ids := by
  simp only [infos, ids, Table.values, Table.keys, List.map_map]
  exact List.map_congr_left fun row hrow => r.keyed row hrow

theorem infos_ids_nodup (r : Registry) : (r.infos.map (·.descriptor.id)).Nodup :=
  infos_ids r ▸ r.nodes.nodup_keys

theorem mem_ids_iff_contains {id : NodeId} : id ∈ r.ids ↔ r.contains id = true :=
  Table.contains_iff_mem_keys.symm

/-! ## Reports -/

theorem contains_put {e : Entry} {id : NodeId} :
    (r.put e).contains id = true ↔ e.descriptor.id = id ∨ r.contains id = true := by
  show ((r.nodes.insert e.descriptor.id e).find? id).isSome = true ↔ _
  rw [Table.find?_insert]
  split
  · next hid => exact iff_of_true rfl (.inl hid)
  · next hid => exact (or_iff_right hid).symm

theorem contains_modify {id j : NodeId} {f : Entry → Entry} {hf} :
    (r.modify id f hf).contains j = r.contains j := by
  show ((r.nodes.modify id f).find? j).isSome = (r.nodes.find? j).isSome
  rw [Table.find?_modify]
  split
  · exact Option.isSome_map
  · rfl

theorem contains_setHealth {r' : Registry} {id j : NodeId} {health : Health}
    (h : r.setHealth j health = .ok r') : r'.contains id = r.contains id := by
  unfold setHealth update at h
  cases he : r.entry j with
  | error err => simp [he, Except.map] at h
  | ok e =>
    rw [he] at h
    obtain rfl := Except.ok.inj h
    exact contains_modify

/-- A node is new if it was not known before. -/
theorem report_fst (r : Registry) (n : NodeReport) :
    (r.report n).1 = !r.contains n.descriptor.id := by
  unfold report register add
  cases r.contains n.descriptor.id <;> rfl

theorem contains_report {n : NodeReport} {id : NodeId} :
    (r.report n).2.contains id = true ↔ r.contains id = true ∨ n.descriptor.id = id := by
  unfold report register add
  cases hknown : r.contains n.descriptor.id with
  | true =>
    rw [if_pos rfl]
    dsimp only
    rw [contains_modify]
    refine (or_iff_left_of_imp ?_).symm
    rintro rfl
    exact hknown
  | false =>
    rw [if_neg Bool.false_ne_true]
    dsimp only
    rw [contains_modify, contains_put]
    exact or_comm

theorem modify_modify {id : NodeId} {f : Entry → Entry} {hf} (hagain : ∀ e, f (f e) = f e) :
    (r.modify id f hf).modify id f hf = r.modify id f hf :=
  Registry.ext (Table.modify_modify hagain)

theorem register_of_contains {d : Descriptor} (h : r.contains d.id = true) :
    r.register d = (false, r) := by
  rw [register, add, if_pos h]

/-- A report that comes in twice is of a node that is known by then, and tells the same. -/
theorem report_report (n : NodeReport) : (r.report n).2.report n = (false, (r.report n).2) := by
  have hknown : (r.report n).2.contains n.descriptor.id = true := contains_report.2 (.inr rfl)
  rw [report, register_of_contains hknown]
  exact congrArg (Prod.mk false) (modify_modify fun _ => rfl)

/-- A change that may be made twice in a row. -/
theorem update_update {r' : Registry} {id : NodeId} {f : Entry → Entry} {hf}
    (hagain : ∀ e, f (f e) = f e) (h : r.update id f hf = .ok r') : r'.update id f hf = .ok r' := by
  cases he : r.find? id with
  | none =>
    simp only [update, entry, he] at h
    cases h
  | some e =>
    simp only [update, entry, he] at h
    obtain rfl := Except.ok.inj h
    have hfound : (r.modify id f hf).find? id = some (f e) := by
      show (r.nodes.modify id f).find? id = some (f e)
      rw [Table.find?_modify, if_pos rfl]
      exact congrArg (Option.map f) he
    simp only [update, entry, hfound, Except.map, modify_modify hagain]

end ControlPlane.Registry

import Mathlib.Algebra.GroupWithZero.Nat
import ControlPlane.Proofs.Placement.Spread

/-!
# Members with the least load

The strategy that looks at the load sorts the nodes and takes the first few of them.
Nodes with the same load may come in any order, and what is said of the loads does not
depend on it.

* `take_le_drop` compares what was taken from an ascending list with what is left, and
  `sum_take_le` compares it with any other choice of as many elements.
* `leastLoaded_optimal` reads both off the registry, for the members that placement
  chooses.
-/

namespace ControlPlane.Placement

/-! ## The first few of an ascending list -/

section Ascending

variable {α : Type} {f : α → Nat} {l l' : List α}

theorem take_le_drop {k : Nat} (hl : l.Pairwise fun a b => f a ≤ f b) {a b : α}
    (ha : a ∈ l.take k) (hb : b ∈ l) (hleft : b ∉ l.take k) : f a ≤ f b := by
  rw [← List.take_append_drop k l] at hl hb
  have hdrop : b ∈ l.drop k := (List.mem_append.1 hb).resolve_left hleft
  exact (List.pairwise_append.1 hl).2.2 a ha b hdrop

/-- As many other elements of the list sum up to no less than the first ones. -/
theorem sum_take_le (hl : l.Pairwise fun a b => f a ≤ f b) (h : l'.Sublist l) :
    ((l.take l'.length).map f).sum ≤ (l'.map f).sum := by
  induction l generalizing l' with
  | nil => rw [List.sublist_nil.1 h]; exact Nat.le_refl _
  | cons a l ih =>
    obtain ⟨hfirst, hl⟩ := List.pairwise_cons.1 hl
    cases l' with
    | nil => exact Nat.zero_le _
    | cons b l' =>
      -- The first element of the list is no greater than that of the choice.
      have hab : f a ≤ f b := by
        rcases List.mem_cons.1 (h.subset List.mem_cons_self) with rfl | hb
        · exact Nat.le_refl _
        · exact hfirst b hb
      have hrest : l'.Sublist l := List.Sublist.of_cons_cons h
      rw [List.length_cons, List.take_succ_cons, List.map_cons, List.map_cons, List.sum_cons,
        List.sum_cons]
      exact Nat.add_le_add hab (ih hl hrest)

end Ascending

/-! ## Members of a registry -/

variable {r : Registry} {nodes : List NodeInfo} {d : Demand} {draws : Nat → Nat}
  {members : List NodeId}

theorem byLoad_loads {l : List NodeInfo} (hl : l ⊆ r.infos) :
    ((byLoad l).map (·.descriptor.id)).Pairwise fun id id' => r.loadOf id ≤ r.loadOf id' := by
  refine List.pairwise_map.2 (byLoad_ascending.imp_of_mem fun hn hn' hle => ?_)
  rw [loadOf_of_mem_infos (hl (mem_byLoad.1 hn)), loadOf_of_mem_infos (hl (mem_byLoad.1 hn'))]
  exact hle

/-- The members that are not favoured are the least loaded.  They are as many as there are
places left, in the order of their loads, and none of them hosts more than a node that may
become a member and is left.  No other choice of as many nodes for these places hosts fewer
containers in all. -/
theorem leastLoaded_optimal (hnodes : nodes.Perm r.infos)
    (h : choose .leastLoaded draws nodes d = .ok members) :
    let first := d.leading r
    let added := members.drop first.length
    members = first ++ added ∧ first.length + added.length = d.count ∧
      (added.Pairwise fun id id' => r.loadOf id ≤ r.loadOf id') ∧
      (∀ id ∈ added, ∀ other, r.admits d other = true → other ∉ members →
        r.loadOf id ≤ r.loadOf other) ∧
      ∀ others : List NodeId, others.Nodup → others.length = added.length →
        (∀ id ∈ others, r.admits d id = true ∧ id ∉ first) →
          (added.map r.loadOf).sum ≤ (others.map r.loadOf).sum := by
  intro first added
  let rest := d.others (nodes.filter d.accepts)
  let places := d.count - first.length
  let ranked := (byLoad rest).map (·.descriptor.id)
  have hadded : added = ranked.take places :=
    (drop_leading hnodes h).trans (List.map_take ..)
  have hascending : ranked.Pairwise fun id id' => r.loadOf id ≤ r.loadOf id' :=
    byLoad_loads (others_subset hnodes)
  -- Whoever may become a member and is not favoured is ranked.
  have hranked {id : NodeId} (hadmits : r.admits d id = true) (hid : id ∉ first) :
      id ∈ ranked := by
    obtain ⟨n, hn, rfl⟩ := exists_other hnodes hadmits hid
    exact List.mem_map_of_mem (mem_byLoad.2 hn)
  refine ⟨eq_leading_append hnodes h, length_leading_add hnodes h, hadded ▸ hascending.take, ?_, ?_⟩
  · intro id hid other hadmits hother
    rw [eq_leading_append hnodes h, List.mem_append, not_or] at hother
    have hnot : other ∉ added := hother.2
    rw [hadded] at hid hnot
    exact take_le_drop hascending hid (hranked hadmits hother.1) hnot
  · intro others hnodup hlength hothers
    have hsubperm : others.Subperm ranked :=
      List.subperm_of_subset hnodup fun id hid => hranked (hothers id hid).1 (hothers id hid).2
    obtain ⟨choice, hperm, hsublist⟩ := hsubperm
    have hplaces : added.map r.loadOf = (ranked.take choice.length).map r.loadOf := by
      rw [hperm.length_eq, hlength, hadded, List.length_take, ← List.take_eq_take_min]
    calc (added.map r.loadOf).sum
        = ((ranked.take choice.length).map r.loadOf).sum := by rw [hplaces]
      _ ≤ (choice.map r.loadOf).sum := sum_take_le hascending hsublist
      _ = (others.map r.loadOf).sum := (hperm.map _).sum_nat

namespace Sample

/-- A node on the first rack that hosts some containers. -/
def loaded (n : Nat) (containers : List ContainerId) : Registry.Entry :=
  { host n "/a" with containers := SortedSet.ofList containers }

/-- Four nodes with different loads. -/
def unevenRegistry : Registry :=
  ((((∅ : Registry).put (loaded 1 [⟨1⟩, ⟨2⟩, ⟨3⟩])).put (loaded 2 [⟨1⟩, ⟨2⟩])).put
    (loaded 3 [⟨1⟩])).put (loaded 4 [])

/-- Two members, and the node with the most containers is favoured. -/
def favoringFull : Demand where
  count := 2
  favored := [⟨.ofNat 1⟩]

end Sample

/-- Beside the favoured node the one without containers is chosen. -/
theorem leastLoaded_optimal_sample :
    ∃ members, choose .leastLoaded (fun _ => 0) Sample.unevenRegistry.infos Sample.favoringFull =
      .ok members ∧ members.length = 2 ∧ ⟨.ofNat 4⟩ ∈ members := by
  have hnodes : Sample.unevenRegistry.infos.Perm Sample.unevenRegistry.infos := .refl _
  obtain ⟨members, hchosen⟩ : ∃ members, choose .leastLoaded (fun _ => 0)
      Sample.unevenRegistry.infos Sample.favoringFull = .ok members :=
    ⟨_, choose_eq_ok_iff.2 ⟨by decide, by decide +kernel, rfl⟩⟩
  obtain ⟨hmembers, hlength, -, hleast, -⟩ := leastLoaded_optimal hnodes hchosen
  refine ⟨members, hchosen, length_choose (nodup_ids hnodes) hchosen, ?_⟩
  by_contra hnot
  have hfirst : (Sample.favoringFull.leading Sample.unevenRegistry).length = 1 := by
    decide +kernel
  have hmost : ∀ n ∈ Sample.unevenRegistry.infos, n.descriptor.id ≠ ⟨.ofNat 4⟩ →
      Sample.unevenRegistry.loadOf ⟨.ofNat 4⟩ < Sample.unevenRegistry.loadOf n.descriptor.id := by
    decide +kernel
  -- One more node is chosen, and any but that one hosts more.
  have hcount : Sample.favoringFull.count = 2 := rfl
  rw [hfirst] at hlength hleast
  obtain ⟨id, hid⟩ : ∃ id, id ∈ members.drop 1 := List.exists_mem_of_length_pos (by omega)
  have hmember : id ∈ members := List.mem_of_mem_drop hid
  have hle := hleast id hid ⟨.ofNat 4⟩ (by decide +kernel) hnot
  obtain ⟨n, hn, rfl, -⟩ := accepts_of_choose hchosen hmember
  exact absurd hle (Nat.not_le.2 (hmost n hn fun h => hnot (h ▸ hmember)))

end ControlPlane.Placement

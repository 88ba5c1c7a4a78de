import Mathlib.Data.List.Nodup
import Mathlib.Data.List.Perm.Subperm
import ControlPlane.Placement

/-!
# What placement chooses

Every strategy fills places with different nodes of those it is given, and as
many as it is asked for if there are enough.  Hence the members of a new pipeline
are as many as the scheme needs (`length_choose`), every member is in service,
healthy and not excluded (`accepts_of_choose`), and no node is a member twice
unless it is favoured (`nodup_choose_iff`).
-/

namespace ControlPlane.Placement

variable {strategy : Strategy} {draws : Nat → Nat} {count : Nat} {nodes : List NodeInfo}

/-! ## Values once each -/

theorem nodup_eraseDups {α : Type} [BEq α] [LawfulBEq α] (l : List α) : l.eraseDups.Nodup := by
  generalize hn : l.length = n
  induction n using Nat.strongRecOn generalizing l with
  | _ n ih =>
    cases l with
    | nil => exact .nil
    | cons a as =>
      have hshorter : (as.filter fun b => !b == a).length < n :=
        hn ▸ Nat.lt_succ_of_le (List.length_filter_le _ _)
      rw [List.eraseDups_cons]
      exact List.nodup_cons.2 ⟨by simp [List.mem_eraseDups], ih _ hshorter _ rfl⟩

theorem eraseDups_of_nodup {α : Type} [BEq α] [LawfulBEq α] {l : List α} (h : l.Nodup) :
    l.eraseDups = l := by
  induction l with
  | nil => rfl
  | cons a as ih =>
    obtain ⟨ha, has⟩ := List.nodup_cons.1 h
    have hkeep : as.filter (fun b => !b == a) = as := List.filter_eq_self.2 fun b hb => by
      have hne : b ≠ a := fun e => ha (e ▸ hb)
      simpa using hne
    rw [List.eraseDups_cons, hkeep, ih has]

/-! ## Draws -/

theorem draw_subperm : (draw draws count nodes).Subperm nodes := by
  induction count generalizing nodes with
  | zero => exact List.nil_subperm
  | succ count ih =>
    unfold draw
    dsimp only
    split
    · exact List.nil_subperm
    · next node h =>
      obtain ⟨hlt, rfl⟩ := List.getElem?_eq_some_iff.1 h
      exact ((List.subperm_cons _).2 ih).trans (List.getElem_cons_eraseIdx_perm hlt).subperm

theorem length_draw : (draw draws count nodes).length = min count nodes.length := by
  induction count generalizing nodes with
  | zero => simp [draw]
  | succ count ih =>
    unfold draw
    dsimp only
    split
    · next h =>
      -- The place that is drawn is one of a node unless there is no node.
      have hle := List.getElem?_eq_none_iff.1 h
      have hempty : nodes.length = 0 := by
        refine Nat.eq_zero_of_not_pos fun hpos => ?_
        have := Nat.mod_lt (draws count) hpos
        omega
      simp [hempty]
    · next h =>
      obtain ⟨hlt, rfl⟩ := List.getElem?_eq_some_iff.1 h
      rw [List.length_cons, ih, List.length_eraseIdx_of_lt hlt]
      omega

/-! ## Turns over the racks -/

theorem byLoad_perm : (byLoad nodes).Perm nodes := List.mergeSort_perm _ _

theorem byLoad_ascending :
    (byLoad nodes).Pairwise fun a b => a.containerCount ≤ b.containerCount := by
  refine (List.pairwise_mergeSort ?_ ?_ nodes).imp of_decide_eq_true
  · intro a b c hab hbc
    exact decide_eq_true (Nat.le_trans (of_decide_eq_true hab) (of_decide_eq_true hbc))
  · intro a b
    rw [Bool.or_eq_true, decide_eq_true_eq, decide_eq_true_eq]
    exact Nat.le_total _ _

theorem heads_tails_perm (racks : List (List NodeInfo)) :
    (racks.filterMap List.head? ++ (racks.map List.tail).flatten).Perm racks.flatten := by
  induction racks with
  | nil => exact .rfl
  | cons rack racks ih =>
    cases rack with
    | nil => exact ih
    | cons node rack =>
      simp only [List.filterMap_cons, List.head?_cons, List.map_cons, List.tail_cons,
        List.flatten_cons, List.cons_append]
      exact ((List.perm_append_comm_assoc _ _ _).trans (ih.append_left rack)).cons node

/-- The turns come to an end when the longest rack is used up. -/
theorem rounds_perm {k : Nat} {racks : List (List NodeInfo)}
    (h : ∀ rack ∈ racks, rack.length ≤ k) : (rounds k racks).Perm racks.flatten := by
  induction k generalizing racks with
  | zero =>
    have hempty : racks.flatten = [] := List.flatten_eq_nil_iff.2 fun rack hrack =>
      List.length_eq_zero_iff.1 (Nat.le_zero.1 (h rack hrack))
    rw [hempty]
    exact .rfl
  | succ k ih =>
    have htails : ∀ rack ∈ racks.map List.tail, rack.length ≤ k := by
      intro rack hrack
      obtain ⟨full, hfull, rfl⟩ := List.mem_map.1 hrack
      have := h full hfull
      simp only [List.length_tail]
      omega
    exact ((ih htails).append_left _).trans (heads_tails_perm racks)

/-- Nodes that are parted by name are all there, if every name is. -/
theorem parts_perm {names : List String} (hnames : names.Nodup)
    (h : ∀ n ∈ nodes, n.descriptor.location ∈ names) :
    (names.map fun name =>
      byLoad (nodes.filter fun n => n.descriptor.location == name)).flatten.Perm nodes := by
  induction names generalizing nodes with
  | nil =>
    obtain rfl := List.eq_nil_iff_forall_not_mem.2 fun n hn => List.not_mem_nil (h n hn)
    exact .rfl
  | cons name names ih =>
    obtain ⟨hname, hnames⟩ := List.nodup_cons.1 hnames
    let others := nodes.filter fun n => !n.descriptor.location == name
    -- The later parts do not see the nodes of the first.
    have hparts :
        (names.map fun name => byLoad (nodes.filter fun n => n.descriptor.location == name)) =
          names.map fun name => byLoad (others.filter fun n => n.descriptor.location == name) := by
      refine List.map_congr_left fun name' hname' => congrArg byLoad ?_
      rw [List.filter_filter]
      refine List.filter_congr fun n _ => ?_
      have hne : name' ≠ name := fun e => hname (e ▸ hname')
      by_cases hn : n.descriptor.location = name'
      · simp [hn, hne]
      · simp [hn]
    have hothers : ∀ n ∈ others, n.descriptor.location ∈ names := by
      intro n hn
      obtain ⟨hn, hne⟩ := List.mem_filter.1 hn
      exact (List.mem_cons.1 (h n hn)).resolve_left (by simpa using hne)
    rw [List.map_cons, List.flatten_cons, hparts]
    exact (byLoad_perm.append (ih hnames hothers)).trans (List.filter_append_perm _ _)

theorem spread_perm : (spread nodes).Perm nodes := by
  have hnames :
      (((nodes.map (·.descriptor.location)).eraseDups).mergeSort fun a b => a ≤ b).Nodup :=
    (List.mergeSort_perm _ _).nodup_iff.2 (nodup_eraseDups _)
  refine (rounds_perm fun rack hrack => ?_).trans (parts_perm hnames fun n hn => ?_)
  · obtain ⟨name, -, rfl⟩ := List.mem_map.1 hrack
    rw [byLoad_perm.length_eq]
    exact List.length_filter_le _ _
  · rw [List.mem_mergeSort, List.mem_eraseDups]
    exact List.mem_map_of_mem hn

/-! ## Filling places -/

theorem fill_subperm : (fill strategy draws count nodes).Subperm nodes := by
  cases strategy with
  | random => exact draw_subperm
  | spreadRacks => exact (List.take_sublist _ _).subperm.trans spread_perm.subperm
  | leastLoaded => exact (List.take_sublist _ _).subperm.trans byLoad_perm.subperm

theorem length_fill (h : count ≤ nodes.length) :
    (fill strategy draws count nodes).length = count := by
  cases strategy with
  | random => rw [fill, length_draw, Nat.min_eq_left h]
  | spreadRacks => rw [fill, List.length_take, spread_perm.length_eq, Nat.min_eq_left h]
  | leastLoaded => rw [fill, List.length_take, byLoad_perm.length_eq, Nat.min_eq_left h]

/-! ## Choosing members -/

theorem choose_eq_error_iff {d : Demand} {err : Error} :
    choose strategy draws nodes d = .error err ↔
      d.count = 0 ∧ err = .placement .noMembers ∨
        d.count ≠ 0 ∧ (nodes.filter d.accepts).length < d.count ∧
          err = .placement
            (.tooFewNodes d.count (nodes.filter d.accepts).length d.excluded.eraseDups.length) := by
  unfold choose
  by_cases hcount : d.count = 0
  · simp [hcount, eq_comm]
  · by_cases hfew : (nodes.filter d.accepts).length < d.count
    · simp [hcount, hfew, eq_comm]
    · simp [hcount, hfew]

/-- The nodes that are left when the favoured ones have taken their places. -/
def Demand.others (d : Demand) (available : List NodeInfo) : List NodeInfo :=
  available.filter fun n => !(d.preferred available).contains n.descriptor.id

section Members

variable {d : Demand} {available : List NodeInfo} {members : List NodeId} {id : NodeId}

theorem choose_eq_ok_iff : choose strategy draws nodes d = .ok members ↔
    d.count ≠ 0 ∧ d.count ≤ (nodes.filter d.accepts).length ∧
      d.preferred (nodes.filter d.accepts) ++
        (fill strategy draws (d.count - (d.preferred (nodes.filter d.accepts)).length)
          (d.others (nodes.filter d.accepts))).map (·.descriptor.id) = members := by
  unfold choose
  by_cases hcount : d.count = 0
  · simp [hcount]
  · by_cases henough : d.count ≤ (nodes.filter d.accepts).length
    · have hnot : ¬(nodes.filter d.accepts).length < d.count := Nat.not_lt.2 henough
      simp only [hcount, hnot, henough, if_false, ne_eq, not_false_eq_true, true_and,
        Except.ok.injEq, Demand.others]
    · have hfew : (nodes.filter d.accepts).length < d.count := Nat.lt_of_not_le henough
      simp only [hcount, hfew, henough, if_false, if_true, false_and, and_false, reduceCtorEq]

theorem Demand.length_preferred_le : (d.preferred available).length ≤ d.count :=
  List.length_take_le _ _

theorem Demand.mem_preferred (h : id ∈ d.preferred available) :
    ∃ n ∈ available, n.descriptor.id = id := by
  have hid := (List.mem_filter.1 (List.mem_of_mem_take h)).2
  simpa using hid

/-- The favoured nodes take no more nodes away than places, also if one is named twice. -/
theorem Demand.length_le_others (hids : (available.map (·.descriptor.id)).Nodup) :
    available.length ≤ (d.preferred available).length + (d.others available).length := by
  let taken := available.filter fun n => (d.preferred available).contains n.descriptor.id
  have htaken : taken.length ≤ (d.preferred available).length := by
    have hnodup : (taken.map (·.descriptor.id)).Nodup := hids.sublist (List.filter_sublist.map _)
    have hsubset : taken.map (·.descriptor.id) ⊆ d.preferred available := by
      intro id hid
      obtain ⟨n, hn, rfl⟩ := List.mem_map.1 hid
      simpa using (List.mem_filter.1 hn).2
    simpa using (List.subperm_of_subset hnodup hsubset).length_le
  have hparts : (taken ++ d.others available).length = available.length :=
    (List.filter_append_perm _ _).length_eq
  rw [List.length_append] at hparts
  omega

/-- There are as many members as are asked for. -/
theorem length_choose (hnodes : (nodes.map (·.descriptor.id)).Nodup)
    (h : choose strategy draws nodes d = .ok members) : members.length = d.count := by
  obtain ⟨-, henough, rfl⟩ := choose_eq_ok_iff.1 h
  have hids : ((nodes.filter d.accepts).map (·.descriptor.id)).Nodup :=
    hnodes.sublist (List.filter_sublist.map _)
  have hfirst : (d.preferred (nodes.filter d.accepts)).length ≤ d.count :=
    Demand.length_preferred_le
  have hothers := d.length_le_others hids
  rw [List.length_append, List.length_map, length_fill (by omega)]
  omega

/-- The favoured nodes come first. -/
theorem preferred_prefix (h : choose strategy draws nodes d = .ok members) :
    d.preferred (nodes.filter d.accepts) <+: members := by
  obtain ⟨-, -, rfl⟩ := choose_eq_ok_iff.1 h
  exact List.prefix_append _ _

/-- Every member is a node that may be chosen. -/
theorem accepts_of_choose (h : choose strategy draws nodes d = .ok members) (hid : id ∈ members) :
    ∃ n ∈ nodes, n.descriptor.id = id ∧ d.accepts n = true := by
  obtain ⟨-, -, rfl⟩ := choose_eq_ok_iff.1 h
  have havailable : ∃ n ∈ nodes.filter d.accepts, n.descriptor.id = id := by
    rcases List.mem_append.1 hid with hfirst | hfilled
    · exact Demand.mem_preferred hfirst
    · obtain ⟨n, hn, rfl⟩ := List.mem_map.1 hfilled
      exact ⟨n, (List.mem_filter.1 (fill_subperm.subset hn)).1, rfl⟩
  obtain ⟨n, hn, rfl⟩ := havailable
  obtain ⟨hn, haccepts⟩ := List.mem_filter.1 hn
  exact ⟨n, hn, rfl, haccepts⟩

/-- Other nodes that fill places after the favoured ones are there once each. -/
theorem Demand.nodup_append_fill_iff {places : Nat}
    (hids : (available.map (·.descriptor.id)).Nodup) :
    (d.preferred available ++
        (fill strategy draws places (d.others available)).map (·.descriptor.id)).Nodup ↔
      (d.preferred available).Nodup := by
  have hsub : (fill strategy draws places (d.others available)).Subperm (d.others available) :=
    fill_subperm
  have hfilled :
      ((fill strategy draws places (d.others available)).map (·.descriptor.id)).Nodup := by
    have hothers : ((d.others available).map (·.descriptor.id)).Nodup :=
      hids.sublist (List.filter_sublist.map _)
    obtain ⟨l, hperm, hl⟩ := hsub
    exact ((hperm.map _).nodup_iff).1 (hothers.sublist (hl.map _))
  have hapart : ∀ id ∈ d.preferred available,
      ∀ id' ∈ (fill strategy draws places (d.others available)).map (·.descriptor.id),
        id ≠ id' := by
    rintro id hid _ hid' rfl
    obtain ⟨n, hn, rfl⟩ := List.mem_map.1 hid'
    have hnot := (List.mem_filter.1 (hsub.subset hn)).2
    simp [hid] at hnot
  exact ⟨fun hall => (List.nodup_append.1 hall).1, fun hfirst =>
    List.nodup_append.2 ⟨hfirst, hfilled, hapart⟩⟩

/-- No member but a favoured one can be a member twice. -/
theorem nodup_choose_iff (hnodes : (nodes.map (·.descriptor.id)).Nodup)
    (h : choose strategy draws nodes d = .ok members) :
    members.Nodup ↔ (d.preferred (nodes.filter d.accepts)).Nodup := by
  obtain ⟨-, -, rfl⟩ := choose_eq_ok_iff.1 h
  exact Demand.nodup_append_fill_iff (hnodes.sublist (List.filter_sublist.map _))

end Members

/-- Members chosen without favour are different nodes that may be chosen, as many
as are asked for. -/
theorem of_choose_eq_ok {excluded members : List NodeId}
    (hnodes : (nodes.map (·.descriptor.id)).Nodup)
    (h : choose strategy draws nodes { count, excluded } = .ok members) :
    members.length = count ∧ members.Nodup ∧
      ∀ id ∈ members, ∃ n ∈ nodes, n.descriptor.id = id ∧ n.status.isEligible = true ∧
        id ∉ excluded := by
  have hnone (available : List NodeInfo) :
      Demand.preferred { count, excluded } available = [] := List.take_nil
  refine ⟨length_choose hnodes h, (nodup_choose_iff hnodes h).2 ?_, fun id hid => ?_⟩
  · rw [hnone]
    exact .nil
  · obtain ⟨n, hn, rfl, haccepts⟩ := accepts_of_choose h hid
    simp only [Demand.accepts, Bool.and_eq_true, Bool.not_eq_true'] at haccepts
    exact ⟨n, hn, rfl, haccepts.1, by simpa using haccepts.2⟩

end ControlPlane.Placement

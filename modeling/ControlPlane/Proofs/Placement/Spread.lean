import ControlPlane.Proofs.Placement.Favor

/-!
# Members spread over the racks

The strategy that spreads members goes over the racks in turns and may stop in the middle
of a turn.  What it takes is even all the same.

* `onRack` are the nodes of a rack.  One turn takes the first node of every rack that has
  one (`onRack_heads`), and the numbers that several turns take of two racks differ by one
  at most (`exists_turns`).
* `Even` says so of the nodes that were taken, of each rack the least loaded first.
  `even_take_spread` is the strategy, the lemmas below compare what was taken with what is
  left, and `exists_mem_before` looks at the order in which it was taken.
* `spread_balanced` reads it off the registry, for the members that placement chooses.
-/

namespace ControlPlane

/-- The rack of a node, if it is registered. -/
def Registry.rackOf (r : Registry) (id : NodeId) : Option String :=
  (r.find? id).map (·.descriptor.location)

/-- The number of containers that a node hosts; none if it is not registered. -/
def Registry.loadOf (r : Registry) (id : NodeId) : Nat := (r.find? id).elim 0 (·.containers.size)

/-- How many of some nodes are on a rack. -/
def Registry.share (r : Registry) (ids : List NodeId) (rack : Option String) : Nat :=
  ids.countP fun id => r.rackOf id == rack

namespace Placement

variable {names : List String} {name : String} {part : String → List NodeInfo}
  {nodes l l' : List NodeInfo} {n n' : NodeInfo} {count : Nat}

/-! ## Racks -/

/-- The nodes of a rack. -/
def onRack (name : String) (nodes : List NodeInfo) : List NodeInfo :=
  nodes.filter fun n => n.descriptor.location == name

@[simp] theorem mem_onRack :
    n ∈ onRack name nodes ↔ n ∈ nodes ∧ n.descriptor.location = name := by
  simp [onRack]

theorem onRack_append : onRack name (l ++ l') = onRack name l ++ onRack name l' :=
  List.filter_append l l'

theorem onRack_of_forall (h : ∀ n ∈ l, n.descriptor.location = name) : onRack name l = l :=
  List.filter_eq_self.2 fun n hn => beq_iff_eq.2 (h n hn)

theorem onRack_eq_nil (h : ∀ n ∈ l, n.descriptor.location ≠ name) : onRack name l = [] :=
  List.filter_eq_nil_iff.2 fun n hn => mt beq_iff_eq.1 (h n hn)

/-! ## Turns -/

/-- Every part holds nodes of its own rack only. -/
def Parted (part : String → List NodeInfo) : Prop :=
  ∀ name, ∀ n ∈ part name, n.descriptor.location = name

theorem Parted.tail (h : Parted part) : Parted fun name => (part name).tail :=
  fun name n hn => h name n (List.mem_of_mem_tail hn)

/-- One turn takes the first node of a rack, if the rack has one. -/
theorem onRack_heads (hpart : Parted part) (hnames : names.Nodup) (hname : name ∈ names) :
    onRack name ((names.map part).filterMap List.head?) = (part name).take 1 := by
  induction names with
  | nil => exact absurd hname List.not_mem_nil
  | cons first names ih =>
    obtain ⟨hfirst, hnames⟩ := List.nodup_cons.1 hnames
    have hheads : ((first :: names).map part).filterMap List.head? =
        (part first).take 1 ++ (names.map part).filterMap List.head? := by
      rw [List.map_cons, List.filterMap_cons]
      cases part first <;> rfl
    have hmine : ∀ n ∈ (part first).take 1, n.descriptor.location = first :=
      fun n hn => hpart first n (List.mem_of_mem_take hn)
    rw [hheads, onRack_append]
    by_cases hsame : name = first
    · -- The later racks have no node on the first one.
      subst hsame
      have hothers : onRack name ((names.map part).filterMap List.head?) = [] := by
        refine onRack_eq_nil fun n hn => ?_
        obtain ⟨_, hrack, hhead⟩ := List.mem_filterMap.1 hn
        obtain ⟨other, hother, rfl⟩ := List.mem_map.1 hrack
        rw [hpart other n (List.mem_of_head? hhead)]
        exact fun h => hfirst (h ▸ hother)
      rw [hothers, List.append_nil, onRack_of_forall hmine]
    · have hnone : onRack name ((part first).take 1) = [] :=
        onRack_eq_nil fun n hn h => hsame (h.symm.trans (hmine n hn))
      rw [hnone, List.nil_append]
      exact ih hnames ((List.mem_cons.1 hname).resolve_left hsame)

/-- However many nodes are taken in turns, of each rack it is the first few of its nodes,
and for some number of turns it is that number or one more. -/
theorem exists_turns (hpart : Parted part) (hnames : names.Nodup) (k count : Nat) :
    ∃ turns, ∀ name ∈ names, ∃ taken, turns ≤ taken ∧ taken ≤ turns + 1 ∧
      onRack name ((rounds k (names.map part)).take count) = (part name).take taken := by
  induction k generalizing part count with
  | zero => exact ⟨0, fun name _ => ⟨0, Nat.le_refl 0, Nat.zero_le 1, by simp [rounds, onRack]⟩⟩
  | succ k ih =>
    let heads := (names.map part).filterMap List.head?
    have hrounds : rounds (k + 1) (names.map part) =
        heads ++ rounds k (names.map fun name => (part name).tail) := by
      rw [rounds, List.map_map]
      rfl
    rw [hrounds]
    by_cases hcount : count ≤ heads.length
    · -- The first turn is not finished.
      refine ⟨0, fun name hname => ?_⟩
      rw [List.take_append_of_le_length hcount]
      have hprefix : onRack name (heads.take count) <+: (part name).take 1 := by
        rw [← onRack_heads hpart hnames hname]
        exact (List.take_prefix count heads).filter _
      have hone : (onRack name (heads.take count)).length ≤ 1 :=
        hprefix.length_le.trans (List.length_take_le 1 _)
      refine ⟨_, Nat.zero_le _, by omega, (List.prefix_iff_eq_take.1 hprefix).trans ?_⟩
      rw [List.take_take, Nat.min_eq_left hone]
    · obtain ⟨turns, hturns⟩ := ih hpart.tail (count - heads.length)
      refine ⟨turns + 1, fun name hname => ?_⟩
      obtain ⟨taken, hleast, hmost, hrest⟩ := hturns name hname
      refine ⟨taken + 1, by omega, by omega, ?_⟩
      rw [List.take_append, List.take_of_length_le (by omega), onRack_append,
        onRack_heads hpart hnames hname, hrest]
      cases part name <;> simp

/-! ## What is taken and what is left -/

/-- Of each rack the least loaded nodes are taken, as many as of any other rack or one
more, unless the rack has no more of them. -/
def Even (nodes l : List NodeInfo) : Prop :=
  ∃ turns, ∀ name, ∃ taken, turns ≤ taken ∧ taken ≤ turns + 1 ∧
    onRack name l = (byLoad (onRack name nodes)).take taken

theorem mem_byLoad : n ∈ byLoad nodes ↔ n ∈ nodes := List.mem_mergeSort

theorem even_take_spread (nodes : List NodeInfo) (count : Nat) :
    Even nodes ((spread nodes).take count) := by
  let names := ((nodes.map (·.descriptor.location)).eraseDups).mergeSort fun a b => a ≤ b
  have hnames : names.Nodup := (List.mergeSort_perm _ _).nodup_iff.2 (nodup_eraseDups _)
  have hpart : Parted fun name => byLoad (onRack name nodes) :=
    fun name n hn => (mem_onRack.1 (mem_byLoad.1 hn)).2
  obtain ⟨turns, hturns⟩ := exists_turns hpart hnames nodes.length count
  refine ⟨turns, fun name => ?_⟩
  by_cases hname : name ∈ names
  · exact hturns name hname
  · -- There is no such rack.
    have hnone {l : List NodeInfo} (hl : l ⊆ nodes) : onRack name l = [] := by
      refine onRack_eq_nil fun n hn hlocation => hname ?_
      rw [List.mem_mergeSort, List.mem_eraseDups]
      exact List.mem_map.2 ⟨n, hl hn, hlocation⟩
    have htaken : (spread nodes).take count ⊆ nodes :=
      ((List.take_sublist _ _).subperm.trans spread_perm.subperm).subset
    refine ⟨turns, Nat.le_refl _, Nat.le_succ _, ?_⟩
    rw [hnone htaken, hnone (List.Subset.refl nodes), byLoad, List.mergeSort_nil, List.take_nil]

namespace Even

/-- A rack that has a node left gave almost as many as any other. -/
theorem length_le (h : Even nodes l) (hn : n ∈ nodes) (hleft : n ∉ l) (name : String) :
    (onRack name l).length ≤ (onRack n.descriptor.location l).length + 1 := by
  obtain ⟨turns, hturns⟩ := h
  obtain ⟨taken, -, hmost, hrack⟩ := hturns name
  obtain ⟨taken', hleast, -, hrack'⟩ := hturns n.descriptor.location
  have hmore : taken' < (byLoad (onRack n.descriptor.location nodes)).length := by
    by_contra hall
    rw [List.take_of_length_le (Nat.le_of_not_lt hall)] at hrack'
    have hmem : n ∈ onRack n.descriptor.location l := by
      rw [hrack', mem_byLoad, mem_onRack]
      exact ⟨hn, rfl⟩
    exact hleft (mem_onRack.1 hmem).1
  rw [hrack, hrack', List.length_take, List.length_take]
  omega

/-- The nodes that are taken host no more than the nodes of their rack that are left. -/
theorem load_le (h : Even nodes l) (hn : n ∈ l) (hn' : n' ∈ nodes) (hleft : n' ∉ l)
    (hrack : n'.descriptor.location = n.descriptor.location) :
    n.containerCount ≤ n'.containerCount := by
  obtain ⟨turns, hturns⟩ := h
  obtain ⟨taken, -, -, htaken⟩ := hturns n.descriptor.location
  let rack := byLoad (onRack n.descriptor.location nodes)
  have hfirst : n ∈ rack.take taken := by
    rw [← htaken, mem_onRack]
    exact ⟨hn, rfl⟩
  have hlast : n' ∈ rack.drop taken := by
    have hmem : n' ∈ rack := mem_byLoad.2 (mem_onRack.2 ⟨hn', hrack⟩)
    rw [← List.take_append_drop taken rack] at hmem
    refine (List.mem_append.1 hmem).resolve_left fun hmem => hleft ?_
    rw [← htaken] at hmem
    exact (mem_onRack.1 hmem).1
  have hascending : rack.Pairwise fun a b => a.containerCount ≤ b.containerCount :=
    byLoad_ascending
  rw [← List.take_append_drop taken rack] at hascending
  exact (List.pairwise_append.1 hascending).2.2 n hfirst n' hlast

/-- Once a rack gave two nodes, every rack gave one. -/
theorem exists_mem (h : Even nodes l) (htwo : 2 ≤ (onRack name l).length) (hn : n ∈ nodes) :
    ∃ n' ∈ l, n'.descriptor.location = n.descriptor.location := by
  obtain ⟨turns, hturns⟩ := h
  obtain ⟨taken, -, hmost, hrack⟩ := hturns name
  obtain ⟨taken', hleast, -, hrack'⟩ := hturns n.descriptor.location
  rw [hrack, List.length_take] at htwo
  have hsome : 0 < (byLoad (onRack n.descriptor.location nodes)).length :=
    List.length_pos_of_mem (mem_byLoad.2 (mem_onRack.2 ⟨hn, rfl⟩))
  have hgave : 0 < (onRack n.descriptor.location l).length := by
    rw [hrack', List.length_take]
    omega
  obtain ⟨n', hn'⟩ := List.exists_mem_of_length_pos hgave
  exact ⟨n', mem_onRack.1 hn'⟩

end Even

/-- When a rack gives its second node, every rack gave one before. -/
theorem exists_mem_before {before after : List NodeInfo} {m : NodeInfo}
    (hsplit : (spread nodes).take count = before ++ n :: after) (hn' : n' ∈ before)
    (hrack : n'.descriptor.location = n.descriptor.location) (hm : m ∈ nodes) :
    ∃ n₁ ∈ before, n₁.descriptor.location = m.descriptor.location := by
  -- The strategy may as well stop with that node, and what it took until then is even.
  have hstop : before ++ [n] = (spread nodes).take (min (before.length + 1) count) := by
    rw [← List.take_take, hsplit, List.take_append, List.take_of_length_le (by omega)]
    simp
  have htwo : 2 ≤ (onRack n.descriptor.location (before ++ [n])).length := by
    have hone : 0 < (onRack n.descriptor.location before).length :=
      List.length_pos_of_mem (mem_onRack.2 ⟨hn', hrack⟩)
    rw [onRack_append, List.length_append, onRack_of_forall (l := [n]) (by simp)]
    exact Nat.succ_le_succ hone
  have heven : Even nodes (before ++ [n]) := hstop ▸ even_take_spread nodes _
  obtain ⟨n₁, hn₁, hrack₁⟩ := heven.exists_mem htwo hm
  rcases List.mem_append.1 hn₁ with hn₁ | hn₁
  · exact ⟨n₁, hn₁, hrack₁⟩
  · rw [List.mem_singleton.1 hn₁] at hrack₁
    exact ⟨n', hn', hrack.trans hrack₁⟩

/-! ## Members of a registry -/

section Members

variable {r : Registry} {d : Demand} {strategy : Strategy} {draws : Nat → Nat}
  {members : List NodeId} {id : NodeId}

theorem rackOf_of_mem_infos (hn : n ∈ r.infos) :
    r.rackOf n.descriptor.id = some n.descriptor.location := by
  obtain ⟨e, he, rfl⟩ := Registry.mem_infos.1 hn
  rw [Registry.rackOf, he]
  rfl

theorem loadOf_of_mem_infos (hn : n ∈ r.infos) : r.loadOf n.descriptor.id = n.containerCount := by
  obtain ⟨e, he, rfl⟩ := Registry.mem_infos.1 hn
  rw [Registry.loadOf, he]
  rfl

theorem share_of_subset (hl : l ⊆ r.infos) (name : String) :
    r.share (l.map (·.descriptor.id)) (some name) = (onRack name l).length := by
  rw [Registry.share, List.countP_map, onRack, ← List.countP_eq_length_filter]
  refine List.countP_congr fun n hn => ?_
  rw [Function.comp_apply, rackOf_of_mem_infos (hl hn), beq_iff_eq, beq_iff_eq, Option.some.injEq]

/-- A node that may become a member and is not favoured is left to the strategy. -/
theorem exists_other (hnodes : nodes.Perm r.infos) (hadmits : r.admits d id = true)
    (hid : id ∉ d.leading r) : ∃ n ∈ d.others (nodes.filter d.accepts), n.descriptor.id = id := by
  obtain ⟨n, hn, rfl⟩ := exists_available hnodes hadmits
  refine ⟨n, List.mem_filter.2 ⟨hn, ?_⟩, rfl⟩
  rw [preferred_available hnodes]
  simpa using hid

/-- The strategy fills the places that the favoured nodes leave. -/
theorem choose_filled (hnodes : nodes.Perm r.infos)
    (h : choose strategy draws nodes d = .ok members) :
    members = d.leading r ++ (fill strategy draws (d.count - (d.leading r).length)
      (d.others (nodes.filter d.accepts))).map (·.descriptor.id) := by
  obtain ⟨-, -, hmembers⟩ := choose_eq_ok_iff.1 h
  rw [← hmembers, preferred_available hnodes]

theorem drop_leading (hnodes : nodes.Perm r.infos)
    (h : choose strategy draws nodes d = .ok members) :
    members.drop (d.leading r).length = (fill strategy draws (d.count - (d.leading r).length)
      (d.others (nodes.filter d.accepts))).map (·.descriptor.id) := by
  rw [choose_filled hnodes h, List.drop_left]

theorem eq_leading_append (hnodes : nodes.Perm r.infos)
    (h : choose strategy draws nodes d = .ok members) :
    members = d.leading r ++ members.drop (d.leading r).length :=
  (choose_filled hnodes h).trans (congrArg (d.leading r ++ ·) (drop_leading hnodes h).symm)

theorem length_leading_add (hnodes : nodes.Perm r.infos)
    (h : choose strategy draws nodes d = .ok members) :
    (d.leading r).length + (members.drop (d.leading r).length).length = d.count := by
  rw [← List.length_append, ← eq_leading_append hnodes h]
  exact length_choose (nodup_ids hnodes) h

theorem others_subset (hnodes : nodes.Perm r.infos) :
    d.others (nodes.filter d.accepts) ⊆ r.infos := fun _ hn =>
  hnodes.mem_iff.1 (List.mem_filter.1 (List.mem_filter.1 hn).1).1

/-- A node that is left was there for the strategy, and the strategy did not take it. -/
theorem exists_left (hnodes : nodes.Perm r.infos)
    (h : choose strategy draws nodes d = .ok members) (hadmits : r.admits d id = true)
    (hid : id ∉ members) :
    ∃ n ∈ d.others (nodes.filter d.accepts),
      n ∉ fill strategy draws (d.count - (d.leading r).length)
        (d.others (nodes.filter d.accepts)) ∧ n.descriptor.id = id := by
  rw [choose_filled hnodes h, List.mem_append, not_or] at hid
  obtain ⟨n, hn, rfl⟩ := exists_other hnodes hadmits hid.1
  exact ⟨n, hn, fun hfilled => hid.2 (List.mem_map_of_mem hfilled), rfl⟩

/-- The members that are not favoured are spread evenly.  They are as many as there are
places left, and a rack with a node left gave almost as many as any other.  A rack gives its
second node only after every rack gave one that had one to give.  Of one rack no node that
is left hosts less than one that was chosen. -/
theorem spread_balanced (hnodes : nodes.Perm r.infos)
    (h : choose .spreadRacks draws nodes d = .ok members) :
    let first := d.leading r
    let added := members.drop first.length
    let left := fun id => r.admits d id = true ∧ id ∉ members
    members = first ++ added ∧ first.length + added.length = d.count ∧
      (∀ id, left id → ∀ rack,
        r.share added (some rack) ≤ r.share added (r.rackOf id) + 1) ∧
      (∀ before id after, added = before ++ id :: after →
        (∃ id' ∈ before, r.rackOf id' = r.rackOf id) →
          ∀ other, r.admits d other = true → other ∉ first →
            ∃ id' ∈ before, r.rackOf id' = r.rackOf other) ∧
      ∀ id ∈ added, ∀ other, left other → r.rackOf other = r.rackOf id →
        r.loadOf id ≤ r.loadOf other := by
  intro first added left
  let others := d.others (nodes.filter d.accepts)
  let places := d.count - first.length
  let filled := (spread others).take places
  have hadded : added = filled.map (·.descriptor.id) := drop_leading hnodes h
  have hothers : others ⊆ r.infos := others_subset hnodes
  have hspread {count : Nat} : (spread others).take count ⊆ others :=
    ((List.take_sublist _ _).subperm.trans spread_perm.subperm).subset
  have hleft {id : NodeId} (hid : left id) :
      ∃ n ∈ others, n ∉ filled ∧ n.descriptor.id = id := exists_left hnodes h hid.1 hid.2
  have heven : Even others filled := even_take_spread others places
  refine ⟨eq_leading_append hnodes h, length_leading_add hnodes h, ?_, ?_, ?_⟩
  · intro id hid rack
    obtain ⟨n, hn, hnot, rfl⟩ := hleft hid
    have hfilled : filled ⊆ r.infos := List.Subset.trans hspread hothers
    rw [hadded, rackOf_of_mem_infos (hothers hn), share_of_subset hfilled, share_of_subset hfilled]
    exact heven.length_le hn hnot rack
  · rintro before id after hsplit ⟨id', hid', hsame⟩ other hother hfirst
    rw [hadded] at hsplit
    obtain ⟨before, rest, hfilled, rfl, hrest⟩ := List.map_eq_append_iff.1 hsplit
    obtain ⟨n, after, rfl, rfl, -⟩ := List.map_eq_cons_iff.1 hrest
    obtain ⟨n', hn', rfl⟩ := List.mem_map.1 hid'
    obtain ⟨m, hm, rfl⟩ := exists_other hnodes hother hfirst
    have hinfos : before ++ n :: after ⊆ r.infos := hfilled ▸ List.Subset.trans hspread hothers
    have hn : n ∈ r.infos := hinfos (List.mem_append_right _ List.mem_cons_self)
    rw [rackOf_of_mem_infos (hinfos (List.mem_append_left _ hn')), rackOf_of_mem_infos hn] at hsame
    obtain ⟨n₁, hn₁, hrack⟩ := exists_mem_before hfilled hn' (Option.some.inj hsame) hm
    refine ⟨_, List.mem_map_of_mem hn₁, ?_⟩
    rw [rackOf_of_mem_infos (hinfos (List.mem_append_left _ hn₁)),
      rackOf_of_mem_infos (hothers hm), hrack]
  · intro id hid other hother hrack
    obtain ⟨n', hn', hnot, rfl⟩ := hleft hother
    rw [hadded] at hid
    obtain ⟨n, hn, rfl⟩ := List.mem_map.1 hid
    have hinfo : n ∈ r.infos := hothers (hspread hn)
    rw [rackOf_of_mem_infos (hothers hn'), rackOf_of_mem_infos hinfo] at hrack
    rw [loadOf_of_mem_infos hinfo, loadOf_of_mem_infos (hothers hn')]
    exact heven.load_le hn hn' hnot (Option.some.inj hrack)

namespace Sample

/-- Two members, and nobody is favoured. -/
def pair : Demand where
  count := 2

end Sample

/-- Two members are found among three nodes, and the racks give evenly. -/
theorem spread_balanced_sample :
    ∃ members, choose .spreadRacks (fun _ => 0) Sample.registry.infos Sample.pair = .ok members ∧
      members.length = 2 ∧ ∀ id, Sample.registry.admits Sample.pair id = true → id ∉ members →
        ∀ rack, Sample.registry.share members (some rack) ≤
          Sample.registry.share members (Sample.registry.rackOf id) + 1 := by
  have hnodes : Sample.registry.infos.Perm Sample.registry.infos := .refl _
  obtain ⟨members, hchosen⟩ : ∃ members,
      choose .spreadRacks (fun _ => 0) Sample.registry.infos Sample.pair = .ok members :=
    ⟨_, choose_eq_ok_iff.2 ⟨by decide, by decide +kernel, rfl⟩⟩
  obtain ⟨-, -, hshare, -⟩ := spread_balanced hnodes hchosen
  exact ⟨members, hchosen, length_choose (nodup_ids hnodes) hchosen, fun id hadmits hid =>
    hshare id ⟨hadmits, hid⟩⟩

end Members

end Placement

end ControlPlane

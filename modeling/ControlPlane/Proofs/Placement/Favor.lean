import ControlPlane.Proofs.Placement
import ControlPlane.Proofs.Registry
import ControlPlane.Proofs.Session

/-!
# Members and the nodes of the registry

What placement chooses, read off the registry.  The nodes may be met in any order, and the
favoured ones may be any list: with nodes that are not known or not healthy, and with one
node several times.

* `Registry.admits` says which nodes may become members, and `Demand.leading` which of the
  favoured ones take a place.  `preferred_available` and `length_available` find them among
  the nodes that placement meets.
* `choose_complete`.  Members are found if there are enough nodes, and then as many as are
  asked for.
* `members_nodup_iff`.  A favoured node that is named twice is a member twice, and no other
  node is.
-/

namespace ControlPlane

open Placement

/-- May the node become a member?  It has to be registered, in service and healthy, and it
must not be excluded. -/
def Registry.admits (r : Registry) (d : Demand) (id : NodeId) : Bool :=
  (r.find? id).any (·.status.isEligible) && !d.excluded.contains id

/-- The favoured nodes that take a place, in the order in which they were named. -/
def Placement.Demand.leading (d : Demand) (r : Registry) : List NodeId :=
  (d.favored.filter (r.admits d)).take d.count

namespace Placement

variable {r : Registry} {nodes : List NodeInfo} {d : Demand}

/-! ## The nodes that placement meets -/

theorem admits_eq_true_iff {id : NodeId} : r.admits d id = true ↔
    ∃ e, r.find? id = some e ∧ e.status.isEligible = true ∧ id ∉ d.excluded := by
  simp only [Registry.admits, Bool.and_eq_true, Option.any_eq_true, Bool.not_eq_true',
    List.contains_eq_mem, decide_eq_false_iff_not]
  constructor
  · rintro ⟨⟨e, he, heligible⟩, hexcluded⟩
    exact ⟨e, he, heligible, hexcluded⟩
  · rintro ⟨e, he, heligible, hexcluded⟩
    exact ⟨⟨e, he, heligible⟩, hexcluded⟩

theorem admits_of_mem_infos {n : NodeInfo} (hn : n ∈ r.infos) :
    r.admits d n.descriptor.id = d.accepts n := by
  obtain ⟨e, he, rfl⟩ := Registry.mem_infos.1 hn
  simp only [Registry.admits, Demand.accepts, he, Option.any_some]
  rfl

theorem nodup_ids (hnodes : nodes.Perm r.infos) : (nodes.map (·.descriptor.id)).Nodup :=
  (hnodes.map _).nodup_iff.2 r.infos_ids_nodup

theorem length_available (hnodes : nodes.Perm r.infos) :
    (nodes.filter d.accepts).length = (r.ids.filter (r.admits d)).length := by
  have hfilter : r.infos.filter d.accepts =
      r.infos.filter (r.admits d ∘ fun n => n.descriptor.id) :=
    List.filter_congr fun n hn => (admits_of_mem_infos hn).symm
  rw [(hnodes.filter _).length_eq, ← r.infos_ids, List.filter_map, List.length_map, hfilter]

/-- Placement meets every node that may become a member. -/
theorem exists_available (hnodes : nodes.Perm r.infos) {id : NodeId} (h : r.admits d id = true) :
    ∃ n ∈ nodes.filter d.accepts, n.descriptor.id = id := by
  obtain ⟨e, he, -⟩ := admits_eq_true_iff.1 h
  have hid : e.info.descriptor.id = id := r.keyed _ (Registry.find?_eq_some_iff.1 he)
  have hinfo : e.info ∈ r.infos := Registry.mem_infos.2 ⟨e, hid ▸ he, rfl⟩
  refine ⟨e.info, List.mem_filter.2 ⟨hnodes.mem_iff.2 hinfo, ?_⟩, hid⟩
  rw [← admits_of_mem_infos hinfo, hid]
  exact h

theorem preferred_available (hnodes : nodes.Perm r.infos) :
    d.preferred (nodes.filter d.accepts) = d.leading r := by
  refine congrArg (List.take d.count) (List.filter_congr fun id _ => ?_)
  rw [Bool.eq_iff_iff, List.any_eq_true]
  simp only [beq_iff_eq]
  constructor
  · rintro ⟨n, hn, rfl⟩
    obtain ⟨hn, haccepts⟩ := List.mem_filter.1 hn
    exact (admits_of_mem_infos (hnodes.mem_iff.1 hn)).trans haccepts
  · exact exists_available hnodes

/-! ## What is chosen -/

/-- Members are found unless none are asked for or too few nodes may become members.  They are
as many as are asked for, each of them may be a member, and the favoured ones come first. -/
theorem choose_complete (strategy : Strategy) (draws : Nat → Nat) (hnodes : nodes.Perm r.infos)
    (d : Demand) :
    let out := choose strategy draws nodes d
    let short := d.count = 0 ∨ (r.ids.filter (r.admits d)).length < d.count
    ((∃ fault, out = .error (.placement fault)) ↔ short) ∧
      (¬short → ∃ members, out = .ok members ∧ members.length = d.count ∧
        (∀ id ∈ members, r.admits d id = true) ∧ d.leading r <+: members) := by
  intro out short
  have hlength := length_available (d := d) hnodes
  refine ⟨⟨?_, ?_⟩, fun henough => ?_⟩
  · rintro ⟨fault, hfault⟩
    rcases choose_eq_error_iff.1 hfault with ⟨hcount, -⟩ | ⟨-, hfew, -⟩
    · exact .inl hcount
    · exact .inr (hlength ▸ hfew)
  · intro hshort
    by_cases hcount : d.count = 0
    · exact ⟨_, choose_eq_error_iff.2 (.inl ⟨hcount, rfl⟩)⟩
    · have hfew := hshort.resolve_left hcount
      exact ⟨_, choose_eq_error_iff.2 (.inr ⟨hcount, hlength ▸ hfew, rfl⟩)⟩
  · cases hchosen : choose strategy draws nodes d with
    | error err =>
      rcases choose_eq_error_iff.1 hchosen with ⟨hcount, -⟩ | ⟨-, hfew, -⟩
      · exact (henough (.inl hcount)).elim
      · exact (henough (.inr (hlength ▸ hfew))).elim
    | ok members =>
      refine ⟨members, hchosen, length_choose (nodup_ids hnodes) hchosen, fun id hid => ?_, ?_⟩
      · obtain ⟨n, hn, rfl, haccepts⟩ := accepts_of_choose hchosen hid
        exact (admits_of_mem_infos (hnodes.mem_iff.1 hn)).trans haccepts
      · rw [← preferred_available hnodes]
        exact preferred_prefix hchosen

namespace Sample

/-- A node on a rack. -/
def host (n : Nat) (rack : String) : Registry.Entry where
  descriptor := ⟨⟨.ofNat n⟩, "dn", "10.0.0.1", rack⟩
  status := .inServiceHealthy

/-- Three nodes on two racks. -/
def registry : Registry :=
  (((∅ : Registry).put (host 1 "/a")).put (host 2 "/a")).put (host 3 "/b")

/-- The third node is favoured twice, and one is favoured that nobody knows. -/
def favoring : Demand where
  count := 3
  favored := [⟨.ofNat 3⟩, ⟨.ofNat 9⟩, ⟨.ofNat 3⟩]

end Sample

/-- There are enough nodes, also if one of them takes two places. -/
theorem choose_complete_sample :
    Sample.favoring.leading Sample.registry = [⟨.ofNat 3⟩, ⟨.ofNat 3⟩] ∧
      ∃ members, choose .spreadRacks (fun _ => 0) Sample.registry.infos.reverse Sample.favoring =
        .ok members ∧ members.length = 3 ∧
          Sample.favoring.leading Sample.registry <+: members := by
  have hnodes : Sample.registry.infos.reverse.Perm Sample.registry.infos := List.reverse_perm _
  obtain ⟨members, hchosen, hlength, -, hfirst⟩ :=
    (choose_complete .spreadRacks (fun _ => 0) hnodes Sample.favoring).2 (by decide +kernel)
  exact ⟨by decide +kernel, members, hchosen, hlength, hfirst⟩

/-- Whatever the order in which placement meets the nodes, the members that it chooses are
different if and only if no favoured node takes two places.  The same is true of the members
of a pipeline that is made. -/
theorem members_nodup_iff {env : Environment} {s : Session}
    (hroster : (env.roster s.cluster.nodes).Perm s.cluster.nodes.infos) :
    (∀ (strategy : Strategy) (draws : Nat → Nat) (d : Demand) (members : List NodeId),
      choose strategy draws (env.roster s.cluster.nodes) d = .ok members →
        (members.Nodup ↔ (d.leading s.cluster.nodes).Nodup)) ∧
    ∀ (scheme : Scheme) (excluded favored : List NodeId) (p : Pipeline) (s' : Session),
      Session.create env scheme excluded favored s = (.ok p, s') →
        (p.members.Nodup ↔
          (Demand.leading { count := scheme.requiredNodes, excluded, favored }
            s.cluster.nodes).Nodup) := by
  have hchoose (strategy : Strategy) (draws : Nat → Nat) (d : Demand) (members : List NodeId)
      (h : choose strategy draws (env.roster s.cluster.nodes) d = .ok members) :
      members.Nodup ↔ (d.leading s.cluster.nodes).Nodup := by
    rw [← preferred_available hroster]
    exact nodup_choose_iff (nodup_ids hroster) h
  refine ⟨hchoose, fun scheme excluded favored p s' hcreate => ?_⟩
  have hcall := Session.create_outcome env s scheme excluded favored
  rw [hcreate] at hcall
  cases hcall with
  | done hmembers hs => exact hchoose _ _ _ _ hmembers

namespace Sample

def world : Environment where
  now := ⟨60, 0⟩
  newId n := ⟨.ofNat (100 + n)⟩

/-- Makes a pipeline of three members with some nodes favoured. -/
def pipelineFavoring (favored : List NodeId) : Except Error Pipeline × Session :=
  Session.create world (.ratis .three) [] favored { cluster := { nodes := registry } }

end Sample

/-- With the first and the third node favoured, and one that nobody knows, the members of a
pipeline are different. -/
theorem members_nodup_iff_sample :
    let members : List NodeId := [⟨.ofNat 3⟩, ⟨.ofNat 1⟩, ⟨.ofNat 2⟩]
    (Sample.pipelineFavoring [⟨.ofNat 3⟩, ⟨.ofNat 9⟩, ⟨.ofNat 1⟩]).1.toOption.map (·.members) =
      some members ∧ members.Nodup := by
  intro members
  have hmembers : (Sample.pipelineFavoring
      [⟨.ofNat 3⟩, ⟨.ofNat 9⟩, ⟨.ofNat 1⟩]).1.toOption.map (·.members) = some members := by
    decide +kernel
  refine ⟨hmembers, ?_⟩
  cases hmade : Sample.pipelineFavoring [⟨.ofNat 3⟩, ⟨.ofNat 9⟩, ⟨.ofNat 1⟩] with
  | mk res s =>
    rw [hmade] at hmembers
    cases res with
    | error err => cases hmembers
    | ok p =>
      rw [← Option.some.inj hmembers]
      exact ((members_nodup_iff (.refl _)).2 _ _ _ _ _ hmade).2 (by decide +kernel)

/-- A node that is favoured three times is chosen three times, and it is every member of a
pipeline. -/
theorem choose_repeats :
    let same : List NodeId := [⟨.ofNat 1⟩, ⟨.ofNat 1⟩, ⟨.ofNat 1⟩]
    (choose .leastLoaded (fun _ => 0) Sample.registry.infos
        { count := 3, favored := same }).toOption = some same ∧
      (Sample.pipelineFavoring same).1.toOption.map (·.members) = some same ∧ ¬same.Nodup :=
  ⟨by decide +kernel, by decide +kernel, by decide +kernel⟩

end Placement

end ControlPlane

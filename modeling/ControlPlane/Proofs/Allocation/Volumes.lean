import Mathlib.Algebra.Group.Action.Defs
import Mathlib.Algebra.Order.BigOperators.Group.List
import Mathlib.Algebra.Order.Ring.Nat
import ControlPlane.Proofs.Allocation.Request
import ControlPlane.Proofs.Registry.History

/-!
# The volumes behind the limit

How many pipelines may be open grows with the healthy volumes of the nodes that are in
service and healthy.  Each node tells its volumes as a word of 64 bits, and nothing bounds
what it tells.  The registry adds the words up as a word again.

* Sums of words.  `foldlM_addChecked` says that adding words up one by one gives their sum,
  and fails just if this does not fit a word.
* What nodes have told.  `volumesOf` reads the volumes of a node off the calls since it was
  added, and `volumes_after` says that the registry has them once for each node.
* `healthyVolumes_exact_iff`.  The total is exact as long as it fits 64 bits, and the limit
  of pipelines is that of the exact total then.  Where it does not fit there is no total, and
  each request that needs it breaks off.  `healthyVolumes_overflows` is a total that does not
  fit.
-/

namespace ControlPlane.Registry

/-! ## Sums of words -/

theorem foldlM_addChecked (l : List UInt64) (n : UInt64) :
    (l.foldlM addChecked n).map UInt64.toNat =
      if n.toNat + (l.map UInt64.toNat).sum < UInt64.size
        then some (n.toNat + (l.map UInt64.toNat).sum) else none := by
  induction l generalizing n with
  | nil => exact (if_pos n.toNat_lt_size).symm
  | cons m l ih =>
    have hsum : n.toNat + ((m :: l).map UInt64.toNat).sum =
        n.toNat + m.toNat + (l.map UInt64.toNat).sum := by
      rw [List.map_cons, List.sum_cons, Nat.add_assoc]
    rw [List.foldlM_cons, hsum]
    by_cases hfits : n.toNat + m.toNat < UInt64.size
    · have hadd : (n + m).toNat = n.toNat + m.toNat :=
        (UInt64.toNat_add n m).trans (Nat.mod_eq_of_lt hfits)
      rw [addChecked, if_pos hfits]
      exact (ih (n + m)).trans (by rw [hadd])
    · have hmore : ¬n.toNat + m.toNat + (l.map UInt64.toNat).sum < UInt64.size := fun h =>
        hfits (Nat.lt_of_le_of_lt (Nat.le_add_right ..) h)
      rw [addChecked, if_neg hfits, if_neg hmore]
      rfl

/-! ## What nodes have told -/

/-- The healthy volumes of all nodes in service and healthy, as a number. -/
def volumes (r : Registry) : Nat :=
  ((r.select { operation := some .inService, health := some .healthy }).map
    (·.storage.healthyVolumes.toNat)).sum

/-- The volumes that a node adds to the total, and none unless it is in service and
healthy. -/
def Entry.volumes (e : Entry) : Nat :=
  if e.status.operation = .inService ∧ e.status.health = .healthy then
    e.storage.healthyVolumes.toNat
  else 0

/-- The volumes that a node adds to the total, from the last words of the calls since it was
added on its operational state, its health and its storage. -/
def volumesOf (h : List Op) (id : NodeId) : Nat :=
  match h.findSome? (Op.adds? id) with
  | none => 0
  | some (_, status) =>
    let operation := latest (Op.operation? id) (status.operation, status.expiry) (since id h)
    let health := latest (Op.health? id) status.health (since id h)
    if operation.1 = .inService ∧ health = .healthy then
      (latest (Op.storage? id) {} (since id h)).healthyVolumes.toNat
    else 0

variable {r : Registry}

theorem isEligible_iff {s : NodeStatus} :
    s.isEligible = true ↔ s.operation = .inService ∧ s.health = .healthy := by
  simp [NodeStatus.isEligible, NodeStatus.isInService, NodeStatus.isHealthy]

theorem sum_eligible (l : List Entry) :
    ((l.filter (·.status.isEligible)).map (·.storage.healthyVolumes.toNat)).sum =
      (l.map Entry.volumes).sum := by
  induction l with
  | nil => rfl
  | cons e l ih =>
    rw [List.filter_cons, List.map_cons, List.sum_cons, Entry.volumes]
    by_cases heligible : e.status.isEligible = true
    · rw [if_pos heligible, if_pos (isEligible_iff.1 heligible), List.map_cons, List.sum_cons, ih]
    · rw [if_neg heligible, if_neg (mt isEligible_iff.2 heligible), ih, Nat.zero_add]

theorem volumes_eq (r : Registry) : r.volumes = (r.nodes.values.map Entry.volumes).sum := by
  have haccepts (e : Entry) :
      StatusFilter.accepts { operation := some .inService, health := some .healthy }
        e.info.status = e.status.isEligible := by
    rw [Bool.eq_iff_iff, isEligible_iff]
    simp only [StatusFilter.accepts, Entry.info, Option.all_some, Bool.and_eq_true, beq_iff_eq]
    exact and_congr eq_comm eq_comm
  rw [← sum_eligible, volumes, select, infos, List.filter_map, List.map_map]
  exact congrArg (fun l => (List.map _ l).sum) (List.filter_congr fun e _ => haccepts e)

theorem volumes_of_find? (h : List Op) (id : NodeId) :
    ((after h).find? id).elim 0 Entry.volumes = volumesOf h id := by
  have hfind := find?_after h id
  unfold volumesOf
  cases hfirst : h.findSome? (Op.adds? id) with
  | none =>
    rw [hfirst] at hfind
    rw [show (after h).find? id = none from hfind]
    rfl
  | some first =>
    rw [hfirst] at hfind
    obtain ⟨e, he, hrecalls⟩ := hfind
    rw [he, Option.elim_some, Entry.volumes, hrecalls.health, hrecalls.storage]
    dsimp only
    rw [← hrecalls.operation]

/-- The registry has the volumes of every node once. -/
theorem volumes_after (h : List Op) :
    (after h).volumes = ((after h).ids.map (volumesOf h)).sum := by
  rw [volumes_eq, Table.values, ids, Table.keys, List.map_map, List.map_map]
  refine congrArg List.sum (List.map_congr_left fun row hrow => ?_)
  have hfound : (after h).find? row.1 = some row.2 := find?_eq_some_iff.2 hrow
  rw [Function.comp_apply, Function.comp_apply, ← volumes_of_find?, hfound, Option.elim_some]

/-! ## Bounded volumes -/

theorem latest_eq_or {α : Type} (word : Op → Option α) (first : α) (h : List Op) :
    latest word first h = first ∨ ∃ op ∈ h, word op = some (latest word first h) := by
  unfold latest
  cases hlast : (h.filterMap word).getLast? with
  | none => exact .inl rfl
  | some a =>
    obtain ⟨op, hop, hword⟩ := List.mem_filterMap.1 (List.mem_of_getLast? hlast)
    exact .inr ⟨op, hop, hword⟩

theorem volumesOf_le {h : List Op} {most : Nat}
    (hmost : ∀ op ∈ h, ∀ id s, op.storage? id = some s → s.healthyVolumes.toNat ≤ most)
    (id : NodeId) : volumesOf h id ≤ most := by
  have hlatest : (latest (Op.storage? id) {} (since id h)).healthyVolumes.toNat ≤ most := by
    rcases latest_eq_or (Op.storage? id) {} (since id h) with
      hnone | ⟨op, hop, hword⟩
    · rw [hnone]
      exact Nat.zero_le most
    · exact hmost op ((List.dropWhile_suffix _).subset hop) id _ hword
  unfold volumesOf
  split
  · exact Nat.zero_le most
  · dsimp only
    split
    · exact hlatest
    · exact Nat.zero_le most

theorem volumes_le {h : List Op} {most : Nat}
    (hmost : ∀ op ∈ h, ∀ id s, op.storage? id = some s → s.healthyVolumes.toNat ≤ most) :
    (after h).volumes ≤ (after h).size * most := by
  have hsum : ((after h).ids.map (volumesOf h)).sum ≤
      ((after h).ids.map (volumesOf h)).length • most := by
    refine List.sum_le_card_nsmul _ _ fun n hn => ?_
    obtain ⟨id, -, rfl⟩ := List.mem_map.1 hn
    exact volumesOf_le hmost id
  have hlength : ((after h).ids.map (volumesOf h)).length = (after h).size := by
    rw [List.length_map, ids, Table.keys, List.length_map]
    rfl
  rwa [← volumes_after, hlength, smul_eq_mul] at hsum

/-! ## The total -/

theorem toNat_healthyVolumes (r : Registry) : r.healthyVolumes.map UInt64.toNat =
    if r.volumes < UInt64.size then some r.volumes else none := by
  have hwords : (r.nodes.values.filter (·.status.isEligible)).map
      (UInt64.toNat ∘ (·.storage.healthyVolumes)) =
        (r.nodes.values.filter (·.status.isEligible)).map (·.storage.healthyVolumes.toNat) := rfl
  rw [healthyVolumes, foldlM_addChecked, List.map_map, hwords, sum_eligible, ← volumes_eq]
  simp only [UInt64.toNat_zero, Nat.zero_add]

/-- The total is exact, if there is one. -/
theorem healthyVolumes_eq_some_iff {word : UInt64} :
    r.healthyVolumes = some word ↔ word.toNat = r.volumes := by
  have htotal := r.toNat_healthyVolumes
  constructor
  · intro h
    rw [h, Option.map_some] at htotal
    split at htotal
    · exact Option.some.inj htotal
    · cases htotal
  · intro h
    rw [if_pos (h ▸ word.toNat_lt_size), ← h] at htotal
    obtain ⟨word', hword', hsame⟩ := Option.map_eq_some_iff.1 htotal
    rw [hword', UInt64.toNat_inj.1 hsame]

theorem healthyVolumes_eq_none_iff : r.healthyVolumes = none ↔ UInt64.size ≤ r.volumes := by
  have htotal := r.toNat_healthyVolumes
  by_cases hfits : r.volumes < UInt64.size
  · rw [if_pos hfits] at htotal
    obtain ⟨word, hword, -⟩ := Option.map_eq_some_iff.1 htotal
    exact iff_of_false (by rw [hword]; nofun) (Nat.not_le.2 hfits)
  · rw [if_neg hfits, Option.map_eq_none_iff] at htotal
    exact iff_of_true htotal (Nat.le_of_not_lt hfits)

theorem exists_healthyVolumes_iff :
    (∃ word, r.healthyVolumes = some word ∧ word.toNat = r.volumes) ↔
      r.volumes < UInt64.size := by
  constructor
  · rintro ⟨word, -, hword⟩
    exact hword ▸ word.toNat_lt_size
  · intro hfits
    obtain ⟨word, hword⟩ := Option.ne_none_iff_exists'.1
      (mt healthyVolumes_eq_none_iff.1 (Nat.not_le.2 hfits))
    exact ⟨word, hword, healthyVolumes_eq_some_iff.1 hword⟩

/-- The limit cannot be told just if the volumes count for it and do not fit. -/
theorem limit_overflows_iff {a : Allocator} {scheme : Scheme} :
    a.limit r scheme = none ↔ a.Scales scheme ∧ UInt64.size ≤ r.volumes :=
  Allocator.limit_eq_none_iff.trans (and_congr_right' healthyVolumes_eq_none_iff)

theorem limit_of_volumes {a : Allocator} {scheme : Scheme} {word : UInt64}
    (h : word.toNat = r.volumes) : a.limit r scheme =
      some (max (if a.Scales scheme then a.volumeLimit word scheme else 0)
        a.minPipelines.toNat) := by
  unfold Allocator.limit
  split
  · rw [healthyVolumes_eq_some_iff.2 h]
    rfl
  · rw [Nat.zero_max]

/-- The total is exact if and only if it fits 64 bits, and otherwise there is none.  It has
the last words of the nodes, once each.  It fits as long as there are not too many nodes for
the greatest number that one has told.  As long as it fits it bounds the open pipelines of
the schemes that grow with it.  Where it does not fit the limit of such a scheme cannot be
told, and just the requests for one that can be used break off, without having done
anything. -/
theorem healthyVolumes_exact_iff (h : List Op) :
    let r := after h
    ((∃ word, r.healthyVolumes = some word ∧ word.toNat = r.volumes) ↔
        r.volumes < UInt64.size) ∧
      (r.healthyVolumes = none ↔ UInt64.size ≤ r.volumes) ∧
      r.volumes = (r.ids.map (volumesOf h)).sum ∧
      (∀ most, (∀ op ∈ h, ∀ id s, op.storage? id = some s → s.healthyVolumes.toNat ≤ most) →
        r.size * most < UInt64.size →
          ∃ word, r.healthyVolumes = some word ∧ word.toNat = r.volumes) ∧
      ∀ a : Allocator,
        (∀ (scheme : Scheme) (word : UInt64), word.toNat = r.volumes → a.limit r scheme =
          some (max (if a.Scales scheme then a.volumeLimit word scheme else 0)
            a.minPipelines.toNat)) ∧
        (∀ scheme, a.limit r scheme = none ↔ a.Scales scheme ∧ UInt64.size ≤ r.volumes) ∧
        ∀ (env : Environment) (choose : Chooser) (q : Request) (s : Session),
          s.cluster.nodes = r →
            ((a.allocate env choose q s).1 = none ↔ q.scheme.validate = .ok () ∧
              a.Scales q.scheme ∧ UInt64.size ≤ r.volumes) ∧
            ((a.allocate env choose q s).1 = none → (a.allocate env choose q s).2 = s) := by
  intro r
  refine ⟨exists_healthyVolumes_iff, healthyVolumes_eq_none_iff, volumes_after h, ?_,
    fun a => ⟨fun scheme word => limit_of_volumes, fun scheme => limit_overflows_iff, ?_⟩⟩
  · intro most hmost hfits
    exact exists_healthyVolumes_iff.2 (Nat.lt_of_le_of_lt (volumes_le hmost) hfits)
  · intro env choose q s hs
    have hnone : (a.allocate env choose q s).1 = none ↔ q.scheme.validate = .ok () ∧
        a.limit s.cluster.nodes q.scheme = none := Allocator.allocate_eq_none_iff
    rw [hs, limit_overflows_iff] at hnone
    exact ⟨hnone, Allocator.allocate_unchanged⟩

namespace Sample

/-- A report of a node with some healthy volumes and no container. -/
def volumesOn (n : Nat) (healthyVolumes : UInt64) : Op :=
  .report { descriptor := ⟨⟨.ofNat n⟩, "dn", "10.0.0.1", "/rack1"⟩, containers := [],
            storage := { healthyVolumes } }

/-- Half as many volumes as do not fit a word any more. -/
def half : UInt64 := 0x8000000000000000

/-- An allocator that allows a pipeline for each volume, and one at least. -/
def onePerVolume : Allocator := ⟨1, 1.0, 100⟩

end Sample

/-- Few volumes make up a limit, and with too many a request breaks off. -/
theorem healthyVolumes_exact_iff_sample :
    let few := [Sample.volumesOn 1 3, Sample.volumesOn 2 4]
    let many := [Sample.volumesOn 1 Sample.half, Sample.volumesOn 2 Sample.half]
    (∃ word, (after few).healthyVolumes = some word ∧ word.toNat = (after few).volumes) ∧
      Sample.onePerVolume.limit (after few) (.ratis .one) =
        some (max (if Sample.onePerVolume.Scales (.ratis .one)
          then Sample.onePerVolume.volumeLimit 7 (.ratis .one) else 0) 1) ∧
      (Sample.onePerVolume.allocate Allocator.Sample.world (fun _ => none)
        Allocator.Sample.request { cluster := { nodes := after many } }).1 = none := by
  intro few many
  obtain ⟨hexact, -, -, -, hfew⟩ := healthyVolumes_exact_iff few
  obtain ⟨-, -, -, -, hmany⟩ := healthyVolumes_exact_iff many
  have hbreaks := (hmany Sample.onePerVolume).2.2 Allocator.Sample.world (fun _ => none)
    Allocator.Sample.request { cluster := { nodes := after many } } rfl
  exact ⟨hexact.2 (by decide), (hfew Sample.onePerVolume).1 (.ratis .one) 7 (by decide),
    hbreaks.1.2 ⟨rfl, by decide +kernel, by decide +kernel⟩⟩

/-- Two nodes with half of a turn each have no total, although each of them alone has one that
makes up a limit.  So there is no limit either, and a request breaks off. -/
theorem healthyVolumes_overflows :
    let one := after [Sample.volumesOn 1 Sample.half]
    let two := after [Sample.volumesOn 1 Sample.half, Sample.volumesOn 2 Sample.half]
    Sample.onePerVolume.limit one (.ratis .one) = some Sample.half.toNat ∧
      two.volumes = UInt64.size ∧ two.healthyVolumes = none ∧
      Sample.onePerVolume.limit two (.ratis .one) = none ∧
      (Sample.onePerVolume.allocate Allocator.Sample.world (fun _ => none)
        Allocator.Sample.request { cluster := { nodes := two } }).1 = none :=
  ⟨by decide +kernel, by decide +kernel, by decide +kernel, by decide +kernel,
    by decide +kernel⟩

end ControlPlane.Registry

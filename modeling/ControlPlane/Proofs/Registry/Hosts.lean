import ControlPlane.Proofs.Registry.History

/-!
# What the registry knows of containers

The registry knows of the containers on a node what the latest report of the node says.
`Recalls` relates that to all the reports there were: the registry has nothing that was
not reported, and all that was if no node ever left a container out that it had reported
before (`Faithful`).
-/

namespace ControlPlane.Registry

variable {r : Registry} {id : NodeId} {c : ContainerId} {l : List NodeReport} {x : NodeReport}

/-- The node hosts the container, as far as the registry knows. -/
def Hosts (r : Registry) (id : NodeId) (c : ContainerId) : Prop :=
  ∃ e, r.find? id = some e ∧ c ∈ e.containers

theorem hosts_report :
    (r.report x).2.Hosts id c ↔
      if x.descriptor.id = id then c ∈ x.containers else r.Hosts id c := by
  unfold Hosts
  rw [report_snd, find?_modify, find?_register]
  by_cases hid : x.descriptor.id = id
  · obtain ⟨e, he⟩ : ∃ e, enrolled (r.find? id) x.descriptor .inServiceHealthy = some e := by
      cases r.find? id <;> exact ⟨_, rfl⟩
    simp only [hid, if_true, he, Option.map_some, Option.some.injEq, exists_eq_left']
    exact SortedSet.mem_ofList
  · simp only [hid, if_false]

theorem hosts_setHealth {r' : Registry} {j : NodeId} {health : Health}
    (h : r.setHealth j health = .ok r') : r'.Hosts id c ↔ r.Hosts id c := by
  cases hj : r.find? j with
  | none =>
    rw [setHealth, update_of_absent hj] at h
    cases h
  | some e =>
    rw [setHealth, update_of_find? hj] at h
    obtain rfl := Except.ok.inj h
    unfold Hosts
    rw [find?_modify]
    split
    · simp [Option.map_eq_some_iff]
    · rfl

/-- No node left a container out of a report that it had reported before. -/
def Faithful (l : List NodeReport) : Prop :=
  l.Pairwise fun x y => x.descriptor.id = y.descriptor.id → x.containers ⊆ y.containers

/-- The registry knows of containers what some reports told. -/
structure Recalls (l : List NodeReport) (r : Registry) : Prop where
  reported : ∀ id c, r.Hosts id c → ∃ x ∈ l, x.descriptor.id = id ∧ c ∈ x.containers
  hosts : Faithful l → ∀ x ∈ l, ∀ c ∈ x.containers, r.Hosts x.descriptor.id c

theorem recalls_empty : Recalls [] ∅ := by
  refine ⟨fun id c => ?_, nofun⟩
  rintro ⟨e, he, -⟩
  cases he

theorem Faithful.of_snoc (h : Faithful (l ++ [x])) : Faithful l ∧
    ∀ y ∈ l, y.descriptor.id = x.descriptor.id → y.containers ⊆ x.containers := by
  obtain ⟨hl, -, hx⟩ := List.pairwise_append.1 h
  exact ⟨hl, fun y hy => hx y hy x List.mem_cons_self⟩

/-- One report more. -/
theorem Recalls.report (h : r.Recalls l) (x : NodeReport) : (r.report x).2.Recalls (l ++ [x]) := by
  refine ⟨fun id c hhosts => ?_, fun hfaithful y hy c hc => ?_⟩
  · rw [hosts_report] at hhosts
    split at hhosts
    · next hid => exact ⟨x, by simp, hid, hhosts⟩
    · obtain ⟨y, hy, hid, hc⟩ := h.reported id c hhosts
      exact ⟨y, List.mem_append_left _ hy, hid, hc⟩
  · obtain ⟨hbefore, hlater⟩ := hfaithful.of_snoc
    rw [hosts_report]
    split
    · next hid =>
      rcases List.mem_append.1 hy with hy | hy
      · exact hlater y hy hid.symm hc
      · exact List.mem_singleton.1 hy ▸ hc
    · next hid =>
      rcases List.mem_append.1 hy with hy | hy
      · exact h.hosts hbefore y hy c hc
      · exact (hid (by rw [List.mem_singleton.1 hy])).elim

/-- A change that leaves the containers where they are. -/
theorem Recalls.of_hosts {r' : Registry} (h : r.Recalls l)
    (hsame : ∀ id c, r'.Hosts id c ↔ r.Hosts id c) : r'.Recalls l := by
  refine ⟨fun id c hhosts => h.reported id c ((hsame id c).1 hhosts), ?_⟩
  exact fun hfaithful x hx c hc => (hsame _ c).2 (h.hosts hfaithful x hx c hc)

end ControlPlane.Registry

import AgentCohort.Program.Process
import AgentCohort.Proofs.Network.Allocation
import Mathlib.Data.List.Nodup
import Mathlib.Data.List.Perm.Basic

/-!
# Port collisions

Two agents of a cohort never have the same port for messages, and never the same one for
user interfaces, since either kind is consecutive.  But the two ranges are derived from bases
that have nothing to do with each other.  So all ports of an allocation are distinct if and
only if the ranges lie apart; an allocation succeeds whether they do or not.
-/

namespace AgentCohort
namespace Network

open Program (endpointPorts)

/-- Two ranges of ports, one for messages and one for user interfaces, that do not overlap. -/
def EndpointBase.LiesApart (base : EndpointBase) (count : Nat) : Prop :=
  ∀ uiBase, base.baseUiPort? = some uiBase →
    base.basePort.toNat + count ≤ uiBase.toNat ∨ uiBase.toNat + count ≤ base.basePort.toNat

/-- Ranges of the same length have no number in common if and only if one of them ends
before the other one begins. -/
theorem range'_disjoint_iff (left right count : Nat) :
    (∀ number ∈ List.range' left count, ∀ other ∈ List.range' right count, number ≠ other) ↔
      left + count ≤ right ∨ right + count ≤ left := by
  constructor
  · intro distinct
    by_contra overlap
    -- The greater one of the two beginnings lies in both ranges.
    have inLeft : max left right ∈ List.range' left count := List.mem_range'_1.mpr (by omega)
    have inRight : max left right ∈ List.range' right count := List.mem_range'_1.mpr (by omega)
    exact distinct _ inLeft _ inRight rfl
  · intro apart number inLeft other inRight same
    have boundsLeft := List.mem_range'_1.mp inLeft
    have boundsRight := List.mem_range'_1.mp inRight
    omega

/-- The ports of endpoints are those for messages together with those for user interfaces. -/
theorem perm_endpointPorts (endpoints : List Endpoint) :
    (endpoints.flatMap endpointPorts).Perm
      (endpoints.map Endpoint.messagePort ++ endpoints.filterMap Endpoint.uiPort?) := by
  rw [List.filterMap_eq_flatMap_toList]
  exact (List.map_append_flatMap_perm endpoints _ _).symm

theorem pairwise_lt_of_consecutive
    {ports : List UInt16}
    {first count : Nat}
    (consecutive : ports.map UInt16.toNat = List.range' first count) :
    ports.Pairwise (· < ·) := by
  have increasing := consecutive ▸ List.pairwise_lt_range' (s := first) (n := count)
  exact (List.pairwise_map.mp increasing).imp UInt16.lt_iff_toNat_lt.mpr

/-- The ports of either kind that an allocation hands out increase strictly; all of its ports
together are distinct if and only if the ranges of the two kinds lie apart. -/
theorem nodup_endpointPorts_iff_liesApart
    {base : EndpointBase}
    {names : List String}
    {endpoints : List Endpoint}
    (allocated : base.allocate names = .ok endpoints) :
    (endpoints.map Endpoint.messagePort).Pairwise (· < ·) ∧
      (endpoints.filterMap Endpoint.uiPort?).Pairwise (· < ·) ∧
      ((endpoints.flatMap endpointPorts).Nodup ↔ base.LiesApart names.length) := by
  have messages := base.messagePorts_of_allocate allocated
  have interfaces := EndpointBase.uiPorts_of_allocate allocated
  have distinct : (endpoints.flatMap endpointPorts).Nodup ↔
      (List.range' base.basePort.toNat names.length ++
        base.baseUiPort?.elim [] fun uiBase =>
          List.range' uiBase.toNat names.length).Nodup := by
    rw [(perm_endpointPorts endpoints).nodup_iff, ← messages, ← interfaces, ← List.map_append]
    exact (List.nodup_map_iff fun _ _ => UInt16.toNat_inj.mp).symm
  refine ⟨pairwise_lt_of_consecutive messages, ?_, distinct.trans ?_⟩
  · cases ui : base.baseUiPort? with
    | none =>
        rw [ui] at interfaces
        simp [List.map_eq_nil_iff.mp interfaces]
    | some uiBase =>
        rw [ui] at interfaces
        exact pairwise_lt_of_consecutive interfaces
  · cases ui : base.baseUiPort? with
    | none => simp [EndpointBase.LiesApart, ui, List.nodup_range']
    | some uiBase =>
        have apart : base.LiesApart names.length ↔
            base.basePort.toNat + names.length ≤ uiBase.toNat ∨
              uiBase.toNat + names.length ≤ base.basePort.toNat := by
          simp [EndpointBase.LiesApart, ui]
        rw [apart, ← range'_disjoint_iff, Option.elim_some, List.nodup_append]
        simp [List.nodup_range']

/-- Two agents with user interfaces a thousand ports further on. -/
theorem nodup_endpointPorts_farApart :
    EndpointBase.allocate ⟨none, 9001, some 10001⟩ ["a", "b"] =
        .ok [⟨0, 9001, some 10001⟩, ⟨1, 9002, some 10002⟩] ∧
      EndpointBase.LiesApart ⟨none, 9001, some 10001⟩ 2 ∧
      ([9001, 10001, 9002, 10002] : List UInt16).Nodup := by
  have allocated : EndpointBase.allocate ⟨none, 9001, some 10001⟩ ["a", "b"] =
      .ok [⟨0, 9001, some 10001⟩, ⟨1, 9002, some 10002⟩] := rfl
  have apart : EndpointBase.LiesApart ⟨none, 9001, some 10001⟩ 2 := by
    rintro uiBase ⟨⟩
    decide
  exact ⟨allocated, apart, (nodup_endpointPorts_iff_liesApart allocated).2.2.mpr apart⟩

/-- With the next port as the base for user interfaces, the first agent serves its own on the
port on which the second one is to listen. -/
theorem not_nodup_endpointPorts_nextPort :
    EndpointBase.allocate ⟨none, 9001, some 9002⟩ ["a", "b"] =
        .ok [⟨0, 9001, some 9002⟩, ⟨1, 9002, some 9003⟩] ∧
      ¬([⟨0, 9001, some 9002⟩, ⟨1, 9002, some 9003⟩].flatMap endpointPorts).Nodup :=
  ⟨rfl, by decide⟩

end Network
end AgentCohort

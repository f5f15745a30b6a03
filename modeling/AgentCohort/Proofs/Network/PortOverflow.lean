import AgentCohort.Proofs.Network.Allocation
import AgentCohort.Proofs.Results

/-!
# Port overflow

An allocation succeeds if and only if all of its ports fit.  If they do not, it names the first
position that has no endpoint, and of the bases the one for messages wherever its own port is
too large: the other base is to blame only if it alone goes too far.
-/

namespace AgentCohort
namespace Network

theorem offsetPort_eq_ok_iff {base : UInt16} {index : Nat} :
    (∃ port, offsetPort base index = .ok port) ↔ base.toNat + index ≤ 65535 := by
  unfold offsetPort
  split
  · rename_i inRange
    exact ⟨fun _ => inRange, fun _ => ⟨_, rfl⟩⟩
  · rename_i beyond
    exact ⟨nofun, fun inRange => absurd inRange beyond⟩

theorem of_offsetPort_eq_error
    {base : UInt16}
    {index : Nat}
    {failure : Failure}
    (failed : offsetPort base index = .error failure) :
    65535 < base.toNat + index ∧ failure = .portOverflow base index := by
  unfold offsetPort at failed
  split at failed
  · cases failed
  · rename_i beyond
    exact ⟨Nat.lt_of_not_le beyond, (Except.error.inj failed).symm⟩

namespace EndpointBase

/-- One of the ports of a position would lie beyond the last port. -/
def OverflowsAt (base : EndpointBase) (index : Nat) : Prop :=
  65535 < base.basePort.toNat + index ∨
    ∃ uiBase, base.baseUiPort? = some uiBase ∧ 65535 < uiBase.toNat + index

/-- The base that a failure at a position is put down to: the one for messages if its own port
would lie beyond the last port. -/
def Blames (base : EndpointBase) (index : Nat) (blamed : UInt16) : Prop :=
  if 65535 < base.basePort.toNat + index then blamed = base.basePort
  else base.baseUiPort? = some blamed

theorem index_of_endpoint
    {base : EndpointBase}
    {index : Nat}
    {endpoint : Endpoint}
    (derived : base.endpoint index = .ok endpoint) :
    endpoint.index = index := by
  unfold EndpointBase.endpoint at derived
  obtain ⟨messagePort, _, derived⟩ := bind_eq_ok derived
  split at derived
  · cases derived
    rfl
  · obtain ⟨uiPort, _, derived⟩ := bind_eq_ok derived
    cases derived
    rfl

/-- A position has an endpoint if all of its ports fit. -/
theorem not_overflowsAt_of_endpoint
    {base : EndpointBase}
    {index : Nat}
    {endpoint : Endpoint}
    (derived : base.endpoint index = .ok endpoint) :
    ¬base.OverflowsAt index := by
  obtain ⟨message, interface⟩ := ports_of_endpoint derived
  rintro (beyond | ⟨uiBase, given, beyond⟩)
  · have bounded := endpoint.messagePort.toNat_lt
    omega
  · rw [given, Option.map_some, Option.map_eq_some_iff] at interface
    obtain ⟨port, _, same⟩ := interface
    have bounded := port.toNat_lt
    omega

theorem of_endpoint_eq_error
    {base : EndpointBase}
    {index : Nat}
    {failure : Failure}
    (failed : base.endpoint index = .error failure) :
    base.OverflowsAt index ∧
      ∃ blamed, failure = .portOverflow blamed index ∧ base.Blames index blamed := by
  unfold EndpointBase.endpoint at failed
  cases message : offsetPort base.basePort index with
  | error found =>
      rw [message] at failed
      obtain rfl := Except.error.inj failed
      obtain ⟨beyond, rfl⟩ := of_offsetPort_eq_error message
      exact ⟨.inl beyond, _, rfl, by rw [Blames, if_pos beyond]⟩
  | ok messagePort =>
      have inRange := offsetPort_eq_ok_iff.mp ⟨messagePort, message⟩
      rw [message] at failed
      cases ui : base.baseUiPort? with
      | none =>
          rw [ui] at failed
          cases failed
      | some uiBase =>
          rw [ui] at failed
          cases interface : offsetPort uiBase index with
          | ok uiPort =>
              simp only [interface] at failed
              cases failed
          | error found =>
              simp only [interface] at failed
              obtain rfl := Except.error.inj failed
              obtain ⟨beyond, rfl⟩ := of_offsetPort_eq_error interface
              refine ⟨.inr ⟨uiBase, ui, beyond⟩, _, rfl, ?_⟩
              rw [Blames, if_neg (Nat.not_lt_of_le inRange), ui]

/-- An allocation that fails does so at its first position without an endpoint. -/
theorem exists_of_allocate_eq_error
    {base : EndpointBase}
    {names : List String}
    {failure : Failure}
    (failed : base.allocate names = .error failure) :
    ∃ index < names.length, base.endpoint index = .error failure ∧
      ∀ earlier < index, ∃ endpoint, base.endpoint earlier = .ok endpoint := by
  obtain ⟨earlier, entry, later, split, passed, here⟩ := exists_of_mapM_eq_error failed
  have positions : List.range names.length =
      earlier.map Prod.snd ++ entry.2 :: later.map Prod.snd := by
    have all := congrArg (List.map Prod.snd) split
    rwa [List.zipIdx_map_snd, ← List.range_eq_range', List.map_append, List.map_cons] at all
  have bound : earlier.length < names.length := by
    have lengths := congrArg List.length positions
    simp at lengths
    omega
  have place (index : Nat) (inRange : index < names.length) :
      (earlier.map Prod.snd ++ entry.2 :: later.map Prod.snd)[index]? = some index := by
    rw [← positions, List.getElem?_range inRange]
  have position : entry.2 = earlier.length := by
    simpa using place earlier.length bound
  refine ⟨earlier.length, bound, position ▸ here, fun index before => ?_⟩
  have found := place index (Nat.lt_trans before bound)
  rw [List.getElem?_append_left (by simpa using before), List.getElem?_map,
    Option.map_eq_some_iff] at found
  obtain ⟨other, present, rfl⟩ := found
  exact passed other (List.mem_of_getElem? present)

/-- An allocation that fails names the first position that goes too far. -/
theorem exists_first_overflow
    {base : EndpointBase}
    {names : List String}
    {failure : Failure}
    (failed : base.allocate names = .error failure) :
    ∃ index < names.length, base.OverflowsAt index ∧
      (∀ earlier < index, ¬base.OverflowsAt earlier) ∧
      ∃ blamed, failure = .portOverflow blamed index ∧ base.Blames index blamed := by
  obtain ⟨index, inRange, here, before⟩ := exists_of_allocate_eq_error failed
  obtain ⟨overflows, blamed, rfl, blames⟩ := of_endpoint_eq_error here
  refine ⟨index, inRange, overflows, fun earlier order => ?_, blamed, rfl, blames⟩
  obtain ⟨endpoint, derived⟩ := before earlier order
  exact not_overflowsAt_of_endpoint derived

/-- An allocation succeeds if and only if no position goes too far. -/
theorem exists_allocate_eq_ok_iff {base : EndpointBase} {names : List String} :
    (∃ endpoints, base.allocate names = .ok endpoints) ↔
      ∀ index < names.length, ¬base.OverflowsAt index := by
  constructor
  · rintro ⟨endpoints, allocated⟩ index inRange
    rw [← length_of_allocate allocated] at inRange
    exact not_overflowsAt_of_endpoint (endpoint_getElem_of_allocate allocated inRange)
  · intro fits
    cases result : base.allocate names with
    | ok endpoints => exact ⟨endpoints, rfl⟩
    | error failure =>
        obtain ⟨index, inRange, overflows, -⟩ := exists_first_overflow result
        exact absurd overflows (fits index inRange)

/-- No position goes too far if the last one does not. -/
theorem forall_not_overflowsAt_iff {base : EndpointBase} {count : Nat} :
    (∀ index < count, ¬base.OverflowsAt index) ↔ count = 0 ∨
      base.basePort.toNat + count - 1 ≤ 65535 ∧
        ∀ uiBase, base.baseUiPort? = some uiBase → uiBase.toNat + count - 1 ≤ 65535 := by
  constructor
  · intro fits
    rcases Nat.eq_zero_or_pos count with empty | positive
    · exact .inl empty
    · have last := fits (count - 1) (Nat.sub_lt positive Nat.one_pos)
      rw [OverflowsAt, not_or] at last
      refine .inr ⟨by omega, fun uiBase ui => ?_⟩
      have inRange : ¬65535 < uiBase.toNat + (count - 1) :=
        fun beyond => last.2 ⟨uiBase, ui, beyond⟩
      omega
  · rintro (rfl | ⟨message, interface⟩) index inRange overflows
    · exact absurd inRange (Nat.not_lt_zero index)
    · obtain beyond | ⟨uiBase, ui, beyond⟩ := overflows
      · omega
      · have bounded := interface uiBase ui
        omega

/-- An allocation for a number of agents is exact: it succeeds if and only if all ports fit, hands
out the consecutive ports if it does, and otherwise names the first position at which one does
not fit. -/
structure AllocatesExactly
    (base : EndpointBase)
    (count : Nat)
    (result : Except Failure (List Endpoint)) : Prop where
  /-- It succeeds if there are no agents, or if the last ports fit. -/
  accepted : (∃ endpoints, result = .ok endpoints) ↔ count = 0 ∨
    base.basePort.toNat + count - 1 ≤ 65535 ∧
      ∀ uiBase, base.baseUiPort? = some uiBase → uiBase.toNat + count - 1 ≤ 65535
  /-- Each position is given the ports that many places after the bases. -/
  given : ∀ endpoints, result = .ok endpoints → endpoints.length = count ∧
    ∀ index endpoint, endpoints[index]? = some endpoint →
      endpoint.index = index ∧
        endpoint.messagePort.toNat = base.basePort.toNat + index ∧
        endpoint.uiPort?.map UInt16.toNat = base.baseUiPort?.map (·.toNat + index)
  /-- A failure names the first position that goes too far, and the base that is to blame. -/
  refused : ∀ failure, result = .error failure → ∃ index < count,
    base.OverflowsAt index ∧ (∀ earlier < index, ¬base.OverflowsAt earlier) ∧
      ∃ blamed, failure = .portOverflow blamed index ∧ base.Blames index blamed

/-- Allocations are exact, for launch lists of any length. -/
theorem allocatesExactly_allocate (base : EndpointBase) (names : List String) :
    base.AllocatesExactly names.length (base.allocate names) := by
  refine ⟨?_, fun endpoints allocated => ?_, fun failure => exists_first_overflow⟩
  · rw [exists_allocate_eq_ok_iff, forall_not_overflowsAt_iff]
  · refine ⟨length_of_allocate allocated, fun index endpoint found => ?_⟩
    obtain ⟨inRange, rfl⟩ := List.getElem?_eq_some_iff.mp found
    have derived := endpoint_getElem_of_allocate allocated inRange
    exact ⟨index_of_endpoint derived, ports_of_endpoint derived⟩

/-- The second agent has a port for messages but none for its user interface. -/
example : EndpointBase.allocate ⟨none, 9001, some 65535⟩ ["a", "b"] =
    .error (.portOverflow 65535 1) :=
  rfl

end EndpointBase
end Network
end AgentCohort

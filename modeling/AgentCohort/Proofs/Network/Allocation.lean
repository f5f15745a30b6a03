import AgentCohort.Network.Endpoint
import Mathlib.Data.List.Range

/-!
# Allocations

An allocation that succeeds gives every position of the launch list the endpoint of that
position, so its ports are consecutive: those for messages from one base on, and those for
user interfaces, if there are any, from another one on.
-/

namespace AgentCohort
namespace Network

theorem toNat_of_offsetPort
    {base port : UInt16}
    {index : Nat}
    (derived : offsetPort base index = .ok port) :
    port.toNat = base.toNat + index := by
  unfold offsetPort at derived
  split at derived
  · rename_i inRange
    obtain rfl := Except.ok.inj derived
    exact UInt16.toNat_ofNat_of_lt' (Nat.lt_succ_of_le inRange)
  · cases derived

namespace EndpointBase

/-- The endpoint at a position has the ports that many places after the bases. -/
theorem ports_of_endpoint
    {base : EndpointBase}
    {index : Nat}
    {endpoint : Endpoint}
    (derived : base.endpoint index = .ok endpoint) :
    endpoint.messagePort.toNat = base.basePort.toNat + index ∧
      endpoint.uiPort?.map UInt16.toNat = base.baseUiPort?.map (·.toNat + index) := by
  unfold EndpointBase.endpoint at derived
  cases message : offsetPort base.basePort index with
  | error failure =>
      rw [message] at derived
      cases derived
  | ok messagePort =>
      rw [message] at derived
      have messageAt := toNat_of_offsetPort message
      cases ui : base.baseUiPort? with
      | none =>
          rw [ui] at derived
          obtain rfl := Except.ok.inj derived
          exact ⟨messageAt, rfl⟩
      | some uiBase =>
          rw [ui] at derived
          cases interface : offsetPort uiBase index with
          | error failure =>
              simp only [interface] at derived
              cases derived
          | ok uiPort =>
              simp only [interface] at derived
              obtain rfl := Except.ok.inj derived
              exact ⟨messageAt, congrArg some (toNat_of_offsetPort interface)⟩

/-- Each position of the launch list is given its endpoint. -/
theorem map_endpoint_of_allocate
    {base : EndpointBase}
    {names : List String}
    {endpoints : List Endpoint}
    (allocated : base.allocate names = .ok endpoints) :
    (List.range names.length).map base.endpoint = endpoints.map .ok := by
  have general (entries : List (String × Nat)) (results : List Endpoint)
      (mapped : (entries.mapM fun entry => base.endpoint entry.2) = .ok results) :
      (entries.map Prod.snd).map base.endpoint = results.map .ok := by
    induction entries generalizing results with
    | nil =>
        obtain rfl := Except.ok.inj mapped
        rfl
    | cons entry entries inductionHypothesis =>
        rw [List.mapM_cons] at mapped
        cases first : base.endpoint entry.2 with
        | error failure =>
            rw [first] at mapped
            cases mapped
        | ok endpoint =>
            rw [first] at mapped
            cases others : entries.mapM fun entry => base.endpoint entry.2 with
            | error failure =>
                rw [others] at mapped
                cases mapped
            | ok rest =>
                rw [others] at mapped
                obtain rfl := Except.ok.inj mapped
                rw [List.map_cons, List.map_cons, List.map_cons, first,
                  inductionHypothesis rest others]
  have positions := general names.zipIdx endpoints allocated
  rwa [List.zipIdx_map_snd, ← List.range_eq_range'] at positions

section Allocated

variable {base : EndpointBase} {names : List String} {endpoints : List Endpoint}
  (allocated : base.allocate names = .ok endpoints)
include allocated

/-- Every name gets an endpoint. -/
theorem length_of_allocate : endpoints.length = names.length := by
  have same := congrArg List.length (map_endpoint_of_allocate allocated)
  simpa using same.symm

theorem endpoint_getElem_of_allocate
    {index : Nat}
    (inRange : index < endpoints.length) :
    base.endpoint index = .ok endpoints[index] := by
  have given := congrArg (·[index]?) (map_endpoint_of_allocate allocated)
  have known : index < names.length := length_of_allocate allocated ▸ inRange
  simpa [List.getElem?_range known, List.getElem?_eq_getElem inRange] using given

/-- The ports for messages are consecutive. -/
theorem messagePorts_of_allocate :
    (endpoints.map Endpoint.messagePort).map UInt16.toNat =
      List.range' base.basePort.toNat names.length := by
  rw [List.map_map]
  refine List.ext_getElem (by simp [length_of_allocate allocated]) fun index inRange _ => ?_
  rw [List.length_map] at inRange
  have ports := ports_of_endpoint (endpoint_getElem_of_allocate allocated inRange)
  simp [ports.1]

/-- The ports for user interfaces are consecutive, or there are none. -/
theorem uiPorts_of_allocate :
    (endpoints.filterMap Endpoint.uiPort?).map UInt16.toNat =
      base.baseUiPort?.elim [] fun uiBase => List.range' uiBase.toNat names.length := by
  have views : endpoints.map (fun endpoint => endpoint.uiPort?.map UInt16.toNat) =
      (List.range names.length).map fun index => base.baseUiPort?.map (·.toNat + index) := by
    refine List.ext_getElem (by simp [length_of_allocate allocated]) fun index inRange _ => ?_
    rw [List.length_map] at inRange
    have ports := ports_of_endpoint (endpoint_getElem_of_allocate allocated inRange)
    simp [ports.2]
  have joined := congrArg (List.filterMap id) views
  rw [List.filterMap_map, List.filterMap_map] at joined
  rw [List.map_filterMap]
  refine joined.trans ?_
  cases base.baseUiPort? with
  | none => simp
  | some uiBase => simp [List.range'_eq_map_range]

end Allocated
end EndpointBase

end Network
end AgentCohort

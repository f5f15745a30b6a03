import AgentCohort.Proofs.Agent.Hosting
import Mathlib.Data.List.Perm.Basic

/-!
# The ports of agents

Any number of agents share the ports of one address with others.  A start that fails binds
nothing, one that succeeds binds exactly the ports of the agent, and an agent that nobody has
to wait for has none of them any more, even if a server of it had to be ended.

The first two are about a start in a state in which an agent that was never started has no
server.  The last one is about what an agent is rid of in the stages of its end.
-/

namespace AgentCohort
namespace Agent

/-! ## When ports can be bound -/

namespace Blueprint

theorem refusal?_eq_none_iff
    {binding : Network.Binding}
    (nonzero : binding.port ≠ 0)
    (taken : List UInt16) :
    refusal? (fun _ => true) binding taken = none ↔ binding.port ∉ taken := by
  simp [refusal?, isTaken, nonzero]

/-- The ports of an agent can be bound if they differ and nobody has bound one of them. -/
theorem bindFailure?_eq_none_iff
    {blueprint : Blueprint}
    (nonzero : 0 ∉ blueprint.ports)
    (taken : List UInt16) :
    blueprint.bindFailure? (fun _ => true) taken = none ↔
      blueprint.ports.Nodup ∧ ∀ port ∈ blueprint.ports, port ∉ taken := by
  have messages : blueprint.binding.port ≠ 0 := by
    intro zero
    exact nonzero (by rw [ports, zero]; exact List.mem_cons_self)
  unfold bindFailure?
  cases refused : refusal? (fun _ => true) blueprint.binding taken with
  | some reason =>
      refine iff_of_false (by simp) fun ⟨_, free⟩ => ?_
      have none := (refusal?_eq_none_iff messages taken).mpr (free _ List.mem_cons_self)
      rw [refused] at none
      cases none
  | none =>
      have free := (refusal?_eq_none_iff messages taken).mp refused
      cases userInterface : blueprint.uiPort? with
      | none => simp [uiBinding?, ports, userInterface, free]
      | some port =>
          have positive : port ≠ 0 := by
            rintro rfl
            exact nonzero (by simp [ports, userInterface])
          have second : refusal? (fun _ => true) ⟨blueprint.binding.ip, port⟩
                (blueprint.binding.port :: taken) = none ↔
              port ∉ blueprint.binding.port :: taken := refusal?_eq_none_iff positive _
          have different : blueprint.binding.port ≠ port ↔ ¬port = blueprint.binding.port :=
            ne_comm
          simp [uiBinding?, ports, userInterface, second, free, different]

end Blueprint

namespace Life

/-! ## Ports of one agent -/

theorem boundPorts_of_gone
    {life : Life}
    (gone : ∀ server, (life.server server).isGone = true)
    (blueprint : Blueprint) :
    life.boundPorts blueprint = [] := by
  have silent {state : ServerState} (gone : state.isGone = true) : state.isListening = false := by
    cases state <;> simp_all [ServerState.isGone, ServerState.isListening]
  have messages : life.messageServer.isListening = false := silent (gone .messages)
  have userInterface : life.uiServer.isListening = false := silent (gone .userInterface)
  simp [boundPorts, messages, userInterface]

/-- A start that fails opens no server. -/
theorem boundPorts_start_of_error
    {now : Nat}
    {blueprint : Blueprint}
    {bindFailure? : Option Failure}
    {life : Life}
    {failure : Failure}
    (failed : (life.start now blueprint bindFailure?).2 = .error failure) :
    (life.start now blueprint bindFailure?).1.boundPorts blueprint =
      life.boundPorts blueprint := by
  unfold start at failed ⊢
  split
  · rfl
  · rename_i uncalled
    rw [if_neg uncalled] at failed
    cases bindFailure? with
    | none => cases failed
    | some other =>
        obtain ⟨journal, same⟩ := exists_setStatus now .stopped { life with isStartCalled := true }
        simp only [finish, same]
        rfl

/-- One that succeeds opens all servers. -/
theorem boundPorts_start_of_ok
    {now : Nat}
    {blueprint : Blueprint}
    {bindFailure? : Option Failure}
    {life : Life}
    (succeeded : (life.start now blueprint bindFailure?).2 = .ok ()) :
    (life.start now blueprint bindFailure?).1.boundPorts blueprint = blueprint.ports := by
  obtain ⟨uncalled, rfl⟩ := (start_eq_ok_iff now blueprint bindFailure? life).mp succeeded
  obtain ⟨journal, same⟩ := exists_setStatus now .registering
    { life with
      isStartCalled := true
      startedAt? := some now
      stage := .spawned
      messageServer := .listening 0
      uiServer := if blueprint.uiPort?.isSome then .listening 0 else .absent }
  simp only [start, uncalled, Bool.false_eq_true, if_false, same]
  cases userInterface : blueprint.uiPort? <;>
    simp [boundPorts, Blueprint.ports, userInterface, ServerState.isListening]

/-- An agent that does nothing or has ended has no server. -/
theorem Cleared.gone
    {life : Life}
    (cleared : life.Cleared)
    (settled : life.stage = .idle ∨ life.stage = .ended)
    (server : Server) :
    (life.server server).isGone = true := by
  refine cleared server ?_
  rcases settled with stage | stage <;> rw [stage] <;> rfl

end Life

namespace Host

/-! ## Ports of all agents -/

/-- Another agent in the place of one has its ports in the place of those. -/
theorem exists_boundPorts_setTenant
    {host : Host}
    {index : Nat}
    {tenant : Tenant}
    (found : host.tenants[index]? = some tenant) :
    ∃ before after, host.boundPorts = before ++ tenant.boundPorts ++ after ∧
      ∀ next : Tenant, (host.setTenant index next).boundPorts =
        before ++ next.boundPorts ++ after := by
  obtain ⟨earlier, later, split, replaced⟩ := exists_split_set found
  let others := (if host.isOrchestratorUp then [host.orchestratorPort] else []) ++ host.occupied
  refine ⟨others ++ earlier.flatMap Tenant.boundPorts, later.flatMap Tenant.boundPorts, ?_, ?_⟩
  · rw [boundPorts, split]
    simp [others]
  · intro next
    rw [boundPorts, setTenant, replaced next]
    simp [others]

/-- What holds of the ports of an agent on a host. -/
structure KeepsPorts (host : Host) (index : Nat) (tenant : Tenant) : Prop where
  /-- A start that fails leaves all bound ports as they are. -/
  failed : ∀ failure, (host.start index tenant).2 = .failed failure →
    (host.start index tenant).1.boundPorts = host.boundPorts
  /-- One that succeeds adds the ports of the agent and no others. -/
  started : (host.start index tenant).2 = .done →
    (host.start index tenant).1.boundPorts.Perm
      (tenant.profile.blueprint.ports ++ host.boundPorts)
  /-- It succeeds the first time if the ports differ and nobody has bound one of them. -/
  succeeds : (host.start index tenant).2 = .done ↔
    tenant.life.isStartCalled = false ∧ tenant.profile.blueprint.ports.Nodup ∧
      ∀ port ∈ tenant.profile.blueprint.ports, port ∉ host.boundPorts
  /-- When nobody has to wait for the agent any more, its servers are gone, and with them its
  ports. -/
  joined : tenant.life.isJoinable = true →
    tenant.boundPorts = [] ∧ ∀ server, (tenant.life.server server).isGone = true

/-- Whatever happens to agents that share the ports of an address with each other and with
others, a start that fails binds nothing, one that succeeds binds the ports of the agent, and
an agent that nobody has to wait for has no port. -/
theorem keepsPorts_of_reachable
    {profiles : List Profile}
    {host : Host}
    {index : Nat}
    {tenant : Tenant}
    (reachable : Reachable profiles host)
    (nonzero : ∀ profile ∈ profiles, 0 ∉ profile.blueprint.ports)
    (found : host.tenants[index]? = some tenant) :
    host.KeepsPorts index tenant := by
  have hostSound := reachable.sound
  have present := List.mem_of_getElem? found
  have sound := hostSound.sound tenant present
  have cleared := hostSound.cleared tenant present
  have positive : 0 ∉ tenant.profile.blueprint.ports := by
    refine nonzero tenant.profile ?_
    rw [← hostSound.profiles]
    exact List.mem_map_of_mem present
  obtain ⟨before, after, ports, replaced⟩ := exists_boundPorts_setTenant found
  refine {
    failed := ?failed
    started := ?started
    succeeds := ?succeeds
    joined := ?joined }
  case failed =>
    intro failure failed
    have same := Life.boundPorts_start_of_error
      ((start_eq_failed_iff index tenant host failure).mp failed)
    rw [host_start, replaced, ports]
    exact congrArg (before ++ · ++ after) same
  case started =>
    intro started
    have succeeded := (start_eq_done_iff index tenant host).mp started
    have own := Life.boundPorts_start_of_ok succeeded
    have none : tenant.boundPorts = [] := by
      have uncalled := ((Life.start_eq_ok_iff _ _ _ _).mp succeeded).1
      exact Life.boundPorts_of_gone (cleared.gone (.inl (sound.of_not_started uncalled).1)) _
    rw [host_start, replaced, ports, none, List.append_nil]
    change (before ++ (host.startLife tenant).1.boundPorts tenant.profile.blueprint ++ after).Perm _
    rw [startLife, own, List.append_assoc]
    exact List.perm_append_comm_assoc before _ after
  case succeeds =>
    rw [start_eq_done_iff, startLife, Life.start_eq_ok_iff,
      Blueprint.bindFailure?_eq_none_iff positive]
  case joined =>
    intro joinable
    have settled := (hostSound.staged tenant present).stage_of_isJoinable sound joinable
    exact ⟨Life.boundPorts_of_gone (cleared.gone settled) _, cleared.gone settled⟩

/-- An agent with a user interface, and one that wants its port for messages. -/
def neighbours : List Profile :=
  [⟨⟨"a", ⟨.loopback, 9001⟩, ⟨"o", 1⟩, some 9002⟩, .standard, Service.jsonExtractor⟩,
    ⟨⟨"b", ⟨.loopback, 9002⟩, ⟨"o", 1⟩, none⟩, .standard, Service.jsonExtractor⟩]

/-- The first agent runs. -/
def occupied9002 : Host :=
  (initial .up 1 neighbours).performAll [.start 0]

/-- The second agent could not be started, and the first one has ended its server for messages
because the end of a request was still to come. -/
def brokenOff : Host :=
  (initial .up 1 neighbours).performAll
    [.start 0, .start 1, .hold 0 ⟨"POST", "/messages", none, []⟩, .stop 0, .join 0]

theorem keepsPorts_neighbours :
    (∃ tenant, occupied9002.tenants[1]? = some tenant ∧
      occupied9002.boundPorts = [9001, 9002] ∧ occupied9002.KeepsPorts 1 tenant) ∧
    ∃ tenant, brokenOff.tenants[0]? = some tenant ∧ tenant.life.isJoinable = true ∧
      (2000, .notice (.aborting .messages ⟨2000⟩)) ∈ tenant.life.journal ∧
      brokenOff.KeepsPorts 0 tenant := by
  have reachable (requests : List HostRequest) :
      Reachable neighbours ((initial .up 1 neighbours).performAll requests) :=
    ⟨.up, 1, steps_performAll requests _⟩
  have nonzero : ∀ profile ∈ neighbours, 0 ∉ profile.blueprint.ports := by decide
  refine ⟨⟨_, rfl, rfl, keepsPorts_of_reachable (reachable _) nonzero rfl⟩, ?_⟩
  exact ⟨_, rfl, rfl, by decide, keepsPorts_of_reachable (reachable _) nonzero rfl⟩

end Host
end Agent
end AgentCohort

import AgentCohort.Agent.Host
import AgentCohort.Proofs.Agent.Happenings
import AgentCohort.Proofs.Agent.Stages

/-!
# What can happen on a host

The agents of a host do what agents do, each on its own, while time passes and others bind
and free ports.  Whatever is asked of a host leads to nothing else.  So what holds of every
agent holds of the agents of a host.
-/

namespace AgentCohort
namespace Agent

namespace Host

/-! ## What can happen on a host -/

/-- Something happens on a host: an agent is started, anything else happens to an agent, or
time passes and others bind and free ports. -/
inductive Happens (host : Host) : Host → Prop
  | start
      {index : Nat}
      {tenant : Tenant}
      (found : host.tenants[index]? = some tenant) :
      Happens host (host.start index tenant).1
  | does
      {index : Nat}
      {tenant : Tenant}
      {happening : Happening}
      {life : Life}
      (found : host.tenants[index]? = some tenant)
      (other : happening.start? = none)
      (does : Life.Does tenant.profile tenant.life happening life) :
      Happens host (host.setTenant index { tenant with life := life })
  | others
      (now : Nat)
      (link : Link)
      (isOrchestratorUp : Bool)
      (occupied : List UInt16)
      (held : List HeldRequest) :
      Happens host
        { host with
          now := now
          link := link
          isOrchestratorUp := isOrchestratorUp
          occupied := occupied
          held := held }

/-- Any number of happenings. -/
abbrev Steps : Host → Host → Prop :=
  Relation.ReflTransGen Happens

/-- A host that one with agents that nobody has started can become. -/
def Reachable (profiles : List Profile) (host : Host) : Prop :=
  ∃ link orchestratorPort, Steps (initial link orchestratorPort profiles) host

/-! ## Starts -/

/-- What a start makes of an agent, and what is told to the one who starts it. -/
def startLife (tenant : Tenant) (host : Host) : Life × Except Failure Unit :=
  tenant.life.start host.now tenant.profile.blueprint
    (tenant.profile.blueprint.bindFailure? (fun _ => true) host.boundPorts)

theorem host_start (index : Nat) (tenant : Tenant) (host : Host) :
    (host.start index tenant).1 =
      host.setTenant index { tenant with life := (host.startLife tenant).1 } := by
  unfold start startLife
  dsimp only
  split <;> rfl

theorem start_eq_done_iff (index : Nat) (tenant : Tenant) (host : Host) :
    (host.start index tenant).2 = .done ↔ (host.startLife tenant).2 = .ok () := by
  unfold start startLife
  dsimp only
  split
  · rename_i succeeded
    exact iff_of_true rfl succeeded
  · rename_i failed
    rw [failed]
    simp

theorem start_eq_failed_iff
    (index : Nat)
    (tenant : Tenant)
    (host : Host)
    (failure : Failure) :
    (host.start index tenant).2 = .failed failure ↔
      (host.startLife tenant).2 = .error failure := by
  unfold start startLife
  dsimp only
  split
  · rename_i succeeded
    rw [succeeded]
    simp
  · rename_i failed
    rw [failed]
    simp

/-! ## Agents on a host -/

/-- The list around one of its entries. -/
theorem exists_split_set
    {entries : List α}
    {index : Nat}
    {entry : α}
    (found : entries[index]? = some entry) :
    ∃ before after, entries = before ++ entry :: after ∧
      ∀ other, entries.set index other = before ++ other :: after := by
  obtain ⟨inside, rfl⟩ := List.getElem?_eq_some_iff.mp found
  refine ⟨entries.take index, entries.drop (index + 1), ?_, fun other => ?_⟩
  · rw [List.getElem_cons_drop, List.take_append_drop]
  · rw [List.set_eq_take_append_cons_drop, if_pos inside]

/-- The agents are what they were made from, and each of them is as an agent is. -/
structure Sound (profiles : List Profile) (host : Host) : Prop where
  /-- Nobody has changed what an agent is made from. -/
  profiles : host.tenants.map Tenant.profile = profiles
  /-- The status of each one fits what it is doing. -/
  sound : ∀ tenant ∈ host.tenants, tenant.life.Sound
  /-- So do its flags. -/
  staged : ∀ tenant ∈ host.tenants, tenant.life.Staged
  /-- So do its servers. -/
  cleared : ∀ tenant ∈ host.tenants, tenant.life.Cleared

theorem sound_initial (link : Link) (orchestratorPort : UInt16) (profiles : List Profile) :
    (initial link orchestratorPort profiles).Sound profiles := by
  have fresh : ∀ tenant ∈ (initial link orchestratorPort profiles).tenants,
      tenant.life = .initial := by
    intro tenant present
    obtain ⟨profile, _, rfl⟩ := List.mem_map.mp present
    rfl
  refine ⟨?_, fun tenant present => ?_, fun tenant present => ?_, fun tenant present => ?_⟩
  · simp [initial, Function.comp_def]
  · rw [fresh tenant present]
    exact Life.sound_initial
  · rw [fresh tenant present]
    exact Life.staged_initial
  · rw [fresh tenant present]
    exact Life.cleared_initial

namespace Sound

variable {profiles : List Profile}
variable {host : Host}

/-- Something happens to one of the agents. -/
theorem setTenant
    {index : Nat}
    {tenant : Tenant}
    {life : Life}
    (sound : host.Sound profiles)
    (found : host.tenants[index]? = some tenant)
    (happens : life = tenant.life ∨ Life.Happens tenant.profile tenant.life life) :
    (host.setTenant index { tenant with life := life }).Sound profiles := by
  have present := List.mem_of_getElem? found
  have before := sound.sound tenant present
  have after : life.Sound ∧ life.Staged ∧ life.Cleared := by
    rcases happens with rfl | happens
    · exact ⟨before, sound.staged tenant present, sound.cleared tenant present⟩
    · exact ⟨happens.sound before, happens.staged before (sound.staged tenant present),
        happens.cleared (sound.cleared tenant present)⟩
  have each {Holds : Tenant → Prop}
      (old : ∀ other ∈ host.tenants, Holds other)
      (new : Holds { tenant with life := life }) :
      ∀ other ∈ host.tenants.set index { tenant with life := life }, Holds other := by
    intro other among
    rcases List.mem_or_eq_of_mem_set among with kept | rfl
    · exact old other kept
    · exact new
  refine ⟨?_, each sound.sound after.1, each sound.staged after.2.1, each sound.cleared after.2.2⟩
  obtain ⟨before, after, split, replaced⟩ := exists_split_set found
  have same := sound.profiles
  rw [split] at same
  change (host.tenants.set index { tenant with life := life }).map Tenant.profile = profiles
  rw [replaced, ← same]
  simp

theorem happens
    {next : Host}
    (sound : host.Sound profiles)
    (happens : Happens host next) :
    next.Sound profiles := by
  cases happens with
  | @start index tenant found =>
      rw [host_start]
      exact sound.setTenant found (.inr (.start host.now _))
  | does found _ does => exact sound.setTenant found does.happens
  | others now link isOrchestratorUp occupied held =>
      exact ⟨sound.profiles, sound.sound, sound.staged, sound.cleared⟩

end Sound

theorem Reachable.sound
    {profiles : List Profile}
    {host : Host}
    (reachable : Reachable profiles host) :
    host.Sound profiles := by
  obtain ⟨link, orchestratorPort, steps⟩ := reachable
  induction steps with
  | refl => exact sound_initial link orchestratorPort profiles
  | tail _ happens inductionHypothesis => exact inductionHypothesis.happens happens

/-! ## What is asked of a host -/

theorem happens_move
    {host : Host}
    {index : Nat}
    {tenant next : Tenant}
    {move : Move}
    (found : host.tenants[index]? = some tenant)
    (possible : tenant.step? host.now move = some next) :
    Happens host (host.setTenant index next) := by
  obtain ⟨life, moved, rfl⟩ := Option.map_eq_some_iff.mp possible
  exact .does found rfl (.move host.now move moved)

theorem happens_step?
    {host next : Host}
    (possible : host.step? = some next) :
    Happens host next := by
  obtain ⟨index, _, stepped⟩ := List.exists_of_findSome?_eq_some possible
  simp only [Option.bind_eq_bind, Option.bind_eq_some_iff] at stepped
  obtain ⟨tenant, found, moved, tried, same⟩ := stepped
  obtain rfl := Option.some.inj same
  obtain ⟨move, _, possible⟩ := List.exists_of_findSome?_eq_some tried
  exact happens_move found possible

theorem steps_settle (moves : Nat) (host : Host) : Steps host (host.settle moves) := by
  induction moves generalizing host with
  | zero => exact .refl
  | succ moves inductionHypothesis =>
      unfold settle
      split
      · exact .refl
      · rename_i next possible
        exact .head (happens_step? possible) (inductionHypothesis next)

theorem happens_clock (now : Nat) (host : Host) : Happens host { host with now := now } :=
  .others now host.link host.isOrchestratorUp host.occupied host.held

theorem steps_waitFor (isOver : Host → Bool) (limit fuel : Nat) (host : Host) :
    Steps host (host.waitFor isOver limit fuel) := by
  induction fuel generalizing host with
  | zero => exact .refl
  | succ fuel inductionHypothesis =>
      have settled := steps_settle patience host
      unfold waitFor
      dsimp only
      split
      · exact settled
      · split
        · split
          · exact (settled.tail (happens_clock _ _)).trans (inductionHypothesis _)
          · exact settled.tail (happens_clock _ _)
        · exact settled.tail (happens_clock _ _)

/-- To do something with an agent is to do nothing if there is none. -/
theorem steps_withTenant
    {host : Host}
    {index : Nat}
    {act : Tenant → Host → Host × HostReply}
    (acts : ∀ tenant, host.tenants[index]? = some tenant → Steps host (act tenant host).1) :
    Steps host (host.withTenant index act).1 := by
  unfold withTenant
  split
  · rename_i tenant found
    exact acts tenant found
  · exact .refl

theorem steps_send
    {host : Host}
    {index : Nat}
    {tenant : Tenant}
    (found : host.tenants[index]? = some tenant)
    (server : Server)
    (request : Network.Http.Request) :
    Steps host (host.send index server request tenant).1 := by
  unfold send
  split
  · exact .single (.does found rfl (.answer host.now clock server request))
  · exact .refl

theorem steps_hold
    {host : Host}
    {index : Nat}
    {tenant : Tenant}
    (found : host.tenants[index]? = some tenant)
    (request : Network.Http.Request) :
    Steps host (host.hold index request tenant).1 := by
  unfold hold
  split
  · have held := Happens.does found rfl (.hold .messages)
    exact .tail (.single held) (.others host.now host.link host.isOrchestratorUp host.occupied
      (host.held ++ [⟨index, request⟩]))
  · exact .refl

/-- The request is answered first, and is no longer open after that. -/
theorem steps_finishHeld (host : Host) : Steps host host.finishHeld.1 := by
  unfold finishHeld
  split
  · exact .refl
  · rename_i first rest _
    let fewer := { host with held := rest }
    have taken : Steps host fewer :=
      .single (.others host.now host.link host.isOrchestratorUp host.occupied rest)
    dsimp only
    cases found : host.tenants[first.agent]? with
    | none => exact taken
    | some tenant =>
        cases released : tenant.life.messageServer.release? with
        | none =>
            simp only [Option.bind_eq_bind, Option.bind_some, released, Option.bind_none,
              Option.getD_none]
            exact taken
        | some server =>
            simp only [Option.bind_eq_bind, Option.bind_some, released, Option.pure_def,
              Option.getD_some]
            let answered :=
              (tenant.life.answer host.now clock tenant.profile .messages first.request).1
            have foundFewer : fewer.tenants[first.agent]? = some tenant := found
            have answering : Happens fewer
                (fewer.setTenant first.agent { tenant with life := answered }) :=
              .does foundFewer rfl (.answer host.now clock .messages first.request)
            obtain ⟨inside, _⟩ := List.getElem?_eq_some_iff.mp foundFewer
            have foundAnswered :
                (fewer.setTenant first.agent
                    { tenant with life := answered }).tenants[first.agent]? =
                  some { tenant with life := answered } :=
              List.getElem?_set_self inside
            have stillOpen : (answered.server .messages).release? = some server := by
              obtain ⟨asked, received, status, journal, same⟩ :=
                Life.exists_answer host.now clock tenant.profile .messages first.request
                  tenant.life
              simp only [answered, same]
              exact released
            have releasing := Happens.does foundAnswered rfl (.release .messages stillOpen)
            simp only [setTenant, List.set_set] at releasing
            exact (taken.tail answering).tail releasing

theorem steps_replyToAttempt (status? : Option Nat) (host : Host) :
    Steps host (host.replyToAttempt status?).1 := by
  have waiting : Steps host (host.awaitThat fun host => host.attempting?.isSome) :=
    steps_waitFor _ _ _ host
  unfold replyToAttempt
  dsimp only
  revert waiting
  generalize (host.awaitThat fun host => host.attempting?.isSome) = waited
  intro waiting
  cases attempting : waited.attempting? with
  | none => exact waiting
  | some index =>
      cases found : waited.tenants[index]? with
      | none =>
          simp only [Option.bind_eq_bind, Option.bind_some, found, Option.bind_none,
            Option.getD_none]
          exact waiting
      | some tenant =>
          simp only [Option.bind_eq_bind, Option.bind_some, found, Option.pure_def]
          generalize Move.attemptEnds _ = move
          cases possible : tenant.step? waited.now move with
          | none => exact waiting
          | some next => exact waiting.tail (happens_move found possible)

/-- Whatever is asked of a host leads only to what can happen on it. -/
theorem steps_handle (request : HostRequest) (host : Host) :
    Steps host (host.handle request).1 := by
  cases request with
  | start agent => exact steps_withTenant fun tenant found => .single (.start found)
  | stop agent =>
      exact steps_withTenant fun tenant found => .single (.does found rfl (.stop host.now))
  | join agent => exact steps_waitFor _ _ _ host
  | openOrchestrator =>
      simp only [handle]
      split
      · exact .refl
      · exact .single (.others host.now host.link true host.occupied host.held)
  | replyToAttempt status? => exact steps_replyToAttempt status? host
  | occupy port =>
      simp only [handle]
      split
      · exact .refl
      · exact .single (.others host.now host.link host.isOrchestratorUp (host.occupied ++ [port])
          host.held)
  | release => exact .single (.others host.now host.link host.isOrchestratorUp [] host.held)
  | send agent server request =>
      exact steps_withTenant fun tenant found => steps_send found server request
  | hold agent request => exact steps_withTenant fun tenant found => steps_hold found request
  | finishHeld => exact steps_finishHeld host

theorem steps_perform (request : HostRequest) (host : Host) :
    Steps host (host.perform request).1 :=
  (steps_handle request host).trans (steps_settle patience _)

/-- The host after all that is asked of it. -/
def performAll (requests : List HostRequest) (host : Host) : Host :=
  requests.foldl (fun host request => (host.perform request).1) host

theorem steps_performAll (requests : List HostRequest) (host : Host) :
    Steps host (host.performAll requests) := by
  induction requests generalizing host with
  | nil => exact .refl
  | cons request requests inductionHypothesis =>
      exact (steps_perform request host).trans (inductionHypothesis _)

end Host
end Agent
end AgentCohort

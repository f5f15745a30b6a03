import AgentCohort.Supervision.Run

/-!
# Calm operations

Most operations on the agents deal only with agents that exist already.  They are calm:
they add to the history and may let agents end, but they start nobody and leave the
current cohort alone.  An operation is quiet if it is calm, makes no agent, and does not
touch the record of a force-stop.

Both notions are relations between the state before and the state after.  They compose,
so each operation is calm because its parts are.
-/

namespace AgentCohort
namespace Supervision

namespace Occurrence

/-- Whether an agent is to be made. -/
def isCreation : Occurrence → Bool
  | .create _ => true
  | _ => false

/-- Whether an agent is to be started. -/
def isStart : Occurrence → Bool
  | .start _ => true
  | _ => false

/-- Whether all agents of a cohort have been started. -/
def isCompletion : Occurrence → Bool
  | .event (.cohortStarted ..) => true
  | _ => false

/-- Anything that is not part of a launch. -/
structure IsQuiet (occurrence : Occurrence) : Prop where
  /-- No agent is to be made. -/
  creation : occurrence.isCreation = false
  /-- No agent is to be started. -/
  start : occurrence.isStart = false
  /-- No launch is complete. -/
  completion : occurrence.isCompletion = false

end Occurrence

namespace State

/-! ## Observations -/

/-- What has happened so far, the newest occurrence first. -/
def history (state : State) : List Occurrence :=
  state.journal.map Entry.occurrence

/-- Number of attempts to start an agent. -/
def starts (state : State) (agent : AgentId) : Nat :=
  ((state.member? agent).map Member.starts).getD 0

/-- Whether a start of an agent succeeded. -/
def isLaunched (state : State) (agent : AgentId) : Bool :=
  ((state.member? agent).map Member.isLaunched).getD false

/-- Whether an agent has ended. -/
def hasEnded (state : State) (agent : AgentId) : Bool :=
  ((state.member? agent).map Member.isEnded).getD false

@[simp] theorem history_initial : initial.history = [] := rfl

@[simp] theorem history_note (occurrence : Occurrence) (state : State) :
    (state.note occurrence).history = occurrence :: state.history := rfl

@[simp] theorem member?_note (occurrence : Occurrence) (state : State) (agent : AgentId) :
    (state.note occurrence).member? agent = state.member? agent := rfl

@[simp] theorem starts_note (occurrence : Occurrence) (state : State) (agent : AgentId) :
    (state.note occurrence).starts agent = state.starts agent := rfl

@[simp] theorem isLaunched_note
    (occurrence : Occurrence)
    (state : State)
    (agent : AgentId) :
    (state.note occurrence).isLaunched agent = state.isLaunched agent := rfl

@[simp] theorem hasEnded_note (occurrence : Occurrence) (state : State) (agent : AgentId) :
    (state.note occurrence).hasEnded agent = state.hasEnded agent := rfl

@[simp] theorem history_update
    (agent : AgentId)
    (change : Member → Member)
    (state : State) :
    (state.update agent change).history = state.history := rfl

theorem member?_update
    (agent other : AgentId)
    (change : Member → Member)
    (state : State) :
    (state.update agent change).member? other =
      if agent = other then (state.member? other).map change
      else state.member? other := by
  simp only [member?, update, List.getElem?_modify]
  split <;> simp

/-- A change that keeps a property of the agent keeps that property of all agents. -/
theorem map_member?_update
    {agent : AgentId}
    {change : Member → Member}
    {view : Member → α}
    (kept : ∀ member, view (change member) = view member)
    (state : State)
    (other : AgentId) :
    ((state.update agent change).member? other).map view =
      (state.member? other).map view := by
  rw [member?_update]
  split
  · rw [Option.map_map]
    congr 1
    funext member
    exact kept member
  · rfl

section Update

variable {agent : AgentId} {change : Member → Member}

theorem starts_update
    (kept : ∀ member, (change member).starts = member.starts)
    (state : State)
    (other : AgentId) :
    (state.update agent change).starts other = state.starts other :=
  congrArg (fun found => found.getD 0) (map_member?_update kept state other)

theorem isLaunched_update
    (kept : ∀ member, (change member).isLaunched = member.isLaunched)
    (state : State)
    (other : AgentId) :
    (state.update agent change).isLaunched other = state.isLaunched other :=
  congrArg (fun found => found.getD false) (map_member?_update kept state other)

theorem hasEnded_update
    (kept : ∀ member, (change member).isEnded = member.isEnded)
    (state : State)
    (other : AgentId) :
    (state.update agent change).hasEnded other = state.hasEnded other :=
  congrArg (fun found => found.getD false) (map_member?_update kept state other)

end Update

theorem isAlive_iff {state : State} {agent : AgentId} :
    state.isAlive agent = true ↔
      state.isLaunched agent = true ∧ state.hasEnded agent = false := by
  cases found : state.member? agent <;>
    simp [isAlive, isLaunched, hasEnded, found]

/-- An agent that need not be waited for has ended or was never started. -/
theorem hasEnded_of_isJoinable
    {state : State}
    {agent : AgentId}
    (joinable : state.isJoinable agent = true)
    (started : 0 < state.starts agent) :
    state.hasEnded agent = true := by
  cases found : state.member? agent with
  | none => simp [starts, found] at started
  | some member =>
      simp only [starts, found, Option.map_some, Option.getD_some] at started
      have nonzero : member.starts ≠ 0 := by omega
      simpa [isJoinable, Member.isJoinable, hasEnded, found, nonzero] using joinable

/-! ## Growth -/

/-- The history grows by occurrences of a permitted kind, and accounts for the agents that
end and for the record of a force-stop. -/
structure Grows (Permitted : Occurrence → Prop) (older newer : State) : Prop where
  /-- The history grows by permitted occurrences. -/
  history : ∃ added, newer.history = added ++ older.history ∧
    ∀ occurrence ∈ added, Permitted occurrence
  /-- Agents end for good. -/
  ended : ∀ agent, older.hasEnded agent = true → newer.hasEnded agent = true
  /-- The history tells of the agents that end. -/
  finished : ∀ agent, newer.hasEnded agent = true →
    older.hasEnded agent = true ∨ .finish agent ∈ newer.history
  /-- A force-stop stays recorded. -/
  forceStopped : older.forceStopped = true → newer.forceStopped = true
  /-- The history tells of a force-stop that is recorded. -/
  noticed : newer.forceStopped = true →
    older.forceStopped = true ∨ ∃ cohort, .notice (.forceStop cohort) ∈ newer.history

namespace Grows

variable {Permitted : Occurrence → Prop} {older middle newer : State}

theorem refl (state : State) : Grows Permitted state state where
  history := ⟨[], rfl, by simp⟩
  ended _ ended := ended
  finished _ ended := .inl ended
  forceStopped recorded := recorded
  noticed recorded := .inl recorded

/-- What was in the history stays in it. -/
theorem mem_history
    (grows : Grows Permitted older newer)
    {occurrence : Occurrence}
    (happened : occurrence ∈ older.history) :
    occurrence ∈ newer.history := by
  obtain ⟨added, grown, _⟩ := grows.history
  rw [grown]
  exact List.mem_append_right _ happened

/-- An agent that has not ended had not ended before. -/
theorem hasEnded_eq_false
    (grows : Grows Permitted older newer)
    {agent : AgentId}
    (active : newer.hasEnded agent = false) :
    older.hasEnded agent = false := by
  cases ended : older.hasEnded agent with
  | false => rfl
  | true => exact absurd (grows.ended agent ended) (by simp [active])

/-- What is new in the history is of a permitted kind. -/
theorem mem_history_or
    (grows : Grows Permitted older newer)
    {occurrence : Occurrence}
    (happened : occurrence ∈ newer.history) :
    occurrence ∈ older.history ∨ Permitted occurrence := by
  obtain ⟨added, grown, permitted⟩ := grows.history
  rw [grown, List.mem_append] at happened
  rcases happened with new | old
  · exact .inr (permitted _ new)
  · exact .inl old

theorem trans
    (first : Grows Permitted older middle)
    (second : Grows Permitted middle newer) :
    Grows Permitted older newer where
  history := by
    obtain ⟨early, grownEarly, permittedEarly⟩ := first.history
    obtain ⟨late, grownLate, permittedLate⟩ := second.history
    refine ⟨late ++ early, ?_, ?_⟩
    · rw [grownLate, grownEarly, List.append_assoc]
    · intro occurrence present
      rcases List.mem_append.mp present with inLate | inEarly
      · exact permittedLate occurrence inLate
      · exact permittedEarly occurrence inEarly
  ended agent ended := second.ended agent (first.ended agent ended)
  finished agent ended := by
    rcases second.finished agent ended with before | told
    · exact (first.finished agent before).imp_right second.mem_history
    · exact .inr told
  forceStopped recorded := second.forceStopped (first.forceStopped recorded)
  noticed recorded := by
    rcases second.noticed recorded with before | told
    · refine (first.noticed before).imp_right ?_
      rintro ⟨cohort, notice⟩
      exact ⟨cohort, second.mem_history notice⟩
    · exact .inr told

theorem mono
    {Wider : Occurrence → Prop}
    (grows : Grows Permitted older newer)
    (wider : ∀ occurrence, Permitted occurrence → Wider occurrence) :
    Grows Wider older newer := by
  obtain ⟨added, grown, permitted⟩ := grows.history
  exact { grows with
    history := ⟨added, grown, fun occurrence present => wider _ (permitted _ present)⟩ }

theorem anything (grows : Grows Permitted older newer) : Grows (fun _ => True) older newer :=
  grows.mono fun _ _ => trivial

end Grows

/-! ## Calm changes -/

/-- Nobody is started and no cohort is published on the way from one state to another. -/
structure Calm (Permitted : Occurrence → Prop) (older newer : State) : Prop
    extends Grows Permitted older newer where
  /-- The current cohort stays. -/
  cohort : newer.cohort = older.cohort
  /-- No agent is asked to start. -/
  starts : ∀ agent, newer.starts agent = older.starts agent
  /-- No start succeeds. -/
  launched : ∀ agent, newer.isLaunched agent = older.isLaunched agent

namespace Calm

variable {Permitted : Occurrence → Prop} {older middle newer : State}

theorem refl (state : State) : Calm Permitted state state :=
  ⟨.refl state, rfl, fun _ => rfl, fun _ => rfl⟩

theorem trans
    (first : Calm Permitted older middle)
    (second : Calm Permitted middle newer) :
    Calm Permitted older newer where
  toGrows := first.toGrows.trans second.toGrows
  cohort := second.cohort.trans first.cohort
  starts agent := (second.starts agent).trans (first.starts agent)
  launched agent := (second.launched agent).trans (first.launched agent)

/-- Nobody is alive who was not alive before. -/
theorem isAlive_of_isAlive
    (calm : Calm Permitted older newer)
    {agent : AgentId}
    (alive : newer.isAlive agent = true) :
    older.isAlive agent = true := by
  rw [isAlive_iff] at alive ⊢
  exact ⟨(calm.launched agent).symm.trans alive.1, calm.hasEnded_eq_false alive.2⟩

end Calm

/-- A calm change that makes no agent and leaves the record of a force-stop alone. -/
structure Quiet (older newer : State) : Prop extends Calm Occurrence.IsQuiet older newer where
  /-- The record of a force-stop stays as it is. -/
  unforced : newer.forceStopped = older.forceStopped

namespace Quiet

variable {older middle newer : State}

theorem refl (state : State) : Quiet state state :=
  ⟨.refl state, rfl⟩

theorem trans (first : Quiet older middle) (second : Quiet middle newer) :
    Quiet older newer :=
  ⟨first.toCalm.trans second.toCalm, second.unforced.trans first.unforced⟩

end Quiet

/-! ## Notes and single agents -/

/-- Writing down anything but a force-stop. -/
theorem calm_note
    {Permitted : Occurrence → Prop}
    {occurrence : Occurrence}
    (permitted : Permitted occurrence)
    (state : State) :
    Calm Permitted state (state.note occurrence) where
  history := ⟨[occurrence], rfl, by simpa using permitted⟩
  cohort := rfl
  starts _ := rfl
  launched _ := rfl
  ended _ ended := ended
  finished _ ended := .inl ended
  forceStopped recorded := recorded
  noticed recorded := .inl recorded

theorem quiet_note
    {occurrence : Occurrence}
    (quiet : occurrence.IsQuiet)
    (state : State) :
    Quiet state (state.note occurrence) :=
  ⟨calm_note quiet state, rfl⟩

theorem quiet_log (notice : Notice) (state : State) : Quiet state (state.log notice) :=
  quiet_note ⟨rfl, rfl, rfl⟩ state

/-- Telling of anything but the completion of a launch. -/
theorem quiet_announce
    {event : Event}
    (inner : (Occurrence.event event).isCompletion = false)
    (state : State) :
    Quiet state (state.announce event) :=
  quiet_note ⟨rfl, rfl, inner⟩ state

/-- The clock goes on. -/
theorem quiet_clock (time : Nat) (state : State) : Quiet state { state with now := time } where
  history := ⟨[], rfl, by simp⟩
  cohort := rfl
  starts _ := rfl
  launched _ := rfl
  ended _ ended := ended
  finished _ ended := .inl ended
  forceStopped recorded := recorded
  noticed recorded := .inl recorded
  unforced := rfl

/-- Changing an agent in a way that neither starts nor ends it. -/
theorem quiet_update
    {change : Member → Member}
    (keepsStarts : ∀ member, (change member).starts = member.starts)
    (keepsLaunched : ∀ member, (change member).isLaunched = member.isLaunched)
    (keepsEnded : ∀ member, (change member).isEnded = member.isEnded)
    (agent : AgentId)
    (state : State) :
    Quiet state (state.update agent change) where
  history := ⟨[], rfl, by simp⟩
  cohort := rfl
  starts := starts_update keepsStarts state
  launched := isLaunched_update keepsLaunched state
  ended other ended := (hasEnded_update keepsEnded state other).trans ended
  finished other ended := .inl ((hasEnded_update keepsEnded state other).symm.trans ended)
  forceStopped recorded := recorded
  noticed recorded := .inl recorded
  unforced := rfl

theorem quiet_endAgent (agent : AgentId) (state : State) :
    Quiet state (state.endAgent agent) := by
  unfold endAgent
  split
  · exact .refl state
  split
  · exact .refl state
  exact {
    history := ⟨[.finish agent], rfl, by simpa using ⟨rfl, rfl, rfl⟩⟩
    cohort := rfl
    starts := fun other => by
      rw [starts_note, starts_update]
      exact fun member => rfl
    launched := fun other => by
      rw [isLaunched_note, isLaunched_update]
      exact fun member => rfl
    ended := fun other ended => by
      simp only [hasEnded, member?_note, member?_update] at ended ⊢
      split
      · cases found : state.member? other <;> simp_all
      · exact ended
    finished := fun other ended => by
      by_cases same : agent = other
      · subst same
        exact .inr (by simp)
      · left
        simpa [hasEnded, member?_update, same] using ended
    forceStopped := id
    noticed := .inl
    unforced := rfl }

theorem quiet_endAgentAfter (agent : AgentId) (delay : Nat) (state : State) :
    Quiet state (state.endAgentAfter agent delay) := by
  unfold endAgentAfter
  split
  · exact quiet_endAgent agent state
  · refine quiet_update ?_ ?_ ?_ agent state <;> exact fun member => rfl

/-- What a request to stop does to an agent, before the agent reacts. -/
def asked (agent : AgentId) (state : State) : State :=
  (state.update agent fun member => { member with stops := member.stops + 1 }).note
    (.stop agent)

theorem quiet_asked (agent : AgentId) (state : State) : Quiet state (state.asked agent) := by
  refine .trans (quiet_update ?_ ?_ ?_ agent state) (quiet_note ⟨rfl, rfl, rfl⟩ _) <;>
    exact fun member => rfl

/-- An agent that exists is asked to stop, and reacts by ending, now or later, if at all. -/
theorem stopAgent_of_member
    {state : State}
    {agent : AgentId}
    {member : Member}
    (found : state.member? agent = some member) :
    state.stopAgent agent =
      if member.behaviour.ignoresStop then state.asked agent
      else (state.asked agent).endAgentAfter agent member.behaviour.stopDelay := by
  simp only [stopAgent, found]
  rfl

theorem stopAgent_of_no_member
    {state : State}
    {agent : AgentId}
    (missing : state.member? agent = none) :
    state.stopAgent agent = state := by
  simp only [stopAgent, missing]

theorem quiet_stopAgent (agent : AgentId) (state : State) :
    Quiet state (state.stopAgent agent) := by
  cases found : state.member? agent with
  | none =>
      rw [stopAgent_of_no_member found]
      exact .refl state
  | some member =>
      rw [stopAgent_of_member found]
      split
      · exact quiet_asked agent state
      · exact (quiet_asked agent state).trans (quiet_endAgentAfter _ _ _)

theorem quiet_stopAgents (agents : List AgentId) (state : State) :
    Quiet state (state.stopAgents agents) := by
  induction agents generalizing state with
  | nil => exact .refl state
  | cons agent agents inductionHypothesis =>
      exact (quiet_stopAgent agent state).trans
        (inductionHypothesis (state.stopAgent agent))

theorem exists_member_of_isLaunched
    {state : State}
    {agent : AgentId}
    (launched : state.isLaunched agent = true) :
    ∃ member, state.member? agent = some member := by
  cases found : state.member? agent with
  | none => simp [isLaunched, found] at launched
  | some member => exact ⟨member, rfl⟩

/-- The history tells that a launched agent was asked to stop. -/
theorem stop_mem_stopAgent
    {state : State}
    {agent : AgentId}
    (launched : state.isLaunched agent = true) :
    ∃ added, (state.stopAgent agent).history = added ++ state.history ∧
      .stop agent ∈ added := by
  obtain ⟨member, found⟩ := exists_member_of_isLaunched launched
  rw [stopAgent_of_member found]
  split
  · exact ⟨[.stop agent], rfl, by simp⟩
  · obtain ⟨added, grown, _⟩ :=
      (quiet_endAgentAfter agent member.behaviour.stopDelay (state.asked agent)).history
    refine ⟨added ++ [.stop agent], ?_, by simp⟩
    rw [grown, List.append_assoc]
    rfl

/-- The history tells of each launched agent among those that were asked to stop. -/
theorem stop_mem_stopAgents
    {agents : List AgentId}
    {agent : AgentId}
    {state : State}
    (among : agent ∈ agents)
    (launched : state.isLaunched agent = true) :
    ∃ added, (state.stopAgents agents).history = added ++ state.history ∧
      .stop agent ∈ added := by
  induction agents generalizing state with
  | nil => simp at among
  | cons first rest inductionHypothesis =>
      change ∃ added, ((state.stopAgent first).stopAgents rest).history = _ ∧ _
      rcases List.mem_cons.mp among with same | later
      · subst same
        obtain ⟨early, grownEarly, present⟩ := stop_mem_stopAgent launched
        obtain ⟨late, grownLate, _⟩ := (quiet_stopAgents rest (state.stopAgent agent)).history
        refine ⟨late ++ early, ?_, List.mem_append_right _ present⟩
        rw [grownLate, grownEarly, List.append_assoc]
      · have stillLaunched : (state.stopAgent first).isLaunched agent = true := by
          rw [(quiet_stopAgent first state).launched, launched]
        obtain ⟨late, grownLate, present⟩ := inductionHypothesis later stillLaunched
        obtain ⟨early, grownEarly, _⟩ := (quiet_stopAgent first state).history
        refine ⟨late ++ early, ?_, List.mem_append_left _ present⟩
        rw [grownLate, grownEarly, List.append_assoc]

/-! ## Force-stops -/

/-- The record of a force-stop, before the agents of the current cohort are told. -/
theorem calm_record (cohort : List AgentId) (state : State) :
    Calm Occurrence.IsQuiet state
      ({ state with forceStopped := true }.log (.forceStop cohort)) where
  history := ⟨[.notice (.forceStop cohort)], rfl, by simpa using ⟨rfl, rfl, rfl⟩⟩
  cohort := rfl
  starts _ := rfl
  launched _ := rfl
  ended _ ended := ended
  finished _ ended := .inl ended
  forceStopped _ := rfl
  noticed _ := .inr ⟨cohort, by simp [log]⟩

/-- A force-stop is recorded before the agents of the current cohort are asked to stop. -/
theorem exists_forceStop_eq (state : State) :
    ∃ recorded, Calm Occurrence.IsQuiet state recorded ∧
      .notice (.forceStop state.cohort) ∈ recorded.history ∧
      state.forceStop =
        (recorded.stopAgents state.cohort).announce (.forceStopped state.cohort.length) := by
  have calm := calm_record state.cohort state
  unfold forceStop
  dsimp only
  split
  · exact ⟨_, calm.trans (quiet_log .forceStopRepeated _).toCalm, by simp [log], rfl⟩
  · exact ⟨_, calm, by simp [log], rfl⟩

theorem calm_forceStop (state : State) : Calm Occurrence.IsQuiet state state.forceStop := by
  obtain ⟨recorded, calm, _, split⟩ := exists_forceStop_eq state
  rw [split]
  exact (calm.trans (quiet_stopAgents _ _).toCalm).trans (quiet_announce rfl _).toCalm

theorem calm_calledForceStop (state : State) :
    Calm Occurrence.IsQuiet state state.calledForceStop :=
  (calm_forceStop state).trans (quiet_note ⟨rfl, rfl, rfl⟩ _).toCalm

theorem calm_callForceStopsAt
    (moment : LaunchMoment)
    (behaviour : Behaviour)
    (state : State) :
    Calm Occurrence.IsQuiet state (state.callForceStopsAt moment behaviour) := by
  unfold callForceStopsAt
  induction behaviour.forceStops.count moment with
  | zero => exact .refl state
  | succ calls inductionHypothesis =>
      exact inductionHypothesis.trans (calm_calledForceStop _)

end State
end Supervision
end AgentCohort

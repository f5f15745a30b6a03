import AgentCohort.Proofs.Supervision.Calm
import AgentCohort.Supervision.Handshake

/-!
# Force-stops and publications at the same time

Each side of the handshake stores before it loads.  If the publisher finds no force-stop
recorded, no call has come so far as to record one, so all calls have yet to read the
cohort.  If it finds one recorded, it asks the cohort to stop itself.  Either way no agent
of a published cohort is missed by a force-stop that has returned.

A call or a publication that nobody interrupts does what the force-stop and the publication
of a state do in one go.
-/

namespace AgentCohort
namespace Supervision

open State

namespace State

/-! ## Requests to stop -/

/-- Number of requests to stop an agent. -/
def stops (state : State) (agent : AgentId) : Nat :=
  ((state.member? agent).map Member.stops).getD 0

theorem stops_update
    {agent : AgentId}
    {change : Member → Member}
    (kept : ∀ member, (change member).stops = member.stops)
    (state : State)
    (other : AgentId) :
    (state.update agent change).stops other = state.stops other :=
  congrArg (fun found => found.getD 0) (map_member?_update kept state other)

/-- The agents stay, with their requests to stop, and so do the current cohort and the record
of a force-stop. -/
structure Keeps (older newer : State) : Prop where
  /-- The cohort is the same. -/
  cohort : newer.cohort = older.cohort
  /-- No agent is lost. -/
  members : older.members.length ≤ newer.members.length
  /-- No request is lost. -/
  stops : ∀ agent, older.stops agent ≤ newer.stops agent
  /-- The record stays. -/
  forceStopped : older.forceStopped = true → newer.forceStopped = true

namespace Keeps

theorem refl (state : State) : Keeps state state where
  cohort := rfl
  members := Nat.le_refl _
  stops _ := Nat.le_refl _
  forceStopped := id

theorem trans
    {older middle newer : State}
    (first : Keeps older middle)
    (second : Keeps middle newer) :
    Keeps older newer where
  cohort := second.cohort.trans first.cohort
  members := Nat.le_trans first.members second.members
  stops agent := Nat.le_trans (first.stops agent) (second.stops agent)
  forceStopped recorded := second.forceStopped (first.forceStopped recorded)

end Keeps

theorem keeps_note (occurrence : Occurrence) (state : State) :
    Keeps state (state.note occurrence) :=
  ⟨rfl, Nat.le_refl _, fun _ => Nat.le_refl _, id⟩

theorem keeps_update
    {change : Member → Member}
    (kept : ∀ member, (change member).stops = member.stops)
    (agent : AgentId)
    (state : State) :
    Keeps state (state.update agent change) where
  cohort := rfl
  members := Nat.le_of_eq (List.length_modify _ _ _).symm
  stops other := Nat.le_of_eq (stops_update kept state other).symm
  forceStopped := id

theorem keeps_endAgent (agent : AgentId) (state : State) :
    Keeps state (state.endAgent agent) := by
  unfold endAgent
  split
  · exact .refl state
  split
  · exact .refl state
  · exact (keeps_update (by intro member; rfl) agent state).trans (keeps_note _ _)

theorem keeps_endAgentAfter (agent : AgentId) (delay : Nat) (state : State) :
    Keeps state (state.endAgentAfter agent delay) := by
  unfold endAgentAfter
  split
  · exact keeps_endAgent agent state
  · exact keeps_update (by intro member; rfl) agent state

/-- A request to stop an agent that exists is counted. -/
theorem stops_asked
    {agent : AgentId}
    {state : State}
    (known : agent < state.members.length) :
    (state.asked agent).stops agent = state.stops agent + 1 := by
  have found : state.member? agent = some state.members[agent] :=
    List.getElem?_eq_getElem known
  simp [stops, asked, member?_update, found]

theorem keeps_asked (agent : AgentId) (state : State) : Keeps state (state.asked agent) where
  cohort := rfl
  members := Nat.le_of_eq (List.length_modify _ _ _).symm
  stops other := by
    simp only [stops, asked, member?_note, member?_update]
    split
    · cases state.member? other <;> simp
    · exact Nat.le_refl _
  forceStopped := id

/-- How an agent reacts to a request to stop loses nothing of it. -/
theorem keeps_asked_stopAgent
    {agent : AgentId}
    {state : State}
    {member : Member}
    (found : state.member? agent = some member) :
    Keeps (state.asked agent) (state.stopAgent agent) := by
  rw [stopAgent_of_member found]
  split
  · exact .refl _
  · exact keeps_endAgentAfter _ _ _

theorem keeps_stopAgent (agent : AgentId) (state : State) :
    Keeps state (state.stopAgent agent) := by
  cases found : state.member? agent with
  | none =>
      rw [stopAgent_of_no_member found]
      exact .refl state
  | some member => exact (keeps_asked agent state).trans (keeps_asked_stopAgent found)

/-- An agent that exists has been asked to stop afterwards. -/
theorem stops_pos_stopAgent
    {agent : AgentId}
    {state : State}
    (known : agent < state.members.length) :
    0 < (state.stopAgent agent).stops agent := by
  have found : state.member? agent = some state.members[agent] :=
    List.getElem?_eq_getElem known
  calc 0 < state.stops agent + 1 := Nat.succ_pos _
    _ = (state.asked agent).stops agent := (stops_asked known).symm
    _ ≤ (state.stopAgent agent).stops agent := (keeps_asked_stopAgent found).stops agent

theorem keeps_logForceStop (cohort : List AgentId) (isRepeated : Bool) (state : State) :
    Keeps state (state.logForceStop cohort isRepeated) := by
  unfold logForceStop
  dsimp only
  split
  · exact (keeps_note _ _).trans (keeps_note _ _)
  · exact keeps_note _ _

/-- An agent is made. -/
theorem keeps_append (member : Member) (state : State) :
    Keeps state { state with members := state.members ++ [member] } where
  cohort := rfl
  members := by simp
  stops agent := by
    simp only [stops, member?, List.getElem?_append]
    split
    · exact Nat.le_refl _
    · rename_i beyond
      have missing : state.members[agent]? = none :=
        List.getElem?_eq_none (Nat.le_of_not_lt beyond)
      simp [missing]
  forceStopped := id

/-! ## Agents of the current cohort -/

/-- Each agent of the current cohort has been asked to stop, or is left to be asked. -/
def Covers (state : State) (remaining : List AgentId) : Prop :=
  ∀ agent ∈ state.cohort, agent ∈ remaining ∨ 0 < state.stops agent

theorem covers_cohort (state : State) : state.Covers state.cohort :=
  fun _ present => .inl present

theorem Covers.keeps
    {older newer : State}
    {remaining : List AgentId}
    (covers : older.Covers remaining)
    (keeps : Keeps older newer) :
    newer.Covers remaining := by
  intro agent present
  rw [keeps.cohort] at present
  exact (covers agent present).imp_right fun asked =>
    Nat.lt_of_lt_of_le asked (keeps.stops agent)

/-- Asking the next agent to stop leaves the rest to be asked. -/
theorem Covers.stopAgent
    {state : State}
    {agent : AgentId}
    {rest : List AgentId}
    (covers : state.Covers (agent :: rest))
    (known : ∀ agent ∈ state.cohort, agent < state.members.length) :
    (state.stopAgent agent).Covers rest := by
  intro other present
  have keeps := keeps_stopAgent agent state
  rw [keeps.cohort] at present
  rcases covers other present with left | asked
  · rcases List.mem_cons.mp left with rfl | left
    · exact .inr (stops_pos_stopAgent (known other present))
    · exact .inl left
  · exact .inr (Nat.lt_of_lt_of_le asked (keeps.stops other))

end State

/-! ## What the steps preserve -/

/-- The agents that a call has still to ask, if it has read the cohort. -/
def Call.remaining? : Call → Option (List AgentId)
  | .begun | .marked _ | .signalled _ => none
  | .stopping _ remaining => some remaining
  | .returned _ => some []

/-- What is true of a cohort while the publisher is at some point: it is the one being
published, or the publisher covers it, or all calls that have read a cohort do. -/
def Publisher.Reaches (publisher : Publisher) (calls : List Call) (state : State) : Prop :=
  match publisher with
  | .idle => ∀ call ∈ calls, ∀ remaining, call.remaining? = some remaining →
      state.Covers remaining
  | .written cohort | .counted cohort _ => cohort = state.cohort
  | .stopping remaining => state.Covers remaining

/-- What every handshake that can be reached is like. -/
structure Handshake.Sound (handshake : Handshake) : Prop where
  /-- The agents of the current cohort have been made. -/
  known : ∀ agent ∈ handshake.state.cohort, agent < handshake.state.members.length
  /-- A call that has done something has recorded the force-stop. -/
  marked : ∀ call ∈ handshake.calls, call ≠ .begun → handshake.state.forceStopped = true
  /-- No agent of the current cohort is missed. -/
  reaches : handshake.publisher.Reaches handshake.calls handshake.state

theorem Handshake.sound_initial : initial.Sound where
  known agent present := by simp [state, initial, State.initial] at present
  marked call present := by simp [initial] at present
  reaches call present := by simp [initial] at present

/-- What the publisher's point promises stays true while agents and requests are kept. -/
theorem Publisher.Reaches.keeps
    {publisher : Publisher}
    {calls : List Call}
    {older newer : State}
    (reaches : publisher.Reaches calls older)
    (keeps : Keeps older newer) :
    publisher.Reaches calls newer := by
  cases publisher with
  | idle =>
      intro call present remaining left
      exact (reaches call present remaining left).keeps keeps
  | written cohort | counted cohort generation => exact Eq.trans reaches keeps.cohort.symm
  | stopping remaining => exact Covers.keeps reaches keeps

theorem known_of_keeps
    {older newer : State}
    (known : ∀ agent ∈ older.cohort, agent < older.members.length)
    (keeps : Keeps older newer) :
    ∀ agent ∈ newer.cohort, agent < newer.members.length := by
  intro agent present
  rw [keeps.cohort] at present
  exact Nat.lt_of_lt_of_le (known agent present) keeps.members

/-- The surroundings may do anything that keeps the agents and the requests. -/
theorem Handshake.Sound.withState
    {handshake : Handshake}
    {newer : State}
    (sound : handshake.Sound)
    (keeps : Keeps handshake.state newer) :
    (handshake.withState newer).Sound where
  known := known_of_keeps sound.known keeps
  marked call present active := keeps.forceStopped (sound.marked call present active)
  reaches := sound.reaches.keeps keeps

/-! ## Steps of calls -/

theorem Call.keeps_step?
    {call next : Call}
    {shared later : Shared}
    (stepped : call.step? shared = some (next, later)) :
    Keeps shared.state later.state := by
  obtain ⟨state, isSignalled⟩ := shared
  cases call with
  | begun =>
      obtain ⟨rfl, rfl⟩ := Prod.mk.inj (Option.some.inj stepped)
      exact ⟨rfl, Nat.le_refl _, fun _ => Nat.le_refl _, fun _ => rfl⟩
  | marked isRepeated =>
      obtain ⟨rfl, rfl⟩ := Prod.mk.inj (Option.some.inj stepped)
      exact .refl state
  | signalled isRepeated =>
      obtain ⟨rfl, rfl⟩ := Prod.mk.inj (Option.some.inj stepped)
      exact keeps_logForceStop _ isRepeated state
  | stopping count remaining =>
      cases remaining with
      | nil =>
          obtain ⟨rfl, rfl⟩ := Prod.mk.inj (Option.some.inj stepped)
          exact keeps_note _ state
      | cons agent rest =>
          obtain ⟨rfl, rfl⟩ := Prod.mk.inj (Option.some.inj stepped)
          exact keeps_stopAgent agent state
  | returned count => simp [Call.step?] at stepped

/-- A call that has taken a step has recorded the force-stop. -/
theorem Call.forceStopped_step?
    {call next : Call}
    {shared later : Shared}
    (stepped : call.step? shared = some (next, later))
    (marked : call ≠ .begun → shared.state.forceStopped = true) :
    later.state.forceStopped = true := by
  cases call with
  | begun =>
      obtain ⟨rfl, rfl⟩ := Prod.mk.inj (Option.some.inj stepped)
      rfl
  | marked | signalled | stopping | returned =>
      exact (Call.keeps_step? stepped).forceStopped (marked (by simp))

/-- A call reads the whole cohort and asks one agent after the other to stop. -/
theorem Call.covers_step?
    {call next : Call}
    {shared later : Shared}
    (stepped : call.step? shared = some (next, later))
    (known : ∀ agent ∈ shared.state.cohort, agent < shared.state.members.length)
    (covers : ∀ remaining, call.remaining? = some remaining → shared.state.Covers remaining)
    (remaining : List AgentId)
    (left : next.remaining? = some remaining) :
    later.state.Covers remaining := by
  have keeps := Call.keeps_step? stepped
  obtain ⟨state, isSignalled⟩ := shared
  cases call with
  | begun | marked isRepeated =>
      obtain ⟨rfl, rfl⟩ := Prod.mk.inj (Option.some.inj stepped)
      simp [Call.remaining?] at left
  | signalled isRepeated =>
      obtain ⟨rfl, rfl⟩ := Prod.mk.inj (Option.some.inj stepped)
      obtain rfl := Option.some.inj left
      exact (covers_cohort state).keeps keeps
  | stopping count asked =>
      have covered := covers asked rfl
      cases asked with
      | nil =>
          obtain ⟨rfl, rfl⟩ := Prod.mk.inj (Option.some.inj stepped)
          obtain rfl := Option.some.inj left
          exact covered.keeps keeps
      | cons agent rest =>
          obtain ⟨rfl, rfl⟩ := Prod.mk.inj (Option.some.inj stepped)
          obtain rfl := Option.some.inj left
          exact covered.stopAgent known
  | returned count => simp [Call.step?] at stepped

theorem Handshake.Sound.stepCall
    {handshake : Handshake}
    {index : Nat}
    {call next : Call}
    {later : Shared}
    (sound : handshake.Sound)
    (found : handshake.calls[index]? = some call)
    (stepped : call.step? handshake.shared = some (next, later)) :
    Sound { handshake with shared := later, calls := handshake.calls.set index next } := by
  have present := List.mem_of_getElem? found
  have keeps : Keeps handshake.state later.state := Call.keeps_step? stepped
  refine ⟨known_of_keeps sound.known keeps, ?_, ?_⟩
  · intro other _ _
    exact Call.forceStopped_step? stepped (sound.marked call present)
  · have reaches := sound.reaches
    cases publisher : handshake.publisher with
    | idle =>
        rw [publisher] at reaches
        intro other presentAfter remaining left
        rcases List.mem_or_eq_of_mem_set presentAfter with before | rfl
        · exact (reaches other before remaining left).keeps keeps
        · exact Call.covers_step? stepped sound.known (reaches call present) remaining left
    | written | counted | stopping =>
        rw [publisher] at reaches
        exact reaches.keeps keeps

/-- A new call has read nothing. -/
theorem Handshake.Sound.call {handshake : Handshake} (sound : handshake.Sound) :
    Sound { handshake with calls := handshake.calls ++ [.begun] } := by
  refine ⟨sound.known, ?_, ?_⟩
  · intro call present active
    rcases List.mem_append.mp present with before | new
    · exact sound.marked call before active
    · exact absurd (List.mem_singleton.mp new) active
  · have reaches := sound.reaches
    cases publisher : handshake.publisher with
    | idle =>
        rw [publisher] at reaches
        intro call present remaining left
        rcases List.mem_append.mp present with before | new
        · exact reaches call before remaining left
        · rw [List.mem_singleton.mp new] at left
          simp [Call.remaining?] at left
    | written | counted | stopping =>
        rw [publisher] at reaches
        exact reaches

/-! ## Steps of the publisher -/

/-- If no force-stop is recorded, no call has read a cohort. -/
theorem Handshake.Sound.remaining?_eq_none
    {handshake : Handshake}
    {call : Call}
    (sound : handshake.Sound)
    (unforced : handshake.state.forceStopped = false)
    (present : call ∈ handshake.calls) :
    call.remaining? = none := by
  cases call with
  | begun => rfl
  | marked | signalled | stopping | returned =>
      have forced := sound.marked _ present (by simp)
      simp [unforced] at forced

theorem Publisher.keeps_step?
    {publisher next : Publisher}
    {state later : State}
    (stepped : publisher.step? state = some (next, later)) :
    Keeps state later := by
  cases publisher with
  | idle => simp [Publisher.step?] at stepped
  | written cohort =>
      obtain ⟨rfl, rfl⟩ := Prod.mk.inj (Option.some.inj stepped)
      exact ⟨rfl, Nat.le_refl _, fun _ => Nat.le_refl _, id⟩
  | counted cohort generation =>
      simp only [Publisher.step?] at stepped
      split at stepped
      · obtain ⟨rfl, rfl⟩ := Prod.mk.inj (Option.some.inj stepped)
        exact keeps_note _ state
      · obtain ⟨rfl, rfl⟩ := Prod.mk.inj (Option.some.inj stepped)
        exact .refl state
  | stopping remaining =>
      cases remaining with
      | nil =>
          obtain ⟨rfl, rfl⟩ := Prod.mk.inj (Option.some.inj stepped)
          exact .refl state
      | cons agent rest =>
          obtain ⟨rfl, rfl⟩ := Prod.mk.inj (Option.some.inj stepped)
          exact keeps_stopAgent agent state

/-- A publication ends either before any call has read the cohort or when the whole cohort
has been asked to stop. -/
theorem Handshake.Sound.reaches_step?
    {handshake : Handshake}
    {next : Publisher}
    {later : State}
    (sound : handshake.Sound)
    (stepped : handshake.publisher.step? handshake.state = some (next, later)) :
    next.Reaches handshake.calls later := by
  have keeps := Publisher.keeps_step? stepped
  have reaches := sound.reaches
  cases publisher : handshake.publisher with
  | idle => simp [publisher, Publisher.step?] at stepped
  | written cohort =>
      rw [publisher] at stepped reaches
      obtain ⟨rfl, rfl⟩ := Prod.mk.inj (Option.some.inj stepped)
      exact reaches
  | counted cohort generation =>
      rw [publisher] at stepped reaches
      have current : cohort = handshake.state.cohort := reaches
      simp only [Publisher.step?] at stepped
      split at stepped
      · obtain ⟨rfl, rfl⟩ := Prod.mk.inj (Option.some.inj stepped)
        rw [current]
        exact (covers_cohort handshake.state).keeps (keeps_note _ _)
      · rename_i unforced
        obtain ⟨rfl, rfl⟩ := Prod.mk.inj (Option.some.inj stepped)
        intro call present remaining left
        have none := sound.remaining?_eq_none (by simpa using unforced) present
        simp [none] at left
  | stopping asked =>
      rw [publisher] at stepped reaches
      have covered : handshake.state.Covers asked := reaches
      cases asked with
      | nil =>
          obtain ⟨rfl, rfl⟩ := Prod.mk.inj (Option.some.inj stepped)
          intro call _ remaining _ agent present
          rcases covered agent present with left | asked
          · simp at left
          · exact .inr asked
      | cons agent rest =>
          obtain ⟨rfl, rfl⟩ := Prod.mk.inj (Option.some.inj stepped)
          exact covered.stopAgent sound.known

theorem Handshake.Sound.stepPublisher
    {handshake : Handshake}
    {next : Publisher}
    {later : State}
    (sound : handshake.Sound)
    (stepped : handshake.publisher.step? handshake.state = some (next, later)) :
    (handshake.withPublisher next later).Sound where
  known := known_of_keeps sound.known (Publisher.keeps_step? stepped)
  marked call present active :=
    (Publisher.keeps_step? stepped).forceStopped (sound.marked call present active)
  reaches := sound.reaches_step? stepped

/-! ## Acts -/

namespace Handshake

theorem Sound.after?
    {handshake next : Handshake}
    {act : Act}
    (sound : handshake.Sound)
    (possible : handshake.after? act = some next) :
    next.Sound := by
  cases act with
  | make name behaviour =>
      obtain rfl := Option.some.inj possible
      exact sound.withState (keeps_append _ _)
  | finish agent =>
      obtain rfl := Option.some.inj possible
      exact sound.withState (keeps_endAgent agent _)
  | ask agent =>
      obtain rfl := Option.some.inj possible
      exact sound.withState (keeps_stopAgent agent _)
  | call =>
      obtain rfl := Option.some.inj possible
      exact sound.call
  | stepCall index =>
      simp only [Handshake.after?, Option.bind_eq_bind, Option.bind_eq_some_iff] at possible
      obtain ⟨call, found, ⟨later, shared⟩, stepped, same⟩ := possible
      obtain rfl := Option.some.inj same
      exact sound.stepCall found stepped
  | publish cohort =>
      simp only [Handshake.after?] at possible
      split at possible
      · rename_i allowed
        obtain rfl := Option.some.inj possible
        exact ⟨allowed.2, sound.marked, rfl⟩
      · simp at possible
  | stepPublisher =>
      simp only [Handshake.after?, Option.bind_eq_bind, Option.bind_eq_some_iff] at possible
      obtain ⟨⟨later, state⟩, stepped, same⟩ := possible
      obtain rfl := Option.some.inj same
      exact sound.stepPublisher stepped

theorem Sound.perform
    {acts : List Act}
    {handshake later : Handshake}
    (sound : handshake.Sound)
    (performed : handshake.perform acts = some later) :
    later.Sound := by
  induction acts generalizing handshake with
  | nil =>
      obtain rfl := Option.some.inj performed
      exact sound
  | cons act acts inductionHypothesis =>
      obtain ⟨next, possible, rest⟩ := Option.bind_eq_some_iff.mp performed
      exact inductionHypothesis (sound.after? possible) rest

/-- Only the publisher writes cohorts. -/
theorem cohort_after?
    {handshake next : Handshake}
    {act : Act}
    (possible : handshake.after? act = some next) :
    next.state.cohort = act.published?.getD handshake.state.cohort := by
  cases act with
  | make | call =>
      obtain rfl := Option.some.inj possible
      rfl
  | finish agent =>
      obtain rfl := Option.some.inj possible
      exact (keeps_endAgent agent _).cohort
  | ask agent =>
      obtain rfl := Option.some.inj possible
      exact (keeps_stopAgent agent _).cohort
  | stepCall index =>
      simp only [Handshake.after?, Option.bind_eq_bind, Option.bind_eq_some_iff] at possible
      obtain ⟨call, _, ⟨later, shared⟩, stepped, same⟩ := possible
      obtain rfl := Option.some.inj same
      exact (Call.keeps_step? stepped).cohort
  | publish cohort =>
      simp only [Handshake.after?] at possible
      split at possible
      · obtain rfl := Option.some.inj possible
        rfl
      · simp at possible
  | stepPublisher =>
      simp only [Handshake.after?, Option.bind_eq_bind, Option.bind_eq_some_iff] at possible
      obtain ⟨⟨later, state⟩, stepped, same⟩ := possible
      obtain rfl := Option.some.inj same
      exact (Publisher.keeps_step? stepped).cohort

/-- The current cohort is the one that was published last. -/
theorem cohort_perform
    {acts : List Act}
    {handshake later : Handshake}
    (performed : handshake.perform acts = some later) :
    later.state.cohort =
      (acts.filterMap Act.published?).getLast?.getD handshake.state.cohort := by
  induction acts generalizing handshake with
  | nil =>
      obtain rfl := Option.some.inj performed
      rfl
  | cons act acts inductionHypothesis =>
      obtain ⟨next, possible, rest⟩ := Option.bind_eq_some_iff.mp performed
      rw [inductionHypothesis rest, cohort_after? possible]
      cases published : act.published? with
      | none => rw [List.filterMap_cons_none published, Option.getD_none]
      | some cohort =>
          rw [List.filterMap_cons_some published, List.getLast?_cons, Option.getD_some,
            Option.getD_some]

/-! ## Undisturbed calls and publications -/

theorem perform_stepCall
    {handshake : Handshake}
    {index : Nat}
    {call next : Call}
    {later : Shared}
    (found : handshake.calls[index]? = some call)
    (stepped : call.step? handshake.shared = some (next, later))
    (acts : List Act) :
    handshake.perform (.stepCall index :: acts) =
      perform acts { handshake with shared := later, calls := handshake.calls.set index next } := by
  simp [perform, after?, found, stepped]

/-- A call that nobody disturbs asks the rest of its cohort to stop and returns. -/
theorem perform_stepCall_stopping
    {handshake : Handshake}
    {index count : Nat}
    {remaining : List AgentId}
    (found : handshake.calls[index]? = some (.stopping count remaining)) :
    handshake.perform (List.replicate (remaining.length + 1) (.stepCall index)) =
      some {
        shared := ⟨(handshake.state.stopAgents remaining).announce (.forceStopped count),
          handshake.shared.isSignalled⟩
        calls := handshake.calls.set index (.returned count)
        publisher := handshake.publisher } := by
  induction remaining generalizing handshake with
  | nil =>
      rw [List.length_nil, List.replicate_succ, perform_stepCall found rfl]
      rfl
  | cons agent rest inductionHypothesis =>
      have inRange := (List.getElem?_eq_some_iff.mp found).1
      rw [List.length_cons, List.replicate_succ, perform_stepCall found rfl,
        inductionHypothesis (List.getElem?_set_self inRange)]
      rw [List.set_set]
      rfl

/-- A call that nobody disturbs is a force-stop. -/
theorem perform_stepCall_begun
    {handshake : Handshake}
    {index : Nat}
    (found : handshake.calls[index]? = some .begun) :
    handshake.perform
        (List.replicate (handshake.state.cohort.length + 4) (.stepCall index)) =
      some {
        shared := ⟨handshake.state.forceStop, true⟩
        calls := handshake.calls.set index (.returned handshake.state.cohort.length)
        publisher := handshake.publisher } := by
  have inRange := (List.getElem?_eq_some_iff.mp found).1
  rw [List.replicate_succ, perform_stepCall found rfl,
    List.replicate_succ, perform_stepCall (List.getElem?_set_self inRange) rfl, List.set_set,
    List.replicate_succ, perform_stepCall (List.getElem?_set_self inRange) rfl, List.set_set]
  refine (perform_stepCall_stopping (List.getElem?_set_self inRange)).trans ?_
  rw [List.set_set]
  rfl

theorem perform_stepPublisher
    {handshake : Handshake}
    {next : Publisher}
    {later : State}
    (stepped : handshake.publisher.step? handshake.state = some (next, later))
    (acts : List Act) :
    handshake.perform (.stepPublisher :: acts) =
      perform acts (handshake.withPublisher next later) := by
  simp [perform, after?, stepped]

/-- A publisher that nobody disturbs asks the rest of its cohort to stop. -/
theorem perform_stepPublisher_stopping
    {handshake : Handshake}
    {remaining : List AgentId}
    (found : handshake.publisher = .stopping remaining) :
    handshake.perform (List.replicate (remaining.length + 1) .stepPublisher) =
      some (handshake.withPublisher .idle (handshake.state.stopAgents remaining)) := by
  induction remaining generalizing handshake with
  | nil =>
      have stepped : handshake.publisher.step? handshake.state =
          some (.idle, handshake.state) := by
        rw [found]
        rfl
      rw [List.length_nil, List.replicate_succ, perform_stepPublisher stepped]
      rfl
  | cons agent rest inductionHypothesis =>
      have stepped : handshake.publisher.step? handshake.state =
          some (.stopping rest, handshake.state.stopAgent agent) := by
        rw [found]
        rfl
      rw [List.length_cons, List.replicate_succ, perform_stepPublisher stepped,
        inductionHypothesis rfl]
      rfl

/-- A publisher that nobody disturbs acts on the record of a force-stop that it finds. -/
theorem perform_stepPublisher_counted
    {handshake : Handshake}
    {cohort : List AgentId}
    {generation : Nat}
    (found : handshake.publisher = .counted cohort generation) :
    ∃ steps, handshake.perform (List.replicate steps .stepPublisher) =
      some (handshake.withPublisher .idle
        (if handshake.state.forceStopped then
          (handshake.state.log (.overtaken generation cohort)).stopAgents cohort
        else
          handshake.state)) := by
  cases recorded : handshake.state.forceStopped with
  | false =>
      have stepped : handshake.publisher.step? handshake.state =
          some (.idle, handshake.state) := by
        simp [found, Publisher.step?, recorded]
      exact ⟨1, by rw [List.replicate_one, perform_stepPublisher stepped]; rfl⟩
  | true =>
      have stepped : handshake.publisher.step? handshake.state =
          some (.stopping cohort, handshake.state.log (.overtaken generation cohort)) := by
        simp [found, Publisher.step?, recorded]
      refine ⟨cohort.length + 2, ?_⟩
      rw [List.replicate_succ, perform_stepPublisher stepped,
        perform_stepPublisher_stopping rfl]
      rfl

/-- A publication that nobody disturbs is the publication of a cohort. -/
theorem perform_publish
    {handshake : Handshake}
    {cohort : List AgentId}
    (idle : handshake.publisher = .idle)
    (known : ∀ agent ∈ cohort, agent < handshake.state.members.length) :
    ∃ steps, handshake.perform (.publish cohort :: List.replicate steps .stepPublisher) =
      some (handshake.withPublisher .idle (handshake.state.publish cohort)) := by
  have written (acts : List Act) : handshake.perform (.publish cohort :: acts) =
      perform acts
        (handshake.withPublisher (.written cohort) (handshake.state.writeCohort cohort)) := by
    simp only [perform, after?, if_pos (And.intro idle known), Option.bind_some]
  have counted : (handshake.withPublisher (.counted cohort (handshake.state.generation + 1))
      (handshake.state.writeCohort cohort).countGeneration).publisher =
        .counted cohort (handshake.state.generation + 1) := rfl
  obtain ⟨steps, performed⟩ := perform_stepPublisher_counted counted
  refine ⟨steps + 1, ?_⟩
  rw [List.replicate_succ, written, perform_stepPublisher rfl]
  exact performed

end Handshake

/-- Whenever a call for a force-stop has returned and no publication is under way, each agent
of the cohort that was published last has been asked to stop. -/
theorem stops_pos_of_returned
    {acts : List Act}
    {handshake : Handshake}
    {count : Nat}
    {cohort : List AgentId}
    (performed : Handshake.initial.perform acts = some handshake)
    (idle : handshake.publisher = .idle)
    (returned : .returned count ∈ handshake.calls)
    (published : (acts.filterMap Act.published?).getLast? = some cohort) :
    handshake.state.cohort = cohort ∧ ∀ agent ∈ cohort, 0 < handshake.state.stops agent := by
  have current : handshake.state.cohort = cohort := by
    rw [Handshake.cohort_perform performed, published, Option.getD_some]
  refine ⟨current, ?_⟩
  have reaches := (Handshake.sound_initial.perform performed).reaches
  rw [idle] at reaches
  intro agent present
  rw [← current] at present
  rcases reaches _ returned [] rfl agent present with left | asked
  · simp at left
  · exact asked

/-- A call that marks and reads before a cohort is published, and returns before the publisher
looks at the record. -/
def overtakingActs : List Act :=
  [.make "a" .standard, .call, .stepCall 0, .stepCall 0, .stepCall 0, .publish [0],
    .stepCall 0, .stepPublisher, .call, .stepCall 1, .stepPublisher, .stepPublisher,
    .stepPublisher]

/-- What these acts lead to. -/
def overtaking : Handshake :=
  (Handshake.initial.perform overtakingActs).getD .initial

theorem stops_pos_overtaking :
    overtaking.state.cohort = [0] ∧ ∀ agent ∈ [0], 0 < overtaking.state.stops agent := by
  have performed : Handshake.initial.perform overtakingActs = some overtaking := by decide
  have returned : .returned 0 ∈ overtaking.calls := by decide
  exact stops_pos_of_returned performed (by decide) returned (by decide)

end Supervision
end AgentCohort

import AgentCohort.Proofs.Supervision.StopLedger
import Mathlib.Data.List.Perm.Basic

/-!
# End times

The clock goes on only while everything is at rest, so each deed that does anything takes place
at one time, and an agent has the time of the deed with which it ends.  Whoever waits for some
agents one after the other has waited for all of them at the latest of their end times, or at
the time at which it began if that is later.
-/

namespace AgentCohort
namespace Supervision

open State

/-! ## The clock -/

/-- Nothing happens but that the clock goes on, and not past a timer. -/
structure System.Ticks (scenario : Scenario) (system next : System) : Prop where
  /-- Nothing more could happen before. -/
  rest : system.isAtRest scenario = true
  /-- Time goes by. -/
  later : system.state.now < next.state.now
  /-- No timer ends earlier. -/
  timers : ∀ timer ∈ system.timers, next.state.now ≤ timer
  /-- All else stays. -/
  same : next = { system with state := { system.state with now := next.state.now } }

theorem System.now_accept
    {system : System}
    (rostered : Rostered system)
    (request : Request) :
    (system.accept request).1.state.now = system.state.now := by
  cases request with
  | run names orchestrator base restarts =>
      simp only [accept]
      split <;> rfl
  | finish agent =>
      simp only [accept, withAgent]
      split
      · exact (inner_endAgent agent _).now
      · rfl
  | stopAgent agent =>
      simp only [accept, withAgent]
      split
      · rename_i known
        exact (inner_stopAgent known).now
      · rfl
  | forceStop => exact (forces_forceStop rostered.cohort.known).effect.now
  | waitForCohort | waitForForceStop | subscribe | advance _ | look => rfl

/-- Whatever happens takes no time, unless it is that the clock goes on. -/
theorem Rostered.now_or_ticks
    {scenario : Scenario}
    {system next : System}
    {action : Action}
    (rostered : Rostered system)
    (possible : system.action? scenario action = some next) :
    next.state.now = system.state.now ∨
      action.joiner? = none ∧ system.Ticks scenario next := by
  cases action with
  | request request =>
      obtain rfl := Option.some.inj possible
      exact .inl (System.now_accept rostered request)
  | move move =>
      cases move with
      | agentEnds agent =>
          simp only [System.action?, System.after?] at possible
          split at possible
          · obtain rfl := Option.some.inj possible
            exact .inl (inner_endAgent agent _).now
          · simp at possible
      | run index favoursForceStop =>
          simp only [System.action?, System.after?, System.stepRun?, Option.bind_eq_bind,
            Option.bind_eq_some_iff] at possible
          obtain ⟨run, found, ⟨later, state⟩, stepped, same⟩ := possible
          obtain rfl := Option.some.inj same
          have known := (rostered.runs run (List.mem_of_getElem? found)).known
          obtain ⟨_, _, effect, _⟩ := (Run.turn_of_step? known stepped).requests rostered.cohort 0
          exact .inl effect.now
      | wait index =>
          simp only [System.action?, System.after?, System.stepWait?, Option.bind_eq_bind,
            Option.bind_eq_some_iff] at possible
          obtain ⟨wait, found, ⟨later, state⟩, stepped, same⟩ := possible
          obtain rfl := Option.some.inj same
          have known := (rostered.waits wait (List.mem_of_getElem? found)).known
          obtain ⟨_, _, effect, _⟩ := (Wait.turn_of_step? known stepped).requests 0
          exact .inl effect.now
      | clock time =>
          simp only [System.action?, System.after?] at possible
          split at possible
          · rename_i ready
            obtain ⟨rest, later, next⟩ := ready
            obtain rfl := Option.some.inj possible
            refine .inr ⟨rfl, rest, later, fun timer present => ?_, rfl⟩
            cases first : system.timers.min? with
            | none => simp [List.min?_eq_none_iff.mp first] at present
            | some nearest =>
                rw [System.nextTimer?, first] at next
                have bounded := (List.min?_eq_some_iff.mp first).2 timer present
                exact Nat.le_trans (by simpa using next) bounded
          · simp at possible

theorem Execution.now_le
    {scenario : Scenario}
    {past : List Deed}
    {system next : System}
    {action : Action}
    (execution : Execution scenario past system)
    (possible : system.action? scenario action = some next) :
    system.state.now ≤ next.state.now := by
  obtain same | ⟨_, ticks⟩ := execution.reachable.rostered.now_or_ticks possible
  · exact Nat.le_of_eq same.symm
  · exact Nat.le_of_lt ticks.later

/-! ## When an agent has ended -/

/-- Whether an agent ends with a deed. -/
def Deed.ends (agent : AgentId) (deed : Deed) : Bool :=
  !deed.before.state.hasEnded agent && deed.after.state.hasEnded agent

/-- The time at which an agent has ended, if it has. -/
def endTime? (past : List Deed) (agent : AgentId) : Option Nat :=
  (past.find? (Deed.ends agent)).map fun deed => deed.after.state.now

theorem endTime?_cons (deed : Deed) (past : List Deed) (agent : AgentId) :
    endTime? (deed :: past) agent =
      if deed.ends agent then some deed.after.state.now else endTime? past agent := by
  rw [endTime?, List.find?_cons]
  cases deed.ends agent <;> rfl

theorem exists_ends_of_endTime?
    {past : List Deed}
    {agent : AgentId}
    {time : Nat}
    (ended : endTime? past agent = some time) :
    ∃ deed ∈ past, deed.ends agent = true ∧ deed.after.state.now = time := by
  obtain ⟨deed, found, same⟩ := Option.map_eq_some_iff.mp ended
  exact ⟨deed, List.mem_of_find?_eq_some found, List.find?_some found, same⟩

section Extend

variable {scenario : Scenario} {past : List Deed} {system next : System} {action : Action}
  {agent : AgentId} {time : Nat}

/-- An agent has an end time if and only if it has ended. -/
theorem Execution.isSome_endTime?
    (execution : Execution scenario past system)
    (agent : AgentId) :
    (endTime? past agent).isSome = system.state.hasEnded agent := by
  induction execution with
  | initial => simp [endTime?, hasEnded, member?, System.initial, State.initial]
  | @extend past system next action earlier possible inductionHypothesis =>
      have kept := (step_of_action? possible).grows.ended agent
      rw [endTime?_cons, Deed.ends]
      cases before : system.state.hasEnded agent <;> cases after : next.state.hasEnded agent <;>
        simp_all

theorem Execution.hasEnded_of_endTime?
    (execution : Execution scenario past system)
    (ended : endTime? past agent = some time) :
    system.state.hasEnded agent = true := by
  rw [← execution.isSome_endTime?, ended]
  rfl

/-- An agent keeps its end time. -/
theorem Execution.endTime?_extend
    (execution : Execution scenario past system)
    (ended : endTime? past agent = some time) :
    endTime? (⟨system, action, next⟩ :: past) agent = some time := by
  have before := execution.hasEnded_of_endTime? ended
  rw [endTime?_cons, Deed.ends, before, Bool.not_true, Bool.false_and, if_neg Bool.false_ne_true,
    ended]

/-- An end time that is new is the present. -/
theorem endTime?_of_extend
    (ended : endTime? (⟨system, action, next⟩ :: past) agent = some time) :
    endTime? past agent = some time ∨
      system.state.hasEnded agent = false ∧ time = next.state.now := by
  rw [endTime?_cons] at ended
  split at ended
  · rename_i ends
    obtain ⟨before, _⟩ := Bool.and_eq_true_iff.mp ends
    exact .inr ⟨by simpa using before, (Option.some.inj ended).symm⟩
  · exact .inl ended

theorem Execution.endTime?_le
    (execution : Execution scenario past system)
    (ended : endTime? past agent = some time) :
    time ≤ system.state.now := by
  induction execution with
  | initial => simp [endTime?] at ended
  | extend earlier possible inductionHypothesis =>
      obtain before | ⟨_, rfl⟩ := endTime?_of_extend ended
      · exact Nat.le_trans (inductionHypothesis before) (earlier.now_le possible)
      · exact Nat.le_refl _

theorem Execution.before_now_le
    {deed : Deed}
    (execution : Execution scenario past system)
    (present : deed ∈ past) :
    deed.before.state.now ≤ system.state.now := by
  induction execution with
  | initial => cases present
  | extend earlier possible inductionHypothesis =>
      rcases List.mem_cons.mp present with rfl | before
      · exact earlier.now_le possible
      · exact Nat.le_trans (inductionHypothesis before) (earlier.now_le possible)

/-- An agent that runs ends later. -/
theorem Execution.before_now_le_endTime?
    {deed : Deed}
    (execution : Execution scenario past system)
    (present : deed ∈ past)
    (running : deed.before.state.hasEnded agent = false)
    (ended : endTime? past agent = some time) :
    deed.before.state.now ≤ time := by
  induction execution with
  | initial => cases present
  | extend earlier possible inductionHypothesis =>
      obtain before | ⟨_, rfl⟩ := endTime?_of_extend ended
      · rcases List.mem_cons.mp present with rfl | presentBefore
        · cases running.symm.trans (earlier.hasEnded_of_endTime? before)
        · exact inductionHypothesis presentBefore before
      · exact (earlier.extend possible).before_now_le present

/-- While the clock goes on, no agent ends. -/
theorem System.Ticks.endTime?_eq
    (ticks : system.Ticks scenario next)
    (agent : AgentId) :
    endTime? (⟨system, action, next⟩ :: past) agent = endTime? past agent := by
  have same : next.state.hasEnded agent = system.state.hasEnded agent := by
    rw [ticks.same]
    rfl
  rw [endTime?_cons, Deed.ends, same, Bool.not_and_self, if_neg Bool.false_ne_true]

end Extend

/-- A joiner waits for an agent too long at most once. -/
theorem Execution.countP_timedOut?_le
    {scenario : Scenario}
    {past : List Deed}
    {system : System}
    (execution : Execution scenario past system)
    (agent : AgentId)
    (joiner : JoinerId) :
    past.countP (fun deed => deed.timedOut? agent = some joiner) ≤ 1 := by
  induction execution with
  | initial => exact Nat.zero_le _
  | @extend past system next action earlier possible inductionHypothesis =>
      rw [List.countP_cons]
      split
      · rename_i late
        have never : past.countP (fun deed => deed.timedOut? agent = some joiner) = 0 := by
          refine List.countP_eq_zero.mpr fun deed present lateBefore => ?_
          have through := (earlier.marked.through deed present agent joiner
            (of_decide_eq_true lateBefore)).2
          exact @System.IsThrough.timedOut?_ne ⟨system, action, next⟩ agent joiner through
            (of_decide_eq_true late)
        rw [never]
      · exact inductionHypothesis

/-! ## When all of some agents have ended -/

/-- The time at which all of some agents have been joined, given the time at which somebody begins
to wait for them and their end times. -/
def joinTime? (beginning : Nat) : List (Option Nat) → Option Nat
  | [] => some beginning
  | end? :: rest => end?.bind fun time => joinTime? (max beginning time) rest

theorem joinTime?_append (beginning : Nat) (early late : List (Option Nat)) :
    joinTime? beginning (early ++ late) =
      (joinTime? beginning early).bind fun time => joinTime? time late := by
  induction early generalizing beginning with
  | nil => rfl
  | cons end? rest inductionHypothesis =>
      cases end? with
      | none => rfl
      | some time => exact inductionHypothesis (max beginning time)

/-- The order in which agents are waited for does not matter. -/
theorem joinTime?_perm
    {ends others : List (Option Nat)}
    (same : ends.Perm others)
    (beginning : Nat) :
    joinTime? beginning ends = joinTime? beginning others := by
  induction same generalizing beginning with
  | nil => rfl
  | cons end? _ inductionHypothesis =>
      cases end? with
      | none => rfl
      | some time => exact inductionHypothesis (max beginning time)
  | swap first second rest =>
      cases first <;> cases second <;>
        simp only [joinTime?, Option.bind_none, Option.bind_some, Nat.max_right_comm]
  | trans _ _ first second => exact (first beginning).trans (second beginning)

/-- Agents that have all been joined have ended. -/
theorem exists_of_joinTime?
    {beginning time : Nat}
    {ends : List (Option Nat)}
    (joined : joinTime? beginning ends = some time) :
    ∀ end? ∈ ends, ∃ ended, end? = some ended := by
  induction ends generalizing beginning with
  | nil => nofun
  | cons end? rest inductionHypothesis =>
      obtain ⟨ended, rfl, joined⟩ := Option.bind_eq_some_iff.mp joined
      intro other present
      rcases List.mem_cons.mp present with rfl | later
      · exact ⟨ended, rfl⟩
      · exact inductionHypothesis joined other later

/-- Nobody is waited for who has ended before. -/
theorem joinTime?_eq_self
    {beginning : Nat}
    {ends : List (Option Nat)}
    (ended : ∀ end? ∈ ends, ∃ time ≤ beginning, end? = some time) :
    joinTime? beginning ends = some beginning := by
  induction ends with
  | nil => rfl
  | cons end? rest inductionHypothesis =>
      obtain ⟨time, early, rfl⟩ := ended _ List.mem_cons_self
      rw [joinTime?, Option.bind_some, Nat.max_eq_left early]
      exact inductionHypothesis fun other later => ended other (List.mem_cons_of_mem _ later)

/-- The time at which all of some agents have been joined, as far as they have ended. -/
def joinedAt? (beginning : Nat) (past : List Deed) (agents : List AgentId) : Option Nat :=
  joinTime? beginning (agents.map (endTime? past))

theorem joinedAt?_append
    (beginning : Nat)
    (past : List Deed)
    (early late : List AgentId) :
    joinedAt? beginning past (early ++ late) =
      (joinedAt? beginning past early).bind fun time => joinedAt? time past late := by
  rw [joinedAt?, List.map_append, joinTime?_append]
  rfl

theorem exists_endTime?_of_joinedAt?
    {beginning time : Nat}
    {past : List Deed}
    {agents : List AgentId}
    (joined : joinedAt? beginning past agents = some time)
    {agent : AgentId}
    (present : agent ∈ agents) :
    ∃ ended, endTime? past agent = some ended :=
  exists_of_joinTime? joined _ (List.mem_map_of_mem present)

/-- As long as agents keep their end times, they have been joined when they have been joined. -/
theorem joinedAt?_of_kept
    {beginning time : Nat}
    {past later : List Deed}
    {agents : List AgentId}
    (joined : joinedAt? beginning past agents = some time)
    (kept : ∀ agent ended, endTime? past agent = some ended → endTime? later agent = some ended) :
    joinedAt? beginning later agents = some time := by
  have same : agents.map (endTime? later) = agents.map (endTime? past) := by
    refine List.map_congr_left fun agent present => ?_
    obtain ⟨ended, found⟩ := exists_endTime?_of_joinedAt? joined present
    rw [found, kept agent ended found]
  rw [joinedAt?, same]
  exact joined

end Supervision
end AgentCohort

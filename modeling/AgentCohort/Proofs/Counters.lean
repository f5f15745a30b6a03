import AgentCohort.Proofs.Agent.AttemptCounter
import AgentCohort.Proofs.Supervision.RestartCounter

/-!
# Counters without a limit

An agent counts its attempts to register, and a run its restarts, each in a word of 32 bits, and
each may go on for ever.  So the words count up to multiples of their size: as long as the number
fits they are exact, and when it no longer does they begin anew.  Both may come to that.
-/

namespace AgentCohort

open Agent (Happening Life Outcome Profile tells)
open Agent.Life (plainProfile)
open Supervision (Action Deed Execution Run Scenario System)
open Supervision (execute execution_execute restartsIn restless single turnsOf)

/-- What a word of 32 bits says about how often it has been raised. -/
structure IsCountOf (counter : UInt32) (times : Nat) : Prop where
  /-- It is the number up to multiples of its size. -/
  toNat : counter.toNat = times % UInt32.size
  /-- It is the number as long as it has room for it. -/
  exact : times < UInt32.size → counter.toNat = times
  /-- There is no room for one more if that makes a multiple of the size. -/
  overflows : counter.toNat + 1 = UInt32.size ↔ UInt32.size ∣ times + 1

theorem isCountOf_ofNat (times : Nat) : IsCountOf (UInt32.ofNat times) times := by
  have toNat : (UInt32.ofNat times).toNat = times % UInt32.size := UInt32.toNat_ofNat
  refine ⟨toNat, fun few => toNat.trans (Nat.mod_eq_of_lt few), ?_⟩
  rw [toNat, UInt32.size]
  omega

/-- How an agent counts its attempts, given what has happened to it. -/
structure Agent.Life.CountsAttempts (trace : List (Nat × Happening)) (life : Life) : Prop where
  /-- The word counts the attempts that have begun. -/
  counter : IsCountOf life.attempts life.course.posts.length
  /-- All of them but at most one have ended. -/
  attempts : (tells Happening.outcome? trace).length ≤ life.course.posts.length ∧
    life.course.posts.length ≤ (tells Happening.outcome? trace).length + 1
  /-- That the orchestrator cannot be reached yet is logged whenever the word has come round. -/
  absences : life.course.absences = absencesOf (tells Happening.outcome? trace)
  /-- As long as it has not, only the first attempt is taken for the first one. -/
  firstOnly : (tells Happening.outcome? trace).length ≤ UInt32.size →
    life.course.absences =
      tells Outcome.absence? (tells Happening.outcome? trace).getLast?.toList

/-- How a run counts its restarts, given its turns so far. -/
structure Supervision.Run.CountsRestarts
    (scenario : Scenario)
    (index : Nat)
    (turns : List Deed)
    (run : Run) : Prop where
  /-- The word counts the restarts. -/
  counter : IsCountOf run.restartCount (restartsIn index turns)
  /-- The run has launched as often, or once more. -/
  launches : restartsIn index turns ≤ launchesIn scenario turns ∧
    launchesIn scenario turns ≤ restartsIn index turns + 1

theorem Agent.Life.RunsOnClock.countsAttempts
    {profile : Profile}
    {start now : Nat}
    {trace : List (Nat × Happening)}
    {life : Life}
    (runs : RunsOnClock profile start .initial trace now life) :
    life.CountsAttempts trace := by
  have absences : life.course.absences = absencesOf (tells Happening.outcome? trace) := by
    rw [runs.absences, runs.outcomes]
  refine {
    counter := ?counter
    attempts := ?attempts
    absences := absences
    firstOnly := fun few => absences.trans (absencesOf_of_length_le few) }
  case counter =>
    rw [runs.attempts_eq]
    exact isCountOf_ofNat _
  case attempts =>
    rw [← runs.outcomes]
    exact runs.length_posts_bounds

theorem Supervision.Execution.countsRestarts
    {scenario : Scenario}
    {past : List Deed}
    {system : System}
    {index : Nat}
    {run : Run}
    (execution : Execution scenario past system)
    (found : system.runs[index]? = some run) :
    run.CountsRestarts scenario index (turnsOf index past) := by
  have tallies := execution.tallies found
  refine ⟨?_, tallies.launches_bounds⟩
  rw [tallies.counter]
  exact isCountOf_ofNat _

/-- Agents count their attempts, and runs their restarts, up to multiples of the size of a word,
whatever the outcomes of the attempts and whatever happens between the restarts. -/
theorem countsAttempts_and_countsRestarts
    {profile : Profile}
    {start now : Nat}
    {trace : List (Nat × Happening)}
    {life : Life}
    {scenario : Scenario}
    {past : List Deed}
    {system : System}
    {index : Nat}
    {run : Run}
    (runs : Life.RunsOnClock profile start .initial trace now life)
    (execution : Execution scenario past system)
    (found : system.runs[index]? = some run) :
    life.CountsAttempts trace ∧ run.CountsRestarts scenario index (turnsOf index past) :=
  ⟨runs.countsAttempts, execution.countsRestarts found⟩

/-- An agent that does not reach the orchestrator and tries again. -/
def triedAgain : List (Nat × Happening) :=
  [(1000, .move .retry), (0, .move (.attemptEnds (.unreachable "refused"))), (0, .move .begin),
    (0, .start (.ok ()))]

/-- A run that launches its agent, joins it, and restarts. -/
def restarted : List Action :=
  List.replicate 5 (.move (.run 0 false)) ++ [.request (.run ["a"] "o:1" single.base true)]

theorem countsAttempts_triedAgain_and_countsRestarts_restarted :
    ∃ life run, Life.RunsOnClock plainProfile 0 .initial triedAgain 1000 life ∧
      life.attempts = 2 ∧ (execute restless restarted).2.runs[0]? = some run ∧
      run.restartCount = 1 ∧ life.CountsAttempts triedAgain ∧
      run.CountsRestarts restless 0 (turnsOf 0 (execute restless restarted).1) := by
  have started : Life.RunsOnClock plainProfile 0 .initial [(0, .start (.ok ()))] 0 _ :=
    .happens .nil (.start none)
  have begun := started.happens (.move .begin rfl)
  have absent := begun.happens (.move (.attemptEnds (.unreachable "refused")) rfl)
  have again : Life.RunsOnClock plainProfile 0 .initial triedAgain 1000 _ :=
    (absent.waits (by decide) (by decide)).happens (.move .retry rfl)
  have counted : (execute restless restarted).2.runs[0]?.map Run.restartCount = some 1 := by
    decide
  obtain ⟨run, found, count⟩ := Option.map_eq_some_iff.mp counted
  exact ⟨_, run, again, rfl, found, count,
    countsAttempts_and_countsRestarts again (execution_execute restless restarted) found⟩

/-- Both words may come round: there is no room for another attempt, a later one is taken for a
first one, and a run that has restarted as often as the word has values counts no restart. -/
theorem overflowing_attempts_and_restarts :
    (∃ trace now life next, Life.RunsOnClock plainProfile 0 .initial trace now life ∧
      Life.DoesAt plainProfile now life (.move .retry) next ∧
      (∀ ended ∈ tells Happening.outcome? trace, ended.2 = .unreachable "refused") ∧
      life.attempts.toNat + 1 = UInt32.size ∧ next.attempts = 0) ∧
    (∃ trace now life earlier, Life.RunsOnClock plainProfile 0 .initial trace now life ∧
      life.course.absences = [(now, "refused"), (earlier, "refused")]) ∧
    ∃ past system run, Execution restless past system ∧ system.runs[0]? = some run ∧
      run.isLaunching = true ∧ restartsIn 0 (turnsOf 0 past) = UInt32.size ∧
      run.restartCount = 0 :=
  ⟨Life.exists_overflow plainProfile "refused", Life.exists_second_absence plainProfile "refused",
    Supervision.exists_restartCount_eq_zero⟩

end AgentCohort

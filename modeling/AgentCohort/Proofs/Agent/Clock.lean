import AgentCohort.Proofs.Agent.Happenings

/-!
# Agents on a clock

Whatever happens to an agent happens at a time.  In between the clock goes on, but not past the
time of the timer that the agent waits for, so timers go off when they are due.
-/

namespace AgentCohort
namespace Agent
namespace Life

open Network.Http (Request)

/-- Something happens to an agent at a time. -/
inductive DoesAt (profile : Profile) (now : Nat) (life : Life) : Happening → Life → Prop
  | start (bindFailure? : Option Failure) :
      DoesAt profile now life (.start (life.start now profile.blueprint bindFailure?).2)
        (life.start now profile.blueprint bindFailure?).1
  | stop : DoesAt profile now life .stop (life.requestStop now)
  | join (joinable : life.isJoinable = true) : DoesAt profile now life .join life
  | answer (clock : Nat → Instant) (server : Server) (request : Request) :
      DoesAt profile now life
        (.answer server request
          (Service.react profile.extract (life.snapshot clock profile.blueprint) server
            request).message?)
        (life.answer now clock profile server request).1
  | hold (server : Server) :
      DoesAt profile now life (.hold server) (life.setServer server (life.server server).hold)
  | release
      (server : Server)
      {fewer : ServerState}
      (released : (life.server server).release? = some fewer) :
      DoesAt profile now life (.release server) (life.setServer server fewer)
  | move
      (move : Move)
      {next : Life}
      (possible : life.step? now profile move = some next) :
      DoesAt profile now life (.move move) next

/-- A trace with times, the newest happening first, that leads from one life at one time to
another life at another time. -/
inductive RunsOnClock (profile : Profile) (start : Nat) (first : Life) :
    List (Nat × Happening) → Nat → Life → Prop
  | nil : RunsOnClock profile start first [] start first
  | happens
      {trace : List (Nat × Happening)}
      {now : Nat}
      {life : Life}
      {happening : Happening}
      {next : Life}
      (runs : RunsOnClock profile start first trace now life)
      (does : DoesAt profile now life happening next) :
      RunsOnClock profile start first ((now, happening) :: trace) now next
  | waits
      {trace : List (Nat × Happening)}
      {now : Nat}
      {life : Life}
      {later : Nat}
      (runs : RunsOnClock profile start first trace now life)
      (onward : now ≤ later)
      (onTime : ∀ due, life.timer? = some due → later ≤ due) :
      RunsOnClock profile start first trace later life

variable {profile : Profile}
variable {now start : Nat}
variable {first life next : Life}

theorem DoesAt.does
    {happening : Happening}
    (does : DoesAt profile now life happening next) :
    Does profile life happening next := by
  cases does with
  | start bindFailure? => exact .start now bindFailure?
  | stop => exact .stop now
  | join joinable => exact .join joinable
  | answer clock server request => exact .answer now clock server request
  | hold server => exact .hold server
  | release server released => exact .release server released
  | move move possible => exact .move now move possible

/-- The trace without its times is a trace. -/
theorem RunsOnClock.runs
    {trace : List (Nat × Happening)}
    (runs : RunsOnClock profile start first trace now life) :
    Runs profile first (trace.map Prod.snd) life := by
  induction runs with
  | nil => exact .nil
  | happens _ does inductionHypothesis => exact inductionHypothesis.cons does.does
  | waits _ _ _ inductionHypothesis => exact inductionHypothesis

end Life
end Agent
end AgentCohort

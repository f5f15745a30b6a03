import AgentCohort.Proofs.Agent.StatusOrder

/-!
# Traces of agents

Everything that happens to an agent, with what those who do it are told, and the traces that
result, the newest happening first.
-/

namespace AgentCohort
namespace Agent

open Network.Http (Request)

/-- The message that a server hands to the agent. -/
def Service.Reaction.message? : Service.Reaction → Option Message
  | .accept message => some message
  | .respond _ => none

/-- Something that happens to an agent. -/
inductive Happening where
  /-- Somebody starts it and is told whether that was possible. -/
  | start (outcome : Except Failure Unit)
  /-- Somebody asks it to stop. -/
  | stop
  /-- Somebody has waited for it, and that is over. -/
  | join
  /-- It is sent a request, which may hold a message to it. -/
  | answer (server : Server) (request : Request) (message? : Option Message)
  /-- A request stays open. -/
  | hold (server : Server)
  /-- A request is no longer open. -/
  | release (server : Server)
  /-- It moves on. -/
  | move (move : Move)

namespace Happening

/-- What somebody who starts the agent is told. -/
def start? : Happening → Option (Except Failure Unit)
  | .start outcome => some outcome
  | .stop | .join | .answer .. | .hold _ | .release _ | .move _ => none

/-- Whether the agent is asked to stop, from outside or by a message. -/
def asksToStop : Happening → Bool
  | .stop | .answer _ _ (some .stop) => true
  | .answer _ _ none | .answer _ _ (some .ping) | .answer _ _ (some .other) => false
  | .start _ | .join | .hold _ | .release _ | .move _ => false

end Happening

/-- What those who have started the agent have been told, the first of them first. -/
def startOutcomes (trace : List Happening) : List (Except Failure Unit) :=
  trace.reverse.filterMap Happening.start?

@[simp] theorem startOutcomes_nil : startOutcomes [] = [] := rfl

theorem startOutcomes_cons (happening : Happening) (trace : List Happening) :
    startOutcomes (happening :: trace) = startOutcomes trace ++ happening.start?.toList := by
  cases outcome : happening.start? <;> simp [startOutcomes, outcome]

namespace Life

/-- Something happens to an agent. -/
inductive Does (profile : Profile) (life : Life) : Happening → Life → Prop
  | start (now : Nat) (bindFailure? : Option Failure) :
      Does profile life (.start (life.start now profile.blueprint bindFailure?).2)
        (life.start now profile.blueprint bindFailure?).1
  | stop (now : Nat) : Does profile life .stop (life.requestStop now)
  | join (joinable : life.isJoinable = true) : Does profile life .join life
  | answer
      (now : Nat)
      (clock : Nat → Instant)
      (server : Server)
      (request : Request) :
      Does profile life
        (.answer server request
          (Service.react profile.extract (life.snapshot clock profile.blueprint) server
            request).message?)
        (life.answer now clock profile server request).1
  | hold (server : Server) :
      Does profile life (.hold server) (life.setServer server (life.server server).hold)
  | release
      (server : Server)
      {fewer : ServerState}
      (released : (life.server server).release? = some fewer) :
      Does profile life (.release server) (life.setServer server fewer)
  | move
      (now : Nat)
      (move : Move)
      {next : Life}
      (possible : life.step? now profile move = some next) :
      Does profile life (.move move) next

/-- A trace that leads from one life to another, the newest happening first. -/
inductive Runs (profile : Profile) (first : Life) : List Happening → Life → Prop
  | nil : Runs profile first [] first
  | cons
      {trace : List Happening}
      {life : Life}
      {happening : Happening}
      {next : Life}
      (runs : Runs profile first trace life)
      (does : Does profile life happening next) :
      Runs profile first (happening :: trace) next

variable {profile : Profile}
variable {first life next : Life}

/-- To wait for an agent does nothing to it. -/
theorem Does.happens
    {happening : Happening}
    (does : Does profile life happening next) :
    next = life ∨ Happens profile life next := by
  cases does with
  | start now bindFailure? => exact .inr (.start now bindFailure?)
  | stop now => exact .inr (.stop now)
  | join joinable => exact .inl rfl
  | answer now clock server request => exact .inr (.answer now clock server request)
  | hold server => exact .inr (.hold server)
  | release server released => exact .inr (.release server released)
  | move now move possible => exact .inr (.move now move possible)

/-- What holds at first and is kept by everything that happens holds after every trace. -/
theorem Runs.invariant
    {trace : List Happening}
    (runs : Runs profile first trace life)
    (Holds : Life → Prop)
    (holds : Holds first)
    (kept : ∀ {before after : Life}, Holds before → Happens profile before after → Holds after) :
    Holds life := by
  induction runs with
  | nil => exact holds
  | cons _ does inductionHypothesis =>
      rcases does.happens with rfl | happens
      · exact inductionHypothesis
      · exact kept inductionHypothesis happens

theorem Runs.trans
    {older newer : List Happening}
    (before : Runs profile first older life)
    (after : Runs profile life newer next) :
    Runs profile first (newer ++ older) next := by
  induction after with
  | nil => exact before
  | cons _ does inductionHypothesis => exact inductionHypothesis.cons does

end Life
end Agent
end AgentCohort

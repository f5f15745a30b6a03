import AgentCohort.Supervision.System

/-!
# Sessions

One run from its beginning to the moment at which nothing of it is left.  The agents live
as long as the session: if the run launched once, or failed, whoever began it waits until
the agents of the current cohort have ended, and only then takes the outcome of the run.
-/

namespace AgentCohort
namespace Supervision

/-- How far a session has come. -/
inductive SessionPhase where
  /-- The run goes on. -/
  | running
  /-- The run is over, and its agents are waited for. -/
  | waiting (outcome : Except Failure Unit)
  /-- Nothing is left. -/
  | ended (outcome : Except Failure Unit)

/-- A run with the system that it works on. -/
structure Session where
  /-- The system, with the run as its only one. -/
  system : System
  /-- How far it has come. -/
  phase : SessionPhase

namespace Session

/-- The beginning of a session. -/
def start (plan : Plan) (restarts : Bool) : Session :=
  ⟨{ System.initial with runs := [.start plan restarts] }, .running⟩

/-- Whether the agents are waited for when the run is over. -/
def waitsForAgents (run : Run) (outcome : Except Failure Unit) (state : State) : Bool :=
  (!run.restarts || !outcome.toBool) && !state.cohort.isEmpty

/-- The next phase, if the time for it has come. -/
def nextPhase? (session : Session) : Option Session :=
  match session.phase with
  | .running => do
    let run ← session.system.runs.head?
    let outcome ← run.outcome?
    if waitsForAgents run outcome session.system.state then
      some ⟨{ session.system with waits := [.looking] }, .waiting outcome⟩
    else
      some ⟨session.system, .ended outcome⟩
  | .waiting outcome =>
    match session.system.waits with
    | [.ended] => some ⟨session.system, .ended outcome⟩
    | _ => none
  | .ended _ => none

/-- The session with another system. -/
def withSystem (session : Session) (system : System) : Session :=
  { session with system := system }

/-- How the session ended. -/
def outcome? (session : Session) : Option (Except Failure Unit) :=
  match session.phase with
  | .ended outcome => some outcome
  | .running | .waiting _ => none

end Session
end Supervision
end AgentCohort

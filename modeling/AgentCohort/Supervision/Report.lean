import AgentCohort.Supervision.System

/-!
# Reports

Views of the entries that a journal has gained: the events for the listeners, the dealings
with the agents, the joins of one joiner, and the lines of the log.
-/

namespace AgentCohort
namespace Supervision

namespace Entry

/-- The event that an entry tells of. -/
def event? (entry : Entry) : Option Event :=
  match entry.occurrence with
  | .event event => some event
  | _ => none

/-- The line that an entry logs. -/
def line? (entry : Entry) : Option Log.Line :=
  match entry.occurrence with
  | .notice notice => some notice.line
  | _ => none

/-- Whether an entry tells what was done to an agent or what an agent did. -/
def isDealing (entry : Entry) : Bool :=
  match entry.occurrence with
  | .create _ | .start _ | .stop _ | .finish _ | .calledForceStop _ => true
  | .join .. | .joined .. | .notice _ | .event _ => false

/-- The agent that a joiner begins to wait for, or has waited for to the end. -/
def joinOf? (joiner : JoinerId) (entry : Entry) : Option (Bool × AgentId) :=
  match entry.occurrence with
  | .join other agent => if other = joiner then some (false, agent) else none
  | .joined other agent => if other = joiner then some (true, agent) else none
  | _ => none

end Entry

namespace System

/-- The entries that a system has gained. -/
def entriesSince (system older : System) : List Entry :=
  system.state.journal.since older.state.journal

/-- The names of the agents of the current cohort. -/
def cohortNames (system : System) : List String :=
  system.state.cohort.map system.state.nameOf

/-- All joiners. -/
def joiners (system : System) : List JoinerId :=
  (List.range system.runs.length).map JoinerId.run ++
    (List.range system.waits.length).map JoinerId.wait

end System

/-- The events, dealings, joins and lines among some entries. -/
structure Report where
  /-- The events. -/
  events : List Event
  /-- The entries about dealings with agents. -/
  dealings : List Entry
  /-- The joins of each joiner that has any: the time, whether it is the end of one, and
  the agent. -/
  joins : List (JoinerId × List (Nat × Bool × AgentId))
  /-- The lines of the log. -/
  lines : List Log.Line

/-- Sorts entries by what they are about. -/
def Report.ofEntries (joiners : List JoinerId) (entries : List Entry) : Report :=
  let joinsOf (joiner : JoinerId) :=
    entries.filterMap fun entry =>
      (entry.joinOf? joiner).map fun join => (entry.time, join)
  ⟨entries.filterMap Entry.event?,
   entries.filter Entry.isDealing,
   (joiners.map fun joiner => (joiner, joinsOf joiner)).filter fun joins => !joins.2.isEmpty,
   entries.filterMap Entry.line?⟩

end Supervision
end AgentCohort

import AgentCohort.Duration
import AgentCohort.Network.Resolver

/-!
# The host of a supervisor

What a supervisor finds on the host that it runs on: an address, a resolver for the names of
other hosts, and timers.  It sleeps between two cohorts, and with a join timeout it waits for an
agent only so long.  When such a timer ends is up to the host: its clock may be unable to count to
a deadline that lies far ahead, and what becomes of the timer then is not for the supervisor to
say.
-/

namespace AgentCohort
namespace Supervision

/-- When the timers of a host end. -/
structure Timers where
  /-- The time at which a sleep ends that begins at some time and is of some length. -/
  sleepEnd : Nat → Duration → Nat
  /-- The time at which a wait is given up that begins at some time and may last so long, if it
  ever is. -/
  timeoutEnd? : Nat → Duration → Option Nat

namespace Timers

/-- All timers end at their deadlines. -/
structure FireAtDeadline (timers : Timers) : Prop where
  /-- A sleep lasts as long as it is meant to. -/
  sleepEnd : ∀ beginning length, timers.sleepEnd beginning length = beginning + length.milliseconds
  /-- A wait is given up as soon as its time is over. -/
  timeoutEnd? : ∀ beginning length,
    timers.timeoutEnd? beginning length = some (beginning + length.milliseconds)

/-- The timers of a host whose clock can count to every deadline. -/
def unbounded : Timers where
  sleepEnd beginning length := beginning + length.milliseconds
  timeoutEnd? beginning length := some (beginning + length.milliseconds)

theorem fireAtDeadline_unbounded : unbounded.FireAtDeadline where
  sleepEnd _ _ := rfl
  timeoutEnd? _ _ := rfl

end Timers

/-- What a supervisor finds on its host. -/
structure Platform where
  /-- The primary address of the host. -/
  primary : Network.IpAddress
  /-- The addresses that the host finds for names. -/
  resolver : Network.Resolver
  /-- When the timers of the host end. -/
  timers : Timers

/-- A host on its own: it knows no names, and all its timers end at their deadlines. -/
def Platform.isolated : Platform where
  primary := .loopback
  resolver _ := []
  timers := .unbounded

end Supervision
end AgentCohort

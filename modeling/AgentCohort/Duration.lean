/-!
# Durations

Spans of time in whole milliseconds, and the way log lines and answers show them: in
seconds from one second on, in milliseconds below, without trailing zeros.
-/

namespace AgentCohort

/-- A span of time. -/
structure Duration where
  /-- The span in milliseconds. -/
  milliseconds : Nat
  deriving DecidableEq, Repr

namespace Duration

/-- A span of whole seconds. -/
def ofSeconds (seconds : Nat) : Duration :=
  ⟨seconds * 1000⟩

/-- Whole seconds in a span. -/
def seconds (d : Duration) : Nat :=
  d.milliseconds / 1000

/-- The decimals of a second, without trailing zeros. -/
def decimals (thousandths : Nat) : String :=
  if thousandths = 0 then ""
  else if thousandths % 100 = 0 then s!".{thousandths / 100}"
  else
    let digits := (if thousandths < 100 then "0" else "") ++
      (if thousandths < 10 then "0" else "") ++ toString thousandths
    if thousandths % 10 = 0 then "." ++ String.ofList (digits.toList.take 2)
    else "." ++ digits

/-- The span as a log line shows it: `10s`, `1.5s`, `999ms`, `0ns`. -/
def text (d : Duration) : String :=
  if 1000 ≤ d.milliseconds then
    s!"{d.seconds}{decimals (d.milliseconds % 1000)}s"
  else if d.milliseconds = 0 then
    "0ns"
  else
    s!"{d.milliseconds}ms"

end Duration
end AgentCohort

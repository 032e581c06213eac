import ControlNode.Cli.Failure
import ControlNode.Text.Blank
import ControlNode.Text.Number

/-!
# Durations on the command line

A duration is a number of seconds, or of milliseconds if its unit says so: `30`, `30s`, `500ms`.
It is never zero, and the number is below 2 to the 64.
-/

namespace ControlNode.Cli

inductive DurationError where
  | empty
  | invalid (text : String)
  | zero
deriving DecidableEq, Repr

/-- What is told about a text that is no duration. -/
def DurationError.message : DurationError → String
  | .empty => "duration must not be empty"
  | .invalid text => "invalid duration value: " ++ text
  | .zero => "duration must be greater than zero"

inductive DurationUnit where
  | seconds
  | milliseconds
deriving DecidableEq, Repr

def DurationUnit.times : DurationUnit → Nat → Duration
  | .seconds, n => .ofSeconds n
  | .milliseconds, n => .ofMilliseconds n

/-- Splits the unit off the end of a text; seconds if there is none. -/
def splitUnit (s : List Char) : List Char × DurationUnit :=
  match s.reverse with
  | 's' :: 'm' :: number => (number.reverse, .milliseconds)
  | 's' :: number => (number.reverse, .seconds)
  | _ => (s, .seconds)

/-- Reads a duration from a text without blanks around it. -/
def durationOfTrimmed (s : List Char) : Except DurationError Duration :=
  if s = [] then .error .empty
  else
    let (number, unit) := splitUnit s
    match Text.unsigned? number with
    | none => .error (.invalid (String.ofList s))
    | some n =>
      if Nat.pow 2 64 ≤ n then .error (.invalid (String.ofList s))
      else if n = 0 then .error .zero
      else .ok (unit.times n)

/-- Reads a duration. Blanks around it do not matter. -/
def duration (s : String) : Except DurationError Duration := durationOfTrimmed (Text.trim s.toList)

/-- Reads a duration, or fails with the usage error that tells why there is none. -/
def readDuration (s : String) : Except Failure Duration :=
  (duration s).mapError fun e => .usage e.message

end ControlNode.Cli

import TalkTimer.Session
import TalkTimer.Text.Numeral

/-!
# Steps of a script test

One step of a script test as it is written: the name of a command, or `tick` with an
optional number of seconds.
-/

namespace TalkTimer

open Text

/-- A step of a script test. -/
inductive Step
  | ticks (count : Nat)
  | command (c : Command)
  deriving DecidableEq, Repr

/-- Why a step cannot be read. -/
inductive StepError
  /-- What follows `tick` is no number below 2 to the 32nd. -/
  | badCount (word : Text)
  /-- The words are no step. -/
  | unknown (step : Text)
  deriving DecidableEq, Repr

namespace StepError

/-- The error as it is reported. -/
def message : StepError → Text
  | badCount w => "invalid tick count '".toList ++ w ++ ['\'']
  | unknown s => "unknown step '".toList ++ s ++ ['\'']

end StepError

namespace Step

/-- The command with a given name. -/
def commandNamed? (word : Text) : Option Command :=
  if word = "play".toList then some .play
  else if word = "pause".toList then some .pause
  else if word = "toggle".toList then some .toggle
  else if word = "next".toList then some .next
  else if word = "previous".toList then some .previous
  else if word = "auto".toList then some .toggleAutoAdvance
  else none

/-- Read a step. Blanks around its words do not count. -/
def read (step : Text) : Except StepError Step :=
  match words step with
  | [w] =>
    match commandNamed? w with
    | some c => .ok (.command c)
    | none => if w = "tick".toList then .ok (.ticks 1) else .error (.unknown step)
  | [w, n] =>
    if w = "tick".toList then
      match readBelow? 0x100000000 n with
      | some k => .ok (.ticks k)
      | none => .error (.badCount n)
    else .error (.unknown step)
  | _ => .error (.unknown step)

end Step
end TalkTimer

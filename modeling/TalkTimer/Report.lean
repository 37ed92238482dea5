import TalkTimer.Settings
import TalkTimer.Validation

/-!
# Reports

What a call of the program leaves behind: an exit code, what it wrote to its output, and what it
reported on its error stream. A report is a message of the program's own or a diagnostic about a
file, which a library sets out with an excerpt of that file.

A log may be asked for, and then stands on the error stream between the reports. It is no part of an
outcome.
-/

namespace TalkTimer

/-- What is reported on the error stream. -/
inductive Report
  /-- A message, with a line feed behind it. -/
  | message (t : Text)
  /-- A diagnostic about the source text of a file, coloured or not. -/
  | diagnostic (color : Color) (file source : Text) (d : Diagnostic)
  deriving DecidableEq, Repr

/-- How a call of the program ends. -/
structure Outcome where
  code : Nat
  output : Text
  reports : List Report
  deriving DecidableEq, Repr

namespace Outcome

/-- A failure with a message. -/
def fail (message : Text) : Outcome := ⟨1, [], [.message ("error: ".toList ++ message)]⟩

end Outcome
end TalkTimer

import TalkTimer.EventLoop
import TalkTimer.Text.Lines

/-!
# Keys and piped lines

A key press, or one line of piped input, asks for an event of the session or for help.
A piped line is the name of a key; an empty one is the space bar.
-/

namespace TalkTimer

/-- A key of the keyboard. -/
inductive Key
  | char (c : Char)
  | left
  | right
  | escape
  /-- Any key without a meaning here. -/
  | other
  deriving DecidableEq, Repr

/-- What the presenter asks for. -/
inductive Input
  | event (e : Event)
  | help
  deriving DecidableEq, Repr

namespace Input

/-- Carry out a command. -/
def command (c : Command) : Input := .event (.command c)

/-- What a key asks for. `control` tells whether the control key is held. -/
def ofKey? (control : Bool) : Key → Option Input
  | .char 'c' => if control then some (.event .quit) else none
  | .char ' ' | .char 'p' | .char 'P' => some (command .toggle)
  | .right | .char 'n' | .char 'N' => some (command .next)
  | .left | .char 'b' | .char 'B' => some (command .previous)
  | .char 'a' | .char 'A' => some (command .toggleAutoAdvance)
  | .escape | .char 'q' | .char 'Q' => some (.event .quit)
  | .char 'h' | .char 'H' | .char '?' => some .help
  | _ => none

/-- What a line of piped input asks for. -/
def ofLine? (line : Text) : Option Input :=
  match Text.trim line with
  | [] => ofKey? false (.char ' ')
  | [c] => ofKey? false (.char c)
  | _ => none

end Input
end TalkTimer

import TalkTimer.Report

/-!
# The command line

The arguments of a call name an action with its options. If the first positional argument
names no action, the call is one to play that file (`withDefaultAction`). The request that
the arguments make is then read by a library (`ArgumentReader`).
-/

namespace TalkTimer

open Text

/-- What the program is asked to do. -/
inductive Action
  | check (file : Text)
  /-- List the blocks of a script, or show them with all of their fields. -/
  | blocks (file : Text) (dump : Bool)
  | play (file : Text) (autoAdvance : Bool) (tickMs : Option Nat)
  | sample
  | test (path : Text)
  deriving DecidableEq, Repr

/-- An action with the options of every action. -/
structure Request where
  noColor : Bool
  config : Option Text
  action : Action
  deriving DecidableEq, Repr

namespace CommandLine

/-! ### The default action -/

/-- The names that may stand where an action is named. -/
def actionNames : List Text :=
  ["check", "blocks", "play", "sample", "test", "help"].map String.toList

/-- The option that says where the settings are. -/
def configOption : Text := "--config".toList

/-- Whether an argument is an option. -/
def isOption (a : Text) : Bool := a.head? == some '-'

/-- The position of the first argument that is neither an option nor the value of `--config`, where
positions are counted from `i`. -/
def firstPositionalFrom (i : Nat) : List Text → Option Nat
  | [] => none
  | a :: rest =>
    if a = configOption then
      match rest with
      | [] => none
      | _ :: rest => firstPositionalFrom (i + 2) rest
    else if isOption a then firstPositionalFrom (i + 1) rest
    else some i

/-- The position of the first argument that is neither an option nor the value of `--config`. The
argument at position 0 is the name of the program. -/
def firstPositional (args : List Text) : Option Nat := firstPositionalFrom 1 (args.drop 1)

/-- The action of a call that names a file only. -/
def defaultAction : Text := "play".toList

/-- Name the default action if the arguments name none. -/
def withDefaultAction (args : List Text) : List Text :=
  match firstPositional args with
  | none => args
  | some i =>
    if (args[i]?).any actionNames.contains then args else args.insertIdx i defaultAction

end CommandLine

/-- A library that reads the arguments of a call. -/
class ArgumentReader where
  /-- The request that arguments make, or how a call with them ends. The argument at position 0 is the
  name of the program. -/
  request : List Text → Except Outcome Request

end TalkTimer

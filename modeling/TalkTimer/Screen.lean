import TalkTimer.Session

/-!
# The screen

A block with its header and the status line of a session, either as plain lines or for a
terminal, where lines end with a carriage return as well and escape sequences clear what
was there before.
-/

namespace TalkTimer

open Text

/-- Where the screen is shown. -/
inductive Display
  | plain
  | terminal
  deriving DecidableEq, Repr

namespace Display

/-- The escape character. -/
def escape : Char := Char.ofNat 0x1B

/-- Clear the terminal and go to its first place. -/
def clearAll : Text := escape :: "[2J".toList ++ escape :: "[1;1H".toList

/-- Go to the start of the line and clear it. -/
def clearLine : Text := escape :: "[1G".toList ++ escape :: "[2K".toList

/-- A line with its end. -/
def line (d : Display) (t : Text) : Text :=
  match d with
  | .plain => t ++ ['\n']
  | .terminal => t ++ ['\r', '\n']

/-- Lines with their ends. -/
def lines (d : Display) (ts : List Text) : Text := ts.flatMap d.line

/-- What goes before a block: a new screen, or an empty line. -/
def beforeBlock : Display → Text
  | .plain => ['\n']
  | .terminal => clearAll

/-- The status line, with nothing after it on a terminal. -/
def status (d : Display) (t : Text) : Text :=
  match d with
  | .plain => t ++ ['\n']
  | .terminal => clearLine ++ t

end Display

/-- Whether a line is a marker without time control. -/
def isUntimedMarker (line : Text) : Bool := (readMarker? line).any Marker.untimed

namespace Session

/-- The header of a block: its number, how many there are, and its marker. -/
def header (s : Session) (b : Block) : Text :=
  "── [".toList ++ decimal (s.timer.block + 1) ++ ['/'] ++ decimal s.blocks.length ++
    "] ".toList ++ b.label ++ " ──".toList

/-- The lines of a block on the screen: the header, the content, and an empty line. Markers without
time control are never shown. -/
def blockLines (s : Session) : List Text :=
  match s.currentBlock? with
  | none => ["(empty script)".toList]
  | some b =>
    s.header b :: (shownLines b.content).filter (fun l => !isUntimedMarker l) ++ [[]]

/-- Show the current block. -/
def drawBlock (d : Display) (s : Session) : Text := d.beforeBlock ++ d.lines s.blockLines

/-- A counter with its budget. -/
def counter (elapsed budget : Nat) : Text := clock elapsed ++ '/' :: clock budget

/-- The status of the session in one line. -/
def statusText (s : Session) : Text :=
  (if s.timer.playing then ['▶'] else ['⏸']) ++ "  block ".toList ++
    (if s.isTimeControlled then
      counter s.timer.blockElapsed.toNat s.blockTime ++ " (".toList ++ decimal s.progress.round ++
        "%)".toList
    else clock s.timer.blockElapsed.toNat) ++
    (match s.parentTime? with
    | some t => "  parent ".toList ++ counter s.timer.parentElapsed.toNat t
    | none => []) ++
    "  total ".toList ++ counter s.timer.total.toNat s.scheduledTotal.toNat ++
    (if s.isOvertime then "  OVERTIME".toList else []) ++
    (if s.autoAdvance then "  [auto]".toList else [])

/-- Show the status. -/
def drawStatus (d : Display) (s : Session) : Text := d.status s.statusText

/-- Show the whole screen. -/
def draw (d : Display) (s : Session) : Text := s.drawBlock d ++ s.drawStatus d

/-- Show again what an update touched. -/
def redraw (d : Display) (s : Session) : Update → Text
  | .nothing => []
  | .block _ _ => s.draw d
  | .counters => s.drawStatus d
  | .controls => s.drawStatus d

end Session
end TalkTimer

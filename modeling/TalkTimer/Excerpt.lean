import TalkTimer.Report
import TalkTimer.Text.Width

/-!
# Excerpts

A diagnostic is set out with an excerpt of its source text: the message, the place, the line
with the faulty part underlined, and the notes. With colours on, escape sequences set off the
parts of the excerpt.

An excerpt stands on a grid of columns. A tab reaches to the next column that is a multiple
of four, and is shown as spaces; some characters take two columns or none.
-/

namespace TalkTimer

open Text

/-! ### Colours -/

/-- The parts of an excerpt that may be coloured. -/
inductive Accent
  | severity
  | message
  /-- The frame around the line. -/
  | frame
  /-- The faulty part and what underlines it. -/
  | fault
  deriving DecidableEq, Repr

namespace Accent

/-- Back to no colour. -/
def reset : Text := "\x1b[0m".toList

/-- The escape sequence that begins the accent. -/
def code : Accent → Text
  | severity => reset ++ "\x1b[1m\x1b[38;5;9m".toList
  | message => reset ++ "\x1b[1m".toList
  | frame => reset ++ "\x1b[36m".toList
  | fault => reset ++ "\x1b[31m".toList

/-- The text with the accent. The severity is followed by the message at once. -/
def apply (colors : Bool) (a : Accent) (t : Text) : Text :=
  if !colors then t
  else match a with
    | severity => code severity ++ t
    | a => a.code ++ t ++ reset

end Accent

/-! ### Columns -/

/-- A character of a line with the byte where it starts and the columns it takes. -/
structure Cell where
  char : Char
  start : Nat
  columns : Nat
  deriving DecidableEq, Repr

namespace Cell

/-- The cells of a line that starts at a byte and a column. -/
def ofText (start column : Nat) : Text → List Cell
  | [] => []
  | c :: t =>
    let columns := if c = '\t' then 4 - column % 4 else width c
    ⟨c, start, columns⟩ :: ofText (start + c.utf8Size) (column + columns) t

/-- The cell behind the end of a line, where a fault may reach. -/
def pastEnd (start : Nat) : Cell := ⟨Char.ofNat 0, start, 1⟩

/-- Whether the cell lies in a span. -/
def isIn (s : Span) (c : Cell) : Bool := s.start < c.start + c.char.utf8Size && c.start < s.stop

/-- The cell as it is shown. -/
def shown (c : Cell) : Text := if c.char = '\t' then List.replicate c.columns ' ' else [c.char]

/-- What stands below the cell. -/
def underline (s : Span) (c : Cell) : Text :=
  if c.isIn s then List.replicate c.columns '^'
  else if c.start < s.stop then List.replicate c.columns ' '
  else []

end Cell

/-- Texts of cells put together, where those in the span have the accent of a fault. -/
def accentFault (colors : Bool) (s : Span) (text : Cell → Text) (cells : List Cell) : Text :=
  (cells.splitBy fun a b => a.isIn s == b.isIn s).flatMap fun run =>
    let t := run.flatMap text
    if run.head?.any (Cell.isIn s) then Accent.fault.apply colors t else t

/-! ### Excerpts -/

/-- What an excerpt shows. -/
structure Excerpt where
  file : Text
  diagnostic : Diagnostic
  /-- The line where the span of the diagnostic begins. -/
  line : SourceLine
  deriving DecidableEq, Repr

namespace Excerpt

/-- The line of a source text that a byte lies in: the last one that begins no later. -/
def lineAt? (source : Text) (byte : Nat) : Option SourceLine :=
  ((sourceLines source).filter fun l => l.start ≤ byte).getLast?

/-- The excerpt for a diagnostic about a source text. -/
def ofDiagnostic (file source : Text) (d : Diagnostic) : Excerpt :=
  ⟨file, d, (lineAt? source d.span.start).getD ⟨0, 0, []⟩⟩

/-- The line without the line ending and the null characters it may end with. -/
def lineText (e : Excerpt) : Text :=
  (e.line.text.reverse.dropWhile fun c => c == '\r' || c == Char.ofNat 0).reverse

/-- The cells of the line. -/
def cells (e : Excerpt) : List Cell := Cell.ofText e.line.start 0 e.lineText

/-- The column where the faulty part starts, counted in characters from one. -/
def column (e : Excerpt) : Nat :=
  ((Cell.ofText e.line.start 0 e.line.text).filter fun c => c.start < e.diagnostic.span.start).length
    + 1

/-- The number of the line, counted from one. -/
def lineNumber (e : Excerpt) : Text := decimal (e.line.number + 1)

/-- The margin left of the frame. -/
def margin (e : Excerpt) : Text := List.replicate (e.lineNumber.length + 1) ' '

/-- The frame left of a line. -/
def border (colors : Bool) : Text := Accent.frame.apply colors ['│']

/-- The lines of the excerpt. -/
def render (colors : Bool) (e : Excerpt) : List Text :=
  let d := e.diagnostic
  let edge := e.margin ++ border colors
  [ Accent.severity.apply colors "error".toList ++
      Accent.message.apply colors (": ".toList ++ d.message),
    e.margin ++ Accent.frame.apply colors "┌─".toList ++ ' ' :: e.file ++ ':' :: e.lineNumber ++
      ':' :: decimal e.column,
    edge,
    Accent.frame.apply colors e.lineNumber ++ ' ' :: border colors ++ ' ' ::
      accentFault colors d.span Cell.shown e.cells,
    edge ++ ' ' :: accentFault colors d.span (Cell.underline d.span)
      (e.cells ++ [Cell.pastEnd (e.line.start + size e.lineText)]) ] ++
  (if d.notes.isEmpty then [] else [edge]) ++
  (d.notes.map fun n => e.margin ++ Accent.frame.apply colors ['='] ++ ' ' :: n) ++ [[]]

end Excerpt

/-! ### Reports as they are written -/

/-- Whether a choice gives colours, where `allowed` tells whether the environment allows them. -/
def Color.isOn (allowed : Bool) : Color → Bool
  | auto => allowed
  | always => true
  | never => false

/-- A report as it is written. -/
def Report.text (allowed : Bool) : Report → Text
  | message t => t ++ ['\n']
  | diagnostic color file source d =>
    ((Excerpt.ofDiagnostic file source d).render (color.isOn allowed)).flatMap fun l => l ++ ['\n']

/-- All that is reported at the end of a call. -/
def Outcome.errors (allowed : Bool) (o : Outcome) : Text := o.reports.flatMap (Report.text allowed)

end TalkTimer

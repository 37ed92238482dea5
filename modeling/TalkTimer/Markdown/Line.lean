import TalkTimer.Text.Blank

/-!
# Lines and columns of a Markdown text

A line ends with a line feed, a carriage return, or both. Indentation is counted in
columns: a tab reaches to the next multiple of four, and a construct may use up a part
of it, so a `Cursor` remembers how many columns of a tab are still to be used.
-/

namespace TalkTimer
namespace Markdown

/-- A line without its ending. `byReturn` tells that a carriage return alone ended it. -/
structure Line where
  text : Text
  byReturn : Bool
  deriving DecidableEq, Repr

/-- Put `c` in front of the first line. -/
def growLine (c : Char) : List Line → List Line
  | [] => [⟨[c], false⟩]
  | l :: ls => ⟨c :: l.text, l.byReturn⟩ :: ls

/-- The lines of a text. -/
def splitLines : Text → List Line
  | [] => []
  | '\r' :: '\n' :: t => ⟨[], false⟩ :: splitLines t
  | '\r' :: t => ⟨[], true⟩ :: splitLines t
  | '\n' :: t => ⟨[], false⟩ :: splitLines t
  | c :: t => growLine c (splitLines t)

/-- White space within a line. -/
def isGap (c : Char) : Bool := c == ' ' || c == '\t' || c.toNat == 0x0B || c.toNat == 0x0C

/-- A space or a tab. -/
def isSpaceOrTab (c : Char) : Bool := c == ' ' || c == '\t'

/-- A line with nothing but white space. -/
def isBlankLine (t : Text) : Bool := t.all isGap

/-- A place in a line: the rest of it, its column, and the columns of a tab before it that are not
used yet. -/
structure Cursor where
  rest : Text
  column : Nat
  owed : Nat
  deriving DecidableEq, Repr

namespace Cursor

/-- The start of a line. -/
def start (t : Text) : Cursor := ⟨t, 0, 0⟩

/-- Use up one column of white space. -/
def skipColumn? (c : Cursor) : Option Cursor :=
  match c.owed, c.rest with
  | n + 1, _ => some { c with owed := n }
  | 0, ' ' :: r => some ⟨r, c.column + 1, 0⟩
  | 0, '\t' :: r => some ⟨r, c.column + (4 - c.column % 4), 3 - c.column % 4⟩
  | 0, _ => none

/-- Use up at most `n` columns of white space, and say how many. -/
def skipColumns : Nat → Cursor → Nat × Cursor
  | 0, c => (0, c)
  | n + 1, c =>
    match skipColumn? c with
    | none => (0, c)
    | some c' => ((skipColumns n c').1 + 1, (skipColumns n c').2)

/-- Pass over `n` characters that are not white space. -/
def advance (n : Nat) (c : Cursor) : Cursor := ⟨c.rest.drop n, c.column + n, 0⟩

/-- Whether the line ends here. -/
def atEnd (c : Cursor) : Bool := c.rest.isEmpty

end Cursor
end Markdown
end TalkTimer

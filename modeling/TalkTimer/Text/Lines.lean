import TalkTimer.Text.Blank

/-!
# Lines

Two ways to cut a text into lines. `lines` cuts at every line feed, so a text with
`n` line feeds has `n + 1` lines, and `joinLines` puts them back together. `shownLines`
is what a reader sees: a line feed ends a line, together with a carriage return
before it, and nothing stands after the last one.

Positions are counted in bytes of UTF-8 (`size`); `sourceLines` gives each line its
number and its first byte.
-/

namespace TalkTimer
namespace Text

/-- The number of bytes that UTF-8 takes for a text. -/
def size : Text → Nat
  | [] => 0
  | c :: t => c.utf8Size + size t

/-- The bytes of two texts add up. -/
@[simp] theorem size_append (s t : Text) : size (s ++ t) = size s + size t := by
  induction s with
  | nil => simp [size]
  | cons c s ih => simp [size, ih, Nat.add_assoc]

/-- The lines of a text, cut at every line feed. There is always a last line. -/
def lines : Text → List Text
  | [] => [[]]
  | c :: t => if c = '\n' then [] :: lines t else growFirst c (lines t)

/-- Lines put together again, with a line feed between neighbours. -/
def joinLines (ls : List Text) : Text := ['\n'].intercalate ls

/-- A text that grows has a first word. -/
theorem growFirst_ne_nil (c : Char) (ws : List Text) : growFirst c ws ≠ [] := by
  cases ws <;> simp [growFirst]

/-- Every text has a line. -/
theorem lines_ne_nil (t : Text) : lines t ≠ [] := by
  cases t with
  | nil => simp [lines]
  | cons c t =>
    rw [lines]
    split
    · simp
    · exact growFirst_ne_nil c (lines t)

@[simp] theorem joinLines_nil : joinLines [] = [] := rfl

@[simp] theorem joinLines_singleton (l : Text) : joinLines [l] = l := by
  simp [joinLines, List.intercalate]

/-- A line feed stands between the first line and the others. -/
theorem joinLines_cons (l : Text) {ls : List Text} (h : ls ≠ []) :
    joinLines (l :: ls) = l ++ '\n' :: joinLines ls := by
  cases ls with
  | nil => exact absurd rfl h
  | cons l' ls => simp [joinLines, List.intercalate]

/-- A character put in front of the first line stands in front of the whole text. -/
theorem joinLines_growFirst (c : Char) {ls : List Text} (h : ls ≠ []) :
    joinLines (growFirst c ls) = c :: joinLines ls := by
  cases ls with
  | nil => exact absurd rfl h
  | cons l ls =>
    cases ls with
    | nil => simp [growFirst]
    | cons l' ls => simp [growFirst, joinLines, List.intercalate]

/-- Cutting a text into lines loses nothing. -/
theorem joinLines_lines (t : Text) : joinLines (lines t) = t := by
  induction t with
  | nil => rfl
  | cons c t ih =>
    rw [lines]
    split
    · next h => rw [joinLines_cons [] (lines_ne_nil t), ih, h]; rfl
    · rw [joinLines_growFirst c (lines_ne_nil t), ih]

/-- A line without the carriage return it may end with. -/
def dropReturn (l : Text) : Text :=
  if l.getLast? = some '\r' then l.dropLast else l

/-- Each line but the last was ended by a line feed; the last one counts only if it is not empty. -/
def endLines : List Text → List Text
  | [] => []
  | [l] => if l.isEmpty then [] else [l]
  | l :: l' :: ls => dropReturn l :: endLines (l' :: ls)

/-- The lines of a text as a reader sees them. -/
def shownLines (t : Text) : List Text := endLines (lines t)

end Text

/-- A stretch of bytes, from `start` up to and without `stop`. -/
structure Span where
  start : Nat
  stop : Nat
  deriving DecidableEq, Repr

/-- A line of a source text with its number and its first byte, both counted from zero. -/
structure SourceLine where
  number : Nat
  start : Nat
  text : Text
  deriving DecidableEq, Repr

namespace SourceLine

/-- The byte after the last one of the line; a line feed or the end of the text stands there. -/
def stop (l : SourceLine) : Nat := l.start + Text.size l.text

/-- The bytes of the line without the blanks at its ends. -/
def trimmedSpan (l : SourceLine) : Span where
  start := l.start + (Text.size l.text - Text.size (Text.trimStart l.text))
  stop := max (l.start + Text.size (Text.trimEnd l.text))
    (l.start + (Text.size l.text - Text.size (Text.trimStart l.text)))

end SourceLine

namespace Text

/-- Number lines that follow each other, with one byte for the line feed between them. -/
def placeLines (number start : Nat) : List Text → List SourceLine
  | [] => []
  | l :: ls => ⟨number, start, l⟩ :: placeLines (number + 1) (start + size l + 1) ls

/-- The lines of a source text with their places. -/
def sourceLines (source : Text) : List SourceLine := placeLines 0 0 (lines source)

end Text
end TalkTimer

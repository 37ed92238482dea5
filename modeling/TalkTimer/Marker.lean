import TalkTimer.Text.Numeral

/-!
# Time markers

A marker line opens a block of a script: question marks give the nesting level, then
comes a clock `MM:SS` with seconds in steps of five, or `!!` for a block without time
control. `classify` says of any line what it is to this language, and `Marker.text`
writes a marker in its canonical form.
-/

namespace TalkTimer

open Text

/-- A time budget in seconds with a nesting level, 1 for a top-level section. A marker without
time control is `untimed`. -/
structure Marker where
  time : Nat
  level : Nat
  untimed : Bool
  deriving DecidableEq, Repr

namespace Marker

/-- The marker of a block that may take `time` seconds. -/
def timed (level time : Nat) : Marker := ⟨time, level, false⟩

/-- The marker of a block without time control. -/
def free (level : Nat) : Marker := ⟨0, level, true⟩

/-- Whether the block has a time to keep. -/
def isTimeControlled (m : Marker) : Bool := !m.untimed

/-- The canonical form of a marker, such as `??01:30` or `?!!`. -/
def text (m : Marker) : Text :=
  List.replicate m.level '?' ++ if m.untimed then ['!', '!'] else clock m.time

end Marker

/-- What a line is to the marker language. -/
inductive LineClass
  /-- Ordinary content: the line does not start with a question mark. -/
  | text
  /-- A well-formed marker. -/
  | marker (m : Marker)
  /-- A clock whose seconds are no multiple of five. -/
  | oddSeconds (seconds : Nat)
  /-- A line that starts with a question mark and has no marker's form. -/
  | malformed
  deriving DecidableEq, Repr

namespace LineClass

/-- The marker on a well-formed marker line. -/
def marker? : LineClass → Option Marker
  | marker m => some m
  | _ => none

/-- Whether the line starts with a question mark. -/
def isCandidate : LineClass → Bool
  | text => false
  | _ => true

end LineClass

/-- Minutes and seconds of a clock: two digits, a colon, two digits, and nothing else. -/
def readClock? : Text → Option (Nat × Nat)
  | [a, b, ':', c, d] =>
    if a.isDigit && b.isDigit && c.isDigit && d.isDigit then
      some (digitsValue 0 [a, b], digitsValue 0 [c, d])
    else none
  | _ => none

/-- What follows the question marks: `!!` if it is there, and the rest without blanks before it. -/
def splitUntimed : Text → Bool × Text
  | '!' :: '!' :: r => (true, trimStart r)
  | r => (false, trimStart r)

/-- The class of a candidate of the given level, by what follows its question marks. An untimed
marker may show a clock; the clock has to be well-formed but does not count. -/
def classifyAfterLevel (level : Nat) (t : Text) : LineClass :=
  match splitUntimed t with
  | (untimed, []) => if untimed then .marker (.free level) else .malformed
  | (untimed, r) =>
    match readClock? r with
    | none => .malformed
    | some (minutes, seconds) =>
      if seconds % 5 ≠ 0 then .oddSeconds seconds
      else if untimed then .marker (.free level)
      else .marker (.timed level (minutes * 60 + seconds))

/-- What a line is to the marker language. Blanks around it do not count. -/
def classify (line : Text) : LineClass :=
  let t := trim line
  let level := (t.takeWhile (· == '?')).length
  if level = 0 then .text
  else classifyAfterLevel level (t.dropWhile (· == '?'))

/-- The marker on a line, if it is a well-formed marker line. -/
def readMarker? (line : Text) : Option Marker := (classify line).marker?

theorem readMarker?_eq_some_iff {line : Text} {m : Marker} :
    readMarker? line = some m ↔ classify line = .marker m := by
  rw [readMarker?]
  cases classify line <;> simp [LineClass.marker?]

end TalkTimer

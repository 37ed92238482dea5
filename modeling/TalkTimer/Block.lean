import TalkTimer.Marker
import TalkTimer.Text.Lines

/-!
# Blocks

A block is a run of script text under one marker. Blocks form a flat sequence; that
one lies within another is told by level and position alone (see `Section`).
-/

namespace TalkTimer

/-- A run of script text. Only text before the first marker has no marker. `line` is the line of the
marker, counted from zero, and `span` the bytes of the block with its marker line. -/
structure Block where
  content : Text
  marker : Option Marker
  line : Nat
  span : Span
  deriving DecidableEq, Repr

namespace Block

/-- The level of the marker, 0 for leading text. -/
def level (b : Block) : Nat := (b.marker.map Marker.level).getD 0

/-- Whether the block has a time to keep. -/
def isTimeControlled (b : Block) : Bool := b.marker.any Marker.isTimeControlled

/-- Whether the block's marker says that it has no time to keep. -/
def isUntimed (b : Block) : Bool := b.marker.any Marker.untimed

/-- The time budget in seconds; 0 without one. -/
def time (b : Block) : Nat :=
  match b.marker with
  | some m => if m.isTimeControlled then m.time else 0
  | none => 0

/-- Whether the block opens a top-level section. -/
def isTopLevel (b : Block) : Bool := b.level == 1

/-- How a list or a header names the block's marker. -/
def label (b : Block) : Text :=
  match b.marker with
  | some m => m.text
  | none => "(leading)".toList

/-! ### What the marker says -/

variable {b : Block} {m : Marker}

theorem level_of_marker (h : b.marker = some m) : b.level = m.level := by
  simp [level, h]

theorem isTimeControlled_of_marker (h : b.marker = some m) :
    b.isTimeControlled = m.isTimeControlled := by
  simp [isTimeControlled, h]

/-- Only a marker gives a block a level. -/
theorem exists_marker_of_level_pos (b : Block) (h : 0 < b.level) : ∃ m, b.marker = some m := by
  cases hm : b.marker with
  | none => simp [level, hm] at h
  | some m => exact ⟨m, rfl⟩

end Block
end TalkTimer

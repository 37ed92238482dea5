import TalkTimer.Block

/-!
# Cutting a script into blocks

`segment` cuts a source text at its marker lines. A marker line belongs to the span of
its block and never to the content of any. Leading text makes a block only if there is
something to show in it, and a marker on the very last line makes none. Lines that only
look like markers are content like any other.
-/

namespace TalkTimer

open Text

/-- The block that is being gathered, with its lines so far, last one first. -/
structure OpenBlock where
  marker : Option Marker
  line : Nat
  start : Nat
  gathered : List Text
  deriving DecidableEq, Repr

namespace OpenBlock

/-- Text before the first marker. -/
def leading : OpenBlock := ⟨none, 0, 0, []⟩

/-- The block that a marker line opens. -/
def atMarker (m : Marker) (l : SourceLine) : OpenBlock := ⟨some m, l.number, l.start, []⟩

/-- Leading text without anything to show. -/
def isVoid (b : OpenBlock) : Bool := b.marker.isNone && b.gathered.all allBlank

/-- A marker with no line after it. -/
def isBareMarker (b : OpenBlock) : Bool := b.marker.isSome && b.gathered.isEmpty

/-- The block as it stands, up to the byte `stop`. -/
def toBlock (b : OpenBlock) (stop : Nat) : Block where
  content := joinLines b.gathered.reverse
  marker := b.marker
  line := b.line
  span := ⟨b.start, stop⟩

/-- Close the block because another one begins at the byte `stop`. -/
def close (b : OpenBlock) (stop : Nat) : List Block :=
  if b.isVoid then [] else [b.toBlock stop]

/-- Close the block because the text ends at the byte `stop`. -/
def finish (b : OpenBlock) (stop : Nat) : List Block :=
  if b.isBareMarker then [] else b.close stop

end OpenBlock

/-- The blocks that an open block and the lines after it make in a text that ends at `stop`. -/
def segmentLines (stop : Nat) (b : OpenBlock) : List SourceLine → List Block
  | [] => b.finish stop
  | l :: ls =>
    match readMarker? l.text with
    | some m => b.close l.start ++ segmentLines stop (.atMarker m l) ls
    | none => segmentLines stop { b with gathered := l.text :: b.gathered } ls

/-- A marker line closes the open block and opens its own. -/
theorem segmentLines_cons_some {l : SourceLine} {m : Marker} (h : readMarker? l.text = some m)
    (stop : Nat) (b : OpenBlock) (ls : List SourceLine) :
    segmentLines stop b (l :: ls) = b.close l.start ++ segmentLines stop (.atMarker m l) ls := by
  rw [segmentLines, h]

/-- Any other line is gathered into the open block. -/
theorem segmentLines_cons_none {l : SourceLine} (h : readMarker? l.text = none)
    (stop : Nat) (b : OpenBlock) (ls : List SourceLine) :
    segmentLines stop b (l :: ls) =
      segmentLines stop { b with gathered := l.text :: b.gathered } ls := by
  rw [segmentLines, h]

/-- The blocks of a source text, in document order. -/
def segment (source : Text) : List Block :=
  segmentLines (size source) .leading (sourceLines source)

end TalkTimer

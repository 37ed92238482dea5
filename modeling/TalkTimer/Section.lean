import TalkTimer.Block

/-!
# Sections

A top-level section is a level-1 block with every block after it up to the next level-1
block. Two questions are answered by looking back from a block: which section it lies in
(`sectionOf?`), and which block it reports its parent time against (`parentOf?`).
-/

namespace TalkTimer

/-- The position of the last level-1 block of a list. -/
def lastTopLevel? : List Block → Option Nat
  | [] => none
  | b :: bs =>
    match lastTopLevel? bs with
    | some i => some (i + 1)
    | none => if b.isTopLevel then some 0 else none

/-- The position of the nearest level-1 block before position `i`. -/
def topLevelBefore? (blocks : List Block) (i : Nat) : Option Nat := lastTopLevel? (blocks.take i)

/-- The position of the level-1 block that opens the section of block `i`. A block without marker
lies in no section, and neither does one with no level-1 block before it. -/
def sectionOf? (blocks : List Block) (i : Nat) : Option Nat :=
  match blocks[i]? with
  | none => none
  | some b =>
    if b.marker.isNone then none
    else if b.isTopLevel then some i
    else topLevelBefore? blocks i

/-- The level-1 block that a deeper block reports its parent time against. -/
def parentOf? (blocks : List Block) (i : Nat) : Option Block :=
  match blocks[i]? with
  | none => none
  | some b =>
    if b.level ≤ 1 then none
    else (topLevelBefore? blocks i).bind fun j => blocks[j]?

/-- The planned running time: the budgets of all level-1 blocks together, summed in 32 bits. -/
def scheduledTotal : List Block → UInt32
  | [] => 0
  | b :: bs => (if b.isTopLevel then UInt32.ofNat b.time else 0) + scheduledTotal bs

end TalkTimer

import TalkTimer.Script
import TalkTimer.Text.Binary64
import TalkTimer.Timer

/-!
# Sessions

A session is a timer at work: the blocks that are presented, the state of the timer, and
whether it advances by itself. Ticks and commands change it one after the other, and each
change says how much of the screen it touches (`Update`).
-/

namespace TalkTimer

/-- A request to the session. -/
inductive Command
  | play
  | pause
  | toggle
  | next
  | previous
  | setAutoAdvance (on : Bool)
  | toggleAutoAdvance
  deriving DecidableEq, Repr

/-- What a tick or a command changed. -/
inductive Update
  | nothing
  /-- Only counters changed. -/
  | counters
  /-- The current block changed. -/
  | block (source target : Nat)
  /-- The time was held or set running, or auto-advance was switched. -/
  | controls
  deriving DecidableEq, Repr

/-- A presentation under way. -/
structure Session where
  blocks : List Block
  timer : Timer
  autoAdvance : Bool
  deriving DecidableEq, Repr

namespace Session

/-- The beginning of a presentation. -/
def start (blocks : List Block) (autoAdvance : Bool) : Session := ⟨blocks, .start, autoAdvance⟩

/-- What changed between two states of the timer. -/
def compare (before after : Timer) : Update :=
  if before.block ≠ after.block then .block before.block after.block
  else if before.playing ≠ after.playing then .controls
  else if before ≠ after then .counters
  else .nothing

/-- Put the timer into another state. -/
def setTimer (after : Timer) (s : Session) : Session × Update :=
  ({ s with timer := after }, compare s.timer after)

/-- Switch auto-advance. -/
def setAutoAdvance (on : Bool) (s : Session) : Session × Update :=
  if s.autoAdvance = on then (s, .nothing) else ({ s with autoAdvance := on }, .controls)

/-- One second goes by. -/
def tick (s : Session) : Session × Update := s.setTimer (s.timer.tick s.blocks s.autoAdvance)

/-- Carry out a command. -/
def dispatch (s : Session) : Command → Session × Update
  | .play => s.setTimer s.timer.play
  | .pause => s.setTimer s.timer.pause
  | .toggle => s.setTimer s.timer.toggle
  | .next => s.setTimer (s.timer.next s.blocks)
  | .previous => s.setTimer (s.timer.previous s.blocks)
  | .setAutoAdvance on => s.setAutoAdvance on
  | .toggleAutoAdvance => s.setAutoAdvance (!s.autoAdvance)

/-! ### What the session shows -/

/-- The block that is presented. -/
def currentBlock? (s : Session) : Option Block := s.blocks[s.timer.block]?

/-- The level-1 block that the current block lies in, if it lies deeper. -/
def parentBlock? (s : Session) : Option Block := parentOf? s.blocks s.timer.block

/-- The budget of the current block, 0 without one. -/
def blockTime (s : Session) : Nat := (s.currentBlock?.map Block.time).getD 0

/-- The budget of the parent block. -/
def parentTime? (s : Session) : Option Nat := s.parentBlock?.map Block.time

/-- Whether the current block has a time to keep. -/
def isTimeControlled (s : Session) : Bool := s.currentBlock?.any Block.isTimeControlled

/-- Whether the current block takes more time than it has. -/
def isOvertime (s : Session) : Bool :=
  s.isTimeControlled && s.blockTime < s.timer.blockElapsed.toNat

/-- The percentage of the block's budget that is used. It may pass 100, and is 100 without a
budget. -/
def progress (s : Session) : Binary64 :=
  if !s.isTimeControlled || s.blockTime = 0 then .quotient 100 1
  else .quotient (100 * s.timer.blockElapsed.toNat) s.blockTime

/-- The planned running time. -/
def scheduledTotal (s : Session) : UInt32 := TalkTimer.scheduledTotal s.blocks

/-- Whether no block follows the current one. -/
def isAtLast (s : Session) : Bool := s.blocks.length ≤ s.timer.block + 1

end Session
end TalkTimer

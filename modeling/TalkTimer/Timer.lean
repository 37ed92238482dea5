import TalkTimer.Section

/-!
# The talk timer

The state of a timer over a list of blocks, and how it changes: by play and pause, by
moves to the neighbouring block, and by ticks of one second. A move restarts the block
counter; it restarts the counter of the section only when it leaves the section.
-/

namespace TalkTimer

/-- The state of a talk timer. All counters are whole seconds in 32 bits; behind the largest number a
counter begins at nothing again. -/
structure Timer where
  /-- The position of the current block. -/
  block : Nat
  playing : Bool
  /-- The time of the whole talk. -/
  total : UInt32
  /-- The time in the current block. -/
  blockElapsed : UInt32
  /-- The time in the current top-level section. -/
  parentElapsed : UInt32
  deriving DecidableEq, Repr

namespace Timer

/-- Paused at the first block with all counters at zero. -/
def start : Timer := ⟨0, false, 0, 0, 0⟩

/-- Let the time run. -/
def play (s : Timer) : Timer := { s with playing := true }

/-- Hold the time. -/
def pause (s : Timer) : Timer := { s with playing := false }

/-- Let the time run if it is held, and hold it if it runs. -/
def toggle (s : Timer) : Timer := { s with playing := !s.playing }

/-- Whether there is a block after the current one. -/
def hasNext (blocks : List Block) (s : Timer) : Bool := s.block + 1 < blocks.length

/-- Make another block the current one. -/
def moveTo (blocks : List Block) (target : Nat) (s : Timer) : Timer :=
  { s with
    block := target
    blockElapsed := 0
    parentElapsed :=
      if sectionOf? blocks s.block = sectionOf? blocks target then s.parentElapsed else 0 }

/-- Move to the block after the current one, if there is one. -/
def next (blocks : List Block) (s : Timer) : Timer :=
  if s.hasNext blocks then s.moveTo blocks (s.block + 1) else s

/-- Move to the block before the current one, if there is one. -/
def previous (blocks : List Block) (s : Timer) : Timer :=
  if s.block = 0 ∨ blocks = [] then s else s.moveTo blocks (s.block - 1)

/-- One more second on all counters. -/
def advance (s : Timer) : Timer :=
  { s with
    total := s.total + 1
    blockElapsed := s.blockElapsed + 1
    parentElapsed := s.parentElapsed + 1 }

/-- Whether the current block has a budget that is used up. -/
def budgetSpent (blocks : List Block) (s : Timer) : Bool :=
  blocks[s.block]?.any fun b => b.isTimeControlled && 0 < b.time && b.time ≤ s.blockElapsed.toNat

/-- One second of the talk; nothing happens while the time is held. With auto-advance, a block whose
budget is used up gives way to the next one within the same second. -/
def tick (blocks : List Block) (autoAdvance : Bool) (s : Timer) : Timer :=
  if !s.playing then s
  else if autoAdvance && s.advance.budgetSpent blocks && s.advance.hasNext blocks then
    s.advance.next blocks
  else s.advance

/-! ### The parts of the timer after a step -/

section Parts

variable (blocks : List Block) (target : Nat) (t : Timer)

@[simp] theorem advance_block : t.advance.block = t.block := rfl
@[simp] theorem advance_playing : t.advance.playing = t.playing := rfl
@[simp] theorem advance_total : t.advance.total = t.total + 1 := rfl
@[simp] theorem advance_blockElapsed : t.advance.blockElapsed = t.blockElapsed + 1 := rfl
@[simp] theorem advance_parentElapsed : t.advance.parentElapsed = t.parentElapsed + 1 := rfl

@[simp] theorem moveTo_block : (t.moveTo blocks target).block = target := rfl
@[simp] theorem moveTo_playing : (t.moveTo blocks target).playing = t.playing := rfl
@[simp] theorem moveTo_total : (t.moveTo blocks target).total = t.total := rfl
@[simp] theorem moveTo_blockElapsed : (t.moveTo blocks target).blockElapsed = 0 := rfl

/-- A move keeps the counter of the section exactly if it stays in the section. -/
@[simp] theorem moveTo_parentElapsed :
    (t.moveTo blocks target).parentElapsed =
      if sectionOf? blocks t.block = sectionOf? blocks target then t.parentElapsed else 0 := rfl

/-- When a budget is used up: there has to be one, and it has to be more than nothing. -/
theorem budgetSpent_iff :
    t.budgetSpent blocks = true ↔
      ∃ b, blocks[t.block]? = some b ∧ b.isTimeControlled = true ∧ 0 < b.time ∧
        b.time ≤ t.blockElapsed.toNat := by
  simp only [budgetSpent, Option.any_eq_true, Bool.and_eq_true, decide_eq_true_eq, and_assoc]

theorem hasNext_iff : t.hasNext blocks = true ↔ t.block + 1 < blocks.length := by
  rw [hasNext, decide_eq_true_iff]

end Parts

end Timer
end TalkTimer

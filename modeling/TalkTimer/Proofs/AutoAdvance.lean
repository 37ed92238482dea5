import TalkTimer.Proofs.Schedule

/-!
# Auto-advance never skips and never lags

A session that advances by itself leaves a block in the very second in which the budget of the block
is used up, neither earlier nor later, and it goes to the next block and no further.

* **One second** (`tick_block_eq_succ_iff`, `not_isDue_tick`) – a tick moves on exactly if it uses up
  the budget, so that after it no move is due.
* **One event** (`TimerStep.not_isDue`) – no other event makes a move due: a move to a block starts
  its counter anew, and the rest leaves place and counter alone.
* **Any run** (`Session.IsPunctual`) – so no move is ever due in a session that has been advancing by
  itself all along.
-/

namespace TalkTimer

variable {blocks : List Block} {t u : Timer} {e : Event}

/-! ## One second -/

namespace Timer

/-- A move is **due**: the block has a budget that is used up, and there is a block after it. -/
def IsDue (blocks : List Block) (t : Timer) : Prop :=
  ∃ b, budget? blocks t.block = some b ∧ b ≤ t.blockElapsed.toNat

theorem isDue_iff :
    t.IsDue blocks ↔
      ∃ b, blocks[t.block]? = some b ∧ b.isTimeControlled = true ∧ 0 < b.time ∧
        b.time ≤ t.blockElapsed.toNat ∧ t.block + 1 < blocks.length := by
  constructor
  · rintro ⟨time, htime, hle⟩
    obtain ⟨hlen, b, hb, hcontrol, hpos, -, rfl⟩ := budget?_eq_some_iff.mp htime
    exact ⟨b, hb, hcontrol, hpos, hle, hlen⟩
  · rintro ⟨b, hb, hcontrol, hpos, hle, hlen⟩
    have hfits : b.time < UInt32.size := Nat.lt_of_le_of_lt hle (UInt32.toNat_lt_size _)
    exact ⟨b.time, budget?_eq_some_iff.mpr ⟨hlen, b, hb, hcontrol, hpos, hfits, rfl⟩, hle⟩

/-- A budget is more than nothing, so no move is due right after a move. -/
theorem not_isDue_moveTo (t : Timer) (target : Nat) : ¬ (t.moveTo blocks target).IsDue blocks := by
  rintro ⟨time, htime, hle⟩
  have hpos := budget?_pos htime
  rw [moveTo_blockElapsed, UInt32.toNat_zero] at hle
  omega

/-- A tick moves on if that is due by then. -/
theorem tick_of_isDue (hp : t.playing = true) (h : t.advance.IsDue blocks) :
    t.tick blocks true = t.advance.moveTo blocks (t.block + 1) := by
  rw [tick_of_playing hp, if_pos ⟨rfl, budgetSpent_advance_iff.mpr h⟩]

theorem tick_of_not_isDue (hp : t.playing = true) (h : ¬ t.advance.IsDue blocks) :
    t.tick blocks true = t.advance := by
  rw [tick_of_playing hp, if_neg]
  rintro ⟨-, hspent⟩
  exact h (budgetSpent_advance_iff.mp hspent)

/-- **A tick never skips a block.** -/
theorem tick_block (hp : t.playing = true) :
    (t.tick blocks true).block = t.block ∨ (t.tick blocks true).block = t.block + 1 := by
  by_cases h : t.advance.IsDue blocks
  · right
    rw [tick_of_isDue hp h, moveTo_block]
  · left
    rw [tick_of_not_isDue hp h, advance_block]

theorem tick_block_eq_succ_iff (hp : t.playing = true) :
    (t.tick blocks true).block = t.block + 1 ↔ t.advance.IsDue blocks := by
  by_cases h : t.advance.IsDue blocks
  · rw [tick_of_isDue hp h, moveTo_block]
    exact iff_of_true rfl h
  · rw [tick_of_not_isDue hp h, advance_block]
    exact iff_of_false (by omega) h

/-- **A tick never lags.** Whatever the state before it, after it no move is due. -/
theorem not_isDue_tick (hp : t.playing = true) : ¬ (t.tick blocks true).IsDue blocks := by
  by_cases h : t.advance.IsDue blocks
  · rw [tick_of_isDue hp h]
    exact not_isDue_moveTo t.advance (t.block + 1)
  · rwa [tick_of_not_isDue hp h]

end Timer

/-! ## One event -/

/-- **No event makes a move due** while the talk advances by itself. -/
theorem TimerStep.not_isDue (h : TimerStep blocks true t e u) (ht : ¬ t.IsDue blocks) :
    ¬ u.IsDue blocks := by
  cases h with
  | still _ _ => exact ht
  | advance _ hnot =>
      intro hdue
      exact hnot ⟨rfl, budgetSpent_advance_iff.mpr hdue⟩
  | advanceNext _ _ _ _ => exact Timer.not_isDue_moveTo t.advance (t.block + 1)
  | next _ => exact Timer.not_isDue_moveTo t (t.block + 1)
  | previous _ _ => exact Timer.not_isDue_moveTo t (t.block - 1)

/-- Whether an event leaves auto-advance on where it is on. -/
def Event.keepsAutoAdvance : Event → Bool
  | .command (.setAutoAdvance on) => on
  | .command .toggleAutoAdvance => false
  | _ => true

namespace Session

theorem take_autoAdvance {s : Session} (hs : s.autoAdvance = true)
    (he : e.keepsAutoAdvance = true) : (s.take e).1.autoAdvance = true := by
  cases e with
  | tick => exact hs
  | quit => exact hs
  | command c =>
      cases c with
      | setAutoAdvance on =>
          show (s.setAutoAdvance on).1.autoAdvance = true
          rw [setAutoAdvance_autoAdvance]
          exact he
      | toggleAutoAdvance => cases he
      | _ => exact hs

/-! ## Any run -/

/-- The session advances by itself, and no move is due. -/
structure IsPunctual (s : Session) : Prop where
  on : s.autoAdvance = true
  notDue : ¬ s.timer.IsDue s.blocks

theorem isPunctual_start (blocks : List Block) : (start blocks true).IsPunctual where
  on := rfl
  notDue := by
    rintro ⟨time, htime, hle⟩
    exact Nat.not_le.mpr (budget?_pos htime) hle

theorem IsPunctual.take {s : Session} (hs : s.IsPunctual) (he : e.keepsAutoAdvance = true) :
    (s.take e).1.IsPunctual where
  on := take_autoAdvance hs.on he
  notDue := by
    have hstep := s.take_timerStep e
    rw [hs.on] at hstep
    rw [take_blocks]
    exact hstep.not_isDue hs.notDue

/-- **A run keeps a session punctual** unless it switches auto-advance off. -/
theorem IsPunctual.after {s : Session} (hs : s.IsPunctual) {es : List Event}
    (hes : ∀ e ∈ es, e.keepsAutoAdvance = true) : (s.after es).IsPunctual := by
  induction es generalizing s with
  | nil => exact hs
  | cons e es ih =>
      obtain ⟨he, hrest⟩ := List.forall_mem_cons.mp hes
      exact ih (hs.take he) hrest

/-- In a punctual session no block but the last one is ever past its budget. -/
theorem IsPunctual.blockElapsed_lt {s : Session} (hs : s.IsPunctual) {b : Block}
    (hb : s.currentBlock? = some b) (hcontrol : b.isTimeControlled = true) (hpos : 0 < b.time)
    (hlast : s.isAtLast = false) : s.timer.blockElapsed.toNat < b.time := by
  apply Nat.not_le.mp
  intro hle
  apply hs.notDue
  have hlen : s.timer.block + 1 < s.blocks.length := by simpa [isAtLast] using hlast
  exact Timer.isDue_iff.mpr ⟨b, hb, hcontrol, hpos, hle, hlen⟩

theorem not_isOvertime {s : Session} {b : Block} (hb : s.currentBlock? = some b)
    (h : s.timer.blockElapsed.toNat ≤ b.time) : s.isOvertime = false := by
  have htime : s.blockTime = b.time := by rw [blockTime, hb]; rfl
  have hnot : ¬ s.blockTime < s.timer.blockElapsed.toNat := by omega
  simp [isOvertime, hnot]

end Session

/-- **Auto-advance never skips and never lags.** A second of a running talk leads to the next block or
leaves the block as it is. It leads on exactly if the block has a budget that the counter of the
block, a second higher, has reached and there is a next block; and it never leaves a used-up budget
behind. So in a session that has been advancing by itself from the start, whatever moves and pauses
came between the ticks, a block with a budget is never overtime unless it is the last one. -/
theorem autoAdvance_is_punctual (blocks : List Block) :
    (∀ t : Timer, t.playing = true →
      let u := t.tick blocks true
      (u.block = t.block ∨ u.block = t.block + 1) ∧
      (u.block = t.block + 1 ↔
        ∃ b, blocks[t.block]? = some b ∧ b.isTimeControlled = true ∧ 0 < b.time ∧
          b.time ≤ (t.blockElapsed + 1).toNat ∧ t.block + 1 < blocks.length) ∧
      ¬ ∃ b, blocks[u.block]? = some b ∧ b.isTimeControlled = true ∧ 0 < b.time ∧
        b.time ≤ u.blockElapsed.toNat ∧ u.block + 1 < blocks.length) ∧
    ∀ es : List Event, (∀ e ∈ es, e.keepsAutoAdvance = true) →
      let s := (Session.start blocks true).run es
      ∀ b, s.currentBlock? = some b → b.isTimeControlled = true → 0 < b.time →
        s.isAtLast = false → s.timer.blockElapsed.toNat < b.time ∧ s.isOvertime = false := by
  constructor
  · intro t hp
    refine ⟨t.tick_block hp, ?_, ?_⟩
    · rw [t.tick_block_eq_succ_iff hp, Timer.isDue_iff]
      rfl
    · rw [← Timer.isDue_iff]
      exact t.not_isDue_tick hp
  · intro es hes s b hb hcontrol hpos hlast
    have hheard : ∀ e ∈ heard es, e.keepsAutoAdvance = true := by
      intro e he
      exact hes e ((List.takeWhile_sublist _).subset he)
    have hs : s.IsPunctual := by
      show ((Session.start blocks true).run es).IsPunctual
      rw [Session.run_eq_after]
      exact (Session.isPunctual_start blocks).after hheard
    have hlt := hs.blockElapsed_lt hb hcontrol hpos hlast
    exact ⟨hlt, Session.not_isOvertime hb (Nat.le_of_lt hlt)⟩

/-- A talk of four short blocks, of which the second has no time to keep. -/
def shortTalk : List Block :=
  [.timed 1 5, .free 1, .timed 1 10, .timed 2 10].map fun m => ⟨[], some m, 0, ⟨0, 0⟩⟩

/-- The talk is held for a second, led on by hand, and led back and on again. -/
def restlessTalk : List Event :=
  [[.command .play], Ticker.events 4,
    [.command .pause, .tick, .command .toggle, .tick, .tick, .command .next], Ticker.events 9,
    [.command .previous, .tick, .command .next], Ticker.events 9].flatten

theorem autoAdvance_is_punctual_shortTalk :
    let t : Timer := ⟨2, true, 20, 9, 9⟩
    let s := (Session.start shortTalk true).run restlessTalk
    t.playing = true ∧ (t.tick shortTalk true).block = 3 ∧
      (∀ e ∈ restlessTalk, e.keepsAutoAdvance = true) ∧ s.timer.block = 2 ∧
      s.timer.blockElapsed.toNat < 10 ∧ s.isOvertime = false := by
  intro t s
  obtain ⟨hsecond, hrun⟩ := autoAdvance_is_punctual shortTalk
  obtain ⟨-, hmoves, -⟩ := hsecond t rfl
  have hmove : (t.tick shortTalk true).block = 3 :=
    hmoves.mpr ⟨_, rfl, by decide, by decide, by decide, by decide⟩
  have hkeeps : ∀ e ∈ restlessTalk, e.keepsAutoAdvance = true := by decide
  have hblock : s.timer.block = 2 := by decide
  have hcurrent : s.currentBlock? = some ⟨[], some (.timed 1 10), 0, ⟨0, 0⟩⟩ := by decide
  have hlast : s.isAtLast = false := by decide
  obtain ⟨hlt, hover⟩ := hrun restlessTalk hkeeps _ hcurrent rfl (by decide) hlast
  exact ⟨rfl, hmove, hkeeps, hblock, hlt, hover⟩

end TalkTimer

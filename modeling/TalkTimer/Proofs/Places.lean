import TalkTimer.Proofs.Counters
import TalkTimer.Proofs.Drawing

/-!
# Where a session can get to

A session never leaves its blocks, and its counters never get out of order while they count,
whatever arrives in its queue. What it reports of its moves is the way it went: from the first block
to the current one, one block at a time.

* **One step** (`TimerStep.keeps`, `TimerStep.near`) – each step keeps the timer among the blocks and
  within one block of where it was.
* **Any run** (`isPlaced_after`, `walk_trace`) – so a whole run keeps it there, and the reported moves
  lead from its beginning to its end.
* **The counters** (`counters_le`) – they count since the last of ever fewer moments.
-/

namespace TalkTimer

/-! ## A timer among its blocks -/

/-- The place of a timer is one of the blocks, or the first one where there is none. -/
def Timer.IsPlaced (blocks : List Block) (t : Timer) : Prop :=
  t.block < blocks.length ∨ blocks = [] ∧ t.block = 0

theorem Timer.isPlaced_start (blocks : List Block) : Timer.start.IsPlaced blocks := by
  cases blocks with
  | nil => exact Or.inr ⟨rfl, rfl⟩
  | cons b bs => exact Or.inl (Nat.succ_pos bs.length)

section Step

variable {blocks : List Block} {autoAdvance : Bool} {t u : Timer} {e : Event}

/-- **One step** keeps a timer among its blocks. -/
theorem TimerStep.keeps (h : TimerStep blocks autoAdvance t e u) (ht : t.IsPlaced blocks) :
    u.IsPlaced blocks := by
  cases h with
  | still _ _ => exact ht
  | advance _ _ => exact ht
  | advanceNext _ _ _ hlt => exact Or.inl hlt
  | next hlt => exact Or.inl hlt
  | previous hpos hne =>
      have hlt : t.block < blocks.length := ht.resolve_right fun hnil => hne hnil.1
      exact Or.inl (Nat.lt_of_le_of_lt (Nat.sub_le t.block 1) hlt)

/-- A step leads no further than to a neighbouring block. -/
theorem TimerStep.near (h : TimerStep blocks autoAdvance t e u) :
    u.block = t.block ∨ u.block = t.block + 1 ∨ t.block = u.block + 1 := by
  cases h with
  | still _ _ => exact Or.inl rfl
  | advance _ _ => exact Or.inl rfl
  | advanceNext _ _ _ _ => exact Or.inr (Or.inl rfl)
  | next _ => exact Or.inr (Or.inl rfl)
  | previous hpos _ => exact Or.inr (Or.inr (Nat.succ_pred_eq_of_pos hpos).symm)

end Step

namespace Session

theorem isPlaced_after {s : Session} (h : s.timer.IsPlaced s.blocks) (es : List Event) :
    (s.after es).timer.IsPlaced s.blocks := by
  induction es generalizing s with
  | nil => exact h
  | cons e es ih =>
      have hstep := (s.take_timerStep e).keeps h
      rw [← s.take_blocks e] at hstep ⊢
      exact ih hstep

/-- There is a current block, unless there is none at all. -/
theorem currentBlock?_eq_none_iff {s : Session} (h : s.timer.IsPlaced s.blocks) :
    s.currentBlock? = none ↔ s.blocks = [] := by
  rw [currentBlock?, List.getElem?_eq_none_iff]
  constructor
  · intro hle
    rcases h with hlt | ⟨hnil, -⟩
    · exact absurd hlt (Nat.not_lt.mpr hle)
    · exact hnil
  · intro hnil
    rw [hnil]
    exact Nat.zero_le _

end Session

/-! ## The way -/

/-- A **walk** from one place to another goes from each place to a neighbouring one. -/
inductive Walk : Nat → List (Nat × Nat) → Nat → Prop
  | done (i : Nat) : Walk i [] i
  | step {i j k : Nat} {ms : List (Nat × Nat)} : (j = i + 1 ∨ i = j + 1) → Walk j ms k →
      Walk i ((i, j) :: ms) k

/-- The move that an update reports. -/
def Update.move? : Update → Option (Nat × Nat)
  | .block source target => some (source, target)
  | _ => none

namespace Session

/-- The moves that were reported. -/
def reportedMoves (trace : List (Session × Update)) : List (Nat × Nat) :=
  trace.filterMap fun x => x.2.move?

theorem move?_compare (t u : Timer) :
    (compare t u).move? = if t.block = u.block then none else some (t.block, u.block) := by
  unfold compare
  by_cases h : t.block = u.block
  · rw [if_neg (not_not_intro h), if_pos h]
    split
    · rfl
    · split <;> rfl
  · rw [if_pos h, if_neg h]
    rfl

/-- An event reports a move exactly if it makes one, and then the right one. -/
theorem move?_take (s : Session) (e : Event) :
    (s.take e).2.move? =
      if s.timer.block = (s.take e).1.timer.block then none
      else some (s.timer.block, (s.take e).1.timer.block) := by
  rcases s.take_cases e with ⟨t, ht⟩ | ⟨on, hon⟩
  · rw [ht]
    exact move?_compare s.timer t
  · rw [hon, setAutoAdvance_timer, if_pos rfl, setAutoAdvance]
    split <;> rfl

/-- **The reported moves are the way** from the beginning of a run to its end. -/
theorem walk_trace (s : Session) (es : List Event) :
    Walk s.timer.block (reportedMoves (s.trace es)) (s.run es).timer.block := by
  induction es generalizing s with
  | nil => exact .done _
  | cons e es ih =>
      by_cases he : e = .quit
      · rw [he]
        exact .done _
      · have hrest := ih (s.take e).1
        rw [s.run_cons he, s.trace_cons he, reportedMoves, List.filterMap_cons, move?_take]
        by_cases hsame : s.timer.block = (s.take e).1.timer.block
        · rw [if_pos hsame, hsame]
          exact hrest
        · rw [if_neg hsame]
          have hnear := (s.take_timerStep e).near.resolve_left (Ne.symm hsame)
          exact .step hnear hrest

end Session

/-! ## Every reachable state -/

/-- **The counters stay in order** while the counted ticks fit into 32 bits: every move that leaves the
section is a move, so the time in the section counts since no later a moment than the time in the
block, and the time of the talk counts all ticks. -/
theorem counters_le {blocks : List Block} {autoAdvance : Bool} {es : List Event}
    (hfits : ((Session.start blocks autoAdvance).moments es).countP Moment.counts < UInt32.size) :
    let t := ((Session.start blocks autoAdvance).after es).timer
    t.blockElapsed ≤ t.parentElapsed ∧ t.parentElapsed ≤ t.total := by
  intro t
  obtain ⟨htotal, hblock, hsection⟩ := toNat_counters_after hfits
  have hmoves : ∀ m : Moment, m.crosses = true → m.moves = true := fun m h =>
    (Bool.and_eq_true_iff.mp h).1
  rw [UInt32.le_iff_toNat_le, UInt32.le_iff_toNat_le, htotal, hblock, hsection]
  exact ⟨countSince_le_countSince hmoves _, countSince_le_countP _ _⟩

/-- **A session stays within its blocks**, in every state that it can reach: its place is one of the
blocks, so that only a session without any shows none. While the counted ticks fit into 32 bits, the
time in the block is at most the time in the section, and that at most the time of the talk. And the
moves that were reported lead from the first block to the current one, each to the block after or
before. -/
theorem stays_within_blocks (blocks : List Block) (autoAdvance : Bool) (es : List Event) :
    let s := Session.start blocks autoAdvance
    let u := s.run es
    u.blocks = blocks ∧
    (u.timer.block < blocks.length ∨ blocks = [] ∧ u.timer.block = 0) ∧
    (u.currentBlock? = none ↔ blocks = []) ∧
    ((s.moments (heard es)).countP Moment.counts < UInt32.size →
      u.timer.blockElapsed ≤ u.timer.parentElapsed ∧ u.timer.parentElapsed ≤ u.timer.total) ∧
    Walk 0 (Session.reportedMoves (s.trace es)) u.timer.block := by
  intro s u
  have hu : u = s.after (heard es) := s.run_eq_after es
  have hblocks : u.blocks = blocks := by
    rw [hu, Session.after_blocks]
    rfl
  have hplace : u.timer.IsPlaced blocks := by
    rw [hu]
    exact Session.isPlaced_after (s := s) (Timer.isPlaced_start blocks) (heard es)
  have hnone := Session.currentBlock?_eq_none_iff (hblocks.symm ▸ hplace : u.timer.IsPlaced u.blocks)
  rw [hblocks] at hnone
  refine ⟨hblocks, hplace, hnone, fun hfits => ?_, s.walk_trace es⟩
  rw [hu]
  exact counters_le hfits

end TalkTimer

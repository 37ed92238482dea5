import Mathlib.Data.List.DropRight
import TalkTimer.Proofs.Runs

/-!
# The counters of a session, from its history

The timer keeps three counters and resets them as it goes. What they show can be told from the
history of the session alone, without any counter: each is the number of ticks that came while the
time ran, counted since the last event that resets it.

* **History** – a run is the list of its moments: an event and the session that it met.
* **One counter** (`count_after`) – whatever adds one for a counted tick and starts anew at some
  moments is, after a run, the number of counted ticks since the last of these moments.
* **The three counters** (`counters_eq_history`) – nothing resets the time of the talk, a move
  resets the time in the block, and a move into another section the time in the section.
-/

namespace TalkTimer

/-! ## History -/

/-- An event of a run, and the session that it met. -/
structure Moment where
  before : Session
  event : Event
  deriving DecidableEq, Repr

namespace Moment

/-- The session after the event. -/
def after (m : Moment) : Session := (m.before.take m.event).1

/-- A tick that came while the time ran. -/
def counts (m : Moment) : Bool := m.event == .tick && m.before.timer.playing

/-- The event changed the current block. -/
def moves (m : Moment) : Bool := m.before.timer.block != m.after.timer.block

/-- The event changed the current block for one that does not lie in the same section. -/
def crosses (m : Moment) : Bool :=
  m.moves && sectionOf? m.before.blocks m.before.timer.block !=
    sectionOf? m.before.blocks m.after.timer.block

end Moment

/-- The moments of a run. -/
def Session.moments (s : Session) : List Event → List Moment
  | [] => []
  | e :: es => ⟨s, e⟩ :: (s.take e).1.moments es

theorem Session.moments_append_singleton (s : Session) (es : List Event) (e : Event) :
    s.moments (es ++ [e]) = s.moments es ++ [⟨s.after es, e⟩] := by
  induction es generalizing s with
  | nil => rfl
  | cons e' es ih =>
      rw [List.cons_append, moments, ih, moments, after_cons, List.cons_append]

/-! ## One counter -/

/-- The number of counted ticks since the last moment that resets, or of all of them if none does. -/
def countSince (resets : Moment → Bool) (ms : List Moment) : Nat :=
  (ms.rtakeWhile fun m => !resets m).countP Moment.counts

theorem countSince_concat (resets : Moment → Bool) (ms : List Moment) (m : Moment) :
    countSince resets (ms ++ [m]) =
      if resets m then 0 else countSince resets ms + if m.counts then 1 else 0 := by
  rw [countSince, List.rtakeWhile_concat]
  cases resets m with
  | true => rfl
  | false =>
      simp only [Bool.not_false, if_true, List.countP_append, List.countP_singleton]
      rfl

/-- The fewer moments reset, the more is counted. -/
theorem countSince_le_countSince {resets resets' : Moment → Bool}
    (h : ∀ m, resets m = true → resets' m = true) (ms : List Moment) :
    countSince resets' ms ≤ countSince resets ms := by
  induction ms using List.reverseRecOn with
  | nil => exact Nat.le_refl 0
  | append_singleton ms m ih =>
      rw [countSince_concat, countSince_concat]
      by_cases hr : resets' m = true
      · rw [if_pos hr]
        exact Nat.zero_le _
      · rw [if_neg hr, if_neg (mt (h m) hr)]
        omega

theorem countSince_never (ms : List Moment) :
    countSince (fun _ => false) ms = ms.countP Moment.counts := by
  have hall : ms.rtakeWhile (fun _ => !false) = ms :=
    List.rtakeWhile_eq_self_iff.mpr fun _ _ => rfl
  rw [countSince, hall]

theorem countSince_le_countP (resets : Moment → Bool) (ms : List Moment) :
    countSince resets ms ≤ ms.countP Moment.counts := by
  rw [← countSince_never]
  exact countSince_le_countSince (fun _ h => Bool.noConfusion h) ms

/-- **A counter is a count**, as far as 32 bits go. A quantity that each event either resets or raises
by one for a counted tick is the number of counted ticks since the last reset. The induction is on
the run from its end: the last event decides whether anything before it still counts. -/
theorem count_after {f : Session → UInt32} {resets : Moment → Bool}
    (hstep : ∀ m : Moment,
      f m.after = if resets m then 0 else f m.before + if m.counts then 1 else 0)
    {s : Session} (hs : f s = 0) (es : List Event) :
    f (s.after es) = UInt32.ofNat (countSince resets (s.moments es)) := by
  induction es using List.reverseRecOn with
  | nil => exact hs
  | append_singleton es e ih =>
      have hlast := hstep ⟨s.after es, e⟩
      have hafter : s.after (es ++ [e]) = Moment.after ⟨s.after es, e⟩ := by
        rw [Session.after_append]
        rfl
      rw [hafter, hlast, Session.moments_append_singleton, countSince_concat, ih]
      -- either nothing up to this event counts any more, or what counted before still does
      split
      · rfl
      · rw [UInt32.ofNat_add]
        split <;> rfl

/-! ## What one step does to the counters -/

section Step

variable {blocks : List Block} {autoAdvance : Bool} {t u : Timer} {e : Event}

/-- The time of the talk goes on with each counted tick. -/
theorem TimerStep.total (h : TimerStep blocks autoAdvance t e u) :
    u.total = t.total + if e == .tick && t.playing then 1 else 0 := by
  cases h with
  | still _ hnot => simp [hnot]
  | advance hp _ => simp [hp]
  | advanceNext hp _ _ _ => simp [hp]
  | next _ => simp
  | previous _ _ => simp

/-- A move starts the counter of the block anew, also when it happens within a tick. -/
theorem TimerStep.blockElapsed (h : TimerStep blocks autoAdvance t e u) :
    u.blockElapsed =
      if t.block != u.block then 0
      else t.blockElapsed + if e == .tick && t.playing then 1 else 0 := by
  cases h with
  | still _ hnot => simp [hnot]
  | advance hp _ => simp [hp]
  | advanceNext _ _ _ _ => simp
  | next _ => simp
  | previous hpos _ =>
      have hne : ¬ t.block = t.block - 1 := by omega
      simp [hne]

/-- A move into another section starts the counter of the section anew. A tick that moves within the
section is counted there. -/
theorem TimerStep.parentElapsed (h : TimerStep blocks autoAdvance t e u) :
    u.parentElapsed =
      if t.block != u.block && sectionOf? blocks t.block != sectionOf? blocks u.block then 0
      else t.parentElapsed + if e == .tick && t.playing then 1 else 0 := by
  cases h with
  | still _ hnot => simp [hnot]
  | advance hp _ => simp [hp]
  | advanceNext hp _ _ _ =>
      by_cases hsec : sectionOf? blocks t.block = sectionOf? blocks (t.block + 1)
      · simp [hp, hsec]
      · simp [hsec]
  | next _ =>
      by_cases hsec : sectionOf? blocks t.block = sectionOf? blocks (t.block + 1)
      · simp [hsec]
      · simp [hsec]
  | previous hpos _ =>
      have hne : ¬ t.block = t.block - 1 := by omega
      by_cases hsec : sectionOf? blocks t.block = sectionOf? blocks (t.block - 1)
      · simp [hsec]
      · simp [hne, hsec]

/-- No move happens in a tick while the time is held. -/
theorem TimerStep.playing_of_moves (h : TimerStep blocks autoAdvance t .tick u)
    (hmoves : t.block ≠ u.block) : t.playing = true := by
  cases h with
  | still _ hnot => exact absurd rfl hmoves
  | advance hp _ => exact hp
  | advanceNext hp _ _ _ => exact hp

end Step

namespace Moment

theorem timerStep (m : Moment) :
    TimerStep m.before.blocks m.before.autoAdvance m.before.timer m.event m.after.timer :=
  m.before.take_timerStep m.event

theorem total_after (m : Moment) :
    m.after.timer.total = m.before.timer.total + if m.counts then 1 else 0 :=
  m.timerStep.total

theorem blockElapsed_after (m : Moment) :
    m.after.timer.blockElapsed =
      if m.moves then 0 else m.before.timer.blockElapsed + if m.counts then 1 else 0 :=
  m.timerStep.blockElapsed

theorem parentElapsed_after (m : Moment) :
    m.after.timer.parentElapsed =
      if m.crosses then 0 else m.before.timer.parentElapsed + if m.counts then 1 else 0 :=
  m.timerStep.parentElapsed

/-- A tick that moves is counted. -/
theorem counts_of_tick_moves {m : Moment} (htick : m.event = .tick) (hmoves : m.moves = true) :
    m.counts = true := by
  have hstep := m.timerStep
  rw [htick] at hstep
  have hp := hstep.playing_of_moves (by simpa [moves] using hmoves)
  simp [counts, htick, hp]

end Moment

/-! ## Whether the time runs -/

/-- A request to let the time run or to hold it. -/
def isPlayRequest : Event → Bool
  | .command .play => true
  | .command .pause => true
  | .command .toggle => true
  | _ => false

theorem obey_of_not_isPlayRequest {e : Event} (h : ¬ isPlayRequest e = true) (playing : Bool) :
    obey playing e = playing := by
  cases e with
  | tick => rfl
  | quit => rfl
  | command c =>
      cases c with
      | play => exact absurd rfl h
      | pause => exact absurd rfl h
      | toggle => exact absurd rfl h
      | _ => rfl

/-- Only the requests to let the time run or to hold it decide whether it runs. -/
theorem playing_after (s : Session) (es : List Event) :
    (s.after es).timer.playing = (es.filter isPlayRequest).foldl obey s.timer.playing := by
  induction es generalizing s with
  | nil => rfl
  | cons e es ih =>
      rw [Session.after_cons, ih, Session.take_playing]
      by_cases h : isPlayRequest e = true
      · rw [List.filter_cons_of_pos h, List.foldl_cons]
      · rw [List.filter_cons_of_neg h, obey_of_not_isPlayRequest h]

/-! ## The three counters -/

/-- **After a run the counters are counts**, as far as 32 bits go. -/
theorem counters_after (blocks : List Block) (autoAdvance : Bool) (es : List Event) :
    let s := Session.start blocks autoAdvance
    let ms := s.moments es
    (s.after es).timer.total = UInt32.ofNat (ms.countP Moment.counts) ∧
    (s.after es).timer.blockElapsed = UInt32.ofNat (countSince Moment.moves ms) ∧
    (s.after es).timer.parentElapsed = UInt32.ofNat (countSince Moment.crosses ms) := by
  intro s ms
  refine ⟨?_, ?_, ?_⟩
  · have hnever : ∀ m : Moment, m.after.timer.total =
        if false then 0 else m.before.timer.total + if m.counts then 1 else 0 := fun m => by
      simpa using m.total_after
    rw [← countSince_never]
    exact count_after (f := fun s => s.timer.total) hnever rfl es
  · exact count_after (f := fun s => s.timer.blockElapsed) Moment.blockElapsed_after rfl es
  · exact count_after (f := fun s => s.timer.parentElapsed) Moment.parentElapsed_after rfl es

/-- While the counted ticks fit into 32 bits, the counters are just the counts. -/
theorem toNat_counters_after {blocks : List Block} {autoAdvance : Bool} {es : List Event}
    (hfits : ((Session.start blocks autoAdvance).moments es).countP Moment.counts < UInt32.size) :
    let s := Session.start blocks autoAdvance
    let ms := s.moments es
    (s.after es).timer.total.toNat = ms.countP Moment.counts ∧
    (s.after es).timer.blockElapsed.toNat = countSince Moment.moves ms ∧
    (s.after es).timer.parentElapsed.toNat = countSince Moment.crosses ms := by
  intro s ms
  obtain ⟨htotal, hblock, hsection⟩ := counters_after blocks autoAdvance es
  have hmoves : countSince Moment.moves ms < UInt32.size :=
    Nat.lt_of_le_of_lt (countSince_le_countP _ ms) hfits
  have hcrosses : countSince Moment.crosses ms < UInt32.size :=
    Nat.lt_of_le_of_lt (countSince_le_countP _ ms) hfits
  rw [htotal, hblock, hsection]
  exact ⟨UInt32.toNat_ofNat_of_lt' hfits, UInt32.toNat_ofNat_of_lt' hmoves,
    UInt32.toNat_ofNat_of_lt' hcrosses⟩

/-- **The state of a session is its history.** After any run of a new session, whether the time runs
is decided by the requests to let it run or to hold it alone; the time of the talk is the number of
counted ticks, the time in the block the number since the last move, and the time in the section the
number since the last move into another section. They are these numbers in 32 bits, and just these
numbers while the counted ticks fit into 32 bits. A tick that moves on is counted for the talk, is
not counted for the block it enters, and is counted for the section if it stays there. -/
theorem counters_eq_history (blocks : List Block) (autoAdvance : Bool) (es : List Event) :
    let s := Session.start blocks autoAdvance
    let ms := s.moments (heard es)
    let t := (s.run es).timer
    t.playing = ((heard es).filter isPlayRequest).foldl obey false ∧
    t.total = UInt32.ofNat (ms.countP Moment.counts) ∧
    t.blockElapsed = UInt32.ofNat (countSince Moment.moves ms) ∧
    t.parentElapsed = UInt32.ofNat (countSince Moment.crosses ms) ∧
    (ms.countP Moment.counts < UInt32.size →
      t.total.toNat = ms.countP Moment.counts ∧
      t.blockElapsed.toNat = countSince Moment.moves ms ∧
      t.parentElapsed.toNat = countSince Moment.crosses ms) ∧
    ∀ m ∈ ms, m.event = .tick → m.moves = true →
      m.after.timer.total = m.before.timer.total + 1 ∧ m.after.timer.blockElapsed = 0 ∧
      m.after.timer.parentElapsed = if m.crosses then 0 else m.before.timer.parentElapsed + 1 := by
  intro s ms t
  have ht : t = (s.after (heard es)).timer := by rw [← Session.run_eq_after]
  obtain ⟨htotal, hblock, hsection⟩ := counters_after blocks autoAdvance (heard es)
  rw [ht]
  refine ⟨playing_after s (heard es), htotal, hblock, hsection, toNat_counters_after, ?_⟩
  intro m _ htick hmoves
  have hcounts : m.counts = true := Moment.counts_of_tick_moves htick hmoves
  rw [m.total_after, m.blockElapsed_after, m.parentElapsed_after]
  simp [hcounts, hmoves]

end TalkTimer

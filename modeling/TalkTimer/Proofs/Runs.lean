import Mathlib.Data.List.TakeWhile
import TalkTimer.EventLoop

/-!
# Runs of a session

A run takes one event after the other, up to the first request to quit. Two facts carry what is
proved of runs:

* `take_timerStep` – all that one event can do to the timer (`TimerStep`), guards included. Later
  proofs go through its cases and never open the operations of the timer.
* `run_eq_after` – a run is a fold over the events before the first request to quit.
-/

namespace TalkTimer

/-! ## One event -/

/-- Whether the time runs after an event. Only requests to let it run or to hold it matter. -/
def obey (playing : Bool) : Event → Bool
  | .command .play => true
  | .command .pause => false
  | .command .toggle => !playing
  | _ => playing

/-- **All that an event can do to the timer.** -/
inductive TimerStep (blocks : List Block) (autoAdvance : Bool) (t : Timer) : Event → Timer → Prop
  /-- Nothing changes but whether the time runs. No such event is a tick while it runs. -/
  | still (e : Event) : ¬ (e = .tick ∧ t.playing = true) →
      TimerStep blocks autoAdvance t e { t with playing := obey t.playing e }
  /-- A second goes by in the current block. -/
  | advance : t.playing = true →
      ¬ (autoAdvance = true ∧ t.advance.budgetSpent blocks = true ∧ t.block + 1 < blocks.length) →
      TimerStep blocks autoAdvance t .tick t.advance
  /-- A second goes by, and the next block takes over within it. -/
  | advanceNext : t.playing = true → autoAdvance = true → t.advance.budgetSpent blocks = true →
      t.block + 1 < blocks.length →
      TimerStep blocks autoAdvance t .tick (t.advance.moveTo blocks (t.block + 1))
  /-- The next block takes over. -/
  | next : t.block + 1 < blocks.length →
      TimerStep blocks autoAdvance t (.command .next) (t.moveTo blocks (t.block + 1))
  /-- The block before takes over. -/
  | previous : 0 < t.block → blocks ≠ [] →
      TimerStep blocks autoAdvance t (.command .previous) (t.moveTo blocks (t.block - 1))

variable {blocks : List Block} {autoAdvance : Bool}

/-- A tick while the time runs. -/
theorem Timer.tick_of_playing {t : Timer} (hp : t.playing = true) :
    t.tick blocks autoAdvance =
      if autoAdvance = true ∧ t.advance.budgetSpent blocks = true ∧ t.block + 1 < blocks.length then
        t.advance.moveTo blocks (t.block + 1)
      else t.advance := by
  have hnext : t.advance.hasNext blocks = true ↔ t.block + 1 < blocks.length :=
    Timer.hasNext_iff blocks t.advance
  rw [Timer.tick, hp, Bool.not_true, if_neg Bool.false_ne_true, Timer.next]
  by_cases hn : t.block + 1 < blocks.length
  · simp [hnext.mpr hn, hn]
  · have hf : t.advance.hasNext blocks = false := by
      simpa using fun h => hn (hnext.mp h)
    simp [hf, hn]

theorem Timer.tick_of_not_playing {t : Timer} (hp : ¬ t.playing = true) :
    t.tick blocks autoAdvance = t := by
  simp [Timer.tick, hp]

theorem Timer.tick_timerStep (t : Timer) :
    TimerStep blocks autoAdvance t .tick (t.tick blocks autoAdvance) := by
  by_cases hp : t.playing = true
  · rw [Timer.tick_of_playing hp]
    split
    · next h => exact .advanceNext hp h.1 h.2.1 h.2.2
    · next h => exact .advance hp h
  · rw [Timer.tick_of_not_playing hp]
    exact .still .tick fun h => hp h.2

theorem Timer.next_timerStep (t : Timer) :
    TimerStep blocks autoAdvance t (.command .next) (t.next blocks) := by
  rw [Timer.next]
  split
  · next h => exact .next ((Timer.hasNext_iff blocks t).mp h)
  · exact .still (.command .next) fun h => by cases h.1

theorem Timer.previous_timerStep (t : Timer) :
    TimerStep blocks autoAdvance t (.command .previous) (t.previous blocks) := by
  rw [Timer.previous]
  split
  · exact .still (.command .previous) fun h => by cases h.1
  · next h =>
    obtain ⟨hpos, hne⟩ := not_or.mp h
    exact .previous (Nat.pos_of_ne_zero hpos) hne

namespace Session

theorem setAutoAdvance_timer (on : Bool) (s : Session) :
    (s.setAutoAdvance on).1.timer = s.timer := by
  unfold setAutoAdvance
  split <;> rfl

theorem setAutoAdvance_blocks (on : Bool) (s : Session) :
    (s.setAutoAdvance on).1.blocks = s.blocks := by
  unfold setAutoAdvance
  split <;> rfl

theorem setAutoAdvance_autoAdvance (on : Bool) (s : Session) :
    (s.setAutoAdvance on).1.autoAdvance = on := by
  unfold setAutoAdvance
  split
  · next h => exact h
  · rfl

/-- An event leaves the blocks as they are. -/
theorem take_blocks (s : Session) (e : Event) : (s.take e).1.blocks = s.blocks := by
  cases e with
  | tick => rfl
  | quit => rfl
  | command c =>
      cases c with
      | setAutoAdvance on => exact setAutoAdvance_blocks on s
      | toggleAutoAdvance => exact setAutoAdvance_blocks _ s
      | _ => rfl

/-- **Every event is one of these steps.** -/
theorem take_timerStep (s : Session) (e : Event) :
    TimerStep s.blocks s.autoAdvance s.timer e (s.take e).1.timer := by
  cases e with
  | tick => exact s.timer.tick_timerStep
  | quit => exact .still .quit fun h => by cases h.1
  | command c =>
      have hnot : ¬ (Event.command c = .tick ∧ s.timer.playing = true) := fun h => by cases h.1
      cases c with
      | play => exact .still (.command .play) hnot
      | pause => exact .still (.command .pause) hnot
      | toggle => exact .still (.command .toggle) hnot
      | next => exact s.timer.next_timerStep
      | previous => exact s.timer.previous_timerStep
      | setAutoAdvance on =>
          have htimer : (s.take (.command (.setAutoAdvance on))).1.timer = s.timer :=
            setAutoAdvance_timer on s
          rw [htimer]
          exact .still (.command (.setAutoAdvance on)) hnot
      | toggleAutoAdvance =>
          have htimer : (s.take (.command .toggleAutoAdvance)).1.timer = s.timer :=
            setAutoAdvance_timer _ s
          rw [htimer]
          exact .still (.command .toggleAutoAdvance) hnot

/-- After an event the time runs if the event and the state before say so. -/
theorem take_playing (s : Session) (e : Event) :
    (s.take e).1.timer.playing = obey s.timer.playing e := by
  have hstep := s.take_timerStep e
  generalize (s.take e).1.timer = t at hstep
  cases hstep with
  | still _ _ => rfl
  | advance _ _ => rfl
  | advanceNext _ _ _ _ => rfl
  | next _ => rfl
  | previous _ _ => rfl

/-! ## Runs -/

/-- The session after some events. -/
def after (s : Session) (es : List Event) : Session := es.foldl (fun s e => (s.take e).1) s

@[simp] theorem after_cons (s : Session) (e : Event) (es : List Event) :
    s.after (e :: es) = (s.take e).1.after es := rfl

@[simp] theorem after_append (s : Session) (xs ys : List Event) :
    s.after (xs ++ ys) = (s.after xs).after ys := List.foldl_append

theorem after_blocks (s : Session) (es : List Event) : (s.after es).blocks = s.blocks := by
  induction es generalizing s with
  | nil => rfl
  | cons e es ih => rw [after_cons, ih, take_blocks]

end Session

/-- The events before the first request to quit. -/
def heard (es : List Event) : List Event := es.takeWhile fun e => e ≠ .quit

theorem heard_cons {e : Event} (he : e ≠ .quit) (es : List Event) :
    heard (e :: es) = e :: heard es := by
  simp [heard, he]

theorem leftover_cons {e : Event} (he : e ≠ .quit) (es : List Event) :
    leftover (e :: es) = leftover es := by
  cases e with
  | tick => rfl
  | command c => rfl
  | quit => exact absurd rfl he

theorem quit_notMem_heard (es : List Event) : .quit ∉ heard es := by
  intro h
  simpa using List.mem_takeWhile_imp h

/-- The first request to quit stands between the events that are taken and those that are left. -/
theorem eq_heard_append_leftover {es : List Event} (h : .quit ∈ es) :
    es = heard es ++ .quit :: leftover es := by
  induction es with
  | nil => cases h
  | cons e es ih =>
      by_cases he : e = .quit
      · rw [he]
        rfl
      · have hes : .quit ∈ es := (List.mem_cons.mp h).resolve_left fun heq => he heq.symm
        rw [heard_cons he, leftover_cons he, List.cons_append, ← ih hes]

theorem heard_eq_self {es : List Event} (h : .quit ∉ es) : heard es = es := by
  refine List.takeWhile_eq_self_iff.mpr fun e he => ?_
  simpa using fun heq : e = .quit => h (heq ▸ he)

theorem leftover_eq_nil {es : List Event} (h : .quit ∉ es) : leftover es = [] := by
  induction es with
  | nil => rfl
  | cons e es ih =>
      obtain ⟨he, hes⟩ := not_or.mp (mt List.mem_cons.mpr h)
      rw [leftover_cons (Ne.symm he), ih hes]

namespace Session

theorem run_quit (s : Session) (es : List Event) : s.run (.quit :: es) = s := rfl

/-- Whatever is no request to quit is taken, and the run goes on. -/
theorem trace_cons (s : Session) {e : Event} (he : e ≠ .quit) (es : List Event) :
    s.trace (e :: es) = s.take e :: (s.take e).1.trace es := by
  cases e with
  | tick => rfl
  | command c => rfl
  | quit => exact absurd rfl he

theorem run_cons (s : Session) {e : Event} (he : e ≠ .quit) (es : List Event) :
    s.run (e :: es) = (s.take e).1.run es := by
  rw [run, trace_cons s he, run, List.getLast?_cons]
  cases (s.take e).1.trace es |>.getLast? <;> rfl

/-- **A run is a fold** over the events before the first request to quit. -/
theorem run_eq_after (s : Session) (es : List Event) : s.run es = s.after (heard es) := by
  induction es generalizing s with
  | nil => rfl
  | cons e es ih =>
      by_cases he : e = .quit
      · rw [he, run_quit]
        rfl
      · rw [run_cons s he, ih, heard_cons he, after_cons]

theorem run_blocks (s : Session) (es : List Event) : (s.run es).blocks = s.blocks := by
  rw [run_eq_after, after_blocks]

/-- The first updates of a run are those of its first events. -/
theorem take_trace (s : Session) (es : List Event) (k : Nat) :
    (s.trace es).take k = s.trace (es.take k) := by
  induction es generalizing s k with
  | nil => simp [trace]
  | cons e es ih =>
      cases k with
      | zero => rfl
      | succ k =>
          by_cases he : e = .quit
          · rw [he]
            rfl
          · rw [s.trace_cons he, List.take_succ_cons, List.take_succ_cons, s.trace_cons he, ih]

/-- **Each event that is heard has its update**, on the session that the events before it made. -/
theorem getElem?_trace (s : Session) (es : List Event) (k : Nat) :
    (s.trace es)[k]? = (heard es)[k]?.map fun e => (s.run (es.take k)).take e := by
  induction es generalizing s k with
  | nil => rfl
  | cons e es ih =>
      by_cases he : e = .quit
      · rw [he]
        rfl
      · rw [s.trace_cons he, heard_cons he]
        cases k with
        | zero => rfl
        | succ k =>
            rw [List.getElem?_cons_succ, List.getElem?_cons_succ, List.take_succ_cons,
              s.run_cons he, ih]

end Session
end TalkTimer

import TalkTimer.Proofs.Runs

/-!
# Commands in any order

Commands may come from several places at once, and the queue brings them into some order. Between
two ticks this order is of no account, as long as the commands about one thing stay in theirs: each
command is about one part of the session (`Command.part`), and it neither reads nor changes the
others.

* **One part** (`IsDrivenBy.eq_of_filter`) – a part that some commands drive, and that the others
  leave alone, is decided by the commands that drive it.
* **Three parts** – whether the time runs (`playing_isDrivenBy`), where the talk has got to
  (`held_isDrivenBy`) and the option (`autoAdvance_isDrivenBy`). Together they are the session
  (`dispatchAll_eq_of_same_parts`).
-/

namespace TalkTimer

/-! ## Dispatching several commands -/

namespace Session

/-- The session after some commands. -/
def dispatchAll (s : Session) (cs : List Command) : Session :=
  cs.foldl (fun s c => (s.dispatch c).1) s

@[simp] theorem dispatchAll_nil (s : Session) : s.dispatchAll [] = s := rfl

@[simp] theorem dispatchAll_cons (s : Session) (c : Command) (cs : List Command) :
    s.dispatchAll (c :: cs) = (s.dispatch c).1.dispatchAll cs := rfl

theorem after_map_command (s : Session) (cs : List Command) :
    s.after (cs.map .command) = s.dispatchAll cs := List.foldl_map

theorem dispatchAll_blocks (s : Session) (cs : List Command) :
    (s.dispatchAll cs).blocks = s.blocks := by
  rw [← after_map_command, after_blocks]

/-- The event loop takes commands as they are dispatched. -/
theorem run_map_command (s : Session) (cs : List Command) :
    s.run (cs.map .command) = s.dispatchAll cs := by
  have hquit : Event.quit ∉ cs.map .command := by simp
  rw [run_eq_after, heard_eq_self hquit, after_map_command]

end Session

/-! ## One part of a session -/

/-- Some commands **drive** a part of the session: they change it by what it was and by nothing
else, and the other commands leave it as it is. -/
structure IsDrivenBy {α : Type} (f : Session → α) (mine : Command → Bool) : Prop where
  own : ∀ c, mine c = true → ∀ s t, f s = f t → f (s.dispatch c).1 = f (t.dispatch c).1
  other : ∀ c, ¬ mine c = true → ∀ s, f (s.dispatch c).1 = f s

namespace IsDrivenBy

variable {α : Type} {f : Session → α} {mine : Command → Bool}

/-- Sessions that agree on a part agree on it after commands that drive it. -/
theorem congr (h : IsDrivenBy f mine) {s t : Session} (hst : f s = f t) {cs : List Command}
    (hcs : ∀ c ∈ cs, mine c = true) : f (s.dispatchAll cs) = f (t.dispatchAll cs) := by
  induction cs generalizing s t with
  | nil => exact hst
  | cons c cs ih =>
      obtain ⟨hc, hrest⟩ := List.forall_mem_cons.mp hcs
      exact ih (h.own c hc s t hst) hrest

/-- Commands that do not drive a part may be left out. -/
theorem filter (h : IsDrivenBy f mine) (s : Session) (cs : List Command) :
    f (s.dispatchAll cs) = f (s.dispatchAll (cs.filter mine)) := by
  induction cs generalizing s with
  | nil => rfl
  | cons c cs ih =>
      rw [Session.dispatchAll_cons, ih]
      by_cases hc : mine c = true
      · rw [List.filter_cons_of_pos hc, Session.dispatchAll_cons]
      · rw [List.filter_cons_of_neg hc]
        exact h.congr (h.other c hc s) fun d hd => (List.mem_filter.mp hd).2

/-- **One part.** The commands that drive a part decide what becomes of it. -/
theorem eq_of_filter (h : IsDrivenBy f mine) (s : Session) {xs ys : List Command}
    (hxy : xs.filter mine = ys.filter mine) : f (s.dispatchAll xs) = f (s.dispatchAll ys) := by
  rw [h.filter s xs, hxy, ← h.filter s ys]

end IsDrivenBy

/-! ## Three parts -/

/-- What a command is about. -/
inductive Command.Part
  /-- Whether the time runs. -/
  | time
  /-- The place in the talk. -/
  | place
  /-- Whether the talk advances by itself. -/
  | option
  deriving DecidableEq, Repr

/-- The part of the session that a command is about. -/
def Command.part : Command → Command.Part
  | .play => .time
  | .pause => .time
  | .toggle => .time
  | .next => .place
  | .previous => .place
  | .setAutoAdvance _ => .option
  | .toggleAutoAdvance => .option

namespace Timer

variable (blocks : List Block) (t : Timer)

theorem pause_next : (t.next blocks).pause = t.pause.next blocks := by
  unfold next
  split
  · next h => exact (if_pos h).symm
  · next h => exact (if_neg h).symm

theorem pause_previous : (t.previous blocks).pause = t.pause.previous blocks := by
  unfold previous
  split
  · next h => exact (if_pos h).symm
  · next h => exact (if_neg h).symm

end Timer

namespace Session

/-- The session with the time held and without auto-advance: what moves read and change. -/
def held (s : Session) : Session := ⟨s.blocks, s.timer.pause, false⟩

/-- Whether the time runs is decided by the requests to let it run or to hold it. -/
theorem playing_isDrivenBy :
    IsDrivenBy (fun s => s.timer.playing) fun c => c.part = .time where
  own c _ s t h := by
    have hs := s.take_playing (.command c)
    have ht := t.take_playing (.command c)
    rw [h] at hs
    exact hs.trans ht.symm
  other c hc s := by
    have hs := s.take_playing (.command c)
    cases c with
    | play => exact absurd rfl hc
    | pause => exact absurd rfl hc
    | toggle => exact absurd rfl hc
    | _ => exact hs

theorem held_dispatch_place {c : Command} (hc : c.part = .place) (s : Session) :
    (s.dispatch c).1.held = (s.held.dispatch c).1 := by
  cases c with
  | next => exact congrArg (Session.mk s.blocks · false) (Timer.pause_next s.blocks s.timer)
  | previous => exact congrArg (Session.mk s.blocks · false) (Timer.pause_previous s.blocks s.timer)
  | _ => cases hc

/-- Where the talk has got to, with all counters, is decided by the moves. -/
theorem held_isDrivenBy : IsDrivenBy held fun c => c.part = .place where
  own c hc s t h := by
    have hplace := of_decide_eq_true hc
    rw [held_dispatch_place hplace, held_dispatch_place hplace, h]
  other c hc s := by
    cases c with
    | next => exact absurd rfl hc
    | previous => exact absurd rfl hc
    | setAutoAdvance on =>
        show (s.setAutoAdvance on).1.held = s.held
        rw [held, setAutoAdvance_blocks, setAutoAdvance_timer]
        rfl
    | toggleAutoAdvance =>
        show (s.setAutoAdvance (!s.autoAdvance)).1.held = s.held
        rw [held, setAutoAdvance_blocks, setAutoAdvance_timer]
        rfl
    | _ => rfl

/-- The option is decided by the requests to switch it. -/
theorem autoAdvance_isDrivenBy :
    IsDrivenBy autoAdvance fun c => c.part = .option where
  own c hc s t h := by
    cases c with
    | setAutoAdvance on =>
        show (s.setAutoAdvance on).1.autoAdvance = (t.setAutoAdvance on).1.autoAdvance
        rw [setAutoAdvance_autoAdvance, setAutoAdvance_autoAdvance]
    | toggleAutoAdvance =>
        show (s.setAutoAdvance (!s.autoAdvance)).1.autoAdvance =
          (t.setAutoAdvance (!t.autoAdvance)).1.autoAdvance
        rw [setAutoAdvance_autoAdvance, setAutoAdvance_autoAdvance, h]
    | _ => cases of_decide_eq_true hc
  other c hc s := by
    cases c with
    | setAutoAdvance on => exact absurd rfl hc
    | toggleAutoAdvance => exact absurd rfl hc
    | _ => rfl

/-- The three parts are the whole session. -/
theorem eq_of_same_parts {s t : Session} (hplaying : s.timer.playing = t.timer.playing)
    (hheld : s.held = t.held) (hauto : s.autoAdvance = t.autoAdvance) : s = t := by
  obtain ⟨blocks, ⟨block, playing, total, blockElapsed, parentElapsed⟩, autoAdvance⟩ := s
  obtain ⟨blocks', ⟨block', playing', total', blockElapsed', parentElapsed'⟩, autoAdvance'⟩ := t
  cases hplaying
  cases hheld
  cases hauto
  rfl

end Session

/-- **The order of commands about different parts does not matter.** Two lists of commands that have
the same requests about the time, the same moves and the same requests about auto-advance, each in
the same order, lead from any session to the same session, dispatched one by one or taken by the
event loop. -/
theorem dispatchAll_eq_of_same_parts (s : Session) {xs ys : List Command}
    (h : ∀ part, xs.filter (·.part = part) = ys.filter (·.part = part)) :
    s.dispatchAll xs = s.dispatchAll ys ∧ s.run (xs.map .command) = s.run (ys.map .command) := by
  have hsame : s.dispatchAll xs = s.dispatchAll ys := Session.eq_of_same_parts
    (Session.playing_isDrivenBy.eq_of_filter s (h .time))
    (Session.held_isDrivenBy.eq_of_filter s (h .place))
    (Session.autoAdvance_isDrivenBy.eq_of_filter s (h .option))
  refine ⟨hsame, ?_⟩
  rw [Session.run_map_command, Session.run_map_command, hsame]

/-- Two presenters and a remote control, in two orders, in the middle of a talk. -/
theorem dispatchAll_eq_of_same_parts_twoOrders :
    let s : Session :=
      ⟨segment "?01:00\nA\n??00:30\nB\n?02:00\nC\n?00:10\nD".toList, ⟨1, true, 50, 20, 50⟩, true⟩
    let xs : List Command := [.next, .toggle, .next, .toggleAutoAdvance, .previous, .play]
    let ys : List Command := [.toggleAutoAdvance, .toggle, .play, .next, .next, .previous]
    s.dispatchAll xs = s.dispatchAll ys ∧
      (s.dispatchAll ys).timer = ⟨2, true, 50, 0, 0⟩ := by
  intro s xs ys
  have h : ∀ part, xs.filter (·.part = part) = ys.filter (·.part = part) := by
    intro part
    cases part <;> rfl
  exact ⟨(dispatchAll_eq_of_same_parts s h).1, by decide⟩

end TalkTimer

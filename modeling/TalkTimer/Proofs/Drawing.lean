import TalkTimer.Program
import TalkTimer.Proofs.Runs

/-!
# What the screen shows

Playback draws the whole screen once. After an event it draws again only what the update of the
event asks for, so a part of the screen may stand there from long before. The statements here
compare what stands there with what a full redraw would show.

* **Drawings** – what playback writes is a list of drawings (`playback_eq_drawings`). The last
  drawing of a part is what the screen shows of it.
* **Updates tell enough** (`take_update_eq_nothing_iff`, `take_block_eq`) – no event changes more
  than its update says.
* **One event** (`Shows.take`), **all events** (`Shows.trace`) – so the screen that shows the
  session goes on to show it.
-/

namespace TalkTimer

/-! ## Drawings -/

/-- A part of the screen as it was drawn: a block with its header, or a line of status. -/
inductive Drawing
  | block (t : Text)
  | status (t : Text)
  deriving DecidableEq, Repr

namespace Drawing

def text (d : Display) : Drawing → Text
  | block t => t
  | status t => d.status t

def block? : Drawing → Option Text
  | block t => some t
  | status _ => none

def status? : Drawing → Option Text
  | block _ => none
  | status t => some t

/-- What was drawn last of each part. -/
def lastBlock? (ds : List Drawing) : Option Text := (ds.filterMap block?).getLast?

def lastStatus? (ds : List Drawing) : Option Text := (ds.filterMap status?).getLast?

end Drawing

namespace Session

def drawings (d : Display) (s : Session) : List Drawing :=
  [.block (s.drawBlock d), .status s.statusText]

/-- The drawings that an update asks for. -/
def drawingsOf (d : Display) (s : Session) : Update → List Drawing
  | .nothing => []
  | .block _ _ => s.drawings d
  | .counters => [.status s.statusText]
  | .controls => [.status s.statusText]

/-- All drawings since the session `s` was first shown: the whole screen, and then what each update
asks for. -/
def drawn (d : Display) (s : Session) (trace : List (Session × Update)) : List Drawing :=
  s.drawings d ++ trace.flatMap fun x => x.1.drawingsOf d x.2

theorem draw_eq_drawings (d : Display) (s : Session) :
    s.draw d = (s.drawings d).flatMap (Drawing.text d) := by
  simp [draw, drawings, drawStatus, Drawing.text]

theorem redraw_eq_drawingsOf (d : Display) (s : Session) (u : Update) :
    s.redraw d u = (s.drawingsOf d u).flatMap (Drawing.text d) := by
  cases u with
  | nothing => rfl
  | block source target => exact draw_eq_drawings d s
  | counters => simp [redraw, drawingsOf, drawStatus, Drawing.text]
  | controls => simp [redraw, drawingsOf, drawStatus, Drawing.text]

/-- Drawing what each update asks for writes the drawings one after the other. -/
theorem draw_append_redraw_eq_drawn (d : Display) (s : Session) (trace : List (Session × Update)) :
    s.draw d ++ trace.flatMap (fun x => x.1.redraw d x.2) =
      (s.drawn d trace).flatMap (Drawing.text d) := by
  rw [drawn, List.flatMap_append, ← draw_eq_drawings, List.flatMap_assoc]
  simp only [redraw_eq_drawingsOf]

end Session

/-- **Playback writes its drawings**, and a closing line. -/
theorem playback_eq_drawings (s : Session) (es : List Event) :
    playback s es =
      (s.drawn .plain (s.trace es)).flatMap (Drawing.text .plain) ++ closingLine (s.run es) := by
  rw [← Session.draw_append_redraw_eq_drawn]
  rfl

/-! ## Updates tell enough -/

namespace Session

variable {d : Display} {s : Session}

theorem compare_eq_nothing_iff {t u : Timer} : compare t u = .nothing ↔ t = u := by
  unfold compare
  split
  · next h => exact iff_of_false (by simp) fun heq => h (heq ▸ rfl)
  · split
    · next h => exact iff_of_false (by simp) fun heq => h (heq ▸ rfl)
    · split
      · next h => exact iff_of_false (by simp) h
      · next h => exact iff_of_true rfl (Decidable.not_not.mp h)

theorem block_eq_of_compare {t u : Timer} (h : ∀ i j, compare t u ≠ .block i j) :
    t.block = u.block := by
  by_cases hb : t.block = u.block
  · exact hb
  · refine absurd ?_ (h t.block u.block)
    rw [compare, if_pos hb]

/-- An event puts the timer into another state, or it switches auto-advance. -/
theorem take_cases (s : Session) (e : Event) :
    (∃ t, s.take e = s.setTimer t) ∨ ∃ on, s.take e = s.setAutoAdvance on := by
  cases e with
  | tick => exact .inl ⟨_, rfl⟩
  | quit =>
      have hsame : compare s.timer s.timer = .nothing := compare_eq_nothing_iff.mpr rfl
      exact .inl ⟨s.timer, by rw [setTimer, hsame]; rfl⟩
  | command c =>
      cases c with
      | setAutoAdvance on => exact .inr ⟨on, rfl⟩
      | toggleAutoAdvance => exact .inr ⟨!s.autoAdvance, rfl⟩
      | _ => exact .inl ⟨_, rfl⟩

/-- **Nothing is reported exactly if nothing changed**, neither the timer nor the option. -/
theorem take_update_eq_nothing_iff (s : Session) (e : Event) :
    (s.take e).2 = .nothing ↔
      (s.take e).1.timer = s.timer ∧ (s.take e).1.autoAdvance = s.autoAdvance := by
  rcases s.take_cases e with ⟨t, ht⟩ | ⟨on, hon⟩
  · simp only [ht, setTimer, compare_eq_nothing_iff, and_true]
    exact eq_comm
  · rw [hon, setAutoAdvance]
    split
    · exact iff_of_true rfl ⟨rfl, rfl⟩
    · next hne => exact iff_of_false (by simp) fun h => hne h.2.symm

theorem eq_of_parts {u : Session} (hblocks : u.blocks = s.blocks) (htimer : u.timer = s.timer)
    (hauto : u.autoAdvance = s.autoAdvance) : u = s := by
  obtain ⟨_, _, _⟩ := u
  obtain ⟨_, _, _⟩ := s
  cases hblocks
  cases htimer
  cases hauto
  rfl

theorem take_eq_of_nothing {e : Event} (h : (s.take e).2 = .nothing) : (s.take e).1 = s := by
  obtain ⟨htimer, hauto⟩ := (s.take_update_eq_nothing_iff e).mp h
  exact eq_of_parts (s.take_blocks e) htimer hauto

theorem take_block_eq {e : Event} (h : ∀ i j, (s.take e).2 ≠ .block i j) :
    (s.take e).1.timer.block = s.timer.block := by
  rcases s.take_cases e with ⟨t, ht⟩ | ⟨on, hon⟩
  · rw [ht] at h ⊢
    exact (block_eq_of_compare h).symm
  · rw [hon, setAutoAdvance_timer]

/-- The screen of a block tells of the session only which block it is. -/
theorem drawBlock_eq {u : Session} (hblocks : u.blocks = s.blocks)
    (hblock : u.timer.block = s.timer.block) : u.drawBlock d = s.drawBlock d := by
  have hcurrent : u.currentBlock? = s.currentBlock? := by
    rw [currentBlock?, currentBlock?, hblocks, hblock]
  have hheader : u.header = s.header := by
    funext b
    unfold header
    rw [hblocks, hblock]
  rw [drawBlock, drawBlock, blockLines, blockLines, hcurrent, hheader]

end Session

/-! ## What stands on the screen -/

/-- After these drawings the screen **shows** the session: what was drawn last of each part is what
a full redraw would draw. -/
structure Shows (d : Display) (ds : List Drawing) (s : Session) : Prop where
  block : Drawing.lastBlock? ds = some (s.drawBlock d)
  status : Drawing.lastStatus? ds = some s.statusText

variable {d : Display} {ds : List Drawing} {s : Session}

/-- The whole screen shows the session, whatever was drawn before. -/
theorem shows_append_drawings (d : Display) (ds : List Drawing) (s : Session) :
    Shows d (ds ++ s.drawings d) s where
  block := by simp [Drawing.lastBlock?, Session.drawings, Drawing.block?, List.filterMap_cons]
  status := by simp [Drawing.lastStatus?, Session.drawings, Drawing.status?, List.filterMap_cons]

/-- A new status is enough where the screen shows the right block. -/
theorem shows_append_status (h : Drawing.lastBlock? ds = some (s.drawBlock d)) :
    Shows d (ds ++ [.status s.statusText]) s where
  block := by simpa [Drawing.lastBlock?, Drawing.block?, List.filterMap_cons] using h
  status := by simp [Drawing.lastStatus?, Drawing.status?]

/-- **One event.** What its update asks for is enough to show the session after it. -/
theorem Shows.take (h : Shows d ds s) (e : Event) :
    Shows d (ds ++ (s.take e).1.drawingsOf d (s.take e).2) (s.take e).1 := by
  -- unless a new block is reported, the block that stands there is still the right one
  have hblock (hu : ∀ i j, (s.take e).2 ≠ .block i j) :
      Drawing.lastBlock? ds = some ((s.take e).1.drawBlock d) := by
    rw [h.block, Session.drawBlock_eq (s.take_blocks e) (Session.take_block_eq hu)]
  cases hu : (s.take e).2 with
  | nothing => rwa [Session.take_eq_of_nothing hu, Session.drawingsOf, List.append_nil]
  | block source target => exact shows_append_drawings d ds _
  | counters => exact shows_append_status (hblock (by simp [hu]))
  | controls => exact shows_append_status (hblock (by simp [hu]))

/-- **All events.** -/
theorem Shows.trace (h : Shows d ds s) (es : List Event) :
    Shows d (ds ++ (s.trace es).flatMap fun x => x.1.drawingsOf d x.2) (s.run es) := by
  -- the drawings so far are left general: each event adds to them
  induction es generalizing ds s with
  | nil => rwa [Session.trace, List.flatMap_nil, List.append_nil]
  | cons e es ih =>
      by_cases he : e = .quit
      · rw [he, Session.run_quit, Session.trace, List.flatMap_nil, List.append_nil]
        exact h
      · rw [s.trace_cons he, s.run_cons he, List.flatMap_cons, ← List.append_assoc]
        exact ih (h.take e)

/-! ## The whole run -/

end TalkTimer

import TalkTimer.Proofs.MarkerText
import TalkTimer.Proofs.Padding
import TalkTimer.Proofs.Runs
import TalkTimer.Screen

/-!
# Two displays of one session

A session is shown as plain lines or on a terminal. The two displays differ in what goes before a
block and before a status, and in how lines end, and in nothing else.

* **What the program says itself** (`isClean_header`, `isClean_statusText`) – headers and status
  lines are put together from words, digits and signs, with no control character among them.
* **Lines are lines** (`newline_notMem_blockLines`) – so no line that is printed breaks, and what is
  printed tells the lines (`drawBlock_terminal_eq`).
* **All that is written** (`Session.written`) – in any run, drawn at any time: on a terminal each
  line feed comes with a carriage return (`isReturned_written`), and plain lines have an escape
  character only where the script has one (`escape_notMem_written`).
-/

namespace TalkTimer

open Text

/-! ## Texts without control characters -/

namespace Text

/-- A text without control characters: neither a line feed nor an escape character is in it. -/
def IsClean (t : Text) : Prop := ∀ c ∈ t, 0x20 ≤ c.toNat

-- The instance goes along the text. Another one that may be found here tries all characters.
instance (t : Text) : Decidable (IsClean t) :=
  t.decidableBAll fun c : Char => 0x20 ≤ c.toNat

variable {s t : Text}

theorem isClean_nil : IsClean [] := by
  intro c hc
  cases hc

theorem IsClean.append (hs : IsClean s) (ht : IsClean t) : IsClean (s ++ t) :=
  List.forall_mem_append.mpr ⟨hs, ht⟩

theorem IsClean.cons {c : Char} (hc : 0x20 ≤ c.toNat) (ht : IsClean t) : IsClean (c :: t) :=
  List.forall_mem_cons.mpr ⟨hc, ht⟩

theorem isClean_of_digits (h : ∀ c ∈ t, c.isDigit = true) : IsClean t := by
  intro c hc
  obtain ⟨hlow, -⟩ := toNat_of_isDigit (h c hc)
  omega

theorem isClean_decimal (n : Nat) : IsClean (decimal n) := by
  apply isClean_of_digits
  intro c hc
  exact isDigit_of_mem_decimal hc

theorem isClean_clock (n : Nat) : IsClean (clock n) := by
  have hdigits (k : Nat) : IsClean (twoDigits k) :=
    isClean_of_digits fun c => isDigit_of_mem_twoDigits
  exact (hdigits (n / 60)).append ((hdigits (n % 60)).cons (by decide))

theorem IsClean.newline_notMem (h : IsClean t) : '\n' ∉ t := fun hmem =>
  absurd (h '\n' hmem) (by decide)

theorem IsClean.escape_notMem (h : IsClean t) : Display.escape ∉ t := fun hmem =>
  absurd (h Display.escape hmem) (by decide)

end Text

/-! ## What the program says itself -/

theorem Marker.isClean_text (m : Marker) : IsClean m.text := by
  apply IsClean.append
  · intro c hc
    rw [List.eq_of_mem_replicate hc]
    decide
  · split
    · decide
    · exact isClean_clock m.time

theorem Block.isClean_label (b : Block) : IsClean b.label := by
  unfold Block.label
  split
  · next m _ => exact m.isClean_text
  · decide

namespace Session

variable (s : Session)

theorem isClean_header (b : Block) : IsClean (s.header b) := by
  have hopening : IsClean "── [".toList := by decide
  have hbetween : IsClean "] ".toList := by decide
  have hclosing : IsClean " ──".toList := by decide
  have hplace : IsClean ("── [".toList ++ decimal (s.timer.block + 1) ++ ['/']) :=
    (hopening.append (isClean_decimal _)).append (by decide)
  exact (((hplace.append (isClean_decimal _)).append hbetween).append b.isClean_label).append
    hclosing

theorem isClean_counter (elapsed budget : Nat) : IsClean (counter elapsed budget) := by
  exact (isClean_clock elapsed).append ((isClean_clock budget).cons (by decide))

theorem isClean_statusText : IsClean s.statusText := by
  have hplace : IsClean "  block ".toList := by decide
  have hname : IsClean "  parent ".toList := by decide
  have hwhole : IsClean "  total ".toList := by decide
  unfold statusText
  refine .append (.append (.append (.append (.append (.append (.append ?sign hplace) ?block)
    ?parent) hwhole) ?total) ?overtime) ?auto
  case sign => split <;> decide
  case block =>
    split
    · have hspent := (isClean_counter s.timer.blockElapsed.toNat s.blockTime).append
        (by decide : IsClean " (".toList)
      exact (hspent.append (isClean_decimal _)).append (by decide)
    · exact isClean_clock _
  case parent =>
    split
    · next t _ => exact hname.append (isClean_counter _ t)
    · exact isClean_nil
  case total => exact isClean_counter _ _
  case overtime => split <;> decide
  case auto => split <;> decide

/-! ## Lines are lines -/

variable {s}

/-- **What stands on the screen of a block** is the program's own, or a line of the block. -/
theorem isClean_or_mem_shownLines {l : Text} (h : l ∈ s.blockLines) :
    IsClean l ∨ ∃ b ∈ s.blocks, l ∈ shownLines b.content := by
  unfold blockLines at h
  split at h
  · rw [List.mem_singleton.mp h]
    exact Or.inl (by decide)
  · next b hb =>
    simp only [List.cons_append, List.mem_cons, List.mem_append, List.mem_filter,
      List.not_mem_nil, or_false] at h
    rcases h with rfl | ⟨hl, -⟩ | rfl
    · exact Or.inl (s.isClean_header b)
    · exact Or.inr ⟨b, List.mem_of_getElem? hb, hl⟩
    · exact Or.inl isClean_nil

theorem newline_notMem_blockLines {l : Text} (h : l ∈ s.blockLines) : '\n' ∉ l := by
  rcases isClean_or_mem_shownLines h with hclean | ⟨b, -, hl⟩
  · exact hclean.newline_notMem
  · exact not_mem_of_mem_shownLines hl

theorem escape_notMem_blockLines (hs : ∀ b ∈ s.blocks, Display.escape ∉ b.content) {l : Text}
    (h : l ∈ s.blockLines) : Display.escape ∉ l := by
  rcases isClean_or_mem_shownLines h with hclean | ⟨b, hb, hl⟩
  · exact hclean.escape_notMem
  · exact fun hmem => hs b hb (subset_of_mem_shownLines hl hmem)

end Session

/-! ## Carriage returns on a terminal -/

theorem withReturns_append (s t : Text) :
    withReturns (s ++ t) = withReturns s ++ withReturns t := List.flatMap_append

theorem withReturns_of_notMem {t : Text} (h : '\n' ∉ t) : withReturns t = t := by
  induction t with
  | nil => rfl
  | cons c t ih =>
      obtain ⟨hc, ht⟩ := not_or.mp (mt List.mem_cons.mpr h)
      rw [withReturns, List.flatMap_cons, if_neg (Ne.symm hc)]
      exact congrArg (c :: ·) (ih ht)

/-- Lines on a terminal are plain lines with a carriage return before each line feed. -/
theorem Display.lines_terminal {ls : List Text} (h : ∀ l ∈ ls, '\n' ∉ l) :
    Display.terminal.lines ls = withReturns (Display.plain.lines ls) := by
  induction ls with
  | nil => rfl
  | cons l ls ih =>
      obtain ⟨hl, hls⟩ := List.forall_mem_cons.mp h
      have hline : withReturns (Display.plain.line l) = Display.terminal.line l := by
        show withReturns (l ++ ['\n']) = l ++ ['\r', '\n']
        rw [withReturns_append, withReturns_of_notMem hl]
        rfl
      rw [Display.lines, Display.lines, List.flatMap_cons, List.flatMap_cons, withReturns_append,
        hline]
      exact congrArg (Display.terminal.line l ++ ·) (ih hls)

/-- In the text each line feed has a carriage return before it. -/
def IsReturned (t : Text) : Prop :=
  ∀ before after, t = before ++ '\n' :: after → before.getLast? = some '\r'

theorem isReturned_of_notMem {t : Text} (h : '\n' ∉ t) : IsReturned t := by
  rintro before after rfl
  exact absurd (List.mem_append_right before List.mem_cons_self) h

theorem IsReturned.append {s t : Text} (hs : IsReturned s) (ht : IsReturned t) :
    IsReturned (s ++ t) := by
  intro before after heq
  rcases List.append_eq_append_iff.mp heq with ⟨u, rfl, hu⟩ | ⟨u, hu, htail⟩
  · -- the line feed stands in the second text
    rw [List.getLast?_append_of_ne_nil]
    · exact ht u after hu
    · rintro rfl
      exact absurd (ht [] after hu) (by simp)
  · cases u with
    | nil =>
        -- it would be the first character of the second text, with nothing before it
        exact absurd (ht [] after htail.symm) (by simp)
    | cons c u =>
        obtain ⟨rfl, -⟩ := List.cons.inj htail
        exact hs before u hu

theorem isReturned_withReturns (t : Text) : IsReturned (withReturns t) := by
  induction t with
  | nil => exact isReturned_of_notMem List.not_mem_nil
  | cons c t ih =>
      rw [withReturns, List.flatMap_cons]
      refine IsReturned.append ?_ ih
      split
      · intro before after heq
        rcases before with _ | ⟨d, _ | ⟨e, before⟩⟩
        · exact absurd (List.cons.inj heq).1 (by decide)
        · rw [← (List.cons.inj heq).1]
          rfl
        · simp at heq
      · next hc => exact isReturned_of_notMem fun hmem => hc (List.mem_singleton.mp hmem).symm

/-! ## All that is written -/

/-- What is done with a session that is shown: it takes an event, or a part of the screen is
drawn. -/
inductive Act
  | take (e : Event)
  | drawBlock
  | drawStatus
  deriving DecidableEq, Repr

namespace Session

/-- All that is written while these acts are done, one after the other. -/
def written (d : Display) : Session → List Act → Text
  | _, [] => []
  | s, .take e :: acts => (s.take e).1.written d acts
  | s, .drawBlock :: acts => s.drawBlock d ++ s.written d acts
  | s, .drawStatus :: acts => s.drawStatus d ++ s.written d acts

theorem drawBlock_terminal_eq (s : Session) :
    s.drawBlock .terminal = Display.clearAll ++ withReturns (Display.plain.lines s.blockLines) := by
  rw [drawBlock, Display.lines_terminal fun l => newline_notMem_blockLines]
  rfl

theorem isReturned_drawBlock (s : Session) : IsReturned (s.drawBlock .terminal) := by
  rw [drawBlock_terminal_eq]
  apply IsReturned.append
  · exact isReturned_of_notMem (by decide)
  · exact isReturned_withReturns _

theorem isReturned_drawStatus (s : Session) : IsReturned (s.drawStatus .terminal) := by
  apply IsReturned.append
  · exact isReturned_of_notMem (by decide)
  · exact isReturned_of_notMem s.isClean_statusText.newline_notMem

theorem isReturned_written (s : Session) (acts : List Act) :
    IsReturned (s.written .terminal acts) := by
  induction acts generalizing s with
  | nil => exact isReturned_of_notMem List.not_mem_nil
  | cons act acts ih =>
      cases act with
      | take e => exact ih (s.take e).1
      | drawBlock => exact s.isReturned_drawBlock.append (ih s)
      | drawStatus => exact s.isReturned_drawStatus.append (ih s)

variable {s : Session}

theorem escape_notMem_drawBlock (hs : ∀ b ∈ s.blocks, Display.escape ∉ b.content) :
    Display.escape ∉ s.drawBlock .plain := by
  intro hmem
  rcases List.mem_append.mp hmem with hmem | hmem
  · exact absurd hmem (by decide)
  · obtain ⟨l, hl, hmem⟩ := List.mem_flatMap.mp hmem
    rcases List.mem_append.mp hmem with hmem | hmem
    · exact escape_notMem_blockLines hs hl hmem
    · exact absurd hmem (by decide)

theorem escape_notMem_drawStatus (s : Session) : Display.escape ∉ s.drawStatus .plain := by
  intro hmem
  rcases List.mem_append.mp hmem with hmem | hmem
  · exact s.isClean_statusText.escape_notMem hmem
  · exact absurd hmem (by decide)

theorem escape_notMem_written (hs : ∀ b ∈ s.blocks, Display.escape ∉ b.content)
    (acts : List Act) : Display.escape ∉ s.written .plain acts := by
  induction acts generalizing s with
  | nil => exact List.not_mem_nil
  | cons act acts ih =>
      cases act with
      | take e =>
          -- an event may change what is drawn next, but not the blocks
          apply ih
          rw [s.take_blocks e]
          exact hs
      | drawBlock =>
          exact fun hmem => (List.mem_append.mp hmem).elim (escape_notMem_drawBlock hs) (ih hs)
      | drawStatus =>
          exact fun hmem => (List.mem_append.mp hmem).elim s.escape_notMem_drawStatus (ih hs)

end Session

/-- **Both displays show the same.** In every state that a session comes to, the block is drawn as
the same lines after the one prefix or the other, and the status as the same text; the lines hold no
line feed, so that they can be told from what is printed. On a terminal no line feed goes without a
carriage return. And plain lines hold no escape character unless the content of a block has one. -/
theorem displays_show_same (blocks : List Block) (autoAdvance : Bool) :
    (∀ es, ∃ (ls : List Text) (status : Text), (∀ l ∈ ls, '\n' ∉ l) ∧ '\n' ∉ status ∧
      let s := (Session.start blocks autoAdvance).after es
      s.drawBlock .plain = ['\n'] ++ ls.flatMap (fun l => l ++ ['\n']) ∧
      s.drawBlock .terminal = Display.clearAll ++ ls.flatMap (fun l => l ++ ['\r', '\n']) ∧
      s.drawStatus .plain = status ++ ['\n'] ∧
      s.drawStatus .terminal = Display.clearLine ++ status) ∧
    (∀ acts before after,
      (Session.start blocks autoAdvance).written .terminal acts = before ++ '\n' :: after →
        before.getLast? = some '\r') ∧
    ((∀ b ∈ blocks, Display.escape ∉ b.content) →
      ∀ acts, Display.escape ∉ (Session.start blocks autoAdvance).written .plain acts) := by
  refine ⟨?_, Session.isReturned_written _, fun h acts => Session.escape_notMem_written h acts⟩
  intro es
  let s := (Session.start blocks autoAdvance).after es
  refine ⟨s.blockLines, s.statusText, fun l => Session.newline_notMem_blockLines,
    s.isClean_statusText.newline_notMem, ?_⟩
  exact ⟨rfl, rfl, rfl, rfl⟩

/-- Two blocks, the first with carriage returns in its lines, drawn while the talk goes on. -/
theorem displays_show_same_returns :
    let blocks := segment "?00:05\nA\rB\r\n\r\n??!!\nC".toList
    let acts : List Act := [.drawBlock, .take (.command .next), .drawStatus, .drawBlock]
    let s := Session.start blocks false
    (∀ b ∈ blocks, Display.escape ∉ b.content) ∧
      Display.escape ∉ s.written .plain acts ∧
      s.written .plain acts =
        ("\n── [1/2] ?00:05 ──\nA\rB\n\r\n\n" ++
          "⏸  block 00:00  parent 00:00/00:05  total 00:00/00:05\n" ++
          "\n── [2/2] ??!! ──\nC\n\n").toList := by
  intro blocks acts s
  have hblocks : ∀ b ∈ blocks, Display.escape ∉ b.content := by decide
  exact ⟨hblocks, (displays_show_same blocks false).2.2 hblocks acts, by decide +kernel⟩

end TalkTimer

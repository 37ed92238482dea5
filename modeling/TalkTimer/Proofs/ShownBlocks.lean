import TalkTimer.Proofs.Padding
import TalkTimer.Proofs.WrittenScript
import TalkTimer.Screen

/-!
# Blocks on the screen

The screen leaves out markers without time control, should any of them stand in the content of a
block. It looks for them in the lines as a reader sees them, and the cut into blocks looked for
markers in the lines between line feeds. The two kinds of lines differ in carriage returns and at
the end of the text.

* **Shown lines** (`exists_padsLine_of_mem_shownLines`) – a line that is shown is a line of the
  text, perhaps without a carriage return at its end, and that is padding to the marker language.
* **Nothing is left out** (`drawBlock_eq_of_mem_segment`) – so no line of a block of a script is
  taken for a marker by the screen, and all of them are shown.
-/

namespace TalkTimer

open Text

variable {l t source : Text} {b : Block}

/-! ## Shown lines -/

/-- A carriage return at the end of a line is padding. -/
theorem padsLine_dropReturn (l : Text) : PadsLine (dropReturn l) l := by
  unfold dropReturn
  split
  · next h =>
    have hsplit : l = l.dropLast ++ ['\r'] := by
      rw [List.dropLast_append_getLast?]
      exact h
    refine ⟨[], ['\r'], by simpa using hsplit, isGap_nil, ?_, by simp, by decide⟩
    intro c hc
    rw [List.mem_singleton.mp hc]
    rfl
  · exact PadsLine.refl l

theorem exists_padsLine_of_mem_endLines {ls : List Text} (h : l ∈ endLines ls) :
    ∃ l' ∈ ls, PadsLine l l' := by
  induction ls with
  | nil => cases h
  | cons k ls ih =>
      cases ls with
      | nil =>
          -- the last line has nothing after it, and keeps its carriage return
          rw [endLines] at h
          split at h
          · cases h
          · exact ⟨l, h, PadsLine.refl l⟩
      | cons k' ls =>
          rw [endLines] at h
          rcases List.mem_cons.mp h with rfl | h
          · exact ⟨k, List.mem_cons_self, padsLine_dropReturn k⟩
          · obtain ⟨l', hl', hpads⟩ := ih h
            exact ⟨l', List.mem_cons_of_mem k hl', hpads⟩

/-- **A line that is shown is a line of the text**, but for padding. -/
theorem exists_padsLine_of_mem_shownLines (h : l ∈ shownLines t) :
    ∃ l' ∈ lines t, PadsLine l l' :=
  exists_padsLine_of_mem_endLines h

/-! ## Nothing is left out -/

/-- No line that is shown of a block of a script holds a marker. -/
theorem readMarker?_of_mem_shownLines (hb : b ∈ segment source) (hl : l ∈ shownLines b.content) :
    readMarker? l = none := by
  obtain ⟨l', hl', hpads⟩ := exists_padsLine_of_mem_shownLines hl
  rw [← hpads.readMarker?_eq]
  rcases (content_of_mem_segment hb).1 l' hl' with rfl | ⟨-, hread⟩
  · rfl
  · exact hread

theorem not_isUntimedMarker_of_mem_shownLines (hb : b ∈ segment source)
    (hl : l ∈ shownLines b.content) : isUntimedMarker l = false := by
  rw [isUntimedMarker, readMarker?_of_mem_shownLines hb hl]
  rfl

/-- So the screen of a block has all its lines. -/
theorem blockLines_eq_of_mem_segment (hb : b ∈ segment source) {s : Session}
    (hs : s.currentBlock? = some b) :
    s.blockLines = s.header b :: shownLines b.content ++ [[]] := by
  have hall : (shownLines b.content).filter (fun l => !isUntimedMarker l) =
      shownLines b.content := by
    rw [List.filter_eq_self]
    intro l hl
    rw [not_isUntimedMarker_of_mem_shownLines hb hl]
    rfl
  rw [Session.blockLines, hs]
  show s.header b :: (shownLines b.content).filter (fun l => !isUntimedMarker l) ++ [[]] = _
  rw [hall]

/-- **The screen hides nothing of a script.** Of any block of a script, and in any session that is
at this block, all lines of the content are drawn between the header and an empty line, each once
and in their order: none of them is taken for a marker without time control. -/
theorem drawBlock_eq_of_mem_segment (source : Text) (b : Block) (hb : b ∈ segment source)
    (s : Session) (hs : s.currentBlock? = some b) :
    (∀ l ∈ shownLines b.content, isUntimedMarker l = false) ∧
    ∀ d : Display, s.drawBlock d =
      d.beforeBlock ++ d.line (s.header b) ++ d.lines (shownLines b.content) ++ d.line [] := by
  refine ⟨fun l hl => not_isUntimedMarker_of_mem_shownLines hb hl, ?_⟩
  intro d
  rw [Session.drawBlock, blockLines_eq_of_mem_segment hb hs]
  simp only [Display.lines, List.flatMap_append, List.flatMap_cons, List.flatMap_nil,
    List.append_nil, List.append_assoc]

/-- A block that ends with a carriage return and has a faulty marker in it. Its line feeds end lines
together with the carriage return before them, and the last carriage return ends none. -/
theorem drawBlock_eq_of_mem_segment_returns :
    let source := "?01:00\nA \r\n?!!:\r\n\r\n??!!\nB".toList
    let b : Block := ⟨"A \r\n?!!:\r\n\r".toList, some (.timed 1 60), 0, ⟨0, 19⟩⟩
    let s := Session.start (segment source) false
    b ∈ segment source ∧ s.currentBlock? = some b ∧
      s.drawBlock .plain = "\n── [1/2] ?01:00 ──\nA \n?!!:\n\r\n\n".toList := by
  intro source b s
  have hb : b ∈ segment source := by decide
  have hs : s.currentBlock? = some b := by decide
  refine ⟨hb, hs, ?_⟩
  rw [(drawBlock_eq_of_mem_segment source b hb s hs).2 .plain]
  decide

end TalkTimer

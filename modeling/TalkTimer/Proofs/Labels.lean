import TalkTimer.Proofs.MarkerText
import TalkTimer.Proofs.Outline
import TalkTimer.Proofs.Words
import TalkTimer.Title

/-!
# What blocks are called

A block is called by the text of its marker (`Block.label`), in its header and in the list of the
blocks. Two facts about these texts:

* the label of a block reads back as its marker, unless the marker has 100 minutes or more
  (`readMarker?_label_iff`),
* the description of a block is one line, whatever its content (`newline_notMem_describe`).
-/

namespace TalkTimer

open Text

/-! ## Labels read back -/

/-- **Which labels read back.** A marker that was read from a line is read from its own text exactly
if it has less than 100 minutes, and so is the marker of a block from the block's label. -/
theorem readMarker?_label_iff (source : Text) :
    (∀ l m, readMarker? l = some m → (readMarker? m.text = some m ↔ m.time < 6000)) ∧
    ∀ b ∈ segment source, ∀ m, b.marker = some m →
      b.label = m.text ∧ (readMarker? b.label = some m ↔ m.time < 6000) := by
  refine ⟨fun l m h => ?_, fun b hb m hm => ?_⟩
  · exact readMarker?_text_iff_of_isWellFormed (isWellFormed_of_readMarker? h)
  · have hlabel : b.label = m.text := by rw [Block.label, hm]
    have hmem := mem_marksOf_of_mem_segment hb hm
    rw [hlabel]
    exact ⟨rfl, readMarker?_text_iff_of_isWellFormed (isWellFormed_of_mem_marksOf hmem)⟩

/-- A clock of 99 minutes may show up to 95 seconds. Its marker is accepted, but has a text of six
places for the clock, which no line may have. -/
theorem hundred_minutes_do_not_read_back :
    ¬ (∀ l m, readMarker? l = some m → readMarker? m.text = some m) ∧
    Script.parse 0 "?99:60\nA".toList = .ok ⟨segment "?99:60\nA".toList, 0⟩ ∧
    (segment "?99:60\nA".toList).map (fun b => (b.marker, b.label)) =
      [(some (.timed 1 6000), "?100:00".toList)] ∧
    classify "?100:00".toList = .malformed := by
  refine ⟨fun h => ?_, rfl, by decide, by decide⟩
  have hback := h "?99:60".toList (.timed 1 6000) (by decide)
  exact absurd hback (by decide)

/-! ## Descriptions are lines -/

theorem newline_notMem_of_isBlank {t : Text} (h : ∀ c ∈ t, isBlank c = false) : '\n' ∉ t :=
  fun hmem => Bool.noConfusion (h '\n' hmem)

theorem newline_notMem_decimal (n : Nat) : '\n' ∉ decimal n := by
  intro h
  have hdigit := isDigit_of_mem_decimal h
  cases hdigit

/-- A title is made of words and single spaces. -/
theorem Markdown.exists_words_of_titleOf? {es : List Event} {t : Text} (h : titleOf? es = some t) :
    ∃ s, t = joinWords (words s) := by
  induction es with
  | nil => cases h
  | cons e es ih =>
      cases e with
      | headingStart =>
          have htitle : titleOfWords (words (headingText es)) = some t := h
          refine ⟨headingText es, ?_⟩
          cases hws : words (headingText es) with
          | nil =>
              rw [hws] at htitle
              cases htitle
          | cons w ws =>
              rw [hws] at htitle
              exact (Option.some.inj htitle).symm
      | _ => exact ih h

namespace Block

variable (b : Block)

theorem newline_notMem_label : '\n' ∉ b.label := by
  unfold label
  split
  · next m _ => exact m.newline_notMem_text
  · decide

theorem newline_notMem_title [MarkdownReader] {t : Text} (h : b.title? = some t) : '\n' ∉ t := by
  obtain ⟨s, rfl⟩ := Markdown.exists_words_of_titleOf? h
  intro hmem
  rcases mem_joinWords hmem with heq | ⟨w, hw, hx⟩
  · exact absurd heq (by decide)
  · exact newline_notMem_of_isBlank (isBlank_of_mem_words hw) hx

theorem newline_notMem_firstLine : '\n' ∉ b.firstLine := by
  unfold firstLine
  cases h : ((shownLines b.content).map trim).find? fun l => !l.isEmpty with
  | none => exact List.not_mem_nil
  | some l =>
      obtain ⟨l', hl', rfl⟩ := List.mem_map.mp (List.mem_of_find?_eq_some h)
      exact fun hmem => not_mem_of_mem_shownLines hl' (trim_subset l' hmem)

/-- **A description is one line.** Neither the marker nor the title nor the first line of the content
can break it. -/
theorem newline_notMem_describe [MarkdownReader] : '\n' ∉ b.describe := by
  have hname : '\n' ∉ b.title?.getD b.firstLine := by
    cases h : b.title? with
    | none => exact b.newline_notMem_firstLine
    | some t => exact b.newline_notMem_title h
  have hindent : '\n' ∉ List.replicate (2 * (b.level - 1)) ' ' := fun h => by
    cases List.eq_of_mem_replicate h
  have hline : '\n' ∉ "  (line ".toList := by decide
  simp only [describe, List.mem_append, not_or]
  exact ⟨⟨⟨⟨⟨⟨hindent, b.newline_notMem_label⟩, by decide⟩, hname⟩, hline⟩,
    newline_notMem_decimal _⟩, by decide⟩

end Block
end TalkTimer

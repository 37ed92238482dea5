import TalkTimer.Markdown.Events
import TalkTimer.Proofs.Words

/-!
# Titles and line breaks

A heading of several lines has breaks among its events. A title leaves them out, so that the last
word of a line and the first word of the next one stand in it as one word. The argument has three
steps.

* **The first heading** (`exists_firstHeading`, `titleOf?_append`) – where headings end, the pass over
  the events of a content comes to the first heading, and stops at its end.
* **Against separated lines** (`words_plainText_iff`) – the words of a heading are those it has with
  a space for every break exactly if no word runs together with another over a break.
* **Titles tell their words** (`titleOfWords_inj`) – so titles differ where the words do.

`title?_of_headingsEnd` puts them together, for whatever reader of Markdown whose headings end.
-/

namespace TalkTimer
namespace Markdown

open Text

/-! ## The first heading -/

/-- The text that an event adds to a title. -/
def Event.titleText : Event → Text
  | .text t => t
  | .code t => t
  | _ => []

/-- The text of some events as a title takes it, without the breaks. -/
def plainText (es : List Event) : Text := es.flatMap Event.titleText

/-- Each heading that starts among the events also ends. -/
def HeadingsEnd (es : List Event) : Prop :=
  ∀ before rest, es = before ++ .headingStart :: rest → .headingEnd ∈ rest

variable {e : Event} {es before inner : List Event}

theorem headingsEnd_of_getLast? (h : es.getLast? = some .headingEnd) : HeadingsEnd es := by
  rintro before rest rfl
  rw [List.getLast?_append_cons] at h
  cases rest with
  | nil => cases h
  | cons e rest => exact List.mem_of_getLast? h

/-- **The first heading** of some events, with what stands in it. -/
theorem exists_firstHeading (hends : HeadingsEnd es) (h : .headingStart ∈ es) :
    ∃ before inner after, es = before ++ .headingStart :: (inner ++ .headingEnd :: after) ∧
      .headingStart ∉ before ∧ .headingEnd ∉ inner := by
  obtain ⟨before, rest, hes, hbefore⟩ := List.eq_append_cons_of_mem h
  obtain ⟨inner, after, hrest, hinner⟩ := List.eq_append_cons_of_mem (hends before rest hes)
  subst hrest
  exact ⟨before, inner, after, hes, hbefore, hinner⟩

theorem headingText_append (hinner : .headingEnd ∉ inner) (after : List Event) :
    headingText (inner ++ .headingEnd :: after) = plainText inner := by
  induction inner with
  | nil => rfl
  | cons e inner ih =>
      rw [List.mem_cons, not_or] at hinner
      have hrest := ih hinner.2
      cases e with
      | headingEnd => exact absurd rfl hinner.1
      | text t => exact congrArg (t ++ ·) hrest
      | code t => exact congrArg (t ++ ·) hrest
      | _ => exact hrest

theorem titleOf?_append_of_notMem (h : .headingStart ∉ before) (es : List Event) :
    titleOf? (before ++ es) = titleOf? es := by
  induction before with
  | nil => rfl
  | cons e before ih =>
      rw [List.mem_cons, not_or] at h
      have hrest := ih h.2
      cases e with
      | headingStart => exact absurd rfl h.1
      | _ => exact hrest

theorem titleOf?_of_notMem (h : .headingStart ∉ es) : titleOf? es = none := by
  have hscan := titleOf?_append_of_notMem h []
  rwa [List.append_nil] at hscan

/-- **The pass stops at the end of the first heading**, whatever comes `after` it. -/
theorem titleOf?_append (hbefore : .headingStart ∉ before) (hinner : .headingEnd ∉ inner)
    (after : List Event) :
    titleOf? (before ++ .headingStart :: (inner ++ .headingEnd :: after)) =
      titleOfWords (words (plainText inner)) := by
  rw [titleOf?_append_of_notMem hbefore, titleOf?, headingText_append hinner]

/-! ## Breaks -/

/-- A soft or a hard break of a line. -/
def Event.isBreak : Event → Bool
  | .softBreak => true
  | .hardBreak => true
  | _ => false

/-- The text of an event with a space for a break. -/
def Event.spacedText (e : Event) : Text := if e.isBreak then [' '] else e.titleText

/-- The text of some events with a space for every break. -/
def spacedText (es : List Event) : Text := es.flatMap Event.spacedText

/-- Among the events that follow the text `p` is a break with a word that ends before it and a word
that starts after it. -/
def RunsTogetherAfter (p : Text) (es : List Event) : Prop :=
  ∃ before br after, es = before ++ br :: after ∧ br.isBreak = true ∧
    EndsInWord (p ++ plainText before) ∧ StartsInWord (plainText after)

/-- A word runs together with another one over a break. -/
def RunsTogether (es : List Event) : Prop :=
  ∃ before br after, es = before ++ br :: after ∧ br.isBreak = true ∧
    EndsInWord (plainText before) ∧ StartsInWord (plainText after)

theorem titleText_of_isBreak (h : e.isBreak = true) : e.titleText = [] := by
  cases e <;> first | rfl | cases h

theorem plainText_cons (e : Event) (es : List Event) :
    plainText (e :: es) = e.titleText ++ plainText es := rfl

theorem plainText_append (es fs : List Event) :
    plainText (es ++ fs) = plainText es ++ plainText fs := List.flatMap_append

theorem plainText_cons_of_isBreak (h : e.isBreak = true) (es : List Event) :
    plainText (e :: es) = plainText es := by
  rw [plainText_cons, titleText_of_isBreak h, List.nil_append]

theorem spacedText_cons_of_isBreak (h : e.isBreak = true) (es : List Event) :
    spacedText (e :: es) = ' ' :: spacedText es := by
  rw [spacedText, List.flatMap_cons, Event.spacedText, if_pos h]
  rfl

theorem spacedText_cons_of_not_isBreak (h : e.isBreak = false) (es : List Event) :
    spacedText (e :: es) = e.titleText ++ spacedText es := by
  rw [spacedText, List.flatMap_cons, Event.spacedText, h]
  rfl

theorem letters_spacedText (es : List Event) :
    letters (spacedText es) = letters (plainText es) := by
  induction es with
  | nil => rfl
  | cons e es ih =>
      cases he : e.isBreak with
      | true =>
          rw [spacedText_cons_of_isBreak he, plainText_cons_of_isBreak he,
            letters_cons_of_blank rfl, ih]
      | false =>
          rw [spacedText_cons_of_not_isBreak he, plainText_cons, letters_append, letters_append, ih]

theorem length_words_plainText_le (p : Text) (es : List Event) :
    (words (p ++ plainText es)).length ≤ (words (p ++ spacedText es)).length := by
  induction es generalizing p with
  | nil => exact Nat.le_refl _
  | cons e es ih =>
      cases he : e.isBreak with
      | true =>
          rw [plainText_cons_of_isBreak he, spacedText_cons_of_isBreak he,
            words_append_blank p rfl, List.length_append]
          have hmeet := length_words_append_le p (plainText es)
          have hrest := ih []
          rw [List.nil_append, List.nil_append] at hrest
          omega
      | false =>
          rw [plainText_cons, spacedText_cons_of_not_isBreak he, ← List.append_assoc,
            ← List.append_assoc]
          exact ih (p ++ e.titleText)

/-! ## Where words run together -/

variable {p : Text}

theorem not_runsTogetherAfter_nil : ¬ RunsTogetherAfter p [] := by
  rintro ⟨before, br, after, h, -⟩
  cases before <;> cases h

theorem runsTogetherAfter_cons_of_not_isBreak (he : e.isBreak = false) :
    RunsTogetherAfter p (e :: es) ↔ RunsTogetherAfter (p ++ e.titleText) es := by
  constructor
  · rintro ⟨before, br, after, heq, hbr, hend, hstart⟩
    cases before with
    | nil =>
        cases heq
        rw [he] at hbr
        cases hbr
    | cons g before =>
        cases heq
        rw [plainText_cons, ← List.append_assoc] at hend
        exact ⟨before, br, after, rfl, hbr, hend, hstart⟩
  · rintro ⟨before, br, after, rfl, hbr, hend, hstart⟩
    refine ⟨e :: before, br, after, rfl, hbr, ?_, hstart⟩
    rw [plainText_cons, ← List.append_assoc]
    exact hend

theorem runsTogetherAfter_cons_of_isBreak (he : e.isBreak = true) :
    RunsTogetherAfter p (e :: es) ↔
      (EndsInWord p ∧ StartsInWord (plainText es)) ∨ RunsTogether es := by
  constructor
  · rintro ⟨before, br, after, heq, hbr, hend, hstart⟩
    cases before with
    | nil =>
        cases heq
        rw [show plainText [] = [] from rfl, List.append_nil] at hend
        exact Or.inl ⟨hend, hstart⟩
    | cons g before =>
        cases heq
        rw [plainText_cons_of_isBreak he] at hend
        by_cases hnil : plainText before = []
        · -- nothing stands between the first break and this one: they divide the same two words
          rw [hnil, List.append_nil] at hend
          refine Or.inl ⟨hend, ?_⟩
          show StartsInWord (plainText (before ++ br :: after))
          rw [plainText_append, hnil, plainText_cons_of_isBreak hbr]
          exact hstart
        · rw [endsInWord_append_iff p hnil] at hend
          exact Or.inr ⟨before, br, after, rfl, hbr, hend, hstart⟩
  · rintro (⟨hend, hstart⟩ | ⟨before, br, after, rfl, hbr, hend, hstart⟩)
    · refine ⟨[], e, es, rfl, he, ?_, hstart⟩
      rw [show plainText [] = [] from rfl, List.append_nil]
      exact hend
    · refine ⟨e :: before, br, after, rfl, hbr, ?_, hstart⟩
      have hne : plainText before ≠ [] := by
        intro hnil
        rw [hnil] at hend
        exact not_endsInWord_nil hend
      rw [plainText_cons_of_isBreak he, endsInWord_append_iff p hne]
      exact hend

/-- **Breaks keep words apart exactly where no word runs together with another.** The induction is
on the events, with the text before them left general. -/
theorem words_append_plainText_iff (p : Text) (es : List Event) :
    words (p ++ plainText es) = words (p ++ spacedText es) ↔ ¬ RunsTogetherAfter p es := by
  induction es generalizing p with
  | nil => exact iff_of_true rfl not_runsTogetherAfter_nil
  | cons e es ih =>
      cases he : e.isBreak with
      | false =>
          rw [runsTogetherAfter_cons_of_not_isBreak he, plainText_cons,
            spacedText_cons_of_not_isBreak he, ← List.append_assoc, ← List.append_assoc]
          exact ih (p ++ e.titleText)
      | true =>
          rw [runsTogetherAfter_cons_of_isBreak he, plainText_cons_of_isBreak he,
            spacedText_cons_of_isBreak he, words_append_blank p rfl]
          by_cases h : EndsInWord p ∧ StartsInWord (plainText es)
          · -- one word less than the two sides have, and the breaks to come only take away more
            refine iff_of_false ?_ (not_not_intro (Or.inl h))
            intro heq
            have hmeet := length_words_append h.1 h.2
            have hrest := length_words_plainText_le [] es
            rw [heq, List.length_append] at hmeet
            rw [List.nil_append, List.nil_append] at hrest
            omega
          · rw [words_append h, List.append_cancel_left_eq, or_iff_right h]
            exact ih []

theorem words_plainText_iff (es : List Event) :
    words (plainText es) = words (spacedText es) ↔ ¬ RunsTogether es :=
  words_append_plainText_iff [] es

/-! ## Titles -/

theorem titleOfWords_eq_none_iff {ws : List Text} : titleOfWords ws = none ↔ ws = [] := by
  cases ws with
  | nil => exact iff_of_true rfl rfl
  | cons w ws => exact iff_of_false (Option.some_ne_none _) (List.cons_ne_nil w ws)

theorem words_of_titleOfWords {s t : Text} (h : titleOfWords (words s) = some t) :
    words t = words s := by
  cases hs : words s with
  | nil =>
      rw [hs] at h
      cases h
  | cons w ws =>
      rw [hs] at h
      cases h
      rw [← hs, words_joinWords_words]

theorem titleOfWords_inj {s t : Text} :
    titleOfWords (words s) = titleOfWords (words t) ↔ words s = words t := by
  constructor
  · intro h
    cases ht : titleOfWords (words t) with
    | none =>
        rw [ht] at h
        rw [titleOfWords_eq_none_iff.mp h, titleOfWords_eq_none_iff.mp ht]
    | some title =>
        rw [ht] at h
        rw [← words_of_titleOfWords h, words_of_titleOfWords ht]
  · intro h
    rw [h]

/-- **Titles and the lines of their heading.** Where every heading of a content ends, a block whose
content has no heading has no title. With one, the title depends on no event after the end of the
first heading. It is missing exactly if the heading has no word, has the letters of the heading in
order, and is made of the words of the heading's lines exactly if no word runs together with another
over a break. -/
theorem title?_of_headingsEnd [reader : MarkdownReader] (b : Block)
    (hends : HeadingsEnd (reader.events b.content)) :
    (.headingStart ∉ reader.events b.content → b.title? = none) ∧
    (.headingStart ∈ reader.events b.content → ∃ before inner after,
      reader.events b.content = before ++ .headingStart :: (inner ++ .headingEnd :: after) ∧
      .headingStart ∉ before ∧ .headingEnd ∉ inner ∧
      (∀ (other : MarkdownReader) (c : Block) after',
        other.events c.content = before ++ .headingStart :: (inner ++ .headingEnd :: after') →
          @Block.title? other c = @Block.title? reader b) ∧
      (b.title? = none ↔ words (spacedText inner) = []) ∧
      (∀ t, b.title? = some t → letters t = letters (spacedText inner)) ∧
      (b.title? = titleOfWords (words (spacedText inner)) ↔ ¬ RunsTogether inner)) := by
  refine ⟨titleOf?_of_notMem, fun hstart => ?_⟩
  obtain ⟨before, inner, after, hes, hbefore, hinner⟩ := exists_firstHeading hends hstart
  have htitle : b.title? = titleOfWords (words (plainText inner)) := by
    rw [Block.title?, hes, titleOf?_append hbefore hinner]
  refine ⟨before, inner, after, hes, hbefore, hinner, ?_, ?_, ?_, ?_⟩
  · intro other c after' hother
    rw [htitle, Block.title?, hother, titleOf?_append hbefore hinner]
  · rw [htitle, titleOfWords_eq_none_iff, words_eq_nil_iff, words_eq_nil_iff, letters_spacedText]
  · intro t ht
    rw [htitle] at ht
    rw [← flatten_words, words_of_titleOfWords ht, flatten_words, letters_spacedText]
  · rw [htitle, titleOfWords_inj]
    exact words_plainText_iff _

/-- A heading of one line with code in it, before one of two lines. -/
theorem title?_of_headingsEnd_twoHeadings :
    let reader : MarkdownReader := ⟨events⟩
    let b : Block := ⟨"# The `plan`\nLast\nwords\n===".toList, none, 0, ⟨0, 27⟩⟩
    let inner : List Event := [.text "The ".toList, .code "plan".toList]
    let last : List Event := [.headingStart, .text "Last".toList, .softBreak, .text "words".toList,
      .headingEnd]
    reader.events b.content = .headingStart :: (inner ++ .headingEnd :: last) ∧
    HeadingsEnd (reader.events b.content) ∧ @Block.title? reader b = some "The plan".toList ∧
    ∃ before inner after,
      reader.events b.content = before ++ .headingStart :: (inner ++ .headingEnd :: after) ∧
      .headingStart ∉ before ∧ .headingEnd ∉ inner ∧ words (spacedText inner) ≠ [] := by
  intro reader b inner last
  have hes : reader.events b.content = .headingStart :: (inner ++ .headingEnd :: last) := by decide
  have hends : HeadingsEnd (reader.events b.content) := headingsEnd_of_getLast? (by rw [hes]; rfl)
  have hstart : .headingStart ∈ reader.events b.content := by
    rw [hes]
    exact List.mem_cons_self
  have htitle : @Block.title? reader b = some "The plan".toList := by decide
  obtain ⟨before, inner, after, hsplit, hbefore, hinner, -, hnone, -⟩ :=
    (title?_of_headingsEnd b hends).2 hstart
  have hwords : words (spacedText inner) ≠ [] := by
    intro hnil
    rw [hnone.mpr hnil] at htitle
    cases htitle
  exact ⟨hes, hends, htitle, before, inner, after, hsplit, hbefore, hinner, hwords⟩

/-- A block whose heading has a word on each of two lines is called by one word. -/
theorem two_lines_make_one_word :
    let reader : MarkdownReader := ⟨events⟩
    let b : Block := ⟨"a\nb\n===".toList, none, 0, ⟨0, 7⟩⟩
    let inner : List Event := [.text ['a'], .softBreak, .text ['b']]
    ¬ (∀ [reader : MarkdownReader] (b : Block) (inner after : List Event),
      HeadingsEnd (reader.events b.content) →
      reader.events b.content = .headingStart :: (inner ++ .headingEnd :: after) →
      .headingEnd ∉ inner → b.title? = titleOfWords (words (spacedText inner))) ∧
    reader.events b.content = .headingStart :: (inner ++ [.headingEnd]) ∧
    HeadingsEnd (reader.events b.content) ∧ @Block.title? reader b = some "ab".toList ∧
    titleOfWords (words (spacedText inner)) = some "a b".toList := by
  intro reader b inner
  have hes : reader.events b.content = .headingStart :: (inner ++ [.headingEnd]) := by decide
  have hends : HeadingsEnd (reader.events b.content) := headingsEnd_of_getLast? (by rw [hes]; rfl)
  have htitle : @Block.title? reader b = some "ab".toList := by decide
  have hspaced : titleOfWords (words (spacedText inner)) = some "a b".toList := by decide
  refine ⟨fun h => ?_, hes, hends, htitle, hspaced⟩
  have heq := h b inner [] hends hes (by decide)
  rw [htitle, hspaced] at heq
  exact absurd heq (by decide)

end Markdown
end TalkTimer

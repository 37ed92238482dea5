import Mathlib.Data.List.Basic
import TalkTimer.Proofs.Lines
import TalkTimer.Proofs.Trimming

/-!
# The words of a text

`words` cuts a text at its blanks. What is proved of it goes along the text, and a character in
front of a text does one of three things (`words_cons_of_blank`, `words_cons_of_startsInWord`,
`words_cons_of_not_startsInWord`).

* **Where two texts meet** – their words are those of both (`words_append`), unless a word ends the
  first text and a word starts the second: these two become one (`length_words_append`).
* **What words are made of** (`flatten_words`, `ne_nil_of_mem_words`) – the characters that are not
  blank, all of them and in their order, at least one a word.
* **Words put together** (`words_joinWords`) – with a space between neighbours they are told apart
  again.
* **Words and gaps** (`words_eq_iff`) – a text is made of its words, with gaps of blanks around
  them, and of no others.
-/

namespace TalkTimer
namespace Text

/-- The text starts with a character of a word. -/
def StartsInWord (t : Text) : Prop := ∃ c, t.head? = some c ∧ isBlank c = false

/-- The text ends with a character of a word. -/
def EndsInWord (t : Text) : Prop := ∃ c, t.getLast? = some c ∧ isBlank c = false

/-- The characters of a text that are not blank. -/
def letters (t : Text) : Text := t.filter fun c => !isBlank c

variable {c : Char} {s t : Text} {w : Text} {ws : List Text}

theorem not_startsInWord_nil : ¬ StartsInWord [] := by
  rintro ⟨c, hc, -⟩
  cases hc

theorem not_endsInWord_nil : ¬ EndsInWord [] := by
  rintro ⟨c, hc, -⟩
  cases hc

theorem startsInWord_cons_iff : StartsInWord (c :: t) ↔ isBlank c = false := by
  simp [StartsInWord]

theorem endsInWord_singleton_iff : EndsInWord [c] ↔ isBlank c = false := by
  simp [EndsInWord]

theorem startsInWord_append_iff (hs : s ≠ []) (t : Text) :
    StartsInWord (s ++ t) ↔ StartsInWord s := by
  obtain ⟨c, s, rfl⟩ := List.exists_cons_of_ne_nil hs
  rw [List.cons_append, startsInWord_cons_iff, startsInWord_cons_iff]

theorem endsInWord_append_iff (s : Text) (ht : t ≠ []) :
    EndsInWord (s ++ t) ↔ EndsInWord t := by
  rw [EndsInWord, EndsInWord, List.getLast?_append_of_ne_nil s ht]

/-! ## One character more -/

/-- A blank in front belongs to no word. -/
theorem words_cons_of_blank (hc : isBlank c = true) (t : Text) : words (c :: t) = words t := by
  cases t with
  | nil => simp [words, hc]
  | cons d t => simp [words, hc]

/-- A character before a word belongs to it. -/
theorem words_cons_of_startsInWord (hc : isBlank c = false) (ht : StartsInWord t) :
    words (c :: t) = growFirst c (words t) := by
  cases t with
  | nil => exact absurd ht not_startsInWord_nil
  | cons d t =>
      have hd := startsInWord_cons_iff.mp ht
      rw [words, hc, hd, if_neg Bool.false_ne_true, if_neg Bool.false_ne_true]

/-- Any other character is a word of its own. -/
theorem words_cons_of_not_startsInWord (hc : isBlank c = false) (ht : ¬ StartsInWord t) :
    words (c :: t) = [c] :: words t := by
  cases t with
  | nil => simp [words, hc]
  | cons d t =>
      have hd : isBlank d = true := by
        rw [startsInWord_cons_iff] at ht
        simpa using ht
      rw [words, hc, if_neg Bool.false_ne_true, if_pos hd]

theorem words_ne_nil (ht : StartsInWord t) : words t ≠ [] := by
  cases t with
  | nil => exact absurd ht not_startsInWord_nil
  | cons c t =>
      have hc := startsInWord_cons_iff.mp ht
      by_cases ht' : StartsInWord t
      · rw [words_cons_of_startsInWord hc ht']
        exact growFirst_ne_nil c (words t)
      · rw [words_cons_of_not_startsInWord hc ht']
        exact List.cons_ne_nil _ _

theorem length_growFirst (c : Char) (hws : ws ≠ []) : (growFirst c ws).length = ws.length := by
  cases ws with
  | nil => exact absurd rfl hws
  | cons w ws => rfl

/-! ## Where two texts meet -/

/-- **Where no word goes across, the words are those of both texts.** -/
theorem words_append (h : ¬ (EndsInWord s ∧ StartsInWord t)) :
    words (s ++ t) = words s ++ words t := by
  induction s with
  | nil => rfl
  | cons c s ih =>
      cases s with
      | nil =>
          rw [endsInWord_singleton_iff] at h
          cases hc : isBlank c with
          | true => rw [List.singleton_append, words_cons_of_blank hc, words_cons_of_blank hc]; rfl
          | false =>
              have ht : ¬ StartsInWord t := fun ht => h ⟨hc, ht⟩
              rw [List.singleton_append, words_cons_of_not_startsInWord hc ht,
                words_cons_of_not_startsInWord hc not_startsInWord_nil]
              rfl
      | cons d s =>
          have hne := List.cons_ne_nil d s
          rw [show c :: d :: s = [c] ++ (d :: s) from rfl, endsInWord_append_iff [c] hne] at h
          have hmeet := ih h
          have hstart := startsInWord_append_iff hne t
          rw [List.cons_append]
          cases hc : isBlank c with
          | true => rw [words_cons_of_blank hc, words_cons_of_blank hc, hmeet]
          | false =>
              by_cases hd : StartsInWord (d :: s)
              · rw [words_cons_of_startsInWord hc (hstart.mpr hd), words_cons_of_startsInWord hc hd,
                  hmeet, growFirst_append c (words_ne_nil hd)]
              · rw [words_cons_of_not_startsInWord hc (mt hstart.mp hd),
                  words_cons_of_not_startsInWord hc hd, hmeet, List.cons_append]

/-- **Where a word goes across, there is one word less.** -/
theorem length_words_append (hs : EndsInWord s) (ht : StartsInWord t) :
    (words (s ++ t)).length + 1 = (words s).length + (words t).length := by
  induction s with
  | nil => exact absurd hs not_endsInWord_nil
  | cons c s ih =>
      cases s with
      | nil =>
          have hc := endsInWord_singleton_iff.mp hs
          rw [List.singleton_append, words_cons_of_startsInWord hc ht,
            length_growFirst c (words_ne_nil ht),
            words_cons_of_not_startsInWord hc not_startsInWord_nil]
          exact Nat.add_comm _ _
      | cons d s =>
          have hne := List.cons_ne_nil d s
          rw [show c :: d :: s = [c] ++ (d :: s) from rfl, endsInWord_append_iff [c] hne] at hs
          have hmeet := ih hs
          have hstart := startsInWord_append_iff hne t
          rw [List.cons_append]
          cases hc : isBlank c with
          | true => rw [words_cons_of_blank hc, words_cons_of_blank hc, hmeet]
          | false =>
              by_cases hd : StartsInWord (d :: s)
              · rw [words_cons_of_startsInWord hc (hstart.mpr hd), words_cons_of_startsInWord hc hd,
                  length_growFirst c (words_ne_nil (hstart.mpr hd)),
                  length_growFirst c (words_ne_nil hd), hmeet]
              · rw [words_cons_of_not_startsInWord hc (mt hstart.mp hd),
                  words_cons_of_not_startsInWord hc hd, List.length_cons, List.length_cons]
                omega

theorem length_words_append_le (s t : Text) :
    (words (s ++ t)).length ≤ (words s).length + (words t).length := by
  by_cases h : EndsInWord s ∧ StartsInWord t
  · have hmeet := length_words_append h.1 h.2
    omega
  · have hmeet := congrArg List.length (words_append h)
    rw [List.length_append] at hmeet
    omega

/-- A blank keeps words apart. -/
theorem words_append_blank (s : Text) (hc : isBlank c = true) (t : Text) :
    words (s ++ c :: t) = words s ++ words t := by
  have hstart : ¬ StartsInWord (c :: t) := by
    rw [startsInWord_cons_iff, hc]
    exact Bool.noConfusion
  rw [words_append fun h => hstart h.2, words_cons_of_blank hc]

/-! ## What words are made of -/

theorem mem_of_mem_growFirst {x : Char} (hw : w ∈ growFirst c ws) (hx : x ∈ w) :
    x = c ∨ ∃ w' ∈ ws, x ∈ w' := by
  cases ws with
  | nil =>
      rw [List.mem_singleton.mp hw] at hx
      exact Or.inl (List.mem_singleton.mp hx)
  | cons v vs =>
      rcases List.mem_cons.mp hw with rfl | hw
      · rcases List.mem_cons.mp hx with rfl | hx
        · exact Or.inl rfl
        · exact Or.inr ⟨v, List.mem_cons_self, hx⟩
      · exact Or.inr ⟨w, List.mem_cons_of_mem v hw, hx⟩

theorem isBlank_of_mem_words (hw : w ∈ words t) : ∀ x ∈ w, isBlank x = false := by
  induction t generalizing w with
  | nil => cases hw
  | cons c t ih =>
      cases hc : isBlank c with
      | true =>
          rw [words_cons_of_blank hc] at hw
          exact ih hw
      | false =>
          intro x hx
          by_cases ht : StartsInWord t
          · rw [words_cons_of_startsInWord hc ht] at hw
            rcases mem_of_mem_growFirst hw hx with rfl | ⟨w', hw', hx⟩
            · exact hc
            · exact ih hw' x hx
          · rw [words_cons_of_not_startsInWord hc ht] at hw
            rcases List.mem_cons.mp hw with rfl | hw
            · rw [List.mem_singleton.mp hx]
              exact hc
            · exact ih hw x hx

theorem ne_nil_of_mem_words (hw : w ∈ words t) : w ≠ [] := by
  induction t generalizing w with
  | nil => cases hw
  | cons c t ih =>
      cases hc : isBlank c with
      | true =>
          rw [words_cons_of_blank hc] at hw
          exact ih hw
      | false =>
          by_cases ht : StartsInWord t
          · rw [words_cons_of_startsInWord hc ht] at hw
            cases hws : words t with
            | nil => exact absurd hws (words_ne_nil ht)
            | cons v vs =>
                rw [hws] at hw
                rcases List.mem_cons.mp hw with rfl | hw
                · exact List.cons_ne_nil c v
                · exact ih (hws ▸ List.mem_cons_of_mem v hw)
          · rw [words_cons_of_not_startsInWord hc ht] at hw
            rcases List.mem_cons.mp hw with rfl | hw
            · exact List.cons_ne_nil c []
            · exact ih hw

theorem letters_append (s t : Text) : letters (s ++ t) = letters s ++ letters t :=
  List.filter_append s t

theorem letters_cons_of_blank (hc : isBlank c = true) (t : Text) : letters (c :: t) = letters t :=
  List.filter_cons_of_neg (by simp [hc])

theorem letters_cons_of_not_blank (hc : isBlank c = false) (t : Text) :
    letters (c :: t) = c :: letters t :=
  List.filter_cons_of_pos (by simp [hc])

theorem flatten_growFirst (c : Char) (ws : List Text) :
    (growFirst c ws).flatten = c :: ws.flatten := by
  cases ws <;> rfl

/-- **Words lose nothing but blanks**, and keep the characters in order. -/
theorem flatten_words (t : Text) : (words t).flatten = letters t := by
  induction t with
  | nil => rfl
  | cons c t ih =>
      cases hc : isBlank c with
      | true => rw [words_cons_of_blank hc, letters_cons_of_blank hc, ih]
      | false =>
          rw [letters_cons_of_not_blank hc, ← ih]
          by_cases ht : StartsInWord t
          · rw [words_cons_of_startsInWord hc ht, flatten_growFirst]
          · rw [words_cons_of_not_startsInWord hc ht]
            rfl

theorem words_eq_nil_iff : words t = [] ↔ letters t = [] := by
  rw [← flatten_words, List.flatten_eq_nil_iff]
  constructor
  · intro h w hw
    rw [h] at hw
    cases hw
  · intro h
    apply List.eq_nil_iff_forall_not_mem.mpr
    intro w hw
    exact ne_nil_of_mem_words hw (h w hw)

/-! ## Words put together -/

theorem joinWords_singleton (w : Text) : joinWords [w] = w := by
  simp [joinWords, List.intercalate]

theorem joinWords_cons (w : Text) (hws : ws ≠ []) :
    joinWords (w :: ws) = w ++ ' ' :: joinWords ws := by
  obtain ⟨v, vs, rfl⟩ := List.exists_cons_of_ne_nil hws
  rw [joinWords, List.intercalate_cons_cons, joinWords, List.append_assoc]
  rfl

/-- A character of texts put together is one of a text, or of what stands between them. -/
theorem mem_intercalate {x : Char} {sep : Text} {ts : List Text} (h : x ∈ sep.intercalate ts) :
    x ∈ sep ∨ ∃ t ∈ ts, x ∈ t := by
  induction ts with
  | nil => cases h
  | cons t ts ih =>
      cases ts with
      | nil =>
          rw [List.intercalate_singleton] at h
          exact Or.inr ⟨t, List.mem_cons_self, h⟩
      | cons t' ts =>
          rw [List.intercalate_cons_cons, List.mem_append, List.mem_append] at h
          rcases h with (h | h) | h
          · exact Or.inr ⟨t, List.mem_cons_self, h⟩
          · exact Or.inl h
          · rcases ih h with h | ⟨u, hu, hx⟩
            · exact Or.inl h
            · exact Or.inr ⟨u, List.mem_cons_of_mem t hu, hx⟩

theorem mem_joinWords {x : Char} (h : x ∈ joinWords ws) : x = ' ' ∨ ∃ w ∈ ws, x ∈ w :=
  (mem_intercalate h).imp_left List.mem_singleton.mp

/-- A text without blanks is one word. -/
theorem words_of_forall_not_blank (hne : t ≠ []) (h : ∀ c ∈ t, isBlank c = false) :
    words t = [t] := by
  induction t with
  | nil => exact absurd rfl hne
  | cons c t ih =>
      have hc := h c List.mem_cons_self
      cases t with
      | nil => exact words_cons_of_not_startsInWord hc not_startsInWord_nil
      | cons d t =>
          have ht := fun x hx => h x (List.mem_cons_of_mem c hx)
          have hd : StartsInWord (d :: t) := startsInWord_cons_iff.mpr (ht d List.mem_cons_self)
          rw [words_cons_of_startsInWord hc hd, ih (List.cons_ne_nil d t) ht]
          rfl

/-- **Words with single spaces between them are told apart again.** -/
theorem words_joinWords (hne : ∀ w ∈ ws, w ≠ []) (h : ∀ w ∈ ws, ∀ c ∈ w, isBlank c = false) :
    words (joinWords ws) = ws := by
  induction ws with
  | nil => rfl
  | cons w ws ih =>
      have hw := words_of_forall_not_blank (hne w List.mem_cons_self) (h w List.mem_cons_self)
      have hws := ih (fun v hv => hne v (List.mem_cons_of_mem w hv))
        (fun v hv => h v (List.mem_cons_of_mem w hv))
      cases ws with
      | nil => rw [joinWords_singleton, hw]
      | cons v vs =>
          rw [joinWords_cons w (List.cons_ne_nil v vs), words_append_blank w rfl, hw, hws]
          rfl

theorem words_joinWords_words (t : Text) : words (joinWords (words t)) = words t :=
  words_joinWords (fun _ hw => ne_nil_of_mem_words hw) (fun _ hw => isBlank_of_mem_words hw)

/-! ## Words and gaps -/

/-- A text **is made of words** with a gap before each and one after the last. A gap may be empty,
but not between two words, so that no word can be made longer. -/
inductive IsMadeOf : List Text → Text → Prop
  | gap {g : Text} : IsGap g → IsMadeOf [] g
  | word {g w t : Text} {ws : List Text} : IsGap g → w ≠ [] → (∀ c ∈ w, isBlank c = false) →
      ¬ StartsInWord t → IsMadeOf ws t → IsMadeOf (w :: ws) (g ++ w ++ t)

variable {g : Text}

theorem not_startsInWord_of_isGap (hg : IsGap g) : ¬ StartsInWord g := by
  rintro ⟨c, hhead, hc⟩
  have hblank := hg c (List.mem_of_head? hhead)
  rw [hc] at hblank
  cases hblank

theorem not_startsInWord_gap_append (hg : IsGap g) (hne : g ≠ []) (t : Text) :
    ¬ StartsInWord (g ++ t) := by
  rw [startsInWord_append_iff hne]
  exact not_startsInWord_of_isGap hg

theorem words_gap_append (hg : IsGap g) (t : Text) : words (g ++ t) = words t := by
  induction g with
  | nil => rfl
  | cons c g ih =>
      obtain ⟨hc, hrest⟩ := List.forall_mem_cons.mp hg
      rw [List.cons_append, words_cons_of_blank hc]
      exact ih hrest

/-- Backward: the words that a text is made of are found in it. -/
theorem IsMadeOf.words_eq (h : IsMadeOf ws t) : words t = ws := by
  induction h with
  | @gap g hg =>
      rw [← List.append_nil g]
      exact words_gap_append hg []
  | @word g w t ws hg hne hw hstop _ ih =>
      -- no word goes across the end of `w`
      rw [List.append_assoc, words_gap_append hg, words_append fun h => hstop h.2,
        words_of_forall_not_blank hne hw, ih]
      rfl

/-- A blank in front makes the first gap longer. -/
theorem IsMadeOf.cons_of_blank (h : IsMadeOf ws t) (hc : isBlank c = true) :
    IsMadeOf ws (c :: t) := by
  cases h with
  | gap hg => exact .gap (List.forall_mem_cons.mpr ⟨hc, hg⟩)
  | @word g w t ws hg hne hw hstop hrest =>
      show IsMadeOf (w :: ws) ((c :: g) ++ w ++ t)
      exact .word (List.forall_mem_cons.mpr ⟨hc, hg⟩) hne hw hstop hrest

/-- A character before a word makes it longer. -/
theorem IsMadeOf.cons_of_startsInWord (h : IsMadeOf ws t) (hc : isBlank c = false)
    (ht : StartsInWord t) : IsMadeOf (growFirst c ws) (c :: t) := by
  cases h with
  | gap hg => exact absurd ht (not_startsInWord_of_isGap hg)
  | @word g w t ws hg hne hw hstop hrest =>
      cases g with
      | nil =>
          show IsMadeOf ((c :: w) :: ws) ([] ++ (c :: w) ++ t)
          exact .word isGap_nil (List.cons_ne_nil c w) (List.forall_mem_cons.mpr ⟨hc, hw⟩) hstop
            hrest
      | cons d g =>
          have hd : isBlank d = false := startsInWord_cons_iff.mp ht
          rw [hg d List.mem_cons_self] at hd
          cases hd

/-- Forward: a text is made of the words that are found in it. -/
theorem isMadeOf_words (t : Text) : IsMadeOf (words t) t := by
  induction t with
  | nil => exact .gap isGap_nil
  | cons c t ih =>
      cases hc : isBlank c with
      | true =>
          rw [words_cons_of_blank hc]
          exact ih.cons_of_blank hc
      | false =>
          by_cases ht : StartsInWord t
          · rw [words_cons_of_startsInWord hc ht]
            exact ih.cons_of_startsInWord hc ht
          · rw [words_cons_of_not_startsInWord hc ht]
            show IsMadeOf ([c] :: words t) ([] ++ [c] ++ t)
            apply IsMadeOf.word isGap_nil (List.cons_ne_nil c []) _ ht ih
            intro x hx
            rw [List.mem_singleton.mp hx]
            exact hc

/-- **The words of a text are those that it is made of.** -/
theorem words_eq_iff : words t = ws ↔ IsMadeOf ws t := by
  constructor
  · intro h
    rw [← h]
    exact isMadeOf_words t
  · exact IsMadeOf.words_eq

end Text
end TalkTimer

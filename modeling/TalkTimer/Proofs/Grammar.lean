import TalkTimer.Marker
import TalkTimer.Proofs.Numerals
import TalkTimer.Proofs.Trimming

/-!
# The grammar of marker lines

`classify` strips a line step by step: blanks, question marks, `!!`, blanks again, and then it looks
at what is left. As a grammar, with gaps of blanks that may be empty, a line is

    line   = gap core gap              the core neither begins nor ends with a blank
    core   = "?"ⁿ tail | text          n ≥ 1; neither the tail nor the text begins with "?"
    tail   = "!!" gap rest | gap rest  the rest does not begin with a blank, and the second form
                                       is for tails that do not begin with "!!"
    rest   = "" | clock | other
    clock  = digit digit ":" digit digit

`Reads` states this as a relation between lines and their classes, so it says nothing about the
order in which a line is taken apart. The classification is that relation read forwards:

* every line has a reading, and it is the class (`reads_classify`);
* there is no other one (`Reads.classify_eq`), since the parts of a line are determined by the line
  (`HasParts.unique`).
-/

namespace TalkTimer

open Text

/-! ## The relations -/

/-- Two digits, a colon and two digits: the clock of so many minutes and seconds. -/
inductive IsClock : Text → Nat → Nat → Prop
  | intro {a b c d : Nat} : a < 10 → b < 10 → c < 10 → d < 10 →
      IsClock [a.digitChar, b.digitChar, ':', c.digitChar, d.digitChar] (10 * a + b) (10 * c + d)

/-- What follows the question marks: `!!` or not, a gap, and a rest that begins with no blank. -/
inductive IsTail : Text → Bool → Text → Prop
  | bangs {g r : Text} : IsGap g → (∀ c, r.head? = some c → isBlank c = false) →
      IsTail ('!' :: '!' :: (g ++ r)) true r
  | plain {g r : Text} : IsGap g → (∀ c, r.head? = some c → isBlank c = false) →
      ¬ ['!', '!'] <+: g ++ r → IsTail (g ++ r) false r

/-- Blanks aside, the line is made of `level` question marks and a tail that begins with none. -/
structure IsCandidate (l : Text) (level : Nat) (tail : Text) : Prop where
  level_pos : 1 ≤ level
  core : IsCore (List.replicate level '?' ++ tail) l
  maximal : tail.head? ≠ some '?'

/-- The line begins with question marks, and these are its parts. -/
def HasParts (l : Text) (level : Nat) (untimed : Bool) (r : Text) : Prop :=
  ∃ tail, IsCandidate l level tail ∧ IsTail tail untimed r

/-- What a line is, by its parts. -/
inductive Reads (l : Text) : LineClass → Prop
  | text {t : Text} : IsCore t l → t.head? ≠ some '?' → Reads l .text
  | bare {level : Nat} : HasParts l level true [] → Reads l (.marker (.free level))
  | free {level minutes seconds : Nat} {r : Text} : HasParts l level true r →
      IsClock r minutes seconds → 5 ∣ seconds → Reads l (.marker (.free level))
  | timed {level minutes seconds : Nat} {r : Text} : HasParts l level false r →
      IsClock r minutes seconds → 5 ∣ seconds →
      Reads l (.marker (.timed level (minutes * 60 + seconds)))
  | oddSeconds {level minutes seconds : Nat} {untimed : Bool} {r : Text} :
      HasParts l level untimed r → IsClock r minutes seconds → ¬ 5 ∣ seconds →
      Reads l (.oddSeconds seconds)
  | malformed {level : Nat} {untimed : Bool} {r : Text} : HasParts l level untimed r →
      (untimed = true → r ≠ []) → (∀ minutes seconds, ¬ IsClock r minutes seconds) →
      Reads l .malformed

variable {l t tail r : Text} {level minutes seconds : Nat} {untimed : Bool} {c : LineClass}

/-! ## Clocks -/

theorem readClock?_of_isClock (h : IsClock r minutes seconds) :
    readClock? r = some (minutes, seconds) := by
  obtain ⟨ha, hb, hc, hd⟩ := h
  simp only [readClock?, isDigit_digitChar_of_lt ha, isDigit_digitChar_of_lt hb,
    isDigit_digitChar_of_lt hc, isDigit_digitChar_of_lt hd, Bool.and_self, if_true]
  rw [digitsValue_pair ha hb, digitsValue_pair hc hd]

theorem isClock_of_readClock? (h : readClock? r = some (minutes, seconds)) :
    IsClock r minutes seconds := by
  unfold readClock? at h
  split at h
  · next a b c d =>
    split at h
    · next hdigits =>
      simp only [Bool.and_eq_true] at hdigits
      obtain ⟨⟨⟨ha, hb⟩, hc⟩, hd⟩ := hdigits
      obtain ⟨a, ha', rfl⟩ := exists_digitChar ha
      obtain ⟨b, hb', rfl⟩ := exists_digitChar hb
      obtain ⟨c, hc', rfl⟩ := exists_digitChar hc
      obtain ⟨d, hd', rfl⟩ := exists_digitChar hd
      rw [digitsValue_pair ha' hb', digitsValue_pair hc' hd'] at h
      cases h
      exact IsClock.intro ha' hb' hc' hd'
    · cases h
  · cases h

theorem readClock?_eq_none_iff :
    readClock? r = none ↔ ∀ minutes seconds, ¬ IsClock r minutes seconds := by
  constructor
  · intro h minutes seconds hclock
    rw [readClock?_of_isClock hclock] at h
    cases h
  · intro h
    refine Option.eq_none_iff_forall_ne_some.mpr ?_
    rintro ⟨minutes, seconds⟩ hread
    exact h minutes seconds (isClock_of_readClock? hread)

theorem IsClock.ne_nil (h : IsClock r minutes seconds) : r ≠ [] := by
  cases h
  exact List.cons_ne_nil _ _

theorem IsClock.lt (h : IsClock r minutes seconds) : minutes < 100 ∧ seconds < 100 := by
  cases h
  omega

/-! ## Tails -/

theorem splitUntimed_eq_iff : splitUntimed t = (untimed, r) ↔ IsTail t untimed r := by
  constructor
  · intro h
    unfold splitUntimed at h
    split at h
    · next u =>
      cases h
      obtain ⟨g, hg, hu⟩ := exists_gap_append_trimStart u
      have htail := IsTail.bangs hg (isBlank_of_head?_trimStart u)
      rwa [← hu] at htail
    · next hbangs =>
      cases h
      obtain ⟨g, hg, ht⟩ := exists_gap_append_trimStart t
      have hplain : ¬ ['!', '!'] <+: g ++ trimStart t := by
        rw [← ht]
        rintro ⟨u, hu⟩
        exact hbangs u hu.symm
      have htail := IsTail.plain hg (isBlank_of_head?_trimStart t) hplain
      rwa [← ht] at htail
  · rintro (⟨hg, hr⟩ | ⟨hg, hr, hplain⟩)
    · rw [splitUntimed, trimStart_gap_append_eq hg hr]
    · unfold splitUntimed
      split
      · next u hu => exact absurd ⟨u, hu.symm⟩ hplain
      · rw [trimStart_gap_append_eq hg hr]

/-- Nothing is left to read. -/
theorem classifyAfterLevel_of_nil (level : Nat) (h : IsTail t untimed []) :
    classifyAfterLevel level t = if untimed then .marker (.free level) else .malformed := by
  rw [classifyAfterLevel, splitUntimed_eq_iff.mpr h]

theorem classifyAfterLevel_of_ne_nil (level : Nat) (h : IsTail t untimed r) (hr : r ≠ []) :
    classifyAfterLevel level t =
      match readClock? r with
      | none => .malformed
      | some (minutes, seconds) =>
        if seconds % 5 ≠ 0 then .oddSeconds seconds
        else if untimed then .marker (.free level)
        else .marker (.timed level (minutes * 60 + seconds)) := by
  rw [classifyAfterLevel, splitUntimed_eq_iff.mpr h]
  split
  · next heq => exact absurd (congrArg Prod.snd heq) hr
  · next heq =>
    cases heq
    rfl

/-! ## Candidates -/

theorem IsCandidate.takeWhile_eq (h : IsCandidate l level tail) :
    (trim l).takeWhile (· == '?') = List.replicate level '?' ∧
      (trim l).dropWhile (· == '?') = tail := by
  have hmarks : ∀ c ∈ List.replicate level '?', (c == '?') = true := by
    intro c hc
    rw [List.eq_of_mem_replicate hc]
    rfl
  rw [trim_eq_iff.mpr h.core, List.takeWhile_append_of_pos hmarks,
    List.dropWhile_append_of_pos hmarks]
  have hmaximal := h.maximal
  cases tail with
  | nil => simp
  | cons c tail =>
      have hc : ¬ c = '?' := by simpa using hmaximal
      simp [hc]

theorem exists_isCandidate (h : (trim l).head? = some '?') :
    ∃ level tail, IsCandidate l level tail := by
  obtain ⟨t, ht⟩ := List.head?_eq_some_iff.mp h
  have hmarks : (trim l).takeWhile (· == '?') =
      List.replicate ((trim l).takeWhile (· == '?')).length '?' := by
    apply List.eq_replicate_of_mem
    intro c hc
    simpa using List.all_eq_true.mp List.all_takeWhile c hc
  refine ⟨((trim l).takeWhile (· == '?')).length, (trim l).dropWhile (· == '?'), ?_, ?_, ?_⟩
  · rw [ht]
    simp
  · rw [← hmarks, List.takeWhile_append_dropWhile]
    exact isCore_trim l
  · intro hhead
    have hstop := List.head?_dropWhile_not (· == '?') (trim l)
    rw [hhead] at hstop
    cases hstop

/-- **A candidate is classified by its tail.** -/
theorem IsCandidate.classify_eq (h : IsCandidate l level tail) :
    classify l = classifyAfterLevel level tail := by
  obtain ⟨hmarks, htail⟩ := h.takeWhile_eq
  have hpos := h.level_pos
  have hlevel : ¬ level = 0 := by omega
  rw [classify, hmarks, htail, List.length_replicate, if_neg hlevel]

theorem HasParts.unique {level' : Nat} {untimed' : Bool} {r' : Text}
    (h : HasParts l level untimed r) (h' : HasParts l level' untimed' r') :
    level = level' ∧ untimed = untimed' ∧ r = r' := by
  obtain ⟨tail, hcandidate, htail⟩ := h
  obtain ⟨tail', hcandidate', htail'⟩ := h'
  obtain ⟨hmarks, rfl⟩ := hcandidate.takeWhile_eq
  obtain ⟨hmarks', rfl⟩ := hcandidate'.takeWhile_eq
  have hlevel : level = level' := by
    have hlength := congrArg List.length (hmarks.symm.trans hmarks')
    simpa using hlength
  have hparts := (splitUntimed_eq_iff.mpr htail).symm.trans (splitUntimed_eq_iff.mpr htail')
  cases hparts
  exact ⟨hlevel, rfl, rfl⟩

theorem exists_hasParts (h : (trim l).head? = some '?') :
    ∃ level untimed r, HasParts l level untimed r := by
  obtain ⟨level, tail, hcandidate⟩ := exists_isCandidate h
  exact ⟨level, (splitUntimed tail).1, (splitUntimed tail).2, tail, hcandidate,
    splitUntimed_eq_iff.mp rfl⟩

/-! ## Lines -/

theorem classify_of_head?_ne (h : (trim l).head? ≠ some '?') : classify l = .text := by
  have hlevel : ((trim l).takeWhile (· == '?')).length = 0 := by
    cases ht : trim l with
    | nil => rfl
    | cons c t =>
        have hc : ¬ c = '?' := by simpa [ht] using h
        simp [hc]
  rw [classify, if_pos hlevel]

/-- **No line has two readings**: the class is the one that the grammar gives. -/
theorem Reads.classify_eq (h : Reads l c) : classify l = c := by
  cases h with
  | text hcore hhead =>
      rw [← trim_eq_iff.mpr hcore] at hhead
      exact classify_of_head?_ne hhead
  | bare hparts =>
      obtain ⟨tail, hcandidate, htail⟩ := hparts
      rw [hcandidate.classify_eq, classifyAfterLevel_of_nil _ htail, if_pos rfl]
  | free hparts hclock hfive =>
      obtain ⟨tail, hcandidate, htail⟩ := hparts
      rw [hcandidate.classify_eq, classifyAfterLevel_of_ne_nil _ htail hclock.ne_nil,
        readClock?_of_isClock hclock]
      simp [Nat.mod_eq_zero_of_dvd hfive]
  | timed hparts hclock hfive =>
      obtain ⟨tail, hcandidate, htail⟩ := hparts
      rw [hcandidate.classify_eq, classifyAfterLevel_of_ne_nil _ htail hclock.ne_nil,
        readClock?_of_isClock hclock]
      simp [Nat.mod_eq_zero_of_dvd hfive]
  | oddSeconds hparts hclock hfive =>
      obtain ⟨tail, hcandidate, htail⟩ := hparts
      have hodd : ¬ _ % 5 = 0 := fun hmod => hfive (Nat.dvd_of_mod_eq_zero hmod)
      rw [hcandidate.classify_eq, classifyAfterLevel_of_ne_nil _ htail hclock.ne_nil,
        readClock?_of_isClock hclock]
      simp [hodd]
  | @malformed level untimed r hparts hrest hclock =>
      obtain ⟨tail, hcandidate, htail⟩ := hparts
      rw [hcandidate.classify_eq]
      by_cases hr : r = []
      · subst hr
        have hplain : ¬ untimed = true := fun hu => hrest hu rfl
        rw [classifyAfterLevel_of_nil _ htail, if_neg hplain]
      · rw [classifyAfterLevel_of_ne_nil _ htail hr, readClock?_eq_none_iff.mpr hclock]

theorem HasParts.exists_reads (h : HasParts l level untimed r) : ∃ c, c ≠ .text ∧ Reads l c := by
  cases hread : readClock? r with
  | some clock =>
      obtain ⟨minutes, seconds⟩ := clock
      have hclock := isClock_of_readClock? hread
      by_cases hfive : 5 ∣ seconds
      · cases untimed with
        | true => exact ⟨_, by simp, .free h hclock hfive⟩
        | false => exact ⟨_, by simp, .timed h hclock hfive⟩
      · exact ⟨_, by simp, .oddSeconds h hclock hfive⟩
  | none =>
      have hclock := readClock?_eq_none_iff.mp hread
      by_cases hbare : untimed = true ∧ r = []
      · obtain ⟨rfl, rfl⟩ := hbare
        exact ⟨_, by simp, .bare h⟩
      · exact ⟨_, by simp, .malformed h (fun hu hr => hbare ⟨hu, hr⟩) hclock⟩

/-- **Every line has a reading.** -/
theorem reads_classify (l : Text) : Reads l (classify l) := by
  by_cases h : (trim l).head? = some '?'
  · obtain ⟨level, untimed, r, hparts⟩ := exists_hasParts h
    obtain ⟨c, -, hc⟩ := hparts.exists_reads
    rw [hc.classify_eq]
    exact hc
  · rw [classify_of_head?_ne h]
    exact .text (isCore_trim l) h

/-- A line is ordinary text unless it starts with a question mark, blanks aside. -/
theorem classify_eq_text_iff : classify l = .text ↔ (trim l).head? ≠ some '?' := by
  constructor
  · intro htext h
    obtain ⟨level, untimed, r, hparts⟩ := exists_hasParts h
    obtain ⟨c, hne, hc⟩ := hparts.exists_reads
    exact hne (hc.classify_eq.symm.trans htext)
  · exact classify_of_head?_ne

/-- What a marker line can hold: a marker without time, or a clock in steps of five seconds. -/
theorem exists_of_readMarker? {m : Marker} (h : readMarker? l = some m) :
    ∃ level, 1 ≤ level ∧ (m = .free level ∨ ∃ minutes seconds, minutes < 100 ∧ seconds < 100 ∧
      5 ∣ seconds ∧ m = .timed level (minutes * 60 + seconds)) := by
  have hreads := reads_classify l
  rw [readMarker?_eq_some_iff.mp h] at hreads
  cases hreads with
  | @bare level hparts =>
      obtain ⟨tail, hcandidate, -⟩ := hparts
      exact ⟨level, hcandidate.level_pos, Or.inl rfl⟩
  | @free level minutes seconds r hparts hclock hfive =>
      obtain ⟨tail, hcandidate, -⟩ := hparts
      exact ⟨level, hcandidate.level_pos, Or.inl rfl⟩
  | @timed level minutes seconds r hparts hclock hfive =>
      obtain ⟨tail, hcandidate, -⟩ := hparts
      obtain ⟨hminutes, hseconds⟩ := hclock.lt
      exact ⟨level, hcandidate.level_pos, Or.inr ⟨minutes, seconds, hminutes, hseconds, hfive, rfl⟩⟩

theorem isCandidate_iff : c.isCandidate = true ↔ c ≠ .text := by
  cases c <;> simp [LineClass.isCandidate]

/-- What trimming leaves begins with the first character that is no blank. -/
theorem head?_trim_eq_some_iff {c : Char} (hc : isBlank c = false) :
    (trim l).head? = some c ↔ ∃ g rest, IsGap g ∧ l = g ++ c :: rest := by
  constructor
  · intro h
    obtain ⟨t, ht⟩ := List.head?_eq_some_iff.mp h
    obtain ⟨before, after, hl, hbefore, -, -⟩ := isCore_trim l
    refine ⟨before, t ++ after, hbefore, ?_⟩
    rw [ht] at hl
    simpa using hl
  · rintro ⟨g, rest, hg, rfl⟩
    have hstart : trimStart (g ++ c :: rest) = c :: rest := by
      apply trimStart_gap_append_eq hg
      rintro _ ⟨⟩
      exact hc
    obtain ⟨after, hafter, hsplit⟩ := exists_trimEnd_append_gap (c :: rest)
    rw [trim, hstart]
    cases hend : trimEnd (c :: rest) with
    | nil =>
        -- the pass from the back cannot have come past `c`
        rw [hend, List.nil_append] at hsplit
        have hblank := hafter c (hsplit ▸ List.mem_cons_self)
        rw [hc] at hblank
        cases hblank
    | cons d t =>
        rw [hend] at hsplit
        cases hsplit
        rfl

/-- **The classification is the grammar.** A line has the class that it reads as, by parts that the
line determines. What looks like a marker is what begins with a question mark, blanks aside; and a
marker that was read has a time in steps of five seconds, up to 99 minutes and 95 seconds. -/
theorem classify_eq_iff_reads :
    (∀ l c, classify l = c ↔ Reads l c) ∧
    (∀ l level untimed r level' untimed' r', HasParts l level untimed r →
      HasParts l level' untimed' r' → level = level' ∧ untimed = untimed' ∧ r = r') ∧
    (∀ l, (classify l).isCandidate = true ↔ ∃ g rest, IsGap g ∧ l = g ++ '?' :: rest) ∧
    ∀ l m, readMarker? l = some m → 5 ∣ m.time ∧ m.time ≤ 6035 := by
  refine ⟨?_, ?_, ?_, ?_⟩
  · intro l c
    constructor
    · intro h
      rw [← h]
      exact reads_classify l
    · exact Reads.classify_eq
  · intro l level untimed r level' untimed' r' h h'
    exact h.unique h'
  · intro l
    rw [isCandidate_iff, ne_eq, classify_eq_text_iff, not_not, head?_trim_eq_some_iff rfl]
  · intro l m h
    obtain ⟨level, -, rfl | ⟨minutes, seconds, hminutes, hseconds, hfive, rfl⟩⟩ :=
      exists_of_readMarker? h
    · exact ⟨Nat.dvd_zero 5, Nat.zero_le _⟩
    · show 5 ∣ minutes * 60 + seconds ∧ minutes * 60 + seconds ≤ 6035
      omega

/-- A marker between a no-break space and a tab, with a blank behind its question marks. -/
def spacedMarker : Text := "\u00a0?? 01:35\t".toList

theorem reads_spacedMarker :
    Reads spacedMarker (.marker (.timed 2 95)) ∧
      (∀ level untimed r, HasParts spacedMarker level untimed r →
        2 = level ∧ false = untimed ∧ "01:35".toList = r) ∧
      (∃ g rest, IsGap g ∧ spacedMarker = g ++ '?' :: rest) ∧
      5 ∣ (Marker.timed 2 95).time ∧ (Marker.timed 2 95).time ≤ 6035 := by
  obtain ⟨hclass, hunique, hcandidate, htime⟩ := classify_eq_iff_reads
  have hread : classify spacedMarker = .marker (.timed 2 95) := by decide
  have hparts : HasParts spacedMarker 2 false "01:35".toList :=
    ⟨" 01:35".toList, ⟨by decide, trim_eq_iff.mp (by decide), by decide⟩,
      splitUntimed_eq_iff.mp (by decide)⟩
  refine ⟨(hclass _ _).mp hread, ?_, (hcandidate _).mp (by decide),
    htime _ _ (readMarker?_eq_some_iff.mpr hread)⟩
  intro level untimed r h
  exact hunique _ _ _ _ _ _ _ hparts h

-- A blank between the question marks and the bangs, a bare level, and digits that are not ASCII.
example : (["? !!", "??", "?０１:00"].map fun l => classify l.toList) =
    [.malformed, .malformed, .malformed] := by
  decide

end TalkTimer

import TalkTimer.Proofs.Markers

/-!
# Markers read back

`Marker.text` writes a marker and `readMarker?` reads one from a line. A marker that was read from
a line is read again from its own text, up to the 100 minutes that two digits can tell.

* **Clocks** (`isClock_clock`) – below 100 minutes the clock is one that a line may hold; from there
  on it is too long (`not_isClock_clock`).
* **Parts** (`Marker.hasParts_text`) – the text of a marker has the parts it was put together from.
* **Markers** (`readMarker?_text`, `classify_text_of_le`) – by the grammar these parts say what the
  text is read as, and so which markers come back (`readMarker?_text_iff`).
-/

namespace TalkTimer
namespace Text

/-! ## Blanks -/

theorem isBare_of_forall {t : Text} (h : ∀ c ∈ t, isBlank c = false) : IsBare t := by
  refine ⟨?_, ?_⟩
  · intro c hc
    exact h c (List.mem_of_head? hc)
  · intro c hc
    exact h c (List.mem_of_getLast? hc)

/-! ## Numerals -/

/-- Below 100 a numeral of at least two digits has exactly two. -/
theorem twoDigits_of_lt {n : Nat} (h : n < 100) :
    twoDigits n = [(n / 10).digitChar, (n % 10).digitChar] := by
  unfold twoDigits decimal
  split
  · next hn =>
    rw [Nat.toDigits_of_lt_base hn, Nat.div_eq_of_lt hn, Nat.mod_eq_of_lt hn]
    rfl
  · next hn =>
    rw [Nat.toDigits_of_base_le (by omega) (by omega), Nat.toDigits_of_lt_base (by omega)]
    rfl

theorem two_le_length_twoDigits (n : Nat) : 2 ≤ (twoDigits n).length := by
  by_cases hn : n < 100
  · simp [twoDigits_of_lt hn]
  · unfold twoDigits decimal
    rw [if_neg (by omega), Nat.toDigits_of_base_le (by omega) (by omega), List.length_append]
    have hpos := List.length_pos_iff.mpr (Nat.toDigits_ne_nil (b := 10) (n := n / 10))
    rw [List.length_singleton]
    omega

theorem three_le_length_twoDigits {n : Nat} (h : 100 ≤ n) : 3 ≤ (twoDigits n).length := by
  have htens : twoDigits (n / 10) = decimal (n / 10) := by rw [twoDigits, if_neg (by omega)]
  have hlast : twoDigits n = twoDigits (n / 10) ++ [(n % 10).digitChar] := by
    rw [htens, twoDigits, if_neg (by omega), decimal, Nat.toDigits_of_base_le (by omega) (by omega)]
    rfl
  have hlen := two_le_length_twoDigits (n / 10)
  rw [hlast, List.length_append, List.length_singleton]
  omega

theorem isDigit_of_mem_twoDigits {n : Nat} {c : Char} (hc : c ∈ twoDigits n) :
    c.isDigit = true := by
  unfold twoDigits at hc
  split at hc
  · rcases List.mem_cons.mp hc with rfl | hc
    · rfl
    · exact isDigit_of_mem_decimal hc
  · exact isDigit_of_mem_decimal hc

theorem mem_clock {n : Nat} {c : Char} (hc : c ∈ clock n) : c.isDigit = true ∨ c = ':' := by
  rw [clock, List.mem_append, List.mem_cons] at hc
  rcases hc with hc | rfl | hc
  · exact Or.inl (isDigit_of_mem_twoDigits hc)
  · exact Or.inr rfl
  · exact Or.inl (isDigit_of_mem_twoDigits hc)

theorem newline_notMem_clock (n : Nat) : '\n' ∉ clock n := by
  intro h
  rcases mem_clock h with h | h
  · cases h
  · exact absurd h (by decide)

theorem isBlank_of_mem_clock {n : Nat} {c : Char} (hc : c ∈ clock n) : isBlank c = false := by
  rcases mem_clock hc with hc | rfl
  · exact isBlank_of_isDigit hc
  · rfl

theorem twoDigits_ne_nil (n : Nat) : twoDigits n ≠ [] := by
  unfold twoDigits
  split
  · exact List.cons_ne_nil _ _
  · exact Nat.toDigits_ne_nil

/-- What a clock starts with is no mark of a marker. -/
theorem head?_clock_ne (n : Nat) {c : Char} (hc : c.isDigit = false) :
    (clock n).head? ≠ some c := by
  obtain ⟨d, t, ht⟩ := List.exists_cons_of_ne_nil (twoDigits_ne_nil (n / 60))
  have hd : d.isDigit = true := isDigit_of_mem_twoDigits (ht ▸ List.mem_cons_self)
  rw [clock, ht, List.cons_append, List.head?_cons]
  rintro ⟨⟩
  rw [hd] at hc
  cases hc

end Text

open Text

/-! ## Clocks -/

theorem isClock_clock {n : Nat} (h : n < 6000) : IsClock (clock n) (n / 60) (n % 60) := by
  have hminutes : n / 60 < 100 := by omega
  have hseconds : n % 60 < 100 := by omega
  have hclock := IsClock.intro (a := n / 60 / 10) (b := n / 60 % 10) (c := n % 60 / 10)
    (d := n % 60 % 10) (by omega) (by omega) (by omega) (by omega)
  rw [Nat.div_add_mod, Nat.div_add_mod] at hclock
  rw [clock, twoDigits_of_lt hminutes, twoDigits_of_lt hseconds]
  exact hclock

theorem IsClock.length_eq {r : Text} {minutes seconds : Nat} (h : IsClock r minutes seconds) :
    r.length = 5 := by
  cases h
  rfl

/-- A clock of 100 minutes or more has too many characters. -/
theorem not_isClock_clock {n : Nat} (h : 6000 ≤ n) (minutes seconds : Nat) :
    ¬ IsClock (clock n) minutes seconds := by
  intro hclock
  have hlen := hclock.length_eq
  have hminutes := three_le_length_twoDigits (n := n / 60) (by omega)
  have hseconds := two_le_length_twoDigits (n % 60)
  rw [clock, List.length_append, List.length_cons] at hlen
  omega

theorem isTail_clock (n : Nat) : IsTail (clock n) false (clock n) := by
  have hplain : ¬ ['!', '!'] <+: [] ++ clock n := by
    rintro ⟨t, ht⟩
    apply head?_clock_ne n (c := '!') rfl
    rw [← List.nil_append (clock n), ← ht]
    rfl
  refine IsTail.plain isGap_nil ?_ hplain
  intro c hc
  exact isBlank_of_mem_clock (List.mem_of_head? hc)

/-- A text without blanks is its own core. -/
theorem isCandidate_of_forall {level : Nat} (hlevel : 1 ≤ level) {tail : Text}
    (hblank : ∀ c ∈ tail, isBlank c = false) (hhead : tail.head? ≠ some '?') :
    IsCandidate (List.replicate level '?' ++ tail) level tail := by
  refine ⟨hlevel, ?_, hhead⟩
  apply trim_eq_iff.mp
  apply IsBare.trim_eq
  apply isBare_of_forall
  intro c hc
  rcases List.mem_append.mp hc with hc | hc
  · rw [List.eq_of_mem_replicate hc]
    rfl
  · exact hblank c hc

/-! ## Markers -/

namespace Marker

theorem eq_free {m : Marker} (h : m.IsWellFormed) (hu : m.untimed = true) : m = .free m.level := by
  obtain ⟨time, level, untimed⟩ := m
  have htime : time = 0 := h.time_of_untimed hu
  have hu' : untimed = true := hu
  rw [htime, hu']
  rfl

theorem eq_timed {m : Marker} (hu : m.untimed = false) : m = .timed m.level m.time := by
  obtain ⟨time, level, untimed⟩ := m
  have hu' : untimed = false := hu
  rw [hu']
  rfl

theorem isBlank_of_mem_bangs {c : Char} (hc : c ∈ ['!', '!']) : isBlank c = false := by
  have hbang : c = '!' := by simpa using hc
  rw [hbang]
  rfl

/-- The text of a marker has no blanks in it. -/
theorem isBlank_of_mem_text {m : Marker} {c : Char} (hc : c ∈ m.text) : isBlank c = false := by
  rcases List.mem_append.mp hc with hc | hc
  · rw [List.eq_of_mem_replicate hc]
    rfl
  · split at hc
    · exact isBlank_of_mem_bangs hc
    · exact isBlank_of_mem_clock hc

theorem newline_notMem_text (m : Marker) : '\n' ∉ m.text := fun h => by
  have hblank := isBlank_of_mem_text h
  cases hblank

theorem hasParts_text_of_untimed {m : Marker} (hlevel : 1 ≤ m.level) (hu : m.untimed = true) :
    HasParts m.text m.level true [] := by
  have htail : IsTail ['!', '!'] true [] := by
    apply IsTail.bangs isGap_nil
    intro c hc
    cases hc
  refine ⟨['!', '!'], ?_, htail⟩
  rw [text, hu, if_pos rfl]
  exact isCandidate_of_forall hlevel (fun c hc => isBlank_of_mem_bangs hc) (by decide)

theorem hasParts_text {m : Marker} (hlevel : 1 ≤ m.level) (hu : m.untimed = false) :
    HasParts m.text m.level false (clock m.time) := by
  refine ⟨clock m.time, ?_, isTail_clock m.time⟩
  rw [text, hu, if_neg Bool.false_ne_true]
  exact isCandidate_of_forall hlevel (fun c hc => isBlank_of_mem_clock hc) (head?_clock_ne m.time rfl)

end Marker

/-- **Markers read back.** A well-formed marker below 100 minutes is read from its own text. -/
theorem readMarker?_text {m : Marker} (h : m.IsWellFormed) (htime : m.time < 6000) :
    readMarker? m.text = some m := by
  rw [readMarker?_eq_some_iff]
  cases hu : m.untimed with
  | true =>
      have hreads := Reads.bare (Marker.hasParts_text_of_untimed h.level_pos hu)
      rw [hreads.classify_eq, ← Marker.eq_free h hu]
  | false =>
      have hfive : 5 ∣ m.time % 60 := by
        have hdvd := h.five_dvd_time
        omega
      have hreads := Reads.timed (Marker.hasParts_text h.level_pos hu) (isClock_clock htime) hfive
      rw [hreads.classify_eq, Nat.div_add_mod', ← Marker.eq_timed hu]

/-- A timed marker of 100 minutes or more has a text that no line may have. -/
theorem classify_text_of_le {m : Marker} (hlevel : 1 ≤ m.level) (hu : m.untimed = false)
    (htime : 6000 ≤ m.time) : classify m.text = .malformed := by
  apply Reads.classify_eq
  refine Reads.malformed (Marker.hasParts_text hlevel hu) ?_ (not_isClock_clock htime)
  intro htrue
  cases htrue

/-- Of the well-formed markers, those below 100 minutes read back. -/
theorem readMarker?_text_iff_of_isWellFormed {m : Marker} (h : m.IsWellFormed) :
    readMarker? m.text = some m ↔ m.time < 6000 := by
  refine ⟨fun hread => Nat.not_le.mp fun hle => ?_, readMarker?_text h⟩
  have hu : m.untimed = false := Bool.eq_false_iff.mpr fun hu => by
    have hzero := h.time_of_untimed hu
    omega
  rw [readMarker?_eq_some_iff, classify_text_of_le h.level_pos hu hle] at hread
  cases hread

/-- A marker in its **canonical form**: without time control it has no time, and otherwise a time in
steps of five seconds that fits into a clock. -/
def Marker.IsCanonical (m : Marker) : Prop :=
  1 ≤ m.level ∧
    (m.untimed = true ∧ m.time = 0 ∨ m.untimed = false ∧ 5 ∣ m.time ∧ m.time < 6000)

theorem Marker.isCanonical_iff {m : Marker} : m.IsCanonical ↔ m.IsWellFormed ∧ m.time < 6000 := by
  constructor
  · rintro ⟨hlevel, ⟨hu, htime⟩ | ⟨hu, hfive, htime⟩⟩
    · refine ⟨⟨hlevel, ?_, fun _ => htime⟩, ?_⟩
      · rw [htime]
        exact Nat.dvd_zero 5
      · omega
    · refine ⟨⟨hlevel, hfive, ?_⟩, htime⟩
      intro htrue
      rw [hu] at htrue
      cases htrue
  · rintro ⟨h, htime⟩
    refine ⟨h.level_pos, ?_⟩
    cases hu : m.untimed with
    | true => exact Or.inl ⟨rfl, h.time_of_untimed hu⟩
    | false => exact Or.inr ⟨rfl, h.five_dvd_time, htime⟩

/-- **Which markers read back.** A marker is read from its own text exactly if it is in canonical
form, whatever its fields are; and two such markers have different texts. -/
theorem readMarker?_text_iff :
    (∀ m : Marker, readMarker? m.text = some m ↔ m.IsCanonical) ∧
    ∀ m m' : Marker, m.IsCanonical → m'.IsCanonical → m.text = m'.text → m = m' := by
  have hread : ∀ m : Marker, m.IsCanonical → readMarker? m.text = some m := by
    intro m h
    obtain ⟨hwell, htime⟩ := Marker.isCanonical_iff.mp h
    exact readMarker?_text hwell htime
  refine ⟨?_, ?_⟩
  · intro m
    refine ⟨?_, hread m⟩
    intro h
    have hwell := isWellFormed_of_readMarker? h
    exact Marker.isCanonical_iff.mpr
      ⟨hwell, (readMarker?_text_iff_of_isWellFormed hwell).mp h⟩
  · intro m m' h h' htext
    have hm := hread m h
    rw [htext, hread m' h'] at hm
    exact (Option.some.inj hm).symm

/-- The last marker that a clock has room for, and what is told apart by its text. -/
theorem readMarker?_text_lastClock :
    (Marker.timed 3 5995).IsCanonical ∧
      readMarker? "???99:55".toList = some (.timed 3 5995) ∧
      ∀ m : Marker, m.IsCanonical → m.text = "???99:55".toList → m = .timed 3 5995 := by
  have hcanonical : (Marker.timed 3 5995).IsCanonical :=
    ⟨by decide, Or.inr ⟨rfl, by decide, by decide⟩⟩
  have htext : (Marker.timed 3 5995).text = "???99:55".toList := by decide
  have hread := (readMarker?_text_iff.1 (.timed 3 5995)).mpr hcanonical
  rw [htext] at hread
  refine ⟨hcanonical, hread, ?_⟩
  intro m hm hmtext
  exact readMarker?_text_iff.2 m (.timed 3 5995) hm hcanonical (hmtext.trans htext.symm)

-- Without a level the text is a bare clock, and a time that is hidden by `!!` is lost.
example : readMarker? (Marker.timed 0 60).text = none ∧
    readMarker? (Marker.text ⟨60, 1, true⟩) = some (.free 1) := by
  decide

end TalkTimer

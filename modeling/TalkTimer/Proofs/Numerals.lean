import Mathlib.Data.List.Induction
import TalkTimer.Text.Numeral

/-!
# Numerals read back

`decimal` writes a number and `readDecimal?` adds up the digits it finds. What is read is said here
by what a numeral is made of, without any order of reading, and it is what `decimal` writes:

* **Digits** (`exists_digitChar`) – the characters of the numbers below ten.
* **Numerals** (`readDecimal?_eq_some_iff`) – what is read as a number is a numeral of it
  (`IsNumeral`).
* **Numbers written** (`isNumeral_iff_exists_zeros`) – the numerals of a number are the one that
  `decimal` writes and those with zeros in front of it.
* **Counts** (`readBelow?_eq_some_iff`) – numerals below a bound, with a plus sign if one likes.
-/

namespace TalkTimer
namespace Text

/-! ## Digits -/

theorem digitValue_digitChar {d : Nat} (h : d < 10) : digitValue d.digitChar = d := by
  have hzero : '0'.toNat = 48 := rfl
  rw [digitValue, Nat.toNat_digitChar_of_lt_ten h, hzero]
  omega

theorem toNat_of_isDigit {c : Char} (h : c.isDigit = true) : 48 ≤ c.toNat ∧ c.toNat ≤ 57 :=
  Char.isDigit_iff_toNat.mp h

theorem exists_digitChar {c : Char} (h : c.isDigit = true) : ∃ d < 10, c = d.digitChar := by
  obtain ⟨hlow, hhigh⟩ := toNat_of_isDigit h
  have hlt : c.toNat - 48 < 10 := by omega
  refine ⟨c.toNat - 48, hlt, ?_⟩
  apply Char.toNat_inj.mp
  rw [Nat.toNat_digitChar_of_lt_ten hlt]
  omega

theorem isDigit_digitChar_of_lt {d : Nat} (h : d < 10) : d.digitChar.isDigit = true := by
  rw [Nat.isDigit_digitChar, decide_eq_true_eq]
  exact h

theorem isBlank_of_isDigit {c : Char} (h : c.isDigit = true) : isBlank c = false := by
  obtain ⟨hlow, hhigh⟩ := toNat_of_isDigit h
  simp only [isBlank, Bool.or_eq_false_iff, Bool.and_eq_false_iff, decide_eq_false_iff_not,
    beq_eq_false_iff_ne]
  omega

/-- A digit at the end counts once, and what is before it ten times. -/
theorem digitsValue_concat {d : Nat} (hd : d < 10) (acc : Nat) (t : Text) :
    digitsValue acc (t ++ [d.digitChar]) = 10 * digitsValue acc t + d := by
  rw [digitsValue, List.foldl_append, List.foldl_cons, List.foldl_nil, digitValue_digitChar hd]
  rfl

theorem digitsValue_singleton {d : Nat} (hd : d < 10) : digitsValue 0 [d.digitChar] = d := by
  apply (digitsValue_concat hd 0 []).trans
  exact Nat.zero_add d

theorem digitsValue_pair {a b : Nat} (ha : a < 10) (hb : b < 10) :
    digitsValue 0 [a.digitChar, b.digitChar] = 10 * a + b := by
  apply (digitsValue_concat hb 0 [a.digitChar]).trans
  rw [digitsValue_singleton ha]

/-! ## Numerals -/

/-- A **numeral** of a number: a digit, or a numeral and a digit more, which counts once while what
is before it counts ten times. -/
inductive IsNumeral : Text → Nat → Prop
  | digit {d : Nat} : d < 10 → IsNumeral [d.digitChar] d
  | concat {t : Text} {n d : Nat} : IsNumeral t n → d < 10 →
      IsNumeral (t ++ [d.digitChar]) (10 * n + d)

variable {t : Text} {n bound : Nat}

theorem readDecimal?_eq_some (h : readDecimal? t = some n) :
    t ≠ [] ∧ (∀ c ∈ t, c.isDigit = true) ∧ n = digitsValue 0 t := by
  unfold readDecimal? at h
  split at h
  · next hdigits =>
    cases h
    simpa using hdigits
  · cases h

theorem readDecimal?_of_digits (hne : t ≠ []) (hdigits : ∀ c ∈ t, c.isDigit = true) :
    readDecimal? t = some (digitsValue 0 t) := by
  apply if_pos
  simpa using And.intro hne hdigits

theorem IsNumeral.ne_nil (h : IsNumeral t n) : t ≠ [] := by
  cases h <;> simp

theorem IsNumeral.isDigit_of_mem (h : IsNumeral t n) : ∀ c ∈ t, c.isDigit = true := by
  induction h with
  | digit hd =>
      intro c hc
      rw [List.mem_singleton.mp hc]
      exact isDigit_digitChar_of_lt hd
  | concat _ hd ih =>
      intro c hc
      rcases List.mem_append.mp hc with hc | hc
      · exact ih c hc
      · rw [List.mem_singleton.mp hc]
        exact isDigit_digitChar_of_lt hd

theorem IsNumeral.digitsValue_eq (h : IsNumeral t n) : digitsValue 0 t = n := by
  induction h with
  | digit hd => exact digitsValue_singleton hd
  | concat _ hd ih => rw [digitsValue_concat hd, ih]

/-- Digits are a numeral. The induction goes to the left, since a numeral grows at its end. -/
theorem isNumeral_digitsValue (hne : t ≠ []) (hdigits : ∀ c ∈ t, c.isDigit = true) :
    IsNumeral t (digitsValue 0 t) := by
  induction t using List.reverseRecOn with
  | nil => exact absurd rfl hne
  | append_singleton t c ih =>
      obtain ⟨d, hd, rfl⟩ := exists_digitChar (hdigits c (by simp))
      by_cases ht : t = []
      · subst ht
        show IsNumeral [d.digitChar] (digitsValue 0 [d.digitChar])
        rw [digitsValue_singleton hd]
        exact .digit hd
      · rw [digitsValue_concat hd]
        apply IsNumeral.concat _ hd
        apply ih ht
        intro x hx
        exact hdigits x (List.mem_append_left _ hx)

/-- **What is read as a number is a numeral of it.** -/
theorem readDecimal?_eq_some_iff : readDecimal? t = some n ↔ IsNumeral t n := by
  constructor
  · intro h
    obtain ⟨hne, hdigits, rfl⟩ := readDecimal?_eq_some h
    exact isNumeral_digitsValue hne hdigits
  · intro h
    rw [readDecimal?_of_digits h.ne_nil h.isDigit_of_mem, h.digitsValue_eq]

/-! ## Numbers written -/

theorem isDigit_of_mem_decimal {c : Char} (hc : c ∈ decimal n) : c.isDigit = true :=
  Nat.isDigit_of_mem_toDigits (by omega) (by omega) hc

theorem IsNumeral.exists_zeros (h : IsNumeral t n) :
    ∃ zeros, t = List.replicate zeros '0' ++ decimal n := by
  induction h with
  | @digit d hd => exact ⟨0, (Nat.toDigits_of_lt_base hd).symm⟩
  | @concat t n d _ hd ih =>
      obtain ⟨zeros, rfl⟩ := ih
      have hdigit : decimal d = [d.digitChar] := Nat.toDigits_of_lt_base hd
      by_cases hn : n = 0
      · -- there are only zeros as yet, and all of them come to stand in front
        subst hn
        refine ⟨zeros + 1, ?_⟩
        rw [Nat.mul_zero, Nat.zero_add, hdigit, List.replicate_succ']
        rfl
      · refine ⟨zeros, ?_⟩
        have hlast : decimal n ++ decimal d = decimal (10 * n + d) :=
          Nat.toDigits_append_toDigits (by omega) (by omega) hd
        rw [List.append_assoc, ← hdigit, hlast]

theorem isNumeral_zeros_append (zeros n : Nat) :
    IsNumeral (List.replicate zeros '0' ++ decimal n) n := by
  have hne : List.replicate zeros '0' ++ decimal n ≠ [] :=
    List.append_ne_nil_of_right_ne_nil _ Nat.toDigits_ne_nil
  have hdigits : ∀ c ∈ List.replicate zeros '0' ++ decimal n, c.isDigit = true := by
    intro c hc
    rcases List.mem_append.mp hc with hc | hc
    · rw [List.eq_of_mem_replicate hc]
      rfl
    · exact isDigit_of_mem_decimal hc
  have hvalue : digitsValue 0 (List.replicate zeros '0' ++ decimal n) = n := by
    show Nat.ofDigitChars 10 (List.replicate zeros '0' ++ Nat.toDigits 10 n) 0 = n
    rw [Nat.ofDigitChars_append, Nat.ofDigitChars_replicate_zero, Nat.mul_zero,
      Nat.ofDigitChars_ten_toDigits]
  have h := isNumeral_digitsValue hne hdigits
  rw [hvalue] at h
  exact h

/-- **Numerals are what is written**, with zeros in front if one likes. -/
theorem isNumeral_iff_exists_zeros :
    IsNumeral t n ↔ ∃ zeros, t = List.replicate zeros '0' ++ decimal n := by
  constructor
  · exact IsNumeral.exists_zeros
  · rintro ⟨zeros, rfl⟩
    exact isNumeral_zeros_append zeros n

/-! ## Counts -/

/-- A **count**: a numeral, with a plus sign before it if one likes. -/
inductive IsCount : Text → Nat → Prop
  | plain {t : Text} {n : Nat} : IsNumeral t n → IsCount t n
  | plus {t : Text} {n : Nat} : IsNumeral t n → IsCount ('+' :: t) n

theorem isCount_plus_iff : IsCount ('+' :: t) n ↔ IsNumeral t n := by
  constructor
  · intro h
    cases h with
    | plain h =>
        -- a plus sign is no digit, so no numeral begins with it
        have hplus := h.isDigit_of_mem '+' List.mem_cons_self
        cases hplus
    | plus h => exact h
  · exact IsCount.plus

theorem isCount_iff_of_head?_ne (ht : t.head? ≠ some '+') : IsCount t n ↔ IsNumeral t n := by
  constructor
  · intro h
    cases h with
    | plain h => exact h
    | plus h => exact absurd rfl ht
  · exact IsCount.plain

theorem readDecimal?_below_eq_some_iff :
    ((readDecimal? t).bind fun k => if k < bound then some k else none) = some n ↔
      IsNumeral t n ∧ n < bound := by
  constructor
  · intro h
    obtain ⟨k, hk, hbelow⟩ := Option.bind_eq_some_iff.mp h
    split at hbelow
    · next hlt =>
      cases hbelow
      exact ⟨readDecimal?_eq_some_iff.mp hk, hlt⟩
    · cases hbelow
  · rintro ⟨h, hlt⟩
    rw [readDecimal?_eq_some_iff.mpr h]
    exact if_pos hlt

/-- A count is one word. -/
theorem IsCount.ne_nil (h : IsCount t n) : t ≠ [] := by
  cases h with
  | plain h => exact h.ne_nil
  | plus _ => exact List.cons_ne_nil _ _

theorem IsCount.isBlank_of_mem (h : IsCount t n) : ∀ c ∈ t, isBlank c = false := by
  cases h with
  | plain h => exact fun c hc => isBlank_of_isDigit (h.isDigit_of_mem c hc)
  | plus h =>
      rw [List.forall_mem_cons]
      exact ⟨rfl, fun c hc => isBlank_of_isDigit (h.isDigit_of_mem c hc)⟩

theorem isCount_iff_exists_zeros :
    IsCount t n ↔ ∃ zeros, t = List.replicate zeros '0' ++ decimal n ∨
      t = '+' :: (List.replicate zeros '0' ++ decimal n) := by
  constructor
  · intro h
    cases h with
    | plain h =>
        obtain ⟨zeros, rfl⟩ := isNumeral_iff_exists_zeros.mp h
        exact ⟨zeros, Or.inl rfl⟩
    | plus h =>
        obtain ⟨zeros, rfl⟩ := isNumeral_iff_exists_zeros.mp h
        exact ⟨zeros, Or.inr rfl⟩
  · rintro ⟨zeros, rfl | rfl⟩
    · exact .plain (isNumeral_iff_exists_zeros.mpr ⟨zeros, rfl⟩)
    · exact .plus (isNumeral_iff_exists_zeros.mpr ⟨zeros, rfl⟩)

/-- **What is read below a bound is a count below it.** -/
theorem readBelow?_eq_some_iff : readBelow? bound t = some n ↔ IsCount t n ∧ n < bound := by
  unfold readBelow?
  split
  · next r =>
    rw [isCount_plus_iff]
    exact readDecimal?_below_eq_some_iff
  · next hplus =>
    have ht : t.head? ≠ some '+' := by
      intro hhead
      obtain ⟨r, hr⟩ := List.head?_eq_some_iff.mp hhead
      exact hplus r hr
    rw [isCount_iff_of_head?_ne ht]
    exact readDecimal?_below_eq_some_iff

theorem readBelow?_eq_none_iff : readBelow? bound t = none ↔ ∀ n, IsCount t n → bound ≤ n := by
  rw [Option.eq_none_iff_forall_ne_some]
  apply forall_congr'
  intro n
  rw [ne_eq, readBelow?_eq_some_iff, not_and, Nat.not_lt]

end Text
end TalkTimer

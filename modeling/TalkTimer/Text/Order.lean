import TalkTimer.Text.Blank

/-!
# The order of texts

Texts are ordered by the code points of their characters, from left to right, which is
also the order of their bytes in UTF-8. Paths are ordered by their names from the root
on. Both orders are total and transitive, so that sorting by them gives one result
whatever the order of its input.
-/

namespace TalkTimer
namespace Text

/-- Whether a text does not come after another one. -/
def le : Text → Text → Bool
  | [], _ => true
  | _ :: _, [] => false
  | a :: s, b :: t => if a = b then le s t else a.toNat < b.toNat

/-- Whether a list of names does not come after another one. -/
def pathLe : List Text → List Text → Bool
  | [], _ => true
  | _ :: _, [] => false
  | a :: s, b :: t => if a = b then pathLe s t else le a b

/-- Whether a text occurs within another one. -/
def occursIn (t : Text) : Text → Bool
  | [] => t.isEmpty
  | c :: r => t.isPrefixOf (c :: r) || occursIn t r

theorem occursIn_iff {t u : Text} : occursIn t u = true ↔ t <:+: u := by
  induction u with
  | nil => simp [occursIn]
  | cons c r ih => simp [occursIn, ih, List.infix_cons_iff]

/-! ### Laws of the order -/

/-- Of two texts one does not come after the other. -/
theorem le_total (s t : Text) : (le s t || le t s) = true := by
  induction s generalizing t with
  | nil => simp [le]
  | cons a s ih =>
    cases t with
    | nil => simp [le]
    | cons b t =>
      by_cases h : a = b
      · simpa [le, h] using ih t
      · have hb : ¬ b = a := fun e => h e.symm
        have hn : a.toNat ≠ b.toNat := fun e => h (Char.toNat_inj.1 e)
        simp only [le, h, hb, if_false, Bool.or_eq_true, decide_eq_true_eq]
        omega

/-- Of three texts, if none comes after the next one, the first does not come after the last. -/
theorem le_trans {s t u : Text} (hst : le s t = true) (htu : le t u = true) : le s u = true := by
  induction s generalizing t u with
  | nil => simp [le]
  | cons a s ih =>
    cases t with
    | nil => simp [le] at hst
    | cons b t =>
      cases u with
      | nil => simp [le] at htu
      | cons c u =>
        by_cases hab : a = b
        · subst hab
          by_cases hac : a = c
          · subst hac
            simp only [le, if_true] at hst htu ⊢
            exact ih hst htu
          · simpa [le, hac] using htu
        · by_cases hbc : b = c
          · subst hbc
            simpa [le, hab] using hst
          · have hac : a ≠ c := by
              intro e
              subst e
              simp [le, hab] at hst
              simp [le, hbc] at htu
              omega
            simp only [le, hab, hbc, hac, if_false, decide_eq_true_eq] at hst htu ⊢
            omega

/-- Texts that do not come after each other are the same. -/
theorem eq_of_le_of_le {s t : Text} (hst : le s t = true) (hts : le t s = true) : s = t := by
  induction s generalizing t with
  | nil =>
    cases t with
    | nil => rfl
    | cons b t => simp [le] at hts
  | cons a s ih =>
    cases t with
    | nil => simp [le] at hst
    | cons b t =>
      by_cases h : a = b
      · subst h
        simp only [le, if_true] at hst hts
        rw [ih hst hts]
      · have hb : ¬ b = a := fun e => h e.symm
        simp only [le, h, hb, if_false, decide_eq_true_eq] at hst hts
        omega

/-- Of two paths one does not come after the other. -/
theorem pathLe_total (p q : List Text) : (pathLe p q || pathLe q p) = true := by
  induction p generalizing q with
  | nil => simp [pathLe]
  | cons a p ih =>
    cases q with
    | nil => simp [pathLe]
    | cons b q =>
      by_cases h : a = b
      · simpa [pathLe, h] using ih q
      · have hb : ¬ b = a := fun e => h e.symm
        simpa [pathLe, h, hb] using le_total a b

/-- Of three paths, if none comes after the next one, the first does not come after the last. -/
theorem pathLe_trans {p q r : List Text} (hpq : pathLe p q = true) (hqr : pathLe q r = true) :
    pathLe p r = true := by
  induction p generalizing q r with
  | nil => simp [pathLe]
  | cons a p ih =>
    cases q with
    | nil => simp [pathLe] at hpq
    | cons b q =>
      cases r with
      | nil => simp [pathLe] at hqr
      | cons c r =>
        by_cases hab : a = b
        · subst hab
          by_cases hac : a = c
          · subst hac
            simp only [pathLe, if_true] at hpq hqr ⊢
            exact ih hpq hqr
          · simpa [pathLe, hac] using hqr
        · by_cases hbc : b = c
          · subst hbc
            simpa [pathLe, hab] using hpq
          · simp only [pathLe, hab, hbc, if_false] at hpq hqr
            have hac : a ≠ c := by
              intro e
              subst e
              exact hab (eq_of_le_of_le hpq hqr)
            simpa [pathLe, hac] using le_trans hpq hqr

/-- Paths that do not come after each other are the same. -/
theorem eq_of_pathLe_of_pathLe {p q : List Text} (hpq : pathLe p q = true)
    (hqp : pathLe q p = true) : p = q := by
  induction p generalizing q with
  | nil =>
    cases q with
    | nil => rfl
    | cons b q => simp [pathLe] at hqp
  | cons a p ih =>
    cases q with
    | nil => simp [pathLe] at hpq
    | cons b q =>
      by_cases h : a = b
      · subst h
        simp only [pathLe, if_true] at hpq hqp
        rw [ih hpq hqp]
      · have hb : ¬ b = a := fun e => h e.symm
        simp only [pathLe, h, hb, if_false] at hpq hqp
        exact absurd (eq_of_le_of_le hpq hqp) h

end Text
end TalkTimer

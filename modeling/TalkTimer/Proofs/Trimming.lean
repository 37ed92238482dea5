import Mathlib.Data.List.TakeWhile
import TalkTimer.Text.Blank

/-!
# What trimming leaves

`trim` makes two passes over a line, one from each end. What it leaves can be said without them:
the *core* of a line stands between two runs of blanks and neither begins nor ends with one
(`trim_eq_iff`). So blanks around a line change nothing (`trim_pad`), and a line with something to
show is its core with a gap on each side, which is where the two passes stop
(`trimStart_pad`, `trimEnd_pad`).
-/

namespace TalkTimer
namespace Text

/-- A run of blanks, possibly none. -/
def IsGap (g : Text) : Prop := ∀ c ∈ g, isBlank c = true

/-- A text that neither begins nor ends with a blank. -/
structure IsBare (t : Text) : Prop where
  head : ∀ c, t.head? = some c → isBlank c = false
  last : ∀ c, t.getLast? = some c → isBlank c = false

/-- `t` is what is left of `l` without the blanks at both ends. -/
def IsCore (t l : Text) : Prop :=
  ∃ before after, l = before ++ t ++ after ∧ IsGap before ∧ IsGap after ∧ IsBare t

variable {g before after l t : Text}

/-! ## Gaps -/

theorem isGap_nil : IsGap [] := by
  intro c hc
  cases hc

theorem IsGap.append {h : Text} (hg : IsGap g) (hh : IsGap h) : IsGap (g ++ h) := by
  intro c hc
  rcases List.mem_append.mp hc with hc | hc
  · exact hg c hc
  · exact hh c hc

theorem allBlank_iff_isGap : allBlank t = true ↔ IsGap t := by
  rw [allBlank, List.all_eq_true]
  rfl

theorem trimStart_eq_nil_iff : trimStart t = [] ↔ IsGap t := by
  rw [trimStart, List.dropWhile_eq_nil_iff]
  rfl

/-! ## One end at a time -/

theorem trimStart_gap_append (hg : IsGap g) (t : Text) : trimStart (g ++ t) = trimStart t :=
  List.dropWhile_append_of_pos hg

/-- Where the blanks end, there the pass from the front ends. -/
theorem trimStart_gap_append_eq (hg : IsGap g)
    (ht : ∀ c, t.head? = some c → isBlank c = false) : trimStart (g ++ t) = t := by
  rw [trimStart_gap_append hg]
  cases t with
  | nil => rfl
  | cons c t =>
      have hc : isBlank c = false := ht c rfl
      simp [trimStart, hc]

theorem trimEnd_append_gap (t : Text) (hg : IsGap g) : trimEnd (t ++ g) = trimEnd t := by
  have hrev : IsGap g.reverse := by
    intro c hc
    exact hg c (List.mem_reverse.mp hc)
  show (trimStart (t ++ g).reverse).reverse = (trimStart t.reverse).reverse
  rw [List.reverse_append, trimStart_gap_append hrev]

theorem trimStart_append (h : ¬ IsGap t) (u : Text) : trimStart (t ++ u) = trimStart t ++ u := by
  have hne : trimStart t ≠ [] := by
    intro hnil
    exact h (trimStart_eq_nil_iff.mp hnil)
  rw [trimStart, List.dropWhile_append]
  simp only [List.isEmpty_iff]
  exact if_neg hne

theorem exists_gap_append_trimStart (t : Text) : ∃ g, IsGap g ∧ t = g ++ trimStart t := by
  refine ⟨t.takeWhile isBlank, ?_, List.takeWhile_append_dropWhile.symm⟩
  intro c hc
  exact List.all_eq_true.mp List.all_takeWhile c hc

theorem isBlank_of_head?_trimStart (t : Text) :
    ∀ c, (trimStart t).head? = some c → isBlank c = false := by
  intro c h
  have hstop := List.head?_dropWhile_not isBlank t
  rw [show (t.dropWhile isBlank).head? = some c from h] at hstop
  exact hstop

theorem exists_trimEnd_append_gap (t : Text) : ∃ g, IsGap g ∧ t = trimEnd t ++ g := by
  obtain ⟨g, hg, hrev⟩ := exists_gap_append_trimStart t.reverse
  refine ⟨g.reverse, ?_, ?_⟩
  · intro c hc
    exact hg c (List.mem_reverse.mp hc)
  · show t = (trimStart t.reverse).reverse ++ g.reverse
    rw [← List.reverse_append, ← hrev, List.reverse_reverse]

theorem isBlank_of_getLast?_trimEnd (t : Text) :
    ∀ c, (trimEnd t).getLast? = some c → isBlank c = false := by
  intro c h
  apply isBlank_of_head?_trimStart t.reverse
  rw [← h]
  show _ = ((trimStart t.reverse).reverse).getLast?
  rw [List.getLast?_reverse]

/-! ## Both ends -/

theorem trim_gap_append (hg : IsGap g) (t : Text) : trim (g ++ t) = trim t := by
  rw [trim, trimStart_gap_append hg, trim]

theorem trim_append_gap (t : Text) (hg : IsGap g) : trim (t ++ g) = trim t := by
  by_cases ht : IsGap t
  · -- nothing but blanks: nothing is left of either text
    rw [trim, trimStart_eq_nil_iff.mpr (ht.append hg), trim, trimStart_eq_nil_iff.mpr ht]
  · rw [trim, trimStart_append ht, trimEnd_append_gap _ hg, trim]

/-- **Blanks around a text change nothing.** -/
theorem trim_pad (hbefore : IsGap before) (l : Text) (hafter : IsGap after) :
    trim (before ++ l ++ after) = trim l := by
  rw [trim_append_gap _ hafter, trim_gap_append hbefore]

theorem IsBare.reverse (h : IsBare t) : IsBare t.reverse := by
  refine ⟨?_, ?_⟩
  · intro c hc
    exact h.last c (by simpa using hc)
  · intro c hc
    exact h.head c (by simpa using hc)

theorem IsBare.trimStart_append (h : IsBare t) (hne : t ≠ []) (u : Text) :
    trimStart (t ++ u) = t ++ u := by
  apply trimStart_gap_append_eq isGap_nil
  intro c hc
  obtain ⟨d, v, rfl⟩ := List.exists_cons_of_ne_nil hne
  exact h.head c hc

theorem IsBare.trimEnd_append (h : IsBare t) (hne : t ≠ []) (u : Text) :
    trimEnd (u ++ t) = u ++ t := by
  have hrev := h.reverse.trimStart_append (by simpa using hne) u.reverse
  show (trimStart (u ++ t).reverse).reverse = u ++ t
  rw [List.reverse_append, hrev, List.reverse_append, List.reverse_reverse, List.reverse_reverse]

theorem IsBare.trim_eq (h : IsBare t) : trim t = t := by
  by_cases hne : t = []
  · rw [hne]
    rfl
  · have hstart := h.trimStart_append hne []
    have hend := h.trimEnd_append hne []
    rw [List.append_nil] at hstart
    rw [trim, hstart]
    exact hend

theorem isBare_trim (l : Text) : IsBare (trim l) := by
  refine ⟨?_, isBlank_of_getLast?_trimEnd _⟩
  intro c hc
  -- the first character that is left is the first one that the pass from the front left
  obtain ⟨g, -, hsplit⟩ := exists_trimEnd_append_gap (trimStart l)
  obtain ⟨rest, hrest⟩ := List.head?_eq_some_iff.mp hc
  have hhead : (trimStart l).head? = some c := by
    rw [hsplit, show trimEnd (trimStart l) = c :: rest from hrest]
    rfl
  exact isBlank_of_head?_trimStart _ c hhead

theorem isCore_trim (l : Text) : IsCore (trim l) l := by
  obtain ⟨before, hbefore, hl⟩ := exists_gap_append_trimStart l
  obtain ⟨after, hafter, hcore⟩ := exists_trimEnd_append_gap (trimStart l)
  refine ⟨before, after, ?_, hbefore, hafter, isBare_trim l⟩
  rw [trim, List.append_assoc, ← hcore, ← hl]

/-- **Trimming finds the core.** -/
theorem trim_eq_iff : trim l = t ↔ IsCore t l := by
  constructor
  · intro h
    rw [← h]
    exact isCore_trim l
  · rintro ⟨before, after, rfl, hbefore, hafter, hbare⟩
    rw [trim_pad hbefore t hafter, hbare.trim_eq]

theorem trim_subset (l : Text) : trim l ⊆ l := by
  obtain ⟨before, after, hl, -, -, -⟩ := isCore_trim l
  intro c hc
  rw [hl]
  simp [hc]

/-! ## Where the passes stop -/

theorem trimStart_pad (hbefore : IsGap before) (h : IsBare t) (hne : t ≠ []) (after : Text) :
    trimStart (before ++ t ++ after) = t ++ after := by
  rw [List.append_assoc, trimStart_gap_append hbefore, h.trimStart_append hne]

theorem trimEnd_pad (before : Text) (h : IsBare t) (hne : t ≠ []) (hafter : IsGap after) :
    trimEnd (before ++ t ++ after) = before ++ t := by
  rw [trimEnd_append_gap _ hafter, h.trimEnd_append hne]

end Text
end TalkTimer

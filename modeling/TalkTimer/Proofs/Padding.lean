import Mathlib.Data.List.Forall2
import TalkTimer.Proofs.Findings
import TalkTimer.Proofs.JoinedScripts

/-!
# Padding and line endings

A script may be indented, may have blanks behind its lines, and may end them with a carriage return
and a line feed. Every pass sees the lines of such a script with blanks added at their ends (`Pads`),
and each of them looks at a line in one of three ways, none of which tells them apart: what it is to
the marker language (`PadsLine.classify_eq`), whether there is something to show in it
(`PadsLine.allBlank_eq`), and what its core is (`PadsLine.trim_eq`).

* **The check** (`validateLines_pads`) – passes over both scripts find the same faults in the same
  lines; the spans differ, and cut out the same text.
* **The cut** (`stretches_pads`) – the stretches between marker lines are line numbers, so they are the
  same ones, and the blocks differ in the padding of their content.
-/

namespace TalkTimer

open Text

/-- The line `l'` is `l` with blanks added at its ends. A line feed would end the line. -/
def PadsLine (l l' : Text) : Prop :=
  ∃ before after, l' = before ++ l ++ after ∧ IsGap before ∧ IsGap after ∧
    '\n' ∉ before ∧ '\n' ∉ after

/-- The text `s'` is `s` with blanks added at the ends of its lines. -/
def Pads (s s' : Text) : Prop := List.Forall₂ PadsLine (lines s) (lines s')

/-- The text with a carriage return before each line feed. -/
def withReturns (t : Text) : Text := t.flatMap fun c => if c = '\n' then ['\r', '\n'] else [c]

variable {l l' s s' : Text} {ls ls' : List Text}

/-! ## One line -/

theorem PadsLine.refl (l : Text) : PadsLine l l :=
  ⟨[], [], by simp, isGap_nil, isGap_nil, by simp, by simp⟩

theorem PadsLine.trim_eq (h : PadsLine l l') : trim l' = trim l := by
  obtain ⟨before, after, rfl, hbefore, hafter, -, -⟩ := h
  exact trim_pad hbefore l hafter

theorem PadsLine.classify_eq (h : PadsLine l l') : classify l' = classify l := by
  rw [classify, classify, h.trim_eq]

theorem PadsLine.readMarker?_eq (h : PadsLine l l') : readMarker? l' = readMarker? l := by
  rw [readMarker?, readMarker?, h.classify_eq]

theorem PadsLine.allBlank_eq (h : PadsLine l l') : allBlank l' = allBlank l := by
  obtain ⟨before, after, rfl, hbefore, hafter, -, -⟩ := h
  have hbefore := allBlank_iff_isGap.mpr hbefore
  have hafter := allBlank_iff_isGap.mpr hafter
  simp only [allBlank, List.all_append] at hbefore hafter ⊢
  rw [hbefore, hafter, Bool.true_and, Bool.and_true]

theorem PadsLine.newline_notMem (h : PadsLine l l') (hl : '\n' ∉ l) : '\n' ∉ l' := by
  obtain ⟨before, after, rfl, -, -, hbefore, hafter⟩ := h
  simp only [List.mem_append, not_or]
  exact ⟨⟨hbefore, hl⟩, hafter⟩

theorem Pads.refl (s : Text) : Pads s s := List.forall₂_same.mpr fun l _ => PadsLine.refl l

/-! ## Carriage returns -/

/-- What is added behind the first line stays behind it when the line grows at the front. -/
theorem forall₂_growFirst {r : Text} {xs ys : List Text} (c : Char)
    (h : List.Forall₂ (fun l l' => l' = l ∨ l' = l ++ r) xs ys) :
    List.Forall₂ (fun l l' => l' = l ∨ l' = l ++ r) (growFirst c xs) (growFirst c ys) := by
  cases h with
  | nil => exact List.Forall₂.cons (Or.inl rfl) List.Forall₂.nil
  | cons hl hrest =>
      refine List.Forall₂.cons ?_ hrest
      rcases hl with rfl | rfl
      · exact Or.inl rfl
      · exact Or.inr rfl

theorem lines_withReturns (t : Text) :
    List.Forall₂ (fun l l' => l' = l ∨ l' = l ++ ['\r']) (lines t) (lines (withReturns t)) := by
  induction t with
  | nil => exact List.Forall₂.cons (Or.inl rfl) List.Forall₂.nil
  | cons c t ih =>
      by_cases hc : c = '\n'
      · have hreturns : withReturns (c :: t) = '\r' :: '\n' :: withReturns t := by
          simp [withReturns, hc]
        rw [hreturns, hc]
        exact List.Forall₂.cons (Or.inr rfl) ih
      · have hreturns : withReturns (c :: t) = c :: withReturns t := by
          simp [withReturns, hc]
        rw [hreturns, lines, lines, if_neg hc, if_neg hc]
        exact forall₂_growFirst c ih

theorem pads_withReturns (t : Text) : Pads t (withReturns t) := by
  refine List.Forall₂.imp ?_ (lines_withReturns t)
  rintro l l' (rfl | rfl)
  · exact PadsLine.refl l'
  · refine ⟨[], ['\r'], rfl, isGap_nil, ?_, by simp, by decide⟩
    intro c hc
    rw [List.mem_singleton.mp hc]
    rfl

/-! ## The check -/

theorem PadsLine.checkLine_eq (h : PadsLine l l') (scopes : List Marker) :
    checkLine scopes l' = checkLine scopes l := by
  rw [checkLine, checkLine, h.classify_eq]

/-- **The check finds the same faults in the same lines.** The lines stand at other bytes. -/
theorem validateLines_pads (h : List.Forall₂ PadsLine ls ls') (scopes : List Marker)
    (number start start' : Nat) :
    List.Forall₂ (fun f f' => f.fault = f'.fault ∧ f.line = f'.line)
      (validateLines scopes (placeLines number start ls))
      (validateLines scopes (placeLines number start' ls')) := by
  induction h generalizing scopes number start start' with
  | nil => exact List.Forall₂.nil
  | @cons l l' ls ls' hl hrest ih =>
      rw [placeLines, placeLines, validateLines_cons, validateLines_cons]
      show List.Forall₂ _ (((checkLine scopes l).1.map _).toList ++ _)
        (((checkLine scopes l').1.map _).toList ++ _)
      rw [hl.checkLine_eq]
      have hfindings := ih (checkLine scopes l).2 (number + 1) (start + size l + 1)
        (start' + size l' + 1)
      cases (checkLine scopes l).1 with
      | none => exact hfindings
      | some fault => exact List.Forall₂.cons ⟨rfl, rfl⟩ hfindings

theorem Pads.line (h : Pads s s') {i : Nat} (hl : (lines s)[i]? = some l)
    (hl' : (lines s')[i]? = some l') : PadsLine l l' := by
  obtain ⟨hi, rfl⟩ := List.getElem?_eq_some_iff.mp hl
  obtain ⟨hi', rfl⟩ := List.getElem?_eq_some_iff.mp hl'
  exact h.get hi hi'

/-- **The spans cut out the same text.** -/
theorem Pads.slice (h : Pads s s') {f f' : Finding} (hf : f ∈ validate s) (hf' : f' ∈ validate s')
    (hline : f.line = f'.line) : ∃ t, f.span.slice? s = some t ∧ f'.span.slice? s' = some t := by
  obtain ⟨l, hl⟩ := exists_pointsAt hf
  obtain ⟨l', hl'⟩ := exists_pointsAt hf'
  have hpads : PadsLine l l' := h.line hl.line (hline ▸ hl'.line)
  refine ⟨trim l, hl.slice, ?_⟩
  rw [← hpads.trim_eq]
  exact hl'.slice

/-! ## The cut -/

theorem markerLines_pads (h : List.Forall₂ PadsLine ls ls') (start : Nat) :
    markerLines start ls' = markerLines start ls := by
  induction h generalizing start with
  | nil => rfl
  | @cons l l' ls ls' hl hrest ih =>
      have hread := hl.readMarker?_eq
      cases hm : readMarker? l with
      | none => rw [markerLines_cons_none hm, markerLines_cons_none (hread.trans hm), ih]
      | some m => rw [markerLines_cons_some hm, markerLines_cons_some (hread.trans hm), ih]

theorem leadingText_pads (h : List.Forall₂ PadsLine ls ls') :
    List.Forall₂ PadsLine (leadingText ls) (leadingText ls') := by
  induction h with
  | nil => exact List.Forall₂.nil
  | @cons l l' ls ls' hl hrest ih =>
      have hcontent : isContent l' = isContent l := by
        rw [isContent, isContent, hl.readMarker?_eq]
      rw [leadingText, leadingText, List.takeWhile_cons, List.takeWhile_cons, hcontent]
      cases isContent l with
      | true => exact List.Forall₂.cons hl ih
      | false => exact List.Forall₂.nil

theorem leadingStretch_pads (h : List.Forall₂ PadsLine ls ls') :
    leadingStretch ls' = leadingStretch ls := by
  have hblank : ls'.all allBlank = ls.all allBlank := by
    induction h with
    | nil => rfl
    | cons hl hrest ih => rw [List.all_cons, List.all_cons, hl.allBlank_eq, ih]
  rw [leadingStretch, leadingStretch, hblank, h.length_eq]

/-- **The stretches are the same**, since they are made of line numbers. -/
theorem stretches_pads (h : List.Forall₂ PadsLine ls ls') : stretches ls' = stretches ls := by
  rw [stretches, stretches, leadingStretch_pads (leadingText_pads h), markerLines_pads h,
    h.length_eq]

/-- Lines that are joined have all their padding in the text. -/
theorem pads_joinLines (h : List.Forall₂ PadsLine ls ls') (hfeed : ∀ l ∈ ls, '\n' ∉ l) :
    Pads (joinLines ls) (joinLines ls') := by
  cases h with
  | nil => exact Pads.refl []
  | @cons l l' ls ls' hl hrest =>
      have hall : List.Forall₂ PadsLine (l :: ls) (l' :: ls') := List.Forall₂.cons hl hrest
      have hfeed' : ∀ x ∈ l' :: ls', '\n' ∉ x := by
        intro x hx
        obtain ⟨i, hi, rfl⟩ := List.getElem_of_mem hx
        have hi' : i < (l :: ls).length := hall.length_eq ▸ hi
        exact (hall.get hi' hi).newline_notMem (hfeed _ (List.getElem_mem hi'))
      rw [Pads, lines_joinLines (List.cons_ne_nil l ls) hfeed,
        lines_joinLines (List.cons_ne_nil l' ls') hfeed']
      exact hall

theorem Stretch.toBlock_pads (h : Pads s s') (x : Stretch) :
    Pads (x.toBlock (lines s)).content (x.toBlock (lines s')).content := by
  apply pads_joinLines
  · exact List.forall₂_drop _ (List.forall₂_take _ h)
  · intro l hl
    exact not_mem_of_mem_lines (List.mem_of_mem_take (List.mem_of_mem_drop hl))

theorem segment_pads (h : Pads s s') :
    List.Forall₂ (fun b b' => b.marker = b'.marker ∧ b.line = b'.line ∧ Pads b.content b'.content)
      (segment s) (segment s') := by
  rw [segment_eq_map_toBlock, segment_eq_map_toBlock, stretches_pads h,
    List.forall₂_map_left_iff, List.forall₂_map_right_iff, List.forall₂_same]
  intro x _
  exact ⟨rfl, rfl, x.toBlock_pads h⟩

/-- **Padding and line endings do not matter.** A padded script has the same findings, said of the same
text, and the same blocks but for the padding of their content; so it is accepted if the other one is,
and is planned for the same time. A script whose lines end with a carriage return and a line feed is
one that is padded. -/
theorem same_of_pads :
    (∀ s s', Pads s s' →
      List.Forall₂ (fun f f' => f.fault = f'.fault ∧ f.line = f'.line ∧
        ∃ t, f.span.slice? s = some t ∧ f'.span.slice? s' = some t) (validate s) (validate s') ∧
      List.Forall₂ (fun b b' => b.marker = b'.marker ∧ b.line = b'.line ∧
        Pads b.content b'.content) (segment s) (segment s') ∧
      (∀ id, (∃ x, Script.parse id s = .ok x) ↔ ∃ x, Script.parse id s' = .ok x) ∧
      plannedTime (segment s) = plannedTime (segment s') ∧
      scheduledTotal (segment s) = scheduledTotal (segment s')) ∧
    ∀ s, Pads s (withReturns s) := by
  refine ⟨?_, pads_withReturns⟩
  intro s s' h
  have hfindings : List.Forall₂ _ (validate s) (validate s') := validateLines_pads h [] 0 0 0
  have hblocks := segment_pads h
  have hplanned : plannedTime (segment s) = plannedTime (segment s') := by
    apply plannedTime_congr
    have hmarkers := hblocks.imp fun b b' hb => hb.1
    rwa [← List.forall₂_eq_eq_eq, List.forall₂_map_left_iff, List.forall₂_map_right_iff]
  refine ⟨?_, hblocks, ?_, hplanned, ?_⟩
  · obtain ⟨hlength, hpairs⟩ := List.forall₂_iff_zip.mp hfindings
    refine List.forall₂_iff_zip.mpr ⟨hlength, ?_⟩
    intro f f' hmem
    obtain ⟨hfault, hline⟩ := hpairs hmem
    obtain ⟨hf, hf'⟩ := List.of_mem_zip hmem
    exact ⟨hfault, hline, h.slice hf hf' hline⟩
  · intro id
    have hnil : validate s = [] ↔ validate s' = [] := by
      rw [← List.length_eq_zero_iff, ← List.length_eq_zero_iff, hfindings.length_eq]
    rw [Script.exists_parse_iff, Script.exists_parse_iff, hnil]
  · rw [scheduledTotal_eq_ofNat, scheduledTotal_eq_ofNat, hplanned]

/-- A script with a line that is faulty, and the same script with carriage returns. -/
theorem same_of_pads_returns :
    Pads "?01:00\nÄ\n??:".toList "?01:00\r\nÄ\r\n??:".toList ∧
      List.Forall₂ (fun b b' => b.marker = b'.marker ∧ b.line = b'.line ∧
        Pads b.content b'.content) (segment "?01:00\nÄ\n??:".toList)
          (segment "?01:00\r\nÄ\r\n??:".toList) ∧
      validate "?01:00\nÄ\n??:".toList = [⟨.malformed, 2, ⟨10, 13⟩⟩] ∧
      validate "?01:00\r\nÄ\r\n??:".toList = [⟨.malformed, 2, ⟨12, 15⟩⟩] := by
  have hpads := same_of_pads.2 "?01:00\nÄ\n??:".toList
  rw [show withReturns "?01:00\nÄ\n??:".toList = "?01:00\r\nÄ\r\n??:".toList by decide] at hpads
  obtain ⟨-, hblocks, -, -⟩ := same_of_pads.1 _ _ hpads
  exact ⟨hpads, hblocks, by decide, by decide⟩

end TalkTimer

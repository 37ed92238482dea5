import TalkTimer.Marker
import TalkTimer.Text.Lines

/-!
# Lines and their places

A pass over a script sees its lines one after the other, each with its number and its first byte.
What such a pass computes is stated by position: the line `i` of the script `ls` has the lines
`ls.take i` before it and begins after their bytes. The lemmas here lead from the one view to the
other:

* `sourceLines_eq_placesAfter` – the places of all lines are places after no line,
* `placesAfter_cons` – the place of the next line, said by what stands before it,
* `lines_joinLines` – cutting undoes joining, so a content text tells the lines it was made of,
* `lines_joinLines_flatMap` – texts of several lines, joined, have all their lines,
* `joinLines_append` – a text parts at the beginning of each line,
* `shownLines_feedLines` – a reader sees the lines that were written one by one.
-/

namespace TalkTimer
namespace Text

/-! ## Bytes before a line -/

/-- The bytes that some lines take, each with the line feed after it. -/
def bytesOf : List Text → Nat
  | [] => 0
  | l :: ls => size l + 1 + bytesOf ls

@[simp] theorem bytesOf_append (xs ys : List Text) :
    bytesOf (xs ++ ys) = bytesOf xs + bytesOf ys := by
  induction xs with
  | nil => simp [bytesOf]
  | cons x xs ih => simp only [List.cons_append, bytesOf, ih]; omega

/-- The place of the line that follows the lines `before`. -/
def placeAfter (before : List Text) (l : Text) : SourceLine :=
  ⟨before.length, bytesOf before, l⟩

/-- The places of the lines that follow the lines `before`. -/
def placesAfter (before ls : List Text) : List SourceLine :=
  placeLines before.length (bytesOf before) ls

theorem sourceLines_eq_placesAfter (source : Text) :
    sourceLines source = placesAfter [] (lines source) := rfl

/-- The first line that follows has its place, and it stands before the others. -/
@[simp] theorem placesAfter_cons (before : List Text) (l : Text) (ls : List Text) :
    placesAfter before (l :: ls) = placeAfter before l :: placesAfter (before ++ [l]) ls := by
  simp [placesAfter, placeAfter, placeLines, bytesOf, Nat.add_assoc]

theorem placeLines_append (number start : Nat) (xs ys : List Text) :
    placeLines number start (xs ++ ys) =
      placeLines number start xs ++ placeLines (number + xs.length) (start + bytesOf xs) ys := by
  induction xs generalizing number start with
  | nil => rfl
  | cons x xs ih =>
      have hnumber : number + 1 + xs.length = number + (x :: xs).length := by
        rw [List.length_cons]; omega
      have hstart : start + size x + 1 + bytesOf xs = start + bytesOf (x :: xs) := by
        rw [bytesOf]; omega
      rw [List.cons_append, placeLines, placeLines, ih, hnumber, hstart, List.cons_append]

/-- The lines that have places are the lines of the script. -/
theorem map_text_placeLines (number start : Nat) (ls : List Text) :
    (placeLines number start ls).map SourceLine.text = ls := by
  induction ls generalizing number start with
  | nil => rfl
  | cons l ls ih => rw [placeLines, List.map_cons, ih]

theorem text_mem_of_mem_placeLines {number start : Nat} {ls : List Text} {l : SourceLine}
    (h : l ∈ placeLines number start ls) : l.text ∈ ls := by
  rw [← map_text_placeLines number start ls]
  exact List.mem_map_of_mem h

/-! ## Cutting and joining -/

/-- No line contains a line feed. -/
theorem not_mem_of_mem_lines {t l : Text} (h : l ∈ lines t) : '\n' ∉ l := by
  induction t generalizing l with
  | nil =>
      rw [lines, List.mem_singleton] at h
      simp [h]
  | cons c t ih =>
      rw [lines] at h
      split at h
      · rcases List.mem_cons.mp h with rfl | h
        · simp
        · exact ih h
      next hc =>
        obtain ⟨w, ws, hw⟩ := List.exists_cons_of_ne_nil (lines_ne_nil t)
        rw [hw, growFirst] at h
        rcases List.mem_cons.mp h with rfl | h
        · have hnw : '\n' ∉ w := ih (hw ▸ List.mem_cons_self)
          simp only [List.mem_cons, not_or]
          exact ⟨fun e => hc e.symm, hnw⟩
        · exact ih (hw ▸ List.mem_cons_of_mem w h)

theorem subset_of_mem_lines {t l : Text} (h : l ∈ lines t) : l ⊆ t := by
  induction t generalizing l with
  | nil =>
      rw [lines, List.mem_singleton] at h
      rw [h]
      exact List.Subset.refl []
  | cons c t ih =>
      rw [lines] at h
      split at h
      · rcases List.mem_cons.mp h with rfl | h
        · exact List.nil_subset _
        · exact List.Subset.trans (ih h) (List.subset_cons_self c t)
      · obtain ⟨w, ws, hw⟩ := List.exists_cons_of_ne_nil (lines_ne_nil t)
        rw [hw, growFirst] at h
        rcases List.mem_cons.mp h with rfl | h
        · exact List.cons_subset_cons c (ih (hw ▸ List.mem_cons_self))
        · exact List.Subset.trans (ih (hw ▸ List.mem_cons_of_mem w h)) (List.subset_cons_self c t)

/-- A text without line feed is its own only line. -/
theorem lines_of_not_mem {l : Text} (h : '\n' ∉ l) : lines l = [l] := by
  induction l with
  | nil => rfl
  | cons c l ih =>
      simp only [List.mem_cons, not_or] at h
      have hc : ¬ c = '\n' := fun e => h.1 e.symm
      rw [lines, if_neg hc, ih h.2, growFirst]

/-- What grows is the first of some texts, whatever follows them. -/
theorem growFirst_append (c : Char) {ws : List Text} (h : ws ≠ []) (vs : List Text) :
    growFirst c (ws ++ vs) = growFirst c ws ++ vs := by
  cases ws with
  | nil => exact absurd rfl h
  | cons w ws => rfl

/-- At a line feed the lines of two texts meet. -/
theorem lines_append_feed (s t : Text) : lines (s ++ '\n' :: t) = lines s ++ lines t := by
  induction s with
  | nil => simp [lines]
  | cons c s ih =>
      rw [List.cons_append, lines, lines, ih]
      split
      · rfl
      · exact growFirst_append c (lines_ne_nil s) (lines t)

/-- **Joined texts have all their lines.** -/
theorem lines_joinLines_flatMap {ts : List Text} (h : ts ≠ []) :
    lines (joinLines ts) = ts.flatMap lines := by
  induction ts with
  | nil => exact absurd rfl h
  | cons t ts ih =>
      cases ts with
      | nil => simp
      | cons t' ts =>
          have hne := List.cons_ne_nil t' ts
          rw [joinLines_cons t hne, lines_append_feed, ih hne, ← List.flatMap_cons]

/-- **Cutting undoes joining.** A joined text has the lines it was joined from. -/
theorem lines_joinLines {ls : List Text} (hne : ls ≠ []) (h : ∀ l ∈ ls, '\n' ∉ l) :
    lines (joinLines ls) = ls := by
  have hself : ls.map lines = ls.map fun l => [l] :=
    List.map_congr_left fun l hl => lines_of_not_mem (h l hl)
  rw [lines_joinLines_flatMap hne, List.flatMap_def, hself, ← List.flatMap_def,
    List.flatMap_singleton']

/-! ## Lines that are ended -/

/-- Lines, each with a line feed after it. -/
def feedLines (ls : List Text) : Text := ls.flatMap fun l => l ++ ['\n']

@[simp] theorem feedLines_nil : feedLines [] = [] := rfl

@[simp] theorem feedLines_cons (l : Text) (ls : List Text) :
    feedLines (l :: ls) = l ++ '\n' :: feedLines ls := by
  simp [feedLines]

@[simp] theorem feedLines_append (xs ys : List Text) :
    feedLines (xs ++ ys) = feedLines xs ++ feedLines ys := List.flatMap_append

theorem size_feedLines (ls : List Text) : size (feedLines ls) = bytesOf ls := by
  induction ls with
  | nil => rfl
  | cons l ls ih =>
      have hfeed : size ('\n' :: feedLines ls) = 1 + size (feedLines ls) := rfl
      rw [feedLines_cons, size_append, hfeed, ih, bytesOf, Nat.add_assoc]

/-- A text parts at the beginning of each line. -/
theorem joinLines_append (xs : List Text) {ys : List Text} (h : ys ≠ []) :
    joinLines (xs ++ ys) = feedLines xs ++ joinLines ys := by
  induction xs with
  | nil => rfl
  | cons x xs ih =>
      rw [List.cons_append, joinLines_cons x (List.append_ne_nil_of_right_ne_nil xs h), ih,
        feedLines_cons, List.append_assoc, List.cons_append]

theorem joinLines_append_nil (ls : List Text) : joinLines (ls ++ [[]]) = feedLines ls := by
  rw [joinLines_append ls (List.cons_ne_nil [] [])]
  exact List.append_nil _

theorem bytesOf_lines (t : Text) : bytesOf (lines t) = size t + 1 := by
  have hfeed : feedLines (lines t) = t ++ ['\n'] := by
    rw [← joinLines_append_nil, ← joinLines_lines (t ++ ['\n']), lines_append_feed]
    rfl
  rw [← size_feedLines, hfeed, size_append]
  rfl

/-! ## Lines as a reader sees them -/

theorem endLines_append_nil (ls : List Text) : endLines (ls ++ [[]]) = ls.map dropReturn := by
  induction ls with
  | nil => rfl
  | cons l ls ih =>
      obtain ⟨l', ls', h⟩ := List.exists_cons_of_ne_nil
        (List.append_ne_nil_of_right_ne_nil ls (List.cons_ne_nil [] []))
      rw [List.cons_append, h, endLines, ← h, ih, List.map_cons]

/-- A reader sees the lines that were written one by one. -/
theorem shownLines_feedLines {ls : List Text} (h : ∀ l ∈ ls, '\n' ∉ l) :
    shownLines (feedLines ls) = ls.map dropReturn := by
  have hfeed : ∀ l ∈ ls ++ [[]], '\n' ∉ l := by
    intro l hl
    rcases List.mem_append.mp hl with hl | hl
    · exact h l hl
    · rw [List.mem_singleton.mp hl]
      exact List.not_mem_nil
  rw [shownLines, ← joinLines_append_nil, lines_joinLines (by simp) hfeed, endLines_append_nil]

/-- What is written as a line at the end is the last line that a reader sees. -/
theorem getLast?_shownLines (t : Text) {l : Text} (h : '\n' ∉ l) :
    (shownLines (t ++ '\n' :: l ++ ['\n'])).getLast? = some (dropReturn l) := by
  have hlines : lines (t ++ '\n' :: l ++ ['\n']) = (lines t ++ [l]) ++ [[]] := by
    rw [lines_append_feed, lines_append_feed, lines_of_not_mem h]
    rfl
  rw [shownLines, hlines, endLines_append_nil, List.map_append, List.map_singleton,
    List.getLast?_concat]

theorem dropReturn_subset (l : Text) : dropReturn l ⊆ l := by
  unfold dropReturn
  split
  · exact List.dropLast_subset l
  · exact List.Subset.refl l

theorem endLines_subset {ls : List Text} {l : Text} (h : l ∈ endLines ls) :
    ∃ l' ∈ ls, l ⊆ l' := by
  induction ls with
  | nil => cases h
  | cons k ls ih =>
      cases ls with
      | nil =>
          rw [endLines] at h
          split at h
          · cases h
          · exact ⟨l, h, List.Subset.refl l⟩
      | cons k' ls =>
          rw [endLines] at h
          rcases List.mem_cons.mp h with rfl | h
          · exact ⟨k, List.mem_cons_self, dropReturn_subset k⟩
          · obtain ⟨l', hl', hsub⟩ := ih h
            exact ⟨l', List.mem_cons_of_mem k hl', hsub⟩

theorem subset_of_mem_shownLines {t l : Text} (h : l ∈ shownLines t) : l ⊆ t := by
  obtain ⟨l', hl', hsub⟩ := endLines_subset h
  exact List.Subset.trans hsub (subset_of_mem_lines hl')

theorem not_mem_of_mem_shownLines {t l : Text} (h : l ∈ shownLines t) : '\n' ∉ l := by
  obtain ⟨l', hl', hsub⟩ := endLines_subset h
  exact fun hmem => not_mem_of_mem_lines hl' (hsub hmem)

end Text
end TalkTimer

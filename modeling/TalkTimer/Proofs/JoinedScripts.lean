import Mathlib.Data.List.TakeWhile
import TalkTimer.Proofs.Acceptance
import TalkTimer.Proofs.Outline

/-!
# Sections are independent

Two texts are put together with a line feed between them, and the second one begins with a marker of
level 1. Both passes over the result carry something across the seam: the check its open scopes, the
cut its open block.

* **Places** (`sourceLines_append_feed`) – the lines of the second text have moved, and so has
  everything that is said about them (`validateLines_map_moveBy`, `segmentLines_map_moveBy`).
* **The check** (`validateLines_append_topLevel`) – a marker of level 1 closes every scope.
* **The cut** (`segmentLines_append`) – what the first text leaves open is closed by the marker instead
  of by the end of the text. Only a marker on the last line shows the difference.
-/

namespace TalkTimer

open Text

/-! ## Moved to another place -/

def Span.moveBy (bytes : Nat) (s : Span) : Span := ⟨s.start + bytes, s.stop + bytes⟩

def SourceLine.moveBy (count bytes : Nat) (l : SourceLine) : SourceLine :=
  ⟨l.number + count, l.start + bytes, l.text⟩

def Finding.moveBy (count bytes : Nat) (f : Finding) : Finding :=
  ⟨f.fault, f.line + count, f.span.moveBy bytes⟩

/-- The block at another place: `count` lines and some bytes further on. -/
def Block.moveBy (count bytes : Nat) (b : Block) : Block :=
  { b with line := b.line + count, span := b.span.moveBy bytes }

def OpenBlock.moveBy (count bytes : Nat) (b : OpenBlock) : OpenBlock :=
  { b with line := b.line + count, start := b.start + bytes }

variable {number start count bytes : Nat}

namespace Text

theorem placeLines_moveBy (number start count bytes : Nat) (ls : List Text) :
    placeLines (number + count) (start + bytes) ls =
      (placeLines number start ls).map (SourceLine.moveBy count bytes) := by
  induction ls generalizing number start with
  | nil => rfl
  | cons l ls ih =>
      have hnumber : number + count + 1 = number + 1 + count := by omega
      have hstart : start + bytes + size l + 1 = start + size l + 1 + bytes := by omega
      rw [placeLines, placeLines, hnumber, hstart, ih, List.map_cons]
      rfl

/-- The lines of the second text have moved by the first text and the line feed. -/
theorem sourceLines_append_feed (a b : Text) :
    sourceLines (a ++ '\n' :: b) =
      sourceLines a ++ (sourceLines b).map (SourceLine.moveBy (lines a).length (size a + 1)) := by
  rw [sourceLines, lines_append_feed, placeLines_append, bytesOf_lines, placeLines_moveBy]
  rfl

theorem exists_sourceLines_eq_cons {b t : Text} (h : (lines b).head? = some t) :
    ∃ rest, sourceLines b = ⟨0, 0, t⟩ :: rest := by
  obtain ⟨ls, hb⟩ := List.head?_eq_some_iff.mp h
  exact ⟨_, by rw [sourceLines, hb, placeLines]⟩

theorem exists_sourceLines_eq_concat {a t : Text} (h : (lines a).getLast? = some t) :
    ∃ ls, sourceLines a = ls ++ [⟨(lines a).length - 1, size a - size t, t⟩] := by
  obtain ⟨ls, ha⟩ := List.getLast?_eq_some_iff.mp h
  have hbytes := bytesOf_lines a
  rw [ha, bytesOf_append, bytesOf, bytesOf] at hbytes
  have hstart : size a - size t = bytesOf ls := by omega
  refine ⟨placeLines 0 0 ls, ?_⟩
  rw [sourceLines, ha, placeLines_append, hstart]
  simp [placeLines]

end Text

/-! ## The check -/

variable {scopes : List Marker} {l : SourceLine} {m : Marker}

theorem trimmedSpan_moveBy (l : SourceLine) :
    (l.moveBy count bytes).trimmedSpan = l.trimmedSpan.moveBy bytes := by
  simp only [SourceLine.trimmedSpan, SourceLine.moveBy, Span.moveBy, Span.mk.injEq]
  omega

theorem validateLines_map_moveBy (scopes : List Marker) (ls : List SourceLine) :
    validateLines scopes (ls.map (SourceLine.moveBy count bytes)) =
      (validateLines scopes ls).map (Finding.moveBy count bytes) := by
  induction ls generalizing scopes with
  | nil => rfl
  | cons l ls ih =>
      have htext : (l.moveBy count bytes).text = l.text := rfl
      rw [List.map_cons, validateLines_cons, validateLines_cons, htext, ih, List.map_append,
        trimmedSpan_moveBy]
      cases (checkLine scopes l.text).1 <;> rfl

/-- All scopes are at level 1 or deeper. -/
theorem level_pos_of_mem_checkLine (hs : ∀ s ∈ scopes, 1 ≤ s.level) (t : Text) :
    ∀ s ∈ (checkLine scopes t).2, 1 ≤ s.level := by
  unfold checkLine
  cases ht : classify t with
  | text => exact hs
  | oddSeconds found => exact hs
  | malformed => exact hs
  | marker m =>
      intro s hmem
      rcases List.mem_cons.mp hmem with rfl | hmem
      · exact (isWellFormed_of_readMarker? (readMarker?_eq_some_iff.mpr ht)).level_pos
      · exact hs s ((List.dropWhile_sublist _).subset hmem)

/-- A marker of level 1 closes every scope. -/
theorem checkLine_of_level_one (hs : ∀ s ∈ scopes, 1 ≤ s.level) {t : Text}
    (ht : readMarker? t = some m) (hm : m.level = 1) : checkLine scopes t = checkLine [] t := by
  have hclosed : openScopes m.level scopes = [] := by
    refine List.dropWhile_eq_nil_iff.mpr fun s hmem => ?_
    simpa [hm] using hs s hmem
  unfold checkLine
  rw [readMarker?_eq_some_iff.mp ht]
  show (checkAgainst (openScopes m.level scopes).head? m, m :: openScopes m.level scopes) = _
  rw [hclosed]
  rfl

/-- **The check starts anew** at a marker of level 1. -/
theorem validateLines_append_topLevel (hs : ∀ s ∈ scopes, 1 ≤ s.level)
    (hl : readMarker? l.text = some m) (hm : m.level = 1) (xs ys : List SourceLine) :
    validateLines scopes (xs ++ l :: ys) =
      validateLines scopes xs ++ validateLines [] (l :: ys) := by
  induction xs generalizing scopes with
  | nil =>
      rw [List.nil_append, validateLines_cons, validateLines_cons, checkLine_of_level_one hs hl hm]
      rfl
  | cons x xs ih =>
      rw [List.cons_append, validateLines_cons, ih (level_pos_of_mem_checkLine hs x.text),
        validateLines_cons scopes x xs, List.append_assoc]

/-! ## The cut -/

namespace OpenBlock

/-- The block that is open after some lines. -/
def after (b : OpenBlock) : List SourceLine → OpenBlock
  | [] => b
  | l :: ls =>
    match readMarker? l.text with
    | some m => (atMarker m l).after ls
    | none => { b with gathered := l.text :: b.gathered }.after ls

/-- The blocks that some lines close. -/
def closed (b : OpenBlock) : List SourceLine → List Block
  | [] => []
  | l :: ls =>
    match readMarker? l.text with
    | some m => b.close l.start ++ (atMarker m l).closed ls
    | none => { b with gathered := l.text :: b.gathered }.closed ls

theorem after_append (b : OpenBlock) (xs ys : List SourceLine) :
    b.after (xs ++ ys) = (b.after xs).after ys := by
  induction xs generalizing b with
  | nil => rfl
  | cons x xs ih =>
      rw [List.cons_append, after, after]
      split
      · exact ih _
      · exact ih _

theorem after_concat_of_some {t : SourceLine} (ht : readMarker? t.text = some m) (b : OpenBlock)
    (ls : List SourceLine) : b.after (ls ++ [t]) = atMarker m t := by
  rw [after_append, after, ht]
  rfl

theorem isBareMarker_after_concat {t : SourceLine} (ht : readMarker? t.text = none) (b : OpenBlock)
    (ls : List SourceLine) : (b.after (ls ++ [t])).isBareMarker = false := by
  rw [after_append, after, ht]
  simp [after, isBareMarker]

theorem marker_after_ne_none {b : OpenBlock} (h : b.marker ≠ none) (ls : List SourceLine) :
    (b.after ls).marker ≠ none := by
  induction ls generalizing b with
  | nil => exact h
  | cons l ls ih =>
      rw [after]
      split
      · exact ih (by simp [atMarker])
      · exact ih h

/-- As long as no marker opens a block, none is closed. -/
theorem closed_eq_nil {b : OpenBlock} {ls : List SourceLine} (h : (b.after ls).marker = none) :
    b.closed ls = [] := by
  induction ls generalizing b with
  | nil => rfl
  | cons l ls ih =>
      cases hl : readMarker? l.text with
      | some m =>
          simp only [after, hl] at h
          exact absurd h (marker_after_ne_none (by simp [atMarker]) ls)
      | none =>
          simp only [after, hl] at h
          simp only [closed, hl]
          exact ih h

theorem closed_eq_nil_of_isVoid {b : OpenBlock} {ls : List SourceLine}
    (h : (b.after ls).isVoid = true) : b.closed ls = [] := by
  rw [isVoid, Bool.and_eq_true, Option.isNone_iff_eq_none] at h
  exact closed_eq_nil h.1

theorem moveBy_close (b : OpenBlock) (stop : Nat) :
    (b.moveBy count bytes).close (stop + bytes) = (b.close stop).map (Block.moveBy count bytes) := by
  have hvoid : (b.moveBy count bytes).isVoid = b.isVoid := rfl
  rw [close, close, hvoid]
  split <;> rfl

theorem moveBy_finish (b : OpenBlock) (stop : Nat) :
    (b.moveBy count bytes).finish (stop + bytes) =
      (b.finish stop).map (Block.moveBy count bytes) := by
  have hbare : (b.moveBy count bytes).isBareMarker = b.isBareMarker := rfl
  rw [finish, finish, hbare]
  split
  · rfl
  · exact b.moveBy_close stop

end OpenBlock

/-- The blocks of lines that follow are made of the block that is open when they begin. -/
theorem segmentLines_append (stop : Nat) (b : OpenBlock) (xs ys : List SourceLine) :
    segmentLines stop b (xs ++ ys) = b.closed xs ++ segmentLines stop (b.after xs) ys := by
  induction xs generalizing b with
  | nil => rfl
  | cons x xs ih =>
      cases hx : readMarker? x.text with
      | some m =>
          rw [List.cons_append, segmentLines_cons_some hx, ih]
          simp only [OpenBlock.closed, OpenBlock.after, hx, List.append_assoc]
      | none =>
          rw [List.cons_append, segmentLines_cons_none hx, ih]
          simp only [OpenBlock.closed, OpenBlock.after, hx]

theorem segmentLines_map_moveBy (stop : Nat) (b : OpenBlock) (ls : List SourceLine) :
    segmentLines (stop + bytes) (b.moveBy count bytes) (ls.map (SourceLine.moveBy count bytes)) =
      (segmentLines stop b ls).map (Block.moveBy count bytes) := by
  induction ls generalizing b with
  | nil => exact b.moveBy_finish stop
  | cons l ls ih =>
      cases hl : readMarker? l.text with
      | some m =>
          have hmoved : readMarker? (l.moveBy count bytes).text = some m := hl
          rw [List.map_cons, segmentLines_cons_some hmoved, segmentLines_cons_some hl,
            List.map_append, ← ih, ← b.moveBy_close]
          rfl
      | none =>
          have hmoved : readMarker? (l.moveBy count bytes).text = none := hl
          rw [List.map_cons, segmentLines_cons_none hmoved, segmentLines_cons_none hl, ← ih]
          rfl

/-- **The cut at the seam.** The marker of level 1 closes what the first text has left open; the
blocks of the second text have moved. -/
theorem segment_append_feed {a b t : Text} (ht : (lines b).head? = some t)
    (hm : readMarker? t = some m) :
    segment (a ++ '\n' :: b) =
      OpenBlock.leading.closed (sourceLines a) ++
        (OpenBlock.leading.after (sourceLines a)).close (size a + 1) ++
        (segment b).map (Block.moveBy (lines a).length (size a + 1)) := by
  obtain ⟨rest, hb⟩ := exists_sourceLines_eq_cons ht
  have hsize : size (a ++ '\n' :: b) = size b + (size a + 1) := by
    have hfeed : size ('\n' :: b) = 1 + size b := rfl
    rw [size_append, hfeed]
    omega
  -- the marker line at its place in the second text, and at its place in the joined one
  let l : SourceLine := ⟨0, 0, t⟩
  let l' := l.moveBy (lines a).length (size a + 1)
  have hl : readMarker? l.text = some m := hm
  have hl' : readMarker? l'.text = some m := hm
  have hb' : segment b = segmentLines (size b) (.atMarker m l) rest := by
    rw [segment, hb, segmentLines_cons_some hl]
    rfl
  have hstart : l'.start = size a + 1 := Nat.zero_add _
  have hmarker : OpenBlock.atMarker m l' =
      (OpenBlock.atMarker m l).moveBy (lines a).length (size a + 1) := rfl
  rw [segment, sourceLines_append_feed, segmentLines_append, hsize, hb, List.map_cons,
    segmentLines_cons_some hl', hstart, hmarker, segmentLines_map_moveBy, hb', List.append_assoc]

/-! ## Both passes -/

/-- Blocks of which the last one reaches one byte further. -/
def lengthenLast (blocks : List Block) : List Block :=
  blocks.dropLast ++
    (blocks.getLast?.map fun b => { b with span := ⟨b.span.start, b.span.stop + 1⟩ }).toList

theorem lengthenLast_concat (blocks : List Block) (b : Block) :
    lengthenLast (blocks ++ [b]) =
      blocks ++ [{ b with span := ⟨b.span.start, b.span.stop + 1⟩ }] := by
  simp [lengthenLast]

theorem segment_eq_closed_append_finish (a : Text) :
    segment a = OpenBlock.leading.closed (sourceLines a) ++
      (OpenBlock.leading.after (sourceLines a)).finish (size a) := by
  have h := segmentLines_append (size a) .leading (sourceLines a) []
  rwa [List.append_nil] at h

/-- A last line without marker: the end of the text closed the open block one byte earlier. -/
theorem closed_append_close_of_none {a last : Text} (hlast : (lines a).getLast? = some last)
    (hl : readMarker? last = none) :
    OpenBlock.leading.closed (sourceLines a) ++
        (OpenBlock.leading.after (sourceLines a)).close (size a + 1) =
      lengthenLast (segment a) := by
  obtain ⟨ls, ha⟩ := exists_sourceLines_eq_concat hlast
  have hbare : (OpenBlock.leading.after (sourceLines a)).isBareMarker = false := by
    rw [ha]
    exact OpenBlock.isBareMarker_after_concat hl _ _
  rw [segment_eq_closed_append_finish, OpenBlock.finish, hbare, if_neg Bool.false_ne_true]
  unfold OpenBlock.close
  split
  · next hvoid =>
    -- blank text and no marker: there is no block at all
    rw [OpenBlock.closed_eq_nil_of_isVoid hvoid]
    rfl
  · rw [lengthenLast_concat]
    rfl

/-- A marker on the last line: the end of the text dropped it. -/
theorem closed_append_close_of_some {a last : Text} {m : Marker}
    (hlast : (lines a).getLast? = some last) (hl : readMarker? last = some m) :
    OpenBlock.leading.closed (sourceLines a) ++
        (OpenBlock.leading.after (sourceLines a)).close (size a + 1) =
      segment a ++
        [⟨[], some m, (lines a).length - 1, ⟨size a - size last, size a + 1⟩⟩] := by
  obtain ⟨ls, ha⟩ := exists_sourceLines_eq_concat hlast
  have hafter := OpenBlock.after_concat_of_some
    (t := ⟨(lines a).length - 1, size a - size last, last⟩) hl .leading ls
  rw [← ha] at hafter
  rw [segment_eq_closed_append_finish, hafter]
  show _ = _ ++ [] ++ _
  rw [List.append_nil]
  rfl

theorem map_marker_lengthenLast (blocks : List Block) :
    (lengthenLast blocks).map Block.marker = blocks.map Block.marker := by
  rcases List.eq_nil_or_concat blocks with rfl | ⟨bs, b, rfl⟩
  · rfl
  · rw [List.concat_eq_append, lengthenLast_concat, List.map_append, List.map_append]
    rfl

/-- **Sections are independent.** A text that begins with a marker of level 1 is checked and cut
behind another text as if it stood alone, and so is the text before it. The one difference is a
marker on the last line of the first text, which opens a block only if something follows. -/
theorem join_topLevel (a b : Text) {t : Text} {m : Marker} (ht : (lines b).head? = some t)
    (hm : readMarker? t = some m) (hlevel : m.level = 1) :
    let joined := a ++ '\n' :: b
    let moved := Block.moveBy (lines a).length (size a + 1)
    validate joined =
      validate a ++ (validate b).map (Finding.moveBy (lines a).length (size a + 1)) ∧
    (∀ id, (∃ s, Script.parse id joined = .ok s) ↔
      (∃ s, Script.parse id a = .ok s) ∧ ∃ s, Script.parse id b = .ok s) ∧
    ∀ last, (lines a).getLast? = some last →
      (readMarker? last = none →
        segment joined = lengthenLast (segment a) ++ (segment b).map moved ∧
        plannedTime (segment joined) = plannedTime (segment a) + plannedTime (segment b) ∧
        scheduledTotal (segment joined) =
          scheduledTotal (segment a) + scheduledTotal (segment b)) ∧
      ∀ m', readMarker? last = some m' →
        segment joined = segment a ++
          ⟨[], some m', (lines a).length - 1, ⟨size a - size last, size a + 1⟩⟩ ::
            (segment b).map moved := by
  intro joined moved
  have hvalidate : validate joined =
      validate a ++ (validate b).map (Finding.moveBy (lines a).length (size a + 1)) := by
    obtain ⟨rest, hb⟩ := exists_sourceLines_eq_cons ht
    have hmoved : readMarker? (SourceLine.moveBy (lines a).length (size a + 1) ⟨0, 0, t⟩).text =
        some m := hm
    rw [validate, sourceLines_append_feed, hb, List.map_cons,
      validateLines_append_topLevel (fun s hs => absurd hs List.not_mem_nil) hmoved hlevel,
      ← List.map_cons, validateLines_map_moveBy, ← hb]
    rfl
  have hsegment := segment_append_feed (a := a) ht hm
  refine ⟨hvalidate, fun id => ?_, fun last hlast => ⟨fun hl => ?_, fun m' hl => ?_⟩⟩
  · rw [Script.exists_parse_iff, Script.exists_parse_iff, Script.exists_parse_iff, hvalidate,
      List.append_eq_nil_iff, List.map_eq_nil_iff]
  · rw [closed_append_close_of_none hlast hl] at hsegment
    have hmoved : ((segment b).map moved).map Block.marker = (segment b).map Block.marker := by
      rw [List.map_map]
      rfl
    have hplanned : plannedTime (segment joined) =
        plannedTime (segment a) + plannedTime (segment b) := by
      rw [hsegment, plannedTime_append, plannedTime_congr (map_marker_lengthenLast _),
        plannedTime_congr hmoved]
    refine ⟨hsegment, hplanned, ?_⟩
    simp only [scheduledTotal_eq_ofNat, hplanned, UInt32.ofNat_add]
  · rw [closed_append_close_of_some hlast hl, List.append_assoc, List.singleton_append] at hsegment
    exact hsegment

/-- A talk whose last line is three scopes deep, and one that begins with a section and goes too deep
in it. -/
def threeScopes : Text := "é\n?02:00\n??01:00\n???00:30\nA".toList

def tooDeep : Text := "?01:00\n???!!\nB\n?00:07".toList

theorem join_topLevel_threeScopes :
    (lines tooDeep).head? = some "?01:00".toList ∧
      readMarker? "?01:00".toList = some (.timed 1 60) ∧ (Marker.timed 1 60).level = 1 ∧
      validate (threeScopes ++ '\n' :: tooDeep) =
        validate threeScopes ++ (validate tooDeep).map (Finding.moveBy 5 29) ∧
      (validate tooDeep).map Finding.line = [1, 3] ∧
      segment (threeScopes ++ '\n' :: tooDeep) =
        lengthenLast (segment threeScopes) ++ (segment tooDeep).map (Block.moveBy 5 29) ∧
      scheduledTotal (segment (threeScopes ++ '\n' :: tooDeep)) = 180 := by
  have ht : (lines tooDeep).head? = some "?01:00".toList := by decide
  have hm : readMarker? "?01:00".toList = some (.timed 1 60) := by decide
  have hlast : (lines threeScopes).getLast? = some ['A'] := by decide
  have hnone : readMarker? ['A'] = none := by decide
  obtain ⟨hvalidate, -, hsegment⟩ := join_topLevel threeScopes tooDeep ht hm rfl
  obtain ⟨hsegment, -, htotal⟩ := (hsegment _ hlast).1 hnone
  exact ⟨ht, hm, rfl, hvalidate, by decide, hsegment, htotal⟩

end TalkTimer

import TalkTimer.Proofs.Lines
import TalkTimer.Segment

/-!
# The stretches between marker lines

`segment` is one pass that gathers lines into an open block. Where the blocks begin and end can be
read off the marker lines alone: `stretches` lists, for the lines of a script, the stretch of
leading text and the stretch from each marker line to the next one, as line numbers.

* **The pass** (`segmentLines_openAt`, `segmentLines_leadingAt`) – what the pass makes of the lines
  that follow, below a marker and before the first one. The open block is a function of the lines
  gathered so far, and each step of the pass keeps it so.
* **The numbers** (`numbers_stretches`) – the stretches cover the content lines that are kept, each
  once and in order.
* **Blocks are stretches** (`segment_eq_stretches`) – the blocks of a script are its stretches, and no
  content line is a marker line.
-/

namespace TalkTimer

open Text

/-! ## Stretches of lines -/

/-- The content lines from `first` up to and without `stop`, under the marker on `line`. Leading
text has no marker, and its line is the first one. -/
structure Stretch where
  marker : Option Marker
  line : Nat
  first : Nat
  stop : Nat
  deriving DecidableEq, Repr

/-- The byte at which line `i` begins. After the last line stands the end of the text. -/
def byteOf (ls : List Text) (i : Nat) : Nat :=
  if i < ls.length then bytesOf (ls.take i) else size (joinLines ls)

namespace Stretch

/-- The numbers of the content lines. -/
def numbers (s : Stretch) : List Nat := List.range' s.first (s.stop - s.first)

/-- The content lines among the lines of the script. -/
def texts (ls : List Text) (s : Stretch) : List Text := (ls.take s.stop).drop s.first

/-- The block that a stretch of the script makes. -/
def toBlock (ls : List Text) (s : Stretch) : Block where
  content := joinLines (s.texts ls)
  marker := s.marker
  line := s.line
  span := ⟨byteOf ls s.line, byteOf ls s.stop⟩

end Stretch

/-- Whether a line is no marker line. -/
def isContent (l : Text) : Bool := (readMarker? l).isNone

/-- The marker lines, with their numbers counted from `start`. -/
def markerLines (start : Nat) (ls : List Text) : List (Nat × Marker) :=
  (ls.zipIdx start).filterMap fun x => (readMarker? x.1).map fun m => (x.2, m)

/-- The lines before the first marker line. -/
def leadingText (ls : List Text) : List Text := ls.takeWhile isContent

/-- The stretches below marker lines of a script of `count` lines. Each one reaches to the next
marker line, the last one to the end; but there is none for a marker on the very last line. -/
def underMarkers (count : Nat) : List (Nat × Marker) → List Stretch
  | [] => []
  | [(i, m)] => if i + 1 = count then [] else [⟨some m, i, i + 1, count⟩]
  | (i, m) :: (j, m') :: rest => ⟨some m, i, i + 1, j⟩ :: underMarkers count ((j, m') :: rest)

/-- The stretch of leading text, if there is something to show in it. -/
def leadingStretch (lead : List Text) : List Stretch :=
  if lead.all allBlank then [] else [⟨none, 0, 0, lead.length⟩]

/-- The stretches of a script. -/
def stretches (ls : List Text) : List Stretch :=
  leadingStretch (leadingText ls) ++ underMarkers ls.length (markerLines 0 ls)

/-! ## Marker lines, one line at a time -/

@[simp] theorem markerLines_nil (start : Nat) : markerLines start [] = [] := rfl

theorem markerLines_cons_some {l : Text} {m : Marker} (h : readMarker? l = some m) (start : Nat)
    (ls : List Text) : markerLines start (l :: ls) = (start, m) :: markerLines (start + 1) ls := by
  simp [markerLines, List.zipIdx_cons, h]

theorem markerLines_cons_none {l : Text} (h : readMarker? l = none) (start : Nat)
    (ls : List Text) : markerLines start (l :: ls) = markerLines (start + 1) ls := by
  simp [markerLines, List.zipIdx_cons, h]

/-- A line that stands among the lines `before` begins where it begins among them. -/
theorem byteOf_append_of_lt {before : List Text} {i : Nat} (hi : i < before.length)
    (rest : List Text) : byteOf (before ++ rest) i = bytesOf (before.take i) := by
  have hlt : i < (before ++ rest).length := by rw [List.length_append]; omega
  rw [byteOf, if_pos hlt, List.take_append_of_le_length (by omega)]

/-- A line begins after the bytes of the lines before it. -/
theorem byteOf_append_cons (before : List Text) (l : Text) (rest : List Text) :
    byteOf (before ++ l :: rest) before.length = bytesOf before := by
  have hlt : before.length < (before ++ l :: rest).length := by simp
  rw [byteOf, if_pos hlt, List.take_left]

/-- After the last line stands the end of the text. -/
theorem byteOf_length (ls : List Text) : byteOf ls ls.length = size (joinLines ls) := by
  simp [byteOf]

/-! ## The pass -/

/-- The block that is open after the lines `before`, when line `i` is the last marker line among
them and holds `m`. -/
def openAt (before : List Text) (i : Nat) (m : Marker) : OpenBlock :=
  ⟨some m, i, bytesOf (before.take i), (before.drop (i + 1)).reverse⟩

/-- The block that is open after the lines `before`, when none of them is a marker line. -/
def leadingAt (before : List Text) : OpenBlock := ⟨none, 0, 0, before.reverse⟩

theorem atMarker_placeAfter (before : List Text) (l : Text) (m : Marker) :
    OpenBlock.atMarker m (placeAfter before l) = openAt (before ++ [l]) before.length m := by
  simp [OpenBlock.atMarker, placeAfter, openAt]

/-- A content line is gathered below the last marker line. -/
theorem openAt_gather {before : List Text} {i : Nat} (hi : i < before.length) (m : Marker)
    (l : Text) :
    { openAt before i m with
      gathered := (placeAfter before l).text :: (openAt before i m).gathered } =
      openAt (before ++ [l]) i m := by
  have htake : (before ++ [l]).take i = before.take i := List.take_append_of_le_length (by omega)
  have hdrop : (before ++ [l]).drop (i + 1) = before.drop (i + 1) ++ [l] :=
    List.drop_append_of_le_length (by omega)
  simp [openAt, placeAfter, htake, hdrop]

/-- A content line is gathered as leading text. -/
theorem leadingAt_gather (before : List Text) (l : Text) :
    { leadingAt before with
      gathered := (placeAfter before l).text :: (leadingAt before).gathered } =
      leadingAt (before ++ [l]) := by
  simp [leadingAt, placeAfter]

/-- The block under a marker, closed after the lines `before`, is the block of its stretch. -/
theorem openAt_toBlock {before : List Text} {i : Nat} (hi : i < before.length) (m : Marker)
    (rest : List Text) :
    (openAt before i m).toBlock (byteOf (before ++ rest) before.length) =
      Stretch.toBlock (before ++ rest) ⟨some m, i, i + 1, before.length⟩ := by
  simp only [OpenBlock.toBlock, Stretch.toBlock, Stretch.texts, openAt, List.reverse_reverse,
    List.take_left, byteOf_append_of_lt hi]

/-- The block of leading text, closed after the lines `before`, is the block of its stretch. -/
theorem leadingAt_toBlock {before rest : List Text} (h : before ++ rest ≠ []) :
    (leadingAt before).toBlock (byteOf (before ++ rest) before.length) =
      Stretch.toBlock (before ++ rest) ⟨none, 0, 0, before.length⟩ := by
  have hpos : 0 < (before ++ rest).length := List.length_pos_iff.mpr h
  have hzero : byteOf (before ++ rest) 0 = 0 := by rw [byteOf, if_pos hpos]; rfl
  simp only [OpenBlock.toBlock, Stretch.toBlock, Stretch.texts, leadingAt, List.reverse_reverse,
    List.take_left, List.drop_zero, hzero]

/-- A block under a marker is closed whatever it holds. -/
theorem openAt_close (before : List Text) (i : Nat) (m : Marker) (stop : Nat) :
    (openAt before i m).close stop = [(openAt before i m).toBlock stop] := rfl

/-- Leading text is closed as a stretch, and only if there is something to show in it. -/
theorem leadingAt_close {before rest : List Text} (h : before ++ rest ≠ []) :
    (leadingAt before).close (byteOf (before ++ rest) before.length) =
      (leadingStretch before).map (Stretch.toBlock (before ++ rest)) := by
  have hvoid : (leadingAt before).isVoid = before.all allBlank := by
    simp [OpenBlock.isVoid, leadingAt]
  rw [OpenBlock.close, hvoid, leadingStretch]
  split
  · rfl
  · rw [leadingAt_toBlock h, List.map_singleton]

/-- At the end of the text the last marker has its stretch unless it stands on the last line. -/
theorem openAt_finish {before : List Text} {i : Nat} (hi : i < before.length) (m : Marker) :
    (openAt before i m).finish (size (joinLines before)) =
      (underMarkers before.length [(i, m)]).map (Stretch.toBlock before) := by
  have hbare : (openAt before i m).isBareMarker = true ↔ i + 1 = before.length := by
    simp [OpenBlock.isBareMarker, openAt]
    omega
  have hblock := openAt_toBlock hi m []
  rw [List.append_nil, byteOf_length] at hblock
  rw [OpenBlock.finish, underMarkers]
  by_cases h : i + 1 = before.length
  · rw [if_pos (hbare.mpr h), if_pos h, List.map_nil]
  · rw [if_neg fun hb => h (hbare.mp hb), if_neg h, openAt_close, hblock, List.map_singleton]

/-- **The pass below a marker.** The induction is on the lines that follow; the block that the next
line meets is open at the last marker line, and holds all lines after it. -/
theorem segmentLines_openAt {before : List Text} {i : Nat} (hi : i < before.length) (m : Marker)
    (rest : List Text) :
    segmentLines (size (joinLines (before ++ rest))) (openAt before i m) (placesAfter before rest) =
      (underMarkers (before ++ rest).length ((i, m) :: markerLines before.length rest)).map
        (Stretch.toBlock (before ++ rest)) := by
  induction rest generalizing before i m with
  | nil =>
      rw [List.append_nil, markerLines_nil]
      exact openAt_finish hi m
  | cons l rest ih =>
      have hlen : (before ++ [l]).length = before.length + 1 := by simp
      rw [placesAfter_cons]
      cases hl : readMarker? l with
      | none =>
          -- the block stays open, with one more line
          have hnone : readMarker? (placeAfter before l).text = none := hl
          have hrun := ih (show i < (before ++ [l]).length by omega) m
          rw [← List.append_cons, hlen] at hrun
          rw [segmentLines_cons_none hnone, openAt_gather hi, hrun, markerLines_cons_none hl]
      | some m' =>
          -- the block is closed where this line begins, and the line opens its own
          have hsome : readMarker? (placeAfter before l).text = some m' := hl
          have hrun := ih (show before.length < (before ++ [l]).length by omega) m'
          rw [← List.append_cons, hlen] at hrun
          have hclose := openAt_toBlock hi m (l :: rest)
          rw [byteOf_append_cons] at hclose
          rw [segmentLines_cons_some hsome, openAt_close, atMarker_placeAfter, hrun,
            markerLines_cons_some hl, underMarkers, List.map_cons, ← hclose]
          rfl

/-- **The pass before the first marker.** All lines so far are content; what they make shows at the
first marker line, or at the end. -/
theorem segmentLines_leadingAt (before rest : List Text) (h : before ++ rest ≠ []) :
    segmentLines (size (joinLines (before ++ rest))) (leadingAt before) (placesAfter before rest) =
      (leadingStretch (before ++ leadingText rest) ++
        underMarkers (before ++ rest).length (markerLines before.length rest)).map
        (Stretch.toBlock (before ++ rest)) := by
  induction rest generalizing before with
  | nil =>
      have hclose := leadingAt_close h
      rw [List.append_nil, byteOf_length] at hclose
      simp only [leadingText, List.takeWhile_nil, List.append_nil, markerLines_nil, underMarkers]
      exact hclose
  | cons l rest ih =>
      have hlen : (before ++ [l]).length = before.length + 1 := by simp
      rw [placesAfter_cons]
      cases hl : readMarker? l with
      | none =>
          have hnone : readMarker? (placeAfter before l).text = none := hl
          have hlead : leadingText (l :: rest) = l :: leadingText rest := by
            simp [leadingText, isContent, hl]
          have hrun := ih (before ++ [l]) (by simp)
          rw [← List.append_cons, hlen, ← List.append_cons] at hrun
          rw [segmentLines_cons_none hnone, leadingAt_gather, hrun, hlead, markerLines_cons_none hl]
      | some m =>
          -- the leading text ends here; from this line on the pass is below a marker
          have hsome : readMarker? (placeAfter before l).text = some m := hl
          have hlead : leadingText (l :: rest) = [] := by simp [leadingText, isContent, hl]
          have hi : before.length < (before ++ [l]).length := by omega
          have hrun := segmentLines_openAt hi m rest
          rw [← List.append_cons, hlen] at hrun
          have hclose := leadingAt_close h
          rw [byteOf_append_cons] at hclose
          have hstart : (placeAfter before l).start = bytesOf before := rfl
          rw [segmentLines_cons_some hsome, hstart, hclose, atMarker_placeAfter, hrun, hlead,
            List.append_nil, markerLines_cons_some hl, List.map_append]

/-- The blocks of a script are the blocks of its stretches. -/
theorem segment_eq_map_toBlock (source : Text) :
    segment source = (stretches (lines source)).map (Stretch.toBlock (lines source)) := by
  have h := segmentLines_leadingAt [] (lines source) (lines_ne_nil source)
  rw [List.nil_append, joinLines_lines] at h
  exact h

/-! ## The numbers of the content lines -/

/-- The content lines with their numbers counted from `start`. -/
def contentNumbers (start : Nat) (ls : List Text) : List Nat :=
  ((ls.zipIdx start).filter fun x => isContent x.1).map Prod.snd

/-- The numbers below a marker: first the content lines that stand before line `p` already, then
those that follow. -/
theorem numbers_underMarkers {i p : Nat} (hi : i < p) (m : Marker) (rest : List Text) :
    (underMarkers (p + rest.length) ((i, m) :: markerLines p rest)).flatMap Stretch.numbers =
      List.range' (i + 1) (p - (i + 1)) ++ contentNumbers p rest := by
  induction rest generalizing i p m with
  | nil =>
      rw [markerLines_nil, underMarkers]
      by_cases h : i + 1 = p
      · simp [h, contentNumbers]
      · simp [h, contentNumbers, Stretch.numbers]
  | cons l rest ih =>
      have hlen : p + (l :: rest).length = p + 1 + rest.length := by
        rw [List.length_cons]; omega
      rw [hlen]
      cases hl : readMarker? l with
      | none =>
          -- the line is taken into the stretch that is open
          have hstep : List.range' (i + 1) (p + 1 - (i + 1)) =
              List.range' (i + 1) (p - (i + 1)) ++ [p] := by
            have hn : p + 1 - (i + 1) = p - (i + 1) + 1 := by omega
            have hp : i + 1 + (p - (i + 1)) = p := by omega
            rw [hn, List.range'_concat, Nat.one_mul, hp]
          have hcontent : contentNumbers p (l :: rest) = p :: contentNumbers (p + 1) rest := by
            simp [contentNumbers, List.zipIdx_cons, isContent, hl]
          rw [markerLines_cons_none hl, ih (by omega) m, hstep, hcontent, List.append_assoc]
          rfl
      | some m' =>
          -- the stretch stops short of the line, which is content of none
          have hcontent : contentNumbers p (l :: rest) = contentNumbers (p + 1) rest := by
            simp [contentNumbers, List.zipIdx_cons, isContent, hl]
          rw [markerLines_cons_some hl, underMarkers, List.flatMap_cons, ih (Nat.lt_succ_self p) m',
            hcontent, Nat.sub_self]
          rfl

/-- Whether the line `x` of a script, with its number, is kept: it is no marker line, and it comes
after the first one or belongs to leading text with something to show. -/
def isKept (ls : List Text) (x : Text × Nat) : Bool :=
  let first := (leadingText ls).length
  isContent x.1 &&
    (decide (first < x.2) || (decide (x.2 < first) && !(leadingText ls).all allBlank))

/-- Leading text reaches to the end of the script or to a marker line. -/
theorem leadingText_split (ls : List Text) :
    ls = leadingText ls ∨
      ∃ l m rest, readMarker? l = some m ∧ ls = leadingText ls ++ l :: rest := by
  have hsplit : leadingText ls ++ ls.dropWhile isContent = ls := List.takeWhile_append_dropWhile
  cases hrest : ls.dropWhile isContent with
  | nil =>
      left
      rw [hrest, List.append_nil] at hsplit
      exact hsplit.symm
  | cons l rest =>
      right
      have hl : isContent l = false := by
        have hne : ls.dropWhile isContent ≠ [] := by simp [hrest]
        have hhead := List.head_dropWhile_not isContent hne
        simpa [hrest] using hhead
      obtain ⟨m, hm⟩ : ∃ m, readMarker? l = some m := by
        simpa [isContent, Option.isSome_iff_exists] using hl
      rw [hrest] at hsplit
      exact ⟨l, m, rest, hm, hsplit.symm⟩

theorem isContent_of_mem_leadingText {ls : List Text} {l : Text} (h : l ∈ leadingText ls) :
    isContent l = true := by
  have hall : (leadingText ls).all isContent = true := List.all_takeWhile
  exact List.all_eq_true.mp hall l h

/-- Lines that are no marker lines only move the numbers of those after them. -/
theorem markerLines_append_of_all {xs : List Text} (h : ∀ l ∈ xs, isContent l = true) (start : Nat)
    (ys : List Text) : markerLines start (xs ++ ys) = markerLines (start + xs.length) ys := by
  induction xs generalizing start with
  | nil => rfl
  | cons x xs ih =>
      have hx : readMarker? x = none := by simpa [isContent] using h x List.mem_cons_self
      rw [List.cons_append, markerLines_cons_none hx,
        ih (fun l hl => h l (List.mem_cons_of_mem x hl)), List.length_cons]
      congr 1
      omega

/-- A script has no marker lines, or the first one ends its leading text. -/
theorem markerLines_split (ls : List Text) :
    (ls = leadingText ls ∧ markerLines 0 ls = []) ∨
      ∃ l m rest, readMarker? l = some m ∧ ls = leadingText ls ++ l :: rest ∧
        markerLines 0 ls =
          ((leadingText ls).length, m) :: markerLines ((leadingText ls).length + 1) rest := by
  have hlead : ∀ l ∈ leadingText ls, isContent l = true := fun l hl =>
    isContent_of_mem_leadingText hl
  rcases leadingText_split ls with hls | ⟨l, m, rest, hm, hls⟩
  · refine Or.inl ⟨hls, ?_⟩
    rw [hls, ← List.append_nil (leadingText ls), markerLines_append_of_all hlead, markerLines_nil]
  · refine Or.inr ⟨l, m, rest, hm, hls, ?_⟩
    rw [congrArg (markerLines 0) hls, markerLines_append_of_all hlead, markerLines_cons_some hm,
      Nat.zero_add]

/-- The lines of leading text that are kept: all or none. -/
theorem kept_leadingText (ls : List Text) :
    (((leadingText ls).zipIdx).filter (isKept ls)).map Prod.snd =
      (leadingStretch (leadingText ls)).flatMap Stretch.numbers := by
  have hkept : ∀ x ∈ (leadingText ls).zipIdx, isKept ls x = !(leadingText ls).all allBlank := by
    intro x hx
    have hcontent := isContent_of_mem_leadingText (List.fst_mem_of_mem_zipIdx hx)
    have hlt := List.snd_lt_of_mem_zipIdx hx
    rw [Nat.add_zero] at hlt
    have hnot : ¬ (leadingText ls).length < x.2 := by omega
    simp only [isKept, hcontent, hlt, hnot, decide_true, decide_false, Bool.true_and, Bool.false_or]
  rw [List.filter_congr hkept, leadingStretch]
  cases (leadingText ls).all allBlank with
  | true => simp
  | false =>
      have hall : (leadingText ls).zipIdx.filter (fun _ => !false) = (leadingText ls).zipIdx :=
        List.filter_eq_self.mpr fun _ _ => rfl
      rw [hall, List.zipIdx_map_snd]
      simp [Stretch.numbers]

/-- The lines after the first marker line that are kept: all that are no marker lines. -/
theorem kept_afterMarker {ls : List Text} (rest : List Text) :
    (((rest.zipIdx ((leadingText ls).length + 1)).filter (isKept ls)).map Prod.snd) =
      contentNumbers ((leadingText ls).length + 1) rest := by
  have hkept : ∀ x ∈ rest.zipIdx ((leadingText ls).length + 1), isKept ls x = isContent x.1 := by
    intro x hx
    have hle := List.le_snd_of_mem_zipIdx hx
    have hlt : (leadingText ls).length < x.2 := by omega
    simp [isKept, hlt]
  rw [List.filter_congr hkept, contentNumbers]

/-- **No line is lost, doubled or moved.** The content lines of all stretches, one stretch after the
other, are the lines that are kept, in their order. -/
theorem numbers_stretches (ls : List Text) :
    (stretches ls).flatMap Stretch.numbers = (ls.zipIdx.filter (isKept ls)).map Prod.snd := by
  rcases markerLines_split ls with ⟨hls, hmarks⟩ | ⟨l, m, rest, hm, hls, hmarks⟩
  · have hzip : ls.zipIdx = (leadingText ls).zipIdx := by rw [← hls]
    rw [stretches, hmarks, underMarkers, List.append_nil, hzip, kept_leadingText]
  · have hcount : ls.length = (leadingText ls).length + 1 + rest.length := by
      rw [congrArg List.length hls, List.length_append, List.length_cons]
      omega
    have hzip : ls.zipIdx = (leadingText ls).zipIdx ++
        (l, (leadingText ls).length) :: rest.zipIdx ((leadingText ls).length + 1) := by
      rw [congrArg List.zipIdx hls, List.zipIdx_append, List.zipIdx_cons, Nat.zero_add]
    have hl : isKept ls (l, (leadingText ls).length) = false := by simp [isKept, isContent, hm]
    rw [stretches, List.flatMap_append, hmarks, hcount,
      numbers_underMarkers (Nat.lt_succ_self _) m rest, hzip, List.filter_append,
      List.filter_cons_of_neg (by simp [hl]), List.map_append, kept_leadingText, kept_afterMarker]
    simp

/-- A content line of a stretch is no marker line. -/
theorem isContent_of_mem_texts {ls : List Text} {s : Stretch} (hs : s ∈ stretches ls) {l : Text}
    (hl : l ∈ s.texts ls) : isContent l = true := by
  obtain ⟨k, hk, hget⟩ := List.mem_iff_getElem.mp hl
  have hlt : s.first + k < s.stop ∧ s.first + k < ls.length := by
    simp only [Stretch.texts, List.length_drop, List.length_take] at hk
    omega
  have hline : ls[s.first + k]? = some l := by
    rw [← hget]
    simp [Stretch.texts, hlt.2]
  -- the line has its number in the stretch, so it is one of those kept
  have hmem : s.first + k ∈ (stretches ls).flatMap Stretch.numbers := by
    refine List.mem_flatMap.mpr ⟨s, hs, ?_⟩
    rw [Stretch.numbers, List.mem_range'_1]
    omega
  rw [numbers_stretches] at hmem
  obtain ⟨⟨l', i⟩, hx, hi⟩ := List.mem_map.mp hmem
  obtain ⟨hzip, hkept⟩ := List.mem_filter.mp hx
  have hl' : ls[s.first + k]? = some l' := hi ▸ List.mk_mem_zipIdx_iff_getElem?.mp hzip
  rw [hline, Option.some_inj] at hl'
  subst hl'
  simp only [isKept, Bool.and_eq_true] at hkept
  exact hkept.1

/-! ## The blocks of a script -/

/-- **The blocks of a script are its stretches between marker lines.** The stretches cover the lines
that are kept, each once and in order, and no line of a block's content is a marker line. -/
theorem segment_eq_stretches (source : Text) :
    segment source = (stretches (lines source)).map (Stretch.toBlock (lines source)) ∧
    (stretches (lines source)).flatMap Stretch.numbers =
      ((lines source).zipIdx.filter (isKept (lines source))).map Prod.snd ∧
    ∀ b ∈ segment source, ∀ l ∈ lines b.content, readMarker? l = none := by
  refine ⟨segment_eq_map_toBlock source, numbers_stretches (lines source), ?_⟩
  intro b hb l hl
  rw [segment_eq_map_toBlock] at hb
  obtain ⟨s, hs, rfl⟩ := List.mem_map.mp hb
  change l ∈ lines (joinLines (s.texts (lines source))) at hl
  by_cases hne : s.texts (lines source) = []
  · -- no content still reads as one line, an empty one
    rw [hne] at hl
    have hnil : l = [] := by simpa [joinLines, List.intercalate, lines] using hl
    rw [hnil]
    rfl
  · have hfeed : ∀ x ∈ s.texts (lines source), '\n' ∉ x := fun x hx =>
      not_mem_of_mem_lines (List.mem_of_mem_take (List.mem_of_mem_drop hx))
    rw [lines_joinLines hne hfeed] at hl
    simpa [isContent] using isContent_of_mem_texts hs hl

-- A marker on the last line makes no block; one line feed more, and it makes an empty one.
example : (segment "?01:00\nA\n?!!".toList).map Block.content = [['A']] ∧
    (segment "?01:00\nA\n?!!\n".toList).map Block.content = [['A'], []] := by
  decide

end TalkTimer

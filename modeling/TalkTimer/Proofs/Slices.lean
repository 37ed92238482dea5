import Mathlib.Data.List.Chain
import Mathlib.Data.List.Forall2
import Mathlib.Data.List.TakeWhile
import TalkTimer.Proofs.Stretches

/-!
# Blocks as slices of the source

Every block has a span of bytes, counted up line by line, and a content, put together from lines. Both
are to tell the same story: the spans are consecutive slices of the source, and the content of a block
can be read off its slice.

* **Slices** (`Span.slice?`) – the text in a span, if the span lies between characters.
* **Lines** (`textBetween`) – the slice from the beginning of one line to the beginning of another.
* **Stretches** (`Follow`) – each stretch begins where the one before it stops; nothing is left but
  blank text in front and a marker on the last line.
* **Blocks** (`spans_tile_source`) – the same of the spans, with the contents.
-/

namespace TalkTimer

open Text

namespace Text

/-! ## Slices -/

/-- Cut a text at a byte, if a character begins or the text ends there. -/
def splitAtByte? : Nat → Text → Option (Text × Text)
  | 0, t => some ([], t)
  | _ + 1, [] => none
  | n + 1, c :: t =>
    if c.utf8Size ≤ n + 1 then
      (splitAtByte? (n + 1 - c.utf8Size) t).map fun x => (c :: x.1, x.2)
    else none

theorem splitAtByte?_size (s t : Text) : splitAtByte? (size s) (s ++ t) = some (s, t) := by
  induction s with
  | nil => simp [size, splitAtByte?]
  | cons c s ih =>
      have hpos := c.utf8Size_pos
      obtain ⟨n, hn⟩ : ∃ n, size (c :: s) = n + 1 :=
        ⟨c.utf8Size + size s - 1, by rw [size]; omega⟩
      have hle : c.utf8Size ≤ n + 1 := by rw [← hn, size]; omega
      have hrest : n + 1 - c.utf8Size = size s := by rw [← hn, size]; omega
      rw [hn, List.cons_append, splitAtByte?, if_pos hle, hrest, ih]
      rfl

/-- A text is cut at a byte exactly if its first part has that many bytes. -/
theorem splitAtByte?_eq_some_iff {n : Nat} {t : Text} {x : Text × Text} :
    splitAtByte? n t = some x ↔ t = x.1 ++ x.2 ∧ size x.1 = n := by
  constructor
  · intro h
    induction t generalizing n x with
    | nil =>
        cases n with
        | zero =>
            cases h
            exact ⟨rfl, rfl⟩
        | succ n => cases h
    | cons c t ih =>
        cases n with
        | zero =>
            cases h
            exact ⟨rfl, rfl⟩
        | succ n =>
            rw [splitAtByte?] at h
            split at h
            · next hle =>
              obtain ⟨y, hy, rfl⟩ := Option.map_eq_some_iff.mp h
              obtain ⟨ht, hsize⟩ := ih hy
              refine ⟨by rw [ht]; rfl, ?_⟩
              rw [size, hsize]
              omega
            · cases h
  · rintro ⟨rfl, rfl⟩
    exact splitAtByte?_size x.1 x.2

end Text

/-- The text in a span of a source, if the span lies between characters of it. -/
def Span.slice? (source : Text) (s : Span) : Option Text :=
  (splitAtByte? s.stop source).bind fun x => (splitAtByte? s.start x.1).map Prod.snd

/-- A span that has a slice lies within the source, and characters begin at both of its ends. -/
theorem Span.slice?_eq_some_iff {source t : Text} {s : Span} :
    s.slice? source = some t ↔
      ∃ before after, source = before ++ t ++ after ∧ size before = s.start ∧
        size before + size t = s.stop := by
  simp only [slice?, Option.bind_eq_some_iff, Option.map_eq_some_iff, splitAtByte?_eq_some_iff]
  constructor
  · rintro ⟨x, ⟨hsource, hstop⟩, y, ⟨hx, hstart⟩, rfl⟩
    refine ⟨y.1, x.2, by rw [← hx, hsource], hstart, ?_⟩
    rw [← size_append, ← hx, hstop]
  · rintro ⟨before, after, hsource, hstart, hstop⟩
    exact ⟨(before ++ t, after), ⟨hsource, by rw [size_append, hstop]⟩, (before, t),
      ⟨rfl, hstart⟩, rfl⟩

/-! ## Slices between lines -/

variable {ls : List Text} {i j : Nat}

/-- The text from the beginning of line `i` to the beginning of line `j`, or to the end. -/
def textBetween (ls : List Text) (i j : Nat) : Text :=
  if j < ls.length then feedLines ((ls.take j).drop i) else joinLines (ls.drop i)

/-- From the beginning of line `i` on there is the text up to line `j`, and the text from there. -/
theorem joinLines_drop (hij : i ≤ j) (hj : j ≤ ls.length) :
    joinLines (ls.drop i) = textBetween ls i j ++ joinLines (ls.drop j) := by
  rw [textBetween]
  split
  · next hlt =>
    have hsplit : ls.drop i = (ls.take j).drop i ++ ls.drop j := by
      conv => lhs; rw [← List.take_append_drop j ls]
      exact List.drop_append_of_le_length (by rw [List.length_take]; omega)
    have hne : ls.drop j ≠ [] := by simpa using hlt
    rw [hsplit, joinLines_append _ hne]
  · next hge =>
    have hnil : ls.drop j = [] := List.drop_eq_nil_of_le (by omega)
    rw [hnil]
    exact (List.append_nil _).symm

theorem size_textBetween_zero (ls : List Text) (i : Nat) :
    size (textBetween ls 0 i) = byteOf ls i := by
  rw [textBetween, byteOf]
  split
  · rw [List.drop_zero, size_feedLines]
  · rw [List.drop_zero]

theorem slice?_textBetween (hij : i ≤ j) (hj : j ≤ ls.length) :
    Span.slice? (joinLines ls) ⟨byteOf ls i, byteOf ls j⟩ = some (textBetween ls i j) := by
  have hsource (k : Nat) (hk : k ≤ ls.length) :
      joinLines ls = textBetween ls 0 k ++ joinLines (ls.drop k) :=
    joinLines_drop (Nat.zero_le k) hk
  have hall := hsource i (Nat.le_trans hij hj)
  rw [joinLines_drop hij hj, ← List.append_assoc] at hall
  refine Span.slice?_eq_some_iff.mpr ⟨_, _, hall, size_textBetween_zero ls i, ?_⟩
  -- the bytes up to line `j` are counted in two ways
  have hbefore : textBetween ls 0 i ++ textBetween ls i j = textBetween ls 0 j :=
    List.append_cancel_right (hall.symm.trans (hsource j hj))
  rw [← size_append, hbefore, size_textBetween_zero]

theorem textBetween_eq_cons {l : Text} (hl : ls[i]? = some l) (hij : i < j) (hj : j ≤ ls.length)
    (hend : j = ls.length → i + 1 < j) :
    textBetween ls i j = l ++ '\n' :: textBetween ls (i + 1) j := by
  obtain ⟨hi, rfl⟩ := List.getElem?_eq_some_iff.mp hl
  rw [textBetween, textBetween]
  split
  · have hi' : i < (ls.take j).length := by rw [List.length_take]; omega
    rw [List.drop_eq_getElem_cons hi', List.getElem_take, feedLines_cons]
  · next hge =>
    have hne : ls.drop (i + 1) ≠ [] := by
      have hlt := hend (by omega)
      simp only [ne_eq, List.drop_eq_nil_iff]
      omega
    rw [List.drop_eq_getElem_cons hi, joinLines_cons _ hne]

/-! ## Stretches follow each other -/

/-- A marker line has the number `i`, and holds `m`. -/
def IsMarkerAt (ls : List Text) (i : Nat) (m : Marker) : Prop :=
  ∃ l, ls[i]? = some l ∧ readMarker? l = some m

/-- A stretch **fits** the lines: it reaches from its marker line, or from its first line, to another
marker line or to the end; at the end it has a line at least. -/
structure Stretch.Fits (ls : List Text) (s : Stretch) : Prop where
  line_lt : s.line < s.stop
  stop_le : s.stop ≤ ls.length
  ends : s.stop < ls.length → ∃ m, IsMarkerAt ls s.stop m
  untagged : s.marker = none → s.first = s.line
  tagged : ∀ m, s.marker = some m → s.first = s.line + 1 ∧ IsMarkerAt ls s.line m ∧
    (s.stop = ls.length → s.first < s.stop)

/-- From line `i` on, each stretch begins where the one before it stops. Behind the last one there is
nothing, or a marker on the last line. -/
inductive Follow (ls : List Text) : Nat → List Stretch → Prop
  | done : Follow ls ls.length []
  | bare {i : Nat} {m : Marker} : i + 1 = ls.length → IsMarkerAt ls i m → Follow ls i []
  | cons {s : Stretch} {ss : List Stretch} : s.Fits ls → Follow ls s.stop ss →
      Follow ls s.line (s :: ss)

theorem IsMarkerAt.lt {m : Marker} (h : IsMarkerAt ls i m) : i < ls.length := by
  obtain ⟨l, hl, -⟩ := h
  exact (List.getElem?_eq_some_iff.mp hl).1

theorem IsMarkerAt.append {m : Marker} (h : IsMarkerAt ls i m) (rest : List Text) :
    IsMarkerAt (ls ++ rest) i m := by
  obtain ⟨l, hl, hread⟩ := h
  exact ⟨l, by rw [List.getElem?_append_left (List.getElem?_eq_some_iff.mp hl).1, hl], hread⟩

theorem isMarkerAt_concat (before : List Text) {l : Text} {m : Marker} (h : readMarker? l = some m) :
    IsMarkerAt (before ++ [l]) before.length m :=
  ⟨l, List.getElem?_concat_length, h⟩

/-- **The stretches below markers follow each other.** The induction is on the lines after `before`,
of which line `i` is the last marker line. -/
theorem follow_underMarkers {before : List Text} {m : Marker} (hm : IsMarkerAt before i m)
    (rest : List Text) :
    Follow (before ++ rest) i
      (underMarkers (before ++ rest).length ((i, m) :: markerLines before.length rest)) := by
  induction rest generalizing before i m with
  | nil =>
      rw [List.append_nil, markerLines_nil, underMarkers]
      split
      · next h => exact .bare h hm
      · next h =>
        have hi := hm.lt
        refine .cons (s := ⟨some m, i, i + 1, before.length⟩)
          ⟨hi, Nat.le_refl _, ?_, ?_, ?_⟩ .done
        · exact fun hlt => absurd hlt (Nat.lt_irrefl _)
        · exact fun hnone => absurd hnone (Option.some_ne_none _)
        · rintro _ ⟨⟩
          refine ⟨rfl, hm, fun _ => ?_⟩
          show i + 1 < before.length
          omega
  | cons l rest ih =>
      have hlen : (before ++ [l]).length = before.length + 1 := by simp
      cases hl : readMarker? l with
      | none =>
          have hrest := ih (hm.append [l])
          rw [← List.append_cons, hlen] at hrest
          rw [markerLines_cons_none hl]
          exact hrest
      | some m' =>
          -- the stretch stops where this marker line begins its own
          have hnext := isMarkerAt_concat before hl
          have hrest := ih hnext
          have hm' := hnext.append rest
          have hall := hm.append (l :: rest)
          rw [← List.append_cons] at hrest hm'
          rw [hlen] at hrest
          rw [markerLines_cons_some hl, underMarkers]
          refine .cons (s := ⟨some m, i, i + 1, before.length⟩)
            ⟨hm.lt, Nat.le_of_lt hm'.lt, fun _ => ⟨m', hm'⟩, ?_, ?_⟩ hrest
          · exact fun hnone => absurd hnone (Option.some_ne_none _)
          · rintro _ ⟨⟩
            exact ⟨rfl, hall, fun heq => absurd heq (Nat.ne_of_lt hm'.lt)⟩

theorem take_length_leadingText (ls : List Text) :
    ls.take (leadingText ls).length = leadingText ls :=
  (List.prefix_iff_eq_take.mp (List.takeWhile_prefix isContent)).symm

/-- Leading text comes before the stretches that follow it: as a stretch of its own, or else as lines
that are blank. -/
theorem exists_follow_leadingStretch {ss : List Stretch} (hle : (leadingText ls).length ≤ ls.length)
    (hends : (leadingText ls).length < ls.length → ∃ m, IsMarkerAt ls (leadingText ls).length m)
    (hfollow : Follow ls (leadingText ls).length ss) :
    ∃ i, i ≤ ls.length ∧ (ls.take i).all allBlank = true ∧
      Follow ls i (leadingStretch (leadingText ls) ++ ss) := by
  rw [leadingStretch]
  split
  · next hblank => exact ⟨_, hle, by rwa [take_length_leadingText], hfollow⟩
  · next hshown =>
    have hpos : 0 < (leadingText ls).length :=
      List.length_pos_iff.mpr fun hnil => hshown (by simp [hnil])
    refine ⟨0, Nat.zero_le _, rfl, .cons (s := ⟨none, 0, 0, (leadingText ls).length⟩)
      ⟨hpos, hle, hends, fun _ => rfl, ?_⟩ hfollow⟩
    exact fun _ hsome => absurd hsome.symm (Option.some_ne_none _)

/-- **The stretches of a script follow each other**, behind lines that are blank. -/
theorem exists_follow_stretches (ls : List Text) :
    ∃ i, i ≤ ls.length ∧ (ls.take i).all allBlank = true ∧ Follow ls i (stretches ls) := by
  rcases markerLines_split ls with ⟨hls, hmarks⟩ | ⟨l, m, rest, hm, hls, hmarks⟩
  · have hlen : (leadingText ls).length = ls.length := by rw [← hls]
    rw [stretches, hmarks, underMarkers]
    refine exists_follow_leadingStretch (Nat.le_of_eq hlen) ?_ (hlen ▸ .done)
    exact fun hlt => absurd hlen (Nat.ne_of_lt hlt)
  · -- the first marker line ends the leading text
    have hsplit : ls = (leadingText ls ++ [l]) ++ rest := by rw [← List.append_cons, ← hls]
    have hmarker : IsMarkerAt ls (leadingText ls).length m := by
      have happend := (isMarkerAt_concat (leadingText ls) hm).append rest
      rwa [← hsplit] at happend
    have hfollow := follow_underMarkers (isMarkerAt_concat (leadingText ls) hm) rest
    rw [← hsplit, List.length_append, List.length_singleton] at hfollow
    rw [stretches, hmarks]
    exact exists_follow_leadingStretch (Nat.le_of_lt hmarker.lt) (fun _ => ⟨m, hmarker⟩) hfollow

/-! ## Contents read off slices -/

namespace Text

/-- The first line of a text. -/
def headLine (t : Text) : Text := t.takeWhile (· ≠ '\n')

/-- What follows the first line and its line feed. -/
def afterHeadLine (t : Text) : Text := (t.dropWhile (· ≠ '\n')).drop 1

/-- A text without the line feed that it may end with. -/
def dropFinalFeed (t : Text) : Text := if t.getLast? = some '\n' then t.dropLast else t

theorem forall_ne_newline {l : Text} (h : '\n' ∉ l) : ∀ c ∈ l, decide (c ≠ '\n') = true := by
  intro c hc
  simpa using fun heq : c = '\n' => h (heq ▸ hc)

theorem headLine_append {l : Text} (h : '\n' ∉ l) (t : Text) : headLine (l ++ '\n' :: t) = l := by
  rw [headLine, List.takeWhile_append_of_pos (forall_ne_newline h),
    List.takeWhile_cons_of_neg (by simp), List.append_nil]

theorem afterHeadLine_append {l : Text} (h : '\n' ∉ l) (t : Text) :
    afterHeadLine (l ++ '\n' :: t) = t := by
  rw [afterHeadLine, List.dropWhile_append_of_pos (forall_ne_newline h),
    List.dropWhile_cons_of_neg (by simp), List.drop_one, List.tail_cons]

theorem headLine_joinLines {l : Text} (h : '\n' ∉ l) (ls : List Text) :
    headLine (joinLines (l :: ls)) = l := by
  cases ls with
  | nil =>
      rw [joinLines_singleton, headLine]
      exact List.takeWhile_eq_self_iff.mpr (forall_ne_newline h)
  | cons l' ls => rw [joinLines_cons l (List.cons_ne_nil l' ls), headLine_append h]

/-- Ended lines without the last line feed are joined lines. -/
theorem dropFinalFeed_feedLines (ls : List Text) : dropFinalFeed (feedLines ls) = joinLines ls := by
  rcases List.eq_nil_or_concat ls with rfl | ⟨xs, x, rfl⟩
  · rfl
  · have hfeed : feedLines (xs ++ [x]) = joinLines (xs ++ [x]) ++ ['\n'] := by
      rw [joinLines_append xs (List.cons_ne_nil x []), joinLines_singleton, feedLines_append,
        feedLines_cons, feedLines_nil, List.append_assoc]
    rw [List.concat_eq_append, hfeed, dropFinalFeed, List.getLast?_concat, if_pos rfl,
      List.dropLast_concat]

end Text

namespace Block

/-- Whether a marker line stands in the source where the block ends. -/
def isBeforeMarker (source : Text) (b : Block) : Bool :=
  match splitAtByte? b.span.stop source with
  | some (_, rest) => (readMarker? (headLine rest)).isSome
  | none => false

/-- The content that the slice `t` of a block tells: without the line of the marker, and, before
another marker line, without the line feed at the end. -/
def contentOf (source t : Text) (b : Block) : Text :=
  let body := if b.marker.isSome then afterHeadLine t else t
  if b.isBeforeMarker source then dropFinalFeed body else body

/-- What the slice `t` of a block tells of the block. -/
structure IsToldBy (source : Text) (b : Block) (t : Text) : Prop where
  slice : b.span.slice? source = some t
  start : b.span.start = byteOf (lines source) b.line
  content : b.content = b.contentOf source t
  marker : ∀ m, b.marker = some m → t = headLine t ++ '\n' :: afterHeadLine t ∧
    readMarker? (headLine t) = some m ∧ (lines source)[b.line]? = some (headLine t)

end Block

variable {source : Text} {s : Stretch}

/-- The lines of a stretch, joined: the text below its marker line, up to the line feed that ends it. -/
theorem Stretch.joinLines_texts (hs : s.stop ≤ ls.length) :
    joinLines (s.texts ls) =
      if s.stop < ls.length then dropFinalFeed (textBetween ls s.first s.stop)
      else textBetween ls s.first s.stop := by
  rw [textBetween]
  split
  · rw [dropFinalFeed_feedLines]
    rfl
  · next hge => rw [Stretch.texts, List.take_of_length_le (by omega)]

/-- The end of a stretch before the last one is the beginning of a marker line. -/
theorem Stretch.Fits.isBeforeMarker (h : s.Fits (lines source)) :
    (s.toBlock (lines source)).isBeforeMarker source = decide (s.stop < (lines source).length) := by
  have hsplit : splitAtByte? (byteOf (lines source) s.stop) source =
      some (textBetween (lines source) 0 s.stop, joinLines ((lines source).drop s.stop)) := by
    rw [splitAtByte?_eq_some_iff, ← joinLines_drop (Nat.zero_le _) h.stop_le, List.drop_zero,
      joinLines_lines, size_textBetween_zero]
    exact ⟨rfl, rfl⟩
  have hstop : (s.toBlock (lines source)).span.stop = byteOf (lines source) s.stop := rfl
  rw [Block.isBeforeMarker, hstop, hsplit]
  show (readMarker? (headLine (joinLines ((lines source).drop s.stop)))).isSome = _
  by_cases hlt : s.stop < (lines source).length
  · obtain ⟨m, l, hl, hread⟩ := h.ends hlt
    obtain ⟨_, rfl⟩ := List.getElem?_eq_some_iff.mp hl
    rw [List.drop_eq_getElem_cons hlt,
      headLine_joinLines (not_mem_of_mem_lines (List.getElem_mem hlt)), hread]
    simp [hlt]
  · rw [List.drop_eq_nil_of_le (by omega), decide_eq_false hlt]
    rfl

/-- **The slice of a stretch tells its block.** -/
theorem Stretch.Fits.isToldBy (h : s.Fits (lines source)) :
    (s.toBlock (lines source)).IsToldBy source (textBetween (lines source) s.line s.stop) := by
  have hcontent : (s.toBlock (lines source)).content = joinLines (s.texts (lines source)) := rfl
  have hmarker : (s.toBlock (lines source)).marker = s.marker := rfl
  have hline : (s.toBlock (lines source)).line = s.line := rfl
  have hslice := slice?_textBetween (Nat.le_of_lt h.line_lt) h.stop_le
  rw [joinLines_lines] at hslice
  cases hm : s.marker with
  | none =>
      refine ⟨hslice, rfl, ?_, fun m hsome => ?_⟩
      · rw [hcontent, Stretch.joinLines_texts h.stop_le, Block.contentOf, hmarker, hm,
          h.isBeforeMarker, h.untagged hm]
        simp
      · rw [hmarker, hm] at hsome
        cases hsome
  | some m =>
      obtain ⟨hfirst, ⟨l, hl, hread⟩, hend⟩ := h.tagged m hm
      have hfeed : '\n' ∉ l := not_mem_of_mem_lines (List.mem_of_getElem? hl)
      have hcons := textBetween_eq_cons hl h.line_lt h.stop_le (hfirst ▸ hend)
      rw [← hfirst] at hcons
      have hhead : headLine (textBetween (lines source) s.line s.stop) = l := by
        rw [hcons, headLine_append hfeed]
      have hafter : afterHeadLine (textBetween (lines source) s.line s.stop) =
          textBetween (lines source) s.first s.stop := by
        rw [hcons, afterHeadLine_append hfeed]
      refine ⟨hslice, rfl, ?_, fun m' hsome => ?_⟩
      · rw [hcontent, Stretch.joinLines_texts h.stop_le, Block.contentOf, hmarker, hm,
          h.isBeforeMarker, Option.isSome_some, if_pos rfl, hafter]
        simp
      · rw [hmarker, hm] at hsome
        rw [hhead, hafter, hline]
        exact ⟨hcons, by rw [hread, hsome], hl⟩

/-! ## The whole source -/

variable {ss : List Stretch}

theorem Follow.fits (h : Follow ls i ss) : ∀ s ∈ ss, s.Fits ls := by
  induction h with
  | done => exact fun s hs => absurd hs List.not_mem_nil
  | bare _ _ => exact fun s hs => absurd hs List.not_mem_nil
  | cons hfits _ ih =>
      intro s hs
      rcases List.mem_cons.mp hs with rfl | hs
      · exact hfits
      · exact ih s hs

theorem Follow.line_head {s : Stretch} (h : Follow ls i ss) (hs : s ∈ ss.head?) : s.line = i := by
  cases h with
  | done => cases hs
  | bare _ _ => cases hs
  | cons _ _ =>
      cases hs
      rfl

theorem Follow.isChain (h : Follow ls i ss) : ss.IsChain fun s s' => s.stop = s'.line := by
  induction h with
  | done => exact .nil
  | bare _ _ => exact .nil
  | cons _ hrest ih => exact List.isChain_cons.mpr ⟨fun s' hs => (hrest.line_head hs).symm, ih⟩

/-- From line `i` on the source is made of the slices, but for a marker on the last line. -/
theorem Follow.text (h : Follow ls i ss) :
    ∃ last, joinLines (ls.drop i) =
        (ss.map fun s => textBetween ls s.line s.stop).flatten ++ last ∧
      (last = [] ∨ ls.getLast? = some last ∧ (readMarker? last).isSome = true) := by
  induction h with
  | done => exact ⟨[], by rw [List.drop_length]; rfl, Or.inl rfl⟩
  | bare hi hm =>
      obtain ⟨l, hl, hread⟩ := hm
      obtain ⟨hlt, rfl⟩ := List.getElem?_eq_some_iff.mp hl
      refine ⟨_, ?_, Or.inr ⟨?_, by rw [hread]; rfl⟩⟩
      · rw [List.drop_eq_getElem_cons hlt, List.drop_eq_nil_of_le (by omega), joinLines_singleton]
        rfl
      · rw [List.getLast?_eq_getElem?, ← hi, Nat.add_sub_cancel, hl]
  | cons hfits hrest ih =>
      obtain ⟨last, htext, hlast⟩ := ih
      refine ⟨last, ?_, hlast⟩
      rw [joinLines_drop (Nat.le_of_lt hfits.line_lt) hfits.stop_le, htext, List.map_cons,
        List.flatten_cons, List.append_assoc]

theorem isBlank_of_mem_feedLines (h : ls.all allBlank = true) : ∀ c ∈ feedLines ls, isBlank c := by
  intro c hc
  obtain ⟨l, hl, hc⟩ := List.mem_flatMap.mp hc
  rcases List.mem_append.mp hc with hc | hc
  · exact List.all_eq_true.mp (List.all_eq_true.mp h l hl) c hc
  · rw [List.mem_singleton.mp hc]
    rfl

theorem dropFinalFeed_subset (t : Text) : dropFinalFeed t ⊆ t := by
  unfold dropFinalFeed
  split
  · exact List.dropLast_subset t
  · exact List.Subset.refl t

theorem isBlank_of_mem_textBetween_zero (h : (ls.take i).all allBlank = true) :
    ∀ c ∈ textBetween ls 0 i, isBlank c := by
  rw [textBetween]
  split
  · exact isBlank_of_mem_feedLines h
  · next hge =>
    rw [List.take_of_length_le (by omega)] at h
    intro c hc
    rw [List.drop_zero, ← dropFinalFeed_feedLines] at hc
    exact isBlank_of_mem_feedLines h c (dropFinalFeed_subset _ hc)

/-- **The spans tile the source.** Blank text in front and a marker on the last line apart, the source
is made of the slices of its blocks, one after the other, and each slice tells its block: the content,
and the marker with its line. -/
theorem spans_tile_source (source : Text) :
    ∃ (before last : Text) (slices : List Text),
      source = before ++ slices.flatten ++ last ∧
      (∀ c ∈ before, isBlank c = true) ∧
      (last = [] ∨ (lines source).getLast? = some last ∧ (readMarker? last).isSome = true) ∧
      List.Forall₂ (Block.IsToldBy source) (segment source) slices ∧
      ((segment source).IsChain fun b c => b.span.stop = c.span.start) ∧
      ∀ b ∈ segment source, b.span.start ≤ b.span.stop ∧ b.span.stop ≤ size source := by
  obtain ⟨i, hi, hblank, hfollow⟩ := exists_follow_stretches (lines source)
  obtain ⟨last, htext, hlast⟩ := hfollow.text
  have hsource : source = textBetween (lines source) 0 i ++ joinLines ((lines source).drop i) := by
    rw [← joinLines_drop (Nat.zero_le i) hi, List.drop_zero, joinLines_lines]
  rw [htext, ← List.append_assoc] at hsource
  refine ⟨_, last, _, hsource, isBlank_of_mem_textBetween_zero hblank, hlast, ?_, ?_, ?_⟩
  · rw [segment_eq_map_toBlock, List.forall₂_map_left_iff, List.forall₂_map_right_iff,
      List.forall₂_same]
    exact fun s hs => (hfollow.fits s hs).isToldBy
  · rw [segment_eq_map_toBlock, List.isChain_map]
    refine hfollow.isChain.imp fun s s' h => ?_
    show byteOf _ s.stop = byteOf _ s'.line
    rw [h]
  · intro b hb
    rw [segment_eq_map_toBlock] at hb
    obtain ⟨s, hs, rfl⟩ := List.mem_map.mp hb
    obtain ⟨pre, post, hsplit, hstart, hstop⟩ :=
      Span.slice?_eq_some_iff.mp (hfollow.fits s hs).isToldBy.slice
    have hsize := congrArg size hsplit
    rw [size_append, size_append] at hsize
    omega

end TalkTimer

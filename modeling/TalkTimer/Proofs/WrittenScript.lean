import TalkTimer.Proofs.Acceptance
import TalkTimer.Proofs.MarkerText
import TalkTimer.Proofs.Outline

/-!
# Scripts written back

`writeBlocks` makes a script of blocks: each one with its marker in the canonical form and its
content below. The script that it makes of the blocks of a text differs from that text in many ways:
blank text before the first marker is gone, and so is a marker on the last line; markers have lost
what is not canonical; a block without any line has got an empty one. None of this changes what the
blocks say.

* **What blocks are made of** (`exists_of_mem_segmentLines`) – a block is what an open block has
  gathered, and these are lines of the text that hold no marker.
* **Written blocks are told apart** (`said_segmentLines_written`) – the pass over their lines closes
  each one where the next begins.
* **The round trip** (`segment_writeBlocks_segment`) – for any text, and for any accepted script.
-/

namespace TalkTimer

open Text

/-! ## Writing blocks -/

namespace Block

/-- What a block says. Its place in the script does not count. -/
def said (b : Block) : Option Marker × Text := (b.marker, b.content)

/-- What is written of a block: its marker, if it has one, and its content. -/
def pieces (b : Block) : List Text := (b.marker.map Marker.text).toList ++ [b.content]

/-- The lines of a block that is written. -/
def writtenLines (b : Block) : List Text := (b.marker.map Marker.text).toList ++ lines b.content

/-- A block that can be **told from what is written around it**: its marker is read back, and none of
its content is read as a marker. Without marker it shows something. -/
structure IsWritable (b : Block) : Prop where
  marker : ∀ m, b.marker = some m → readMarker? m.text = some m
  content : ∀ l ∈ lines b.content, readMarker? l = none
  shown : b.marker = none → (lines b.content).all allBlank = false

theorem flatMap_lines_pieces (b : Block) : b.pieces.flatMap lines = b.writtenLines := by
  rw [pieces, writtenLines, List.flatMap_append, List.flatMap_singleton]
  cases b.marker with
  | none => rfl
  | some m =>
      rw [Option.map_some, Option.toList_some, List.flatMap_singleton,
        lines_of_not_mem m.newline_notMem_text]

end Block

/-- The script that is made of blocks. -/
def writeBlocks (blocks : List Block) : Text := joinLines (blocks.flatMap Block.pieces)

variable {blocks : List Block} {b : OpenBlock} {x : Block} {stop : Nat} {l : Text}

theorem lines_writeBlocks (h : blocks ≠ []) :
    lines (writeBlocks blocks) = blocks.flatMap Block.writtenLines := by
  have hpieces : blocks.flatMap Block.pieces ≠ [] := by
    obtain ⟨x, xs, rfl⟩ := List.exists_cons_of_ne_nil h
    simp [Block.pieces]
  rw [writeBlocks, lines_joinLines_flatMap hpieces, List.flatMap_assoc]
  simp only [Block.flatMap_lines_pieces]

theorem mem_lines_writeBlocks (h : l ∈ lines (writeBlocks blocks)) :
    l = [] ∨ ∃ x ∈ blocks, l ∈ x.writtenLines := by
  by_cases hne : blocks = []
  · -- nothing was written, and that is one empty line
    left
    rw [hne] at h
    exact List.mem_singleton.mp h
  · right
    rw [lines_writeBlocks hne] at h
    exact List.mem_flatMap.mp h

/-! ## What blocks are made of -/

theorem OpenBlock.mem_close (h : x ∈ b.close stop) : x = b.toBlock stop ∧ b.isVoid = false := by
  unfold OpenBlock.close at h
  split at h
  · cases h
  · next hv => exact ⟨List.mem_singleton.mp h, Bool.eq_false_iff.mpr hv⟩

/-- **Every block was open once.** It is closed with something to show or with a marker, and holds
lines without marker that the pass met, and those that were gathered before it began. -/
theorem exists_of_mem_segmentLines {ls : List SourceLine} (h : x ∈ segmentLines stop b ls) :
    ∃ (o : OpenBlock) (stop' : Nat), x = o.toBlock stop' ∧ o.isVoid = false ∧
      ∀ l ∈ o.gathered, l ∈ b.gathered ∨ ∃ s ∈ ls, s.text = l ∧ readMarker? l = none := by
  induction ls generalizing b with
  | nil =>
      rw [segmentLines, OpenBlock.finish] at h
      split at h
      · cases h
      · obtain ⟨hx, hv⟩ := OpenBlock.mem_close h
        exact ⟨b, stop, hx, hv, fun l hl => Or.inl hl⟩
  | cons s ls ih =>
      cases hs : readMarker? s.text with
      | some m =>
          rw [segmentLines_cons_some hs, List.mem_append] at h
          rcases h with h | h
          · obtain ⟨hx, hv⟩ := OpenBlock.mem_close h
            exact ⟨b, s.start, hx, hv, fun l hl => Or.inl hl⟩
          · obtain ⟨o, stop', hx, hv, hlines⟩ := ih h
            refine ⟨o, stop', hx, hv, fun l hl => ?_⟩
            -- the block at the marker begins with nothing gathered
            obtain ⟨t, ht, htext⟩ := (hlines l hl).resolve_left List.not_mem_nil
            exact Or.inr ⟨t, List.mem_cons_of_mem s ht, htext⟩
      | none =>
          rw [segmentLines_cons_none hs] at h
          obtain ⟨o, stop', hx, hv, hlines⟩ := ih h
          refine ⟨o, stop', hx, hv, fun l hl => ?_⟩
          rcases hlines l hl with hmem | ⟨t, ht, htext⟩
          · rcases List.mem_cons.mp hmem with rfl | hmem
            · exact Or.inr ⟨s, List.mem_cons_self, rfl, hs⟩
            · exact Or.inl hmem
          · exact Or.inr ⟨t, List.mem_cons_of_mem s ht, htext⟩

/-- The content of a block is made of lines of the text that hold no marker; a block without any line
has an empty content all the same. Leading text shows something. -/
theorem content_of_mem_segment {source : Text} (h : x ∈ segment source) :
    (∀ l ∈ lines x.content, l = [] ∨ (l ∈ lines source ∧ readMarker? l = none)) ∧
      (x.marker = none → (lines x.content).all allBlank = false) := by
  obtain ⟨o, stop, rfl, hv, hlines⟩ := exists_of_mem_segmentLines h
  have hsource : ∀ l ∈ o.gathered, l ∈ lines source ∧ readMarker? l = none := by
    intro l hl
    obtain ⟨s, hs, rfl, hread⟩ := (hlines l hl).resolve_left List.not_mem_nil
    exact ⟨text_mem_of_mem_placeLines hs, hread⟩
  rw [OpenBlock.isVoid, Bool.and_eq_false_iff] at hv
  -- no line and one empty line make the same content
  by_cases hne : o.gathered = []
  · have hcontent : lines (o.toBlock stop).content = [[]] := by
      simp [OpenBlock.toBlock, hne, joinLines, List.intercalate, lines]
    rw [hcontent]
    refine ⟨fun l hl => Or.inl (List.mem_singleton.mp hl), fun hm => ?_⟩
    have hm' : o.marker = none := hm
    simp [hm', hne] at hv
  · have hcontent : lines (o.toBlock stop).content = o.gathered.reverse := by
      refine lines_joinLines (by simpa using hne) fun l hl => ?_
      exact not_mem_of_mem_lines (hsource l (List.mem_reverse.mp hl)).1
    rw [hcontent]
    refine ⟨fun l hl => Or.inr (hsource l (List.mem_reverse.mp hl)), fun hm => ?_⟩
    have hm' : o.marker = none := hm
    rw [List.all_reverse]
    exact hv.resolve_left (by simp [hm'])

/-! ## Written blocks are told apart -/

theorem segmentLines_content {cs : List Text} (h : ∀ l ∈ cs, readMarker? l = none)
    (stop : Nat) (b : OpenBlock) (before rest : List Text) :
    segmentLines stop b (placesAfter before (cs ++ rest)) =
      segmentLines stop { b with gathered := cs.reverse ++ b.gathered }
        (placesAfter (before ++ cs) rest) := by
  induction cs generalizing b before with
  | nil => simp
  | cons c cs ih =>
      have hc : readMarker? (placeAfter before c).text = none := h c List.mem_cons_self
      have hcs : ∀ l ∈ cs, readMarker? l = none := fun l hl => h l (List.mem_cons_of_mem c hl)
      rw [List.cons_append, placesAfter_cons, segmentLines_cons_none hc, ih hcs]
      simp [placeAfter]

/-- An open block with the marker and the lines of a written one says the same, wherever it is
closed. -/
theorem Block.IsWritable.said_close (hx : x.IsWritable) (hmarker : b.marker = x.marker)
    (hlines : b.gathered = (lines x.content).reverse) (stop : Nat) :
    (b.close stop).map Block.said = [x.said] := by
  have hvoid : b.isVoid = false := by
    rw [OpenBlock.isVoid, hmarker, hlines, List.all_reverse]
    cases hm : x.marker with
    | none => exact hx.shown hm
    | some m => rfl
  have hsaid : (b.toBlock stop).said = x.said := by
    rw [Block.said, OpenBlock.toBlock, hmarker, hlines, List.reverse_reverse, joinLines_lines]
    rfl
  rw [OpenBlock.close, hvoid, if_neg Bool.false_ne_true, List.map_singleton, hsaid]

theorem said_close_eq (b : OpenBlock) (stop stop' : Nat) :
    (b.close stop).map Block.said = (b.close stop').map Block.said := by
  unfold OpenBlock.close
  split <;> rfl

/-- **The pass over written blocks.** What they say follows what the open block says. The induction is
on the blocks; the open block is never a bare marker, since a written block has a line below it. -/
theorem said_segmentLines_written (hw : ∀ x ∈ blocks, x.IsWritable)
    (hm : ∀ x ∈ blocks, x.marker ≠ none) (hb : b.isBareMarker = false) (stop : Nat)
    (before : List Text) :
    (segmentLines stop b (placesAfter before (blocks.flatMap Block.writtenLines))).map Block.said =
      (b.close stop).map Block.said ++ blocks.map Block.said := by
  induction blocks generalizing b before with
  | nil =>
      have hfinish : segmentLines stop b [] = b.close stop := by
        rw [segmentLines, OpenBlock.finish, hb, if_neg Bool.false_ne_true]
      rw [List.map_nil, List.append_nil]
      exact congrArg (List.map Block.said) hfinish
  | cons x xs ih =>
      obtain ⟨m, hxm⟩ := Option.ne_none_iff_exists'.mp (hm x List.mem_cons_self)
      have hx := hw x List.mem_cons_self
      have hwritten : x.writtenLines = m.text :: lines x.content := by
        simp [Block.writtenLines, hxm]
      have hread : readMarker? (placeAfter before m.text).text = some m := hx.marker m hxm
      -- the block that the marker opens, with its content gathered
      let o : OpenBlock :=
        { OpenBlock.atMarker m (placeAfter before m.text) with
          gathered := (lines x.content).reverse ++ [] }
      have ho : o.isBareMarker = false := by
        simp [o, OpenBlock.isBareMarker, lines_ne_nil]
      have hclose := hx.said_close (b := o) hxm.symm (List.append_nil _) stop
      have hrest := ih (b := o) (fun y hy => hw y (List.mem_cons_of_mem x hy))
        (fun y hy => hm y (List.mem_cons_of_mem x hy)) ho
        (before ++ [m.text] ++ lines x.content)
      rw [List.flatMap_cons, hwritten, List.cons_append, placesAfter_cons,
        segmentLines_cons_some hread, List.map_append, segmentLines_content hx.content,
        said_close_eq b _ stop]
      show _ ++ (segmentLines stop o _).map Block.said = _
      rw [hrest, hclose, List.map_cons, List.singleton_append]

/-- **Written blocks are told apart** if at most the first one has no marker. -/
theorem said_segment_writeBlocks {d : Nat} {ms : List Marker} (h : Carries d blocks ms)
    (hw : ∀ x ∈ blocks, x.IsWritable) :
    (segment (writeBlocks blocks)).map Block.said = blocks.map Block.said := by
  cases blocks with
  | nil => rfl
  | cons x xs =>
      have hxs : ∀ y ∈ xs, y.marker ≠ none := by
        intro y hy hnone
        obtain ⟨i, hi⟩ := List.mem_iff_getElem?.mp hy
        have hlt := h.lt_of_untagged (i := i + 1) (b := y) hi hnone
        have hle := h.le_one
        omega
      rw [segment, sourceLines_eq_placesAfter, lines_writeBlocks (List.cons_ne_nil x xs)]
      cases hm : x.marker with
      | some m =>
          -- nothing stands before the first marker
          have hall : ∀ y ∈ x :: xs, y.marker ≠ none := by
            intro y hy
            rcases List.mem_cons.mp hy with rfl | hy
            · simp [hm]
            · exact hxs y hy
          rw [said_segmentLines_written hw hall rfl]
          rfl
      | none =>
          -- the leading text is gathered before the first marker
          have hx := hw x List.mem_cons_self
          have hwritten : x.writtenLines = lines x.content := by
            simp [Block.writtenLines, hm]
          let o : OpenBlock := { OpenBlock.leading with gathered := (lines x.content).reverse ++ [] }
          have hclose := hx.said_close (b := o) hm.symm (List.append_nil _)
          have hrest := said_segmentLines_written (b := o)
            (fun y hy => hw y (List.mem_cons_of_mem x hy)) hxs rfl
            (size (writeBlocks (x :: xs))) ([] ++ lines x.content)
          rw [List.flatMap_cons, hwritten, segmentLines_content hx.content]
          show (segmentLines _ o _).map Block.said = _
          rw [hrest, hclose, List.map_cons, List.singleton_append]

/-- The lines of a written block hold its marker and no other. -/
theorem Block.IsWritable.marksOf_writtenLines (h : x.IsWritable) :
    marksOf x.writtenLines = x.marker.toList := by
  have hcontent : marksOf (lines x.content) = [] := List.filterMap_eq_nil_iff.mpr h.content
  rw [Block.writtenLines, marksOf_append, hcontent, List.append_nil]
  cases hm : x.marker with
  | none => rfl
  | some m =>
      rw [Option.map_some, Option.toList_some, marksOf_singleton, h.marker m hm]

theorem marksOf_flatMap_writtenLines (hw : ∀ x ∈ blocks, x.IsWritable) :
    marksOf (blocks.flatMap Block.writtenLines) = blocks.filterMap Block.marker := by
  induction blocks with
  | nil => rfl
  | cons x xs ih =>
      have hx := (hw x List.mem_cons_self).marksOf_writtenLines
      rw [List.flatMap_cons, marksOf_append, hx, ih fun y hy => hw y (List.mem_cons_of_mem x hy),
        List.filterMap_cons]
      cases x.marker <;> rfl

theorem Carries.filterMap_marker {d : Nat} {ms : List Marker} (h : Carries d blocks ms) :
    blocks.filterMap Block.marker = ms := by
  rw [filterMap_marker_eq, h.markers]
  simp

/-- The markers of written blocks are the markers that they carry. -/
theorem marksOf_lines_writeBlocks {d : Nat} {ms : List Marker} (h : Carries d blocks ms)
    (hw : ∀ x ∈ blocks, x.IsWritable) : marksOf (lines (writeBlocks blocks)) = ms := by
  rw [← h.filterMap_marker]
  by_cases hne : blocks = []
  · rw [hne]
    rfl
  · rw [lines_writeBlocks hne, marksOf_flatMap_writtenLines hw]

/-! ## The round trip -/

/-- The blocks of a text can be written back as long as no marker has 100 minutes or more. -/
theorem isWritable_of_mem_segment {source : Text}
    (htime : ∀ m ∈ marksOf (lines source), m.time < 6000) (hx : x ∈ segment source) :
    x.IsWritable := by
  obtain ⟨hcontent, hshown⟩ := content_of_mem_segment hx
  refine ⟨fun m hm => ?_, fun l hl => ?_, hshown⟩
  · have hmem := mem_marksOf_of_mem_segment hx hm
    exact readMarker?_text (isWellFormed_of_mem_marksOf hmem) (htime m hmem)
  · rcases hcontent l hl with rfl | ⟨-, hread⟩
    · rfl
    · exact hread

/-- The script that is made of the blocks of an accepted text has no findings. -/
theorem validate_writeBlocks_segment {source : Text}
    (htime : ∀ m ∈ marksOf (lines source), m.time < 6000) (hv : validate source = []) :
    validate (writeBlocks (segment source)) = [] := by
  obtain ⟨hsource, hnested⟩ := validate_eq_nil_iff_wellNested.mp hv
  obtain ⟨d, ms, hpre, hcarries⟩ := exists_carries_segment source
  have hw : ∀ x ∈ segment source, x.IsWritable := fun x hx => isWritable_of_mem_segment htime hx
  refine validate_eq_nil_iff_wellNested.mpr ⟨fun l hl htext => ?_, ?_⟩
  · rcases mem_lines_writeBlocks hl with rfl | ⟨x, hx, hl⟩
    · exact absurd rfl htext
    · rcases List.mem_append.mp hl with hl | hl
      · -- the line of the marker
        obtain ⟨m, hm, rfl⟩ : ∃ m, x.marker = some m ∧ m.text = l := by simpa using hl
        exact ⟨m, readMarker?_eq_some_iff.mp ((hw x hx).marker m hm)⟩
      · -- a line of the content, which is no line that only looks like a marker
        rcases (content_of_mem_segment hx).1 l hl with rfl | ⟨hmem, -⟩
        · exact absurd rfl htext
        · exact hsource l hmem htext
  · rw [marksOf_lines_writeBlocks hcarries hw]
    exact hnested.of_isPrefix hpre

/-- **Scripts written back say the same.** Cut into blocks, the script that is made of the blocks of
a text has as many blocks with the same markers and contents, in the same order; and if the text is
accepted, so is that script. Markers of 100 minutes or more are the exception, since their text does
not read back. -/
theorem segment_writeBlocks_segment (source : Text)
    (htime : ∀ m ∈ marksOf (lines source), m.time < 6000) :
    (segment (writeBlocks (segment source))).map Block.said = (segment source).map Block.said ∧
    ∀ id script, Script.parse id source = .ok script →
      ∃ script', Script.parse id (writeBlocks (segment source)) = .ok script' ∧
        script'.blocks.map Block.said = script.blocks.map Block.said := by
  obtain ⟨d, ms, hpre, hcarries⟩ := exists_carries_segment source
  have hsaid := said_segment_writeBlocks hcarries fun x hx => isWritable_of_mem_segment htime hx
  refine ⟨hsaid, fun id script hs => ?_⟩
  obtain ⟨hv, hblocks⟩ := Script.parse_eq_ok hs
  obtain ⟨script', hs'⟩ := Script.exists_parse_iff.mpr (validate_writeBlocks_segment htime hv)
  exact ⟨script', hs', by rw [(Script.parse_eq_ok hs').2, hblocks, hsaid]⟩

/-- A talk with blank lines before it, markers in other than the canonical form, blocks without any
line, and a marker on the last line. -/
def loosely : Text :=
  "\n  \n ?02:00\n??00:95\n??!! 00:30\n\tA \n\n?99:55\nB\n??01:00".toList

theorem segment_writeBlocks_loosely :
    (∀ m ∈ marksOf (lines loosely), m.time < 6000) ∧
      Script.parse 0 loosely = .ok ⟨segment loosely, 0⟩ ∧
      (segment (writeBlocks (segment loosely))).map Block.said =
        (segment loosely).map Block.said ∧
      ∃ script', Script.parse 0 (writeBlocks (segment loosely)) = .ok script' ∧
        script'.blocks.map Block.said = (segment loosely).map Block.said := by
  have htime : ∀ m ∈ marksOf (lines loosely), m.time < 6000 := by decide
  have hparse : Script.parse 0 loosely = .ok ⟨segment loosely, 0⟩ := rfl
  obtain ⟨hsaid, hscript⟩ := segment_writeBlocks_segment loosely htime
  exact ⟨htime, hparse, hsaid, hscript 0 _ hparse⟩

end TalkTimer

import TalkTimer.Proofs.Outline
import TalkTimer.Proofs.Runs

/-!
# The planned time of a source text

The planned time is a sum over blocks, and blocks come from a pass that drops a marker on the last
line. It can be told from the lines of the text alone.

* **The markers of the blocks** (`filterMap_marker_segment`) – the blocks carry the markers of all
  lines but the last one, none lost and none doubled.
* **The sum over lines** (`scheduledTotal_segment`) – the planned time is a sum over these markers
  (`plannedTime_eq_sum`), so it is a sum over the lines but the last one. The program sums it in 32
  bits, and a script and a session tell the same.
-/

namespace TalkTimer

open Text

/-! ## The markers of the blocks -/

/-- The marker that an open block hands on when the lines `ls` follow. Only at the end of the text
does a marker without lines go missing. -/
def OpenBlock.handsOn (b : OpenBlock) (ls : List Text) : List Marker :=
  if b.isBareMarker = true ∧ ls = [] then [] else b.marker.toList

theorem OpenBlock.filterMap_marker_close (b : OpenBlock) (stop : Nat) :
    (b.close stop).filterMap Block.marker = b.marker.toList := by
  rw [close]
  split
  · next hvoid =>
    -- a block that is left out has no marker
    rw [isVoid, Bool.and_eq_true, Option.isNone_iff_eq_none] at hvoid
    rw [hvoid.1]
    rfl
  · cases hm : b.marker <;> simp [toBlock, hm]

theorem OpenBlock.filterMap_marker_finish (b : OpenBlock) (stop : Nat) :
    (b.finish stop).filterMap Block.marker = b.handsOn [] := by
  rw [finish, handsOn]
  by_cases hbare : b.isBareMarker = true
  · rw [if_pos hbare, if_pos ⟨hbare, rfl⟩]
    rfl
  · rw [if_neg hbare, if_neg fun h => hbare h.1]
    exact b.filterMap_marker_close stop

/-- The blocks of the lines that follow carry the marker of the open block and then the markers of
all these lines but the last one. -/
theorem filterMap_marker_segmentLines (stop : Nat) (b : OpenBlock) (ls : List SourceLine) :
    (segmentLines stop b ls).filterMap Block.marker =
      b.handsOn (ls.map SourceLine.text) ++ marksOf (ls.map SourceLine.text).dropLast := by
  induction ls generalizing b with
  | nil =>
      rw [segmentLines, b.filterMap_marker_finish]
      simp [marksOf]
  | cons l ls ih =>
      have hopen : b.handsOn ((l :: ls).map SourceLine.text) = b.marker.toList := by
        simp [OpenBlock.handsOn]
      cases hl : readMarker? l.text with
      | none =>
          -- the line is gathered, so the block is not bare any more
          let b' : OpenBlock := { b with gathered := l.text :: b.gathered }
          have hgathered : b'.handsOn (ls.map SourceLine.text) = b.marker.toList := by
            simp [OpenBlock.handsOn, OpenBlock.isBareMarker, b']
          have hdrop : marksOf ((l :: ls).map SourceLine.text).dropLast =
              marksOf (ls.map SourceLine.text).dropLast := by
            cases ls <;> simp [marksOf, hl]
          rw [segmentLines_cons_none hl, ih, hopen, hdrop, ← hgathered]
      | some m =>
          -- the line is the last one, and its marker goes missing, or it hands on its marker
          have hdrop : marksOf ((l :: ls).map SourceLine.text).dropLast =
              (OpenBlock.atMarker m l).handsOn (ls.map SourceLine.text) ++
                marksOf (ls.map SourceLine.text).dropLast := by
            cases ls with
            | nil => rfl
            | cons l' ls =>
                simp [OpenBlock.handsOn, OpenBlock.atMarker, marksOf, hl]
          rw [segmentLines_cons_some hl, List.filterMap_append, b.filterMap_marker_close, ih, hopen,
            hdrop]

/-- **The blocks of a text carry the markers of all its lines but the last one.** -/
theorem filterMap_marker_segment (source : Text) :
    (segment source).filterMap Block.marker = marksOf (lines source).dropLast := by
  have hlead : OpenBlock.leading.handsOn (lines source) = [] := ite_self _
  rw [segment, filterMap_marker_segmentLines, sourceLines, map_text_placeLines, hlead,
    List.nil_append]

/-! ## The sum over lines -/

/-- What a line adds to the planned time: nothing, unless it reads as a marker of level 1 with time
control. -/
def plannedOn (line : Text) : Nat :=
  match readMarker? line with
  | some m => m.planned
  | none => 0

theorem sum_planned_marksOf (ls : List Text) :
    ((marksOf ls).map Marker.planned).sum = (ls.map plannedOn).sum := by
  induction ls with
  | nil => rfl
  | cons l ls ih =>
      rw [List.map_cons, List.sum_cons, ← ih]
      cases hl : readMarker? l with
      | none => simp [marksOf, plannedOn, hl]
      | some m => simp [marksOf, plannedOn, hl]

/-- **The planned time of a text** is the sum of what its lines add, all but the last one, and the
program tells that sum as far as 32 bits go. A script made of the text and a session over its blocks
tell the same, the session in whatever state. -/
theorem scheduledTotal_segment (source : Text) :
    let planned := ((lines source).dropLast.map plannedOn).sum
    plannedTime (segment source) = planned ∧
    scheduledTotal (segment source) = UInt32.ofNat planned ∧
    (planned < UInt32.size → (scheduledTotal (segment source)).toNat = planned) ∧
    (∀ id script, Script.parse id source = .ok script →
      script.scheduledTotal = scheduledTotal (segment source) ∧
      ∀ autoAdvance es, ((Session.start script.blocks autoAdvance).run es).scheduledTotal =
        scheduledTotal (segment source)) ∧
    ∀ autoAdvance es, ((Session.start (segment source) autoAdvance).run es).scheduledTotal =
      scheduledTotal (segment source) := by
  intro planned
  have hplanned : plannedTime (segment source) = planned := by
    rw [plannedTime_eq_sum, filterMap_marker_segment, sum_planned_marksOf]
  have htotal : scheduledTotal (segment source) = UInt32.ofNat planned := by
    rw [scheduledTotal_eq_ofNat, hplanned]
  have hsession : ∀ autoAdvance es,
      ((Session.start (segment source) autoAdvance).run es).scheduledTotal =
        scheduledTotal (segment source) := by
    intro autoAdvance es
    rw [Session.scheduledTotal, Session.run_blocks]
    rfl
  refine ⟨hplanned, htotal, ?_, ?_, hsession⟩
  · intro hsmall
    rw [htotal, UInt32.toNat_ofNat_of_lt' hsmall]
  · intro id script h
    obtain ⟨-, hblocks⟩ := Script.parse_eq_ok h
    rw [Script.scheduledTotal, hblocks]
    exact ⟨rfl, hsession⟩

/-- A talk of two sections with a nested block and a block without time to keep. The marker on its
last line plans nothing. -/
def twoSections : Text := "Hello\n?02:00\n??01:00\nA\n?03:00\n?!!\nBye\n?10:00".toList

theorem scheduledTotal_segment_twoSections :
    Script.parse 0 twoSections = .ok ⟨segment twoSections, 0⟩ ∧
      scheduledTotal (segment twoSections) = 300 ∧
      (⟨segment twoSections, 0⟩ : Script).scheduledTotal = 300 ∧
      ((Session.start (segment twoSections) true).run
        [.command .play, .tick, .command .next, .tick, .quit]).scheduledTotal = 300 := by
  obtain ⟨-, htotal, -, hscript, hsession⟩ := scheduledTotal_segment twoSections
  have hparse : Script.parse 0 twoSections = .ok ⟨segment twoSections, 0⟩ := by decide
  have hsum : scheduledTotal (segment twoSections) = 300 := htotal.trans (by decide)
  exact ⟨hparse, hsum, (hscript 0 _ hparse).1.trans hsum, (hsession true _).trans hsum⟩

end TalkTimer

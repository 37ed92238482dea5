import TalkTimer.Proofs.Gate
import TalkTimer.Proofs.Slices

/-!
# The list of the blocks

Listing a script prints a line for each of its blocks, whatever is in them. What a line is to tell
can be said without the pass that makes it: where it begins and ends (`ListedAs`), and that its
number leads back to the marker line in the source.

* **Lines** (`listedAs_describe`) – what a description begins and ends with, for every block.
* **Numbers** (`segment_pairwise_line`, `line_eq_zero_of_mem_segment`) – the lines of the markers,
  in the order of the source, with leading text on the first line.
* **The whole list** (`listing_tells_blocks`) – what a call prints.
-/

namespace TalkTimer

open Text

/-! ## Lines -/

/-- How a list tells a marker: two spaces for each level below the first one, then its text. -/
def listHead : Option Marker → Text
  | none => "(leading)".toList
  | some m => (List.replicate (m.level - 1) [' ', ' ']).flatten ++ m.text

/-- How a list tells the number of a line, counted from one. -/
def listTail (line : Nat) : Text := "(line ".toList ++ decimal (line + 1) ++ [')']

/-- **The line of a block in a list**: no line feed in it, the marker at its beginning and the
number of the marker's line at its end, with a name between them. -/
structure ListedAs (b : Block) (l : Text) : Prop where
  newline_notMem : '\n' ∉ l
  parts : ∃ name, l = listHead b.marker ++ [' ', ' '] ++ name ++ [' ', ' '] ++ listTail b.line

theorem flatten_replicate_spaces (n : Nat) :
    (List.replicate n [' ', ' ']).flatten = List.replicate (2 * n) ' ' := by
  have h : [' ', ' '] = List.replicate 2 ' ' := rfl
  rw [h, List.flatten_replicate_replicate, Nat.mul_comm]

theorem Block.listHead_eq (b : Block) :
    listHead b.marker = List.replicate (2 * (b.level - 1)) ' ' ++ b.label := by
  -- unfolded by `show`: an equation of the definition would compute the words
  cases hm : b.marker with
  | none =>
      have hlevel : b.level = 0 := by rw [level, hm]; rfl
      have hlabel : b.label = "(leading)".toList := by unfold label; rw [hm]
      rw [hlevel, hlabel]
      rfl
  | some m =>
      have hlabel : b.label = m.text := by unfold label; rw [hm]
      show (List.replicate (m.level - 1) [' ', ' ']).flatten ++ m.text = _
      rw [flatten_replicate_spaces, level_of_marker hm, hlabel]

theorem listedAs_describe [MarkdownReader] (b : Block) : ListedAs b b.describe := by
  refine ⟨b.newline_notMem_describe, b.title?.getD b.firstLine, ?_⟩
  have hline : "  (line ".toList = [' ', ' '] ++ "(line ".toList := rfl
  unfold Block.describe listTail
  rw [b.listHead_eq, hline]
  simp only [List.append_assoc]

/-! ## Numbers -/

variable {ls : List Text} {i : Nat} {ss : List Stretch}

/-- Stretches that follow each other begin one after the other. -/
theorem Follow.pairwise_line (h : Follow ls i ss) :
    (∀ s ∈ ss, i ≤ s.line) ∧ ss.Pairwise fun s s' => s.line < s'.line := by
  induction h with
  | done => simp
  | bare _ _ => simp
  | cons hfits _ ih =>
      have hlt := hfits.line_lt
      rw [List.forall_mem_cons, List.pairwise_cons]
      refine ⟨⟨Nat.le_refl _, ?_⟩, ?_, ih.2⟩
      · intro s' hs'
        have hle := ih.1 s' hs'
        omega
      · intro s' hs'
        have hle := ih.1 s' hs'
        omega

theorem segment_pairwise_line (source : Text) :
    (segment source).Pairwise fun b c => b.line < c.line := by
  obtain ⟨i, -, -, hfollow⟩ := exists_follow_stretches (lines source)
  rw [segment_eq_map_toBlock, List.pairwise_map]
  exact hfollow.pairwise_line.2

/-- The number of a block with a marker is the number of its marker line. -/
theorem isMarkerAt_of_mem_segment {source : Text} {b : Block} {m : Marker} (hb : b ∈ segment source)
    (hm : b.marker = some m) : IsMarkerAt (lines source) b.line m := by
  obtain ⟨i, -, -, hfollow⟩ := exists_follow_stretches (lines source)
  rw [segment_eq_map_toBlock] at hb
  obtain ⟨s, hs, rfl⟩ := List.mem_map.mp hb
  exact ((hfollow.fits s hs).tagged m hm).2.1

/-- Leading text stands on the first line. -/
theorem line_eq_zero_of_mem_segment {source : Text} {b : Block} (hb : b ∈ segment source)
    (hm : b.marker = none) : b.line = 0 := by
  rw [segment_eq_map_toBlock, stretches] at hb
  obtain ⟨s, hs, rfl⟩ := List.mem_map.mp hb
  rcases List.mem_append.mp hs with hs | hs
  · rw [leadingStretch] at hs
    split at hs
    · cases hs
    · rw [List.mem_singleton.mp hs]
      rfl
  · -- every stretch below a marker line has a marker
    obtain ⟨ms, -, heq⟩ := markers_underMarkers (lines source).length (markerLines 0 (lines source))
    have hnone : s.marker = none := hm
    have hmem : none ∈ ms.map some := heq ▸ hnone ▸ List.mem_map_of_mem hs
    simp at hmem

/-! ## The whole list -/

/-- **A list tells the blocks of a script**, whatever titles the reader of Markdown finds in them.
Every description is one line. A call that lists a script prints the lines of its blocks, one for each
in their order, and nothing else; their numbers grow from line to line. A block with a marker tells
the line on which that marker is read, and leading text the first line. -/
theorem listing_tells_blocks [MarkdownReader] [TomlReader] [ArgumentReader] {files : FileSystem}
    {args : List Text} {r : Request} {s : Settings} {file source : Text}
    (hrequest : ArgumentReader.request (CommandLine.withDefaultAction args) = .ok r)
    (haction : r.action = .blocks file false) (hload : Settings.load files r.config = .ok s)
    (hread : files.readText file = .ok source) (input : List UInt8) :
    (∀ b : Block, '\n' ∉ b.describe) ∧
    (Program.run args files input).code = 0 ∧
    (∃ ls, (Program.run args files input).output = feedLines ls ∧
      List.Forall₂ ListedAs (segment source) ls) ∧
    ((segment source).Pairwise fun b c => b.line < c.line) ∧
    (∀ b ∈ segment source, ∀ m, b.marker = some m → IsMarkerAt (lines source) b.line m) ∧
    ∀ b ∈ segment source, b.marker = none → b.line = 0 := by
  have hrun : Program.run args files input = listBlocks false file source := by
    rw [Program.run, Program.call_eq_act hrequest hload, haction, Program.act,
      withSource_of_ok hread]
    rfl
  have hlisted : List.Forall₂ ListedAs (segment source) ((segment source).map Block.describe) := by
    rw [List.forall₂_map_right_iff, List.forall₂_same]
    exact fun b _ => listedAs_describe b
  rw [hrun]
  exact ⟨fun b => b.newline_notMem_describe, rfl, ⟨_, rfl, hlisted⟩, segment_pairwise_line source,
    fun b hb m hm => isMarkerAt_of_mem_segment hb hm,
    fun b hb hm => line_eq_zero_of_mem_segment hb hm⟩

/-- A script with leading text and two levels, in which a faulty marker line is content. -/
def faulty : Text := "\r\nHi\n?02:00\n# The\u00a0 plan\n??00:07\n???!!\n\n\tx\ty\r\n?!!".toList

theorem listing_tells_blocks_faulty :
    let files : FileSystem :=
      .within (.ofFiles [("talk.md".toList, (String.ofList faulty).toUTF8)])
    files.readText "talk.md".toList = .ok faulty ∧
    (∃ ls, (Program.run (typed ["tempo", "blocks", "talk.md"]) files []).output = feedLines ls ∧
      List.Forall₂ ListedAs (segment faulty) ls) ∧
    (segment faulty).map (fun b => (b.line, b.marker)) =
      [(0, none), (2, some (.timed 1 120)), (5, some (.free 3))] ∧
    (segment faulty).Pairwise fun b c => b.line < c.line := by
  intro files
  have hrequest : ArgumentReader.request
      (CommandLine.withDefaultAction (typed ["tempo", "blocks", "talk.md"])) =
        .ok ⟨false, none, .blocks "talk.md".toList false⟩ := rfl
  have hload : Settings.load files none = .ok .default := rfl
  have hread : files.readText "talk.md".toList = .ok faulty := rfl
  obtain ⟨-, -, ⟨ls, houtput, hlisted⟩, hlines, -⟩ :=
    listing_tells_blocks hrequest rfl hload hread []
  exact ⟨hread, ⟨ls, houtput, hlisted⟩, by decide, hlines⟩

end TalkTimer

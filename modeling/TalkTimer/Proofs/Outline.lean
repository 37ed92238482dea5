import TalkTimer.Proofs.Markers
import TalkTimer.Proofs.Scopes
import TalkTimer.Proofs.Sections
import TalkTimer.Proofs.Stretches
import TalkTimer.Script

/-!
# The outline of an accepted script

The blocks of a script are a flat list, but those of an accepted script are the outline of a tree:
each block below level 1 has a direct parent one level up, and the section that it lies in is the
one its chain of parents leads to. Three passes meet here.

* The check accepts only markers that fit (`WellNested`, from `Scopes`).
* The pass that cuts blocks hands on these markers in order (`Carries`). It may drop a marker on the
  last line, and puts at most one block of leading text in front.
* The scans for sections look back over the blocks (`Sections`).

`isOutline_of_carries` puts them together for any blocks that carry markers that fit.
-/

namespace TalkTimer

open Text

/-! ## Outlines -/

/-- Block `j` is the direct parent of block `i`: the nearest one before it of a smaller level. -/
def IsDirectParent (blocks : List Block) (i j : Nat) : Prop :=
  j < i ∧ ∃ b p, blocks[i]? = some b ∧ blocks[j]? = some p ∧ p.level < b.level ∧
    ∀ k c, j < k → k < i → blocks[k]? = some c → b.level ≤ c.level

/-- Block `k` is on the chain that leads from block `i` to its direct parent, to the direct parent
of that one, and so on up to level 1. -/
inductive OnChain (blocks : List Block) : Nat → Nat → Prop
  | self (i : Nat) : OnChain blocks i i
  | up {i j k : Nat} {b : Block} : blocks[i]? = some b → 1 < b.level → IsDirectParent blocks i j →
      OnChain blocks j k → OnChain blocks i k

/-- The blocks are a **well-formed outline**. -/
structure IsOutline (blocks : List Block) : Prop where
  /-- Only the first block may be without marker. -/
  first_of_untagged : ∀ i b, blocks[i]? = some b → b.marker = none → i = 0
  /-- The markers are well-formed, and the blocks show their times. -/
  marker : ∀ b ∈ blocks, ∀ m, b.marker = some m →
    m.IsWellFormed ∧ b.level = m.level ∧ b.time = m.time
  /-- Below level 1 the direct parent exists, has a marker, and lies one level up. -/
  nested : ∀ i b, blocks[i]? = some b → 1 < b.level →
    ∃ j p, IsDirectParent blocks i j ∧ blocks[j]? = some p ∧ p.marker.isSome = true ∧
      p.level + 1 = b.level
  /-- Every block with a marker lies in a section. -/
  inSection : ∀ i b, blocks[i]? = some b → b.marker.isSome = true →
    (sectionOf? blocks i).isSome = true
  /-- Below level 1 the parent exists; it is the level-1 block of the section. -/
  parent : ∀ i b, blocks[i]? = some b → 1 < b.level →
    ∃ s p, sectionOf? blocks i = some s ∧ blocks[s]? = some p ∧ p.level = 1 ∧
      parentOf? blocks i = some p
  /-- If all blocks up to level 1 have a time to keep, the block's time is within its parent's. -/
  time_le : ∀ i b p, blocks[i]? = some b → parentOf? blocks i = some p →
    (∀ k c, OnChain blocks i k → blocks[k]? = some c → c.isTimeControlled = true) →
    b.time ≤ p.time

/-! ## Blocks that carry markers -/

/-- The blocks carry the markers `ms` in order, after `d` blocks without marker, at most one. -/
structure Carries (d : Nat) (blocks : List Block) (ms : List Marker) : Prop where
  le_one : d ≤ 1
  markers : blocks.map Block.marker = List.replicate d none ++ ms.map some

variable {blocks : List Block} {ms : List Marker} {d i : Nat} {b : Block} {m : Marker}

theorem Block.time_of_marker (h : b.marker = some m) (hm : m.IsWellFormed) : b.time = m.time := by
  by_cases hu : m.untimed = true
  · simp [Block.time, h, Marker.isTimeControlled, hu, hm.time_of_untimed hu]
  · simp [Block.time, h, Marker.isTimeControlled, hu]

/-- The block after `d` blocks and `k` others carries the marker `k`. -/
theorem Carries.marker_add (h : Carries d blocks ms) (k : Nat) :
    blocks[k + d]?.map Block.marker = ms[k]?.map some := by
  rw [← List.getElem?_map, h.markers,
    List.getElem?_append_right (by rw [List.length_replicate]; omega), List.length_replicate,
    Nat.add_sub_cancel, List.getElem?_map]

/-- Where a marker is, there is its block. -/
theorem Carries.exists_block (h : Carries d blocks ms) {k : Nat} (hk : ms[k]? = some m) :
    ∃ b, blocks[k + d]? = some b ∧ b.marker = some m := by
  have hb := h.marker_add k
  rw [hk, Option.map_some, Option.map_eq_some_iff] at hb
  exact hb

/-- A block without marker comes before all markers. -/
theorem Carries.lt_of_untagged (h : Carries d blocks ms) (hb : blocks[i]? = some b)
    (hm : b.marker = none) : i < d := by
  refine Nat.not_le.mp fun hle => ?_
  have hadd := h.marker_add (i - d)
  rw [Nat.sub_add_cancel hle, hb, Option.map_some, hm] at hadd
  cases hk : ms[i - d]? <;> simp [hk] at hadd

/-- Where a block with a marker is, there is the marker. -/
theorem Carries.exists_marker (h : Carries d blocks ms) (hb : blocks[i]? = some b)
    (hm : b.marker = some m) : ∃ k, i = k + d ∧ ms[k]? = some m := by
  have hle : d ≤ i := by
    refine Nat.not_lt.mp fun hlt => ?_
    have hget : (blocks.map Block.marker)[i]? = some (some m) := by
      rw [List.getElem?_map, hb, Option.map_some, hm]
    rw [h.markers, List.getElem?_append_left (by rwa [List.length_replicate]),
      List.getElem?_replicate, if_pos hlt] at hget
    cases hget
  refine ⟨i - d, (Nat.sub_add_cancel hle).symm, ?_⟩
  have hadd := h.marker_add (i - d)
  rw [Nat.sub_add_cancel hle, hb, Option.map_some, hm] at hadd
  cases hk : ms[i - d]? with
  | none => simp [hk] at hadd
  | some m' =>
      rw [hk, Option.map_some, Option.some_inj, Option.some_inj] at hadd
      rw [hadd]

/-! ## Direct parents -/

/-- In a list of markers that fit, a deeper one has its parent at an earlier position, one level up,
and all markers in between are as deep. -/
theorem WellNested.exists_parent (h : WellNested ms) {k : Nat} (hk : ms[k]? = some m)
    (hm : 1 < m.level) :
    ∃ j p, j < k ∧ ms[j]? = some p ∧ p.level + 1 = m.level ∧
      (m.isTimeControlled = true → p.isTimeControlled = true → m.time ≤ p.time) ∧
      ∀ n q, j < n → n < k → ms[n]? = some q → m.level ≤ q.level := by
  obtain ⟨hlt, rfl⟩ := List.getElem?_eq_some_iff.mp hk
  have hsplit : ms = ms.take k ++ ms[k] :: ms.drop (k + 1) := by
    rw [List.getElem_cons_drop, List.take_append_drop]
  obtain ⟨hparent, hbound⟩ := misfit?_eq_none_iff.mp (h _ _ _ hsplit)
  obtain ⟨p, hp, hlevel⟩ := hparent hm
  obtain ⟨-, j, hj, hbetween⟩ := nearestAbove?_eq_some hp
  have hjk : j < k := by
    obtain ⟨hlen, -⟩ := List.getElem?_eq_some_iff.mp hj
    rw [List.length_take] at hlen
    omega
  rw [List.getElem?_take_of_lt hjk] at hj
  refine ⟨j, p, hjk, hj, hlevel, hbound p hp, fun n q hn hnk hq => ?_⟩
  exact hbetween n q hn (by rw [List.getElem?_take_of_lt hnk]; exact hq)

/-- **Direct parents.** A block below level 1 has a direct parent, one level up and with a marker,
and it keeps within the parent's time. -/
theorem Carries.exists_directParent (h : Carries d blocks ms) (hms : WellNested ms)
    (hwf : ∀ m ∈ ms, m.IsWellFormed) (hb : blocks[i]? = some b) (hl : 1 < b.level) :
    ∃ j p, IsDirectParent blocks i j ∧ blocks[j]? = some p ∧ p.marker.isSome = true ∧
      p.level + 1 = b.level ∧
      (b.isTimeControlled = true → p.isTimeControlled = true → b.time ≤ p.time) := by
  obtain ⟨m, hm⟩ := b.exists_marker_of_level_pos (by omega)
  obtain ⟨k, rfl, hk⟩ := h.exists_marker hb hm
  have hlevel := Block.level_of_marker hm
  obtain ⟨j, p, hjk, hj, hp, htime, hbetween⟩ := hms.exists_parent hk (hlevel ▸ hl)
  obtain ⟨pb, hpb, hpm⟩ := h.exists_block hj
  have hplevel := Block.level_of_marker hpm
  refine ⟨j + d, pb, ⟨by omega, b, pb, hb, hpb, by omega, ?_⟩, hpb, by simp [hpm], by omega, ?_⟩
  · intro n c hn hnk hc
    cases hcm : c.marker with
    | none =>
        -- leading text stands before all markers, not between two of them
        have hlt := h.lt_of_untagged hc hcm
        omega
    | some q =>
        obtain ⟨n', rfl, hq⟩ := h.exists_marker hc hcm
        rw [hlevel, Block.level_of_marker hcm]
        exact hbetween n' q (by omega) (by omega) hq
  · intro hbt hpt
    have hmwf := hwf m (List.mem_of_getElem? hk)
    have hpwf := hwf p (List.mem_of_getElem? hj)
    rw [Block.time_of_marker hm hmwf, Block.time_of_marker hpm hpwf]
    rw [Block.isTimeControlled_of_marker hm] at hbt
    rw [Block.isTimeControlled_of_marker hpm] at hpt
    exact htime hbt hpt

/-! ## Sections along direct parents -/

/-- A block and its direct parent have the same nearest block of level 1, which is the parent itself
if it has level 1: nothing in between is less deep than the block. -/
theorem IsDirectParent.topLevelBefore? {j : Nat} (h : IsDirectParent blocks i j) {p : Block}
    (hp : blocks[j]? = some p) (hpl : 1 ≤ p.level) :
    topLevelBefore? blocks i = sectionOf? blocks j := by
  obtain ⟨hji, b, p', -, hp', hlt, hbetween⟩ := h
  obtain rfl : p = p' := Option.some.inj (hp.symm.trans hp')
  have hnone : ∀ k, j < k → k < i → ¬ IsTopLevelAt blocks k := by
    rintro k hjk hki ⟨c, hc, hcl⟩
    have hle := hbetween k c hjk hki hc
    omega
  by_cases hone : p.level = 1
  · rw [sectionOf?_of_level_eq_one hp hone]
    exact topLevelBefore?_eq_some_iff.mpr ⟨hji, ⟨p, hp, hone⟩, hnone⟩
  · -- the parent lies deeper itself: both look back past it
    rw [sectionOf?_of_one_lt hp (by omega)]
    refine Option.ext fun s => ?_
    have hj : ¬ IsTopLevelAt blocks j := by
      rintro ⟨c, hc, hcl⟩
      obtain rfl : p = c := Option.some.inj (hp.symm.trans hc)
      exact hone hcl
    simp only [topLevelBefore?_eq_some_iff]
    constructor
    · rintro ⟨hsi, hs, hafter⟩
      have hsj : s < j := by
        refine Nat.not_le.mp fun hjs => ?_
        rcases Nat.eq_or_lt_of_le hjs with rfl | hjs
        · exact hj hs
        · exact hnone s hjs hsi hs
      exact ⟨hsj, hs, fun k hsk hkj => hafter k hsk (by omega)⟩
    · rintro ⟨hsj, hs, hafter⟩
      refine ⟨by omega, hs, fun k hsk hki => ?_⟩
      rcases Nat.lt_trichotomy k j with hkj | rfl | hjk
      · exact hafter k hsk hkj
      · exact hj
      · exact hnone k hjk hki

/-- **Up the chain.** From a block below level 1 the chain of direct parents ends at the nearest
block of level 1 before it, and if all blocks on the chain have a time to keep, none exceeds that
block's time. The induction is on the position: a direct parent stands further ahead. -/
theorem Carries.exists_top (h : Carries d blocks ms) (hms : WellNested ms)
    (hwf : ∀ m ∈ ms, m.IsWellFormed) (hb : blocks[i]? = some b) (hl : 1 < b.level) :
    ∃ s p, topLevelBefore? blocks i = some s ∧ blocks[s]? = some p ∧ p.level = 1 ∧
      ((∀ k c, OnChain blocks i k → blocks[k]? = some c → c.isTimeControlled = true) →
        b.time ≤ p.time) := by
  induction i using Nat.strongRecOn generalizing b with
  | _ i ih =>
    obtain ⟨j, p, hparent, hp, -, hpl, htime⟩ := h.exists_directParent hms hwf hb hl
    have htop := hparent.topLevelBefore? hp (by omega)
    have hself : (∀ k c, OnChain blocks i k → blocks[k]? = some c → c.isTimeControlled = true) →
        b.time ≤ p.time := fun hchain =>
      htime (hchain i b (.self i) hb) (hchain j p (.up hb hl hparent (.self j)) hp)
    by_cases hone : p.level = 1
    · rw [sectionOf?_of_level_eq_one hp hone] at htop
      exact ⟨j, p, htop, hp, hone, hself⟩
    · have hpl' : 1 < p.level := by omega
      rw [sectionOf?_of_one_lt hp hpl'] at htop
      obtain ⟨s, t, hs, ht, htl, htime'⟩ := ih j hparent.1 hp hpl'
      refine ⟨s, t, htop.trans hs, ht, htl, fun hchain => ?_⟩
      -- the chain of the parent is part of the chain of the block
      have hup := htime' fun k c hk => hchain k c (.up hb hl hparent hk)
      exact Nat.le_trans (hself hchain) hup

/-- Blocks that carry well-formed markers that fit are an outline. -/
theorem isOutline_of_carries (h : Carries d blocks ms) (hms : WellNested ms)
    (hwf : ∀ m ∈ ms, m.IsWellFormed) : IsOutline blocks where
  first_of_untagged := by
    intro i b hb hm
    have hlt := h.lt_of_untagged hb hm
    have hle := h.le_one
    omega
  marker := by
    intro b hb m hm
    obtain ⟨i, hi⟩ := List.mem_iff_getElem?.mp hb
    obtain ⟨k, -, hk⟩ := h.exists_marker hi hm
    have hmwf := hwf m (List.mem_of_getElem? hk)
    exact ⟨hmwf, Block.level_of_marker hm, Block.time_of_marker hm hmwf⟩
  nested := by
    intro i b hb hl
    obtain ⟨j, p, hparent, hp, hm, hpl, -⟩ := h.exists_directParent hms hwf hb hl
    exact ⟨j, p, hparent, hp, hm, hpl⟩
  inSection := by
    intro i b hb hm
    obtain ⟨m, hm⟩ := Option.isSome_iff_exists.mp hm
    obtain ⟨k, -, hk⟩ := h.exists_marker hb hm
    have hpos : 1 ≤ b.level := by
      rw [Block.level_of_marker hm]
      exact (hwf m (List.mem_of_getElem? hk)).level_pos
    rcases Nat.eq_or_lt_of_le hpos with hl | hl
    · rw [sectionOf?_of_level_eq_one hb hl.symm, Option.isSome_some]
    · obtain ⟨s, p, hs, -⟩ := h.exists_top hms hwf hb hl
      rw [sectionOf?_of_one_lt hb hl, hs, Option.isSome_some]
  parent := by
    intro i b hb hl
    obtain ⟨s, p, hs, hp, hpl, -⟩ := h.exists_top hms hwf hb hl
    refine ⟨s, p, ?_, hp, hpl, ?_⟩
    · rw [sectionOf?_of_one_lt hb hl, hs]
    · rw [parentOf?_of_one_lt hb hl, hs, Option.bind_some, hp]
  time_le := by
    intro i b p hb hp hchain
    -- a block that has a parent lies below level 1
    have hl : 1 < b.level := by
      refine Nat.not_le.mp fun hle => ?_
      simp [parentOf?, hb, hle] at hp
    obtain ⟨s, p', hs, hp', -, htime⟩ := h.exists_top hms hwf hb hl
    rw [parentOf?_of_one_lt hb hl, hs, Option.bind_some, hp', Option.some_inj] at hp
    exact hp ▸ htime hchain

/-! ## The blocks of a script -/

theorem map_snd_markerLines (start : Nat) (ls : List Text) :
    (markerLines start ls).map Prod.snd = marksOf ls := by
  induction ls generalizing start with
  | nil => rfl
  | cons l ls ih =>
      cases hl : readMarker? l with
      | none => rw [markerLines_cons_none hl, ih, marksOf, marksOf, List.filterMap_cons, hl]
      | some m =>
          rw [markerLines_cons_some hl, List.map_cons, ih, marksOf, marksOf, List.filterMap_cons,
            hl]

/-- The stretches below marker lines carry the markers; one on the last line may be missing. -/
theorem markers_underMarkers (count : Nat) (mls : List (Nat × Marker)) :
    ∃ ms, ms <+: mls.map Prod.snd ∧ (underMarkers count mls).map Stretch.marker = ms.map some := by
  induction mls with
  | nil => exact ⟨[], List.nil_prefix, rfl⟩
  | cons ml mls ih =>
      obtain ⟨i, m⟩ := ml
      cases mls with
      | nil =>
          by_cases h : i + 1 = count
          · -- the marker on the very last line is the one that goes missing
            exact ⟨[], List.nil_prefix, by simp [underMarkers, h]⟩
          · exact ⟨[m], List.prefix_rfl, by simp [underMarkers, h]⟩
      | cons ml' mls =>
          obtain ⟨ms, hms, heq⟩ := ih
          refine ⟨m :: ms, ?_, ?_⟩
          · exact List.cons_prefix_cons.mpr ⟨rfl, hms⟩
          · rw [underMarkers, List.map_cons, heq, List.map_cons]

/-- The blocks of a text carry its markers, but for one that may be missing at the end. -/
theorem exists_carries_segment (source : Text) :
    ∃ d ms, ms <+: marksOf (lines source) ∧ Carries d (segment source) ms := by
  obtain ⟨ms, hms, heq⟩ := markers_underMarkers (lines source).length (markerLines 0 (lines source))
  rw [map_snd_markerLines] at hms
  have hblocks : (segment source).map Block.marker =
      (leadingStretch (leadingText (lines source))).map Stretch.marker ++ ms.map some := by
    have hmarker : Block.marker ∘ Stretch.toBlock (lines source) = Stretch.marker := rfl
    rw [segment_eq_map_toBlock, List.map_map, hmarker, stretches, List.map_append, heq]
  -- what stands before the markers is the block of leading text, if there is one
  rw [leadingStretch] at hblocks
  split at hblocks
  · exact ⟨0, ms, hms, Nat.zero_le 1, hblocks⟩
  · exact ⟨1, ms, hms, Nat.le_refl 1, hblocks⟩

theorem isWellFormed_of_mem_marksOf {ls : List Text} (h : m ∈ marksOf ls) : m.IsWellFormed := by
  obtain ⟨l, -, hl⟩ := List.mem_filterMap.mp h
  exact isWellFormed_of_readMarker? hl

/-- The marker of a block is one of the text. -/
theorem mem_marksOf_of_mem_segment {source : Text} (hb : b ∈ segment source)
    (hm : b.marker = some m) : m ∈ marksOf (lines source) := by
  obtain ⟨d, ms, hpre, hcarries⟩ := exists_carries_segment source
  obtain ⟨i, hi⟩ := List.mem_iff_getElem?.mp hb
  obtain ⟨k, -, hk⟩ := hcarries.exists_marker hi hm
  exact hpre.subset (List.mem_of_getElem? hk)

/-- A text that is accepted has no findings, and its blocks are those of the text. -/
theorem Script.parse_eq_ok {id : Nat} {source : Text} {script : Script}
    (h : Script.parse id source = .ok script) :
    validate source = [] ∧ script.blocks = segment source := by
  by_cases hv : validate source = []
  · rw [Script.parse_of_valid hv] at h
    cases h
    exact ⟨hv, rfl⟩
  · rw [Script.parse_of_findings hv] at h
    cases h

/-- **The blocks of an accepted script are a well-formed outline.** -/
theorem isOutline_of_parse {id : Nat} {source : Text} {script : Script}
    (h : Script.parse id source = .ok script) : IsOutline script.blocks := by
  obtain ⟨hv, hblocks⟩ := Script.parse_eq_ok h
  obtain ⟨d, ms, hpre, hcarries⟩ := exists_carries_segment source
  rw [hblocks]
  refine isOutline_of_carries hcarries ((wellNested_of_validate hv).of_isPrefix hpre) ?_
  intro m hm
  exact isWellFormed_of_mem_marksOf (hpre.subset hm)

/-- A talk with one section, three levels deep, and with text before it. -/
def threeLevels : Text := "Hello\n?02:00\n??01:00\nslides\n???00:30\n??!!\nBye".toList

theorem isOutline_threeLevels :
    Script.parse 0 threeLevels = .ok ⟨segment threeLevels, 0⟩ ∧
      IsOutline (segment threeLevels) := by
  have h : Script.parse 0 threeLevels = .ok ⟨segment threeLevels, 0⟩ := rfl
  exact ⟨h, isOutline_of_parse h⟩

end TalkTimer

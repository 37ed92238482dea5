import Mathlib.Algebra.Ring.Nat
import Mathlib.Data.Nat.SuccPred
import TalkTimer.Section

/-!
# Sections by position

The section of a block is found by a scan from the end of the blocks before it. The lemmas here say
what the scan finds without scanning: the last position of level 1, if there is one.

* `lastTopLevel?_eq_some_iff`, `topLevelBefore?_eq_some_iff` – the scan,
* `sectionOf?_of_level_eq_one`, `sectionOf?_of_one_lt` – the section of a block by its level,
* `sectionOf?_eq_some_iff` – the section of any block,
* `parentOf?_eq_some_iff` – the parent of a block, by its section,
* `plannedTime_eq_sum` – the planned time, by the markers of the blocks; the program sums it in 32
  bits (`scheduledTotal_eq_ofNat`).
-/

namespace TalkTimer

variable {blocks : List Block} {i j : Nat} {b : Block}

/-- A block of level 1 stands at position `i`. -/
def IsTopLevelAt (blocks : List Block) (i : Nat) : Prop :=
  ∃ b, blocks[i]? = some b ∧ b.level = 1

theorem isTopLevel_iff : b.isTopLevel = true ↔ b.level = 1 := by simp [Block.isTopLevel]

theorem isTopLevelAt_zero_cons : IsTopLevelAt (b :: blocks) 0 ↔ b.level = 1 := by
  simp [IsTopLevelAt]

theorem isTopLevelAt_succ_cons : IsTopLevelAt (b :: blocks) (i + 1) ↔ IsTopLevelAt blocks i := by
  simp [IsTopLevelAt]

/-! ## The scan -/

theorem lastTopLevel?_eq_none_iff :
    lastTopLevel? blocks = none ↔ ∀ i, ¬ IsTopLevelAt blocks i := by
  induction blocks with
  | nil => simp [lastTopLevel?, IsTopLevelAt]
  | cons b blocks ih =>
      rw [lastTopLevel?]
      cases h : lastTopLevel? blocks with
      | some j =>
          have hex : ¬ ∀ i, ¬ IsTopLevelAt blocks i := by rw [← ih, h]; simp
          refine iff_of_false (by simp) fun hall => hex fun i => ?_
          rw [← isTopLevelAt_succ_cons (b := b)]
          exact hall (i + 1)
      | none =>
          have hnone := ih.mp h
          constructor
          · intro hb i
            have hlevel : ¬ b.level = 1 := by simpa [isTopLevel_iff] using hb
            cases i with
            | zero => rwa [isTopLevelAt_zero_cons]
            | succ i => rw [isTopLevelAt_succ_cons]; exact hnone i
          · intro hall
            have hlevel : ¬ b.level = 1 := fun hb => hall 0 (isTopLevelAt_zero_cons.mpr hb)
            simp [isTopLevel_iff, hlevel]

/-- The scan finds the last block of level 1. -/
theorem lastTopLevel?_eq_some_iff :
    lastTopLevel? blocks = some j ↔
      IsTopLevelAt blocks j ∧ ∀ k, j < k → ¬ IsTopLevelAt blocks k := by
  induction blocks generalizing j with
  | nil => simp [lastTopLevel?, IsTopLevelAt]
  | cons b blocks ih =>
      rw [lastTopLevel?]
      cases h : lastTopLevel? blocks with
      | some n =>
          -- a later block has level 1, so the first one does not matter
          obtain ⟨hn, hlast⟩ := ih.mp h
          constructor
          · rintro ⟨⟩
            refine ⟨isTopLevelAt_succ_cons.mpr hn, fun k hk => ?_⟩
            cases k with
            | zero => omega
            | succ k => rw [isTopLevelAt_succ_cons]; exact hlast k (by omega)
          · rintro ⟨hj, hafter⟩
            cases j with
            | zero => exact absurd (isTopLevelAt_succ_cons.mpr hn) (hafter (n + 1) (by omega))
            | succ j =>
                rw [isTopLevelAt_succ_cons] at hj
                have hle : ¬ n < j := fun hlt => hlast j hlt hj
                have hge : ¬ j < n := fun hlt =>
                  hafter (n + 1) (by omega) (isTopLevelAt_succ_cons.mpr hn)
                have heq : n = j := by omega
                rw [heq]
      | none =>
          -- no later block has level 1, so only the first one can be it
          have hnone := lastTopLevel?_eq_none_iff.mp h
          constructor
          · intro hj
            simp only [isTopLevel_iff, Option.ite_none_right_eq_some, Option.some.injEq] at hj
            obtain ⟨hb, rfl⟩ := hj
            refine ⟨isTopLevelAt_zero_cons.mpr hb, fun k hk => ?_⟩
            cases k with
            | zero => omega
            | succ k => rw [isTopLevelAt_succ_cons]; exact hnone k
          · rintro ⟨hj, -⟩
            cases j with
            | zero => simp [isTopLevel_iff, isTopLevelAt_zero_cons.mp hj]
            | succ j => exact absurd (isTopLevelAt_succ_cons.mp hj) (hnone j)

theorem isTopLevelAt_take : IsTopLevelAt (blocks.take i) j ↔ j < i ∧ IsTopLevelAt blocks j := by
  unfold IsTopLevelAt
  rw [List.getElem?_take]
  split
  · next h => exact ⟨fun hb => ⟨h, hb⟩, fun hb => hb.2⟩
  · next h =>
    constructor
    · rintro ⟨_, hb, -⟩
      cases hb
    · rintro ⟨hlt, -⟩
      exact absurd hlt h

/-- **The nearest block of level 1 before a position.** -/
theorem topLevelBefore?_eq_some_iff :
    topLevelBefore? blocks i = some j ↔
      j < i ∧ IsTopLevelAt blocks j ∧ ∀ k, j < k → k < i → ¬ IsTopLevelAt blocks k := by
  simp only [topLevelBefore?, lastTopLevel?_eq_some_iff, isTopLevelAt_take, and_assoc, not_and]

/-- The same block as a greatest position. -/
theorem topLevelBefore?_eq_some_iff_isGreatest :
    topLevelBefore? blocks i = some j ↔ IsGreatest {k | k < i ∧ IsTopLevelAt blocks k} j := by
  rw [topLevelBefore?_eq_some_iff]
  constructor
  · rintro ⟨hji, hj, hafter⟩
    refine ⟨⟨hji, hj⟩, ?_⟩
    rintro k ⟨hki, hk⟩
    exact Nat.not_lt.mp fun hjk => hafter k hjk hki hk
  · rintro ⟨⟨hji, hj⟩, hgreatest⟩
    refine ⟨hji, hj, ?_⟩
    intro k hjk hki hk
    exact absurd (hgreatest ⟨hki, hk⟩) (Nat.not_le.mpr hjk)

/-! ## The section of a block -/

/-- A block of level 1 opens its own section. -/
theorem sectionOf?_of_level_eq_one (hb : blocks[i]? = some b) (hl : b.level = 1) :
    sectionOf? blocks i = some i := by
  obtain ⟨m, hm⟩ := b.exists_marker_of_level_pos (by omega)
  simp [sectionOf?, hb, hm, isTopLevel_iff, hl]

/-- Any other block with a marker lies in the section of the nearest block of level 1 before it, at
level 0 too. -/
theorem sectionOf?_of_level_ne_one {m : Marker} (hb : blocks[i]? = some b)
    (hm : b.marker = some m) (hl : b.level ≠ 1) :
    sectionOf? blocks i = topLevelBefore? blocks i := by
  simp [sectionOf?, hb, hm, isTopLevel_iff, hl]

/-- A deeper block lies in the section of the nearest block of level 1 before it. -/
theorem sectionOf?_of_one_lt (hb : blocks[i]? = some b) (hl : 1 < b.level) :
    sectionOf? blocks i = topLevelBefore? blocks i := by
  obtain ⟨m, hm⟩ := b.exists_marker_of_level_pos (by omega)
  exact sectionOf?_of_level_ne_one hb hm (by omega)

/-- **The section of a block** begins at the last block of level 1 that does not come after it, and
only a block with a marker has one. -/
theorem sectionOf?_eq_some_iff :
    sectionOf? blocks i = some j ↔
      (∃ b m, blocks[i]? = some b ∧ b.marker = some m) ∧
        IsGreatest {k | k ≤ i ∧ IsTopLevelAt blocks k} j := by
  cases hb : blocks[i]? with
  | none => simp [sectionOf?, hb]
  | some b =>
      cases hm : b.marker with
      | none => simp [sectionOf?, hb, hm]
      | some m =>
          have htagged : ∃ x n, some b = some x ∧ x.marker = some n := ⟨b, m, rfl, hm⟩
          rw [and_iff_right htagged]
          by_cases hl : b.level = 1
          · have hi : IsGreatest {k | k ≤ i ∧ IsTopLevelAt blocks k} i :=
              ⟨⟨Nat.le_refl i, b, hb, hl⟩, fun k hk => hk.1⟩
            rw [sectionOf?_of_level_eq_one hb hl, Option.some_inj]
            constructor
            · rintro rfl
              exact hi
            · intro hj
              exact hi.unique hj
          · -- the block itself is none of those that the scan may find
            have hi : ¬ IsTopLevelAt blocks i := by
              rintro ⟨c, hc, hcl⟩
              rw [hb, Option.some_inj] at hc
              exact hl (hc ▸ hcl)
            have hset : {k | k < i ∧ IsTopLevelAt blocks k} =
                {k | k ≤ i ∧ IsTopLevelAt blocks k} := by
              ext k
              refine and_congr_left fun hk => ⟨Nat.le_of_lt, fun hle => ?_⟩
              apply Nat.lt_of_le_of_ne hle
              rintro rfl
              exact hi hk
            rw [sectionOf?_of_level_ne_one hb hm hl, topLevelBefore?_eq_some_iff_isGreatest, hset]

/-- A block lies in a section as soon as it has a marker and some block of level 1 does not come after
it. -/
theorem sectionOf?_isSome_iff :
    (sectionOf? blocks i).isSome = true ↔
      (∃ b m, blocks[i]? = some b ∧ b.marker = some m) ∧ ∃ k, k ≤ i ∧ IsTopLevelAt blocks k := by
  rw [Option.isSome_iff_exists]
  constructor
  · rintro ⟨j, hj⟩
    obtain ⟨htagged, hj, -⟩ := sectionOf?_eq_some_iff.mp hj
    exact ⟨htagged, j, hj⟩
  · rintro ⟨htagged, k, hk⟩
    -- none of the positions is beyond the block, so one of them is the last
    have hbounded : BddAbove {k | k ≤ i ∧ IsTopLevelAt blocks k} := ⟨i, fun n hn => hn.1⟩
    obtain ⟨j, hj⟩ := hbounded.exists_isGreatest_of_nonempty ⟨k, hk⟩
    exact ⟨j, sectionOf?_eq_some_iff.mpr ⟨htagged, hj⟩⟩

/-- The block that opens a section lies in it. -/
theorem sectionOf?_self (h : sectionOf? blocks i = some j) : sectionOf? blocks j = some j := by
  obtain ⟨-, ⟨-, b, hb, hl⟩, -⟩ := sectionOf?_eq_some_iff.mp h
  exact sectionOf?_of_level_eq_one hb hl

/-- The blocks with markers from the beginning of a section to one of its blocks lie in it as
well. -/
theorem sectionOf?_between (h : sectionOf? blocks i = some j) {k : Nat} {m : Marker} (hjk : j ≤ k)
    (hki : k ≤ i) (hb : blocks[k]? = some b) (hm : b.marker = some m) :
    sectionOf? blocks k = some j := by
  obtain ⟨-, ⟨-, hj⟩, hgreatest⟩ := sectionOf?_eq_some_iff.mp h
  refine sectionOf?_eq_some_iff.mpr ⟨⟨b, m, hb, hm⟩, ⟨hjk, hj⟩, ?_⟩
  rintro n ⟨hnk, hn⟩
  exact hgreatest ⟨Nat.le_trans hnk hki, hn⟩

/-! ## The parent of a block -/

/-- A deeper block has the nearest block of level 1 before it for its parent. -/
theorem parentOf?_of_one_lt (hb : blocks[i]? = some b) (hl : 1 < b.level) :
    parentOf? blocks i = (topLevelBefore? blocks i).bind fun j => blocks[j]? := by
  have hle : ¬ b.level ≤ 1 := by omega
  simp [parentOf?, hb, hle]

/-- **The parent of a block** is the block that opens its section, if the block lies deeper. -/
theorem parentOf?_eq_some_iff {p : Block} :
    parentOf? blocks i = some p ↔
      ∃ b s, blocks[i]? = some b ∧ 1 < b.level ∧ sectionOf? blocks i = some s ∧ s < i ∧
        blocks[s]? = some p := by
  constructor
  · intro h
    cases hb : blocks[i]? with
    | none => simp [parentOf?, hb] at h
    | some b =>
        have hl : 1 < b.level := by
          apply Nat.not_le.mp
          intro hle
          simp [parentOf?, hb, hle] at h
        rw [parentOf?_of_one_lt hb hl] at h
        obtain ⟨s, hs, hp⟩ := Option.bind_eq_some_iff.mp h
        have hlt := (topLevelBefore?_eq_some_iff.mp hs).1
        exact ⟨b, s, rfl, hl, (sectionOf?_of_one_lt hb hl).trans hs, hlt, hp⟩
  · rintro ⟨b, s, hb, hl, hs, -, hp⟩
    rw [sectionOf?_of_one_lt hb hl] at hs
    rw [parentOf?_of_one_lt hb hl, hs, Option.bind_some, hp]

/-- A deeper block has a parent exactly if it lies in a section. -/
theorem parentOf?_isSome_iff :
    (parentOf? blocks i).isSome = true ↔
      ∃ b s, blocks[i]? = some b ∧ 1 < b.level ∧ sectionOf? blocks i = some s := by
  rw [Option.isSome_iff_exists]
  constructor
  · rintro ⟨p, hp⟩
    obtain ⟨b, s, hb, hl, hs, -, -⟩ := parentOf?_eq_some_iff.mp hp
    exact ⟨b, s, hb, hl, hs⟩
  · rintro ⟨b, s, hb, hl, hs⟩
    obtain ⟨-, ⟨-, p, hp, -⟩, -⟩ := sectionOf?_eq_some_iff.mp hs
    rw [parentOf?_of_one_lt hb hl, ← sectionOf?_of_one_lt hb hl, hs]
    exact ⟨p, hp⟩

/-! ## The planned time -/

/-- What a marker adds to the planned time: only a section with time control has any. -/
def Marker.planned (m : Marker) : Nat :=
  if m.level = 1 ∧ m.isTimeControlled = true then m.time else 0

/-- The budgets of all level-1 blocks together, however large. -/
def plannedTime : List Block → Nat
  | [] => 0
  | b :: bs => (if b.isTopLevel then b.time else 0) + plannedTime bs

/-- **The program sums the planned time in 32 bits.** -/
theorem scheduledTotal_eq_ofNat (blocks : List Block) :
    scheduledTotal blocks = UInt32.ofNat (plannedTime blocks) := by
  induction blocks with
  | nil => rfl
  | cons b blocks ih =>
      have hbudget : (if b.isTopLevel then UInt32.ofNat b.time else 0) =
          UInt32.ofNat (if b.isTopLevel then b.time else 0) := by
        split <;> rfl
      rw [scheduledTotal, plannedTime, ih, hbudget, UInt32.ofNat_add]

/-- **The planned time is a sum over the markers** of the blocks. -/
theorem plannedTime_eq_sum (blocks : List Block) :
    plannedTime blocks = ((blocks.filterMap Block.marker).map Marker.planned).sum := by
  induction blocks with
  | nil => rfl
  | cons b blocks ih =>
      rw [plannedTime, ih]
      cases hm : b.marker with
      | none =>
          have htop : b.isTopLevel = false := by simp [Block.isTopLevel, Block.level, hm]
          rw [htop, List.filterMap_cons_none hm]
          simp
      | some m =>
          have htop : b.isTopLevel = true ↔ m.level = 1 := by
            rw [isTopLevel_iff, Block.level_of_marker hm]
          have htime : b.time = if m.isTimeControlled = true then m.time else 0 := by
            simp [Block.time, hm]
          have hplanned : (if b.isTopLevel = true then b.time else 0) = m.planned := by
            rw [if_congr htop rfl rfl, htime, Marker.planned, ite_and]
          rw [List.filterMap_cons_some hm, List.map_cons, List.sum_cons, hplanned]

theorem plannedTime_append (xs ys : List Block) :
    plannedTime (xs ++ ys) = plannedTime xs + plannedTime ys := by
  simp only [plannedTime_eq_sum, List.filterMap_append, List.map_append, List.sum_append]

theorem filterMap_marker_eq (blocks : List Block) :
    blocks.filterMap Block.marker = (blocks.map Block.marker).filterMap id := by
  rw [List.filterMap_map, Function.id_comp]

/-- Blocks with the same markers plan the same time. -/
theorem plannedTime_congr {xs ys : List Block}
    (h : xs.map Block.marker = ys.map Block.marker) : plannedTime xs = plannedTime ys := by
  rw [plannedTime_eq_sum, plannedTime_eq_sum, filterMap_marker_eq, filterMap_marker_eq, h]

end TalkTimer

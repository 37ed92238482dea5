import Mathlib.Logic.Function.Iterate
import TalkTimer.Proofs.Sections
import TalkTimer.Session

/-!
# Moves between blocks

A move restarts the counter of the section if it leaves the section. Which section that is, and
which block the screen shows for it, are told by two different functions; and a move ahead and a
move back enter a section from its two ends.

* **Section and parent** (`section_and_parent_agree`) – the block that is shown as the parent is the
  one that opens the section, on any list of blocks.
* **Paths** (`Timer.visit`) – some moves one after the other. Only the section of the blocks on the
  path and the last block matter for where they lead (`visit_concat`).
* **Round trips** (`roundTrip_eq`) – moves ahead and as many moves back are a path that ends where it
  began, and so are moves back and as many ahead.
-/

namespace TalkTimer

variable {blocks : List Block} {i j k lo hi : Nat} {t : Timer}

/-! ## Section and parent -/

/-- **The section and the parent of a block agree.** A block with a marker lies in the section of the
last block of level 1 at or before it, if there is one, and so do all blocks with markers in between.
The parent of a deeper block is the block that opens its section; so a move restarts the counter that
is shown beside the parent's budget exactly if it leaves the section that the parent opens. -/
theorem section_and_parent_agree (blocks : List Block) (i : Nat) :
    (∀ s, sectionOf? blocks i = some s ↔
      (∃ b m, blocks[i]? = some b ∧ b.marker = some m) ∧
        IsGreatest {k | k ≤ i ∧ IsTopLevelAt blocks k} s) ∧
    ((sectionOf? blocks i).isSome = true ↔
      (∃ b m, blocks[i]? = some b ∧ b.marker = some m) ∧ ∃ k, k ≤ i ∧ IsTopLevelAt blocks k) ∧
    (∀ s, sectionOf? blocks i = some s →
      sectionOf? blocks s = some s ∧
      ∀ k b m, s ≤ k → k ≤ i → blocks[k]? = some b → b.marker = some m →
        sectionOf? blocks k = some s) ∧
    ((parentOf? blocks i).isSome = true ↔
      ∃ b s, blocks[i]? = some b ∧ 1 < b.level ∧ sectionOf? blocks i = some s) ∧
    (∀ p, parentOf? blocks i = some p →
      ∃ s, sectionOf? blocks i = some s ∧ s < i ∧ blocks[s]? = some p) ∧
    ∀ (s : Session) (p : Block) (target : Nat), s.blocks = blocks → s.timer.block = i →
      s.parentBlock? = some p →
      ∃ k, blocks[k]? = some p ∧
        (s.timer.moveTo blocks target).parentElapsed =
          if sectionOf? blocks target = some k then s.timer.parentElapsed else 0 := by
  refine ⟨fun s => sectionOf?_eq_some_iff, sectionOf?_isSome_iff, ?_, parentOf?_isSome_iff, ?_, ?_⟩
  · intro s hs
    refine ⟨sectionOf?_self hs, ?_⟩
    intro k b m hsk hki hb hm
    exact sectionOf?_between hs hsk hki hb hm
  · intro p hp
    obtain ⟨-, s, -, -, hs, hlt, hps⟩ := parentOf?_eq_some_iff.mp hp
    exact ⟨s, hs, hlt, hps⟩
  · intro s p target hblocks hi hp
    rw [Session.parentBlock?, hblocks, hi] at hp
    obtain ⟨-, k, -, -, hk, -, hpk⟩ := parentOf?_eq_some_iff.mp hp
    refine ⟨k, hpk, ?_⟩
    rw [Timer.moveTo_parentElapsed, hi, hk]
    exact if_congr eq_comm rfl rfl

/-- Blocks that no script has: a deep one before the first section, one at level 0, and one without
marker in the middle. -/
def patchwork : List Block :=
  [none, some (.timed 2 30), some (.timed 1 60), none, some (.free 3), some (.timed 0 5),
    some (.timed 1 90)].map fun m => ⟨[], m, 0, ⟨0, 0⟩⟩

theorem section_and_parent_agree_patchwork :
    let s : Session := ⟨patchwork, ⟨4, true, 50, 10, 30⟩, false⟩
    sectionOf? patchwork 4 = some 2 ∧ sectionOf? patchwork 5 = some 2 ∧
      sectionOf? patchwork 3 = none ∧ (parentOf? patchwork 4).isSome = true ∧
      s.parentBlock? = patchwork[2]? ∧
      ∃ k, patchwork[k]? = patchwork[2]? ∧
        (s.timer.moveTo patchwork 5).parentElapsed =
          if sectionOf? patchwork 5 = some k then 30 else 0 := by
  intro s
  have hsection : sectionOf? patchwork 5 = some 2 := by decide
  obtain ⟨-, -, -, hparent, -, -⟩ := section_and_parent_agree patchwork 4
  obtain ⟨-, -, hbetween, -, -, -⟩ := section_and_parent_agree patchwork 5
  obtain ⟨-, -, -, -, -, hsession⟩ := section_and_parent_agree patchwork 4
  have hfour : sectionOf? patchwork 4 = some 2 :=
    (hbetween 2 hsection).2 4 _ _ (by decide) (by decide) rfl rfl
  have hsome := hparent.mpr ⟨_, 2, rfl, by decide, hfour⟩
  exact ⟨hfour, hsection, by decide, hsome, rfl, hsession s _ 5 rfl rfl rfl⟩

/-! ## Paths -/

/-- All blocks from `lo` to `hi` lie in the same section, or all of them lie in none. -/
def InOneSection (blocks : List Block) (lo hi : Nat) : Prop :=
  ∀ i, lo ≤ i → i ≤ hi → ∀ j, lo ≤ j → j ≤ hi → sectionOf? blocks i = sectionOf? blocks j

instance : Decidable (InOneSection blocks lo hi) :=
  inferInstanceAs (Decidable (∀ i, lo ≤ i → i ≤ hi → ∀ j, lo ≤ j → j ≤ hi →
    sectionOf? blocks i = sectionOf? blocks j))

/-- It is enough to compare the blocks with any one of them. -/
theorem inOneSection_iff (hlo : lo ≤ i) (hhi : i ≤ hi) :
    InOneSection blocks lo hi ↔
      ∀ j, lo ≤ j → j ≤ hi → sectionOf? blocks j = sectionOf? blocks i := by
  constructor
  · intro h j hj hj'
    exact h j hj hj' i hlo hhi
  · intro h j hj hj' k hk hk'
    rw [h j hj hj', h k hk hk']

namespace Timer

theorem next_of_hasNext (h : t.block + 1 < blocks.length) :
    t.next blocks = t.moveTo blocks (t.block + 1) := by
  rw [next, if_pos ((hasNext_iff blocks t).mpr h)]

theorem next_of_atLast (h : blocks.length ≤ t.block + 1) : t.next blocks = t := by
  have hnot : ¬ t.hasNext blocks = true := by
    rw [hasNext_iff]
    omega
  rw [next, if_neg hnot]

theorem previous_of_pos (hne : blocks ≠ []) (h : 0 < t.block) :
    t.previous blocks = t.moveTo blocks (t.block - 1) := by
  rw [previous, if_neg]
  rintro (hzero | hnil)
  · omega
  · exact hne hnil

theorem previous_of_atFirst (h : t.block = 0 ∨ blocks = []) : t.previous blocks = t := by
  rw [previous, if_pos h]

/-- Move to one block after the other. -/
def visit (blocks : List Block) (path : List Nat) (t : Timer) : Timer :=
  path.foldl (fun t target => t.moveTo blocks target) t

@[simp] theorem visit_nil (t : Timer) : t.visit blocks [] = t := rfl

@[simp] theorem visit_cons (t : Timer) (target : Nat) (path : List Nat) :
    t.visit blocks (target :: path) = (t.moveTo blocks target).visit blocks path := rfl

theorem visit_append (t : Timer) (xs ys : List Nat) :
    t.visit blocks (xs ++ ys) = (t.visit blocks xs).visit blocks ys := List.foldl_append

/-- **A path** leads to its last block, and it keeps the counter of the section exactly if it never
leaves the section. Once restarted the counter stays at nothing, so it does not matter where. -/
theorem visit_concat (t : Timer) (path : List Nat) (last : Nat) :
    t.visit blocks (path ++ [last]) =
      { t with
        block := last
        blockElapsed := 0
        parentElapsed :=
          if ∀ i ∈ path ++ [last], sectionOf? blocks i = sectionOf? blocks t.block then
            t.parentElapsed
          else 0 } := by
  induction path generalizing t with
  | nil =>
      show t.moveTo blocks last = _
      simp only [moveTo, List.nil_append, List.forall_mem_singleton]
      rw [if_congr eq_comm rfl rfl]
  | cons target path ih =>
      rw [List.cons_append, visit_cons, ih]
      simp only [moveTo, List.forall_mem_cons]
      by_cases h : sectionOf? blocks target = sectionOf? blocks t.block
      · simp only [h, true_and, if_true]
      · -- the first move leaves the section already
        have h' : ¬ sectionOf? blocks t.block = sectionOf? blocks target := Ne.symm h
        simp only [h, h', false_and, if_false, ite_self]

/-- Moves ahead are a path. -/
theorem iterate_next (h : t.block + k < blocks.length) :
    (next blocks)^[k] t = t.visit blocks (List.range' (t.block + 1) k) := by
  induction k generalizing t with
  | zero => rfl
  | succ k ih =>
      have hlt : (t.moveTo blocks (t.block + 1)).block + k < blocks.length := by
        rw [moveTo_block]
        omega
      rw [Function.iterate_succ_apply, next_of_hasNext (by omega), ih hlt, List.range'_succ]
      rfl

/-- Moves back are a path. -/
theorem iterate_previous (hne : blocks ≠ []) (h : k ≤ t.block) :
    (previous blocks)^[k] t = t.visit blocks (List.range' (t.block - k) k).reverse := by
  induction k generalizing t with
  | zero => rfl
  | succ k ih =>
      have hle : k ≤ (t.moveTo blocks (t.block - 1)).block := by
        rw [moveTo_block]
        omega
      have hstart : t.block - (k + 1) = t.block - 1 - k := by omega
      have hlast : t.block - 1 - k + k = t.block - 1 := by omega
      rw [Function.iterate_succ_apply, previous_of_pos hne (by omega), ih hle, moveTo_block, hstart,
        List.range'_concat, List.reverse_append, Nat.one_mul, hlast]
      rfl

/-- A path that ends where it began restarts the counter of the block, and that of the section if it
led out of the section. -/
theorem visit_return {path : List Nat} (h : ∀ i, i ∈ path ++ [t.block] ↔ lo ≤ i ∧ i ≤ hi) :
    t.visit blocks (path ++ [t.block]) =
      { t with
        blockElapsed := 0
        parentElapsed := if InOneSection blocks lo hi then t.parentElapsed else 0 } := by
  obtain ⟨hlo, hhi⟩ := (h t.block).mp (by simp)
  have hpath : (∀ i ∈ path ++ [t.block], sectionOf? blocks i = sectionOf? blocks t.block) ↔
      InOneSection blocks lo hi := by
    rw [inOneSection_iff hlo hhi]
    simp only [h, and_imp]
  rw [visit_concat, if_congr hpath rfl rfl]

/-! ## Round trips -/

/-- Some moves ahead and as many back. -/
theorem previous_next_iterate (h : t.block + (k + 1) < blocks.length) :
    (previous blocks)^[k + 1] ((next blocks)^[k + 1] t) =
      { t with
        blockElapsed := 0
        parentElapsed :=
          if InOneSection blocks t.block (t.block + (k + 1)) then t.parentElapsed else 0 } := by
  have hne : blocks ≠ [] := List.ne_nil_of_length_pos (Nat.zero_lt_of_lt h)
  have hthere : ((next blocks)^[k + 1] t).block = t.block + (k + 1) := by
    rw [iterate_next h, List.range'_concat, visit_concat, Nat.one_mul]
    show t.block + 1 + k = t.block + (k + 1)
    omega
  -- the way back ends at the block where the trip began
  have hback : (List.range' t.block (k + 1)).reverse =
      (List.range' (t.block + 1) k).reverse ++ [t.block] := by
    rw [List.range'_succ, List.reverse_cons]
  rw [iterate_previous hne (by omega), hthere, Nat.add_sub_cancel, iterate_next h, ← visit_append,
    hback, ← List.append_assoc]
  apply visit_return
  intro i
  simp only [List.mem_append, List.mem_reverse, List.mem_range'_1, List.mem_singleton]
  omega

/-- Some moves back and as many ahead. -/
theorem next_previous_iterate (hlt : t.block < blocks.length) (h : k + 1 ≤ t.block) :
    (next blocks)^[k + 1] ((previous blocks)^[k + 1] t) =
      { t with
        blockElapsed := 0
        parentElapsed :=
          if InOneSection blocks (t.block - (k + 1)) t.block then t.parentElapsed else 0 } := by
  have hne : blocks ≠ [] := List.ne_nil_of_length_pos (Nat.zero_lt_of_lt hlt)
  have hthere : ((previous blocks)^[k + 1] t).block = t.block - (k + 1) := by
    rw [iterate_previous hne h, List.range'_succ, List.reverse_cons, visit_concat]
  have hlast : t.block - (k + 1) + 1 + k = t.block := by omega
  rw [iterate_next (by omega), hthere, iterate_previous hne h, ← visit_append,
    List.range'_concat (s := t.block - (k + 1) + 1), Nat.one_mul, hlast, ← List.append_assoc]
  apply visit_return
  intro i
  simp only [List.mem_append, List.mem_reverse, List.mem_range'_1, List.mem_singleton]
  omega

end Timer

/-- **A round trip** through `k` blocks, ahead and back or back and ahead, returns to the block where
it began. The time runs or stands as before, and so does the time of the talk; the counter of the
block starts anew, and the counter of the section does so too unless all blocks of the trip lie in
one section. A move beyond the first or the last block changes nothing, however often it is made. -/
theorem roundTrip_eq (blocks : List Block) (t : Timer) (hk : 0 < k) :
    (t.block + k < blocks.length →
      (Timer.previous blocks)^[k] ((Timer.next blocks)^[k] t) =
        { block := t.block
          playing := t.playing
          total := t.total
          blockElapsed := 0
          parentElapsed :=
            if InOneSection blocks t.block (t.block + k) then t.parentElapsed else 0 }) ∧
    (t.block < blocks.length → k ≤ t.block →
      (Timer.next blocks)^[k] ((Timer.previous blocks)^[k] t) =
        { block := t.block
          playing := t.playing
          total := t.total
          blockElapsed := 0
          parentElapsed :=
            if InOneSection blocks (t.block - k) t.block then t.parentElapsed else 0 }) ∧
    (blocks.length ≤ t.block + 1 → ∀ n, (Timer.next blocks)^[n] t = t) ∧
    (t.block = 0 ∨ blocks = [] → ∀ n, (Timer.previous blocks)^[n] t = t) := by
  obtain ⟨k, rfl⟩ := Nat.exists_eq_add_of_le' hk
  refine ⟨?_, ?_, ?_, ?_⟩
  · intro h
    exact t.previous_next_iterate h
  · intro hlt h
    exact t.next_previous_iterate hlt h
  · intro hlast n
    exact Function.iterate_fixed (t.next_of_atLast hlast) n
  · intro hfirst n
    exact Function.iterate_fixed (t.previous_of_atFirst hfirst) n

/-- From the deep block to the one behind it and back the trip stays in the section. Two blocks back
and ahead it ends in the section where it began, but there is a block without section on the way. -/
theorem roundTrip_eq_patchwork :
    let t : Timer := ⟨4, true, 50, 10, 30⟩
    (Timer.previous patchwork)^[1] ((Timer.next patchwork)^[1] t) = ⟨4, true, 50, 0, 30⟩ ∧
      (Timer.next patchwork)^[2] ((Timer.previous patchwork)^[2] t) = ⟨4, true, 50, 0, 0⟩ ∧
      (Timer.next patchwork)^[3] ⟨6, true, 50, 10, 30⟩ = ⟨6, true, 50, 10, 30⟩ ∧
      (Timer.previous patchwork)^[3] .start = .start := by
  intro t
  obtain ⟨hahead, -, -, -⟩ := roundTrip_eq patchwork t (k := 1) (by decide)
  obtain ⟨-, hback, -, -⟩ := roundTrip_eq patchwork t (k := 2) (by decide)
  obtain ⟨-, -, hlast, -⟩ := roundTrip_eq patchwork ⟨6, true, 50, 10, 30⟩ (k := 1) (by decide)
  obtain ⟨-, -, -, hfirst⟩ := roundTrip_eq patchwork .start (k := 1) (by decide)
  have hone : InOneSection patchwork t.block (t.block + 1) := by decide
  have htwo : ¬ InOneSection patchwork (t.block - 2) t.block := by decide
  refine ⟨?_, ?_, hlast (by decide) 3, hfirst (Or.inl rfl) 3⟩
  · rw [hahead (by decide), if_pos hone]
  · rw [hback (by decide) (by decide), if_neg htwo]

end TalkTimer

import Mathlib.Order.Bounds.Basic
import TalkTimer.Proofs.Runs

/-!
# The schedule of an undisturbed talk

With auto-advance on, a talk that is only ever played runs to a schedule: each block takes its
budget, one after the other, until a block comes that has none to use up. Where the timer stands
after `n` seconds can then be computed from the budgets, without taking a single tick.

* **The schedule** (`budget?`, `budgetsBefore?`, `BeginsRun`) – when a block begins, and where the
  run of blocks begins that the counter of the section is about.
* **The invariant** (`OnSchedule`) – the counters, each with the second it is counted from. One tick
  keeps it (`OnSchedule.tick`): either the budget is not used up yet, or exactly now.
* **The closed form** (`timer_eq_schedule`) – the block is the last one that the schedule lets begin
  within `n` seconds.
-/

namespace TalkTimer

/-! ## The schedule -/

/-- The seconds after which block `i` gives way to the next one, if it ever does: a block without
time control, one without time and the last one stay for good. So would a block with more time than
a counter can show. -/
def budget? (blocks : List Block) (i : Nat) : Option Nat :=
  if i + 1 < blocks.length then
    (blocks[i]?.filter fun b =>
      b.isTimeControlled && 0 < b.time && b.time < UInt32.size).map Block.time
  else none

/-- The sum of the budgets before block `k`, if all of them are finite. -/
def budgetsBefore? (blocks : List Block) : Nat → Option Nat
  | 0 => some 0
  | k + 1 => (budgetsBefore? blocks k).bind fun spent => (budget? blocks k).map (spent + ·)

/-- Block `h` begins the run of blocks up to block `k` that all lie in one section: it is the first
one from which the section does not change. -/
def BeginsRun (blocks : List Block) (k h : Nat) : Prop :=
  IsLeast {h | h ≤ k ∧ ∀ i, h ≤ i → i ≤ k → sectionOf? blocks i = sectionOf? blocks k} h

variable {blocks : List Block} {i k h n b spent : Nat} {t : Timer}

theorem budget?_eq_some_iff :
    budget? blocks i = some b ↔
      i + 1 < blocks.length ∧ ∃ x, blocks[i]? = some x ∧ x.isTimeControlled = true ∧ 0 < x.time ∧
        x.time < UInt32.size ∧ x.time = b := by
  unfold budget?
  split
  · next hi =>
    simp only [hi, true_and, Option.map_eq_some_iff, Option.filter_eq_some_iff, Bool.and_eq_true,
      decide_eq_true_eq, and_assoc]
  · next hi => exact iff_of_false (by simp) fun hb => hi hb.1

theorem budget?_pos (hb : budget? blocks i = some b) : 0 < b := by
  obtain ⟨-, x, -, -, hpos, -, rfl⟩ := budget?_eq_some_iff.mp hb
  exact hpos

theorem budget?_lt_size (hb : budget? blocks i = some b) : b < UInt32.size := by
  obtain ⟨-, x, -, -, -, hfits, rfl⟩ := budget?_eq_some_iff.mp hb
  exact hfits

theorem budgetsBefore?_succ (hk : budgetsBefore? blocks k = some spent)
    (hb : budget? blocks k = some b) : budgetsBefore? blocks (k + 1) = some (spent + b) := by
  rw [budgetsBefore?, hk, Option.bind_some, hb, Option.map_some]

/-- A later block begins only after the budget of an earlier one is used up. -/
theorem add_le_of_budgetsBefore? {k' spent' : Nat} (hlt : k < k')
    (hk' : budgetsBefore? blocks k' = some spent') :
    ∃ spent b, budgetsBefore? blocks k = some spent ∧ budget? blocks k = some b ∧
      spent + b ≤ spent' := by
  induction k' generalizing spent' with
  | zero => omega
  | succ k' ih =>
      obtain ⟨spent, hspent, hmap⟩ := Option.bind_eq_some_iff.mp hk'
      obtain ⟨b, hb, rfl⟩ := Option.map_eq_some_iff.mp hmap
      rcases Nat.lt_succ_iff_lt_or_eq.mp hlt with hlt | rfl
      · obtain ⟨s, c, hs, hc, hle⟩ := ih hlt hspent
        exact ⟨s, c, hs, hc, by omega⟩
      · exact ⟨spent, b, hspent, hb, Nat.le_refl _⟩

theorem eq_zero_of_budgetsBefore?_nil (hk : budgetsBefore? [] k = some spent) : k = 0 := by
  refine Nat.eq_zero_of_not_pos fun hpos => ?_
  obtain ⟨s, b, -, hb, -⟩ := add_le_of_budgetsBefore? hpos hk
  obtain ⟨hlen, -⟩ := budget?_eq_some_iff.mp hb
  cases hlen

/-! ## Runs of one section -/

theorem beginsRun_zero (blocks : List Block) : BeginsRun blocks 0 0 := by
  refine ⟨⟨Nat.le_refl 0, fun i _ hi => ?_⟩, fun h _ => Nat.zero_le h⟩
  rw [Nat.le_zero.mp hi]

theorem BeginsRun.succ (hrun : BeginsRun blocks k h)
    (hsec : sectionOf? blocks k = sectionOf? blocks (k + 1)) : BeginsRun blocks (k + 1) h := by
  obtain ⟨⟨hle, hall⟩, hleast⟩ := hrun
  refine ⟨⟨by omega, fun i hi hik => ?_⟩, ?_⟩
  · rcases Nat.le_succ_iff.mp hik with hik | rfl
    · rw [hall i hi hik, hsec]
    · rfl
  · -- an earlier beginning would have served the shorter run too
    rintro h' ⟨hle', hall'⟩
    rcases Nat.le_succ_iff.mp hle' with hle' | rfl
    · refine hleast ⟨hle', fun i hi hik => ?_⟩
      rw [hall' i hi (by omega), hsec]
    · omega

theorem beginsRun_succ_self (hsec : sectionOf? blocks k ≠ sectionOf? blocks (k + 1)) :
    BeginsRun blocks (k + 1) (k + 1) := by
  refine ⟨⟨Nat.le_refl _, fun i hi hik => ?_⟩, ?_⟩
  · rw [Nat.le_antisymm hik hi]
  · rintro h' ⟨hle', hall'⟩
    refine Nat.not_lt.mp fun hlt => hsec ?_
    exact hall' k (by omega) (by omega)

/-! ## The invariant -/

/-- After `n` seconds a counter **counts from** second `first` on, as far as 32 bits go. -/
def CountsFrom (first n : Nat) (counter : UInt32) : Prop :=
  first ≤ n ∧ counter = UInt32.ofNat (n - first)

theorem countsFrom_self (n : Nat) : CountsFrom n n 0 := by
  refine ⟨Nat.le_refl n, ?_⟩
  rw [Nat.sub_self]
  rfl

theorem CountsFrom.succ {first : Nat} {counter : UInt32} (h : CountsFrom first n counter) :
    CountsFrom first (n + 1) (counter + 1) := by
  obtain ⟨hle, rfl⟩ := h
  refine ⟨Nat.le_succ_of_le hle, ?_⟩
  rw [Nat.succ_sub hle, Nat.succ_eq_add_one, UInt32.ofNat_add]
  rfl

/-- A counter is just the number of seconds since the first one while that number fits. -/
theorem CountsFrom.toNat_eq {first : Nat} {counter : UInt32} (h : CountsFrom first n counter)
    (hfits : n - first < UInt32.size) : counter.toNat = n - first := by
  rw [h.2, UInt32.toNat_ofNat_of_lt' hfits]

/-- After `n` seconds the timer is **on schedule**: its block began when the budgets before it were
used up and has not used up its own one yet, and the counter of the section counts from the
beginning of the run. -/
structure OnSchedule (blocks : List Block) (n : Nat) (t : Timer) : Prop where
  playing : t.playing = true
  total : CountsFrom 0 n t.total
  block : ∃ spent, budgetsBefore? blocks t.block = some spent ∧ CountsFrom spent n t.blockElapsed ∧
    ∀ b, budget? blocks t.block = some b → n < spent + b
  run : ∃ h spent, BeginsRun blocks t.block h ∧ budgetsBefore? blocks h = some spent ∧
    CountsFrom spent n t.parentElapsed

theorem onSchedule_start (blocks : List Block) : OnSchedule blocks 0 Timer.start.play where
  playing := rfl
  total := countsFrom_self 0
  block := by
    refine ⟨0, rfl, countsFrom_self 0, fun b hb => ?_⟩
    rw [Nat.zero_add]
    exact budget?_pos hb
  run := ⟨0, 0, beginsRun_zero blocks, rfl, countsFrom_self 0⟩

/-- A second more uses up the budget and there is a next block, or else the block stays. -/
theorem budgetSpent_advance_iff :
    (t.advance.budgetSpent blocks = true ∧ t.block + 1 < blocks.length) ↔
      ∃ b, budget? blocks t.block = some b ∧ b ≤ (t.blockElapsed + 1).toNat := by
  rw [Timer.budgetSpent_iff]
  constructor
  · rintro ⟨⟨x, hx, hcontrol, hpos, hle⟩, hlen⟩
    have hfits : x.time < UInt32.size := Nat.lt_of_le_of_lt hle (UInt32.toNat_lt_size _)
    exact ⟨x.time, budget?_eq_some_iff.mpr ⟨hlen, x, hx, hcontrol, hpos, hfits, rfl⟩, hle⟩
  · rintro ⟨b, hb, hle⟩
    obtain ⟨hlen, x, hx, hcontrol, hpos, -, rfl⟩ := budget?_eq_some_iff.mp hb
    exact ⟨⟨x, hx, hcontrol, hpos, hle⟩, hlen⟩

/-- No budget goes beyond 32 bits, so a counter below it has not begun anew: it reaches the budget in
the second in which the schedule does. -/
theorem le_toNat_succ_iff {counter : UInt32} (hcount : CountsFrom spent n counter)
    (hlt : n < spent + b) (hb : b < UInt32.size) :
    b ≤ (counter + 1).toNat ↔ n + 1 = spent + b := by
  have hle := hcount.1
  have hfits : n + 1 - spent < UInt32.size := by omega
  rw [hcount.succ.toNat_eq hfits]
  omega

/-- The block stays while a budget is left. -/
theorem OnSchedule.advance (ht : OnSchedule blocks n t)
    (hleft : ¬ ∃ b, budget? blocks t.block = some b ∧ b ≤ (t.blockElapsed + 1).toNat) :
    OnSchedule blocks (n + 1) t.advance where
  playing := ht.playing
  total := ht.total.succ
  block := by
    obtain ⟨spent, hspent, hcount, hwithin⟩ := ht.block
    refine ⟨spent, hspent, hcount.succ, fun b hb => ?_⟩
    have hlt := hwithin b hb
    have hne : ¬ n + 1 = spent + b := fun heq =>
      hleft ⟨b, hb, (le_toNat_succ_iff hcount hlt (budget?_lt_size hb)).mpr heq⟩
    omega
  run := by
    obtain ⟨h, spent, hrun, hspent, hcount⟩ := ht.run
    exact ⟨h, spent, hrun, hspent, hcount.succ⟩

/-- The next block begins in the very second in which the budget is used up. -/
theorem OnSchedule.moveTo (ht : OnSchedule blocks n t) (hb : budget? blocks t.block = some b)
    (hle : b ≤ (t.blockElapsed + 1).toNat) :
    OnSchedule blocks (n + 1) (t.advance.moveTo blocks (t.block + 1)) := by
  obtain ⟨spent, hspent, hcount, hwithin⟩ := ht.block
  have hnow : n + 1 = spent + b :=
    (le_toNat_succ_iff hcount (hwithin b hb) (budget?_lt_size hb)).mp hle
  -- the budget is used up now and not before, so the next block begins after `n + 1` seconds
  have hnext : budgetsBefore? blocks (t.block + 1) = some (n + 1) := by
    rw [budgetsBefore?_succ hspent hb, hnow]
  have hblock : ∀ b, budget? blocks (t.block + 1) = some b → n + 1 < n + 1 + b := fun _ hb =>
    Nat.lt_add_of_pos_right (budget?_pos hb)
  refine ⟨ht.playing, ht.total.succ, ⟨n + 1, hnext, countsFrom_self _, hblock⟩, ?_⟩
  rw [Timer.moveTo_block, Timer.moveTo_parentElapsed, Timer.advance_block,
    Timer.advance_parentElapsed]
  by_cases hsec : sectionOf? blocks t.block = sectionOf? blocks (t.block + 1)
  · obtain ⟨h, spent, hrun, hspent, hcount⟩ := ht.run
    rw [if_pos hsec]
    exact ⟨h, spent, hrun.succ hsec, hspent, hcount.succ⟩
  · rw [if_neg hsec]
    exact ⟨t.block + 1, n + 1, beginsRun_succ_self hsec, hnext, countsFrom_self _⟩

/-- **One second keeps the schedule.** -/
theorem OnSchedule.tick (ht : OnSchedule blocks n t) :
    OnSchedule blocks (n + 1) (t.tick blocks true) := by
  rw [Timer.tick_of_playing ht.playing]
  split
  · next hspent =>
    obtain ⟨b, hb, hle⟩ := budgetSpent_advance_iff.mp hspent.2
    exact ht.moveTo hb hle
  · next hspent =>
    exact ht.advance fun hb => hspent ⟨rfl, budgetSpent_advance_iff.mpr hb⟩

/-- **Any number of seconds** keeps the schedule of a session that advances by itself. -/
theorem OnSchedule.after {s : Session} (hs : OnSchedule s.blocks k s.timer)
    (hauto : s.autoAdvance = true) (n : Nat) :
    OnSchedule s.blocks (k + n) (s.after (Ticker.events n)).timer := by
  induction n generalizing s k with
  | zero => exact hs
  | succ n ih =>
      have htick : OnSchedule s.blocks (k + 1) s.tick.1.timer := by
        have h := hs.tick
        rwa [← hauto] at h
      have hrest := ih (s := s.tick.1) htick hauto
      have hn : k + 1 + n = k + (n + 1) := by omega
      rw [hn] at hrest
      exact hrest

/-- The block of a timer on schedule is the last one whose budgets before it fit into the time. -/
theorem OnSchedule.isGreatest (ht : OnSchedule blocks n t) :
    IsGreatest {k | ∃ spent, budgetsBefore? blocks k = some spent ∧ spent ≤ n} t.block := by
  obtain ⟨spent, hspent, hcount, hwithin⟩ := ht.block
  refine ⟨⟨spent, hspent, hcount.1⟩, ?_⟩
  rintro k ⟨spent', hspent', hle⟩
  refine Nat.not_lt.mp fun hlt => ?_
  -- a later block would have to wait for a budget that is not used up
  obtain ⟨s, b, hs, hb, hsum⟩ := add_le_of_budgetsBefore? hlt hspent'
  have heq : s = spent := Option.some.inj (hs.symm.trans hspent)
  have hlt := hwithin b hb
  omega

/-! ## The closed form -/

theorem run_play_ticks (s : Session) (n : Nat) :
    s.run (.command .play :: Ticker.events n) =
      (s.take (.command .play)).1.after (Ticker.events n) := by
  have hquit : .quit ∉ Event.command .play :: Ticker.events n := by
    simp [Ticker.events, List.mem_replicate]
  rw [Session.run_eq_after, heard_eq_self hquit, Session.after_cons]

/-- **An undisturbed talk runs to schedule.** A new session with auto-advance that is played for `n`
seconds stands in the last block `k` for which all budgets before it are finite and fit into `n`
seconds. It is in this block since they were used up, and in its section since the budgets before
block `h` were, where the run of blocks of this section began. So the counters are these times in 32
bits, for any `n`, and just these times for any `n` that a counter can show. -/
theorem timer_eq_schedule (blocks : List Block) (n : Nat) :
    ∃ k h spentBeforeBlock spentBeforeRun,
      let t := ((Session.start blocks true).run (.command .play :: Ticker.events n)).timer
      IsGreatest {k | ∃ spent, budgetsBefore? blocks k = some spent ∧ spent ≤ n} k ∧
      BeginsRun blocks k h ∧
      budgetsBefore? blocks k = some spentBeforeBlock ∧
      budgetsBefore? blocks h = some spentBeforeRun ∧
      (blocks = [] → k = 0 ∧ h = 0) ∧
      t =
        { block := k
          playing := true
          total := UInt32.ofNat n
          blockElapsed := UInt32.ofNat (n - spentBeforeBlock)
          parentElapsed := UInt32.ofNat (n - spentBeforeRun) } ∧
      (n < UInt32.size →
        t.total.toNat = n ∧ t.blockElapsed.toNat = n - spentBeforeBlock ∧
        t.parentElapsed.toNat = n - spentBeforeRun) := by
  let s := ((Session.start blocks true).take (.command .play)).1
  have hstart : OnSchedule s.blocks 0 s.timer := onSchedule_start blocks
  have ht : OnSchedule blocks (0 + n) (s.after (Ticker.events n)).timer := hstart.after rfl n
  rw [Nat.zero_add, ← run_play_ticks] at ht
  generalize ((Session.start blocks true).run (.command .play :: Ticker.events n)).timer = t at ht
  obtain ⟨spentBlock, hblock, hcount, -⟩ := ht.block
  obtain ⟨h, spentRun, hrun, hspent, hcount'⟩ := ht.run
  refine ⟨t.block, h, spentBlock, spentRun, ht.isGreatest, hrun, hblock, hspent, ?_, ?_, ?_⟩
  · rintro rfl
    exact ⟨eq_zero_of_budgetsBefore?_nil hblock, eq_zero_of_budgetsBefore?_nil hspent⟩
  · obtain ⟨block, playing, total, blockElapsed, parentElapsed⟩ := t
    have hplaying : playing = true := ht.playing
    have htotal : total = UInt32.ofNat n := ht.total.2
    have hb : blockElapsed = UInt32.ofNat (n - spentBlock) := hcount.2
    have hp : parentElapsed = UInt32.ofNat (n - spentRun) := hcount'.2
    rw [hplaying, htotal, hb, hp]
  · intro hn
    exact ⟨ht.total.toNat_eq hn, hcount.toNat_eq (Nat.lt_of_le_of_lt (Nat.sub_le n _) hn),
      hcount'.toNat_eq (Nat.lt_of_le_of_lt (Nat.sub_le n _) hn)⟩

end TalkTimer

import Mathlib.Data.List.Forall2
import TalkTimer.Proofs.Runs
import TalkTimer.Readers
import TalkTimer.ScriptTest

/-!
# What a script test says

A test passes exactly if all that its front matter expects is so (`passes_iff_metBy`). The
expectations are said here without any order of checks, and without reasons of failure:

* **Single wishes** (`Fits`) – of a block, of a finding and of the session at the end; what is not
  given is not asked for.
* **Lists** (`checkEach_eq_none_iff`) – lists fit if they are equally long and fit place by place.
* **Steps** (`runSteps_eq_ok_iff`) – steps that can all be read are a run of the session.
* **The whole test** (`check_eq_none_iff`) – the blocks, and then either the findings or the
  session.
-/

namespace TalkTimer

open Text ScriptTest

/-! ## Single wishes -/

/-- A block is as it is expected. A block without title counts as one with an empty title. -/
structure ExpectedBlock.Fits [MarkdownReader] (e : ExpectedBlock) (b : Block) : Prop where
  level : ∀ l ∈ e.level, b.level = l
  time : ∀ t ∈ e.time, b.time = t
  untimed : ∀ u ∈ e.untimed, b.isUntimed = u
  title : ∀ t ∈ e.title, b.title?.getD [] = t

/-- A finding is as it is expected: its message contains the given text, and its line, counted from
one, is the given one. -/
structure ExpectedFinding.Fits (e : ExpectedFinding) (f : Finding) : Prop where
  contains : e.contains <:+: f.fault.message
  line : ∀ n ∈ e.line, f.line + 1 = n

/-- A session is as it is expected. -/
structure ExpectedState.Fits (e : ExpectedState) (s : Session) : Prop where
  block : ∀ i ∈ e.block, s.timer.block = i
  playing : ∀ p ∈ e.playing, s.timer.playing = p
  total : ∀ n ∈ e.total, s.timer.total.toNat = n
  blockElapsed : ∀ n ∈ e.blockElapsed, s.timer.blockElapsed.toNat = n
  parentElapsed : ∀ n ∈ e.parentElapsed, s.timer.parentElapsed.toNat = n
  overtime : ∀ o ∈ e.overtime, s.isOvertime = o

namespace ScriptTest

/-- A failure that is reported unless a wish is met. -/
theorem unless_eq_none_iff {met : Bool} {failure : TestFailure} {rest : Option TestFailure} :
    (if !met then some failure else rest) = none ↔ met = true ∧ rest = none := by
  cases met <;> simp

theorem checkBlock_eq_none_iff [MarkdownReader] (index : Nat) (b : Block) (e : ExpectedBlock) :
    checkBlock index b e = none ↔ e.Fits b := by
  simp only [checkBlock, unless_eq_none_iff, wants_iff, and_true]
  exact ⟨fun ⟨h₁, h₂, h₃, h₄⟩ => ⟨h₁, h₂, h₃, h₄⟩, fun h => ⟨h.level, h.time, h.untimed, h.title⟩⟩

theorem checkFinding_eq_none_iff (index : Nat) (f : Finding) (e : ExpectedFinding) :
    checkFinding index f e = none ↔ e.Fits f := by
  simp only [checkFinding, unless_eq_none_iff, occursIn_iff, wants_iff, and_true]
  exact ⟨fun ⟨h₁, h₂⟩ => ⟨h₁, h₂⟩, fun h => ⟨h.contains, h.line⟩⟩

theorem checkNumber_eq_none_iff {field : String} {wish : Option Nat} {found : Nat} :
    checkNumber field wish found = none ↔ ∀ n ∈ wish, found = n := by
  rw [← wants_iff, checkNumber]
  split
  · next h => exact iff_of_true rfl h
  · next h => exact iff_of_false (by simp) h

theorem checkTruth_eq_none_iff {field : String} {wish : Option Bool} {found : Bool} :
    checkTruth field wish found = none ↔ ∀ b ∈ wish, found = b := by
  rw [checkTruth, checkNumber_eq_none_iff]
  cases wish with
  | none => simp
  | some b => cases b <;> cases found <;> simp

theorem checkState_eq_none_iff {s : Session} {e : ExpectedState} :
    checkState s e = none ↔ e.Fits s := by
  simp only [checkState, Option.or_eq_none_iff, checkNumber_eq_none_iff, checkTruth_eq_none_iff]
  exact ⟨fun ⟨h₁, h₂, h₃, h₄, h₅, h₆⟩ => ⟨h₁, h₂, h₃, h₄, h₅, h₆⟩,
    fun h => ⟨h.block, h.playing, h.total, h.blockElapsed, h.parentElapsed, h.overtime⟩⟩

/-! ## Lists -/

/-- **Place by place.** Equally long lists show no failure exactly if all their pairs fit. -/
theorem checkEach_eq_none_iff {α β : Type} {check : Nat → α → β → Option TestFailure}
    {R : α → β → Prop} (hcheck : ∀ i a b, check i a b = none ↔ R a b) {as : List α} {bs : List β}
    (hlength : as.length = bs.length) (index : Nat) :
    checkEach check index as bs = none ↔ List.Forall₂ R as bs := by
  induction as generalizing bs index with
  | nil =>
      rw [List.eq_nil_of_length_eq_zero hlength.symm]
      exact iff_of_true rfl .nil
  | cons a as ih =>
      cases bs with
      | nil => cases hlength
      | cons b bs =>
          rw [checkEach, Option.or_eq_none_iff, hcheck, ih (Nat.succ.inj hlength),
            List.forall₂_cons]

theorem checkBlocks_eq_none_iff [MarkdownReader] {bs : List Block} {es : List ExpectedBlock} :
    checkBlocks bs es = none ↔ List.Forall₂ (fun b e => e.Fits b) bs es := by
  rw [checkBlocks]
  split
  · next h => exact iff_of_false (by simp) fun hall => h hall.length_eq
  · next h => exact checkEach_eq_none_iff checkBlock_eq_none_iff (not_not.mp h) 0

theorem checkFindings_eq_none_iff {fs : List Finding} {es : List ExpectedFinding} :
    checkFindings fs es = none ↔ List.Forall₂ (fun f e => e.Fits f) fs es := by
  rw [checkFindings]
  split
  · next h => exact iff_of_false (by simp) fun hall => h hall.length_eq
  · next h => exact checkEach_eq_none_iff checkFinding_eq_none_iff (not_not.mp h) 0

end ScriptTest

/-! ## Steps -/

/-- What a step sends to the session. -/
def Step.events : Step → List Event
  | .ticks n => List.replicate n .tick
  | .command c => [.command c]

/-- The texts can be read as these steps. -/
def Step.AllRead (texts : List Text) (steps : List Step) : Prop :=
  List.Forall₂ (fun t k => Step.read t = .ok k) texts steps

namespace ScriptTest

theorem ticks_eq_after (n : Nat) (s : Session) : ticks n s = s.after (List.replicate n .tick) := by
  induction n generalizing s with
  | zero => rfl
  | succ n ih => exact ih s.tick.1

/-- A step that can be read sends its events. -/
theorem runSteps_cons {t : Text} {k : Step} (h : Step.read t = .ok k) (s : Session)
    (ts : List Text) : runSteps s (t :: ts) = runSteps (s.after k.events) ts := by
  cases k with
  | ticks n => rw [runSteps, h, Step.events, ← ticks_eq_after]
  | command c =>
      rw [runSteps, h]
      rfl

/-- **Steps are a run.** The steps of a test lead to a session exactly if all of them can be read,
and then it is the session after their events. -/
theorem runSteps_eq_ok_iff {s s' : Session} {ts : List Text} :
    runSteps s ts = .ok s' ↔
      ∃ steps, Step.AllRead ts steps ∧ s' = s.after (steps.flatMap Step.events) := by
  induction ts generalizing s with
  | nil =>
      constructor
      · intro h
        cases h
        exact ⟨[], .nil, rfl⟩
      · rintro ⟨steps, hread, rfl⟩
        cases hread
        rfl
  | cons t ts ih =>
      cases ht : Step.read t with
      | error cause =>
          rw [runSteps, ht]
          refine iff_of_false (by simp) ?_
          rintro ⟨steps, hread, -⟩
          cases hread with
          | cons hk _ => cases ht.symm.trans hk
      | ok k =>
          rw [runSteps_cons ht, ih]
          constructor
          · rintro ⟨steps, hread, rfl⟩
            exact ⟨k :: steps, .cons ht hread, (s.after_append _ _).symm⟩
          · rintro ⟨steps, hread, rfl⟩
            cases hread with
            | @cons _ k' _ steps hk hread =>
                cases ht.symm.trans hk
                exact ⟨steps, hread, s.after_append _ _⟩

end ScriptTest

/-! ## The whole test -/

namespace Expectations

/-- The blocks are as expected, if anything is expected of them. -/
def MeetsBlocks [MarkdownReader] (e : Expectations) (source : Text) : Prop :=
  ∀ bs ∈ e.blocks, List.Forall₂ (fun b w => w.Fits b) (segment source) bs

/-- Findings are expected, and there are just these. -/
def MeetsFindings (e : Expectations) (source : Text) : Prop :=
  ∃ fs ∈ e.findings, List.Forall₂ (fun f w => w.Fits f) (validate source) fs

/-- The blocks can be played with the steps, and the session at the end is as expected, if anything
is expected of it. -/
def MeetsSession (e : Expectations) (source : Text) : Prop :=
  ∃ steps, Step.AllRead e.steps steps ∧ ∀ w ∈ e.state,
    w.Fits ((Session.start (segment source) e.autoAdvance).after (steps.flatMap Step.events))

/-- A script **meets** the expectations: its blocks are as expected, and it is either invalid with
the expected findings, or valid without any expected and plays as expected. -/
def MetBy [MarkdownReader] (e : Expectations) (source : Text) : Prop :=
  e.MeetsBlocks source ∧
    (validate source ≠ [] ∧ e.MeetsFindings source ∨
      validate source = [] ∧ (∀ fs ∈ e.findings, fs = []) ∧ e.MeetsSession source)

end Expectations

namespace ScriptTest

variable {source : Text} {e : Expectations}

theorem checkSession_eq_none_iff :
    checkSession (segment source) e = none ↔ e.MeetsSession source := by
  rw [checkSession]
  cases hrun : runSteps (.start (segment source) e.autoAdvance) e.steps with
  | error cause =>
      refine iff_of_false (by simp) ?_
      rintro ⟨steps, hread, -⟩
      cases hrun.symm.trans (runSteps_eq_ok_iff.mpr ⟨steps, hread, rfl⟩)
  | ok s =>
      have hstate : e.state.bind (checkState s) = none ↔ ∀ w ∈ e.state, w.Fits s := by
        simp only [Option.bind_eq_none_iff, checkState_eq_none_iff, Option.mem_def]
      refine hstate.trans ⟨fun h => ?_, ?_⟩
      · obtain ⟨steps, hread, rfl⟩ := runSteps_eq_ok_iff.mp hrun
        exact ⟨steps, hread, h⟩
      · rintro ⟨steps, hread, h⟩
        cases hrun.symm.trans (runSteps_eq_ok_iff.mpr ⟨steps, hread, rfl⟩)
        exact h

/-- A script with findings is judged by them alone. -/
theorem checkScript_of_findings (h : validate source ≠ []) (e : Expectations) :
    checkScript source e =
      match e.findings with
      | some expected => checkFindings (validate source) expected
      | none => some (.invalid (validate source)) := by
  rw [checkScript, Script.parse_of_findings h]
  cases e.findings <;> rfl

theorem checkScript_eq_none_iff_of_findings (h : validate source ≠ []) :
    checkScript source e = none ↔ e.MeetsFindings source := by
  rw [checkScript_of_findings h, Expectations.MeetsFindings]
  cases e.findings with
  | none => exact iff_of_false (by simp) (by simp)
  | some fs => simp [checkFindings_eq_none_iff]

/-- A valid script is played, unless findings are expected. -/
theorem checkScript_eq_none_iff_of_valid (h : validate source = []) :
    checkScript source e = none ↔ (∀ fs ∈ e.findings, fs = []) ∧ e.MeetsSession source := by
  rw [checkScript, Script.parse_of_valid h]
  cases e.findings with
  | none => simp [checkSession_eq_none_iff]
  | some fs =>
      cases fs with
      | nil => simp [checkSession_eq_none_iff]
      | cons f fs => exact iff_of_false (by simp) (by simp)

/-- **A test shows no failure** exactly if the script meets its expectations. -/
theorem check_eq_none_iff [MarkdownReader] : check source e = none ↔ e.MetBy source := by
  have hblocks : e.blocks.bind (checkBlocks (segment source)) = none ↔ e.MeetsBlocks source := by
    simp only [Option.bind_eq_none_iff, checkBlocks_eq_none_iff]
    rfl
  rw [check, Option.or_eq_none_iff, hblocks, Expectations.MetBy]
  by_cases h : validate source = []
  · rw [checkScript_eq_none_iff_of_valid h]
    simp [h]
  · rw [checkScript_eq_none_iff_of_findings h]
    simp [h]

end ScriptTest

/-! ## Test files -/

section Tests

variable [MarkdownReader] [TomlReader]

/-- A test file **says** these expectations of this script. -/
def Says (file : Except ReadError ByteArray) (e : Expectations) (source : Text) : Prop :=
  ∃ t, file.bind decodeUtf8 = .ok t ∧ FrontMatter.read t = .ok (e, source)

theorem Says.verdict {file : Except ReadError ByteArray} {e : Expectations} {source : Text}
    (h : Says file e source) : Verdict.ofBytes file = ⟨e.description, check source e⟩ := by
  obtain ⟨t, ht, hread⟩ := h
  rw [Verdict.ofBytes, ht]
  show Verdict.ofText t = _
  rw [Verdict.ofText, hread]

/-- **A test passes exactly if its script meets its expectations**, and it goes by its own
description. So an invalid script passes only with findings that are expected and fit, and then the
steps and the state that are written there make no difference. -/
theorem passes_iff_metBy {file : Except ReadError ByteArray} {e : Expectations} {source : Text}
    (h : Says file e source) :
    (Verdict.ofBytes file).description = e.description ∧
    ((Verdict.ofBytes file).passes = true ↔ e.MetBy source) ∧
    (validate source ≠ [] →
      ((Verdict.ofBytes file).passes = true → ∃ fs ∈ e.findings, fs ≠ [] ∧
        List.Forall₂ (fun f w => w.Fits f) (validate source) fs) ∧
      ∀ other steps state, Says other { e with steps := steps, state := state } source →
        Verdict.ofBytes other = Verdict.ofBytes file) := by
  have hpasses : (Verdict.ofBytes file).passes = true ↔ e.MetBy source := by
    rw [h.verdict, Verdict.passes, Option.isNone_iff_eq_none, check_eq_none_iff]
  refine ⟨by rw [h.verdict], hpasses, fun hinvalid => ⟨fun hpass => ?_, ?_⟩⟩
  · rcases (hpasses.mp hpass).2 with ⟨-, fs, hfs, hall⟩ | ⟨hvalid, -⟩
    · refine ⟨fs, hfs, ?_, hall⟩
      rintro rfl
      exact hinvalid (List.forall₂_nil_right_iff.mp hall)
    · exact absurd hvalid hinvalid
  · intro other steps state hother
    rw [hother.verdict, h.verdict, check, check, checkScript_of_findings hinvalid,
      checkScript_of_findings hinvalid]

end Tests

/-- A test of a talk of one minute that is played for two seconds. -/
def minuteTest : String :=
  "---\nsteps = [\"play\", \"tick 2\"]\n[[expect_blocks]]\ntime = 60\n" ++
    "[expect_state]\ntotal = 2\n---\n?01:00\nA"

/-- What the front matter of `minuteTest` expects. -/
def minuteExpectations : Expectations :=
  ⟨none, none, some [⟨none, some 60, none, none⟩], false, ["play".toList, "tick 2".toList],
    some ⟨none, none, some 2, none, none, none⟩⟩

theorem says_minuteTest : Says (.ok minuteTest.toUTF8) minuteExpectations "?01:00\nA".toList := by
  have hread :
      FrontMatter.read minuteTest.toList = .ok (minuteExpectations, "?01:00\nA".toList) := by
    decide +kernel
  exact ⟨minuteTest.toList, rfl, hread⟩

theorem passes_iff_metBy_minuteTest :
    Says (.ok minuteTest.toUTF8) minuteExpectations "?01:00\nA".toList ∧
      minuteExpectations.MetBy "?01:00\nA".toList := by
  have hpasses : (Verdict.ofBytes (.ok minuteTest.toUTF8)).passes = true := by
    rw [says_minuteTest.verdict]
    rfl
  exact ⟨says_minuteTest, (passes_iff_metBy says_minuteTest).2.1.mp hpasses⟩

end TalkTimer

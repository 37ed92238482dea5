import Mathlib.Data.List.Infix
import TalkTimer.Arguments

/-!
# The first positional argument

A call that names no action is one to play a file: the name of the default action is put in front of
the first positional argument (`withDefaultAction`). Where that argument stands is told by a scan
from the left, before any option is read.

* **The scan** (`firstPositional_eq_some_iff`) – it passes over options, and over `--config`
  together with the argument behind it, whatever that is (`Passed`). It finds the argument behind
  such a run.
* **The default action** (`withDefaultAction_normalizes`) – the name is put where the file was
  found, and is found there, so that nothing is put in twice.
* **Options with values** (`firstPositional_options_iff`) – the scan knows one option with a value,
  but there are two: behind a written `--tick-ms` it finds the number.
-/

namespace TalkTimer
namespace CommandLine

/-! ## The scan -/

/-- A run of arguments that the scan passes over. `--config` takes the argument behind it along. -/
inductive Passed : List Text → Prop
  | nil : Passed []
  | setting (v : Text) {rest : List Text} : Passed rest → Passed (configOption :: v :: rest)
  | option {a : Text} {rest : List Text} : a ≠ configOption → isOption a = true → Passed rest →
      Passed (a :: rest)

variable {p a : Text} {before after rest args : List Text} {i j : Nat}

theorem ne_configOption (hp : isOption p = false) : p ≠ configOption := by
  rintro rfl
  cases hp

theorem firstPositionalFrom_setting (i : Nat) (v : Text) (rest : List Text) :
    firstPositionalFrom i (configOption :: v :: rest) = firstPositionalFrom (i + 2) rest := by
  rw [firstPositionalFrom, if_pos rfl]

theorem firstPositionalFrom_option (hne : a ≠ configOption) (ha : isOption a = true) (i : Nat)
    (rest : List Text) :
    firstPositionalFrom i (a :: rest) = firstPositionalFrom (i + 1) rest := by
  cases rest <;> simp [firstPositionalFrom, hne, ha]

theorem firstPositionalFrom_positional (hp : isOption p = false) (i : Nat) (rest : List Text) :
    firstPositionalFrom i (p :: rest) = some i := by
  cases rest <;> simp [firstPositionalFrom, ne_configOption hp, hp]

/-- The scan goes on behind a run that it passes over. -/
theorem Passed.firstPositionalFrom_append (h : Passed before) (i : Nat) (rest : List Text) :
    firstPositionalFrom i (before ++ rest) = firstPositionalFrom (i + before.length) rest := by
  induction h generalizing i with
  | nil => rfl
  | setting v _ ih =>
      rw [List.cons_append, List.cons_append, firstPositionalFrom_setting, ih]
      simp [Nat.add_comm, Nat.add_left_comm]
  | option hne ha _ ih =>
      rw [List.cons_append, firstPositionalFrom_option hne ha, ih]
      simp [Nat.add_comm, Nat.add_left_comm]

theorem Passed.append (h : Passed before) (hrest : Passed rest) : Passed (before ++ rest) := by
  induction h with
  | nil => exact hrest
  | setting v _ ih => exact .setting v ih
  | option hne ha _ ih => exact .option hne ha ih

/-- What the scan finds stands behind a run that it passed over. The induction is on the scan. -/
theorem exists_passed (h : firstPositionalFrom i args = some j) :
    ∃ before p after, args = before ++ p :: after ∧ Passed before ∧ isOption p = false ∧
      j = i + before.length := by
  fun_induction firstPositionalFrom i args with
  | case1 i => cases h
  | case2 i => cases h
  | case3 i v rest ih =>
      obtain ⟨before, p, after, rfl, hbefore, hp, rfl⟩ := ih h
      refine ⟨configOption :: v :: before, p, after, rfl, .setting v hbefore, hp, ?_⟩
      simp [Nat.add_comm, Nat.add_left_comm]
  | case4 i a rest hne ha ih =>
      obtain ⟨before, p, after, rfl, hbefore, hp, rfl⟩ := ih h
      refine ⟨a :: before, p, after, rfl, .option hne ha hbefore, hp, ?_⟩
      simp [Nat.add_comm, Nat.add_left_comm]
  | case5 i p rest hne hp =>
      cases h
      exact ⟨[], p, rest, rfl, .nil, by simpa using hp, rfl⟩

/-- **What the scan finds**: the first argument behind the program and a run that is passed over, if
it is no option. -/
theorem firstPositional_eq_some_iff :
    firstPositional args = some i ↔
      ∃ program before p after, args = program :: (before ++ p :: after) ∧ Passed before ∧
        isOption p = false ∧ i = before.length + 1 := by
  constructor
  · intro h
    cases args with
    | nil => cases h
    | cons program args =>
        obtain ⟨before, p, after, hargs, hbefore, hp, hi⟩ := exists_passed h
        rw [List.drop_one, List.tail_cons] at hargs
        exact ⟨program, before, p, after, by rw [hargs], hbefore, hp, by rw [hi, Nat.add_comm]⟩
  · rintro ⟨program, before, p, after, rfl, hbefore, hp, rfl⟩
    rw [firstPositional, List.drop_one, List.tail_cons, hbefore.firstPositionalFrom_append,
      firstPositionalFrom_positional hp, Nat.add_comm]

theorem Passed.firstPositional_eq (h : Passed before) (hp : isOption p = false) (program : Text)
    (after : List Text) :
    firstPositional (program :: (before ++ p :: after)) = some (before.length + 1) :=
  firstPositional_eq_some_iff.mpr ⟨program, before, p, after, rfl, h, hp, rfl⟩

/-! ## The default action -/

/-- The first positional argument. -/
def positional? (args : List Text) : Option Text := (firstPositional args).bind fun i => args[i]?

theorem Passed.positional?_eq (h : Passed before) (hp : isOption p = false) (program : Text)
    (after : List Text) : positional? (program :: (before ++ p :: after)) = some p := by
  rw [positional?, h.firstPositional_eq hp]
  simp

theorem withDefaultAction_of_none (h : firstPositional args = none) :
    withDefaultAction args = args := by
  rw [withDefaultAction, h]

/-- The name of an action stays the first positional argument. -/
theorem withDefaultAction_of_mem (h : positional? args = some p) (hp : p ∈ actionNames) :
    withDefaultAction args = args := by
  obtain ⟨i, hi, hget⟩ := Option.bind_eq_some_iff.mp h
  rw [withDefaultAction, hi]
  simp [hget, hp]

/-- In front of anything else the name of the default action is put in. -/
theorem withDefaultAction_of_notMem (hi : firstPositional args = some i) (hget : args[i]? = some p)
    (hp : p ∉ actionNames) : withDefaultAction args = args.insertIdx i defaultAction := by
  rw [withDefaultAction, hi]
  simp [hget, hp]

theorem Passed.withDefaultAction_eq (h : Passed before) (hp : isOption p = false)
    (hname : p ∉ actionNames) (program : Text) (after : List Text) :
    withDefaultAction (program :: (before ++ p :: after)) =
      program :: (before ++ defaultAction :: p :: after) := by
  have hget : (program :: (before ++ p :: after))[before.length + 1]? = some p := by simp
  rw [withDefaultAction_of_notMem (h.firstPositional_eq hp program after) hget hname,
    List.insertIdx_succ_cons]
  exact congrArg _ (List.modifyTailIdx_add (List.cons defaultAction) 0 before (p :: after))

/-- **Naming the default action is a normalisation.** Done twice it is as done once, and the first
positional argument stands where it stood. The arguments are left as they are exactly if they have
no positional argument, or the first one is the name of an action. Else the default action is the
first positional argument, and without it the arguments are the ones that were given. -/
theorem withDefaultAction_normalizes (args : List Text) :
    withDefaultAction (withDefaultAction args) = withDefaultAction args ∧
    firstPositional (withDefaultAction args) = firstPositional args ∧
    (withDefaultAction args = args ↔
      firstPositional args = none ∨ ∃ name ∈ actionNames, positional? args = some name) ∧
    (withDefaultAction args = args ∨ ∃ i, firstPositional args = some i ∧
      positional? (withDefaultAction args) = some defaultAction ∧
      (withDefaultAction args).eraseIdx i = args) := by
  cases hi : firstPositional args with
  | none =>
      have hsame := withDefaultAction_of_none hi
      rw [hsame, hsame]
      simp [hi]
  | some i =>
      obtain ⟨program, before, p, after, rfl, hbefore, hp, rfl⟩ := firstPositional_eq_some_iff.mp hi
      have hpos := hbefore.positional?_eq hp program after
      by_cases hname : p ∈ actionNames
      · have hsame := withDefaultAction_of_mem hpos hname
        rw [hsame, hsame]
        simp [hi, hpos, hname]
      · -- the name that is put in is passed by no run, so the next scan stops at it
        have hnew := hbefore.withDefaultAction_eq hp hname program after
        have hdefault : isOption defaultAction = false := rfl
        have hi' := hbefore.firstPositional_eq hdefault program (p :: after)
        have hpos' := hbefore.positional?_eq hdefault program (p :: after)
        have htwice := withDefaultAction_of_mem hpos' (by decide)
        have herase : (withDefaultAction (program :: (before ++ p :: after))).eraseIdx
            (before.length + 1) = program :: (before ++ p :: after) := by
          rw [withDefaultAction_of_notMem hi (by simp) hname, List.eraseIdx_insertIdx_self]
        have hne : withDefaultAction (program :: (before ++ p :: after)) ≠
            program :: (before ++ p :: after) := by
          intro heq
          have hlen := congrArg List.length (hnew.symm.trans heq)
          simp at hlen
        refine ⟨?_, ?_, ?_, Or.inr ⟨_, rfl, ?_, herase⟩⟩
        · rw [hnew, htwice]
        · rw [hnew, hi']
        · refine iff_of_false hne ?_
          rintro (hnone | ⟨name, hmem, hname'⟩)
          · cases hnone
          · rw [hpos] at hname'
            cases hname'
            exact hname hmem
        · rw [hnew, hpos']

/-! ## Options with values -/

/-- The name of the option that says how long a tick takes. -/
def tickName : Text := "tick-ms".toList

/-- An option as it is written: a flag with a long or a short name, or an option with a value, which
stands in an argument of its own or behind an equals sign. -/
inductive Written
  | flag (name : Text)
  | short (c : Char)
  | apart (name value : Text)
  | joined (name value : Text)
  deriving DecidableEq, Repr

namespace Written

/-- The arguments that a written option takes. -/
def arguments : Written → List Text
  | flag name => ['-' :: '-' :: name]
  | short c => [['-', c]]
  | apart name value => ['-' :: '-' :: name, value]
  | joined name value => ['-' :: '-' :: name ++ '=' :: value]

/-- The option is known at some level, and an argument that is its value is no option. -/
def IsDeclared : Written → Prop
  | flag name => ∃ l : Level, (l.flag? name).isSome = true
  | short c => ∃ l : Level, (l.shortFlag? c).isSome = true
  | apart name value =>
    (∃ l : Level, (l.setting? name).isSome = true) ∧ isOption value = false
  | joined name _ => ∃ l : Level, (l.setting? name).isSome = true

/-- Whether the scan overlooks that the option takes the argument behind it. -/
def isOverlooked : Written → Bool
  | apart name _ => name == tickName
  | _ => false

variable {o : Written}

theorem isOverlooked_iff : o.isOverlooked = true ↔ ∃ v, o = .apart tickName v := by
  cases o <;> simp [isOverlooked]

theorem forall_isOverlooked_iff {os : List Written} :
    (∀ o ∈ os, o.isOverlooked = false) ↔ ∀ v, .apart tickName v ∉ os := by
  constructor
  · intro h v hv
    have hfalse := h _ hv
    simp [isOverlooked] at hfalse
  · intro h o ho
    apply Bool.eq_false_iff.mpr
    intro htrue
    obtain ⟨v, rfl⟩ := isOverlooked_iff.mp htrue
    exact h v ho

theorem configOption_eq : configOption = '-' :: '-' :: "config".toList := rfl

theorem flag?_config (l : Level) : l.flag? "config".toList = none := by
  cases l <;> rfl

/-- Two options have values. -/
theorem eq_of_setting? {l : Level} {name : Text} (h : (l.setting? name).isSome = true) :
    name = "config".toList ∨ name = tickName := by
  unfold Level.setting? at h
  split at h
  · next hname => exact Or.inl hname
  · split at h
    · next hname => exact Or.inr hname.2
    · cases h

/-- The scan passes over an option with its value, unless it overlooks the value. -/
theorem IsDeclared.passed (h : o.IsDeclared) (hseen : o.isOverlooked = false) :
    Passed o.arguments := by
  cases o with
  | flag name =>
      obtain ⟨l, hl⟩ := h
      refine .option ?_ rfl .nil
      intro heq
      rw [configOption_eq, List.cons.injEq, List.cons.injEq] at heq
      rw [heq.2.2, flag?_config] at hl
      cases hl
  | short c =>
      refine .option ?_ rfl .nil
      intro heq
      rw [configOption_eq, List.cons.injEq, List.cons.injEq] at heq
      exact absurd heq.2.2 (by decide)
  | apart name value =>
      obtain ⟨⟨l, hl⟩, -⟩ := h
      rcases eq_of_setting? hl with rfl | rfl
      · exact .setting value .nil
      · simp [isOverlooked] at hseen
  | joined name value =>
      refine .option ?_ rfl .nil
      intro heq
      have hmem : '=' ∈ configOption := by
        rw [← heq]
        simp
      exact absurd hmem (by decide)

theorem passed_arguments {os : List Written} (hos : ∀ o ∈ os, o.IsDeclared)
    (hseen : ∀ o ∈ os, o.isOverlooked = false) : Passed (os.flatMap arguments) := by
  induction os with
  | nil => exact .nil
  | cons o os ih =>
      rw [List.forall_mem_cons] at hos hseen
      rw [List.flatMap_cons]
      exact (hos.1.passed hseen.1).append (ih hos.2 hseen.2)

end Written

/-- A written `--tick-ms` parts the arguments in front of its number. -/
theorem Written.flatMap_arguments (os₁ os₂ : List Written) (v : Text) :
    (os₁ ++ .apart tickName v :: os₂).flatMap arguments =
      (os₁.flatMap arguments ++ ['-' :: '-' :: tickName]) ++ v :: os₂.flatMap arguments := by
  simp only [List.flatMap_append, List.flatMap_cons, arguments, List.append_assoc, List.cons_append,
    List.nil_append]

/-- Behind options whose values are all seen, the scan stops at a number that it overlooks. -/
theorem firstPositional_overlooked {os₁ : List Written} {v : Text}
    (hos : ∀ o ∈ os₁, o.IsDeclared) (hseen : ∀ o ∈ os₁, o.isOverlooked = false)
    (hv : isOption v = false) (os₂ : List Written) (program : Text) (rest : List Text) :
    let before := program :: (os₁ ++ .apart tickName v :: os₂).flatMap Written.arguments
    let i := (os₁.flatMap Written.arguments).length + 2
    firstPositional (before ++ rest) = some i ∧ before[i]? = some v := by
  intro before i
  have htick : Passed ['-' :: '-' :: tickName] := .option (by decide) rfl .nil
  have hpassed := (Written.passed_arguments hos hseen).append htick
  have hi : i = (os₁.flatMap Written.arguments ++ ['-' :: '-' :: tickName]).length + 1 := by
    rw [List.length_append, List.length_singleton]
  have hbefore : before = program ::
      ((os₁.flatMap Written.arguments ++ ['-' :: '-' :: tickName]) ++
        v :: os₂.flatMap Written.arguments) :=
    congrArg _ (Written.flatMap_arguments os₁ os₂ v)
  rw [hi, hbefore]
  generalize os₁.flatMap Written.arguments ++ ['-' :: '-' :: tickName] = passed at hpassed
  constructor
  · simpa using hpassed.firstPositional_eq hv program (os₂.flatMap Written.arguments ++ rest)
  · simp

theorem Written.exists_first_of_overlooked {os : List Written} {v : Text}
    (h : .apart tickName v ∈ os) :
    ∃ os₁ v os₂, os = os₁ ++ .apart tickName v :: os₂ ∧
      ∀ v', .apart tickName v' ∉ os₁ := by
  have hsome : (os.find? isOverlooked).isSome = true :=
    List.find?_isSome.mpr ⟨_, h, isOverlooked_iff.mpr ⟨v, rfl⟩⟩
  obtain ⟨o, ho⟩ := Option.isSome_iff_exists.mp hsome
  obtain ⟨htick, os₁, os₂, hos, hseen⟩ := List.find?_eq_some_iff_append.mp ho
  obtain ⟨v', rfl⟩ := isOverlooked_iff.mp htick
  refine ⟨os₁, v', os₂, hos, forall_isOverlooked_iff.mp ?_⟩
  intro o ho
  simpa using hseen o ho

/-- **Where the scan stops behind options.** Whatever declared options stand before a positional
argument, it is found exactly if no `--tick-ms` with the number in an argument of its own is among
them. If there is one, the number behind the first one is found in its place. -/
theorem firstPositional_options_iff {os : List Written} {p : Text}
    (hos : ∀ o ∈ os, o.IsDeclared) (hp : isOption p = false) (program : Text) (after : List Text) :
    let before := program :: os.flatMap Written.arguments
    (firstPositional (before ++ p :: after) = some before.length ↔
      ∀ v, .apart tickName v ∉ os) ∧
    ∀ os₁ v os₂, os = os₁ ++ .apart tickName v :: os₂ →
      (∀ v', .apart tickName v' ∉ os₁) →
      let i := (os₁.flatMap Written.arguments).length + 2
      firstPositional (before ++ p :: after) = some i ∧ before[i]? = some v := by
  intro before
  have hhidden : ∀ os₁ v os₂, os = os₁ ++ .apart tickName v :: os₂ →
      (∀ v', .apart tickName v' ∉ os₁) →
      let i := (os₁.flatMap Written.arguments).length + 2
      firstPositional (before ++ p :: after) = some i ∧ before[i]? = some v := by
    rintro os₁ v os₂ rfl hseen
    rw [List.forall_mem_append, List.forall_mem_cons] at hos
    obtain ⟨hos₁, ⟨-, hv⟩, -⟩ := hos
    exact firstPositional_overlooked hos₁ (Written.forall_isOverlooked_iff.mpr hseen) hv os₂ program
      (p :: after)
  refine ⟨⟨?_, ?_⟩, hhidden⟩
  · intro hfound v hv
    -- the first number is found, and it stands before the positional argument
    obtain ⟨os₁, v, os₂, heq, hseen⟩ := Written.exists_first_of_overlooked hv
    obtain ⟨hi, hget⟩ := hhidden os₁ v os₂ heq hseen
    obtain ⟨hlt, -⟩ := List.getElem?_eq_some_iff.mp hget
    rw [hfound, Option.some.injEq] at hi
    omega
  · intro hseen
    have hpassed := Written.passed_arguments hos (Written.forall_isOverlooked_iff.mpr hseen)
    exact hpassed.firstPositional_eq hp program after

/-- Options on both sides of a number that is overlooked, and a second number. -/
theorem firstPositional_options_twoNumbers :
    let os : List Written := [.apart "config".toList "work.toml".toList, .short 'q',
      .apart tickName ['5'], .joined tickName ['-'], .flag "auto-advance".toList,
      .apart tickName ['7']]
    let before := "tempo".toList :: os.flatMap Written.arguments
    (∀ o ∈ os, o.IsDeclared) ∧ isOption "talk.md".toList = false ∧
    firstPositional (before ++ ["talk.md".toList, ['-', 'v']]) = some 5 ∧ before[5]? = some ['5'] ∧
    before.length = 10 := by
  intro os before
  have hos : ∀ o ∈ os, o.IsDeclared := by
    simp only [os, List.forall_mem_cons, Written.IsDeclared]
    exact ⟨⟨⟨.play, rfl⟩, rfl⟩, ⟨.play, rfl⟩, ⟨⟨.play, rfl⟩, rfl⟩, ⟨.play, rfl⟩, ⟨.play, rfl⟩,
      ⟨⟨.play, rfl⟩, rfl⟩, List.forall_mem_nil _⟩
  have hp : isOption "talk.md".toList = false := rfl
  have hsplit : os = [.apart "config".toList "work.toml".toList, .short 'q'] ++
      .apart tickName ['5'] :: [.joined tickName ['-'], .flag "auto-advance".toList,
        .apart tickName ['7']] := rfl
  have hseen := Written.forall_isOverlooked_iff.mp
    (show ∀ o ∈ [Written.apart "config".toList "work.toml".toList, .short 'q'],
      o.isOverlooked = false by decide)
  obtain ⟨-, hhidden⟩ := firstPositional_options_iff hos hp "tempo".toList [['-', 'v']]
  obtain ⟨hfound, hget⟩ := hhidden _ ['5'] _ hsplit hseen
  exact ⟨hos, hp, hfound, hget, rfl⟩

/-- The number of a tick is taken for the file to play. -/
theorem tick_number_is_taken_for_file :
    ¬ (∀ (os : List Written) (p program : Text) (after : List Text), (∀ o ∈ os, o.IsDeclared) →
      isOption p = false →
      firstPositional (program :: os.flatMap Written.arguments ++ p :: after) =
        some (os.flatMap Written.arguments).length.succ) ∧
    firstPositional (["tempo", "--tick-ms", "5", "talk.md"].map String.toList) = some 2 ∧
    withDefaultAction (["tempo", "--tick-ms", "5", "talk.md"].map String.toList) =
      ["tempo", "--tick-ms", "play", "5", "talk.md"].map String.toList := by
  refine ⟨fun h => ?_, rfl, rfl⟩
  have htick : Written.IsDeclared (.apart tickName ['5']) := ⟨⟨.play, rfl⟩, rfl⟩
  have hfound := h [.apart tickName ['5']] "talk.md".toList "tempo".toList []
    (by simpa using htick) rfl
  exact absurd hfound (by decide)

end CommandLine
end TalkTimer

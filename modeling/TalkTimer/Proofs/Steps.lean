import TalkTimer.Proofs.Numerals
import TalkTimer.Proofs.Verdicts
import TalkTimer.Proofs.Words

/-!
# The language of steps

A step of a script test is read word by word. As a grammar, with gaps of blanks that are not empty
between words, a step is

    step   = gap name gap | gap "tick" gap | gap "tick" gap count gap
    name   = "play" | "pause" | "toggle" | "next" | "previous" | "auto"
    count  = digits | "+" digits       a number below 2 to the 32nd

`Spells` states this as a relation between words and steps, and `ReadsAs` adds the reasons for which
a text is refused. What is read is that relation read forwards:

* every text has a reading, and it is what is read (`readsAs_read`);
* there is no other one (`ReadsAs.read_eq`), since a text is made of its words in one way only;
* a step of so many ticks takes just these ticks (`runSteps_of_ticks`).
-/

namespace TalkTimer

open Text ScriptTest

namespace Step

/-! ## The relations -/

/-- The commands that have a name, each with its name. -/
def commandNames : List (Text × Command) :=
  [("play".toList, .play), ("pause".toList, .pause), ("toggle".toList, .toggle),
    ("next".toList, .next), ("previous".toList, .previous), ("auto".toList, .toggleAutoAdvance)]

/-- The word that lets seconds go by. -/
def tickName : Text := "tick".toList

/-- The words **spell** the step. `tick` alone is one second. -/
inductive Spells : List Text → Step → Prop
  | command {w : Text} {c : Command} : (w, c) ∈ commandNames → Spells [w] (.command c)
  | tick : Spells [tickName] (.ticks 1)
  | ticks {w : Text} {n : Nat} : IsCount w n → n < 0x100000000 → Spells [tickName, w] (.ticks n)

/-- What a text is **read as**: the step that its words spell, or else the reason why there is none.
A word that stands alone behind `tick` is to blame by itself. -/
inductive ReadsAs (t : Text) : Except StepError Step → Prop
  | step {ws : List Text} {k : Step} : IsMadeOf ws t → Spells ws k → ReadsAs t (.ok k)
  | badCount {w : Text} : IsMadeOf [tickName, w] t → (∀ n, IsCount w n → 0x100000000 ≤ n) →
      ReadsAs t (.error (.badCount w))
  | unknown {ws : List Text} : IsMadeOf ws t → (∀ w, ws ≠ [tickName, w]) → (∀ k, ¬ Spells ws k) →
      ReadsAs t (.error (.unknown t))

variable {t v w : Text} {ws : List Text} {c : Command} {k : Step} {n : Nat}
  {r : Except StepError Step}

/-! ## What words spell -/

theorem commandNamed?_eq_some_iff : commandNamed? w = some c ↔ (w, c) ∈ commandNames := by
  constructor
  · intro h
    unfold commandNamed? at h
    split_ifs at h
    all_goals
      cases h
      subst w
      simp [commandNames]
  · intro h
    simp only [commandNames, List.mem_cons, List.not_mem_nil, or_false, Prod.mk.injEq] at h
    rcases h with ⟨rfl, rfl⟩ | ⟨rfl, rfl⟩ | ⟨rfl, rfl⟩ | ⟨rfl, rfl⟩ | ⟨rfl, rfl⟩ | ⟨rfl, rfl⟩ <;> rfl

theorem spells_singleton_iff :
    Spells [w] k ↔ (∃ c, (w, c) ∈ commandNames ∧ k = .command c) ∨ w = tickName ∧ k = .ticks 1 := by
  constructor
  · intro h
    cases h with
    | command hname => exact Or.inl ⟨_, hname, rfl⟩
    | tick => exact Or.inr ⟨rfl, rfl⟩
  · rintro (⟨c, hname, rfl⟩ | ⟨rfl, rfl⟩)
    · exact .command hname
    · exact .tick

theorem eq_tickName_of_spells (h : Spells [v, w] k) : v = tickName := by
  cases h
  rfl

/-! ## Reading by the number of words -/

theorem read_of_word (h : IsMadeOf [w] t) :
    read t = match commandNamed? w with
      | some c => .ok (.command c)
      | none => if w = tickName then .ok (.ticks 1) else .error (.unknown t) := by
  rw [read, h.words_eq]
  rfl

theorem read_of_pair (h : IsMadeOf [v, w] t) :
    read t = if v = tickName then
        match readBelow? 0x100000000 w with
        | some n => .ok (.ticks n)
        | none => .error (.badCount w)
      else .error (.unknown t) := by
  rw [read, h.words_eq]
  rfl

theorem read_of_other (h : IsMadeOf ws t) (hone : ∀ w, ws ≠ [w]) (htwo : ∀ v w, ws ≠ [v, w]) :
    read t = .error (.unknown t) := by
  rw [read, h.words_eq]
  split
  · exact absurd rfl (hone _)
  · exact absurd rfl (htwo _ _)
  · rfl

/-! ## The two directions -/

theorem readsAs_read_of_word (h : IsMadeOf [w] t) : ReadsAs t (read t) := by
  rw [read_of_word h]
  cases hname : commandNamed? w with
  | some c => exact .step h (.command (commandNamed?_eq_some_iff.mp hname))
  | none =>
      show ReadsAs t (if w = tickName then .ok (.ticks 1) else .error (.unknown t))
      split
      · next hw =>
        subst hw
        exact .step h .tick
      · next hw =>
        apply ReadsAs.unknown h (by simp)
        intro k hk
        rcases spells_singleton_iff.mp hk with ⟨c, hc, -⟩ | ⟨heq, -⟩
        · rw [commandNamed?_eq_some_iff.mpr hc] at hname
          cases hname
        · exact hw heq

theorem readsAs_read_of_pair (h : IsMadeOf [v, w] t) : ReadsAs t (read t) := by
  rw [read_of_pair h]
  split
  · next hv =>
    subst hv
    cases hn : readBelow? 0x100000000 w with
    | some n =>
        obtain ⟨hcount, hlt⟩ := readBelow?_eq_some_iff.mp hn
        exact .step h (.ticks hcount hlt)
    | none => exact .badCount h (readBelow?_eq_none_iff.mp hn)
  · next hv =>
    apply ReadsAs.unknown h
    · intro w' heq
      cases heq
      exact hv rfl
    · intro k hk
      exact hv (eq_tickName_of_spells hk)

/-- Steps have one word or two. -/
theorem readsAs_read_of_other (h : IsMadeOf ws t) (hone : ∀ w, ws ≠ [w])
    (htwo : ∀ v w, ws ≠ [v, w]) : ReadsAs t (read t) := by
  rw [read_of_other h hone htwo]
  apply ReadsAs.unknown h (htwo _)
  intro k hk
  cases hk with
  | command _ => exact hone _ rfl
  | tick => exact hone _ rfl
  | ticks _ _ => exact htwo _ _ rfl

/-- Forward: a text can be read as what is read of it. -/
theorem readsAs_read (t : Text) : ReadsAs t (read t) := by
  have hmade := isMadeOf_words t
  match words t, hmade with
  | [], hmade => exact readsAs_read_of_other hmade (by simp) (by simp)
  | [w], hmade => exact readsAs_read_of_word hmade
  | [v, w], hmade => exact readsAs_read_of_pair hmade
  | _ :: _ :: _ :: _, hmade => exact readsAs_read_of_other hmade (by simp) (by simp)

/-- A step is read from any text of words that spell it. -/
theorem Spells.read_eq (h : Spells ws k) (hmade : IsMadeOf ws t) : read t = .ok k := by
  cases h with
  | command hname => rw [read_of_word hmade, commandNamed?_eq_some_iff.mpr hname]
  | tick => exact read_of_word hmade
  | ticks hcount hlt =>
      rw [read_of_pair hmade, if_pos rfl, readBelow?_eq_some_iff.mpr ⟨hcount, hlt⟩]

/-- Backward: a text is read in no other way. -/
theorem ReadsAs.read_eq (h : ReadsAs t r) : read t = r := by
  cases h with
  | step hmade hspells => exact hspells.read_eq hmade
  | badCount hmade hcount =>
      rw [read_of_pair hmade, if_pos rfl, readBelow?_eq_none_iff.mpr hcount]
  | @unknown ws hmade htick hnone =>
      -- the text has a reading, and it can only be this one
      have hread := readsAs_read t
      generalize read t = r at hread
      cases hread with
      | step hmade' hspells =>
          rw [hmade'.words_eq.symm.trans hmade.words_eq] at hspells
          exact absurd hspells (hnone _)
      | badCount hmade' _ => exact absurd (hmade.words_eq.symm.trans hmade'.words_eq) (htick _)
      | unknown _ _ _ => rfl

/-! ## Steps of ticks -/

theorem isBlank_of_mem_tickName : ∀ c ∈ tickName, isBlank c = false := by
  have hall : (tickName.all fun c => !isBlank c) = true := rfl
  simpa using hall

/-- With any blanks around them, a `tick` and a count are the words of a step. -/
theorem isMadeOf_tick {before between after : Text} (hbefore : IsGap before)
    (hbetween : IsGap between) (hne : between ≠ []) (hafter : IsGap after) (hcount : IsCount w n) :
    IsMadeOf [tickName, w] (before ++ tickName ++ (between ++ w ++ after)) := by
  have hstop : ¬ StartsInWord (between ++ w ++ after) := by
    rw [List.append_assoc]
    exact not_startsInWord_gap_append hbetween hne _
  have hlast : IsMadeOf [w] (between ++ w ++ after) :=
    .word hbetween hcount.ne_nil hcount.isBlank_of_mem (not_startsInWord_of_isGap hafter)
      (.gap hafter)
  exact .word hbefore (List.cons_ne_nil _ _) isBlank_of_mem_tickName hstop hlast

/-- **So many ticks are so many ticks of the session.** -/
theorem runSteps_of_ticks (hmade : IsMadeOf [tickName, w] t) (hcount : IsCount w n)
    (hn : n < 0x100000000) (s : Session) (ts : List Text) :
    runSteps s (t :: ts) = runSteps (s.after (List.replicate n .tick)) ts := by
  have hread : read t = .ok (.ticks n) := (Spells.ticks hcount hn).read_eq hmade
  exact runSteps_cons hread s ts

/-- **Reading accepts the language of steps.** A text is read as the step that its words spell, and
refused for the reason that the grammar gives; the words that it is made of are those that cutting
at blanks finds. A count is a number as it is written, with zeros and a plus sign in front of it if
one likes, and with any blanks around the words just so many ticks are taken. -/
theorem read_eq_iff_readsAs :
    (∀ t r, read t = r ↔ ReadsAs t r) ∧
    (∀ t ws, words t = ws ↔ IsMadeOf ws t) ∧
    (∀ w n, IsCount w n ↔ ∃ zeros, w = List.replicate zeros '0' ++ decimal n ∨
      w = '+' :: (List.replicate zeros '0' ++ decimal n)) ∧
    ∀ before between after w n, IsGap before → IsGap between → between ≠ [] → IsGap after →
      IsCount w n → n < 0x100000000 → ∀ s ts,
        runSteps s ((before ++ tickName ++ (between ++ w ++ after)) :: ts) =
          runSteps (s.after (List.replicate n .tick)) ts := by
  refine ⟨?_, ?_, ?_, ?_⟩
  · intro t r
    constructor
    · intro h
      rw [← h]
      exact readsAs_read t
    · exact ReadsAs.read_eq
  · intro t ws
    exact words_eq_iff
  · intro w n
    exact isCount_iff_exists_zeros
  · intro before between after w n hbefore hbetween hne hafter hcount hn s ts
    exact runSteps_of_ticks (isMadeOf_tick hbefore hbetween hne hafter hcount) hcount hn s ts

/-- The largest count, between blanks of several kinds. -/
def largestTicks : Text := "\u00a0tick \t+004294967295\n".toList

theorem read_eq_iff_readsAs_largestTicks :
    ReadsAs largestTicks (.ok (.ticks 4294967295)) ∧
      IsCount "+004294967295".toList 4294967295 ∧
      runSteps (.start [] false) [largestTicks] =
        .ok ((Session.start [] false).after (List.replicate 4294967295 .tick)) := by
  obtain ⟨hread, -, hcount, hruns⟩ := read_eq_iff_readsAs
  have hlargest : IsCount "+004294967295".toList 4294967295 :=
    (hcount _ _).mpr ⟨2, Or.inr (by decide)⟩
  have hbefore : IsGap "\u00a0".toList := allBlank_iff_isGap.mp rfl
  have hbetween : IsGap " \t".toList := allBlank_iff_isGap.mp rfl
  have hafter : IsGap "\n".toList := allBlank_iff_isGap.mp rfl
  refine ⟨(hread _ _).mp (by decide), hlargest, ?_⟩
  exact hruns _ _ _ _ _ hbefore hbetween (by decide) hafter hlargest (by decide) (.start [] false) []

-- A count that is too large or has no digits, a name with a capital, a word too many, and no word.
example : (["tick 4294967296", "tick +", "Play", "next 1", " "].map fun t => read t.toList) =
    [.error (.badCount "4294967296".toList), .error (.badCount "+".toList),
      .error (.unknown "Play".toList), .error (.unknown "next 1".toList),
      .error (.unknown " ".toList)] := by
  decide

end Step
end TalkTimer

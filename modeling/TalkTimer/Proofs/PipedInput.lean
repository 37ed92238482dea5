import TalkTimer.Proofs.Commands
import TalkTimer.Proofs.Counters
import TalkTimer.Proofs.Drawing
import TalkTimer.Proofs.Gate

/-!
# Piped playback

Playback that is not at a terminal reads a key from each line of its input. As long as no tick
arrives, what it writes is decided by the commands of the lines before the first one that ends the
input.

* **Lines** (`heard_lineEvents`) – the event loop hears the commands of the lines, and no more: what
  follows the end of the input stays in the queue.
* **Commands** (`playback_lineEvents`) – so playback writes the drawings that the updates of the
  commands ask for, and a closing line without any time.
* **Calls** (`output_of_commands`) – two inputs with the same commands cannot be told apart by what
  the program writes.
-/

namespace TalkTimer

open Text

/-! ## Lines -/

/-- A line **ends the input** if it is no text or asks to quit. -/
def endsInput (line : Option Text) : Bool :=
  line.isNone || line.bind Input.ofLine? = some (.event .quit)

/-- The command that a line asks for. -/
def lineCommand? (line : Option Text) : Option Command :=
  match line.bind Input.ofLine? with
  | some (.event (.command c)) => some c
  | _ => none

/-- The commands that lines ask for, up to the first line that ends the input. -/
def lineCommands (ls : List (Option Text)) : List Command :=
  (ls.takeWhile fun l => !endsInput l).filterMap lineCommand?

/-- A line is **idle** if it asks for help, or for nothing that is known. -/
def IsIdle (line : Option Text) : Prop :=
  ∃ t, line = some t ∧ (Input.ofLine? t = none ∨ Input.ofLine? t = some .help)

theorem Input.ofKey?_ne_tick (control : Bool) (k : Key) :
    Input.ofKey? control k ≠ some (.event .tick) := by
  unfold ofKey? command
  split <;> simp

/-- No line brings a tick. -/
theorem Input.ofLine?_ne_tick (line : Text) : Input.ofLine? line ≠ some (.event .tick) := by
  unfold ofLine?
  split
  · exact ofKey?_ne_tick false _
  · exact ofKey?_ne_tick false _
  · exact (Option.some_ne_none _).symm

section LineCommands

variable {line : Option Text} {xs ls : List (Option Text)}

theorem lineCommands_cons_of_ends (h : endsInput line = true) (ls : List (Option Text)) :
    lineCommands (line :: ls) = [] := by
  simp [lineCommands, h]

theorem lineCommands_cons (h : ¬ endsInput line = true) (ls : List (Option Text)) :
    lineCommands (line :: ls) = (lineCommand? line).toList ++ lineCommands ls := by
  rw [lineCommands, List.takeWhile_cons_of_pos (by simpa using h), List.filterMap_cons]
  cases lineCommand? line <;> rfl

/-- Lines before which the input does not end count by themselves. -/
theorem lineCommands_append_congr {ys zs : List (Option Text)}
    (h : lineCommands ys = lineCommands zs) (xs : List (Option Text)) :
    lineCommands (xs ++ ys) = lineCommands (xs ++ zs) := by
  induction xs with
  | nil => exact h
  | cons x xs ih =>
      rw [List.cons_append, List.cons_append]
      by_cases hx : endsInput x = true
      · rw [lineCommands_cons_of_ends hx, lineCommands_cons_of_ends hx]
      · rw [lineCommands_cons hx, lineCommands_cons hx, ih]

/-- An idle line may be left out. -/
theorem IsIdle.lineCommands_cons (h : IsIdle line) (ls : List (Option Text)) :
    lineCommands (line :: ls) = lineCommands ls := by
  obtain ⟨t, rfl, hnone | hhelp⟩ := h
  · rw [TalkTimer.lineCommands_cons (by simp [endsInput, hnone])]
    simp [lineCommand?, hnone]
  · rw [TalkTimer.lineCommands_cons (by simp [endsInput, hhelp])]
    simp [lineCommand?, hhelp]

/-- Blanks around a line do not count. -/
theorem lineCommands_cons_congr {s t : Text} (h : trim s = trim t) (ls : List (Option Text)) :
    lineCommands (some s :: ls) = lineCommands (some t :: ls) := by
  have hline : Input.ofLine? s = Input.ofLine? t := by
    rw [Input.ofLine?, Input.ofLine?, h]
  have hends : endsInput (some s) = endsInput (some t) := by simp [endsInput, hline]
  have hcommand : lineCommand? (some s) = lineCommand? (some t) := by simp [lineCommand?, hline]
  by_cases ht : endsInput (some t) = true
  · rw [lineCommands_cons_of_ends (hends.trans ht), lineCommands_cons_of_ends ht]
  · rw [lineCommands_cons (hends ▸ ht), lineCommands_cons ht, hcommand]

end LineCommands

/-- **The event loop hears the commands** of the lines before the end of the input. -/
theorem heard_lineEvents (ls : List (Option Text)) :
    heard (lineEvents ls) = (lineCommands ls).map .command := by
  induction ls with
  | nil => rfl
  | cons l ls ih =>
      cases l with
      | none => rfl
      | some t =>
          rw [lineEvents]
          cases ht : Input.ofLine? t with
          | none =>
              have hidle : IsIdle (some t) := ⟨t, rfl, Or.inl ht⟩
              rw [hidle.lineCommands_cons]
              exact ih
          | some i =>
              cases i with
              | help =>
                  have hidle : IsIdle (some t) := ⟨t, rfl, Or.inr ht⟩
                  rw [hidle.lineCommands_cons]
                  exact ih
              | event e =>
                  cases e with
                  | tick => exact absurd ht (Input.ofLine?_ne_tick t)
                  | quit =>
                      rw [lineCommands_cons_of_ends (by simp [endsInput, ht])]
                      rfl
                  | command c =>
                      have hcommand : lineCommand? (some t) = some c := by
                        simp [lineCommand?, ht]
                      rw [lineCommands_cons (by simp [endsInput, ht]), hcommand]
                      exact (heard_cons (by simp) _).trans (congrArg _ ih)

/-! ## Commands -/

namespace Session

/-- The event loop takes no notice of what follows the first request to quit. -/
theorem trace_heard (s : Session) (es : List Event) : s.trace (heard es) = s.trace es := by
  induction es generalizing s with
  | nil => rfl
  | cons e es ih =>
      by_cases he : e = .quit
      · rw [he]
        rfl
      · rw [heard_cons he, s.trace_cons he, s.trace_cons he, ih]

/-- Commands take no time. -/
theorem dispatchAll_total (s : Session) (cs : List Command) :
    (s.dispatchAll cs).timer.total = s.timer.total := by
  induction cs generalizing s with
  | nil => rfl
  | cons c cs ih =>
      have hstep : (s.take (.command c)).1.timer.total = s.timer.total := by
        simpa using (s.take_timerStep (.command c)).total
      rw [dispatchAll_cons, ih]
      exact hstep

end Session

/-- **Playback of lines**: the drawings of the commands, and a closing line with the time of
before. -/
theorem playback_lineEvents (s : Session) (ls : List (Option Text)) :
    playback s (lineEvents ls) =
      (s.drawn .plain (s.trace ((lineCommands ls).map .command))).flatMap (Drawing.text .plain) ++
        '\n' :: closing s.timer.total.toNat (scheduledTotal s.blocks).toNat ++ ['\n'] := by
  have htrace : s.trace (lineEvents ls) = s.trace ((lineCommands ls).map .command) := by
    rw [← heard_lineEvents, Session.trace_heard]
  have hend : s.run (lineEvents ls) = s.dispatchAll (lineCommands ls) := by
    rw [Session.run_eq_after, heard_lineEvents, Session.after_map_command]
  rw [playback_eq_drawings, htrace, hend, closingLine_eq, Session.dispatchAll_total,
    Session.scheduledTotal, Session.dispatchAll_blocks, List.append_assoc]

/-! ## Calls -/

/-- The commands that the bytes of an input ask for. -/
def inputCommands (input : List UInt8) : List Command :=
  lineCommands ((byteLines input).map decodeLine?)

theorem output_playInput (s : Session) (input : List UInt8) :
    (playInput input s).output =
      (s.drawn .plain (s.trace ((inputCommands input).map .command))).flatMap
        (Drawing.text .plain) ++
        '\n' :: closing s.timer.total.toNat (scheduledTotal s.blocks).toNat ++ ['\n'] :=
  playback_lineEvents s ((byteLines input).map decodeLine?)

theorem closing_zero (scheduled : Nat) :
    closing 0 scheduled =
      "presentation ended after 00:00 (scheduled ".toList ++ clock scheduled ++ [')'] := rfl

section Calls

variable [MarkdownReader] [TomlReader] [ArgumentReader]

/-- The arguments **ask to play** an accepted script under some settings. -/
structure AsksToPlay (files : FileSystem) (args : List Text) (settings : Settings) (script : Script)
    (autoAdvance : Bool) (tickMs : Option Nat) : Prop where
  asks : ∃ noColor config file source,
    ArgumentReader.request (CommandLine.withDefaultAction args) =
      .ok ⟨noColor, config, .play file autoAdvance tickMs⟩ ∧
    Settings.load files config = .ok settings ∧ files.readText file = .ok source ∧
    Script.parse 0 source = .ok script

variable {files : FileSystem} {args : List Text} {settings : Settings} {script : Script}
variable {autoAdvance : Bool} {tickMs : Option Nat}

theorem AsksToPlay.call (h : AsksToPlay files args settings script autoAdvance tickMs) :
    Program.call args files =
      startPlaying (autoAdvance || settings.autoAdvance) (tickMs.getD settings.tickMs) script := by
  obtain ⟨noColor, config, file, source, hrequest, hload, hread, hscript⟩ := h.asks
  rw [Program.call_eq_act hrequest hload]
  show withSource files file _ = _
  rw [withSource_of_ok hread, withScript, hscript]

/-- Two inputs **come to the same** for a call: it writes the same output, and ends with the same
code. -/
def ComeToSame (files : FileSystem) (args : List Text) (i j : List UInt8) : Prop :=
  (Program.run args files i).output = (Program.run args files j).output ∧
    (Program.run args files i).code = (Program.run args files j).code

theorem AsksToPlay.run (h : AsksToPlay files args settings script autoAdvance tickMs)
    (htick : tickMs.getD settings.tickMs ≠ 0) (input : List UInt8) :
    Program.run args files input =
      playInput input (.start script.blocks (autoAdvance || settings.autoAdvance)) := by
  rw [Program.run, h.call, startPlaying, if_neg htick]
  rfl

theorem AsksToPlay.comeToSame (h : AsksToPlay files args settings script autoAdvance tickMs)
    {i j : List UInt8} (hij : inputCommands i = inputCommands j) : ComeToSame files args i j := by
  by_cases htick : tickMs.getD settings.tickMs = 0
  · -- without a clock there is no playback, and the input is not read
    have hdone (input : List UInt8) : Program.run args files input =
        .fail "--tick-ms must be greater than zero".toList := by
      rw [Program.run, h.call, startPlaying, if_pos htick]
      rfl
    rw [ComeToSame, hdone i, hdone j]
    exact ⟨rfl, rfl⟩
  · rw [ComeToSame, h.run htick, h.run htick, output_playInput, output_playInput, hij]
    exact ⟨rfl, rfl⟩

/-- **Only commands tell.** For an accepted script and any options, two inputs with the same
commands before their end come to the same. So lines that ask for help or for nothing that is known,
blanks around a line, and whatever follows the end of the input do not tell, nor whether the input
ends by itself or by a line. What is written is the drawing of the whole screen, then the drawings
that the update of each command asks for, then an empty line and the closing line of a talk that took
no time. -/
theorem output_of_commands (h : AsksToPlay files args settings script autoAdvance tickMs) :
    (∀ i j, inputCommands i = inputCommands j → ComeToSame files args i j) ∧
    (∀ i j xs l ys, byteLines i = xs ++ l :: ys → byteLines j = xs ++ ys →
      IsIdle (decodeLine? l) → ComeToSame files args i j) ∧
    (∀ i j xs k l ys s t, byteLines i = xs ++ k :: ys → byteLines j = xs ++ l :: ys →
      decodeLine? k = some s → decodeLine? l = some t → trim s = trim t →
      ComeToSame files args i j) ∧
    (∀ i j xs k ys, byteLines i = xs ++ k :: ys → endsInput (decodeLine? k) = true →
      (byteLines j = xs ∨ ∃ l zs, byteLines j = xs ++ l :: zs ∧ endsInput (decodeLine? l) = true) →
      ComeToSame files args i j) ∧
    (tickMs.getD settings.tickMs ≠ 0 → ∀ i,
      let s := Session.start script.blocks (autoAdvance || settings.autoAdvance)
      (Program.run args files i).code = 0 ∧
      (Program.run args files i).output =
        (s.drawn .plain (s.trace ((inputCommands i).map .command))).flatMap (Drawing.text .plain) ++
          '\n' :: ("presentation ended after 00:00 (scheduled ".toList ++
            clock (scheduledTotal script.blocks).toNat ++ [')']) ++ ['\n']) := by
  refine ⟨fun i j => h.comeToSame, ?_, ?_, ?_, ?_⟩
  · intro i j xs l ys hi hj hidle
    apply h.comeToSame
    rw [inputCommands, inputCommands, hi, hj, List.map_append, List.map_append, List.map_cons]
    exact lineCommands_append_congr (hidle.lineCommands_cons _) _
  · intro i j xs k l ys s t hi hj hk hl htrim
    apply h.comeToSame
    rw [inputCommands, inputCommands, hi, hj, List.map_append, List.map_append, List.map_cons,
      List.map_cons, hk, hl]
    exact lineCommands_append_congr (lineCommands_cons_congr htrim _) _
  · intro i j xs k ys hi hk hj
    apply h.comeToSame
    rw [inputCommands, inputCommands, hi, List.map_append, List.map_cons]
    -- both inputs have no command after the lines that they share
    have hnone : lineCommands (decodeLine? k :: ys.map decodeLine?) = lineCommands [] :=
      lineCommands_cons_of_ends hk _
    rw [lineCommands_append_congr hnone]
    rcases hj with hj | ⟨l, zs, hj, hl⟩
    · rw [hj, List.append_nil]
    · have hnone' : lineCommands (decodeLine? l :: zs.map decodeLine?) = lineCommands [] :=
        lineCommands_cons_of_ends hl _
      rw [hj, List.map_append, List.map_cons, lineCommands_append_congr hnone']
  · intro htick i s
    rw [h.run htick, output_playInput, ← closing_zero]
    exact ⟨rfl, rfl⟩

end Calls

/-- A directory with a script of two blocks, and settings that switch auto-advance on. -/
def rehearsal : FileSystem :=
  .within (.ofFiles [("talk.md".toList, "?01:00\nA\n?00:30\nB".toUTF8),
    ("tempo.toml".toList, "[playback]\nauto_advance = true".toUTF8)])

/-- The lines ` n `, `x`, `h`, `q` and `b`, against `N` and a line that is no text: both move on
once. -/
theorem output_of_commands_rehearsal :
    let args := typed ["tempo", "talk.md"]
    let i := " n \nx\nh\nq\nb\n".toUTF8.data.toList
    let j := [78, 10, 255, 10, 32]
    inputCommands i = [.next] ∧ ComeToSame rehearsal args i j ∧
      (Program.run args rehearsal i).code = 0 := by
  intro args i j
  have hsettings : Settings.load rehearsal none = .ok ⟨true, 1000, .auto⟩ := by decide +kernel
  have h : AsksToPlay rehearsal args ⟨true, 1000, .auto⟩
      ⟨segment "?01:00\nA\n?00:30\nB".toList, 0⟩ false none :=
    ⟨false, none, "talk.md".toList, "?01:00\nA\n?00:30\nB".toList, rfl, hsettings, rfl, rfl⟩
  have hall := output_of_commands h
  exact ⟨rfl, hall.1 i j rfl, (hall.2.2.2.2 (by decide) i).1⟩

end TalkTimer

import TalkTimer.CommandLine
import TalkTimer.Dump
import TalkTimer.Input
import TalkTimer.Sample
import TalkTimer.Screen
import TalkTimer.TestSuite

/-!
# The program

A call of the program either ends at once or plays a session (`Call`); which of the two
follows from its arguments and from where paths lead (`Program.call`). Settings are loaded
first, whatever the action.

Playback reads one key from each line of its input. `Program.run` is the whole program for
an input that is there at once: it ends before the clock of the session ticks for the first
time.

What arguments, Markdown and TOML say is left to libraries (`ArgumentReader`, `MarkdownReader`,
`TomlReader`).
-/

namespace TalkTimer

open Text

/-- What a call of the program comes to. -/
inductive Call
  | done (o : Outcome)
  /-- Play a session. A second of it takes the given number of milliseconds. -/
  | play (s : Session) (tickMs : Nat)
  deriving DecidableEq, Repr

/-! ### Scripts -/

/-- The error of a script that cannot be read. -/
def unreadable (file : Text) (cause : ReadError) : Text :=
  "cannot read '".toList ++ file ++ "': ".toList ++ cause.message

/-- Do something with the text of a file. -/
def withSource (files : FileSystem) (file : Text) (act : Text → Call) : Call :=
  match files.readText file with
  | .error cause => .done (.fail (unreadable file cause))
  | .ok source => act source

/-- The reports on findings in a file, a diagnostic for each. -/
def diagnostics (color : Color) (file source : Text) (findings : List Finding) : List Report :=
  findings.map fun f => .diagnostic color file source f.diagnostic

/-- Do something with a script, or report its findings and the given advice. -/
def withScript (color : Color) (file source : Text) (advice : List Report) (act : Script → Call) :
    Call :=
  match Script.parse 0 source with
  | .ok script => act script
  | .error findings => .done ⟨1, [], diagnostics color file source findings ++ advice⟩

/-- Say that a script is ready. -/
def approve (file : Text) (script : Script) : Outcome :=
  ⟨0, [], [.message ("ok: ".toList ++ file ++ " is ready to present (".toList ++
    decimal script.blocks.length ++ " blocks, ".toList ++ clock script.scheduledTotal.toNat ++
    " scheduled)".toList)]⟩

/-- The warning about a script with findings. -/
def warning (file : Text) (findings : List Finding) : List Report :=
  if findings.isEmpty then []
  else [.message ("warning: ".toList ++ file ++ " has ".toList ++ decimal findings.length ++
    " marker error(s); run `tempo check` for details".toList)]

section Listing

variable [MarkdownReader]

/-- The lines about the blocks of a script. -/
def blockListing (dump : Bool) (blocks : List Block) : List Text :=
  if dump then Dump.blocks blocks else blocks.map Block.describe

/-- List the blocks of a script. -/
def listBlocks (dump : Bool) (file source : Text) : Outcome :=
  ⟨0, (blockListing dump (segment source)).flatMap fun l => l ++ ['\n'],
    warning file (validate source)⟩

end Listing

/-! ### Playback -/

/-- A stream of bytes, cut at every line feed. There is always a last line. -/
def cutAtFeeds : List UInt8 → List (List UInt8)
  | [] => [[]]
  | b :: bs =>
    if b = 10 then [] :: cutAtFeeds bs
    else match cutAtFeeds bs with
      | [] => [[b]]
      | l :: ls => (b :: l) :: ls

/-- The lines of a stream of bytes. Each is ended by a line feed but the last one, which counts only
if it is not empty. -/
def byteLines (bytes : List UInt8) : List (List UInt8) :=
  let ls := cutAtFeeds bytes
  if ls.getLast? = some [] then ls.dropLast else ls

/-- The text that the bytes of a line stand for. -/
def decodeLine? (bytes : List UInt8) : Option Text :=
  (String.fromUTF8? ⟨bytes.toArray⟩).map String.toList

/-- The keys that playback knows. -/
def keyHelp : Report :=
  .message <| joinLines <| List.map String.toList
    ["keys:", "  space / p   play or pause", "  -> / n      next block",
     "  <- / b      previous block", "  a           toggle auto-advance",
     "  h           show this help", "  esc / q     end the presentation"]

/-- What is said about a line that asks for nothing. -/
def unknownKey (line : Text) : Report :=
  .message ("unknown key '".toList ++ trim line ++ "', press h for help".toList)

/-- The events that lines of input ask for. The end of the input asks to quit, and so does a line
that is no text. -/
def lineEvents : List (Option Text) → List Event
  | [] => [.quit]
  | none :: _ => [.quit]
  | some l :: ls =>
    match Input.ofLine? l with
    | some (.event e) => e :: lineEvents ls
    | _ => lineEvents ls

/-- What is said about lines of input, up to the one that asks to quit. -/
def lineReports : List (Option Text) → List Report
  | [] => []
  | none :: _ => []
  | some l :: ls =>
    match Input.ofLine? l with
    | some (.event .quit) => []
    | some (.event _) => lineReports ls
    | some .help => keyHelp :: lineReports ls
    | none => unknownKey l :: lineReports ls

/-- The last line of playback. -/
def closingLine (s : Session) : Text :=
  "\npresentation ended after ".toList ++ clock s.timer.total.toNat ++ " (scheduled ".toList ++
    clock s.scheduledTotal.toNat ++ ")\n".toList

/-- What playback shows of a session and its events: the screen, what each event changes, and a
closing line. -/
def playback (s : Session) (events : List Event) : Text :=
  s.draw .plain ++ (s.trace events).flatMap (fun (s, u) => s.redraw .plain u) ++
    closingLine (s.run events)

/-- Play a session with keys from its input. -/
def playInput (input : List UInt8) (s : Session) : Outcome :=
  let lines := (byteLines input).map decodeLine?
  ⟨0, playback s (lineEvents lines), keyHelp :: lineReports lines⟩

/-- Start to play a script. -/
def startPlaying (autoAdvance : Bool) (tickMs : Nat) (script : Script) : Call :=
  if tickMs = 0 then .done (.fail "--tick-ms must be greater than zero".toList)
  else .play (.start script.blocks autoAdvance) tickMs

/-- The advice to someone who wants to play a script with findings. -/
def playAdvice : Report := .message "error: fix the errors above before presenting".toList

/-- The end of a call whose session is played with the given input. -/
def Call.finish (input : List UInt8) : Call → Outcome
  | .done o => o
  | .play s _ => playInput input s

/-! ### Actions -/

namespace Program

section Actions

variable [MarkdownReader] [TomlReader]

/-- Run the test suite at a path. -/
def testPath (colors : Bool) (files : FileSystem) (path : Text) : Outcome :=
  let runs := runSuite files path
  ⟨if suitePasses runs then 0 else 1, [], suiteReport colors path runs⟩

/-- Carry out an action with the given settings. Reports on suites are coloured unless colours are
switched off; for diagnostics the choice is handed on. -/
def act (s : Settings) (color : Color) (files : FileSystem) : Action → Call
  | .check file =>
    withSource files file fun source =>
      withScript color file source [] fun script => .done (approve file script)
  | .blocks file dump => withSource files file fun source => .done (listBlocks dump file source)
  | .play file autoAdvance tickMs =>
    withSource files file fun source =>
      withScript color file source [playAdvice]
        (startPlaying (autoAdvance || s.autoAdvance) (tickMs.getD s.tickMs))
  | .sample => .done ⟨0, sampleScript, []⟩
  | .test path => .done (testPath (color ≠ .never) files path)

/-- Carry out a request. -/
def handle (files : FileSystem) (r : Request) : Call :=
  match Settings.load files r.config with
  | .error e => .done (.fail e.message)
  | .ok s => act s (s.color.choose r.noColor) files r.action

variable [ArgumentReader]

/-- A call of the program. The argument at position 0 is the name of the program. -/
def call (args : List Text) (files : FileSystem) : Call :=
  match ArgumentReader.request (CommandLine.withDefaultAction args) with
  | .error o => .done o
  | .ok r => handle files r

/-- A call of the program from its arguments to its end. -/
def run (args : List Text) (files : FileSystem) (input : List UInt8) : Outcome :=
  (call args files).finish input

end Actions

end Program
end TalkTimer

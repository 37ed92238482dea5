import TalkTimer.Excerpt
import TalkTimer.Program
import TalkTimer.Readers

/-!
# The command

The program at work: it looks at the files that its arguments name, and at nothing else
(`Snapshot`), and plays sessions with a clock that keeps time (`play`).
-/

namespace TalkTimer

/-! ### Files -/

namespace Snapshot

/-- The number of an error of the system. Some calls give it with a minus sign. -/
def errorNumber (code : UInt32) : Nat :=
  if code.toNat < 0x80000000 then code.toNat else 0x100000000 - code.toNat

/-- The cause of an error of the system. -/
def cause : IO.Error → ReadError
  | .noFileOrDirectory _ _ _ => .notFound
  | .inappropriateType _ code _ => if errorNumber code = 20 then .notDirectory else .isDirectory
  | .invalidArgument _ code report =>
    if errorNumber code = 36 then .nameTooLong else .other report.toList
  | .permissionDenied _ _ _ => .other "Permission denied (os error 13)".toList
  | e => .other (toString e).toList

/-- What an action of the system gives, or the cause of its failure. -/
def attempt {α : Type} (act : IO α) : IO (Except ReadError α) := do
  try return .ok (← act)
  catch e => return .error (cause e)

mutual

/-- What stands at a path. The files below a directory are read only if `deep` is set, and of those
only script tests. -/
partial def read (deep : Bool) (d : IO.FS.DirEntry) : IO (Except ReadError Entry) := do
  match ← attempt d.path.metadata with
  | .error e => return .error e
  | .ok m =>
    if m.type != .dir then return .ok (.file (← attempt (IO.FS.readBinFile d.path)))
    else if !deep then return .ok (.directory [])
    else match ← attempt d.path.readDir with
      | .error _ => return .ok (.directory [])
      | .ok ds => return .ok (.directory (← readEach ds.toList))

/-- What stands in a directory. -/
partial def readEach : List IO.FS.DirEntry → IO (List (Text × Entry))
  | [] => return []
  | d :: ds => do
    let rest ← readEach ds
    let name := d.fileName.toList
    match ← attempt d.path.metadata with
    | .error _ => return rest
    | .ok m =>
      if m.type != .dir && !isTestName name then return rest
      else match ← read true d with
        | .error _ => return rest
        | .ok e => return (name, e) :: rest

end

/-- Where the given paths lead to. -/
def ofPaths (deep : Bool) (paths : List Text) : IO FileSystem := do
  let here ← IO.currentDir
  let found ← paths.mapM fun p => do
    let e ← if p.isEmpty then pure (.error .notFound) else read deep ⟨here, String.ofList p⟩
    return (p, e)
  return ⟨fun path => ((found.find? fun e => e.1 = path).map Prod.snd).getD (.error .notFound)⟩

end Snapshot

/-- The path that an action reads. -/
def Action.path? : Action → Option Text
  | .check file => some file
  | .blocks file _ => some file
  | .play file _ _ => some file
  | .sample => none
  | .test path => some path

/-- Whether an action reads what lies below a directory. -/
def Action.isDeep : Action → Bool
  | .test _ => true
  | _ => false

/-- The files that a request is about. -/
def Request.files (r : Request) : IO FileSystem :=
  Snapshot.ofPaths r.action.isDeep (r.config.getD Settings.defaultPath :: r.action.path?.toList)

/-! ### Playback -/

namespace Playback

/-- Write a text at once. -/
def put (stream : IO.FS.Stream) (t : Text) : IO Unit := do
  stream.putStr (String.ofList t)
  stream.flush

/-- Whether the environment allows colours: it names a terminal that has them, and asks for none to
be left out. -/
def allowsColors : IO Bool := do
  let terminal ← IO.getEnv "TERM"
  let without ← IO.getEnv "NO_COLOR"
  return terminal.any (· ≠ "dumb") && without.isNone

/-- Write a report. -/
def report (r : Report) : IO Unit := do
  put (← IO.getStderr) (r.text (← allowsColors))

/-- The next line of the input, while the session goes on. -/
def nextLine : IO (Task (Except IO.Error String)) := do
  let input ← IO.getStdin
  IO.asTask input.getLine

/-- How long the clock may sleep before it looks for input, in milliseconds. -/
def patience : Nat := 10

/-- Take an event, and show what it changed. -/
def take (s : Session) (e : Event) : IO Session := do
  let (s, u) := s.take e
  put (← IO.getStdout) (s.redraw .plain u)
  return s

/-- Play a session to its end: until the input ends or asks to quit. The next tick is due at the
time `due`. -/
partial def loop (tickMs : Nat) (line : Task (Except IO.Error String)) (clock : Ticker) (due : Nat)
    (s : Session) : IO Session := do
  let now ← IO.monoMsNow
  let goOn (line : Task (Except IO.Error String)) (due : Nat) (s : Session) : IO Session := do
    let (clock, again) := clock.follow s.timer.playing
    loop tickMs line clock (if again then now + tickMs else due) s
  if ← IO.hasFinished line then
    match line.get with
    | .error _ => return s
    | .ok text =>
      if text.isEmpty then return s
      match Input.ofLine? text.toList with
      | some (.event .quit) => return s
      | some (.event e) =>
        let s ← take s e
        goOn (← nextLine) due s
      | some .help =>
        report keyHelp
        goOn (← nextLine) due s
      | none =>
        report (unknownKey text.toList)
        goOn (← nextLine) due s
  else if due ≤ now then
    let s ← take s .tick
    goOn line (due + tickMs) s
  else
    IO.sleep (min patience (due - now)).toUInt32
    loop tickMs line clock due s

/-- Play a session. -/
def play (tickMs : Nat) (s : Session) : IO Unit := do
  report keyHelp
  put (← IO.getStdout) (s.draw .plain)
  let last ← loop tickMs (← nextLine) .start ((← IO.monoMsNow) + tickMs) s
  put (← IO.getStdout) (closingLine last)

end Playback

/-- End a call. -/
def Outcome.emit (o : Outcome) : IO UInt32 := do
  Playback.put (← IO.getStdout) o.output
  Playback.put (← IO.getStderr) (o.errors (← Playback.allowsColors))
  return o.code.toUInt32

end TalkTimer

open TalkTimer in
/-- Carry out a call of the program. -/
def main (args : List String) : IO UInt32 := do
  let args := "tempo".toList :: args.map String.toList
  let files ← match ArgumentReader.request (CommandLine.withDefaultAction args) with
    | .ok r => r.files
    | .error _ => Snapshot.ofPaths false []
  match Program.call args files with
  | .done o => o.emit
  | .play s tickMs =>
    Playback.play tickMs s
    return 0

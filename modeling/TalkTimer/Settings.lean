import TalkTimer.Files
import TalkTimer.Toml.Value

/-!
# Settings

The settings file `tempo.toml`: whether a talk advances by itself, how long a second of
the talk takes, and whether reports are coloured. All settings have defaults; a name that
is no setting is an error.
-/

namespace TalkTimer

open Toml (Value)

/-- Whether reports are coloured. -/
inductive Color
  /-- As the environment allows it. -/
  | auto
  | always
  | never
  deriving DecidableEq, Repr

namespace Color

/-- The choice that the command line makes of a setting. -/
def choose (noColor : Bool) (c : Color) : Color := if noColor then .never else c

/-- The choice with a given name. -/
def named? (name : Text) : Option Color :=
  if name = "auto".toList then some .auto
  else if name = "always".toList then some .always
  else if name = "never".toList then some .never
  else none

end Color

/-- The settings of the program. -/
structure Settings where
  autoAdvance : Bool
  /-- The milliseconds of one second of the talk. -/
  tickMs : Nat
  color : Color
  deriving DecidableEq, Repr

/-- Why settings cannot be loaded. -/
inductive SettingsError
  | unreadable (path : Text) (cause : ReadError)
  | unparsable (path : Text)
  | zeroTick
  deriving DecidableEq, Repr

namespace SettingsError

/-- The error as it is reported. The cause of an unreadable file is told twice, once as a part of the
error and once as what lies behind it. -/
def message : SettingsError → Text
  | unreadable path cause =>
    "cannot read config '".toList ++ path ++ "': ".toList ++ cause.message ++ ": ".toList ++
      cause.message
  | unparsable path => "cannot parse config '".toList ++ path ++ "': TOML parse error".toList
  | zeroTick => "tick_ms must be greater than zero".toList

end SettingsError

namespace Settings

/-- The settings without a file. -/
def default : Settings := ⟨false, 1000, .auto⟩

/-- Numbers in a settings file are integers of 64 bits with a sign. -/
def numberBound : Nat := 0x8000000000000000

/-- Read the settings of playback. -/
def readPlayback? (s : Settings) (v : Value) : Option Settings := do
  match ← v.fields? true ["auto_advance".toList, "tick_ms".toList] with
  | [auto, tick] =>
    let auto ← Toml.optional Value.boolean? auto
    let tick ← Toml.optional (Value.natBelow? numberBound) tick
    return { s with autoAdvance := auto.getD s.autoAdvance, tickMs := tick.getD s.tickMs }
  | _ => none

/-- Read the settings of output. -/
def readOutput? (s : Settings) (v : Value) : Option Settings := do
  match ← v.fields? true ["color".toList] with
  | [color] =>
    let color ← Toml.optional (fun v => v.choice?.bind Color.named?) color
    return { s with color := color.getD s.color }
  | _ => none

section Load

variable [TomlReader]

/-- Read a settings file. -/
def parse? (t : Text) : Option Settings := do
  match ← (← TomlReader.read? t).fields? true ["playback".toList, "output".toList] with
  | [playback, output] =>
    let s ← match playback with
      | some v => readPlayback? default v
      | none => some default
    match output with
    | some v => readOutput? s v
    | none => some s
  | _ => none

/-- Load the settings in the file at a path. -/
def loadFrom (files : FileSystem) (path : Text) : Except SettingsError Settings :=
  match files.readText path with
  | .error cause => .error (.unreadable path cause)
  | .ok t =>
    match parse? t with
    | none => .error (.unparsable path)
    | some s => if s.tickMs = 0 then .error .zeroTick else .ok s

/-- The settings file of a working directory. -/
def defaultPath : Text := "tempo.toml".toList

/-- Load the settings: from the given file, else from the settings file of the working directory if
there is one, else the defaults. -/
def load (files : FileSystem) (path : Option Text) : Except SettingsError Settings :=
  match path with
  | some p => loadFrom files p
  | none => if files.isFile defaultPath then loadFrom files defaultPath else .ok default

end Load

end Settings
end TalkTimer

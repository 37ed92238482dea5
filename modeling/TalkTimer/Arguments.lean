import TalkTimer.CommandLine
import TalkTimer.Text.Numeral

/-!
# Arguments

The arguments of a call, read as its usage tells. Options stand before or after the name of
the action; those of every action (`--no-color`, `--config`, `--verbose`, `--quiet`) may
stand on both sides.

Arguments are taken from left to right, and the first one that is wrong, or asks for help,
decides.
-/

namespace TalkTimer

open Text

/-- Where in the arguments an option stands: before the name of an action, or behind it. -/
inductive Level
  | program
  | check
  | blocks
  | play
  | sample
  | test
  deriving DecidableEq, Repr

/-- Why the arguments make no request. -/
inductive Stop
  | usage
  | help (level : Level)
  | version
  deriving DecidableEq, Repr

/-! ### Options -/

/-- An option without a value. -/
inductive Flag
  | noColor
  | verbose
  | quiet
  | help
  | version
  | dump
  | autoAdvance
  deriving DecidableEq, Repr

/-- An option with a value. -/
inductive Setting
  | config
  | tickMs
  deriving DecidableEq, Repr

namespace Level

/-- The level behind the name of an action. -/
def named? (name : Text) : Option Level :=
  if name = "check".toList then some .check
  else if name = "blocks".toList then some .blocks
  else if name = "play".toList then some .play
  else if name = "sample".toList then some .sample
  else if name = "test".toList then some .test
  else none

/-- The flag with a long name. -/
def flag? (l : Level) (name : Text) : Option Flag :=
  if name = "no-color".toList then some .noColor
  else if name = "verbose".toList then some .verbose
  else if name = "quiet".toList then some .quiet
  else if name = "help".toList then some .help
  else match l with
    | program => if name = "version".toList then some .version else none
    | blocks => if name = "ast".toList then some .dump else none
    | play => if name = "auto-advance".toList then some .autoAdvance else none
    | _ => none

/-- The flag with a short name. -/
def shortFlag? (l : Level) (c : Char) : Option Flag :=
  if c = 'v' then some .verbose
  else if c = 'q' then some .quiet
  else if c = 'h' then some .help
  else match l with
    | program => if c = 'V' then some .version else none
    | play => if c = 'a' then some .autoAdvance else none
    | _ => none

/-- The option with a value that has a long name. -/
def setting? (l : Level) (name : Text) : Option Setting :=
  if name = "config".toList then some .config
  else if l = play ∧ name = "tick-ms".toList then some .tickMs
  else none

/-- Whether a positional argument may stand at this level. -/
def takesFile : Level → Bool
  | program => false
  | sample => false
  | _ => true

end Level

/-- The options given at one level. -/
structure Given where
  noColor : Bool
  config : Option Text
  verbose : Bool
  quiet : Bool
  dump : Bool
  autoAdvance : Bool
  tickMs : Option Nat
  file : Option Text
  deriving DecidableEq, Repr

namespace Given

/-- No options. -/
def empty : Given := ⟨false, none, false, false, false, false, none, none⟩

/-- The bound of the milliseconds of a tick. -/
def tickBound : Nat := 0x10000000000000000

/-- Give a flag. Only those of verbosity may be given again. -/
def giveFlag (l : Level) (f : Flag) (g : Given) : Except Stop Given :=
  match f with
  | .noColor => if g.noColor then .error .usage else .ok { g with noColor := true }
  | .verbose => .ok { g with verbose := true }
  | .quiet => .ok { g with quiet := true }
  | .help => .error (.help l)
  | .version => .error .version
  | .dump => if g.dump then .error .usage else .ok { g with dump := true }
  | .autoAdvance => if g.autoAdvance then .error .usage else .ok { g with autoAdvance := true }

/-- Give an option with its value. None may be given again. -/
def giveSetting (s : Setting) (v : Text) (g : Given) : Except Stop Given :=
  match s with
  | .config => if v.isEmpty || g.config.isSome then .error .usage else .ok { g with config := some v }
  | .tickMs =>
    match readBelow? tickBound v, g.tickMs with
    | some n, none => .ok { g with tickMs := some n }
    | _, _ => .error .usage

/-- Give a positional argument. -/
def giveFile (l : Level) (v : Text) (g : Given) : Except Stop Given :=
  if l.takesFile && g.file.isNone then .ok { g with file := some v } else .error .usage

/-- Whether the options contradict each other. -/
def isContradictory (g : Given) : Bool := g.verbose && g.quiet

/-- The action of a level, if its positional argument is given. -/
def action? (g : Given) : Level → Option Action
  | .program => none
  | .check => g.file.map .check
  | .blocks => g.file.map fun file => .blocks file g.dump
  | .play => g.file.map fun file => .play file g.autoAdvance g.tickMs
  | .sample => some .sample
  | .test => g.file.map .test

end Given

namespace CommandLine

/-! ### Reading arguments -/

/-- Whether an argument can be the value of the option before it. A single hyphen can. -/
def isValue (a : Text) : Bool := !isOption a || a == ['-']

/-- The name and the value of an option in one argument. -/
def cutAtEquals : Text → Text × Option Text
  | [] => ([], none)
  | c :: t => if c = '=' then ([], some t) else (c :: (cutAtEquals t).1, (cutAtEquals t).2)

/-- Give several short flags. -/
def giveShortFlags (l : Level) : Text → Given → Except Stop Given
  | [], g => .ok g
  | c :: cs, g =>
    match l.shortFlag? c with
    | none => .error .usage
    | some f => (g.giveFlag l f).bind (giveShortFlags l cs)

/-- Give several positional arguments. -/
def giveFiles (l : Level) : List Text → Given → Except Stop Given
  | [], g => .ok g
  | a :: as, g => (g.giveFile l a).bind (giveFiles l as)

/-- Take the arguments of one level. Before the name of an action they end with that name, which is left
with the rest. Behind two hyphens there are no options and no names of actions. -/
def takeLevel (l : Level) (g : Given) : List Text → Except Stop (Given × List Text)
  | [] => .ok (g, [])
  | ['-', '-'] :: rest => (giveFiles l rest g).map fun g => (g, [])
  | ('-' :: '-' :: t) :: rest =>
    match cutAtEquals t with
    | (name, some v) =>
      match l.setting? name with
      | some s => (g.giveSetting s v).bind fun g => takeLevel l g rest
      | none => .error .usage
    | (name, none) =>
      match l.flag? name, l.setting? name, rest with
      | some f, _, rest => (g.giveFlag l f).bind fun g => takeLevel l g rest
      | none, some s, v :: rest =>
        if isValue v then (g.giveSetting s v).bind fun g => takeLevel l g rest
        else .error .usage
      | none, _, _ => .error .usage
  | ('-' :: c :: cs) :: rest =>
    (giveShortFlags l (c :: cs) g).bind fun g => takeLevel l g rest
  | a :: rest =>
    if l = .program then .ok (g, a :: rest)
    else (g.giveFile l a).bind fun g => takeLevel l g rest

/-- The request for help on the actions that are named. -/
def helpOn : List Text → Stop
  | [] => .help .program
  | [name] =>
    if name = "help".toList then .help .program
    else (Level.named? name).elim .usage .help
  | _ => .usage

/-- The request that arguments make, the name of the program apart. -/
def read (args : List Text) : Except Stop Request := do
  let (outer, rest) ← takeLevel .program .empty args
  match rest with
  | [] => .error .usage
  | name :: rest =>
    if name = "help".toList then .error (helpOn rest)
    else match Level.named? name with
      | none => .error .usage
      | some l => do
        let (inner, _) ← takeLevel l .empty rest
        if inner.isContradictory || outer.isContradictory then .error .usage
        else match inner.action? l with
          | none => .error .usage
          | some action => .ok ⟨outer.noColor || inner.noColor, inner.config.or outer.config, action⟩

/-! ### Help -/

/-- The name and the version of the program. -/
def versionText : Text := "tempo 0.1.0\n".toList

/-- What a level is for. -/
def about : Level → String
  | .program => "Timed presentations from Markdown scripts"
  | .check => "Validate the time markers of a script"
  | .blocks => "List the timed blocks of a script"
  | .play => "Present a script with a live timer"
  | .sample => "Print an example script"
  | .test => "Run .test.md test files"

/-- How a level is called. -/
def usage : Level → String
  | .program => "tempo [OPTIONS] <COMMAND>"
  | .check => "tempo check [OPTIONS] <FILE>"
  | .blocks => "tempo blocks [OPTIONS] <FILE>"
  | .play => "tempo play [OPTIONS] <FILE>"
  | .sample => "tempo sample [OPTIONS]"
  | .test => "tempo test [OPTIONS] <PATH>"

/-- What may stand at a level besides options, with its heading. -/
def argumentTable : Level → List (String × String)
  | .program =>
    [("check", about .check), ("blocks", about .blocks), ("play", about .play),
     ("sample", about .sample), ("test", about .test),
     ("help", "Print this message or the help of the given subcommand(s)")]
  | .sample => []
  | .test => [("<PATH>", "Path to a .test.md file or directory containing them")]
  | _ => [("<FILE>", "Markdown script")]

/-- The options of a level. -/
def optionTable (l : Level) : List (String × String) :=
  (match l with
  | .blocks => [("    --ast", "Dump the parsed blocks")]
  | .play =>
    [("-a, --auto-advance", "Move on automatically when a block's time is up"),
     ("    --tick-ms <MS>", "Milliseconds per timer second (for rehearsals)")]
  | _ => []) ++
  [("    --no-color", "Disable colored error output"),
   ("    --config <PATH>", "Config file (defaults to ./tempo.toml when present)"),
   ("-v, --verbose...", "Increase logging verbosity"),
   ("-q, --quiet...", "Decrease logging verbosity"),
   ("-h, --help", "Print help")] ++
  if l = .program then [("-V, --version", "Print version")] else []

/-- A table in two columns under a heading. -/
def table (heading : String) (rows : List (String × String)) : Text :=
  let width := (rows.map fun r => r.1.length).foldl max 0
  if rows.isEmpty then []
  else '\n' :: heading.toList ++ [':', '\n'] ++ rows.flatMap fun (name, text) =>
    "  ".toList ++ name.toList ++ List.replicate (width - name.length + 2) ' ' ++ text.toList ++ ['\n']

/-- The help on a level. -/
def helpText (l : Level) : Text :=
  (about l).toList ++ "\n\nUsage: ".toList ++ (usage l).toList ++ ['\n'] ++
    table (if l = .program then "Commands" else "Arguments") (argumentTable l) ++
    table "Options" (optionTable l)

/-- What is reported about arguments that make no request. -/
def usageError : Text :=
  "error: invalid arguments\n\nUsage: ".toList ++ (usage .program).toList ++
    "\n\nFor more information, try '--help'.".toList

/-- How a call ends whose arguments make no request. -/
def stop : Stop → Outcome
  | .usage => ⟨2, [], [.message usageError]⟩
  | .help l => ⟨0, helpText l, []⟩
  | .version => ⟨0, versionText, []⟩

/-- The request of a call, where the argument at position 0 is the name of the program. -/
def request (args : List Text) : Except Outcome Request := (read (args.drop 1)).mapError stop

end CommandLine
end TalkTimer

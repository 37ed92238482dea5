import TalkTimer.Text.Lines
import TalkTimer.Toml.Value

/-!
# Front matter

A script test is a file whose front matter, between two lines of three hyphens, holds
expectations in TOML; the script follows (`split`). All expectations are optional, and
names without a meaning are passed over.
-/

namespace TalkTimer

open Toml (Value)

/-- An expected finding: a part of its message, and perhaps its line, counted from one. -/
structure ExpectedFinding where
  contains : Text
  line : Option Nat
  deriving DecidableEq, Repr

/-- What is expected of a block. -/
structure ExpectedBlock where
  level : Option Nat
  time : Option Nat
  untimed : Option Bool
  title : Option Text
  deriving DecidableEq, Repr

/-- What is expected of the session at the end. -/
structure ExpectedState where
  block : Option Nat
  playing : Option Bool
  total : Option Nat
  blockElapsed : Option Nat
  parentElapsed : Option Nat
  overtime : Option Bool
  deriving DecidableEq, Repr

/-- What the front matter of a test asks for. -/
structure Expectations where
  description : Option Text
  /-- The findings, in order. Without them the script has to be valid. -/
  findings : Option (List ExpectedFinding)
  /-- The blocks, of which even an invalid script has some. -/
  blocks : Option (List ExpectedBlock)
  autoAdvance : Bool
  /-- The steps of the session, as they are written. -/
  steps : List Text
  state : Option ExpectedState
  deriving DecidableEq, Repr

/-- Why a test file has no front matter that can be read. -/
inductive FrontMatterError
  | noOpening
  | noClosing
  | unparsable
  deriving DecidableEq, Repr

namespace FrontMatterError

/-- The error as it is reported. -/
def message : FrontMatterError → Text
  | noOpening => "missing opening --- frontmatter delimiter".toList
  | noClosing => "missing closing --- frontmatter delimiter".toList
  | unparsable => "TOML parse error".toList

end FrontMatterError

namespace FrontMatter

/-- Drop byte order marks. -/
def dropMarks (t : Text) : Text := t.dropWhile fun c => c.toNat == 0xFEFF

/-- Drop a line ending, if the text starts with one. -/
def dropLineEnd : Text → Text
  | '\n' :: r => r
  | '\r' :: '\n' :: r => r
  | t => t

/-- The text before the first line that starts with three hyphens and what follows the hyphens. The
line ending before them belongs to neither. -/
def cutAtDelimiter? : Text → Option (Text × Text)
  | [] => none
  | '\n' :: '-' :: '-' :: '-' :: r => some ([], r)
  | c :: r => (cutAtDelimiter? r).map fun (config, rest) => (c :: config, rest)

/-- Drop the carriage returns a text ends with. -/
def dropReturns (t : Text) : Text := (t.reverse.dropWhile (· == '\r')).reverse

/-- The configuration and the script of a test file. -/
def split (t : Text) : Except FrontMatterError (Text × Text) :=
  match dropMarks t with
  | '-' :: '-' :: '-' :: r =>
    match cutAtDelimiter? (dropLineEnd r) with
    | some (config, rest) => .ok (dropReturns config, dropLineEnd rest)
    | none => .error .noClosing
  | _ => .error .noOpening

/-- The numbers of a test are below these bounds: times, and positions. -/
def timeBound : Nat := 0x100000000

/-- The bound of positions. -/
def placeBound : Nat := 0x8000000000000000

/-- Read an expected finding. -/
def readFinding? (v : Value) : Option ExpectedFinding := do
  match ← v.fields? false ["contains".toList, "line".toList] with
  | [some c, l] => return ⟨← c.string?, ← Toml.optional (Value.natBelow? placeBound) l⟩
  | _ => none

/-- Read what is expected of a block. -/
def readBlock? (v : Value) : Option ExpectedBlock := do
  match ← v.fields? false ["level".toList, "time".toList, "untimed".toList, "title".toList] with
  | [level, time, untimed, title] =>
    return ⟨← Toml.optional (Value.natBelow? timeBound) level,
      ← Toml.optional (Value.natBelow? timeBound) time,
      ← Toml.optional Value.boolean? untimed, ← Toml.optional Value.string? title⟩
  | _ => none

/-- Read what is expected of the session. -/
def readState? (v : Value) : Option ExpectedState := do
  match ← v.fields? false ["block".toList, "playing".toList, "total".toList,
      "block_elapsed".toList, "parent_elapsed".toList, "overtime".toList] with
  | [block, playing, total, blockElapsed, parentElapsed, overtime] =>
    return ⟨← Toml.optional (Value.natBelow? placeBound) block,
      ← Toml.optional Value.boolean? playing, ← Toml.optional (Value.natBelow? timeBound) total,
      ← Toml.optional (Value.natBelow? timeBound) blockElapsed,
      ← Toml.optional (Value.natBelow? timeBound) parentElapsed,
      ← Toml.optional Value.boolean? overtime⟩
  | _ => none

/-- Read a list. -/
def readList? {α : Type} (read : Value → Option α) (v : Value) : Option (List α) :=
  v.items?.bind fun vs => vs.mapM read

section Read

variable [TomlReader]

/-- Read the expectations in a configuration. -/
def readConfig? (t : Text) : Option Expectations := do
  match ← (← TomlReader.read? t).fields? false ["description".toList, "expect_errors".toList,
      "expect_blocks".toList, "auto_advance".toList, "steps".toList, "expect_state".toList] with
  | [description, findings, blocks, auto, steps, state] =>
    let auto ← Toml.optional Value.boolean? auto
    let steps ← Toml.optional (readList? Value.string?) steps
    return ⟨← Toml.optional Value.string? description,
      ← Toml.optional (readList? readFinding?) findings,
      ← Toml.optional (readList? readBlock?) blocks,
      auto.getD false, steps.getD [], ← Toml.optional readState? state⟩
  | _ => none

/-- The expectations and the script of a test file. -/
def read (t : Text) : Except FrontMatterError (Expectations × Text) :=
  match split t with
  | .error e => .error e
  | .ok (config, source) =>
    match readConfig? config with
    | none => .error .unparsable
    | some e => .ok (e, source)

end Read

end FrontMatter
end TalkTimer

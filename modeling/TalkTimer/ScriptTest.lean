import TalkTimer.Files
import TalkTimer.FrontMatter
import TalkTimer.Step
import TalkTimer.Text.Order
import TalkTimer.Title

/-!
# Script tests

A script test compares a script with the expectations of its front matter: first the
blocks, then the findings of validation, and for a valid script the session after the
steps. The first thing that differs is the reason of its failure.
-/

namespace TalkTimer

open Text

/-- Why a script test fails. Positions count from zero. -/
inductive TestFailure
  | unreadable (cause : ReadError)
  | frontMatter (cause : FrontMatterError)
  | blockCount (wanted found : Nat)
  | blockField (index : Nat) (field wanted found : Text)
  /-- The script has to be valid and is not. -/
  | invalid (findings : List Finding)
  /-- The script has to be invalid and is not. -/
  | valid (wanted : Nat)
  | findingCount (wanted : Nat) (findings : List Finding)
  | findingMessage (index : Nat) (wanted : Text) (found : Finding)
  | findingLine (index : Nat) (wanted : Nat) (found : Finding)
  | step (cause : StepError)
  | stateField (field : Text) (wanted found : Nat)

namespace TestFailure

/-- The reason as it is reported, in one or more lines. -/
def message : TestFailure → Text
  | unreadable cause => "cannot read file: ".toList ++ cause.message
  | frontMatter cause => "frontmatter error: ".toList ++ cause.message
  | blockCount wanted found =>
    "expected ".toList ++ decimal wanted ++ " block(s), got ".toList ++ decimal found
  | blockField index field wanted found =>
    "block[".toList ++ decimal index ++ "]: expected ".toList ++ field ++ [' '] ++ wanted ++
      ", got ".toList ++ found
  | invalid findings =>
    "unexpected validation errors:\n  ".toList ++
      "\n  ".toList.intercalate (findings.map Finding.text)
  | valid wanted =>
    "expected ".toList ++ decimal wanted ++ " validation error(s), but the script is valid".toList
  | findingCount wanted findings =>
    "expected ".toList ++ decimal wanted ++ " error(s), got ".toList ++ decimal findings.length ++
      "\n  actual errors:\n".toList ++
      joinLines (findings.map fun f => "  - ".toList ++ f.text)
  | findingMessage index wanted found =>
    "error[".toList ++ decimal index ++ "]: expected message containing \"".toList ++ wanted ++
      "\", got: ".toList ++ found.fault.message
  | findingLine index wanted found =>
    "error[".toList ++ decimal index ++ "]: expected on line ".toList ++ decimal wanted ++
      ", but reported on line ".toList ++ decimal (found.line + 1)
  | step cause => cause.message
  | stateField field wanted found =>
    "state: expected ".toList ++ field ++ " = ".toList ++ decimal wanted ++ ", got ".toList ++
      decimal found

end TestFailure

namespace ScriptTest

/-- Whether a wish is met, where there is one. -/
def wants {α : Type} [DecidableEq α] (wish : Option α) (found : α) : Bool := wish.all (· = found)

theorem wants_iff {α : Type} [DecidableEq α] {wish : Option α} {found : α} :
    wants wish found = true ↔ ∀ w ∈ wish, found = w := by
  cases wish with
  | none => simp [wants]
  | some w => simp [wants, eq_comm]

/-- A truth value as it is written. -/
def truth (b : Bool) : Text := if b then "true".toList else "false".toList

/-- A text in quotation marks. -/
def quoted (t : Text) : Text := '"' :: t ++ ['"']

/-- The first field of a block that is not as expected. -/
def checkBlock [MarkdownReader] (index : Nat) (b : Block) (e : ExpectedBlock) :
    Option TestFailure :=
  if !wants e.level b.level then
    some (.blockField index "level".toList (decimal (e.level.getD 0)) (decimal b.level))
  else if !wants e.time b.time then
    some (.blockField index "time".toList (decimal (e.time.getD 0)) (decimal b.time))
  else if !wants e.untimed b.isUntimed then
    some (.blockField index "untimed".toList (truth (e.untimed.getD false)) (truth b.isUntimed))
  else if !wants e.title (b.title?.getD []) then
    some (.blockField index "title".toList (quoted (e.title.getD [])) (quoted (b.title?.getD [])))
  else none

/-- Compare things with what is expected of them, one by one; they are counted from `index`. -/
def checkEach {α β : Type} (check : Nat → α → β → Option TestFailure) (index : Nat) :
    List α → List β → Option TestFailure
  | a :: as, e :: es => (check index a e).or (checkEach check (index + 1) as es)
  | _, _ => none

/-- Compare blocks with what is expected of them. -/
def checkBlocks [MarkdownReader] (blocks : List Block) (expected : List ExpectedBlock) :
    Option TestFailure :=
  if blocks.length ≠ expected.length then some (.blockCount expected.length blocks.length)
  else checkEach checkBlock 0 blocks expected

/-- Compare a finding with what is expected of it. -/
def checkFinding (index : Nat) (f : Finding) (e : ExpectedFinding) : Option TestFailure :=
  if !occursIn e.contains f.fault.message then some (.findingMessage index e.contains f)
  else if !wants e.line (f.line + 1) then some (.findingLine index (e.line.getD 0) f)
  else none

/-- Compare findings with what is expected of them. -/
def checkFindings (findings : List Finding) (expected : List ExpectedFinding) :
    Option TestFailure :=
  if findings.length ≠ expected.length then some (.findingCount expected.length findings)
  else checkEach checkFinding 0 findings expected

/-- Compare a number of the state with a wish. -/
def checkNumber (field : String) (wish : Option Nat) (found : Nat) : Option TestFailure :=
  if wants wish found then none else some (.stateField field.toList (wish.getD 0) found)

/-- Compare a truth value of the state with a wish. It is reported as one or zero. -/
def checkTruth (field : String) (wish : Option Bool) (found : Bool) : Option TestFailure :=
  checkNumber field (wish.map Bool.toNat) found.toNat

/-- Compare a session with what is expected of it. -/
def checkState (s : Session) (e : ExpectedState) : Option TestFailure :=
  (checkNumber "block" e.block s.timer.block).or <|
  (checkTruth "playing" e.playing s.timer.playing).or <|
  (checkNumber "total" e.total s.timer.total.toNat).or <|
  (checkNumber "block_elapsed" e.blockElapsed s.timer.blockElapsed.toNat).or <|
  (checkNumber "parent_elapsed" e.parentElapsed s.timer.parentElapsed.toNat).or <|
  checkTruth "overtime" e.overtime s.isOvertime

/-- A session after a number of seconds. -/
def ticks : Nat → Session → Session
  | 0, s => s
  | n + 1, s => ticks n s.tick.1

/-- A session after the steps of a test. -/
def runSteps (s : Session) : List Text → Except StepError Session
  | [] => .ok s
  | t :: ts =>
    match Step.read t with
    | .error e => .error e
    | .ok (.ticks n) => runSteps (ticks n s) ts
    | .ok (.command c) => runSteps (s.dispatch c).1 ts

/-- Play a valid script and compare the session with what is expected of it. -/
def checkSession (blocks : List Block) (e : Expectations) : Option TestFailure :=
  match runSteps (.start blocks e.autoAdvance) e.steps with
  | .error cause => some (.step cause)
  | .ok s => e.state.bind (checkState s)

/-- Compare the findings of a script with the expectations, and play it if it is valid. -/
def checkScript (source : Text) (e : Expectations) : Option TestFailure :=
  match Script.parse 0 source, e.findings with
  | .error found, some expected => checkFindings found expected
  | .error found, none => some (.invalid found)
  | .ok script, expected =>
    match expected with
    | some (f :: fs) => some (.valid (f :: fs).length)
    | _ => checkSession script.blocks e

/-- Compare a script with the expectations. -/
def check [MarkdownReader] (source : Text) (e : Expectations) : Option TestFailure :=
  (e.blocks.bind (checkBlocks (segment source))).or (checkScript source e)

end ScriptTest

/-- The outcome of a script test: its description, if it could be read, and why it fails, if it
does. -/
structure Verdict where
  description : Option Text
  failure : Option TestFailure

namespace Verdict

/-- Whether the test passes. -/
def passes (v : Verdict) : Bool := v.failure.isNone

section Outcome

variable [MarkdownReader] [TomlReader]

/-- The outcome of a test file. -/
def ofText (t : Text) : Verdict :=
  match FrontMatter.read t with
  | .error cause => ⟨none, some (.frontMatter cause)⟩
  | .ok (e, source) => ⟨e.description, ScriptTest.check source e⟩

/-- The outcome of a test file with the given bytes, if they can be read. -/
def ofBytes (bytes : Except ReadError ByteArray) : Verdict :=
  match bytes.bind decodeUtf8 with
  | .error cause => ⟨none, some (.unreadable cause)⟩
  | .ok t => ofText t

end Outcome

end Verdict
end TalkTimer

import TalkTimer.Report
import TalkTimer.ScriptTest

/-!
# Test suites

A suite is every script test below a directory: the files whose names end in `.test.md`, however
deep they lie. Tests are grouped by their directory and sorted, so that every test is run once
(`discover_perm`) and in an order of its own (`pairwise_discover`). A path that leads to a file is a
suite of that one test, whatever its name.

The report lists every test with its outcome, then the reasons of the failures, then a
summary.
-/

namespace TalkTimer

open Text

/-! ### Finding tests -/

/-- A script test: the names of the directories that lead to it from the root of the suite, its own
name, and its bytes. -/
structure TestFile where
  folder : List Text
  name : Text
  bytes : Except ReadError ByteArray

namespace TestFile

/-- The names of the path from the root of the suite. -/
def path (f : TestFile) : List Text := f.folder ++ [f.name]

/-- The group of the test. A file directly below the root is in the group without a name. -/
def group (f : TestFile) : Text :=
  (['/'].intercalate f.folder).map fun c => if c = '\\' then '/' else c

/-- Whether a test does not come after another one: groups by name, and tests in a group by path. -/
def le (f g : TestFile) : Bool :=
  if f.group = g.group then pathLe f.path g.path else Text.le f.group g.group

/-- Of two tests one does not come after the other. -/
theorem le_total (f g : TestFile) : (f.le g || g.le f) = true := by
  by_cases h : f.group = g.group
  · simpa [le, h] using pathLe_total f.path g.path
  · have hg : ¬ g.group = f.group := fun e => h e.symm
    simpa [le, h, hg] using Text.le_total f.group g.group

/-- Of three tests, if none comes after the next one, the first does not come after the last. -/
theorem le_trans {f g h : TestFile} (hfg : f.le g = true) (hgh : g.le h = true) :
    f.le h = true := by
  unfold le at hfg hgh ⊢
  split at hfg
  · next e =>
    rw [e]
    split at hgh
    · next e' => rw [if_pos e']; exact pathLe_trans hfg hgh
    · next e' => rw [if_neg e']; exact hgh
  · next e =>
    split at hgh
    · next e' => rw [← e', if_neg e]; exact hfg
    · next e' =>
      have hne : f.group ≠ h.group := by
        intro same
        rw [same] at hfg e
        exact e (eq_of_le_of_le hfg hgh)
      rw [if_neg hne]
      exact Text.le_trans hfg hgh

end TestFile

/-- Whether a file with this name is a script test. -/
def isTestName (name : Text) : Bool := ".test.md".toList.isSuffixOf name

mutual

/-- The tests at or below an entry with the given name. -/
def Entry.testsAt (folder : List Text) (name : Text) : Entry → List TestFile
  | .file bytes => if isTestName name then [⟨folder, name, bytes⟩] else []
  | .directory entries => Entry.testsAmong (folder ++ [name]) entries

/-- The tests at or below the entries of a directory. -/
def Entry.testsAmong (folder : List Text) : List (Text × Entry) → List TestFile
  | [] => []
  | (name, e) :: es => e.testsAt folder name ++ Entry.testsAmong folder es

end

/-- The tests below a directory, in the order in which they are run. -/
def discover (entries : List (Text × Entry)) : List TestFile :=
  (Entry.testsAmong [] entries).mergeSort TestFile.le

/-- Sorting the tests neither drops nor repeats any. -/
theorem discover_perm (entries : List (Text × Entry)) :
    (discover entries).Perm (Entry.testsAmong [] entries) :=
  List.mergeSort_perm _ _

/-- The tests are run in order. -/
theorem pairwise_discover (entries : List (Text × Entry)) :
    (discover entries).Pairwise fun f g => f.le g = true := by
  rw [discover]
  apply List.pairwise_mergeSort
  · intro f g h
    exact TestFile.le_trans
  · exact TestFile.le_total

/-! ### Running tests -/

/-- A test that was run: its path and its name as they are shown, and the outcome. -/
structure TestRun where
  path : Text
  name : Text
  group : Text
  verdict : Verdict

namespace TestRun

/-- A path with one more name at its end. -/
def joinPath (path name : Text) : Text :=
  if path.getLast? = some '/' then path ++ name else path ++ '/' :: name

section Run

variable [MarkdownReader] [TomlReader]

/-- Run a test of a suite with the given root. -/
def ofFile (root : Text) (f : TestFile) : TestRun :=
  ⟨f.path.foldl joinPath root, f.name, f.group, .ofBytes f.bytes⟩

/-- Run the test in a single file. -/
def single (path : Text) (bytes : Except ReadError ByteArray) : TestRun :=
  ⟨path, (Entry.pathNames path).getLast?.getD [], [], .ofBytes bytes⟩

end Run

/-- A file name up to its last dot. A dot at its start does not count. -/
def stem (name : Text) : Text :=
  match name.reverse.dropWhile (· != '.') with
  | _ :: c :: r => (c :: r).reverse
  | _ => name

/-- What the report calls the test: its description, or else the stem of its name. -/
def label (r : TestRun) : Text := r.verdict.description.getD (stem r.name)

/-- Whether the test passes. -/
def passes (r : TestRun) : Bool := r.verdict.passes

end TestRun

/-- Run the suite at a path. -/
def runSuite [MarkdownReader] [TomlReader] (files : FileSystem) (path : Text) : List TestRun :=
  match files.resolve path with
  | .error _ => []
  | .ok (.file bytes) => [.single path bytes]
  | .ok (.directory entries) => (discover entries).map (.ofFile path)

/-! ### The report -/

/-- A text between the escape sequences of a colour, if colours are on. -/
def paint (colors : Bool) (code : String) (t : Text) : Text :=
  if colors then Char.ofNat 0x1B :: '[' :: code.toList ++ 'm' :: t ++ "\x1b[0m".toList else t

namespace TestRun

/-- The line of a test in the report. -/
def outcomeLine (colors : Bool) (r : TestRun) : Text :=
  "  ".toList ++ (if r.passes then paint colors "32" "PASS".toList
    else paint colors "31" "FAIL".toList) ++ "  ".toList ++ r.label

/-- The lines of a failed test among the failures. -/
def failureLines (r : TestRun) : List Text :=
  match r.verdict.failure with
  | none => []
  | some cause =>
    [[], "  --- ".toList ++ r.path ++ " ---".toList] ++
      (shownLines cause.message).map fun l => "  ".toList ++ l

end TestRun

/-- The heading of a group in the report. -/
def groupHeading (colors : Bool) (group : Text) : List Text :=
  if group.isEmpty then [] else [[], paint colors "1" group]

/-- The lines of the tests of one group. -/
def groupLines (colors : Bool) (runs : List TestRun) : List Text :=
  groupHeading colors ((runs.head?.map TestRun.group).getD []) ++
    runs.map (TestRun.outcomeLine colors)

/-- The lines about failures. -/
def failuresLines (failed : List TestRun) : List Text :=
  if failed.isEmpty then []
  else [[], "failures:".toList] ++ failed.flatMap TestRun.failureLines

/-- The summary of a suite with the given numbers of passed and failed tests. -/
def summaryLine (colors : Bool) (passed failed : Nat) : Text :=
  if failed = 0 then
    "test result: ".toList ++ paint colors "32" "ok".toList ++ ". ".toList ++ decimal passed ++
      " passed, 0 failed".toList
  else
    "test result: ".toList ++ paint colors "31" "FAILED".toList ++ ". ".toList ++ decimal passed ++
      " passed, ".toList ++ decimal failed ++ " failed (of ".toList ++ decimal (passed + failed) ++
      [')']

/-- The report on a suite: a heading for each group, a line for each test, the failures, and the
summary. -/
def reportLines (colors : Bool) (runs : List TestRun) : List Text :=
  let groups := runs.splitBy fun a b => a.group == b.group
  let failed := runs.filter fun r => !r.passes
  groups.flatMap (groupLines colors) ++ failuresLines failed ++
    [[], summaryLine colors (runs.length - failed.length) failed.length]

/-- Whether a suite passes: it has tests, and none of them fails. -/
def suitePasses (runs : List TestRun) : Bool := !runs.isEmpty && runs.all TestRun.passes

/-- What is reported about the suite at a path. -/
def suiteReport (colors : Bool) (path : Text) (runs : List TestRun) : List Report :=
  if runs.isEmpty then [.message ("no .test.md files found in ".toList ++ path)]
  else (reportLines colors runs).map .message

end TalkTimer

import TalkTimer.Marker
import TalkTimer.Text.Lines

/-!
# Checking a script

`validate` looks at every line of a script and reports each faulty marker once, in
line order. It keeps the markers whose scope is open, innermost first: a marker closes
all scopes of its own level or deeper, and the innermost scope left is its parent. A
marker with a fault opens a scope all the same; a line that is no marker opens none.
-/

namespace TalkTimer

open Text

/-- The four ways in which a marker line can be wrong. -/
inductive Fault
  /-- The seconds are no multiple of five. -/
  | oddSeconds (found : Nat)
  /-- The line has no marker's form. -/
  | malformed
  /-- The marker is not exactly one level deeper than its parent. -/
  | nesting
  /-- The marker has more time than its parent. -/
  | exceedsParent
  deriving DecidableEq, Repr

namespace Fault

/-- The fault in general. -/
def summary : Fault → Text
  | oddSeconds _ => "seconds must be a multiple of 5".toList
  | malformed => "invalid time marker format".toList
  | nesting => "invalid nesting level".toList
  | exceedsParent => "sub-block time exceeds parent block time".toList

/-- The fault as it is reported. -/
def message : Fault → Text
  | oddSeconds found => (oddSeconds found).summary ++ ", found ".toList ++ twoDigits found
  | f => f.summary

/-- Advice on how to mend the fault. -/
def notes : Fault → List Text
  | oddSeconds _ => ["markers use MM:SS with SS in steps of 5".toList]
  | malformed => ["expected `?`... followed by `MM:SS`, `!! MM:SS` or `!!`".toList]
  | nesting => ["a marker may only go one level deeper than the marker it follows".toList]
  | exceedsParent => []

end Fault

/-- A fault at its place: the line, counted from zero, and its bytes without blanks around them. -/
structure Finding where
  fault : Fault
  line : Nat
  span : Span
  deriving DecidableEq, Repr

/-- A finding in one line of text; lines are counted from one for the reader. -/
def Finding.text (f : Finding) : Text :=
  "line ".toList ++ decimal (f.line + 1) ++ ": ".toList ++ f.fault.message

/-- A diagnostic: a message about a span of a source text, and notes on it. -/
structure Diagnostic where
  message : Text
  span : Span
  notes : List Text
  deriving DecidableEq, Repr

/-- The diagnostic of a finding. -/
def Finding.diagnostic (f : Finding) : Diagnostic := ⟨f.fault.message, f.span, f.fault.notes⟩

/-- The scopes that stay open when a marker of the given level begins. -/
def openScopes (level : Nat) (scopes : List Marker) : List Marker :=
  scopes.dropWhile fun s => level ≤ s.level

/-- What is wrong with a marker below the given parent. Without time control on both sides there
is no bound. -/
def checkAgainst (parent : Option Marker) (m : Marker) : Option Fault :=
  if 1 < m.level ∧ parent.all (fun p => p.level ≠ m.level - 1) then some .nesting
  else match parent with
    | some p =>
      if m.isTimeControlled && p.isTimeControlled && p.time < m.time then some .exceedsParent
      else none
    | none => none

/-- The fault of a line below the open scopes, and the scopes after it. -/
def checkLine (scopes : List Marker) (line : Text) : Option Fault × List Marker :=
  match classify line with
  | .text => (none, scopes)
  | .oddSeconds found => (some (.oddSeconds found), scopes)
  | .malformed => (some .malformed, scopes)
  | .marker m =>
    let outer := openScopes m.level scopes
    (checkAgainst outer.head? m, m :: outer)

/-- The findings of the lines that follow, below the open scopes. -/
def validateLines (scopes : List Marker) : List SourceLine → List Finding
  | [] => []
  | l :: ls =>
    let rest := validateLines (checkLine scopes l.text).2 ls
    match (checkLine scopes l.text).1 with
    | some fault => ⟨fault, l.number, l.trimmedSpan⟩ :: rest
    | none => rest

/-- The finding of the next line, if it has a fault, stands before those of the lines after it. -/
theorem validateLines_cons (scopes : List Marker) (l : SourceLine) (ls : List SourceLine) :
    validateLines scopes (l :: ls) =
      ((checkLine scopes l.text).1.map fun fault => ⟨fault, l.number, l.trimmedSpan⟩).toList ++
        validateLines (checkLine scopes l.text).2 ls := by
  rw [validateLines]
  cases (checkLine scopes l.text).1 with
  | none => rfl
  | some fault => rfl

/-- Every fault of a script, in line order and at most one for each line. A script without any is
ready to present. -/
def validate (source : Text) : List Finding := validateLines [] (sourceLines source)

end TalkTimer

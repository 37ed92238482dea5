import TalkTimer.Text.Blank

/-!
# Emphasis

Inline content is a sequence of fragments with runs of `*` and `_` between them. A run
that may close looks back for the nearest run that may open and fits it; matched
characters mark emphasis and are gone, all others are text (`resolve`).
-/

namespace TalkTimer
namespace Markdown

/-- A piece of inline content. -/
inductive Fragment
  | text (t : Text)
  | code (t : Text)
  | softBreak
  | hardBreak
  | html
  deriving DecidableEq, Repr

/-- A fragment, or a run of characters that may open or close emphasis. -/
inductive Token
  | fragment (f : Fragment)
  | run (char : Char) (length : Nat) (canOpen canClose : Bool)
  deriving DecidableEq, Repr

/-- A run that waits for one to close it: `left` of its `length` characters are unmatched, and
`before` holds the fragments between the opener before it and itself, last one first. -/
structure Opener where
  char : Char
  left : Nat
  length : Nat
  canClose : Bool
  before : List Fragment
  deriving DecidableEq, Repr

namespace Opener

/-- The unmatched characters of a run. -/
def unmatched (o : Opener) : Fragment := .text (List.replicate o.left o.char)

/-- Whether a closing run fits. If one of the two may both open and close, their lengths together
must not be a multiple of three, unless each of them is. -/
def fits (char : Char) (length : Nat) (canOpen : Bool) (o : Opener) : Bool :=
  o.char == char &&
    ((!canOpen && !o.canClose) || (length + o.length) % 3 != 0 || length % 3 == 0)

/-- The fragments of openers that nothing closes, innermost first, put before `inner`. All lists of
fragments have their last one first. -/
def flatten (inner : List Fragment) : List Opener → List Fragment
  | [] => inner
  | o :: os => flatten (inner ++ o.unmatched :: o.before) os

end Opener

/-- The open runs, innermost first, and the fragments after them, last one first. -/
structure Pending where
  openers : List Opener
  after : List Fragment
  deriving DecidableEq, Repr

namespace Pending

/-- Match `left` characters of a closing run with the open runs, as long as some fit; at most `fuel`
open runs take part. The result tells how many characters are left. -/
def close (char : Char) (length : Nat) (canOpen : Bool) : Nat → Nat → Pending → Nat × Pending
  | 0, left, p => (left, p)
  | fuel + 1, left, p =>
    if left = 0 then (0, p)
    else match p.openers.findIdx? (Opener.fits char length canOpen) with
      | none => (left, p)
      | some i =>
        let inner := Opener.flatten p.after (p.openers.take i)
        match p.openers.drop i with
        | [] => (left, p)
        | o :: os =>
          if left < o.left then (0, ⟨{ o with left := o.left - left } :: os, inner⟩)
          else close char length canOpen fuel (left - o.left) ⟨os, inner ++ o.before⟩

/-- Take one token. -/
def push (p : Pending) : Token → Pending
  | .fragment f => { p with after := f :: p.after }
  | .run char length canOpen canClose =>
    let (left, p) :=
      if canClose then close char length canOpen (p.openers.length + 1) length p else (length, p)
    if left = 0 then p
    else if canOpen then ⟨⟨char, left, length, canClose, p.after⟩ :: p.openers, []⟩
    else { p with after := .text (List.replicate left char) :: p.after }

end Pending

/-- The fragments of inline content, with emphasis resolved. -/
def resolve (ts : List Token) : List Fragment :=
  let p := ts.foldl Pending.push ⟨[], []⟩
  (Opener.flatten p.after p.openers).reverse

end Markdown
end TalkTimer

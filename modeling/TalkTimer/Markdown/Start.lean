import TalkTimer.Markdown.Tag

/-!
# How blocks start

Each kind of Markdown block is known by the start of its first line, once the line's
indentation is used up: thematic breaks, headings, code fences, list items and block
quotes. `interruptsParagraph` says which of them may follow a paragraph without a blank
line in between.
-/

namespace TalkTimer
namespace Markdown

/-- Three or more of one of `*`, `-`, `_` with white space between them. -/
def isThematicBreak (t : Text) : Bool :=
  match t with
  | [] => false
  | c :: _ =>
    (c == '*' || c == '-' || c == '_') && 3 ≤ t.count c && t.all fun d => d == c || isSpaceOrTab d

/-- The content of a heading line after its number signs: white space around it is dropped, and so
is a run of number signs at its end that spaces set apart. -/
def headingContent (t : Text) : Text :=
  let body := ((t.dropWhile isGap).reverse.dropWhile (· == ' '))
  let kept := body.dropWhile (· == '#')
  match kept with
  | [] => []
  | ' ' :: _ => (kept.dropWhile (· == ' ')).reverse
  | _ => body.reverse

/-- The content of a heading that a line of one to six number signs makes. -/
def numberSignHeading? (t : Text) : Option Text :=
  let level := (t.takeWhile (· == '#')).length
  if 1 ≤ level ∧ level ≤ 6 then
    match t.drop level with
    | [] => some []
    | c :: r => if isGap c then some (headingContent (c :: r)) else none
  else none

/-- A line of equals signs or of hyphens, which makes a heading of the paragraph above it. -/
def isUnderline (t : Text) : Bool :=
  match t with
  | [] => false
  | c :: _ => (c == '=' || c == '-') && isBlankLine (t.dropWhile (· == c))

/-- The grave accent, which fences code. -/
def grave : Char := Char.ofNat 0x60

/-- The fence that opens a code block: its character and its length. Accents may not occur again
on their line. -/
def fence? (t : Text) : Option (Char × Nat) :=
  match t with
  | [] => none
  | c :: _ =>
    if c == grave || c == '~' then
      let n := (t.takeWhile (· == c)).length
      if 3 ≤ n && !(c == grave && (t.drop n).contains grave) then some (c, n) else none
    else none

/-- Whether a line closes the code block of a fence: at least as many of its characters, and only
spaces after them. -/
def closesFence (c : Char) (n : Nat) (t : Text) : Bool :=
  n ≤ (t.takeWhile (· == c)).length && (t.dropWhile (· == c)).all (· == ' ')

/-- The start of a list item: the length of its marker, and the number of an ordered item. -/
def listMarker? (t : Text) : Option (Nat × Option Nat) :=
  match t with
  | [] => none
  | c :: _ =>
    if c == '-' || c == '+' || c == '*' then some (1, none)
    else
      let ds := (t.take 9).takeWhile Char.isDigit
      match ds, t.drop ds.length with
      | _ :: _, d :: _ =>
        if d == '.' || d == ')' then
          some (ds.length + 1, some (ds.foldl (fun n c => 10 * n + (c.toNat - '0'.toNat)) 0))
        else none
      | _, _ => none

/-- Whether a list item that starts here may follow a paragraph. In the container of the paragraph
an ordered one has to start at 1, and an item without content must not have a blank line after it. -/
def itemInterrupts (inContainer : Bool) (nextBlank : Bool) (t : Text) : Bool :=
  match listMarker? t with
  | none => false
  | some (n, number) =>
    match t.drop n with
    | [] => !inContainer || (number.all (· == 1) && !nextBlank)
    | c :: r =>
      isSpaceOrTab c &&
        (!inContainer || (number.all (· == 1) && !(isBlankLine (c :: r) && nextBlank)))

/-- Whether a line ends the paragraph before it. `inContainer` tells that it lies in all containers
of the paragraph, and `nextBlank` that a blank line or nothing follows it. -/
def interruptsParagraph (inContainer nextBlank : Bool) (t : Text) : Bool :=
  t.isEmpty || isThematicBreak t || (numberSignHeading? t).isSome || (fence? t).isSome ||
    t.head? == some '>' || itemInterrupts inContainer nextBlank t ||
    match t with
    | '<' :: r => (interruptingEnd? r).isSome
    | _ => false

end Markdown
end TalkTimer

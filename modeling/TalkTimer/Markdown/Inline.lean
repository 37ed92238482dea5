import TalkTimer.Markdown.Emphasis
import TalkTimer.Markdown.Link
import TalkTimer.Markdown.Start

/-!
# Inline content

The content of a heading is read from left to right. Code, HTML and addresses in angle
brackets bind closest, then links and images by their brackets, then emphasis. What is
left of a link is its bracketed text, of an image the text that describes it.
-/

namespace TalkTimer
namespace Markdown

open Text

/-- Whether a run of `char` may open emphasis, by the characters before and after it. -/
def canOpen (char before next : Char) : Bool :=
  !isBlank next &&
    ((char == '*' && !isPunctuation next) || isBlank before || isPunctuation before)

/-- Whether a run of `char` may close emphasis, by the characters before and after it. -/
def canClose (char before next : Char) : Bool :=
  !isBlank before &&
    ((char == '*' && !isPunctuation before) || isBlank next || isPunctuation next)

/-- An opening bracket that waits for its partner. -/
structure Bracket where
  image : Bool
  /-- Whether it may still become a link: within a link there is no other. -/
  active : Bool
  /-- The tokens before it, last one first. -/
  outer : List Token
  /-- The text after it. -/
  inside : Text
  deriving Repr

/-- The bracket as text. -/
def Bracket.literal (b : Bracket) : Token :=
  .fragment (.text (if b.image then ['!', '['] else ['[']))

/-- What is read so far: the open brackets, innermost first, the tokens after them, last one first,
and the character before the rest. -/
structure Scan where
  brackets : List Bracket
  tokens : List Token
  before : Char
  deriving Repr

namespace Scan

/-- Add a token; `before` is the last character of it in the text. -/
def add (s : Scan) (t : Token) (before : Char) : Scan :=
  { s with tokens := t :: s.tokens, before := before }

/-- Add text. -/
def addText (s : Scan) (t : Text) : Scan :=
  s.add (.fragment (.text t)) (t.getLast?.getD s.before)

/-- Open a bracket; `inside` is the text after it. -/
def openBracket (s : Scan) (image : Bool) (inside : Text) : Scan :=
  ⟨⟨image, true, s.tokens, inside⟩ :: s.brackets, [], '['⟩

/-- Take the innermost bracket as text. -/
def dropBracket (s : Scan) : Scan :=
  match s.brackets with
  | [] => s
  | b :: bs => ⟨bs, s.tokens ++ b.literal :: b.outer, s.before⟩

/-- Make a link or an image of the innermost bracket; `before` is the last character of its target. -/
def makeLink (s : Scan) (before : Char) : Scan :=
  match s.brackets with
  | [] => s
  | b :: bs =>
    let inner := (resolve s.tokens.reverse).map Token.fragment
    ⟨if b.image then bs else bs.map fun o => { o with active := o.active && o.image },
      inner.reverse ++ b.outer, before⟩

/-- What is left of the text at its end. -/
def finish (s : Scan) : List Token :=
  (s.brackets.foldl (fun ts b => ts ++ b.literal :: b.outer) s.tokens).reverse

end Scan

/-- The text after a link that refers to one of the given labels: by a label that follows, by an
empty one, or by its own text. `inside` is the text between the brackets and `t` what follows them. -/
def readReference? (labels : List Label) (inside t : Text) : Option Text :=
  let own := match readLabel? (inside ++ [']']) with
    | some (l, []) => labels.contains l
    | _ => false
  match t with
  | '[' :: ']' :: r => if own then some r else none
  | '[' :: r =>
    match readLabel? r with
    | some (l, r') => if labels.contains l then some r' else none
    | none => if own then some t else none
  | _ => if own then some t else none

/-- Take a closing bracket, with `t` after it. -/
def closeBracket (labels : List Label) (s : Scan) (t : Text) : Scan × Text :=
  match s.brackets with
  | [] => (s.addText [']'], t)
  | b :: _ =>
    if !b.active then (s.dropBracket.addText [']'], t)
    else
      let inside := b.inside.take (b.inside.length - t.length - 1)
      match readInlineTarget? t with
      | some r => (s.makeLink ')', r)
      | none =>
        match readReference? labels inside t with
        | some r => (s.makeLink ']', r)
        | none => (s.dropBracket.addText [']'], t)

/-- The text up to the next run of exactly `n` grave accents, and the text after that run; at most
`fuel` runs are passed over. -/
def readCode? (n : Nat) : Nat → Text → Option (Text × Text)
  | 0, _ => none
  | fuel + 1, t =>
    let body := t.takeWhile (· != grave)
    let r := t.drop body.length
    let run := r.takeWhile (· == grave)
    if run.isEmpty then none
    else if run.length = n then some (body, r.drop n)
    else (readCode? n fuel (r.drop run.length)).map fun (c, r) => (body ++ run ++ c, r)

/-- The content of a code span: line endings count as spaces, and one space at each end is dropped
unless there is nothing else. -/
def codeContent (t : Text) : Text :=
  let t := t.map fun c => if c = '\n' then ' ' else c
  if t.head? = some ' ' && t.getLast? = some ' ' && !t.all (· == ' ') then t.tail.dropLast else t

/-- A character that means itself wherever it stands. -/
def isPlain (c : Char) : Bool :=
  !(isGap c || c == '\n' || c == '\\' || c == grave || c == '*' || c == '_' || c == '<' ||
    c == '!' || c == '[' || c == ']' || c == '&')

/-- Take one construct from the text `c :: t`. -/
def scanOne (labels : List Label) (s : Scan) (c : Char) (t : Text) : Scan × Text :=
  if isGap c then
    let gap := (c :: t).takeWhile isGap
    match (c :: t).drop gap.length with
    | [] => (s, [])
    | '\n' :: r =>
      (s.add (.fragment (if 2 ≤ gap.length then .hardBreak else .softBreak)) '\n', r)
    | r => (s.addText gap, r)
  else if c = '\n' then (s.add (.fragment .softBreak) '\n', t)
  else if c = '\\' then
    match t with
    | '\n' :: r => (s.add (.fragment .hardBreak) '\n', r)
    | d :: r => if isAsciiPunctuation d then (s.addText [d], r) else (s.addText ['\\'], t)
    | [] => (s.addText ['\\'], [])
  else if c = grave then
    let n := ((c :: t).takeWhile (· == grave)).length
    let r := (c :: t).drop n
    match readCode? n r.length r with
    | some (body, r') => (s.add (.fragment (.code (codeContent body))) grave, r')
    | none => (s.addText (List.replicate n grave), r)
  else if c = '*' ∨ c = '_' then
    let n := ((c :: t).takeWhile (· == c)).length
    let r := (c :: t).drop n
    let next := r.head?.getD '\n'
    let opens := canOpen c s.before next
    let closes := canClose c s.before next
    if opens || closes then (s.add (.run c n opens closes) c, r)
    else (s.addText (List.replicate n c), r)
  else if c = '<' then
    match readAddress? t with
    | some (address, r) => ({ s.addText address with before := '>' }, r)
    | none =>
      match readHtml? t with
      | some r => (s.add (.fragment .html) '>', r)
      | none => (s.addText ['<'], t)
  else if c = '!' then
    match t with
    | '[' :: r => (s.openBracket true r, r)
    | _ => (s.addText ['!'], t)
  else if c = '[' then (s.openBracket false t, t)
  else if c = ']' then closeBracket labels s t
  else if c = '&' then
    match readEntity? t with
    | some (value, r) => ({ s.addText value with before := ';' }, r)
    | none => (s.addText ['&'], t)
  else
    let plain := c :: t.takeWhile isPlain
    (s.addText plain, t.dropWhile isPlain)

/-- Take all of a text, in at most `fuel` constructs. -/
def scanAll (labels : List Label) : Nat → Scan → Text → Scan
  | 0, s, _ => s
  | _ + 1, s, [] => s
  | fuel + 1, s, c :: t =>
    let (s, r) := scanOne labels s c t
    scanAll labels fuel s r

/-- The fragments of inline content, where links may refer to the given labels. -/
def inlines (labels : List Label) (t : Text) : List Fragment :=
  resolve (scanAll labels t.length ⟨[], [], '\n'⟩ t).finish

end Markdown
end TalkTimer

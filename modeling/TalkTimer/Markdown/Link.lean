import TalkTimer.Markdown.Entity
import TalkTimer.Markdown.Tag
import TalkTimer.Text.CaseFold
import TalkTimer.Text.Punctuation

/-!
# Links

The parts of links and of link definitions: labels, destinations, titles. Only what a
link leads over matters here, so destinations and titles are read and dropped; of a
definition its label is kept (`readDefinition?`).
-/

namespace TalkTimer
namespace Markdown

open Text

/-- A link label as it is compared: white space collapsed, case folded. -/
abbrev Label := Text

/-- The label with a given text between its brackets. -/
def Label.ofText (t : Text) : Label := foldCase (joinWords (words t))

/-- The text between the brackets of a label, of which the opening one is read already, and the text
after the closing one. A bracket inside needs a backslash. -/
def splitLabel? : Text → Option (Text × Text)
  | [] => none
  | ']' :: r => some ([], r)
  | '[' :: _ => none
  | '\\' :: c :: r =>
    if isAsciiPunctuation c then (splitLabel? r).map fun (l, r) => ('\\' :: c :: l, r)
    else (splitLabel? (c :: r)).map fun (l, r) => ('\\' :: l, r)
  | c :: r => (splitLabel? r).map fun (l, r) => (c :: l, r)

/-- A label has something in it and is shorter than a thousand characters. -/
def isLabelText (t : Text) : Bool := !t.all isGapOrFeed && t.length < 1000

/-- Read a label, of which the opening bracket is read already. -/
def readLabel? (t : Text) : Option (Label × Text) :=
  match splitLabel? t with
  | some (l, r) => if isLabelText l then some (.ofText l, r) else none
  | none => none

/-- Read a destination in angle brackets, of which the first is read already. -/
def readPointed? : Text → Option Text
  | [] => none
  | '>' :: r => some r
  | '<' :: _ => none
  | '\n' :: _ => none
  | '\\' :: c :: r =>
    if isAsciiPunctuation c then readPointed? r else readPointed? (c :: r)
  | _ :: r => readPointed? r

/-- Read a destination without angle brackets, with `depth` parentheses open. It ends at white space
or at a parenthesis that closes none of its own. -/
def readBare? (depth : Nat) : Text → Option Text
  | [] => if depth = 0 then some [] else none
  | '(' :: r => if depth > 32 then none else readBare? (depth + 1) r
  | ')' :: r => if depth = 0 then some (')' :: r) else readBare? (depth - 1) r
  | '\\' :: c :: r =>
    if isAsciiPunctuation c then readBare? depth r else readBare? depth (c :: r)
  | c :: r =>
    if c.toNat ≤ 0x20 then (if depth = 0 then some (c :: r) else none) else readBare? depth r

/-- Read a destination. -/
def readDestination? : Text → Option Text
  | '<' :: t => readPointed? t
  | t => readBare? 0 t

/-- Read a title up to `close`, of which `opening` is read already. -/
def readTitleTo? (opening close : Char) : Text → Option Text
  | [] => none
  | '\\' :: c :: r =>
    if isAsciiPunctuation c then readTitleTo? opening close r
    else readTitleTo? opening close (c :: r)
  | c :: r =>
    if c = close then some r
    else if c = opening then none
    else readTitleTo? opening close r

/-- Read a title in quotes or parentheses. -/
def readTitle? : Text → Option Text
  | '"' :: t => readTitleTo? '"' '"' t
  | '\'' :: t => readTitleTo? '\'' '\'' t
  | '(' :: t => readTitleTo? '(' ')' t
  | _ => none

/-- Pass over white space with at most one line ending in it. -/
def skipSeparator (t : Text) : Text :=
  match t.dropWhile isGap with
  | '\n' :: r => r.dropWhile isGap
  | r => r

/-- Read what follows the bracketed text of an inline link: a destination and perhaps a title, in
parentheses. -/
def readInlineTarget? : Text → Option Text
  | '(' :: t =>
    match readDestination? (skipSeparator t) with
    | none => none
    | some r =>
      let r := skipSeparator r
      let r := match readTitle? r with
        | some r' => skipSeparator r'
        | none => r
      match r with
      | ')' :: r' => some r'
      | _ => none
  | _ => none

/-- The text after a line that is blank from here on. -/
def endOfLine? (t : Text) : Option Text :=
  match t.dropWhile isGap with
  | [] => some []
  | '\n' :: r => some r
  | _ => none

/-- Read what follows the destination of a definition: white space and a title up to the end of the
line, or the end of the line without a title. -/
def readDefinitionEnd? (t : Text) : Option Text :=
  let titled :=
    if (skipSeparator t).length = t.length then none
    else (readTitle? (skipSeparator t)).bind endOfLine?
  match titled with
  | some r => some r
  | none => endOfLine? t

/-- Read a link definition at the start of a paragraph: its label and the text after it. -/
def readDefinition? : Text → Option (Label × Text)
  | '[' :: t =>
    match readLabel? t with
    | some (l, ':' :: r) =>
      let d := skipSeparator r
      match readDestination? d with
      | some r' => if r'.length = d.length then none else (readDefinitionEnd? r').map fun r => (l, r)
      | none => none
    | _ => none
  | _ => none

/-- The labels defined at the start of a paragraph, at most `fuel` of them, and the text after the
definitions. -/
def readDefinitions : Nat → Text → List Label × Text
  | 0, t => ([], t)
  | fuel + 1, t =>
    match readDefinition? t with
    | some (l, r) => (l :: (readDefinitions fuel r).1, (readDefinitions fuel r).2)
    | none => ([], t)

/-- The definitions that a paragraph starts with, and what is left of it. -/
def takeDefinitions (t : Text) : List Label × Text := readDefinitions t.length t

/-! ### Addresses in angle brackets -/

/-- A character of a URI scheme after its first. -/
def isSchemeChar (c : Char) : Bool := c.isAlphanum || c == '.' || c == '-' || c == '+'

/-- Read a URI up to the closing bracket: the URI and the text after the bracket. -/
def readUri? (t : Text) : Option (Text × Text) :=
  let scheme := t.takeWhile isSchemeChar
  match t.head?, t.drop scheme.length with
  | some c, ':' :: r =>
    if c.isAlpha && 2 ≤ scheme.length && scheme.length ≤ 32 then
      let body := r.takeWhile fun c => c != '>' && c != '<' && 0x20 < c.toNat
      match r.drop body.length with
      | '>' :: r' => some (scheme ++ ':' :: body, r')
      | _ => none
    else none
  | _, _ => none

/-- A character of the part of an e-mail address before the at sign. -/
def isMailboxChar (c : Char) : Bool :=
  c.isAlphanum || ".!#$%&'*+/=?^_`\x7b|\x7d~-".toList.contains c

/-- A label of a host name: at most 63 letters, digits and inner hyphens. -/
def isHostLabel (t : Text) : Bool :=
  t.length ≤ 63 && t.all isTagNameChar && t.head?.any Char.isAlphanum && t.getLast?.any Char.isAlphanum

/-- A text cut at every full stop. -/
def splitStops : Text → List Text
  | [] => [[]]
  | c :: t => if c = '.' then [] :: splitStops t else growFirst c (splitStops t)

/-- Read an e-mail address up to the closing bracket: the address and the text after the bracket. -/
def readMailAddress? (t : Text) : Option (Text × Text) :=
  let mailbox := t.takeWhile isMailboxChar
  match mailbox, t.drop mailbox.length with
  | _ :: _, '@' :: r =>
    let host := r.takeWhile fun c => isTagNameChar c || c == '.'
    match r.drop host.length with
    | '>' :: r' => if (splitStops host).all isHostLabel then some (mailbox ++ '@' :: host, r') else none
    | _ => none
  | _, _ => none

/-- Read an address in angle brackets, of which the first is read already. -/
def readAddress? (t : Text) : Option (Text × Text) :=
  match readUri? t with
  | some a => some a
  | none => readMailAddress? t

end Markdown
end TalkTimer

import Std.Data.HashMap
import TalkTimer.Markdown.EntityTable
import TalkTimer.Text.Numeral

/-!
# Character references

A character reference stands for a character that is hard to type: by name (`&copy;`),
by decimal code (`&#65;`) or by hexadecimal code (`&#x41;`). The semicolon is needed,
and a name or code that does not count leaves the text as it is.
-/

namespace TalkTimer
namespace Markdown

/-- The character with a code point; codes without a character and zero give the replacement
character. -/
def charOfCode (n : Nat) : Char :=
  if n = 0 ∨ ¬ n.isValidChar then Char.ofNat 0xFFFD else Char.ofNat n

/-- The entries of the table by name. -/
def entityMap : Std.HashMap String Text :=
  entityTable.foldl (fun m row =>
    (row.splitOn " ").foldl (fun m entry =>
      match entry.splitOn "=" with
      | [name, codes] =>
        m.insert name ((codes.splitOn "+").map fun code => charOfCode (Text.hexNumber code.toList))
      | _ => m) m) ∅

/-- A run of digits with a semicolon after it: at least one and at most `most` of them. The result
is the run and the text after the semicolon. -/
def digitsToSemicolon? (isDigit : Char → Bool) (most : Nat) (t : Text) : Option (Text × Text) :=
  let ds := (t.take most).takeWhile isDigit
  match ds, t.drop ds.length with
  | _ :: _, ';' :: r => some (ds, r)
  | _, _ => none

/-- Read a character reference, of which the ampersand is read already: the text it stands for and
the text after it. -/
def readEntity? : Text → Option (Text × Text)
  | '#' :: 'x' :: t | '#' :: 'X' :: t =>
    (digitsToSemicolon? Text.isHexDigit 6 t).map fun (ds, r) =>
      ([charOfCode (Text.hexNumber ds)], r)
  | '#' :: t =>
    (digitsToSemicolon? Char.isDigit 7 t).map fun (ds, r) =>
      ([charOfCode (Text.digitsValue 0 ds)], r)
  | t =>
    match t.dropWhile Char.isAlphanum with
    | ';' :: r => (entityMap.get? (String.ofList (t.takeWhile Char.isAlphanum))).map fun v => (v, r)
    | _ => none

end Markdown
end TalkTimer

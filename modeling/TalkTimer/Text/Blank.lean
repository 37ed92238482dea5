/-!
# Blank characters

White space as the script language sees it: a character is blank when Unicode
gives it the property `White_Space`. From that one class come trimming (`trim`)
and cutting a text into its words (`words`).

A text is a list of characters throughout the library, so that every function on
it is a plain recursion.
-/

namespace TalkTimer

/-- A text is the list of its characters. -/
abbrev Text := List Char

namespace Text

/-- The characters with the Unicode property `White_Space`. -/
def isBlank (c : Char) : Bool :=
  let n := c.toNat
  (9 ≤ n && n ≤ 13) || n == 0x20 || n == 0x85 || n == 0xA0 || n == 0x1680 ||
    (0x2000 ≤ n && n ≤ 0x200A) || n == 0x2028 || n == 0x2029 || n == 0x202F ||
    n == 0x205F || n == 0x3000

/-- Drop the blanks a text starts with. -/
def trimStart (t : Text) : Text := t.dropWhile isBlank

/-- Drop the blanks a text ends with. -/
def trimEnd (t : Text) : Text := (t.reverse.dropWhile isBlank).reverse

/-- Drop the blanks at both ends. -/
def trim (t : Text) : Text := trimEnd (trimStart t)

/-- A text with nothing to show. -/
def allBlank (t : Text) : Bool := t.all isBlank

/-- Put `c` in front of the first word. -/
def growFirst (c : Char) : List Text → List Text
  | [] => [[c]]
  | w :: ws => (c :: w) :: ws

/-- The words of a text: its maximal runs of characters that are not blank. -/
def words : Text → List Text
  | [] => []
  | [c] => if isBlank c then [] else [[c]]
  | c :: d :: t =>
    if isBlank c then words (d :: t)
    else if isBlank d then [c] :: words (d :: t)
    else growFirst c (words (d :: t))

/-- Words with one space between neighbours. -/
def joinWords (ws : List Text) : Text := [' '].intercalate ws

end Text
end TalkTimer

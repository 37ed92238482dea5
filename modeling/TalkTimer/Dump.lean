import TalkTimer.Block
import TalkTimer.Text.Numeral
import TalkTimer.Text.Visible

/-!
# Dumps

A dump shows blocks with all of their fields, as nested records with one field on a line.
-/

namespace TalkTimer
namespace Dump

open Text

/-- A character of a quoted text. Quotation marks, backslashes and whatever cannot be seen are
escaped. -/
def escape (c : Char) : Text :=
  if c = Char.ofNat 0 then ['\\', '0']
  else if c = '\t' then ['\\', 't']
  else if c = '\r' then ['\\', 'r']
  else if c = '\n' then ['\\', 'n']
  else if c = '"' then ['\\', '"']
  else if c = '\\' then ['\\', '\\']
  else if isVisible c then [c]
  else "\\u\x7b".toList ++ hexadecimal c.toNat ++ ['\x7d']

/-- A text in quotation marks. -/
def quote (t : Text) : Text := '"' :: t.flatMap escape ++ ['"']

/-- A truth value. -/
def truth (b : Bool) : Text := if b then "true".toList else "false".toList

/-- Lines one level deeper. -/
def indent (ls : List Text) : List Text := ls.map fun l => "    ".toList ++ l

/-- A field of a record: its name and the lines of its value. -/
def field (name : String) (value : List Text) : List Text :=
  match value with
  | [] => []
  | l :: ls => (name.toList ++ ": ".toList ++ l) :: ls

/-- A comma behind the last line. -/
def comma : List Text → List Text
  | [] => []
  | [l] => [l ++ [',']]
  | l :: ls => l :: comma ls

/-- Lines between an opening and a closing one. -/
def enclose (first : String) (ls : List Text) (last : Char) : List Text :=
  first.toList :: indent ls ++ [[last]]

/-- A marker. -/
def marker (m : Marker) : List Text :=
  enclose "TimeMarker \x7b" (comma (field "time" [decimal m.time]) ++
    comma (field "level" [decimal m.level]) ++
    comma (field "no_time_control" [truth m.untimed])) '\x7d'

/-- A marker that may be missing. -/
def optionalMarker : Option Marker → List Text
  | none => ["None".toList]
  | some m => enclose "Some(" (comma (marker m)) ')'

/-- A block. The blocks within it stand behind it in the list, so it has no children of its own. -/
def block (b : Block) : List Text :=
  enclose "ContentBlock \x7b" (comma (field "content" [quote b.content]) ++
    comma (field "time_marker" (optionalMarker b.marker)) ++
    comma (field "children" ["[]".toList]) ++
    comma (field "line" [decimal b.line]) ++
    comma (field "span" [decimal b.span.start ++ "..".toList ++ decimal b.span.stop])) '\x7d'

/-- A list of blocks. -/
def blocks (bs : List Block) : List Text :=
  if bs.isEmpty then ["[]".toList] else enclose "[" (bs.flatMap fun b => comma (block b)) ']'

end Dump
end TalkTimer

import TalkTimer.Block

/-!
# Titles

A block is named by its first Markdown heading: the texts and the code of the heading,
put together and reduced to words with single spaces. Breaks and HTML add nothing. The
Markdown itself is read by a library (`MarkdownReader`); a title is made of the events
that it reports.
-/

namespace TalkTimer

namespace Markdown

/-- What a reader of Markdown reports of a text, in order. -/
inductive Event
  | headingStart
  | headingEnd
  | text (t : Text)
  | code (t : Text)
  /-- A line ends within a paragraph or a heading. -/
  | softBreak
  /-- A line is broken on purpose. -/
  | hardBreak
  /-- Whatever else there is: the starts and ends of all other parts, HTML, rules and notes. -/
  | other
  deriving DecidableEq, Repr

/-- The text of a heading from a place in it up to its end. -/
def headingText : List Event → Text
  | [] => []
  | .headingEnd :: _ => []
  | .text t :: es => t ++ headingText es
  | .code t :: es => t ++ headingText es
  | _ :: es => headingText es

/-- The title that words make, if there are any. -/
def titleOfWords : List Text → Option Text
  | [] => none
  | ws => some (Text.joinWords ws)

/-- The title that one pass over events finds: that of the first heading. -/
def titleOf? : List Event → Option Text
  | [] => none
  | .headingStart :: es => titleOfWords (Text.words (headingText es))
  | _ :: es => titleOf? es

end Markdown

/-- A library that reads Markdown. -/
class MarkdownReader where
  /-- The events of a text. -/
  events : Text → List Markdown.Event

section Names

variable [MarkdownReader]

/-- The title of a block, if it has one. -/
def Block.title? (b : Block) : Option Text := Markdown.titleOf? (MarkdownReader.events b.content)

/-- The first line of a block that is not blank, without blanks around it. -/
def Block.firstLine (b : Block) : Text :=
  (((Text.shownLines b.content).map Text.trim).find? fun l => !l.isEmpty).getD []

/-- One line about a block: indented by its level, its marker, its title or else its first line,
and the number of its marker's line. -/
def Block.describe (b : Block) : Text :=
  List.replicate (2 * (b.level - 1)) ' ' ++ b.label ++ [' ', ' '] ++ b.title?.getD b.firstLine ++
    "  (line ".toList ++ Text.decimal (b.line + 1) ++ [')']

end Names
end TalkTimer

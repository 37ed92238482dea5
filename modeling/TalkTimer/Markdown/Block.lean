import TalkTimer.Markdown.Link
import TalkTimer.Markdown.Start

/-!
# Block structure

A Markdown text is read line by line against its open blocks: containers, that is block
quotes and list items, and in the innermost one perhaps a paragraph, a code block or an
HTML block that the line may continue. Of the blocks that come to an end, headings and
link definitions are kept (`Outline`).
-/

namespace TalkTimer
namespace Markdown

/-- A block that holds other blocks. The content of a list item is indented by some columns. -/
inductive Container
  | quote
  | item (indent : Nat)
  deriving DecidableEq, Repr

/-- Pass over what marks a line as part of a container. -/
def Container.enter? : Container → Cursor → Option Cursor
  | .quote, c =>
    let c' := (c.skipColumns 3).2
    if c'.owed = 0 && c'.rest.head? == some '>' then some ((c'.advance 1).skipColumns 1).2 else none
  | .item indent, c =>
    if (c.skipColumns indent).1 = indent || (c.skipColumns indent).2.atEnd then
      some (c.skipColumns indent).2
    else none

/-- The containers, outermost first, that a line lies in, and the place in the line after them. -/
def enterAll : List Container → Cursor → List Container × Cursor
  | [], c => ([], c)
  | k :: ks, c =>
    match k.enter? c with
    | none => ([], c)
    | some c' => (k :: (enterAll ks c').1, (enterAll ks c').2)

/-- The open block that holds no other blocks. -/
inductive Leaf
  | none
  /-- A paragraph with its lines so far, last one first. -/
  | paragraph (lines : List Text)
  /-- A code block between fences, the first of them indented by some columns. -/
  | fenced (char : Char) (length indent : Nat)
  /-- A code block by indentation. -/
  | indented
  | html (ending : HtmlEnd)
  deriving DecidableEq, Repr

/-- What is kept of a text: the contents of its headings and the labels of its link definitions. -/
structure Outline where
  headings : List Text
  labels : List Label
  deriving DecidableEq, Repr

/-- The open blocks between two lines, and the outline so far, last heading first. `bare` tells that
the innermost container is a list item with nothing in it yet, `midLine` that a code or HTML block
is not yet at the end of a line. -/
structure Reader where
  containers : List Container
  leaf : Leaf
  bare : Bool
  midLine : Bool
  outline : Outline
  deriving Repr

namespace Reader

/-- No open block yet. -/
def start : Reader := ⟨[], .none, false, false, ⟨[], []⟩⟩

/-- Add a heading. -/
def addHeading (content : Text) (r : Reader) : Reader :=
  { r with outline := { r.outline with headings := content :: r.outline.headings } }

/-- Add the labels of link definitions. -/
def addLabels (ls : List Label) (r : Reader) : Reader :=
  { r with outline := { r.outline with labels := r.outline.labels ++ ls } }

/-- Close the open leaf. A paragraph gives up the link definitions it starts with. -/
def closeLeaf (r : Reader) : Reader :=
  match r.leaf with
  | .paragraph ls =>
    { r with leaf := .none }.addLabels (takeDefinitions (['\n'].intercalate ls.reverse)).1
  | _ => { r with leaf := .none }

/-- Open the containers that start at a place in a line, at most `fuel` of them. The result tells
the new containers, the place after them, and whether the last is an item without content. -/
def openContainers : Nat → Cursor → List Container × Cursor × Bool
  | 0, c => ([], c, false)
  | fuel + 1, c =>
    let indent := (c.skipColumns 4).1
    let c' := (c.skipColumns 4).2
    if 4 ≤ indent then ([], c, false)
    else if c'.rest.head? == some '>' then
      let inner := openContainers fuel ((c'.advance 1).skipColumns 1).2
      (.quote :: inner.1, inner.2)
    else if isThematicBreak c'.rest then ([], c, false)
    else match listMarker? c'.rest with
      | none => ([], c, false)
      | some (n, _) =>
        let c₁ := c'.advance n
        let c₂ := (c₁.skipColumns 1).2
        if (c₁.skipColumns 1).1 = 0 && !c₁.atEnd then ([], c, false)
        else if isBlankLine c₂.rest then ([.item (indent + n + 1)], c₂, true)
        else
          let more := (c₂.skipColumns 4).1
          let c₃ := if more < 4 then (c₂.skipColumns 4).2 else c₂
          let inner := openContainers fuel c₃
          (.item (indent + n + 1 + if more < 4 then more else 0) :: inner.1, inner.2)

/-- Start a leaf at a place in a line that is not blank. `byReturn` tells how the line ends. -/
def openLeaf (byReturn : Bool) (c : Cursor) (r : Reader) : Reader :=
  let indent := (c.skipColumns 4).1
  let t := (c.skipColumns 4).2.rest
  if indent = 4 then { r with leaf := .indented, midLine := byReturn }
  else
    let html := match t with
      | '<' :: u => blockEnd? u
      | _ => Option.none
    match html with
    | some (.at stop) =>
      if (after? stop t).isSome then { r with leaf := .none, midLine := byReturn }
      else { r with leaf := .html (.at stop), midLine := byReturn }
    | some .blankLine => { r with leaf := .html .blankLine, midLine := byReturn }
    | Option.none =>
      if isThematicBreak t then { r with leaf := .none }
      else match numberSignHeading? t with
        | some content => { r with leaf := .none }.addHeading content
        | Option.none =>
          match fence? t with
          | some (char, length) => { r with leaf := .fenced char length indent, midLine := byReturn }
          | Option.none => { r with leaf := .paragraph [t] }

/-- Take a line in which no leaf goes on, from the place after the containers it lies in. -/
def readFresh (byReturn : Bool) (inside : List Container) (c : Cursor) (r : Reader) : Reader :=
  let r := r.closeLeaf
  let allInside := inside.length = r.containers.length
  if isBlankLine c.rest then
    -- an item without content ends at its first blank line
    { r with containers := if allInside && r.bare then inside.dropLast else inside, bare := false }
  else
    let opened := openContainers c.rest.length c
    let r := { r with containers := inside ++ opened.1, bare := opened.2.2 }
    if isBlankLine opened.2.1.rest then r else r.openLeaf byReturn opened.2.1

/-- Make a heading of the paragraph `ls` if there is more to it than link definitions. -/
def underline? (ls : List Text) (r : Reader) : Option Reader :=
  let (labels, content) := takeDefinitions (['\n'].intercalate ls.reverse)
  if content.isEmpty then Option.none
  else some ({ r with leaf := .none }.addLabels labels |>.addHeading content)

/-- Take a line after a paragraph: it may underline, end or continue it. A line that continues it need
not lie in all of its containers. -/
def readAfterParagraph (ls : List Text) (l : Line) (nextBlank : Bool) (inside : List Container)
    (c : Cursor) (r : Reader) : Reader :=
  let indent := (c.skipColumns 4).1
  let t := (c.skipColumns 4).2.rest
  let allInside := inside.length = r.containers.length
  let underlined := if indent < 4 && allInside && isUnderline t then r.underline? ls else Option.none
  match underlined with
  | some r' => r'
  | Option.none =>
    let text := t.dropWhile isSpaceOrTab
    if (indent < 4 && interruptsParagraph allInside nextBlank t) || text.isEmpty then
      r.readFresh l.byReturn inside c
    else { r with leaf := .paragraph (text :: ls) }

/-- Take one line. `nextBlank` tells that a blank line or nothing follows it. -/
def readLine (r : Reader) (l : Line) (nextBlank : Bool) : Reader :=
  if r.midLine then { r with midLine := l.byReturn }
  else
    let (inside, c) := enterAll r.containers (.start l.text)
    let allInside := inside.length = r.containers.length
    match r.leaf with
    | .none => r.readFresh l.byReturn inside c
    | .paragraph ls => r.readAfterParagraph ls l nextBlank inside c
    | .fenced char length indent =>
      if !allInside then r.readFresh l.byReturn inside c
      else
        let c₁ := (c.skipColumns indent).2
        let c₂ := c₁.skipColumns (4 - indent)
        if c₂.1 < 4 - indent && closesFence char length c₂.2.rest then { r with leaf := .none }
        else { r with midLine := l.byReturn }
    | .indented =>
      if allInside && ((c.skipColumns 4).1 = 4 || isBlankLine c.rest) then
        { r with midLine := l.byReturn }
      else r.readFresh l.byReturn inside c
    | .html (.at stop) =>
      if !allInside then r.readFresh l.byReturn inside c
      else if (after? stop c.rest).isSome then { r with leaf := .none, midLine := l.byReturn }
      else { r with midLine := l.byReturn }
    | .html .blankLine =>
      if !allInside || isBlankLine c.rest then r.readFresh l.byReturn inside c
      else { r with midLine := l.byReturn }

/-- Take all lines. -/
def readLines (r : Reader) : List Line → Reader
  | [] => r.closeLeaf
  | l :: ls => (r.readLine l (ls.head?.all fun l' => isBlankLine l'.text)).readLines ls

end Reader

/-- The headings of a text in document order, and the labels of its link definitions. -/
def outline (t : Text) : Outline :=
  let o := (Reader.start.readLines (splitLines t)).outline
  { o with headings := o.headings.reverse }

end Markdown
end TalkTimer

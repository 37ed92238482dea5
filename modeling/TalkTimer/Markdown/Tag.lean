import TalkTimer.Markdown.Line

/-!
# HTML in Markdown

Tags, comments, instructions, declarations and character data, as they stand within a
text (`readHtml?`), and the lines that open an HTML block (`blockEnd?`). Each reader
gives the text after what it read.
-/

namespace TalkTimer
namespace Markdown

/-- White space within a line and line endings. -/
def isGapOrFeed (c : Char) : Bool := isGap c || c == '\n'

/-- The text after the first occurrence of `stop`. -/
def after? (stop : Text) : Text → Option Text
  | [] => if stop.isEmpty then some [] else none
  | c :: t => if stop.isPrefixOf (c :: t) then some ((c :: t).drop stop.length) else after? stop t

/-- A letter or digit of ASCII, or a hyphen. -/
def isTagNameChar (c : Char) : Bool := c.isAlphanum || c == '-'

/-- A character that may start an attribute name. -/
def isAttributeStart (c : Char) : Bool := c.isAlpha || c == '_' || c == ':'

/-- A character that may stand in an attribute name. -/
def isAttributeChar (c : Char) : Bool := c.isAlphanum || c == '_' || c == ':' || c == '.' || c == '-'

/-- A character that may stand in an attribute value without quotes. -/
def isPlainValueChar (c : Char) : Bool :=
  !(c == '\'' || c == '"' || c == ' ' || c == '=' || c == '>' || c == '<' || c.toNat == 0x60 ||
    c == '\n' || c == '\r')

/-- Read an attribute value. -/
def readValue? : Text → Option Text
  | '"' :: t => after? ['"'] t
  | '\'' :: t => after? ['\''] t
  | t =>
    match t with
    | c :: _ => if isPlainValueChar c then some (t.dropWhile isPlainValueChar) else none
    | [] => none

/-- Read an attribute: a name, and after an equals sign a value. -/
def readAttribute? : Text → Option Text
  | [] => none
  | c :: t =>
    if !isAttributeStart c then none
    else
      let r := t.dropWhile isAttributeChar
      match r.dropWhile isGapOrFeed with
      | '=' :: v => readValue? (v.dropWhile isGapOrFeed)
      | _ => some r

/-- Read the attributes of an opening tag and its end, at most `fuel` attributes. Each attribute
needs white space before it. -/
def readAttributes? : Nat → Text → Option Text
  | 0, _ => none
  | fuel + 1, t =>
    match t.dropWhile isGapOrFeed with
    | '>' :: r => some r
    | '/' :: '>' :: r => some r
    | r => if r.length = t.length then none else (readAttribute? r).bind (readAttributes? fuel)

/-- Read a tag, of which the opening bracket is read already. -/
def readTag? : Text → Option Text
  | '/' :: c :: t =>
    if !c.isAlpha then none
    else match (t.dropWhile isTagNameChar).dropWhile isGap with
      | '>' :: r => some r
      | _ => none
  | c :: t => if !c.isAlpha then none else readAttributes? (t.length + 1) (t.dropWhile isTagNameChar)
  | [] => none

/-- Read a comment after its `<!--`. -/
def readComment? : Text → Option Text
  | '>' :: r => some r
  | '-' :: '>' :: r => some r
  | t => after? ['-', '-', '>'] t

/-- Read character data after its `<![CDATA[`: the first run of closing brackets has to be
followed by the end. -/
def readCharacterData? (t : Text) : Option Text :=
  match t.dropWhile (· != ']') with
  | ']' :: r =>
    match r.dropWhile (· == ']') with
    | '>' :: r' => some r'
    | _ => none
  | _ => none

/-- Read inline HTML, of which the opening bracket is read already. -/
def readHtml? : Text → Option Text
  | '!' :: '-' :: '-' :: t => readComment? t
  | '!' :: '[' :: 'C' :: 'D' :: 'A' :: 'T' :: 'A' :: '[' :: t => readCharacterData? t
  | '!' :: c :: t => if c.isAlpha then after? ['>'] t else none
  | '?' :: t => after? ['?', '>'] t
  | t => readTag? t

/-! ### HTML blocks -/

/-- What ends an HTML block. -/
inductive HtmlEnd
  /-- The line that holds this text is its last. -/
  | at (text : Text)
  /-- A blank line follows its last. -/
  | blankLine
  deriving DecidableEq, Repr

/-- The tags whose contents are taken as they are up to the closing tag. -/
def verbatimTags : List String := ["pre", "style", "script", "textarea"]

/-- The tags that open an HTML block up to a blank line. -/
def blockTags : List String :=
  ["address", "article", "aside", "base", "basefont", "blockquote", "body", "caption", "center",
   "col", "colgroup", "dd", "details", "dialog", "dir", "div", "dl", "dt", "fieldset",
   "figcaption", "figure", "footer", "form", "frame", "frameset", "h1", "h2", "h3", "h4", "h5",
   "h6", "head", "header", "hr", "html", "iframe", "legend", "li", "link", "main", "menu",
   "menuitem", "nav", "noframes", "ol", "optgroup", "option", "p", "param", "search", "section",
   "summary", "table", "tbody", "td", "tfoot", "th", "thead", "title", "tr", "track", "ul"]

/-- The text after a name that `t` starts with in any case. -/
def afterName? (name : String) (t : Text) : Option Text :=
  let n := name.toList
  if (t.take n.length).map Char.toLower = n then some (t.drop n.length) else none

/-- The end of a block that a tag of `verbatimTags` opens. -/
def verbatimEnd? (t : Text) : Option HtmlEnd :=
  verbatimTags.findSome? fun name =>
    match afterName? name t with
    | some [] => some (.at ("</".toList ++ name.toList ++ ['>']))
    | some (c :: _) =>
      if isGapOrFeed c || c == '>' then some (.at ("</".toList ++ name.toList ++ ['>'])) else none
    | none => none

/-- The end of a block whose opening bracket and next characters mark a comment, an instruction,
character data or a declaration. -/
def markedEnd? : Text → Option HtmlEnd
  | '!' :: '-' :: '-' :: _ => some (.at ['-', '-', '>'])
  | '?' :: _ => some (.at ['?', '>'])
  | '!' :: '[' :: 'C' :: 'D' :: 'A' :: 'T' :: 'A' :: '[' :: _ => some (.at [']', ']', '>'])
  | '!' :: c :: _ => if c.isAlpha then some (.at ['>']) else none
  | _ => none

/-- Whether a tag of `blockTags` stands here, opening or closing. -/
def opensBlockTag (t : Text) : Bool :=
  let r := match t with
    | '/' :: r => r
    | _ => t
  let name := String.ofList ((r.takeWhile Char.isAlphanum).map Char.toLower)
  blockTags.contains name &&
    match r.dropWhile Char.isAlphanum with
    | [] => true
    | '/' :: '>' :: _ => true
    | c :: _ => isSpaceOrTab c || c == '>'

/-- The end of the HTML block that a line opens, of which the opening bracket is read already, if
it is of a kind that may interrupt a paragraph. -/
def interruptingEnd? (t : Text) : Option HtmlEnd :=
  match verbatimEnd? t with
  | some e => some e
  | none =>
    match markedEnd? t with
    | some e => some e
    | none => if opensBlockTag t then some .blankLine else none

/-- The end of the HTML block that a line opens, of which the opening bracket is read already. A
complete tag alone on its line opens one, too. -/
def blockEnd? (t : Text) : Option HtmlEnd :=
  match interruptingEnd? t with
  | some e => some e
  | none =>
    match readTag? t with
    | some r => if isBlankLine r then some .blankLine else none
    | none => none

end Markdown
end TalkTimer

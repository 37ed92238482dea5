import TalkTimer.Toml.Scalar

/-!
# TOML documents

A document is a sequence of lines: keys with values, and headers that open a table or
another table of an array. While it is read, a table remembers how it came to be
(`Origin`), because that decides what may still be added to it.
-/

namespace TalkTimer
namespace Toml

/-! ### Values -/

/-- How deep arrays and tables may lie within each other, and how long a key may be. -/
def depthLimit : Nat := 80

/-- Drop spaces, tabs, line endings and comments, in at most `fuel` steps. -/
def skipLines : Nat → Text → Text
  | 0, t => t
  | fuel + 1, t =>
    match skipSpace t with
    | '#' :: r => skipLines fuel (r.dropWhile isCommentChar)
    | r =>
      match newline? r with
      | some r' => skipLines fuel r'
      | none => r

/-- A table that a key in an inline table made is open to further keys of that kind. -/
inductive Inline
  | value (v : Value)
  | dotted (entries : List (Text × Inline))

mutual

/-- The value of an entry of an inline table. -/
def Inline.toValue : Inline → Value
  | .value v => v
  | .dotted es => .table (Inline.toValues es)

/-- The values of the entries of an inline table. -/
def Inline.toValues : List (Text × Inline) → List (Text × Value)
  | [] => []
  | (k, e) :: es => (k, e.toValue) :: Inline.toValues es

end

/-- Add a value under a key to an inline table. -/
def Inline.insert? (v : Value) : List Text → List (Text × Inline) → Option (List (Text × Inline))
  | [], _ => none
  | [k], es => if es.any fun e => e.1 = k then none else some (es ++ [(k, .value v)])
  | k :: ks, es =>
    match es.find? fun e => e.1 = k with
    | none => (Inline.insert? v ks []).map fun inner => es ++ [(k, .dotted inner)]
    | some (_, .value _) => none
    | some (_, .dotted inner) =>
      (Inline.insert? v ks inner).map fun inner' =>
        es.map fun e => if e.1 = k then (k, .dotted inner') else e

mutual

/-- Read a value within `depth` others, in at most `fuel` steps. -/
def readValue? : Nat → Nat → Text → Option (Value × Text)
  | 0, _, _ => none
  | fuel + 1, depth, t =>
    match t with
    | [] => none
    | '"' :: _ => (readString? t).map fun (s, r) => (.string s, r)
    | '\'' :: _ => (readString? t).map fun (s, r) => (.string s, r)
    | '[' :: r =>
      if depthLimit ≤ depth + 1 then none
      else (readItems? fuel (depth + 1) r).map fun (vs, r) => (.array vs, r)
    | '{' :: r =>
      if depthLimit ≤ depth + 1 then none
      else
        match skipSpace r with
        | '}' :: r' => some (.table [], r')
        | _ => (readPairs? fuel (depth + 1) [] r).map fun (es, r) => (.table (Inline.toValues es), r)
    | 't' :: 'r' :: 'u' :: 'e' :: r => some (.boolean true, r)
    | 'f' :: 'a' :: 'l' :: 's' :: 'e' :: r => some (.boolean false, r)
    | _ => readNumber? t

/-- Read the items of an array up to its closing bracket. -/
def readItems? : Nat → Nat → Text → Option (List Value × Text)
  | 0, _, _ => none
  | fuel + 1, depth, t =>
    match skipLines t.length t with
    | ']' :: r => some ([], r)
    | t' =>
      match readValue? fuel depth t' with
      | none => none
      | some (v, r) =>
        match skipLines r.length r with
        | ',' :: r' => (readItems? fuel depth r').map fun (vs, r) => (v :: vs, r)
        | ']' :: r' => some ([v], r')
        | _ => none

/-- Read the entries of an inline table up to its closing brace, on top of those read already. -/
def readPairs? : Nat → Nat → List (Text × Inline) → Text →
    Option (List (Text × Inline) × Text)
  | 0, _, _, _ => none
  | fuel + 1, depth, es, t =>
    match readKey? (depthLimit - 1) t with
    | some (ks, '=' :: r) =>
      match readValue? fuel depth (skipSpace r) with
      | none => none
      | some (v, r') =>
        match Inline.insert? v ks es with
        | none => none
        | some es' =>
          match skipSpace r' with
          | ',' :: r'' => readPairs? fuel depth es' r''
          | '}' :: r'' => some (es', r'')
          | _ => none
    | _ => none

end

/-! ### Tables -/

/-- How a table came to be. -/
inductive Origin
  /-- By a header of its own. -/
  | header
  /-- By the header of a table within it. -/
  | implied
  /-- By a key with dots. -/
  | dotted
  deriving DecidableEq

/-- What stands under a name while a document is read. -/
inductive Node
  | value (v : Value)
  | table (origin : Origin) (entries : List (Text × Node))
  /-- An array of tables, last one first. -/
  | tables (elements : List (List (Text × Node)))

/-- The entries of a table while a document is read. -/
abbrev Entries := List (Text × Node)

mutual

/-- The value that a node stands for. -/
def Node.toValue : Node → Value
  | .value v => v
  | .table _ es => .table (Node.toEntries es)
  | .tables ts => .array (Node.toTables ts).reverse

/-- The entries that nodes stand for. -/
def Node.toEntries : List (Text × Node) → List (Text × Value)
  | [] => []
  | (k, n) :: es => (k, n.toValue) :: Node.toEntries es

/-- The tables that lists of nodes stand for. -/
def Node.toTables : List (List (Text × Node)) → List Value
  | [] => []
  | es :: ts => .table (Node.toEntries es) :: Node.toTables ts

end

/-- What stands under a name. -/
def Entries.find? (es : Entries) (k : Text) : Option Node :=
  (List.find? (fun e => e.1 = k) es).map Prod.snd

/-- Put something under a name. -/
def Entries.put (es : Entries) (k : Text) (n : Node) : Entries :=
  if es.any fun e => e.1 = k then es.map fun e => if e.1 = k then (k, n) else e
  else es ++ [(k, n)]

/-- Take a name out. -/
def Entries.drop (es : Entries) (k : Text) : Entries := es.filter fun e => e.1 ≠ k

/-- Do something in the table that a path leads to, starting from a table of the given origin, and
give what it gives with the changed tables. Missing tables on the way are made. A path of a key with
dots must not lead into a table that has a header of its own. -/
def within? {α : Type} (byKey : Bool) (act : Origin → Entries → Option (Entries × α)) :
    List Text → Origin → Entries → Option (Entries × α)
  | [], origin, es => act origin es
  | k :: ks, _, es =>
    match es.find? k with
    | none =>
      let origin := if byKey then Origin.dotted else Origin.implied
      (within? byKey act ks origin []).map fun (inner, a) => (es.put k (.table origin inner), a)
    | some (.value _) => none
    | some (.tables []) => none
    | some (.tables (t :: ts)) =>
      (within? byKey act ks .header t).map fun (inner, a) => (es.put k (.tables (inner :: ts)), a)
    | some (.table origin inner) =>
      if byKey && origin = .header then none
      else (within? byKey act ks origin inner).map fun (inner, a) =>
        (es.put k (.table origin inner), a)

/-- A document as far as it is read: the finished tables, and the table that the last header opened
with its path. A path of no names is the document itself. -/
structure Draft where
  root : Entries
  path : List Text
  isElement : Bool
  current : Entries

namespace Draft

/-- The beginning of a document. -/
def start : Draft := ⟨[], [], false, []⟩

/-- Add a value under a key to the current table. Only a table made by keys with dots can be reached
by such a key. -/
def insert? (key : List Text) (v : Value) (d : Draft) : Option Draft :=
  match key.getLast? with
  | none => none
  | some k =>
    let outer := key.dropLast
    let act (origin : Origin) (es : Entries) : Option (Entries × Unit) :=
      if !outer.isEmpty && origin != .dotted then none
      else if (es.find? k).isSome then none
      else some (es.put k (.value v), ())
    (within? true act outer .header d.current).map fun (es, _) => { d with current := es }

/-- Put the current table where it belongs. -/
def close? (d : Draft) : Option Entries :=
  match d.path.getLast? with
  | none => some d.current
  | some k =>
    let act (_ : Origin) (es : Entries) : Option (Entries × Unit) :=
      match es.find? k with
      | none => some (es.put k (.table .header d.current), ())
      | some (.tables ts) =>
        if d.isElement then some (es.put k (.tables (d.current :: ts)), ()) else none
      | some _ => none
    (within? false act d.path.dropLast .header d.root).map Prod.fst

/-- Open the table with the given path. It may exist already only if tables within it implied it. -/
def openTable? (path : List Text) (d : Draft) : Option Draft :=
  match d.close?, path.getLast? with
  | some root, some k =>
    let act (_ : Origin) (es : Entries) : Option (Entries × Entries) :=
      match es.find? k with
      | none => some (es, [])
      | some (.table .implied inner) => some (es.drop k, inner)
      | some _ => none
    (within? false act path.dropLast .header root).map fun (root, inner) => ⟨root, path, false, inner⟩
  | _, _ => none

/-- Open another table of the array with the given path. -/
def openElement? (path : List Text) (d : Draft) : Option Draft :=
  match d.close?, path.getLast? with
  | some root, some k =>
    let act (_ : Origin) (es : Entries) : Option (Entries × Unit) :=
      match es.find? k with
      | none => some (es.put k (.tables []), ())
      | some (.tables _) => some (es, ())
      | some _ => none
    (within? false act path.dropLast .header root).map fun (root, _) => ⟨root, path, true, []⟩
  | _, _ => none

end Draft

/-! ### Lines -/

/-- The text after a line that has nothing more than a comment on it. -/
def endLine? (t : Text) : Option Text :=
  let r := match skipSpace t with
    | '#' :: r => r.dropWhile isCommentChar
    | r => r
  if r.isEmpty then some [] else newline? r

/-- Read a header, of which the first bracket is read already. -/
def readHeader? (d : Draft) : Text → Option (Draft × Text)
  | '[' :: t =>
    match readKey? (depthLimit - 1) t with
    | some (ks, ']' :: ']' :: r) =>
      (endLine? r).bind fun r => (d.openElement? ks).map fun d => (d, r)
    | _ => none
  | t =>
    match readKey? (depthLimit - 1) t with
    | some (ks, ']' :: r) => (endLine? r).bind fun r => (d.openTable? ks).map fun d => (d, r)
    | _ => none

/-- Read a key with its value. -/
def readPair? (d : Draft) (t : Text) : Option (Draft × Text) :=
  match readKey? (depthLimit - 1) t with
  | some (ks, '=' :: r) =>
    (readValue? (2 * r.length + 2) 0 (skipSpace r)).bind fun (v, r) =>
      (endLine? r).bind fun r => (d.insert? ks v).map fun d => (d, r)
  | _ => none

/-- Read all lines, at most `fuel` of them. -/
def readLines? : Nat → Draft → Text → Option Draft
  | 0, _, _ => none
  | fuel + 1, d, t =>
    match skipSpace t with
    | [] => some d
    | '[' :: r => (readHeader? d r).bind fun (d, r) => readLines? fuel d r
    | r =>
      match endLine? r with
      | some r' => readLines? fuel d r'
      | none => (readPair? d r).bind fun (d, r) => readLines? fuel d r

/-- Read a document into the table that it stands for. A byte order mark may stand before it. -/
def parse? (t : Text) : Option Value :=
  let t := match t with
    | c :: r => if c.toNat = 0xFEFF then r else t
    | [] => []
  ((readLines? (t.length + 1) .start t).bind Draft.close?).map fun root =>
    .table (Node.toEntries root)

end Toml
end TalkTimer

import TalkTimer.Text.Numeral
import TalkTimer.Toml.Value

/-!
# Strings, numbers and dates of TOML

Readers for the values that hold no others, and for keys. A reader gives the value at
the start of a text and the rest of the text, or nothing if there is no such value.
-/

namespace TalkTimer
namespace Toml

open Text (isHexDigit hexDigit? hexNumber numberInBase digitsValue)

/-- Drop spaces and tabs. -/
def skipSpace (t : Text) : Text := t.dropWhile fun c => c == ' ' || c == '\t'

/-- The text after a line ending at its start. -/
def newline? : Text → Option Text
  | '\n' :: r => some r
  | '\r' :: '\n' :: r => some r
  | _ => none

/-- A character that may stand in a comment. -/
def isCommentChar (c : Char) : Bool := c == '\t' || 0x20 ≤ c.toNat

/-- A character that may stand in a string, quotation marks and backslashes apart. -/
def isStringChar (c : Char) : Bool := c == '\t' || (0x20 ≤ c.toNat && c.toNat != 0x7F)

/-! ### Strings -/

/-- The character of a hexadecimal escape of `n` digits. -/
def readHexEscape? (n : Nat) (t : Text) : Option (Char × Text) :=
  let ds := t.take n
  let code := hexNumber ds
  if ds.length = n && ds.all isHexDigit && code.isValidChar then
    some (Char.ofNat code, t.drop n)
  else none

/-- The character of an escape, of which the backslash is read already. -/
def readEscape? : Text → Option (Char × Text)
  | 'b' :: r => some (Char.ofNat 0x08, r)
  | 't' :: r => some ('\t', r)
  | 'n' :: r => some ('\n', r)
  | 'f' :: r => some (Char.ofNat 0x0C, r)
  | 'r' :: r => some ('\r', r)
  | '"' :: r => some ('"', r)
  | '\\' :: r => some ('\\', r)
  | 'u' :: r => readHexEscape? 4 r
  | 'U' :: r => readHexEscape? 8 r
  | _ => none

/-- Put characters in front of what a reader found. -/
def before (t : Text) (r : Option (Text × Text)) : Option (Text × Text) :=
  r.map fun (s, rest) => (t ++ s, rest)

/-- Read a string with escapes up to its quotation mark, in at most `fuel` steps. -/
def readBasic? : Nat → Text → Option (Text × Text)
  | 0, _ => none
  | _ + 1, [] => none
  | _ + 1, '"' :: r => some ([], r)
  | fuel + 1, '\\' :: r => (readEscape? r).bind fun (c, r) => before [c] (readBasic? fuel r)
  | fuel + 1, c :: r => if isStringChar c then before [c] (readBasic? fuel r) else none

/-- Read a string without escapes up to its quotation mark. -/
def readLiteral? : Text → Option (Text × Text)
  | [] => none
  | c :: r =>
    if c = '\'' then some ([], r)
    else if isStringChar c then before [c] (readLiteral? r)
    else none

/-- The end of a string in triple quotation marks, at a run of them: up to two belong to the string.
A shorter run does not end it. -/
def closeTriple? (quote : Char) (t : Text) : Option (Text × Text) :=
  let n := (t.takeWhile (· == quote)).length
  if 3 ≤ n then
    let inner := min (n - 3) 2
    some (List.replicate inner quote, t.drop (inner + 3))
  else none

/-- Drop spaces, tabs and line endings, in at most `fuel` lines. -/
def skipBlankLines : Nat → Text → Text
  | 0, t => t
  | fuel + 1, t =>
    match newline? (skipSpace t) with
    | some r => skipBlankLines fuel r
    | none => skipSpace t

/-- Read a string with escapes up to its triple quotation mark, in at most `fuel` steps. A backslash
at the end of a line joins it with the next line that is not blank. -/
def readTripleBasic? : Nat → Text → Option (Text × Text)
  | 0, _ => none
  | _ + 1, [] => none
  | fuel + 1, '"' :: r =>
    match closeTriple? '"' ('"' :: r) with
    | some e => some e
    | none => before ['"'] (readTripleBasic? fuel r)
  | fuel + 1, '\\' :: r =>
    match newline? (skipSpace r) with
    | some r' => readTripleBasic? fuel (skipBlankLines r'.length r')
    | none => (readEscape? r).bind fun (c, r) => before [c] (readTripleBasic? fuel r)
  | fuel + 1, c :: r =>
    match newline? (c :: r) with
    | some r' => before ['\n'] (readTripleBasic? fuel r')
    | none => if isStringChar c then before [c] (readTripleBasic? fuel r) else none

/-- Read a string without escapes up to its triple quotation mark, in at most `fuel` steps. -/
def readTripleLiteral? : Nat → Text → Option (Text × Text)
  | 0, _ => none
  | _ + 1, [] => none
  | fuel + 1, '\'' :: r =>
    match closeTriple? '\'' ('\'' :: r) with
    | some e => some e
    | none => before ['\''] (readTripleLiteral? fuel r)
  | fuel + 1, c :: r =>
    match newline? (c :: r) with
    | some r' => before ['\n'] (readTripleLiteral? fuel r')
    | none => if isStringChar c then before [c] (readTripleLiteral? fuel r) else none

/-- The text after a line ending, if it starts with one. -/
def dropNewline (t : Text) : Text := (newline? t).getD t

/-- Read a string of any of the four kinds. -/
def readString? : Text → Option (Text × Text)
  | '"' :: '"' :: '"' :: r => readTripleBasic? (r.length + 1) (dropNewline r)
  | '"' :: r => readBasic? (r.length + 1) r
  | '\'' :: '\'' :: '\'' :: r => readTripleLiteral? (r.length + 1) (dropNewline r)
  | '\'' :: r => readLiteral? r
  | _ => none

/-! ### Keys -/

/-- A character of a key without quotation marks. -/
def isKeyChar (c : Char) : Bool := c.isAlphanum || c == '-' || c == '_'

/-- Read one part of a key. -/
def readKeyPart? : Text → Option (Text × Text)
  | '"' :: r => readBasic? (r.length + 1) r
  | '\'' :: r => readLiteral? r
  | t => if (t.takeWhile isKeyChar).isEmpty then none
    else some (t.takeWhile isKeyChar, t.dropWhile isKeyChar)

/-- Read a key of at most `fuel` parts with dots between them; space around each part does not
count. -/
def readKey? : Nat → Text → Option (List Text × Text)
  | 0, _ => none
  | fuel + 1, t =>
    match readKeyPart? (skipSpace t) with
    | none => none
    | some (k, r) =>
      match skipSpace r with
      | '.' :: r' => (readKey? fuel r').map fun (ks, r) => (k :: ks, r)
      | r' => some ([k], r')

/-! ### Numbers -/

/-- The digits at the start of a text, where single underscores may stand between digits. -/
def takeDigits (isDigit : Char → Bool) : Text → Text × Text
  | [] => ([], [])
  | '_' :: d :: r =>
    if isDigit d then (d :: (takeDigits isDigit r).1, (takeDigits isDigit r).2)
    else ([], '_' :: d :: r)
  | c :: r =>
    if isDigit c then (c :: (takeDigits isDigit r).1, (takeDigits isDigit r).2) else ([], c :: r)

/-- One or more digits, the first of them not after an underscore. -/
def readDigits? (isDigit : Char → Bool) : Text → Option (Text × Text)
  | [] => none
  | c :: r => if isDigit c then some (takeDigits isDigit (c :: r)) else none

/-- A sign at the start of a text; it tells whether there is a minus sign. -/
def takeSign : Text → Bool × Text
  | '+' :: r => (false, r)
  | '-' :: r => (true, r)
  | t => (false, t)

/-- A decimal integer without a zero in front: whether it is negative, its digits, and the rest. -/
def readDecimalInteger? (t : Text) : Option (Bool × Text × Text) :=
  let (negative, r) := takeSign t
  match r with
  | '0' :: r' => some (negative, ['0'], r')
  | _ => (readDigits? Char.isDigit r).map fun (ds, r') => (negative, ds, r')

/-- The integer with a given sign and size, if it has no more than 64 bits. -/
def integer64? (negative : Bool) (n : Nat) : Option Value :=
  if negative then (if n ≤ 0x8000000000000000 then some (.integer (-(n : Int))) else none)
  else if n < 0x8000000000000000 then some (.integer n) else none

/-- Read an integer in a base given by a letter, of which the mark is read already. -/
def readBased? (base : Nat) (t : Text) : Option (Value × Text) :=
  (readDigits? (fun c => (hexDigit? c).any (· < base)) t).bind fun (ds, r) =>
    (integer64? false (numberInBase base ds)).map fun v => (v, r)

/-- Read an integer. -/
def readInteger? : Text → Option (Value × Text)
  | '0' :: 'x' :: r => readBased? 16 r
  | '0' :: 'o' :: r => readBased? 8 r
  | '0' :: 'b' :: r => readBased? 2 r
  | t => (readDecimalInteger? t).bind fun (negative, ds, r) =>
    (integer64? negative (digitsValue 0 ds)).map fun v => (v, r)

/-- Whether `m * 10 ^ e` is too large for a number of 64 bits in binary floating point. -/
def overflows (m : Nat) (e : Int) : Bool :=
  let places := (Nat.toDigits 10 m).length + e
  let limit := 1 <<< 1024 - 1 <<< 970
  if m = 0 then false
  else if 310 < places then true
  else if places < 308 then false
  else if 0 ≤ e then limit ≤ m * Nat.pow 10 e.toNat
  else limit * Nat.pow 10 (-e).toNat ≤ m

/-- Read an exponent. -/
def readExponent? : Text → Option (Int × Text)
  | c :: r =>
    if c = 'e' ∨ c = 'E' then
      let (negative, r) := takeSign r
      (readDigits? Char.isDigit r).map fun (ds, r) =>
        let n : Int := digitsValue 0 ds
        (if negative then -n else n, r)
    else none
  | [] => none

/-- Read the digits after a decimal point. -/
def readFraction? : Text → Option (Text × Text)
  | '.' :: r => readDigits? Char.isDigit r
  | _ => none

/-- Read a floating-point number. One that is too large is none, unless it is negative. -/
def readFloat? (t : Text) : Option (Value × Text) :=
  match readDecimalInteger? t with
  | none =>
    match (takeSign t).2 with
    | 'i' :: 'n' :: 'f' :: r => some (.float, r)
    | 'n' :: 'a' :: 'n' :: r => some (.float, r)
    | _ => none
  | some (negative, ds, r) =>
    let value (m : Text) (e : Int) (r : Text) : Option (Value × Text) :=
      if !negative && overflows (digitsValue 0 m) e then none else some (.float, r)
    match readExponent? r with
    | some (e, r') => value ds e r'
    | none =>
      match readFraction? r with
      | none => none
      | some (fs, r') =>
        let (e, r'') := (readExponent? r').getD (0, r')
        value (ds ++ fs) (e - fs.length) r''

/-! ### Dates and times -/

/-- Read a number of exactly `n` digits between two bounds. -/
def readFixed? (n low high : Nat) (t : Text) : Option (Nat × Text) :=
  let ds := t.take n
  let v := digitsValue 0 ds
  if ds.length = n && ds.all Char.isDigit && low ≤ v && v ≤ high then some (v, t.drop n) else none

/-- Read one character. -/
def readChar? (c : Char) : Text → Option Text
  | d :: r => if d = c then some r else none
  | [] => none

/-- The number of days in a month. -/
def daysIn (year month : Nat) : Nat :=
  if month = 2 then
    if year % 4 = 0 ∧ (year % 100 ≠ 0 ∨ year % 400 = 0) then 29 else 28
  else if month = 4 ∨ month = 6 ∨ month = 9 ∨ month = 11 then 30
  else 31

/-- Read a date. -/
def readDate? (t : Text) : Option Text := do
  let (year, t) ← readFixed? 4 0 9999 t
  let t ← readChar? '-' t
  let (month, t) ← readFixed? 2 1 12 t
  let t ← readChar? '-' t
  let (_, t) ← readFixed? 2 1 (daysIn year month) t
  return t

/-- Read a time of day. -/
def readTime? (t : Text) : Option Text := do
  let (_, t) ← readFixed? 2 0 23 t
  let t ← readChar? ':' t
  let (_, t) ← readFixed? 2 0 59 t
  let t ← readChar? ':' t
  let (_, t) ← readFixed? 2 0 60 t
  match t with
  | '.' :: d :: r => if d.isDigit then return r.dropWhile Char.isDigit else return t
  | _ => return t

/-- Read the distance of a time from universal time. -/
def readOffset? : Text → Option Text
  | 'Z' :: r => some r
  | 'z' :: r => some r
  | c :: r => do
    guard (c = '+' ∨ c = '-')
    let (_, r) ← readFixed? 2 0 23 r
    let r ← readChar? ':' r
    let (_, r) ← readFixed? 2 0 59 r
    return r
  | [] => none

/-- Read the time that may follow a date. -/
def readTimeAfterDate? : Text → Option Text
  | c :: r => do
    guard (c = 'T' ∨ c = 't' ∨ c = ' ')
    let r ← readTime? r
    return (readOffset? r).getD r
  | [] => none

/-- Read a date, a time, or both. -/
def readMoment? (t : Text) : Option (Value × Text) :=
  match readDate? t with
  | some r => some (.moment, (readTimeAfterDate? r).getD r)
  | none => (readTime? t).map fun r => (.moment, r)

/-- Read a date or a number. -/
def readNumber? (t : Text) : Option (Value × Text) :=
  match readMoment? t with
  | some v => some v
  | none =>
    match readFloat? t with
    | some v => some v
    | none => readInteger? t

end Toml
end TalkTimer

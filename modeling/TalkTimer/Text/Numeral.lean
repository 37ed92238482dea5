import TalkTimer.Text.Blank

/-!
# Numerals

Natural numbers written in decimal and read back, the two-place form that clocks
use, and lower-case hexadecimal.
-/

namespace TalkTimer
namespace Text

/-- The value of a decimal digit. -/
def digitValue (c : Char) : Nat := c.toNat - '0'.toNat

/-- The shortest decimal numeral of a number. -/
def decimal (n : Nat) : Text := Nat.toDigits 10 n

/-- A decimal numeral of at least two digits. -/
def twoDigits (n : Nat) : Text := if n < 10 then '0' :: decimal n else decimal n

/-- The lower-case hexadecimal numeral of a number. -/
def hexadecimal (n : Nat) : Text := Nat.toDigits 16 n

/-- The value of a run of decimal digits, on top of those already read. -/
def digitsValue (acc : Nat) (ds : Text) : Nat :=
  ds.foldl (fun n c => 10 * n + digitValue c) acc

/-- The value of a hexadecimal digit. -/
def hexDigit? (c : Char) : Option Nat :=
  if c.isDigit then some (digitValue c)
  else if 'a' ≤ c ∧ c ≤ 'f' then some (c.toNat - 'a'.toNat + 10)
  else if 'A' ≤ c ∧ c ≤ 'F' then some (c.toNat - 'A'.toNat + 10)
  else none

/-- Whether a character is a hexadecimal digit. -/
def isHexDigit (c : Char) : Bool := (hexDigit? c).isSome

/-- The value of a run of digits in a base up to sixteen. -/
def numberInBase (base : Nat) (ds : Text) : Nat :=
  ds.foldl (fun n c => base * n + (hexDigit? c).getD 0) 0

/-- The value of a run of hexadecimal digits. -/
def hexNumber (ds : Text) : Nat := numberInBase 16 ds

/-- Read a run of one or more decimal digits. -/
def readDecimal? (t : Text) : Option Nat :=
  if !t.isEmpty && t.all Char.isDigit then some (digitsValue 0 t) else none

/-- Read a number below `bound`: decimal digits, with a plus sign before them if one likes. -/
def readBelow? (bound : Nat) (t : Text) : Option Nat :=
  let ds := match t with
    | '+' :: r => r
    | _ => t
  (readDecimal? ds).bind fun n => if n < bound then some n else none

/-- A time in seconds as `MM:SS`. Minutes are not capped at 99. -/
def clock (seconds : Nat) : Text := twoDigits (seconds / 60) ++ ':' :: twoDigits (seconds % 60)

end Text
end TalkTimer

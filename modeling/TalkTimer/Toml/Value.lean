import TalkTimer.Text.Blank

/-!
# TOML values

The values of the configuration format TOML, as far as a setting can tell them apart:
all floating-point numbers are alike here, and so are all dates and times.

A record is read off a table by the names of its fields, or off an array by their order
(`Value.fields?`). The texts themselves are read by a library (`TomlReader`).
-/

namespace TalkTimer
namespace Toml

/-- A TOML value. The names in a table are distinct. -/
inductive Value
  | string (t : Text)
  | integer (n : Int)
  | float
  | boolean (b : Bool)
  | moment
  | array (vs : List Value)
  | table (entries : List (Text × Value))

namespace Value

/-- The text of a string. -/
def string? : Value → Option Text
  | string t => some t
  | _ => none

/-- The truth value of a boolean. -/
def boolean? : Value → Option Bool
  | boolean b => some b
  | _ => none

/-- The number of an integer that is neither negative nor as large as `bound`. -/
def natBelow? (bound : Nat) : Value → Option Nat
  | integer n => if 0 ≤ n ∧ n < bound then some n.toNat else none
  | _ => none

/-- The items of an array. -/
def items? : Value → Option (List Value)
  | array vs => some vs
  | _ => none

/-- The name of the only entry of a table, or a string itself. The entry must be an empty table or
array. -/
def choice? : Value → Option Text
  | string t => some t
  | table [(name, table [])] => some name
  | table [(name, array [])] => some name
  | _ => none

/-- The values of the named fields of a record, where there are any. In a `closed` record no other
fields may occur; a date or time counts as a record whose only field has no name. -/
def fields? (closed : Bool) (names : List Text) : Value → Option (List (Option Value))
  | table entries =>
    if closed && entries.any fun e => !names.contains e.1 then none
    else some (names.map fun n => (entries.find? fun e => e.1 = n).map Prod.snd)
  | array vs => some ((List.range names.length).map fun i => vs[i]?)
  | moment => if closed then none else some (names.map fun _ => none)
  | _ => none

end Value

/-- Read a field that may be missing. The outer result is `none` if the field is there and cannot be
read. -/
def optional {α : Type} (read : Value → Option α) : Option Value → Option (Option α)
  | none => some none
  | some v => (read v).map some

end Toml

/-- A library that reads TOML. -/
class TomlReader where
  /-- The table that a document stands for, if the text is a document. -/
  read? : Text → Option Toml.Value

end TalkTimer

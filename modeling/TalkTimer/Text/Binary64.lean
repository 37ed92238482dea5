/-!
# Quotients in binary floating point

The quotient of two natural numbers as the nearest number that the 64-bit binary format
has, with a tie going to the even one. Only such quotients occur here whose exponent the
format can hold.
-/

namespace TalkTimer

/-- The quotient of two numbers, rounded to a natural number; a half goes to the even neighbour. -/
def roundDiv (n d : Nat) : Nat :=
  if 2 * (n % d) < d then n / d
  else if d < 2 * (n % d) then n / d + 1
  else n / d + n / d % 2

/-- The number `mantissa / 2 ^ shift`. Unless it is zero, the mantissa has 53 bits. -/
structure Binary64 where
  mantissa : Nat
  shift : Int
  deriving DecidableEq, Repr

namespace Binary64

/-- `n * 2 ^ shift` over `d`, as a numerator and a denominator. -/
def scale (n d : Nat) (shift : Int) : Nat × Nat :=
  if 0 ≤ shift then (n <<< shift.toNat, d) else (n, d <<< (-shift).toNat)

/-- The shift that gives the quotient of `n` and `d` a whole part of 53 bits. -/
def quotientShift (n d : Nat) : Int :=
  let guess := (52 : Int) - ((Nat.log2 n : Int) - (Nat.log2 d : Int))
  if (scale n d guess).1 < (scale n d guess).2 <<< 52 then guess + 1 else guess

/-- The number nearest to the quotient of `n` and `d`. -/
def quotient (n d : Nat) : Binary64 :=
  if n = 0 then ⟨0, 0⟩
  else
    let shift := quotientShift n d
    let m := roundDiv (scale n d shift).1 (scale n d shift).2
    if m = 1 <<< 53 then ⟨1 <<< 52, shift - 1⟩ else ⟨m, shift⟩

/-- The number rounded to a natural number; a half goes to the even neighbour. -/
def round (x : Binary64) : Nat :=
  if 0 ≤ x.shift then roundDiv x.mantissa (1 <<< x.shift.toNat)
  else x.mantissa <<< (-x.shift).toNat

end Binary64
end TalkTimer

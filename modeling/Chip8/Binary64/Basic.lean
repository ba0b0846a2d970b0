/-!
# Binary floating point, exactly

What a 64-bit floating-point number is: a sign, a mantissa and a power of two, or infinite, or no
number. The other way, a quotient of natural numbers is rounded to the nearest representable
number, a tie going to the even mantissa.
-/

namespace Chip8

/-- The exact meaning of a 64-bit floating-point number. -/
inductive Binary64 where
  /-- The number `mantissa * 2 ^ exponent`, with its sign. -/
  | finite (negative : Bool) (mantissa : Nat) (exponent : Int)
  | infinite (negative : Bool)
  | nan
deriving DecidableEq, Repr

namespace Binary64

/-- The least mantissa of 53 bits. -/
def leastNormal : Nat := 0x10000000000000

/-- The meaning of a bit pattern. -/
def ofBits (bits : UInt64) : Binary64 :=
  let negative := bits >>> 63 == 1
  let biased := (bits >>> 52 &&& 0x7FF).toNat
  let fraction := (bits &&& 0xFFFFFFFFFFFFF).toNat
  if biased = 0x7FF then if fraction = 0 then infinite negative else nan
  else if biased = 0 then finite negative fraction (-1074)
  else finite negative (leastNormal + fraction) (biased - 1075)

/-- The meaning of a floating-point number. -/
def ofFloat (x : Float) : Binary64 := ofBits x.toBits

/-- The numerator and the denominator of `m * 2 ^ e`. -/
def ratio (m : Nat) (e : Int) : Nat × Nat := (m * Nat.pow 2 e.toNat, Nat.pow 2 (-e).toNat)

/-- A quotient rounded to the nearest number, a tie to the even one. -/
def roundDiv (num den : Nat) : Nat :=
  let q := num / den
  let r := num % den
  if den < 2 * r ∨ (2 * r = den ∧ q % 2 = 1) then q + 1 else q

/-- The exponent at which a positive quotient has 53 bits before the point, at least the least
one. -/
def scale (num den : Nat) : Int :=
  let guess : Int := num.log2 - den.log2 - 52
  let isSmall :=
    num * Nat.pow 2 (-guess).toNat < den * Nat.pow 2 guess.toNat * leastNormal
  max (if isSmall then guess - 1 else guess) (-1074)

/-- The floating-point number nearest to a quotient, none if it is beyond the largest one. -/
def nearest? (negative : Bool) (num den : Nat) : Option Float :=
  let sign : UInt64 := if negative then 0x8000000000000000 else 0
  if num = 0 then some (Float.ofBits sign)
  else
    let e := scale num den
    let mantissa := roundDiv (num * Nat.pow 2 (-e).toNat) (den * Nat.pow 2 e.toNat)
    let bits :=
      if mantissa < leastNormal then mantissa
      else (e + 1075).toNat * leastNormal + (mantissa - leastNormal)
    if bits < 0x7FF * leastNormal then some (Float.ofBits (sign ||| UInt64.ofNat bits)) else none

/-- The floating-point number nearest to an integer. -/
def ofInt? (z : Int) : Option Float := nearest? (decide (z < 0)) z.natAbs 1

/-- Infinity with a sign. -/
def infinity (negative : Bool) : Float := if negative then -1.0 / 0.0 else 1.0 / 0.0

/-- The floating-point number nearest to `m * 10 ^ e`, infinite if it is beyond the largest one. No
power is computed for a number that is too large or too small by its number of digits. -/
def ofDecimal (negative : Bool) (m : Nat) (e : Int) : Float :=
  let digits : Int := (m.log2 / 3 : Nat) + 1
  if m = 0 then (nearest? negative 0 1).getD 0.0
  else if 1100 < e then infinity negative
  else if digits + e < -1100 then (nearest? negative 0 1).getD 0.0
  else (nearest? negative (m * Nat.pow 10 e.toNat) (Nat.pow 10 (-e).toNat)).getD (infinity negative)

end Binary64

end Chip8

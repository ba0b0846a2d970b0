/-!
# Hexadecimal numerals

Upper-case hexadecimal numerals of integers, padded with zeros to a width. A minus sign stands in
front of the zeros and counts in the width, so `-1` at width 4 is `-001`. A numeral longer than the
width is written in full.
-/

namespace Chip8

/-- The upper-case hexadecimal digit of a number below 16. -/
def hexDigit (d : Nat) : Char := if d < 10 then Char.ofNat (48 + d) else Char.ofNat (55 + d)

/-- The hexadecimal digits of a number, the leading one first; zero has one digit. -/
def hexDigits (n : Nat) : List Char :=
  if n < 16 then [hexDigit n] else hexDigits (n / 16) ++ [hexDigit (n % 16)]
termination_by n

/-- Zeros in front, up to `width` characters. -/
def zeroPad (width : Nat) (cs : List Char) : List Char :=
  List.replicate (width - cs.length) '0' ++ cs

/-- The hexadecimal numeral of an integer, at least `width` characters long with its sign. -/
def hex (width : Nat) (z : Int) : String :=
  if z < 0 then String.ofList ('-' :: zeroPad (width - 1) (hexDigits z.natAbs))
  else String.ofList (zeroPad width (hexDigits z.natAbs))

end Chip8

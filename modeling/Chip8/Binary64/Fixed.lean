import Chip8.Binary64.Basic

/-!
# Fixed decimal places

A floating-point number with a fixed number of decimal places. The exact value is rounded, a tie
going to the even digit, and the sign of the number is kept also where zero is left of it.
-/

namespace Chip8.Binary64

/-- The digits of a number of units of the last place, with the point set. -/
def placed (places units : Nat) : String :=
  if places = 0 then toString units
  else
    let unit := Nat.pow 10 places
    let fraction := toString (units % unit)
    toString (units / unit) ++ "." ++ "".pushn '0' (places - fraction.length) ++ fraction

/-- The text of a number with `places` decimal places. -/
def fixed (places : Nat) (x : Float) : String :=
  match ofFloat x with
  | nan => "nan"
  | infinite negative => if negative then "-inf" else "inf"
  | finite negative m e =>
    let (num, den) := ratio m e
    (if negative then "-" else "") ++ placed places (roundDiv (num * Nat.pow 10 places) den)

/-- Blanks in front, up to `width` characters. -/
def padLeft (width : Nat) (s : String) : String := "".pushn ' ' (width - s.length) ++ s

end Chip8.Binary64

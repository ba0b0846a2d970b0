import Chip8.Binary64.Basic

/-!
# Shortest decimal text

The text of a floating-point number with the fewest digits that read back as the same number, and
of those the nearest to it. Numbers from a ten-thousandth up to ten to the sixteenth are written in
place with at least one digit after the point; others with an exponent of two digits or more.
-/

namespace Chip8.Binary64

/-- The exponent of the leading decimal digit of a positive quotient. -/
def leadingExponent (num den : Nat) : Int :=
  if den ≤ num then (Nat.toDigits 10 (num / den)).length - 1
  else
    let d := (Nat.toDigits 10 (den / num)).length
    if den ≤ num * Nat.pow 10 (d - 1) then -((d : Int) - 1) else -(d : Int)

/-- The numbers whose text may stand for `m * 2 ^ e`, in quarters of its last binary place: from
half a place below, or a quarter below a power of two, to half a place above. -/
structure Interval where
  /-- The lower end. -/
  low : Nat
  /-- The number. -/
  value : Nat
  /-- The upper end. -/
  high : Nat
  /-- Whether the ends belong to it. -/
  closed : Bool

/-- The interval around `m * 2 ^ e`. -/
def interval (m : Nat) (e : Int) : Interval where
  low := if m = leastNormal ∧ -1074 < e then 4 * m - 1 else 4 * m - 2
  value := 4 * m
  high := 4 * m + 2
  closed := m % 2 = 0

/-- The multiple of `10 ^ k` that lies in the interval around `m * 2 ^ e` and next to it, the
nearer of two and the even of two as near. -/
def onGrid? (m : Nat) (e k : Int) : Option Nat :=
  let i := interval m e
  let step := Nat.pow 10 k.toNat * Nat.pow 2 (2 - e).toNat
  let unit := Nat.pow 2 (e - 2).toNat * Nat.pow 10 (-k).toNat
  let inside (d : Nat) : Bool :=
    if i.closed then i.low * unit ≤ d * step ∧ d * step ≤ i.high * unit
    else i.low * unit < d * step ∧ d * step < i.high * unit
  let below := i.value * unit / step
  let above := below + 1
  match inside below, inside above with
  | true, true =>
    let down := i.value * unit - below * step
    let up := above * step - i.value * unit
    if down < up ∨ (down = up ∧ below % 2 = 0) then some below else some above
  | true, false => some below
  | false, true => some above
  | false, false => none

/-- The digits and the exponent of the last digit, for the coarsest grid with a hit. -/
def shortestDigits (m : Nat) (e : Int) : Nat × Int :=
  let (num, den) := ratio m e
  let lead := leadingExponent num den
  let grids := (List.range 17).map fun (n : Nat) => lead - (n : Int)
  (grids.findSome? fun k => (onGrid? m e k).map fun d => (d, k)).getD (0, 0)

/-- Drops the zeros at the end. -/
def dropZeros (cs : List Char) : List Char := (cs.reverse.dropWhile (· == '0')).reverse

/-- An exponent with its sign and at least two digits. -/
def exponentText (e : Int) : String :=
  let digits := toString e.natAbs
  (if e < 0 then "-" else "+") ++ "".pushn '0' (2 - digits.length) ++ digits

/-- The text of digits whose leading one stands for a multiple of `10 ^ lead`. -/
def layOut (digits : List Char) (lead : Int) : String :=
  if -4 ≤ lead ∧ lead < 16 then
    if lead < 0 then
      "0." ++ "".pushn '0' (-lead - 1).toNat ++ String.ofList digits
    else
      let whole := lead.toNat + 1
      let fraction := digits.drop whole
      String.ofList (digits.take whole) ++ "".pushn '0' (whole - digits.length) ++ "."
        ++ (if fraction.isEmpty then "0" else String.ofList fraction)
  else
    String.ofList (digits.take 1)
      ++ (if digits.length ≤ 1 then "" else "." ++ String.ofList (digits.drop 1))
      ++ "e" ++ exponentText lead

/-- The shortest text of a floating-point number. -/
def shortest (x : Float) : String :=
  match ofFloat x with
  | nan => "nan"
  | infinite negative => if negative then "-inf" else "inf"
  | finite negative m e =>
    (if negative then "-" else "") ++
      if m = 0 then "0.0"
      else
        let (d, k) := shortestDigits m e
        let cs := Nat.toDigits 10 d
        layOut (dropZeros cs) (k + cs.length - 1)

end Chip8.Binary64

import Chip8.Binary64.Basic

/-!
# Clock readings

The numbers that pacing calculates with: readings of a clock, in seconds, and differences of them.
Pacing asks for the four operations, a comparison, and the whole number in a quotient. Two instances
matter: floating-point numbers, which run, and exact ones, about which more can be said.
-/

namespace Chip8.Pacing

/-- Why a quotient has no whole number in it. -/
inductive NotWhole where
  /-- It is infinite. -/
  | infinite
  /-- It is no number. -/
  | nan
deriving DecidableEq, Repr

/-- Why a rate has no period. -/
inductive BadRate where
  /-- It is zero. -/
  | zero
  /-- It is beyond the largest reading. -/
  | tooLarge
deriving DecidableEq, Repr

/-- Numbers to measure time with. -/
class Reading (τ : Type) extends Add τ, Sub τ, Mul τ, Div τ where
  /-- No time. -/
  zero : τ
  /-- Whether the first is less than the second. -/
  less : τ → τ → Bool
  /-- A whole number of seconds. -/
  ofInt : Int → τ
  /-- The period of a rate. -/
  period : Int → Except BadRate τ
  /-- The whole number in a quotient, toward zero. -/
  whole : τ → Except NotWhole Int

/-- The whole number in an exact number, toward zero. -/
def wholeOf : Binary64 → Except NotWhole Int
  | .nan => .error .nan
  | .infinite _ => .error .infinite
  | .finite negative m e =>
    let (num, den) := Binary64.ratio m e
    .ok (if negative then -(num / den : Nat) else (num / den : Nat))

/-- Floating-point readings. -/
instance : Reading Float where
  zero := 0.0
  less x y := x < y
  ofInt z := (Binary64.ofInt? z).getD 0.0
  period z :=
    if z = 0 then .error .zero
    else
      match Binary64.ofInt? z with
      | none => .error .tooLarge
      | some x => .ok (1.0 / x)
  whole x := wholeOf (Binary64.ofFloat x)

/-- Exact readings. -/
instance : Reading Rat where
  add := Rat.add
  sub := Rat.sub
  mul := Rat.mul
  div := Rat.div
  zero := Rat.ofInt 0
  less := Rat.blt
  ofInt := Rat.ofInt
  period z := if z = 0 then .error .zero else .ok (Rat.inv (Rat.ofInt z))
  whole x := .ok (x.num.tdiv x.den)

end Chip8.Pacing

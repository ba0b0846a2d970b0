import Chip8.Binary64.Basic
import Chip8.Text.Integer

/-!
# Fractions in text

A floating-point number written in decimal digits of any script, with a sign, a point, an exponent,
blanks around it and single underscores between digits, or as infinity or no number in words.
-/

namespace Chip8.Text

/-- Drops the underscores of characters, each of which must stand between two digits. The flag says
whether a digit stands in front. -/
def joinDigits (behindDigit : Bool) : List Char → Option (List Char)
  | [] => some []
  | '_' :: c :: rest => if behindDigit && c.isDigit then joinDigits false (c :: rest) else none
  | c :: rest => if c == '_' then none else (joinDigits c.isDigit rest).map (c :: ·)

/-- The decimal number that digits write. -/
def decimal (cs : List Char) : Nat := cs.foldl (fun n c => 10 * n + (c.toNat - 48)) 0

/-- The integer of a decimal exponent without underscores. -/
def exponent? (cs : List Char) : Option Int :=
  let magnitude? (cs : List Char) : Option Int :=
    if cs.isEmpty || !cs.all Char.isDigit then none else some (decimal cs)
  match cs with
  | '-' :: rest => (magnitude? rest).map fun z => -z
  | '+' :: rest => magnitude? rest
  | cs => magnitude? cs

/-- The number that characters without a sign and without underscores write. -/
def magnitude? (negative : Bool) (cs : List Char) : Option Float :=
  let word := (String.ofList cs).toLower
  if word == "inf" || word == "infinity" then some (Binary64.infinity negative)
  else if word == "nan" then some (0.0 / 0.0)
  else
    let whole := cs.takeWhile Char.isDigit
    let (places, rest) := match cs.drop whole.length with
      | '.' :: rest => (rest.takeWhile Char.isDigit, rest.dropWhile Char.isDigit)
      | rest => ([], rest)
    let exponent := match rest with
      | [] => some 0
      | c :: rest => if c == 'e' || c == 'E' then exponent? rest else none
    if whole.isEmpty && places.isEmpty then none
    else exponent.map fun e =>
      Binary64.ofDecimal negative (decimal (whole ++ places)) (e - places.length)

/-- The floating-point number that characters write. -/
def fraction? (cs : List Char) : Option Float :=
  let plainDigit (c : Char) : Char := ((digit? c).map fun d => Char.ofNat (48 + d)).getD c
  (joinDigits false ((trim cs).map plainDigit)).bind fun cs =>
    match cs with
    | '-' :: rest => magnitude? true rest
    | '+' :: rest => magnitude? false rest
    | cs => magnitude? false cs

/-- The report of characters that write no floating-point number. -/
def notFractionReport (cs : List Char) : String :=
  "could not convert string to float: " ++ quoted (String.ofList cs)

end Chip8.Text

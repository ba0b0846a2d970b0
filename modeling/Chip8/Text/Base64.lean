/-!
# Base 64

Bytes written in letters, digits, pluses and slashes, four for three bytes, with equals signs for
what is missing at the end. Other characters are passed over.
-/

namespace Chip8.Text.Base64

/-- The value of a digit. -/
def digit? (c : Char) : Option Nat :=
  if c.isUpper then some (c.toNat - 65)
  else if c.isLower then some (c.toNat - 71)
  else if c.isDigit then some (c.toNat + 4)
  else if c == '+' then some 62
  else if c == '/' then some 63
  else none

/-- The bytes behind some digits of a group of four. `bits` holds what these digits leave for the
next byte, and `pads` counts the equals signs behind them. A group ends with its last digit, or with
equals signs in the place of one or two; with these all ends. -/
def decodeFrom (read bits pads : Nat) : List Char → Option (List UInt8)
  | [] => if read == 0 then some [] else none
  | '=' :: cs =>
    if 2 ≤ read && 4 ≤ read + pads + 1 then some []
    else decodeFrom read bits (if 2 ≤ read then pads + 1 else pads) cs
  | c :: cs =>
    match digit? c with
    | none => decodeFrom read bits pads cs
    | some d =>
      match read with
      | 0 => decodeFrom 1 d 0 cs
      | 1 => (decodeFrom 2 (d % 16) 0 cs).map (UInt8.ofNat (4 * bits + d / 16) :: ·)
      | 2 => (decodeFrom 3 (d % 4) 0 cs).map (UInt8.ofNat (16 * bits + d / 4) :: ·)
      | _ => (decodeFrom 0 0 0 cs).map (UInt8.ofNat (64 * bits + d) :: ·)

/-- The bytes that a text writes; none if its last group is not complete. -/
def decode? (s : String) : Option (List UInt8) := decodeFrom 0 0 0 s.toList

end Chip8.Text.Base64

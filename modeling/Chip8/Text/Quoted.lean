import Chip8.Text.Printable

/-!
# Quoted text

A text between quotes, as lists and maps show their texts. The quotes are single ones, unless the
text has a single quote and no double one. The quote and the backslash are escaped by a backslash,
the common control characters by a letter, and all that is not printable by its number in two, four
or eight lower-case hexadecimal digits.
-/

namespace Chip8.Text

/-- A number in lower-case hexadecimal with `width` digits. -/
def lowerHex (width n : Nat) : String :=
  let digits := Nat.toDigits 16 n
  "".pushn '0' (width - digits.length) ++ String.ofList digits

/-- A character between quotes. -/
def escape (quote c : Char) : String :=
  if c = quote ∨ c = '\\' then "\\" ++ c.toString
  else if c = '\n' then "\\n"
  else if c = '\r' then "\\r"
  else if c = '\t' then "\\t"
  else if isPrintable c then c.toString
  else if c.toNat < 0x100 then "\\x" ++ lowerHex 2 c.toNat
  else if c.toNat < 0x10000 then "\\u" ++ lowerHex 4 c.toNat
  else "\\U" ++ lowerHex 8 c.toNat

/-- The quotes around a text. -/
def quoteFor (s : String) : Char :=
  if s.toList.contains '\'' && !s.toList.contains '"' then '"' else '\''

/-- A text between quotes. -/
def quoted (s : String) : String :=
  let q := quoteFor s
  q.toString ++ String.join (s.toList.map (escape q)) ++ q.toString

/-- Bytes between quotes, behind a letter that tells them from a text. A byte that is no printable
ASCII character is escaped by its number. -/
def quotedBytes (bytes : List UInt8) : String :=
  let s := String.ofList (bytes.map fun b => Char.ofNat b.toNat)
  let q := quoteFor s
  let shown (c : Char) : String :=
    if 0x7F ≤ c.toNat then "\\x" ++ lowerHex 2 c.toNat else escape q c
  "b" ++ q.toString ++ String.join (s.toList.map shown) ++ q.toString

/-- Quoted texts between brackets. -/
def quotedList (xs : List String) : String := "[" ++ ", ".intercalate (xs.map quoted) ++ "]"

end Chip8.Text

import Chip8.Text.Quoted

/-!
# Integers in text

An integer written in digits of any script, with a sign, blanks around it and single underscores
between digits. Decimal integers with very many digits are neither read nor written.
-/

namespace Chip8.Text

/-- The zeros of the scripts that have decimal digits; the other nine digits follow each. -/
def zeros : List Nat :=
  [0x30, 0x660, 0x6F0, 0x7C0, 0x966, 0x9E6, 0xA66, 0xAE6, 0xB66, 0xBE6, 0xC66, 0xCE6, 0xD66,
   0xDE6, 0xE50, 0xED0, 0xF20, 0x1040, 0x1090, 0x17E0, 0x1810, 0x1946, 0x19D0, 0x1A80, 0x1A90,
   0x1B50, 0x1BB0, 0x1C40, 0x1C50, 0xA620, 0xA8D0, 0xA900, 0xA9D0, 0xA9F0, 0xAA50, 0xABF0, 0xFF10,
   0x104A0, 0x10D30, 0x11066, 0x110F0, 0x11136, 0x111D0, 0x112F0, 0x11450, 0x114D0, 0x11650,
   0x116C0, 0x11730, 0x118E0, 0x11950, 0x11C50, 0x11D50, 0x11DA0, 0x16A60, 0x16AC0, 0x16B50,
   0x1D7CE, 0x1D7D8, 0x1D7E2, 0x1D7EC, 0x1D7F6, 0x1E140, 0x1E2F0, 0x1E950, 0x1FBF0]

/-- The value of a decimal digit. -/
def digit? (c : Char) : Option Nat :=
  (zeros.find? fun first => first ≤ c.toNat && c.toNat < first + 10).map (c.toNat - ·)

/-- Whether a character is blank: a space of any width, or a control character that moves on. -/
def isBlank (c : Char) : Bool :=
  let n := c.toNat
  (0x9 ≤ n && n ≤ 0xD) || n == 0x20 || n == 0x85 || n == 0xA0 || n == 0x1680
    || (0x2000 ≤ n && n ≤ 0x200A) || n == 0x2028 || n == 0x2029 || n == 0x202F || n == 0x205F
    || n == 0x3000

/-- Drops the blanks around a text. -/
def trim (cs : List Char) : List Char :=
  ((cs.dropWhile isBlank).reverse.dropWhile isBlank).reverse

/-- The value of a digit in a base: a decimal digit, or a Latin letter from ten on. -/
def digitIn? (base : Nat) (c : Char) : Option Nat :=
  let value? := match digit? c with
    | some d => some d
    | none => if c.isAlpha then some (c.toLower.toNat - 87) else none
  value?.filter (· < base)

/-- The number that digits write after those read so far. An underscore stands between two
digits. -/
def natural? (base sofar : Nat) : List Char → Option Nat
  | [] => some sofar
  | '_' :: c :: rest => (digitIn? base c).bind fun d => natural? base (base * sofar + d) rest
  | c :: rest => (digitIn? base c).bind fun d => natural? base (base * sofar + d) rest

/-- The number that digits write; there is at least one, and the first character is one. -/
def digits? (base : Nat) : List Char → Option Nat
  | [] => none
  | c :: rest => (digitIn? base c).bind fun d => natural? base d rest

/-- The letters that may tell a base behind a zero. -/
def baseLetters : Nat → List Char
  | 2 => ['b', 'B']
  | 8 => ['o', 'O']
  | 16 => ['x', 'X']
  | _ => []

/-- What stands behind a zero and a letter that tells the base, and an underscore that may follow;
all if there is no such letter. -/
def behindBase (base : Nat) : List Char → List Char
  | '0' :: c :: rest =>
    if (baseLetters base).contains c then
      match rest with
      | '_' :: rest => rest
      | rest => rest
    else '0' :: c :: rest
  | cs => cs

/-- The most decimal digits that an integer may have when it is read or written. -/
def digitLimit : Nat := 4300

/-- How many decimal digits are among characters. -/
def digitCount (cs : List Char) : Nat := cs.countP fun c => (digit? c).isSome

/-- The integer that characters write in a base. -/
def integerIn? (base : Nat) (cs : List Char) : Option Int :=
  let magnitude? (cs : List Char) : Option Int :=
    (digits? base (behindBase base cs)).map fun n => (n : Int)
  match trim cs with
  | '-' :: rest => (magnitude? rest).map fun z => -z
  | '+' :: rest => magnitude? rest
  | cs => magnitude? cs

/-- The integer that a text writes, unless it has too many digits. -/
def integer? (s : String) : Option Int :=
  if digitLimit < digitCount s.toList then none else integerIn? 10 s.toList

/-- Whether an integer has too many digits to be written. -/
def isTooLong (z : Int) : Bool := decide (Nat.pow 10 digitLimit ≤ z.natAbs)

/-- The report of an integer that has too many digits to be written. -/
def tooLongReport : String :=
  "Exceeds the limit (" ++ toString digitLimit ++ " digits) for integer string conversion; "
    ++ "use sys.set_int_max_str_digits() to increase the limit"

/-- The report of a number whose digits are too many to be read. -/
def tooManyDigitsReport (count : Nat) : String :=
  "Exceeds the limit (" ++ toString digitLimit ++ " digits) for integer string conversion: "
    ++ "value has " ++ toString count ++ " digits; "
    ++ "use sys.set_int_max_str_digits() to increase the limit"

/-- The report of characters that write no integer in a base. -/
def notIntegerReport (base : Nat) (cs : List Char) : String :=
  "invalid literal for int() with base " ++ toString base ++ ": " ++ quoted (String.ofList cs)

end Chip8.Text

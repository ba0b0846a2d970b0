/-!
# Decoding UTF-8

The text that bytes encode, or where they stop being UTF-8 and why. What is refused is reported
with its place: the bytes of one character up to the first that does not fit. A character that the
end cuts off is reported with places counted from its first byte.
-/

namespace Chip8.Text

/-- Why bytes are not UTF-8. -/
inductive Utf8Cause where
  /-- No character starts with this byte. -/
  | start
  /-- The character does not go on with the next byte. -/
  | continuation
  /-- The end cuts the character off. -/
  | truncated
deriving DecidableEq, Repr

/-- Where bytes are not UTF-8. -/
structure Utf8Error where
  /-- The cause. -/
  cause : Utf8Cause
  /-- The place of the first byte of the character. -/
  position : Nat
  /-- The bytes of the character that fit. -/
  bytes : List UInt8
deriving DecidableEq, Repr

/-- How many bytes follow the first byte of a character, its bits, and the range of the second
byte. -/
def lead? (b : UInt8) : Option (Nat × Nat × UInt8 × UInt8) :=
  if b < 0x80 then some (0, b.toNat, 0, 0)
  else if b < 0xC2 then none
  else if b < 0xE0 then some (1, b.toNat % 32, 0x80, 0xBF)
  else if b < 0xF0 then
    some (2, b.toNat % 16, if b = 0xE0 then 0xA0 else 0x80, if b = 0xED then 0x9F else 0xBF)
  else if b < 0xF5 then
    some (3, b.toNat % 8, if b = 0xF0 then 0x90 else 0x80, if b = 0xF4 then 0x8F else 0xBF)
  else none

/-- The rest of a character: its code and the bytes after it, or how many bytes fit and whether
there were no more. -/
def tail (code : Nat) (low high : UInt8) (fits : Nat) :
    Nat → List UInt8 → Except (Nat × Bool) (Nat × List UInt8)
  | 0, bs => .ok (code, bs)
  | _ + 1, [] => .error (fits, true)
  | n + 1, b :: bs =>
    if low ≤ b ∧ b ≤ high then tail (code * 64 + b.toNat % 64) 0x80 0xBF (fits + 1) n bs
    else .error (fits, false)

/-- Decodes bytes from a position on. -/
def decodeFrom : Nat → Nat → List UInt8 → Except Utf8Error (List Char)
  | 0, _, _ => .ok []
  | _ + 1, _, [] => .ok []
  | fuel + 1, position, b :: bs =>
    match lead? b with
    | none => .error ⟨.start, position, [b]⟩
    | some (n, bits, low, high) =>
      match tail bits low high 1 n bs with
      | .ok (code, rest) => (decodeFrom fuel (position + n + 1) rest).map (Char.ofNat code :: ·)
      | .error (fits, true) => .error ⟨.truncated, 0, (b :: bs).take fits⟩
      | .error (fits, false) => .error ⟨.continuation, position, (b :: bs).take fits⟩

/-- The text that bytes encode. -/
def decodeUtf8 (bs : List UInt8) : Except Utf8Error String :=
  (decodeFrom bs.length 0 bs).map String.ofList

/-- A byte in two lower-case hexadecimal digits. -/
def byteText (b : UInt8) : String :=
  let digits := Nat.toDigits 16 b.toNat
  "".pushn '0' (2 - digits.length) ++ String.ofList digits

/-- The report of bytes that are not UTF-8. -/
def Utf8Error.message (e : Utf8Error) : String :=
  let place := match e.bytes with
    | [b] => "byte 0x" ++ byteText b ++ " in position " ++ toString e.position
    | bs => "bytes in position " ++ toString e.position ++ "-"
      ++ toString (e.position + bs.length - 1)
  let reason := match e.cause with
    | .start => "invalid start byte"
    | .continuation => "invalid continuation byte"
    | .truncated => "unexpected end of data"
  "'utf-8' codec can't decode " ++ place ++ ": " ++ reason

end Chip8.Text

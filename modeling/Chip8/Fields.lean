/-!
# The fields of an instruction word

An instruction word is any integer. Its operand fields are those of its low 16 bits, a negative
word being read as two's complement without end; the word itself is kept whole beside them.
-/

namespace Chip8

/-- A register, a key or a nibble. -/
abbrev Nibble := Fin 16

/-- The last nibble of a number. -/
def Nibble.ofNat (k : Nat) : Nibble := Fin.ofNat 16 k

/-- A nibble is an index of sixteen things. -/
theorem Nibble.lt (x : Nibble) : x.val < 16 := x.isLt

/-- An address that an instruction can name. -/
abbrev Address := Fin 4096

/-- An instruction word and its fields. -/
structure Fields where
  /-- The word as it was given. -/
  raw : Int
  /-- The first nibble. -/
  category : Nibble
  /-- The second nibble, a register. -/
  x : Nibble
  /-- The third nibble, a register. -/
  y : Nibble
  /-- The fourth nibble. -/
  n : Nibble
  /-- The last byte. -/
  nn : UInt8
  /-- The last twelve bits. -/
  nnn : Address
deriving DecidableEq, Repr

/-- The low 16 bits of an integer. -/
def lowWord (w : Int) : Nat := (w % 0x10000).toNat

/-- Takes a word apart. -/
def Fields.ofInt (w : Int) : Fields :=
  let bits := lowWord w
  { raw := w
    category := Nibble.ofNat (bits >>> 12)
    x := Nibble.ofNat (bits >>> 8)
    y := Nibble.ofNat (bits >>> 4)
    n := Nibble.ofNat bits
    nn := UInt8.ofNat bits
    nnn := Fin.ofNat 4096 bits }

end Chip8

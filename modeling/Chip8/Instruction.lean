import Chip8.Fields

/-!
# Instructions

The instructions of the machine, what each means being left to the machine, and how a word names
one. A word names at most one instruction. `00E0` and `00EE` are recognised by the whole word, all
others by the fields; the low nibble of `5xy0` and of `9xy0` is not looked at.
-/

namespace Chip8

/-- An operation on two registers. -/
inductive AluOp where
  /-- The second operand. -/
  | copy
  | or
  | and
  | xor
  | add
  /-- First minus second. -/
  | sub
  | shiftRight
  /-- Second minus first. -/
  | subFrom
  | shiftLeft
deriving DecidableEq, Repr

namespace AluOp

/-- The operation that a low nibble selects. -/
def ofNibble? (n : Nibble) : Option AluOp :=
  match n.val with
  | 0x0 => some copy
  | 0x1 => some or
  | 0x2 => some and
  | 0x3 => some xor
  | 0x4 => some add
  | 0x5 => some sub
  | 0x6 => some shiftRight
  | 0x7 => some subFrom
  | 0xE => some shiftLeft
  | _ => none

/-- The flag byte of a condition. -/
def flag (c : Bool) : UInt8 := if c then 1 else 0

/-- The result and the new flag for operands `a` and `b` and the old flag `f`. Copying and the
logical operations hand the flag back; a subtraction sets it when nothing is borrowed. -/
def apply (op : AluOp) (a b f : UInt8) : UInt8 × UInt8 :=
  match op with
  | copy => (b, f)
  | or => (a ||| b, f)
  | and => (a &&& b, f)
  | xor => (a ^^^ b, f)
  | add => (a + b, flag (decide (255 < a.toNat + b.toNat)))
  | sub => (a - b, flag (decide (b ≤ a)))
  | shiftRight => (a >>> 1, a &&& 1)
  | subFrom => (b - a, flag (decide (a ≤ b)))
  | shiftLeft => (a <<< 1, a >>> 7)

end AluOp

/-- An instruction with its operands. -/
inductive Instruction where
  /-- `00E0`: turn every cell off. -/
  | clear
  /-- `00EE`: go back to the address on top of the stack. -/
  | ret
  /-- `1nnn`: go to an address. -/
  | jump (target : Address)
  /-- `2nnn`: go to an address and remember where to come back to. -/
  | call (target : Address)
  /-- `3xnn`: skip if the register holds the byte. -/
  | skipIfByte (x : Nibble) (byte : UInt8)
  /-- `4xnn`: skip unless the register holds the byte. -/
  | skipUnlessByte (x : Nibble) (byte : UInt8)
  /-- `5xy0`: skip if the registers are equal. -/
  | skipIfSame (x y : Nibble)
  /-- `6xnn`: load a byte. -/
  | loadByte (x : Nibble) (byte : UInt8)
  /-- `7xnn`: add a byte, without a flag. -/
  | addByte (x : Nibble) (byte : UInt8)
  /-- `8xyn`: combine two registers. -/
  | alu (op : AluOp) (x y : Nibble)
  /-- `9xy0`: skip unless the registers are equal. -/
  | skipUnlessSame (x y : Nibble)
  /-- `Annn`: load the index. -/
  | loadIndex (address : Address)
  /-- `Bnnn`: go to an address plus the first register. -/
  | jumpOffset (target : Address)
  /-- `Cxnn`: load a random byte, masked. -/
  | random (x : Nibble) (mask : UInt8)
  /-- `Dxyn`: draw a sprite of `n` rows. -/
  | draw (x y n : Nibble)
  /-- `Ex9E`: skip if the key is down. -/
  | skipIfKey (x : Nibble)
  /-- `ExA1`: skip unless the key is down. -/
  | skipUnlessKey (x : Nibble)
  /-- `Fx07`: read the delay timer. -/
  | readDelay (x : Nibble)
  /-- `Fx0A`: wait for a key. -/
  | waitKey (x : Nibble)
  /-- `Fx15`: set the delay timer. -/
  | setDelay (x : Nibble)
  /-- `Fx18`: set the sound timer. -/
  | setSound (x : Nibble)
  /-- `Fx1E`: add to the index. -/
  | addIndex (x : Nibble)
  /-- `Fx29`: point the index at a glyph. -/
  | glyph (x : Nibble)
  /-- `Fx33`: store three decimal digits. -/
  | digits (x : Nibble)
  /-- `Fx55`: store the registers up to `x`. -/
  | store (x : Nibble)
  /-- `Fx65`: load the registers up to `x`. -/
  | load (x : Nibble)
deriving DecidableEq, Repr

namespace Instruction

/-- The instruction `Fxnn` names. -/
def ofMisc? (x : Nibble) (nn : UInt8) : Option Instruction :=
  match nn.toNat with
  | 0x07 => some (readDelay x)
  | 0x0A => some (waitKey x)
  | 0x15 => some (setDelay x)
  | 0x18 => some (setSound x)
  | 0x1E => some (addIndex x)
  | 0x29 => some (glyph x)
  | 0x33 => some (digits x)
  | 0x55 => some (store x)
  | 0x65 => some (load x)
  | _ => none

/-- The instruction that a word names, if any. -/
def ofFields? (f : Fields) : Option Instruction :=
  match f.category.val with
  | 0x0 => if f.raw = 0x00E0 then some clear else if f.raw = 0x00EE then some ret else none
  | 0x1 => some (jump f.nnn)
  | 0x2 => some (call f.nnn)
  | 0x3 => some (skipIfByte f.x f.nn)
  | 0x4 => some (skipUnlessByte f.x f.nn)
  | 0x5 => some (skipIfSame f.x f.y)
  | 0x6 => some (loadByte f.x f.nn)
  | 0x7 => some (addByte f.x f.nn)
  | 0x8 => (AluOp.ofNibble? f.n).map fun op => alu op f.x f.y
  | 0x9 => some (skipUnlessSame f.x f.y)
  | 0xA => some (loadIndex f.nnn)
  | 0xB => some (jumpOffset f.nnn)
  | 0xC => some (random f.x f.nn)
  | 0xD => some (draw f.x f.y f.n)
  | 0xE => if f.nn = 0x9E then some (skipIfKey f.x)
    else if f.nn = 0xA1 then some (skipUnlessKey f.x) else none
  | _ => ofMisc? f.x f.nn

/-- The instruction that an integer names, if any. -/
def decode? (w : Int) : Option Instruction := ofFields? (Fields.ofInt w)

/-- How many bytes the instruction touches from the index on. -/
def span : Instruction → Nat
  | draw _ _ n => n.val
  | digits _ => 3
  | store x => x.val + 1
  | load x => x.val + 1
  | _ => 0

end Instruction

/-- How many bytes a word touches from the index on; none if it names no instruction. -/
def Fields.span (f : Fields) : Nat := ((Instruction.ofFields? f).map Instruction.span).getD 0

end Chip8

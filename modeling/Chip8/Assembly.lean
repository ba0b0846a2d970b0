import Chip8.Instruction
import Chip8.Numeral

/-!
# Assembly text

An instruction as an assembler writes it. A word that names no instruction is written as three
question marks and its numeral, the sign and all digits of the word included.
-/

namespace Chip8

/-- The assembler's word for an operation on two registers. -/
def AluOp.mnemonic : AluOp → String
  | copy => "LD"
  | or => "OR"
  | and => "AND"
  | xor => "XOR"
  | add => "ADD"
  | sub => "SUB"
  | shiftRight => "SHR"
  | subFrom => "SUBN"
  | shiftLeft => "SHL"

namespace Assembly

/-- A register. -/
def register (x : Nibble) : String := "V" ++ hex 1 x.val

/-- A byte. -/
def byte (b : UInt8) : String := "$" ++ hex 2 b.toNat

/-- An address. -/
def address (a : Address) : String := "$" ++ hex 3 a.val

end Assembly

open Assembly in
/-- The text of an instruction. -/
def Instruction.text : Instruction → String
  | clear => "CLS"
  | ret => "RET"
  | jump a => "JP " ++ address a
  | call a => "CALL " ++ address a
  | skipIfByte x b => "SE " ++ register x ++ ", " ++ byte b
  | skipUnlessByte x b => "SNE " ++ register x ++ ", " ++ byte b
  | skipIfSame x y => "SE " ++ register x ++ ", " ++ register y
  | loadByte x b => "LD " ++ register x ++ ", " ++ byte b
  | addByte x b => "ADD " ++ register x ++ ", " ++ byte b
  | alu op x y => op.mnemonic ++ " " ++ register x ++ ", " ++ register y
  | skipUnlessSame x y => "SNE " ++ register x ++ ", " ++ register y
  | loadIndex a => "LD I, " ++ address a
  | jumpOffset a => "JP V0, " ++ address a
  | random x b => "RND " ++ register x ++ ", " ++ byte b
  | draw x y n => "DRW " ++ register x ++ ", " ++ register y ++ ", " ++ toString n.val
  | skipIfKey x => "SKP " ++ register x
  | skipUnlessKey x => "SKNP " ++ register x
  | readDelay x => "LD " ++ register x ++ ", DT"
  | waitKey x => "LD " ++ register x ++ ", K"
  | setDelay x => "LD DT, " ++ register x
  | setSound x => "LD ST, " ++ register x
  | addIndex x => "ADD I, " ++ register x
  | glyph x => "LD F, " ++ register x
  | digits x => "LD B, " ++ register x
  | store x => "LD [I], " ++ register x
  | load x => "LD " ++ register x ++ ", [I]"

/-- The text of a word. -/
def disassemble (w : Int) : String :=
  match Instruction.decode? w with
  | some i => i.text
  | none => "??? $" ++ hex 4 w

end Chip8

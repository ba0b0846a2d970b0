import Chip8.Assembly
import Mathlib.Logic.Basic

/-!
# Assembly text read back

The text of an instruction tells the instruction: it can be read back (`ofText?_text`), so no two
instructions have one text. A numeral is read digit by digit, whatever its width, and what an operand is
shows at its first character. No text begins with the marks of a word that names no instruction.
-/

namespace Chip8

/-! ### Numerals -/

/-- The number that a hexadecimal digit stands for. -/
def digitValue (c : Char) : Nat := if c.toNat < 58 then c.toNat - 48 else c.toNat - 55

theorem digitValue_hexDigit : ∀ d < 16, digitValue (hexDigit d) = d := by decide

/-- The number that digits stand for. -/
def numeralValue (base : Nat) (cs : List Char) : Nat := cs.foldl (fun n c => base * n + digitValue c) 0

theorem numeralValue_concat (base : Nat) (cs : List Char) (c : Char) :
    numeralValue base (cs ++ [c]) = base * numeralValue base cs + digitValue c := by
  rw [numeralValue, List.foldl_append]
  rfl

theorem numeralValue_zeroPad (base width : Nat) (cs : List Char) :
    numeralValue base (zeroPad width cs) = numeralValue base cs := by
  have hzeros : ∀ k, (List.replicate k '0').foldl (fun n c => base * n + digitValue c) 0 = 0 := by
    intro k
    induction k with
    | zero => rfl
    | succ k ih => rw [List.replicate_succ, List.foldl_cons, Nat.mul_zero]; exact ih
  rw [numeralValue, zeroPad, List.foldl_append, hzeros]
  rfl

/-- A hexadecimal numeral stands for its number. -/
theorem numeralValue_hexDigits (n : Nat) : numeralValue 16 (hexDigits n) = n := by
  fun_induction hexDigits n with
  | case1 n h => exact (Nat.zero_add _).trans (digitValue_hexDigit n h)
  | case2 n h ih =>
    rw [numeralValue_concat, ih, digitValue_hexDigit _ (Nat.mod_lt n (by decide))]
    omega

theorem toList_hex (width n : Nat) : (hex width n).toList = zeroPad width (hexDigits n) := by
  rw [hex, if_neg (by omega), String.toList_ofList, Int.natAbs_natCast]

theorem numeralValue_hex (width n : Nat) : numeralValue 16 (hex width n).toList = n := by
  rw [toList_hex, numeralValue_zeroPad, numeralValue_hexDigits]

namespace Assembly

theorem toList_register (x : Nibble) : (register x).toList = ['V', hexDigit x.val] := by
  rw [register, String.toList_append, toList_hex, hexDigits, if_pos x.isLt]
  rfl

theorem toList_byte (b : UInt8) : (byte b).toList = '$' :: (hex 2 b.toNat).toList :=
  String.toList_append

theorem toList_address (a : Address) : (address a).toList = '$' :: (hex 3 a.val).toList :=
  String.toList_append

/-- Reads a register. -/
def readRegister (c : Char) : Nibble := Nibble.ofNat (digitValue c)

/-- Reads a byte. -/
def readByte (cs : List Char) : UInt8 := UInt8.ofNat (numeralValue 16 cs)

/-- Reads an address. -/
def readAddress (cs : List Char) : Address :=
  ⟨numeralValue 16 cs % 4096, Nat.mod_lt _ (Nat.succ_pos 4095)⟩

theorem readRegister_hexDigit (x : Nibble) : readRegister (hexDigit x.val) = x := by
  rw [readRegister, digitValue_hexDigit x.val x.isLt, Nibble.ofNat, Fin.ofNat_val_eq_self]

theorem readByte_hex (b : UInt8) : readByte (hex 2 b.toNat).toList = b := by
  rw [readByte, numeralValue_hex, UInt8.ofNat_toNat]

theorem readAddress_hex (a : Address) : readAddress (hex 3 a.val).toList = a := by
  refine Fin.ext ?_
  show numeralValue 16 (hex 3 a.val).toList % 4096 = a.val
  rw [numeralValue_hex, Nat.mod_eq_of_lt a.isLt]

end Assembly

namespace Instruction

open Assembly

/-- The instruction with this text, if there is one. -/
def ofText? : List Char → Option Instruction
  | ['C', 'L', 'S'] => some clear
  | ['R', 'E', 'T'] => some ret
  | 'J' :: 'P' :: ' ' :: '$' :: a => some (jump (readAddress a))
  | 'J' :: 'P' :: ' ' :: 'V' :: '0' :: ',' :: ' ' :: '$' :: a => some (jumpOffset (readAddress a))
  | 'C' :: 'A' :: 'L' :: 'L' :: ' ' :: '$' :: a => some (call (readAddress a))
  | 'S' :: 'E' :: ' ' :: 'V' :: x :: ',' :: ' ' :: '$' :: b => some (skipIfByte (readRegister x) (readByte b))
  | ['S', 'E', ' ', 'V', x, ',', ' ', 'V', y] => some (skipIfSame (readRegister x) (readRegister y))
  | 'S' :: 'N' :: 'E' :: ' ' :: 'V' :: x :: ',' :: ' ' :: '$' :: b =>
    some (skipUnlessByte (readRegister x) (readByte b))
  | ['S', 'N', 'E', ' ', 'V', x, ',', ' ', 'V', y] => some (skipUnlessSame (readRegister x) (readRegister y))
  | 'L' :: 'D' :: ' ' :: 'V' :: x :: ',' :: ' ' :: '$' :: b => some (loadByte (readRegister x) (readByte b))
  | ['L', 'D', ' ', 'V', x, ',', ' ', 'V', y] => some (alu .copy (readRegister x) (readRegister y))
  | ['L', 'D', ' ', 'V', x, ',', ' ', 'D', 'T'] => some (readDelay (readRegister x))
  | ['L', 'D', ' ', 'V', x, ',', ' ', 'K'] => some (waitKey (readRegister x))
  | ['L', 'D', ' ', 'V', x, ',', ' ', '[', 'I', ']'] => some (load (readRegister x))
  | 'L' :: 'D' :: ' ' :: 'I' :: ',' :: ' ' :: '$' :: a => some (loadIndex (readAddress a))
  | ['L', 'D', ' ', 'D', 'T', ',', ' ', 'V', x] => some (setDelay (readRegister x))
  | ['L', 'D', ' ', 'S', 'T', ',', ' ', 'V', x] => some (setSound (readRegister x))
  | ['L', 'D', ' ', 'F', ',', ' ', 'V', x] => some (glyph (readRegister x))
  | ['L', 'D', ' ', 'B', ',', ' ', 'V', x] => some (digits (readRegister x))
  | ['L', 'D', ' ', '[', 'I', ']', ',', ' ', 'V', x] => some (store (readRegister x))
  | 'A' :: 'D' :: 'D' :: ' ' :: 'V' :: x :: ',' :: ' ' :: '$' :: b =>
    some (addByte (readRegister x) (readByte b))
  | ['A', 'D', 'D', ' ', 'V', x, ',', ' ', 'V', y] => some (alu .add (readRegister x) (readRegister y))
  | ['A', 'D', 'D', ' ', 'I', ',', ' ', 'V', x] => some (addIndex (readRegister x))
  | ['O', 'R', ' ', 'V', x, ',', ' ', 'V', y] => some (alu .or (readRegister x) (readRegister y))
  | ['A', 'N', 'D', ' ', 'V', x, ',', ' ', 'V', y] => some (alu .and (readRegister x) (readRegister y))
  | ['X', 'O', 'R', ' ', 'V', x, ',', ' ', 'V', y] => some (alu .xor (readRegister x) (readRegister y))
  | ['S', 'U', 'B', ' ', 'V', x, ',', ' ', 'V', y] => some (alu .sub (readRegister x) (readRegister y))
  | ['S', 'H', 'R', ' ', 'V', x, ',', ' ', 'V', y] => some (alu .shiftRight (readRegister x) (readRegister y))
  | ['S', 'U', 'B', 'N', ' ', 'V', x, ',', ' ', 'V', y] =>
    some (alu .subFrom (readRegister x) (readRegister y))
  | ['S', 'H', 'L', ' ', 'V', x, ',', ' ', 'V', y] => some (alu .shiftLeft (readRegister x) (readRegister y))
  | 'R' :: 'N' :: 'D' :: ' ' :: 'V' :: x :: ',' :: ' ' :: '$' :: b =>
    some (random (readRegister x) (readByte b))
  | 'D' :: 'R' :: 'W' :: ' ' :: 'V' :: x :: ',' :: ' ' :: 'V' :: y :: ',' :: ' ' :: n =>
    some (draw (readRegister x) (readRegister y) (Nibble.ofNat (numeralValue 10 n)))
  | ['S', 'K', 'P', ' ', 'V', x] => some (skipIfKey (readRegister x))
  | ['S', 'K', 'N', 'P', ' ', 'V', x] => some (skipUnlessKey (readRegister x))
  | _ => none

theorem numeralValue_toString : ∀ n : Nibble, Nibble.ofNat (numeralValue 10 (toString n.val).toList) = n := by
  decide

/-- **The text of an instruction can be read back.** -/
theorem ofText?_text (i : Instruction) : ofText? i.text.toList = some i := by
  have hx := readRegister_hexDigit
  cases i
  -- The text is a list of characters now, up to the digits in its numerals, and is read by computation.
  all_goals simp only [text, String.toList_append, toList_register, toList_byte, toList_address]
  case clear => rfl
  case ret => rfl
  case jump a => exact congrArg (some ∘ jump) (readAddress_hex a)
  case call a => exact congrArg (some ∘ call) (readAddress_hex a)
  case skipIfByte x b => exact congrArg some (congrArg₂ skipIfByte (hx x) (readByte_hex b))
  case skipUnlessByte x b => exact congrArg some (congrArg₂ skipUnlessByte (hx x) (readByte_hex b))
  case skipIfSame x y => exact congrArg some (congrArg₂ skipIfSame (hx x) (hx y))
  case loadByte x b => exact congrArg some (congrArg₂ loadByte (hx x) (readByte_hex b))
  case addByte x b => exact congrArg some (congrArg₂ addByte (hx x) (readByte_hex b))
  case alu op x y => cases op <;> exact congrArg some (congrArg₂ (alu _) (hx x) (hx y))
  case skipUnlessSame x y => exact congrArg some (congrArg₂ skipUnlessSame (hx x) (hx y))
  case loadIndex a => exact congrArg (some ∘ loadIndex) (readAddress_hex a)
  case jumpOffset a => exact congrArg (some ∘ jumpOffset) (readAddress_hex a)
  case random x b => exact congrArg some (congrArg₂ random (hx x) (readByte_hex b))
  case draw x y n =>
    have hn := numeralValue_toString n
    exact congrArg some (congr (congrArg₂ draw (hx x) (hx y)) hn)
  case skipIfKey x => exact congrArg (some ∘ skipIfKey) (hx x)
  case skipUnlessKey x => exact congrArg (some ∘ skipUnlessKey) (hx x)
  case readDelay x => exact congrArg (some ∘ readDelay) (hx x)
  case waitKey x => exact congrArg (some ∘ waitKey) (hx x)
  case setDelay x => exact congrArg (some ∘ setDelay) (hx x)
  case setSound x => exact congrArg (some ∘ setSound) (hx x)
  case addIndex x => exact congrArg (some ∘ addIndex) (hx x)
  case glyph x => exact congrArg (some ∘ glyph) (hx x)
  case digits x => exact congrArg (some ∘ digits) (hx x)
  case store x => exact congrArg (some ∘ store) (hx x)
  case load x => exact congrArg (some ∘ load) (hx x)

/-- No two instructions have one text. -/
theorem text_injective {i j : Instruction} (h : i.text = j.text) : i = j := by
  have hij : some i = some j := by rw [← ofText?_text i, ← ofText?_text j, h]
  exact Option.some.inj hij

/-- A text that can be read back does not begin with a question mark. -/
theorem text_ne_question (i : Instruction) (cs : List Char) : i.text.toList ≠ '?' :: cs := by
  intro h
  have hi := ofText?_text i
  rw [h] at hi
  cases hi

end Instruction

end Chip8

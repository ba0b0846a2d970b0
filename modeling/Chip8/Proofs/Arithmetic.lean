import Chip8.Proofs.Frame

/-!
# Arithmetic on two registers

What the operations on two registers compute, on natural numbers (`AluOp.Computes`): the byte of the result
and the flag together are the whole sum, the difference with what was borrowed, or the operand with the bit
that was shifted out. Copying and the logical operations leave the flag as it was.

The operands and the old flag are read before anything is written, and the result is written after the flag.
So it does not matter which of the three registers are the same: the register `x` holds the result, and the
flag register the flag, unless it is `x` (`execute_alu`).
-/

namespace Chip8

namespace AluOp

/-- The operation of a last nibble on the operands `a` and `b`, the flag being `g`, has the result `r` and
leaves the flag `f`. -/
def Computes (n : Nibble) (a b g r f : UInt8) : Prop :=
  match n.val with
  | 0x0 => r = b ∧ f = g
  | 0x1 => r = a ||| b ∧ f = g
  | 0x2 => r = a &&& b ∧ f = g
  | 0x3 => r = a ^^^ b ∧ f = g
  | 0x4 => r.toNat + 256 * f.toNat = a.toNat + b.toNat
  | 0x5 => f.toNat ≤ 1 ∧ (r.toNat + 256 * f.toNat : Int) = a.toNat - b.toNat + 256
  | 0x6 => f.toNat ≤ 1 ∧ a.toNat = 2 * r.toNat + f.toNat
  | 0x7 => f.toNat ≤ 1 ∧ (r.toNat + 256 * f.toNat : Int) = b.toNat - a.toNat + 256
  | 0xE => 2 * a.toNat = r.toNat + 256 * f.toNat
  | _ => False

/-! ### The operations on bytes -/

theorem toNat_flag (p : Prop) [Decidable p] : (flag (decide p)).toNat = if p then 1 else 0 := by
  by_cases h : p <;> simp [flag, h]

/-- A sum is the byte and the carry. -/
theorem add_carry (a b : UInt8) :
    (a + b).toNat + 256 * (flag (decide (255 < a.toNat + b.toNat))).toNat = a.toNat + b.toNat := by
  have ha := a.toNat_lt
  have hb := b.toNat_lt
  rw [toNat_flag, UInt8.toNat_add]
  split <;> omega

/-- A difference is the byte less what was borrowed, and nothing is borrowed if the flag is set. -/
theorem sub_borrow (a b : UInt8) :
    (flag (decide (b ≤ a))).toNat ≤ 1 ∧
      ((a - b).toNat + 256 * (flag (decide (b ≤ a))).toNat : Int) = a.toNat - b.toNat + 256 := by
  have ha := a.toNat_lt
  have hb := b.toNat_lt
  rw [toNat_flag, UInt8.toNat_sub]
  split <;> rename_i h <;> rw [UInt8.le_iff_toNat_le] at h <;> omega

/-- A byte is twice its upper bits and its lowest one. -/
theorem shiftRight_bit (a : UInt8) :
    (a &&& 1).toNat ≤ 1 ∧ a.toNat = 2 * (a >>> 1).toNat + (a &&& 1).toNat := by
  rw [UInt8.toNat_and, UInt8.toNat_shiftRight]
  simp only [UInt8.reduceToNat, Nat.reduceMod, Nat.and_one_is_mod, Nat.shiftRight_eq_div_pow]
  omega

/-- Twice a byte is the lower bits, moved up, and the highest one. -/
theorem shiftLeft_bit (a : UInt8) : 2 * a.toNat = (a <<< 1).toNat + 256 * (a >>> 7).toNat := by
  have ha := a.toNat_lt
  rw [UInt8.toNat_shiftLeft, UInt8.toNat_shiftRight]
  simp only [UInt8.reduceToNat, Nat.reduceMod, Nat.shiftLeft_eq, Nat.shiftRight_eq_div_pow]
  omega

/-- **An operation computes what its last nibble says.** -/
theorem computes_apply {n : Nibble} {op : AluOp} (h : ofNibble? n = some op) (a b g : UInt8) :
    Computes n a b g (op.apply a b g).1 (op.apply a b g).2 := by
  rw [ofNibble?_eq_some_iff] at h
  have hn : n.val = op.code.toNat := by omega
  unfold Computes
  rw [hn]
  cases op with
  | copy => exact ⟨rfl, rfl⟩
  | or => exact ⟨rfl, rfl⟩
  | and => exact ⟨rfl, rfl⟩
  | xor => exact ⟨rfl, rfl⟩
  | add => exact add_carry a b
  | sub => exact sub_borrow a b
  | shiftRight => exact shiftRight_bit a
  | subFrom => exact sub_borrow b a
  | shiftLeft => exact shiftLeft_bit a

/-- The last nibbles that name an operation. -/
theorem exists_of_nibble {n : Nibble} (h : n.val ≤ 7 ∨ n.val = 0xE) : ∃ op, ofNibble? n = some op := by
  rw [← Option.ne_none_iff_exists', Ne, Instruction.ofNibble?_eq_none_iff]
  exact fun hn => hn h

end AluOp

namespace Machine

open Instruction (HasForm)

theorem hasForm_alu {n : Nibble} {op : AluOp} (h : AluOp.ofNibble? n = some op) (x y : Nibble) :
    HasForm (wordOf 0x8 x y n) (.alu op x y) := by
  rw [AluOp.ofNibble?_eq_some_iff] at h
  exact ⟨firstNibble_wordOf _ _ _ _, (lastNibble_wordOf _ _ _ _).trans h, (secondNibble_wordOf _ _ _ _).symm,
    (thirdNibble_wordOf _ _ _ _).symm⟩

/-- The result is loaded after the flag. -/
theorem register_perform_alu_eq (m : Machine) (op : AluOp) (x y k : Nibble) :
    let out := op.apply (m.register x) (m.register y) (m.register flagRegister)
    (m.perform (.alu op x y)).register k =
      if k = x then out.1 else if k = flagRegister then out.2 else m.register k := by
  simp only [perform]
  rw [register_load, register_load]

/-- **An operation on two registers**, whichever of them are the same and whether or not one is the flag
register. It is performed on every machine; the result and the flag are what its last nibble says of what
the registers held before; the result is in the register `x`, the flag in the flag register unless that is
`x`, and nothing else is changed. -/
theorem execute_alu (m : Machine) (x y : Nibble) {n : Nibble} (hn : n.val ≤ 7 ∨ n.val = 0xE)
    (address : Int) :
    ∃ (r f : UInt8) (m' : Machine),
      m.execute (wordOf 0x8 x y n) address = .ok m' ∧
        AluOp.Computes n (m.register x) (m.register y) (m.register flagRegister) r f ∧
        (∀ k, m'.register k = if k = x then r else if k = flagRegister then f else m.register k) ∧
        m' = { m with v := m'.v } := by
  obtain ⟨op, hop⟩ := AluOp.exists_of_nibble hn
  have hexecute := execute_of_hasForm (m := m) (hasForm_alu hop x y) (fun hspan => absurd rfl hspan) address
  exact ⟨_, _, _, hexecute, AluOp.computes_apply hop _ _ _, m.register_perform_alu_eq op x y, rfl⟩

/-- A machine whose flag register holds 200. -/
def flagged200 : Machine := (start ⟨0, 0⟩).load flagRegister 200

/-- The flag register added to itself holds the sum less the carry, and not the carry. -/
theorem execute_alu_flag :
    ∃ m', flagged200.execute 0x8FF4 0x200 = .ok m' ∧ m'.register flagRegister = 144 := by
  obtain ⟨r, f, m', hm, hsum, hregister, -⟩ :=
    execute_alu flagged200 flagRegister flagRegister (n := 0x4) (.inl (by decide)) 0x200
  have hr := r.toNat_lt
  have h : r.toNat + 256 * f.toNat = 200 + 200 := hsum
  refine ⟨m', hm, ?_⟩
  rw [hregister, if_pos rfl]
  exact UInt8.toNat_inj.mp (by simp only [UInt8.reduceToNat]; omega)

end Machine

end Chip8

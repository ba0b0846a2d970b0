import Chip8.Proofs.Refusal
import Mathlib.Data.Int.Bitwise

/-!
# Splitting a word

The operands of a word are read off its bits with masks and shifts: before the checks from an integer of any
size and sign, a negative one being two's complement without end (`Operands.ofInt`), and once more from the 16
bits that are performed (`Operands.ofWord`). Both are the fields of the word, whose digits put together are
the integer modulo 65536 (`Operands.Splits`), so nothing of the 16 bits is lost and nothing beyond them is seen
(`Fields.ofInt_splits`). What passes the checks is therefore what is performed, although the one is decided by the
integer and the other done by its 16 bits.
-/

namespace Chip8

/-! ### Masks -/

/-- A bit of the low 16 bits is one of the integer. -/
theorem testBit_lowWord (w : Int) (i : Nat) :
    (lowWord w).testBit i = (decide (i < 16) && w.testBit i) := by
  cases w with
  | ofNat k =>
    have hlow : lowWord (.ofNat k) = k % 2 ^ 16 := by
      show ((k : Int) % 65536).toNat = _
      omega
    rw [hlow, Nat.testBit_mod_two_pow]
    rfl
  | negSucc k =>
    have hlow : lowWord (.negSucc k) = 2 ^ 16 - (k % 2 ^ 16 + 1) := by
      unfold lowWord
      omega
    rw [hlow, Nat.testBit_two_pow_sub_succ (Nat.mod_lt _ (by decide)), Nat.testBit_mod_two_pow]
    by_cases hi : i < 16 <;> simp [hi, Int.testBit]

/-- A mask of 16 bits takes from an integer what it takes from its low 16 bits. -/
theorem land_eq_and_lowWord (w : Int) {mask : Nat} (hmask : mask < 2 ^ 16) :
    Int.land w mask = (lowWord w &&& mask : Nat) := by
  obtain ⟨k, hk⟩ : ∃ k : Nat, Int.land w mask = k := by
    cases w <;> exact ⟨_, rfl⟩
  rw [hk, Int.ofNat_inj]
  apply Nat.eq_of_testBit_eq
  intro i
  have hbit : (Int.land w mask).testBit i = k.testBit i := by rw [hk]; rfl
  rw [← hbit, Int.testBit_land, Nat.testBit_and, testBit_lowWord]
  by_cases hi : i < 16
  · simp [hi, Int.testBit]
  · have hbeyond : mask.testBit i = false :=
      Nat.testBit_lt_two_pow (Nat.lt_of_lt_of_le hmask (Nat.pow_le_pow_right (by decide) (by omega)))
    simp [Int.testBit, hbeyond]

/-- A run of bits in the middle of a number, moved to its end, is a digit of it. -/
theorem and_shiftRight_eq (b size place : Nat) :
    (b &&& (2 ^ size - 1) <<< place) >>> place = b / 2 ^ place % 2 ^ size := by
  rw [Nat.shiftRight_and_distrib, Nat.shiftLeft_shiftRight, Nat.and_two_pow_sub_one_eq_mod,
    Nat.shiftRight_eq_div_pow]

/-! ### Operands -/

/-- The operands of a word, as numbers. -/
structure Operands where
  /-- The first nibble. -/
  category : Int
  /-- The second nibble. -/
  x : Int
  /-- The third nibble. -/
  y : Int
  /-- The fourth nibble. -/
  n : Int
  /-- The last byte. -/
  nn : Int
  /-- The last twelve bits. -/
  nnn : Int
deriving DecidableEq, Repr

/-- The fields of a word without the word itself. -/
def Fields.operands (f : Fields) : Operands :=
  ⟨f.category.val, f.x.val, f.y.val, f.n.val, f.nn.toNat, f.nnn.val⟩

namespace Operands

/-- The operands of an integer, by masks and shifts. -/
def ofInt (w : Int) : Operands where
  category := Int.land w 0xF000 >>> (12 : Nat)
  x := Int.land w 0x0F00 >>> (8 : Nat)
  y := Int.land w 0x00F0 >>> (4 : Nat)
  n := Int.land w 0x000F
  nn := Int.land w 0x00FF
  nnn := Int.land w 0x0FFF

/-- The operands of 16 bits, by masks and shifts of such. -/
def ofWord (w : UInt16) : Operands where
  category := ((w &&& 0xF000) >>> 12).toNat
  x := ((w &&& 0x0F00) >>> 8).toNat
  y := ((w &&& 0x00F0) >>> 4).toNat
  n := (w &&& 0x000F).toNat
  nn := (w &&& 0x00FF).toNat
  nnn := (w &&& 0x0FFF).toNat

/-- The operands fit together and make up the low 16 bits of an integer. -/
structure Splits (w : Int) (o : Operands) : Prop where
  category : 0 ≤ o.category ∧ o.category ≤ 0xF
  x : 0 ≤ o.x ∧ o.x ≤ 0xF
  y : 0 ≤ o.y ∧ o.y ≤ 0xF
  n : 0 ≤ o.n ∧ o.n ≤ 0xF
  nn : 0 ≤ o.nn ∧ o.nn ≤ 0xFF
  nnn : 0 ≤ o.nnn ∧ o.nnn ≤ 0xFFF
  nn_eq : o.nn = 16 * o.y + o.n
  nnn_eq : o.nnn = 256 * o.x + o.nn
  whole : 4096 * o.category + o.nnn = w % 65536

theorem splits_operands (w : Int) : (Fields.ofInt w).operands.Splits w := by
  have hcategory := Fields.category_ofInt w
  have hx := Fields.x_ofInt w
  have hy := Fields.y_ofInt w
  have hn := Fields.n_ofInt w
  have hnn := Fields.nn_ofInt w
  have hnnn := Fields.nnn_ofInt w
  unfold firstNibble at hcategory
  unfold secondNibble at hx
  unfold thirdNibble at hy
  unfold lastNibble at hn
  unfold lastByte at hnn
  unfold lastTwelve at hnnn
  constructor <;> simp only [Fields.operands, hcategory, hx, hy, hn, hnn, hnnn] <;> omega

/-- Operands that make up the same 16 bits are the same. -/
theorem Splits.ext {w w' : Int} {o o' : Operands} (h : o.Splits w) (h' : o'.Splits w')
    (hw : w % 65536 = w' % 65536) : o = o' := by
  obtain ⟨hcategory, hx, hy, hn, hnn, hnnn, h1, h2, h3⟩ := h
  obtain ⟨hcategory', hx', hy', hn', hnn', hnnn', h1', h2', h3'⟩ := h'
  have hwhole : o.nnn = o'.nnn ∧ o.category = o'.category := by omega
  have hlast : o.nn = o'.nn ∧ o.x = o'.x := by omega
  have hbyte : o.n = o'.n ∧ o.y = o'.y := by omega
  cases o
  cases o'
  simp_all

/-- The 16 bits that operands make up are those that they come from. -/
theorem operands_eq_iff (w w' : Int) :
    (Fields.ofInt w).operands = (Fields.ofInt w').operands ↔ w % 65536 = w' % 65536 := by
  refine ⟨fun h => ?_, (splits_operands w).ext (splits_operands w')⟩
  rw [← (splits_operands w).whole, h, (splits_operands w').whole]

/-- A run of ones as a mask takes a digit of the low 16 bits of an integer. -/
theorem land_shiftRight_eq (w : Int) {mask : Nat} (size place : Nat) (hrun : mask = (2 ^ size - 1) <<< place)
    (hmask : mask < 2 ^ 16) : Int.land w mask >>> place = (lowWord w / 2 ^ place % 2 ^ size : Nat) := by
  rw [land_eq_and_lowWord w hmask, ← and_shiftRight_eq, ← hrun]
  rfl

/-- A run of ones as a mask takes a digit of 16 bits. -/
theorem toNat_and_shiftRight_eq (w : UInt16) {mask shift : UInt16} (size place : Nat)
    (hrun : mask.toNat = (2 ^ size - 1) <<< place) (hshift : shift.toNat % 16 = place) :
    ((w &&& mask) >>> shift).toNat = w.toNat / 2 ^ place % 2 ^ size := by
  rw [UInt16.toNat_shiftRight, UInt16.toNat_and, hshift, hrun, and_shiftRight_eq]

theorem splits_ofInt (w : Int) : (ofInt w).Splits w := by
  have hlow : (lowWord w : Int) = w % 65536 := by
    unfold lowWord
    omega
  have hcategory : (ofInt w).category = _ := land_shiftRight_eq w 4 12 rfl (by decide)
  have hx : (ofInt w).x = _ := land_shiftRight_eq w 4 8 rfl (by decide)
  have hy : (ofInt w).y = _ := land_shiftRight_eq w 4 4 rfl (by decide)
  have hn : (ofInt w).n >>> (0 : Nat) = _ := land_shiftRight_eq w 4 0 rfl (by decide)
  have hnn : (ofInt w).nn >>> (0 : Nat) = _ := land_shiftRight_eq w 8 0 rfl (by decide)
  have hnnn : (ofInt w).nnn >>> (0 : Nat) = _ := land_shiftRight_eq w 12 0 rfl (by decide)
  rw [Int.shiftRight_zero] at hn hnn hnnn
  constructor <;> simp only [hcategory, hx, hy, hn, hnn, hnnn] <;> omega

theorem splits_ofWord (w : UInt16) : (ofWord w).Splits w.toNat := by
  have hlt := w.toNat_lt
  have hcategory : ((w &&& 0xF000) >>> 12).toNat = _ := toNat_and_shiftRight_eq w 4 12 rfl rfl
  have hx : ((w &&& 0x0F00) >>> 8).toNat = _ := toNat_and_shiftRight_eq w 4 8 rfl rfl
  have hy : ((w &&& 0x00F0) >>> 4).toNat = _ := toNat_and_shiftRight_eq w 4 4 rfl rfl
  have hn : ((w &&& 0x000F) >>> 0).toNat = _ := toNat_and_shiftRight_eq w 4 0 rfl rfl
  have hnn : ((w &&& 0x00FF) >>> 0).toNat = _ := toNat_and_shiftRight_eq w 8 0 rfl rfl
  have hnnn : ((w &&& 0x0FFF) >>> 0).toNat = _ := toNat_and_shiftRight_eq w 12 0 rfl rfl
  rw [UInt16.shiftRight_zero] at hn hnn hnnn
  constructor <;> simp only [ofWord, hcategory, hx, hy, hn, hnn, hnnn] <;> omega

end Operands

/-! ### The 16 bits of an integer -/

theorem toNat_ofInt (w : Int) : ((UInt16.ofInt w).toNat : Int) = w % 65536 := by
  unfold UInt16.ofInt
  rw [UInt16.toNat_ofNat']
  omega

section digits

variable (w : Int)

@[simp] theorem firstNibble_emod : firstNibble (w % 65536) = firstNibble w := by
  unfold firstNibble
  omega

@[simp] theorem secondNibble_emod : secondNibble (w % 65536) = secondNibble w := by
  unfold secondNibble
  omega

@[simp] theorem thirdNibble_emod : thirdNibble (w % 65536) = thirdNibble w := by
  unfold thirdNibble
  omega

@[simp] theorem lastNibble_emod : lastNibble (w % 65536) = lastNibble w := by
  unfold lastNibble
  omega

@[simp] theorem lastByte_emod : lastByte (w % 65536) = lastByte w := by
  unfold lastByte
  omega

@[simp] theorem lastTwelve_emod : lastTwelve (w % 65536) = lastTwelve w := by
  unfold lastTwelve
  omega

end digits

/-- The 16 bits of an integer touch as many bytes. -/
theorem span_toNat_ofInt (w : Int) : (Fields.ofInt (UInt16.ofInt w).toNat).span = (Fields.ofInt w).span := by
  rw [Instruction.span_ofInt, Instruction.span_ofInt, toNat_ofInt]
  simp [Instruction.reach]

/-- The 16 bits of a word that names an instruction name it, too. -/
theorem decode?_toNat_ofInt {w : Int} {i : Instruction} (h : Instruction.decode? w = some i) :
    Instruction.decode? (UInt16.ofInt w).toNat = some i := by
  have hform := Instruction.hasForm_of_decode? h
  apply Instruction.decode?_of_hasForm
  rw [toNat_ofInt]
  cases i with
  | clear => cases (show w = 0x00E0 from hform); rfl
  | ret => cases (show w = 0x00EE from hform); rfl
  | _ => simpa [Instruction.HasForm] using hform

/-- What passes the checks for an integer is performed for its 16 bits. -/
theorem Machine.dispatch_ofInt {m : Machine} {w address : Int} {i : Instruction}
    (h : m.check w address = .ok i) : m.dispatch (UInt16.ofInt w) = m.perform i :=
  m.dispatch_of_decode? (decode?_toNat_ofInt (Machine.check_eq_ok_iff.mp h).1)

/-- **A word is split faithfully**, whatever integer it is. Its fields are what masks and shifts take from the
integer, and they are digits that put together are the integer modulo 65536. So two integers have the same
operands exactly if they are congruent, and the checks see of an integer what is then performed of its 16 bits:
the same operands, as many bytes from the index on, and the same instruction. -/
theorem Fields.ofInt_splits (w : Int) :
    (Fields.ofInt w).raw = w ∧
    (Fields.ofInt w).operands = .ofInt w ∧
    (Operands.ofInt w).Splits w ∧
    (∀ w', (Fields.ofInt w).operands = (Fields.ofInt w').operands ↔ w % 65536 = w' % 65536) ∧
    (Fields.ofInt w).operands = .ofWord (UInt16.ofInt w) ∧
    (Fields.ofInt w).operands = (Fields.ofInt (UInt16.ofInt w).toNat).operands ∧
    (Fields.ofInt w).span = (Fields.ofInt (UInt16.ofInt w).toNat).span ∧
    ∀ (m : Machine) (address : Int) (i : Instruction),
      m.check w address = .ok i → m.dispatch (UInt16.ofInt w) = m.perform i := by
  have hbits : w % 65536 = ((UInt16.ofInt w).toNat : Int) % 65536 := by
    rw [toNat_ofInt, Int.emod_emod]
  refine ⟨rfl, ?masks, Operands.splits_ofInt w, Operands.operands_eq_iff w, ?word, ?bits, ?span, ?checks⟩
  case masks => exact (Operands.splits_operands w).ext (Operands.splits_ofInt w) rfl
  case word => exact (Operands.splits_operands w).ext (Operands.splits_ofWord _) hbits
  case bits => exact (Operands.operands_eq_iff w _).mpr hbits
  case span => exact (span_toNat_ofInt w).symm
  case checks => exact fun m address i h => Machine.dispatch_ofInt h

/-- A negative integer is split like its 16 bits, and what the checks let through is performed for these. -/
theorem Fields.ofInt_splits_negative :
    (Fields.ofInt (-0x0FAB)).operands = ⟨0xF, 0x0, 0x5, 0x5, 0x55, 0x055⟩ ∧
      (Fields.ofInt (-0x0FAB)).span = (Fields.ofInt 0xF055).span ∧
      (Machine.start ⟨0, 0⟩).dispatch 0xF055 = (Machine.start ⟨0, 0⟩).perform (.store 0) := by
  obtain ⟨-, -, -, -, -, hbits, hspan, hchecks⟩ := Fields.ofInt_splits (-0x0FAB)
  have hpassed := hchecks (Machine.start ⟨0, 0⟩) 0x200 (.store 0) (by decide +kernel)
  exact ⟨hbits.trans (by decide), hspan, hpassed⟩

end Chip8

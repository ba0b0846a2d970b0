import Chip8.Proofs.Frame

/-!
# Where the program goes

A step moves past its word and performs it, and the instruction may move the program counter again: by one
more word, back by one, or to an address of its own. Together these come to the address that the word and
the machine before the step tell (`nextAddress`), on natural numbers: nothing wraps around.

Which words skip, and when, is `condition?`. The skips come in pairs that ask the same the other way round,
so that of each pair exactly one skips on any machine.
-/

namespace Chip8.Machine

open Instruction (decode? HasForm)

/-! ### Skips -/

/-- The byte in the register that the second nibble of a word names. -/
def firstOperand (m : Machine) (w : Int) : UInt8 := m.register (Nibble.ofNat (secondNibble w).toNat)

/-- The byte in the register that the third nibble of a word names. -/
def secondOperand (m : Machine) (w : Int) : UInt8 := m.register (Nibble.ofNat (thirdNibble w).toNat)

/-- Whether the key is down that the last nibble of a byte names. -/
def keyOf (m : Machine) (b : UInt8) : Bool := m.keypad.get ⟨b.toNat % 16, Nat.mod_lt _ (by decide)⟩

/-- The condition under which a word skips, if it is a skip. -/
def condition? (m : Machine) (w : Int) : Option Bool :=
  if firstNibble w = 0x3 then some (decide ((m.firstOperand w).toNat = lastByte w))
  else if firstNibble w = 0x4 then some (decide ((m.firstOperand w).toNat ≠ lastByte w))
  else if firstNibble w = 0x5 then some (decide (m.firstOperand w = m.secondOperand w))
  else if firstNibble w = 0x9 then some (decide (m.firstOperand w ≠ m.secondOperand w))
  else if firstNibble w = 0xE ∧ lastByte w = 0x9E then some (m.keyOf (m.firstOperand w))
  else if firstNibble w = 0xE ∧ lastByte w = 0xA1 then some !(m.keyOf (m.firstOperand w))
  else none

/-- The address after a step, before which the machine is `m` and the word at the program counter is
`w`. -/
def nextAddress (m : Machine) (w : Int) : Int :=
  if firstNibble w = 0x1 ∨ firstNibble w = 0x2 then lastTwelve w
  else if firstNibble w = 0xB then lastTwelve w + (m.register (Nibble.ofNat 0)).toNat
  else if w = 0x00EE then (m.stack.slot (m.stack.pointer.toNat - 1)).toNat
  else if (firstNibble w = 0xF ∧ lastByte w = 0x0A) ∧ ∀ key : Nibble, m.keypad.get key = false then m.pc.toNat
  else if m.condition? w = some true then m.pc.toNat + 4
  else m.pc.toNat + 2

theorem firstOperand_eq (m : Machine) {w : Int} {x : Nibble} (hx : (x.val : Int) = secondNibble w) :
    m.firstOperand w = m.register x := by
  rw [firstOperand, ← hx, Int.toNat_natCast, Nibble.ofNat, Fin.ofNat_val_eq_self]

theorem secondOperand_eq (m : Machine) {w : Int} {y : Nibble} (hy : (y.val : Int) = thirdNibble w) :
    m.secondOperand w = m.register y := by
  rw [secondOperand, ← hy, Int.toNat_natCast, Nibble.ofNat, Fin.ofNat_val_eq_self]

theorem keyOf_register (m : Machine) (x : Nibble) : m.keyOf (m.register x) = m.keyDown x := rfl

/-- The condition under which an instruction skips, if it is a skip. -/
def skip? (m : Machine) : Instruction → Option Bool
  | .skipIfByte x b => some (m.register x == b)
  | .skipUnlessByte x b => some (m.register x != b)
  | .skipIfSame x y => some (m.register x == m.register y)
  | .skipUnlessSame x y => some (m.register x != m.register y)
  | .skipIfKey x => some (m.keyDown x)
  | .skipUnlessKey x => some !(m.keyDown x)
  | _ => none

/-- A skip is performed as one. -/
theorem perform_of_skip? {m : Machine} {i : Instruction} {c : Bool} (h : m.skip? i = some c) :
    m.perform i = m.skipWhen c := by
  cases i <;> cases h <;> rfl

/-- **A word skips as its instruction does.** -/
theorem condition?_eq (m : Machine) {w : Int} {i : Instruction} (hw : HasForm w i) :
    m.condition? w = m.skip? i := by
  have hbyte (a b : UInt8) : ((a.toNat : Int) = b.toNat) = (a = b) := by
    rw [Int.ofNat_inj, UInt8.toNat_inj]
  have hbeq (a b : UInt8) : (a == b) = decide (a = b) := rfl
  cases i with
  | clear =>
    cases (show w = 0x00E0 from hw)
    rfl
  | ret =>
    cases (show w = 0x00EE from hw)
    rfl
  | skipIfByte x b =>
    simp [condition?, skip?, hw.1, firstOperand_eq m hw.2.1, ← hw.2.2, hbyte, hbeq]
  | skipUnlessByte x b =>
    simp [condition?, skip?, hw.1, firstOperand_eq m hw.2.1, ← hw.2.2, hbyte, bne, hbeq]
  | skipIfSame x y =>
    simp [condition?, skip?, hw.1, firstOperand_eq m hw.2.1, secondOperand_eq m hw.2.2, hbeq]
  | skipUnlessSame x y =>
    simp [condition?, skip?, hw.1, firstOperand_eq m hw.2.1, secondOperand_eq m hw.2.2, bne, hbeq]
  | skipIfKey x =>
    simp [condition?, skip?, hw.1, hw.2.1, firstOperand_eq m hw.2.2, keyOf_register]
  | skipUnlessKey x =>
    simp [condition?, skip?, hw.1, hw.2.1, firstOperand_eq m hw.2.2, keyOf_register]
  | _ => simp [condition?, skip?, hw.1]

/-! ### A step -/

/-- The address after a step that performs an instruction. -/
def addressAfter (m : Machine) : Instruction → Int
  | .ret => (m.stack.slot (m.stack.pointer.toNat - 1)).toNat
  | .jump a => a.val
  | .call a => a.val
  | .jumpOffset a => a.val + (m.register (Nibble.ofNat 0)).toNat
  | .waitKey _ => if ∀ key : Nibble, m.keypad.get key = false then m.pc.toNat else m.pc.toNat + 2
  | i => if m.skip? i = some true then m.pc.toNat + 4 else m.pc.toNat + 2

/-- **The address that a word tells is the one that its instruction tells.** -/
theorem nextAddress_eq (m : Machine) {w : Int} {i : Instruction} (hw : HasForm w i) :
    m.nextAddress w = m.addressAfter i := by
  have hret : firstNibble w ≠ 0 → w ≠ 0x00EE := by
    rintro h rfl
    exact h rfl
  rw [nextAddress, condition?_eq m hw]
  cases i with
  | clear =>
    cases (show w = 0x00E0 from hw)
    rfl
  | ret =>
    cases (show w = 0x00EE from hw)
    rfl
  | jump a => rw [if_pos (.inl hw.1), ← hw.2, addressAfter]
  | call a => rw [if_pos (.inr hw.1), ← hw.2, addressAfter]
  | jumpOffset a => simp [hw.1, ← hw.2, addressAfter]
  | waitKey x => simp [hw.1, hw.2.1, hret, addressAfter, skip?]
  | _ => simp [hw.1, hw.2, hret, addressAfter]

/-- **Where an instruction goes** that is performed behind its word. -/
theorem toNat_pc_perform_fetch {m : Machine} (hpc : m.pc.toNat + 1 < 4096) {i : Instruction}
    (hi : m.fetch.1.Allows i) : ((m.fetch.1.perform i).pc.toNat : Int) = m.addressAfter i := by
  have hfetch : m.fetch.1.pc.toNat = m.pc.toNat + 2 := toNat_pc_fetch (by omega)
  have hnext : (m.fetch.1.pc.toNat : Int) = m.pc.toNat + 2 := congrArg Nat.cast hfetch
  have hskip (c : Bool) : ((m.fetch.1.skipWhen c).pc.toNat : Int) =
      if some c = some true then (m.pc.toNat + 4 : Int) else m.pc.toNat + 2 := by
    rw [toNat_pc_skipWhen (by omega), hfetch]
    cases c <;> rfl
  -- The largest target is the last address with the largest offset, so no target is cut to 16 bits.
  have htarget {a : Nat} (ha : a < 0x10000) : (UInt16.ofNat a).toNat = a := by
    rw [UInt16.toNat_ofNat', Nat.mod_eq_of_lt ha]
  cases i with
  | ret =>
    have hp : (m.stack.pointer - 1).toNat = m.stack.pointer.toNat - 1 :=
      CallStack.toNat_pointer_pop hi
    show ((m.stack.slot (m.stack.pointer - 1).toNat).toNat : Int) = _
    rw [hp, addressAfter]
  | jump a => exact congrArg Nat.cast (htarget (a := a.val) (by omega))
  | call a => exact congrArg Nat.cast (htarget (a := a.val) (by omega))
  | jumpOffset a =>
    have hv := (m.register (Nibble.ofNat 0)).toNat_lt
    exact congrArg Nat.cast (htarget (a := a.val + (m.register (Nibble.ofNat 0)).toNat) (by omega))
  | waitKey x =>
    rcases perform_waitKey m.fetch.1 x with ⟨key, hdown, h⟩ | ⟨hup, h⟩ <;> rw [h, addressAfter]
    · rw [if_neg fun hup => Bool.false_ne_true ((hup key).symm.trans (Keypad.get_of_lowest? hdown))]
      exact hnext
    · have hle : 2 ≤ m.fetch.1.pc :=
        UInt16.le_iff_toNat_le.mpr (hfetch.symm ▸ Nat.le_add_left 2 m.pc.toNat)
      have hback : (m.fetch.1.pc - 2).toNat = m.pc.toNat := by
        rw [UInt16.toNat_sub_of_le _ _ hle, hfetch]
        rfl
      rw [if_pos (Keypad.lowest?_eq_none_iff (k := m.keypad).mp hup)]
      exact congrArg Nat.cast hback
  | skipIfByte x b => exact hskip _
  | skipUnlessByte x b => exact hskip _
  | skipIfSame x y => exact hskip _
  | skipUnlessSame x y => exact hskip _
  | skipIfKey x => exact hskip _
  | skipUnlessKey x => exact hskip _
  | _ => exact hnext

/-! ### Skips in pairs -/

/-- Two words that skip under opposite conditions. -/
inductive Opposite : Int → Int → Prop
  /-- `3xnn` and `4xnn`. -/
  | byte (x high low : Nibble) : Opposite (wordOf 0x3 x high low) (wordOf 0x4 x high low)
  /-- `5xyn` and `9xyn`, whatever the last nibbles are. -/
  | register (x y n n' : Nibble) : Opposite (wordOf 0x5 x y n) (wordOf 0x9 x y n')
  /-- `Ex9E` and `ExA1`. -/
  | key (x : Nibble) : Opposite (wordOf 0xE x 0x9 0xE) (wordOf 0xE x 0xA 0x1)

theorem condition?_of_opposite (m : Machine) {w w' : Int} (h : Opposite w w') :
    ∃ c, m.condition? w = some c ∧ m.condition? w' = some !c := by
  cases h with
  | byte x high low =>
    have hb : ((UInt8.ofNat (0x10 * high + low)).toNat : Int) = 0x10 * high.val + low.val := by
      rw [UInt8.toNat_ofNat', Nat.mod_eq_of_lt (by omega)]
      rfl
    have hw (first : Nibble) : firstNibble (wordOf first x high low) = first.val ∧
        (x.val : Int) = secondNibble (wordOf first x high low) ∧
        ((UInt8.ofNat (0x10 * high + low)).toNat : Int) = lastByte (wordOf first x high low) :=
      ⟨firstNibble_wordOf _ _ _ _, (secondNibble_wordOf _ _ _ _).symm,
        hb.trans (lastByte_wordOf _ _ _ _).symm⟩
    exact ⟨_, condition?_eq (i := .skipIfByte x _) m (hw 0x3),
      condition?_eq (i := .skipUnlessByte x _) m (hw 0x4)⟩
  | register x y n n' =>
    have hw (first n : Nibble) : firstNibble (wordOf first x y n) = first.val ∧
        (x.val : Int) = secondNibble (wordOf first x y n) ∧
        (y.val : Int) = thirdNibble (wordOf first x y n) :=
      ⟨firstNibble_wordOf _ _ _ _, (secondNibble_wordOf _ _ _ _).symm,
        (thirdNibble_wordOf _ _ _ _).symm⟩
    exact ⟨_, condition?_eq (i := .skipIfSame x y) m (hw 0x5 n),
      condition?_eq (i := .skipUnlessSame x y) m (hw 0x9 n')⟩
  | key x =>
    have hw (third last : Nibble) : firstNibble (wordOf 0xE x third last) = 0xE ∧
        lastByte (wordOf 0xE x third last) = 0x10 * third.val + last.val ∧
        (x.val : Int) = secondNibble (wordOf 0xE x third last) :=
      ⟨firstNibble_wordOf _ _ _ _, lastByte_wordOf _ _ _ _, (secondNibble_wordOf _ _ _ _).symm⟩
    exact ⟨_, condition?_eq (i := .skipIfKey x) m (hw 0x9 0xE),
      condition?_eq (i := .skipUnlessKey x) m (hw 0xA 0x1)⟩

theorem bounds_of_opposite {w w' : Int} (h : Opposite w w') :
    (0 ≤ w ∧ w < 0x10000) ∧ 0 ≤ w' ∧ w' < 0x10000 := by
  cases h <;> exact ⟨wordOf_bounds _ _ _ _, wordOf_bounds _ _ _ _⟩

/-- A word that is a skip is performed as one, on any machine. -/
theorem execute_of_condition? {m : Machine} {w : Int} (hw : 0 ≤ w ∧ w < 0x10000) {c : Bool}
    (h : m.condition? w = some c) (address : Int) : m.execute w address = .ok (m.skipWhen c) := by
  have hd : decode? w ≠ none := by
    rw [Ne, Instruction.decode?_eq_none_iff]
    rintro (hu | hu | hu | hu) <;> simp [condition?, hu] at h
  obtain ⟨i, hi⟩ := Option.ne_none_iff_exists'.mp hd
  rw [condition?_eq m (Instruction.hasForm_of_decode? hi)] at h
  have ha : m.Allows i := by
    cases i <;> cases h <;> exact fun hs => absurd rfl hs
  exact execute_eq_ok_iff.mpr ⟨hw, i, hi, ha, (perform_of_skip? h).symm⟩

/-- **The net effect on the program counter.** After a step it is where the word says. Of two opposite
skips each can be performed on any machine, and exactly one of them skips. -/
theorem step_pc_and_opposite_skips (m : Machine) :
    (∀ m', m.step = .ok m' → (m'.pc.toNat : Int) = m.nextAddress m.word.toNat) ∧
      ∀ (w w' address : Int), Opposite w w' →
        ∃ c, m.condition? w = some c ∧ m.condition? w' = some (!c) ∧
          m.execute w address = .ok (if c then { m with pc := m.pc + 2 } else m) ∧
          m.execute w' address = .ok (if c then m else { m with pc := m.pc + 2 }) := by
  have hskip (c : Bool) : m.skipWhen c = if c then { m with pc := m.pc + 2 } else m := by
    cases c with
    | true => rfl
    | false => rw [skipWhen, if_neg Bool.false_ne_true, UInt16.add_zero, if_neg Bool.false_ne_true]
  constructor
  · intro m' h
    obtain ⟨hpc, i, hi, ha, rfl⟩ := step_eq_ok_iff.mp h
    rw [nextAddress_eq m (Instruction.hasForm_of_decode? hi)]
    exact toNat_pc_perform_fetch hpc ha
  · intro w w' address h
    obtain ⟨c, hc, hc'⟩ := m.condition?_of_opposite h
    obtain ⟨hw, hw'⟩ := bounds_of_opposite h
    refine ⟨c, hc, hc', ?_, ?_⟩
    · rw [execute_of_condition? hw hc, hskip]
    · rw [execute_of_condition? hw' hc', hskip]
      cases c <;> rfl

/-- A machine at the last address where a word can be. The word there skips if the key is down that the
last nibble of a register names, and it is. -/
def atEnd : Machine :=
  { (start ⟨0, 0⟩).load (Nibble.ofNat 3) 0x1F with
    memory := Memory.blank.store 0xFFE [0xE3, 0x9E]
    pc := 0xFFE
    keypad := Keypad.released.press ⟨Nibble.ofNat 15, true⟩ }

/-- The skip goes past the end of memory without turning around, and the opposite one does not skip. -/
theorem step_pc_atEnd :
    (∃ m', atEnd.step = .ok m' ∧ m'.pc.toNat = 0x1002) ∧ atEnd.execute 0xE3A1 0xFFE = .ok atEnd := by
  have hword : (atEnd.word.toNat : Int) = 0xE39E := by decide +kernel
  have hdown : atEnd.condition? 0xE39E = some true := by decide
  constructor
  · have hm : atEnd.step = .ok (atEnd.fetch.1.perform (.skipIfKey 3)) :=
      step_eq_ok_iff.mpr ⟨by decide, .skipIfKey 3, hword ▸ rfl, fun hspan => absurd rfl hspan, rfl⟩
    have hpc := (step_pc_and_opposite_skips atEnd).1 _ hm
    have hnext : atEnd.nextAddress 0xE39E = 0x1002 := by decide
    rw [hword] at hpc
    exact ⟨_, hm, by omega⟩
  · obtain ⟨c, hc, -, -, hopposite⟩ :=
      (step_pc_and_opposite_skips atEnd).2 0xE39E 0xE3A1 0xFFE (Opposite.key 0x3)
    rw [hdown] at hc
    cases hc
    exact hopposite

end Chip8.Machine

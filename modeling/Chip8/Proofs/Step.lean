import Chip8.Machine.Step
import Chip8.Proofs.CallStack
import Chip8.Proofs.Decoding
import Chip8.Proofs.Display
import Chip8.Proofs.Memory

/-!
# One step, taken apart

What a check lets through and what a step that succeeds has done: it has moved past a word within
memory that names an instruction, and performed that instruction (`step_eq_ok_iff`). For the fields of
the machine that the later results speak of, what an instruction does to each.
-/

namespace Chip8.Machine

open Instruction (decode? HasForm)

/-! ### What a check lets through -/

/-- The instruction has the stack and the memory that it needs: a return has an address to go back to,
a call has a slot to use, and what is touched from the index on is memory. -/
def Allows (m : Machine) : Instruction → Prop
  | .ret => m.stack.pointer ≠ 0
  | .call _ => m.stack.pointer.toNat < 16
  | i => i.span ≠ 0 → m.i.toNat + i.span ≤ 4096

/-- What is reported of an instruction that does not have what it needs. -/
def faultOf (m : Machine) (address : Int) : Instruction → Fault
  | .ret => .stackUnderflow address
  | .call _ => .stackOverflow address
  | i => .memoryAccess (m.i.toNat + i.span - 1) address

/-- A word that names an instruction is let through or reported as that instruction says. -/
theorem check_of_decode? (m : Machine) {w : Int} {i : Instruction} (h : decode? w = some i)
    (address : Int) :
    m.Allows i ∧ m.check w address = .ok i ∨
      ¬ m.Allows i ∧ m.check w address = .error (m.faultOf address i) := by
  unfold check
  rw [h]
  cases i with
  | ret =>
    by_cases hp : m.stack.pointer = 0
    · exact .inr ⟨fun ha => ha hp, if_pos hp⟩
    · exact .inl ⟨hp, if_neg hp⟩
  | call a =>
    by_cases hp : 16 ≤ m.stack.pointer.toNat
    · exact .inr ⟨Nat.not_lt.mpr hp, if_pos hp⟩
    · exact .inl ⟨Nat.lt_of_not_le hp, if_neg hp⟩
  | _ =>
    refine (Classical.em _).imp (fun ha => ⟨ha, if_neg fun hs => ?_⟩) fun ha => ⟨ha, if_pos ?_⟩
    · exact absurd (ha hs.1) (Nat.not_le.mpr hs.2)
    · exact (Classical.not_imp.mp ha).imp id Nat.lt_of_not_le

theorem check_eq_ok_iff {m : Machine} {w address : Int} {i : Instruction} :
    m.check w address = .ok i ↔ decode? w = some i ∧ m.Allows i := by
  constructor
  · intro h
    cases hd : decode? w with
    | none =>
      unfold check at h
      rw [hd] at h
      cases h
    | some j =>
      rcases m.check_of_decode? hd address with ⟨ha, hj⟩ | ⟨-, hj⟩ <;> rw [hj] at h <;> cases h
      exact ⟨rfl, ha⟩
  · rintro ⟨hd, ha⟩
    rcases m.check_of_decode? hd address with ⟨-, h⟩ | ⟨hn, -⟩
    · exact h
    · exact absurd ha hn

/-- **What a word given from outside has done** when it succeeds. -/
theorem execute_eq_ok_iff {m m' : Machine} {w address : Int} :
    m.execute w address = .ok m' ↔
      (0 ≤ w ∧ w < 0x10000) ∧ ∃ i, decode? w = some i ∧ m.Allows i ∧ m' = m.perform i := by
  unfold execute
  constructor
  · intro h
    cases hc : m.check w address with
    | error f =>
      rw [hc] at h
      cases h
    | ok i =>
      rw [hc] at h
      obtain ⟨hd, ha⟩ := check_eq_ok_iff.mp hc
      by_cases hw : 0 ≤ w ∧ w < 0x10000
      · simp only [if_pos hw] at h
        cases h
        exact ⟨hw, i, hd, ha, rfl⟩
      · simp only [if_neg hw] at h
        cases h
  · rintro ⟨hw, i, hd, ha, rfl⟩
    rw [check_eq_ok_iff.mpr ⟨hd, ha⟩]
    exact if_pos hw

/-- A word made of nibbles that has the form of an instruction is performed where there is what it needs. -/
theorem execute_of_hasForm {m : Machine} {a b c d : Nibble} {i : Instruction}
    (h : HasForm (wordOf a b c d) i) (ha : m.Allows i) (address : Int) :
    m.execute (wordOf a b c d) address = .ok (m.perform i) :=
  execute_eq_ok_iff.mpr ⟨wordOf_bounds a b c d, i, Instruction.decode?_of_hasForm h, ha, rfl⟩

/-- A word of 16 bits that names an instruction is performed, or reported as the instruction says. -/
theorem execute_of_decode? (m : Machine) {w : Int} (hw : 0 ≤ w ∧ w < 0x10000) {i : Instruction}
    (h : decode? w = some i) (address : Int) :
    m.Allows i ∧ m.execute w address = .ok (m.perform i) ∨
      ¬ m.Allows i ∧ m.execute w address = .error (.fault (m.faultOf address i)) := by
  unfold execute
  rcases m.check_of_decode? h address with ⟨ha, hc⟩ | ⟨ha, hc⟩ <;> rw [hc]
  · exact .inl ⟨ha, if_pos hw⟩
  · exact .inr ⟨ha, rfl⟩

/-! ### The step -/

/-- A word that crosses the end of memory is not fetched. -/
theorem step_of_le {m : Machine} (h : 4096 ≤ m.pc.toNat + 1) :
    m.step = .error (.memoryAccess (m.pc.toNat + 1) m.pc.toNat) := if_pos h

/-- A word within memory is fetched, checked and performed. -/
theorem step_of_lt {m : Machine} (h : m.pc.toNat + 1 < 4096) :
    m.step = match m.fetch.1.check m.word.toNat m.pc.toNat with
      | .error f => .error f
      | .ok i => .ok (m.fetch.1.perform i) := if_neg (Nat.not_le.mpr h)

/-- **What a step that succeeds has done.** -/
theorem step_eq_ok_iff {m m' : Machine} :
    m.step = .ok m' ↔ m.pc.toNat + 1 < 4096 ∧ ∃ i, decode? m.word.toNat = some i ∧
      m.fetch.1.Allows i ∧ m' = m.fetch.1.perform i := by
  by_cases hpc : m.pc.toNat + 1 < 4096
  · rw [step_of_lt hpc]
    constructor
    · intro h
      cases hc : m.fetch.1.check m.word.toNat m.pc.toNat with
      | error f =>
        rw [hc] at h
        cases h
      | ok i =>
        rw [hc] at h
        cases h
        obtain ⟨hd, ha⟩ := check_eq_ok_iff.mp hc
        exact ⟨hpc, i, hd, ha, rfl⟩
    · rintro ⟨-, i, hd, ha, rfl⟩
      rw [check_eq_ok_iff.mpr ⟨hd, ha⟩]
  · rw [step_of_le (Nat.not_lt.mp hpc)]
    constructor
    · intro h
      cases h
    · exact fun h => absurd h.1 hpc

/-- A word within memory that names an instruction is performed, or reported as the instruction says. -/
theorem step_of_decode? {m : Machine} (h : m.pc.toNat + 1 < 4096) {i : Instruction}
    (hd : decode? m.word.toNat = some i) :
    m.fetch.1.Allows i ∧ m.step = .ok (m.fetch.1.perform i) ∨
      ¬ m.fetch.1.Allows i ∧ m.step = .error (m.fetch.1.faultOf m.pc.toNat i) := by
  rw [step_of_lt h]
  rcases m.fetch.1.check_of_decode? hd m.pc.toNat with ⟨ha, hc⟩ | ⟨ha, hc⟩ <;> rw [hc]
  · exact .inl ⟨ha, rfl⟩
  · exact .inr ⟨ha, rfl⟩

theorem toNat_pc_fetch {m : Machine} (h : m.pc.toNat + 2 < 65536) :
    m.fetch.1.pc.toNat = m.pc.toNat + 2 := by
  simp only [fetch, UInt16.toNat_add, UInt16.reduceToNat]
  omega

/-- The high byte of a word is at the program counter, the low byte behind it. -/
theorem toNat_word {m : Machine} (h : m.pc.toNat + 1 < 65536) :
    m.word.toNat = 256 * (m.memory.read m.pc.toNat).toNat + (m.memory.read (m.pc.toNat + 1)).toNat := by
  have hpc : (m.pc + 1).toNat = m.pc.toNat + 1 := by
    simp only [UInt16.toNat_add, UInt16.reduceToNat]
    omega
  unfold word
  rw [hpc]
  generalize m.memory.read m.pc.toNat = high
  generalize m.memory.read (m.pc.toNat + 1) = low
  have hh := high.toNat_lt
  have hl := low.toNat_lt
  rw [UInt16.toNat_or, UInt16.toNat_shiftLeft]
  simp only [UInt8.toNat_toUInt16, UInt16.reduceToNat, Nat.reduceMod]
  rw [Nat.mod_eq_of_lt (by rw [Nat.shiftLeft_eq]; omega), ← Nat.shiftLeft_add_eq_or_of_lt hl,
    Nat.shiftLeft_eq]
  omega

/-! ### What an instruction does to a field

The machine is taken apart first: to compare a field of two machines Lean would else compare the
machines, and compute what it need not. -/

/-- Only calls and returns move the stack. -/
theorem stack_perform (m : Machine) {i : Instruction} (hr : i ≠ .ret) (hc : ∀ a, i ≠ .call a) :
    (m.perform i).stack = m.stack := by
  obtain ⟨rng, memory, pc, display, dirty, stack, delay, sound, keypad, v, index⟩ := m
  show _ = stack
  cases i with
  | ret => exact absurd rfl hr
  | call a => exact absurd rfl (hc a)
  | waitKey x =>
    simp only [perform]
    split <;> rfl
  | _ => rfl

/-- An instruction that is let through leaves the stack alone, or pushes an address where there is room,
or pops one that is there and goes to it. -/
theorem stack_perform_cases {m : Machine} {i : Instruction} (hi : m.Allows i) :
    (m.perform i).stack = m.stack ∨
      (∃ a, m.stack.pointer.toNat < 16 ∧ (m.perform i).stack = m.stack.push a) ∨
      (m.stack.pointer ≠ 0 ∧ (m.perform i).stack = m.stack.pop.1 ∧
        (m.perform i).pc = m.stack.pop.2) := by
  by_cases hr : i = .ret
  · subst hr
    exact .inr (.inr ⟨hi, rfl, rfl⟩)
  · by_cases hc : ∃ a, i = .call a
    · obtain ⟨a, rfl⟩ := hc
      exact .inr (.inl ⟨m.pc, hi, rfl⟩)
    · exact .inl (stack_perform m hr fun a h => hc ⟨a, h⟩)

/-- An instruction keeps a binary display binary. -/
theorem binary_perform {m : Machine} (h : m.display.Binary) (i : Instruction) :
    (m.perform i).display.Binary := by
  obtain ⟨rng, memory, pc, display, dirty, stack, delay, sound, keypad, v, index⟩ := m
  change display.Binary at h
  cases i with
  | clear => exact Display.binary_blank
  | draw x y n => exact h.draw _ _ _ _
  | waitKey x =>
    simp only [perform]
    split <;> exact h
  | _ => exact h

theorem toNat_pc_skipWhen {m : Machine} (h : m.pc.toNat + 2 < 65536) (c : Bool) :
    (m.skipWhen c).pc.toNat = m.pc.toNat + if c then 2 else 0 := by
  cases c <;> simp only [skipWhen, UInt16.toNat_add, Bool.false_eq_true, if_true, if_false,
    UInt16.reduceToNat]
  all_goals omega

/-- **Where the program counter can be**: after a fetch within memory, an instruction takes it no
further than the last address with the largest offset. -/
theorem toNat_pc_perform_le {m : Machine} {i : Instruction} (h2 : 2 ≤ m.pc.toNat)
    (h : m.pc.toNat ≤ 0x1000) (hr : i = .ret → m.stack.pop.2.toNat ≤ 0xFFF) :
    (m.perform i).pc.toNat ≤ 0x10FE := by
  have hskip : ∀ c, (m.skipWhen c).pc.toNat ≤ 0x10FE := by
    intro c
    rw [toNat_pc_skipWhen (by omega)]
    split <;> omega
  cases i with
  | skipIfByte x b => exact hskip _
  | skipUnlessByte x b => exact hskip _
  | skipIfSame x y => exact hskip _
  | skipUnlessSame x y => exact hskip _
  | skipIfKey x => exact hskip _
  | skipUnlessKey x => exact hskip _
  | ret => exact Nat.le_trans (hr rfl) (by decide)
  | jump a =>
    have ha := a.isLt
    simp only [perform, UInt16.toNat_ofNat']
    omega
  | call a =>
    have ha := a.isLt
    simp only [perform, UInt16.toNat_ofNat']
    omega
  | jumpOffset a =>
    have ha := a.isLt
    have hv := (m.register (Nibble.ofNat 0)).toNat_lt
    simp only [perform, UInt16.toNat_ofNat']
    omega
  | waitKey x =>
    have h2' : (2 : UInt16) ≤ m.pc := UInt16.le_iff_toNat_le.mpr h2
    simp only [perform]
    split
    · exact Nat.le_trans h (by decide)
    · rw [UInt16.toNat_sub_of_le _ _ h2']
      omega
  | _ =>
    obtain ⟨rng, memory, pc, display, dirty, stack, delay, sound, keypad, v, index⟩ := m
    exact Nat.le_trans h (by decide)

end Chip8.Machine

import Chip8.Proofs.Decoding
import Chip8.Proofs.Step

/-!
# What is refused

The table of refusals: which word is refused on which machine, with which fault, said on the word as an
integer (`fault?`, `refusal?`). The first line of the table that applies is the one reported. A word
that is at fault in no way but does not fit in 16 bits is refused last, and any other is performed.

The table is that of the checks line by line, once a word that names an instruction is known to be let
through or reported as the instruction says (`fault?_of_decode?`, beside `check_of_decode?`).
-/

namespace Chip8.Machine

open Instruction (decode? Unassigned reach)

/-! ### The table -/

/-- What is at fault with a word at an address, if anything. -/
def fault? (m : Machine) (w address : Int) : Option Fault :=
  if Unassigned w then some (.unknownOpcode w address)
  else if w = 0x00EE ∧ m.stack.pointer = 0 then some (.stackUnderflow address)
  else if firstNibble w = 2 ∧ 16 ≤ m.stack.pointer.toNat then some (.stackOverflow address)
  else if 0 < reach w ∧ 4096 < m.i.toNat + reach w then
    some (.memoryAccess (m.i.toNat + reach w - 1) address)
  else none

/-- Why a word given from outside is refused, if it is. -/
def refusal? (m : Machine) (w address : Int) : Option Refusal :=
  match m.fault? w address with
  | some f => some (.fault f)
  | none => if 0 ≤ w ∧ w ≤ 0xFFFF then none else some (.tooWide w)

/-! ### The checks keep to the table -/

/-- For a word that names an instruction, the table says what the instruction needs. -/
theorem fault?_of_decode? (m : Machine) {w : Int} {i : Instruction} (h : decode? w = some i)
    (address : Int) :
    m.Allows i ∧ m.fault? w address = none ∨
      ¬ m.Allows i ∧ m.fault? w address = some (m.faultOf address i) := by
  have hassigned : ¬ Unassigned w := by
    rw [← Instruction.decode?_eq_none_iff, h]
    exact Option.some_ne_none i
  have hret : w = 0x00EE ↔ i = .ret := by
    rw [← Instruction.decode?_eq_ret_iff, h, Option.some_inj]
  have hcall : firstNibble w = 2 ↔ ∃ a, i = .call a := by
    rw [← Instruction.decode?_eq_call_iff]
    simp only [h, Option.some_inj]
  have hspan := Instruction.span_of_decode? h
  unfold fault?
  rw [if_neg hassigned]
  -- Each instruction has one line of the table left that can apply to it.
  cases i with
  | ret =>
    have hw := hret.mpr rfl
    by_cases hp : m.stack.pointer = 0
    · exact .inr ⟨fun ha => ha hp, if_pos ⟨hw, hp⟩⟩
    · refine .inl ⟨hp, ?_⟩
      rw [if_neg fun hc => hp hc.2, if_neg fun hc => by simpa using hcall.mp hc.1,
        if_neg fun hc => Nat.ne_of_lt hc.1 hspan]
  | call a =>
    have hw := hcall.mpr ⟨a, rfl⟩
    rw [if_neg fun hc => by simpa using hret.mp hc.1]
    by_cases hp : 16 ≤ m.stack.pointer.toNat
    · exact .inr ⟨Nat.not_lt.mpr hp, if_pos ⟨hw, hp⟩⟩
    · refine .inl ⟨Nat.lt_of_not_le hp, ?_⟩
      rw [if_neg fun hc => hp hc.2, if_neg fun hc => Nat.ne_of_lt hc.1 hspan]
  | _ =>
    rw [if_neg fun hc => by simpa using hret.mp hc.1, if_neg fun hc => by simpa using hcall.mp hc.1,
      ← hspan]
    refine (Classical.em _).imp (fun ha => ⟨ha, if_neg fun hs => ?_⟩) fun ha => ⟨ha, if_pos ?_⟩
    · exact absurd (ha (Nat.ne_of_gt hs.1)) (Nat.not_le.mpr hs.2)
    · exact (Classical.not_imp.mp ha).imp Nat.pos_of_ne_zero Nat.lt_of_not_le

/-- A check reports what the table says, and lets through an instruction that the word names. -/
theorem check_eq (m : Machine) (w address : Int) :
    (∃ f, m.check w address = .error f ∧ m.fault? w address = some f) ∨
      ∃ i, m.check w address = .ok i ∧ m.fault? w address = none ∧ decode? w = some i := by
  cases hd : decode? w with
  | none =>
    refine .inl ⟨.unknownOpcode w address, ?_, if_pos ((Instruction.decode?_eq_none_iff w).mp hd)⟩
    unfold check
    rw [hd]
  | some i =>
    rcases m.check_of_decode? hd address with ⟨ha, hc⟩ | ⟨ha, hc⟩
    · rcases m.fault?_of_decode? hd address with ⟨-, hf⟩ | ⟨hn, -⟩
      · exact .inr ⟨i, hc, hf, rfl⟩
      · exact absurd ha hn
    · rcases m.fault?_of_decode? hd address with ⟨hn, -⟩ | ⟨-, hf⟩
      · exact absurd hn ha
      · exact .inl ⟨m.faultOf address i, hc, hf⟩

/-- A word that names an instruction is dispatched to it. -/
theorem dispatch_of_decode? (m : Machine) {w : UInt16} {i : Instruction}
    (h : decode? w.toNat = some i) : m.dispatch w = m.perform i := by
  unfold dispatch
  rw [h]

/-- A word given from outside is refused as the table says, or dispatched. -/
theorem execute_eq (m : Machine) (w address : Int) :
    m.execute w address = match m.refusal? w address with
      | some r => .error r
      | none => .ok (m.dispatch (UInt16.ofNat w.toNat)) := by
  unfold execute refusal?
  rcases m.check_eq w address with ⟨f, hc, hf⟩ | ⟨i, hc, hf, hd⟩
  · rw [hc, hf]
  · rw [hc, hf]
    by_cases hw : 0 ≤ w ∧ w ≤ 0xFFFF
    · have hround : ((UInt16.ofNat w.toNat).toNat : Int) = w := by
        rw [UInt16.toNat_ofNat']
        omega
      have hperform := m.dispatch_of_decode? (w := UInt16.ofNat w.toNat) (by rwa [hround])
      simp only [if_pos hw, if_pos (show 0 ≤ w ∧ w < 0x10000 by omega), hperform]
    · simp only [if_neg hw, if_neg (show ¬ (0 ≤ w ∧ w < 0x10000) by omega)]

/-- A word within memory is refused as the table says, or dispatched by the machine past it. -/
theorem step_eq {m : Machine} (h : m.pc.toNat + 1 < 4096) :
    m.step = match m.fault? m.word.toNat m.pc.toNat with
      | some f => .error f
      | none => .ok (m.fetch.1.dispatch m.word) := by
  rw [step_of_lt h, show m.fault? = m.fetch.1.fault? from rfl]
  rcases m.fetch.1.check_eq m.word.toNat m.pc.toNat with ⟨f, hc, hf⟩ | ⟨i, hc, hf, hd⟩
  · rw [hc, hf]
  · rw [hc, hf, dispatch_of_decode? _ hd]

/-- A step onto a word within memory fails as the table says. -/
theorem step_eq_error_iff {m : Machine} (h : m.pc.toNat + 1 < 4096) {f : Fault} :
    m.step = .error f ↔ m.fault? m.word.toNat m.pc.toNat = some f := by
  rw [step_eq h]
  cases m.fault? m.word.toNat m.pc.toNat with
  | none => exact ⟨fun he => (by cases he), fun he => (by cases he)⟩
  | some g => exact ⟨fun he => (by cases he; rfl), fun he => (by cases he; rfl)⟩

/-- No word within memory is reported as one that crosses its end. -/
theorem fault?_ne_crossing {m : Machine} (h : m.pc.toNat + 1 < 4096) (w : Int) :
    m.fault? w m.pc.toNat ≠ some (.memoryAccess (m.pc.toNat + 1) m.pc.toNat) := by
  unfold fault?
  split_ifs with hu hr hc hs
  all_goals intro he
  all_goals simp only [Option.some_inj, Fault.memoryAccess.injEq, reduceCtorEq] at he
  omega

/-- A step reports a word that crosses the end of memory exactly when the word does. -/
theorem step_eq_crossing_iff {m : Machine} :
    m.step = .error (.memoryAccess (m.pc.toNat + 1) m.pc.toNat) ↔ 4096 ≤ m.pc.toNat + 1 := by
  by_cases h : m.pc.toNat + 1 < 4096
  · refine iff_of_false (fun he => ?_) (Nat.not_le.mpr h)
    rw [step_eq h] at he
    cases hf : m.fault? m.word.toNat m.pc.toNat with
    | none =>
      rw [hf] at he
      cases he
    | some f =>
      rw [hf] at he
      cases he
      exact fault?_ne_crossing h _ hf
  · exact iff_of_true (step_of_le (Nat.not_lt.mp h)) (Nat.not_lt.mp h)

/-- **When an instruction fails, and how**: given from outside it is refused exactly as the table says
and dispatched otherwise; at the program counter it is refused if it crosses the end of memory, and
otherwise exactly as the table says of the two bytes there, the address being that of the first. -/
theorem refused_iff (m : Machine) :
    (∀ w address : Int,
      (∀ r, m.execute w address = .error r ↔ m.refusal? w address = some r) ∧
      ∀ m', m.execute w address = .ok m' ↔
        m.refusal? w address = none ∧ m' = m.dispatch (UInt16.ofNat w.toNat)) ∧
    (m.step = .error (.memoryAccess (m.pc.toNat + 1) m.pc.toNat) ↔ 4096 ≤ m.pc.toNat + 1) ∧
    ∀ (h : m.pc.toNat + 1 < 4096) (w : UInt16),
      w.toNat = 256 * m.memory[m.pc.toNat].toNat + m.memory[m.pc.toNat + 1].toNat →
      (∀ f, m.step = .error f ↔ m.fault? w.toNat m.pc.toNat = some f) ∧
      ∀ m', m.step = .ok m' ↔
        m.fault? w.toNat m.pc.toNat = none ∧ m' = { m with pc := m.pc + 2 }.dispatch w := by
  refine ⟨fun w address => ?_, ?_, fun h w hw => ?_⟩
  · rw [execute_eq]
    cases m.refusal? w address <;> simp [eq_comm]
  · exact step_eq_crossing_iff
  · have hword : w = m.word := by
      refine UInt16.toNat_inj.mp ?_
      rw [hw, toNat_word (by omega), Memory.read_of_lt _ h, Memory.read_of_lt _ (by omega)]
    subst hword
    rw [step_eq h]
    cases m.fault? m.word.toNat m.pc.toNat <;> simp [eq_comm, fetch]

/-- Without a program, the first word is zero and names no instruction. -/
theorem refused_start : (start ⟨0, 0⟩).step = .error (.unknownOpcode 0 0x200) := by
  have h := (refused_iff (start ⟨0, 0⟩)).2.2 (by decide) 0 (by decide +kernel)
  exact (h.1 _).mpr (by decide +kernel)

end Chip8.Machine

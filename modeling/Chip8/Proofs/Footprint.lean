import Chip8.Proofs.Step

/-!
# The bytes that matter

The bytes from the index on, as many as the span of the word says, are all of memory that an instruction
depends on and all that it changes. A drawing reads fifteen bytes and a block transfer sixteen, past the
span and even past the end of memory. What is read past the span is masked out, or written back where it
was read, or dropped with the write past the end.

Two machines that differ in memory alone are run side by side: if they agree on the span they are
refused alike, or both succeed and differ in memory alone again.
-/

namespace Chip8.Machine

open Instruction (decode?)
open Memory (AgreeOn Within)

/-- The machines differ in memory alone. -/
def SameButMemory (m m' : Machine) : Prop := m' = { m with memory := m'.memory }

/-! ### What is written -/

/-- Only the digits and the registers are written to memory. -/
theorem memory_perform (m : Machine) {i : Instruction} (hd : ∀ x, i ≠ .digits x)
    (hs : ∀ x, i ≠ .store x) : (m.perform i).memory = m.memory := by
  obtain ⟨rng, memory, pc, display, dirty, stack, delay, sound, keypad, v, index⟩ := m
  show _ = memory
  cases i with
  | digits x => exact absurd rfl (hd x)
  | store x => exact absurd rfl (hs x)
  | waitKey x =>
    simp only [perform]
    split <;> rfl
  | _ => rfl

/-- The digits are where they are stored, everything else is as it was. -/
theorem read_perform_digits (m : Machine) (x : Nibble) {k : Nat} (hk : k < 4096) :
    (m.perform (.digits x)).memory.read k =
      if Within m.i.toNat 3 k then (decimalDigits (m.register x)).getD (k - m.i.toNat) 0
      else m.memory.read k :=
  Memory.read_store m.memory m.i.toNat (decimalDigits (m.register x)) hk

theorem getD_registersOver (m : Machine) (x : Nibble) {k : Nat} (hk : k < 16) :
    (m.registersOver x).getD k 0 =
      if k ≤ x.val then m.register ⟨k, hk⟩ else m.memory.read (m.i.toNat + k) := by
  have hlen : k < (List.finRange 16).length := by rwa [List.length_finRange]
  rw [List.getD_eq_getElem?_getD, registersOver, List.getElem?_map, List.getElem?_eq_getElem hlen,
    List.getElem_finRange]
  rfl

/-- **The registers are where they are stored**, everything else is as it was: a byte past them is
written back where it was read. -/
theorem read_perform_store (m : Machine) (x : Nibble) {k : Nat} (hk : k < 4096) :
    (m.perform (.store x)).memory.read k =
      if Within m.i.toNat (x.val + 1) k then m.register (Nibble.ofNat (k - m.i.toNat))
      else m.memory.read k := by
  have hx := x.isLt
  have hlen : (m.registersOver x).length = 16 := by simp [registersOver]
  have hread : (m.perform (.store x)).memory.read k =
      if m.i.toNat ≤ k ∧ k < m.i.toNat + 16 then (m.registersOver x).getD (k - m.i.toNat) 0
      else m.memory.read k := hlen ▸ Memory.read_store m.memory m.i.toNat (m.registersOver x) hk
  rw [hread]
  by_cases hin : m.i.toNat ≤ k ∧ k < m.i.toNat + 16
  · have hlane : k - m.i.toNat < 16 := by omega
    rw [if_pos hin, getD_registersOver m x hlane]
    -- A lane past `x` holds the very byte that it is written over.
    by_cases hw : Within m.i.toNat (x.val + 1) k
    · have hle : k - m.i.toNat ≤ x.val := by have := hw.2; omega
      have hreg : Nibble.ofNat (k - m.i.toNat) = ⟨k - m.i.toNat, hlane⟩ :=
        Fin.ext (Nat.mod_eq_of_lt hlane)
      rw [if_pos hle, if_pos hw, hreg]
    · have hgt : ¬ k - m.i.toNat ≤ x.val := fun hle => hw ⟨hin.1, by omega⟩
      rw [if_neg hgt, if_neg hw, show m.i.toNat + (k - m.i.toNat) = k by omega]
  · have hw : ¬ Within m.i.toNat (x.val + 1) k := fun hw => hin ⟨hw.1, by have := hw.2; omega⟩
    rw [if_neg hin, if_neg hw]

/-- **What an instruction writes**: nothing, or its whole span, with bytes that memory has no part in. -/
theorem memory_perform_cases (m : Machine) (i : Instruction) :
    (∀ memory, ({ m with memory }.perform i).memory = memory) ∨
      ∃ byte : Nat → UInt8, ∀ memory k, k < 4096 →
        ({ m with memory }.perform i).memory.read k =
          if Within m.i.toNat i.span k then byte k else memory.read k := by
  by_cases hd : ∃ x, i = .digits x
  · obtain ⟨x, rfl⟩ := hd
    exact .inr ⟨fun k => (decimalDigits (m.register x)).getD (k - m.i.toNat) 0,
      fun memory k hk => read_perform_digits { m with memory } x hk⟩
  · by_cases hs : ∃ x, i = .store x
    · obtain ⟨x, rfl⟩ := hs
      exact .inr ⟨fun k => m.register (Nibble.ofNat (k - m.i.toNat)),
        fun memory k hk => read_perform_store { m with memory } x hk⟩
    · exact .inl fun memory =>
        memory_perform { m with memory } (fun x h => hd ⟨x, h⟩) fun x h => hs ⟨x, h⟩

/-- No instruction writes outside of its span. -/
theorem agreeOn_perform (m : Machine) (i : Instruction) :
    AgreeOn (fun k => ¬ Within m.i.toNat i.span k) (m.perform i).memory m.memory := by
  rcases m.memory_perform_cases i with h | ⟨byte, h⟩
  · rw [show (m.perform i).memory = m.memory from h m.memory]
    exact AgreeOn.refl _ _
  · exact Memory.agreeOn_of_read fun k hk hout => (h m.memory k hk).trans (if_neg hout)

/-- What an instruction leaves in its span depends on memory only there. -/
theorem agreeOn_perform_perform {m : Machine} {memory : Memory} (i : Instruction)
    (h : AgreeOn (Within m.i.toNat i.span) m.memory memory) :
    AgreeOn (Within m.i.toNat i.span) (m.perform i).memory
      ({ m with memory }.perform i).memory := by
  rcases m.memory_perform_cases i with hw | ⟨byte, hw⟩
  · rw [hw memory, show (m.perform i).memory = m.memory from hw m.memory]
    exact h
  · refine Memory.agreeOn_of_read fun k hk hin => ?_
    have h₁ : (m.perform i).memory.read k = byte k := (hw m.memory k hk).trans (if_pos hin)
    have h₂ : ({ m with memory }.perform i).memory.read k = byte k :=
      (hw memory k hk).trans (if_pos hin)
    rw [h₁, h₂]

/-! ### What is read -/

/-- Blocks of memories that agree on a sprite have the same rows of it. -/
theorem sameRows_block {memory memory' : Memory} {a n : Nat} (hn : n ≤ Display.maxSpriteRows)
    (hend : n ≠ 0 → a + n ≤ 4096) (h : AgreeOn (Within a n) memory memory') :
    Display.SameRows n (memory.block a Display.maxSpriteRows)
      (memory'.block a Display.maxSpriteRows) := by
  intro row hrow
  have hle := hend (Nat.ne_of_gt (Nat.zero_lt_of_lt hrow))
  rw [Memory.getElem?_block _ (Nat.lt_of_lt_of_le hrow hn),
    Memory.getElem?_block _ (Nat.lt_of_lt_of_le hrow hn)]
  exact congrArg some (h.read (by omega) ⟨by omega, by omega⟩)

/-- **No instruction that is let through reads outside of its span**, as far as anything but memory
shows. -/
theorem sameButMemory_perform {m : Machine} {memory : Memory} {i : Instruction} (hi : m.Allows i)
    (h : AgreeOn (Within m.i.toNat i.span) m.memory memory) :
    SameButMemory (m.perform i) ({ m with memory }.perform i) := by
  obtain ⟨rng, memory₀, pc, display, dirty, stack, delay, sound, keypad, v, index⟩ := m
  change AgreeOn (Within index.toNat i.span) memory₀ memory at h
  cases i with
  | draw x y n =>
    have hrows := sameRows_block (Nat.le_of_lt_succ n.isLt) hi h
    simp only [SameButMemory, perform, register, Machine.load, Display.draw_congr hrows,
      Display.collides_congr hrows]
  | load x =>
    have hle : index.toNat + (x.val + 1) ≤ 4096 := hi (Nat.succ_ne_zero _)
    have hread : ∀ k : Fin 16, k.val ≤ x.val →
        memory₀.read (index.toNat + k.val) = memory.read (index.toNat + k.val) :=
      fun k hk => h.read (by omega) ⟨by omega, show _ < index.toNat + (x.val + 1) by omega⟩
    have hv : ∀ k : Fin 16,
        (if k.val ≤ x.val then memory₀.read (index.toNat + k.val) else v.get k) =
          if k.val ≤ x.val then memory.read (index.toNat + k.val) else v.get k := by
      intro k
      by_cases hk : k.val ≤ x.val
      · rw [if_pos hk, if_pos hk, hread k hk]
      · rw [if_neg hk, if_neg hk]
    simp only [SameButMemory, perform, register, hv]
  | waitKey x =>
    simp only [SameButMemory, perform]
    split <;> rfl
  | _ => rfl

/-! ### Two runs -/

/-- A check does not look at memory. -/
theorem check_withMemory (m : Machine) (memory : Memory) (w address : Int) :
    { m with memory }.check w address = m.check w address := rfl

/-- **A word depends on its span and changes its span only**: on machines that differ in memory alone and
agree there it is refused alike, or it is performed on both; then they differ in memory alone again, agree
on the span, and have the memory they had outside of it. -/
theorem execute_footprint {m m' : Machine} {w : Int} (address : Int) (hs : SameButMemory m m')
    (h : AgreeOn (Within m.i.toNat (Fields.ofInt w).span) m.memory m'.memory) :
    (∃ r, m.execute w address = .error r ∧ m'.execute w address = .error r) ∨
      ∃ n n', m.execute w address = .ok n ∧ m'.execute w address = .ok n' ∧ SameButMemory n n' ∧
        AgreeOn (Within m.i.toNat (Fields.ofInt w).span) n.memory n'.memory ∧
        AgreeOn (fun k => ¬ Within m.i.toNat (Fields.ofInt w).span k) n.memory m.memory ∧
        AgreeOn (fun k => ¬ Within m.i.toNat (Fields.ofInt w).span k) n'.memory m'.memory := by
  obtain ⟨memory, rfl⟩ : ∃ memory, m' = { m with memory } := ⟨m'.memory, hs⟩
  change AgreeOn _ m.memory memory at h
  cases hc : m.check w address with
  | error f =>
    refine .inl ⟨.fault f, ?_, ?_⟩
    · simp only [execute, hc]
    · simp only [execute, check_withMemory, hc]
  | ok i =>
    obtain ⟨hd, hi⟩ := check_eq_ok_iff.mp hc
    have hspan : (Fields.ofInt w).span = i.span := by
      rw [Fields.span, show Instruction.ofFields? (Fields.ofInt w) = some i from hd]
      rfl
    rw [hspan] at h ⊢
    by_cases hw : 0 ≤ w ∧ w < 0x10000
    · refine .inr ⟨m.perform i, { m with memory }.perform i, ?_, ?_, sameButMemory_perform hi h,
        agreeOn_perform_perform i h, agreeOn_perform m i, agreeOn_perform { m with memory } i⟩
      · simp only [execute, hc, if_pos hw]
      · simp only [execute, check_withMemory, hc, if_pos hw]
    · refine .inl ⟨.tooWide w, ?_, ?_⟩
      · simp only [execute, hc, if_neg hw]
      · simp only [execute, check_withMemory, hc, if_neg hw]

/-- A machine whose index is just before the end of memory. -/
def nearEnd : Machine := { start ⟨0, 0⟩ with i := 0xFFE }

/-- The same with another last byte. -/
def nearEnd' : Machine := { nearEnd with memory := Memory.blank.setIfInBounds 4095 0xFF }

/-- A sprite of one row is drawn alike on both, though all rows past the first one are read from the last
byte. -/
theorem execute_footprint_nearEnd :
    ∃ n n', nearEnd.execute 0xD001 0x200 = .ok n ∧ nearEnd'.execute 0xD001 0x200 = .ok n' ∧
      n'.display = n.display := by
  have hspan : (Fields.ofInt 0xD001).span = 1 := by decide
  have hagree : AgreeOn (Within nearEnd.i.toNat (Fields.ofInt 0xD001).span) nearEnd.memory
      nearEnd'.memory := by
    rw [hspan]
    refine Memory.agreeOn_of_read fun k hk hin => ?_
    have hlt : k < 0xFFE + 1 := hin.2
    exact ((Memory.read_setIfInBounds _ _ _ hk).trans (if_neg (by omega))).symm
  have hok : (nearEnd.execute 0xD001 0x200).isOk = true := by decide +kernel
  have hsame : SameButMemory nearEnd nearEnd' := rfl
  rcases execute_footprint 0x200 hsame hagree with ⟨r, hr, -⟩ | ⟨n, n', hn, hn', hs, -⟩
  · rw [hr] at hok
    cases hok
  · have hd : n'.display = n.display := by rw [hs]
    exact ⟨n, n', hn, hn', hd⟩

end Chip8.Machine

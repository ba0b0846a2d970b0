import Chip8.Proofs.Frame

/-!
# Registers and digits by way of memory

A store of the registers up to `x` and a load of as many are inverse to each other, in both orders: what was
stored is loaded again, whatever the registers were in between, and what was loaded is stored where it was.
The three digits of a register are stored in the order in which they are loaded, the highest first.

Each transfer is first said by itself, as what it leaves in memory or in the registers (`Stored`, `Loaded`,
`DigitsStored`). They touch as many bytes as they transfer, although all sixteen are read, and written back,
up to the end of memory. So the last bytes of memory are like any others.
-/

namespace Chip8.Machine

open Instruction (HasForm)
open Memory (AgreeOn Within)

/-- The machines differ in their registers alone. -/
def SameButRegisters (m m' : Machine) : Prop := m' = { m with v := m'.v }

/-! ### One transfer -/

/-- The registers up to `x` of `m` are in the memory of `m'`, from the index on. -/
structure Stored (m m' : Machine) (x : Nibble) : Prop where
  rest : SameButMemory m m'
  /-- A register is where it is stored. -/
  held : ∀ k : Nibble, k.val ≤ x.val → m'.memory.read (m.i.toNat + k.val) = m.register k
  /-- All other bytes are as they were. -/
  outside : AgreeOn (fun a => ¬ Within m.i.toNat (x.val + 1) a) m'.memory m.memory

/-- The registers up to `x` of `m'` are from the memory of `m`, from the index on. -/
structure Loaded (m m' : Machine) (x : Nibble) : Prop where
  rest : SameButRegisters m m'
  /-- A register holds what is loaded into it. -/
  held : ∀ k : Nibble, k.val ≤ x.val → m'.register k = m.memory.read (m.i.toNat + k.val)
  /-- All other registers are as they were. -/
  outside : ∀ k : Nibble, x.val < k.val → m'.register k = m.register k

/-- The digits of the register `x` of `m` are in the memory of `m'`, from the index on. -/
structure DigitsStored (m m' : Machine) (x : Nibble) : Prop where
  rest : SameButMemory m m'
  /-- A digit is where it is stored. -/
  held : ∀ k < 3, m'.memory.read (m.i.toNat + k) = (decimalDigits (m.register x)).getD k 0
  /-- All other bytes are as they were. -/
  outside : AgreeOn (fun a => ¬ Within m.i.toNat 3 a) m'.memory m.memory

theorem stored_perform (m : Machine) {x : Nibble} (h : m.i.toNat + x.val + 1 ≤ 4096) :
    Stored m (m.perform (.store x)) x where
  rest := rfl
  held := by
    intro k hk
    have hlane : Nibble.ofNat (m.i.toNat + k.val - m.i.toNat) = k := by
      rw [Nat.add_sub_cancel_left, Nibble.ofNat, Fin.ofNat_val_eq_self]
    rw [m.read_perform_store x (by omega), if_pos ⟨by omega, by omega⟩, hlane]
  outside := m.agreeOn_perform (.store x)

theorem loaded_perform (m : Machine) (x : Nibble) : Loaded m (m.perform (.load x)) x := by
  have hregister (k : Nibble) : (m.perform (.load x)).register k =
      if k.val ≤ x.val then m.memory.read (m.i.toNat + k.val) else m.register k :=
    Vector.getElem_ofFn k.isLt
  exact
    { rest := rfl
      held := fun k hk => (hregister k).trans (if_pos hk)
      outside := fun k hk => (hregister k).trans (if_neg (Nat.not_le.mpr hk)) }

theorem digitsStored_perform (m : Machine) (x : Nibble) (h : m.i.toNat + 3 ≤ 4096) :
    DigitsStored m (m.perform (.digits x)) x where
  rest := rfl
  held := by
    intro k hk
    rw [m.read_perform_digits x (by omega), if_pos ⟨by omega, by omega⟩, Nat.add_sub_cancel_left]
  outside := m.agreeOn_perform (.digits x)

/-! ### One transfer and another -/

/-- **What was stored is loaded again**, into registers that held anything else in between. -/
theorem Stored.register_of_loaded {m m₁ m₂ : Machine} {x : Nibble} {v : Vector UInt8 16}
    (hs : Stored m m₁ x) (hl : Loaded { m₁ with v } m₂ x) (k : Nibble) :
    m₂.register k = if k.val ≤ x.val then m.register k else v.get k := by
  have hi : m₁.i = m.i := by rw [hs.rest]
  by_cases hk : k.val ≤ x.val
  · have hread : m₂.register k = m₁.memory.read (m₁.i.toNat + k.val) := hl.held k hk
    rw [if_pos hk, hread, hi, hs.held k hk]
  · rw [if_neg hk]
    exact hl.outside k (Nat.lt_of_not_le hk)

/-- **What was loaded is stored where it was**, so that nothing is changed. -/
theorem Loaded.eq_of_stored {m m₁ m₂ : Machine} {x : Nibble} (hl : Loaded m m₁ x) (hs : Stored m₁ m₂ x) :
    m₂ = m₁ := by
  have hi : m₁.i = m.i := by rw [hl.rest]
  have hmemory : m₁.memory = m.memory := by rw [hl.rest]
  have hsame : m₂.memory = m₁.memory := by
    refine Memory.eq_of_read fun a ha => ?_
    by_cases hin : Within m₁.i.toNat (x.val + 1) a
    · -- The byte is one that was loaded, into the register that is as far from the first as the byte.
      obtain ⟨k, rfl⟩ := Nat.exists_eq_add_of_le hin.1
      have hk : k ≤ x.val := by
        have := hin.2
        omega
      have hk16 : k < 16 := Nat.lt_of_le_of_lt hk x.isLt
      rw [hs.held ⟨k, hk16⟩ hk, hl.held ⟨k, hk16⟩ hk, hi, hmemory]
    · exact hs.outside.read ha hin
  rw [hs.rest, hsame]

/-- The digits of a byte, and what they stand for. -/
theorem decimalDigits_value (b : UInt8) :
    (b / 100).toNat ≤ 9 ∧ (b / 10 % 10).toNat ≤ 9 ∧ (b % 10).toNat ≤ 9 ∧
      100 * (b / 100).toNat + 10 * (b / 10 % 10).toNat + (b % 10).toNat = b.toNat := by
  have hb := b.toNat_lt
  simp only [UInt8.toNat_div, UInt8.toNat_mod, UInt8.reduceToNat]
  omega

/-- **The digits are loaded in the order in which they were stored.** -/
theorem DigitsStored.value_of_loaded {m m₁ m₂ : Machine} {x : Nibble} (hs : DigitsStored m m₁ x)
    (hl : Loaded m₁ m₂ 2) :
    (m₂.register 0).toNat ≤ 9 ∧ (m₂.register 1).toNat ≤ 9 ∧ (m₂.register 2).toNat ≤ 9 ∧
      100 * (m₂.register 0).toNat + 10 * (m₂.register 1).toNat + (m₂.register 2).toNat =
        (m.register x).toNat := by
  have hi : m₁.i = m.i := by rw [hs.rest]
  have hdigit (k : Nibble) (hk : k.val < 3) :
      m₂.register k = (decimalDigits (m.register x)).getD k.val 0 := by
    rw [hl.held k (Nat.le_of_lt_succ hk), hi, hs.held k.val hk]
  rw [hdigit 0 (by decide), hdigit 1 (by decide), hdigit 2 (by decide)]
  exact decimalDigits_value (m.register x)

/-! ### Given from outside -/

theorem execute_store (m : Machine) {x : Nibble} (h : m.i.toNat + x.val + 1 ≤ 4096) (address : Int) :
    ∃ m', m.execute (wordOf 0xF x 0x5 0x5) address = .ok m' ∧ Stored m m' x := by
  have hform : HasForm (wordOf 0xF x 0x5 0x5) (.store x) := digits_wordOf 0xF x 0x5 0x5
  exact ⟨_, execute_of_hasForm hform (fun _ => h) address, m.stored_perform h⟩

theorem execute_load (m : Machine) {x : Nibble} (h : m.i.toNat + x.val + 1 ≤ 4096) (address : Int) :
    ∃ m', m.execute (wordOf 0xF x 0x6 0x5) address = .ok m' ∧ Loaded m m' x := by
  have hform : HasForm (wordOf 0xF x 0x6 0x5) (.load x) := digits_wordOf 0xF x 0x6 0x5
  exact ⟨_, execute_of_hasForm hform (fun _ => h) address, m.loaded_perform x⟩

theorem execute_digits (m : Machine) (x : Nibble) (h : m.i.toNat + 3 ≤ 4096) (address : Int) :
    ∃ m', m.execute (wordOf 0xF x 0x3 0x3) address = .ok m' ∧ DigitsStored m m' x := by
  have hform : HasForm (wordOf 0xF x 0x3 0x3) (.digits x) := digits_wordOf 0xF x 0x3 0x3
  exact ⟨_, execute_of_hasForm hform (fun _ => h) address, m.digitsStored_perform x h⟩

/-- **Registers and digits survive the way through memory.** Where there is room for the registers up to
`x`: a store puts them there and changes nothing else; whatever the registers are then, a load gives them
back and changes no other register; a load changes nothing but registers, and a store after it leaves all as
it is. Where there is room for three bytes: the digits of a register, stored and loaded into the first three
registers, are at most nine each and stand for what the register held, and no other byte has changed. The
index stays where it is throughout. -/
theorem transfers_survive (m : Machine) (x : Nibble) (address address' : Int) :
    (m.i.toNat + x.val + 1 ≤ 4096 →
      (∃ m₁, m.execute (wordOf 0xF x 0x5 0x5) address = .ok m₁ ∧ Stored m m₁ x ∧
        ∀ v, ∃ m₂, { m₁ with v }.execute (wordOf 0xF x 0x6 0x5) address' = .ok m₂ ∧
          SameButRegisters m₁ m₂ ∧
          ∀ k, m₂.register k = if k.val ≤ x.val then m.register k else v.get k) ∧
      ∃ m₁, m.execute (wordOf 0xF x 0x6 0x5) address = .ok m₁ ∧ Loaded m m₁ x ∧
        m₁.execute (wordOf 0xF x 0x5 0x5) address' = .ok m₁) ∧
    (m.i.toNat + 3 ≤ 4096 →
      ∃ m₁ m₂, m.execute (wordOf 0xF x 0x3 0x3) address = .ok m₁ ∧ SameButMemory m m₁ ∧
        m₁.execute (wordOf 0xF 0x2 0x6 0x5) address' = .ok m₂ ∧ SameButRegisters m₁ m₂ ∧
        ((m₂.register 0).toNat ≤ 9 ∧ (m₂.register 1).toNat ≤ 9 ∧ (m₂.register 2).toNat ≤ 9 ∧
          100 * (m₂.register 0).toNat + 10 * (m₂.register 1).toNat + (m₂.register 2).toNat =
            (m.register x).toNat) ∧
        AgreeOn (fun a => ¬ Within m.i.toNat 3 a) m₂.memory m.memory) := by
  refine ⟨fun h => ⟨?storeLoad, ?loadStore⟩, fun h => ?digits⟩
  case storeLoad =>
    obtain ⟨m₁, hm₁, hs⟩ := m.execute_store h address
    have hi : m₁.i = m.i := by rw [hs.rest]
    refine ⟨m₁, hm₁, hs, fun v => ?_⟩
    obtain ⟨m₂, hm₂, hl⟩ := execute_load { m₁ with v } (hi ▸ h) address'
    exact ⟨m₂, hm₂, hl.rest, hs.register_of_loaded hl⟩
  case loadStore =>
    obtain ⟨m₁, hm₁, hl⟩ := m.execute_load h address
    have hi : m₁.i = m.i := by rw [hl.rest]
    obtain ⟨m₂, hm₂, hs⟩ := m₁.execute_store (hi ▸ h) address'
    rw [hl.eq_of_stored hs] at hm₂
    exact ⟨m₁, hm₁, hl, hm₂⟩
  case digits =>
    obtain ⟨m₁, hm₁, hs⟩ := m.execute_digits x h address
    have hi : m₁.i = m.i := by rw [hs.rest]
    obtain ⟨m₂, hm₂, hl⟩ := m₁.execute_load (x := 2) (hi ▸ h) address'
    have hmemory : m₂.memory = m₁.memory := by rw [hl.rest]
    exact ⟨m₁, m₂, hm₁, hs.rest, hm₂, hl.rest, hs.value_of_loaded hl, hmemory ▸ hs.outside⟩

/-- A machine whose index leaves room for just three bytes. -/
def lastBytes : Machine :=
  { ((start ⟨0, 0⟩).load (Nibble.ofNat 1) 7).load (Nibble.ofNat 2) 209 with i := 0xFFD }

/-- There the registers are stored and loaded again, and 209 has its digits. -/
theorem transfers_survive_lastBytes :
    (∃ m₁ m₂, lastBytes.execute 0xF255 0x200 = .ok m₁ ∧
        { m₁ with v := Vector.replicate 16 1 }.execute 0xF265 0x202 = .ok m₂ ∧
        m₂.register 1 = 7 ∧ m₂.register 3 = 1) ∧
      ∃ m₁ m₂, lastBytes.execute 0xF233 0x200 = .ok m₁ ∧ m₁.execute 0xF265 0x202 = .ok m₂ ∧
        (m₂.register 0).toNat = 2 ∧ (m₂.register 1).toNat = 0 ∧ (m₂.register 2).toNat = 9 := by
  obtain ⟨hblock, hdigits⟩ := transfers_survive lastBytes 2 0x200 0x202
  constructor
  · obtain ⟨⟨m₁, hm₁, -, hload⟩, -⟩ := hblock (by decide)
    obtain ⟨m₂, hm₂, -, hregister⟩ := hload (Vector.replicate 16 1)
    exact ⟨m₁, m₂, hm₁, hm₂, hregister 1, hregister 3⟩
  · obtain ⟨m₁, m₂, hm₁, -, hm₂, -, ⟨h0, h1, h2, hsum⟩, -⟩ := hdigits (by decide)
    have hvalue : (lastBytes.register 2).toNat = 209 := by decide
    refine ⟨m₁, m₂, hm₁, hm₂, ?_, ?_, ?_⟩ <;> omega

end Chip8.Machine

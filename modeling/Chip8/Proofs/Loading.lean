import Chip8.Proofs.Footprint

/-!
# Loading a program and fetching its words

A program is loaded byte by byte from the address 0x200 on, and refused if it goes past the end of memory.
All else of the machine is as it was (`Programmed`). A fetch takes two bytes, the high one first, and moves the
program counter past them. So if the bytes of some words lie from the program counter on (`Holds`), one fetch
gives the first word and leaves the bytes of the others from the new program counter on (`fetch_of_holds`), and
as many fetches as there are words give all of them in order (`fetches_of_holds`).

The largest program ends with the last byte of memory. The program counter is then moved to 0x1000, which is no
address any more but still within its 16 bits.
-/

namespace Chip8

namespace Memory

/-- The bytes are in memory, from an address on. -/
def Holds (m : Memory) (a : Nat) (bytes : List UInt8) : Prop :=
  ∀ k < bytes.length, m.read (a + k) = bytes.getD k 0

theorem holds_cons {m : Memory} {a : Nat} {b : UInt8} {bytes : List UInt8} :
    m.Holds a (b :: bytes) ↔ m.read a = b ∧ m.Holds (a + 1) bytes := by
  unfold Holds
  rw [List.length_cons, Nat.forall_lt_succ_left]
  simp only [Nat.add_zero, List.getD_cons_zero, List.getD_cons_succ, Nat.add_right_comm, Nat.add_assoc]

/-- What is written is there, up to the end of memory. -/
theorem holds_store (m : Memory) {a : Nat} {bytes : List UInt8} (h : a + bytes.length ≤ 4096) :
    (m.store a bytes).Holds a bytes := by
  intro k hk
  rw [read_store m a bytes (by omega), if_pos ⟨by omega, by omega⟩, Nat.add_sub_cancel_left]

end Memory

namespace Machine

open Memory (AgreeOn Within)

/-! ### Loading -/

/-- The machine `m'` is `m` with a program in memory. -/
structure Programmed (m : Machine) (rom : List UInt8) (m' : Machine) : Prop where
  rest : SameButMemory m m'
  /-- Each byte of the program is at its place. -/
  held : ∀ k < rom.length, m'.memory[programStart + k]? = rom[k]?
  /-- All other bytes are as they were. -/
  outside : AgreeOn (fun a => ¬ Within programStart rom.length a) m'.memory m.memory

theorem loadRom_of_lt (m : Machine) {rom : List UInt8} (h : 3584 < rom.length) :
    m.loadRom rom = .error ⟨rom.length⟩ :=
  if_pos (show 512 + rom.length > 4096 by omega)

theorem loadRom_eq_ok (m : Machine) {rom : List UInt8} (h : rom.length ≤ 3584) :
    m.loadRom rom = .ok { m with memory := m.memory.store programStart rom } :=
  if_neg (show ¬ 512 + rom.length > 4096 by omega)

/-- A program is refused only for its size. -/
theorem loadRom_eq_error_iff (m : Machine) (rom : List UInt8) :
    m.loadRom rom = .error ⟨rom.length⟩ ↔ 3584 < rom.length := by
  refine ⟨fun h => Nat.lt_of_not_le fun hfits => ?_, m.loadRom_of_lt⟩
  rw [m.loadRom_eq_ok hfits] at h
  cases h

theorem programmed_store (m : Machine) {rom : List UInt8} (h : rom.length ≤ 3584) :
    Programmed m rom { m with memory := m.memory.store programStart rom } where
  rest := rfl
  held := by
    intro k hk
    have hlt : programStart + k < 4096 := show 512 + k < 4096 by omega
    have hholds := m.memory.holds_store (a := programStart) (show 512 + rom.length ≤ 4096 by omega) k hk
    rw [Memory.read_of_lt _ hlt, List.getD_eq_getElem?_getD, List.getElem?_eq_getElem hk] at hholds
    rw [Vector.getElem?_eq_getElem hlt, List.getElem?_eq_getElem hk, hholds]
    rfl
  outside := Memory.agreeOn_of_read fun _ hk hout =>
    (Memory.read_store m.memory programStart rom hk).trans (if_neg hout)

/-! ### Words and their bytes -/

/-- The bytes of a word, the high one first. -/
def wordBytes (w : UInt16) : List UInt8 := [(w >>> 8).toUInt8, w.toUInt8]

/-- The bytes of words, the first word first. -/
def programOf (words : List UInt16) : List UInt8 := words.flatMap wordBytes

theorem programOf_cons (w : UInt16) (words : List UInt16) :
    programOf (w :: words) = (w >>> 8).toUInt8 :: w.toUInt8 :: programOf words := rfl

theorem length_programOf (words : List UInt16) : (programOf words).length = 2 * words.length := by
  induction words with
  | nil => rfl
  | cons w words ih =>
    rw [programOf_cons, List.length_cons, List.length_cons, List.length_cons, ih]
    omega

/-- The two bytes of a word make up the word. -/
theorem toNat_wordBytes (w : UInt16) :
    256 * (w >>> 8).toUInt8.toNat + w.toUInt8.toNat = w.toNat := by
  have hw := w.toNat_lt
  simp only [UInt16.toNat_toUInt8, UInt16.toNat_shiftRight, UInt16.reduceToNat, Nat.reduceMod,
    Nat.shiftRight_eq_div_pow]
  omega

/-! ### Fetching -/

/-- The words that some fetches give, the first one first, and the machine after them. -/
def fetches : Nat → Machine → List UInt16 × Machine
  | 0, m => ([], m)
  | count + 1, m =>
    let (fetched, w) := m.fetch
    let (words, last) := fetches count fetched
    (w :: words, last)

/-- **A fetch** gives the word whose bytes are at the program counter, and goes on to the bytes behind it. -/
theorem fetch_of_holds {m : Machine} {w : UInt16} {bytes : List UInt8} (hpc : m.pc.toNat + 2 ≤ 4096)
    (h : m.memory.Holds m.pc.toNat ((w >>> 8).toUInt8 :: w.toUInt8 :: bytes)) :
    m.word = w ∧ m.fetch.1.memory.Holds m.fetch.1.pc.toNat bytes := by
  obtain ⟨hhigh, hbehind⟩ := Memory.holds_cons.mp h
  obtain ⟨hlow, hrest⟩ := Memory.holds_cons.mp hbehind
  constructor
  · refine UInt16.toNat_inj.mp ?_
    rw [toNat_word (by omega), hhigh, hlow, toNat_wordBytes]
  · rw [toNat_pc_fetch (by omega)]
    exact hrest

/-- **As many fetches as there are words** from the program counter on give these words, and change nothing
but the program counter. -/
theorem fetches_of_holds {m : Machine} {words : List UInt16} (hpc : m.pc.toNat + 2 * words.length ≤ 4096)
    (h : m.memory.Holds m.pc.toNat (programOf words)) :
    ∃ pc, pc.toNat = m.pc.toNat + 2 * words.length ∧ m.fetches words.length = (words, { m with pc }) := by
  -- By induction on the words: after the first fetch the others are from the program counter on.
  induction words generalizing m with
  | nil => exact ⟨m.pc, rfl, rfl⟩
  | cons w words ih =>
    rw [List.length_cons] at hpc ⊢
    obtain ⟨hword, hrest⟩ := fetch_of_holds (by omega) h
    have hfetched := toNat_pc_fetch (m := m) (by omega)
    obtain ⟨pc, hlast, hwords⟩ := ih (m := m.fetch.1) (by omega) hrest
    refine ⟨pc, by omega, ?_⟩
    unfold fetches
    rw [show m.fetch = (m.fetch.1, m.word) from rfl, hword]
    simp only [hwords]
    rfl

/-! ### Loading, then fetching -/

/-- **Loading a program and fetching it gives it back.** A program is refused, for its size, if it has more
than 3584 bytes. Otherwise each of its bytes is at its place from 0x200 on, and nothing else has changed. So
when the bytes of at most 1792 words are loaded with the program counter at 0x200, as many fetches as there
are words give them in order, move the program counter behind the last one and change nothing else. -/
theorem fetches_of_loadRom (m : Machine) :
    (∀ rom : List UInt8,
      (m.loadRom rom = .error ⟨rom.length⟩ ↔ 3584 < rom.length) ∧
        (rom.length ≤ 3584 → ∃ m', m.loadRom rom = .ok m' ∧ Programmed m rom m')) ∧
      ∀ words : List UInt16, m.pc = 0x200 → words.length ≤ 1792 →
        ∃ m', m.loadRom (programOf words) = .ok m' ∧
          ∃ pc, pc.toNat = 0x200 + 2 * words.length ∧
            m'.fetches words.length = (words, { m' with pc }) := by
  refine ⟨fun rom => ⟨m.loadRom_eq_error_iff rom, fun hfits => ?loaded⟩, fun words hpc hfits => ?fetched⟩
  case loaded => exact ⟨_, m.loadRom_eq_ok hfits, m.programmed_store hfits⟩
  case fetched =>
    have hsize := length_programOf words
    have hstart : m.pc.toNat = programStart := congrArg UInt16.toNat hpc
    have hroom : programStart + (programOf words).length ≤ 4096 := by
      rw [hsize]
      show 512 + 2 * words.length ≤ 4096
      omega
    have hholds := m.memory.holds_store hroom
    rw [← hstart] at hroom hholds
    refine ⟨_, m.loadRom_eq_ok (by omega), ?_⟩
    rw [← hstart]
    obtain ⟨pc, hlast, hwords⟩ :=
      fetches_of_holds (m := { m with memory := m.memory.store m.pc.toNat (programOf words) })
        (hsize ▸ hroom) hholds
    exact ⟨pc, hlast.trans (congrArg (· + 2 * words.length) hstart), hwords⟩

/-- As many words as memory has room for, no two of them alike. -/
def fullListing : List UInt16 := (List.range 1792).map UInt16.ofNat

/-- They are all fetched, up to the one in the last two bytes; with one byte more they would be refused. -/
theorem fetches_of_loadRom_full :
    (start ⟨0, 0⟩).loadRom (0 :: programOf fullListing) = .error ⟨3585⟩ ∧
      ∃ m, (start ⟨0, 0⟩).loadRom (programOf fullListing) = .ok m ∧
        m.memory[0xFFF]? = (programOf fullListing)[3583]? ∧
        m.fetches 1792 = (fullListing, { m with pc := 0x1000 }) := by
  have hcount : fullListing.length = 1792 := by simp [fullListing]
  have hsize : (programOf fullListing).length = 3584 := by rw [length_programOf, hcount]
  have hlonger : (0 :: programOf fullListing).length = 3585 := by rw [List.length_cons, hsize]
  obtain ⟨hload, hfetch⟩ := fetches_of_loadRom (start ⟨0, 0⟩)
  refine ⟨?_, ?_⟩
  · rw [(hload _).1.mpr (by omega), hlonger]
  · obtain ⟨m, hm, pc, hpc, hwords⟩ := hfetch fullListing rfl (by omega)
    obtain ⟨m', hm', hprogrammed⟩ := (hload (programOf fullListing)).2 (by omega)
    obtain rfl : m = m' := Except.ok.inj (hm.symm.trans hm')
    rw [hcount] at hpc hwords
    obtain rfl : pc = 0x1000 := UInt16.toNat_inj.mp hpc
    exact ⟨m, hm, hprogrammed.held 3583 (by omega), hwords⟩

end Machine

end Chip8

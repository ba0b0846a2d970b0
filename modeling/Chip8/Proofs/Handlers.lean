import Chip8.Proofs.AssemblyText
import Chip8.Proofs.Refusal

/-!
# Texts, checks and handlers

What a word means is kept in three places: the texts tell how an instruction is written, the checks tell
which words are refused, and the handlers are what is run. Each goes by tables of its own, written out
here side by side, and by the fields of the word that it looks at. A handler is picked by its place, and
some places are for words that mean nothing.

All three agree with the one list of instructions (`spelling?_eq`, `rejected_eq`, `handler_eq`), so they
agree with each other (`texts_checks_handlers_agree`): a word is written as unknown exactly if it is
refused as unknown, and the handler of any other word is that of the instruction that its text names.
-/

namespace Chip8

open Instruction (decode? ofFields? ofMisc?)

/-! ### The tables -/

namespace Tables

/-- The words for the operations on two registers, by the last nibble. -/
def aluMnemonics : List (Nat × String) :=
  [(0x0, "LD"), (0x1, "OR"), (0x2, "AND"), (0x3, "XOR"), (0x4, "ADD"), (0x5, "SUB"), (0x6, "SHR"),
    (0x7, "SUBN"), (0xE, "SHL")]

/-- What stands before and behind the register in the texts of category `F`, by the last byte. -/
def miscMnemonics : List (Nat × String × String) :=
  [(0x07, "LD ", ", DT"), (0x0A, "LD ", ", K"), (0x15, "LD DT, ", ""), (0x18, "LD ST, ", ""),
    (0x1E, "ADD I, ", ""), (0x29, "LD F, ", ""), (0x33, "LD B, ", ""), (0x55, "LD [I], ", ""),
    (0x65, "LD ", ", [I]")]

/-- The words of category `0` that are let through. -/
def systemWords : List Int := [0x00E0, 0x00EE]

/-- The last nibbles of category `8` that are let through. -/
def aluNibbles : List Nat := [0x0, 0x1, 0x2, 0x3, 0x4, 0x5, 0x6, 0x7, 0xE]

/-- The last bytes of category `E` that are let through. -/
def keyBytes : List UInt8 := [0x9E, 0xA1]

/-- The operations of category `F`, by the last byte. The checks let these bytes through, and the handlers
are in this order. -/
def miscOperations : List (Nat × (Nibble → Instruction)) :=
  [(0x07, .readDelay), (0x0A, .waitKey), (0x15, .setDelay), (0x18, .setSound), (0x1E, .addIndex),
    (0x29, .glyph), (0x33, .digits), (0x55, .store), (0x65, .load)]

/-- Where the operation of a last nibble stands among `aluOperations`. -/
def aluPlaces : List Nat := [0, 1, 2, 3, 4, 5, 6, 7, 9, 9, 9, 9, 9, 9, 8, 9]

/-- The operations on two registers. The last place is for nibbles that mean nothing. -/
def aluOperations : List (Option AluOp) :=
  [some .copy, some .or, some .and, some .xor, some .add, some .sub, some .shiftRight, some .subFrom,
    some .shiftLeft, none]

end Tables

/-- What is run for a word. -/
inductive Handler where
  /-- An instruction is performed. -/
  | instruction (i : Instruction)
  /-- Nothing is done. -/
  | noOp
  /-- The flag and then a register are loaded with what they hold. -/
  | undefined (x : Nibble)
deriving DecidableEq, Repr

/-- The machine after a handler was run. -/
def Machine.enter (m : Machine) : Handler → Machine
  | .instruction i => m.perform i
  | .noOp => m
  | .undefined x => (m.load flagRegister (m.register flagRegister)).load x (m.register x)

namespace Fields

open Tables Assembly

/-! ### What goes by the tables -/

/-- How the tables spell a word, if they do. -/
def spelling? (f : Fields) : Option String :=
  if f.raw = 0x00E0 then some "CLS"
  else if f.raw = 0x00EE then some "RET"
  else match f.category.val with
    | 0x1 => some ("JP " ++ address f.nnn)
    | 0x2 => some ("CALL " ++ address f.nnn)
    | 0x3 => some ("SE " ++ register f.x ++ ", " ++ byte f.nn)
    | 0x4 => some ("SNE " ++ register f.x ++ ", " ++ byte f.nn)
    | 0x5 => some ("SE " ++ register f.x ++ ", " ++ register f.y)
    | 0x6 => some ("LD " ++ register f.x ++ ", " ++ byte f.nn)
    | 0x7 => some ("ADD " ++ register f.x ++ ", " ++ byte f.nn)
    | 0x8 => (aluMnemonics.lookup f.n.val).map fun word =>
        word ++ " " ++ register f.x ++ ", " ++ register f.y
    | 0x9 => some ("SNE " ++ register f.x ++ ", " ++ register f.y)
    | 0xA => some ("LD I, " ++ address f.nnn)
    | 0xB => some ("JP V0, " ++ address f.nnn)
    | 0xC => some ("RND " ++ register f.x ++ ", " ++ byte f.nn)
    | 0xD => some ("DRW " ++ register f.x ++ ", " ++ register f.y ++ ", " ++ toString f.n.val)
    | 0xE => if f.nn = 0x9E then some ("SKP " ++ register f.x)
        else if f.nn = 0xA1 then some ("SKNP " ++ register f.x) else none
    | 0xF => (miscMnemonics.lookup f.nn.toNat).map fun (before, behind) =>
        before ++ register f.x ++ behind
    | _ => none

/-- Whether the tables refuse a word. -/
def rejected (f : Fields) : Bool :=
  match f.category.val with
  | 0x0 => !systemWords.contains f.raw
  | 0x8 => !aluNibbles.contains f.n.val
  | 0xE => !keyBytes.contains f.nn
  | 0xF => !(miscOperations.map Prod.fst).contains f.nn.toNat
  | _ => false

/-- The handler for category `0`, whose place is counted together from two comparisons. -/
def systemHandler (f : Fields) : Handler :=
  [.noOp, .instruction .clear, .instruction .ret].getD
    ((if f.raw = 0x00E0 then 1 else 0) + 2 * if f.raw = 0x00EE then 1 else 0) .noOp

/-- The handler for category `8`, whose place is looked up. -/
def aluHandler (f : Fields) : Handler :=
  match aluOperations.getD (aluPlaces.getD f.n.val 9) none with
  | some op => .instruction (.alu op f.x f.y)
  | none => .undefined f.x

/-- The handler for category `E`, which tells the two skips apart by one comparison. -/
def keyHandler (f : Fields) : Handler :=
  .instruction (if f.nn = 0xA1 then .skipUnlessKey f.x else .skipIfKey f.x)

/-- The handler for category `F`: that of the first byte that matches, or the one behind them all. -/
def miscHandler (f : Fields) : Handler :=
  let places : List Handler := miscOperations.map fun entry => .instruction (entry.2 f.x)
  (places ++ [Handler.noOp]).getD ((miscOperations.map Prod.fst).findIdx (· == f.nn.toNat)) .noOp

/-- The handlers of the sixteen categories. -/
def handlers (f : Fields) : List Handler :=
  [f.systemHandler, .instruction (.jump f.nnn), .instruction (.call f.nnn),
    .instruction (.skipIfByte f.x f.nn), .instruction (.skipUnlessByte f.x f.nn),
    .instruction (.skipIfSame f.x f.y), .instruction (.loadByte f.x f.nn),
    .instruction (.addByte f.x f.nn), f.aluHandler, .instruction (.skipUnlessSame f.x f.y),
    .instruction (.loadIndex f.nnn), .instruction (.jumpOffset f.nnn), .instruction (.random f.x f.nn),
    .instruction (.draw f.x f.y f.n), f.keyHandler, f.miscHandler]

/-- The handler that is run for a word. -/
def handler (f : Fields) : Handler := f.handlers.getD f.category.val .noOp

/-! ### Lookups -/

/-- The place of the first entry that matches, or the one behind them all, holds what a lookup gives. -/
theorem getD_findIdx {β γ : Type} (table : List (Nat × β)) (g : Nat × β → γ) (last : γ) (k : Nat) :
    (table.map g ++ [last]).getD ((table.map Prod.fst).findIdx (· == k)) last =
      (table.lookup k).elim last fun b => g (k, b) := by
  induction table with
  | nil => rfl
  | cons entry table ih =>
    obtain ⟨j, b⟩ := entry
    by_cases hj : j = k
    · subst hj
      simp [List.findIdx_cons]
    · have hjk : (j == k) = false := beq_false_of_ne hj
      have hkj : (k == j) = false := beq_false_of_ne (Ne.symm hj)
      simpa [List.findIdx_cons, List.lookup_cons, hjk, hkj] using ih

/-- The codes of a table are those that a lookup finds. -/
theorem contains_map_fst {β : Type} (table : List (Nat × β)) (k : Nat) :
    (table.map Prod.fst).contains k = (table.lookup k).isSome := by
  induction table with
  | nil => rfl
  | cons entry table ih =>
    obtain ⟨j, b⟩ := entry
    by_cases hj : k = j
    · subst hj
      simp
    · have hkj : (k == j) = false := beq_false_of_ne hj
      simpa [List.lookup_cons, hkj] using ih

theorem lookup_aluMnemonics (n : Nibble) :
    aluMnemonics.lookup n.val = (AluOp.ofNibble? n).map AluOp.mnemonic := by
  revert n
  decide

theorem aluOperations_aluPlaces (n : Nibble) :
    aluOperations.getD (aluPlaces.getD n.val 9) none = AluOp.ofNibble? n := by
  revert n
  decide

theorem contains_aluNibbles (n : Nibble) : aluNibbles.contains n.val = (AluOp.ofNibble? n).isSome := by
  revert n
  decide

theorem lookup_miscOperations (x : Nibble) (nn : UInt8) :
    ((miscOperations.lookup nn.toNat).map fun operation => operation x) = ofMisc? x nn := by
  unfold ofMisc? miscOperations
  split <;> simp_all [List.lookup_cons, beq_false_of_ne]

theorem lookup_miscMnemonics (x : Nibble) (nn : UInt8) :
    ((miscMnemonics.lookup nn.toNat).map fun (before, behind) => before ++ register x ++ behind) =
      (ofMisc? x nn).map Instruction.text := by
  unfold ofMisc? miscMnemonics
  split <;> simp_all [List.lookup_cons, beq_false_of_ne, Instruction.text]

theorem miscHandler_eq (f : Fields) : f.miscHandler = (ofMisc? f.x f.nn).elim .noOp .instruction := by
  rw [miscHandler, getD_findIdx, ← lookup_miscOperations]
  cases miscOperations.lookup f.nn.toNat <;> rfl

/-! ### Tables and instructions -/

/-- **The tables spell a word as its instruction is written.** -/
theorem spelling?_eq (w : Int) : (ofInt w).spelling? = (decode? w).map Instruction.text := by
  by_cases hclear : w = 0x00E0
  · subst hclear
    rfl
  by_cases hret : w = 0x00EE
  · subst hret
    rfl
  have hlt := (ofInt w).category.isLt
  unfold spelling? decode? ofFields?
  rw [show (ofInt w).raw = w from rfl, if_neg hclear, if_neg hret]
  -- Most categories have one text. Those that go by a table, or compare, stand first.
  split
  case h_8 h =>
    rw [h, lookup_aluMnemonics]
    cases AluOp.ofNibble? (ofInt w).n <;> rfl
  case h_14 h =>
    rw [h]
    split_ifs <;> rfl
  case h_15 h =>
    rw [h, lookup_miscMnemonics]
    rfl
  case h_16 =>
    have h : (ofInt w).category.val = 0 := by grind
    rw [h]
    simp only [if_neg hclear, if_neg hret]
    rfl
  all_goals
    rename_i h
    rw [h]
    rfl

/-- **The tables refuse a word exactly if it names no instruction.** -/
theorem rejected_eq (f : Fields) : f.rejected = (ofFields? f).isNone := by
  have hlt := f.category.isLt
  unfold rejected ofFields?
  split
  case h_1 h =>
    rw [h]
    by_cases hclear : f.raw = 0x00E0
    · simp [systemWords, hclear]
    · by_cases hret : f.raw = 0x00EE <;> simp [systemWords, hclear, hret]
  case h_2 h =>
    rw [h, contains_aluNibbles]
    cases AluOp.ofNibble? f.n <;> rfl
  case h_3 h =>
    rw [h]
    by_cases hdown : f.nn = 0x9E
    · simp [keyBytes, hdown]
    · by_cases hup : f.nn = 0xA1 <;> simp [keyBytes, hdown, hup]
  case h_4 h =>
    rw [h, contains_map_fst, ← lookup_miscOperations]
    cases miscOperations.lookup f.nn.toNat <;> rfl
  case h_5 => grind

/-- What is run for a word that names no instruction. -/
def fallback (f : Fields) : Handler :=
  if f.category.val = 0x8 then .undefined f.x
  else if f.category.val = 0xE then .instruction (.skipIfKey f.x)
  else .noOp

/-- **The handler of a word is that of its instruction.** -/
theorem handler_eq (f : Fields) : f.handler = (ofFields? f).elim f.fallback .instruction := by
  have hlt := f.category.isLt
  unfold handler handlers fallback ofFields?
  -- Most categories have one handler. The four that pick one among several stand first.
  split
  case h_1 h =>
    rw [h]
    by_cases hclear : f.raw = 0x00E0
    · simp [systemHandler, hclear]
    · by_cases hret : f.raw = 0x00EE <;> simp [systemHandler, hclear, hret]
  case h_9 h =>
    rw [h]
    show f.aluHandler = _
    rw [aluHandler, aluOperations_aluPlaces]
    cases AluOp.ofNibble? f.n <;> rfl
  case h_15 h =>
    rw [h]
    show f.keyHandler = _
    by_cases hdown : f.nn = 0x9E
    · simp [keyHandler, hdown]
    · by_cases hup : f.nn = 0xA1 <;> simp [keyHandler, hdown, hup]
  case h_16 =>
    have h : f.category.val = 15 := by grind
    rw [h]
    exact miscHandler_eq f
  all_goals
    rename_i h
    rw [h]
    rfl

/-- What the tables refuse they do not spell, and the other way round. -/
theorem spelling?_eq_none_iff (w : Int) : (ofInt w).spelling? = none ↔ (ofInt w).rejected = true := by
  rw [spelling?_eq, rejected_eq, Option.map_eq_none_iff, Option.isNone_iff_eq_none]
  rfl

end Fields

/-- A word is disassembled as the tables spell it. -/
theorem disassemble_eq (w : Int) :
    disassemble w = (Fields.ofInt w).spelling?.getD ("??? $" ++ hex 4 w) := by
  rw [Fields.spelling?_eq, disassemble]
  cases decode? w <;> rfl

/-- A text begins with three question marks exactly if the tables do not spell the word. -/
theorem marked_iff (w : Int) :
    "???".toList <+: (disassemble w).toList ↔ (Fields.ofInt w).spelling? = none := by
  rw [disassemble_eq, Fields.spelling?_eq]
  cases hd : decode? w with
  | none =>
    refine iff_of_true ?_ rfl
    rw [Option.map_none, Option.getD_none, String.toList_append]
    exact ⟨' ' :: '$' :: (hex 4 w).toList, rfl⟩
  | some i =>
    refine iff_of_false ?_ (Option.some_ne_none _)
    rintro ⟨cs, hcs⟩
    exact i.text_ne_question ('?' :: '?' :: cs) hcs.symm

namespace Machine

/-! ### What is run -/

/-- To load a register with what it holds does nothing. -/
theorem load_register (m : Machine) (x : Nibble) : m.load x (m.register x) = m := by
  have hv : m.v.set x (m.register x) (Nibble.lt x) = m.v := Vector.set_getElem_self (Nibble.lt x)
  rw [load, hv]

/-- What is run for a word that names no instruction does nothing outside of category `E`. -/
theorem enter_fallback (m : Machine) (f : Fields) :
    m.enter f.fallback = if f.category.val = 0xE then m.perform (.skipIfKey f.x) else m := by
  unfold Fields.fallback
  split_ifs with h8 hE
  · omega
  · rw [enter, load_register, load_register]
  · rfl
  · rfl

/-- **What is dispatched is the handler.** -/
theorem dispatch_eq (m : Machine) (w : UInt16) :
    m.dispatch w = m.enter (Fields.ofInt w.toNat).handler := by
  rw [dispatch, Fields.handler_eq, decode?]
  cases ofFields? (Fields.ofInt w.toNat) with
  | none => exact (m.enter_fallback _).symm
  | some i => rfl

/-- A word is refused as one that names no instruction. -/
def Unknown (m : Machine) (w address : Int) : Prop :=
  ∃ word place, m.execute w address = .error (.fault (.unknownOpcode word place))

/-- What the tables refuse is reported as it was given. -/
theorem execute_of_rejected (m : Machine) {w : Int} (h : (Fields.ofInt w).rejected = true) (address : Int) :
    m.execute w address = .error (.fault (.unknownOpcode w address)) := by
  have hd : decode? w = none := by
    rw [Fields.rejected_eq, Option.isNone_iff_eq_none] at h
    exact h
  rw [execute, check, hd]

/-- **The checks refuse as unknown what the tables refuse.** -/
theorem unknown_iff (m : Machine) (w address : Int) :
    m.Unknown w address ↔ (Fields.ofInt w).rejected = true := by
  constructor
  · rintro ⟨word, place, h⟩
    rw [Fields.rejected_eq, Option.isNone_iff_eq_none]
    cases hd : decode? w with
    | none => exact hd
    | some i =>
      unfold execute at h
      rcases m.check_of_decode? hd address with ⟨-, hc⟩ | ⟨-, hc⟩
      · rw [hc] at h
        simp only at h
        split at h <;> cases h
      · rw [hc] at h
        cases i <;> cases h
  · exact fun h => ⟨w, address, m.execute_of_rejected h address⟩

/-! ### The agreement -/

/-- **Texts, checks and handlers agree.** A word of any size and sign is written as the tables spell it, and
refused as unknown exactly if the tables have no place for it. It is written with question marks exactly if it is
refused so, and then with the numeral of the report. A word of 16 bits is dispatched to its
handler. If it is not refused as unknown, the handler is that of the one instruction that its text names, and
in no place that means nothing. If it is, and belongs to category `0`, `8` or `F`, nothing is changed. -/
theorem texts_checks_handlers_agree :
    (∀ (m : Machine) (w address : Int),
      disassemble w = (Fields.ofInt w).spelling?.getD ("??? $" ++ hex 4 w) ∧
        (m.Unknown w address ↔ (Fields.ofInt w).rejected = true) ∧
        ("???".toList <+: (disassemble w).toList ↔ m.Unknown w address) ∧
        (m.Unknown w address →
          disassemble w = "??? $" ++ hex 4 w ∧
            ∃ f, m.execute w address = .error (.fault f) ∧
              f.message = "Unknown opcode 0x" ++ hex 4 w ++ " at address 0x" ++ hex 3 address)) ∧
      ∀ (m : Machine) (w : UInt16) (address : Int),
        m.dispatch w = m.enter (Fields.ofInt w.toNat).handler ∧
          (¬ m.Unknown w.toNat address →
            ∃ i, (Fields.ofInt w.toNat).handler = .instruction i ∧
              ∀ j : Instruction, j.text = disassemble w.toNat ↔ j = i) ∧
          (m.Unknown w.toNat address →
            firstNibble w.toNat = 0x0 ∨ firstNibble w.toNat = 0x8 ∨ firstNibble w.toNat = 0xF →
            m.dispatch w = m) := by
  constructor
  · intro m w address
    refine ⟨disassemble_eq w, m.unknown_iff w address, ?_⟩
    rw [unknown_iff, marked_iff, Fields.spelling?_eq_none_iff]
    refine ⟨Iff.rfl, fun h => ⟨?_, _, m.execute_of_rejected h address, rfl⟩⟩
    rw [disassemble_eq, (Fields.spelling?_eq_none_iff w).mpr h, Option.getD_none]
  · intro m w address
    refine ⟨m.dispatch_eq w, ?_, ?_⟩
    · rw [unknown_iff, Fields.rejected_eq, Option.isNone_iff_eq_none]
      intro h
      obtain ⟨i, hi⟩ := Option.ne_none_iff_exists'.mp h
      have htext : disassemble w.toNat = i.text := by
        rw [disassemble, decode?, hi]
      refine ⟨i, by rw [Fields.handler_eq, hi]; rfl, fun j => ?_⟩
      rw [htext]
      exact ⟨Instruction.text_injective, congrArg Instruction.text⟩
    · rw [unknown_iff, Fields.rejected_eq, Option.isNone_iff_eq_none]
      intro h hfirst
      have hcategory := Fields.category_ofInt w.toNat
      rw [dispatch_eq, Fields.handler_eq, h]
      exact (m.enter_fallback _).trans (if_neg (by omega))

/-- On a machine that has just been started: a word of category `8` that names no operation, one of more than
16 bits whose last ones are those of an instruction, and a block transfer. -/
theorem texts_checks_handlers_agree_start :
    (disassemble 0x8128 = "??? $" ++ hex 4 0x8128 ∧ (start ⟨0, 0⟩).dispatch 0x8128 = start ⟨0, 0⟩) ∧
      disassemble 0x100E0 = "??? $" ++ hex 4 0x100E0 ∧
      (Fields.ofInt 0xF265).handler = .instruction (.load 2) := by
  obtain ⟨hwords, hdispatch⟩ := texts_checks_handlers_agree
  refine ⟨⟨?_, ?_⟩, ?_, ?_⟩
  · exact ((hwords (start ⟨0, 0⟩) 0x8128 0x200).2.2.2 ⟨0x8128, 0x200, rfl⟩).1
  · exact (hdispatch (start ⟨0, 0⟩) 0x8128 0x200).2.2 ⟨0x8128, 0x200, rfl⟩ (.inr (.inl rfl))
  · exact ((hwords (start ⟨0, 0⟩) 0x100E0 0x200).2.2.2 ⟨0x100E0, 0x200, rfl⟩).1
  · obtain ⟨i, hi, htext⟩ := (hdispatch (start ⟨0, 0⟩) 0xF265 0x200).2.1
      (by rw [unknown_iff]; decide)
    rw [(htext (.load 2)).mp rfl]
    exact hi

end Machine

end Chip8

import Chip8.Proofs.AssemblyText
import Chip8.Proofs.Refusal

/-!
# What a text tells

A text tells all that a word of 16 bits does. Two words that name an instruction have one text only if they
name the same one, and two that name none have one text only if they are equal, for their digits are all
there. Words that name the same instruction are equal but for what no instruction looks at: the last nibble
of a skip that compares two registers (`SameSkip`). So which words have one text is said exactly
(`disassemble_eq_iff`), and these are refused alike, with one report, or performed alike, on any machine
(`text_tells_all`).
-/

namespace Chip8

open Instruction (decode? HasForm)

/-! ### Words that name the same instruction -/

/-- Both words skip on comparing the same two registers, and both in the same way. -/
structure SameSkip (w w' : Int) : Prop where
  /-- The first word is `5xyn` or `9xyn`. -/
  compares : firstNibble w = 0x5 ∨ firstNibble w = 0x9
  /-- The other word is one of the same kind. -/
  first : firstNibble w' = firstNibble w
  second : secondNibble w' = secondNibble w
  third : thirdNibble w' = thirdNibble w

/-- A word of 16 bits is told by its first nibble and what follows it. -/
theorem eq_of_digits {a b : UInt16} (hfirst : firstNibble b.toNat = firstNibble a.toNat)
    (hrest : lastTwelve b.toNat = lastTwelve a.toNat) : a = b := by
  have ha := a.toNat_lt
  have hb := b.toNat_lt
  unfold firstNibble at hfirst
  unfold lastTwelve at hrest
  exact UInt16.toNat_inj.mp (by omega)

/-- What follows the first nibble is a register and a byte. -/
theorem lastTwelve_eq (w : Int) : lastTwelve w = 0x100 * secondNibble w + lastByte w := by
  unfold lastTwelve secondNibble lastByte
  omega

/-- A byte is two nibbles. -/
theorem lastByte_eq (w : Int) : lastByte w = 0x10 * thirdNibble w + lastNibble w := by
  unfold lastByte thirdNibble lastNibble
  omega

/-- **Words of one form are equal**, but for a nibble that is not looked at. -/
theorem eq_or_sameSkip {a b : UInt16} {i : Instruction} (ha : HasForm a.toNat i) (hb : HasForm b.toNat i) :
    a = b ∨ SameSkip a.toNat b.toNat := by
  cases i with
  | skipIfSame x y =>
    exact .inr ⟨.inl ha.1, hb.1.trans ha.1.symm, hb.2.1.symm.trans ha.2.1, hb.2.2.symm.trans ha.2.2⟩
  | skipUnlessSame x y =>
    exact .inr ⟨.inr ha.1, hb.1.trans ha.1.symm, hb.2.1.symm.trans ha.2.1, hb.2.2.symm.trans ha.2.2⟩
  | clear => exact .inl (UInt16.toNat_inj.mp (Int.ofNat_inj.mp (ha.trans hb.symm)))
  | ret => exact .inl (UInt16.toNat_inj.mp (Int.ofNat_inj.mp (ha.trans hb.symm)))
  | _ =>
    -- All four nibbles are there, one by one, two in a byte or three in an address.
    refine .inl (eq_of_digits (hb.1.trans ha.1.symm) ?_)
    simp only [HasForm] at ha hb
    have hta := lastTwelve_eq a.toNat
    have htb := lastTwelve_eq b.toNat
    have hba := lastByte_eq a.toNat
    have hbb := lastByte_eq b.toNat
    omega

/-- Two such skips name the same instruction. -/
theorem SameSkip.decode? {w w' : Int} (h : SameSkip w w') :
    ∃ i, Instruction.decode? w = some i ∧ Instruction.decode? w' = some i := by
  have hx := Fields.x_ofInt w
  have hy := Fields.y_ofInt w
  obtain ⟨h5 | h9, hfirst, hsecond, hthird⟩ := h
  · refine ⟨.skipIfSame (Fields.ofInt w).x (Fields.ofInt w).y, ?_, ?_⟩
    · exact Instruction.decode?_of_hasForm ⟨h5, hx, hy⟩
    · exact Instruction.decode?_of_hasForm ⟨hfirst.trans h5, hx.trans hsecond.symm, hy.trans hthird.symm⟩
  · refine ⟨.skipUnlessSame (Fields.ofInt w).x (Fields.ofInt w).y, ?_, ?_⟩
    · exact Instruction.decode?_of_hasForm ⟨h9, hx, hy⟩
    · exact Instruction.decode?_of_hasForm ⟨hfirst.trans h9, hx.trans hsecond.symm, hy.trans hthird.symm⟩

/-! ### Words with one text -/

theorem disassemble_of_decode? {w : Int} {i : Instruction} (h : decode? w = some i) :
    disassemble w = i.text := by
  rw [disassemble, h]

theorem disassemble_of_none {w : Int} (h : decode? w = none) : disassemble w = "??? $" ++ hex 4 w := by
  rw [disassemble, h]

/-- The text of a word that names no instruction is not that of an instruction. -/
theorem text_ne_marked (i : Instruction) (w : Int) : i.text ≠ "??? $" ++ hex 4 w := by
  intro h
  refine i.text_ne_question ("?? $".toList ++ (hex 4 w).toList) ?_
  rw [h, String.toList_append]
  rfl

/-- A word that names no instruction is told by the numeral in its text. -/
theorem eq_of_marked {a b : UInt16} (h : "??? $" ++ hex 4 a.toNat = "??? $" ++ hex 4 b.toNat) : a = b := by
  have hdigits := congrArg String.toList h
  rw [String.toList_append, String.toList_append] at hdigits
  have hvalue := congrArg (numeralValue 16) (List.append_cancel_left hdigits)
  rw [numeralValue_hex, numeralValue_hex] at hvalue
  exact UInt16.toNat_inj.mp hvalue

/-- **Which words have one text**: equal ones, and skips with the same two registers. -/
theorem disassemble_eq_iff (a b : UInt16) :
    disassemble a.toNat = disassemble b.toNat ↔ a = b ∨ SameSkip a.toNat b.toNat := by
  constructor
  · intro h
    cases hda : decode? a.toNat with
    | some i =>
      cases hdb : decode? b.toNat with
      | some j =>
        rw [disassemble_of_decode? hda, disassemble_of_decode? hdb] at h
        cases Instruction.text_injective h
        exact eq_or_sameSkip (Instruction.hasForm_of_decode? hda) (Instruction.hasForm_of_decode? hdb)
      | none =>
        rw [disassemble_of_decode? hda, disassemble_of_none hdb] at h
        exact absurd h (text_ne_marked i _)
    | none =>
      cases hdb : decode? b.toNat with
      | some j =>
        rw [disassemble_of_none hda, disassemble_of_decode? hdb] at h
        exact absurd h.symm (text_ne_marked j _)
      | none =>
        rw [disassemble_of_none hda, disassemble_of_none hdb] at h
        exact .inl (eq_of_marked h)
  · rintro (rfl | h)
    · rfl
    · obtain ⟨i, ha, hb⟩ := h.decode?
      rw [disassemble_of_decode? ha, disassemble_of_decode? hb]

/-! ### What they do -/

namespace Machine

/-- Words of 16 bits that name the same instruction are executed alike. -/
theorem execute_congr (m : Machine) {a b : UInt16} {i : Instruction} (ha : decode? a.toNat = some i)
    (hb : decode? b.toNat = some i) (address : Int) :
    m.execute a.toNat address = m.execute b.toNat address := by
  have hfits (w : UInt16) : (0 : Int) ≤ w.toNat ∧ (w.toNat : Int) < 0x10000 := by
    have hw := w.toNat_lt
    omega
  -- Only a word that names no instruction is itself part of a report.
  rcases m.execute_of_decode? (hfits a) ha address with ⟨hi, hea⟩ | ⟨hi, hea⟩ <;>
    rcases m.execute_of_decode? (hfits b) hb address with ⟨hi', heb⟩ | ⟨hi', heb⟩
  · exact hea.trans heb.symm
  · exact absurd hi hi'
  · exact absurd hi' hi
  · exact hea.trans heb.symm

/-- **The text of a word tells all that it does.** Two words of 16 bits have one text exactly if they are
equal, or both are `5xyn` or both `9xyn` with the same two registers. If they have one text, then whatever
machine they are given to, they are refused with the same report or leave the same machine; and so they do
when they are dispatched without a check. -/
theorem text_tells_all (a b : UInt16) :
    (disassemble a.toNat = disassemble b.toNat ↔ a = b ∨ SameSkip a.toNat b.toNat) ∧
      (disassemble a.toNat = disassemble b.toNat →
        ∀ (m : Machine) (address : Int),
          m.execute a.toNat address = m.execute b.toNat address ∧ m.dispatch a = m.dispatch b) := by
  refine ⟨disassemble_eq_iff a b, fun h m address => ?_⟩
  rcases (disassemble_eq_iff a b).mp h with rfl | hskip
  · exact ⟨rfl, rfl⟩
  · obtain ⟨i, ha, hb⟩ := hskip.decode?
    refine ⟨m.execute_congr ha hb address, ?_⟩
    rw [m.dispatch_of_decode? ha, m.dispatch_of_decode? hb]

/-- Two skips with one text do the same, and two loads whose texts begin alike have different ones. -/
theorem text_tells_all_skip :
    (start ⟨0, 0⟩).execute 0x5120 0x200 = (start ⟨0, 0⟩).execute 0x512F 0x200 ∧
      disassemble 0x6105 ≠ disassemble 0x8150 := by
  have hskip : SameSkip 0x5120 0x512F := ⟨.inl rfl, rfl, rfl, rfl⟩
  obtain ⟨hiff, hdoes⟩ := text_tells_all 0x5120 0x512F
  refine ⟨(hdoes (hiff.mpr (.inr hskip)) _ 0x200).1, fun h => ?_⟩
  rcases (text_tells_all 0x6105 0x8150).1.mp h with heq | hsame
  · exact absurd heq (by decide)
  · exact absurd hsame.compares (by decide)

end Machine

end Chip8

import Chip8.Instruction
import Mathlib.Tactic.SplitIfs

/-!
# Which words name an instruction

The fields of a word are digits of an integer: quotients and remainders by powers of sixteen, for
negative integers too. A word names no instruction exactly when it is `Unassigned`, which is said here
on the integer alone, and the bytes that a word touches from the index on are `reach` many. A word that
names an instruction has the digits that belong to it and to its operands (`HasForm`).
-/

namespace Chip8

/-! ### Fields as digits -/

/-- The nibble of a word that tells its category. -/
def firstNibble (w : Int) : Int := w / 0x1000 % 0x10

/-- The nibble of a word that names a register. -/
def secondNibble (w : Int) : Int := w / 0x100 % 0x10

/-- The third nibble of a word, which may name a register too. -/
def thirdNibble (w : Int) : Int := w / 0x10 % 0x10

/-- The last nibble of a word. -/
def lastNibble (w : Int) : Int := w % 0x10

/-- The last byte of a word. -/
def lastByte (w : Int) : Int := w % 0x100

/-- The last twelve bits of a word. -/
def lastTwelve (w : Int) : Int := w % 0x1000

/-- The word with these four nibbles. -/
def wordOf (a b c d : Nibble) : Int := 0x1000 * a.val + 0x100 * b.val + 0x10 * c.val + d.val

section wordOf

variable (a b c d : Nibble)

@[simp] theorem firstNibble_wordOf : firstNibble (wordOf a b c d) = a.val := by
  simp only [firstNibble, wordOf]
  omega

@[simp] theorem secondNibble_wordOf : secondNibble (wordOf a b c d) = b.val := by
  simp only [secondNibble, wordOf]
  omega

@[simp] theorem thirdNibble_wordOf : thirdNibble (wordOf a b c d) = c.val := by
  simp only [thirdNibble, wordOf]
  omega

@[simp] theorem lastNibble_wordOf : lastNibble (wordOf a b c d) = d.val := by
  simp only [lastNibble, wordOf]
  omega

@[simp] theorem lastByte_wordOf : lastByte (wordOf a b c d) = 0x10 * c.val + d.val := by
  simp only [lastByte, wordOf]
  omega

/-- A word read as a kind, a register and a byte. -/
theorem digits_wordOf :
    firstNibble (wordOf a b c d) = a.val ∧ lastByte (wordOf a b c d) = 0x10 * c.val + d.val ∧
      b.val = secondNibble (wordOf a b c d) :=
  ⟨firstNibble_wordOf a b c d, lastByte_wordOf a b c d, (secondNibble_wordOf a b c d).symm⟩

/-- Four nibbles make a word of 16 bits. -/
theorem wordOf_bounds : 0 ≤ wordOf a b c d ∧ wordOf a b c d < 0x10000 := by
  simp only [wordOf]
  omega

end wordOf

namespace Fields

theorem category_ofInt (w : Int) : ((ofInt w).category.val : Int) = firstNibble w := by
  simp only [ofInt, Nibble.ofNat, lowWord, Fin.ofNat, firstNibble, Nat.shiftRight_eq_div_pow]
  omega

theorem x_ofInt (w : Int) : ((ofInt w).x.val : Int) = secondNibble w := by
  simp only [ofInt, Nibble.ofNat, lowWord, Fin.ofNat, secondNibble, Nat.shiftRight_eq_div_pow]
  omega

theorem y_ofInt (w : Int) : ((ofInt w).y.val : Int) = thirdNibble w := by
  simp only [ofInt, Nibble.ofNat, lowWord, Fin.ofNat, thirdNibble, Nat.shiftRight_eq_div_pow]
  omega

theorem n_ofInt (w : Int) : ((ofInt w).n.val : Int) = lastNibble w := by
  simp only [ofInt, Nibble.ofNat, lowWord, Fin.ofNat, lastNibble]
  omega

theorem nn_ofInt (w : Int) : ((ofInt w).nn.toNat : Int) = lastByte w := by
  simp only [ofInt, lowWord, lastByte, UInt8.toNat_ofNat']
  omega

theorem nnn_ofInt (w : Int) : ((ofInt w).nnn.val : Int) = lastTwelve w := by
  simp only [ofInt, lowWord, Fin.ofNat, lastTwelve]
  omega

end Fields

/-- The last nibble of the words of an operation. -/
def AluOp.code : AluOp → Int
  | copy => 0x0
  | or => 0x1
  | and => 0x2
  | xor => 0x3
  | add => 0x4
  | sub => 0x5
  | shiftRight => 0x6
  | subFrom => 0x7
  | shiftLeft => 0xE

theorem AluOp.ofNibble?_eq_some_iff (n : Nibble) (op : AluOp) :
    ofNibble? n = some op ↔ (n.val : Int) = op.code := by
  revert n
  cases op <;> decide

namespace Instruction

/-! ### Words that name nothing -/

/-- The last bytes of the words of category `F` that name an instruction. -/
def miscCodes : List Int := [0x07, 0x0A, 0x15, 0x18, 0x1E, 0x29, 0x33, 0x55, 0x65]

/-- No instruction has this word. -/
def Unassigned (w : Int) : Prop :=
  firstNibble w = 0x0 ∧ w ≠ 0x00E0 ∧ w ≠ 0x00EE ∨
  firstNibble w = 0x8 ∧ ¬ (lastNibble w ≤ 7 ∨ lastNibble w = 0xE) ∨
  firstNibble w = 0xE ∧ lastByte w ≠ 0x9E ∧ lastByte w ≠ 0xA1 ∨
  firstNibble w = 0xF ∧ lastByte w ∉ miscCodes

instance (w : Int) : Decidable (Unassigned w) := inferInstanceAs (Decidable (_ ∨ _))

theorem ofNibble?_eq_none_iff (n : Nibble) :
    AluOp.ofNibble? n = none ↔ ¬ (n.val ≤ 7 ∨ n.val = 0xE) := by
  revert n
  decide

theorem ofMisc?_eq_none_iff (x : Nibble) (nn : UInt8) :
    ofMisc? x nn = none ↔ (nn.toNat : Int) ∉ miscCodes := by
  unfold ofMisc? miscCodes
  split <;> simp_all
  omega

/-- **A word names no instruction exactly when it is unassigned.** -/
theorem decode?_eq_none_iff (w : Int) : decode? w = none ↔ Unassigned w := by
  have hc := Fields.category_ofInt w
  have hlt := (Fields.ofInt w).category.isLt
  unfold decode? ofFields? Unassigned
  generalize firstNibble w = c at hc ⊢
  split
  case h_1 h =>
    rw [h] at hc
    subst hc
    rw [show (Fields.ofInt w).raw = w from rfl]
    split_ifs <;> simp_all
  case h_9 h =>
    rw [h] at hc
    subst hc
    rw [Option.map_eq_none_iff, ofNibble?_eq_none_iff, ← Fields.n_ofInt]
    simp
    omega
  case h_15 h =>
    rw [h] at hc
    subst hc
    simp only [← Fields.nn_ofInt, ← UInt8.toNat_inj]
    split_ifs <;> simp_all
    all_goals omega
  case h_16 =>
    have h : (Fields.ofInt w).category.val = 15 := by grind
    rw [h] at hc
    subst hc
    rw [ofMisc?_eq_none_iff, Fields.nn_ofInt]
    simp
  all_goals
    rename_i h
    rw [h] at hc
    subst hc
    simp

/-! ### Words with a check of their own -/

theorem decode?_eq_ret_iff (w : Int) : decode? w = some .ret ↔ w = 0x00EE := by
  constructor
  · intro h
    unfold decode? ofFields? ofMisc? at h
    rw [show (Fields.ofInt w).raw = w from rfl] at h
    grind [Option.map_eq_some_iff]
  · rintro rfl
    rfl

theorem decode?_eq_call_iff (w : Int) :
    (∃ a, decode? w = some (.call a)) ↔ firstNibble w = 2 := by
  have hc := Fields.category_ofInt w
  constructor
  · rintro ⟨a, h⟩
    unfold decode? ofFields? ofMisc? at h
    grind [Option.map_eq_some_iff]
  · intro h
    have h2 : (Fields.ofInt w).category.val = 2 := by omega
    refine ⟨(Fields.ofInt w).nnn, ?_⟩
    unfold decode? ofFields?
    rw [h2]
    rfl

/-- How many bytes a word touches from the index on. -/
def reach (w : Int) : Nat :=
  if firstNibble w = 0xD then (lastNibble w).toNat
  else if firstNibble w = 0xF ∧ lastByte w = 0x33 then 3
  else if firstNibble w = 0xF ∧ (lastByte w = 0x55 ∨ lastByte w = 0x65) then (secondNibble w).toNat + 1
  else 0

/-- The bytes that a word touches are those that its instruction does. -/
theorem span_ofInt (w : Int) : (Fields.ofInt w).span = reach w := by
  have hc := Fields.category_ofInt w
  have hx := Fields.x_ofInt w
  have hn := Fields.n_ofInt w
  have hnn := Fields.nn_ofInt w
  unfold Fields.span ofFields? reach
  split
  case h_9 h =>
    cases AluOp.ofNibble? (Fields.ofInt w).n <;> grind [span]
  all_goals grind [span, ofMisc?]

theorem span_of_decode? {w : Int} {i : Instruction} (h : decode? w = some i) : i.span = reach w := by
  rw [← span_ofInt, Fields.span, show ofFields? (Fields.ofInt w) = some i from h]
  rfl

/-! ### The form of a word -/

/-- The digits of the words that name an instruction. -/
def HasForm (w : Int) : Instruction → Prop
  | clear => w = 0x00E0
  | ret => w = 0x00EE
  | jump a => firstNibble w = 0x1 ∧ a.val = lastTwelve w
  | call a => firstNibble w = 0x2 ∧ a.val = lastTwelve w
  | skipIfByte x b => firstNibble w = 0x3 ∧ x.val = secondNibble w ∧ b.toNat = lastByte w
  | skipUnlessByte x b => firstNibble w = 0x4 ∧ x.val = secondNibble w ∧ b.toNat = lastByte w
  | skipIfSame x y => firstNibble w = 0x5 ∧ x.val = secondNibble w ∧ y.val = thirdNibble w
  | loadByte x b => firstNibble w = 0x6 ∧ x.val = secondNibble w ∧ b.toNat = lastByte w
  | addByte x b => firstNibble w = 0x7 ∧ x.val = secondNibble w ∧ b.toNat = lastByte w
  | alu op x y => firstNibble w = 0x8 ∧ lastNibble w = op.code ∧ x.val = secondNibble w ∧
      y.val = thirdNibble w
  | skipUnlessSame x y => firstNibble w = 0x9 ∧ x.val = secondNibble w ∧ y.val = thirdNibble w
  | loadIndex a => firstNibble w = 0xA ∧ a.val = lastTwelve w
  | jumpOffset a => firstNibble w = 0xB ∧ a.val = lastTwelve w
  | random x b => firstNibble w = 0xC ∧ x.val = secondNibble w ∧ b.toNat = lastByte w
  | draw x y n => firstNibble w = 0xD ∧ x.val = secondNibble w ∧ y.val = thirdNibble w ∧
      n.val = lastNibble w
  | skipIfKey x => firstNibble w = 0xE ∧ lastByte w = 0x9E ∧ x.val = secondNibble w
  | skipUnlessKey x => firstNibble w = 0xE ∧ lastByte w = 0xA1 ∧ x.val = secondNibble w
  | readDelay x => firstNibble w = 0xF ∧ lastByte w = 0x07 ∧ x.val = secondNibble w
  | waitKey x => firstNibble w = 0xF ∧ lastByte w = 0x0A ∧ x.val = secondNibble w
  | setDelay x => firstNibble w = 0xF ∧ lastByte w = 0x15 ∧ x.val = secondNibble w
  | setSound x => firstNibble w = 0xF ∧ lastByte w = 0x18 ∧ x.val = secondNibble w
  | addIndex x => firstNibble w = 0xF ∧ lastByte w = 0x1E ∧ x.val = secondNibble w
  | glyph x => firstNibble w = 0xF ∧ lastByte w = 0x29 ∧ x.val = secondNibble w
  | digits x => firstNibble w = 0xF ∧ lastByte w = 0x33 ∧ x.val = secondNibble w
  | store x => firstNibble w = 0xF ∧ lastByte w = 0x55 ∧ x.val = secondNibble w
  | load x => firstNibble w = 0xF ∧ lastByte w = 0x65 ∧ x.val = secondNibble w

/-- **A word that names an instruction has its form.** -/
theorem hasForm_of_decode? {w : Int} {i : Instruction} (h : decode? w = some i) : HasForm w i := by
  have hc := Fields.category_ofInt w
  have hx := Fields.x_ofInt w
  have hy := Fields.y_ofInt w
  have hn := Fields.n_ofInt w
  have hnn := Fields.nn_ofInt w
  have hnnn := Fields.nnn_ofInt w
  have hlt := (Fields.ofInt w).category.isLt
  -- The cases are the sixteen categories. Four of them look further than at the first nibble.
  unfold decode? ofFields? at h
  split at h
  case h_1 =>
    rw [show (Fields.ofInt w).raw = w from rfl] at h
    split_ifs at h with h0 h1 <;> cases h
    · exact h0
    · exact h1
  case h_9 hcat =>
    obtain ⟨op, hop, rfl⟩ := Option.map_eq_some_iff.mp h
    rw [AluOp.ofNibble?_eq_some_iff] at hop
    exact ⟨by omega, by omega, hx, hy⟩
  case h_15 hcat =>
    simp only [← UInt8.toNat_inj] at h
    split_ifs at h with h0 h1 <;> cases h
    · exact ⟨by omega, by rw [← hnn, h0]; rfl, hx⟩
    · exact ⟨by omega, by rw [← hnn, h1]; rfl, hx⟩
  case h_16 =>
    have hcat : firstNibble w = 0xF := by grind
    unfold ofMisc? at h
    split at h <;> cases h <;> exact ⟨hcat, by omega, hx⟩
  all_goals cases h
  all_goals simp_all [HasForm]

/-- The form of a word tells the instruction. -/
theorem decode?_of_hasForm {w : Int} {i : Instruction} (h : HasForm w i) : decode? w = some i := by
  -- The digits of the word are those of its fields, and tell them.
  have hc : (Fields.ofInt w).category.val = (firstNibble w).toNat := by
    rw [← Fields.category_ofInt, Int.toNat_natCast]
  have hb : (Fields.ofInt w).nn.toNat = (lastByte w).toNat := by
    rw [← Fields.nn_ofInt, Int.toNat_natCast]
  have hx (x : Nibble) : (x.val : Int) = secondNibble w ↔ x = (Fields.ofInt w).x := by
    rw [← Fields.x_ofInt, Int.ofNat_inj, Fin.ext_iff]
  have hy (y : Nibble) : (y.val : Int) = thirdNibble w ↔ y = (Fields.ofInt w).y := by
    rw [← Fields.y_ofInt, Int.ofNat_inj, Fin.ext_iff]
  have hn (n : Nibble) : (n.val : Int) = lastNibble w ↔ n = (Fields.ofInt w).n := by
    rw [← Fields.n_ofInt, Int.ofNat_inj, Fin.ext_iff]
  have hnn (b : UInt8) : (b.toNat : Int) = lastByte w ↔ b = (Fields.ofInt w).nn := by
    rw [← Fields.nn_ofInt, Int.ofNat_inj, UInt8.toNat_inj]
  have hnnn (a : Address) : (a.val : Int) = lastTwelve w ↔ a = (Fields.ofInt w).nnn := by
    rw [← Fields.nnn_ofInt, Int.ofNat_inj, Fin.ext_iff]
  unfold decode? ofFields?
  cases i with
  | clear =>
    cases (show w = 0x00E0 from h)
    rfl
  | ret =>
    cases (show w = 0x00EE from h)
    rfl
  | alu op x y =>
    obtain ⟨h8, hop, hxy⟩ := h
    rw [← Fields.n_ofInt, ← AluOp.ofNibble?_eq_some_iff] at hop
    simp only [hx, hy] at hxy
    simp only [hc, h8, hop, hxy, Int.reduceToNat, Option.map_some]
  | skipIfKey x =>
    simp only [HasForm, hx] at h
    simp [hc, h, ← UInt8.toNat_inj, hb]
  | skipUnlessKey x =>
    simp only [HasForm, hx] at h
    simp [hc, h, ← UInt8.toNat_inj, hb]
  | _ =>
    simp only [HasForm, hx, hy, hn, hnn, hnnn] at h
    simp only [hc, hb, h, Int.reduceToNat, ofMisc?]

end Instruction

end Chip8

import Chip8.Proofs.Decoding
import Chip8.Proofs.Footprint
import Chip8.Proofs.Keypad

/-!
# What an instruction leaves alone

Every instruction changes a few fields of the machine and leaves the others alone. For each field it is
said which instructions may change it, and then, as `Frame`, which digits a word must have to change it:
`MayGo` for the program counter and `MayLoad` for a register. A word that is performed changes nothing
else (`execute_frame`).

The framebuffer and its flag go together: an instruction that leaves the flag down has left the
framebuffer as it was.
-/

namespace Chip8.Machine

open Instruction (decode? HasForm)

/-! ### Who changes a field

The machine is taken apart first, as for the stack and for memory. -/

/-- Waiting for a key loads a register or goes back, and does nothing else. -/
theorem perform_waitKey (m : Machine) (x : Nibble) :
    (∃ key, m.keypad.lowest? = some key ∧
        m.perform (.waitKey x) = m.load x (UInt8.ofNat key)) ∨
      m.keypad.lowest? = none ∧ m.perform (.waitKey x) = { m with pc := m.pc - 2 } := by
  cases h : m.keypad.lowest? with
  | some key => exact .inl ⟨key, rfl, by simp only [perform, h]⟩
  | none => exact .inr ⟨rfl, by simp only [perform, h]⟩

/-- No instruction moves a key. -/
theorem keypad_perform (m : Machine) (i : Instruction) : (m.perform i).keypad = m.keypad := by
  obtain ⟨rng, memory, pc, display, dirty, stack, delay, sound, keypad, v, index⟩ := m
  show _ = keypad
  cases i with
  | waitKey x =>
    rcases perform_waitKey _ x with ⟨key, -, h⟩ | ⟨-, h⟩
    · rw [h]
      rfl
    · rw [h]
  | _ => rfl

theorem delay_perform (m : Machine) (i : Instruction) :
    (m.perform i).delay = m.delay ∨ ∃ x, i = .setDelay x := by
  obtain ⟨rng, memory, pc, display, dirty, stack, delay, sound, keypad, v, index⟩ := m
  show _ = delay ∨ _
  cases i with
  | setDelay x => exact .inr ⟨x, rfl⟩
  | waitKey x => rcases perform_waitKey _ x with ⟨key, -, h⟩ | ⟨-, h⟩ <;> rw [h] <;> exact .inl rfl
  | _ => exact .inl rfl

theorem sound_perform (m : Machine) (i : Instruction) :
    (m.perform i).sound = m.sound ∨ ∃ x, i = .setSound x := by
  obtain ⟨rng, memory, pc, display, dirty, stack, delay, sound, keypad, v, index⟩ := m
  show _ = sound ∨ _
  cases i with
  | setSound x => exact .inr ⟨x, rfl⟩
  | waitKey x => rcases perform_waitKey _ x with ⟨key, -, h⟩ | ⟨-, h⟩ <;> rw [h] <;> exact .inl rfl
  | _ => exact .inl rfl

theorem rng_perform (m : Machine) (i : Instruction) :
    (m.perform i).rng = m.rng ∨ ∃ x mask, i = .random x mask := by
  obtain ⟨rng, memory, pc, display, dirty, stack, delay, sound, keypad, v, index⟩ := m
  show _ = rng ∨ _
  cases i with
  | random x mask => exact .inr ⟨x, mask, rfl⟩
  | waitKey x => rcases perform_waitKey _ x with ⟨key, -, h⟩ | ⟨-, h⟩ <;> rw [h] <;> exact .inl rfl
  | _ => exact .inl rfl

theorem index_perform (m : Machine) (i : Instruction) :
    (m.perform i).i = m.i ∨ (∃ a, i = .loadIndex a) ∨ (∃ x, i = .addIndex x) ∨ ∃ x, i = .glyph x := by
  obtain ⟨rng, memory, pc, display, dirty, stack, delay, sound, keypad, v, index⟩ := m
  show _ = index ∨ _
  cases i with
  | loadIndex a => exact .inr (.inl ⟨a, rfl⟩)
  | addIndex x => exact .inr (.inr (.inl ⟨x, rfl⟩))
  | glyph x => exact .inr (.inr (.inr ⟨x, rfl⟩))
  | waitKey x => rcases perform_waitKey _ x with ⟨key, -, h⟩ | ⟨-, h⟩ <;> rw [h] <;> exact .inl rfl
  | _ => exact .inl rfl

/-- **Who writes the framebuffer raises the flag.** -/
theorem display_perform (m : Machine) (i : Instruction) :
    (m.perform i).display = m.display ∧ (m.perform i).dirty = m.dirty ∨
      (m.perform i).dirty = true ∧ (i = .clear ∨ ∃ x y n, i = .draw x y n) := by
  obtain ⟨rng, memory, pc, display, dirty, stack, delay, sound, keypad, v, index⟩ := m
  show _ = display ∧ _ = dirty ∨ _
  cases i with
  | clear => exact .inr ⟨rfl, .inl rfl⟩
  | draw x y n => exact .inr ⟨rfl, .inr ⟨x, y, n, rfl⟩⟩
  | waitKey x =>
    rcases perform_waitKey _ x with ⟨key, -, h⟩ | ⟨-, h⟩ <;> rw [h] <;> exact .inl ⟨rfl, rfl⟩
  | _ => exact .inl ⟨rfl, rfl⟩

/-- An instruction that leaves the flag down found it down and leaves the framebuffer alone. -/
theorem display_perform_of_clean {m : Machine} {i : Instruction} (h : (m.perform i).dirty = false) :
    (m.perform i).display = m.display ∧ m.dirty = false := by
  rcases m.display_perform i with ⟨hd, hf⟩ | ⟨hf, -⟩
  · exact ⟨hd, hf ▸ h⟩
  · rw [hf] at h
    cases h

/-! ### The program counter -/

/-- The words that may move the program counter. -/
inductive MayGo (m : Machine) (w : Int) : Prop
  /-- `1nnn`, `2nnn` and `Bnnn`. -/
  | jump (hw : firstNibble w = 0x1 ∨ firstNibble w = 0x2 ∨ firstNibble w = 0xB)
  /-- `00EE`. -/
  | ret (hw : w = 0x00EE)
  /-- `3xnn`, `4xnn`, `5xy0` and `9xy0`. -/
  | skip (hw : firstNibble w = 0x3 ∨ firstNibble w = 0x4 ∨ firstNibble w = 0x5 ∨ firstNibble w = 0x9)
  /-- `Ex9E` and `ExA1`. -/
  | skipKey (hw : firstNibble w = 0xE) (hb : lastByte w = 0x9E ∨ lastByte w = 0xA1)
  /-- `Fx0A` while every key is up. -/
  | waitKey (hw : firstNibble w = 0xF) (hb : lastByte w = 0x0A)
      (hup : ∀ key : Nibble, m.keypad.get key = false)

theorem pc_perform {m : Machine} {w : Int} {i : Instruction} (hw : HasForm w i) :
    (m.perform i).pc = m.pc ∨ MayGo m w := by
  obtain ⟨rng, memory, pc, display, dirty, stack, delay, sound, keypad, v, index⟩ := m
  show _ = pc ∨ _
  cases i with
  | jump a => exact .inr (.jump (.inl hw.1))
  | call a => exact .inr (.jump (.inr (.inl hw.1)))
  | jumpOffset a => exact .inr (.jump (.inr (.inr hw.1)))
  | ret => exact .inr (.ret hw)
  | skipIfByte x b => exact .inr (.skip (.inl hw.1))
  | skipUnlessByte x b => exact .inr (.skip (.inr (.inl hw.1)))
  | skipIfSame x y => exact .inr (.skip (.inr (.inr (.inl hw.1))))
  | skipUnlessSame x y => exact .inr (.skip (.inr (.inr (.inr hw.1))))
  | skipIfKey x => exact .inr (.skipKey hw.1 (.inl hw.2.1))
  | skipUnlessKey x => exact .inr (.skipKey hw.1 (.inr hw.2.1))
  | waitKey x =>
    rcases perform_waitKey _ x with ⟨key, -, h⟩ | ⟨hup, h⟩
    · rw [h]
      exact .inl rfl
    · exact .inr (.waitKey hw.1 hw.2.1 (Keypad.lowest?_eq_none_iff.mp hup))
  | _ => exact .inl rfl

/-! ### The registers -/

theorem register_load (m : Machine) (x : Nibble) (b : UInt8) (k : Nibble) :
    (m.load x b).register k = if k = x then b else m.register k := by
  show (m.v.set x b (Nibble.lt x))[k.val] = _
  rw [Vector.getElem_set]
  by_cases hk : k = x
  · rw [if_pos hk, if_pos (congrArg Fin.val hk.symm)]
  · rw [if_neg hk, if_neg fun h => hk (Fin.ext h.symm)]
    rfl

/-- Copying and the logical operations hand the flag back. -/
theorem snd_apply_of_code_le {op : AluOp} (h : op.code ≤ 3) (a b f : UInt8) : (op.apply a b f).2 = f := by
  cases op with
  | copy => rfl
  | or => rfl
  | and => rfl
  | xor => rfl
  | _ => exact absurd h (by decide)

/-- The words that may load a register. -/
inductive MayLoad (m : Machine) (w : Int) (k : Nibble) : Prop
  /-- `6xnn`, `7xnn` and `Cxnn`: the register `x`. -/
  | byte (hw : firstNibble w = 0x6 ∨ firstNibble w = 0x7 ∨ firstNibble w = 0xC)
      (hk : k.val = secondNibble w)
  /-- `8xy0` to `8xy3`: the register `x`. -/
  | logic (hw : firstNibble w = 0x8) (hn : lastNibble w ≤ 3) (hk : k.val = secondNibble w)
  /-- `8xy4` to `8xy7` and `8xyE`: the register `x` and the flag. -/
  | arithmetic (hw : firstNibble w = 0x8)
      (hn : 4 ≤ lastNibble w ∧ lastNibble w ≤ 7 ∨ lastNibble w = 0xE)
      (hk : k.val = secondNibble w ∨ k = flagRegister)
  /-- `Dxyn`: the flag. -/
  | draw (hw : firstNibble w = 0xD) (hk : k = flagRegister)
  /-- `Fx07`: the register `x`. -/
  | readDelay (hw : firstNibble w = 0xF) (hb : lastByte w = 0x07) (hk : k.val = secondNibble w)
  /-- `Fx0A` while some key is down: the register `x`. -/
  | waitKey (hw : firstNibble w = 0xF) (hb : lastByte w = 0x0A)
      (hdown : ∃ key : Nibble, m.keypad.get key = true) (hk : k.val = secondNibble w)
  /-- `Fx1E`: the flag. -/
  | addIndex (hw : firstNibble w = 0xF) (hb : lastByte w = 0x1E) (hk : k = flagRegister)
  /-- `Fx65`: the registers up to `x`. -/
  | load (hw : firstNibble w = 0xF) (hb : lastByte w = 0x65) (hk : k.val ≤ secondNibble w)

/-- An operation loads `x`, and the flag unless it hands it back. -/
theorem register_perform_alu {m : Machine} {w : Int} {op : AluOp} {x y : Nibble}
    (hw : HasForm w (.alu op x y)) (k : Nibble) :
    (m.perform (.alu op x y)).register k = m.register k ∨ MayLoad m w k := by
  obtain ⟨h8, hop, hx, -⟩ := hw
  by_cases hkx : k = x
  · subst hkx
    by_cases hle : op.code ≤ 3
    · exact .inr (.logic h8 (by omega) hx)
    · exact .inr (.arithmetic h8 (by rw [hop]; revert hle; cases op <;> decide) (.inl hx))
  · have hperform : (m.perform (.alu op x y)).register k =
        if k = flagRegister then (op.apply (m.register x) (m.register y) (m.register flagRegister)).2
        else m.register k := by
      simp only [perform]
      rw [register_load, if_neg hkx, register_load]
    rw [hperform]
    by_cases hkf : k = flagRegister
    · by_cases hle : op.code ≤ 3
      · rw [if_pos hkf, snd_apply_of_code_le hle, hkf]
        exact .inl rfl
      · exact .inr (.arithmetic h8 (by rw [hop]; revert hle; cases op <;> decide) (.inr hkf))
    · rw [if_neg hkf]
      exact .inl rfl

/-- Loading one register leaves the others alone. -/
theorem get_set_or (v : Vector UInt8 16) (x : Nibble) (b : UInt8) (k : Nibble) :
    (v.set x b (Nibble.lt x)).get k = v.get k ∨ k = x := by
  by_cases hk : k = x
  · exact .inr hk
  · exact .inl (Vector.getElem_set_ne (Nibble.lt x) k.isLt fun h => hk (Fin.ext h.symm))

theorem register_perform {m : Machine} {w : Int} {i : Instruction} (hw : HasForm w i) (k : Nibble) :
    (m.perform i).register k = m.register k ∨ MayLoad m w k := by
  by_cases halu : ∃ op x y, i = .alu op x y
  · obtain ⟨op, x, y, rfl⟩ := halu
    exact register_perform_alu hw k
  · obtain ⟨rng, memory, pc, display, dirty, stack, delay, sound, keypad, v, index⟩ := m
    show _ = v.get k ∨ _
    cases i with
    | alu op x y => exact absurd ⟨op, x, y, rfl⟩ halu
    | loadByte x b =>
      rcases get_set_or v x b k with h | rfl
      · exact .inl h
      · exact .inr (.byte (.inl hw.1) hw.2.1)
    | addByte x b =>
      rcases get_set_or v x (v.get x + b) k with h | rfl
      · exact .inl h
      · exact .inr (.byte (.inr (.inl hw.1)) hw.2.1)
    | random x mask =>
      rcases get_set_or v x (Random.byte rng &&& mask) k with h | rfl
      · exact .inl h
      · exact .inr (.byte (.inr (.inr hw.1)) hw.2.1)
    | draw x y n => exact (get_set_or v flagRegister _ k).imp id fun hk => .draw hw.1 hk
    | readDelay x =>
      rcases get_set_or v x delay k with h | rfl
      · exact .inl h
      · exact .inr (.readDelay hw.1 hw.2.1 hw.2.2)
    | waitKey x =>
      rcases perform_waitKey _ x with ⟨key, hdown, h⟩ | ⟨-, h⟩ <;> rw [h]
      · rcases get_set_or v x (UInt8.ofNat key) k with h | rfl
        · exact .inl h
        · exact .inr (.waitKey hw.1 hw.2.1 ⟨key, Keypad.get_of_lowest? hdown⟩ hw.2.2)
      · exact .inl rfl
    | addIndex x => exact (get_set_or v flagRegister _ k).imp id fun hk => .addIndex hw.1 hw.2.1 hk
    | load x =>
      by_cases hk : k.val ≤ x.val
      · exact .inr (.load hw.1 hw.2.1 (by have := hw.2.2; omega))
      · refine .inl ?_
        show (Vector.ofFn _)[k.val] = _
        rw [Vector.getElem_ofFn, if_neg hk]
        rfl
    | _ => exact .inl rfl

/-! ### The frame of a word -/

/-- What is left alone, field by field, unless the word says otherwise. -/
structure Frame (w : Int) (m m' : Machine) : Prop where
  keypad : m'.keypad = m.keypad
  delay : m'.delay ≠ m.delay → firstNibble w = 0xF ∧ lastByte w = 0x15
  sound : m'.sound ≠ m.sound → firstNibble w = 0xF ∧ lastByte w = 0x18
  rng : m'.rng ≠ m.rng → firstNibble w = 0xC
  memory : m'.memory ≠ m.memory → firstNibble w = 0xF ∧ (lastByte w = 0x33 ∨ lastByte w = 0x55)
  display : m'.display ≠ m.display → w = 0x00E0 ∨ firstNibble w = 0xD
  dirty : m'.dirty ≠ m.dirty → w = 0x00E0 ∨ firstNibble w = 0xD
  /-- The flag of the framebuffer is not lowered. -/
  raised : m.dirty = true → m'.dirty = true
  stack : m'.stack ≠ m.stack → firstNibble w = 0x2 ∨ w = 0x00EE
  index : m'.i ≠ m.i → firstNibble w = 0xA ∨ firstNibble w = 0xF ∧ (lastByte w = 0x1E ∨ lastByte w = 0x29)
  pc : m'.pc ≠ m.pc → MayGo m w
  register : ∀ k, m'.register k ≠ m.register k → MayLoad m w k

/-- A word that draws or clears the screen. -/
theorem screen_of_form {w : Int} {i : Instruction} (hw : HasForm w i)
    (hi : i = .clear ∨ ∃ x y n, i = .draw x y n) : w = 0x00E0 ∨ firstNibble w = 0xD := by
  rcases hi with rfl | ⟨x, y, n, rfl⟩
  · exact .inl hw
  · exact .inr hw.1

/-- An instruction keeps to the frame of its word. -/
theorem frame_perform (m : Machine) {w : Int} {i : Instruction} (hw : HasForm w i) :
    Frame w m (m.perform i) where
  keypad := m.keypad_perform i
  delay := by
    intro h
    obtain ⟨x, rfl⟩ := (m.delay_perform i).resolve_left h
    exact ⟨hw.1, hw.2.1⟩
  sound := by
    intro h
    obtain ⟨x, rfl⟩ := (m.sound_perform i).resolve_left h
    exact ⟨hw.1, hw.2.1⟩
  rng := by
    intro h
    obtain ⟨x, mask, rfl⟩ := (m.rng_perform i).resolve_left h
    exact hw.1
  memory := by
    intro h
    refine Classical.byContradiction fun hn => ?_
    refine h (m.memory_perform (fun x hi => ?_) fun x hi => ?_) <;> subst hi
    · exact hn ⟨hw.1, .inl hw.2.1⟩
    · exact hn ⟨hw.1, .inr hw.2.1⟩
  display := by
    intro h
    rcases m.display_perform i with ⟨hd, -⟩ | ⟨-, hi⟩
    · exact absurd hd h
    · exact screen_of_form hw hi
  dirty := by
    intro h
    rcases m.display_perform i with ⟨-, hf⟩ | ⟨-, hi⟩
    · exact absurd hf h
    · exact screen_of_form hw hi
  raised := by
    intro h
    rcases m.display_perform i with ⟨-, hf⟩ | ⟨hf, -⟩
    · rw [hf, h]
    · exact hf
  stack := by
    intro h
    refine Classical.byContradiction fun hn => ?_
    refine h (m.stack_perform (fun hi => ?_) fun a hi => ?_) <;> subst hi
    · exact hn (.inr hw)
    · exact hn (.inl hw.1)
  index := by
    intro h
    rcases (m.index_perform i).resolve_left h with ⟨a, rfl⟩ | ⟨x, rfl⟩ | ⟨x, rfl⟩
    · exact .inl hw.1
    · exact .inr ⟨hw.1, .inl hw.2.1⟩
    · exact .inr ⟨hw.1, .inr hw.2.1⟩
  pc := (pc_perform hw).resolve_left
  register := fun k => (register_perform hw k).resolve_left

/-- **The frame of every instruction**: a word that is performed changes nothing outside of its frame,
whether it is given from outside or fetched; then nothing outside of its frame but the program counter,
which is past it. -/
theorem execute_frame (m : Machine) :
    (∀ (w address : Int) (m' : Machine), m.execute w address = .ok m' → Frame w m m') ∧
      ∀ m', m.step = .ok m' → Frame m.word.toNat { m with pc := m.pc + 2 } m' := by
  constructor
  · intro w address m' h
    obtain ⟨-, i, hd, -, rfl⟩ := execute_eq_ok_iff.mp h
    exact frame_perform m (Instruction.hasForm_of_decode? hd)
  · intro m' h
    obtain ⟨-, i, hd, -, rfl⟩ := step_eq_ok_iff.mp h
    exact frame_perform m.fetch.1 (Instruction.hasForm_of_decode? hd)

/-- Just before the end of memory, a load of one register is a load of no other, though all sixteen bytes
are read. -/
theorem execute_frame_nearEnd :
    ∃ m', nearEnd.execute 0xF065 0x200 = .ok m' ∧
      ∀ k : Nibble, k.val ≠ 0 → m'.register k = nearEnd.register k := by
  have hok : (nearEnd.execute 0xF065 0x200).isOk = true := by decide +kernel
  cases hm : nearEnd.execute 0xF065 0x200 with
  | error r =>
    rw [hm] at hok
    cases hok
  | ok m' =>
    refine ⟨m', rfl, fun k hk => Classical.byContradiction fun hne => ?_⟩
    cases ((execute_frame nearEnd).1 0xF065 0x200 m' hm).register k hne with
    | load hw hb hle =>
      have hx : secondNibble 0xF065 = 0 := by decide
      omega
    | byte hw hx => exact absurd hw (by decide)
    | logic hw hn hx => exact absurd hw (by decide)
    | arithmetic hw hn hx => exact absurd hw (by decide)
    | draw hw hx => exact absurd hw (by decide)
    | readDelay hw hb hx => exact absurd hb (by decide)
    | waitKey hw hb hdown hx => exact absurd hb (by decide)
    | addIndex hw hb hx => exact absurd hb (by decide)

end Chip8.Machine

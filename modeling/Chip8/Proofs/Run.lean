import Chip8.Proofs.Step

/-!
# Runs

What can happen to a machine, in any order and number: programs are loaded, instructions are fetched
and performed, the timers count down, keys move, the framebuffer is shown. An event that fails leaves
the machine as it was. `Sound` is what holds of the machine at all times, whatever program it runs: it
holds at the start, an instruction that is let through keeps it, and so does everything else
(`Sound.run`).

The bounds on the program counter and on the stack need each other. A return goes to what a slot holds,
so the slots must hold addresses; and a step is refused only when its word is not in memory, so a call
may be made from the very end of it and leave an address past the end to keep, which is cut to 12 bits.
-/

namespace Chip8.Machine

/-! ### Events -/

/-- What can happen to a machine. -/
inductive Event where
  /-- A program is loaded. -/
  | load (rom : List UInt8)
  /-- An instruction is fetched and performed. -/
  | step
  /-- The timers count down. -/
  | tick (ticks : Int)
  /-- Keys move. -/
  | press (events : List KeyEvent)
  /-- The framebuffer is shown. -/
  | shown
deriving DecidableEq, Repr

/-- Why an event does not happen. -/
inductive Failure where
  /-- The program does not fit. -/
  | rom (e : RomTooLarge)
  /-- The instruction is at fault. -/
  | fault (f : Fault)
  /-- The ticks are too many. -/
  | ticks (e : TooManyTicks)
deriving DecidableEq, Repr

/-- The machine after an event, or why the event fails. -/
def attempt (m : Machine) : Event → Except Failure Machine
  | .load rom => (m.loadRom rom).mapError .rom
  | .step => m.step.mapError .fault
  | .tick n => (m.tick n).mapError .ticks
  | .press events => .ok (m.press events)
  | .shown => .ok { m with dirty := false }

/-- The machine after an event; one that fails leaves it as it was. -/
def after (m : Machine) (e : Event) : Machine :=
  match m.attempt e with
  | .ok m' => m'
  | .error _ => m

/-- An event that does not fail gives the machine after it. -/
theorem attempt_after {m : Machine} {e : Event} (h : (m.attempt e).isOk = true) :
    m.attempt e = .ok (m.after e) := by
  unfold after
  cases he : m.attempt e with
  | ok m' => rfl
  | error f =>
    rw [he] at h
    cases h

/-- The machine after some events, the first one first. -/
def run (m : Machine) (es : List Event) : Machine := es.foldl after m

/-- A step is one of the events. -/
theorem attempt_step_eq_ok_iff {m m' : Machine} : m.attempt .step = .ok m' ↔ m.step = .ok m' := by
  unfold attempt
  cases m.step with
  | error f => constructor <;> (intro h; cases h)
  | ok s => constructor <;> (intro h; cases h; rfl)

/-- A fault of an event is one of a step. -/
theorem attempt_eq_fault_iff {m : Machine} {e : Event} {f : Fault} :
    m.attempt e = .error (.fault f) ↔ e = .step ∧ m.step = .error f := by
  constructor
  · intro h
    cases e with
    | step =>
      simp only [attempt] at h
      cases hs : m.step <;> rw [hs] at h <;> cases h
      exact ⟨rfl, rfl⟩
    | load rom =>
      simp only [attempt] at h
      cases hl : m.loadRom rom <;> rw [hl] at h <;> cases h
    | tick n =>
      simp only [attempt] at h
      cases ht : m.tick n <;> rw [ht] at h <;> cases h
    | press events => cases h
    | shown => cases h
  · rintro ⟨rfl, hs⟩
    simp only [attempt, hs]
    rfl

/-- The fields that no event but a step changes. -/
structure SameCore (m m' : Machine) : Prop where
  rng : m'.rng = m.rng
  pc : m'.pc = m.pc
  display : m'.display = m.display
  stack : m'.stack = m.stack
  v : m'.v = m.v
  i : m'.i = m.i

/-- **An event that succeeds** is a step, or leaves alone what only a step changes. -/
theorem step_or_sameCore {m m' : Machine} {e : Event} (h : m.attempt e = .ok m') :
    e = .step ∧ m.step = .ok m' ∨ SameCore m m' := by
  cases e with
  | load rom =>
    simp only [attempt, loadRom] at h
    split at h <;> cases h
    exact .inr ⟨rfl, rfl, rfl, rfl, rfl, rfl⟩
  | step =>
    exact .inl ⟨rfl, attempt_step_eq_ok_iff.mp h⟩
  | tick n =>
    simp only [attempt, tick] at h
    split at h <;> cases h
    exact .inr ⟨rfl, rfl, rfl, rfl, rfl, rfl⟩
  | press events =>
    cases h
    exact .inr ⟨rfl, rfl, rfl, rfl, rfl, rfl⟩
  | shown =>
    cases h
    exact .inr ⟨rfl, rfl, rfl, rfl, rfl, rfl⟩

/-! ### What holds at all times -/

/-- What holds of a machine whatever has happened to it. -/
structure Sound (m : Machine) : Prop where
  /-- The stack is within its bounds. -/
  stack : m.stack.WellFormed
  /-- Every cell of the display is zero or one. -/
  display : m.display.Binary
  /-- The program counter is at most the last address and the largest offset. -/
  pc_le : m.pc.toNat ≤ 0x10FE

theorem sound_start (key : Random.Block) : (start key).Sound where
  stack := CallStack.wellFormed_empty
  display := Display.binary_blank
  pc_le := show (0x200 : UInt16).toNat ≤ 0x10FE by decide

/-- An instruction that is let through keeps the stack within its bounds. -/
theorem wellFormed_perform {m : Machine} {i : Instruction} (hm : m.stack.WellFormed)
    (hi : m.Allows i) : (m.perform i).stack.WellFormed := by
  rcases stack_perform_cases hi with hs | ⟨a, hroom, hs⟩ | ⟨h0, hs, -⟩
  · rw [hs]
    exact hm
  · rw [hs]
    exact hm.push hroom a
  · rw [hs]
    exact hm.pop h0

theorem Sound.step {m m' : Machine} (hm : m.Sound) (h : m.step = .ok m') : m'.Sound := by
  obtain ⟨hpc, i, -, hi, rfl⟩ := step_eq_ok_iff.mp h
  have hfetch := toNat_pc_fetch (m := m) (by omega)
  refine ⟨wellFormed_perform hm.stack hi, binary_perform (m := m.fetch.1) hm.display i, ?_⟩
  refine toNat_pc_perform_le (by omega) (by omega) fun hr => ?_
  subst hr
  exact hm.stack.snd_pop_le hi

theorem Sound.attempt {m m' : Machine} {e : Event} (hm : m.Sound) (h : m.attempt e = .ok m') :
    m'.Sound := by
  rcases step_or_sameCore h with ⟨-, hs⟩ | hs
  · exact hm.step hs
  · exact ⟨hs.stack ▸ hm.stack, hs.display ▸ hm.display, hs.pc ▸ hm.pc_le⟩

theorem Sound.after {m : Machine} (hm : m.Sound) (e : Event) : (m.after e).Sound := by
  unfold Machine.after
  split
  case h_1 m' h => exact hm.attempt h
  case h_2 => exact hm

theorem Sound.run {m : Machine} (hm : m.Sound) (es : List Event) : (m.run es).Sound := by
  induction es generalizing m with
  | nil => exact hm
  | cons e es ih => exact ih (hm.after e)

/-! ### Addresses that do not wrap -/

/-- Nothing that a step adds to the program counter wraps, and a fetch reads its two bytes where they
are. -/
structure Unwrapped (m : Machine) : Prop where
  /-- The address of the low byte. -/
  low : (m.pc + 1).toNat = m.pc.toNat + 1
  /-- The program counter past the word. -/
  fetched : m.fetch.1.pc.toNat = m.pc.toNat + 2
  /-- The program counter after a skip. -/
  skipped : ∀ c, (m.fetch.1.skipWhen c).pc.toNat = m.pc.toNat + 2 + if c then 2 else 0
  /-- The program counter when a key is waited for. -/
  waiting : ∀ x, m.keypad.lowest? = none →
    (m.fetch.1.perform (.waitKey x)).pc.toNat = m.fetch.1.pc.toNat - 2 ∧
      (m.fetch.1.perform (.waitKey x)).pc = m.pc
  /-- A word that crosses the end of memory is refused before it is read. -/
  refused : 4096 ≤ m.pc.toNat + 1 →
    m.step = .error (.memoryAccess (m.pc.toNat + 1) m.pc.toNat)
  /-- Any other word is read as it stands in memory. -/
  read : ∀ h : m.pc.toNat + 1 < 4096,
    m.word.toNat = 256 * m.memory[m.pc.toNat].toNat + m.memory[m.pc.toNat + 1].toNat

theorem Sound.unwrapped {m : Machine} (hm : m.Sound) : m.Unwrapped := by
  have hpc := hm.pc_le
  have hfetch := toNat_pc_fetch (m := m) (by omega)
  refine ⟨?_, hfetch, fun c => ?_, fun x hx => ?_, step_of_le, fun h => ?_⟩
  · simp only [UInt16.toNat_add, UInt16.reduceToNat]
    omega
  · rw [toNat_pc_skipWhen (by omega), hfetch]
  · have hw : (m.fetch.1.perform (.waitKey x)).pc = m.pc + 2 - 2 := by
      simp only [perform, show m.fetch.1.keypad = m.keypad from rfl, hx]
      rfl
    have hback : (m.pc + 2 - 2) = m.pc := UInt16.add_sub_cancel m.pc 2
    rw [hw, hback]
    exact ⟨by omega, rfl⟩
  · rw [toNat_word (by omega), Memory.read_of_lt _ h, Memory.read_of_lt _ (by omega)]

/-- **Whatever happens to a machine**, its stack and its display are in order, and a step takes no
address that wraps or lies outside of memory. -/
theorem run_sound (key : Random.Block) (es : List Event) :
    ((start key).run es).Sound ∧ ((start key).run es).Unwrapped := by
  have h := (sound_start key).run es
  exact ⟨h, h.unwrapped⟩

end Chip8.Machine

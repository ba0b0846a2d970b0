import Chip8.Proofs.CompletedCycle

/-!
# Waiting for a key

An instruction that waits for a key goes back to itself as long as every key is up: the fetch before it has
moved the program counter by just as much, so that the step leaves the machine as it was
(`AwaitsKey.step_of_up`). A cycle then changes only what it changes without an instruction, which does not
take the machine off the waiting instruction; so it is for any number of cycles (`Waits.waited`).

Whether a key is down is seen when all events of the poll have moved their keys. A key that goes down and up
again within one poll is missed. The first poll that leaves some key down ends the waiting in that same cycle,
and the lowest such key is the one that is loaded (`waits_until_key`).
-/

namespace Chip8

open Instruction (decode? HasForm)

namespace Machine

/-! ### The instruction that waits -/

/-- The word at the program counter is in memory and is `Fx0A`. -/
structure AwaitsKey (m : Machine) (x : Nibble) : Prop where
  inMemory : m.pc.toNat + 1 < 4096
  word : (m.word.toNat : Int) = wordOf 0xF x 0x0 0xA

variable {m : Machine} {x : Nibble}

theorem AwaitsKey.step (h : m.AwaitsKey x) : m.step = .ok (m.fetch.1.perform (.waitKey x)) := by
  have hd : decode? m.word.toNat = some (.waitKey x) := by
    rw [h.word]
    exact Instruction.decode?_of_hasForm (digits_wordOf 0xF x 0x0 0xA)
  exact step_eq_ok_iff.mpr ⟨h.inMemory, _, hd, fun hspan => absurd rfl hspan, rfl⟩

/-- **A step that waits changes nothing.** -/
theorem AwaitsKey.step_of_up (h : m.AwaitsKey x) (hup : ∀ key : Nibble, m.keypad.get key = false) :
    m.step = .ok m := by
  have hnone : m.fetch.1.keypad.lowest? = none := Keypad.lowest?_eq_none_iff.mpr hup
  rw [h.step]
  rcases m.fetch.1.perform_waitKey x with ⟨key, hdown, -⟩ | ⟨-, hback⟩
  · rw [hnone] at hdown
    cases hdown
  · rw [hback]
    show Except.ok { m with pc := m.pc + 2 - 2 } = _
    rw [UInt16.add_sub_cancel]

/-- A step that no longer waits loads the lowest key that is down. -/
theorem AwaitsKey.step_of_down (h : m.AwaitsKey x) {key : Nibble} (hkey : m.keypad.lowest? = some key) :
    m.step = .ok ({ m with pc := m.pc + 2 }.load x (UInt8.ofNat key)) := by
  rw [h.step]
  rcases m.fetch.1.perform_waitKey x with ⟨key', hdown, hload⟩ | ⟨hup, -⟩
  · obtain rfl : key = key' := Option.some.inj (hkey.symm.trans hdown)
    rw [hload]
    rfl
  · exact absurd (hkey.symm.trans hup) (Option.some_ne_none key)

/-! ### What a cycle changes without an instruction -/

/-- The machines differ at most in the timers, the keys and the flag of the framebuffer. -/
def Untouched (m m' : Machine) : Prop :=
  m' = { m with delay := m'.delay, sound := m'.sound, keypad := m'.keypad, dirty := m'.dirty }

theorem Untouched.refl (m : Machine) : Untouched m m := rfl

theorem Untouched.trans {m₁ m₂ m₃ : Machine} (h : Untouched m₁ m₂) (h' : Untouched m₂ m₃) :
    Untouched m₁ m₃ := by
  unfold Untouched at h h' ⊢
  rw [h', h]

/-- What does not touch the machine leaves it waiting. -/
theorem AwaitsKey.of_untouched (h : m.AwaitsKey x) {m' : Machine} (hm : Untouched m m') :
    m'.AwaitsKey x := by
  unfold Untouched at hm
  rw [hm]
  exact ⟨h.inMemory, h.word⟩

end Machine

namespace Pacing.Controller

open Machine (AwaitsKey Untouched)

variable {τ : Type} [Reading τ] {c : Controller τ} {x : Nibble} {cue : Cue τ}

/-! ### Cycles that do not fail -/

/-- A cycle that does not fail leaves the flag of the framebuffer down. -/
theorem clean_of_course (h : (c.course cue).failure = none) :
    (c.course cue).controller.machine.dirty = false := by
  have hscreen := c.screen_work cue.start cue.polled
  unfold course at h ⊢
  generalize c.work cue.start cue.polled = w at hscreen h ⊢
  obtain ⟨c', traced, outcome⟩ := w
  cases outcome with
  | error e => cases h
  | ok frame => exact hscreen.1

/-- A cycle that does not fail moves the keys and performs the instruction, which it counts; nothing else is
touched. -/
theorem untouched_course (h : (c.course cue).failure = none) {m : Machine}
    (hstep : (c.machine.press cue.events).step = .ok m) :
    Untouched m (c.course cue).controller.machine ∧
      (c.course cue).controller.machine.keypad = m.keypad ∧
      (c.course cue).controller.cycles = c.cycles + 1 := by
  obtain ⟨hcycles, delay, sound, dirty, hm⟩ := c.course_keeps (polled_of_course h) hstep
  rw [hm]
  exact ⟨rfl, rfl, hcycles⟩

/-! ### Cycles that wait -/

/-- Cycles none of which fails, the events of each leaving every key up. -/
inductive Waits : Controller τ → List (Cue τ) → Prop
  | nil {c : Controller τ} : Waits c []
  | cons {c : Controller τ} {cue : Cue τ} {cues : List (Cue τ)} (hdone : (c.course cue).failure = none)
    (hup : ∀ key : Nibble, (c.machine.keypad.apply cue.events).get key = false)
    (hrest : Waits (c.course cue).controller cues) : Waits c (cue :: cues)

/-- What cycles that wait come to: nothing is touched, the keys are as the events say, each cycle is counted,
and the framebuffer has been shown if there was a cycle at all. -/
structure Waited (c : Controller τ) (cues : List (Cue τ)) (c' : Controller τ) : Prop where
  untouched : Untouched c.machine c'.machine
  keypad : c'.machine.keypad = c.machine.keypad.apply (cues.flatMap Cue.events)
  cycles : c'.cycles = c.cycles + cues.length
  clean : cues ≠ [] → c'.machine.dirty = false

/-- One cycle with every key up. -/
theorem waited_course (hwait : c.machine.AwaitsKey x) (hdone : (c.course cue).failure = none)
    (hup : ∀ key : Nibble, (c.machine.keypad.apply cue.events).get key = false) :
    Waited c [cue] (c.course cue).controller := by
  have hpressed : Untouched c.machine (c.machine.press cue.events) := rfl
  have hstep := (hwait.of_untouched hpressed).step_of_up hup
  obtain ⟨htouched, hkeypad, hcycles⟩ := untouched_course hdone hstep
  exact
    { untouched := hpressed.trans htouched
      keypad := by
        rw [hkeypad, List.flatMap_singleton]
        rfl
      cycles := hcycles
      clean := fun _ => clean_of_course hdone }

/-- **Any number of cycles with every key up.** -/
theorem Waits.waited {cues : List (Cue τ)} (h : Waits c cues) (hwait : c.machine.AwaitsKey x) :
    Waited c cues (c.after cues) := by
  -- By induction on the cycles: after the first one the machine waits at the same instruction.
  induction h with
  | nil => exact ⟨Untouched.refl _, rfl, rfl, fun hne => absurd rfl hne⟩
  | @cons c cue cues hdone hup hrest ih =>
    have hfirst := waited_course hwait hdone hup
    have hlater := ih (hwait.of_untouched hfirst.untouched)
    show Waited c (cue :: cues) ((c.course cue).controller.after cues)
    exact
      { untouched := hfirst.untouched.trans hlater.untouched
        keypad := by
          rw [hlater.keypad, hfirst.keypad, List.flatMap_singleton, List.flatMap_cons,
            Keypad.apply_append]
        cycles := by
          rw [hlater.cycles, hfirst.cycles]
          simp only [List.length_cons, List.length_nil]
          omega
        clean := fun _ => by
          cases cues with
          | nil => exact hfirst.clean (List.cons_ne_nil cue [])
          | cons next cues => exact hlater.clean (List.cons_ne_nil next cues) }

/-! ### The end of the waiting -/

/-- What the cycle that ends the waiting comes to, the last one of the cues: the register `x` holds the lowest
key that is down, the program counter is at the next word, and nothing else is touched. -/
structure Woken (c : Controller τ) (x : Nibble) (cues : List (Cue τ)) (c' : Controller τ) : Prop where
  keypad : c'.machine.keypad = c.machine.keypad.apply (cues.flatMap Cue.events)
  loaded : ∃ key : Nibble, (c'.machine.register x).toNat = key.val ∧ c'.machine.keypad.get key = true ∧
    ∀ j < key, c'.machine.keypad.get j = false
  others : ∀ k : Nibble, k ≠ x → c'.machine.register k = c.machine.register k
  pc : c'.machine.pc.toNat = c.machine.pc.toNat + 2
  untouched : Untouched { c.machine with pc := c'.machine.pc, v := c'.machine.v } c'.machine
  cycles : c'.cycles = c.cycles + cues.length
  clean : c'.machine.dirty = false

/-- One cycle with some key down. -/
theorem woken_course (hwait : c.machine.AwaitsKey x) (hdone : (c.course cue).failure = none)
    (hdown : ∃ key : Nibble, (c.machine.keypad.apply cue.events).get key = true) :
    Woken c x [cue] (c.course cue).controller := by
  obtain ⟨key, hkey⟩ : ∃ key, (c.machine.keypad.apply cue.events).lowest? = some key := by
    obtain ⟨key, hkey⟩ := hdown
    rw [← Option.ne_none_iff_exists', Ne, Keypad.lowest?_eq_none_iff]
    exact fun hup => Bool.false_ne_true ((hup key).symm.trans hkey)
  have hpressed : Untouched c.machine (c.machine.press cue.events) := rfl
  have hstep := (hwait.of_untouched hpressed).step_of_down hkey
  obtain ⟨htouched, hkeypad, hcycles⟩ := untouched_course hdone hstep
  have hregister (k : Nibble) : (c.course cue).controller.machine.register k =
      if k = x then UInt8.ofNat key else c.machine.register k := by
    rw [htouched]
    exact Machine.register_load { c.machine with pc := c.machine.pc + 2 } x (UInt8.ofNat key) k
  obtain ⟨hlowest, hbelow⟩ := Keypad.lowest?_eq_some_iff.mp hkey
  exact
    { keypad := by
        rw [hkeypad, List.flatMap_singleton]
        rfl
      loaded := by
        refine ⟨key, ?_, hkeypad ▸ hlowest, hkeypad ▸ hbelow⟩
        rw [hregister, if_pos rfl, UInt8.toNat_ofNat', Nat.mod_eq_of_lt (by omega)]
      others := fun k hk => by rw [hregister, if_neg hk]
      pc := by
        rw [htouched]
        exact Machine.toNat_pc_fetch (m := c.machine) (by have := hwait.inMemory; omega)
      untouched := by
        unfold Untouched at htouched ⊢
        rw [htouched]
        rfl
      cycles := hcycles
      clean := clean_of_course hdone }

omit [Reading τ] in
/-- What has happened while waiting does not show when it ends, but in the keys. -/
theorem Waited.woken {c' c'' : Controller τ} {cues : List (Cue τ)} (h : Waited c cues c')
    (hwoken : Woken c' x [cue] c'') : Woken c x (cues ++ [cue]) c'' := by
  have hmachine := h.untouched
  have hregister (k : Nibble) : c'.machine.register k = c.machine.register k := by
    rw [hmachine]
    rfl
  have hpc : c'.machine.pc = c.machine.pc := by rw [hmachine]
  exact
    { keypad := by rw [hwoken.keypad, h.keypad, ← Keypad.apply_append, List.flatMap_append]
      loaded := hwoken.loaded
      others := fun k hk => (hwoken.others k hk).trans (hregister k)
      pc := hpc ▸ hwoken.pc
      untouched := by
        refine Untouched.trans ?_ hwoken.untouched
        unfold Untouched at hmachine ⊢
        rw [hmachine]
      cycles := by rw [hwoken.cycles, h.cycles, List.length_append, Nat.add_assoc]
      clean := hwoken.clean }

/-- **The program waits for a key, and nothing else happens meanwhile.** On a machine whose word at the
program counter is `Fx0A`, any number of cycles that do not fail and whose events leave every key up touch
nothing but the timers, the keys and the flag of the framebuffer, and each is counted. The first cycle that
does not fail and whose events leave some key down goes on to the next word with the lowest such key in the
register `x`, and touches nothing else. -/
theorem waits_until_key (c : Controller τ) {x : Nibble} (hwait : c.machine.AwaitsKey x)
    {cues : List (Cue τ)} (hcues : Waits c cues) :
    Waited c cues (c.after cues) ∧
      ∀ cue : Cue τ, ((c.after cues).course cue).failure = none →
        (∃ key : Nibble, ((c.after cues).machine.keypad.apply cue.events).get key = true) →
        Woken c x (cues ++ [cue]) ((c.after cues).course cue).controller := by
  have hwaited := hcues.waited hwait
  refine ⟨hwaited, fun cue hdone hdown => hwaited.woken ?_⟩
  exact woken_course (hwait.of_untouched hwaited.untouched) hdone hdown

/-- A controller whose machine waits for a key into the third register. -/
def awaiting : Controller Float where
  machine := (Machine.start ⟨0, 0⟩).run [.load [0xF2, 0x0A]]
  cycleTime := 1.0 / 8.0
  timerPeriod := 1.0 / 4.0
  trace := false
  cycles := 0
  marks := none

/-- A poll in which key 5 goes down and up again is missed, and of two keys in the next one it is the lower
one that is loaded. -/
theorem waits_until_key_lower :
    let missed : Cue Float := ⟨0.0, .ok [⟨5, true⟩, ⟨5, false⟩], 0.0⟩
    let seen : Cue Float := ⟨1.0, .ok [⟨7, true⟩, ⟨3, true⟩], 1.0⟩
    let woken := ((awaiting.after [missed]).course seen).controller
    (awaiting.after [missed]).machine.pc = 0x200 ∧ (woken.machine.register 2).toNat = 3 ∧
      woken.machine.pc.toNat = 0x202 ∧ woken.cycles = 2 := by
  intro missed seen woken
  have hwait : awaiting.machine.AwaitsKey 2 := ⟨by decide, by decide +kernel⟩
  have hmissed : Waits awaiting [missed] := .cons (by decide +kernel) (by decide) .nil
  obtain ⟨hwaited, hwoken⟩ := waits_until_key awaiting hwait hmissed
  have hdown : ((awaiting.after [missed]).machine.keypad.apply seen.events).get 3 = true := by
    rw [hwaited.keypad]
    decide
  have hend : Woken awaiting 2 [missed, seen] woken := hwoken seen (by decide +kernel) ⟨3, hdown⟩
  refine ⟨?_, ?_, hend.pc, hend.cycles⟩
  · rw [hwaited.untouched]
    rfl
  · obtain ⟨key, hkey, hlowest⟩ := hend.loaded
    have hsome := Keypad.lowest?_eq_some_iff.mpr hlowest
    have hthree : woken.machine.keypad.lowest? = some 3 := by
      rw [hend.keypad]
      decide
    rw [hkey, Option.some.inj (hsome.symm.trans hthree)]
    rfl

end Pacing.Controller

end Chip8

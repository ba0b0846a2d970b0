import Chip8.Proofs.Run
import Mathlib.Logic.Relation

/-!
# Subroutines

A call keeps the address behind it and a return goes back to what was kept. In between anything may
happen, further calls and returns among it, and programs that rewrite themselves: as long as the stack
stays deeper than it was before the call, the slots that were in use then and the one with the return
address keep what they hold. So the return that comes back to that depth finds the stack as it was and
goes to the address that was kept.

That address is the one behind the call in 12 bits. From anywhere but the last word of memory the
subroutine comes back behind its call; from there it comes back to address zero.
-/

namespace Chip8.Machine

open Instruction (decode?)

/-! ### What an event does to the stack -/

/-- An event that succeeds leaves the stack alone, or pushes an address on it, or pops it and goes where
the popped slot says. -/
theorem stack_attempt {m m' : Machine} {e : Event} (h : m.attempt e = .ok m') :
    m'.stack = m.stack ∨
      (∃ a, m.stack.pointer.toNat < 16 ∧ m'.stack = m.stack.push a) ∨
      (m.stack.pointer ≠ 0 ∧ m'.stack = m.stack.pop.1 ∧ m'.pc = m.stack.pop.2) := by
  rcases step_or_sameCore h with ⟨-, hs⟩ | hs
  · obtain ⟨-, i, -, hi, rfl⟩ := step_eq_ok_iff.mp hs
    exact stack_perform_cases hi
  · exact .inl hs.stack

/-- A step that fetches a call pushes the address behind it. -/
theorem step_of_call {m m' : Machine} {target : Address} (h : m.step = .ok m')
    (hd : decode? m.word.toNat = some (.call target)) :
    m.pc.toNat + 1 < 4096 ∧ m.stack.pointer.toNat < 16 ∧ m'.stack = m.stack.push (m.pc + 2) := by
  obtain ⟨hpc, i, hi, ha, rfl⟩ := step_eq_ok_iff.mp h
  rw [hd] at hi
  cases hi
  exact ⟨hpc, ha, rfl⟩

/-- The address behind a word of memory, in 12 bits. -/
theorem mask_of_lt {pc : UInt16} (h : pc.toNat + 1 < 4096) :
    (pc + 2) &&& 0x0FFF = if pc = 0xFFE then 0 else pc + 2 := by
  have hnext : (pc + 2).toNat = pc.toNat + 2 := by
    simp only [UInt16.toNat_add, UInt16.reduceToNat]
    omega
  refine UInt16.toNat_inj.mp ?_
  rw [CallStack.toNat_and_mask, hnext]
  by_cases hlast : pc = 0xFFE
  · subst hlast
    decide
  · have hne : pc.toNat ≠ 0xFFE := fun e => hlast (UInt16.toNat_inj.mp e)
    rw [if_neg hlast, hnext]
    exact Nat.mod_eq_of_lt (by omega)

/-! ### From a call to its return -/

/-- An event that succeeds and leaves more slots in use than `depth`. -/
def MovesAbove (depth : UInt8) (m m' : Machine) : Prop :=
  (∃ e, m.attempt e = .ok m') ∧ depth < m'.stack.pointer

/-- A call and what follows up to its return: `m` makes the call and `first` is the machine after it,
from there to `last` the stack stays deeper than that of `m`, and `back` is the first machine that is
as deep as `m` again. -/
structure Subroutine (m first last back : Machine) : Prop where
  /-- The word at the program counter is a call. -/
  calls : ∃ target, decode? m.word.toNat = some (.call target)
  /-- The call is made. -/
  entered : m.step = .ok first
  /-- Whatever happens then happens above. -/
  above : Relation.ReflTransGen (MovesAbove m.stack.pointer) first last
  /-- One more event. -/
  left : ∃ e, last.attempt e = .ok back
  /-- It comes back to the depth of the call. -/
  depth : back.stack.pointer = m.stack.pointer

/-- An event that stays above keeps what is below. -/
theorem keeps_of_movesAbove {s : CallStack} {a : UInt16} {m m' : Machine}
    (hk : CallStack.Keeps s a m.stack) (h : MovesAbove s.pointer m m') :
    CallStack.Keeps s a m'.stack := by
  obtain ⟨⟨e, he⟩, habove⟩ := h
  rcases stack_attempt he with hs | ⟨b, hroom, hs⟩ | ⟨h0, hs, -⟩
  · rw [hs]
    exact hk
  · rw [hs]
    exact hk.push hroom b
  · rw [hs] at habove ⊢
    exact hk.pop h0 (UInt8.lt_iff_toNat_lt.mp habove)

/-- Any number of events that stay above keep what is below, and keep the machine sound. -/
theorem keeps_of_above {s : CallStack} {a : UInt16} {m m' : Machine} (hm : m.Sound)
    (hk : CallStack.Keeps s a m.stack) (h : Relation.ReflTransGen (MovesAbove s.pointer) m m') :
    m'.Sound ∧ CallStack.Keeps s a m'.stack := by
  induction h with
  | refl => exact ⟨hm, hk⟩
  | tail _ hmove ih =>
    obtain ⟨e, he⟩ := hmove.1
    exact ⟨ih.1.attempt he, keeps_of_movesAbove ih.2 hmove⟩

/-- **The return**: an event that comes back to the depth of the call pops the stack as it was before the
call and goes to the address that was kept. -/
theorem return_of_keeps {s : CallStack} {a : UInt16} {m m' : Machine} {e : Event} (hs : s.WellFormed)
    (hm : m.Sound) (hk : CallStack.Keeps s a m.stack) (h : m.attempt e = .ok m')
    (hd : m'.stack.pointer = s.pointer) : m'.stack = s ∧ m'.pc = a := by
  have hdeep := hk.deeper
  -- Only a pop comes back: to stay or to push is to be too deep.
  rcases stack_attempt h with hst | ⟨b, hroom, hst⟩ | ⟨h0, hst, hpc⟩
  · rw [← hd, hst] at hdeep
    exact absurd hdeep (Nat.lt_irrefl _)
  · rw [← hd, hst, CallStack.toNat_pointer_push hroom] at hdeep
    omega
  · rw [hst] at hd
    have hpop := hk.pop_eq hs hm.stack hd h0
    rw [hst, hpc, hpop]
    exact ⟨rfl, rfl⟩

/-- A sound machine that calls a subroutine finds its stack as it was, and goes on behind the call in 12
bits. -/
theorem Sound.resume {m first last back : Machine} (hm : m.Sound) (h : Subroutine m first last back) :
    back.stack = m.stack ∧ back.pc = if m.pc = 0xFFE then 0 else m.pc + 2 := by
  obtain ⟨target, hd⟩ := h.calls
  obtain ⟨e, he⟩ := h.left
  obtain ⟨hpc, hroom, hst⟩ := step_of_call h.entered hd
  have hk : CallStack.Keeps m.stack ((m.pc + 2) &&& 0x0FFF) first.stack := by
    rw [hst]
    exact CallStack.keeps_push hroom (m.pc + 2)
  obtain ⟨hlast, hkeeps⟩ := keeps_of_above (hm.step h.entered) hk h.above
  rw [← mask_of_lt hpc]
  exact return_of_keeps hm.stack hlast hkeeps he h.depth

/-- **A subroutine comes back** with the stack as it was before the call, behind the call, or at address
zero if the call was the last word of memory. -/
theorem run_subroutine (key : Random.Block) (es : List Event) {first last back : Machine}
    (h : Subroutine ((start key).run es) first last back) :
    back.stack = ((start key).run es).stack ∧
      back.pc = if ((start key).run es).pc = 0xFFE then 0 else ((start key).run es).pc + 2 :=
  ((sound_start key).run es).resume h

/-- A program whose first subroutine calls another one. -/
def nested : List UInt8 := [0x22, 0x06, 0x12, 0x02, 0x00, 0xEE, 0x22, 0x04, 0x00, 0xEE]

/-- The machine before the first call of `nested`. -/
def nestedStart : Machine := (start ⟨0, 0⟩).run [.load nested]

/-- The machine after both calls of `nested`, a tick and the inner return. -/
def nestedLast : Machine := (((nestedStart.after .step).after .step).after (.tick 1)).after .step

theorem subroutine_nested :
    Subroutine nestedStart (nestedStart.after .step) nestedLast (nestedLast.after .step) := by
  have hrun : decode? nestedStart.word.toNat = some (.call 0x206) ∧
      (nestedStart.attempt .step).isOk = true ∧
      ((nestedStart.after .step).attempt .step).isOk = true ∧
      0 < ((nestedStart.after .step).after .step).stack.pointer ∧
      (((nestedStart.after .step).after .step).attempt (.tick 1)).isOk = true ∧
      0 < (((nestedStart.after .step).after .step).after (.tick 1)).stack.pointer ∧
      ((((nestedStart.after .step).after .step).after (.tick 1)).attempt .step).isOk = true ∧
      0 < nestedLast.stack.pointer ∧
      (nestedLast.attempt .step).isOk = true ∧
      nestedStart.stack.pointer = 0 ∧
      (nestedLast.after .step).stack.pointer = 0 := by decide +kernel
  obtain ⟨hd, hok, hcall, dcall, htick, dtick, hret, dret, hlast, dstart, dback⟩ := hrun
  have above : Relation.ReflTransGen (MovesAbove 0) (nestedStart.after .step) nestedLast :=
    ((Relation.ReflTransGen.single ⟨⟨.step, attempt_after hcall⟩, dcall⟩).tail
      ⟨⟨.tick 1, attempt_after htick⟩, dtick⟩).tail ⟨⟨.step, attempt_after hret⟩, dret⟩
  exact ⟨⟨0x206, hd⟩, attempt_step_eq_ok_iff.mp (attempt_after hok), dstart ▸ above,
    ⟨.step, attempt_after hlast⟩, dback.trans dstart.symm⟩

/-- The first subroutine of `nested` comes back behind its call. -/
theorem run_subroutine_nested : (nestedLast.after .step).pc = 0x202 := by
  have h := run_subroutine ⟨0, 0⟩ [.load nested] subroutine_nested
  have hpc : ((start ⟨0, 0⟩).run [.load nested]).pc = 0x200 := by decide +kernel
  rw [h.2, hpc]
  decide

/-- A program that writes a call of its own last word to the last word of memory, and jumps to it. -/
def lastWord : List UInt8 :=
  [0xAF, 0xFE, 0x60, 0x22, 0x61, 0x0A, 0xF1, 0x55, 0x1F, 0xFE, 0x00, 0xEE]

/-- The machine before the call that `lastWord` writes. -/
def lastWordStart : Machine := (start ⟨0, 0⟩).run (.load lastWord :: List.replicate 5 .step)

theorem subroutine_lastWord :
    Subroutine lastWordStart (lastWordStart.after .step) (lastWordStart.after .step)
      ((lastWordStart.after .step).after .step) ∧
    ((lastWordStart.after .step).after .step).pc ≠ lastWordStart.pc + 2 := by
  have hrun : decode? lastWordStart.word.toNat = some (.call 0x20A) ∧
      (lastWordStart.attempt .step).isOk = true ∧
      ((lastWordStart.after .step).attempt .step).isOk = true ∧
      ((lastWordStart.after .step).after .step).stack.pointer = lastWordStart.stack.pointer ∧
      ((lastWordStart.after .step).after .step).pc ≠ lastWordStart.pc + 2 := by decide +kernel
  obtain ⟨hd, hcall, hret, hdepth, hne⟩ := hrun
  exact ⟨⟨⟨0x20A, hd⟩, attempt_step_eq_ok_iff.mp (attempt_after hcall), .refl,
    ⟨.step, attempt_after hret⟩, hdepth⟩, hne⟩

/-- Not every subroutine comes back behind its call: that of `lastWord` comes back to address zero. -/
theorem not_resume_behind :
    ¬ ∀ (key : Random.Block) (es : List Event) (first last back : Machine),
      Subroutine ((start key).run es) first last back →
        back.stack = ((start key).run es).stack ∧ back.pc = ((start key).run es).pc + 2 := by
  intro h
  obtain ⟨hsub, hne⟩ := subroutine_lastWord
  exact hne (h ⟨0, 0⟩ (.load lastWord :: List.replicate 5 .step) _ _ _ hsub).2

end Chip8.Machine

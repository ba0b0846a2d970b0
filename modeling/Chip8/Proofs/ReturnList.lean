import Chip8.Proofs.Refusal
import Chip8.Proofs.Run
import Mathlib.Tactic.SplitIfs

/-!
# The stack as a bounded list

What a program sees of the call stack is a list of at most sixteen addresses. A call asks the list to
keep an address and a return asks for the latest one back; the list refuses the first when it is full
and the second when it is empty, and nothing else asks it for anything.

The stack of a running machine, read as a list, does the same, event by event (`Simulates`), so after any
run it is the list that has served what the events of the run asked for, one after the other
(`run_refines`). The array behind it, its clamped reads, dropped writes and wrapping pointer, does not
show.
-/

namespace Chip8

/-! ### The bounded list -/

/-- What is asked of a list of return addresses. -/
inductive StackRequest where
  /-- Keep the address behind a call, and go to its target. -/
  | call (target behind : UInt16)
  /-- Give back the latest address, and go there. -/
  | ret
deriving DecidableEq, Repr

/-- Why a list does not serve a request. -/
inductive StackRefusal where
  /-- It has sixteen addresses. -/
  | full
  /-- It has none. -/
  | empty
deriving DecidableEq, Repr

namespace StackRequest

/-- The list that has served a request, and where to go then. An address is kept in 12 bits. -/
def serve (l : List UInt16) : StackRequest → Except StackRefusal (List UInt16 × UInt16)
  | call target behind =>
    if l.length = CallStack.capacity then .error .full else .ok (l ++ [behind % 0x1000], target)
  | ret =>
    match l.getLast? with
    | some a => .ok (l.dropLast, a)
    | none => .error .empty

theorem serve_call {l : List UInt16} (h : l.length < CallStack.capacity) (target behind : UInt16) :
    (call target behind).serve l = .ok (l ++ [behind % 0x1000], target) := if_neg (Nat.ne_of_lt h)

theorem serve_call_full {l : List UInt16} (h : l.length = CallStack.capacity) (target behind : UInt16) :
    (call target behind).serve l = .error .full := if_pos h

theorem serve_ret (l : List UInt16) (a : UInt16) : ret.serve (l ++ [a]) = .ok (l, a) := by
  unfold serve
  rw [List.getLast?_concat, List.dropLast_concat]

/-- A list refuses to keep an address exactly when it is full. -/
theorem serve_eq_full_iff {l : List UInt16} {r : StackRequest} :
    r.serve l = .error .full ↔ (∃ target behind, r = call target behind) ∧ l.length = CallStack.capacity := by
  cases r with
  | call target behind =>
    by_cases hl : l.length = CallStack.capacity
    · exact iff_of_true (serve_call_full hl target behind) ⟨⟨target, behind, rfl⟩, hl⟩
    · refine iff_of_false (fun h => ?_) fun h => hl h.2
      rw [serve, if_neg hl] at h
      cases h
  | ret =>
    refine iff_of_false (fun h => ?_) fun ⟨⟨target, behind, h⟩, _⟩ => by cases h
    unfold serve at h
    cases hl : l.getLast? <;> rw [hl] at h <;> cases h

/-- A list refuses to give an address exactly when it is empty. -/
theorem serve_eq_empty_iff {l : List UInt16} {r : StackRequest} :
    r.serve l = .error .empty ↔ r = ret ∧ l = [] := by
  cases r with
  | call target behind =>
    refine iff_of_false (fun h => ?_) fun h => by cases h.1
    by_cases hl : l.length = CallStack.capacity
    · rw [serve_call_full hl] at h
      cases h
    · rw [serve, if_neg hl] at h
      cases h
  | ret =>
    rw [← List.getLast?_eq_none_iff]
    unfold serve
    cases hl : l.getLast? with
    | none => exact iff_of_true rfl ⟨rfl, rfl⟩
    | some a => exact iff_of_false (fun h => by cases h) fun h => by cases h.2

/-- The list after what may have been a request; one that is refused leaves it as it was. -/
def obey (l : List UInt16) : Option StackRequest → List UInt16
  | none => l
  | some r =>
    match r.serve l with
    | .ok (l', _) => l'
    | .error _ => l

end StackRequest

/-- The fault that reports a refusal. -/
def StackRefusal.fault (address : Int) : StackRefusal → Fault
  | full => .stackOverflow address
  | empty => .stackUnderflow address

namespace Machine

open Instruction (decode? HasForm)

/-- What an event asks of the list: a step onto a call or a return does, nothing else. -/
def request (m : Machine) : Event → Option StackRequest
  | .step =>
    if 4096 ≤ m.pc.toNat + 1 then none
    else if firstNibble m.word.toNat = 2 then some (.call (m.word % 0x1000) (m.pc + 2))
    else if m.word = 0x00EE then some .ret
    else none
  | _ => none

/-- What the events of a run ask of the list. -/
def requests (m : Machine) : List Event → List (Option StackRequest)
  | [] => []
  | e :: es => m.request e :: (m.after e).requests es

/-! ### One event -/

theorem mod_eq_and_mask (a : UInt16) : a % 0x1000 = a &&& 0x0FFF := by
  refine UInt16.toNat_inj.mp ?_
  rw [CallStack.toNat_and_mask, UInt16.toNat_mod]
  rfl

/-- A word of category 2 is a call of the address in its last twelve bits. -/
theorem decode?_of_call {w : UInt16} (h : firstNibble w.toNat = 2) :
    ∃ a : Address, decode? w.toNat = some (.call a) ∧ UInt16.ofNat a = w % 0x1000 := by
  obtain ⟨a, ha⟩ := (Instruction.decode?_eq_call_iff w.toNat).mpr h
  have hform : (a.val : Int) = lastTwelve w.toNat := (Instruction.hasForm_of_decode? ha).2
  refine ⟨a, ha, UInt16.toNat_inj.mp ?_⟩
  have hlt := a.isLt
  unfold lastTwelve at hform
  simp only [UInt16.toNat_ofNat', UInt16.toNat_mod, UInt16.reduceToNat]
  omega

/-- Who asks, and for what. -/
theorem request_eq_some {m : Machine} {e : Event} {r : StackRequest} (h : m.request e = some r) :
    e = .step ∧ m.pc.toNat + 1 < 4096 ∧
      (firstNibble m.word.toNat = 2 ∧ r = .call (m.word % 0x1000) (m.pc + 2) ∨
        m.word = 0x00EE ∧ r = .ret) := by
  cases e with
  | step =>
    simp only [request] at h
    split_ifs at h with hpc hcall hret
    · exact ⟨rfl, Nat.lt_of_not_le hpc, .inl ⟨hcall, (Option.some.inj h).symm⟩⟩
    · exact ⟨rfl, Nat.lt_of_not_le hpc, .inr ⟨hret, (Option.some.inj h).symm⟩⟩
  | _ => cases h

/-- The list and the program counter of a machine. -/
def view (m : Machine) : List UInt16 × UInt16 := (m.stack.toList, m.pc)

/-- What an event gives to see: the list and the program counter, or why it fails. -/
def seen (m : Machine) (e : Event) : Except Failure (List UInt16 × UInt16) := (m.attempt e).map view

/-- What a list gives to see of a request from an address. -/
def served (l : List UInt16) (address : Int) (r : StackRequest) :
    Except Failure (List UInt16 × UInt16) :=
  (r.serve l).mapError fun refusal => .fault (refusal.fault address)

/-- A step onto a call does to the stack what the call does to the list. -/
theorem seen_call {m : Machine} (hm : m.stack.WellFormed) (hpc : m.pc.toNat + 1 < 4096)
    (hw : firstNibble m.word.toNat = 2) :
    m.seen .step = served m.stack.toList m.pc.toNat (.call (m.word % 0x1000) (m.pc + 2)) := by
  have hle := hm.pointer_le
  have hlen := CallStack.length_toList hle
  obtain ⟨a, hd, ha⟩ := decode?_of_call hw
  unfold seen attempt served
  rcases step_of_decode? hpc hd with ⟨hroom, hstep⟩ | ⟨hfull, hstep⟩ <;> rw [hstep]
  · change m.stack.pointer.toNat < 16 at hroom
    have hview : view (m.fetch.1.perform (.call a)) =
        (m.stack.toList ++ [(m.pc + 2) % 0x1000], m.word % 0x1000) := by
      rw [mod_eq_and_mask (m.pc + 2), ← CallStack.toList_push hroom (m.pc + 2), ← ha]
      rfl
    rw [StackRequest.serve_call (show m.stack.toList.length < 16 by omega), ← hview]
    rfl
  · change ¬ m.stack.pointer.toNat < 16 at hfull
    have hcap : m.stack.toList.length = CallStack.capacity :=
      hlen.trans (Nat.le_antisymm hle (Nat.le_of_not_lt hfull))
    rw [StackRequest.serve_call_full hcap]
    rfl

/-- A step onto a return does to the stack what the return does to the list. -/
theorem seen_ret {m : Machine} (hm : m.stack.WellFormed) (hpc : m.pc.toNat + 1 < 4096)
    (hw : m.word = 0x00EE) : m.seen .step = served m.stack.toList m.pc.toNat .ret := by
  have hd : decode? m.word.toNat = some .ret := by
    rw [hw]
    rfl
  unfold seen attempt served
  rcases step_of_decode? hpc hd with ⟨hsome, hstep⟩ | ⟨hnone, hstep⟩ <;> rw [hstep]
  · change m.stack.pointer ≠ 0 at hsome
    rw [CallStack.toList_pop hsome hm.pointer_le, StackRequest.serve_ret]
    rfl
  · change ¬ m.stack.pointer ≠ 0 at hnone
    have hnil : m.stack.toList = [] := by
      rw [CallStack.toList, Classical.not_not.mp hnone]
      rfl
    rw [hnil]
    rfl

/-- **A call or a return does to the stack what it does to the list**, and fails as the list refuses. -/
theorem seen_of_request {m : Machine} (hm : m.Sound) {e : Event} {r : StackRequest}
    (hr : m.request e = some r) : m.seen e = served m.stack.toList m.pc.toNat r := by
  obtain ⟨rfl, hpc, ⟨hw, rfl⟩ | ⟨hw, rfl⟩⟩ := request_eq_some hr
  · exact seen_call hm.stack hpc hw
  · exact seen_ret hm.stack hpc hw

/-- An event that asks for nothing and is a step is onto a word that is neither a call nor a return. -/
theorem unasked_step {m : Machine} (hr : m.request .step = none) (hpc : m.pc.toNat + 1 < 4096) :
    firstNibble m.word.toNat ≠ 2 ∧ m.word ≠ 0x00EE := by
  simp only [request] at hr
  split_ifs at hr with h hcall hret
  · exact absurd hpc (Nat.not_lt.mpr h)
  · exact ⟨hcall, hret⟩

/-- An event that asks for nothing and succeeds leaves the stack alone. -/
theorem stack_of_unasked {m m' : Machine} {e : Event} (hr : m.request e = none)
    (h : m.attempt e = .ok m') : m'.stack = m.stack := by
  rcases step_or_sameCore h with ⟨rfl, hs⟩ | hs
  · obtain ⟨hpc, i, hd, -, rfl⟩ := step_eq_ok_iff.mp hs
    obtain ⟨hcall, hret⟩ := unasked_step hr hpc
    refine stack_perform m.fetch.1 (fun hi => ?_) fun a hi => ?_ <;> subst hi
    · have hw := (Instruction.decode?_eq_ret_iff _).mp hd
      exact hret (UInt16.toNat_inj.mp (show m.word.toNat = 0x00EE by omega))
    · exact hcall ((Instruction.decode?_eq_call_iff _).mp ⟨a, hd⟩)
  · exact hs.stack

/-- A fault of the stack. -/
def OfStack (f : Fault) : Prop := ∃ a, f = .stackOverflow a ∨ f = .stackUnderflow a

/-- An event that asks for nothing does not fail by a fault of the stack. -/
theorem not_ofStack_of_unasked {m : Machine} {e : Event} {f : Fault} (hr : m.request e = none)
    (h : m.attempt e = .error (.fault f)) : ¬ OfStack f := by
  rintro ⟨a, hf⟩
  obtain ⟨rfl, hstep⟩ := attempt_eq_fault_iff.mp h
  by_cases hpc : m.pc.toNat + 1 < 4096
  · obtain ⟨hcall, hret⟩ := unasked_step hr hpc
    have hfault := (step_eq_error_iff hpc).mp hstep
    unfold fault? at hfault
    split_ifs at hfault with hu hunder hover hspan
    · cases hfault
      rcases hf with hf | hf <;> cases hf
    · exact hret (UInt16.toNat_inj.mp (show m.word.toNat = 0x00EE by have := hunder.1; omega))
    · exact hcall hover.1
    · cases hfault
      rcases hf with hf | hf <;> cases hf
  · rw [step_of_le (Nat.not_lt.mp hpc)] at hstep
    cases hstep
    rcases hf with hf | hf <;> cases hf

/-! ### Refusals -/

/-- What an event shows of a failure is the failure. -/
theorem seen_eq_error_iff {m : Machine} {e : Event} {f : Failure} :
    m.seen e = .error f ↔ m.attempt e = .error f := by
  unfold seen
  cases m.attempt e with
  | ok m' => exact ⟨fun h => (by cases h), fun h => (by cases h)⟩
  | error g => exact ⟨fun h => (by cases h; rfl), fun h => (by cases h; rfl)⟩

/-- A list reports an overflow when it is full. -/
theorem served_eq_overflow_iff {l : List UInt16} {address a : Int} {r : StackRequest} :
    served l address r = .error (.fault (.stackOverflow a)) ↔ r.serve l = .error .full ∧ a = address := by
  unfold served
  cases r.serve l with
  | ok result => exact iff_of_false (fun h => by cases h) fun h => by cases h.1
  | error refusal =>
    cases refusal with
    | full => exact ⟨fun h => (by cases h; exact ⟨rfl, rfl⟩), fun ⟨_, h⟩ => by rw [h]; rfl⟩
    | empty => exact iff_of_false (fun h => by cases h) fun h => by cases h.1

/-- A list reports an underflow when it is empty. -/
theorem served_eq_underflow_iff {l : List UInt16} {address a : Int} {r : StackRequest} :
    served l address r = .error (.fault (.stackUnderflow a)) ↔
      r.serve l = .error .empty ∧ a = address := by
  unfold served
  cases r.serve l with
  | ok result => exact iff_of_false (fun h => by cases h) fun h => by cases h.1
  | error refusal =>
    cases refusal with
    | full => exact iff_of_false (fun h => by cases h) fun h => by cases h.1
    | empty => exact ⟨fun h => (by cases h; exact ⟨rfl, rfl⟩), fun ⟨_, h⟩ => by rw [h]; rfl⟩

/-- A fault of the stack is one that the list reports of what it is asked. -/
theorem attempt_eq_stackFault_iff {m : Machine} (hm : m.Sound) {e : Event} {f : Fault} (hf : OfStack f) :
    m.attempt e = .error (.fault f) ↔
      ∃ r, m.request e = some r ∧ served m.stack.toList m.pc.toNat r = .error (.fault f) := by
  constructor
  · intro h
    cases hr : m.request e with
    | none => exact absurd hf (not_ofStack_of_unasked hr h)
    | some r => exact ⟨r, rfl, (seen_of_request hm hr).symm.trans (seen_eq_error_iff.mpr h)⟩
  · rintro ⟨r, hr, h⟩
    exact seen_eq_error_iff.mp ((seen_of_request hm hr).trans h)

/-! ### Whole runs -/

/-- What a machine does with its stack in an event is what the list does. -/
structure Simulates (m : Machine) (e : Event) : Prop where
  /-- A call or a return gives to see what the list gives. -/
  asked : ∀ r, m.request e = some r → m.seen e = served m.stack.toList m.pc.toNat r
  /-- Everything else leaves the list alone. -/
  unasked : m.request e = none → ∀ m', m.attempt e = .ok m' → m'.stack.toList = m.stack.toList
  /-- An overflow is a call that meets a full list. -/
  overflow : ∀ a, m.attempt e = .error (.fault (.stackOverflow a)) ↔
    (∃ target behind, m.request e = some (.call target behind)) ∧ m.stack.toList.length = 16 ∧
      a = m.pc.toNat
  /-- An underflow is a return that meets an empty list. -/
  underflow : ∀ a, m.attempt e = .error (.fault (.stackUnderflow a)) ↔
    m.request e = some .ret ∧ m.stack.toList = [] ∧ a = m.pc.toNat

/-- **Every event does to the stack what it does to the list.** -/
theorem Sound.simulates {m : Machine} (hm : m.Sound) (e : Event) : m.Simulates e where
  asked := fun _ hr => seen_of_request hm hr
  unasked := by
    intro hr m' h
    rw [stack_of_unasked hr h]
  overflow := by
    intro a
    rw [attempt_eq_stackFault_iff hm ⟨a, .inl rfl⟩]
    simp only [served_eq_overflow_iff, StackRequest.serve_eq_full_iff]
    constructor
    · rintro ⟨r, hr, ⟨⟨target, behind, rfl⟩, hl⟩, ha⟩
      exact ⟨⟨target, behind, hr⟩, hl, ha⟩
    · rintro ⟨⟨target, behind, hr⟩, hl, ha⟩
      exact ⟨_, hr, ⟨⟨target, behind, rfl⟩, hl⟩, ha⟩
  underflow := by
    intro a
    rw [attempt_eq_stackFault_iff hm ⟨a, .inr rfl⟩]
    simp only [served_eq_underflow_iff, StackRequest.serve_eq_empty_iff]
    constructor
    · rintro ⟨r, hr, ⟨rfl, hl⟩, ha⟩
      exact ⟨hr, hl, ha⟩
    · rintro ⟨hr, hl, ha⟩
      exact ⟨_, hr, ⟨rfl, hl⟩, ha⟩

/-- After an event the list has obeyed what was asked of it. -/
theorem toList_after {m : Machine} (hm : m.Sound) (e : Event) :
    (m.after e).stack.toList = StackRequest.obey m.stack.toList (m.request e) := by
  unfold after
  cases hr : m.request e with
  | none =>
    cases h : m.attempt e with
    | ok m' => exact congrArg CallStack.toList (stack_of_unasked hr h)
    | error f => rfl
  | some r =>
    have hseen := seen_of_request hm hr
    unfold seen served at hseen
    -- Both succeed or both fail.
    cases h : m.attempt e with
    | ok m' =>
      cases hs : r.serve m.stack.toList with
      | ok result =>
        rw [h, hs] at hseen
        have hview : result = view m' := (Except.ok.inj hseen).symm
        simp only [StackRequest.obey, hs, hview, view]
      | error refusal =>
        rw [h, hs] at hseen
        cases hseen
    | error f =>
      cases hs : r.serve m.stack.toList with
      | ok result =>
        rw [h, hs] at hseen
        cases hseen
      | error refusal => simp only [StackRequest.obey, hs]

/-- After a run the list has obeyed everything that was asked of it in turn. -/
theorem toList_run {m : Machine} (hm : m.Sound) (es : List Event) :
    (m.run es).stack.toList = (m.requests es).foldl StackRequest.obey m.stack.toList := by
  induction es generalizing m with
  | nil => rfl
  | cons e es ih =>
    rw [requests, List.foldl_cons, ← toList_after hm e]
    exact ih (hm.after e)

/-- **The call stack is a bounded list of addresses.** After any run from the start its slots in use are
the list that has obeyed what the run asked for, at most sixteen addresses. Whatever event comes next does
to them what it does to that list. A push with a pop behind it changes no slot, and gives the address in 12
bits if there was room for it. -/
theorem run_refines (key : Random.Block) (es : List Event) :
    ((start key).run es).stack.toList = ((start key).requests es).foldl StackRequest.obey [] ∧
      ((start key).run es).stack.toList.length ≤ 16 ∧
      (∀ e, ((start key).run es).Simulates e) ∧
      ∀ a, (((start key).run es).stack.push a).pop.1 = ((start key).run es).stack ∧
        (((start key).run es).stack.toList.length < 16 →
          (((start key).run es).stack.push a).pop.2 = a &&& 0x0FFF) := by
  have hs := (sound_start key).run es
  have hlen := CallStack.length_toList hs.stack.pointer_le
  refine ⟨toList_run (sound_start key) es, hlen ▸ hs.stack.pointer_le, hs.simulates, fun a => ?_⟩
  rw [hlen]
  exact hs.stack.pop_push a

/-- A program that calls itself. -/
def endless : List UInt8 := [0x22, 0x00]

/-- After its first call, the stack of `endless` is the list of the address behind it, and gives back an
address that is pushed and popped. -/
theorem run_refines_endless :
    ((start ⟨0, 0⟩).run [.load endless, .step]).stack.toList = [0x202] ∧
      (((start ⟨0, 0⟩).run [.load endless, .step]).stack.push 0x1234).pop.2 = 0x234 := by
  obtain ⟨hlist, -, -, hpop⟩ := run_refines ⟨0, 0⟩ [.load endless, .step]
  have hasked : ((start ⟨0, 0⟩).requests [.load endless, .step]).foldl StackRequest.obey [] =
      [0x202] := by decide +kernel
  rw [hasked] at hlist
  refine ⟨hlist, ?_⟩
  have h := (hpop 0x1234).2
  rw [hlist] at h
  exact h (by decide)

/-- Not every push comes back from a pop behind it: when `endless` has made sixteen calls there is no slot
for an address, and the pop gives the last slot. -/
theorem not_pop_push_endless :
    ¬ ∀ (key : Random.Block) (es : List Event) (a : UInt16),
      (((start key).run es).stack.push a).pop.1 = ((start key).run es).stack ∧
        (((start key).run es).stack.push a).pop.2 = a &&& 0x0FFF := by
  intro h
  have hlast : (((start ⟨0, 0⟩).run (.load endless :: List.replicate 16 .step)).stack.push 0x1234).pop.2 =
      0x202 := by decide +kernel
  have hpop := (h ⟨0, 0⟩ (.load endless :: List.replicate 16 .step) 0x1234).2
  rw [hlast] at hpop
  exact absurd hpop (by decide)

end Machine

end Chip8

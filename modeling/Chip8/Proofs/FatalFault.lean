import Chip8.Proofs.Course
import Chip8.Proofs.Keypad
import Chip8.Proofs.Refusal

/-!
# A fault is for good

Whether an instruction is at fault, and with which fault, is seen from the program counter, the memory,
the index and the stack (`Machine.step_eq_error_congr`). A cycle with an instruction at fault has moved
nothing but keys when it fails, and no later cycle moves anything else before it looks at the same
instruction again. So the machine has stopped for good, and each attempt to go on fails like the first
(`fault_is_final`).
-/

namespace Chip8

namespace Machine

/-! ### What a fault is seen from -/

/-- Machines with the same program counter, memory, index and stack are at fault alike. -/
theorem step_eq_error_congr (m m' : Machine) (hpc : m'.pc = m.pc) (hmemory : m'.memory = m.memory)
    (hi : m'.i = m.i) (hstack : m'.stack = m.stack) {f : Fault} (h : m.step = .error f) :
    m'.step = .error f := by
  have hword : m'.word = m.word := by
    unfold word
    rw [hpc, hmemory]
  have hfault : m'.fault? = m.fault? := by
    unfold fault?
    rw [hi, hstack]
  by_cases hin : m.pc.toNat + 1 < 4096
  · rw [step_eq_error_iff (hpc ▸ hin), hword, hpc, hfault]
    exact (step_eq_error_iff hin).mp h
  · rw [step_of_le (Nat.not_lt.mp hin)] at h
    rw [step_of_le (hpc ▸ Nat.not_lt.mp hin), hpc]
    exact h

/-- Keys put nothing right. -/
theorem step_press_eq_error {m : Machine} {f : Fault} (h : m.step = .error f) (events : List KeyEvent) :
    (m.press events).step = .error f :=
  step_eq_error_congr m (m.press events) rfl rfl rfl rfl h

theorem press_press (m : Machine) (es fs : List KeyEvent) : (m.press es).press fs = m.press (es ++ fs) := by
  unfold press
  rw [Keypad.apply_append]

end Machine

namespace Pacing

/-- The events that a cue brings; a poll that fails brings none. -/
def Cue.events {τ : Type} (cue : Cue τ) : List KeyEvent :=
  match cue.polled with
  | .ok events => events
  | .error _ => []

/-- All that is done is that lines are logged. -/
def OnlyLogs {τ : Type} (deeds : List (Deed τ)) : Prop := ∀ deed ∈ deeds, deed.isLog = true

namespace Controller

variable {τ : Type} {c : Controller τ} {f : Fault}

theorem onlyLogs_traced (c : Controller τ) : OnlyLogs (c.traced?.toList.map (Deed.log (τ := τ))) := by
  intro deed hdeed
  obtain ⟨line, -, rfl⟩ := List.mem_map.mp hdeed
  rfl

/-! ### Cycles of a stopped machine -/

/-- The controller with keys moved and nothing else changed. -/
def withKeys (c : Controller τ) (events : List KeyEvent) : Controller τ :=
  { c with machine := c.machine.press events }

/-- The controller has been started, and the instruction at its program counter is at fault. -/
structure Stopped (c : Controller τ) (f : Fault) : Prop where
  /-- The instruction is at fault. -/
  step : c.machine.step = .error f
  /-- The marks are set. -/
  started : c.marks.isSome = true

theorem Stopped.started_eq (hc : c.Stopped f) (start : τ) : c.started start = c := by
  obtain ⟨marks, hmarks⟩ := Option.isSome_iff_exists.mp hc.started
  unfold Controller.started marksAt
  rw [hmarks]
  show { c with marks := some marks } = c
  rw [← hmarks]

theorem Stopped.withKeys (hc : c.Stopped f) (events : List KeyEvent) : (c.withKeys events).Stopped f where
  step := Machine.step_press_eq_error hc.step events
  started := hc.started

variable [Reading τ]

/-- A cycle of a stopped machine moves the keys that are polled, and nothing else. -/
theorem Stopped.controller_course (hc : c.Stopped f) (cue : Cue τ) :
    (c.course cue).controller = c.withKeys cue.events := by
  obtain ⟨start, polled, shown⟩ := cue
  cases polled with
  | error e => exact hc.started_eq start
  | ok events =>
    rw [c.course_of_fault rfl (Machine.step_press_eq_error hc.step events)]
    exact congrArg (Controller.withKeys · events) (hc.started_eq start)

/-- So do any number of cycles. -/
theorem Stopped.after (hc : c.Stopped f) (cues : List (Cue τ)) :
    c.after cues = c.withKeys (cues.flatMap Cue.events) := by
  induction cues generalizing c with
  | nil => rfl
  | cons cue cues ih =>
    show (c.course cue).controller.after cues = _
    rw [hc.controller_course, ih (hc.withKeys cue.events), List.flatMap_cons]
    unfold Controller.withKeys
    rw [Machine.press_press]

/-! ### The fault that stops the machine -/

/-- **A fault stops the machine for good, and nothing is done by halves.** A cycle whose instruction is at
fault fails with that fault; it has moved the polled keys, and set the marks if it was the first one, and
changed nothing else of the controller; nothing has been shown, and no sleep was asked for. Whatever cycles
follow, they move keys only; and whichever comes next, whatever keys it polls and whatever the clock
reads, fails with the same fault in the same way. -/
theorem fault_is_final (c : Controller τ) (cue : Cue τ) {events : List KeyEvent}
    (hpoll : cue.polled = .ok events) {f : Fault} (hstep : (c.machine.press events).step = .error f) :
    let stopped := c.course cue
    stopped.failure = some (.fault f) ∧
      stopped.controller = { c with
        machine := { c.machine with keypad := c.machine.keypad.apply events }
        marks := some (c.marks.getD ⟨cue.start, cue.start⟩) } ∧
      OnlyLogs stopped.deeds ∧
      ∀ later : List (Cue τ),
        let c' := stopped.controller.after later
        c' = { stopped.controller with
          machine := { stopped.controller.machine with
            keypad := stopped.controller.machine.keypad.apply (later.flatMap Cue.events) } } ∧
        ∀ (next : Cue τ) (keys : List KeyEvent), next.polled = .ok keys →
          (c'.course next).failure = some (.fault f) ∧
          (c'.course next).controller =
            { c' with machine := { c'.machine with keypad := c'.machine.keypad.apply keys } } ∧
          OnlyLogs (c'.course next).deeds := by
  intro stopped
  have hcourse : stopped = _ := c.course_of_fault hpoll hstep
  have hstopped : stopped.controller.Stopped f := by
    rw [hcourse]
    exact ⟨hstep, rfl⟩
  refine ⟨by rw [hcourse], by rw [hcourse]; rfl, by rw [hcourse]; exact onlyLogs_traced _, fun later => ?_⟩
  refine ⟨hstopped.after later, fun next keys hnext => ?_⟩
  -- What follows is again a stopped machine, so the next cycle is like this one.
  have hlater : (stopped.controller.after later).Stopped f := by
    rw [hstopped.after later]
    exact hstopped.withKeys _
  have hagain := Controller.course_of_fault _ hnext (Machine.step_press_eq_error hlater.step keys)
  refine ⟨by rw [hagain], ?_, by rw [hagain]; exact onlyLogs_traced _⟩
  rw [hlater.controller_course next, Cue.events, hnext]
  rfl

/-- A controller whose machine has no program. -/
def unprogrammed : Controller Float where
  machine := Machine.start ⟨0, 0⟩
  cycleTime := 1.0 / 840.0
  timerPeriod := 1.0 / 60.0
  trace := true
  cycles := 0
  marks := none

/-- It finds no instruction in its first cycle, and none after a poll that fails, keys that move, and thirty
years. -/
theorem fault_is_final_unprogrammed :
    let stopped := unprogrammed.course ⟨0.0, .ok [⟨5, true⟩], 0.0⟩
    let c' := stopped.controller.after [⟨1.0, .error ⟨16⟩, 1.0⟩, ⟨2.0, .ok [⟨5, false⟩, ⟨7, true⟩], 2.0⟩]
    stopped.failure = some (.fault (.unknownOpcode 0 0x200)) ∧
      (c'.course ⟨1.0e9, .ok [⟨7, false⟩], 1.0e9⟩).failure = some (.fault (.unknownOpcode 0 0x200)) ∧
      (c'.course ⟨1.0e9, .ok [⟨7, false⟩], 1.0e9⟩).controller.cycles = 0 := by
  have hstep : (unprogrammed.machine.press [⟨5, true⟩]).step = .error (.unknownOpcode 0 0x200) :=
    (Machine.step_eq_error_iff (by decide)).mpr (by decide +kernel)
  obtain ⟨hfailure, hfirst, -, hlater⟩ :=
    fault_is_final unprogrammed ⟨0.0, .ok [⟨5, true⟩], 0.0⟩ rfl hstep
  obtain ⟨hc', hnext⟩ :=
    hlater [⟨1.0, .error ⟨16⟩, 1.0⟩, ⟨2.0, .ok [⟨5, false⟩, ⟨7, true⟩], 2.0⟩]
  obtain ⟨hagain, hsame, -⟩ := hnext ⟨1.0e9, .ok [⟨7, false⟩], 1.0e9⟩ _ rfl
  refine ⟨hfailure, hagain, ?_⟩
  rw [hsame, hc', hfirst]
  rfl

end Controller

end Pacing

end Chip8

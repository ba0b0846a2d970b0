import Chip8.Pacing.Simulation
import Chip8.Proofs.Frame

/-!
# The halves of a cycle

What the first half of a cycle can come to (`Worked`): the poll fails, the instruction is at fault, the
timers cannot catch up, or a frame is handed out if there is one. All other results about cycles start
from these four cases. Against simulated time a cycle is such a first half and, unless that fails, a
second one (`Simulation.cycle_eq`).

The framebuffer and its flag go together here as they do for one instruction: whatever touches the
framebuffer raises the flag (`Flagged`). So a cycle that hands out no frame has not touched it, and one
that fails has not touched it or has left the flag up.
-/

namespace Chip8.Pacing

namespace Controller

variable {τ : Type}

/-! ### The framebuffer and its flag -/

/-- Whatever has touched the framebuffer from `m` to `m'` has raised the flag. -/
def Flagged (m m' : Machine) : Prop := m'.dirty = false → m'.display = m.display ∧ m.dirty = false

theorem Flagged.trans {m₁ m₂ m₃ : Machine} (h : Flagged m₁ m₂) (h' : Flagged m₂ m₃) : Flagged m₁ m₃ := by
  intro hclean
  obtain ⟨hd₂, hclean₂⟩ := h' hclean
  obtain ⟨hd₁, hclean₁⟩ := h hclean₂
  exact ⟨hd₂.trans hd₁, hclean₁⟩

theorem flagged_press (m : Machine) (events : List KeyEvent) : Flagged m (m.press events) :=
  fun h => ⟨rfl, h⟩

theorem flagged_step {m m' : Machine} (h : m.step = .ok m') : Flagged m m' := by
  obtain ⟨-, i, -, -, rfl⟩ := Machine.step_eq_ok_iff.mp h
  exact Machine.display_perform_of_clean (m := m.fetch.1)

/-- A frame is the framebuffer, and is handed out if the flag is up; then the flag is down. -/
theorem handOut_cases (c : Controller τ) :
    c.handOut.1.machine.dirty = false ∧ c.handOut.1.machine.display = c.machine.display ∧
      (c.handOut.2 = some c.machine.display ∨ c.handOut.2 = none ∧ c.machine.dirty = false) := by
  unfold handOut
  by_cases h : c.machine.dirty = true
  · rw [if_pos h]
    exact ⟨rfl, rfl, .inl rfl⟩
  · rw [if_neg h]
    have hclean := Bool.eq_false_iff.mpr h
    exact ⟨hclean, rfl, .inr ⟨rfl, hclean⟩⟩

variable [Reading τ]

/-! ### How the first half can end -/

/-- The controller when a cycle has started: its marks are set. -/
def started (c : Controller τ) (start : τ) : Controller τ :=
  { c with marks := some (c.marksAt start) }

/-- The controller when the polled keys have moved. -/
def keyed (c : Controller τ) (start : τ) (events : List KeyEvent) : Controller τ :=
  { c.started start with machine := c.machine.press events }

/-- The controller when the instruction has been performed, with the machine after it. -/
def performed (c : Controller τ) (start : τ) (events : List KeyEvent) (machine : Machine) :
    Controller τ :=
  { c.keyed start events with machine, cycles := c.cycles + 1 }

/-- The line that traces the next instruction, if instructions are traced. -/
def traced? (c : Controller τ) : Option String := if c.trace then some (traceLine c.machine) else none

/-- What the first half of a cycle that starts at `start` can come to. -/
inductive Worked (c : Controller τ) (start : τ) : Except BadKey (List KeyEvent) → Work τ → Prop
  /-- The poll fails. -/
  | badKey {e : BadKey} : Worked c start (.error e) ⟨c.started start, none, .error (.badKey e)⟩
  /-- The instruction is at fault. -/
  | fault {events : List KeyEvent} {f : Fault} (hstep : (c.machine.press events).step = .error f) :
    Worked c start (.ok events)
      ⟨c.keyed start events, (c.keyed start events).traced?, .error (.fault f)⟩
  /-- The instruction is performed, and the timers cannot catch up. -/
  | late {events : List KeyEvent} {machine : Machine} {e : Failure}
    (hstep : (c.machine.press events).step = .ok machine)
    (hlate : (c.performed start events machine).catchUp (c.marksAt start) start = .error e) :
    Worked c start (.ok events)
      ⟨c.performed start events machine, (c.keyed start events).traced?, .error e⟩
  /-- The instruction is performed, the timers catch up, and the frame is handed out. -/
  | done {events : List KeyEvent} {machine : Machine} {c' : Controller τ}
    (hstep : (c.machine.press events).step = .ok machine)
    (hcatch : (c.performed start events machine).catchUp (c.marksAt start) start = .ok c') :
    Worked c start (.ok events)
      ⟨c'.handOut.1, (c.keyed start events).traced?, .ok c'.handOut.2⟩

theorem work_of_error (c : Controller τ) (start : τ) {events : List KeyEvent} {f : Fault}
    (hstep : (c.machine.press events).step = .error f) :
    c.work start (.ok events) =
      ⟨c.keyed start events, (c.keyed start events).traced?, .error (.fault f)⟩ := by
  simp only [work, hstep]
  rfl

theorem work_of_ok (c : Controller τ) (start : τ) {events : List KeyEvent} {machine : Machine}
    (hstep : (c.machine.press events).step = .ok machine) :
    c.work start (.ok events) =
      match (c.performed start events machine).catchUp (c.marksAt start) start with
      | .error e => ⟨c.performed start events machine, (c.keyed start events).traced?, .error e⟩
      | .ok c' => ⟨c'.handOut.1, (c.keyed start events).traced?, .ok c'.handOut.2⟩ := by
  simp only [work, hstep]
  rfl

/-- **The first half of a cycle ends in one of these ways.** -/
theorem worked (c : Controller τ) (start : τ) (polled : Except BadKey (List KeyEvent)) :
    Worked c start polled (c.work start polled) := by
  cases polled with
  | error e => exact .badKey
  | ok events =>
    cases hstep : (c.machine.press events).step with
    | error f =>
      rw [work_of_error c start hstep]
      exact .fault hstep
    | ok machine =>
      rw [work_of_ok c start hstep]
      cases hcatch : (c.performed start events machine).catchUp (c.marksAt start) start with
      | error e => exact .late hstep hcatch
      | ok c' => exact .done hstep hcatch

/-- Catching up changes the timers of the machine and nothing else of it. -/
theorem machine_catchUp {c c' : Controller τ} {marks : Marks τ} {start : τ}
    (h : c.catchUp marks start = .ok c') :
    ∃ delay sound, c'.machine = { c.machine with delay, sound } := by
  unfold catchUp at h
  split at h
  case h_1 => cases h
  case h_2 ticks hdue =>
    split at h
    · cases ht : c.machine.tick ticks with
      | error e =>
        rw [ht] at h
        cases h
      | ok machine =>
        rw [ht] at h
        cases h
        unfold Machine.tick at ht
        split at ht
        · cases ht
          exact ⟨_, _, rfl⟩
        · cases ht
    · cases h
      exact ⟨_, _, rfl⟩

/-! ### What is shown -/

theorem flagged_catchUp {c c' : Controller τ} {marks : Marks τ} {start : τ}
    (h : c.catchUp marks start = .ok c') : Flagged c.machine c'.machine := by
  obtain ⟨delay, sound, hm⟩ := machine_catchUp h
  rw [hm]
  exact fun hclean => ⟨rfl, hclean⟩

/-- **What the first half of a cycle shows**: it lowers the flag and hands out the framebuffer, or has not
touched the framebuffer; if it fails, it has not touched the framebuffer unless the flag is up. -/
theorem screen_work (c : Controller τ) (start : τ) (polled : Except BadKey (List KeyEvent)) :
    match (c.work start polled).outcome with
    | .error _ => Flagged c.machine (c.work start polled).controller.machine
    | .ok frame => (c.work start polled).controller.machine.dirty = false ∧
        (frame = some (c.work start polled).controller.machine.display ∨
          frame = none ∧ Flagged c.machine (c.work start polled).controller.machine) := by
  have hw := c.worked start polled
  generalize c.work start polled = w at hw ⊢
  cases hw with
  | badKey => exact fun h => ⟨rfl, h⟩
  | fault hstep => exact flagged_press _ _
  | late hstep hlate => exact (flagged_press _ _).trans (flagged_step hstep)
  | @done events machine c' hstep hcatch =>
    obtain ⟨hclean, hsame, hframe⟩ := handOut_cases c'
    refine ⟨hclean, ?_⟩
    rcases hframe with hframe | ⟨hframe, hdown⟩
    · exact .inl (hframe.trans (congrArg some hsame.symm))
    · refine .inr ⟨hframe, fun _ => ?_⟩
      have hthrough := ((flagged_press _ _).trans (flagged_step hstep)).trans (flagged_catchUp hcatch)
      rw [hsame]
      exact hthrough hdown

end Controller

/-! ### A cycle against simulated time -/

namespace Simulation

theorem poll_keeps (s : Simulation) : s.poll.1.controller = s.controller ∧ s.poll.1.frames = s.frames := by
  unfold poll
  split <;> exact ⟨rfl, rfl⟩

/-- A cycle against simulated time is the first half at its reading of the clock and, unless that fails,
the second half at a later one; the frame shown is the one handed out. -/
theorem cycle_eq (s : Simulation) :
    match (s.controller.work s.now s.poll.2).outcome with
    | .error e => s.cycle.2 = some e ∧
        s.cycle.1.controller = (s.controller.work s.now s.poll.2).controller ∧
        s.cycle.1.frames = s.frames
    | .ok frame => s.cycle.2 = none ∧
        (∃ now, s.cycle.1.controller = ((s.controller.work s.now s.poll.2).controller.rest now).1) ∧
        s.cycle.1.frames = frame.toList ++ s.frames := by
  obtain ⟨hc, hf⟩ := s.poll_keeps
  unfold cycle
  generalize s.poll = polled at hc hf ⊢
  obtain ⟨⟨controller, logger, now, oversleep, polls, presentCosts, sleeps, frames, written⟩, events⟩ := polled
  dsimp only at hc hf
  subst hc hf
  generalize hw : s.controller.work s.now events = w
  obtain ⟨c, traced, outcome⟩ := w
  cases outcome with
  | error e => cases traced <;> simp only [hw, log, and_self]
  | ok frame =>
    -- What may still differ is whether a line is logged, a frame shown, and time left to sleep.
    cases traced <;> cases frame <;> cases presentCosts <;> simp only [hw, log, present] <;> split <;>
      exact ⟨rfl, ⟨_, rfl⟩, rfl⟩

end Simulation

end Chip8.Pacing

import Chip8.Proofs.Cycle

/-!
# The course of a cycle

A whole cycle in any surroundings. They give it two readings of the clock and what the poll finds
(`Cue`); it does things to them, one after the other (`Deed`), and ends with a controller and perhaps a
failure (`Course`). Which surroundings these are does not matter to the controller. A cycle against
simulated time is one such course, its deeds done to the simulation (`Simulation.cycle_eq_course`).
-/

namespace Chip8.Pacing

/-- What the surroundings give to a cycle. -/
structure Cue (τ : Type) where
  /-- The reading of the clock with which the cycle starts. -/
  start : τ
  /-- What the poll finds. -/
  polled : Except BadKey (List KeyEvent)
  /-- The reading of the clock when the frame has been shown. -/
  shown : τ

/-- What a controller does to its surroundings. -/
inductive Deed (τ : Type) where
  /-- It logs the line that traces an instruction. -/
  | log (line : String)
  /-- It shows a frame. -/
  | present (frame : Display)
  /-- It asks for a sleep. -/
  | sleep (time : τ)
deriving DecidableEq

/-- Whether it is a line that is logged. -/
def Deed.isLog {τ : Type} : Deed τ → Bool
  | log _ => true
  | present _ => false
  | sleep _ => false

/-- A whole cycle. -/
structure Course (τ : Type) where
  /-- The controller afterwards. -/
  controller : Controller τ
  /-- What it has done to its surroundings, the first deed first. -/
  deeds : List (Deed τ)
  /-- Why the cycle failed, if it did. -/
  failure : Option Failure

namespace Controller

variable {τ : Type}

/-- Handing out a frame changes nothing but the flag. -/
theorem handOut_keeps (c : Controller τ) :
    ∃ dirty, c.handOut.1 = { c with machine := { c.machine with dirty } } := by
  unfold handOut
  split
  · exact ⟨_, rfl⟩
  · exact ⟨_, rfl⟩

variable [Reading τ]

/-- The course of a cycle. -/
def course (c : Controller τ) (cue : Cue τ) : Course τ :=
  let work := c.work cue.start cue.polled
  let logged := work.traced.toList.map Deed.log
  match work.outcome with
  | .error e => ⟨work.controller, logged, some e⟩
  | .ok frame =>
    let (controller, time) := work.controller.rest cue.shown
    ⟨controller, logged ++ (frame.toList.map .present ++ time.toList.map .sleep), none⟩

/-- The controller after some cycles, the first one first. One that fails leaves the controller as it is
then. -/
def after (c : Controller τ) (cues : List (Cue τ)) : Controller τ :=
  cues.foldl (fun c cue => (c.course cue).controller) c

variable {cue : Cue τ} {events : List KeyEvent} {machine : Machine}

/-- The course of a cycle whose instruction is at fault ends there. -/
theorem course_of_fault (c : Controller τ) {f : Fault} (hpoll : cue.polled = .ok events)
    (hstep : (c.machine.press events).step = .error f) :
    c.course cue = ⟨c.keyed cue.start events,
      (c.keyed cue.start events).traced?.toList.map .log, some (.fault f)⟩ := by
  unfold course
  rw [hpoll, work_of_error c cue.start hstep]

/-- The course of a cycle whose timers cannot catch up ends there. -/
theorem course_of_late (c : Controller τ) {e : Failure} (hpoll : cue.polled = .ok events)
    (hstep : (c.machine.press events).step = .ok machine)
    (hlate : (c.performed cue.start events machine).catchUp (c.marksAt cue.start) cue.start = .error e) :
    c.course cue = ⟨c.performed cue.start events machine,
      (c.keyed cue.start events).traced?.toList.map .log, some e⟩ := by
  unfold course
  rw [hpoll, work_of_ok c cue.start hstep, hlate]

/-- The course of any other cycle ends when the controller has rested. -/
theorem course_of_done (c : Controller τ) {c' : Controller τ} (hpoll : cue.polled = .ok events)
    (hstep : (c.machine.press events).step = .ok machine)
    (hcatch : (c.performed cue.start events machine).catchUp (c.marksAt cue.start) cue.start = .ok c') :
    c.course cue = ⟨(c'.handOut.1.rest cue.shown).1,
      (c.keyed cue.start events).traced?.toList.map .log ++
        (c'.handOut.2.toList.map .present ++ (c'.handOut.1.rest cue.shown).2.toList.map .sleep), none⟩ := by
  unfold course
  rw [hpoll, work_of_ok c cue.start hstep, hcatch]

end Controller

/-! ### Simulated time -/

namespace Simulation

/-- What simulated time gives to the next cycle. -/
def cue (s : Simulation) : Cue Float where
  start := s.now
  polled := s.poll.2
  shown :=
    match (s.controller.work s.now s.poll.2).outcome with
    | .ok (some frame) => (s.poll.1.present frame).now
    | _ => s.poll.1.now

/-- What a deed does to simulated time. -/
def undergo (s : Simulation) : Deed Float → Simulation
  | .log line => s.log .debug line
  | .present frame => s.present frame
  | .sleep time => s.sleep time

/-- **A cycle against simulated time is the course that it gives to the controller**: the poll is taken,
and what the controller does is done to it in order. -/
theorem cycle_eq_course (s : Simulation) :
    let course := s.controller.course s.cue
    s.cycle =
      ({ course.deeds.foldl undergo s.poll.1 with controller := course.controller }, course.failure) := by
  have hc := s.poll_keeps.1
  simp only [Controller.course, cue]
  unfold cycle
  generalize s.poll = polled at hc ⊢
  obtain ⟨⟨controller, logger, now, oversleep, polls, presentCosts, sleeps, frames, written⟩, events⟩ := polled
  dsimp only at hc ⊢
  subst hc
  generalize s.controller.work s.now events = w
  obtain ⟨c, traced, outcome⟩ := w
  cases outcome with
  | error e => cases traced <;> rfl
  | ok frame =>
    -- What may still differ is whether a line is logged, a frame shown, and time left to sleep.
    cases traced <;> cases frame <;> cases presentCosts <;> simp only [log, present] <;> split <;>
      simp_all [undergo, log, present, sleep]

end Simulation

end Chip8.Pacing

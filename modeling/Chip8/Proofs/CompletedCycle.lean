import Chip8.Proofs.FatalFault
import Chip8.Proofs.Timers

/-!
# Cycles that do not fail

A cycle that does not fail has polled keys and performed an instruction, and the count of its ticks was within
the limit. From that all it leaves follows: the timers are counted down by the ticks, the mark of the timers
is moved on by as many periods, and the deadline by the time of a cycle, or to the end of the cycle if that is
later. A sleep is asked for if there is time left until the deadline, and for just that time (`Completed`).

What runs of such cycles come to in time is derived from this alone, without another look at the cycle.
-/

namespace Chip8.Pacing

/-- The sleep that is asked for, if that is what is done. -/
def Deed.sleep? {τ : Type} : Deed τ → Option τ
  | log _ => none
  | present _ => none
  | sleep time => some time

/-- The sleeps that are asked for in a cycle. -/
def Course.sleeps {τ : Type} (r : Course τ) : List τ := r.deeds.filterMap Deed.sleep?

/-- Of a line, a frame and a sleep, if there are any, only the sleep is one. -/
theorem Course.sleeps_mk {τ : Type} (c : Controller τ) (line : Option String) (frame : Option Display)
    (time : Option τ) (failure : Option Failure) :
    Course.sleeps
        ⟨c, line.toList.map .log ++ (frame.toList.map .present ++ time.toList.map .sleep), failure⟩ =
      time.toList := by
  cases line <;> cases frame <;> cases time <;> rfl

namespace Controller

open Machine (tickLimit)

variable {τ : Type} [Reading τ] {c : Controller τ} {cue : Cue τ}

/-! ### What is left to find of a cycle -/

/-- A cycle that does not fail has polled keys. -/
theorem polled_of_course (h : (c.course cue).failure = none) : cue.polled = .ok cue.events := by
  unfold Cue.events
  cases hpoll : cue.polled with
  | ok events => rfl
  | error e =>
    unfold course at h
    rw [hpoll] at h
    cases h

/-- How many ticks a cycle that starts at a reading takes from the timers. Where there is no count there are
none. -/
def ticksAt (c : Controller τ) (start : τ) : Int :=
  match ticksDue c.timerPeriod (c.marksAt start) start with
  | .ok ticks => if 0 < ticks then ticks else 0
  | .error _ => 0

theorem ticksAt_of_due {start : τ} {ticks : Int}
    (hdue : ticksDue c.timerPeriod (c.marksAt start) start = .ok ticks) :
    c.ticksAt start = if 0 < ticks then ticks else 0 := by
  unfold ticksAt
  rw [hdue]

/-- The marks that a cycle leaves. -/
def nextMarks (c : Controller τ) (cue : Cue τ) : Marks τ :=
  let marks := c.marksAt cue.start
  let due := marks.deadline + c.cycleTime
  { lastTick :=
      if 0 < c.ticksAt cue.start then marks.lastTick + Reading.ofInt (c.ticksAt cue.start) * c.timerPeriod
      else marks.lastTick
    deadline := if Reading.less due cue.shown then cue.shown else due }

/-- What a cycle that does not fail comes to, `m` being the machine behind its instruction. -/
structure Completed (c : Controller τ) (cue : Cue τ) (m : Machine) : Prop where
  step : (c.machine.press cue.events).step = .ok m
  delay : (c.course cue).controller.machine.delay.toNat = m.delay.toNat - (c.ticksAt cue.start).toNat
  sound : (c.course cue).controller.machine.sound.toNat = m.sound.toNat - (c.ticksAt cue.start).toNat
  marks : (c.course cue).controller.marks = some (c.nextMarks cue)
  timerPeriod : (c.course cue).controller.timerPeriod = c.timerPeriod
  cycleTime : (c.course cue).controller.cycleTime = c.cycleTime
  /-- A sleep is asked for until the deadline, if there is time left. -/
  sleeps : (c.course cue).sleeps =
    if Reading.less Reading.zero ((c.nextMarks cue).deadline - cue.shown) then
      [(c.nextMarks cue).deadline - cue.shown]
    else []

/-- The instruction of a cycle that does not fail is performed, and the count of the ticks is within the
limit. -/
theorem ticks_of_course (h : (c.course cue).failure = none) :
    ∃ m ticks, (c.machine.press cue.events).step = .ok m ∧
      ticksDue c.timerPeriod (c.marksAt cue.start) cue.start = .ok ticks ∧ ticks < tickLimit := by
  have hpoll := polled_of_course h
  cases hstep : (c.machine.press cue.events).step with
  | error f =>
    rw [c.course_of_fault hpoll hstep] at h
    cases h
  | ok m =>
    have hlate {e : Failure}
        (hcatch : (c.performed cue.start cue.events m).catchUp (c.marksAt cue.start) cue.start = .error e) :
        False := by
      rw [c.course_of_late hpoll hstep hcatch] at h
      cases h
    cases hdue : ticksDue c.timerPeriod (c.marksAt cue.start) cue.start with
    | error e => exact (hlate (catchUp_of_not_due _ hdue)).elim
    | ok ticks =>
      refine ⟨m, ticks, rfl, rfl, Int.not_le.mp fun hle => ?_⟩
      have hcatch := catchUp_of_due (c.performed cue.start cue.events m) hdue
      exact hlate (hcatch.trans (if_neg (Int.not_lt.mpr hle)))

/-- The marks when the timers have caught up: only that of the timers has moved. -/
theorem marks_caughtUp (c : Controller τ) (cue : Cue τ) (m : Machine) {ticks : Int}
    (hdue : ticksDue c.timerPeriod (c.marksAt cue.start) cue.start = .ok ticks) :
    ((c.performed cue.start cue.events m).caughtUp (c.marksAt cue.start) ticks).marks =
      some ⟨(c.nextMarks cue).lastTick, (c.marksAt cue.start).deadline⟩ := by
  unfold caughtUp nextMarks
  rw [ticksAt_of_due hdue]
  by_cases hpos : 0 < ticks
  · simp only [if_pos hpos]
    rfl
  · simp only [if_neg hpos]
    rfl

/-- Catching up leaves the rates alone. -/
theorem rates_caughtUp (c : Controller τ) (marks : Marks τ) (ticks : Int) :
    (c.caughtUp marks ticks).timerPeriod = c.timerPeriod ∧
      (c.caughtUp marks ticks).cycleTime = c.cycleTime := by
  unfold caughtUp
  split <;> exact ⟨rfl, rfl⟩

/-- A controller that rests moves its deadline, and sleeps if there is time left until it. -/
theorem rest_of_marks {marks : Marks τ} (hmarks : c.marks = some marks) (now : τ) :
    let due := marks.deadline + c.cycleTime
    let deadline := if Reading.less due now then now else due
    c.rest now = ({ c with marks := some { marks with deadline } },
      if Reading.less Reading.zero (deadline - now) then some (deadline - now) else none) := by
  intro due deadline
  unfold rest marksAt
  rw [hmarks]
  rfl

/-- **What a cycle that does not fail comes to.** -/
theorem completed_of_course (h : (c.course cue).failure = none) : ∃ m, Completed c cue m := by
  obtain ⟨m, ticks, hstep, hdue, hlt⟩ := ticks_of_course h
  have hticks : (c.ticksAt cue.start).toNat = ticks.toNat := by
    rw [ticksAt_of_due hdue]
    split <;> omega
  have hcatch := (catchUp_of_due (c.performed cue.start cue.events m) hdue).trans (if_pos hlt)
  have hmarks := c.marks_caughtUp cue m hdue
  have hrates := (c.performed cue.start cue.events m).rates_caughtUp (c.marksAt cue.start) ticks
  obtain ⟨hdelay, hsound⟩ := (c.performed cue.start cue.events m).toNat_caughtUp (c.marksAt cue.start) hlt
  have hcourse := c.course_of_done (polled_of_course h) hstep hcatch
  -- Of the controller that has caught up only its timers, its marks and its rates matter from here on.
  generalize (c.performed cue.start cue.events m).caughtUp (c.marksAt cue.start) ticks = caught at *
  obtain ⟨dirty, hkeeps⟩ := caught.handOut_keeps
  have hcycle : caught.handOut.1.cycleTime = c.cycleTime := by rw [hkeeps]; exact hrates.2
  have hleft : caught.handOut.1.marks =
      some ⟨(c.nextMarks cue).lastTick, (c.marksAt cue.start).deadline⟩ := by
    rw [hkeeps]
    exact hmarks
  have hrest : caught.handOut.1.rest cue.shown =
      ({ caught.handOut.1 with marks := some (c.nextMarks cue) },
        if Reading.less Reading.zero ((c.nextMarks cue).deadline - cue.shown) then
          some ((c.nextMarks cue).deadline - cue.shown)
        else none) := by
    unfold nextMarks
    rw [← hcycle]
    exact rest_of_marks hleft cue.shown
  rw [hrest] at hcourse
  exact ⟨m,
    { step := hstep
      delay := by rw [hcourse, hticks, hkeeps]; exact hdelay
      sound := by rw [hcourse, hticks, hkeeps]; exact hsound
      marks := by rw [hcourse]
      timerPeriod := by rw [hcourse, hkeeps]; exact hrates.1
      cycleTime := by rw [hcourse]; exact hcycle
      sleeps := by
        rw [hcourse, Course.sleeps_mk]
        dsimp only
        split <;> rfl }⟩

/-- The next cycle is timed against the marks that are left, whenever it starts. -/
theorem Completed.marksAt {m : Machine} (h : Completed c cue m) (start : τ) :
    (c.course cue).controller.marksAt start = c.nextMarks cue := by
  unfold Controller.marksAt
  rw [h.marks]
  rfl

omit [Reading τ] in
/-- The first cycle is timed against its start. -/
theorem marksAt_of_none (h : c.marks = none) (start : τ) : c.marksAt start = ⟨start, start⟩ := by
  unfold marksAt
  rw [h]
  rfl

/-! ### Runs of such cycles -/

/-- What holds of every cycle of a run, each with the controller that is left to it. -/
def Throughout (P : Controller τ → Cue τ → Prop) : Controller τ → List (Cue τ) → Prop
  | _, [] => True
  | c, cue :: cues => P c cue ∧ Throughout P (c.course cue).controller cues

instance decidableThroughout {P : Controller τ → Cue τ → Prop} [∀ c cue, Decidable (P c cue)] :
    (c : Controller τ) → (cues : List (Cue τ)) → Decidable (c.Throughout P cues)
  | _, [] => isTrue trivial
  | c, cue :: cues =>
    have : Decidable (Throughout P (c.course cue).controller cues) := decidableThroughout _ cues
    inferInstanceAs (Decidable (_ ∧ _))

/-- It holds of the cycles that a run starts with. -/
theorem Throughout.take {P : Controller τ → Cue τ → Prop} {cues : List (Cue τ)} (h : c.Throughout P cues)
    (k : Nat) : c.Throughout P (cues.take k) := by
  induction cues generalizing c k with
  | nil =>
    rw [List.take_nil]
    trivial
  | cons cue cues ih =>
    cases k with
    | zero => trivial
    | succ k => exact ⟨h.1, ih h.2 k⟩

/-- No cycle fails. -/
def Completes : Controller τ → List (Cue τ) → Prop := Throughout fun c cue => (c.course cue).failure = none

instance (cues : List (Cue τ)) : Decidable (c.Completes cues) :=
  inferInstanceAs (Decidable (Throughout _ c cues))

/-- A controller that has not run, eight cycles and four ticks in a second. -/
def steady : Controller Rat where
  machine := looping
  cycleTime := mkRat 1 8
  timerPeriod := mkRat 1 4
  trace := false
  cycles := 0
  marks := none

/-- A cycle in which no time passes. -/
def instant (reading : Rat) : Cue Rat := ⟨reading, .ok [], reading⟩

end Controller

end Chip8.Pacing

import Chip8.Config.Load
import Chip8.Proofs.Course
import Chip8.Proofs.Run

/-!
# Catching up with the clock

The timers are counted down by as many whole periods as the clock has gone on. The count may be any
integer, but a machine takes no more ticks at once than fit in 32 signed bits. Within these the timers stop
at zero, as they should (`Machine.toNat_countDown`). Beyond, or if there is no count at all, the cycle fails
when its instruction is already performed and counted: apart from a fault, a failing poll and a failing
surrounding, that is the only way for it to fail (`failure_of_ticks`).
-/

namespace Chip8

/-- A result that has a value is that value. -/
theorem eq_ok_of_toOption {ε α : Type} {x : Except ε α} {a : α} (h : x.toOption = some a) :
    x = .ok a := by
  cases x with
  | error e => cases h
  | ok b => exact congrArg Except.ok (Option.some.inj h)

namespace Machine

/-- One more than the largest number of ticks that a machine takes at once. -/
def tickLimit : Int := 0x80000000

/-- A timer stops at zero. -/
theorem toNat_countDown (timer : UInt8) {ticks : Int} (h0 : 0 ≤ ticks) (hlt : ticks < tickLimit) :
    (countDown timer ticks).toNat = timer.toNat - ticks.toNat := by
  have htimer := timer.toNat_lt
  unfold tickLimit at hlt
  -- The difference does not leave 32 signed bits, so it is not wrapped.
  have hwrap : Int.bmod (timer.toNat - ticks) 0x100000000 = timer.toNat - ticks :=
    Int.bmod_eq_of_le (by omega) (by omega)
  unfold countDown
  rw [hwrap, UInt8.toNat_ofNat']
  omega

/-- The machine with its timers counted down. -/
def ticked (m : Machine) (ticks : Int) : Machine :=
  { m with delay := countDown m.delay ticks, sound := countDown m.sound ticks }

theorem tick_of_lt (m : Machine) {ticks : Int} (h0 : 0 ≤ ticks) (hlt : ticks < tickLimit) :
    m.tick ticks = .ok (m.ticked ticks) := if_pos ⟨by omega, hlt⟩

theorem tick_of_le (m : Machine) {ticks : Int} (h : tickLimit ≤ ticks) : m.tick ticks = .error ⟨ticks⟩ :=
  if_neg fun hin => Int.not_lt.mpr h hin.2

end Machine

namespace Pacing.Controller

open Machine (tickLimit)

variable {τ : Type} [Reading τ]

/-! ### What catching up comes to -/

/-- The controller when its timers have been counted down, and the mark moved on by as much. -/
def caughtUp (c : Controller τ) (marks : Marks τ) (ticks : Int) : Controller τ :=
  if 0 < ticks then
    { c with
      machine := c.machine.ticked ticks
      marks := some { marks with lastTick := marks.lastTick + Reading.ofInt ticks * c.timerPeriod } }
  else c

/-- Counted down or not, a timer holds what it held less the ticks, or zero. -/
theorem toNat_caughtUp (c : Controller τ) (marks : Marks τ) {ticks : Int} (hlt : ticks < tickLimit) :
    (c.caughtUp marks ticks).machine.delay.toNat = c.machine.delay.toNat - ticks.toNat ∧
      (c.caughtUp marks ticks).machine.sound.toNat = c.machine.sound.toNat - ticks.toNat := by
  unfold caughtUp
  by_cases hpos : 0 < ticks
  · rw [if_pos hpos]
    have h0 := Int.le_of_lt hpos
    exact ⟨Machine.toNat_countDown _ h0 hlt, Machine.toNat_countDown _ h0 hlt⟩
  · rw [if_neg hpos, Int.toNat_of_nonpos (Int.not_lt.mp hpos)]
    exact ⟨rfl, rfl⟩

/-- The timers catch up if the count of the ticks is within the limit. -/
theorem catchUp_of_due (c : Controller τ) {marks : Marks τ} {start : τ} {ticks : Int}
    (hdue : ticksDue c.timerPeriod marks start = .ok ticks) :
    c.catchUp marks start =
      if ticks < tickLimit then .ok (c.caughtUp marks ticks) else .error .tooManyTicks := by
  unfold catchUp caughtUp
  rw [hdue]
  by_cases hpos : 0 < ticks
  · by_cases hlt : ticks < tickLimit
    · simp only [if_pos hpos, if_pos hlt, c.machine.tick_of_lt (Int.le_of_lt hpos) hlt]
    · simp only [if_pos hpos, if_neg hlt, c.machine.tick_of_le (Int.not_lt.mp hlt)]
  · have hlt : ticks < tickLimit := by
      unfold tickLimit
      omega
    simp only [if_neg hpos, if_pos hlt]

/-- There is no count if the periods are infinitely many, or no number. -/
theorem failure_of_not_due {period : τ} {marks : Marks τ} {start : τ} {e : Failure}
    (hdue : ticksDue period marks start = .error e) : e = .tooManyTicks ∨ e = .noReading := by
  unfold ticksDue at hdue
  split at hdue <;> cases hdue
  · exact .inl rfl
  · exact .inr rfl

/-- Without a count they do not catch up. -/
theorem catchUp_of_not_due (c : Controller τ) {marks : Marks τ} {start : τ} {e : Failure}
    (hdue : ticksDue c.timerPeriod marks start = .error e) : c.catchUp marks start = .error e := by
  unfold catchUp
  rw [hdue]

/-- Catching up changes the timers of the machine, the marks, and nothing else. -/
theorem catchUp_eq_ok {c c' : Controller τ} {marks : Marks τ} {start : τ}
    (h : c.catchUp marks start = .ok c') : ∃ ticks, ticks < tickLimit ∧ c' = c.caughtUp marks ticks := by
  cases hdue : ticksDue c.timerPeriod marks start with
  | error e =>
    rw [c.catchUp_of_not_due hdue] at h
    cases h
  | ok ticks =>
    rw [c.catchUp_of_due hdue] at h
    split at h
    case isTrue hlt => exact ⟨ticks, hlt, (Except.ok.inj h).symm⟩
    case isFalse => cases h

/-- A cycle whose instruction is performed counts it, and then changes nothing of the machine but its timers
and its flag. -/
theorem course_keeps (c : Controller τ) {cue : Cue τ} {events : List KeyEvent} {m : Machine}
    (hpoll : cue.polled = .ok events) (hstep : (c.machine.press events).step = .ok m) :
    (c.course cue).controller.cycles = c.cycles + 1 ∧
      ∃ delay sound dirty, (c.course cue).controller.machine = { m with delay, sound, dirty } := by
  cases hcatch : (c.performed cue.start events m).catchUp (c.marksAt cue.start) cue.start with
  | error e =>
    rw [c.course_of_late hpoll hstep hcatch]
    exact ⟨rfl, m.delay, m.sound, m.dirty, rfl⟩
  | ok c' =>
    obtain ⟨ticks, -, rfl⟩ := catchUp_eq_ok hcatch
    obtain ⟨dirty, hkeeps⟩ :=
      ((c.performed cue.start events m).caughtUp (c.marksAt cue.start) ticks).handOut_keeps
    rw [c.course_of_done hpoll hstep hcatch, hkeeps]
    unfold caughtUp
    split
    · exact ⟨rfl, _, _, dirty, rfl⟩
    · exact ⟨rfl, m.delay, m.sound, dirty, rfl⟩

/-! ### How a cycle can fail -/

/-- **When a cycle fails**, the poll having found keys. It fails with the fault of its instruction if that is
at fault. Otherwise, if the whole number of timer periods that have gone by is computed and within the limit,
it does not fail, and each timer holds what the instruction left in it less that number, or zero. If there
is no such number, the cycle fails for just that, with the instruction performed and the timers not counted
down. -/
theorem failure_of_ticks (c : Controller τ) (cue : Cue τ) {events : List KeyEvent}
    (hpoll : cue.polled = .ok events) :
    let due := ticksDue c.timerPeriod (c.marksAt cue.start) cue.start
    let course := c.course cue
    (∀ f, (c.machine.press events).step = .error f → course.failure = some (.fault f)) ∧
      ∀ m, (c.machine.press events).step = .ok m →
        (∀ ticks, due = .ok ticks → ticks < tickLimit →
          course.failure = none ∧
          course.controller.machine.delay.toNat = m.delay.toNat - ticks.toNat ∧
          course.controller.machine.sound.toNat = m.sound.toNat - ticks.toNat) ∧
        ((∀ ticks, due = .ok ticks → tickLimit ≤ ticks) →
          (course.failure = some .tooManyTicks ∨ course.failure = some .noReading) ∧
          course.controller.machine = m) := by
  intro due course
  refine ⟨fun f hstep => ?fault, fun m hstep => ⟨fun ticks hdue hlt => ?within, fun hbeyond => ?beyond⟩⟩
  case fault =>
    show (c.course cue).failure = _
    rw [c.course_of_fault hpoll hstep]
  case within =>
    have hcatch := (c.performed cue.start events m).catchUp_of_due hdue
    rw [if_pos hlt] at hcatch
    obtain ⟨hdelay, hsound⟩ := (c.performed cue.start events m).toNat_caughtUp (c.marksAt cue.start) hlt
    obtain ⟨dirty, hkeeps⟩ :=
      ((c.performed cue.start events m).caughtUp (c.marksAt cue.start) ticks).handOut_keeps
    rw [show course = _ from c.course_of_done hpoll hstep hcatch, hkeeps]
    exact ⟨rfl, hdelay, hsound⟩
  case beyond =>
    obtain ⟨e, he, hlate⟩ : ∃ e, (e = .tooManyTicks ∨ e = .noReading) ∧
        (c.performed cue.start events m).catchUp (c.marksAt cue.start) cue.start = .error e := by
      cases hdue : due with
      | ok ticks =>
        have hcatch := (c.performed cue.start events m).catchUp_of_due hdue
        rw [if_neg (Int.not_lt.mpr (hbeyond ticks hdue))] at hcatch
        exact ⟨_, .inl rfl, hcatch⟩
      | error e => exact ⟨e, failure_of_not_due hdue, catchUp_of_not_due _ hdue⟩
    rw [show course = _ from c.course_of_late hpoll hstep hlate]
    exact ⟨he.imp (congrArg some) (congrArg some), rfl⟩

/-- A machine that jumps to where it is, with both timers running. -/
def looping : Machine :=
  { (Machine.start ⟨0, 0⟩).run [.load [0x12, 0x00]] with delay := 10, sound := 2 }

/-- Its controller, four ticks in a second. -/
def calm : Controller Float where
  machine := looping
  cycleTime := 1.0 / 8.0
  timerPeriod := 1.0 / 4.0
  trace := false
  cycles := 0
  marks := some ⟨0.0, 0.0⟩

/-- A second takes four from the one timer and leaves the other one at zero. -/
theorem failure_of_ticks_second :
    let course := calm.course ⟨1.0, .ok [], 1.0⟩
    course.failure = none ∧ course.controller.machine.delay.toNat = 6 ∧
      course.controller.machine.sound.toNat = 0 := by
  have hdue : ticksDue calm.timerPeriod (calm.marksAt 1.0) 1.0 = .ok 4 :=
    eq_ok_of_toOption (by decide +kernel)
  have hstep : (calm.machine.press []).step = .ok ((calm.machine.press []).fetch.1.perform (.jump 0x200)) :=
    Machine.step_eq_ok_iff.mpr ⟨by decide, .jump 0x200, by decide +kernel, fun h => absurd rfl h, rfl⟩
  obtain ⟨-, hperformed⟩ := failure_of_ticks calm ⟨1.0, .ok [], 1.0⟩ rfl
  obtain ⟨hfailure, hdelay, hsound⟩ := (hperformed _ hstep).1 4 hdue (by decide)
  exact ⟨hfailure, hdelay.trans (by decide), hsound.trans (by decide)⟩

/-- A configuration that is accepted, with a thousand million ticks in a second. -/
def hurried : Config := { Config.default with timerFrequency := 1000000000 }

/-- **A cycle can fail without a fault**: at the frequency of an accepted configuration, three seconds between
two cycles are more ticks than the timers take at once. The first cycle does not fail, the instruction of
the second one is not at fault, and the second one fails. -/
theorem not_caughtUp_hurried :
    (Config.load (fun _ => none) (some "timer_frequency: 1000000000") []).toOption = some hurried ∧
      ∃ c : Controller Float,
        Controller.create looping hurried.instructionsPerSecond hurried.timerFrequency hurried.trace = .ok c ∧
          let first := c.course ⟨0.0, .ok [], 0.0⟩
          let second := first.controller.course ⟨3.0, .ok [], 3.0⟩
          first.failure = none ∧ (first.controller.machine.press []).step.isOk = true ∧
            second.failure = some .tooManyTicks := by
  refine ⟨by decide +kernel, _, rfl, ?_⟩
  decide +kernel

end Pacing.Controller

end Chip8

import Mathlib.Algebra.Order.Floor.Ring
import Mathlib.Data.Rat.Floor
import Mathlib.Tactic.FieldSimp
import Mathlib.Tactic.Linarith
import Chip8.Proofs.CompletedCycle
import Chip8.Proofs.Frame

/-!
# The timers lose no time

A cycle takes whole periods from the timers and moves the mark on by just these, so that what is left of a
period counts in the next cycle. With exact readings nothing is lost: the mark is a number of periods past
the start of the first cycle, and that number is of all periods that were whole by the start of the latest one
(`Marks.Counts`). It does not matter how many cycles there were and when they started.

A timer stops at zero, and one that takes some ticks and then more holds the same as if it had taken all of
them at once. So the timers, too, do not depend on the cycles (`ticks_of_starts`).
-/

namespace Chip8

/-! ### Instructions that set no timer -/

namespace Machine

/-- `Fx15` and `Fx18`: the word sets a timer. -/
def SetsTimer (w : Int) : Prop := firstNibble w = 0xF ∧ (lastByte w = 0x15 ∨ lastByte w = 0x18)

instance (w : Int) : Decidable (SetsTimer w) := inferInstanceAs (Decidable (_ ∧ _))

/-- A step with any other word leaves the timers alone. -/
theorem timers_step {m m' : Machine} (hstep : m.step = .ok m') (hw : ¬ SetsTimer m.word.toNat) :
    m'.delay = m.delay ∧ m'.sound = m.sound := by
  obtain ⟨-, i, hd, -, rfl⟩ := step_eq_ok_iff.mp hstep
  have hframe := frame_perform m.fetch.1 (Instruction.hasForm_of_decode? hd)
  constructor
  · by_contra hne
    obtain ⟨hfirst, hlast⟩ := hframe.delay hne
    exact hw ⟨hfirst, .inl hlast⟩
  · by_contra hne
    obtain ⟨hfirst, hlast⟩ := hframe.sound hne
    exact hw ⟨hfirst, .inr hlast⟩

end Machine

namespace Pacing.Controller

open Machine (SetsTimer)

/-! ### The ticks of a run -/

section Ticks

variable {τ : Type} [Reading τ] {c : Controller τ}

/-- How many ticks the cycles of a run take from the timers. -/
def ticksIn : Controller τ → List (Cue τ) → Int
  | _, [] => 0
  | c, cue :: cues => c.ticksAt cue.start + (c.course cue).controller.ticksIn cues

theorem ticksAt_nonneg (c : Controller τ) (start : τ) : 0 ≤ c.ticksAt start := by
  unfold ticksAt
  split
  · split <;> omega
  · exact Int.le_refl 0

theorem ticksIn_nonneg (c : Controller τ) (cues : List (Cue τ)) : 0 ≤ c.ticksIn cues := by
  induction cues generalizing c with
  | nil => exact Int.le_refl 0
  | cons cue cues ih => exact Int.add_nonneg (c.ticksAt_nonneg cue.start) (ih _)

/-- No cycle performs an instruction that sets a timer. -/
def SetsNoTimer : Controller τ → List (Cue τ) → Prop :=
  Throughout fun c _ => ¬ SetsTimer c.machine.word.toNat

instance (cues : List (Cue τ)) : Decidable (c.SetsNoTimer cues) :=
  inferInstanceAs (Decidable (Throughout _ c cues))

/-- What is subtracted in turn, stopping at zero, is subtracted in all. -/
theorem sub_toNat_add (timer : Nat) {ticks more : Int} (hticks : 0 ≤ ticks) (hmore : 0 ≤ more) :
    timer - ticks.toNat - more.toNat = timer - (ticks + more).toNat := by
  rw [Int.toNat_add hticks hmore, Nat.sub_sub]

/-- **The timers after a run that does not set them.** Each holds what it held less all ticks, or zero. -/
theorem timers_after {cues : List (Cue τ)} (hdone : c.Completes cues) (hset : c.SetsNoTimer cues) :
    (c.after cues).machine.delay.toNat = c.machine.delay.toNat - (c.ticksIn cues).toNat ∧
      (c.after cues).machine.sound.toNat = c.machine.sound.toNat - (c.ticksIn cues).toNat := by
  induction cues generalizing c with
  | nil => exact ⟨rfl, rfl⟩
  | cons cue cues ih =>
    obtain ⟨m, hcycle⟩ := completed_of_course hdone.1
    obtain ⟨hdelay, hsound⟩ := Machine.timers_step hcycle.step hset.1
    obtain ⟨hdelays, hsounds⟩ := ih hdone.2 hset.2
    have hadd := fun timer => sub_toNat_add timer (c.ticksAt_nonneg cue.start)
      ((c.course cue).controller.ticksIn_nonneg cues)
    constructor
    · calc ((c.course cue).controller.after cues).machine.delay.toNat
          = m.delay.toNat - (c.ticksAt cue.start).toNat - ((c.course cue).controller.ticksIn cues).toNat := by
            rw [hdelays, hcycle.delay]
        _ = c.machine.delay.toNat - (c.ticksIn (cue :: cues)).toNat := by
            rw [hadd, hdelay]
            rfl
    · calc ((c.course cue).controller.after cues).machine.sound.toNat
          = m.sound.toNat - (c.ticksAt cue.start).toNat - ((c.course cue).controller.ticksIn cues).toNat := by
            rw [hsounds, hcycle.sound]
        _ = c.machine.sound.toNat - (c.ticksIn (cue :: cues)).toNat := by
            rw [hadd, hsound]
            rfl

end Ticks

end Pacing.Controller

/-! ### Marks by exact readings -/

namespace Pacing

/-- The whole number in an exact quotient that is not negative is the one below it. -/
theorem whole_eq {x : Rat} (hx : 0 ≤ x) : Reading.whole x = .ok ⌊x⌋ := by
  show Except.ok (x.num.tdiv x.den) = _
  rw [Int.tdiv_eq_ediv_of_nonneg (Rat.num_nonneg.mpr hx), Rat.floor_def']

/-- The mark of the timers is a number of periods past `origin`: all that were whole by `start`. -/
structure Marks.Counts (marks : Marks Rat) (period origin start : Rat) (ticks : Int) : Prop where
  lastTick : marks.lastTick = origin + ticks * period
  whole : ticks = ⌊(start - origin) / period⌋

/-- Such a mark is not in the future, and less than a period ago. -/
theorem Marks.Counts.within {marks : Marks Rat} {period origin start : Rat} {ticks : Int}
    (h : marks.Counts period origin start ticks) (hperiod : 0 < period) :
    start - period < marks.lastTick ∧ marks.lastTick ≤ start := by
  have hle : ticks * period ≤ start - origin := by
    rw [← le_div_iff₀ hperiod, h.whole]
    exact Int.floor_le _
  have hlt : start - origin < (ticks + 1) * period := by
    rw [← div_lt_iff₀ hperiod, h.whole]
    exact Int.lt_floor_add_one _
  rw [h.lastTick]
  constructor <;> linarith

namespace Controller

variable {c : Controller Rat} {cue : Cue Rat} {origin start : Rat} {ticks : Int}

/-- The ticks of a cycle are the whole periods since the mark, if that is not in the future. -/
theorem ticksAt_eq (hperiod : 0 < c.timerPeriod) (hmark : (c.marksAt start).lastTick ≤ start) :
    c.ticksAt start = ⌊(start - (c.marksAt start).lastTick) / c.timerPeriod⌋ := by
  have hquotient : 0 ≤ (start - (c.marksAt start).lastTick) / c.timerPeriod :=
    div_nonneg (sub_nonneg.mpr hmark) hperiod.le
  have hdue : ticksDue c.timerPeriod (c.marksAt start) start =
      .ok ⌊(start - (c.marksAt start).lastTick) / c.timerPeriod⌋ := by
    unfold ticksDue
    rw [whole_eq hquotient]
  have hfloor := Int.floor_nonneg.mpr hquotient
  rw [ticksAt_of_due hdue]
  split <;> omega

/-- The mark is moved on by the ticks. -/
theorem lastTick_nextMarks (c : Controller Rat) (cue : Cue Rat) :
    (c.nextMarks cue).lastTick = (c.marksAt cue.start).lastTick + c.ticksAt cue.start * c.timerPeriod := by
  unfold nextMarks
  show (if 0 < c.ticksAt cue.start then _ else _) = _
  by_cases hpos : 0 < c.ticksAt cue.start
  · rw [if_pos hpos]
    rfl
  · have hzero : c.ticksAt cue.start = 0 := by
      have := c.ticksAt_nonneg cue.start
      omega
    rw [if_neg hpos, hzero, Int.cast_zero, zero_mul, add_zero]

/-- **One cycle counts on.** What was left of a period by `start` is in the quotient for the next reading, as
it starts where the mark is. -/
theorem counts_nextMarks (hperiod : 0 < c.timerPeriod) (hle : start ≤ cue.start)
    (h : (c.marksAt cue.start).Counts c.timerPeriod origin start ticks) :
    (c.nextMarks cue).Counts c.timerPeriod origin cue.start (ticks + c.ticksAt cue.start) where
  lastTick := by
    rw [lastTick_nextMarks, h.lastTick, Int.cast_add]
    ring
  whole := by
    have hmark := (h.within hperiod).2.trans hle
    have hleft : (cue.start - (origin + ticks * c.timerPeriod)) / c.timerPeriod =
        (cue.start - origin) / c.timerPeriod - ticks := by
      field_simp
      ring
    rw [ticksAt_eq hperiod hmark, h.lastTick, hleft, Int.floor_sub_intCast]
    omega

/-- **So does any number of cycles.** -/
theorem counts_after {first : Cue Rat} {cues : List (Cue Rat)} (hperiod : 0 < c.timerPeriod)
    (hdone : c.Completes (first :: cues)) (hle : start ≤ first.start)
    (hstarts : (first.start :: cues.map Cue.start).IsChain (· ≤ ·))
    (h : (c.marksAt first.start).Counts c.timerPeriod origin start ticks) :
    ∃ marks, (c.after (first :: cues)).marks = some marks ∧
      marks.Counts c.timerPeriod origin ((cues.map Cue.start).getLastD first.start)
        (ticks + c.ticksIn (first :: cues)) := by
  -- By induction on the cycles after the first one, which moves the mark on in any case.
  induction cues generalizing c first start ticks with
  | nil =>
    obtain ⟨m, hfirst⟩ := completed_of_course hdone.1
    refine ⟨c.nextMarks first, hfirst.marks, ?_⟩
    show (c.nextMarks first).Counts _ _ first.start (ticks + (c.ticksAt first.start + 0))
    rw [Int.add_zero]
    exact counts_nextMarks hperiod hle h
  | cons second cues ih =>
    obtain ⟨m, hfirst⟩ := completed_of_course hdone.1
    obtain ⟨hsecond, hrest⟩ := List.isChain_cons_cons.mp hstarts
    have hnext := counts_nextMarks hperiod hle h
    rw [← hfirst.timerPeriod] at hperiod hnext ⊢
    rw [← hfirst.marksAt second.start] at hnext
    obtain ⟨marks, hmarks, hcounts⟩ := ih hperiod hdone.2 hsecond hrest hnext
    refine ⟨marks, hmarks, ?_⟩
    rw [Int.add_assoc] at hcounts
    rw [List.map_cons, List.getLastD_cons]
    exact hcounts

/-- **The timers lose no time, however it is cut into cycles.** A controller that has not run yet, with some
time between two ticks, runs cycles that do not fail, each starting no earlier than the one before it. In all
they take from the timers the whole periods between the starts of the first and of the last one, and the mark
is at the start of the last one or less than a period before. If no cycle sets a timer, each timer holds what
it held less these periods, or zero: of all readings only the first and the last one matter. -/
theorem ticks_of_starts (c : Controller Rat) (hfresh : c.marks = none) (hperiod : 0 < c.timerPeriod)
    {first : Cue Rat} {cues : List (Cue Rat)} (hdone : c.Completes (first :: cues))
    (hstarts : (first.start :: cues.map Cue.start).IsChain (· ≤ ·)) :
    let last := (cues.map Cue.start).getLastD first.start
    let due := ⌊(last - first.start) / c.timerPeriod⌋
    let left := c.after (first :: cues)
    c.ticksIn (first :: cues) = due ∧
      (∃ marks, left.marks = some marks ∧ last - c.timerPeriod < marks.lastTick ∧ marks.lastTick ≤ last) ∧
      (c.SetsNoTimer (first :: cues) →
        left.machine.delay.toNat = c.machine.delay.toNat - due.toNat ∧
        left.machine.sound.toNat = c.machine.sound.toNat - due.toNat) := by
  intro last due left
  have horigin : (c.marksAt first.start).Counts c.timerPeriod first.start first.start 0 := by
    rw [marksAt_of_none hfresh]
    constructor <;> simp
  obtain ⟨marks, hmarks, hcounts⟩ := counts_after hperiod hdone le_rfl hstarts horigin
  have hticks : c.ticksIn (first :: cues) = due := (Int.zero_add _).symm.trans hcounts.whole
  refine ⟨hticks, ⟨marks, hmarks, hcounts.within hperiod⟩, fun hset => ?_⟩
  rw [← hticks]
  exact timers_after hdone hset

/-- Three cycles within a second, the last one after a stall. -/
def unevenly : List (Cue Rat) := [instant (mkRat 1 10), instant (mkRat 3 10), instant (mkRat 1 1)]

/-- From a cycle at the start of that second on, they take its four ticks from the one timer, and leave the
other one at zero. -/
theorem ticks_of_starts_unevenly :
    let run := instant (mkRat 0 1) :: unevenly
    steady.ticksIn run = 4 ∧ (steady.after run).machine.delay.toNat = 6 ∧
      (steady.after run).machine.sound.toNat = 0 := by
  intro run
  obtain ⟨hticks, -, htimers⟩ :=
    ticks_of_starts steady rfl (by decide +kernel) (show steady.Completes run by decide +kernel)
      (by decide +kernel)
  obtain ⟨hdelay, hsound⟩ := htimers (by decide +kernel)
  refine ⟨hticks.trans (by decide +kernel), ?_, ?_⟩
  · rw [hdelay]
    decide +kernel
  · rw [hsound]
    decide +kernel

end Controller

end Pacing

end Chip8

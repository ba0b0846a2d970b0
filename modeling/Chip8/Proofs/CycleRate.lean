import Mathlib.Data.Rat.Cast.Order
import Mathlib.Tactic.Linarith
import Mathlib.Tactic.Ring
import Chip8.Proofs.CompletedCycle

/-!
# The rate of the cycles

A cycle moves the deadline on by the time of a cycle, or to its own end if that is later, and sleeps until
then. The surroundings may oversleep, but the clock does not go back and no sleep is over before its time
(`Paced`). So no cycle starts before the deadline that the one before it has left (`Due`).

The deadline is what keeps the rate: it is never moved on by less, and never before the end of a cycle. Cycles
that start behind it are therefore as far apart as their number says, also after a stall, when those that were
missed are not made up for. As long as no cycle is late the deadline has not been moved in any other way, so
what was overslept is paid back (`starts_within_rate`).
-/

namespace Chip8.Pacing.Controller

variable {c : Controller Rat} {cue next : Cue Rat} {cues : List (Cue Rat)}

/-! ### The deadline -/

/-- The deadline is moved on by the time of a cycle, or to the end of the cycle. -/
theorem deadline_nextMarks (c : Controller Rat) (cue : Cue Rat) :
    (c.nextMarks cue).deadline = max ((c.marksAt cue.start).deadline + c.cycleTime) cue.shown := by
  show (if (c.marksAt cue.start).deadline + c.cycleTime < cue.shown then _ else _) = _
  split
  case isTrue hlate => exact (max_eq_right hlate.le).symm
  case isFalse hearly => exact (max_eq_left (not_lt.mp hearly)).symm

/-- A sleep is asked for if there is time left until the deadline, and for just that time. -/
theorem mem_sleeps (hdone : (c.course cue).failure = none) (time : Rat) :
    time ∈ (c.course cue).sleeps ↔ 0 < time ∧ time = (c.nextMarks cue).deadline - cue.shown := by
  obtain ⟨m, hcycle⟩ := completed_of_course hdone
  rw [hcycle.sleeps]
  show time ∈ (if 0 < (c.nextMarks cue).deadline - cue.shown then _ else _) ↔ _
  split
  case isTrue hleft =>
    rw [List.mem_singleton]
    exact ⟨fun h => ⟨h ▸ hleft, h⟩, And.right⟩
  case isFalse hnone =>
    constructor
    · intro h
      cases h
    · rintro ⟨hpos, rfl⟩
      exact absurd hpos hnone

/-! ### Runs in surroundings that keep time -/

/-- Cycles that do not fail, by a clock that does not go back, in surroundings where a sleep takes at least
the time asked for. -/
def Paced : Controller Rat → List (Cue Rat) → Prop
  | _, [] => True
  | c, cue :: cues =>
    (c.course cue).failure = none ∧ cue.start ≤ cue.shown ∧
      (∀ next ∈ cues.head?, cue.shown ≤ next.start ∧
        ∀ time ∈ (c.course cue).sleeps, cue.shown + time ≤ next.start) ∧
      (c.course cue).controller.Paced cues

instance decidablePaced : (c : Controller Rat) → (cues : List (Cue Rat)) → Decidable (c.Paced cues)
  | _, [] => isTrue trivial
  | c, cue :: cues =>
    have := decidablePaced (c.course cue).controller cues
    inferInstanceAs (Decidable (_ ∧ _ ∧ _ ∧ _))

theorem Paced.completes (h : c.Paced cues) : c.Completes cues := by
  induction cues generalizing c with
  | nil => trivial
  | cons cue cues ih => exact ⟨h.1, ih h.2.2.2⟩

/-- Such a run, of which the first cycle does not start before the deadline. -/
structure Due (c : Controller Rat) (cues : List (Cue Rat)) : Prop where
  paced : c.Paced cues
  deadline : ∀ next ∈ cues.head?, (c.marksAt next.start).deadline ≤ next.start

/-- **The next cycle does not start before the deadline that one leaves**: it has been slept until then, or
there was no time left. -/
theorem Due.course (h : c.Due (cue :: cues)) : (c.course cue).controller.Due cues := by
  obtain ⟨hdone, -, hnext, hrest⟩ := h.paced
  obtain ⟨m, hcycle⟩ := completed_of_course hdone
  refine ⟨hrest, fun next hmem => ?_⟩
  obtain ⟨hforward, hslept⟩ := hnext next hmem
  rw [hcycle.marksAt]
  by_cases hleft : 0 < (c.nextMarks cue).deadline - cue.shown
  · have hwoken := hslept _ ((mem_sleeps hdone _).mpr ⟨hleft, rfl⟩)
    linarith
  · linarith

/-- So it is for every cycle of the run. -/
theorem Due.after {done : List (Cue Rat)} (h : c.Due (done ++ cues)) :
    (c.after done).Due cues ∧ (c.after done).cycleTime = c.cycleTime := by
  induction done generalizing c with
  | nil => exact ⟨h, rfl⟩
  | cons cue done ih =>
    obtain ⟨m, hcycle⟩ := completed_of_course h.paced.completes.1
    obtain ⟨hdue, htime⟩ := ih h.course
    exact ⟨hdue, htime.trans hcycle.cycleTime⟩

/-- A run goes on from any of its cycles. -/
theorem Due.of_getElem? {run : List (Cue Rat)} (h : c.Due run) {i : Nat} (hi : run[i]? = some cue) :
    (c.after (run.take i)).Due (cue :: run.drop (i + 1)) ∧
      (c.after (run.take i)).cycleTime = c.cycleTime := by
  obtain ⟨hlt, rfl⟩ := List.getElem?_eq_some_iff.mp hi
  refine Due.after ?_
  rw [← List.drop_eq_getElem_cons hlt, List.take_append_drop]
  exact h

/-! ### What the deadline comes to -/

/-- **Cycles are at least as far behind a deadline as their number says.** -/
theorem Due.nextMarks_add_le {j : Nat} (h : c.Due (cue :: cues)) (hj : cues[j]? = some next) :
    (c.nextMarks cue).deadline + j * c.cycleTime ≤ next.start := by
  -- By induction on the number: each cycle moves the deadline on by the time of a cycle, if not by more.
  induction j generalizing c cue cues with
  | zero =>
    obtain ⟨m, hcycle⟩ := completed_of_course h.paced.completes.1
    have hfirst := h.course.deadline next (List.head?_eq_getElem?.trans hj)
    rw [hcycle.marksAt] at hfirst
    rw [Nat.cast_zero, zero_mul, add_zero]
    exact hfirst
  | succ j ih =>
    cases cues with
    | nil => cases hj
    | cons second cues =>
      obtain ⟨m, hcycle⟩ := completed_of_course h.paced.completes.1
      have hrest := ih h.course hj
      rw [deadline_nextMarks, hcycle.marksAt, hcycle.cycleTime] at hrest
      have hmove := le_max_left ((c.nextMarks cue).deadline + c.cycleTime) second.shown
      push_cast
      linarith

/-- A sleep is asked for no longer than the time of a cycle. -/
theorem Due.sleep_le {time : Rat} (h : c.Due (cue :: cues)) (htime : time ∈ (c.course cue).sleeps) :
    0 < time ∧ time ≤ c.cycleTime := by
  have hstart := h.deadline cue rfl
  obtain ⟨hdone, hshown, -⟩ := h.paced
  obtain ⟨hpos, hleft⟩ := (mem_sleeps hdone time).mp htime
  refine ⟨hpos, ?_⟩
  rw [deadline_nextMarks] at hleft
  rcases le_total ((c.marksAt cue.start).deadline + c.cycleTime) cue.shown with hlate | hearly
  · rw [max_eq_right hlate] at hleft
    linarith
  · rw [max_eq_left hearly] at hleft
    linarith

/-- No cycle ends later than the time of a cycle after the deadline that it finds. -/
def NeverLate : Controller Rat → List (Cue Rat) → Prop :=
  Throughout fun c cue => cue.shown ≤ (c.marksAt cue.start).deadline + c.cycleTime

instance (cues : List (Cue Rat)) : Decidable (c.NeverLate cues) :=
  inferInstanceAs (Decidable (Throughout _ c cues))

/-- As long as no cycle is late, each moves the deadline on by just the time of a cycle. -/
theorem deadline_after (hdone : c.Completes (cue :: cues)) (hlate : c.NeverLate (cue :: cues)) :
    ∃ marks, (c.after (cue :: cues)).marks = some marks ∧
      marks.deadline = (c.marksAt cue.start).deadline + (cue :: cues).length * c.cycleTime := by
  induction cues generalizing c cue with
  | nil =>
    obtain ⟨m, hcycle⟩ := completed_of_course hdone.1
    refine ⟨c.nextMarks cue, hcycle.marks, ?_⟩
    rw [deadline_nextMarks, max_eq_left hlate.1, List.length_singleton, Nat.cast_one, one_mul]
  | cons second cues ih =>
    obtain ⟨m, hcycle⟩ := completed_of_course hdone.1
    obtain ⟨marks, hmarks, hdeadline⟩ := ih hdone.2 hlate.2
    refine ⟨marks, hmarks, ?_⟩
    rw [hdeadline, hcycle.marksAt, hcycle.cycleTime, deadline_nextMarks, max_eq_left hlate.1,
      List.length_cons (a := cue)]
    push_cast
    ring

/-! ### The rate -/

/-- **The rate is never exceeded, and there are no bursts after a stall.** A controller that has not run yet
runs cycles that do not fail, in surroundings that keep time. Between the end of one cycle and the start of a
later one there is the time of a cycle for each cycle between them, and between the start of the first one and
that of any other for each cycle before that. No sleep is asked for that is longer than the time of a cycle.
As long as no cycle is late, the deadline is as many cycle times after the first start as there were cycles,
however long the sleeps took. -/
theorem starts_within_rate (c : Controller Rat) (hfresh : c.marks = none) {first : Cue Rat}
    {cues : List (Cue Rat)} (hpaced : c.Paced (first :: cues)) :
    let run := first :: cues
    (∀ (i j : Nat) (cue next : Cue Rat), i ≤ j → run[i]? = some cue → run[j + 1]? = some next →
      cue.shown + (j - i : Nat) * c.cycleTime ≤ next.start) ∧
    (∀ (j : Nat) (next : Cue Rat), run[j]? = some next → first.start + j * c.cycleTime ≤ next.start) ∧
    (∀ (i : Nat) (cue : Cue Rat), run[i]? = some cue →
      ∀ time ∈ ((c.after (run.take i)).course cue).sleeps, 0 < time ∧ time ≤ c.cycleTime) ∧
    ∀ k : Nat, 0 < k → k ≤ run.length → c.NeverLate (run.take k) →
      ∃ marks, (c.after (run.take k)).marks = some marks ∧
        marks.deadline = first.start + k * c.cycleTime := by
  intro run
  have horigin : (c.marksAt first.start).deadline = first.start := by rw [marksAt_of_none hfresh]
  have hdue : c.Due run := ⟨hpaced, fun next hnext => by cases hnext; exact horigin.le⟩
  refine ⟨fun i j cue next hij hi hj => ?pairs, fun j next hj => ?start, fun i cue hi time htime => ?sleeps,
    fun k hpos hk hlate => ?deadline⟩
  case pairs =>
    obtain ⟨hcue, htime⟩ := hdue.of_getElem? hi
    have hnext : (run.drop (i + 1))[j - i]? = some next := by
      rw [List.getElem?_drop, ← hj]
      congr 1
      omega
    have hbehind := hcue.nextMarks_add_le hnext
    rw [deadline_nextMarks, htime] at hbehind
    exact (add_le_add_left (le_max_right _ _) _).trans hbehind
  case start =>
    cases j with
    | zero =>
      cases hj
      simp
    | succ j =>
      have hbehind := hdue.nextMarks_add_le hj
      rw [deadline_nextMarks, horigin] at hbehind
      have hle := le_max_left (first.start + c.cycleTime) first.shown
      push_cast
      linarith
  case sleeps =>
    obtain ⟨hcue, hcycleTime⟩ := hdue.of_getElem? hi
    rw [← hcycleTime]
    exact hcue.sleep_le htime
  case deadline =>
    obtain ⟨k, rfl⟩ := Nat.exists_eq_add_one_of_ne_zero hpos.ne'
    obtain ⟨marks, hmarks, hdeadline⟩ := deadline_after (hpaced.completes.take (k + 1)) hlate
    refine ⟨marks, hmarks, ?_⟩
    have hlength : (first :: cues.take k).length = k + 1 := List.length_take_of_le (l := run) hk
    rw [hdeadline, horigin, hlength]

/-- Cycles behind sleeps that took half a cycle too long, the last but one of which stalls. -/
def overslept : List (Cue Rat) :=
  [instant (mkRat 3 16), instant (mkRat 5 16), ⟨mkRat 7 16, .ok [], mkRat 2 1⟩, instant (mkRat 2 1)]

/-- What was overslept before the stall is paid back, so that the third deadline is three cycles after the
start; what was missed in the stall is not. -/
theorem starts_within_rate_overslept :
    let run := instant (mkRat 0 1) :: overslept
    (∃ marks, (steady.after (run.take 3)).marks = some marks ∧ marks.deadline = mkRat 3 8) ∧
      ∀ time ∈ ((steady.after (run.take 4)).course (instant (mkRat 2 1))).sleeps, time ≤ mkRat 1 8 := by
  intro run
  obtain ⟨-, -, hsleeps, hdeadline⟩ :=
    starts_within_rate steady rfl (show steady.Paced run by decide +kernel)
  obtain ⟨marks, hmarks, hthree⟩ := hdeadline 3 (by decide) (by decide) (by decide +kernel)
  refine ⟨⟨marks, hmarks, ?_⟩, fun time htime => (hsleeps 4 _ rfl time htime).2⟩
  rw [hthree]
  decide +kernel

end Chip8.Pacing.Controller

import Chip8.Assembly
import Chip8.Machine.Step
import Chip8.Pacing.Reading

/-!
# The pacing controller

Runs the machine at a fixed rate. A cycle has two halves. The first, at the reading with which the
cycle starts, moves the keys, performs one instruction, lets the timers catch up and hands out a
frame if the framebuffer was written. The second, at the reading after the frame has been shown,
moves the deadline by one cycle and sleeps until then. Oversleeping shortens the next sleep; a
deadline that has passed is forgotten. The timers have a schedule of their own, and what is left of
a period is carried to the next cycle.
-/

namespace Chip8.Pacing

/-- Why a cycle fails. -/
inductive Failure where
  /-- The instruction is at fault. -/
  | fault (f : Fault)
  /-- An event for something that is no key. -/
  | badKey (e : BadKey)
  /-- More ticks than the timers can take at once. -/
  | tooManyTicks
  /-- The clock gave no number. -/
  | noReading
deriving DecidableEq, Repr

/-- The report of a failure, if there is one. -/
def Failure.message? : Failure → Option String
  | fault f => some f.message
  | badKey e => some e.message
  | tooManyTicks => none
  | noReading => some "cannot convert float NaN to integer"

/-- The marks against which the next cycle is timed. -/
structure Marks (τ : Type) where
  /-- Up to when the timers have been counted down. -/
  lastTick : τ
  /-- When the latest cycle was to end. -/
  deadline : τ
deriving DecidableEq, Repr

/-- A machine and the rates at which it runs. -/
structure Controller (τ : Type) where
  /-- The machine. -/
  machine : Machine
  /-- The time of a cycle. -/
  cycleTime : τ
  /-- The time between two ticks of the timers. -/
  timerPeriod : τ
  /-- Whether each instruction is logged before it is performed. -/
  trace : Bool
  /-- How many instructions have been performed. -/
  cycles : Nat
  /-- The marks, set when the first cycle starts. -/
  marks : Option (Marks τ)

/-- The first half of a cycle. -/
structure Work (τ : Type) where
  /-- The controller afterwards. -/
  controller : Controller τ
  /-- The line that traces the instruction, if instructions are traced. -/
  traced : Option String
  /-- The frame to show, if any, or why the cycle failed. -/
  outcome : Except Failure (Option Display)

/-- The line that traces the instruction at the program counter. -/
def traceLine (m : Machine) : String :=
  let w : Int := m.word.toNat
  "0x" ++ hex 3 m.pc.toNat ++ ": " ++ hex 4 w ++ "  " ++ disassemble w

namespace Controller

variable {τ : Type} [Reading τ]

/-- A controller that has not run, for rates per second. -/
def create (machine : Machine) (instructionsPerSecond timerFrequency : Int) (trace : Bool) :
    Except BadRate (Controller τ) :=
  match Reading.period instructionsPerSecond, Reading.period timerFrequency with
  | .error e, _ => .error e
  | .ok _, .error e => .error e
  | .ok cycleTime, .ok timerPeriod =>
    .ok { machine, cycleTime, timerPeriod, trace, cycles := 0, marks := none }

/-- The marks, which are at `start` before the first cycle. -/
def marksAt (c : Controller τ) (start : τ) : Marks τ := c.marks.getD ⟨start, start⟩

/-- How many ticks are due. -/
def ticksDue (period : τ) (marks : Marks τ) (start : τ) : Except Failure Int :=
  match Reading.whole ((start - marks.lastTick) / period) with
  | .ok n => .ok n
  | .error .infinite => .error .tooManyTicks
  | .error .nan => .error .noReading

/-- Lets the timers catch up with the clock. -/
def catchUp (c : Controller τ) (marks : Marks τ) (start : τ) : Except Failure (Controller τ) :=
  match ticksDue c.timerPeriod marks start with
  | .error e => .error e
  | .ok ticks =>
    if 0 < ticks then
      match c.machine.tick ticks with
      | .error _ => .error .tooManyTicks
      | .ok machine =>
        let lastTick := marks.lastTick + Reading.ofInt ticks * c.timerPeriod
        .ok { c with machine, marks := some { marks with lastTick } }
    else .ok c

/-- Hands out the framebuffer if it was written. -/
def handOut (c : Controller τ) : Controller τ × Option Display :=
  if c.machine.dirty then
    ({ c with machine := { c.machine with dirty := false } }, some c.machine.display)
  else (c, none)

/-- The first half of a cycle that starts at the reading `start` and polls the events given. -/
def work (c : Controller τ) (start : τ) (polled : Except BadKey (List KeyEvent)) : Work τ :=
  let marks := c.marksAt start
  let c := { c with marks := some marks }
  match polled with
  | .error e => ⟨c, none, .error (.badKey e)⟩
  | .ok events =>
    let c := { c with machine := c.machine.press events }
    let traced := if c.trace then some (traceLine c.machine) else none
    match c.machine.step with
    | .error f => ⟨c, traced, .error (.fault f)⟩
    | .ok machine =>
      let c := { c with machine, cycles := c.cycles + 1 }
      match c.catchUp marks start with
      | .error e => ⟨c, traced, .error e⟩
      | .ok c =>
        let (c, frame) := c.handOut
        ⟨c, traced, .ok frame⟩

/-- The second half of a cycle, at the reading `now`: the new deadline, and how long to sleep. -/
def rest (c : Controller τ) (now : τ) : Controller τ × Option τ :=
  let marks := c.marksAt now
  let due := marks.deadline + c.cycleTime
  let deadline := if Reading.less due now then now else due
  let remaining := deadline - now
  ({ c with marks := some { marks with deadline } },
    if Reading.less Reading.zero remaining then some remaining else none)

end Controller

end Chip8.Pacing

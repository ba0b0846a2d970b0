import Chip8.Log
import Chip8.Pacing.Controller

/-!
# Simulated time

Runs a controller against a clock that moves only when something takes time: a poll, the showing of
a frame, a sleep. A sleep may take longer than asked for. All that the controller does to its
surroundings is kept: the sleeps, the frames and the text it logs.
-/

namespace Chip8.Pacing

/-- What one poll takes and finds. -/
structure Poll where
  /-- How long it takes. -/
  cost : Float
  /-- The keys that moved, as numbers, and whether they went down. -/
  keys : List (Int × Bool)

/-- A controller and its simulated surroundings. -/
structure Simulation where
  /-- The controller. -/
  controller : Controller Float
  /-- Where the controller logs. -/
  logger : Logger
  /-- The clock. -/
  now : Float
  /-- How much longer each sleep takes than asked for. -/
  oversleep : Float
  /-- The polls to come; after them a poll takes no time and finds nothing. -/
  polls : List Poll
  /-- How long the frames to come take to show; after them a frame takes no time. -/
  presentCosts : List Float
  /-- The sleeps asked for, the latest first. -/
  sleeps : List Float
  /-- The frames shown, the latest first. -/
  frames : List Display
  /-- The texts logged, the latest first. -/
  written : List String

namespace Simulation

/-- Logs a message. -/
def log (s : Simulation) (level : LogLevel) (message : String) : Simulation :=
  { s with written := s.logger.log s.now level message :: s.written }

/-- All text logged. -/
def text (s : Simulation) : String := String.join s.written.reverse

/-- Forgets the sleeps, the frames and the text. -/
def forget (s : Simulation) : Simulation := { s with sleeps := [], frames := [], written := [] }

/-- Takes the next poll. -/
def poll (s : Simulation) : Simulation × Except BadKey (List KeyEvent) :=
  match s.polls with
  | [] => (s, .ok [])
  | p :: polls =>
    ({ s with polls, now := s.now + p.cost },
      p.keys.mapM fun (key, down) => KeyEvent.ofInt key down)

/-- Shows a frame. -/
def present (s : Simulation) (frame : Display) : Simulation :=
  let s := { s with frames := frame :: s.frames }
  match s.presentCosts with
  | [] => s
  | cost :: presentCosts => { s with presentCosts, now := s.now + cost }

/-- Sleeps. -/
def sleep (s : Simulation) (time : Float) : Simulation :=
  { s with sleeps := time :: s.sleeps, now := s.now + (time + s.oversleep) }

/-- Runs one cycle. -/
def cycle (s : Simulation) : Simulation × Option Failure :=
  let start := s.now
  let (s, polled) := s.poll
  let work := s.controller.work start polled
  let s := { s with controller := work.controller }
  let s := match work.traced with
    | some line => s.log .debug line
    | none => s
  match work.outcome with
  | .error e => (s, some e)
  | .ok frame =>
    let s := match frame with
      | some frame => s.present frame
      | none => s
    let (controller, time) := s.controller.rest s.now
    let s := { s with controller }
    match time with
    | some time => (s.sleep time, none)
    | none => (s, none)

/-- Runs cycles until one fails, at most `count` of them. -/
def cycles : Nat → Simulation → Simulation × Option Failure
  | 0, s => (s, none)
  | count + 1, s =>
    match s.cycle with
    | (s, some e) => (s, some e)
    | (s, none) => cycles count s

/-- A number without decimal places. -/
def rounded (x : Float) : String := Binary64.fixed 0 x

/-- Logs that the machine starts to run, and at which rates. -/
def announce (s : Simulation) : Simulation :=
  s.log .info ("CPU running at " ++ rounded (1.0 / s.controller.cycleTime)
    ++ " instructions/s, timers at " ++ rounded (1.0 / s.controller.timerPeriod) ++ " Hz")

/-- Logs that the machine has stopped, and its rate since it was started at `started`. -/
def conclude (s : Simulation) (started : Float) : Simulation :=
  let elapsed := s.now - started
  let count := s.controller.cycles
  let rate := if 0.0 < elapsed then (Reading.ofInt count : Float) / elapsed else 0.0
  s.log .info ("CPU stopped after " ++ toString count ++ " cycles (" ++ rounded rate
    ++ " instructions/s)")

/-- Runs until a stop that comes during the poll of cycle `count`, counted from one, or that has
come already if `count` is zero. The cycle during which the stop comes is completed. -/
def run (s : Simulation) (count : Nat) : Simulation × Option Failure :=
  let started := s.now
  match cycles count s.announce with
  | (s, some e) => (s, some e)
  | (s, none) => (s.conclude started, none)

end Simulation

/-- The name of the thread that runs the machine beside the window. -/
def workerName : String := "chipjax-cpu"

/-- How a worker thread ended. Whatever ended it, the stop is then set. -/
structure WorkerEnd where
  /-- What it failed with. -/
  failure : Option Failure
  /-- Whether the stop is set. -/
  stopped : Bool
deriving DecidableEq, Repr

/-- Runs a controller on a worker thread until a stop, as `Simulation.run` does. -/
def Simulation.runWorker (s : Simulation) (count : Nat) : Simulation × WorkerEnd :=
  let (s, failure) := s.run count
  (s, { failure, stopped := true })

end Chip8.Pacing

import Chip8.Config.Basic
import Chip8.Pacing.Simulation
import Chip8.Window

/-!
# Sessions

A machine and a window, from the start until the program fails or the user quits. The window hands
over its events in frames, and the machine runs between them. Time is simulated: the instructions
take no time, so the machine sleeps from each to the next.
-/

namespace Chip8.Session

open Pacing (Failure Simulation Controller BadRate)

/-- How many cycles pass between two frames of the window. -/
def cyclesPerFrame : Nat := 5000

/-- How many cycles pass after the last frame. -/
def cyclesAfterFrames : Nat := 1000000

/-- How a session ends. -/
inductive Ending where
  /-- The user quits. -/
  | quit
  /-- A cycle fails. -/
  | failed (failure : Failure)
  /-- No frames are left and the program still runs. -/
  | running
deriving DecidableEq, Repr

/-- The queued keys as the next poll. -/
def deliver (s : Simulation) (q : KeyQueue) : Simulation :=
  { s with polls := [⟨0.0, q.pending.map fun e => (e.key.val, e.pressed)⟩] }

/-- Runs cycles until one fails, and keeps of each only what it logged. -/
def cycles : Nat → Simulation → Simulation × Option Failure
  | 0, s => (s, none)
  | count + 1, s =>
    match s.cycle with
    | (s, some e) => (s, some e)
    | (s, none) => cycles count { s with sleeps := [], frames := [] }

/-- Runs through the frames of the window. -/
def frames (started : Float) : List (List WindowEvent) → Simulation → Simulation × Ending
  | [], s =>
    match cycles cyclesAfterFrames s with
    | (s, some e) => (s, .failed e)
    | (s, none) => (s, .running)
  | frame :: rest, s =>
    match cycles cyclesPerFrame s with
    | (s, some e) => (s, .failed e)
    | (s, none) =>
      let (goesOn, queue) := Window.handleAll KeyQueue.empty frame
      let quits := goesOn.filter (!·)
      let s := quits.foldl (fun s _ => s.log .info "Quit requested") s
      if quits.isEmpty then frames started rest (deliver s queue) else (s.conclude started, .quit)

/-- Runs a machine under a configuration: the text logged and the ending. -/
def run (m : Machine) (config : Config) (logger : Logger) (now : Float)
    (events : List (List WindowEvent)) : Except BadRate (String × Ending) :=
  match Controller.create m config.instructionsPerSecond config.timerFrequency config.trace with
  | .error e => .error e
  | .ok controller =>
    let s : Simulation :=
      { controller, logger, now, oversleep := 0.0, polls := [], presentCosts := [], sleeps := [],
        frames := [], written := [] }
    let (s, ending) := frames now events s.announce
    .ok (s.text, ending)

end Chip8.Session

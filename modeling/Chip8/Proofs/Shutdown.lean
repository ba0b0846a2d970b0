import Chip8.Pacing.FrameSlot
import Chip8.Proofs.Timers
import Chip8.Window

/-!
# The end of a session

The machine runs on a worker thread beside the window. The two share a stop flag, which either may set at
any time: the window when the user quits and when it leaves its loop, the worker on its way out, whatever
ended it. The window then waits for the worker, and ends with the error of the worker or with its machine.

Both are taken apart into the turns between which the other one may act, and a run is any list of turns. What
a turn of the worker can come to is said once (`Went`), as is what a turn of the window leaves alone
(`window_keeps`). From these two follow, by cases and then for any run, what holds at all times (`Kept`) and
how a session comes to its end after the stop (`Closing`): the worker completes the cycle that it is in the
midst of, begins no other one, and is over after a few turns, and then so is the window. What the window ends
with is what the worker came to (`shutdown_orderly`).
-/

namespace Chip8.Pacing

/-- Why a worker fails. -/
inductive Trouble (ε : Type) where
  /-- A cycle fails. -/
  | failure (e : Failure)
  /-- The log or a sleep fails. -/
  | outside (e : ε)
deriving DecidableEq

/-- How far a worker is. -/
inductive WorkerPhase (ε : Type) where
  /-- It is to log that it starts. -/
  | starts
  /-- It is to look whether the stop is set. -/
  | looks
  /-- It is to do the first half of a cycle. -/
  | works
  /-- It is to present the frame, if there is one. -/
  | presents (frame : Option Display)
  /-- It is to do the second half of the cycle. -/
  | rests
  /-- It is to log that it stops. -/
  | concludes
  /-- It has failed, and is to keep why. -/
  | fails (e : Trouble ε)
  /-- It is to set the stop. -/
  | ends
  /-- It is over. -/
  | finished
deriving DecidableEq

/-- How a session ends. -/
inductive SessionEnd (ε : Type) where
  /-- With the machine that was running. -/
  | returned (m : Machine)
  /-- With an error. -/
  | raised (e : Trouble ε)
deriving DecidableEq

/-- How far the window is. -/
inductive WindowPhase (ε : Type) where
  /-- It is to look whether the stop is set. -/
  | looks
  /-- It is to handle events. -/
  | handles (events : List WindowEvent)
  /-- It is to take the frame, if there is one. -/
  | takes
  /-- It is to set the stop. -/
  | leaves
  /-- It waits for the worker. -/
  | joins
  /-- It is over, and the session with it. -/
  | finished (how : SessionEnd ε)
deriving DecidableEq

/-- How many turns a worker has left at most when the stop is set. -/
def WorkerPhase.left {ε : Type} : WorkerPhase ε → Nat
  | .works => 7
  | .presents _ => 6
  | .starts | .rests => 5
  | .looks => 4
  | .concludes => 3
  | .fails _ => 2
  | .ends => 1
  | .finished => 0

theorem WorkerPhase.left_le {ε : Type} (phase : WorkerPhase ε) : phase.left ≤ 7 := by
  cases phase <;> exact Nat.le_of_ble_eq_true rfl

/-- How many turns a window has left at most when the stop is set, those apart in which it waits. -/
def WindowPhase.left {ε : Type} : WindowPhase ε → Nat
  | .handles events => events.length + 5
  | .takes => 4
  | .looks => 3
  | .leaves => 2
  | .joins => 1
  | .finished _ => 0

/-- The worker, the window, what they share, and what the worker has come to. -/
structure Threads (τ ε : Type) where
  /-- The controller that the worker runs. -/
  controller : Controller τ
  /-- The keys on their way to the worker. -/
  queue : KeyQueue
  /-- The frames on their way to the window. -/
  slot : FrameSlot Display
  /-- Whether the stop is set. -/
  stop : Bool
  /-- How far the worker is. -/
  worker : WorkerPhase ε
  /-- Why the worker failed, where the window finds it. -/
  error : Option (Trouble ε)
  /-- How far the window is. -/
  window : WindowPhase ε
  /-- The machine at the end of each cycle that has returned, the first one first. -/
  returned : List Machine
  /-- All that the worker has failed with. -/
  raised : List (Trouble ε)

namespace Threads

variable {τ ε : Type}

/-- When the worker is started. -/
def start (c : Controller τ) : Threads τ ε where
  controller := c
  queue := .empty
  slot := .empty
  stop := false
  worker := .starts
  error := none
  window := .looks
  returned := []
  raised := []

/-! ### Turns -/

/-- The worker fails. -/
def fail (s : Threads τ ε) (e : Trouble ε) : Threads τ ε :=
  { s with worker := .fails e, raised := s.raised ++ [e] }

/-- The worker goes on unless the log fails. -/
def logging (s : Threads τ ε) (trouble : Option ε) (next : WorkerPhase ε) : Threads τ ε :=
  match trouble with
  | some e => s.fail (.outside e)
  | none => { s with worker := next }

/-- What the session ends with when the worker is over. -/
def result (s : Threads τ ε) : SessionEnd ε :=
  match s.error with
  | some e => .raised e
  | none => .returned s.controller.machine

/-- A turn of the window, with the events that it finds if it asks for some. It quits for each event that says
so, and handles those behind it. -/
def windowTurn (s : Threads τ ε) (events : List WindowEvent) : Threads τ ε :=
  match s.window with
  | .looks => { s with window := if s.stop then .leaves else .handles events }
  | .handles [] => { s with window := .takes }
  | .handles (e :: es) =>
    let (goesOn, queue) := Window.handle s.queue e
    { s with queue, stop := s.stop || !goesOn, window := .handles es }
  | .takes => { s with slot := s.slot.take.2, window := .looks }
  | .leaves => { s with stop := true, window := .joins }
  | .joins =>
    match s.worker with
    | .finished => { s with window := .finished s.result }
    | _ => s
  | .finished _ => s

/-- The first half of a cycle, with the keys in the queue. If the instruction is traced and the log fails, it
is not performed. -/
def work [Reading τ] (s : Threads τ ε) (now : τ) (trouble : Option ε) : Threads τ ε :=
  let (events, queue) := s.queue.drain
  let work := s.controller.work now (.ok events)
  match work.traced.bind fun _ => trouble, work.outcome with
  | some e, _ => { s with queue, controller := s.controller.keyed now events }.fail (.outside e)
  | none, .error e => { s with queue, controller := work.controller }.fail (.failure e)
  | none, .ok frame => { s with queue, controller := work.controller, worker := .presents frame }

/-- The second half of a cycle. If there is a sleep and it fails, the cycle does not return. -/
def rest [Reading τ] (s : Threads τ ε) (now : τ) (trouble : Option ε) : Threads τ ε :=
  let (controller, time) := s.controller.rest now
  match time.bind fun _ => trouble with
  | some e => { s with controller }.fail (.outside e)
  | none => { s with controller, worker := .looks, returned := s.returned ++ [controller.machine] }

/-- A turn of the worker, with the reading of the clock and with what the log or the sleep fails with, if it
does. -/
def workerTurn [Reading τ] (s : Threads τ ε) (now : τ) (trouble : Option ε) : Threads τ ε :=
  match s.worker with
  | .starts => s.logging trouble .looks
  | .looks => { s with worker := if s.stop then .concludes else .works }
  | .works => s.work now trouble
  | .presents frame => { s with slot := (frame.map s.slot.publish).getD s.slot, worker := .rests }
  | .rests => s.rest now trouble
  | .concludes => s.logging trouble .ends
  | .fails e => { s with error := some e, worker := .ends }
  | .ends => { s with stop := true, worker := .finished }
  | .finished => s

/-- Whose turn it is, and what the surroundings give to it. -/
inductive Turn (τ ε : Type) where
  | worker (now : τ) (trouble : Option ε)
  | window (events : List WindowEvent)

/-- The session after a turn. -/
def turn [Reading τ] (s : Threads τ ε) : Turn τ ε → Threads τ ε
  | .worker now trouble => s.workerTurn now trouble
  | .window events => s.windowTurn events

/-- The session after some turns, the first one first. -/
def run [Reading τ] (s : Threads τ ε) (turns : List (Turn τ ε)) : Threads τ ε := turns.foldl turn s

/-! ### What a turn can come to -/

/-- What a turn of the worker can come to. -/
inductive Went (s : Threads τ ε) : Threads τ ε → Prop
  /-- It has logged that it starts. -/
  | started (h : s.worker = .starts) : Went s { s with worker := .looks }
  /-- It has found the stop not set. -/
  | goesOn (h : s.worker = .looks) (hstop : s.stop = false) : Went s { s with worker := .works }
  /-- It has found the stop set. -/
  | leaves (h : s.worker = .looks) (hstop : s.stop = true) : Went s { s with worker := .concludes }
  /-- It has performed and counted an instruction. -/
  | worked {queue : KeyQueue} {controller : Controller τ} {frame : Option Display}
    (h : s.worker = .works) (hcycles : controller.cycles = s.controller.cycles + 1) :
    Went s { s with queue, controller, worker := .presents frame }
  /-- It has presented the frame, if there was one. -/
  | presented {frame : Option Display} {slot : FrameSlot Display} (h : s.worker = .presents frame) :
    Went s { s with slot, worker := .rests }
  /-- Its cycle has returned. -/
  | returned {marks : Option (Marks τ)} (h : s.worker = .rests) :
    Went s { s with
      controller := { s.controller with marks }, worker := .looks,
      returned := s.returned ++ [s.controller.machine] }
  /-- It has failed. -/
  | failed (queue : KeyQueue) (controller : Controller τ) {e : Trouble ε}
    (h : s.worker = .starts ∨ s.worker = .works ∨ s.worker = .rests ∨ s.worker = .concludes) :
    Went s ({ s with queue, controller }.fail e)
  /-- It has logged that it stops. -/
  | concluded (h : s.worker = .concludes) : Went s { s with worker := .ends }
  /-- It has kept why it failed. -/
  | caught {e : Trouble ε} (h : s.worker = .fails e) : Went s { s with error := some e, worker := .ends }
  /-- It has set the stop. -/
  | ended (h : s.worker = .ends) : Went s { s with stop := true, worker := .finished }
  /-- It was over. -/
  | finished (h : s.worker = .finished) : Went s s

variable {c : Controller τ} {s : Threads τ ε}

theorem went_logging {next : WorkerPhase ε} (trouble : Option ε)
    (h : s.worker = .starts ∨ s.worker = .concludes) (hnext : s.Went { s with worker := next }) :
    s.Went (s.logging trouble next) := by
  cases trouble with
  | none => exact hnext
  | some e => exact .failed s.queue s.controller (h.imp id fun h => .inr (.inr h))

/-- **What a turn of the window leaves alone**: all that is the worker's. It does not take back the stop, and is
over with what there is when the worker is over. -/
theorem window_keeps (s : Threads τ ε) (events : List WindowEvent) :
    ∃ queue slot stop window, s.windowTurn events = { s with queue, slot, stop, window } ∧
      (s.stop = true → stop = true) ∧
      ∀ r, window = .finished r → s.window = .finished r ∨ s.worker = .finished ∧ r = s.result := by
  unfold windowTurn
  split
  case h_1 =>
    refine ⟨_, _, _, _, rfl, id, fun r hr => ?_⟩
    split at hr <;> cases hr
  case h_2 => exact ⟨_, _, _, _, rfl, id, fun r hr => by cases hr⟩
  case h_3 e es _ =>
    refine ⟨_, _, _, _, rfl, fun hstop => ?_, fun r hr => by cases hr⟩
    rw [hstop]
    rfl
  case h_4 => exact ⟨_, _, _, _, rfl, id, fun r hr => by cases hr⟩
  case h_5 => exact ⟨_, _, _, _, rfl, fun _ => rfl, fun r hr => by cases hr⟩
  case h_6 hwindow =>
    split
    case h_1 hover => exact ⟨_, _, _, _, rfl, id, fun r hr => .inr ⟨hover, by cases hr; rfl⟩⟩
    case h_2 => exact ⟨s.queue, s.slot, s.stop, s.window, rfl, id, fun r hr => .inl hr⟩
  case h_7 => exact ⟨s.queue, s.slot, s.stop, s.window, rfl, id, fun r hr => .inl hr⟩

/-! ### What holds at all times -/

/-- The machine at the end of the latest cycle that has returned, or the one at the start. -/
def latest (c : Controller τ) (s : Threads τ ε) : Machine := s.returned.getLast?.getD c.machine

/-- The machine is as the latest cycle has left it, and all cycles that have returned are counted. -/
def Settled (c : Controller τ) (s : Threads τ ε) : Prop :=
  s.controller.machine = s.latest c ∧ s.controller.cycles = c.cycles + s.returned.length

/-- How far the controller is: in the midst of a cycle one more is counted than have returned. -/
def Progress (c : Controller τ) (s : Threads τ ε) : Prop :=
  match s.worker with
  | .starts | .looks | .works | .concludes => s.Settled c
  | .presents _ | .rests => s.controller.cycles = c.cycles + s.returned.length + 1
  | .fails _ => s.raised ≠ []
  | .ends | .finished => s.raised = [] → s.Settled c

/-- What the worker has failed with is where the window finds it, as soon as it is kept. -/
def Reported (s : Threads τ ε) : Prop :=
  match s.worker with
  | .fails e => s.error = none ∧ s.raised = [e]
  | .ends | .finished => s.raised = s.error.toList
  | _ => s.error = none ∧ s.raised = []

/-- What holds at all times. -/
structure Kept (c : Controller τ) (s : Threads τ ε) : Prop where
  /-- The controller is as far as `Progress` says. -/
  progress : s.Progress c
  /-- The error is as `Reported` says. -/
  reported : s.Reported
  /-- A worker that is over has set the stop. -/
  stopped : s.worker = .finished → s.stop = true
  /-- The window has waited for the worker, and is over with what the worker came to. -/
  joined : ∀ r, s.window = .finished r → s.worker = .finished ∧ r = s.result

theorem kept_start (c : Controller τ) : (start c : Threads τ ε).Kept c where
  progress := ⟨rfl, rfl⟩
  reported := ⟨rfl, rfl⟩
  stopped := fun h => by cases h
  joined := fun _ h => by cases h

theorem Went.progress {s' : Threads τ ε} (hw : s.Went s') (h : s.Progress c) : s'.Progress c := by
  unfold Progress at h
  cases hw with
  | started hphase | goesOn hphase | leaves hphase =>
    rw [hphase] at h
    exact h
  | worked hphase hcycles =>
    rw [hphase] at h
    exact hcycles.trans (congrArg (· + 1) h.2)
  | presented hphase =>
    rw [hphase] at h
    exact h
  | returned hphase =>
    rw [hphase] at h
    refine ⟨?_, ?_⟩
    · show s.controller.machine = (s.returned ++ [s.controller.machine]).getLast?.getD c.machine
      rw [List.getLast?_concat, Option.getD_some]
    · rw [List.length_append]
      exact h
  | failed => exact List.append_ne_nil_of_right_ne_nil _ (List.cons_ne_nil _ _)
  | concluded hphase =>
    rw [hphase] at h
    exact fun _ => h
  | caught hphase =>
    rw [hphase] at h
    exact fun hnil => absurd hnil h
  | ended hphase =>
    rw [hphase] at h
    exact fun hnil => h hnil
  | finished => exact h

theorem Went.reported {s' : Threads τ ε} (hw : s.Went s') (h : s.Reported) : s'.Reported := by
  unfold Reported at h
  cases hw with
  | started hphase | goesOn hphase | leaves hphase | worked hphase | presented hphase | returned hphase
  | ended hphase =>
    rw [hphase] at h
    exact h
  | failed queue controller hphase =>
    obtain ⟨herror, hraised⟩ : s.error = none ∧ s.raised = [] := by
      rcases hphase with hphase | hphase | hphase | hphase <;> rw [hphase] at h <;> exact h
    refine ⟨herror, ?_⟩
    show s.raised ++ _ = _
    rw [hraised]
    rfl
  | concluded hphase =>
    rw [hphase] at h
    show s.raised = s.error.toList
    rw [h.1, h.2]
    rfl
  | caught hphase =>
    rw [hphase] at h
    exact h.2
  | finished => exact h

theorem Kept.worker {s' : Threads τ ε} (hk : s.Kept c) (hw : s.Went s') : s'.Kept c where
  progress := hw.progress hk.progress
  reported := hw.reported hk.reported
  stopped := by
    cases hw with
    | ended => exact fun _ => rfl
    | finished => exact hk.stopped
    | _ => exact fun h => by cases h
  joined := by
    intro r hr
    cases hw with
    | finished => exact hk.joined r hr
    | failed queue controller hphase =>
      rcases hphase with hphase | hphase | hphase | hphase <;>
        cases hphase.symm.trans (hk.joined r hr).1
    | _ hphase => cases hphase.symm.trans (hk.joined r hr).1

theorem Kept.window (hk : s.Kept c) (events : List WindowEvent) : (s.windowTurn events).Kept c := by
  obtain ⟨queue, slot, stop, window, heq, hstop, hover⟩ := s.window_keeps events
  rw [heq]
  refine ⟨hk.progress, hk.reported, fun h => hstop (hk.stopped h), fun r hr => ?_⟩
  exact (hover r hr).elim (hk.joined r) id

/-! ### After the stop -/

/-- How many cycles the worker is in the midst of. -/
def pending (s : Threads τ ε) : Nat :=
  match s.worker with
  | .works | .presents _ | .rests => 1
  | _ => 0

/-- The stop is set, and since then, from `s` to `s'`, no cycle has begun, and the worker and the window have
had so many turns. -/
structure Closing (workers windows : Nat) (s s' : Threads τ ε) : Prop where
  /-- The stop is not taken back. -/
  stop : s'.stop = true
  /-- Only a cycle that has begun returns. -/
  returns : s'.returned.length + s'.pending ≤ s.returned.length + s.pending
  /-- Each turn of the worker is one less that it has left. -/
  worker : s'.worker.left ≤ s.worker.left - workers
  /-- The window does not get further from its end. -/
  window : s'.window.left ≤ s.window.left
  /-- When the worker is over, each turn of the window is one less that it has left. -/
  joins : s.worker = .finished → s'.window.left ≤ s.window.left - windows

theorem worker_left_eq_zero : s.worker.left = 0 ↔ s.worker = .finished := by
  cases s.worker with
  | finished => exact ⟨fun _ => rfl, fun _ => rfl⟩
  | _ => exact ⟨fun h => (by cases h), fun h => (by cases h)⟩

theorem window_left_eq_zero (h : s.window.left = 0) : ∃ r, s.window = .finished r := by
  revert h
  cases s.window with
  | finished r => exact fun _ => ⟨r, rfl⟩
  | _ => exact fun h => (by cases h)

theorem Closing.refl (hstop : s.stop = true) : Closing 0 0 s s :=
  ⟨hstop, Nat.le_refl _, Nat.le_refl _, Nat.le_refl _, fun _ => Nat.le_refl _⟩

theorem Closing.trans {w k w' k' : Nat} {s' s'' : Threads τ ε} (h : Closing w k s s')
    (h' : Closing w' k' s' s'') : Closing (w + w') (k + k') s s'' where
  stop := h'.stop
  returns := Nat.le_trans h'.returns h.returns
  worker := by
    have hfirst := h.worker
    have hthen := h'.worker
    omega
  window := Nat.le_trans h'.window h.window
  joins := by
    intro hover
    have hover' : s'.worker = .finished := by
      have hleft := h.worker
      rw [worker_left_eq_zero.mpr hover, Nat.zero_sub] at hleft
      exact worker_left_eq_zero.mp (Nat.le_zero.mp hleft)
    have hfirst := h.joins hover
    have hthen := h'.joins hover'
    omega

theorem Went.closing {s' : Threads τ ε} (hw : s.Went s') (hstop : s.stop = true) : Closing 1 0 s s' := by
  have hwindow : s'.window = s.window := by cases hw <;> rfl
  have hnear := Nat.le_of_eq (congrArg WindowPhase.left hwindow)
  suffices h : s'.stop = true ∧ s'.returned.length + s'.pending ≤ s.returned.length + s.pending ∧
      s'.worker.left ≤ s.worker.left - 1 from ⟨h.1, h.2.1, h.2.2, hnear, fun _ => hnear⟩
  unfold pending
  cases hw with
  | goesOn _ hnot => cases hnot.symm.trans hstop
  | returned hphase =>
    rw [hphase, List.length_append]
    exact ⟨hstop, Nat.le_refl _, Nat.le_refl _⟩
  | failed queue controller hphase =>
    refine ⟨hstop, Nat.add_le_add_left (Nat.zero_le _) _, ?_⟩
    rcases hphase with hphase | hphase | hphase | hphase <;> rw [hphase] <;>
      exact Nat.le_of_ble_eq_true rfl
  | ended hphase =>
    rw [hphase]
    exact ⟨rfl, Nat.le_refl _, Nat.le_refl _⟩
  | finished hphase =>
    refine ⟨hstop, Nat.le_refl _, ?_⟩
    rw [hphase]
    exact Nat.le_refl _
  | started hphase | leaves hphase | worked hphase | presented hphase | concluded hphase | caught hphase =>
    rw [hphase]
    exact ⟨hstop, Nat.le_refl _, Nat.le_of_ble_eq_true rfl⟩

theorem window_closing (events : List WindowEvent) (hstop : s.stop = true) :
    Closing 0 1 s (s.windowTurn events) := by
  -- It is one less that the window has left, unless it waits.
  have hleft : (s.windowTurn events).window.left ≤ s.window.left - 1 ∨
      s.worker ≠ .finished ∧ (s.windowTurn events).window.left ≤ s.window.left := by
    unfold windowTurn
    split
    case h_1 hwindow =>
      rw [hwindow, if_pos hstop]
      exact .inl (Nat.le_refl _)
    case h_6 hwindow =>
      rw [hwindow]
      split
      case h_1 => exact .inl (Nat.le_refl _)
      case h_2 hnot => exact .inr ⟨hnot, Nat.le_of_eq (congrArg _ hwindow)⟩
    case h_7 hwindow =>
      rw [hwindow]
      exact .inl (Nat.le_refl _)
    case h_2 hwindow | h_3 hwindow | h_4 hwindow | h_5 hwindow =>
      rw [hwindow]
      exact .inl (Nat.le_refl _)
  obtain ⟨queue, slot, stop, window, heq, hkeeps, -⟩ := s.window_keeps events
  rw [heq] at hleft ⊢
  refine ⟨hkeeps hstop, Nat.le_refl _, Nat.le_refl _, ?_, fun hover => ?_⟩
  · exact hleft.elim (fun h => Nat.le_trans h (Nat.sub_le _ _)) (·.2)
  · exact hleft.resolve_right fun h => h.1 hover

/-! ### What a turn of the worker comes to -/

variable [Reading τ]

/-- A first half of a cycle that does not fail has counted its instruction. -/
theorem cycles_work {c : Controller τ} {start : τ} {polled : Except BadKey (List KeyEvent)}
    {frame : Option Display} (h : (c.work start polled).outcome = .ok frame) :
    (c.work start polled).controller.cycles = c.cycles + 1 := by
  have hw := c.worked start polled
  generalize c.work start polled = w at hw h ⊢
  cases hw with
  | badKey => cases h
  | fault => cases h
  | late => cases h
  | @done events machine c' hstep hcatch =>
    obtain ⟨ticks, -, rfl⟩ := Controller.catchUp_eq_ok hcatch
    obtain ⟨dirty, hkeeps⟩ :=
      ((c.performed start events machine).caughtUp (c.marksAt start) ticks).handOut_keeps
    dsimp only
    rw [hkeeps]
    unfold Controller.caughtUp
    split <;> rfl

theorem went_work (h : s.worker = .works) (now : τ) (trouble : Option ε) : s.Went (s.work now trouble) := by
  unfold work
  dsimp only
  split
  case h_1 => exact .failed _ _ (.inr (.inl h))
  case h_2 => exact .failed _ _ (.inr (.inl h))
  case h_3 houtcome => exact .worked h (cycles_work houtcome)

theorem went_rest (h : s.worker = .rests) (now : τ) (trouble : Option ε) : s.Went (s.rest now trouble) := by
  unfold rest Controller.rest
  dsimp only
  split
  case h_1 => exact .failed s.queue _ (.inr (.inr (.inl h)))
  case h_2 => exact .returned h

/-- **What a turn of the worker can come to.** -/
theorem went (s : Threads τ ε) (now : τ) (trouble : Option ε) : s.Went (s.workerTurn now trouble) := by
  unfold workerTurn
  split
  case h_1 h => exact went_logging trouble (.inl h) (.started h)
  case h_2 h =>
    split
    case isTrue hstop => exact .leaves h hstop
    case isFalse hstop => exact .goesOn h (Bool.eq_false_iff.mpr hstop)
  case h_3 h => exact went_work h now trouble
  case h_4 frame h => exact .presented h
  case h_5 h => exact went_rest h now trouble
  case h_6 h => exact went_logging trouble (.inr h) (.concluded h)
  case h_7 e h => exact .caught h
  case h_8 h => exact .ended h
  case h_9 h => exact .finished h

theorem Kept.turn (hk : s.Kept c) (t : Turn τ ε) : (s.turn t).Kept c := by
  cases t with
  | worker now trouble => exact hk.worker (s.went now trouble)
  | window events => exact hk.window events

theorem Kept.run (hk : s.Kept c) (turns : List (Turn τ ε)) : (s.run turns).Kept c := by
  induction turns generalizing s with
  | nil => exact hk
  | cons t turns ih => exact ih (hk.turn t)

/-! ### Any number of turns after the stop -/

/-- Whether it is the worker's turn. -/
def Turn.isWorker : Turn τ ε → Bool
  | worker _ _ => true
  | window _ => false

/-- Whether it is the window's turn. -/
def Turn.isWindow : Turn τ ε → Bool
  | worker _ _ => false
  | window _ => true

/-- **After the stop** no turn takes it back, no cycle begins, and both come nearer to their end. -/
theorem closing_run (hstop : s.stop = true) (turns : List (Turn τ ε)) :
    Closing (turns.countP Turn.isWorker) (turns.countP Turn.isWindow) s (s.run turns) := by
  induction turns generalizing s with
  | nil => exact .refl hstop
  | cons t turns ih =>
    have hturn : Closing (if t.isWorker then 1 else 0) (if t.isWindow then 1 else 0) s (s.turn t) := by
      cases t with
      | worker now trouble => exact (s.went now trouble).closing hstop
      | window events => exact window_closing events hstop
    rw [List.countP_cons, List.countP_cons, Nat.add_comm, Nat.add_comm (turns.countP Turn.isWindow)]
    exact hturn.trans (ih hturn.stop)

/-- Seven turns of the worker after the stop, and then as many of the window as it has left, end the
session. -/
theorem finished_of_stop (hstop : s.stop = true) {turns last : List (Turn τ ε)}
    (hworker : 7 ≤ turns.countP Turn.isWorker) (hwindow : s.window.left ≤ last.countP Turn.isWindow) :
    ∃ r, (s.run (turns ++ last)).window = .finished r := by
  have hfirst := closing_run hstop turns
  have hthen := closing_run hfirst.stop last
  have hover : (s.run turns).worker = .finished := by
    have hleft := hfirst.worker
    have hmost := s.worker.left_le
    exact worker_left_eq_zero.mp (by omega)
  have hleft := hthen.joins hover
  have hnear := hfirst.window
  rw [show s.run (turns ++ last) = (s.run turns).run last from List.foldl_append]
  exact window_left_eq_zero (by omega)

/-! ### The shutdown -/

/-- **The shutdown is orderly**, whatever turns the worker and the window take. Once the stop is set it stays
set, and at most one more cycle returns. When the window is over, so is the worker: if the worker has failed,
the session ends with that one error; otherwise it ends with the machine as the latest cycle has left it, and
the cycles counted since the start are those that have returned. And the session does end, if after the stop
the worker has seven turns and the window then as many as it has left. -/
theorem shutdown_orderly (c : Controller τ) (turns : List (Turn τ ε)) :
    let s := (start c).run turns
    (s.stop = true → ∀ later,
      (s.run later).stop = true ∧ (s.run later).returned.length ≤ s.returned.length + 1) ∧
    (∀ r, s.window = .finished r → s.worker = .finished ∧ s.stop = true ∧
      match r with
      | .raised e => s.raised = [e]
      | .returned m => s.raised = [] ∧ m = s.controller.machine ∧ m = s.returned.getLast?.getD c.machine ∧
          s.controller.cycles = c.cycles + s.returned.length) ∧
    (s.stop = true → ∀ later last, 7 ≤ later.countP Turn.isWorker →
      s.window.left ≤ last.countP Turn.isWindow → ∃ r, (s.run (later ++ last)).window = .finished r) := by
  intro s
  have hk := (kept_start c).run turns
  refine ⟨fun hstop later => ?stays, fun r hr => ?ends, fun hstop later last => finished_of_stop hstop⟩
  case stays =>
    have hclosing := closing_run hstop later
    have hone : s.pending ≤ 1 := by
      unfold pending
      split <;> decide
    refine ⟨hclosing.stop, ?_⟩
    have hreturns := hclosing.returns
    omega
  case ends =>
    obtain ⟨hover, rfl⟩ := hk.joined r hr
    refine ⟨hover, hk.stopped hover, ?_⟩
    have hprogress := hk.progress
    have hreported := hk.reported
    unfold Progress at hprogress
    unfold Reported at hreported
    rw [hover] at hprogress hreported
    unfold result
    cases herror : s.error with
    | some e => exact hreported.trans (congrArg _ herror)
    | none =>
      have hnone : s.raised = [] := hreported.trans (congrArg _ herror)
      obtain ⟨hmachine, hcycles⟩ := hprogress hnone
      exact ⟨hnone, rfl, hmachine, hcycles⟩

/-- A controller whose machine returns from a subroutine that nothing has called. -/
def returning : Controller Float :=
  { Controller.calm with machine := (Machine.start ⟨0, 0⟩).run [.load [0x00, 0xEE]] }

/-- The user quits when a cycle has begun. -/
def quitting : List (Turn Float Empty) :=
  [.worker 0.0 none, .worker 0.0 none, .window [.quit], .window []]

/-- What the worker has left at most. -/
def working : List (Turn Float Empty) := List.replicate 7 (.worker 1.0 none)

/-- What the window has left when it has handled the event. -/
def leaving : List (Turn Float Empty) := List.replicate 5 (.window [])

/-- The user quits, the cycle returns, and the session ends with the machine after that cycle. If the
instruction of the cycle is at fault, it ends with that error. -/
theorem shutdown_orderly_quitting :
    let s := (start Controller.calm).run (quitting ++ (working ++ leaving))
    let s' := (start returning).run (quitting ++ (working ++ leaving))
    (s.worker = .finished ∧ s.returned.length = 1 ∧ s.controller.cycles = 1 ∧
      ∃ m, s.window = .finished (.returned m) ∧ m = s.returned.getLast?.getD Controller.calm.machine) ∧
    (s'.worker = .finished ∧ s'.window = .finished (.raised (.failure (.fault (.stackUnderflow 0x200))))) := by
  have hends (c : Controller Float) (hstop : ((start c).run quitting).stop = true)
      (hleft : ((start c).run quitting).window.left ≤ leaving.countP Turn.isWindow) :
      ∃ r, ((start c).run (quitting ++ (working ++ leaving))).window = .finished r := by
    obtain ⟨-, -, hends⟩ := shutdown_orderly c quitting
    obtain ⟨r, hr⟩ := hends hstop working leaving (by decide) hleft
    rw [show ((start c).run quitting).run (working ++ leaving) = _ from List.foldl_append.symm] at hr
    exact ⟨r, hr⟩
  constructor
  · have hcome : ((start Controller.calm).run (quitting ++ (working ++ leaving))).raised = [] ∧
        ((start Controller.calm).run (quitting ++ (working ++ leaving))).returned.length = 1 := by
      decide +kernel
    obtain ⟨r, hr⟩ := hends Controller.calm (by decide +kernel) (by decide +kernel)
    obtain ⟨-, hover, -⟩ := shutdown_orderly Controller.calm (quitting ++ (working ++ leaving))
    obtain ⟨hworker, -, hresult⟩ := hover r hr
    cases r with
    | raised e => cases hcome.1.symm.trans hresult
    | returned m =>
      obtain ⟨-, -, hmachine, hcycles⟩ := hresult
      rw [hcome.2] at hcycles
      exact ⟨hworker, hcome.2, hcycles, m, hr, hmachine⟩
  · have hcome : ((start returning).run (quitting ++ (working ++ leaving))).raised =
        [.failure (.fault (.stackUnderflow 0x200))] := by decide +kernel
    obtain ⟨r, hr⟩ := hends returning (by decide +kernel) (by decide +kernel)
    obtain ⟨-, hover, -⟩ := shutdown_orderly returning (quitting ++ (working ++ leaving))
    obtain ⟨hworker, -, hresult⟩ := hover r hr
    cases r with
    | raised e =>
      cases hcome.symm.trans hresult
      exact ⟨hworker, hr⟩
    | returned m => cases hcome.symm.trans hresult.1

/-! ### Turns taken together -/

theorem workerTurn_of_looks (h : s.worker = .looks) (hstop : s.stop = false) (now : τ) (trouble : Option ε) :
    s.workerTurn now trouble = { s with worker := .works } := by
  unfold workerTurn
  rw [h]
  dsimp only
  rw [hstop]
  rfl

theorem rest_of_slept (now : τ) :
    s.rest now none = { s with
      controller := (s.controller.rest now).1, worker := .looks,
      returned := s.returned ++ [(s.controller.rest now).1.machine] } := by
  unfold rest
  simp only [Option.bind_fun_none]

/-- **A cycle against simulated time is four turns of the worker**, if the poll finds what is in the queue: it
looks whether the stop is set, works, presents and rests. If the cycle fails, the worker keeps why, sets the
stop and is over. -/
theorem run_cycle_turns {x : Threads Float ε} {s : Simulation} (hc : x.controller = s.controller)
    (hpoll : s.poll.2 = .ok x.queue.pending) (hphase : x.worker = .looks) (hstop : x.stop = false) :
    ∃ now, let x' := x.run [.worker s.now none, .worker s.now none, .worker s.now none, .worker now none]
      x'.controller = s.cycle.1.controller ∧
      match s.cycle.2 with
      | none => x'.worker = .looks ∧ x'.returned = x.returned ++ [x'.controller.machine]
      | some e => x'.worker = .finished ∧ x'.stop = true ∧ x'.error = some (.failure e) := by
  have hcycle := s.cycle_eq
  have hlooks := workerTurn_of_looks hphase hstop s.now (none : Option ε)
  have hrun (now : Float) :
      x.run [.worker s.now none, .worker s.now none, .worker s.now none, .worker now none] =
        (((work { x with worker := .works } s.now none).workerTurn s.now none).workerTurn now none) :=
    congrArg (fun y => ((y.workerTurn s.now none).workerTurn s.now none).workerTurn now none) hlooks
  rw [hpoll, ← hc] at hcycle
  simp only [hrun, work, KeyQueue.drain, Option.bind_fun_none]
  generalize x.controller.work s.now (.ok x.queue.pending) = w at hcycle ⊢
  obtain ⟨c, traced, outcome⟩ := w
  cases outcome with
  | error e =>
    obtain ⟨hend, hcontroller, -⟩ := hcycle
    rw [hend]
    exact ⟨s.now, hcontroller.symm, rfl, rfl, rfl⟩
  | ok frame =>
    obtain ⟨hend, ⟨now, hcontroller⟩, -⟩ := hcycle
    rw [hend]
    refine ⟨now, ?_⟩
    simp only [workerTurn, rest_of_slept, true_and]
    exact ⟨hcontroller.symm, trivial⟩

/-- **The events that the window finds are handled one a turn as they are all at once**: the same keys are
queued, and the stop is set if the window is to go on no more for one of them. -/
theorem run_handles {events : List WindowEvent} (h : s.window = .handles events) :
    s.run (List.replicate events.length (.window [])) =
      { s with
        queue := (Window.handleAll s.queue events).2
        stop := s.stop || (Window.handleAll s.queue events).1.any (!·)
        window := .handles [] } := by
  induction events generalizing s with
  | nil =>
    simp only [Window.handleAll, List.any_nil, Bool.or_false, ← h]
    rfl
  | cons e es ih =>
    have hturn : s.turn (.window []) =
        { s with
          queue := (Window.handle s.queue e).2
          stop := s.stop || !(Window.handle s.queue e).1
          window := .handles es } := by
      unfold turn windowTurn
      rw [h]
    show (s.turn (.window [])).run (List.replicate es.length (.window [])) = _
    rw [ih (congrArg Threads.window hturn), hturn]
    simp only [Window.handleAll, List.any_cons, Bool.or_assoc]

end Threads

end Chip8.Pacing

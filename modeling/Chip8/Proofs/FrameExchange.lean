import Chip8.Pacing.FrameSlot
import Chip8.Pacing.Simulation
import Chip8.Proofs.Cycle
import Chip8.Proofs.Run

/-!
# Frames on their way to the window

A controller that leaves its frames in a slot, and a window that takes them out, run side by side. A cycle
works, presents its frame if it has one, and rests; the window may take at any time, also in the midst of
a cycle. Any such run is a list of actions, an action that is not due doing nothing.

What the window takes are frames that were published, later ones later and none twice
(`Handover.InOrder`). When a cycle has returned, the framebuffer is the latest frame published, for nothing
touches it without raising its flag. So when the slot then has nothing to take, the window shows what the
machine shows (`frames_reach_window`).
-/

namespace Chip8.Pacing

/-! ### What goes through a slot -/

/-- A slot, and what has gone through it. -/
structure Handover (α : Type) where
  /-- The slot. -/
  slot : FrameSlot α
  /-- All frames published, the first one first. -/
  published : List α
  /-- All frames taken, the first one first, each with its place among the frames published. -/
  taken : List (Nat × α)

namespace Handover

variable {α : Type} {h : Handover α}

/-- Before the first frame. -/
def start : Handover α := ⟨.empty, [], []⟩

/-- After a frame has been published. -/
def publish (h : Handover α) (frame : α) : Handover α :=
  { h with slot := h.slot.publish frame, published := h.published ++ [frame] }

/-- After a look into the slot. -/
def take (h : Handover α) : Handover α :=
  match h.slot.take with
  | (some frame, slot) => { h with slot, taken := h.taken ++ [(h.published.length - 1, frame)] }
  | (none, slot) => { h with slot }

/-- What holds of all that has gone through a slot. -/
structure InOrder (h : Handover α) : Prop where
  /-- What is taken later was published later. -/
  increasing : h.taken.Pairwise (·.1 < ·.1)
  /-- What is taken was published. -/
  placed : ∀ t ∈ h.taken, h.published[t.1]? = some t.2
  /-- The frames taken are some of those published, in order. -/
  sublist : (h.taken.map (·.2)).Sublist h.published
  /-- A fresh frame is the latest one, and has not been taken. -/
  fresh : h.slot.fresh = true → ∃ earlier frame, h.published = earlier ++ [frame] ∧
    h.slot.frame = some frame ∧ (h.taken.map (·.2)).Sublist earlier ∧ ∀ t ∈ h.taken, t.1 < earlier.length
  /-- If there is no fresh frame, the latest one has been taken. -/
  stale : h.slot.fresh = false → h.taken.getLast?.map (·.2) = h.published.getLast?

theorem inOrder_start : (start : Handover α).InOrder where
  increasing := List.Pairwise.nil
  placed := fun _ ht => by cases ht
  sublist := List.Sublist.refl []
  fresh := fun h => by cases h
  stale := fun _ => rfl

theorem InOrder.lt_length (ho : h.InOrder) {t : Nat × α} (ht : t ∈ h.taken) :
    t.1 < h.published.length :=
  (List.getElem?_eq_some_iff.mp (ho.placed t ht)).1

theorem InOrder.publish (ho : h.InOrder) (frame : α) : (h.publish frame).InOrder where
  increasing := ho.increasing
  placed := by
    intro t ht
    show (h.published ++ [frame])[t.1]? = some t.2
    rw [List.getElem?_append_left (ho.lt_length ht)]
    exact ho.placed t ht
  sublist := ho.sublist.trans (List.sublist_append_left ..)
  fresh := fun _ => ⟨h.published, frame, rfl, rfl, ho.sublist, fun _ ht => ho.lt_length ht⟩
  stale := fun hf => by cases hf

theorem slot_take_of_stale (hf : h.slot.fresh = false) : h.slot.take = (none, h.slot) := by
  unfold FrameSlot.take
  rw [if_neg (Bool.eq_false_iff.mp hf)]

theorem slot_take_of_fresh (hf : h.slot.fresh = true) :
    h.slot.take = (h.slot.frame, ⟨h.slot.frame, false⟩) := by
  unfold FrameSlot.take
  rw [if_pos hf]

theorem InOrder.take (ho : h.InOrder) : h.take.InOrder := by
  cases hf : h.slot.fresh with
  | false =>
    have hsame : h.take = h := by
      unfold Handover.take
      rw [slot_take_of_stale hf]
    rw [hsame]
    exact ho
  | true =>
    obtain ⟨earlier, frame, hpub, hframe, hsub, hlt⟩ := ho.fresh hf
    have htaken : h.take =
        ⟨⟨some frame, false⟩, h.published, h.taken ++ [(earlier.length, frame)]⟩ := by
      unfold Handover.take
      rw [slot_take_of_fresh hf, hframe, hpub, List.length_append, List.length_singleton,
        Nat.add_sub_cancel]
    rw [htaken]
    refine ⟨?increasing, ?placed, ?sublist, (fun hf => by cases hf), ?stale⟩
    case increasing =>
      refine List.pairwise_append.mpr ⟨ho.increasing, List.pairwise_singleton _ _, ?_⟩
      intro t ht t' ht'
      obtain rfl := List.mem_singleton.mp ht'
      exact hlt t ht
    case placed =>
      intro t ht
      rcases List.mem_append.mp ht with ht | ht
      · exact ho.placed t ht
      · obtain rfl := List.mem_singleton.mp ht
        show h.published[earlier.length]? = some frame
        rw [hpub]
        exact List.getElem?_concat_length
    case sublist =>
      show ((h.taken ++ [(earlier.length, frame)]).map (·.2)).Sublist h.published
      rw [List.map_append, hpub]
      exact hsub.append (List.Sublist.refl [frame])
    case stale =>
      intro _
      show (h.taken ++ [(earlier.length, frame)]).getLast?.map (·.2) = h.published.getLast?
      rw [hpub, List.getLast?_concat, List.getLast?_concat]
      rfl

/-- If there is nothing to take, the frame taken last is the latest one. -/
theorem InOrder.getLast?_taken (ho : h.InOrder) (hnone : h.slot.take.1 = none) :
    h.taken.getLast?.map (·.2) = h.published.getLast? := by
  cases hf : h.slot.fresh with
  | false => exact ho.stale hf
  | true =>
    obtain ⟨earlier, frame, -, hframe, -⟩ := ho.fresh hf
    rw [slot_take_of_fresh hf, hframe] at hnone
    cases hnone

end Handover

/-! ### Cycles and looks into the slot in any order -/

/-- How far a controller is with its cycle. -/
inductive Phase where
  /-- The latest cycle has returned, or there has been none. -/
  | returned
  /-- The latest cycle has failed. -/
  | failed
  /-- The first half of a cycle is over. -/
  | worked (frame : Option Display)
  /-- If there was a frame, it has been presented. -/
  | presented
deriving DecidableEq

/-- A controller, the slot in which it leaves its frames, and what has gone through it. -/
structure Exchange (τ : Type) where
  /-- The controller. -/
  controller : Controller τ
  /-- How far it is with its cycle. -/
  phase : Phase
  /-- The slot. -/
  handover : Handover Display
  /-- The framebuffer at the end of each cycle that is over, the first one first. -/
  ended : List Display

namespace Exchange

/-- What the controller and the window do. -/
inductive Action (τ : Type) where
  /-- The controller does the first half of a cycle, in which the line that traces the instruction, if there is
  one, is logged unless the log fails. -/
  | work (start : τ) (polled : Except BadKey (List KeyEvent)) (logged : Bool)
  /-- The controller presents the frame, if there is one. -/
  | present
  /-- The controller does the second half of the cycle, which then returns unless the sleep fails. -/
  | rest (now : τ) (slept : Bool)
  /-- The window looks into the slot. -/
  | take

variable {τ : Type} {x : Exchange τ} {initial : Display}

/-- Before the first cycle. -/
def start (c : Controller τ) : Exchange τ := ⟨c, .returned, .start, []⟩

/-- After a cycle that has failed in its first half and left the controller `c`. -/
def fail (x : Exchange τ) (c : Controller τ) : Exchange τ :=
  { x with controller := c, phase := .failed, ended := x.ended ++ [c.machine.display] }

/-- After a first half that has come to `w`. If it has failed, the cycle is over. -/
def proceed (x : Exchange τ) (w : Work τ) : Exchange τ :=
  match w.outcome with
  | .error _ => x.fail w.controller
  | .ok frame => { x with controller := w.controller, phase := .worked frame }

/-- After the first half of a cycle. If the instruction is traced and the log fails, the keys have moved and
nothing is performed. -/
def work [Reading τ] (x : Exchange τ) (start : τ) (polled : Except BadKey (List KeyEvent)) (logged : Bool) :
    Exchange τ :=
  match polled, (x.controller.work start polled).traced, logged with
  | .ok events, some _, false => x.fail (x.controller.keyed start events)
  | _, _, _ => x.proceed (x.controller.work start polled)

/-- After the frame has been presented, if there is one. -/
def present (x : Exchange τ) (frame : Option Display) : Exchange τ :=
  match frame with
  | some frame => { x with handover := x.handover.publish frame, phase := .presented }
  | none => { x with phase := .presented }

/-- After the second half of a cycle. If the sleep fails, so has the cycle. -/
def rest [Reading τ] (x : Exchange τ) (now : τ) (slept : Bool) : Exchange τ :=
  { x with
    controller := (x.controller.rest now).1, phase := if slept then .returned else .failed,
    ended := x.ended ++ [x.controller.machine.display] }

/-- After an action. One that is not due changes nothing. -/
def after [Reading τ] (x : Exchange τ) : Action τ → Exchange τ
  | .work start polled logged =>
    match x.phase with
    | .returned | .failed => x.work start polled logged
    | .worked _ | .presented => x
  | .present =>
    match x.phase with
    | .worked frame => x.present frame
    | .returned | .failed | .presented => x
  | .rest now slept =>
    match x.phase with
    | .presented => x.rest now slept
    | .returned | .failed | .worked _ => x
  | .take => { x with handover := x.handover.take }

/-- After some actions, the first one first. -/
def run [Reading τ] (x : Exchange τ) (as : List (Action τ)) : Exchange τ := as.foldl after x

/-! ### What holds at all times -/

/-- The latest frame published, or the initial picture. -/
def latest (x : Exchange τ) (initial : Display) : Display := x.handover.published.getLast?.getD initial

/-- The framebuffer at the end of each cycle, also of the one that has only to rest. -/
def pictures (x : Exchange τ) : List Display :=
  match x.phase with
  | .presented => x.ended ++ [x.controller.machine.display]
  | .returned | .failed | .worked _ => x.ended

/-- What is shown: the latest frame published, unless there is another one to present or the flag is
up. -/
def Screen (initial : Display) (x : Exchange τ) : Prop :=
  match x.phase with
  | .returned | .presented =>
    x.controller.machine.dirty = false ∧ x.controller.machine.display = x.latest initial
  | .failed => x.controller.machine.dirty = false → x.controller.machine.display = x.latest initial
  | .worked frame => x.controller.machine.dirty = false ∧
      (frame = some x.controller.machine.display ∨
        frame = none ∧ x.controller.machine.display = x.latest initial)

/-- What holds at all times. -/
structure Kept (initial : Display) (x : Exchange τ) : Prop where
  /-- The frames go through the slot in order. -/
  inOrder : x.handover.InOrder
  /-- The framebuffer is as `Screen` says. -/
  screen : x.Screen initial
  /-- The frames published are the framebuffer at the end of some of the cycles, in order. -/
  pictured : x.handover.published.Sublist x.pictures

theorem kept_start {c : Controller τ} (hclean : c.machine.dirty = false) :
    (start c).Kept c.machine.display where
  inOrder := Handover.inOrder_start
  screen := ⟨hclean, rfl⟩
  pictured := List.Sublist.refl []

theorem Kept.present (hx : x.Kept initial) {frame : Option Display} (hphase : x.phase = .worked frame) :
    (x.present frame).Kept initial := by
  obtain ⟨ho, hs, hp⟩ := hx
  unfold Screen at hs
  unfold pictures at hp
  rw [hphase] at hs hp
  obtain ⟨hclean, rfl | ⟨rfl, hlatest⟩⟩ := hs
  · refine ⟨ho.publish _, ⟨hclean, ?_⟩, hp.append (List.Sublist.refl _)⟩
    show _ = (x.handover.published ++ [x.controller.machine.display]).getLast?.getD initial
    rw [List.getLast?_concat]
    rfl
  · exact ⟨ho, ⟨hclean, hlatest⟩, hp.trans (List.sublist_append_left ..)⟩

theorem Kept.take (hx : x.Kept initial) : Kept initial { x with handover := x.handover.take } := by
  have hsame : x.handover.take.published = x.handover.published := by
    unfold Handover.take
    split <;> rfl
  obtain ⟨ho, hs, hp⟩ := hx
  refine ⟨ho.take, ?_, ?_⟩
  · unfold Screen latest at hs ⊢
    rw [hsame]
    exact hs
  · unfold pictures at hp ⊢
    rw [hsame]
    exact hp

/-- Between two cycles the framebuffer is the latest frame, unless its flag is up. -/
theorem Kept.display_eq (hx : x.Kept initial) (hphase : x.phase = .returned ∨ x.phase = .failed)
    (hclean : x.controller.machine.dirty = false) : x.controller.machine.display = x.latest initial := by
  have hs := hx.screen
  unfold Screen at hs
  rcases hphase with h | h <;> rw [h] at hs
  · exact hs.2
  · exact hs hclean

/-- Between two cycles all of them are over. -/
theorem pictures_eq (hphase : x.phase = .returned ∨ x.phase = .failed) : x.pictures = x.ended := by
  unfold pictures
  rcases hphase with h | h <;> rw [h]

/-- A cycle that fails in its first half may leave the framebuffer changed only if the flag is up. -/
theorem Kept.fail (hx : x.Kept initial) (hphase : x.phase = .returned ∨ x.phase = .failed) {c : Controller τ}
    (hflagged : Controller.Flagged x.controller.machine c.machine) : (x.fail c).Kept initial where
  inOrder := hx.inOrder
  screen := by
    intro hclean
    obtain ⟨hsame, hbefore⟩ := hflagged hclean
    exact hsame.trans (hx.display_eq hphase hbefore)
  pictured := by
    have hp := hx.pictured
    rw [pictures_eq hphase] at hp
    exact hp.trans (List.sublist_append_left ..)

/-- A first half that goes as `Controller.screen_work` says keeps what holds at all times. -/
theorem Kept.proceed (hx : x.Kept initial) (hphase : x.phase = .returned ∨ x.phase = .failed) {w : Work τ}
    (hw : match w.outcome with
      | .error _ => Controller.Flagged x.controller.machine w.controller.machine
      | .ok frame => w.controller.machine.dirty = false ∧
          (frame = some w.controller.machine.display ∨
            frame = none ∧ Controller.Flagged x.controller.machine w.controller.machine)) :
    (x.proceed w).Kept initial := by
  obtain ⟨c, traced, outcome⟩ := w
  cases outcome with
  | error e => exact hx.fail hphase hw
  | ok frame =>
    obtain ⟨hclean, hframe⟩ := hw
    have hp := hx.pictured
    rw [pictures_eq hphase] at hp
    refine ⟨hx.inOrder, ⟨hclean, hframe.imp id fun ⟨hnone, hflag⟩ => ⟨hnone, ?_⟩⟩, hp⟩
    obtain ⟨hsame, hbefore⟩ := hflag hclean
    exact hsame.trans (hx.display_eq hphase hbefore)

variable [Reading τ]

theorem Kept.work (hx : x.Kept initial) (hphase : x.phase = .returned ∨ x.phase = .failed) (start : τ)
    (polled : Except BadKey (List KeyEvent)) (logged : Bool) : (x.work start polled logged).Kept initial := by
  unfold Exchange.work
  split
  case h_1 => exact hx.fail hphase (Controller.flagged_press _ _)
  case h_2 => exact hx.proceed hphase (x.controller.screen_work start _)

theorem Kept.rest (hx : x.Kept initial) (hphase : x.phase = .presented) (now : τ) (slept : Bool) :
    (x.rest now slept).Kept initial := by
  obtain ⟨ho, hs, hp⟩ := hx
  unfold Screen at hs
  unfold pictures at hp
  rw [hphase] at hs hp
  cases slept with
  | true => exact ⟨ho, hs, hp⟩
  | false => exact ⟨ho, fun _ => hs.2, hp⟩

theorem Kept.after (hx : x.Kept initial) (a : Action τ) : (x.after a).Kept initial := by
  cases a with
  | work start polled logged =>
    simp only [Exchange.after]
    split
    case h_1 hphase => exact hx.work (.inl hphase) start polled logged
    case h_2 hphase => exact hx.work (.inr hphase) start polled logged
    all_goals exact hx
  | present =>
    simp only [Exchange.after]
    split
    case h_1 hphase => exact hx.present hphase
    all_goals exact hx
  | rest now slept =>
    simp only [Exchange.after]
    split
    case h_1 hphase => exact hx.rest hphase now slept
    all_goals exact hx
  | take => exact hx.take

theorem Kept.run (hx : x.Kept initial) (as : List (Action τ)) : (x.run as).Kept initial := by
  induction as generalizing x with
  | nil => exact hx
  | cons a as ih => exact ih (hx.after a)

/-- **Frames reach the window without loss of the latest picture**, whatever the controller and the window
do, if the flag is down at first. The frames taken are some of the frames published, none of them twice and
in order, and these are the framebuffer at the end of some of the cycles, in order. Whenever a cycle has
returned, the flag is down and the framebuffer is the latest frame published, or the initial picture if
there was none; if there is then nothing to take, it is the frame taken last, or the initial picture if
there was none. -/
theorem frames_reach_window (c : Controller τ) (hclean : c.machine.dirty = false) (as : List (Action τ)) :
    let x := (start c).run as
    (x.handover.taken.Pairwise (·.1 < ·.1) ∧
      (∀ t ∈ x.handover.taken, x.handover.published[t.1]? = some t.2) ∧
      (x.handover.taken.map (·.2)).Sublist x.handover.published ∧
      x.handover.published.Sublist x.pictures) ∧
    (x.phase = .returned →
      x.controller.machine.dirty = false ∧
      x.controller.machine.display = x.handover.published.getLast?.getD c.machine.display ∧
      (x.handover.slot.take.1 = none →
        (x.handover.taken.getLast?.map (·.2)).getD c.machine.display = x.controller.machine.display)) := by
  intro x
  obtain ⟨ho, hs, hp⟩ := (kept_start hclean).run as
  refine ⟨⟨ho.increasing, ho.placed, ho.sublist, hp⟩, fun hphase => ?_⟩
  unfold Screen at hs
  rw [hphase] at hs
  refine ⟨hs.1, hs.2, fun hnone => ?_⟩
  rw [ho.getLast?_taken hnone]
  exact hs.2.symm

/-- A controller that clears the framebuffer, draws twice, and traces what it does. -/
def drawing : Controller Rat where
  machine := (Machine.start ⟨0, 0⟩).run [.load [0x00, 0xE0, 0xD0, 0x01, 0xD0, 0x05]]
  cycleTime := Rat.inv (Rat.ofInt 840)
  timerPeriod := Rat.inv (Rat.ofInt 60)
  trace := true
  cycles := 0
  marks := none

/-- Four cycles, the second of which fails as its line is logged, and the third in its sleep: the window takes the
first frame before its cycle has returned, and looks again when the last one has. -/
def overtaken : List (Action Rat) :=
  [.work (Rat.ofInt 0) (.ok []) true, .present, .take, .rest (Rat.ofInt 0) true,
    .work (Rat.ofInt 1) (.ok []) false,
    .work (Rat.ofInt 1) (.ok []) true, .present, .rest (Rat.ofInt 1) false,
    .work (Rat.ofInt 2) (.ok []) true, .present, .rest (Rat.ofInt 2) true, .take]

/-- After `overtaken` the window has taken the first frame and the third one, which is the last, and shows what
the machine shows. -/
theorem frames_reach_window_overtaken :
    let x := (start drawing).run overtaken
    x.handover.taken.map (·.1) = [0, 2] ∧
      (x.handover.taken.getLast?.map (·.2)).getD drawing.machine.display =
        x.controller.machine.display := by
  have hrun : drawing.machine.dirty = false ∧ ((start drawing).run overtaken).phase = .returned ∧
      ((start drawing).run overtaken).handover.slot.take.1 = none ∧
      ((start drawing).run overtaken).handover.taken.map (·.1) = [0, 2] := by decide +kernel
  obtain ⟨hclean, hphase, hnone, htaken⟩ := hrun
  obtain ⟨-, hreturned⟩ := frames_reach_window drawing hclean overtaken
  exact ⟨htaken, (hreturned hphase).2.2 hnone⟩

/-! ### Against simulated time -/

/-- A cycle against simulated time is a first half, a presentation and a second half, and shows the frames
that these publish. -/
theorem run_cycle {x : Exchange Float} {s : Simulation} (hc : x.controller = s.controller)
    (hphase : x.phase = .returned ∨ x.phase = .failed) :
    ∃ now,
      let x' := x.run [.work s.now s.poll.2 true, .present, .rest now true]
      x'.controller = s.cycle.1.controller ∧
      (x'.phase = match s.cycle.2 with | none => .returned | some _ => .failed) ∧
      ∃ shown, x'.handover.published = x.handover.published ++ shown ∧
        s.cycle.1.frames = shown.reverse ++ s.frames := by
  have hdue : ∀ start polled logged, x.after (.work start polled logged) = x.work start polled logged := by
    intro start polled logged
    simp only [Exchange.after]
    rcases hphase with h | h <;> rw [h]
  have hcycle := s.cycle_eq
  have hlogged : x.work s.now s.poll.2 true = x.proceed (s.controller.work s.now s.poll.2) := by
    unfold Exchange.work
    rw [hc]
    split
    case h_1 hnever => cases hnever
    case h_2 => rfl
  simp only [run, List.foldl_cons, List.foldl_nil, hdue, hlogged]
  generalize s.controller.work s.now s.poll.2 = w at hcycle ⊢
  obtain ⟨c, traced, outcome⟩ := w
  cases outcome with
  | error e =>
    obtain ⟨hend, hcontroller, hframes⟩ := hcycle
    rw [hend]
    exact ⟨s.now, hcontroller.symm, rfl, [], (List.append_nil _).symm, hframes⟩
  | ok frame =>
    obtain ⟨hend, ⟨now, hcontroller⟩, hframes⟩ := hcycle
    rw [hend]
    cases frame with
    | none => exact ⟨now, hcontroller.symm, rfl, [], (List.append_nil _).symm, hframes⟩
    | some frame => exact ⟨now, hcontroller.symm, rfl, [frame], rfl, hframes⟩

end Exchange

end Chip8.Pacing

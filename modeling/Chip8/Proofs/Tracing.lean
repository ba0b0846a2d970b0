import Chip8.Log
import Chip8.Proofs.Refusal
import Chip8.Proofs.Timers

/-!
# Tracing

Tracing looks at the machine by a fetch of its own, before the word is known to be in memory, and takes
the word apart. None of that reaches the machine: with the log left out, the course of a cycle is the one
without tracing (`Controller.quiet_course`), and so are the courses of all that follow. What is logged is
one line before all else, and it tells the truth: it names the address of the instruction and the word that
is then refused or performed (`tracing_truthful`).
-/

namespace Chip8.Pacing

/-! ### Without tracing -/

/-- The controller with tracing turned off. -/
def Controller.quiet {τ : Type} (c : Controller τ) : Controller τ := { c with trace := false }

/-- The first half of a cycle without what is traced. -/
def Work.quiet {τ : Type} (w : Work τ) : Work τ := { w with controller := w.controller.quiet, traced := none }

/-- The course of a cycle without what is traced. -/
def Course.quiet {τ : Type} (r : Course τ) : Course τ :=
  { r with controller := r.controller.quiet, deeds := r.deeds.filter fun deed => !deed.isLog }

namespace Controller

variable {τ : Type}

theorem quiet_handOut (c : Controller τ) : c.quiet.handOut = (c.handOut.1.quiet, c.handOut.2) := by
  unfold handOut
  by_cases h : c.machine.dirty = true
  · rw [if_pos h, if_pos (show c.quiet.machine.dirty = true from h)]
    rfl
  · rw [if_neg h, if_neg (show ¬ c.quiet.machine.dirty = true from h)]

variable [Reading τ]

theorem quiet_catchUp (c : Controller τ) (marks : Marks τ) (start : τ) :
    c.quiet.catchUp marks start = (c.catchUp marks start).map quiet := by
  unfold catchUp
  rw [show c.quiet.timerPeriod = c.timerPeriod from rfl, show c.quiet.machine = c.machine from rfl]
  cases ticksDue c.timerPeriod marks start with
  | error e => rfl
  | ok ticks =>
    by_cases hpos : 0 < ticks
    · simp only [if_pos hpos]
      cases c.machine.tick ticks <;> rfl
    · simp only [if_neg hpos]
      rfl

/-- The first half of a cycle without tracing is that with it, less what is traced. -/
theorem quiet_work (c : Controller τ) (start : τ) (polled : Except BadKey (List KeyEvent)) :
    c.quiet.work start polled = (c.work start polled).quiet := by
  cases polled with
  | error e => rfl
  | ok events =>
    cases hstep : (c.machine.press events).step with
    | error f =>
      rw [work_of_error c start hstep, work_of_error c.quiet start hstep]
      rfl
    | ok machine =>
      rw [work_of_ok c start hstep, work_of_ok c.quiet start hstep,
        show c.quiet.performed start events machine = (c.performed start events machine).quiet from rfl,
        quiet_catchUp, show c.quiet.marksAt = c.marksAt from rfl]
      cases (c.performed start events machine).catchUp (c.marksAt start) start with
      | error e => rfl
      | ok c' =>
        simp only [Except.map, quiet_handOut]
        rfl

/-- **Tracing is seen in the log alone**: the course without tracing is that with it, less what is
logged. -/
theorem quiet_course (c : Controller τ) (cue : Cue τ) : c.quiet.course cue = (c.course cue).quiet := by
  unfold course
  rw [quiet_work]
  generalize c.work cue.start cue.polled = w
  obtain ⟨c', traced, outcome⟩ := w
  cases outcome with
  | error e => cases traced <;> rfl
  | ok frame =>
    have hrest : c'.quiet.rest cue.shown = ((c'.rest cue.shown).1.quiet, (c'.rest cue.shown).2) := rfl
    simp only [Work.quiet, hrest, Course.quiet]
    cases traced <;> cases frame <;> cases (c'.rest cue.shown).2 <;> rfl

theorem quiet_after (c : Controller τ) (cues : List (Cue τ)) :
    c.quiet.after cues = (c.after cues).quiet := by
  induction cues generalizing c with
  | nil => rfl
  | cons cue cues ih =>
    show (c.quiet.course cue).controller.after cues = _
    rw [quiet_course]
    exact ih (c.course cue).controller

/-! ### What is traced -/

/-- The line that traces the next instruction is given out unless the poll fails, whatever else does. -/
theorem traced_work (c : Controller τ) (start : τ) (polled : Except BadKey (List KeyEvent)) :
    (c.work start polled).traced =
      match polled with
      | .ok events => (c.keyed start events).traced?
      | .error _ => none := by
  have hw := c.worked start polled
  generalize c.work start polled = w at hw ⊢
  cases hw <;> rfl

/-- The deeds of a cycle are the logging of what is traced and the deeds without tracing, none of which
logs. -/
theorem deeds_course (c : Controller τ) (cue : Cue τ) :
    (c.course cue).deeds =
        (c.work cue.start cue.polled).traced.toList.map .log ++ (c.quiet.course cue).deeds ∧
      ∀ deed ∈ (c.quiet.course cue).deeds, deed.isLog = false := by
  have hsilent : ∀ deed ∈ (c.quiet.course cue).deeds, deed.isLog = false := by
    intro deed hdeed
    rw [quiet_course] at hdeed
    exact Bool.not_eq_true' _ ▸ (List.mem_filter.mp hdeed).2
  refine ⟨?_, hsilent⟩
  unfold course
  rw [quiet_work]
  generalize c.work cue.start cue.polled = w
  obtain ⟨c', traced, outcome⟩ := w
  cases outcome with
  | error e => exact (List.append_nil _).symm
  | ok frame => rfl

theorem trace_work (c : Controller τ) (start : τ) (polled : Except BadKey (List KeyEvent)) :
    (c.work start polled).controller.trace = c.trace := by
  have hw := c.worked start polled
  generalize c.work start polled = w at hw ⊢
  cases hw with
  | badKey => rfl
  | fault => rfl
  | late => rfl
  | @done events machine c' hstep hcatch =>
    obtain ⟨ticks, -, rfl⟩ := catchUp_eq_ok hcatch
    obtain ⟨dirty, hkeeps⟩ :=
      ((c.performed start events machine).caughtUp (c.marksAt start) ticks).handOut_keeps
    dsimp only
    rw [hkeeps]
    unfold caughtUp
    split <;> rfl

/-- Whether a controller traces does not change. -/
theorem trace_course (c : Controller τ) (cue : Cue τ) : (c.course cue).controller.trace = c.trace := by
  rw [← c.trace_work cue.start cue.polled]
  unfold course
  generalize c.work cue.start cue.polled = w
  obtain ⟨c', traced, outcome⟩ := w
  cases outcome <;> rfl

theorem trace_after (c : Controller τ) (cues : List (Cue τ)) : (c.after cues).trace = c.trace := by
  induction cues generalizing c with
  | nil => rfl
  | cons cue cues ih => exact (ih (c.course cue).controller).trans (c.trace_course cue)

/-! ### The line tells the truth -/

/-- A logger at the lowest level writes whatever is traced. -/
theorem log_debug {l : Logger} (h : l.level = .debug) (now : Float) (line : String) :
    l.log now .debug line = l.line now .debug line := by
  unfold Logger.log Logger.enabled
  rw [h]
  rfl

/-- **The word at the program counter is the one that a cycle refuses or performs**, if it is in memory. -/
theorem course_of_word (c : Controller τ) {cue : Cue τ} {events : List KeyEvent}
    (hpoll : cue.polled = .ok events) (hpc : c.machine.pc.toNat + 1 < 4096) :
    match c.machine.fault? c.machine.word.toNat c.machine.pc.toNat with
    | some f => (c.course cue).failure = some (.fault f)
    | none => (c.course cue).controller.cycles = c.cycles + 1 ∧ ∃ delay sound dirty,
        (c.course cue).controller.machine =
          { (c.machine.press events).fetch.1.dispatch c.machine.word with delay, sound, dirty } := by
  have hstep := Machine.step_eq (m := c.machine.press events) hpc
  rw [show (c.machine.press events).fault? = c.machine.fault? from rfl,
    show (c.machine.press events).word = c.machine.word from rfl,
    show (c.machine.press events).pc = c.machine.pc from rfl] at hstep
  cases hf : c.machine.fault? c.machine.word.toNat c.machine.pc.toNat with
  | some f =>
    rw [hf] at hstep
    rw [c.course_of_fault hpoll hstep]
  | none =>
    rw [hf] at hstep
    exact c.course_keeps hpoll hstep

/-- **Tracing is invisible to the machine, and truthful.** Take a controller that traces and the same one that
does not, after any cycles whatever, failed ones among them, that were given the same to both: they differ
in nothing else, and in the next cycle they fail alike, change alike, and do the same to their surroundings,
but that the one that traces first logs a line, unless its poll fails. The other one logs nothing. A logger
at the lowest level writes that line; and if the word at the program counter is in memory, the line is the
address, the word and its text, and it is this word that the cycle refuses or performs. -/
theorem tracing_truthful (c : Controller τ) (cues : List (Cue τ)) (cue : Cue τ) :
    let on := { c with trace := true }.after cues
    let off := { c with trace := false }.after cues
    let traced := on.course cue
    let untraced := off.course cue
    on = { off with trace := true } ∧
      traced.failure = untraced.failure ∧
      traced.controller = { untraced.controller with trace := true } ∧
      (∀ deed ∈ untraced.deeds, deed.isLog = false) ∧
      (∀ e, cue.polled = .error e → traced.deeds = untraced.deeds) ∧
      ∀ events, cue.polled = .ok events →
        ∃ line, traced.deeds = .log line :: untraced.deeds ∧
          (∀ (l : Logger) (now : Float), l.level = .debug → l.log now .debug line = l.line now .debug line) ∧
          ∀ hpc : on.machine.pc.toNat + 1 < 4096, ∃ w : UInt16,
            w.toNat = 256 * on.machine.memory[on.machine.pc.toNat].toNat +
              on.machine.memory[on.machine.pc.toNat + 1].toNat ∧
            line = "0x" ++ hex 3 on.machine.pc.toNat ++ ": " ++ hex 4 w.toNat ++ "  " ++
              disassemble w.toNat ∧
            match on.machine.fault? w.toNat on.machine.pc.toNat with
            | some f => traced.failure = some (.fault f)
            | none => traced.controller.cycles = on.cycles + 1 ∧ ∃ delay sound dirty,
                traced.controller.machine =
                  { Machine.dispatch { on.machine with
                      keypad := on.machine.keypad.apply events, pc := on.machine.pc + 2 } w with
                    delay, sound, dirty } := by
  intro on off traced untraced
  have hon : on.trace = true := Controller.trace_after { c with trace := true } cues
  have hoff : off = on.quiet := Controller.quiet_after { c with trace := true } cues
  have huntraced : untraced = traced.quiet := by
    show off.course cue = _
    rw [hoff]
    exact on.quiet_course cue
  have hloud : ∀ {d : Controller τ}, d.trace = true → d = { d.quiet with trace := true } := by
    intro d hd
    rw [← hd]
    rfl
  obtain ⟨hdeeds, hsilent⟩ := on.deeds_course cue
  rw [on.traced_work, ← hoff] at hdeeds
  refine ⟨by rw [hoff]; exact hloud hon, by rw [huntraced]; rfl, ?_, by rw [← hoff] at hsilent; exact hsilent,
    fun e hpoll => ?_, fun events hpoll => ?_⟩
  · rw [huntraced]
    exact hloud ((on.trace_course cue).trans hon)
  · rw [hpoll] at hdeeds
    exact hdeeds
  · have htraced : (on.keyed cue.start events).traced? = some (traceLine (on.machine.press events)) :=
      if_pos hon
    rw [hpoll] at hdeeds
    dsimp only at hdeeds
    rw [htraced] at hdeeds
    refine ⟨_, hdeeds, fun l now hl => log_debug hl now _, fun hpc => ?_⟩
    refine ⟨on.machine.word, ?_, rfl, on.course_of_word hpoll hpc⟩
    rw [Machine.toNat_word (by omega), Memory.read_of_lt _ hpc, Memory.read_of_lt _ (by omega)]

/-- A controller that clears the framebuffer and then stays where it is. -/
def clearing : Controller Float where
  machine := (Machine.start ⟨0, 0⟩).run [.load [0x00, 0xE0, 0x12, 0x02]]
  cycleTime := 1.0 / 840.0
  timerPeriod := 1.0 / 60.0
  trace := false
  cycles := 0
  marks := none

/-- In its second cycle, tracing logs the jump and does nothing else. -/
theorem tracing_truthful_jump :
    let cue : Cue Float := ⟨0.5, .ok [], 0.5⟩
    let on := { clearing with trace := true }.after [⟨0.0, .ok [], 0.0⟩]
    let off := { clearing with trace := false }.after [⟨0.0, .ok [], 0.0⟩]
    (on.course cue).deeds = .log "0x202: 1202  JP $202" :: (off.course cue).deeds := by
  intro cue on off
  have htraced := (tracing_truthful clearing [⟨0.0, .ok [], 0.0⟩] cue).2.2.2.2.2
  obtain ⟨line, hdeeds, -, hline⟩ := htraced [] rfl
  obtain ⟨w, hw, htext, -⟩ := hline (by decide +kernel)
  obtain rfl : w = 0x1202 := UInt16.toNat_inj.mp (hw.trans (by decide +kernel))
  rw [show "0x202: 1202  JP $202" = line from htext.symm ▸ (by decide +kernel)]
  exact hdeeds

end Controller

end Chip8.Pacing

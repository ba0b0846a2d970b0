import Chip8.Proofs.Frame
import Chip8.Proofs.Timers
import Mathlib.Data.List.Basic

/-!
# Ticks and polls in any order

A timer that counts down and a key that moves are each seen by three kinds of instructions. Any other
instruction comes to the same whether they happen before it or after it, also if it is at fault
(`step_retimed`, `step_press`). A tick and a poll have nothing to do with each other, and neither have two
ticks, for a timer stops at zero in either order. So ticks, polls and instructions that spare them can
change places in a run (`Reordered`). What cannot are two polls, the later of which says how a key is.

If all instructions of a run spare both the timers and the keys, the run comes to the same as its steps
alone with all ticks and polls behind them (`run_moved`). That does not show in which order they were.
-/

namespace Chip8.Machine

open Instruction (decode? HasForm)

/-! ### What an instruction spares -/

/-- `Fx07`, `Fx15` and `Fx18`: the word reads or sets a timer. -/
def UsesTimers (w : Int) : Prop :=
  firstNibble w = 0xF ∧ (lastByte w = 0x07 ∨ lastByte w = 0x15 ∨ lastByte w = 0x18)

/-- `Ex9E`, `ExA1` and `Fx0A`: the word looks at the keys. -/
def LooksAtKeys (w : Int) : Prop :=
  firstNibble w = 0xE ∧ (lastByte w = 0x9E ∨ lastByte w = 0xA1) ∨
    firstNibble w = 0xF ∧ lastByte w = 0x0A

instance (w : Int) : Decidable (UsesTimers w) := inferInstanceAs (Decidable (_ ∧ _))

instance (w : Int) : Decidable (LooksAtKeys w) := inferInstanceAs (Decidable (_ ∨ _))

/-- The word at the program counter, if it is in memory, has nothing to do with the timers. -/
def SparesTimers (m : Machine) : Prop := m.pc.toNat + 1 < 4096 → ¬ UsesTimers m.word.toNat

/-- The word at the program counter, if it is in memory, does not look at the keys. -/
def SparesKeys (m : Machine) : Prop := m.pc.toNat + 1 < 4096 → ¬ LooksAtKeys m.word.toNat

instance (m : Machine) : Decidable m.SparesTimers := inferInstanceAs (Decidable (_ → _))

instance (m : Machine) : Decidable m.SparesKeys := inferInstanceAs (Decidable (_ → _))

/-! ### One step -/

variable {m : Machine}

/-- The machine with both timers changed alike. -/
def retimed (m : Machine) (g : UInt8 → UInt8) : Machine :=
  { m with delay := g m.delay, sound := g m.sound }

theorem perform_retimed (m : Machine) (g : UInt8 → UInt8) {w : Int} {i : Instruction}
    (hw : HasForm w i) (h : ¬ UsesTimers w) : (m.retimed g).perform i = (m.perform i).retimed g := by
  obtain ⟨rng, memory, pc, display, dirty, stack, delay, sound, keypad, v, index⟩ := m
  cases i with
  | readDelay x => exact absurd ⟨hw.1, .inl hw.2.1⟩ h
  | setDelay x => exact absurd ⟨hw.1, .inr (.inl hw.2.1)⟩ h
  | setSound x => exact absurd ⟨hw.1, .inr (.inr hw.2.1)⟩ h
  | waitKey x =>
    simp only [perform, retimed]
    split <;> rfl
  | _ => rfl

theorem perform_press (m : Machine) (events : List KeyEvent) {w : Int} {i : Instruction}
    (hw : HasForm w i) (h : ¬ LooksAtKeys w) :
    (m.press events).perform i = (m.perform i).press events := by
  obtain ⟨rng, memory, pc, display, dirty, stack, delay, sound, keypad, v, index⟩ := m
  cases i with
  | skipIfKey x => exact absurd (.inl ⟨hw.1, .inl hw.2.1⟩) h
  | skipUnlessKey x => exact absurd (.inl ⟨hw.1, .inr hw.2.1⟩) h
  | waitKey x => exact absurd (.inr ⟨hw.1, hw.2.1⟩) h
  | _ => rfl

/-- A change that neither a fetch and a check see nor the instruction at the program counter can be made
before the step or after it. -/
theorem step_map {f : Machine → Machine} (hpc : (f m).pc = m.pc) (hword : (f m).word = m.word)
    (hfetch : (f m).fetch.1 = f m.fetch.1) (hcheck : (f m.fetch.1).check = m.fetch.1.check)
    (hperform : m.pc.toNat + 1 < 4096 → ∀ i, decode? m.word.toNat = some i →
      (f m.fetch.1).perform i = f (m.fetch.1.perform i)) :
    (f m).step = m.step.map f := by
  by_cases h : m.pc.toNat + 1 < 4096
  · rw [step_of_lt (m := f m) (hpc ▸ h), step_of_lt h, hfetch, hcheck, hword, hpc]
    cases hc : m.fetch.1.check m.word.toNat m.pc.toNat with
    | error e => rfl
    | ok i => exact congrArg Except.ok (hperform h i (check_eq_ok_iff.mp hc).1)
  · have hout := Nat.not_lt.mp h
    rw [step_of_le (m := f m) (hpc ▸ hout), step_of_le hout, hpc]
    rfl

/-- **An instruction that spares the timers** comes to the same before they change and after it. -/
theorem step_retimed (h : m.SparesTimers) (g : UInt8 → UInt8) :
    (m.retimed g).step = m.step.map (·.retimed g) :=
  step_map (f := (·.retimed g)) rfl rfl rfl rfl fun hin _ hi =>
    perform_retimed _ g (Instruction.hasForm_of_decode? hi) (h hin)

/-- **An instruction that spares the keys** comes to the same before they move and after it. -/
theorem step_press (h : m.SparesKeys) (events : List KeyEvent) :
    (m.press events).step = m.step.map (·.press events) :=
  step_map (f := (·.press events)) rfl rfl rfl rfl fun hin _ hi =>
    perform_press _ events (Instruction.hasForm_of_decode? hi) (h hin)

/-- A number of ticks is too many or not, whatever keys have moved. -/
theorem tick_press (m : Machine) (n : Int) (events : List KeyEvent) :
    (m.press events).tick n = (m.tick n).map (·.press events) := by
  unfold tick
  split <;> rfl

/-! ### Events that change places -/

theorem after_tick (m : Machine) {n : Int} (h0 : 0 ≤ n) (hlt : n < tickLimit) :
    m.after (.tick n) = m.ticked n := by
  unfold after
  rw [show m.attempt (.tick n) = (m.tick n).mapError .ticks from rfl, m.tick_of_lt h0 hlt]
  rfl

/-- What commutes with a step, and leaves its fault as it is, commutes with it as an event. -/
theorem after_step_map {f : Machine → Machine} (h : (f m).step = m.step.map f) :
    (f m).after .step = f (m.after .step) := by
  unfold after
  rw [show (f m).attempt .step = (f m).step.mapError .fault from rfl,
    show m.attempt .step = m.step.mapError .fault from rfl, h]
  cases m.step <;> rfl

theorem after_step_retimed (h : m.SparesTimers) (g : UInt8 → UInt8) :
    (m.retimed g).after .step = (m.after .step).retimed g :=
  after_step_map (f := (·.retimed g)) (step_retimed h g)

theorem after_step_press (h : m.SparesKeys) (events : List KeyEvent) :
    (m.press events).after .step = (m.after .step).press events :=
  after_step_map (f := (·.press events)) (step_press h events)

/-- A timer that is counted down twice stops at zero in either order. -/
theorem countDown_comm (timer : UInt8) {a b : Int} (ha0 : 0 ≤ a) (ha : a < tickLimit) (hb0 : 0 ≤ b)
    (hb : b < tickLimit) : countDown (countDown timer a) b = countDown (countDown timer b) a := by
  refine UInt8.toNat_inj.mp ?_
  rw [toNat_countDown _ hb0 hb, toNat_countDown _ ha0 ha, toNat_countDown _ ha0 ha,
    toNat_countDown _ hb0 hb]
  omega

/-- Two events that come to the same in either order. -/
inductive Independent (m : Machine) : Event → Event → Prop
  /-- A tick and an instruction that spares the timers. -/
  | tickStep {n : Int} (h0 : 0 ≤ n) (hlt : n < tickLimit) (h : m.SparesTimers) :
    Independent m (.tick n) .step
  /-- A poll and an instruction that spares the keys. -/
  | pressStep {events : List KeyEvent} (h : m.SparesKeys) : Independent m (.press events) .step
  /-- A tick and a poll. -/
  | tickPress {n : Int} {events : List KeyEvent} (h0 : 0 ≤ n) (hlt : n < tickLimit) :
    Independent m (.tick n) (.press events)
  /-- Two ticks. -/
  | tickTick {a b : Int} (ha0 : 0 ≤ a) (ha : a < tickLimit) (hb0 : 0 ≤ b) (hb : b < tickLimit) :
    Independent m (.tick a) (.tick b)

theorem Independent.after_after {e e' : Event} (h : m.Independent e e') :
    (m.after e).after e' = (m.after e').after e := by
  cases h with
  | @tickStep n h0 hlt h =>
    rw [after_tick _ h0 hlt, after_tick _ h0 hlt]
    exact after_step_retimed h (countDown · n)
  | pressStep h => exact after_step_press h _
  | tickPress h0 hlt =>
    rw [after_tick _ h0 hlt, after_tick _ h0 hlt]
    rfl
  | tickTick ha0 ha hb0 hb =>
    rw [after_tick m ha0 ha, after_tick m hb0 hb, after_tick _ hb0 hb, after_tick _ ha0 ha]
    unfold ticked
    rw [countDown_comm m.delay ha0 ha hb0 hb, countDown_comm m.sound ha0 ha hb0 hb]

/-- Runs in which neighbours that are independent where they happen have changed places. -/
inductive Reordered : Machine → List Event → List Event → Prop
  | refl (m : Machine) (es : List Event) : Reordered m es es
  | swap {m : Machine} {e e' : Event} (h : m.Independent e e') (es : List Event) :
    Reordered m (e :: e' :: es) (e' :: e :: es)
  | cons {m : Machine} {e : Event} {es es' : List Event} (h : Reordered (m.after e) es es') :
    Reordered m (e :: es) (e :: es')
  | symm {m : Machine} {es es' : List Event} (h : Reordered m es es') : Reordered m es' es
  | trans {m : Machine} {es es' es'' : List Event} (h : Reordered m es es')
    (h' : Reordered m es' es'') : Reordered m es es''

/-- Such runs end in the same machine. -/
theorem Reordered.run_eq {es es' : List Event} (h : Reordered m es es') : m.run es = m.run es' := by
  induction h with
  | refl m es => rfl
  | swap h es => exact congrArg (Machine.run · es) h.after_after
  | cons h ih => exact ih
  | symm h ih => exact ih.symm
  | trans h h' ih ih' => exact ih.trans ih'

/-! ### Runs of instructions that spare both -/

/-- The event is a step, a tick that is not too many, or a poll. -/
def Event.IsMovable : Event → Prop
  | .step => True
  | .tick n => 0 ≤ n ∧ n < tickLimit
  | .press _ => True
  | .load _ => False
  | .shown => False

/-- Whether the event is a poll. -/
def Event.isPress : Event → Bool
  | .press _ => true
  | .load _ | .step | .tick _ | .shown => false

/-- The ticks of an event. -/
def Event.ticks : Event → List Int
  | .tick n => [n]
  | .load _ | .step | .press _ | .shown => []

/-- The keys that move in an event. -/
def Event.keys : Event → List KeyEvent
  | .press events => events
  | .load _ | .step | .tick _ | .shown => []

/-- The word at the program counter spares the timers and the keys. -/
def Spares (m : Machine) : Prop := m.SparesTimers ∧ m.SparesKeys

instance (m : Machine) : Decidable m.Spares := inferInstanceAs (Decidable (_ ∧ _))

/-- A run of ticks, polls and instructions that spare the timers and the keys. -/
def FreeRun (m : Machine) : List Event → Prop
  | [] => True
  | e :: es => e.IsMovable ∧ (e = .step → m.Spares) ∧ (m.after e).FreeRun es

/-- The machine after ticks and moves of keys. -/
def moved (m : Machine) (ticks : List Int) (events : List KeyEvent) : Machine :=
  (m.retimed fun timer => ticks.foldl countDown timer).press events

theorem after_step_moved (h : m.Spares) (ticks : List Int) (events : List KeyEvent) :
    (m.moved ticks events).after .step = (m.after .step).moved ticks events := by
  unfold moved
  rw [← after_step_retimed h.1]
  exact after_step_press (m := m.retimed _) h.2 events

theorem after_tick_moved (m : Machine) (ticks : List Int) (events : List KeyEvent) {n : Int}
    (h0 : 0 ≤ n) (hlt : n < tickLimit) :
    (m.moved ticks events).after (.tick n) = m.moved (ticks ++ [n]) events := by
  rw [after_tick _ h0 hlt]
  unfold moved
  simp only [List.foldl_append]
  rfl

theorem after_press_moved (m : Machine) (ticks : List Int) (events keys : List KeyEvent) :
    (m.moved ticks events).after (.press keys) = m.moved ticks (events ++ keys) := by
  unfold moved press
  rw [Keypad.apply_append]
  rfl

/-- The instructions of a run spare the timers and the keys. -/
def StepsSpare (m : Machine) (count : Nat) : Prop :=
  ∀ j < count, (m.run (List.replicate j .step)).Spares

theorem stepsSpare_succ_iff {count : Nat} :
    m.StepsSpare (count + 1) ↔ m.Spares ∧ (m.after .step).StepsSpare count :=
  Nat.forall_lt_succ_left

/-- **Whether a run is free** shows in its steps alone. -/
theorem freeRun_moved_iff (m : Machine) (ticks : List Int) (events : List KeyEvent) (es : List Event) :
    (m.moved ticks events).FreeRun es ↔
      (∀ e ∈ es, e.IsMovable) ∧ m.StepsSpare (es.count .step) := by
  induction es generalizing m ticks events with
  | nil => simp [FreeRun, StepsSpare]
  | cons e es ih =>
    rw [FreeRun, List.forall_mem_cons, and_assoc]
    refine and_congr_right fun he => ?_
    cases e with
    | step =>
      rw [List.count_cons_self, stepsSpare_succ_iff]
      constructor
      · rintro ⟨hspares, hrest⟩
        have hm : m.Spares := hspares rfl
        rw [after_step_moved hm, ih] at hrest
        exact ⟨hrest.1, hm, hrest.2⟩
      · rintro ⟨hes, hm, hrest⟩
        refine ⟨fun _ => hm, ?_⟩
        rw [after_step_moved hm, ih]
        exact ⟨hes, hrest⟩
    | tick n =>
      rw [after_tick_moved m ticks events he.1 he.2, ih, List.count_cons_of_ne (by simp)]
      simp
    | press keys =>
      rw [after_press_moved, ih, List.count_cons_of_ne (by simp)]
      simp
    | load rom => exact he.elim
    | shown => exact he.elim

/-- **A free run** comes to the same as its steps, and then its ticks and its polls. -/
theorem run_moved (m : Machine) (ticks : List Int) (events : List KeyEvent) {es : List Event}
    (h : (m.moved ticks events).FreeRun es) :
    (m.moved ticks events).run es = (m.run (List.replicate (es.count .step) .step)).moved
      (ticks ++ es.flatMap Event.ticks) (events ++ es.flatMap Event.keys) := by
  induction es generalizing m ticks events with
  | nil =>
    rw [List.flatMap_nil, List.flatMap_nil, List.append_nil, List.append_nil]
    rfl
  | cons e es ih =>
    obtain ⟨he, hspares, hrest⟩ := h
    rw [show (m.moved ticks events).run (e :: es) = ((m.moved ticks events).after e).run es from rfl,
      List.flatMap_cons, List.flatMap_cons]
    cases e with
    | step =>
      have hm : m.Spares := hspares rfl
      rw [after_step_moved hm] at hrest ⊢
      rw [ih _ _ _ hrest, List.count_cons_self]
      rfl
    | tick n =>
      rw [after_tick_moved m ticks events he.1 he.2] at hrest ⊢
      rw [ih _ _ _ hrest, List.count_cons_of_ne (by simp), List.append_assoc]
      rfl
    | press keys =>
      rw [after_press_moved] at hrest ⊢
      rw [ih _ _ _ hrest, List.count_cons_of_ne (by simp), List.append_assoc]
      rfl
    | load rom => exact he.elim
    | shown => exact he.elim

/-- The order of ticks does not matter. -/
theorem moved_eq_of_perm (m : Machine) {ticks ticks' : List Int} (events : List KeyEvent)
    (hin : ∀ n ∈ ticks, 0 ≤ n ∧ n < tickLimit) (h : ticks.Perm ticks') :
    m.moved ticks events = m.moved ticks' events := by
  have hfold : ∀ timer, ticks.foldl countDown timer = ticks'.foldl countDown timer :=
    h.foldl_eq' fun a ha b hb timer =>
      countDown_comm timer (hin a ha).1 (hin a ha).2 (hin b hb).1 (hin b hb).2
  unfold moved
  rw [funext hfold]

theorem mem_ticks {es : List Event} (hes : ∀ e ∈ es, e.IsMovable) {n : Int}
    (hn : n ∈ es.flatMap Event.ticks) : 0 ≤ n ∧ n < tickLimit := by
  obtain ⟨e, he, hne⟩ := List.mem_flatMap.mp hn
  cases e with
  | tick k =>
    obtain rfl := List.mem_singleton.mp hne
    exact hes _ he
  | _ => cases hne

/-- The keys that move are those of the polls. -/
theorem flatMap_keys_filter (es : List Event) :
    (es.filter Event.isPress).flatMap Event.keys = es.flatMap Event.keys := by
  induction es with
  | nil => rfl
  | cons e es ih =>
    rw [List.filter_cons, List.flatMap_cons]
    cases e with
    | press keys => exact congrArg (keys ++ ·) ih
    | _ => exact ih

/-- Free runs of the same events, the polls in the same order, end in the same machine. -/
theorem FreeRun.run_eq_of_perm {es es' : List Event} (h : m.FreeRun es) (hperm : es.Perm es')
    (hpolls : es.filter Event.isPress = es'.filter Event.isPress) : m.run es = m.run es' := by
  obtain ⟨hes, hsteps⟩ := (freeRun_moved_iff m [] [] es).mp h
  have h' : m.FreeRun es' := (freeRun_moved_iff m [] [] es').mpr
    ⟨fun e he => hes e (hperm.mem_iff.mpr he), hperm.count_eq .step ▸ hsteps⟩
  have hticks : (es.flatMap Event.ticks).Perm (es'.flatMap Event.ticks) := hperm.flatMap_right _
  have hkeys : es.flatMap Event.keys = es'.flatMap Event.keys := by
    rw [← flatMap_keys_filter es, hpolls, flatMap_keys_filter]
  calc
    m.run es = (m.run (List.replicate (es.count .step) .step)).moved (es.flatMap Event.ticks)
        (es.flatMap Event.keys) := run_moved m [] [] h
    _ = (m.run (List.replicate (es'.count .step) .step)).moved (es'.flatMap Event.ticks)
        (es'.flatMap Event.keys) := by
      rw [hperm.count_eq, hkeys]
      exact moved_eq_of_perm _ _ (fun n hn => mem_ticks hes hn) hticks
    _ = m.run es' := (run_moved m [] [] h').symm

/-! ### Any order -/

/-- **Timers and keys are independent of the instructions that spare them.** A tick that is not too many
comes to the same before an instruction that has nothing to do with the timers and after it, and so does a
poll if the instruction does not look at the keys: the instruction is at fault alike, or both ways end in the
same machine. A tick and a poll come to the same in either order, also if the tick is too many. So runs in
which such neighbours have changed places end in the same machine; and if all instructions spare both, so
does every other order of the same ticks, polls and steps in which the polls keep theirs. -/
theorem run_reordered (m : Machine) :
    (∀ n, 0 ≤ n → n < tickLimit → m.SparesTimers →
      ∃ t, m.tick n = .ok t ∧
        match m.step with
        | .error f => t.step = .error f
        | .ok m' => ∃ t', m'.tick n = .ok t' ∧ t.step = .ok t') ∧
      (∀ events, m.SparesKeys →
        match m.step with
        | .error f => (m.press events).step = .error f
        | .ok m' => (m.press events).step = .ok (m'.press events)) ∧
      (∀ n events, (m.press events).tick n = (m.tick n).map (·.press events)) ∧
      (∀ es es', Reordered m es es' → m.run es = m.run es') ∧
      ∀ es es', m.FreeRun es → es.Perm es' →
        es.filter Event.isPress = es'.filter Event.isPress → m.run es = m.run es' := by
  refine ⟨fun n h0 hlt hm => ⟨_, m.tick_of_lt h0 hlt, ?_⟩, fun events hm => ?_, m.tick_press,
    fun es es' h => h.run_eq, fun es es' h hperm hpolls => h.run_eq_of_perm hperm hpolls⟩
  · have hstep : (m.ticked n).step = m.step.map (·.ticked n) := step_retimed hm (countDown · n)
    rw [hstep]
    cases m.step with
    | error f => rfl
    | ok m' => exact ⟨_, m'.tick_of_lt h0 hlt, rfl⟩
  · rw [step_press hm]
    cases m.step <;> rfl

/-- A machine that adds to a register twice, with a timer running. -/
def adding : Machine := { (start ⟨0, 0⟩).run [.load [0x71, 0x01, 0x81, 0x14]] with delay := 9 }

/-- Its additions, ticks and polls in two orders. -/
theorem run_reordered_adding :
    let es : List Event := [.tick 3, .press [⟨4, true⟩], .step, .tick 1, .press [⟨4, false⟩], .step]
    let es' : List Event := [.step, .press [⟨4, true⟩], .tick 1, .step, .tick 3, .press [⟨4, false⟩]]
    adding.run es = adding.run es' ∧ (adding.run es').delay = 5 := by
  intro es es'
  have hfree : adding.FreeRun es := by
    have hfirst : adding.Spares := by decide +kernel
    have hsecond : (adding.run (es.take 5)).Spares := by decide +kernel
    exact ⟨⟨by decide, by decide⟩, nofun, trivial, nofun, trivial, fun _ => hfirst,
      ⟨by decide, by decide⟩, nofun, trivial, nofun, trivial, fun _ => hsecond, trivial⟩
  have hperm : es.Perm es' := by decide
  have hdelay : (adding.run es').delay = 5 := by decide +kernel
  exact ⟨(run_reordered adding).2.2.2.2 es es' hfree hperm rfl, hdelay⟩

/-- **Two polls cannot change places**: a key that goes down and up is up, and one that goes up and down is
down. -/
theorem not_run_eq_of_polls :
    ∃ es es' : List Event, adding.FreeRun es ∧ es.Perm es' ∧ adding.run es ≠ adding.run es' := by
  refine ⟨[.press [⟨1, true⟩], .press [⟨1, false⟩]], [.press [⟨1, false⟩], .press [⟨1, true⟩]],
    ⟨trivial, nofun, trivial, nofun, trivial⟩, by decide, fun h => ?_⟩
  have hkey := congrArg (fun m => m.keypad.get 1) h
  revert hkey
  decide +kernel

end Chip8.Machine

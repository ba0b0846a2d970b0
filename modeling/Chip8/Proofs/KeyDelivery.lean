import Chip8.Machine.Basic
import Chip8.Proofs.Keypad
import Chip8.Window

/-!
# Keys on their way

The window and whoever else knows the queue put key events into it; the machine polls. A poll takes the
events out one after the other, while more may be put, until it finds none, and then moves the keys. This
is any mixture of such actions: what the polls have drained, what the running one has taken and what is
still queued are the events put, in order (`passed_run`), so after a poll every key is as the latest event
put for it says (`keys_delivered`).
-/

namespace Chip8

/-! ### The window -/

namespace Window

/-- The events that a window event stands for. -/
def posted : WindowEvent → List KeyEvent
  | .keyDown code => (key? code).toList.map (⟨·, true⟩)
  | .keyUp code => (key? code).toList.map (⟨·, false⟩)
  | .quit => []
  | .other => []

theorem key?_escape : key? escape = none := by decide

theorem pending_postKey (q : KeyQueue) (code : Int) (pressed : Bool) :
    (postKey q code pressed).pending = q.pending ++ (key? code).toList.map (⟨·, pressed⟩) := by
  unfold postKey
  cases key? code with
  | some key => rfl
  | none => exact (List.append_nil q.pending).symm

/-- A window event puts at the end of the queue what it stands for. -/
theorem pending_handle (q : KeyQueue) (e : WindowEvent) :
    (handle q e).2.pending = q.pending ++ posted e := by
  cases e with
  | quit => exact (List.append_nil q.pending).symm
  | other => exact (List.append_nil q.pending).symm
  | keyDown code =>
    by_cases h : code = escape
    · subst h
      exact (List.append_nil q.pending).symm
    · simp only [handle, if_neg h]
      exact pending_postKey q code true
  | keyUp code =>
    by_cases h : code = escape
    · subst h
      exact (List.append_nil q.pending).symm
    · simp only [handle, if_neg h]
      exact pending_postKey q code false

/-- Nothing is put for a request to quit, the escape key, a key that stands for none, or anything else. -/
inductive Silent : WindowEvent → Prop
  | quit : Silent .quit
  | other : Silent .other
  | escapeDown : Silent (.keyDown escape)
  | escapeUp : Silent (.keyUp escape)
  | unmappedDown {code : Int} (h : ∀ key, (code, key) ∉ keyMap) : Silent (.keyDown code)
  | unmappedUp {code : Int} (h : ∀ key, (code, key) ∉ keyMap) : Silent (.keyUp code)

theorem mem_keyMap_of_key? {code : Int} {key : Nibble} (h : key? code = some key) :
    (code, key) ∈ keyMap := by
  obtain ⟨before, behind, hmap, -⟩ := List.lookup_eq_some_iff.mp h
  rw [hmap]
  exact List.mem_append_right before (List.mem_cons_self ..)

/-- Every key of the keypad has one key of the keyboard. -/
theorem key?_eq_some_iff_of_mem {code : Int} {key : Nibble} (h : (code, key) ∈ keyMap) (c : Int) :
    key? c = some key ↔ c = code := by
  have hkey : ∀ p ∈ keyMap, key? p.1 = some p.2 := by decide
  have hcode : ∀ p ∈ keyMap, ∀ p' ∈ keyMap, p.2 = p'.2 → p.1 = p'.1 := by decide
  constructor
  · intro hc
    exact hcode (c, key) (mem_keyMap_of_key? hc) (code, key) h rfl
  · rintro rfl
    exact hkey (c, key) h

theorem exists_code (key : Nibble) : ∃ code, ∀ c, key? c = some key ↔ c = code := by
  have hall : ∀ k : Nibble, ∃ p ∈ keyMap, p.2 = k := by decide
  obtain ⟨⟨code, k⟩, hmem, rfl⟩ := hall key
  exact ⟨code, key?_eq_some_iff_of_mem hmem⟩

theorem posted_silent {e : WindowEvent} (h : Silent e) : posted e = [] := by
  have hnone : ∀ {code : Int}, (∀ key, (code, key) ∉ keyMap) → key? code = none := by
    intro code hcode
    cases hk : key? code with
    | none => rfl
    | some key => exact absurd (mem_keyMap_of_key? hk) (hcode key)
  cases h with
  | quit => rfl
  | other => rfl
  | escapeDown => simp only [posted, key?_escape]; rfl
  | escapeUp => simp only [posted, key?_escape]; rfl
  | unmappedDown h => simp only [posted, hnone h]; rfl
  | unmappedUp h => simp only [posted, hnone h]; rfl

/-- What is silent leaves the queue as it is. -/
theorem handle_silent (q : KeyQueue) (e : WindowEvent) (h : Silent e) : (handle q e).2 = q := by
  have hp := pending_handle q e
  rw [posted_silent h, List.append_nil] at hp
  exact congrArg KeyQueue.mk hp

end Window

/-! ### The queue -/

namespace KeyQueue

/-- One look into the queue: the oldest event, if there is one. -/
def next? (q : KeyQueue) : Option (KeyEvent × KeyQueue) :=
  match q.pending with
  | [] => none
  | e :: es => some (e, ⟨es⟩)

theorem toNat_lt_sixteen {key : Int} (h : 0 ≤ key ∧ key < 16) : key.toNat < 16 := by omega

/-- What a put of a number as a key puts. -/
def accepted (key : Int) (pressed : Bool) : List KeyEvent :=
  if h : 0 ≤ key ∧ key < 16 then [⟨⟨key.toNat, toNat_lt_sixteen h⟩, pressed⟩] else []

/-- A put of a key goes to the end of the queue, and any other number is refused. -/
theorem put_eq (q : KeyQueue) (key : Int) (pressed : Bool) :
    q.put key pressed =
      if 0 ≤ key ∧ key < 16 then .ok ⟨q.pending ++ accepted key pressed⟩ else .error ⟨key⟩ := by
  unfold put KeyEvent.ofInt accepted
  by_cases h : 0 ≤ key ∧ key < 16
  · rw [dif_pos h, if_pos h, dif_pos h]
    rfl
  · rw [dif_neg h, if_neg h]
    rfl

end KeyQueue

/-! ### Puts and polls in any order -/

/-- The queue, the machine that polls it, and what the polls have taken. -/
structure KeyDelivery where
  /-- The queue. -/
  queue : KeyQueue
  /-- What the running poll has taken so far. -/
  inHand : List KeyEvent
  /-- What each poll that has ended drained, the first one first. -/
  drained : List (List KeyEvent)
  /-- The machine. -/
  machine : Machine

namespace KeyDelivery

/-- What the window, others and the machine do. -/
inductive Action where
  /-- The window handles an event. -/
  | window (e : WindowEvent)
  /-- A number is put as a key. -/
  | put (key : Int) (pressed : Bool)
  /-- The running poll takes one event, if there is one. -/
  | take
  /-- The running poll drains what is left, and the keys it has taken are moved. -/
  | poll
deriving DecidableEq, Repr

/-- Before anything is put. -/
def start (m : Machine) : KeyDelivery := ⟨KeyQueue.empty, [], [], m⟩

/-- After an action. A put that is refused changes nothing. -/
def after (d : KeyDelivery) : Action → KeyDelivery
  | .window e => { d with queue := (Window.handle d.queue e).2 }
  | .put key pressed =>
    match d.queue.put key pressed with
    | .ok queue => { d with queue }
    | .error _ => d
  | .take =>
    match d.queue.next? with
    | some (e, queue) => { d with queue, inHand := d.inHand ++ [e] }
    | none => d
  | .poll =>
    let (rest, queue) := d.queue.drain
    { queue, inHand := [], drained := d.drained ++ [d.inHand ++ rest],
      machine := d.machine.press (d.inHand ++ rest) }

/-- After some actions, the first one first. -/
def run (d : KeyDelivery) (as : List Action) : KeyDelivery := as.foldl after d

/-- What an action puts. -/
def puts : Action → List KeyEvent
  | .window e => Window.posted e
  | .put key pressed => KeyQueue.accepted key pressed
  | .take => []
  | .poll => []

/-- All that has left the queue or is in it. -/
def passed (d : KeyDelivery) : List KeyEvent := d.drained.flatten ++ d.inHand ++ d.queue.pending

/-- An action adds what it puts at the end, and takes nothing out of the order. -/
theorem passed_after (d : KeyDelivery) (a : Action) : (d.after a).passed = d.passed ++ puts a := by
  unfold passed
  cases a with
  | window e =>
    simp only [after, puts, Window.pending_handle, List.append_assoc]
  | put key pressed =>
    simp only [after, puts, KeyQueue.put_eq]
    by_cases h : 0 ≤ key ∧ key < 16
    · simp only [if_pos h, List.append_assoc]
    · simp only [if_neg h, KeyQueue.accepted, dif_neg h, List.append_nil]
  | take =>
    simp only [after, puts, KeyQueue.next?]
    cases hq : d.queue.pending with
    | nil => simp [hq]
    | cons e es => simp
  | poll =>
    simp [after, puts, KeyQueue.drain, KeyQueue.empty]

/-- The keys of the machine are moved by what the polls have drained. -/
def Moved (m : Machine) (d : KeyDelivery) : Prop := d.machine = m.press d.drained.flatten

theorem Moved.after {m : Machine} {d : KeyDelivery} (h : Moved m d) (a : Action) : Moved m (d.after a) := by
  unfold Moved at h ⊢
  cases a with
  | window e => exact h
  | put key pressed =>
    simp only [KeyDelivery.after, KeyQueue.put_eq]
    by_cases hk : 0 ≤ key ∧ key < 16
    · simp only [if_pos hk, h]
    · simp only [if_neg hk, h]
  | take =>
    simp only [KeyDelivery.after]
    cases d.queue.next? <;> exact h
  | poll =>
    simp only [KeyDelivery.after, List.flatten_append, List.flatten_singleton, h, Machine.press,
      Keypad.apply_append]

/-- **Nothing is lost, doubled or moved.** -/
theorem passed_run (d : KeyDelivery) (as : List Action) :
    (d.run as).passed = d.passed ++ as.flatMap puts := by
  induction as generalizing d with
  | nil => exact (List.append_nil _).symm
  | cons a as ih =>
    rw [show d.run (a :: as) = (d.after a).run as from rfl, ih, passed_after, List.flatMap_cons,
      List.append_assoc]

theorem Moved.run {m : Machine} {d : KeyDelivery} (h : Moved m d) (as : List Action) :
    Moved m (d.run as) := by
  induction as generalizing d with
  | nil => exact h
  | cons a as ih => exact ih (h.after a)

/-- After a poll everything that was put has been drained, and every key is as the latest of it says. -/
theorem get_after_poll {m : Machine} {d : KeyDelivery} (h : Moved m d) (key : Nibble) :
    (d.after .poll).machine.keypad.get key =
      (Keypad.latest? d.passed key).getD (m.keypad.get key) := by
  have hall : (d.after .poll).drained.flatten = d.passed := by
    simp [passed, after, KeyQueue.drain]
  rw [h.after .poll, hall]
  exact Keypad.get_apply m.keypad d.passed key

/-- **Key events are neither lost, doubled nor reordered.** After any actions what was drained, what the
running poll has taken and what is queued are the events put, in the order of the puts; a poll then leaves
every key as the latest event put for it says, or as it was at the start if there was none. A number that
is no key is refused and nothing is put for it, nor for what is silent at the window; and each key of the
keypad has one key of the keyboard. -/
theorem keys_delivered (m : Machine) (as : List Action) :
    ((start m).run as).drained.flatten ++ ((start m).run as).inHand ++
        ((start m).run as).queue.pending = as.flatMap puts ∧
      (∀ key, (((start m).run as).after .poll).machine.keypad.get key =
        (Keypad.latest? (as.flatMap puts) key).getD (m.keypad.get key)) ∧
      (∀ (q : KeyQueue) (key : Int) (pressed : Bool), q.put key pressed =
        if 0 ≤ key ∧ key < 16 then .ok ⟨q.pending ++ KeyQueue.accepted key pressed⟩
        else .error ⟨key⟩) ∧
      (∀ (q : KeyQueue) (e : WindowEvent), Window.Silent e → (Window.handle q e).2 = q) ∧
      ∀ key, ∃ code, ∀ c, Window.key? c = some key ↔ c = code := by
  have hpassed := passed_run (start m) as
  refine ⟨hpassed, fun key => ?_, KeyQueue.put_eq, Window.handle_silent, Window.exists_code⟩
  have hmoved : Moved m (start m) := rfl
  rw [get_after_poll (hmoved.run as) key, hpassed]
  rfl

/-- The letter of key 4 goes down and up, a poll begins in between, and three actions put nothing. -/
def tapped : List Action :=
  [.window (.keyDown 113), .put 16 true, .window (.keyDown Window.escape), .take, .window .quit,
    .window (.keyUp 113), .put 7 true]

/-- When the poll that began during `tapped` has ended, key 4 is up again and key 7 is down. -/
theorem keys_delivered_tapped :
    (((start (Machine.start ⟨0, 0⟩)).run tapped).after .poll).machine.keypad.get 4 = false ∧
      (((start (Machine.start ⟨0, 0⟩)).run tapped).after .poll).machine.keypad.get 7 = true ∧
      (Window.handle ((start (Machine.start ⟨0, 0⟩)).run tapped).queue (.keyDown Window.escape)).2 =
        ((start (Machine.start ⟨0, 0⟩)).run tapped).queue := by
  obtain ⟨-, hkeys, -, hsilent, -⟩ := keys_delivered (Machine.start ⟨0, 0⟩) tapped
  have hup : Keypad.latest? (tapped.flatMap puts) 4 = some false := by decide
  have hdown : Keypad.latest? (tapped.flatMap puts) 7 = some true := by decide
  refine ⟨?_, ?_, hsilent _ _ .escapeDown⟩
  · rw [hkeys 4, hup]
    rfl
  · rw [hkeys 7, hdown]
    rfl

end KeyDelivery

end Chip8

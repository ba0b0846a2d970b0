import Chip8.Fields

/-!
# The keypad

Sixteen keys, each down or up. What happens to them arrives as events in a queue, and the machine
takes all pending events at once, the oldest first.
-/

namespace Chip8

/-- Which keys are down. -/
abbrev Keypad := Vector Bool 16

/-- A key going down or up. -/
structure KeyEvent where
  /-- The key. -/
  key : Nibble
  /-- Whether it goes down. -/
  pressed : Bool
deriving DecidableEq, Repr

/-- A number that is no key. -/
structure BadKey where
  /-- The number. -/
  key : Int
deriving DecidableEq, Repr

/-- The report of a number that is no key. -/
def BadKey.message (e : BadKey) : String := "Key index must be in 0x0-0xF, got " ++ toString e.key

/-- The event for a key given as a number. -/
def KeyEvent.ofInt (key : Int) (pressed : Bool) : Except BadKey KeyEvent :=
  if h : 0 ≤ key ∧ key < 16 then .ok ⟨⟨key.toNat, by omega⟩, pressed⟩ else .error ⟨key⟩

namespace Keypad

/-- The keypad with every key up. -/
def released : Keypad := Vector.replicate 16 false

/-- The keypad after one event. -/
def press (k : Keypad) (e : KeyEvent) : Keypad := k.set e.key e.pressed

/-- The keypad after events, the oldest first. -/
def apply (k : Keypad) (events : List KeyEvent) : Keypad := events.foldl press k

/-- The lowest key that is down. -/
def lowest? (k : Keypad) : Option Nibble := (List.finRange 16).find? fun i => k[i]

end Keypad

/-- Events on their way to the machine, the oldest first. -/
structure KeyQueue where
  /-- The events that nobody has taken. -/
  pending : List KeyEvent
deriving DecidableEq, Repr

namespace KeyQueue

/-- The queue with nothing in it. -/
def empty : KeyQueue := ⟨[]⟩

/-- Puts an event at the end. -/
def post (q : KeyQueue) (e : KeyEvent) : KeyQueue := ⟨q.pending ++ [e]⟩

/-- Puts an event for a key given as a number; a number that is no key queues nothing. -/
def put (q : KeyQueue) (key : Int) (pressed : Bool) : Except BadKey KeyQueue :=
  (KeyEvent.ofInt key pressed).map q.post

/-- Takes every pending event. -/
def drain (q : KeyQueue) : List KeyEvent × KeyQueue := (q.pending, empty)

end KeyQueue

end Chip8

import Chip8.Keypad

/-!
# The window

What the window tells the program: that the user asks to quit, or that a key of the keyboard went
down or up. The keypad lies over the left of the keyboard, row by row:

    1 2 3 C        1 2 3 4
    4 5 6 D   on   Q W E R
    7 8 9 E        A S D F
    A 0 B F        Z X C V
-/

namespace Chip8

/-- What the window tells the program. -/
inductive WindowEvent where
  /-- The user closes the window. -/
  | quit
  /-- A key of the keyboard goes down. -/
  | keyDown (code : Int)
  /-- A key of the keyboard goes up. -/
  | keyUp (code : Int)
  /-- Something else. -/
  | other
deriving DecidableEq, Repr

namespace Window

/-- The code of the escape key. -/
def escape : Int := 27

/-- The keys of the keyboard that stand for keys of the keypad, as the letters on them. -/
def keys : List (Char × Nat) :=
  [('1', 0x1), ('2', 0x2), ('3', 0x3), ('4', 0xC),
   ('q', 0x4), ('w', 0x5), ('e', 0x6), ('r', 0xD),
   ('a', 0x7), ('s', 0x8), ('d', 0x9), ('f', 0xE),
   ('z', 0xA), ('x', 0x0), ('c', 0xB), ('v', 0xF)]

/-- The codes of the keyboard that stand for keys of the keypad. -/
def keyMap : List (Int × Nibble) := keys.map fun (c, key) => (c.toNat, Nibble.ofNat key)

/-- The key of the keypad for a code. -/
def key? (code : Int) : Option Nibble := keyMap.lookup code

/-- Queues the event of a key of the keyboard, if it stands for one of the keypad. -/
def postKey (q : KeyQueue) (code : Int) (pressed : Bool) : KeyQueue :=
  match key? code with
  | some key => q.post ⟨key, pressed⟩
  | none => q

/-- Handles an event: whether the program goes on, and the queue afterwards. -/
def handle (q : KeyQueue) : WindowEvent → Bool × KeyQueue
  | .quit => (false, q)
  | .keyDown code => if code = escape then (false, q) else (true, postKey q code true)
  | .keyUp code => if code = escape then (false, q) else (true, postKey q code false)
  | .other => (true, q)

/-- Handles events: for each whether the program goes on, and the queue afterwards. -/
def handleAll (q : KeyQueue) : List WindowEvent → List Bool × KeyQueue
  | [] => ([], q)
  | e :: es =>
    let (goesOn, q) := handle q e
    let (rest, q) := handleAll q es
    (goesOn :: rest, q)

end Window

end Chip8

import Chip8.CallStack
import Chip8.Display
import Chip8.Keypad
import Chip8.Memory
import Chip8.Random

/-!
# The machine

The state of the machine, the state it starts in, and what happens to it from outside: a program
is loaded, the timers count down, keys go down and up.
-/

namespace Chip8

/-- The state of the machine. -/
structure Machine where
  /-- The key of the random generator. -/
  rng : Random.Block
  /-- The memory. -/
  memory : Memory
  /-- Where the next instruction is. -/
  pc : UInt16
  /-- The framebuffer. -/
  display : Display
  /-- Whether the framebuffer was written since it was last shown. -/
  dirty : Bool
  /-- The return addresses. -/
  stack : CallStack
  /-- The delay timer. -/
  delay : UInt8
  /-- The sound timer. -/
  sound : UInt8
  /-- The keys. -/
  keypad : Keypad
  /-- The sixteen registers, the last being the flag. -/
  v : Vector UInt8 16
  /-- The index. -/
  i : UInt16
deriving DecidableEq

namespace Machine

/-- How many bytes of memory there are. -/
def memorySize : Nat := 4096

/-- Where a program is loaded and starts. -/
def programStart : Nat := 0x200

/-- The machine before a program is loaded. -/
def start (rng : Random.Block) : Machine where
  rng := rng
  memory := Memory.blank
  pc := 0x200
  display := Display.blank
  dirty := false
  stack := CallStack.empty
  delay := 0
  sound := 0
  keypad := Keypad.released
  v := Vector.replicate 16 0
  i := 0

/-- A program that does not fit. -/
structure RomTooLarge where
  /-- How many bytes it has. -/
  size : Nat
deriving DecidableEq, Repr

/-- The report of a program that does not fit. -/
def RomTooLarge.message (e : RomTooLarge) : String :=
  "ROM is " ++ toString e.size ++ " bytes, at most " ++ toString (memorySize - programStart)
    ++ " fit in memory"

/-- Loads a program. -/
def loadRom (m : Machine) (rom : List UInt8) : Except RomTooLarge Machine :=
  if programStart + rom.length > memorySize then .error ⟨rom.length⟩
  else .ok { m with memory := m.memory.store programStart rom }

/-- A number of ticks outside 32 signed bits. -/
structure TooManyTicks where
  /-- The number. -/
  ticks : Int
deriving DecidableEq, Repr

/-- A timer after some ticks: it stops at zero, and the difference is taken in 32 signed bits. -/
def countDown (timer : UInt8) (ticks : Int) : UInt8 :=
  UInt8.ofNat (Int.bmod (timer.toNat - ticks) 0x100000000).toNat

/-- Counts both timers down. -/
def tick (m : Machine) (ticks : Int) : Except TooManyTicks Machine :=
  if -0x80000000 ≤ ticks ∧ ticks < 0x80000000 then
    .ok { m with delay := countDown m.delay ticks, sound := countDown m.sound ticks }
  else .error ⟨ticks⟩

/-- Moves keys. -/
def press (m : Machine) (events : List KeyEvent) : Machine :=
  { m with keypad := m.keypad.apply events }

end Machine

end Chip8

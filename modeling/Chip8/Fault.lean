import Chip8.Numeral

/-!
# Faults

What ends a program. Each fault names the address of the instruction at fault.
-/

namespace Chip8

/-- The cause that ends a program. -/
inductive Fault where
  /-- A word that names no instruction. -/
  | unknownOpcode (word address : Int)
  /-- A call with every stack slot in use. -/
  | stackOverflow (address : Int)
  /-- A return with no stack slot in use. -/
  | stackUnderflow (address : Int)
  /-- The instruction at `pc` reaches `address`, past the end of memory. -/
  | memoryAccess (address pc : Int)
deriving DecidableEq, Repr

namespace Fault

/-- What went wrong with the stack, and at which instruction. -/
def stackMessage (what : String) (address : Int) : String :=
  what ++ " at address 0x" ++ hex 3 address

/-- The report of a fault. -/
def message : Fault → String
  | unknownOpcode word address =>
    "Unknown opcode 0x" ++ hex 4 word ++ " at address 0x" ++ hex 3 address
  | stackOverflow address =>
    stackMessage "Stack overflow (CALL with 16 return addresses pushed)" address
  | stackUnderflow address => stackMessage "Stack underflow (RET with empty stack)" address
  | memoryAccess address pc =>
    "Memory access out of range at 0x" ++ hex 3 address ++ " (instruction at 0x" ++ hex 3 pc ++ ")"

end Fault

end Chip8

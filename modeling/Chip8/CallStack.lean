/-!
# The call stack

Sixteen slots for return addresses and a pointer to the first free one. A return address is kept
in 12 bits. Nothing here looks at the bounds: a push past the end writes nothing, a pop past the
end reads the last slot, and the pointer wraps. `toList` is the stack that a program sees.
-/

namespace Chip8

/-- The slots and the pointer. -/
structure CallStack where
  /-- The slots, the outermost return address first. -/
  slots : Vector UInt16 16
  /-- The number of slots in use. -/
  pointer : UInt8
deriving DecidableEq, Repr

namespace CallStack

/-- How many return addresses fit. -/
def capacity : Nat := 16

/-- The stack of a machine that has called nothing. -/
def empty : CallStack := ⟨Vector.replicate 16 0, 0⟩

/-- The return addresses in use, the outermost first. -/
def toList (s : CallStack) : List UInt16 := s.slots.toList.take s.pointer.toNat

/-- Keeps the low 12 bits of an address in the next free slot. -/
def push (s : CallStack) (address : UInt16) : CallStack :=
  { slots := s.slots.setIfInBounds s.pointer.toNat (address &&& 0x0FFF)
    pointer := s.pointer + 1 }

/-- The word in a slot, the last slot past the end. -/
def slot (s : CallStack) (k : Nat) : UInt16 := s.slots[min k 15]

/-- Frees the top slot, leaving zero in it, and gives what it held. -/
def pop (s : CallStack) : CallStack × UInt16 :=
  let top := s.pointer - 1
  ({ slots := s.slots.setIfInBounds top.toNat 0, pointer := top }, s.slot top.toNat)

end CallStack

end Chip8

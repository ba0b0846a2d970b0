/-!
# Memory

The machine's 4096 bytes. A read past the end gives the last byte and a write past the end is
dropped; the checks before an instruction keep both from happening in a running program.
-/

namespace Chip8

/-- The bytes of the machine. -/
abbrev Memory := Vector UInt8 4096

namespace Memory

/-- The byte at an address, the last byte past the end. -/
def read (m : Memory) (a : Nat) : UInt8 := m[min a 4095]

/-- The bytes from an address on. -/
def block (m : Memory) (a count : Nat) : List UInt8 :=
  (List.range count).map fun k => m.read (a + k)

/-- Writes bytes from an address on, dropping those past the end. -/
def store (m : Memory) (a : Nat) : List UInt8 → Memory
  | [] => m
  | b :: bs => store (m.setIfInBounds a b) (a + 1) bs

/-- Where the glyphs of the sixteen digits are. -/
def glyphStart : Nat := 0

/-- How many rows, hence bytes, a glyph has. -/
def glyphSize : Nat := 5

/-- The glyphs of the sixteen digits. -/
def glyphs : List UInt8 :=
  [0xF0, 0x90, 0x90, 0x90, 0xF0,
   0x20, 0x60, 0x20, 0x20, 0x70,
   0xF0, 0x10, 0xF0, 0x80, 0xF0,
   0xF0, 0x10, 0xF0, 0x10, 0xF0,
   0x90, 0x90, 0xF0, 0x10, 0x10,
   0xF0, 0x80, 0xF0, 0x10, 0xF0,
   0xF0, 0x80, 0xF0, 0x90, 0xF0,
   0xF0, 0x10, 0x20, 0x40, 0x40,
   0xF0, 0x90, 0xF0, 0x90, 0xF0,
   0xF0, 0x90, 0xF0, 0x10, 0xF0,
   0xF0, 0x90, 0xF0, 0x90, 0x90,
   0xE0, 0x90, 0xE0, 0x90, 0xE0,
   0xF0, 0x80, 0x80, 0x80, 0xF0,
   0xE0, 0x90, 0x90, 0x90, 0xE0,
   0xF0, 0x80, 0xF0, 0x80, 0xF0,
   0xF0, 0x80, 0xF0, 0x80, 0x80]

/-- Memory before a program is loaded: the glyphs, else zero. -/
def blank : Memory := store (Vector.replicate 4096 0) glyphStart glyphs

end Memory

end Chip8

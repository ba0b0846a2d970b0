/-!
# The random generator

A counter-based generator: the state is a key of two 32-bit words, and the Threefry block function
of 20 rounds turns a key and a counter into two fresh words. A draw splits the key in two, goes on
with the first half and takes its byte from the second.
-/

namespace Chip8.Random

/-- Two 32-bit words: a key, a counter or a block of output. -/
structure Block where
  /-- The first word. -/
  first : UInt32
  /-- The second word. -/
  second : UInt32
deriving DecidableEq, Repr

/-- Turns a word left. -/
def rotate (x r : UInt32) : UInt32 := (x <<< r) ||| (x >>> (32 - r))

/-- One round: the second word is added to the first, turned and mixed with the sum. -/
def mix (b : Block) (r : UInt32) : Block :=
  let sum := b.first + b.second
  ⟨sum, rotate b.second r ^^^ sum⟩

/-- Four rounds and an injection of two words of the key schedule, the second with its count. -/
def pass (b : Block) (turns : List UInt32) (k₁ k₂ count : UInt32) : Block :=
  let c := turns.foldl mix b
  ⟨c.first + k₁, c.second + k₂ + count⟩

/-- The turns of the passes with an even number. -/
def evenTurns : List UInt32 := [13, 15, 26, 6]

/-- The turns of the passes with an odd number. -/
def oddTurns : List UInt32 := [17, 29, 16, 24]

/-- The block function: the counter, encrypted under the key. -/
def threefry (key counter : Block) : Block :=
  let k₀ := key.first
  let k₁ := key.second
  let k₂ := k₀ ^^^ k₁ ^^^ 0x1BD11BDA
  let b := Block.mk (counter.first + k₀) (counter.second + k₁)
  let b := pass b evenTurns k₁ k₂ 1
  let b := pass b oddTurns k₂ k₀ 2
  let b := pass b evenTurns k₀ k₁ 3
  let b := pass b oddTurns k₁ k₂ 4
  pass b evenTurns k₂ k₀ 5

/-- The key after a draw. -/
def next (key : Block) : Block := threefry key ⟨0, 0⟩

/-- The byte of a draw. -/
def byte (key : Block) : UInt8 :=
  let draw := threefry key ⟨0, 1⟩
  let low := threefry draw ⟨0, 1⟩
  let word := threefry low ⟨0, 0⟩
  (word.first ^^^ word.second).toUInt8

/-- A seed outside 64 signed bits. -/
structure BadSeed where
  /-- The seed. -/
  seed : Int
deriving DecidableEq, Repr

/-- The key of a seed: its low 32 bits. -/
def ofSeed (seed : Int) : Except BadSeed Block :=
  if -0x8000000000000000 ≤ seed ∧ seed < 0x8000000000000000 then
    .ok ⟨0, UInt32.ofNat (seed % 0x100000000).toNat⟩
  else .error ⟨seed⟩

end Chip8.Random

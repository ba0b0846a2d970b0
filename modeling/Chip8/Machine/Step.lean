import Chip8.Fault
import Chip8.Instruction
import Chip8.Machine.Basic

/-!
# Running instructions

What each instruction does to the machine, the checks that come before it, and the step from one
instruction to the next. When an instruction is performed the program counter is already past it,
so a skip steps over one more word. A drawing or a block transfer whose bytes would run past the
end of memory is refused before it is performed. Performed, a drawing reads fifteen bytes and a block
transfer sixteen, whatever their size; the bytes past their size are masked out.
-/

namespace Chip8.Machine

open Instruction (decode?)

/-- Steps over the next instruction if a condition holds. -/
def skipWhen (m : Machine) (c : Bool) : Machine := { m with pc := m.pc + if c then 2 else 0 }

/-- What a register holds. -/
def register (m : Machine) (x : Nibble) : UInt8 := m.v.get x

/-- Loads a register. -/
def load (m : Machine) (x : Nibble) (b : UInt8) : Machine :=
  { m with v := m.v.set x b (Nibble.lt x) }

/-- The flag register. -/
def flagRegister : Nibble := Nibble.ofNat 15

/-- Whether the key that a register names is down. -/
def keyDown (m : Machine) (x : Nibble) : Bool := m.keypad.get (Nibble.ofNat (m.register x).toNat)

/-- The three decimal digits of a byte. -/
def decimalDigits (b : UInt8) : List UInt8 := [b / 100, b / 10 % 10, b % 10]

/-- The sixteen bytes from the index on, with the registers up to `x` in place of the first ones. -/
def registersOver (m : Machine) (x : Nibble) : List UInt8 :=
  (List.finRange 16).map fun k =>
    if k.val ≤ x.val then m.register k else m.memory.read (m.i.toNat + k.val)

/-- The machine after an instruction. -/
def perform (m : Machine) : Instruction → Machine
  | .clear => { m with display := Display.blank, dirty := true }
  | .ret =>
    let (stack, top) := m.stack.pop
    { m with stack, pc := top }
  | .jump target => { m with pc := UInt16.ofNat target }
  | .call target => { m with stack := m.stack.push m.pc, pc := UInt16.ofNat target }
  | .skipIfByte x b => m.skipWhen (m.register x == b)
  | .skipUnlessByte x b => m.skipWhen (m.register x != b)
  | .skipIfSame x y => m.skipWhen (m.register x == m.register y)
  | .loadByte x b => m.load x b
  | .addByte x b => m.load x (m.register x + b)
  | .alu op x y =>
    let (result, flag) := op.apply (m.register x) (m.register y) (m.register flagRegister)
    (m.load flagRegister flag).load x result
  | .skipUnlessSame x y => m.skipWhen (m.register x != m.register y)
  | .loadIndex a => { m with i := UInt16.ofNat a }
  | .jumpOffset target =>
    { m with pc := UInt16.ofNat (target.val + (m.register (Nibble.ofNat 0)).toNat) }
  | .random x mask => { m.load x (Random.byte m.rng &&& mask) with rng := Random.next m.rng }
  | .draw x y n =>
    let originX := (m.register x).toNat
    let originY := (m.register y).toNat
    let sprite := m.memory.block m.i.toNat Display.maxSpriteRows
    { m.load flagRegister (AluOp.flag (m.display.collides originX originY n sprite)) with
      display := m.display.draw originX originY n sprite
      dirty := true }
  | .skipIfKey x => m.skipWhen (m.keyDown x)
  | .skipUnlessKey x => m.skipWhen !(m.keyDown x)
  | .readDelay x => m.load x m.delay
  | .waitKey x =>
    match m.keypad.lowest? with
    | some key => m.load x (UInt8.ofNat key)
    | none => { m with pc := m.pc - 2 }
  | .setDelay x => { m with delay := m.register x }
  | .setSound x => { m with sound := m.register x }
  | .addIndex x =>
    let sum := m.i.toNat + (m.register x).toNat
    { m.load flagRegister (AluOp.flag (decide (0x0FFF < sum))) with i := UInt16.ofNat sum }
  | .glyph x =>
    { m with i := UInt16.ofNat (Memory.glyphStart + (m.register x).toNat * Memory.glyphSize) }
  | .digits x => { m with memory := m.memory.store m.i.toNat (decimalDigits (m.register x)) }
  | .store x => { m with memory := m.memory.store m.i.toNat (m.registersOver x) }
  | .load x =>
    { m with
      v := Vector.ofFn fun k =>
        if k.val ≤ x.val then m.memory.read (m.i.toNat + k.val) else m.register k }

/-- Performs a word without any check. A word that names no instruction changes nothing, but every
`Exnn` other than `ExA1` skips if the key is down. -/
def dispatch (m : Machine) (w : UInt16) : Machine :=
  match decode? w.toNat with
  | some i => m.perform i
  | none =>
    let f := Fields.ofInt w.toNat
    if f.category.val = 0xE then m.perform (.skipIfKey f.x) else m

/-- The instruction a word names, if it can be performed safely; `address` is where it is. -/
def check (m : Machine) (w address : Int) : Except Fault Instruction :=
  match decode? w with
  | none => .error (.unknownOpcode w address)
  | some .ret => if m.stack.pointer = 0 then .error (.stackUnderflow address) else .ok .ret
  | some (.call a) =>
    if CallStack.capacity ≤ m.stack.pointer.toNat then .error (.stackOverflow address)
    else .ok (.call a)
  | some i =>
    if i.span ≠ 0 ∧ memorySize < m.i.toNat + i.span then
      .error (.memoryAccess (m.i.toNat + i.span - 1) address)
    else .ok i

/-- Why a word given from outside cannot be performed. -/
inductive Refusal where
  /-- A fault. -/
  | fault (f : Fault)
  /-- The word names an instruction but does not fit in 16 bits. -/
  | tooWide (word : Int)
deriving DecidableEq, Repr

/-- Performs a word given from outside, as if it had been at `address`. -/
def execute (m : Machine) (w address : Int) : Except Refusal Machine :=
  match m.check w address with
  | .error f => .error (.fault f)
  | .ok i => if 0 ≤ w ∧ w < 0x10000 then .ok (m.perform i) else .error (.tooWide w)

/-- The word at the program counter, high byte first. -/
def word (m : Machine) : UInt16 :=
  (m.memory.read m.pc.toNat).toUInt16 <<< 8 ||| (m.memory.read (m.pc + 1).toNat).toUInt16

/-- Takes the word at the program counter and moves past it, without any check. -/
def fetch (m : Machine) : Machine × UInt16 := ({ m with pc := m.pc + 2 }, m.word)

/-- Fetches and performs one instruction. -/
def step (m : Machine) : Except Fault Machine :=
  let address := m.pc.toNat
  if memorySize ≤ address + 1 then .error (.memoryAccess (address + 1) address)
  else
    let (fetched, w) := m.fetch
    match fetched.check w.toNat address with
    | .error f => .error f
    | .ok i => .ok (fetched.perform i)

end Chip8.Machine

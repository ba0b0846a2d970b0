/-!
# The display

A framebuffer of 64 columns and 32 rows, kept row by row. A cell is lit if it is not zero. Drawing
flips the cells under the set bits of a sprite; a sprite that leaves the screen on one side comes
back on the other, each axis by itself. A drawing writes the whole window of 15 rows and 8 columns
at the origin, so that every cell there is zero or one afterwards.
-/

namespace Chip8

/-- The cells, row by row. -/
abbrev Display := Vector UInt8 2048

namespace Display

/-- How many cells a row has. -/
def columns : Nat := 64

/-- How many rows there are. -/
def rows : Nat := 32

/-- How many rows the tallest sprite has. -/
def maxSpriteRows : Nat := 15

/-- The display with every cell off. -/
def blank : Display := Vector.replicate 2048 0

/-- Whether a cell is lit. -/
def lit (d : Display) (k : Fin 2048) : Bool := d[k] != 0

/-- The cell in a column and a row, both wrapping around. -/
def cell (column row : Nat) : Fin 2048 :=
  ⟨column % 64 + row % 32 * 64, by omega⟩

/-- The bit of a sprite in a row and a column, the leftmost column being the highest bit. A row
past the height of the sprite has no bits, whatever byte is there. -/
def spriteBit (sprite : List UInt8) (height row column : Nat) : Bool :=
  decide (row < height) && (sprite.getD row 0).toNat.testBit (7 - column)

/-- How far right of the origin a cell is, going around the screen. -/
def columnFrom (originX : Nat) (k : Fin 2048) : Nat := (k.val % 64 + 64 - originX % 64) % 64

/-- How far below the origin a cell is, going around the screen. -/
def rowFrom (originY : Nat) (k : Fin 2048) : Nat := (k.val / 64 + 32 - originY % 32) % 32

/-- The display after drawing a sprite at an origin. -/
def draw (d : Display) (originX originY height : Nat) (sprite : List UInt8) : Display :=
  Vector.ofFn fun k =>
    let column := columnFrom originX k
    let row := rowFrom originY k
    if column < 8 && row < maxSpriteRows then
      if d.lit k != spriteBit sprite height row column then 1 else 0
    else d[k]

/-- Whether a sprite at an origin has a set bit on a lit cell. -/
def collides (d : Display) (originX originY height : Nat) (sprite : List UInt8) : Bool :=
  (List.range maxSpriteRows).any fun row =>
    (List.range 8).any fun column =>
      spriteBit sprite height row column && d.lit (cell (originX + column) (originY + row))

end Display

end Chip8

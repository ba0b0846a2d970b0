import Chip8.Display

/-!
# Cells of the display

A display is binary when every cell is zero or one; the blank display is, and a drawing keeps it so.
What a drawing does depends on the sprite only through its rows up to the height: bytes past them are
read, but masked out.
-/

namespace Chip8.Display

/-! ### Zeros and ones -/

/-- Every cell is zero or one. -/
def Binary (d : Display) : Prop := ∀ k : Fin 2048, d.get k = 0 ∨ d.get k = 1

theorem binary_blank : Binary blank := fun k => .inl (Vector.getElem_replicate k.isLt)

theorem Binary.draw {d : Display} (h : d.Binary) (x y height : Nat) (sprite : List UInt8) :
    Binary (d.draw x y height sprite) := by
  intro k
  show (d.draw x y height sprite)[k.val] = 0 ∨ (d.draw x y height sprite)[k.val] = 1
  simp only [Display.draw, Vector.getElem_ofFn]
  split
  · split
    · exact .inr rfl
    · exact .inl rfl
  · exact h k

/-! ### Rows past the height -/

/-- The sprites have the same bytes in the rows up to the height. -/
def SameRows (height : Nat) (s s' : List UInt8) : Prop := ∀ row < height, s[row]? = s'[row]?

theorem spriteBit_congr {height : Nat} {s s' : List UInt8} (h : SameRows height s s')
    (row column : Nat) : spriteBit s height row column = spriteBit s' height row column := by
  unfold spriteBit
  by_cases hrow : row < height
  · rw [List.getD_eq_getElem?_getD, List.getD_eq_getElem?_getD, h row hrow]
  · simp [hrow]

theorem draw_congr {height : Nat} {s s' : List UInt8} (h : SameRows height s s') (d : Display)
    (x y : Nat) : d.draw x y height s = d.draw x y height s' := by
  simp only [draw, spriteBit_congr h]

theorem collides_congr {height : Nat} {s s' : List UInt8} (h : SameRows height s s') (d : Display)
    (x y : Nat) : d.collides x y height s = d.collides x y height s' := by
  simp only [collides, spriteBit_congr h]

end Chip8.Display

import Chip8.Proofs.Display
import Mathlib.Data.List.Nodup
import Mathlib.Tactic.SplitIfs

/-!
# The pixels of a sprite

A sprite at an origin has its set bits over some cells of the display, its pixels. Each axis wraps around
by itself, but no two bits come to lie on one cell, since a sprite has fewer columns and rows than the
display: from the origin, a cell is in one column and one row (`cell_from`), and these tell whether it is a
pixel (`mem_pixels_iff`).

A drawing is written for the whole window of 15 rows and 8 columns. On a binary display all that comes of
it is that the pixels are flipped (`draw_eq_flip`), and it collides when a pixel is lit
(`collides_eq_any`). To flip the same cells twice is to leave them, and flips can be made in any order.
-/

namespace Chip8.Display

/-! ### Cells around an origin -/

theorem columnFrom_cell (x y row : Nat) {column : Nat} (h : column < 64) :
    columnFrom x (cell (x + column) (y + row)) = column := by
  simp only [columnFrom, cell]
  omega

theorem rowFrom_cell (x y column : Nat) {row : Nat} (h : row < 32) :
    rowFrom y (cell (x + column) (y + row)) = row := by
  simp only [rowFrom, cell]
  omega

/-- A cell is where its column and its row from an origin say. -/
theorem cell_from (x y : Nat) (k : Fin 2048) : cell (x + columnFrom x k) (y + rowFrom y k) = k := by
  refine Fin.ext ?_
  simp only [cell, columnFrom, rowFrom]
  omega

/-! ### Pixels -/

/-- The cells under the set bits of a sprite, from the top row to the bottom and from the left column to
the right. -/
def pixels (x y height : Nat) (bit : Nat → Nat → Bool) : List (Fin 2048) :=
  (List.range height).flatMap fun row =>
    ((List.range 8).filter (bit row)).map fun column => cell (x + column) (y + row)

theorem mem_pixels {x y height : Nat} {bit : Nat → Nat → Bool} {k : Fin 2048} :
    k ∈ pixels x y height bit ↔
      ∃ row < height, ∃ column < 8, bit row column = true ∧ cell (x + column) (y + row) = k := by
  simp only [pixels, List.mem_flatMap, List.mem_map, List.mem_filter, List.mem_range]
  constructor
  · rintro ⟨row, hrow, column, ⟨hcolumn, hbit⟩, hk⟩
    exact ⟨row, hrow, column, hcolumn, hbit, hk⟩
  · rintro ⟨row, hrow, column, hcolumn, hbit, hk⟩
    exact ⟨row, hrow, column, ⟨hcolumn, hbit⟩, hk⟩

/-- **What makes a cell a pixel**: the bit at its column and its row from the origin. -/
theorem mem_pixels_iff {x y height : Nat} (h : height ≤ 32) (bit : Nat → Nat → Bool) {k : Fin 2048} :
    k ∈ pixels x y height bit ↔
      columnFrom x k < 8 ∧ rowFrom y k < height ∧ bit (rowFrom y k) (columnFrom x k) = true := by
  rw [mem_pixels]
  constructor
  · rintro ⟨row, hrow, column, hcolumn, hbit, rfl⟩
    rw [columnFrom_cell x y row (by omega), rowFrom_cell x y column (by omega)]
    exact ⟨hcolumn, hrow, hbit⟩
  · rintro ⟨hcolumn, hrow, hbit⟩
    exact ⟨_, hrow, _, hcolumn, hbit, cell_from x y k⟩

/-- No two bits of a sprite are over one cell. -/
theorem nodup_pixels (x y : Nat) {height : Nat} (h : height ≤ 32) (bit : Nat → Nat → Bool) :
    (pixels x y height bit).Nodup := by
  refine List.nodup_flatMap.mpr ⟨fun row _ => ?_, ?_⟩
  · refine List.Nodup.map_on ?_ (List.nodup_range.filter _)
    intro c hc c' hc' he
    simp only [List.mem_filter, List.mem_range] at hc hc'
    rw [← columnFrom_cell x y row (show c < 64 by omega), he, columnFrom_cell x y row (by omega)]
  · refine List.Pairwise.imp_of_mem ?_ List.nodup_range
    intro row row' hrow hrow' hne k hk hk'
    simp only [List.mem_map, List.mem_range] at hk hk' hrow hrow'
    obtain ⟨c, -, rfl⟩ := hk
    obtain ⟨c', -, he⟩ := hk'
    refine hne ?_
    rw [← rowFrom_cell x y c (show row < 32 by omega), ← he, rowFrom_cell x y c' (by omega)]

theorem pixels_congr {height : Nat} {bit bit' : Nat → Nat → Bool}
    (h : ∀ row < height, ∀ column, bit row column = bit' row column) (x y : Nat) :
    pixels x y height bit = pixels x y height bit' := by
  refine List.flatMap_congr fun row hrow => ?_
  rw [funext (h row (List.mem_range.mp hrow))]

/-! ### Flipping -/

/-- A cell is an index of the display. -/
theorem cell_lt (k : Fin 2048) : k.val < 2048 := k.isLt

/-- The display with one cell flipped. -/
def flipCell (d : Display) (k : Fin 2048) : Display := d.set k (d.get k ^^^ 1) (cell_lt k)

theorem get_flipCell (d : Display) (k j : Fin 2048) :
    (d.flipCell k).get j = if j = k then d.get j ^^^ 1 else d.get j := by
  show (d.set k (d.get k ^^^ 1) (cell_lt k))[j.val] = _
  rw [Vector.getElem_set]
  by_cases hj : j = k
  · rw [if_pos hj, if_pos (congrArg Fin.val hj.symm), hj]
  · rw [if_neg hj, if_neg fun h => hj (Fin.ext h.symm)]
    rfl

theorem lit_flipCell_of_ne (d : Display) {k j : Fin 2048} (h : j ≠ k) : (d.flipCell k).lit j = d.lit j := by
  show ((d.flipCell k).get j != 0) = (d.get j != 0)
  rw [get_flipCell, if_neg h]

/-- Flipping a cell does not light any others, and does not turn them off. -/
theorem any_lit_flipCell (d : Display) {k : Fin 2048} {ks : List (Fin 2048)} (h : k ∉ ks) :
    ks.any (d.flipCell k).lit = ks.any d.lit := by
  rw [Bool.eq_iff_iff, List.any_eq_true, List.any_eq_true]
  refine exists_congr fun j => and_congr_right fun hj => ?_
  have hne : j ≠ k := fun he => h (he ▸ hj)
  rw [lit_flipCell_of_ne d hne]

/-- The display with some cells flipped. -/
def flip (d : Display) (ks : List (Fin 2048)) : Display :=
  Vector.ofFn fun k => if k ∈ ks then d.get k ^^^ 1 else d.get k

theorem get_flip_of_mem (d : Display) {ks : List (Fin 2048)} {k : Fin 2048} (h : k ∈ ks) :
    (d.flip ks).get k = d.get k ^^^ 1 := by
  show (d.flip ks)[k.val] = _
  rw [flip, Vector.getElem_ofFn, if_pos h]

theorem get_flip_of_not_mem (d : Display) {ks : List (Fin 2048)} {k : Fin 2048} (h : k ∉ ks) :
    (d.flip ks).get k = d.get k := by
  show (d.flip ks)[k.val] = _
  rw [flip, Vector.getElem_ofFn, if_neg h]

theorem ext_get {d d' : Display} (h : ∀ k : Fin 2048, d.get k = d'.get k) : d = d' :=
  Vector.ext fun k hk => h ⟨k, hk⟩

theorem flip_nil (d : Display) : d.flip [] = d := by
  refine ext_get fun k => ?_
  rw [get_flip_of_not_mem d List.not_mem_nil]

/-- Cells can be flipped one after the other. -/
theorem flip_cons (d : Display) {k : Fin 2048} {ks : List (Fin 2048)} (hk : k ∉ ks) :
    d.flip (k :: ks) = (d.flipCell k).flip ks := by
  refine ext_get fun j => ?_
  by_cases hj : j = k
  · subst hj
    rw [get_flip_of_mem d List.mem_cons_self, get_flip_of_not_mem _ hk, get_flipCell, if_pos rfl]
  · have hcell : (d.flipCell k).get j = d.get j := by rw [get_flipCell, if_neg hj]
    by_cases hmem : j ∈ ks
    · rw [get_flip_of_mem d (List.mem_cons_of_mem k hmem), get_flip_of_mem _ hmem, hcell]
    · rw [get_flip_of_not_mem d (List.not_mem_cons_of_ne_of_not_mem hj hmem), get_flip_of_not_mem _ hmem,
        hcell]

theorem flip_flip (d : Display) (ks : List (Fin 2048)) : (d.flip ks).flip ks = d := by
  refine ext_get fun k => ?_
  by_cases hk : k ∈ ks
  · rw [get_flip_of_mem _ hk, get_flip_of_mem _ hk, UInt8.xor_assoc, UInt8.xor_self, UInt8.xor_zero]
  · rw [get_flip_of_not_mem _ hk, get_flip_of_not_mem _ hk]

theorem flip_comm (d : Display) (ks ls : List (Fin 2048)) :
    (d.flip ks).flip ls = (d.flip ls).flip ks := by
  refine ext_get fun k => ?_
  by_cases hk : k ∈ ks <;> by_cases hl : k ∈ ls <;>
    simp only [get_flip_of_mem, get_flip_of_not_mem, hk, hl, not_false_eq_true]

/-- A cell that is zero or one is so when it is flipped. -/
theorem Binary.xor_one {d : Display} (hd : d.Binary) (k : Fin 2048) : d.get k ^^^ 1 = 0 ∨ d.get k ^^^ 1 = 1 := by
  rcases hd k with h | h <;> rw [h] <;> decide

theorem Binary.flipCell {d : Display} (hd : d.Binary) (k : Fin 2048) : Binary (d.flipCell k) := by
  intro j
  rw [get_flipCell]
  split_ifs
  · exact hd.xor_one j
  · exact hd j

theorem Binary.flip {d : Display} (hd : d.Binary) (ks : List (Fin 2048)) : Binary (d.flip ks) := by
  intro k
  by_cases hk : k ∈ ks
  · rw [get_flip_of_mem d hk]
    exact hd.xor_one k
  · rw [get_flip_of_not_mem d hk]
    exact hd k

/-- A cell of a binary display is what a cell is that is written lit or not. -/
theorem ite_lit {d : Display} (hd : d.Binary) (k : Fin 2048) : (if d.lit k then 1 else 0) = d.get k := by
  show (if d.get k != 0 then 1 else 0) = d.get k
  rcases hd k with h | h <;> rw [h] <;> decide

theorem ite_not_lit {d : Display} (hd : d.Binary) (k : Fin 2048) :
    (if !d.lit k then 1 else 0) = d.get k ^^^ 1 := by
  show (if !(d.get k != 0) then 1 else 0) = d.get k ^^^ 1
  rcases hd k with h | h <;> rw [h] <;> decide

/-- A flipped cell of a binary display is lit exactly if it was not. -/
theorem lit_flip {d : Display} (hd : d.Binary) {ks : List (Fin 2048)} {k : Fin 2048} (hk : k ∈ ks) :
    (d.flip ks).lit k = !d.lit k := by
  show ((d.flip ks).get k != 0) = !(d.get k != 0)
  rw [get_flip_of_mem d hk]
  rcases hd k with h | h <;> rw [h] <;> decide

/-! ### A drawing flips its pixels -/

theorem lt_of_spriteBit {sprite : List UInt8} {height row column : Nat}
    (h : spriteBit sprite height row column = true) : row < height := by
  simp only [spriteBit, Bool.and_eq_true, decide_eq_true_eq] at h
  exact h.1

/-- **A drawing flips the pixels** and leaves all other cells, also those that it writes. -/
theorem draw_eq_flip {d : Display} (hd : d.Binary) (x y : Nat) {height : Nat} (h : height ≤ maxSpriteRows)
    (sprite : List UInt8) :
    d.draw x y height sprite = d.flip (pixels x y height (spriteBit sprite height)) := by
  refine ext_get fun k => ?_
  have hdraw : (d.draw x y height sprite).get k =
      if columnFrom x k < 8 && rowFrom y k < maxSpriteRows then
        if d.lit k != spriteBit sprite height (rowFrom y k) (columnFrom x k) then 1 else 0
      else d.get k := Vector.getElem_ofFn k.isLt
  have hpixel := mem_pixels_iff (x := x) (y := y) (k := k) (Nat.le_trans h (by decide))
    (spriteBit sprite height)
  rw [hdraw]
  by_cases hwindow : columnFrom x k < 8 ∧ rowFrom y k < maxSpriteRows
  · -- The cell is written: with its bit set it is a pixel, else it is written as it was.
    rw [if_pos (by simpa using hwindow)]
    cases hbit : spriteBit sprite height (rowFrom y k) (columnFrom x k) with
    | false =>
      have hnot : k ∉ pixels x y height (spriteBit sprite height) := by
        intro hk
        rw [(hpixel.mp hk).2.2] at hbit
        cases hbit
      rw [get_flip_of_not_mem d hnot, Bool.bne_false, ite_lit hd]
    | true =>
      rw [get_flip_of_mem d (hpixel.mpr ⟨hwindow.1, lt_of_spriteBit hbit, hbit⟩), Bool.bne_true,
        ite_not_lit hd]
  · rw [if_neg (by simpa using hwindow), get_flip_of_not_mem]
    exact fun hk => hwindow ⟨(hpixel.mp hk).1, Nat.lt_of_lt_of_le (hpixel.mp hk).2.1 h⟩

/-- **A drawing collides when a pixel is lit.** -/
theorem collides_eq_any (d : Display) (x y : Nat) {height : Nat} (h : height ≤ maxSpriteRows)
    (sprite : List UInt8) :
    d.collides x y height sprite = (pixels x y height (spriteBit sprite height)).any d.lit := by
  rw [Bool.eq_iff_iff]
  simp only [collides, List.any_eq_true, List.mem_range, Bool.and_eq_true, mem_pixels]
  constructor
  · rintro ⟨row, -, column, hcolumn, hbit, hlit⟩
    exact ⟨_, ⟨row, lt_of_spriteBit hbit, column, hcolumn, hbit, rfl⟩, hlit⟩
  · rintro ⟨k, ⟨row, hrow, column, hcolumn, hbit, rfl⟩, hlit⟩
    exact ⟨row, Nat.lt_of_lt_of_le hrow h, column, hcolumn, hbit, hlit⟩

end Chip8.Display

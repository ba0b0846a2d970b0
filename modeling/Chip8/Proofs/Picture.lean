import Chip8.Rendering

/-!
# The pixels of a picture

A picture is the grid of the cells with each cell made a square. To repeat each item of a list `n` times is to
read the list at a quotient by `n` (`getElem?_stretch`); a picture does so with its rows and with the items of
each row, so its pixels are those of the grid at the quotients of their row and their column
(`pixel?_picture`). Every cell has at least one pixel, and that tells whether the cell is lit if the two
colours differ. So the picture tells which cells are lit, and nothing else of the display (`picture_eq_iff`).
-/

namespace Chip8.Rendering

/-! ### Items that are repeated -/

variable {α : Type}

theorem stretch_cons (n : Nat) (x : α) (xs : List α) :
    stretch n (x :: xs) = List.replicate n x ++ stretch n xs := rfl

theorem length_stretch (n : Nat) (xs : List α) : (stretch n xs).length = xs.length * n := by
  induction xs with
  | nil => exact (Nat.zero_mul n).symm
  | cons x xs ih =>
    rw [stretch_cons, List.length_append, List.length_replicate, ih, List.length_cons, Nat.succ_mul,
      Nat.add_comm]

/-- **An item of a list whose items are repeated** is where the quotient of its place says. -/
theorem getElem?_stretch {n : Nat} (h : 0 < n) (xs : List α) (k : Nat) :
    (stretch n xs)[k]? = xs[k / n]? := by
  induction xs generalizing k with
  | nil => rfl
  | cons x xs ih =>
    rw [stretch_cons]
    by_cases hk : k < n
    · rw [List.getElem?_append_left (by rwa [List.length_replicate]), List.getElem?_replicate, if_pos hk,
        Nat.div_eq_of_lt hk, List.getElem?_cons_zero]
    · have hn : n ≤ k := Nat.le_of_not_lt hk
      rw [List.getElem?_append_right (by rwa [List.length_replicate]), List.length_replicate, ih,
        Nat.div_eq_sub_div h hn, List.getElem?_cons_succ]

theorem mem_of_mem_stretch {n : Nat} {x : α} {xs : List α} (h : x ∈ stretch n xs) : x ∈ xs := by
  obtain ⟨y, hy, hx⟩ := List.mem_flatMap.mp h
  rwa [List.eq_of_mem_replicate hx]

/-! ### Pixels -/

/-- The pixel in a row and a column. -/
def pixel? (p : Picture) (row column : Nat) : Option Colour := p[row]?.bind (·[column]?)

/-- The picture has so many rows, each of so many pixels, each of so many components. -/
structure HasShape (p : Picture) (rows columns components : Nat) : Prop where
  rows : p.length = rows
  columns : ∀ row ∈ p, row.length = columns
  components : ∀ row ∈ p, ∀ c ∈ row, c.length = components

/-- A scale below one is one. -/
theorem pixels_eq (scale : Int) : (pixels scale : Int) = max scale 1 := by
  unfold pixels
  split <;> omega

theorem pixels_pos (scale : Int) : 0 < pixels scale := by
  have := pixels_eq scale
  omega

/-- The pixel of the grid is the colour of its cell. -/
theorem pixel?_cellPicture (s : Scheme) (d : Display) {row column : Nat} (hrow : row < 32)
    (hcolumn : column < 64) :
    pixel? (cellPicture s d) row column = some (s.colour d (Display.cell column row)) := by
  unfold pixel? cellPicture
  rw [List.getElem?_map, List.getElem?_range (show row < Display.rows from hrow), Option.map_some,
    Option.bind_some, List.getElem?_map, List.getElem?_range (show column < Display.columns from hcolumn),
    Option.map_some]

/-- **A pixel of the picture** is the pixel of the grid at the quotients of its row and its column. -/
theorem pixel?_picture (s : Scheme) (scale : Int) (d : Display) (row column : Nat) :
    pixel? (picture s scale d) row column =
      pixel? (cellPicture s d) (row / pixels scale) (column / pixels scale) := by
  have hn := pixels_pos scale
  unfold pixel? picture
  rw [getElem?_stretch hn, List.getElem?_map]
  cases (cellPicture s d)[row / pixels scale]? with
  | none => rfl
  | some cells => exact getElem?_stretch hn cells column

theorem hasShape_cellPicture {s : Scheme} {components : Nat} (hon : s.on.length = components)
    (hoff : s.off.length = components) (d : Display) : HasShape (cellPicture s d) 32 64 components := by
  refine ⟨by rw [cellPicture, List.length_map, List.length_range]; rfl, ?_, ?_⟩
  · intro row hrow
    obtain ⟨r, -, rfl⟩ := List.mem_map.mp hrow
    rw [List.length_map, List.length_range]
    rfl
  · intro row hrow c hc
    obtain ⟨r, -, rfl⟩ := List.mem_map.mp hrow
    obtain ⟨k, -, rfl⟩ := List.mem_map.mp hc
    unfold Scheme.colour
    split
    · exact hon
    · exact hoff

/-- The picture has a square of pixels for each pixel of the grid. -/
theorem hasShape_picture {s : Scheme} {components : Nat} (hon : s.on.length = components)
    (hoff : s.off.length = components) (scale : Int) (d : Display) :
    HasShape (picture s scale d) (32 * pixels scale) (64 * pixels scale) components := by
  have hgrid := hasShape_cellPicture hon hoff d
  have hrow {row : List Colour} (h : row ∈ picture s scale d) :
      ∃ cells ∈ cellPicture s d, stretch (pixels scale) cells = row :=
    List.mem_map.mp (mem_of_mem_stretch h)
  refine ⟨?_, ?_, ?_⟩
  · rw [picture, length_stretch, List.length_map, hgrid.rows]
  · intro row h
    obtain ⟨cells, hcells, rfl⟩ := hrow h
    rw [length_stretch, hgrid.columns cells hcells]
  · intro row h c hc
    obtain ⟨cells, hcells, rfl⟩ := hrow h
    exact hgrid.components cells hcells c (mem_of_mem_stretch hc)

/-! ### What a picture tells -/

/-- The displays have the same lit cells. -/
def SameLit (d d' : Display) : Prop := ∀ k : Fin 2048, d.lit k = d'.lit k

/-- The pixel in the upper left of a cell has the colour of the cell. -/
theorem pixel?_corner (s : Scheme) (scale : Int) (d : Display) (k : Fin 2048) :
    pixel? (picture s scale d) (k.val / 64 * pixels scale) (k.val % 64 * pixels scale) =
      some (s.colour d k) := by
  have hn := pixels_pos scale
  have hcell : Display.cell (k.val % 64) (k.val / 64) = k := by
    refine Fin.ext ?_
    simp only [Display.cell]
    omega
  rw [pixel?_picture, Nat.mul_div_cancel _ hn, Nat.mul_div_cancel _ hn,
    pixel?_cellPicture s d (by omega) (by omega), hcell]

/-- In two colours, the colour of a cell tells whether it is lit. -/
theorem colour_eq_on_iff {s : Scheme} (hne : s.on ≠ s.off) (d : Display) (k : Fin 2048) :
    s.colour d k = s.on ↔ d.lit k = true := by
  unfold Scheme.colour
  split
  case isTrue h => exact ⟨fun _ => h, fun _ => rfl⟩
  case isFalse h => exact ⟨fun he => absurd he.symm hne, fun hlit => absurd hlit h⟩

/-- **What a picture tells**: in two colours, it is that of another display if just the same cells are
lit. -/
theorem picture_eq_iff {s : Scheme} (hne : s.on ≠ s.off) (scale : Int) {d d' : Display} :
    picture s scale d = picture s scale d' ↔ SameLit d d' := by
  constructor
  · intro h k
    have hcorner := pixel?_corner s scale d k
    rw [h, pixel?_corner] at hcorner
    rw [Bool.eq_iff_iff, ← colour_eq_on_iff hne, ← colour_eq_on_iff hne, Option.some.inj hcorner]
  · intro h
    have hcolour (k : Fin 2048) : s.colour d k = s.colour d' k := by
      unfold Scheme.colour
      rw [h k]
    unfold picture cellPicture
    simp only [hcolour]

/-! ### Displays and colours given as numbers -/

/-- The components of a colour as numbers. -/
def numbers (c : Colour) : List Int := c.map fun b => (b.toNat : Int)

theorem numbers_colour (s : Scheme) (d : Display) (k : Fin 2048) :
    numbers (s.colour d k) = if d.lit k then numbers s.on else numbers s.off := by
  unfold Scheme.colour
  split <;> rfl

/-- Numbers that are bytes make up a colour. -/
theorem mapM_component {zs : List Int} (h : ∀ z ∈ zs, 0 ≤ z ∧ z < 256) :
    ∃ c, zs.mapM component = .ok c ∧ numbers c = zs := by
  induction zs with
  | nil => exact ⟨[], rfl, rfl⟩
  | cons z zs ih =>
    obtain ⟨hz, hzs⟩ := List.forall_mem_cons.mp h
    obtain ⟨c, hc, hnumbers⟩ := ih hzs
    have hbyte : component z = .ok (UInt8.ofNat z.toNat) := if_pos hz
    have hvalue : ((UInt8.ofNat z.toNat).toNat : Int) = z := by
      rw [UInt8.toNat_ofNat', Nat.mod_eq_of_lt (by omega)]
      omega
    refine ⟨UInt8.ofNat z.toNat :: c, ?_, ?_⟩
    · rw [List.mapM_cons, hbyte, hc]
      rfl
    · show ((UInt8.ofNat z.toNat).toNat : Int) :: numbers c = z :: zs
      rw [hvalue, hnumbers]

theorem ofInts_of_bytes {on off : List Int} (hsame : on.length = off.length)
    (hbytes : ∀ z ∈ on ++ off, 0 ≤ z ∧ z < 256) :
    ∃ s, Scheme.ofInts on off = .ok s ∧ numbers s.on = on ∧ numbers s.off = off := by
  obtain ⟨hon, hoff⟩ := List.forall_mem_append.mp hbytes
  obtain ⟨con, hcon, hnon⟩ := mapM_component hon
  obtain ⟨coff, hcoff, hnoff⟩ := mapM_component hoff
  refine ⟨⟨con, coff⟩, ?_, hnon, hnoff⟩
  unfold Scheme.ofInts
  rw [if_neg (not_not_intro hsame), hcoff, hcon]
  rfl

/-- As many cells as a display has make up a display, in which just those that are not zero are lit. -/
theorem frame_of_length {cells : List UInt8} (h : cells.length = 2048) :
    ∃ d, frame cells = .ok d ∧ ∀ k : Fin 2048, d.lit k = true ↔ cells[k.val]? ≠ some 0 := by
  refine ⟨⟨cells.toArray, h⟩, dif_pos h, fun k => ?_⟩
  have hk : k.val < cells.length := h.symm ▸ k.isLt
  rw [List.getElem?_eq_getElem hk, Ne, Option.some.injEq]
  exact bne_iff_ne

/-- The picture of a framebuffer, all given as numbers. -/
def render (cells : List UInt8) (scale : Int) (on off : List Int) : Except Error Picture := do
  let d ← frame cells
  let s ← Scheme.ofInts on off
  return picture s scale d

theorem render_eq_ok {cells : List UInt8} {on off : List Int} {d : Display} {s : Scheme}
    (hd : frame cells = .ok d) (hs : Scheme.ofInts on off = .ok s) (scale : Int) :
    render cells scale on off = .ok (picture s scale d) := by
  unfold render
  rw [hd, hs]
  rfl

/-- **A picture shows each cell as a square.** It is made of any 2048 cells, at any scale, in any two colours
of as many components, all of them bytes. A scale below one is one; then the picture has the scale times as
many rows and columns as the display, and each pixel has the one colour if the cell at the quotients of its
row and its column is not zero, and the other colour if it is. So if the colours differ, two displays have the
same picture just if the same cells are zero. -/
theorem render_upscales (cells : List UInt8) (scale : Int) (on off : List Int)
    (hcells : cells.length = 2048) (hsame : on.length = off.length)
    (hbytes : ∀ z ∈ on ++ off, 0 ≤ z ∧ z < 256) :
    let n := pixels scale
    (n : Int) = max scale 1 ∧
      (∃ image, render cells scale on off = .ok image ∧
        HasShape image (32 * n) (64 * n) on.length ∧
        ∀ p < 32 * n, ∀ q < 64 * n, ∃ c, pixel? image p q = some c ∧
          numbers c = if cells[p / n * 64 + q / n]? = some 0 then off else on) ∧
      (on ≠ off → ∀ cells' : List UInt8, cells'.length = 2048 →
        (render cells scale on off = render cells' scale on off ↔
          ∀ k < 2048, cells[k]? = some 0 ↔ cells'[k]? = some 0)) := by
  intro n
  obtain ⟨d, hd, hlit⟩ := frame_of_length hcells
  obtain ⟨s, hs, hon, hoff⟩ := ofInts_of_bytes hsame hbytes
  have hrender := render_eq_ok hd hs scale
  refine ⟨pixels_eq scale, ⟨_, hrender, ?shape, fun p hp q hq => ?pixel⟩, fun hne cells' hcells' => ?same⟩
  case shape =>
    refine hasShape_picture ?_ ?_ scale d
    · rw [← hon, numbers, List.length_map]
    · rw [hsame, ← hoff, numbers, List.length_map]
  case pixel =>
    have hrow : p / n < 32 := Nat.div_lt_of_lt_mul (Nat.mul_comm 32 n ▸ hp)
    have hcolumn : q / n < 64 := Nat.div_lt_of_lt_mul (Nat.mul_comm 64 n ▸ hq)
    have hcell : (Display.cell (q / n) (p / n)).val = p / n * 64 + q / n := by
      show q / n % 64 + p / n % 32 * 64 = p / n * 64 + q / n
      rw [Nat.mod_eq_of_lt hcolumn, Nat.mod_eq_of_lt hrow, Nat.add_comm]
    refine ⟨_, (pixel?_picture s scale d p q).trans (pixel?_cellPicture s d hrow hcolumn), ?_⟩
    rw [← hcell, numbers_colour, hon, hoff]
    by_cases hzero : cells[(Display.cell (q / n) (p / n)).val]? = some 0
    · rw [if_pos hzero, if_neg fun hl => (hlit _).mp hl hzero]
    · rw [if_neg hzero, if_pos ((hlit _).mpr hzero)]
  case same =>
    obtain ⟨d', hd', hlit'⟩ := frame_of_length hcells'
    have hcolours : s.on ≠ s.off := fun he => hne (hon ▸ hoff ▸ congrArg numbers he)
    rw [hrender, render_eq_ok hd' hs scale, Except.ok.injEq, picture_eq_iff hcolours]
    constructor
    · intro h k hk
      rw [← Decidable.not_iff_not, ← Ne, ← Ne, ← hlit ⟨k, hk⟩, ← hlit' ⟨k, hk⟩, h ⟨k, hk⟩]
    · intro h k
      rw [Bool.eq_iff_iff, hlit, hlit', Ne, Ne, h k k.isLt]

/-- The cells of a display of which only the last one is not zero. -/
def lastLit (b : UInt8) : List UInt8 := List.replicate 2047 0 ++ [b]

theorem length_lastLit (b : UInt8) : (lastLit b).length = 2048 := by
  rw [lastLit, List.length_append, List.length_replicate, List.length_singleton]

theorem getElem?_lastLit (b : UInt8) {k : Nat} (hk : k < 2048) :
    (lastLit b)[k]? = some (if k < 2047 then 0 else b) := by
  unfold lastLit
  by_cases hlt : k < 2047
  · rw [List.getElem?_append_left (by rwa [List.length_replicate]), List.getElem?_replicate, if_pos hlt,
      if_pos hlt]
  · obtain rfl : k = 2047 := by omega
    rw [List.getElem?_append_right (Nat.le_of_eq List.length_replicate), List.length_replicate]
    rfl

/-- At a scale of three its last pixel is in the one colour and its first one in the other. It has the same
picture whatever is in the last cell, and another one if that is zero. -/
theorem render_upscales_lastLit :
    (∃ image, render (lastLit 7) 3 [255, 176, 0] [0, 0, 64] = .ok image ∧
      (∃ c, pixel? image 95 191 = some c ∧ numbers c = [255, 176, 0]) ∧
      ∃ c, pixel? image 0 0 = some c ∧ numbers c = [0, 0, 64]) ∧
      render (lastLit 7) 3 [255, 176, 0] [0, 0, 64] = render (lastLit 1) 3 [255, 176, 0] [0, 0, 64] ∧
      render (lastLit 7) 3 [255, 176, 0] [0, 0, 64] ≠ render (lastLit 0) 3 [255, 176, 0] [0, 0, 64] := by
  obtain ⟨-, ⟨image, himage, -, hpixel⟩, hsame⟩ :=
    render_upscales (lastLit 7) 3 [255, 176, 0] [0, 0, 64] (length_lastLit 7) rfl (by decide)
  refine ⟨⟨image, himage, ?_, ?_⟩, ?_, fun he => ?_⟩
  · obtain ⟨c, hc, hnumbers⟩ := hpixel 95 (by decide) 191 (by decide)
    have hlit : (lastLit 7)[95 / pixels 3 * 64 + 191 / pixels 3]? = some 7 :=
      getElem?_lastLit 7 (k := 2047) (by decide)
    rw [hlit] at hnumbers
    exact ⟨c, hc, hnumbers⟩
  · obtain ⟨c, hc, hnumbers⟩ := hpixel 0 (by decide) 0 (by decide)
    have hdark : (lastLit 7)[0 / pixels 3 * 64 + 0 / pixels 3]? = some 0 :=
      getElem?_lastLit 7 (k := 0) (by decide)
    rw [hdark] at hnumbers
    exact ⟨c, hc, hnumbers⟩
  · refine (hsame (by decide) _ (length_lastLit 1)).mpr fun k hk => ?_
    rw [getElem?_lastLit 7 hk, getElem?_lastLit 1 hk]
    split <;> decide
  · have hlast := (hsame (by decide) _ (length_lastLit 0)).mp he 2047 (by decide)
    rw [getElem?_lastLit 7 (by decide), getElem?_lastLit 0 (by decide)] at hlast
    exact absurd (hlast.mpr rfl) (by decide)

end Chip8.Rendering

import Chip8.Proofs.Frame
import Chip8.Proofs.Sprite

/-!
# Drawing pixel by pixel

What a drawing is meant to do is a loop: the flag is cleared, and then, row by row and bit by bit, each set
bit of the sprite flips its cell and sets the flag if the cell is lit (`drawPixels`). The machine instead
reads fifteen bytes whatever the height, clamped at the end of memory, and writes a whole window at once.
On a binary display both come to the same (`execute_draw_eq_ok_iff`): one turn of the loop flips one cell,
so by induction a run of it flips the pixels of the sprite, each once, and these are the cells that a
drawing flips.

Since a drawing is a flip of its pixels, and the pixels do not depend on the display, drawings undo
themselves and can be made in any order (`draws_cancel_and_commute`).
-/

namespace Chip8.Machine

open Instruction (decode? HasForm)

/-! ### The loop -/

/-- Whether a bit of the sprite at the index is set: a row is a byte of memory, its highest bit is the
column on the left, and behind the end of memory there is nothing. -/
def spriteBit (m : Machine) (row column : Nat) : Bool :=
  match m.memory[m.i.toNat + row]? with
  | some b => b.toNat.testBit (7 - column)
  | none => false

/-- Draws one pixel: the flag is set if the cell is lit, and the cell is flipped. -/
def plot (m : Machine) (k : Fin 2048) : Machine :=
  let flagged := if m.display.lit k then m.load flagRegister 1 else m
  { flagged with display := m.display.flipCell k }

/-- A turn of the inner loop: a bit that is set draws its pixel. -/
def plotBit (originX originY row : Nat) (m : Machine) (column : Nat) : Machine :=
  if m.spriteBit row column then m.plot (Display.cell (originX + column) (originY + row)) else m

/-- A turn of the outer loop: the bits of a row, from the left. -/
def plotRow (originX originY : Nat) (m : Machine) (row : Nat) : Machine :=
  (List.range 8).foldl (plotBit originX originY row) m

/-- Draws a sprite pixel by pixel. The origin is read before the flag is cleared. -/
def drawPixels (m : Machine) (x y n : Nibble) : Machine :=
  (List.range n.val).foldl (plotRow (m.register x).toNat (m.register y).toNat)
    { m.load flagRegister 0 with dirty := true }

/-! ### What the loop does -/

theorem spriteBit_plot (m : Machine) (k : Fin 2048) : (m.plot k).spriteBit = m.spriteBit := by
  unfold plot
  split <;> rfl

theorem spriteBit_foldl_plot (m : Machine) (ks : List (Fin 2048)) :
    (ks.foldl plot m).spriteBit = m.spriteBit := by
  induction ks generalizing m with
  | nil => rfl
  | cons k ks ih => rw [List.foldl_cons, ih, spriteBit_plot]

/-- The cells under the set bits in some columns of a row. -/
def rowPixels (m : Machine) (originX originY row : Nat) (columns : List Nat) : List (Fin 2048) :=
  (columns.filter (m.spriteBit row)).map fun column => Display.cell (originX + column) (originY + row)

theorem foldl_plotBit (m : Machine) (originX originY row : Nat) (columns : List Nat) :
    columns.foldl (plotBit originX originY row) m =
      (m.rowPixels originX originY row columns).foldl plot m := by
  induction columns generalizing m with
  | nil => rfl
  | cons column columns ih =>
    rw [List.foldl_cons, ih, plotBit]
    cases hbit : m.spriteBit row column with
    | false => simp only [rowPixels, List.filter_cons, hbit, Bool.false_eq_true, if_false]
    | true =>
      simp only [rowPixels, List.filter_cons, hbit, if_true, List.map_cons, List.foldl_cons, spriteBit_plot]

theorem foldl_plotRow (m : Machine) (originX originY : Nat) (rows : List Nat) :
    rows.foldl (plotRow originX originY) m =
      (rows.flatMap fun row => m.rowPixels originX originY row (List.range 8)).foldl plot m := by
  induction rows generalizing m with
  | nil => rfl
  | cons row rows ih =>
    -- The rows that follow are read from memory, which the first row has left alone.
    rw [List.foldl_cons, ih, plotRow, foldl_plotBit, List.flatMap_cons, List.foldl_append]
    simp only [rowPixels, spriteBit_foldl_plot]

/-- The pixels of the sprite at the index, the origin being in two registers. -/
def sprite (m : Machine) (x y n : Nibble) : List (Fin 2048) :=
  Display.pixels (m.register x).toNat (m.register y).toNat n.val m.spriteBit

theorem nodup_sprite (m : Machine) (x y n : Nibble) : (m.sprite x y n).Nodup :=
  Display.nodup_pixels _ _ (by omega) _

/-- **The loop draws each pixel of the sprite** once, in order. -/
theorem drawPixels_eq (m : Machine) (x y n : Nibble) :
    m.drawPixels x y n = (m.sprite x y n).foldl plot { m.load flagRegister 0 with dirty := true } :=
  foldl_plotRow _ _ _ _

theorem plot_eq (m : Machine) (k : Fin 2048) :
    m.plot k =
      { m with
        v := if m.display.lit k then m.v.set flagRegister 1 else m.v
        display := m.display.flipCell k } := by
  unfold plot
  split <;> rfl

/-- **What drawing pixels does**: each is flipped, and the flag is set if one was lit at the start. -/
theorem foldl_plot (m : Machine) {ks : List (Fin 2048)} (hks : ks.Nodup) :
    ks.foldl plot m =
      { m with
        v := if ks.any m.display.lit then m.v.set flagRegister 1 else m.v
        display := m.display.flip ks } := by
  induction ks generalizing m with
  | nil =>
    rw [Display.flip_nil]
    rfl
  | cons k ks ih =>
    -- The cell drawn first comes only once, so the later ones find what was there at the start.
    obtain ⟨hk, hks⟩ := List.nodup_cons.mp hks
    rw [List.foldl_cons, ih (m.plot k) hks, plot_eq, Display.flip_cons _ hk, List.any_cons]
    simp only [Display.any_lit_flipCell _ hk]
    cases m.display.lit k <;> cases ks.any m.display.lit <;> simp

/-- The loop flips the pixels of the sprite, and the flag says whether one was lit. -/
theorem drawPixels_eq_flip (m : Machine) (x y n : Nibble) :
    m.drawPixels x y n =
      { m.load flagRegister (AluOp.flag ((m.sprite x y n).any m.display.lit)) with
        display := m.display.flip (m.sprite x y n)
        dirty := true } := by
  have hflag : ∀ lit : Bool,
      m.v.set flagRegister (AluOp.flag lit) (Nibble.lt _) =
        if lit then (m.v.set flagRegister 0 (Nibble.lt _)).set flagRegister 1 (Nibble.lt _)
        else m.v.set flagRegister 0 (Nibble.lt _) := by
    intro lit
    cases lit <;> simp [AluOp.flag]
  rw [drawPixels_eq, foldl_plot _ (m.nodup_sprite x y n)]
  simp only [load, hflag]
  rfl

/-- The machine `m'` is `m` after a drawing with these pixels, as far as further drawings depend on it. -/
structure DrawnOver (m : Machine) (pixels : List (Fin 2048)) (m' : Machine) : Prop where
  /-- The pixels are flipped. -/
  display : m'.display = m.display.flip pixels
  /-- The flag says whether one was lit. -/
  flag : m'.register flagRegister = AluOp.flag (pixels.any m.display.lit)
  /-- The other registers are as they were. -/
  others : ∀ k, k ≠ flagRegister → m'.register k = m.register k
  memory : m'.memory = m.memory
  index : m'.i = m.i

theorem drawnOver_drawPixels (m : Machine) (x y n : Nibble) :
    DrawnOver m (m.sprite x y n) (m.drawPixels x y n) := by
  rw [drawPixels_eq_flip]
  have hv : ∀ k : Nibble,
      (m.load flagRegister (AluOp.flag ((m.sprite x y n).any m.display.lit))).v.get k =
        if k = flagRegister then AluOp.flag ((m.sprite x y n).any m.display.lit) else m.register k :=
    fun k => register_load m flagRegister _ k
  constructor
  case display => rfl
  case flag =>
    rw [register, hv, if_pos rfl]
  case others =>
    intro k hk
    rw [register, hv, if_neg hk]
  case memory => rfl
  case index => rfl

/-! ### The drawing is the loop -/

/-- What a drawing reads in the rows of its sprite is what memory holds there. -/
theorem spriteBit_block {m : Machine} {n : Nibble} (hn : n.val ≠ 0 → m.i.toNat + n.val ≤ 4096) {row : Nat}
    (hrow : row < n.val) (column : Nat) :
    Display.spriteBit (m.memory.block m.i.toNat Display.maxSpriteRows) n.val row column =
      m.spriteBit row column := by
  have hle : n.val ≤ Display.maxSpriteRows := Nat.le_of_lt_succ n.isLt
  have hin : m.i.toNat + row < 4096 := by
    have := hn (Nat.ne_of_gt (Nat.zero_lt_of_lt hrow))
    omega
  have hread : (m.memory.block m.i.toNat Display.maxSpriteRows).getD row 0 = m.memory[m.i.toNat + row] := by
    rw [List.getD_eq_getElem?_getD, Memory.getElem?_block _ (Nat.lt_of_lt_of_le hrow hle),
      Option.getD_some, Memory.read_of_lt _ hin]
  rw [Display.spriteBit, hread, spriteBit, Vector.getElem?_eq_getElem hin, decide_eq_true hrow,
    Bool.true_and]

/-- **A drawing that is let through is the loop.** -/
theorem perform_draw {m : Machine} (hd : m.display.Binary) {x y n : Nibble} (ha : m.Allows (.draw x y n)) :
    m.perform (.draw x y n) = m.drawPixels x y n := by
  have hn : n.val ≤ Display.maxSpriteRows := Nat.le_of_lt_succ n.isLt
  have hbits : ∀ row < n.val, ∀ column,
      Display.spriteBit (m.memory.block m.i.toNat Display.maxSpriteRows) n.val row column =
        m.spriteBit row column := fun row hrow column => spriteBit_block ha hrow column
  simp only [drawPixels_eq_flip, perform, Display.draw_eq_flip hd _ _ hn, Display.collides_eq_any _ _ _ hn,
    Display.pixels_congr hbits, sprite]

/-- The word of a drawing names it. -/
theorem decode?_draw (x y n : Nibble) : decode? (wordOf 0xD x y n) = some (.draw x y n) :=
  Instruction.decode?_of_hasForm ⟨firstNibble_wordOf _ _ _ _, (secondNibble_wordOf _ _ _ _).symm,
    (thirdNibble_wordOf _ _ _ _).symm, (lastNibble_wordOf _ _ _ _).symm⟩

/-- **A drawing is the loop over its pixels**: on a binary display, `Dxyn` succeeds exactly if its rows are
memory, or if it has none, and then leaves what the loop leaves. -/
theorem execute_draw_eq_ok_iff {m : Machine} (hd : m.display.Binary) (x y n : Nibble) (address : Int)
    (m' : Machine) :
    m.execute (wordOf 0xD x y n) address = .ok m' ↔
      (n.val ≠ 0 → m.i.toNat + n.val ≤ 4096) ∧ m' = m.drawPixels x y n := by
  rw [execute_eq_ok_iff, decode?_draw]
  constructor
  · rintro ⟨-, i, hi, ha, rfl⟩
    cases hi
    exact ⟨ha, perform_draw hd ha⟩
  · rintro ⟨ha, rfl⟩
    exact ⟨wordOf_bounds _ _ _ _, _, rfl, ha, (perform_draw hd ha).symm⟩

/-- A machine whose index is two bytes before the end of memory, with an origin on the last row. The column
of the origin is in the flag register. One cell is on. -/
def corner : Machine :=
  { start ⟨0, 0⟩ with
    memory := Memory.blank.store 0xFFE [0x81, 0xFF]
    i := 0xFFE
    display := Display.blank.flipCell (Display.cell 5 31)
    v := ((Vector.replicate 16 0).set 1 31).set 15 62 }

/-- The last two bytes of memory are drawn around both edges. The first row meets the cell that is on, and the
second one is on top of the screen. -/
theorem execute_draw_corner :
    corner.execute (wordOf 0xD 0xF 0x1 0x2) 0x200 = .ok (corner.drawPixels 0xF 0x1 0x2) ∧
      (corner.drawPixels 0xF 0x1 0x2).register flagRegister = 1 ∧
      (corner.drawPixels 0xF 0x1 0x2).display = corner.display.flip
        [Display.cell 62 31, Display.cell 5 31, Display.cell 62 0, Display.cell 63 0, Display.cell 0 0,
          Display.cell 1 0, Display.cell 2 0, Display.cell 3 0, Display.cell 4 0, Display.cell 5 0] := by
  have hd : corner.display.Binary := Display.binary_blank.flipCell _
  have hsprite : corner.sprite 0xF 0x1 0x2 =
      [Display.cell 62 31, Display.cell 5 31, Display.cell 62 0, Display.cell 63 0, Display.cell 0 0,
        Display.cell 1 0, Display.cell 2 0, Display.cell 3 0, Display.cell 4 0, Display.cell 5 0] := by
    decide +kernel
  have hlit : (corner.sprite 0xF 0x1 0x2).any corner.display.lit = true :=
    List.any_eq_true.mpr ⟨Display.cell 5 31, by rw [hsprite]; decide, by decide +kernel⟩
  have hdrawn := drawnOver_drawPixels corner 0xF 0x1 0x2
  refine ⟨(execute_draw_eq_ok_iff hd 0xF 0x1 0x2 0x200 _).mpr ⟨by decide, rfl⟩, ?_, ?_⟩
  · rw [hdrawn.flag, hlit]
    rfl
  · rw [hdrawn.display, hsprite]

/-! ### Drawings undo themselves and commute -/

/-- A drawing succeeds exactly if its rows are memory, or if it has none. -/
theorem execute_draw {m : Machine} (hd : m.display.Binary) {x y n : Nibble}
    (hn : n.val ≠ 0 → m.i.toNat + n.val ≤ 4096) (address : Int) :
    ∃ m', m.execute (wordOf 0xD x y n) address = .ok m' ∧ DrawnOver m (m.sprite x y n) m' :=
  ⟨_, execute_eq_ok_iff.mpr ⟨wordOf_bounds _ _ _ _, _, decode?_draw x y n, hn, (perform_draw hd hn).symm⟩,
    drawnOver_drawPixels m x y n⟩

theorem drawnOver_of_execute {m m' : Machine} (hd : m.display.Binary) {x y n : Nibble} {address : Int}
    (h : m.execute (wordOf 0xD x y n) address = .ok m') :
    (n.val ≠ 0 → m.i.toNat + n.val ≤ 4096) ∧ DrawnOver m (m.sprite x y n) m' := by
  obtain ⟨-, i, hi, ha, rfl⟩ := execute_eq_ok_iff.mp h
  rw [decode?_draw] at hi
  cases hi
  exact ⟨ha, perform_draw hd ha ▸ drawnOver_drawPixels m x y n⟩

/-- The pixels of a sprite depend on memory, on the index and on the registers of the origin. -/
theorem sprite_congr (m m' : Machine) {x y : Nibble} (hmemory : m'.memory = m.memory) (hi : m'.i = m.i)
    (hx : m'.register x = m.register x) (hy : m'.register y = m.register y) (n : Nibble) :
    m'.sprite x y n = m.sprite x y n := by
  have hbit : m'.spriteBit = m.spriteBit := by
    funext row column
    rw [spriteBit, spriteBit, hmemory, hi]
  rw [sprite, sprite, hbit, hx, hy]

/-- **Drawn twice, a sprite is gone**: the display is as it was, and the flag tells whether some pixel was
off. -/
theorem draw_twice {m m₁ : Machine} (hd : m.display.Binary) {x y n : Nibble} (hx : x ≠ flagRegister)
    (hy : y ≠ flagRegister) {address : Int} (h : m.execute (wordOf 0xD x y n) address = .ok m₁)
    (address' : Int) :
    ∃ m₂, m₁.execute (wordOf 0xD x y n) address' = .ok m₂ ∧ m₂.display = m.display ∧
      (m₂.register flagRegister = 1 ↔ ∃ k ∈ m.sprite x y n, m.display.get k = 0) := by
  obtain ⟨hn, h₁⟩ := drawnOver_of_execute hd h
  have hd₁ : m₁.display.Binary := h₁.display ▸ hd.flip _
  obtain ⟨m₂, hm₂, h₂⟩ := execute_draw (x := x) (y := y) hd₁ (h₁.index ▸ hn) address'
  rw [sprite_congr m m₁ h₁.memory h₁.index (h₁.others x hx) (h₁.others y hy)] at h₂
  refine ⟨m₂, hm₂, ?_, ?_⟩
  · rw [h₂.display, h₁.display, Display.flip_flip]
  · have hflag : ∀ lit, AluOp.flag lit = 1 ↔ lit = true := by decide
    rw [h₂.flag, hflag, List.any_eq_true, h₁.display]
    refine exists_congr fun k => and_congr_right fun hk => ?_
    rw [Display.lit_flip hd hk, Bool.not_eq_true']
    exact bne_eq_false_iff_eq

/-- A drawing with the index set before it. The registers of its origin are not the flag, which each drawing
loads. -/
structure Drawing where
  /-- Where the sprite is. -/
  index : UInt16
  /-- The register with the column of the origin. -/
  x : Nibble
  /-- The register with the row of the origin. -/
  y : Nibble
  /-- How many rows the sprite has. -/
  height : Nibble
  x_ne : x ≠ flagRegister
  y_ne : y ≠ flagRegister

/-- Sets the index and draws. -/
def sketch (m : Machine) (g : Drawing) (address : Int) : Except Refusal Machine :=
  { m with i := g.index }.execute (wordOf (Nibble.ofNat 0xD) g.x g.y g.height) address

/-- The pixels of a drawing. -/
def cover (m : Machine) (g : Drawing) : List (Fin 2048) :=
  { m with i := g.index }.sprite g.x g.y g.height

/-- The index is set and the pixels are drawn over. -/
theorem drawnOver_of_sketch {m m' : Machine} (hd : m.display.Binary) {g : Drawing} {address : Int}
    (h : m.sketch g address = .ok m') : DrawnOver { m with i := g.index } (m.cover g) m' :=
  (drawnOver_of_execute (m := { m with i := g.index }) hd h).2

/-- After a drawing, wherever its index was, another one that was let through before is let through and has
the pixels that it had. -/
theorem sketch_after {m m₁ m' : Machine} {i : UInt16} {pixels : List (Fin 2048)} (hd : m.display.Binary)
    (h₁ : DrawnOver { m with i } pixels m₁) {g : Drawing} {address : Int}
    (h : m.sketch g address = .ok m') (address' : Int) :
    ∃ m₂, m₁.sketch g address' = .ok m₂ ∧ m₂.display = (m.display.flip pixels).flip (m.cover g) := by
  obtain ⟨hn, -⟩ := drawnOver_of_execute (m := { m with i := g.index }) hd h
  have hd₁ : m₁.display.Binary := h₁.display ▸ hd.flip pixels
  obtain ⟨m₂, hm₂, h₂⟩ := execute_draw (m := { m₁ with i := g.index }) (x := g.x) (y := g.y) hd₁ hn address'
  have hcover : { m₁ with i := g.index }.sprite g.x g.y g.height = m.cover g :=
    sprite_congr { m with i := g.index } { m₁ with i := g.index } h₁.memory rfl
      (h₁.others g.x g.x_ne) (h₁.others g.y g.y_ne) g.height
  refine ⟨m₂, hm₂, ?_⟩
  rw [h₂.display, hcover, h₁.display]

/-- **Drawings undo themselves and commute.** On a binary display, a drawing that succeeds can be made again;
then the display is as it was, and the flag is set exactly if a set bit of the sprite fell on a cell that was
off. Two drawings that succeed can be made one after the other, and the display does not tell in which order,
wherever the sprites overlap and wrap around. -/
theorem draws_cancel_and_commute {m : Machine} (hd : m.display.Binary) :
    (∀ (x y n : Nibble) (address address' : Int) (m₁ : Machine), x ≠ flagRegister → y ≠ flagRegister →
      m.execute (wordOf 0xD x y n) address = .ok m₁ →
      ∃ m₂, m₁.execute (wordOf 0xD x y n) address' = .ok m₂ ∧ m₂.display = m.display ∧
        (m₂.register flagRegister = 1 ↔
          ∃ row < n.val, ∃ column < 8, m.spriteBit row column = true ∧
            m.display.get (Display.cell ((m.register x).toNat + column) ((m.register y).toNat + row)) = 0)) ∧
    ∀ (g g' : Drawing) (a b a' b' : Int) (m₁ m₁' : Machine),
      m.sketch g a = .ok m₁ → m.sketch g' a' = .ok m₁' →
      ∃ m₂ m₂', m₁.sketch g' b' = .ok m₂ ∧ m₁'.sketch g b = .ok m₂' ∧ m₂.display = m₂'.display := by
  constructor
  · intro x y n address address' m₁ hx hy h
    obtain ⟨m₂, hm₂, hdisplay, hflag⟩ := draw_twice hd hx hy h address'
    refine ⟨m₂, hm₂, hdisplay, hflag.trans ?_⟩
    simp only [sprite, Display.mem_pixels]
    constructor
    · rintro ⟨k, ⟨row, hrow, column, hcolumn, hbit, rfl⟩, hoff⟩
      exact ⟨row, hrow, column, hcolumn, hbit, hoff⟩
    · rintro ⟨row, hrow, column, hcolumn, hbit, hoff⟩
      exact ⟨_, ⟨row, hrow, column, hcolumn, hbit, rfl⟩, hoff⟩
  · intro g g' a b a' b' m₁ m₁' h h'
    have h₁ := drawnOver_of_sketch hd h
    have h₁' := drawnOver_of_sketch hd h'
    obtain ⟨m₂, hm₂, hdisplay⟩ := sketch_after hd h₁ h' b'
    obtain ⟨m₂', hm₂', hdisplay'⟩ := sketch_after hd h₁' h b
    exact ⟨m₂, m₂', hm₂, hm₂', by rw [hdisplay, hdisplay', Display.flip_comm]⟩

/-- A machine with three rows of a sprite and two origins so close to each other, and to the last cell, that
the sprites overlap and wrap around. -/
def crossing : Machine :=
  { start ⟨0, 0⟩ with
    memory := Memory.blank.store 0x300 [0xFF, 0x81, 0xFF]
    i := 0x300
    display := (Display.blank.flipCell (Display.cell 60 30)).flipCell (Display.cell 0 0)
    v := ((((Vector.replicate 16 0).set 1 60).set 2 30).set 3 62).set 4 31 }

/-- Two rows at one origin. -/
def upper : Drawing :=
  ⟨0x300, Nibble.ofNat 1, Nibble.ofNat 2, Nibble.ofNat 2, by decide, by decide⟩

/-- Three rows at the other origin, from the second row of the sprite on. -/
def lower : Drawing :=
  ⟨0x301, Nibble.ofNat 3, Nibble.ofNat 4, Nibble.ofNat 3, by decide, by decide⟩

/-- The sprite drawn twice at one origin is gone, and some of its pixels were off. Drawn at both origins, it
leaves the display that it leaves the other way round. -/
theorem draws_cancel_and_commute_crossing :
    (∃ m₁ m₂, crossing.execute (wordOf 0xD 0x1 0x2 0x3) 0x200 = .ok m₁ ∧
        m₁.execute (wordOf 0xD 0x1 0x2 0x3) 0x202 = .ok m₂ ∧ m₂.display = crossing.display ∧
        m₂.register flagRegister = 1) ∧
      ∃ m₁ m₁' m₂ m₂', crossing.sketch upper 0x200 = .ok m₁ ∧ crossing.sketch lower 0x200 = .ok m₁' ∧
        m₁.sketch lower 0x202 = .ok m₂ ∧ m₁'.sketch upper 0x202 = .ok m₂' ∧ m₂.display = m₂'.display := by
  have hd : crossing.display.Binary := (Display.binary_blank.flipCell _).flipCell _
  obtain ⟨hcancel, hcommute⟩ := draws_cancel_and_commute hd
  constructor
  · obtain ⟨m₁, h₁, -⟩ := execute_draw (x := 0x1) (y := 0x2) (n := 0x3) hd (by decide) 0x200
    obtain ⟨m₂, h₂, hdisplay, hflag⟩ :=
      hcancel 0x1 0x2 0x3 0x200 0x202 m₁ (by decide) (by decide) h₁
    have hoff : ∃ row < 3, ∃ column < 8, crossing.spriteBit row column = true ∧
        crossing.display.get (Display.cell (60 + column) (30 + row)) = 0 :=
      ⟨0, by decide, 1, by decide, by decide +kernel, by decide +kernel⟩
    exact ⟨m₁, m₂, h₁, h₂, hdisplay, hflag.mpr hoff⟩
  · obtain ⟨m₁, h₁, -⟩ := execute_draw (m := { crossing with i := 0x300 }) (x := 0x1) (y := 0x2) (n := 0x2)
      hd (by decide) 0x200
    obtain ⟨m₁', h₁', -⟩ := execute_draw (m := { crossing with i := 0x301 }) (x := 0x3) (y := 0x4) (n := 0x3)
      hd (by decide) 0x200
    obtain ⟨m₂, m₂', h₂, h₂', hdisplay⟩ := hcommute upper lower 0x200 0x200 0x202 0x202 m₁ m₁' h₁ h₁'
    exact ⟨m₁, m₁', m₂, m₂', h₁, h₁', h₂, h₂', hdisplay⟩

end Chip8.Machine

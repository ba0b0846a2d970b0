import Chip8.Display
import Chip8.Text.Quoted

/-!
# Rendering

A framebuffer as a picture: each cell becomes a square of `scale` by `scale` pixels, in one colour
if it is lit and in another if it is dark. Colour schemes have names.
-/

namespace Chip8.Rendering

/-- The components of a colour. -/
abbrev Colour := List UInt8

/-- A colour for lit cells and one for dark cells. -/
structure Scheme where
  /-- The colour of a lit cell. -/
  on : Colour
  /-- The colour of a dark cell. -/
  off : Colour
deriving DecidableEq, Repr

/-- The colour schemes and their names. -/
def schemes : List (String × Scheme) :=
  [("white", ⟨[255, 255, 255], [0, 0, 0]⟩),
   ("classic", ⟨[0, 255, 0], [0, 0, 0]⟩),
   ("amber", ⟨[255, 176, 0], [0, 0, 0]⟩),
   ("blue", ⟨[0, 255, 255], [0, 0, 64]⟩),
   ("retro", ⟨[255, 255, 0], [64, 0, 64]⟩),
   ("octo", ⟨[255, 204, 0], [153, 102, 0]⟩)]

/-- The names of the colour schemes. -/
def schemeNames : List String := schemes.map (·.1)

/-- The names of the colour schemes, as messages list them. -/
def availableSchemes : String := Text.quotedList schemeNames

/-- Why nothing can be rendered. -/
inductive Error where
  /-- No scheme has this name. -/
  | unknownScheme (name : String)
  /-- The number of cells is not that of a framebuffer. -/
  | badSize (size : Nat)
  /-- The two colours differ in their number of components. -/
  | unevenColours
  /-- A component of a colour is not a byte. -/
  | badComponent (component : Int)
deriving DecidableEq, Repr

/-- The report of an error, if there is one. -/
def Error.message? : Error → Option String
  | unknownScheme name =>
    some ("Unknown color scheme '" ++ name ++ "'. Available: " ++ availableSchemes)
  | badSize size =>
    some ("cannot reshape array of size " ++ toString size ++ " into shape (32,64)")
  | unevenColours =>
    some ("setting an array element with a sequence. The requested array has an inhomogeneous "
      ++ "shape after 1 dimensions. The detected shape was (2,) + inhomogeneous part.")
  | badComponent _ => none

/-- The colour scheme with a name. -/
def scheme (name : String) : Except Error Scheme :=
  match schemes.lookup name with
  | some s => .ok s
  | none => .error (.unknownScheme name)

/-- A component given as a number. -/
def component (z : Int) : Except Error UInt8 :=
  if 0 ≤ z ∧ z < 256 then .ok (UInt8.ofNat z.toNat) else .error (.badComponent z)

/-- Two colours given as numbers. -/
def Scheme.ofInts (on off : List Int) : Except Error Scheme :=
  if on.length ≠ off.length then .error .unevenColours
  else do
    let off ← off.mapM component
    let on ← on.mapM component
    return { on, off }

/-- A picture, row by row. -/
abbrev Picture := List (List Colour)

/-- Each item `s` times in a row. -/
def stretch {α : Type} (s : Nat) (xs : List α) : List α := xs.flatMap fun x => List.replicate s x

/-- A framebuffer given as numbers. -/
def frame (cells : List UInt8) : Except Error Display :=
  if h : cells.toArray.size = 2048 then .ok ⟨cells.toArray, h⟩ else .error (.badSize cells.length)

/-- How many pixels wide and high a cell is: a scale below two is one. -/
def pixels (scale : Int) : Nat := if 1 < scale then scale.toNat else 1

/-- The colour of a cell. -/
def Scheme.colour (s : Scheme) (d : Display) (k : Fin 2048) : Colour :=
  if d.lit k then s.on else s.off

/-- The picture with one pixel for each cell. -/
def cellPicture (s : Scheme) (d : Display) : Picture :=
  (List.range Display.rows).map fun row =>
    (List.range Display.columns).map fun column => s.colour d (Display.cell column row)

/-- The picture of a framebuffer. -/
def picture (s : Scheme) (scale : Int) (d : Display) : Picture :=
  stretch (pixels scale) ((cellPicture s d).map (stretch (pixels scale)))

end Chip8.Rendering

/-!
# The frame slot

Holds the latest frame for the window. Each frame is taken at most once, and one that is overtaken
by a later one is never taken.
-/

namespace Chip8.Pacing

/-- The latest frame and whether it is still to be taken. -/
structure FrameSlot (α : Type) where
  /-- The latest frame, if there has been one. -/
  frame : Option α
  /-- Whether nobody has taken it. -/
  fresh : Bool
deriving DecidableEq, Repr

namespace FrameSlot

variable {α : Type}

/-- The slot before the first frame. -/
def empty : FrameSlot α := ⟨none, false⟩

/-- Puts a frame in the place of the latest one. -/
def publish (_ : FrameSlot α) (frame : α) : FrameSlot α := ⟨some frame, true⟩

/-- Takes the latest frame if nobody has. -/
def take (s : FrameSlot α) : Option α × FrameSlot α :=
  if s.fresh then (s.frame, { s with fresh := false }) else (none, s)

end FrameSlot

end Chip8.Pacing

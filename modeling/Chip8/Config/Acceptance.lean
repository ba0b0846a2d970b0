import Chip8.Config.Error
import Chip8.Config.Reference.Simple

/-!
# Acceptance

The value of a document becomes a tree of a configuration if each key is something, no map has an
integer and its digits as keys, no value is a date or a set, and each text with references can be
read or has only simple ones. The value is gone through in its order, and the first that is wrong is
reported. Three question marks behind backslashes stand for themselves, with one backslash less.
-/

namespace Chip8.Config

/-- How many backslashes stand in front of three question marks, if a text is no more. -/
def slashes? (s : String) : Option Nat :=
  let slashes := s.toList.takeWhile (· == '\\')
  if s.toList.drop slashes.length = Value.missing.toList then some slashes.length else none

/-- Whether one of two keys is an integer and the other one its digits. -/
def conflicts : Value → Value → Bool
  | .int z, .text s => toString z == s
  | .text s, .int z => toString z == s
  | _, _ => false

/-- Refuses a key beside those that a map has. -/
def acceptKey (map : Path) (present : List Value) (key : Value) : Except Error Unit :=
  match key with
  | .null => .error (.nullKey map)
  | .foreign kind => .error (.foreignKey kind)
  | key =>
    match present.find? (conflicts key) with
    | some old => .error (.conflictingKeys (map ++ [.key key]) old key)
    | none => .ok ()

/-- Refuses a text with references that cannot be read and do not all look simple. -/
def acceptReferences (path : Path) (s : String) : Except Error Unit :=
  if Reference.refers s.toList && !Reference.looksSimple s then
    match Reference.parse s with
    | .ok _ => .ok ()
    | .error e => .error (.badReferences path s e)
  else .ok ()

/-- A text of a tree. -/
def acceptText (path : Path) (s : String) : Except Error Value :=
  match slashes? s with
  | some (n + 1) => .ok (.questionMarks n)
  | _ => (acceptReferences path s).map fun _ => .text s

mutual

/-- A value of a tree. -/
def accept (path : Path) : Value → Except Error Value
  | .text s => acceptText path s
  | .foreign kind => .error (.foreignValue path kind)
  | .list items => (acceptItems path 0 items).map .list
  | .pair a b => do
    let a ← accept (path ++ [.index 0]) a
    return .pair a (← accept (path ++ [.index 1]) b)
  | .map entries => (acceptEntries path [] entries).map .map
  | v => .ok v

/-- The items of a list from an index on. -/
def acceptItems (path : Path) (i : Nat) : List Value → Except Error (List Value)
  | [] => .ok []
  | v :: vs => do
    let v ← accept (path ++ [.index i]) v
    return v :: (← acceptItems path (i + 1) vs)

/-- The entries of a map beside the keys that it has. -/
def acceptEntries (path : Path) (present : List Value) :
    List (Value × Value) → Except Error (List (Value × Value))
  | [] => .ok []
  | (k, v) :: es => do
    acceptKey path present k
    let v ← accept (path ++ [.key k]) v
    return (k, v) :: (← acceptEntries path (present ++ [k]) es)

end

end Chip8.Config

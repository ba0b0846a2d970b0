import Chip8.Text.Integer
import Chip8.Value

/-!
# Paths

A place in a tree of lists and maps, as the keys and indices that lead to it. A path is also written
as one text, its parts behind dots or between brackets.
-/

namespace Chip8

/-- The values inside of a list or a pair. -/
def Value.items? : Value → Option (List Value)
  | list items => some items
  | pair a b => some [a, b]
  | _ => none

/-- Whether a value has values inside. -/
def Value.isContainer : Value → Bool
  | map _ => true
  | v => v.items?.isSome

mutual

/-- Whether an integer in a value has too many digits to be written. -/
def Value.isTooLong : Value → Bool
  | int z => Text.isTooLong z
  | list items => Value.anyTooLong items
  | pair a b => a.isTooLong || b.isTooLong
  | map entries => Value.anyEntryTooLong entries
  | _ => false

/-- Whether an integer in some values has too many digits to be written. -/
def Value.anyTooLong : List Value → Bool
  | [] => false
  | v :: vs => v.isTooLong || Value.anyTooLong vs

/-- Whether an integer in some entries has too many digits to be written. -/
def Value.anyEntryTooLong : List (Value × Value) → Bool
  | [] => false
  | (k, v) :: es => k.isTooLong || v.isTooLong || Value.anyEntryTooLong es

end

namespace Config

/-- A step from a list or a map to what is inside. -/
inductive Step where
  | key (k : Value)
  | index (i : Int)

namespace Step

/-- The key or the index of a step. -/
def bare : Step → String
  | key k => k.toText
  | index i => toString i

/-- A step as a part of a path. -/
def text : Step → String
  | key k => k.toText
  | index i => "[" ++ toString i ++ "]"

/-- Whether a step leads into a list. -/
def isIndex : Step → Bool
  | key _ => false
  | index _ => true

/-- Whether two steps lead to the same value. -/
def isSame : Step → Step → Bool
  | key a, key b => a.isSameKey b
  | index i, index j => i == j
  | _, _ => false

end Step

/-- The steps from the root of a tree. -/
abbrev Path := List Step

namespace Path

/-- The text of a path whose last step is shown in its own way. -/
def textWith (last : Step → String) : Path → String
  | [] => ""
  | [s] => last s
  | s :: t :: rest =>
    let behind := textWith last (t :: rest)
    if behind.isEmpty then s.text else s.text ++ (if t.isIndex then "" else ".") ++ behind

/-- The text of the path of a list or a map itself: its own key or index is bare. -/
def ownText (p : Path) : String := p.textWith Step.bare

/-- The text of a path. If its last key is empty, it is that of the map itself. -/
def text (p : Path) : String :=
  match p.getLast? with
  | some (.key (.text "")) => ownText p.dropLast
  | _ => p.textWith Step.text

/-- Whether what is at a path is, or has inside of it, what is at another one. -/
def leadsTo : Path → Path → Bool
  | [], _ => true
  | s :: p, t :: q => s.isSame t && leadsTo p q
  | _ :: _, [] => false

/-- A value for one step. -/
def child? (v : Value) : Step → Option Value
  | .key k =>
    match v with
    | .map entries => (entries.find? fun (k', _) => k'.isSameKey k).map (·.2)
    | _ => none
  | .index i => if i < 0 then none else v.items?.bind (·[i.toNat]?)

/-- The value at a path. -/
def get? (root : Value) : Path → Option Value
  | [] => some root
  | s :: rest => (child? root s).bind fun v => get? v rest

/-- Puts a value in the place of one step. -/
def setChild (v child : Value) : Step → Value
  | .key k =>
    match v with
    | .map entries =>
      if entries.any fun (k', _) => k'.isSameKey k then
        .map (entries.map fun (k', v') => if k'.isSameKey k then (k', child) else (k', v'))
      else .map (entries ++ [(k, child)])
    | v => v
  | .index i =>
    match v with
    | .list items => .list (items.set i.toNat child)
    | .pair a b => if i.toNat = 0 then .pair child b else .pair a child
    | v => v

/-- Puts a value at a path. -/
def set (value : Value) (root : Value) : Path → Value
  | [] => value
  | s :: rest =>
    match child? root s with
    | some v => setChild root (set value v rest) s
    | none => setChild root value s

end Path

/-! ### Paths in text -/

namespace KeyText

/-- A character of a path, and whether it stands for itself only. -/
structure Mark where
  /-- The character. -/
  char : Char
  /-- Whether it stands for itself only. -/
  escaped : Bool

/-- The characters of a path. A backslash in front of a dot, a bracket or an equals sign makes it
stand for itself. -/
def marks : List Char → List Mark
  | '\\' :: c :: rest =>
    if ['.', '[', ']', '='].contains c then ⟨c, true⟩ :: marks rest
    else ⟨'\\', false⟩ :: marks (c :: rest)
  | c :: rest => ⟨c, false⟩ :: marks rest
  | [] => []

/-- Whether a mark is a sign. -/
def Mark.is (m : Mark) (c : Char) : Bool := m.char == c && !m.escaped

/-- Whether a mark belongs to a part. -/
def Mark.inPart (m : Mark) : Bool := !m.is '.' && !m.is '['

/-- The text of marks. -/
def text (ms : List Mark) : String := String.ofList (ms.map Mark.char)

/-- What stands between brackets, if they are closed on their line. -/
def bracketed? (ms : List Mark) : Option (List Mark) :=
  let inner := ms.takeWhile fun m => !m.is ']'
  if inner.length < ms.length && !inner.any (·.char == '\n') then some inner else none

/-- The parts behind the first one, each behind a dot or between brackets. What is neither is passed
over. A bracket that is not closed is passed over, too, or ends all. -/
def others (bracketEnds : Bool) : Nat → List Mark → List String
  | 0, _ => []
  | _ + 1, [] => []
  | fuel + 1, m :: ms =>
    if m.is '.' then
      let part := ms.takeWhile Mark.inPart
      text part :: others bracketEnds fuel (ms.drop part.length)
    else if m.is '[' then
      match bracketed? ms with
      | some inner => text inner :: others bracketEnds fuel (ms.drop (inner.length + 1))
      | none => if bracketEnds then [] else others bracketEnds fuel ms
    else others bracketEnds fuel ms

/-- The parts of a path. Each dot at the start has an empty part before it; brackets that come first
have none before them. A bracket that is not closed ends a path with a backslash in it. -/
def parts (key : String) : List String :=
  let cs := key.toList
  let ms := marks cs
  let dots := (ms.takeWhile (·.is '.')).length
  let first := (ms.drop dots).takeWhile Mark.inPart
  let rest := ms.drop (dots + first.length)
  let head := List.replicate dots "" ++
    (if first.isEmpty && rest.head?.any (·.is '[') then [] else [text first])
  head ++ others (cs.contains '\\') (rest.length + 1) rest

end KeyText

end Config

end Chip8

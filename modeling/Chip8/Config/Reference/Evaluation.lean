import Chip8.Config.Reference.Function

/-!
# What references stand for

The value of a text with references. A text that is one reference stands for the value itself, any
other for the texts of its pieces. Of a call the name is found first, then its arguments in their
order, and only then whether there is such a function.
-/

namespace Chip8.Config.Reference

variable {E : Type}

/-- What a reference with a path stands for, given what the path leads to. -/
def Scope.settle (s : Scope E) {α : Type} (path : String) : Target α → Except E α
  | .found a => .ok a
  | .around _ => .error (s.fail .toParent)
  | .absent =>
    let rest := String.ofList (path.toList.dropWhile (· == '.'))
    .error (s.fail (.notFound path (if path.startsWith "." then some rest else none)))
  | .leftOpen place => .error (s.fail (.leftOpen place))
  | .outside => .error (s.fail (.outside path))
  | .closed path parent child => .error (s.fail (.notContainer path parent child))

/-- A part of a path, from what it stands for. -/
def Scope.keyText (s : Scope E) (r : Found) (source : String) : Except E String :=
  match r.value with
  | .text text => .ok text
  | .int z => s.textOf (.int z)
  | _ => .error (s.fail (.notKey r source))

/-- A part of the name of a function, from what it stands for. -/
def Scope.nameText (s : Scope E) (r : Found) (source : String) : Except E String :=
  match r.value with
  | .text text => .ok text
  | _ => .error (s.fail (.notFunctionName r source))

mutual

/-- The value of a piece. `read` reads a text as an argument. -/
def Piece.value (s : Scope E) (read : String → Except E Found) : Piece → Except E Found
  | .literal text => .ok (.ofValue (.text text))
  | .constant v => .ok (.ofValue v)
  | .longInteger digits => s.refuse (.longInteger digits)
  | .blank => s.refuse .blank
  | .joined pieces => (Piece.join s read (fun r _ => s.textOf r.value) pieces).map fun t =>
    .ofValue (.text t)
  | .list items => (Piece.values s read items).map fun rs => ⟨.list (rs.map Found.value), true⟩
  | .map entries => (Piece.entries s read entries).map fun es => ⟨.map es, true⟩
  | .setting path _ => do
    let path ← Piece.join s read s.keyText path
    return .ofValue (← s.settle path (← s.find path))
  | .call name arguments _ => do
    let name ← Piece.join s read s.nameText name
    let arguments ← Piece.values s read arguments
    match Function.ofName? name with
    | some f => s.call read f arguments
    | none => .error (s.fail (.noFunction name))

/-- The values of pieces. -/
def Piece.values (s : Scope E) (read : String → Except E Found) :
    List Piece → Except E (List Found)
  | [] => .ok []
  | p :: ps => do
    let r ← Piece.value s read p
    return r :: (← Piece.values s read ps)

/-- The entries of a map of pieces. A key that stands twice has its last value. -/
def Piece.entries (s : Scope E) (read : String → Except E Found) :
    List (Piece × Piece) → Except E (List (Value × Value))
  | [] => .ok []
  | (k, v) :: es => do
    let k ← Piece.value s read k
    let v ← Piece.value s read v
    let es ← Piece.entries s read es
    return match es.find? fun (k', _) => k'.isSameKey k.value with
      | some (_, v') =>
        (k.value, v') :: es.filter fun (k', _) => !k'.isSameKey k.value
      | none => (k.value, v.value) :: es

/-- The texts of pieces, one behind the other. -/
def Piece.join (s : Scope E) (read : String → Except E Found)
    (text : Found → String → Except E String) : List Piece → Except E String
  | [] => .ok ""
  | p :: ps => do
    let t ← text (← Piece.value s read p) p.source
    return t ++ (← Piece.join s read text ps)

end

/-- The value of a text that is read as an argument, and texts inside of it at most `depth` times
over. -/
def readArgument (s : Scope E) : Nat → String → Except E Found
  | 0, _ => .error (s.fail .cyclic)
  | depth + 1, text =>
    match parseArgument text with
    | .ok p => p.value s (readArgument s depth)
    | .error e => s.refuse (.unreadable e)

/-- The value of a text with references, texts inside of it being read at most `depth` times
over. -/
def evaluate (s : Scope E) (depth : Nat) (p : Piece) : Except E Found :=
  p.value s (readArgument s depth)

/-- The text of a path, by its pieces. -/
def pathText (s : Scope E) (depth : Nat) (path : List Piece) : Except E String :=
  Piece.join s (readArgument s depth) s.keyText path

/-- A path without the dot that starts it at the list or the map it stands in, and how many more
dots lead outwards. -/
def outward (path : String) : String × Nat :=
  match path.toList with
  | '.' :: rest =>
    let dots := (rest.takeWhile (· == '.')).length
    (String.ofList (rest.drop dots), dots)
  | _ => (path, 0)

end Chip8.Config.Reference

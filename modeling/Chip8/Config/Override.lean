import Chip8.Config.Reference.Evaluation

/-!
# Overrides

Settings given as a path, an equals sign and a document. Without the sign the value is nothing. All
overrides are put together in one tree before they are merged into a configuration. The path of an
override leads through maps and lists, and through references to paths of such; what else it meets
makes way for a map. A value takes the place of the one before, but two maps are joined.
-/

namespace Chip8.Config

/-- An override: the parts of its path and its value. -/
structure Override where
  /-- The parts of the path. -/
  path : List String
  /-- The value. -/
  value : Value

namespace Override

/-- The path and the document of an override, which an equals sign without a backslash in front of
it divides. -/
def divide : List Char → List Char × Option (List Char)
  | '\\' :: '=' :: cs =>
    let (path, document) := divide cs
    ('\\' :: '=' :: path, document)
  | '=' :: cs => ([], some cs)
  | c :: cs =>
    let (path, document) := divide cs
    (c :: path, document)
  | [] => ([], none)

/-- Reads an override. -/
def read (s : String) : Except Error Override :=
  let (path, document) := divide s.toList
  let path := KeyText.parts (String.ofList path)
  match document with
  | none => .ok ⟨path, .null⟩
  | some cs =>
    match Yaml.parse (String.ofList cs) with
    | .ok value => .ok ⟨path, value⟩
    | .error e => .error (.malformed e)

/-! ### References in the tree -/

/-- The index in a list that an integer names, from the end if it is negative. -/
def position? (items : List Value) (i : Int) : Option Nat :=
  let k := if i < 0 then i + items.length else i
  if 0 ≤ k ∧ k < items.length then some k.toNat else none

/-- The value of a key that is an integer and no number of another kind. -/
def integerChild? (container : Value) (z : Int) : Option Value :=
  match container with
  | .map entries =>
    (entries.find? fun (k, _) =>
      match k with
      | .int z' => z' == z
      | _ => false).map (·.2)
  | _ => none

/-- The step that a part of a path makes from a value, and what is there. A text is a key before the
integer that it writes. -/
def select (container : Value) (part : String) : Except Reference.Failure (Step × Option Value) :=
  match container.items? with
  | some items =>
    match Text.integer? part with
    | none => .error (.notIndex part)
    | some i =>
      match position? items i with
      | some k => .ok (.index k, items[k]?)
      | none => .ok (.index i, none)
  | none =>
    let named := Step.key (.text part)
    match Path.child? container named, Text.integer? part with
    | some v, _ => .ok (named, some v)
    | none, some z =>
      match integerChild? container z with
      | some v => .ok (.key (.int z), some v)
      | none => .ok (named, none)
    | none, none => .ok (named, none)

/-- A value and its place in a tree. -/
abbrev Located := Path × Value

/-- What the parts of a path lead to from a list or a map, given what the values on the way stand
for. -/
def descend (follow : Located → Except Reference.Failure Located) (all before : List String)
    (here : Located) : List String → Except Reference.Failure (Reference.Target Located)
  | [] => .ok (.found here)
  | part :: after => do
    let (path, v) := here
    if !v.isContainer then
      return .closed (".".intercalate all) (".".intercalate before) part
    let (step, child) ← select v part
    match child with
    | none => return .absent
    | some child =>
      if child.isMissing then return .leftOpen (Path.text (path ++ [step]))
      descend follow all (before ++ [part]) (← follow (path ++ [step], child)) after

/-- What the path of a reference leads to in a tree, from the list or the map where the reference
stands. -/
def find (follow : Located → Except Reference.Failure Located) (root : Value) (base : Path)
    (path : String) : Except Reference.Failure (Reference.Target Located) := do
  let (rest, dots) := Reference.outward path
  if base.length < dots then return .outside
  let start := if path.startsWith "." then base.take (base.length - dots) else []
  let here : Located := (start, (Path.get? root start).getD .null)
  if rest.isEmpty then return .around here
  match KeyText.parts rest with
  | [] => throw (.call .noParts)
  | parts =>
    match ← descend follow parts [] here parts with
    | .found there => return if there.1.leadsTo base then .around there else .found there
    | target => return target

/-- A target without its place. -/
def targetValue : Reference.Target Located → Reference.Target Value
  | .found l => .found l.2
  | .around l => .around l.2
  | .absent => .absent
  | .leftOpen path => .leftOpen path
  | .outside => .outside
  | .closed path parent child => .closed path parent child

variable (environment : String → Option String) (root : Value)

/-- What can be asked where a value stands, given what values stand for. -/
def scope (follow : Located → Except Reference.Failure Located) (path : Path) :
    Reference.Scope Reference.Failure :=
  { find := fun key => (find follow root path.dropLast key).map targetValue, fail := id,
    environment, place := path.text }

/-- What a value of a tree stands for: of a reference to another place, that place. -/
def follow : Nat → Located → Except Reference.Failure Located
  | 0, _ => .error .cyclic
  | depth + 1, (path, v) =>
    match v with
    | .text s =>
      if !Reference.refers s.toList then .ok (path, v)
      else do
        let scope := scope environment root (follow depth) path
        match Reference.parse s with
        | .error e => throw (.call (.unreadable e))
        | .ok (.setting keys _) =>
          let key ← Reference.pathText scope depth keys
          scope.settle key (← find (follow depth) root path.dropLast key)
        | .ok piece => return (path, (← Reference.evaluate scope depth piece).value)
    | v => .ok (path, v)

/-- Where a value leads that stands on the path of an override: of a reference to another place, to
that place. Other references lead nowhere. -/
def followPath (depth : Nat) (there : Located) : Except Reference.Failure Located :=
  match there with
  | (path, .text s) =>
    match Reference.parse s with
    | .ok (.setting keys _) => do
      let follow := follow environment root depth
      let scope := scope environment root follow path
      let key ← Reference.pathText scope depth keys
      match ← find follow root path.dropLast key with
      | .absent => throw (.notFound (Reference.outward key).1 none)
      | target => scope.settle key target
    | _ => .ok there
  | _ => .ok there

/-! ### Putting overrides together -/

mutual

/-- Joins a value into another one of the same shape: a list takes its place, the entries of a map
are joined with those of the other. `refuse` is the error of two different shapes, and `resolved`
gives what a value stands for. -/
def join (refuse : Error) (resolved : Value → Value) (path : Path) (old : Value) :
    Value → Except Error Value
  | .map entries =>
    match old with
    | .map oldEntries => (joinEntries refuse resolved path oldEntries entries).map .map
    | _ => .error refuse
  | .list items =>
    match old with
    | .list _ => .ok (.list items)
    | _ => .error refuse
  | v => .ok v

/-- Joins entries into those of a map. The text that leaves a setting as it is leaves a value. -/
def joinEntries (refuse : Error) (resolved : Value → Value) (path : Path)
    (old : List (Value × Value)) : List (Value × Value) → Except Error (List (Value × Value))
  | [] => .ok old
  | (k, v) :: es => do
    let step := Step.key k
    let map := Value.map old
    let joined ←
      match Path.child? map step with
      | none => do
        acceptKey path (old.map (·.1)) k
        pure v
      | some before =>
        let before := resolved before
        if v.isMissing then pure before
        else if before.isContainer && v.isContainer then
          join refuse resolved (path ++ [step]) before v
        else pure v
    match Path.setChild map joined step with
    | .map old => joinEntries refuse resolved path old es
    | _ => .ok old

end

/-- The step that an integer makes from a list, for a value to be put there. -/
def itemStep (path : Path) (items : List Value) (i : Int) : Except Error Step :=
  match position? items i with
  | some k => .ok (.index k)
  | none => .error (.indexOutOfRange (path ++ [.index i]))

/-- Goes on from the container at a path of a tree to the one that a part leads to. What is no
container makes way for an empty map. -/
def enter (depth : Nat) (state : Value × Path) (part : String) : Except Error (Value × Path) := do
  let (root, path) := state
  let container := (Path.get? root path).getD .null
  let (step, child) ← (select container part).mapError fun _ => Error.notIndex false
  let there ← match child with
    | some v =>
      ((followPath environment root depth (path ++ [step], v)).map some).mapError Error.badPath
    | none => pure none
  match there with
  | some (there, v) =>
    if v.isContainer then return (root, there)
  | none => pure ()
  let step ← match container.items?, step with
    | some items, .index i => itemStep path items i
    | _, step => pure step
  return (Path.set (.map []) root (path ++ [step]), path ++ [step])

/-- The last step of the path of an override, from the container at a path. -/
def lastStep (path : Path) (container : Value) (part : String) : Except Error Step :=
  match container.items? with
  | some items =>
    match Text.integer? part with
    | some i => itemStep path items i
    | none => .error (.notIndex true)
  | none => ((select container part).map (·.1)).mapError fun _ => .notIndex true

/-- Puts the value of an override into a tree. -/
def put (depth : Nat) (root : Value) (o : Override) : Except Error Value := do
  let some last := o.path.getLast? | throw .emptyPath
  let (root, path) ← o.path.dropLast.foldlM (enter environment depth) (root, [])
  let container := (Path.get? root path).getD .null
  let step ← lastStep path container last
  let place := path ++ [step]
  match Path.child? container step with
  | some old =>
    if old.isContainer && o.value.isContainer then
      let value ← accept [] o.value
      let holder := if old.items?.isSome then Holder.list else Holder.map
      let resolved (v : Value) : Value :=
        match follow environment root depth (place, v) with
        | .ok (_, target) => if target.isContainer then target else v
        | .error _ => v
      return Path.set (← join (.incompatible place holder) resolved place old value) root place
    else return Path.set (← accept place o.value) root place
  | none => return Path.set (← accept place o.value) root place

/-- All overrides, put together in their order. -/
def gather (overrides : List String) : Except Error (List (Value × Value)) := do
  let depth := (String.join overrides).length + 1
  let root ← overrides.foldlM (fun root s => do put environment depth root (← read s)) (.map [])
  match root with
  | .map entries => return entries
  | _ => return []

end Override

end Chip8.Config

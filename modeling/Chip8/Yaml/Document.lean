import Chip8.Yaml.Node

/-!
# Documents

The value of a text that holds one document. What is wrong with it is looked for level by level: the
entries of a mapping before what is inside of them, so of several nodes without a value the
outermost is reported, and of those the first. Before the entries of a mapping are looked at, those
of other mappings are merged into it, which also a mapping that stands at several places keeps.
-/

namespace Chip8.Yaml

/-! ### Mappings -/

/-- Refuses a text that is twice a key. -/
def checkKeys : List (Node × Node) → Except Error Unit
  | [] => .ok ()
  | (.scalar .text s, _) :: rest =>
    let isSame : Node × Node → Bool
      | (.scalar .text t, _) => s == t
      | _ => false
    if rest.any isSame then .error (.duplicateKey s) else checkKeys rest
  | _ :: rest => checkKeys rest

/-- An entry with a text as its key where an equals sign stands for one. -/
def plainKey : Node × Node → Node × Node
  | (.scalar .default s, value) => (.scalar .text s, value)
  | entry => entry

/-- What is known while a document is looked through. -/
structure Survey where
  /-- The mappings whose entries are looked through already. -/
  seen : List Nat
  /-- The entries of mappings with those that are merged into them. -/
  merged : List (Nat × List (Node × Node))

/-- A look at a document. -/
abbrev Look := StateT Survey (Except Error)

/-- The entries of a mapping with those that are merged into it in front. The entries that it has
are checked before, also if some are merged into it already. -/
def mergedEntries : Nat → Nat → List (Node × Node) → Look (List (Node × Node))
  | 0, _, entries => return entries
  | fuel + 1, number, entries => do
    let entries := ((← get).merged.lookup number).getD entries
    checkKeys entries
    let inner (n : Node) : Look (List (Node × Node)) :=
      match n with
      | .mapping _ number entries => mergedEntries fuel number entries
      | _ => throw .badMerge
    let others ← entries.mapM fun (key, value) =>
      if key.kind == .merge then
        match value with
        | .sequence _ items => return (← items.mapM inner).reverse.flatten
        | value => inner value
      else return []
    let own := (entries.filter fun (key, _) => key.kind != .merge).map plainKey
    let all := others.flatten ++ own
    modify fun s => { s with merged := (number, all) :: s.merged }
    return all

/-- The scalar that stands for a node of a scalar kind: itself, or of a mapping the value behind its
equals sign. -/
def scalarOf? : Nat → Node → Option String
  | 0, _ => none
  | fuel + 1, n =>
    match n with
    | .scalar _ s => some s
    | .mapping _ _ entries =>
      (entries.find? fun (key, _) => key.kind == .default).bind fun (_, v) => scalarOf? fuel v
    | .sequence .. => none

/-- The value of a node of a scalar kind. -/
def scalarValue (fuel : Nat) (n : Node) : Except Error Value :=
  match scalarOf? fuel n with
  | some s => Scalar.value n.kind s
  | none => .error .valuelessTag

/-- Whether the values of a kind have values inside. -/
def Kind.isContainer (k : Kind) : Bool := [sequence, mapping, set, pairs].contains k

/-! ### Faults -/

/-- Refuses a key without a value, or with a value that can be no key. -/
def surveyKey (fuel : Nat) (n : Node) : Look Unit := do
  if n.kind == .default then return ()
  if n.kind.isContainer then throw .compositeKey
  let _ ← scalarValue fuel n

/-- Refuses a node without a value. What is inside of it is put off. -/
def surveyValue (fuel : Nat) (n : Node) : Look (List Node) := do
  if n.kind.isContainer then return [n]
  let _ ← scalarValue fuel n
  return []

/-- The one entry of a mapping, as an item of pairs must be. -/
def entryOf : Node → Except Error (Node × Node)
  | .mapping _ _ [entry] => .ok entry
  | _ => .error .valuelessTag

/-- Looks through what is inside of a node, and gives what is put off. -/
def surveyInside (fuel : Nat) (n : Node) : Look (List Node) := do
  match n.kind, n with
  | .sequence, .sequence _ items => return (← items.mapM (surveyValue fuel)).flatten
  | .pairs, .sequence _ items =>
    let put ← items.mapM fun item => do
      let (key, value) ← entryOf item
      return (← surveyValue fuel key) ++ (← surveyValue fuel value)
    return put.flatten
  | .sequence, _ => throw .valuelessTag
  | .pairs, _ => throw .valuelessTag
  | _, .mapping _ number entries =>
    if (← get).seen.contains number then return []
    modify fun s => { s with seen := number :: s.seen }
    let entries ← mergedEntries fuel number entries
    let put ← entries.mapM fun (key, value) => do
      surveyKey fuel key
      surveyValue fuel value
    return put.flatten
  | _, _ => throw .valuelessTag

/-- Looks through nodes level by level. -/
def survey : Nat → List Node → Look Unit
  | 0, _ => return ()
  | _ + 1, [] => return ()
  | fuel + 1, ns => do survey fuel (← ns.mapM (surveyInside fuel)).flatten

/-! ### Values -/

/-- Puts a value under a key. If the key is there, its place remains. -/
def putEntry (entries : List (Value × Value)) : Value × Value → List (Value × Value)
  | (key, value) =>
    if entries.any fun (k, _) => k.isSameKey key then
      entries.map fun (k, v) => if k.isSameKey key then (k, value) else (k, v)
    else entries ++ [(key, value)]

/-- The value of a node. -/
def build : Nat → Node → Look Value
  | 0, _ => throw .valuelessTag
  | fuel + 1, n => do
    match n.kind, n with
    | .set, _ => return .foreign .set
    | .sequence, .sequence _ items => return .list (← items.mapM (build fuel))
    | .pairs, .sequence _ items =>
      return .list (← items.mapM fun item => do
        let (key, value) ← entryOf item
        return .pair (← build fuel key) (← build fuel value))
    | .mapping, .mapping _ number entries =>
      let entries := ((← get).merged.lookup number).getD entries
      return .map ((← entries.mapM fun (key, value) => do
        return (← build fuel key, ← build fuel value)).foldl putEntry [])
    | _, _ => scalarValue fuel n

/-- The value of the one document that a text holds; a text without a document has none. -/
def parse (text : String) : Except Error Value := do
  let root ← Node.ofText text
  let fuel := text.length + 2
  let look : Look Value := do
    survey fuel (← surveyValue fuel root)
    build fuel root
  return (← look.run ⟨[], []⟩).1

end Chip8.Yaml

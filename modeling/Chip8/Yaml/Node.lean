import Chip8.Yaml.Scalar
import Chip8.Yaml.Token

/-!
# Nodes

What the tokens of a text say: one document, which is a scalar, a sequence or a mapping of nodes. A
node may have a name, under which it can stand again further on, and a tag, which tells its kind.
Nothing is said here about the values of nodes.
-/

namespace Chip8.Yaml

/-- A node of a document, and what kind of value it has. -/
inductive Node where
  | scalar (kind : Kind) (text : String)
  | sequence (kind : Kind) (items : List Node)
  /-- The number tells a mapping from the others of the document, but not from itself where it
  stands again. -/
  | mapping (kind : Kind) (number : Nat) (entries : List (Node × Node))

namespace Node

/-- A scalar with nothing in it. -/
def empty : Node := scalar .null ""

/-- The kind of the value of a node. -/
def kind : Node → Kind
  | scalar k _ => k
  | sequence k _ => k
  | mapping k _ _ => k

mutual

/-- How many nodes a node consists of. -/
def size : Node → Nat
  | scalar _ _ => 1
  | sequence _ items => 1 + sizeAll items
  | mapping _ _ entries => 1 + sizeEntries entries

/-- How many nodes some nodes consist of. -/
def sizeAll : List Node → Nat
  | [] => 0
  | n :: ns => size n + sizeAll ns

/-- How many nodes some entries consist of. -/
def sizeEntries : List (Node × Node) → Nat
  | [] => 0
  | (k, v) :: es => size k + size v + sizeEntries es

end

/-- What is known while the tokens of a document are read. -/
structure State where
  /-- The tokens that are left. -/
  tokens : List Token
  /-- The nodes that have a name. -/
  named : List (String × Node)
  /-- The beginnings of tags, by their handles. -/
  handles : List (String × String)
  /-- How many mappings there are. -/
  mappings : Nat
  /-- How many nodes stand in the document again under a name. -/
  repeated : Nat

/-- A reader of tokens. -/
abbrev Reader := StateT State (Except Error)

/-- The next token. -/
def peek : Reader (Option Token) := do return (← get).tokens.head?

/-- Moves behind the next token. -/
def skip : Reader Unit := modify fun s => { s with tokens := s.tokens.tail }

/-- Whether one of some tokens is next. -/
def isNext (ts : List Token) : Reader Bool := do
  match ← peek with
  | some t => return ts.contains t
  | none => return false

/-- Moves behind the next token if it is a given one, and tells whether it was. -/
def accept (t : Token) : Reader Bool := do
  if ← isNext [t] then skip; return true else return false

/-! ### Names and tags -/

/-- The tag with a handle. -/
def fullTag (handle rest : String) : Reader String := do
  if handle.isEmpty then return rest
  match ((← get).handles ++ [("!", "!"), ("!!", Kind.coreTag)]).lookup handle with
  | some start => return start ++ rest
  | none => throw .badTag

/-- The tag that is next, if one is. -/
def readTag : Reader (Option String) := do
  match ← peek with
  | some (.tag handle rest) =>
    skip
    return some (← fullTag handle rest)
  | _ => return none

/-- The name that is next, if one is. -/
def readAnchor : Reader (Option String) := do
  match ← peek with
  | some (.anchor name) =>
    skip
    return some name
  | _ => return none

/-- The name and the tag of a node, in any order. -/
def properties : Reader (Option String × Option String) := do
  match ← readAnchor with
  | some name => return (some name, ← readTag)
  | none =>
    match ← readTag with
    | some tag => return (← readAnchor, some tag)
    | none => return (none, none)

/-- The kind of a scalar with a tag, if it has one. -/
def scalarKind (tag : Option String) (text : String) (plain : Bool) : Kind :=
  match tag with
  | none => if plain then Scalar.kind text else .text
  | some "!" => Scalar.kindAsPlain text
  | some tag => Kind.ofTag tag

/-- The kind of a sequence or a mapping with a tag, if it has one; its own one is `own`. -/
def tagged (tag : Option String) (own : Kind) : Kind :=
  match tag with
  | none => own
  | some "!" => own
  | some tag => Kind.ofTag tag

/-- A mapping, told from the others. -/
def newMapping (kind : Kind) (entries : List (Node × Node)) : Reader Node := do
  let number := (← get).mappings
  modify fun s => { s with mappings := number + 1 }
  return mapping kind number entries

/-- How many nodes may stand in a document again under a name, all in all and with the nodes inside of them. The
loader of configurations refuses more, for with names in names a short text could stand for a huge tree. -/
def repetitionLimit : Nat := 1000

/-- The node under a name, to stand here again. -/
def lookUp (name : String) : Reader Node := do
  match (← get).named.lookup name with
  | some n =>
    let repeated := (← get).repeated + n.size
    if repetitionLimit < repeated then throw .tooManyAliases
    modify fun s => { s with repeated }
    return n
  | none => throw (.unknownAnchor name)

/-- Gives a node its name, which no other one may have. It has none until it is complete: under a name inside of
itself it would stand for nodes without end, and so for more than the limit. -/
def remember (name : Option String) (n : Node) : Reader Node := do
  match name with
  | none => return n
  | some name =>
    if ((← get).named.lookup name).isSome then throw (.duplicateAnchor name)
    modify fun s => { s with named := (name, n) :: s.named }
    return n

/-! ### Content -/

/-- The tokens before which the key or the value of a block mapping is empty. -/
def pairEnds : List Token := [.key, .value, .blockEnd]

mutual

/-- A node. A sequence without an indentation of its own may stand only in a block mapping. -/
def read (inPair : Bool) : Nat → Reader Node
  | 0 => throw .unexpectedToken
  | fuel + 1 => do
    if let some (.alias name) ← peek then
      skip
      return ← lookUp name
    let (name, tag) ← properties
    match ← peek with
    | some (.scalar text plain) =>
      skip
      remember name (scalar (scalarKind tag text plain) text)
    | some .flowSequenceStart =>
      skip
      remember name (sequence (tagged tag .sequence) (← flowItems true fuel))
    | some .flowMappingStart =>
      skip
      remember name (← newMapping (tagged tag .mapping) (← flowPairs true fuel))
    | some .blockSequenceStart =>
      skip
      remember name (sequence (tagged tag .sequence) (← blockItems fuel))
    | some .blockMappingStart =>
      skip
      remember name (← newMapping (tagged tag .mapping) (← blockPairs fuel))
    | next =>
      if inPair && next == some .blockEntry then
        remember name (sequence (tagged tag .sequence) (← indentlessItems fuel))
      else if name.isSome || tag.isSome then
        let kind := if tag == some "!" then .text else scalarKind tag "" true
        remember name (scalar kind "")
      else throw .unexpectedToken

/-- A node, or an empty one before some tokens. -/
def readUnless (ends : List Token) (inPair : Bool) : Nat → Reader Node
  | 0 => throw .unexpectedToken
  | fuel + 1 => do if ← isNext ends then return empty else read inPair fuel

/-- The items of a sequence in a block of its own. -/
def blockItems : Nat → Reader (List Node)
  | 0 => throw .unexpectedToken
  | fuel + 1 => do
    if ← accept .blockEnd then return []
    else if ← accept .blockEntry then
      let item ← readUnless [.blockEntry, .blockEnd] false fuel
      return item :: (← blockItems fuel)
    else throw .unexpectedToken

/-- The items of a sequence that is not indented more than the mapping around it. -/
def indentlessItems : Nat → Reader (List Node)
  | 0 => throw .unexpectedToken
  | fuel + 1 => do
    if ← accept .blockEntry then
      let item ← readUnless (.blockEntry :: pairEnds) false fuel
      return item :: (← indentlessItems fuel)
    else return []

/-- The entries of a mapping in a block of its own. Each starts with its key. -/
def blockPairs : Nat → Reader (List (Node × Node))
  | 0 => throw .unexpectedToken
  | fuel + 1 => do
    if ← accept .blockEnd then return []
    else if ← accept .key then
      let key ← readUnless pairEnds true fuel
      let value ← if ← accept .value then readUnless pairEnds true fuel else pure empty
      return (key, value) :: (← blockPairs fuel)
    else throw .unexpectedToken

/-- The value behind a key between brackets. -/
def flowValue (close : Token) : Nat → Reader Node
  | 0 => throw .unexpectedToken
  | fuel + 1 => do
    if ← accept .value then readUnless [.flowEntry, close] false fuel else return empty

/-- The items of a sequence between brackets. A key makes a mapping with one entry; if the key is
empty, the token behind it is passed over. -/
def flowItems (first : Bool) : Nat → Reader (List Node)
  | 0 => throw .unexpectedToken
  | fuel + 1 => do
    if ← accept .flowSequenceEnd then return []
    if !first then
      if !(← accept .flowEntry) then throw .unexpectedToken
      if ← accept .flowSequenceEnd then return []
    if ← accept .key then
      let key ←
        if ← isNext [.value, .flowEntry, .flowSequenceEnd] then do skip; pure empty
        else read false fuel
      let value ← flowValue .flowSequenceEnd fuel
      let item ← newMapping .mapping [(key, value)]
      return item :: (← flowItems false fuel)
    else
      let item ← read false fuel
      return item :: (← flowItems false fuel)

/-- The entries of a mapping between brackets. A node without a key token is a key without a
value. -/
def flowPairs (first : Bool) : Nat → Reader (List (Node × Node))
  | 0 => throw .unexpectedToken
  | fuel + 1 => do
    if ← accept .flowMappingEnd then return []
    if !first then
      if !(← accept .flowEntry) then throw .unexpectedToken
      if ← accept .flowMappingEnd then return []
    if ← accept .key then
      let key ← readUnless [.value, .flowEntry, .flowMappingEnd] false fuel
      let value ← flowValue .flowMappingEnd fuel
      return (key, value) :: (← flowPairs false fuel)
    else
      let key ← read false fuel
      return (key, empty) :: (← flowPairs false fuel)

end

/-! ### The document -/

/-- Reads the directives in front of a document, and tells whether there were any. Each may stand
once. -/
def directives (versioned : Bool) : Nat → Reader Bool
  | 0 => throw .unexpectedToken
  | fuel + 1 => do
    match ← peek with
    | some (.version major minor) =>
      if versioned || major != 1 || (minor != 1 && minor != 2) then throw .badDirective
      skip
      let _ ← directives true fuel
      return true
    | some (.tagHandle handle start) =>
      if ((← get).handles.lookup handle).isSome then throw .badDirective
      skip
      modify fun s => { s with handles := (handle, start) :: s.handles }
      let _ ← directives versioned fuel
      return true
    | _ => return false

/-- Whether the content of a document is missing. -/
def contentEnds : Reader Bool := do
  match ← peek with
  | none => return true
  | some (.version ..) => return true
  | some (.tagHandle ..) => return true
  | some t => return t == .documentStart || t == .documentEnd

/-- The one document that tokens hold; without a document it is empty. -/
def readDocument (fuel : Nat) : Reader Node := do
  if (← peek).isNone then return empty
  let directed ← directives false fuel
  let root ←
    if ← accept .documentStart then
      if ← contentEnds then pure empty else read false fuel
    else if directed then throw .unexpectedToken
    else read false fuel
  if (← get).tokens.all (· == .documentEnd) then return root else throw .secondDocument

/-- The document in a text. -/
def ofText (text : String) : Except Error Node := do
  let ts ← tokens text
  let (root, _) ← (readDocument (4 * ts.length + 4)).run ⟨ts, [], [], 0, 0⟩
  return root

end Node

end Chip8.Yaml

import Chip8.Config.Draft
import Chip8.Config.Override

/-!
# Loading a configuration

The defaults, a document over them, overrides over both.
-/

namespace Chip8.Config

/-- The entries of a document that is read from a text. -/
def nestedEntries : Value → Except Error (List (Value × Value))
  | .null => .ok []
  | .text s => .ok [(.text s, .null)]
  | .map entries => acceptEntries [] [] entries
  | .list items => do
    let _ ← accept [] (.list items)
    .error .sequenceDocument
  | _ => .error .nestedScalarDocument

/-- The entries of a document. A text is read as a document of its own, and a text in that one is a
key without a value. -/
def entries : Value → Except Error (List (Value × Value))
  | .text s =>
    match Yaml.parse s with
    | .ok v => nestedEntries v
    | .error e => .error (.malformed e)
  | .int z => .error (.scalarDocument (.int z))
  | .bool b => .error (.scalarDocument (.bool b))
  | .float x => .error (.scalarDocument (.float x))
  | .bytes bs => .error (.scalarDocument (.bytes bs))
  | .foreign kind => .error (.scalarDocument (.foreign kind))
  | v => nestedEntries v

/-- The entries of a text that holds a document. -/
def readEntries (text : String) : Except Error (List (Value × Value)) :=
  match Yaml.parse text with
  | .ok v => entries v
  | .error e => .error (.malformed e)

/-- Loads a configuration from a document, if there is one, and overrides, with the variables of an
environment. -/
def load (environment : String → Option String) (document : Option String)
    (overrides : List String) : Except Error Config := do
  let fromDocument ← match document with
    | some text => readEntries text
    | none => .ok []
  let draft ← Draft.initial.mergeAll fromDocument
  let fromOverrides ← Override.gather environment overrides
  (← draft.mergeAll fromOverrides).finish environment

end Chip8.Config

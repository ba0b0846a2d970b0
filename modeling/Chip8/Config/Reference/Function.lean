import Chip8.Config.Acceptance
import Chip8.Yaml.Document

/-!
# Functions in references

What a call of a function stands for, given what paths lead to and the variables of the environment.
A function is told how to read a text as an argument; it knows nothing of references itself.
-/

namespace Chip8.Config.Reference

/-- What a path leads to. -/
inductive Target (α : Type) where
  | found (a : α)
  /-- A list or a map that the reference is a part of. -/
  | around (a : α)
  /-- There is nothing. -/
  | absent
  /-- The text that leaves a setting as it is, and its path. -/
  | leftOpen (path : String)
  /-- Nothing, since the path leads out of the root. -/
  | outside
  /-- Nothing, since a part of the path leads into something that has nothing inside. -/
  | closed (path parent child : String)

/-- What leads to nothing or to the text that leaves a setting as it is has no value. -/
def Target.value? {α : Type} : Target α → Option α
  | found a => some a
  | around a => some a
  | _ => none

/-- What can be asked where a reference stands. -/
structure Scope (E : Type) where
  /-- What a path leads to. -/
  find : String → Except E (Target Value)
  /-- The error of a failure. -/
  fail : Failure → E
  /-- A variable of the environment. -/
  environment : String → Option String
  /-- The path of the setting in which the reference stands. -/
  place : String

namespace Scope

variable {E : Type} (s : Scope E)

/-- A call fails. -/
def refuse {α : Type} (cause : CallError) : Except E α := .error (s.fail (.call cause))

/-- The text of a value; one with too long an integer has none. -/
def textOf (v : Value) : Except E String :=
  if v.isTooLong then s.refuse .tooLong else .ok v.toText

/-- What a path leads to; a path out of the root is an error. -/
def search (path : String) : Except E (Option Value) := do
  match ← s.find path with
  | .outside => s.refuse (.outside path)
  | target => return target.value?

/-- What a path leads to, unless it leaves a setting as it is. -/
def searchGiven (path : String) : Except E (Option Value) := do
  return (← s.search path).filter fun v => !v.isMissing

/-- The kind of a refusal that is reported from inside of a function. -/
def refusalKind : Error → String
  | .badReferences .. => "GrammarParseError"
  | .foreignValue .. => "UnsupportedValueType"
  | .malformed _ => "YAMLError"
  | _ => "KeyValidationError"

/-- Makes a value a part of a configuration. -/
def accepted (v : Value) : Except E Found :=
  match accept [] v with
  | .ok v => .ok (.ofValue v)
  | .error e => s.refuse (.refused (refusalKind e) (e.message?.getD ""))

/-- A list or a map of a configuration, made of another one or of the text of a document. A document
that is a text is a map with this key. -/
def create (r : Found) : Except E Found :=
  match r.value with
  | .null => .ok r
  | .list items => s.accepted (.list items)
  | .map entries => s.accepted (.map entries)
  | .text text =>
    match Yaml.parse text with
    | .error e => s.refuse (.refused (refusalKind (.malformed e)) (e.message?.getD ""))
    | .ok .null => .ok (.ofValue (.map []))
    | .ok (.text key) => s.accepted (.map [(.text key, .null)])
    | .ok v => if v.isContainer then s.accepted v else s.refuse .notContainer
  | _ => s.refuse (.notCreatable r.kindName)

/-- The path that an argument tells. -/
def pathOf (r : Found) (otherwise : CallError) : Except E String :=
  match r.value with
  | .text path => .ok path
  | _ => s.refuse otherwise

/-- The entries of the map at the path that an argument tells, and the path. -/
def mapAt (f : Function) (r : Found) : Except E (String × List (Value × Value)) := do
  let path ← s.pathOf r (.notMapPath f (← s.textOf r.value) r.kindName)
  match ← s.searchGiven path with
  | none => s.refuse (.noMap path)
  | some (.map entries) => return (path, entries)
  | some v => s.refuse (.notMap f v.kindName)

/-- The value of a variable of the environment, or what stands for it as a text. -/
def environmentValue (r : Found) (otherwise : Option Found) : Except E Found := do
  match r.value with
  | .text name =>
    match s.environment name, otherwise.map Found.value with
    | some text, _ => return .ofValue (.text text)
    | none, some .null => return .ofValue .null
    | none, some v => return .ofValue (.text (← s.textOf v))
    | none, none => s.refuse (.unset name)
  | _ => s.refuse (.notName r.kindName)

/-- The setting that has another name now. -/
def successor (r : Found) (note : Option Found) : Except E Found := do
  let path ← s.pathOf r (.notText "key" r.kindName)
  match note.map Found.value with
  | none => pure ()
  | some (.text _) => pure ()
  | some _ => s.refuse (.notText "message" ((note.map Found.kindName).getD ""))
  match ← s.search path with
  | some v => return .ofValue v
  | none => s.refuse (.noSuccessor s.place path)

/-- What a call of a function with one argument, and perhaps with a second one, stands for. `read`
reads a text as an argument. -/
def apply (read : String → Except E Found) (f : Function) (first : Found)
    (second : Option Found) : Except E Found := do
  match f with
  | .env => s.environmentValue first second
  | .decode =>
    match first.value with
    | .null => return first
    | .text text => read text
    | v => s.refuse (.notReadable (← s.textOf v) first.kindName)
  | .select =>
    let found ← s.searchGiven (← s.pathOf first (.notPath first.kindName))
    return (found.map Found.ofValue).getD (second.getD (.ofValue .null))
  | .create => s.create first
  | .deprecated => s.successor first second
  | .keys =>
    let (_, entries) ← s.mapAt .keys first
    return .ofValue (.list (entries.map (·.1)))
  | .values =>
    let (path, entries) ← s.mapAt .values first
    let start := if path.startsWith "." then "." ++ path else path
    let reference (key : Value) : Value :=
      .text ("$\x7b" ++ start ++ "." ++ key.toText ++ "\x7d")
    return .ofValue (.list (entries.map fun (key, _) => reference key))

/-- What a call of a function stands for. -/
def call (read : String → Except E Found) (f : Function) (arguments : List Found) :
    Except E Found :=
  match arguments with
  | [] => s.refuse (.wrongCount f 0)
  | first :: others =>
    if f.most < arguments.length then s.refuse (.wrongCount f arguments.length)
    else s.apply read f first others.head?

end Scope

end Chip8.Config.Reference

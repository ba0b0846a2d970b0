import Chip8.Config.Reference.Syntax
import Chip8.Text.Integer

/-!
# Failed references

Why a reference stands for nothing: what its path leads to is not there, or a function does not take
its arguments. A failure inside of a function is reported with its kind.
-/

namespace Chip8.Config.Reference

/-- The functions that references may call. -/
inductive Function where
  /-- A variable of the environment. -/
  | env
  /-- The value that a text writes as an argument. -/
  | decode
  /-- A setting that need not be there. -/
  | select
  /-- A list or a map of a configuration. -/
  | create
  /-- A setting that has another name now. -/
  | deprecated
  /-- The keys of a map. -/
  | keys
  /-- References to the values of a map. -/
  | values
deriving DecidableEq, Repr

namespace Function

/-- All functions. -/
def all : List Function := [env, decode, select, create, deprecated, keys, values]

/-- The name of a function by itself. -/
def ownName : Function → String
  | env => "env"
  | decode => "decode"
  | select => "select"
  | create => "create"
  | deprecated => "deprecated"
  | keys => "keys"
  | values => "values"

/-- The name by which a function is called. -/
def name : Function → String
  | keys => "oc.dict.keys"
  | values => "oc.dict.values"
  | f => "oc." ++ f.ownName

/-- The function with a name. -/
def ofName? (s : String) : Option Function := all.find? fun f => f.name == s

/-- The name of the argument that a function must have. -/
def parameter : Function → String
  | decode => "expr"
  | create => "obj"
  | _ => "key"

/-- How many arguments a function can have. -/
def most : Function → Nat
  | env => 2
  | select => 2
  | deprecated => 2
  | _ => 1

end Function

/-- Why a call of a function has no value. -/
inductive CallError where
  /-- There is no argument, or there are too many. -/
  | wrongCount (f : Function) (count : Nat)
  /-- An argument cannot be the name of a variable. -/
  | notName (kind : String)
  /-- A variable is not set, and nothing stands for it. -/
  | unset (name : String)
  /-- An argument is no text to be read. -/
  | notReadable (text kind : String)
  /-- A text cannot be read. -/
  | unreadable (cause : SyntaxError)
  /-- Blanks stand in the place of a value. -/
  | blank
  /-- An integer has too many digits to be read. -/
  | longInteger (digits : Nat)
  /-- An integer has too many digits to be written. -/
  | tooLong
  /-- An argument is no path. -/
  | notPath (kind : String)
  /-- A path leads out of the root. -/
  | outside (path : String)
  /-- A path has no parts. -/
  | noParts
  /-- An argument cannot become a list or a map of a configuration. -/
  | notCreatable (kind : String)
  /-- A text is the document of something other than a list or a map. -/
  | notContainer
  /-- What is to become a part of a configuration is refused. -/
  | refused (kind report : String)
  /-- There is no setting that has another name now. -/
  | noSuccessor (place path : String)
  /-- The path or the note of a setting that has another name now is no text. -/
  | notText (part kind : String)
  /-- The argument of a function on maps is no path. -/
  | notMapPath (f : Function) (text kind : String)
  /-- There is nothing at the path of a map. -/
  | noMap (path : String)
  /-- What is at the path is no map. -/
  | notMap (f : Function) (kind : String)
deriving DecidableEq, Repr

namespace CallError

/-- The report of a call with a wrong number of arguments. -/
def countReport (f : Function) (count : Nat) : String :=
  let start := f.ownName ++ "() "
  let tooMany (named : String) : String :=
    start ++ "takes from 1 to 2 positional arguments but " ++ toString count ++ named
      ++ " were given"
  let twice (parameter : String) : String :=
    start ++ "got multiple values for argument '" ++ parameter ++ "'"
  if count = 0 then start ++ "missing 1 required positional argument: '" ++ f.parameter ++ "'"
  else
    match f with
    | .env => tooMany ""
    | .select => tooMany " positional arguments (and 1 keyword-only argument)"
    | .deprecated => tooMany " positional arguments (and 2 keyword-only arguments)"
    | .values => twice (if count = 2 then "_root_" else "_parent_")
    | _ => twice "_parent_"

/-- The kind and the report of a call without a value. -/
def parts : CallError → String × String
  | wrongCount f count => ("TypeError", countReport f count)
  | notName kind => ("TypeError", "str expected, not " ++ kind)
  | unset name => ("KeyError", Text.quoted ("Environment variable '" ++ name ++ "' not found"))
  | notReadable text kind =>
    ("TypeError", "\x60oc.decode\x60 can only take strings or None as input, but \x60" ++ text
      ++ "\x60 is of type " ++ kind)
  | unreadable cause => ("GrammarParseError", cause.message)
  | blank => ("AssertionError", "WS should never be reached")
  | longInteger digits => ("ValueError", Text.tooManyDigitsReport digits)
  | tooLong => ("ValueError", Text.tooLongReport)
  | notPath kind => ("AttributeError", "'" ++ kind ++ "' object has no attribute 'startswith'")
  | outside path => ("ConfigKeyError", "Error resolving key '" ++ path ++ "'")
  | noParts => ("IndexError", "list index out of range")
  | notCreatable kind =>
    ("ValidationError",
      "Object of unsupported type: '" ++ kind ++ "'\n    full_key: \n    object_type=None")
  | notContainer => ("AssertionError", "")
  | refused kind report => (kind, report)
  | noSuccessor place path =>
    ("ConfigKeyError",
      "In oc.deprecated resolver at '" ++ place ++ "': Key not found: '" ++ path ++ "'")
  | notText part kind =>
    ("TypeError",
      "oc.deprecated: interpolation " ++ part ++ " type is not a string (" ++ kind ++ ")")
  | notMapPath f text kind =>
    ("TypeError", "\x60" ++ f.name ++ "\x60 requires a string as input, but obtained \x60" ++ text
      ++ "\x60 of type: " ++ kind)
  | noMap path => ("ConfigKeyError", "Key not found: '" ++ path ++ "'")
  | notMap f kind =>
    ("TypeError", "\x60" ++ f.name ++ "\x60 cannot be applied to objects of type: " ++ kind)

end CallError

/-- A value that a reference or an argument stands for. -/
structure Found where
  /-- The value. -/
  value : Value
  /-- Whether a list or a map is that of an argument and not of a configuration. -/
  isLoose : Bool

namespace Found

/-- A value of a configuration. -/
def ofValue (value : Value) : Found := ⟨value, false⟩

/-- The name of the kind of a value. -/
def kindName (r : Found) : String :=
  match r.value, r.isLoose with
  | .list _, true => "list"
  | .map _, true => "dict"
  | v, _ => v.kindName

/-- The kind of a value, in reports. -/
def shownKind (r : Found) : String :=
  let home := match r.kindName with
    | "ListConfig" => "omegaconf.listconfig."
    | "DictConfig" => "omegaconf.dictconfig."
    | _ => ""
  "<class '" ++ home ++ r.kindName ++ "'>"

/-- A value, in reports. -/
def shown (r : Found) : String := "\x60" ++ r.value.toText ++ "\x60"

end Found

/-- Why a reference leads nowhere. -/
inductive Failure where
  /-- There is nothing at the path. Of a path from the list or the map around the reference, also
  the rest behind its dots is told. -/
  | notFound (path : String) (rest : Option String)
  /-- The path leads out of the root. -/
  | outside (path : String)
  /-- The path leads to what the reference is a part of. -/
  | toParent
  /-- A part of the path leads into something that has nothing inside. -/
  | notContainer (path parent child : String)
  /-- A part of the path is no index where a list is. -/
  | notIndex (part : String)
  /-- At the path stands the text that leaves a setting as it is. -/
  | leftOpen (path : String)
  /-- There is no such function. -/
  | noFunction (name : String)
  /-- A part of the path is a reference to something other than a text or an integer. -/
  | notKey (value : Found) (source : String)
  /-- The name of a function is a reference to something other than a text. -/
  | notFunctionName (value : Found) (source : String)
  /-- A function, or what is read for it, fails. -/
  | call (cause : CallError)
  /-- The reference leads back to itself. -/
  | cyclic

/-- The report of a reference that leads nowhere. -/
def Failure.message : Failure → String
  | notFound path rest =>
    "Interpolation key '" ++ path ++ "' not found"
      ++ (rest.map fun s => " (resolved to '" ++ s ++ "')").getD ""
  | outside path =>
    "ConfigKeyError while resolving interpolation: Error resolving key '" ++ path ++ "'"
  | toParent => "Interpolation to parent node detected"
  | notContainer path parent child =>
    "ConfigTypeError raised while resolving interpolation: Error trying to access " ++ path
      ++ ": node \x60" ++ parent ++ "\x60 is not a container and thus cannot contain \x60" ++ child
      ++ "\x60"
  | notIndex part =>
    "TypeError raised while resolving interpolation: Index '" ++ part ++ "' (str) is not an int"
  | leftOpen path =>
    "MissingMandatoryValue while resolving interpolation: Missing mandatory value: " ++ path
  | noFunction name => "Unsupported interpolation type " ++ name
  | notKey value source =>
    "The following interpolation is used to denote a config key and thus should return a string "
      ++ "or integer, but instead returned " ++ value.shown ++ " of type \x60" ++ value.shownKind
      ++ "\x60: " ++ source
  | notFunctionName value source =>
    "The name of a resolver must be a string, but the interpolation " ++ source ++ " resolved to "
      ++ value.shown ++ " which is of type " ++ value.shownKind
  | call cause =>
    cause.parts.1 ++ " raised while resolving interpolation: " ++ cause.parts.2
  | cyclic => "Recursive interpolation detected"

end Chip8.Config.Reference

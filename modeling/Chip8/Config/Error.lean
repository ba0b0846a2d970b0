import Chip8.Config.Basic
import Chip8.Config.Path
import Chip8.Config.Reference.Failure
import Chip8.Log
import Chip8.Rendering
import Chip8.Text.Pattern
import Chip8.Text.Utf8
import Chip8.Yaml.Error

/-!
# Refused configurations

Why a configuration is refused, and the report of it. Most reports end with the place of what is
refused: its path, and the kind of what holds it.
-/

namespace Chip8

/-- Why a file cannot be read. -/
inductive ReadError where
  | missing
  | directory
  | notDirectory
  | forbidden
  | nameTooLong
deriving DecidableEq, Repr

namespace ReadError

/-- The number of the error. -/
def number : ReadError → Nat
  | missing => 2
  | directory => 21
  | notDirectory => 20
  | forbidden => 13
  | nameTooLong => 36

/-- The report of the error, without the file. -/
def reason : ReadError → String
  | missing => "No such file or directory"
  | directory => "Is a directory"
  | notDirectory => "Not a directory"
  | forbidden => "Permission denied"
  | nameTooLong => "File name too long"

end ReadError

namespace Config

/-- Why a value cannot become a setting of a kind. -/
inductive ConversionError where
  /-- There is no value. -/
  | null (kind : Kind)
  /-- It is no integer. -/
  | notInteger (value : Reference.Found)
  /-- It is no truth value. -/
  | notTruth (value : Reference.Found)
  /-- It is bytes, a list or a map where a text must stand. -/
  | notText (value : Reference.Found)
  /-- It has an integer in it with too many digits to be written. -/
  | tooLong

/-- The name of a kind. -/
def Kind.name : Kind → String
  | integer => "int"
  | truth => "bool"
  | text => "str"

/-- The report of a failed conversion, without its place. -/
def ConversionError.message : ConversionError → String
  | null kind => "Incompatible value 'None' for field of type '" ++ kind.name ++ "'"
  | notInteger value =>
    "Value '" ++ value.value.toText ++ "' of type '" ++ value.kindName
      ++ "' could not be converted to Integer"
  | notTruth value =>
    "Value '" ++ value.value.toText ++ "' is not a valid bool (type " ++ value.kindName ++ ")"
  | notText value =>
    "Cannot convert '" ++ value.kindName ++ "' to string: '" ++ value.value.toText ++ "'"
  | tooLong => Text.tooLongReport

/-- What holds a value. -/
inductive Holder where
  | configuration
  | map
  | list
deriving DecidableEq, Repr

/-- The name of a holder. -/
def Holder.name : Holder → String
  | configuration => "EmulatorConfig"
  | map => "dict"
  | list => "list"

/-- The place of what is refused. -/
structure Place where
  /-- The path. -/
  path : String
  /-- What holds it. -/
  holder : Holder

namespace Place

/-- The place of a setting. -/
def ofKey (key : String) : Place := ⟨key, .configuration⟩

/-- The place of a value in a tree. -/
def ofPath (p : Path) : Place :=
  ⟨p.text, if (p.getLast?.map Step.isIndex).getD false then .list else .map⟩

/-- A report with its place. -/
def report (p : Place) (message : String) : String :=
  message ++ "\n    full_key: " ++ p.path ++ "\n    object_type=" ++ p.holder.name

/-- The names that a report may use in what it quotes: a key and a value there. -/
def names (p : Place) (key : Value) (value : Reference.Found) : List (String × String) :=
  [("KEY", key.toText), ("KEY_TYPE", key.kindName), ("VALUE", value.value.toText),
    ("VALUE_TYPE", value.kindName), ("FULL_KEY", p.path), ("OBJECT_TYPE", p.holder.name),
    ("REF_TYPE", "Any")]

/-- A report that quotes what a document says, with its place. -/
def quotingReport (p : Place) (key value : Value) (message : String) : String :=
  p.report (Text.Pattern.fill (p.names key (.ofValue value)) message)

end Place

/-- Why a configuration is refused. -/
inductive Error where
  /-- The file cannot be read. -/
  | unreadable (path : String) (cause : ReadError)
  /-- The file is no text. -/
  | undecodable (cause : Text.Utf8Error)
  /-- The file or an override is no document. -/
  | malformed (cause : Yaml.Error)
  /-- The document is a sequence. -/
  | sequenceDocument
  /-- The document is a number or a truth value. -/
  | scalarDocument (value : Value)
  /-- The document is a text that is the document of a number or a truth value. -/
  | nestedScalarDocument
  /-- A key of a map is nothing. -/
  | nullKey (map : Path)
  /-- A key of a map is of a kind that no configuration holds. -/
  | foreignKey (kind : ForeignKind)
  /-- A value is of a kind that no configuration holds. -/
  | foreignValue (path : Path) (kind : ForeignKind)
  /-- A map has an integer and its digits as keys. -/
  | conflictingKeys (path : Path) (old new : Value)
  /-- A text with references cannot be read. -/
  | badReferences (path : Path) (text : String) (cause : Reference.SyntaxError)
  /-- What a setting refers to is asked for, but its text cannot be read. -/
  | unreadReference (field : Field) (cause : Reference.SyntaxError)
  /-- No setting has this name. -/
  | unknownKey (key : Value)
  /-- A value does not fit its setting. -/
  | conversion (field : Field) (cause : ConversionError)
  /-- A setting refers to something that is not there. -/
  | badReference (field : Field) (cause : Reference.Failure)
  /-- What a setting refers to does not fit it. -/
  | unfitReference (field : Field) (text : String) (value : Reference.Found)
      (cause : ConversionError)
  /-- The path of an override has no parts. -/
  | emptyPath
  /-- The path of an override leads through a reference to something that is not there. -/
  | badPath (cause : Reference.Failure)
  /-- The path of an override leads into a list by something that is no index. -/
  | notIndex (last : Bool)
  /-- The path of an override leads to no item of a list. -/
  | indexOutOfRange (path : Path)
  /-- An override joins a list and a map. -/
  | incompatible (path : Path) (holder : Holder)
  /-- A setting that must be positive is not. -/
  | notPositive (field : Field) (value : Int)
  /-- No level has this name. -/
  | unknownLevel (name : String)
  /-- No colour scheme has this name. -/
  | unknownScheme (name : String)

/-- The last key or index of a path. -/
def Path.lastKey (p : Path) : Value :=
  match p.getLast? with
  | some (.key k) => k
  | some (.index i) => .int i
  | none => .null

/-- The report of a refused configuration, if there is one. A text that cannot be read is reported
without its place for a setting that is not checked. -/
def Error.message? : Error → Option String
  | unreadable path cause =>
    some ("[Errno " ++ toString cause.number ++ "] " ++ cause.reason ++ ": " ++ Text.quoted path)
  | undecodable cause => some cause.message
  | malformed cause => cause.message?
  | sequenceDocument => none
  | scalarDocument value => some ("Invalid loaded object type: " ++ value.kindName)
  | nestedScalarDocument => none
  | nullKey map =>
    some ((Place.mk map.ownText .map).report
      ("Incompatible key type '" ++ Value.null.kindName ++ "'"))
  | foreignKey kind =>
    some ((Place.mk "" .map).report ("Incompatible key type '" ++ kind.name ++ "'"))
  | foreignValue path kind =>
    some ((Place.ofPath path).report
      ("Value '" ++ kind.name ++ "' is not a supported primitive type"))
  | conflictingKeys path old new =>
    some ((Place.ofPath path).report
      ("Conflicting integer and string keys: " ++ old.inner ++ " and " ++ new.inner))
  | badReferences path text cause =>
    some ((Place.ofPath path).quotingReport path.lastKey (.text text) cause.message)
  | unreadReference field cause =>
    some (if field = .seed ∨ field = .trace then cause.message
      else (Place.ofKey field.name).quotingReport (.text field.name) .null cause.message)
  | unknownKey key =>
    if key.isTooLong then some ((Place.ofKey "").report Text.tooLongReport)
    else some ((Place.ofKey key.toText).quotingReport key .null
      ("Key '" ++ key.toText ++ "' not in '" ++ Holder.configuration.name ++ "'"))
  | conversion _ .tooLong => some ((Place.ofKey "").report Text.tooLongReport)
  | conversion field cause => some ((Place.ofKey field.name).report cause.message)
  | badReference field cause =>
    some ((Place.ofKey field.name).quotingReport (.text field.name) .null cause.message)
  | unfitReference field text value cause =>
    let place := Place.ofKey field.name
    let quoted := Text.Pattern.fill (place.names (.text field.name) value) text
    some (place.report
      ("While dereferencing interpolation '" ++ quoted ++ "': " ++ cause.message))
  | emptyPath => none
  | badPath cause => some cause.message
  | notIndex _ => none
  | indexOutOfRange path => some ((Place.ofPath path).report "list index out of range")
  | incompatible path holder =>
    some (Place.report ⟨path.ownText, holder⟩ "Cannot merge incompatible container types")
  | notPositive field value =>
    some (if Text.isTooLong value then Text.tooLongReport
      else field.name ++ " must be positive, got " ++ toString value)
  | unknownLevel name =>
    some ("log_level must be one of " ++ LogLevel.available ++ ", got '" ++ name ++ "'")
  | unknownScheme name =>
    some ("color_scheme must be one of " ++ Rendering.availableSchemes ++ ", got '" ++ name ++ "'")

end Config

end Chip8

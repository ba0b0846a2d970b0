import Chip8.Config.Reference.Evaluation

/-!
# Drafts

A configuration that is being put together. Each setting is given, or is a text that refers to
others; its references are read and looked up only when it is asked for, and what they stand for
must fit then. Values are merged entry by entry, and the first that does not fit ends the merge. The
text of three question marks leaves a setting as it is.
-/

namespace Chip8.Config

/-- A setting of a draft. -/
inductive Entry (k : Kind) where
  /-- The setting itself. -/
  | given (a : k.Carrier)
  /-- A text that refers to other settings. -/
  | reference (text : String)

/-- An entry as a value; references are a text. -/
def Entry.toValue {k : Kind} : Entry k → Value
  | given a => k.toValue a
  | reference text => .text text

/-- A configuration that is being put together. -/
abbrev Draft := (f : Field) → Entry f.kind

namespace Draft

/-- The draft with nothing but the defaults. -/
def initial : Draft := fun f => .given (Config.default.get f)

/-- All settings as a map. -/
def toValue (d : Draft) : Value := .map (Field.all.map fun f => (.text f.name, (d f).toValue))

/-- Sets a setting. -/
def set (d : Draft) (f : Field) (e : Entry f.kind) : Draft := fun g =>
  if h : g = f then h ▸ e else d g

end Draft

/-! ### Conversion -/

/-- The integer that a value is. -/
def toInteger (r : Reference.Found) : Except ConversionError Int :=
  match r.value with
  | .null => .error (.null .integer)
  | .int z => .ok z
  | .text s =>
    match Text.integer? s with
    | some z => .ok z
    | none => .error (.notInteger r)
  | _ => .error (.notInteger r)

/-- The truth value that a word names in any mixture of cases. -/
def truthWord? (s : String) : Option Bool :=
  let word := s.toLower
  if ["yes", "y", "on", "true"].contains word then some true
  else if ["no", "n", "off", "false"].contains word then some false
  else none

/-- The truth value that a value is; an integer is true if it is not zero. -/
def toTruth (r : Reference.Found) : Except ConversionError Bool :=
  match r.value with
  | .null => .error (.null .truth)
  | .bool b => .ok b
  | .int z => .ok (z != 0)
  | .text s =>
    match Text.integer? s, truthWord? s with
    | some z, _ => .ok (z != 0)
    | none, some b => .ok b
    | none, none => .error (.notTruth r)
  | _ => .error (.notTruth r)

/-- The text that a value is. -/
def toPlainText (r : Reference.Found) : Except ConversionError String :=
  match r.value with
  | .null => .error (.null .text)
  | .int z => if Text.isTooLong z then .error .tooLong else .ok (toString z)
  | .bytes _ => .error (.notText r)
  | v => if v.isContainer then .error (.notText r) else .ok v.toText

/-- The setting of a kind that a value is. -/
def convert : (k : Kind) → Reference.Found → Except ConversionError k.Carrier
  | .integer => toInteger
  | .truth => toTruth
  | .text => toPlainText

/-- A failed conversion, unless what it would report cannot be written. -/
def ConversionError.writable (v : Value) (e : ConversionError) : ConversionError :=
  if v.isContainer && v.isTooLong then .tooLong else e

namespace Draft

/-! ### Merging -/

/-- Merges a value into a setting. -/
def merge (d : Draft) (f : Field) (v : Value) : Except Error Draft :=
  let given : Except Error Draft :=
    match convert f.kind (.ofValue v) with
    | .ok a => .ok (d.set f (.given a))
    | .error e => .error (.conversion f (e.writable v))
  match v with
  | .text s =>
    if s == Value.missing then .ok d
    else if Reference.refers s.toList then .ok (d.set f (.reference s))
    else given
  | _ => given

/-- Merges the value of a key. -/
def mergeEntry (d : Draft) : Value × Value → Except Error Draft
  | (.text key, v) =>
    match Field.ofName? key with
    | some f => d.merge f v
    | none => .error (.unknownKey (.text key))
  | (key, _) => .error (.unknownKey key)

/-- Merges the values of keys in their order. -/
def mergeAll (d : Draft) (entries : List (Value × Value)) : Except Error Draft :=
  entries.foldlM mergeEntry d

/-! ### Reading -/

/-- Why a setting cannot be read. -/
inductive ReadError where
  /-- Its text cannot be read. -/
  | unread (cause : Reference.SyntaxError)
  /-- A reference leads nowhere. -/
  | lost (cause : Reference.Failure)
  /-- What a setting refers to does not fit it. -/
  | unfit (field : Field) (text : String) (value : Reference.Found) (cause : ConversionError)

/-- The error of reading a setting. A reference that leads nowhere is reported for the setting that
was asked for, a value that does not fit for the setting that it does not fit. -/
def ReadError.error (f : Field) : ReadError → Error
  | unread cause => .unreadReference f cause
  | lost cause => .badReference f cause
  | unfit g text v cause => .unfitReference g text v cause

/-- The error of reading a setting for another one. -/
def ReadError.inside : ReadError → ReadError
  | unread cause => .lost (.call (.unreadable cause))
  | e => e

/-- What the path of a reference leads to, given the values of the settings. There is nothing inside
of them and nothing outside of the configuration. -/
def find (d : Draft) (look : Field → Except ReadError Value) (path : String) :
    Except ReadError (Reference.Target Value) := do
  let (rest, dots) := Reference.outward path
  if 0 < dots then return .outside
  if rest.isEmpty then return .around d.toValue
  match KeyText.parts rest with
  | [] => throw (.lost (.call .noParts))
  | name :: inner =>
    match Field.ofName? name with
    | none => return .absent
    | some g =>
      let v ← look g
      match inner with
      | [] => return .found v
      | child :: _ => return .closed (".".intercalate (name :: inner)) name child

/-- How many characters the texts with references have; no more texts are read as arguments one
inside of the other. -/
def extent (d : Draft) : Nat :=
  (String.join (Field.all.map fun f =>
    match d f with
    | .given _ => ""
    | .reference text => text)).length

/-- A setting of a draft, what it refers to being looked up at most `depth` times over, one inside
of the other. -/
def read (d : Draft) (environment : String → Option String) :
    Nat → (f : Field) → Except ReadError f.kind.Carrier
  | 0, _ => .error (.lost .cyclic)
  | depth + 1, f =>
    match d f with
    | .given a => .ok a
    | .reference text => do
      let look (g : Field) : Except ReadError Value :=
        match read d environment depth g with
        | .ok a => .ok (g.kind.toValue a)
        | .error e => .error e.inside
      let scope : Reference.Scope ReadError :=
        { find := d.find look, fail := .lost, environment, place := f.name }
      match Reference.parse text with
      | .error e => .error (.unread e)
      | .ok piece =>
        let r ← Reference.evaluate scope d.extent piece
        (convert f.kind r).mapError fun e => .unfit f text r (e.writable r.value)

/-- A setting of a draft. References through more settings than there are go in a circle. -/
def get (d : Draft) (environment : String → Option String) (f : Field) :
    Except Error f.kind.Carrier :=
  (d.read environment (Field.all.length + 1) f).mapError (ReadError.error f)

/-- Refuses a setting that is not positive. -/
def positive (f : Field) (z : Int) : Except Error Unit :=
  if z ≤ 0 then .error (.notPositive f z) else .ok ()

/-- The configuration of a draft. The settings are checked one by one, and the first that is wrong
is reported. -/
def finish (d : Draft) (environment : String → Option String) : Except Error Config := do
  let instructionsPerSecond ← d.get environment .instructionsPerSecond
  positive .instructionsPerSecond instructionsPerSecond
  let timerFrequency ← d.get environment .timerFrequency
  positive .timerFrequency timerFrequency
  let scale ← d.get environment .scale
  positive .scale scale
  let logLevel ← d.get environment .logLevel
  if (LogLevel.ofText? logLevel).isNone then .error (.unknownLevel logLevel)
  let colorScheme ← d.get environment .colorScheme
  if !Rendering.schemeNames.contains colorScheme then .error (.unknownScheme colorScheme)
  let seed ← d.get environment .seed
  let trace ← d.get environment .trace
  return { instructionsPerSecond, timerFrequency, scale, colorScheme, seed, logLevel, trace }

end Draft

end Chip8.Config

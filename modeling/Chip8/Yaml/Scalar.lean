import Chip8.Text.Base64
import Chip8.Value
import Chip8.Yaml.Error
import Chip8.Yaml.Kind
import Chip8.Yaml.Moment

/-!
# The value of a scalar

A plain scalar is nothing, a truth value, an integer or a fraction if it looks like one, and else a
text. Integers are decimal, octal after a zero, hexadecimal, binary, or in base 60 with colons;
underscores between digits are dropped. A tag makes a scalar of any look a value of its kind, if its
characters can be read as one.
-/

namespace Chip8.Yaml.Scalar

/-- The truth value that a word in lower case names. -/
def truthWord? (s : String) : Option Bool :=
  if ["yes", "true", "on"].contains s then some true
  else if ["no", "false", "off"].contains s then some false
  else none

/-- Whether a word is in lower case, in upper case, or has its first letter alone in upper case. -/
def isCased (s : String) : Bool := [s.toLower, s.toUpper, s.toLower.capitalize].contains s

/-- Whether a word stands for nothing. -/
def isNull (s : String) : Bool := ["", "~", "null", "Null", "NULL"].contains s

/-- The sign and what follows it. -/
def signed (cs : List Char) : Bool × List Char :=
  match cs with
  | '-' :: rest => (true, rest)
  | '+' :: rest => (false, rest)
  | _ => (false, cs)

/-- The parts between separators, at least one. -/
def splitAt (separator : Char) (cs : List Char) : List (List Char) :=
  cs.foldr (fun c acc =>
    if c == separator then [] :: acc else (c :: acc.headD []) :: acc.tail) [[]]

/-- The parts between colons. -/
def parts (cs : List Char) : List (List Char) := splitAt ':' cs

/-! ### Looks -/

/-- Whether a character is a digit in a base, or an underscore. -/
def isDigitIn (base : Nat) (c : Char) : Bool :=
  c == '_' || (c.isDigit && c.toNat - 48 < base)
    || (base == 16 && (('a' ≤ c && c ≤ 'f') || ('A' ≤ c && c ≤ 'F')))

/-- Whether characters are digits in a base and underscores, and at least one. -/
def areDigitsIn (base : Nat) (cs : List Char) : Bool := !cs.isEmpty && cs.all (isDigitIn base)

/-- Whether a part after a colon is a number below 60 of one or two digits. -/
def isSixtieth (cs : List Char) : Bool :=
  match cs with
  | [a] => a.isDigit
  | [a, b] => '0' ≤ a && a ≤ '5' && b.isDigit
  | _ => false

/-- Whether characters are a digit and then digits and underscores. -/
def isDecimal (cs : List Char) : Bool :=
  match cs with
  | c :: rest => c.isDigit && rest.all (isDigitIn 10)
  | [] => false

/-- Whether characters are parts between colons, all but the first below 60. -/
def areSixties (cs : List Char) : Bool :=
  let ps := parts cs
  isDecimal (ps.headD []) && ps.tail.all isSixtieth

/-- Whether characters without a sign look like an integer. -/
def isInteger : List Char → Bool
  | '0' :: 'b' :: ds => areDigitsIn 2 ds
  | '0' :: 'x' :: ds => areDigitsIn 16 ds
  | '0' :: ds => ds.all (isDigitIn 8)
  | cs => areSixties cs

/-- Whether characters are digits with single underscores between them. -/
def isSeparated (cs : List Char) : Bool :=
  (splitAt '_' cs).all fun p => !p.isEmpty && p.all Char.isDigit

/-- Whether characters are digits with single underscores between them or in front, or nothing. -/
def isSeparatedBehind (cs : List Char) : Bool := cs.isEmpty || isSeparated ('0' :: cs)

/-- Whether characters are an exponent. -/
def isExponent (cs : List Char) : Bool :=
  let (_, ds) := signed cs
  !ds.isEmpty && ds.all Char.isDigit

/-- Whether characters in front of an exponent, if there is one, and behind a sign, if there is one,
look like a fraction. With an exponent that has no sign, and without a point, underscores stand one
by one between digits. -/
def isUnsigned (hasSign : Bool) (main : List Char) (exponent : Option (List Char)) : Bool :=
  let whole := main.takeWhile (· != '.')
  let fraction := ((main.dropWhile (· != '.')).tail?).getD []
  let isLoose := match exponent with
    | some e => (signed e).2.length < e.length
    | none => true
  if whole.length == main.length then exponent.isSome && isSeparated whole
  else if whole.isEmpty then !hasSign && isDecimal fraction && isLoose
  else if whole.contains ':' then
    areSixties whole && fraction.all (isDigitIn 10) && exponent.isNone
  else (isDecimal whole && fraction.all (isDigitIn 10) && isLoose)
    || (isSeparated whole && isSeparatedBehind fraction)

/-- Whether characters look like a fraction. -/
def isFraction (cs : List Char) : Bool :=
  let (_, body) := signed cs
  let isMark (c : Char) : Bool := c == 'e' || c == 'E'
  let exponent := (body.dropWhile (!isMark ·)).tail?
  [".inf", ".Inf", ".INF"].contains (String.ofList body)
    || [".nan", ".NaN", ".NAN"].contains (String.ofList cs)
    || ((exponent.map isExponent).getD true
      && isUnsigned (body.length < cs.length) (body.takeWhile (!isMark ·)) exponent)

/-- The kind of value that a plain scalar looks like. -/
def kind (s : String) : Kind :=
  let cs := s.toList
  if isNull s then .null
  else if s == "<<" then .merge
  else if s == "=" then .default
  else if isCased s && (truthWord? s.toLower).isSome then .truth
  else if isInteger (signed cs).2 then .integer
  else if isFraction cs then .fraction
  else .text

/-- The kind of value that a scalar looks like which is read as if it were plain. A line break at its end is no
part of its look, though it stays in its text. -/
def kindAsPlain (s : String) : Kind :=
  let cs := s.toList
  if 1 < cs.length && cs.getLast? == some '\n' then kind (String.ofList cs.dropLast) else kind s

/-! ### Values -/

/-- The integer that characters write in a base. -/
def integerIn (base : Nat) (cs : List Char) : Except Error Int :=
  let digits := Text.digitCount cs
  if base == 10 && Text.digitLimit < digits then .error (.longInteger digits)
  else
    match Text.integerIn? base cs with
    | some z => .ok z
    | none => .error (.badInteger base cs)

/-- The integer that characters without a sign write. -/
def magnitude : List Char → Except Error Int
  | [] => .error .emptyNumber
  | '0' :: 'b' :: ds => integerIn 2 ds
  | '0' :: 'x' :: ds => integerIn 16 ds
  | '0' :: ds => if ds.isEmpty then .ok 0 else integerIn 8 ('0' :: ds)
  | cs => do return ((← (parts cs).mapM (integerIn 10)).foldl (fun n d => 60 * n + d) 0)

/-- The integer that a text writes. -/
def integer (s : String) : Except Error Int := do
  let (negative, body) := signed (s.toList.filter (· != '_'))
  let n ← magnitude body
  return if negative then -n else n

/-- The fraction that characters without a colon write. -/
def simpleFraction (cs : List Char) : Except Error Float :=
  match Text.fraction? cs with
  | some x => .ok x
  | none => .error (.badFraction cs)

/-- The value in base 60 of digits, the last one first. -/
def sixties (digits : List Float) : Except Error Float := do
  let step (acc : Float × Int) (d : Float) : Except Error (Float × Int) :=
    match Binary64.ofInt? acc.2 with
    | some place => .ok (acc.1 + d * place, 60 * acc.2)
    | none => .error .tooLarge
  return (← digits.foldlM step (0.0, 1)).1

/-- The fraction that a text writes. -/
def fraction (s : String) : Except Error Float := do
  let cs := s.toLower.toList.filter (· != '_')
  if cs.isEmpty then throw .emptyNumber
  let (negative, body) := signed cs
  let sign : Float := if negative then -1.0 else 1.0
  match String.ofList body with
  | ".inf" => return Binary64.infinity negative
  | ".nan" => return 0.0 / 0.0
  | _ =>
    if body.contains ':' then
      return sign * (← sixties (← (parts body).mapM simpleFraction).reverse)
    else return sign * (← simpleFraction body)

/-- The date that a text writes. -/
def moment (s : String) : Except Error ForeignKind :=
  match Moment.ofText? s with
  | none => .error .noMoment
  | some m =>
    match m.fault? with
    | some report => .error (.badMoment report)
    | none => .ok (if m.time.isSome then .moment else .date)

/-- The value of a scalar of a kind. -/
def value (k : Kind) (s : String) : Except Error Value :=
  match k with
  | .null => .ok .null
  | .text => .ok (.text s)
  | .truth =>
    match truthWord? s.toLower with
    | some b => .ok (.bool b)
    | none => .error .badTruth
  | .integer => (integer s).map .int
  | .fraction => (fraction s).map .float
  | .binary =>
    match Text.Base64.decode? s with
    | some bs => if s.toList.all (·.toNat < 128) then .ok (.bytes bs) else .error .valuelessTag
    | none => .error .valuelessTag
  | .moment => (moment s).map .foreign
  | _ => .error .valuelessTag

end Chip8.Yaml.Scalar

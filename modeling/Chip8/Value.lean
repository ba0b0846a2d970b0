import Chip8.Binary64.Shortest
import Chip8.Text.Quoted

/-!
# Values

What a document can say: nothing, a truth value, a number, a text, bytes, a date, or a list, a pair
or a map of such. A value has a text of its own; inside of another one a text is quoted.
-/

namespace Chip8

/-- The kinds of values that no configuration holds. -/
inductive ForeignKind where
  | date
  | moment
  | set
deriving DecidableEq, Repr

/-- The name of a kind of values that no configuration holds. -/
def ForeignKind.name : ForeignKind → String
  | date => "date"
  | moment => "datetime"
  | set => "set"

/-- A value of a document. -/
inductive Value where
  | null
  | bool (b : Bool)
  | int (z : Int)
  | float (x : Float)
  | text (s : String)
  | bytes (bs : List UInt8)
  /-- The text of three question marks behind some backslashes, which stands for itself. Without
  backslashes a text would leave a setting as it is. -/
  | questionMarks (slashes : Nat)
  /-- A value that no configuration holds. -/
  | foreign (kind : ForeignKind)
  | list (items : List Value)
  | pair (first second : Value)
  /-- The entries in the order in which their keys appeared. -/
  | map (entries : List (Value × Value))

namespace Value

/-- The text that leaves a setting as it is. -/
def missing : String := "???"

/-- Whether a value leaves a setting as it is. -/
def isMissing : Value → Bool
  | text s => s == missing
  | _ => false

/-- Three question marks behind some backslashes. -/
def escapedMissing (slashes : Nat) : String := "".pushn '\\' slashes ++ missing

/-- The text of a truth value. -/
def boolText (b : Bool) : String := if b then "True" else "False"

mutual

/-- The text of a value inside another. -/
def inner : Value → String
  | null => "None"
  | bool b => boolText b
  | int z => toString z
  | float x => Binary64.shortest x
  | text s => Text.quoted s
  | bytes bs => Text.quotedBytes bs
  | questionMarks slashes => Text.quoted (escapedMissing slashes)
  | foreign kind => kind.name
  | pair a b => "(" ++ inner a ++ ", " ++ inner b ++ ")"
  | list items => "[" ++ ", ".intercalate (innerItems items) ++ "]"
  | map entries => "\x7b" ++ ", ".intercalate (innerEntries entries) ++ "\x7d"

/-- The texts of the items of a list. -/
def innerItems : List Value → List String
  | [] => []
  | v :: vs => inner v :: innerItems vs

/-- The texts of the entries of a map. -/
def innerEntries : List (Value × Value) → List String
  | [] => []
  | (k, v) :: es => (inner k ++ ": " ++ inner v) :: innerEntries es

end

/-- The text of a value by itself. -/
def toText : Value → String
  | text s => s
  | questionMarks slashes => escapedMissing slashes
  | v => inner v

/-- The text of several values together: that of a single one, or all between parentheses. -/
def joinedText : List Value → String
  | [] => ""
  | [v] => v.toText
  | vs => "(" ++ ", ".intercalate (innerItems vs) ++ ")"

/-- Whether a floating-point number is an integer. -/
def isInteger (x : Float) (z : Int) : Bool :=
  match Binary64.ofFloat x with
  | .finite negative mantissa exponent =>
    let (num, den) := Binary64.ratio mantissa exponent
    (if negative then -(num : Int) else num) == z * den
  | _ => false

/-- A truth value as an integer. -/
def ofBool (b : Bool) : Int := if b then 1 else 0

/-- Whether two keys are one: equal texts, or equal numbers of any kind, a truth value being a
number, too. -/
def isSameKey : Value → Value → Bool
  | text a, text b => a == b
  | null, null => true
  | bool a, bool b => a == b
  | int a, int b => a == b
  | float a, float b => a == b
  | bytes a, bytes b => a == b
  | bool a, int b => ofBool a == b
  | int a, bool b => a == ofBool b
  | float a, int b => isInteger a b
  | int a, float b => isInteger b a
  | float a, bool b => isInteger a (ofBool b)
  | bool a, float b => isInteger b (ofBool a)
  | _, _ => false

/-- The name of the kind of a value. -/
def kindName : Value → String
  | null => "NoneType"
  | bool _ => "bool"
  | int _ => "int"
  | float _ => "float"
  | text _ => "str"
  | bytes _ => "bytes"
  | questionMarks _ => "_EscapedMissing"
  | foreign kind => kind.name
  | list _ => "ListConfig"
  | pair _ _ => "ListConfig"
  | map _ => "DictConfig"

end Value

end Chip8

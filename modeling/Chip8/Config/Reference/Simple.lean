/-!
# Simple references

A text whose references all look simple is not read before what they stand for is asked for, so what
is wrong with it shows only then. A simple reference holds the path of a setting, its keys of
letters, digits, underscores and dollars, or a call of a function, with words as its arguments.
-/

namespace Chip8.Config.Reference

/-- Whether a character is a blank or moves on. -/
def isSpace (c : Char) : Bool := c == ' ' || (9 ≤ c.toNat && c.toNat ≤ 13)

/-- Characters without the blanks around them. -/
def stripped (cs : List Char) : List Char :=
  ((cs.dropWhile isSpace).reverse.dropWhile isSpace).reverse

/-- How far a simple path is read. -/
inductive PathState where
  /-- At the start, dots aside. -/
  | start
  /-- Behind the dot in front of a key. -/
  | dot
  | key
  /-- Behind an opening bracket. -/
  | opened
  /-- In a key between brackets. -/
  | bracketed
  /-- Behind a closing bracket. -/
  | closed
deriving DecidableEq, Repr

/-- Whether a character may stand in a key of a simple path. -/
def inSimpleKey (c : Char) : Bool := c.isAlphanum || c == '_' || c == '$'

/-- Goes on by one character. -/
def PathState.step (c : Char) : PathState → Option PathState
  | start =>
    if c == '.' then some start
    else if c == '[' then some opened
    else if inSimpleKey c then some key
    else none
  | dot => if inSimpleKey c then some key else none
  | key =>
    if c == '.' then some dot
    else if c == '[' then some opened
    else if inSimpleKey c then some key
    else none
  | opened => if inSimpleKey c then some bracketed else none
  | bracketed =>
    if c == ']' then some closed else if inSimpleKey c then some bracketed else none
  | closed => if c == '.' then some dot else if c == '[' then some opened else none

/-- Whether characters are a simple path. -/
def isSimplePath (cs : List Char) : Bool :=
  let last := (stripped cs).foldl (fun s c => s.bind (·.step c)) (some PathState.start)
  last == some .key || last == some .closed

/-- Whether characters are a name of letters, digits, underscores and dashes. -/
def isSimpleName : List Char → Bool
  | c :: cs => (c.isAlpha || c == '_') && cs.all fun c => c.isAlphanum || c == '_' || c == '-'
  | [] => false

/-- Whether characters are a word that may be a simple argument. -/
def isSimpleArgument (cs : List Char) : Bool :=
  !cs.isEmpty && cs.all fun c => c.isAlphanum || "_/-+.$%*@?|".toList.contains c

/-- Whether characters are a call of a function, perhaps without a name, with simple arguments. -/
def isSimpleCall (cs : List Char) : Bool :=
  let name := stripped (cs.takeWhile (· != ':'))
  let parts (separator : String) (cs : List Char) : List (List Char) :=
    ((String.ofList cs).splitOn separator).map String.toList
  match cs.dropWhile (· != ':') with
  | _ :: arguments =>
    (name.isEmpty || (parts "." name).all isSimpleName)
      && (parts "," arguments).all fun a => isSimpleArgument (stripped a)
  | [] => false

/-- Whether all references of a text look simple. -/
def looksSimple (s : String) : Bool :=
  (s.splitOn "$\x7b").tail.all fun part =>
    let cs := part.toList
    let inside := cs.takeWhile (· != '\x7d')
    inside.length < cs.length && (isSimplePath inside || isSimpleCall inside)

end Chip8.Config.Reference

/-!
# Patterns

A pattern is a text with names in it, each behind a dollar and possibly between braces. Filling it
puts texts in the place of the names that are known. Two dollars stand for one; a dollar with
anything else behind it stands for itself.
-/

namespace Chip8.Text.Pattern

/-- Whether a name may start with a character. -/
def startsName (c : Char) : Bool := c.isAlpha || c == '_'

/-- Whether a character may stand in a name. -/
def inName (c : Char) : Bool := c.isAlphanum || c == '_'

/-- The name at the start of a text, if there is one. -/
def name? (cs : List Char) : Option String :=
  match cs with
  | c :: _ => if startsName c then some (String.ofList (cs.takeWhile inName)) else none
  | [] => none

/-- The name behind a dollar, and how many characters it takes there. -/
def hole? (cs : List Char) : Option (String × Nat) :=
  match cs with
  | '\x7b' :: rest => do
    let name ← name? rest
    if (rest.drop name.length).head? == some '\x7d' then some (name, name.length + 2) else none
  | _ => (name? cs).map fun name => (name, name.length)

/-- Fills the holes of a pattern. -/
def fillChars (known : String → Option String) : Nat → List Char → List Char
  | 0, cs => cs
  | _ + 1, [] => []
  | fuel + 1, '$' :: '$' :: rest => '$' :: fillChars known fuel rest
  | fuel + 1, '$' :: rest =>
    match hole? rest with
    | some (name, length) =>
      match known name with
      | some text => text.toList ++ fillChars known fuel (rest.drop length)
      | none => '$' :: fillChars known fuel rest
    | none => '$' :: fillChars known fuel rest
  | fuel + 1, c :: rest => c :: fillChars known fuel rest

/-- Fills a pattern with the texts of names. -/
def fill (known : List (String × String)) (pattern : String) : String :=
  String.ofList (fillChars (known.lookup ·) (pattern.length + 1) pattern.toList)

end Chip8.Text.Pattern

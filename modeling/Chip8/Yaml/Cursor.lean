/-!
# Reading characters

A place in a text, with the number of characters, lines and columns before it. The end of the text
reads as the null character, which no document holds.
-/

namespace Chip8.Yaml

/-- A place in a text. -/
structure Cursor where
  /-- What is still to be read. -/
  rest : List Char
  /-- How many characters have been read. -/
  index : Nat
  /-- How many lines have been read. -/
  line : Nat
  /-- How many characters of the line have been read. -/
  column : Nat

/-- The character at the end of the text. -/
def endMark : Char := '\x00'

/-- The byte order mark. -/
def orderMark : Char := '\ufeff'

/-- Whether a character ends a line. -/
def isBreak (c : Char) : Bool :=
  c == '\n' || c == '\r' || c == '\x85' || c == '\u2028' || c == '\u2029'

/-- Whether a character is a blank or a tab. -/
def isBlank (c : Char) : Bool := c == ' ' || c == '\t'

/-- Whether a character ends a line or the text. -/
def endsLine (c : Char) : Bool := isBreak c || c == endMark

/-- Whether a character ends a word: a blank, a tab, or the end of a line or of the text. -/
def endsWord (c : Char) : Bool := isBlank c || endsLine c

namespace Cursor

/-- The start of a text. -/
def start (text : List Char) : Cursor := ⟨text, 0, 0, 0⟩

/-- The character `k` places on. -/
def peekAt (c : Cursor) (k : Nat) : Char := (c.rest.drop k).headD endMark

/-- The next character. -/
def peek (c : Cursor) : Char := c.rest.headD endMark

/-- The next `n` characters. -/
def take (c : Cursor) (n : Nat) : List Char := c.rest.take n

/-- Reads a character within a line. -/
def advance (c : Cursor) : Cursor :=
  match c.rest with
  | [] => c
  | _ :: rest => ⟨rest, c.index + 1, c.line, c.column + 1⟩

/-- Reads `n` characters within a line. -/
def skip (n : Nat) (c : Cursor) : Cursor :=
  let k := min n c.rest.length
  ⟨c.rest.drop k, c.index + k, c.line, c.column + k⟩

/-- How many of the next characters have a property. -/
def count (c : Cursor) (p : Char → Bool) : Nat := (c.rest.takeWhile p).length

/-- Reads the next characters within a line that have a property. -/
def skipWhile (c : Cursor) (p : Char → Bool) : Cursor := c.skip (c.count p)

/-- Moves to the next line, `n` characters on. -/
def newLine (c : Cursor) (n : Nat) : Cursor := ⟨c.rest.drop n, c.index + n, c.line + 1, 0⟩

/-- Reads the end of a line, if one is next, and gives how it is kept: all but the two Unicode
separators become line feeds, a carriage return together with a line feed after it. -/
def lineBreak (c : Cursor) : List Char × Cursor :=
  match c.rest with
  | '\r' :: '\n' :: _ => (['\n'], c.newLine 2)
  | ch :: _ =>
    if ch == '\u2028' || ch == '\u2029' then ([ch], c.newLine 1)
    else if isBreak ch then (['\n'], c.newLine 1)
    else ([], c)
  | [] => ([], c)

/-- Whether three marks and the end of a word are next. -/
def marker (c : Cursor) (mark : Char) : Bool :=
  c.take 3 == [mark, mark, mark] && endsWord (c.peekAt 3)

/-- Whether a document marker is next at the start of a line. -/
def atMarker (c : Cursor) : Bool := c.column == 0 && (c.marker '-' || c.marker '.')

/-- Reads blanks, tabs and a comment, up to the end of the line; nothing else may stand there. -/
def restOfLine? (c : Cursor) : Option Cursor :=
  let c := c.skipWhile isBlank
  let c := if c.peek == '#' then c.skipWhile (!endsLine ·) else c
  if endsLine c.peek then some c.lineBreak.2 else none

end Cursor

end Chip8.Yaml

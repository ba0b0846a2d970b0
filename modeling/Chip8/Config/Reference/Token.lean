/-!
# Tokens of references

A text may refer to settings: a reference stands between a dollar with a brace and a closing brace.
The text is cut into tokens; what a character means depends on whether it stands in plain text, in
the path of a reference, among the arguments of a function or between quotes. Of the tokens that
may start at a place the longest is taken. Backslashes in front of a dollar with a brace keep it
from starting a reference if their number is odd.
-/

namespace Chip8.Config.Reference

/-- The kinds of tokens. -/
inductive Mark where
  /-- Plain text. -/
  | text
  | refOpen
  | refClose
  | mapOpen
  | mapClose
  | singleQuoteOpen
  | doubleQuoteOpen
  | quoteClose
  | listOpen
  | listClose
  | comma
  | colon
  | dot
  | float
  | int
  | bool
  | null
  /-- A sign that stands for itself among arguments. -/
  | sign
  /-- A name of letters, digits, underscores and dashes. -/
  | name
  /-- A key of a path that is no name. -/
  | key
  /-- Characters behind backslashes among arguments. -/
  | escape
  /-- Blanks among arguments. -/
  | blank
  /-- Characters with which no token starts. -/
  | bad
  /-- A closing brace where none is open. -/
  | surplus
  /-- The end of the text. -/
  | ending
deriving DecidableEq, Repr

/-- A token. -/
structure Token where
  /-- Its kind. -/
  mark : Mark
  /-- Its characters. -/
  source : List Char
  /-- The characters that it stands for. -/
  meaning : List Char

/-- A token that stands for its own characters. -/
def Token.plain (mark : Mark) (source : List Char) : Token := ⟨mark, source, source⟩

/-- Where a character stands. -/
inductive Mode where
  | text
  | path
  | arguments
  | quoted (quote : Char)
deriving DecidableEq, Repr

/-- A token, the modes behind it, the innermost first, and the characters behind it. -/
abbrev Lexed := Token × List Mode × List Char

/-- Whether a character is a blank. -/
def isBlank (c : Char) : Bool := c == ' ' || c == '\t'

/-- Whether a character may stand in a name. -/
def inName (c : Char) : Bool := c.isAlphanum || c == '_' || c == '-'

/-- The length of the name that characters start with. -/
def nameLength (cs : List Char) : Nat :=
  match cs with
  | c :: _ => if c.isAlpha || c == '_' then (cs.takeWhile inName).length else 0
  | [] => 0

/-- The start of a reference, behind the dollar and the brace. -/
def lexOpen (modes : List Mode) (cs : List Char) : Lexed :=
  let blanks := cs.takeWhile isBlank
  (.plain .refOpen ('$' :: '\x7b' :: blanks), .path :: modes, cs.drop blanks.length)

/-- A token with the blanks in front of it and, if asked for, those behind it. -/
def lexSign (mark : Mark) (blanks : List Char) (sign : Char) (trailing : Bool) (modes : List Mode)
    (cs : List Char) : Lexed :=
  let behind := if trailing then cs.takeWhile isBlank else []
  (.plain mark (blanks ++ sign :: behind), modes, cs.drop behind.length)

/-! ### Paths -/

/-- Whether a character may stand in a key. -/
def inKey (c : Char) : Bool := !"\\\x7b\x7d()[]:. \t'\"".toList.contains c

/-- The length of the key that characters start with. A backslash makes a sign of paths a part of
it. -/
def keyLength : List Char → Nat
  | '\\' :: c :: rest => if "\\.[]:".toList.contains c then 2 + keyLength rest else 0
  | c :: rest => if inKey c then 1 + keyLength rest else 0
  | [] => 0

/-- A token in the path of a reference. -/
def lexPath (modes : List Mode) (cs : List Char) : Lexed :=
  let outer := modes.tail
  let blanks := cs.takeWhile isBlank
  match cs.drop blanks.length with
  | '\x7d' :: rest => lexSign .refClose blanks '\x7d' false outer rest
  | ':' :: rest => lexSign .colon blanks ':' true (.arguments :: outer) rest
  | rest =>
    if !blanks.isEmpty then (.plain .bad (blanks ++ rest.take 1), modes, [])
    else
      match rest with
      | '$' :: '\x7b' :: rest => lexOpen modes rest
      | '.' :: rest => (.plain .dot ['.'], modes, rest)
      | '[' :: rest => (.plain .listOpen ['['], modes, rest)
      | ']' :: rest => (.plain .listClose [']'], modes, rest)
      | rest =>
        let n := keyLength rest
        if n = 0 then (.plain .bad (rest.take (if rest.head? = some '\\' then 2 else 1)), modes, [])
        else
          let mark := if nameLength rest = n then .name else .key
          (.plain mark (rest.take n), modes, rest.drop n)

/-! ### Arguments -/

/-- The characters that stand for themselves in an argument. -/
def argumentSigns : List Char := "/-\\+.$%*@?|".toList

/-- The characters that a backslash may stand before in an argument. -/
def escapable : List Char := "\\()[]\x7b\x7d:=, \t".toList

/-- The length of the digits that characters start with, an underscore standing between two. -/
def runLength : List Char → Nat
  | '_' :: c :: rest => if c.isDigit then 2 + runLength rest else 0
  | c :: rest => if c.isDigit then 1 + runLength rest else 0
  | [] => 0

/-- The length of the integer without a sign that characters start with. -/
def naturalLength : List Char → Nat
  | '0' :: _ => 1
  | c :: rest => if c.isDigit then 1 + runLength rest else 0
  | [] => 0

/-- The length of the number with a point that characters start with. -/
def pointLength (cs : List Char) : Nat :=
  let n := naturalLength cs
  match cs.drop n with
  | '.' :: c :: rest => if c.isDigit then n + 2 + runLength rest else if n = 0 then 0 else n + 1
  | ['.'] => if n = 0 then 0 else n + 1
  | _ => 0

/-- The length of the exponent that characters start with. -/
def exponentLength : List Char → Nat
  | e :: cs =>
    let signs := if cs.head? = some '+' ∨ cs.head? = some '-' then 1 else 0
    let digits := cs.drop signs
    if (e = 'e' ∨ e = 'E') ∧ digits.head?.any Char.isDigit then 1 + signs + runLength digits
    else 0
  | [] => 0

/-- The length of a word in any mixture of cases, if characters start with it. -/
def wordLength (word : String) (cs : List Char) : Nat :=
  if (cs.take word.length).map Char.toLower = word.toList then word.length else 0

/-- The length of the fraction without a sign that characters start with. -/
def magnitudeLength (cs : List Char) : Nat :=
  let withExponent (n : Nat) : Nat :=
    let e := if n = 0 then 0 else exponentLength (cs.drop n)
    if e = 0 then 0 else n + e
  let point := pointLength cs
  [point, withExponent (naturalLength cs), withExponent point, wordLength "inf" cs,
    wordLength "nan" cs].foldl max 0

/-- The length of a number that characters start with, with its sign. -/
def signedLength (magnitude : List Char → Nat) (cs : List Char) : Nat :=
  let signs := if cs.head? = some '+' ∨ cs.head? = some '-' then 1 else 0
  let n := magnitude (cs.drop signs)
  if n = 0 then 0 else signs + n

/-- The length of the characters behind backslashes that characters start with, with these. -/
def escapeLength : List Char → Nat
  | '\\' :: c :: rest => if escapable.contains c then 2 + escapeLength rest else 0
  | _ => 0

/-- The words that characters start with and their lengths. Of equal lengths the first counts. -/
def words (cs : List Char) : List (Mark × Nat) :=
  [(.float, signedLength magnitudeLength cs), (.int, signedLength naturalLength cs),
    (.bool, max (wordLength "true" cs) (wordLength "false" cs)), (.null, wordLength "null" cs),
    (.sign, if cs.head?.any argumentSigns.contains then 1 else 0), (.name, nameLength cs),
    (.escape, escapeLength cs)]

/-- Every second character. -/
def alternate : List Char → List Char
  | _ :: c :: rest => c :: alternate rest
  | _ => []

/-- The longest word that characters start with. -/
def lexWord (modes : List Mode) (cs : List Char) : Lexed :=
  let (mark, n) := (words cs).foldl (fun best w => if best.2 < w.2 then w else best) (.bad, 0)
  let source := cs.take n
  if n = 0 then (.plain .bad (cs.take 1), modes, [])
  else if mark = .escape then (⟨.escape, source, alternate source⟩, modes, cs.drop n)
  else (.plain mark source, modes, cs.drop n)

/-- A token among the arguments of a function. -/
def lexArgument (modes : List Mode) (cs : List Char) : Lexed :=
  let blanks := cs.takeWhile isBlank
  match cs.drop blanks.length with
  | '\x7d' :: rest =>
    let mark := if modes.tail.isEmpty then .surplus else .mapClose
    lexSign mark blanks '\x7d' false modes.tail rest
  | ',' :: rest => lexSign .comma blanks ',' true modes rest
  | ':' :: rest => lexSign .colon blanks ':' true modes rest
  | ']' :: rest => lexSign .listClose blanks ']' false modes rest
  | rest =>
    if !blanks.isEmpty then (.plain .blank blanks, modes, rest)
    else
      match rest with
      | '$' :: '\x7b' :: rest => lexOpen modes rest
      | '\x7b' :: rest => lexSign .mapOpen [] '\x7b' true (.arguments :: modes) rest
      | '[' :: rest => lexSign .listOpen [] '[' true modes rest
      | '\'' :: rest => (.plain .singleQuoteOpen ['\''], .quoted '\'' :: modes, rest)
      | '"' :: rest => (.plain .doubleQuoteOpen ['"'], .quoted '"' :: modes, rest)
      | rest => lexWord modes rest

/-! ### Text -/

/-- A token of a text, up to the quote that ends it, if one does. -/
def lexText (quote : Option Char) (modes : List Mode) (cs : List Char) : Lexed :=
  let slashes := cs.takeWhile (· == '\\')
  let n := slashes.length
  let half := slashes.take (n / 2)
  match cs.drop n with
  | '$' :: '\x7b' :: rest =>
    if n % 2 = 1 then
      (⟨.text, slashes ++ ['$', '\x7b'], half ++ ['$', '\x7b']⟩, modes, rest)
    else if n = 0 then lexOpen modes rest
    else (⟨.text, slashes, half⟩, modes, cs.drop n)
  | c :: rest =>
    if quote = some c then
      if n % 2 = 1 then (⟨.text, slashes ++ [c], half ++ [c]⟩, modes, rest)
      else if n = 0 then (.plain .quoteClose [c], modes.tail, rest)
      else (⟨.text, slashes, half⟩, modes, cs.drop n)
    else if 0 < n then (.plain .text slashes, modes, cs.drop n)
    else
      let more := rest.takeWhile fun d => d != '$' && d != '\\' && quote != some d
      (.plain .text (c :: more), modes, rest.drop more.length)
  | [] => (.plain .text slashes, modes, [])

/-! ### All tokens -/

/-- The next token. -/
def lexNext (modes : List Mode) (cs : List Char) : Lexed :=
  match modes.headD .text with
  | .text => lexText none modes cs
  | .path => lexPath modes cs
  | .arguments => lexArgument modes cs
  | .quoted q => lexText (some q) modes cs

/-- The tokens from a place on, up to the end or to a fault. -/
def lex : Nat → List Mode → List Char → List Token
  | 0, _, _ => [.plain .ending []]
  | _ + 1, _, [] => [.plain .ending []]
  | fuel + 1, modes, cs =>
    let (t, modes, rest) := lexNext modes cs
    if t.mark = .bad ∨ t.mark = .surplus then [t] else t :: lex fuel modes rest

/-- The tokens of a text in a mode. -/
def tokens (mode : Mode) (text : String) : List Token := lex (text.length + 1) [mode] text.toList

end Chip8.Config.Reference

import Chip8.Binary64.Basic
import Chip8.Config.Reference.Token
import Chip8.Text.Fraction
import Chip8.Value

/-!
# The syntax of references

A reference is the path of a setting, its parts behind dots or between brackets, or the call of a
function, a name and a colon before arguments. Each part may be a reference itself. An argument is a
word, a quoted text, a list or a map, and what is left out between commas is an empty text. Which of
the two kinds a reference is shows at the first token that only one of them has there; if a token
comes that neither has, no reading is left. Behind that token, a token that does not fit is reported
with those that would: as too much if the one behind it fits, as missing if it fits behind the
missing one.
-/

namespace Chip8.Config.Reference

/-- A piece of a text with references. -/
inductive Piece where
  | literal (text : String)
  /-- A value other than a text. -/
  | constant (value : Value)
  /-- An integer with too many digits to be read. -/
  | longInteger (digits : Nat)
  /-- Blanks in the place of a value. -/
  | blank
  /-- The texts of pieces, one behind the other. -/
  | joined (pieces : List Piece)
  | list (items : List Piece)
  | map (entries : List (Piece × Piece))
  /-- A setting, by the names, dots and brackets of its path, and how it is written. -/
  | setting (path : List Piece) (source : String)
  /-- A call of a function, by the pieces of its name and its arguments, and how it is written. -/
  | call (name arguments : List Piece) (source : String)

/-- How a reference is written; the text of a literal. -/
def Piece.source : Piece → String
  | literal text => text
  | setting _ source => source
  | call _ _ source => source
  | _ => ""

/-- Why a text with references cannot be read. -/
inductive SyntaxError where
  /-- No token starts with these characters. -/
  | unrecognised (text : String)
  /-- A brace is closed that is not open. -/
  | surplus
  /-- No reading is left after these characters. -/
  | noReading (text : String)
  /-- A token stands where one of others must stand. -/
  | mismatched (found : String) (expected : List String)
  /-- A token is too much. -/
  | extraneous (found : String) (expected : List String)
  /-- A token is missing. -/
  | missing (expected found : String)
deriving DecidableEq, Repr

namespace SyntaxError

/-- A text with its line breaks and tabs written by letters. -/
def visible (s : String) : String :=
  String.join (s.toList.map fun c =>
    if c = '\n' then "\\n" else if c = '\r' then "\\r" else if c = '\t' then "\\t" else c.toString)

/-- A text between quotes. -/
def shown (s : String) : String := "'" ++ visible s ++ "'"

/-- Tokens that would fit. -/
def alternatives : List String → String
  | [name] => name
  | names => "\x7b" ++ ", ".intercalate names ++ "\x7d"

/-- The report of a text that cannot be read. -/
def message : SyntaxError → String
  | unrecognised text => "token recognition error at: " ++ shown text
  | surplus => "Empty Stack"
  | noReading text => "no viable alternative at input " ++ shown text
  | mismatched found expected =>
    "mismatched input " ++ shown found ++ " expecting " ++ alternatives expected
  | extraneous found expected =>
    "extraneous input " ++ shown found ++ " expecting " ++ alternatives expected
  | missing expected found => "missing " ++ expected ++ " at " ++ shown found

end SyntaxError

/-- Why reading failed, and the tokens from the one at fault on. -/
structure Fault where
  /-- The cause. -/
  cause : SyntaxError
  /-- The tokens. -/
  rest : List Token

/-! ### Tokens that fit -/

/-- The token at the end of a text. -/
def Token.ending : Token := .plain .ending []

/-- The characters of a token as text. -/
def Token.text (t : Token) : String :=
  if t.mark = .ending then "<EOF>" else String.ofList t.source

/-- What a token stands for, as text. -/
def Token.meant (t : Token) : String := String.ofList t.meaning

/-- The error of a token that is none. -/
def Token.error? (t : Token) : Option SyntaxError :=
  if t.mark = .bad then some (.unrecognised (String.ofList t.source))
  else if t.mark = .surplus then some .surplus
  else none

/-- The characters of tokens before those of a rest, and of the first one of the rest. -/
def textUpTo (ts rest : List Token) : String :=
  String.ofList ((ts.take (ts.length - rest.length + 1)).flatMap Token.source)

/-- The first token, if it is one. -/
def current (ts : List Token) : Except Fault Token :=
  let t := ts.headD Token.ending
  match t.error? with
  | some cause => .error ⟨cause, ts⟩
  | none => .ok t

/-- The names of the kinds of tokens in reports, in their order there. Plain text is of several
kinds. -/
def markNames : List (Mark × String) :=
  [(.ending, "<EOF>"), (.text, "ANY_STR"), (.text, "ESC_INTER"), (.text, "TOP_ESC"),
    (.refOpen, "INTER_OPEN"), (.mapOpen, "BRACE_OPEN"), (.mapClose, "BRACE_CLOSE"),
    (.singleQuoteOpen, "QUOTE_OPEN_SINGLE"), (.doubleQuoteOpen, "QUOTE_OPEN_DOUBLE"),
    (.comma, "COMMA"), (.listOpen, "BRACKET_OPEN"), (.listClose, "BRACKET_CLOSE"),
    (.colon, "COLON"), (.float, "FLOAT"), (.int, "INT"), (.bool, "BOOL"), (.null, "NULL"),
    (.sign, "UNQUOTED_CHAR"), (.name, "ID"), (.escape, "ESC"), (.blank, "WS"),
    (.refClose, "INTER_CLOSE"), (.dot, "'.'"), (.key, "INTER_KEY"),
    (.quoteClose, "MATCHING_QUOTE_CLOSE"), (.text, "QUOTED_ESC")]

/-- The names of marks in reports. -/
def namesOf (marks : List Mark) : List String :=
  (markNames.filter fun (mark, _) => marks.contains mark).map (·.2)

/-- What the key of a path starts with. -/
def keyStart : List Mark := [.refOpen, .name, .key]

/-- What may stand behind the dots of a path. -/
def afterDots : List Mark := .listOpen :: .dot :: keyStart

/-- What may stand behind a key of a path. -/
def afterKey : List Mark := [.listOpen, .refClose, .dot]

/-- What the key of a map among the arguments consists of. -/
def mapKeyMarks : List Mark := [.float, .int, .bool, .null, .sign, .name, .escape, .blank]

/-- What a word among the arguments consists of. -/
def wordMarks : List Mark := .refOpen :: .colon :: mapKeyMarks

/-- What an argument starts with. -/
def argumentStart : List Mark :=
  .mapOpen :: .singleQuoteOpen :: .doubleQuoteOpen :: .listOpen :: wordMarks

/-- What text consists of. -/
def textMarks : List Mark := [.text, .refOpen, .escape]

/-- Refuses a token that does not fit. It is too much if the one behind it fits. -/
def expect (marks : List Mark) (ts : List Token) : Except Fault Unit := do
  let t ← current ts
  if marks.contains t.mark then return ()
  let next ← if t.mark = .ending then pure t else current ts.tail
  if marks.contains next.mark then throw ⟨.extraneous t.text (namesOf marks), ts⟩
  throw ⟨.mismatched t.text (namesOf marks), ts⟩

/-- Refuses a token that does not fit in a repetition. -/
def expectAgain (marks : List Mark) (ts : List Token) : Except Fault Unit := do
  let t ← current ts
  if marks.contains t.mark then return ()
  throw ⟨.extraneous t.text (namesOf marks), ts⟩

/-- Reads one token. It is missing if what stands there may follow it. -/
def require (mark : Mark) (following : List Mark) (ts : List Token) :
    Except Fault (List Token) := do
  let t ← current ts
  if t.mark = mark then return ts.tail
  let names := namesOf [mark]
  let next ← if t.mark = .ending then pure t else current ts.tail
  if next.mark = mark then throw ⟨.extraneous t.text names, ts⟩
  if following.contains t.mark then throw ⟨.missing (String.join names) t.text, ts⟩
  throw ⟨.mismatched t.text names, ts⟩

/-! ### Words -/

/-- The value of a token that is a word of its own. -/
def Token.piece (t : Token) : Piece :=
  let digits := Text.digitCount t.source
  match t.mark with
  | .null => .constant .null
  | .bool => .constant (.bool (t.text.toLower == "true"))
  | .float => ((Text.fraction? t.source).map fun x => .constant (.float x)).getD (.literal t.text)
  | .int =>
    if Text.digitLimit < digits then .longInteger digits
    else ((Text.integer? t.text).map fun z => .constant (.int z)).getD (.literal t.text)
  | .blank => .blank
  | _ => .literal t.meant

/-- A word of tokens and references. One by itself keeps its kind, several are a text. -/
def wordOf : List (Token ⊕ Piece) → Piece
  | [.inl t] => t.piece
  | [.inr p] => p
  | parts => .joined (parts.map fun part => part.elim (.literal ·.meant) id)

/-- The text of pieces, of one reference the value itself. -/
def textOf : List Piece → Piece
  | [.literal s] => .literal s
  | [.setting path source] => .setting path source
  | [.call name arguments source] => .call name arguments source
  | ps => .joined ps

/-! ### References -/

/-- The two kinds of references. -/
inductive Form where
  | setting
  | function
deriving DecidableEq

/-- References that are read already, by the number of tokens from their start on, and what is
behind them. -/
abbrev Known := List (Nat × (Piece × List Token))

mutual

/-- A reference, from its start on. -/
def reference (following : List Mark) : Nat → List Token → Except Fault (Piece × List Token)
  | 0, ts => .error ⟨.noReading "", ts⟩
  | fuel + 1, ts => do
    let (form, known) ← decideForm ts [] fuel ts.tail
    let source (rest : List Token) : String :=
      String.ofList ((ts.take (ts.length - rest.length)).flatMap Token.source)
    match form with
    | .setting =>
      let (dots, rest) ← dots false fuel ts.tail
      let (first, rest) ← part known true afterKey fuel rest
      let (others, rest) ← parts known true fuel rest
      return (.setting (dots ++ first ++ others) (source rest), rest)
    | .function =>
      let (name, rest) ← functionName known fuel ts.tail
      expect (.comma :: .mapClose :: argumentStart) rest
      let (arguments, rest) ← arguments .mapClose true fuel rest
      let rest ← require .mapClose following rest
      return (.call name arguments (source rest), rest)

/-- The kind of a reference, from the part of it that is left, and the references at its start. -/
def decideForm (start : List Token) (known : Known) :
    Nat → List Token → Except Fault (Form × Known)
  | 0, ts => .error ⟨.noReading "", ts⟩
  | fuel + 1, ts => do
    let stuck {α : Type} (rest : List Token) : Except Fault α :=
      let cause := ((start.getLast?.bind Token.error?)).getD (.noReading (textUpTo start rest))
      .error ⟨cause, rest⟩
    let t ← current ts
    if start.length = ts.length + 1 ∧ [Mark.dot, .listOpen, .key].contains t.mark then
      return (.setting, known)
    let (rest, known) ←
      if t.mark = .name then pure (ts.tail, known)
      else if t.mark = .refOpen then
        match reference [] fuel ts with
        | .ok (piece, rest) => pure (rest, (ts.length, (piece, rest)) :: known)
        | .error fault =>
          match fault.cause with
          | .unrecognised _ => .error fault
          | .surplus => .error fault
          | _ => stuck fault.rest
      else stuck ts
    let t ← current rest
    if t.mark = .colon then return (.function, known)
    if t.mark = .refClose ∨ t.mark = .listOpen then return (.setting, known)
    if t.mark = .dot then
      if (← current rest.tail).mark = .key then return (.setting, known)
      decideForm start known fuel rest.tail
    else stuck rest

/-- A reference in a path or in the name of a function. -/
def inner (known : Known) (following : List Mark) :
    Nat → List Token → Except Fault (Piece × List Token)
  | 0, ts => .error ⟨.noReading "", ts⟩
  | fuel + 1, ts =>
    match known.lookup ts.length with
    | some read => .ok read
    | none => reference following fuel ts

/-- The dots in front of a path. -/
def dots (again : Bool) : Nat → List Token → Except Fault (List Piece × List Token)
  | 0, ts => .error ⟨.noReading "", ts⟩
  | fuel + 1, ts => do
    if again then expectAgain afterDots ts
    if (← current ts).mark = .dot then
      let (more, rest) ← dots true fuel ts.tail
      return (.literal "." :: more, rest)
    else return ([], ts)

/-- A part of a path without its dot: a key, or a key between brackets. -/
def part (known : Known) (bracketable : Bool) (following : List Mark) :
    Nat → List Token → Except Fault (List Piece × List Token)
  | 0, ts => .error ⟨.noReading "", ts⟩
  | fuel + 1, ts => do
    let t ← current ts
    if bracketable ∧ t.mark = .listOpen then
      let (key, rest) ← part known false [.listClose] fuel ts.tail
      let rest ← require .listClose afterKey rest
      return (.literal "[" :: key ++ [.literal "]"], rest)
    expect keyStart ts
    if t.mark = .refOpen then
      let (key, rest) ← inner known following fuel ts
      return ([key], rest)
    else return ([.literal t.text], ts.tail)

/-- The parts of a path behind the first one, up to its end. -/
def parts (known : Known) (first : Bool) :
    Nat → List Token → Except Fault (List Piece × List Token)
  | 0, ts => .error ⟨.noReading "", ts⟩
  | fuel + 1, ts => do
    if first then expect afterKey ts else expectAgain afterKey ts
    let t ← current ts
    if t.mark = .refClose then return ([], ts.tail)
    let (dot, rest) := if t.mark = .dot then ([Piece.literal "."], ts.tail) else ([], ts)
    let (key, rest) ← part known (t.mark = .listOpen) afterKey fuel rest
    let (more, rest) ← parts known false fuel rest
    return (dot ++ key ++ more, rest)

/-- The name of a function, up to the colon. -/
def functionName (known : Known) : Nat → List Token → Except Fault (List Piece × List Token)
  | 0, ts => .error ⟨.noReading "", ts⟩
  | fuel + 1, ts => do
    let t ← current ts
    if t.mark = .colon then return ([], ts.tail)
    let (piece, rest) ←
      if t.mark = .refOpen then inner known [.dot, .colon] fuel ts
      else pure (.literal t.text, ts.tail)
    let (more, rest) ← functionName known fuel rest
    return (piece :: more, rest)

/-- Arguments, or the items of a list, up to what closes them. The flag says whether an argument is
left out if none stands here: at the start, if there are any, and behind a comma. -/
def arguments (close : Mark) (start : Bool) :
    Nat → List Token → Except Fault (List Piece × List Token)
  | 0, ts => .error ⟨.noReading "", ts⟩
  | fuel + 1, ts => do
    let t ← current ts
    if start ∧ t.mark = close then return ([], ts)
    let (first, rest) ←
      if argumentStart.contains t.mark then argument [.comma, close] fuel ts
      else pure (.literal "", ts)
    let (more, rest) ← moreArguments close fuel rest
    return (first :: more, rest)

/-- The arguments behind one, each behind a comma. -/
def moreArguments (close : Mark) : Nat → List Token → Except Fault (List Piece × List Token)
  | 0, ts => .error ⟨.noReading "", ts⟩
  | fuel + 1, ts => do
    if (← current ts).mark = .comma then arguments close false fuel ts.tail else return ([], ts)

/-- An argument, an item of a list or a value of a map. -/
def argument (following : List Mark) : Nat → List Token → Except Fault (Piece × List Token)
  | 0, ts => .error ⟨.noReading "", ts⟩
  | fuel + 1, ts => do
    expect argumentStart ts
    match (← current ts).mark with
    | .singleQuoteOpen => quotedText following fuel ts.tail
    | .doubleQuoteOpen => quotedText following fuel ts.tail
    | .listOpen =>
      expect (.comma :: .listClose :: argumentStart) ts.tail
      let (items, rest) ← arguments .listClose true fuel ts.tail
      return (.list items, ← require .listClose following rest)
    | .mapOpen =>
      expect (.mapClose :: mapKeyMarks) ts.tail
      if (← current ts.tail).mark = .mapClose then return (.map [], ts.tail.tail)
      let (entries, rest) ← entries true fuel ts.tail
      return (.map entries, rest)
    | _ =>
      let (parts, rest) ← phrase [] (wordMarks ++ following) wordMarks fuel ts
      return (wordOf parts, rest)

/-- A quoted text behind its first quote. -/
def quotedText (following : List Mark) : Nat → List Token → Except Fault (Piece × List Token)
  | 0, ts => .error ⟨.noReading "", ts⟩
  | fuel + 1, ts => do
    expect (.quoteClose :: textMarks) ts
    let (parts, rest) ← phrase [] (.quoteClose :: textMarks) textMarks fuel ts
    let rest ← require .quoteClose following rest
    return (.joined (parts.map fun part => part.elim (.literal ·.meant) id), rest)

/-- Tokens with one of some marks, and the references among them. -/
def phrase (sofar : List (Token ⊕ Piece)) (following marks : List Mark) :
    Nat → List Token → Except Fault (List (Token ⊕ Piece) × List Token)
  | 0, ts => .error ⟨.noReading "", ts⟩
  | fuel + 1, ts => do
    let t ← current ts
    if !marks.contains t.mark then return (sofar.reverse, ts)
    if t.mark = .refOpen then
      let (piece, rest) ← reference following fuel ts
      phrase (.inr piece :: sofar) following marks fuel rest
    else phrase (.inl t :: sofar) following marks fuel ts.tail

/-- The entries of a map, up to its end. -/
def entries (first : Bool) : Nat → List Token → Except Fault (List (Piece × Piece) × List Token)
  | 0, ts => .error ⟨.noReading "", ts⟩
  | fuel + 1, ts => do
    expect mapKeyMarks ts
    let (key, rest) ← phrase [] [] mapKeyMarks fuel ts
    let rest ← require .colon argumentStart rest
    let (value, rest) ← argument [.comma, .mapClose] fuel rest
    if first then expect [.comma, .mapClose] rest else expectAgain [.comma, .mapClose] rest
    let (more, rest) ←
      if (← current rest).mark = .comma then entries false fuel rest.tail
      else pure ([], rest.tail)
    return ((wordOf key, value) :: more, rest)

end

/-! ### Texts -/

/-- Puts a text in front of pieces. -/
def Piece.prepend (text : String) : List Piece → List Piece
  | .literal s :: ps => .literal (text ++ s) :: ps
  | ps => .literal text :: ps

/-- The pieces of tokens. -/
def pieces : Nat → List Token → Except Fault (List Piece)
  | 0, _ => .ok []
  | fuel + 1, ts => do
    let t ← current ts
    match t.mark with
    | .refOpen =>
      let (r, rest) ← reference (.ending :: textMarks) (8 * ts.length + 8) ts
      return r :: (← pieces fuel rest)
    | .ending => return []
    | _ => return Piece.prepend t.meant (← pieces fuel ts.tail)

/-- Whether a text may hold references. -/
def refers : List Char → Bool
  | '$' :: '\x7b' :: _ => true
  | _ :: cs => refers cs
  | [] => false

/-- Reads a text. -/
def parse (text : String) : Except SyntaxError Piece :=
  let ts := tokens .text text
  ((pieces (ts.length + 1) ts).map textOf).mapError Fault.cause

/-- Reads a text as one argument. -/
def parseArgument (text : String) : Except SyntaxError Piece :=
  let ts := tokens .arguments text
  let read : Except Fault Piece := do
    let (piece, rest) ← argument [.ending] (8 * ts.length + 8) ts
    let _ ← require .ending [] rest
    return piece
  read.mapError Fault.cause

end Chip8.Config.Reference

import Chip8.Text.Utf8
import Chip8.Yaml.ScalarText

/-!
# Tokens

Cuts a text into tokens. The indentation of blocks becomes start and end tokens. Whether a text is
a key shows only at the colon behind it, so the lexer remembers where a key may have started and
puts the token for it there when the colon comes. A tab is a blank, except where the indentation of
a line is still being read.
-/

namespace Chip8.Yaml

/-- A token. -/
inductive Token where
  /-- A directive that gives the version of the format. -/
  | version (major minor : Nat)
  /-- A directive that gives the beginning of the tags with a handle. -/
  | tagHandle (handle start : String)
  | documentStart
  | documentEnd
  | blockSequenceStart
  | blockMappingStart
  | blockEnd
  | flowSequenceStart
  | flowSequenceEnd
  | flowMappingStart
  | flowMappingEnd
  | blockEntry
  | flowEntry
  | key
  | value
  /-- The name that a node is given. -/
  | anchor (name : String)
  /-- The node with a name. -/
  | alias (name : String)
  /-- The tag of a node: a handle, which may be empty, and what follows it. -/
  | tag (handle rest : String)
  /-- A scalar; a plain one may be more than a text. -/
  | scalar (text : String) (plain : Bool)
deriving DecidableEq, Repr

/-! ### Names, tags and directives -/

/-- Whether a character may stand in a name. -/
def isNameChar (c : Char) : Bool := c.isAlphanum || c == '_' || c == '-'

/-- Whether a character may stand in a tag; between angle brackets commas and square brackets may,
too. -/
def isTagChar (bracketed : Bool) (c : Char) : Bool :=
  isNameChar c || ";/?:@&=+$.%!~*'()".toList.contains c || (bracketed && ",[]".toList.contains c)

/-- The next characters that have a property, as a text. -/
def Cursor.word (c : Cursor) (p : Char → Bool) : String × Cursor :=
  (String.ofList (c.take (c.count p)), c.skipWhile p)

/-- A name behind its indicator. -/
def nameToken (make : String → Token) (c : Cursor) : Except Error (Token × Cursor) :=
  let (name, c) := c.advance.word isNameChar
  if name.isEmpty || !(endsWord c.peek || "?:,]\x7d%@\x60".toList.contains c.peek) then
    .error .badAnchor
  else .ok (make name, c)

/-- The characters of a tag, those written by their number in hexadecimal behind a percent sign
among them. -/
def tagText : List Char → Option (List UInt8)
  | [] => some []
  | '%' :: a :: b :: rest => do
    let code ← hexNumber? [a, b]
    return UInt8.ofNat code :: (← tagText rest)
  | ['%', _] => none
  | ['%'] => none
  | c :: rest => (tagText rest).map (UInt8.ofNat c.toNat :: ·)

/-- The rest of a tag, after what was read of it. -/
def tagRest (bracketed : Bool) (sofar : String) (c : Cursor) : Except Error (String × Cursor) :=
  let (word, c) := c.word (isTagChar bracketed)
  let bytes := tagText word.toList
  match bytes.bind fun bs => (Text.decodeUtf8 bs).toOption with
  | some text =>
    if sofar.isEmpty && text.isEmpty then .error .badTag
    else .ok (String.ofList (sofar.toList.drop 1) ++ text, c)
  | none => .error .badTag

/-- A handle of tags: an exclamation mark, or a name between two of them; also what only looks like
the beginning of one. -/
def tagHandle (c : Cursor) : String × Cursor :=
  let (name, c) := c.advance.word isNameChar
  if c.peek == '!' then ("!" ++ name ++ "!", c.advance) else ("!" ++ name, c)

/-- A tag. -/
def tagToken (inFlow : Bool) (c : Cursor) : Except Error (Token × Cursor) := do
  let (token, c) ←
    if c.peekAt 1 == '<' then do
      let (text, c) ← tagRest true "" (c.skip 2)
      if c.peek == '>' then pure (Token.tag "" text, c.advance) else .error Error.badTag
    else do
      let (handle, c) := tagHandle c
      if 1 < handle.length && handle.endsWith "!" then do
        let (text, c) ← tagRest false "" c
        pure (Token.tag handle text, c)
      else do
        let (text, c) ← tagRest false handle c
        pure (if text.isEmpty then Token.tag "" "!" else Token.tag "!" text, c)
  if endsWord c.peek || (inFlow && c.peek == ',') then return (token, c) else .error .badTag

/-- A number in a directive, of at most nine digits. -/
def versionNumber (c : Cursor) : Except Error (Nat × Cursor) :=
  let (digits, c) := c.word Char.isDigit
  if digits.isEmpty || 9 < digits.length then .error .badDirective
  else .ok (digits.foldl (fun n d => 10 * n + (d.toNat - 48)) 0, c)

/-- A directive, up to the end of its line. -/
def directiveToken (c : Cursor) : Except Error (Token × Cursor) := do
  let (name, c) := c.advance.word isNameChar
  let blanks := c.skipWhile isBlank
  let (token, c) ←
    if name == "YAML" then do
      let (major, c) ← versionNumber blanks
      if c.peek == '.' then do
        let (minor, c) ← versionNumber c.advance
        pure (Token.version major minor, c)
      else .error Error.badDirective
    else if name == "TAG" && blanks.peek == '!' then do
      let (handle, c) := tagHandle blanks
      if isBlank c.peek && handle.endsWith "!" then do
        let (start, c) ← tagRest true "" (c.skipWhile isBlank)
        if endsWord c.peek then pure (Token.tagHandle handle start, c) else .error .badDirective
      else .error .badDirective
    else .error .badDirective
  match c.restOfLine? with
  | some c => return (token, c)
  | none => .error .badDirective

/-! ### The lexer -/

/-- A place where a key may have started. -/
structure PossibleKey where
  /-- How many tokens were before it. -/
  token : Nat
  /-- How many characters were before it. -/
  index : Nat
  /-- Its line. -/
  line : Nat
  /-- Its column. -/
  column : Nat
  /-- Whether nothing else may start there. -/
  required : Bool

/-- The state of the lexer. -/
structure Lexer where
  /-- The place in the text. -/
  cursor : Cursor
  /-- The possible keys, one for each open bracket and one for the block, the innermost first. -/
  keys : List (Option PossibleKey)
  /-- The column of the innermost block. -/
  indent : Int
  /-- The columns of the blocks around it, the innermost first. -/
  indents : List Int
  /-- Whether a key may start here. -/
  allowKey : Bool
  /-- The tokens so far. -/
  tokens : Array Token

namespace Lexer

/-- The lexer at the start of a text. -/
def start (text : List Char) : Lexer := ⟨Cursor.start text, [none], -1, [], true, #[]⟩

/-- Whether a bracket is open. -/
def inFlow (l : Lexer) : Bool := 1 < l.keys.length

/-- Adds a token. -/
def push (l : Lexer) (t : Token) : Lexer := { l with tokens := l.tokens.push t }

/-- Adds a token before those from `n` on. -/
def insert (l : Lexer) (n : Nat) (t : Token) : Lexer :=
  { l with tokens := l.tokens.insertIdxIfInBounds n t }

/-- Reads `n` characters. -/
def skip (l : Lexer) (n : Nat) : Lexer := { l with cursor := l.cursor.skip n }

/-- Whether a possible key lies too far back: on an earlier line or more than 1024 characters. -/
def isStale (l : Lexer) (k : PossibleKey) : Bool :=
  k.line < l.cursor.line || k.index + 1024 < l.cursor.index

/-- Drops the possible keys that lie too far back. -/
def dropStale (l : Lexer) : Except Error Lexer := do
  let keys ← l.keys.mapM fun k =>
    match k with
    | none => .ok none
    | some k =>
      if l.isStale k then if k.required then .error Error.keyWithoutValue else .ok none
      else .ok (some k)
  return { l with keys }

/-- Drops the innermost possible key. -/
def dropKey (l : Lexer) : Except Error Lexer :=
  match l.keys with
  | some k :: keys =>
    if k.required then .error .keyWithoutValue else .ok { l with keys := none :: keys }
  | _ => .ok l

/-- Remembers that a key may start here. -/
def saveKey (l : Lexer) : Except Error Lexer :=
  if l.allowKey then do
    let l ← l.dropKey
    let c := l.cursor
    let k : PossibleKey :=
      { token := l.tokens.size, index := c.index, line := c.line, column := c.column,
        required := !l.inFlow && decide (l.indent = c.column) }
    return { l with keys := some k :: l.keys.tail }
  else .ok l

/-- Ends the blocks whose column is right of `column`. -/
def unwindTo (column : Int) (l : Lexer) : List Int → Lexer
  | [] => l
  | outer :: outers =>
    if column < l.indent then
      unwindTo column { l.push .blockEnd with indent := outer, indents := outers } outers
    else l

/-- Ends the blocks that a text in `column` ends; inside brackets there are none. -/
def unwind (l : Lexer) (column : Int) : Lexer :=
  if l.inFlow then l else l.unwindTo column l.indents

/-- Opens a block in `column` if it is right of the innermost one. -/
def indentTo (l : Lexer) (column : Nat) : Lexer × Bool :=
  if l.indent < column then
    ({ l with indents := l.indent :: l.indents, indent := column }, true)
  else (l, false)

/-- Moves over byte order marks, blanks, comments and line breaks to the next token. -/
def toNextToken : Nat → Lexer → Lexer
  | 0, l => l
  | fuel + 1, l =>
    let c := l.cursor
    let c := if c.column = 0 ∧ c.peek = orderMark then c.advance else c
    let tabs := l.inFlow || !l.allowKey
    let c := c.skipWhile fun ch => ch == ' ' || (tabs && ch == '\t')
    let c := if c.peek == '#' then c.skipWhile (!endsLine ·) else c
    if isBreak c.peek then
      toNextToken fuel
        { l with cursor := c.lineBreak.2, allowKey := l.allowKey || !l.inFlow }
    else { l with cursor := c }

/-- A document marker. -/
def documentMarker (l : Lexer) (t : Token) : Except Error Lexer := do
  let l ← (l.unwind (-1)).dropKey
  return { (l.skip 3).push t with allowKey := false }

/-- An opening bracket. -/
def openFlow (l : Lexer) (t : Token) : Except Error Lexer := do
  let l ← l.saveKey
  return { (l.skip 1).push t with allowKey := true, keys := none :: l.keys }

/-- A closing bracket; nothing ends with it where no bracket is open. -/
def closeFlow (l : Lexer) (t : Token) : Except Error Lexer := do
  let l ← l.dropKey
  match l.keys with
  | _ :: k :: keys => return { (l.skip 1).push t with allowKey := false, keys := k :: keys }
  | keys => return { (l.skip 1).push t with allowKey := false, keys }

/-- A comma between brackets. -/
def flowEntry (l : Lexer) : Except Error Lexer := do
  let l ← l.dropKey
  return { (l.skip 1).push .flowEntry with allowKey := true }

/-- A dash before an entry of a sequence. -/
def blockEntry (l : Lexer) : Except Error Lexer := do
  let l ←
    if l.inFlow then .ok l
    else if l.allowKey then
      let (l, opened) := l.indentTo l.cursor.column
      .ok (if opened then l.push .blockSequenceStart else l)
    else .error .misplacedEntry
  let l ← l.dropKey
  return { (l.skip 1).push .blockEntry with allowKey := true }

/-- A question mark before a key. -/
def explicitKey (l : Lexer) : Except Error Lexer := do
  let l ←
    if l.inFlow then .ok l
    else if l.allowKey then
      let (l, opened) := l.indentTo l.cursor.column
      .ok (if opened then l.push .blockMappingStart else l)
    else .error .misplacedKey
  let l ← l.dropKey
  return { (l.skip 1).push .key with allowKey := !l.inFlow }

/-- A colon. If a key may have started before it, the key is put there. -/
def colon (l : Lexer) : Except Error Lexer :=
  match l.keys with
  | some k :: keys =>
    let l := ({ l with keys := none :: keys } : Lexer).insert k.token .key
    let l :=
      if l.inFlow then l
      else
        let (l, opened) := l.indentTo k.column
        if opened then l.insert k.token .blockMappingStart else l
    .ok { (l.skip 1).push .value with allowKey := false }
  | _ => do
    let l ←
      if l.inFlow then .ok l
      else if l.allowKey then
        let (l, opened) := l.indentTo l.cursor.column
        .ok (if opened then l.push .blockMappingStart else l)
      else .error .misplacedColon
    return { (l.skip 1).push .value with allowKey := !l.inFlow }

/-- Adds a scalar. -/
def addScalar (l : Lexer) (s : Scanned) (plain : Bool) : Lexer :=
  { l.push (.scalar (String.ofList s.text) plain) with cursor := s.cursor, allowKey := s.brokeLine }

/-- A scalar between quotes. -/
def quoted (l : Lexer) : Except Error Lexer := do
  let l ← l.saveKey
  return l.addScalar (← quotedScalar l.cursor) false

/-- A plain scalar. -/
def plain (l : Lexer) : Except Error Lexer := do
  let l ← l.saveKey
  return l.addScalar (← plainScalar l.inFlow l.indent l.cursor) true

/-- A block scalar. -/
def block (l : Lexer) : Except Error Lexer := do
  let l ← l.dropKey
  return l.addScalar (← blockScalar l.indent l.cursor) false

/-- A token of a node's own, in front of its content. -/
def property (l : Lexer) (read : Cursor → Except Error (Token × Cursor)) :
    Except Error Lexer := do
  let l ← l.saveKey
  let (t, cursor) ← read l.cursor
  return { l.push t with cursor, allowKey := false }

/-- A directive. -/
def directive (l : Lexer) : Except Error Lexer := do
  let l ← (l.unwind (-1)).dropKey
  let (t, cursor) ← directiveToken l.cursor
  return { l.push t with cursor, allowKey := false }

/-- The characters that have a meaning at the start of a token. -/
def indicators : List Char :=
  ['-', '?', ':', ',', '[', ']', '\x7b', '\x7d', '#', '&', '*', '!', '|', '>', '\'', '"', '%', '@',
    '\x60']

/-- Whether a plain scalar starts here. -/
def startsPlain (l : Lexer) : Bool :=
  let ch := l.cursor.peek
  (!endsWord ch && !indicators.contains ch)
    || (ch == '-' && !isBlank (l.cursor.peekAt 1))
    || (!l.inFlow && (ch == '?' || ch == ':') && !endsWord (l.cursor.peekAt 1))

/-- The token that starts with the next character. -/
def token (l : Lexer) : Except Error Lexer :=
  let c := l.cursor
  let ch := c.peek
  let wordEnds := endsWord (c.peekAt 1)
  if c.column = 0 ∧ ch = '%' then l.directive
  else if c.column = 0 ∧ c.marker '-' then l.documentMarker .documentStart
  else if c.column = 0 ∧ c.marker '.' then l.documentMarker .documentEnd
  else if ch = '[' then l.openFlow .flowSequenceStart
  else if ch = '\x7b' then l.openFlow .flowMappingStart
  else if ch = ']' then l.closeFlow .flowSequenceEnd
  else if ch = '\x7d' then l.closeFlow .flowMappingEnd
  else if ch = ',' then l.flowEntry
  else if ch = '-' ∧ wordEnds then l.blockEntry
  else if ch = '?' ∧ (l.inFlow ∨ wordEnds) then l.explicitKey
  else if ch = ':' ∧ (l.inFlow ∨ wordEnds) then l.colon
  else if ch = '*' then l.property (nameToken .alias)
  else if ch = '&' then l.property (nameToken .anchor)
  else if ch = '!' then l.property (tagToken l.inFlow)
  else if (ch = '|' ∨ ch = '>') ∧ !l.inFlow then l.block
  else if ch = '\'' ∨ ch = '"' then l.quoted
  else if l.startsPlain then l.plain
  else .error (.strayCharacter ch)

/-- All tokens up to the end of the text. -/
def run : Nat → Lexer → Except Error (Array Token)
  | 0, l => .ok l.tokens
  | fuel + 1, l => do
    let l ← (l.toNextToken (l.cursor.rest.length + 1)).dropStale
    let l := l.unwind l.cursor.column
    if l.cursor.rest.isEmpty then
      let l ← (l.unwind (-1)).dropKey
      return l.tokens
    else
      run fuel (← l.token)

end Lexer

/-- Whether a document may hold a character. -/
def allowed (c : Char) : Bool :=
  let n := c.toNat
  n == 0x9 || n == 0xA || n == 0xD || (0x20 ≤ n && n ≤ 0x7E) || n == 0x85
    || (0xA0 ≤ n && n ≤ 0xFFFD) || 0x10000 ≤ n

/-- The tokens of a text. A byte order mark in front of the text is no part of it. -/
def tokens (text : String) : Except Error (List Token) :=
  let cs := text.toList
  let cs := if cs.head? = some orderMark then cs.tail else cs
  match cs.find? (!allowed ·) with
  | some c => .error (.forbiddenCharacter c)
  | none => ((Lexer.start cs).run (cs.length + 2)).map Array.toList

end Chip8.Yaml

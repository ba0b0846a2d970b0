import Chip8.Yaml.Cursor
import Chip8.Yaml.Error

/-!
# The text of scalars

Reads the four ways in which a scalar is written: plain, between single or double quotes, and as a
block. Lines are folded: one line break becomes a blank, further ones are kept.
-/

namespace Chip8.Yaml

/-- A scalar read from a text. -/
structure Scanned where
  /-- Its characters. -/
  text : List Char
  /-- The place after it. -/
  cursor : Cursor
  /-- Whether a line ended behind its last word. -/
  brokeLine : Bool

/-! ### Gaps between words -/

/-- What stands between two words. -/
structure Gap where
  /-- The blanks, if no line ends. -/
  blanks : List Char
  /-- The first line break and the others, if a line ends. -/
  breaks : Option (List Char × List Char)

namespace Gap

/-- No gap yet. -/
def none : Gap := ⟨[], .none⟩

/-- The gap behind a line break that is not kept. -/
def escapedBreak : Gap := ⟨[], some ([], [])⟩

/-- Whether a line ends. -/
def broke (g : Gap) : Bool := g.breaks.isSome

/-- Adds a blank; behind a line break it is not kept. -/
def addBlank (g : Gap) (c : Char) : Gap :=
  if g.broke then g else { g with blanks := g.blanks ++ [c] }

/-- Adds a line break. -/
def addBreak (g : Gap) (b : List Char) : Gap :=
  match g.breaks with
  | .none => ⟨[], some (b, [])⟩
  | some (first, others) => { g with breaks := some (first, others ++ b) }

/-- The text that a gap becomes. -/
def text (g : Gap) : List Char :=
  match g.breaks with
  | .none => g.blanks
  | some (first, others) =>
    if first != ['\n'] then first ++ others else if others.isEmpty then [' '] else others

end Gap

/-- Reads blanks and line breaks. Left of `indent` no tab may stand at the start of a line. -/
def readGap (indent : Int) : Nat → Cursor → Gap → Except Error (Gap × Cursor)
  | 0, c, g => .ok (g, c)
  | fuel + 1, c, g =>
    if isBlank c.peek then
      if g.broke && c.peek == '\t' && decide ((c.column : Int) < indent) then .error .misplacedTab
      else readGap indent fuel c.advance (g.addBlank c.peek)
    else if isBreak c.peek then
      let (b, c) := c.lineBreak
      readGap indent fuel c (g.addBreak b)
    else .ok (g, c)

/-! ### Plain scalars -/

/-- The characters that end a plain scalar between brackets. -/
def flowEnds : List Char := [',', '[', ']', '\x7b', '\x7d']

/-- How many characters a plain scalar goes on without a blank, after `n` of them. Between brackets
a colon must not stand right before another indicator. -/
def plainRun (inFlow : Bool) (n : Nat) : List Char → Except Error Nat
  | [] => .ok n
  | c :: rest =>
    let next := rest.headD endMark
    if endsWord c then .ok n
    else if inFlow && c == ':' && ('?' :: flowEnds).contains next then .error .misplacedColon
    else if (c == ':' && endsWord next) || (inFlow && flowEnds.contains c) then .ok n
    else plainRun inFlow (n + 1) rest

/-- The words of a plain scalar from a place on, after the text read so far and the gap behind
it. -/
def plainWords (inFlow : Bool) (indent : Int) :
    Nat → Cursor → List Char → Gap → Except Error Scanned
  | 0, c, text, gap => .ok ⟨text, c, gap.broke⟩
  | fuel + 1, c, text, gap => do
    let length ← if c.atMarker || c.peek == '#' then .ok 0 else plainRun inFlow 0 c.rest
    if length = 0 then return ⟨text, c, gap.broke⟩
    let text := text ++ gap.text ++ c.take length
    let (gap, c) ← readGap indent c.rest.length (c.skip length) Gap.none
    if !inFlow && decide ((c.column : Int) < indent) then return ⟨text, c, gap.broke⟩
    plainWords inFlow indent fuel c text gap

/-- A plain scalar in a block indented by `outer`. -/
def plainScalar (inFlow : Bool) (outer : Int) (c : Cursor) : Except Error Scanned :=
  plainWords inFlow (outer + 1) (c.rest.length + 1) c [] Gap.none

/-! ### Quoted scalars -/

/-- The character that a backslash and a letter stand for. -/
def escaped? (c : Char) : Option Char :=
  [('0', '\x00'), ('a', '\x07'), ('b', '\x08'), ('t', '\t'), ('\t', '\t'), ('n', '\n'),
   ('v', '\x0b'), ('f', '\x0c'), ('r', '\r'), ('e', '\x1b'), (' ', ' '), ('"', '"'),
   ('\\', '\\'), ('/', '/'), ('N', '\x85'), ('_', '\xa0'), ('L', '\u2028'),
   ('P', '\u2029')].lookup c

/-- How many hexadecimal digits follow a backslash and a letter. -/
def escapeDigits? (c : Char) : Option Nat := [('x', 2), ('u', 4), ('U', 8)].lookup c

/-- The value of a hexadecimal digit. -/
def hexValue? (c : Char) : Option Nat :=
  if '0' ≤ c && c ≤ '9' then some (c.toNat - 48)
  else if 'a' ≤ c && c ≤ 'f' then some (c.toNat - 87)
  else if 'A' ≤ c && c ≤ 'F' then some (c.toNat - 55)
  else none

/-- The number that hexadecimal digits write. -/
def hexNumber? (cs : List Char) : Option Nat :=
  cs.foldlM (fun n c => (hexValue? c).map (16 * n + ·)) 0

/-- The character behind a backslash, and the place after it. -/
def escapeSequence (c : Cursor) : Except Error (Char × Cursor) :=
  match escaped? c.peek, escapeDigits? c.peek with
  | some ch, _ => .ok (ch, c.advance)
  | none, some n =>
    let digits := c.advance
    let ds := digits.take n
    match hexNumber? ds with
    | some code =>
      if ds.length = n ∧ code.isValidChar then .ok (Char.ofNat code, digits.skip n)
      else .error .badEscape
    | none => .error .badEscape
  | none, none => .error .badEscape

/-- The rest of a quoted scalar after its opening quote. -/
def quotedText (quote : Char) : Nat → Cursor → List Char → Except Error Scanned
  | 0, _, _ => .error .unclosedQuote
  | fuel + 1, c, text =>
    let ch := c.peek
    let fill (g : Gap) (c : Cursor) : Except Error Scanned :=
      match readGap 0 c.rest.length c g with
      | .error e => .error e
      | .ok (g, c) => quotedText quote fuel c (text ++ g.text)
    if c.atMarker then .error .markerInQuote
    else if c.rest.isEmpty then .error .unclosedQuote
    else if ch == quote then
      if quote == '\'' && c.peekAt 1 == '\'' then quotedText quote fuel (c.skip 2) (text ++ ['\''])
      else .ok ⟨text, c.advance, false⟩
    else if ch == '\\' && quote == '"' then
      if isBreak (c.peekAt 1) then fill Gap.escapedBreak c.advance.lineBreak.2
      else
        match escapeSequence c.advance with
        | .error e => .error e
        | .ok (ch, c) => quotedText quote fuel c (text ++ [ch])
    else if isBlank ch || isBreak ch then fill Gap.none c
    else quotedText quote fuel c.advance (text ++ [ch])

/-- A scalar between quotes. -/
def quotedScalar (c : Cursor) : Except Error Scanned :=
  quotedText c.peek (c.rest.length + 1) c.advance []

/-! ### Block scalars -/

/-- What becomes of the line breaks at the end of a block scalar. -/
inductive Chomping where
  | strip
  | clip
  | keep
deriving DecidableEq, Repr

/-- The sign of the chomping. -/
def chomping? (c : Char) : Option Chomping := [('-', Chomping.strip), ('+', .keep)].lookup c

/-- The indentation that a block scalar gives itself. -/
def increment? (c : Char) : Option Nat :=
  if '1' ≤ c && c ≤ '9' then some (c.toNat - 48) else none

/-- The indicators behind the first character of a block scalar: the chomping and the indentation,
in any order. -/
def blockIndicators (c : Cursor) : Chomping × Option Nat × Cursor :=
  match chomping? c.peek, increment? c.peek with
  | some k, _ =>
    match increment? (c.peekAt 1) with
    | some n => (k, some n, c.skip 2)
    | none => (k, none, c.advance)
  | none, some n =>
    match chomping? (c.peekAt 1) with
    | some k => (k, some n, c.skip 2)
    | none => (.clip, some n, c.advance)
  | none, none => (.clip, none, c)

/-- Empty lines in a block scalar and the indentation of the line after them, up to `indent` if it
is known; also the widest indentation met. -/
def blockBreaks (indent : Option Nat) :
    Nat → Cursor → List Char → Nat → Except Error (List Char × Nat × Cursor)
  | 0, c, breaks, widest => .ok (breaks, widest, c)
  | fuel + 1, c, breaks, widest =>
    let blanks := c.count (· == ' ')
    let c := c.skip (match indent with
      | some n => min (n - c.column) blanks
      | none => blanks)
    let widest := max widest c.column
    let isShort := match indent with
      | some n => decide (c.column < n)
      | none => true
    if isShort && c.peek == '\t' then .error .misplacedTab
    else if isBreak c.peek then
      let (b, c) := c.lineBreak
      blockBreaks indent fuel c (breaks ++ b) widest
    else .ok (breaks, widest, c)

/-- What is known of a block scalar while its lines are read. -/
structure BlockState where
  /-- The text so far. -/
  text : List Char
  /-- The end of the last line. -/
  lineEnd : List Char
  /-- The empty lines behind it. -/
  emptyLines : List Char
  /-- Whether the last line starts with a blank. -/
  indented : Bool

/-- The text so far, with what stands before the next line. In a folded scalar the end of a line
becomes a blank, unless one of the two lines starts with a blank. -/
def BlockState.joined (s : BlockState) (folded nextIndented : Bool) : List Char :=
  let isFolded := folded && s.lineEnd == ['\n'] && !s.indented && !nextIndented
  let lineEnd := if !isFolded then s.lineEnd else if s.emptyLines.isEmpty then [' '] else []
  s.text ++ lineEnd ++ s.emptyLines

/-- The lines of a block scalar. -/
def blockLines (folded : Bool) (indent : Nat) :
    Nat → Cursor → BlockState → Except Error (BlockState × Cursor)
  | 0, c, s => .ok (s, c)
  | fuel + 1, c, s =>
    if c.column ≠ indent ∨ c.rest.isEmpty then .ok (s, c)
    else
      let length := c.count (!endsLine ·)
      let text := s.joined folded (isBlank c.peek) ++ c.take length
      let (lineEnd, next) := (c.skip length).lineBreak
      match blockBreaks (some indent) (next.rest.length + 1) next [] 0 with
      | .error e => .error e
      | .ok (emptyLines, _, next) =>
        blockLines folded indent fuel next ⟨text, lineEnd, emptyLines, isBlank c.peek⟩

/-- A block scalar in a block indented by `outer`, from its first character on. -/
def blockScalar (outer : Int) (c : Cursor) : Except Error Scanned := do
  let folded := c.peek == '>'
  let (chomping, step, c) := blockIndicators c.advance
  let some c := c.restOfLine? | .error .badBlockHead
  let known := step.map fun n => (max outer 0).toNat + n
  let (breaks, widest, c) ← blockBreaks known (c.rest.length + 1) c [] 0
  let indent := known.getD (max widest (max (outer + 1) 1).toNat)
  let (s, c) ← blockLines folded indent (c.rest.length + 1) c ⟨[], [], breaks, false⟩
  let ending := match chomping with
    | .strip => []
    | .clip => s.lineEnd
    | .keep => s.lineEnd ++ s.emptyLines
  return ⟨s.text ++ ending, c, true⟩

end Chip8.Yaml

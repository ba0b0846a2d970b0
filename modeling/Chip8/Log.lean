import Chip8.Binary64.Fixed
import Chip8.Text.Quoted

/-!
# Logging

A logger writes a line for each message at or above its level. A line has the seconds since the
logger was made, the level, the name of the logger and the message; the level may be coloured, and
is so only for a terminal. Levels are named in any mixture of cases.
-/

namespace Chip8

/-- How grave a message is. -/
inductive LogLevel where
  | debug
  | info
  | warning
  | error
  | critical
deriving DecidableEq, Repr

namespace LogLevel

/-- The levels, the least grave first. -/
def all : List LogLevel := [debug, info, warning, error, critical]

/-- The place of a level among all. -/
def rank : LogLevel → Nat
  | debug => 0
  | info => 1
  | warning => 2
  | error => 3
  | critical => 4

/-- The name of a level. -/
def name : LogLevel → String
  | debug => "DEBUG"
  | info => "INFO"
  | warning => "WARNING"
  | error => "ERROR"
  | critical => "CRITICAL"

/-- The sequence that turns a terminal to the colour of a level. -/
def colour : LogLevel → String
  | debug => "\x1b[36m"
  | info => "\x1b[32m"
  | warning => "\x1b[33m"
  | error => "\x1b[31m"
  | critical => "\x1b[35m"

/-- The upper-case letter of a letter. Of the letters outside the alphabet only the dotless i has
an upper-case letter that occurs in the name of a level. -/
def upper (c : Char) : Char := if c = 'ı' then 'I' else c.toUpper

/-- The level that a text names. -/
def ofText? (s : String) : Option LogLevel :=
  all.find? fun l => l.name.toList == s.toList.map upper

/-- The names of all levels, as messages list them. -/
def available : String := Text.quotedList (all.map name)

end LogLevel

/-- A text that names no level. -/
inductive LevelError where
  /-- It was to become the level of a logger. -/
  | unknown (text : String)
  /-- It was the level of a message. -/
  | incomparable (text : String)
deriving DecidableEq, Repr

/-- The report of a text that names no level. -/
def LevelError.message : LevelError → String
  | unknown text => "Unknown log level '" ++ text ++ "'. Available: " ++ LogLevel.available
  | incomparable _ => "tuple.index(x): x not in tuple"

/-- A logger. -/
structure Logger where
  /-- Its name, in every line. -/
  name : String
  /-- The least grave level it writes. -/
  level : LogLevel
  /-- Whether levels are coloured. -/
  colours : Bool
  /-- Whether lines start with the time. -/
  timestamps : Bool
  /-- The clock when the logger was made. -/
  start : Float

namespace Logger

/-- The name of the program, and of a logger unless it is given another. -/
def programName : String := "chipjax"

/-- A logger with a level given as a text. Colours need a terminal to show them. -/
def create (name level : String) (useColours terminal timestamps : Bool) (start : Float) :
    Except LevelError Logger :=
  match LogLevel.ofText? level with
  | none => .error (.unknown level)
  | some level => .ok { name, level, colours := useColours && terminal, timestamps, start }

/-- Changes the level. -/
def setLevel (l : Logger) (level : String) : Except LevelError Logger :=
  match LogLevel.ofText? level with
  | none => .error (.unknown level)
  | some level => .ok { l with level }

/-- Whether a message at a level is written. -/
def enabled (l : Logger) (level : LogLevel) : Bool := decide (l.level.rank ≤ level.rank)

/-- Whether a message at a level given as a text is written. -/
def enabledText (l : Logger) (level : String) : Except LevelError Bool :=
  match LogLevel.ofText? level with
  | none => .error (.incomparable level)
  | some level => .ok (l.enabled level)

/-- The time of a line. -/
def timestamp (l : Logger) (now : Float) : String :=
  if l.timestamps then "[" ++ Binary64.padLeft 8 (Binary64.fixed 2 (now - l.start)) ++ "s]" else ""

/-- The level of a line. -/
def tag (l : Logger) (level : LogLevel) : String :=
  let plain := "[" ++ Binary64.padLeft 8 level.name ++ "]"
  if l.colours then level.colour ++ plain ++ "\x1b[0m" else plain

/-- A line. -/
def line (l : Logger) (now : Float) (level : LogLevel) (message : String) : String :=
  l.timestamp now ++ l.tag level ++ "[" ++ l.name ++ "] " ++ message ++ "\n"

/-- What the logger writes for a message. -/
def log (l : Logger) (now : Float) (level : LogLevel) (message : String) : String :=
  if l.enabled level then l.line now level message else ""

/-- What the logger writes for a message at a level given as a text. -/
def logText (l : Logger) (now : Float) (level message : String) : Except LevelError String :=
  match LogLevel.ofText? level with
  | none => .error (.incomparable level)
  | some level => .ok (l.log now level message)

/-- What the logger writes for settings, each on a line of its own and with its own reading of the clock. -/
def logEntries (l : Logger) (now : Float) (entries : List (Float × String × String)) : String :=
  l.log now .debug "Configuration:"
    ++ String.join (entries.map fun (now, key, value) =>
      l.log now .debug ("  " ++ key ++ ": " ++ value))

/-- What the logger writes for settings while the clock stands still. -/
def logSettings (l : Logger) (now : Float) (settings : List (String × String)) : String :=
  l.logEntries now (settings.map fun setting => (now, setting))

end Logger

end Chip8

import Chip8.Text.Integer
import Chip8.Value

/-!
# The configuration

Seven settings, each an integer, a truth value or a text, and what they are unless something else
is asked for.
-/

namespace Chip8.Config

/-- What a setting holds. -/
inductive Kind where
  | integer
  | truth
  | text
deriving DecidableEq, Repr

/-- The type of the settings of a kind. -/
abbrev Kind.Carrier : Kind → Type
  | integer => Int
  | truth => Bool
  | text => String

/-- A setting as a value. -/
def Kind.toValue : (k : Kind) → k.Carrier → Value
  | integer, z => .int z
  | truth, b => .bool b
  | text, s => .text s

/-- The settings. -/
inductive Field where
  | instructionsPerSecond
  | timerFrequency
  | scale
  | colorScheme
  | seed
  | logLevel
  | trace
deriving DecidableEq, Repr

namespace Field

/-- The settings in their order. -/
def all : List Field :=
  [instructionsPerSecond, timerFrequency, scale, colorScheme, seed, logLevel, trace]

/-- The name of a setting. -/
def name : Field → String
  | instructionsPerSecond => "instructions_per_second"
  | timerFrequency => "timer_frequency"
  | scale => "scale"
  | colorScheme => "color_scheme"
  | seed => "seed"
  | logLevel => "log_level"
  | trace => "trace"

/-- What a setting holds. -/
abbrev kind : Field → Kind
  | instructionsPerSecond => .integer
  | timerFrequency => .integer
  | scale => .integer
  | colorScheme => .text
  | seed => .integer
  | logLevel => .text
  | trace => .truth

/-- The setting with a name. -/
def ofName? (s : String) : Option Field := all.find? fun f => f.name == s

end Field

end Chip8.Config

namespace Chip8

open Config (Field)

/-- A configuration. -/
structure Config where
  /-- How many instructions are performed in a second. -/
  instructionsPerSecond : Int
  /-- How many times the timers count down in a second. -/
  timerFrequency : Int
  /-- How many pixels wide and high a cell of the display is. -/
  scale : Int
  /-- The name of the colour scheme. -/
  colorScheme : String
  /-- The seed of the random generator. -/
  seed : Int
  /-- The name of the least grave level that is logged. -/
  logLevel : String
  /-- Whether each instruction is logged. -/
  trace : Bool
deriving DecidableEq, Repr

namespace Config

/-- The configuration if nothing else is asked for. -/
def default : Config where
  instructionsPerSecond := 840
  timerFrequency := 60
  scale := 20
  colorScheme := "white"
  seed := 0
  logLevel := "INFO"
  trace := false

/-- A setting of a configuration. -/
def get (c : Config) : (f : Field) → f.kind.Carrier
  | .instructionsPerSecond => c.instructionsPerSecond
  | .timerFrequency => c.timerFrequency
  | .scale => c.scale
  | .colorScheme => c.colorScheme
  | .seed => c.seed
  | .logLevel => c.logLevel
  | .trace => c.trace

/-- Whether a setting has too many digits to be written. -/
def isTooLong (c : Config) (f : Field) : Bool :=
  match f.kind.toValue (c.get f) with
  | .int z => Text.isTooLong z
  | _ => false

/-- The names and the texts of the settings in their order, up to the first with too many digits. -/
def settings (c : Config) : List (String × String) :=
  (Field.all.takeWhile fun f => !c.isTooLong f).map fun f =>
    (f.name, (f.kind.toValue (c.get f)).toText)

end Config

end Chip8

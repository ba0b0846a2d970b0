import Chip8.Log
import Chip8.Text.Integer
import Chip8.Text.Quoted

/-!
# Arguments

The command line takes one argument, the program to run, and one option, which asks for help and
may be shortened. Arguments behind two dashes are no options, and neither are negative numbers nor
arguments with blanks. What is left over is reported all at once, unless help is asked for first.
-/

namespace Chip8.CommandLine

/-- What the arguments ask for. -/
inductive Request where
  /-- To be told how the program is used. -/
  | help
  /-- Nothing: no program is named. -/
  | nothing
  /-- To run the program in a file. -/
  | run (rom : String)
  /-- Something that is reported as wrong. -/
  | wrong (report : String)
deriving DecidableEq, Repr

/-- What one argument is. -/
inductive Argument where
  /-- A plain argument. -/
  | plain
  /-- The option that asks for help, with the value given to it, if any. -/
  | help (value : Option String)
  /-- The option as a letter, with what is written behind it. -/
  | helpLetter (behind : List Char)
  /-- An option that does not exist. -/
  | unknown
deriving DecidableEq, Repr

/-- Whether a character is a decimal digit of any script. -/
def isDigit (c : Char) : Bool := (Text.digit? c).isSome

/-- Whether characters are digits, and at least one. -/
def areDigits (cs : List Char) : Bool := !cs.isEmpty && cs.all isDigit

/-- Whether characters are a negative number, such as `-1`, `-.5` or `-1.5`. A line break may follow
it. -/
def isNegativeNumber (cs : List Char) : Bool :=
  match cs with
  | '-' :: body =>
    let body := if body.getLast? = some '\n' then body.dropLast else body
    let whole := body.takeWhile (· != '.')
    match (body.dropWhile (· != '.')).tail? with
    | none => areDigits whole
    | some fraction => whole.all isDigit && areDigits fraction
  | _ => false

/-- The name of the option as a letter. -/
def shortName : List Char := ['-', 'h']

/-- The name of the option as a word. -/
def longName : List Char := "--help".toList

/-- What an argument in front of two dashes is. -/
def classify (s : String) : Argument :=
  let cs := s.toList
  let name := cs.takeWhile (· != '=')
  let value := (cs.dropWhile (· != '=')).tail?
  match cs with
  | '-' :: '-' :: _ =>
    if name.isPrefixOf longName then .help (value.map String.ofList)
    else if cs.contains ' ' then .plain else .unknown
  | '-' :: 'h' :: behind =>
    if behind.isEmpty then .help none
    else if name = shortName then .helpLetter (value.getD [])
    else .helpLetter behind
  | '-' :: _ :: _ => if isNegativeNumber cs || cs.contains ' ' then .plain else .unknown
  | _ => .plain

/-- The report of a value for the option that takes none. -/
def ignored (value : String) : Request :=
  .wrong ("argument -h/--help: ignored explicit argument " ++ Text.quoted value)

/-- The request of what is written behind the option as a letter. The letter may be repeated. -/
def letterRequest : List Char → Request
  | ['h'] => .help
  | 'h' :: behind => letterRequest behind
  | behind => ignored (String.ofList behind)

/-- The request that the option makes by itself, if the argument is that option. -/
def Argument.request? : Argument → Option Request
  | .help none => some .help
  | .help (some value) => some (ignored value)
  | .helpLetter behind => some (letterRequest behind)
  | _ => none

/-- The arguments sorted so far. -/
structure Sorted where
  /-- The program, once it is named. -/
  rom : Option String
  /-- What is left over, the latest first. -/
  extra : List String

/-- Takes a plain argument: the first one names the program. -/
def Sorted.take (a : Sorted) (s : String) : Sorted :=
  match a.rom with
  | none => { a with rom := some s }
  | some _ => { a with extra := s :: a.extra }

/-- The request of sorted arguments. -/
def Sorted.request (a : Sorted) : Request :=
  match a.extra, a.rom with
  | [], none => .nothing
  | [], some rom => .run rom
  | extra, _ => .wrong ("unrecognized arguments: " ++ " ".intercalate extra.reverse)

/-- Sorts the arguments behind two dashes. -/
def sortPlain (a : Sorted) : List String → Sorted
  | [] => a
  | s :: rest => sortPlain (a.take s) rest

/-- Sorts arguments. The flag says whether the argument before named the program: two dashes are
left over if the program was named earlier than that. -/
def sort (a : Sorted) (justNamed : Bool) : List String → Request
  | [] => a.request
  | "--" :: rest =>
    let a := if a.rom.isNone || justNamed then a else { a with extra := "--" :: a.extra }
    (sortPlain a rest).request
  | s :: rest =>
    let argument := classify s
    match argument.request? with
    | some r => r
    | none =>
      if argument = .plain then sort (a.take s) a.rom.isNone rest
      else sort { a with extra := s :: a.extra } false rest

/-- What the arguments ask for. -/
def Request.ofArguments (arguments : List String) : Request := sort ⟨none, []⟩ false arguments

/-- How the program is used, in one line. -/
def usage : String := "usage: " ++ Logger.programName ++ " [-h] [rom]\n"

/-- The lines of the help text behind the first one. -/
def helpLines : List String :=
  ["",
   "CHIP-8 interpreter. Set CHIPJAX_CONFIG to a YAML file to change speed, scale",
   "or colors.",
   "",
   "positional arguments:",
   "  rom         path to a CHIP-8 ROM image",
   "",
   "options:",
   "  -h, --help  show this help message and exit"]

/-- The help text. -/
def helpText : String := usage ++ String.join (helpLines.map (· ++ "\n"))

/-- The report of wrong arguments. -/
def complaint (report : String) : String :=
  usage ++ Logger.programName ++ ": error: " ++ report ++ "\n"

end Chip8.CommandLine

import Chip8.CommandLine.Arguments
import Chip8.Config.Load
import Chip8.Session

/-!
# The program

What the command line does, from the arguments to the exit status: it reads the configuration and
the program, and runs the program in a window until it fails or the user quits. Some errors are
reported by a line of the log and an exit status of one; the others are not handled and escape.
-/

namespace Chip8.CommandLine

/-- The surroundings of the command line. -/
structure Host where
  /-- The variables of the environment. -/
  environment : String → Option String
  /-- The bytes of a file. -/
  read : String → Except ReadError (List UInt8)
  /-- The events of the window, frame by frame. -/
  frames : List (List WindowEvent)
  /-- The clock. -/
  now : Float

/-- An error that is not handled. -/
inductive Escape where
  /-- In the configuration. -/
  | config (e : Config.Error)
  /-- In the seed. -/
  | seed (e : Random.BadSeed)
  /-- In a rate. -/
  | rate (e : Pacing.BadRate)
  /-- In a cycle. -/
  | cycle (e : Pacing.Failure)
  /-- A setting with too many digits to be logged. -/
  | longSetting
  /-- A null character in the name of the program. -/
  | nullInPath

/-- The report of an error that is not handled, if the program itself gives one. -/
def Escape.message? : Escape → Option String
  | config _ => none
  | seed _ => none
  | rate _ => none
  | cycle _ => none
  | longSetting => some Text.tooLongReport
  | nullInPath => some "embedded null byte"

/-- How the command line ends. -/
inductive Ending where
  /-- With an exit status. -/
  | exit (status : Nat)
  /-- With an error that is not handled. -/
  | escape (e : Escape)
  /-- Not at all: the program still runs when no events are left. -/
  | running

/-- What the command line writes and how it ends. -/
structure Outcome where
  /-- What it writes. -/
  out : String
  /-- What it writes about wrong arguments. -/
  err : String
  /-- How it ends. -/
  ending : Ending

/-- Whether an error in the configuration is reported. -/
def isReported : Config.Error → Bool
  | .malformed cause => cause.message?.isSome
  | .sequenceDocument => false
  | .nestedScalarDocument => false
  | _ => true

/-- The path of a file without empty parts and parts that lead back, as it is read and as reports
name it. Nothing is looked up for that, and nothing leads back from the root. -/
def plainPath (path : String) : String :=
  let parts := (path.splitOn "/").filter fun p => p ≠ "" ∧ p ≠ "."
  let start := (path.toList.takeWhile (· == '/')).length
  let folded := parts.foldl (fun acc p =>
    match acc with
    | q :: rest => if p = ".." ∧ q ≠ ".." then rest else p :: acc
    | [] => if p = ".." ∧ 0 < start then [] else [p]) []
  (if start = 0 then "" else if start = 2 then "//" else "/") ++ "/".intercalate folded.reverse

/-- The name of the variable that names the file of the configuration. -/
def configVariable : String := "CHIPJAX_CONFIG"

/-- The configuration in a file. -/
def readConfig (h : Host) (path : String) : Except Config.Error Config :=
  let plain := plainPath path
  match h.read (if plain.isEmpty then "." else plain) with
  | .error cause => .error (.unreadable plain cause)
  | .ok bytes =>
    match Text.decodeUtf8 bytes with
    | .error cause => .error (.undecodable cause)
    | .ok text => Config.load h.environment (some text) []

/-- The configuration that the environment names; an empty name is none. -/
def configure (h : Host) : Except (String × Config.Error) Config :=
  match h.environment configVariable with
  | none => .ok Config.default
  | some path => if path.isEmpty then .ok Config.default else (readConfig h path).mapError (path, ·)

/-- Why no program is loaded. -/
inductive RomError where
  /-- The file cannot be read. -/
  | unreadable (path : String) (cause : ReadError)
  /-- The file has no bytes. -/
  | empty (path : String)
  /-- The program does not fit. -/
  | tooLarge (e : Machine.RomTooLarge)
deriving DecidableEq, Repr

/-- The report of a program that is not loaded. -/
def RomError.message : RomError → String
  | unreadable path cause => "Could not read ROM '" ++ path ++ "': " ++ cause.reason
  | empty path => "ROM '" ++ path ++ "' is empty"
  | tooLarge e => e.message

/-- The bytes of a program. -/
def readRom (read : String → Except ReadError (List UInt8)) (path : String) :
    Except RomError (List UInt8) :=
  match read path with
  | .error cause => .error (.unreadable path cause)
  | .ok [] => .error (.empty path)
  | .ok bytes => .ok bytes

/-- Runs a machine that has its program loaded. -/
def runMachine (h : Host) (config : Config) (logger : Logger) (m : Machine) (out : String) :
    Outcome :=
  match Session.run m config logger h.now h.frames with
  | .error e => ⟨out, "", .escape (.rate e)⟩
  | .ok (text, .quit) => ⟨out ++ text, "", .exit 0⟩
  | .ok (text, .running) => ⟨out ++ text, "", .running⟩
  | .ok (text, .failed (.fault f)) =>
    ⟨out ++ text ++ logger.log h.now .error ("Emulation stopped: " ++ f.message), "", .exit 1⟩
  | .ok (text, .failed e) => ⟨out ++ text, "", .escape (.cycle e)⟩

/-- Runs the program in a file under a configuration that is logged already. -/
def runRom (h : Host) (config : Config) (logger : Logger) (path out : String) : Outcome :=
  let log := logger.log h.now
  let out := out ++ log .info ("Reading ROM: " ++ path)
  let refuse (e : RomError) : Outcome := ⟨out ++ log .error e.message, "", .exit 1⟩
  if path.toList.contains '\x00' then ⟨out, "", .escape .nullInPath⟩
  else
    match readRom h.read path with
    | .error e => refuse e
    | .ok rom =>
      match Random.ofSeed config.seed with
      | .error e => ⟨out, "", .escape (.seed e)⟩
      | .ok rng =>
        match (Machine.start rng).loadRom rom with
        | .error e => refuse (.tooLarge e)
        | .ok m =>
          let loaded := "Loaded " ++ toString rom.length ++ " bytes, starting emulator"
          runMachine h config logger m (out ++ log .info loaded)

/-- Logs a configuration and runs the program in a file under it. The settings are logged up to the
first with too many digits. -/
def runLogged (h : Host) (config : Config) (logger : Logger) (path : String) : Outcome :=
  let settings := config.settings
  let out := logger.logSettings h.now settings
  if settings.length < Config.Field.all.length then ⟨out, "", .escape .longSetting⟩
  else runRom h config logger path out

/-- The logger of the command line, at the level it has before the configuration is read. -/
def logger (now : Float) : Logger where
  name := Logger.programName
  level := .info
  colours := false
  timestamps := true
  start := now

/-- Reads the configuration and runs the program in a file. -/
def runFile (h : Host) (path : String) : Outcome :=
  let l := logger h.now
  match configure h with
  | .error (file, e) =>
    if isReported e then
      let report := "Invalid configuration " ++ Text.quoted file ++ ": " ++ e.message?.getD ""
      ⟨l.log h.now .error report, "", .exit 1⟩
    else ⟨"", "", .escape (.config e)⟩
  | .ok config =>
    match LogLevel.ofText? config.logLevel with
    | some level => runLogged h config { l with level } path
    | none => ⟨"", "", .escape (.config (.unknownLevel config.logLevel))⟩

/-- The command line. -/
def run (h : Host) (arguments : List String) : Outcome :=
  match Request.ofArguments arguments with
  | .help => ⟨helpText, "", .exit 0⟩
  | .nothing => ⟨usage, "", .exit 0⟩
  | .wrong report => ⟨"", complaint report, .exit 2⟩
  | .run path => runFile h path

end Chip8.CommandLine

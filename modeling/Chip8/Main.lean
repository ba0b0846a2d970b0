import Chip8.CommandLine.Program

/-!
# The executable

Collects what the command line needs, runs it and writes what it writes. The events of the window
are read from the standard input, one frame a line, as words: `quit`, or `down` or `up` and the
letter of a key.
-/

namespace Chip8.Main

open Chip8

/-- Reads a file. -/
def readFile (path : String) : IO (Except ReadError (List UInt8)) :=
  tryCatch (do return .ok (← IO.FS.readBinFile path).toList) fun e =>
    match e with
    | .noFileOrDirectory .. => return .error .missing
    | .inappropriateType .. => return .error .directory
    | .permissionDenied .. => return .error .forbidden
    | .invalidArgument .. => return .error .nameTooLong
    | _ => return .error .notDirectory

/-- The events in the words of a line. -/
def events : List String → List WindowEvent
  | "quit" :: rest => .quit :: events rest
  | "down" :: key :: rest => .keyDown (key.toList.headD ' ').toNat :: events rest
  | "up" :: key :: rest => .keyUp (key.toList.headD ' ').toNat :: events rest
  | _ :: rest => .other :: events rest
  | [] => []

/-- The frames in the lines of a text; the user quits after the last one. -/
def frames (text : String) : List (List WindowEvent) :=
  let lines := (text.splitOn "\n").filter (· ≠ "")
  lines.map (fun line => events ((line.splitOn " ").filter (· ≠ ""))) ++ [[.quit]]

/-- The files that the command line may ask for, read beforehand. -/
def readFiles (paths : List String) : IO (List (String × Except ReadError (List UInt8))) :=
  paths.mapM fun path => do return (path, ← readFile path)

/-- The variables in the list that the system keeps of them, each ended by a null character. -/
def variablesIn (list : String) : List (String × String) :=
  (list.splitOn "\x00").filterMap fun entry =>
    match entry.splitOn "=" with
    | name :: value :: more => some (name, "=".intercalate (value :: more))
    | _ => none

/-- The variables of the environment; where the system keeps no list, only that of the
configuration. -/
def readVariables : IO (List (String × String)) := do
  let listed ← match ← readFile "/proc/self/environ" with
    | .ok bytes => pure (variablesIn ((String.fromUTF8? ⟨bytes.toArray⟩).getD ""))
    | .error _ => pure []
  let name := CommandLine.configVariable
  return ((← IO.getEnv name).map fun value => (name, value)).toList ++ listed

end Chip8.Main

open Chip8 in
/-- Runs the command line. -/
def main (arguments : List String) : IO UInt32 := do
  let settings ← Main.readVariables
  let environment (name : String) := settings.lookup name
  let rom := match CommandLine.Request.ofArguments arguments with
    | .run path => [path]
    | _ => []
  let configPath := environment CommandLine.configVariable
  let config := configPath.toList.map CommandLine.plainPath
  let files ← Main.readFiles (config ++ rom)
  let input ← if rom.isEmpty then pure "" else (← IO.getStdin).readToEnd
  let frames := Main.frames input
  let read (path : String) := (files.lookup path).getD (.error .missing)
  let outcome := CommandLine.run { environment, read, frames, now := 0.0 } arguments
  IO.print outcome.out
  IO.eprint outcome.err
  match outcome.ending with
  | .exit status => return UInt32.ofNat status
  | _ => return 1

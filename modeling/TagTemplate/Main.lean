import TagTemplate.CommandLine.Run

/-!
# The program

Reads the files that the command line may need and the standard input, runs the command line on
them, and writes what it leaves.
-/

namespace TagTemplate.Program

/-- The number of an error of the system, which some calls give negated. -/
def errorNumber (code : UInt32) : UInt32 := min code (0 - code)

/-- The fault behind an error of the system. -/
def faultOf (error : IO.Error) : ReadFault :=
  match error with
  | .noFileOrDirectory _ _ _ => .missing
  | .permissionDenied _ code _ => .other s!"Permission denied (os error {errorNumber code})"
  | .inappropriateType _ code _ =>
    if errorNumber code = 21 then .directory else .notDirectory
  | .invalidArgument _ code _ =>
    if errorNumber code = 36 then .nameTooLong else .other (toString error)
  | _ => .other (toString error)

/-- The bytes at a path. -/
def lookAt (path : String) : IO (Except ReadFault (List UInt8)) := do
  try
    let bytes ← IO.FS.readBinFile path
    return .ok bytes.toList
  catch error => return .error (faultOf error)

/-- The directory of settings. -/
def settingsHome : IO (Option String) := do
  match ← IO.getEnv "XDG_CONFIG_HOME" with
  | some home => if home.startsWith "/" then return some home
  | none => pure ()
  return (← IO.getEnv "HOME").map (· ++ "/.config")

/-- The paths that a command line may need. -/
def pathsOf (l : CommandLine) (home : Option String) : List String :=
  let settings := match l.config with
    | .skip => []
    | .file path => [path]
    | .search => CommandLine.usualPlaces home
  match l.template with
  | .stdin => settings
  | .file path => settings ++ [path]

/-- What surrounds a command line. -/
def surroundingsOf (l : CommandLine) : IO Surroundings := do
  let home ← settingsHome
  let found ← (pathsOf l home).mapM fun path => return (path, ← lookAt path)
  let stdin ← match l.template with
    | .stdin => ByteArray.toList <$> (← IO.getStdin).readBinToEnd
    | .file _ => pure []
  return ⟨home, fun path => (found.lookup path).getD (.error .missing), stdin⟩

end TagTemplate.Program

/-- Runs the arguments of the program. -/
def main (args : List String) : IO UInt32 := do
  let l := (TagTemplate.CommandLine.parse args).toOption.getD .empty
  let outcome := TagTemplate.CommandLine.runArguments args
    (← TagTemplate.Program.surroundingsOf l)
  (← IO.getStderr).putStr outcome.stderr
  (← IO.getStdout).putStr outcome.stdout
  return UInt32.ofNat outcome.code

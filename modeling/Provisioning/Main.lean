import Provisioning.Command.Execute

/-!
# The program

The commands over the file system and the clock of the machine.

## Main definitions

* `main`: the program
-/

namespace Provisioning

/-- The fault of a file operation. -/
def FileError.ofSystem : IO.Error → FileError
  | .noFileOrDirectory _ _ _ => .notFound
  | .permissionDenied _ _ _ => .permissionDenied
  | .alreadyExists _ _ _ => .alreadyExists
  | .inappropriateType _ code details =>
    if code = 20 then .notDirectory else if code = 21 then .isDirectory else .other details
  | e => .other (toString e)

/-- The result of a file operation. -/
def attempted {α : Type} (operation : IO α) : IO (Except FileError α) := do
  try return .ok (← operation)
  catch e => return .error (FileError.ofSystem e)

instance : FileStore IO where
  isPresent path := do
    match ← attempted (IO.FS.readBinFile path) with
    | .ok _ | .error .isDirectory | .error .permissionDenied => return true
    | .error _ => return false
  read path := attempted (IO.FS.readBinFile path)
  write path bytes := attempted (IO.FS.writeBinFile path bytes)
  makeDirectories path := attempted (IO.FS.createDirAll path)
  rename source target := attempted (IO.FS.rename source target)

instance : Sleeper IO where
  sleep span := IO.sleep (UInt32.ofNat (min span.millisUp 0xFFFFFFFF))

/-- Whether entries of a level are shown at a verbosity. -/
def isShown (verbosity : Nat) : Log.Level → Bool
  | .error | .warn => true
  | .info => 1 ≤ verbosity
  | .debug => 2 ≤ verbosity
  | .trace => 3 ≤ verbosity

/-- The verbosity of a command line. -/
def verbosityOf (arguments : List String) : Nat :=
  match Invocation.read arguments with
  | .ok invocation => invocation.verbosity
  | .error _ => 0

end Provisioning

open Provisioning in
/-- Runs the command of a command line and shows what it printed and reported. -/
def main (arguments : List String) : IO UInt32 := do
  let output ← IO.getStdout
  let errors ← IO.getStderr
  let directory := settingsDirectory (← IO.getEnv "STRATUS_HOME") (← IO.getEnv "HOME")
  let ending ← runProgramLine (← output.isTty) (directory.getD ".stratus") arguments
  for entry in ending.entries do
    if isShown (verbosityOf arguments) entry.level then
      errors.putStrLn (entry.level.name ++ " " ++ entry.text)
  output.putStr ending.output
  output.flush
  errors.putStr ending.errors
  return UInt32.ofNat ending.status

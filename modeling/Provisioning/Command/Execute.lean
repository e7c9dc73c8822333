import Provisioning.Command.Pool
import Provisioning.Command.Range
import Provisioning.Command.Select
import Provisioning.Command.Settings
import Provisioning.Command.Wait

/-!
# Running commands

Only the commands that depend on stored settings read them.

## Main definitions

* `Command.run`: a command, for the settings of a directory
* `Ending`, `finish`: what a program leaves for its caller
* `settingsDirectory`: the directory of the settings
-/

namespace Provisioning

open Log Terminal

variable {m : Type → Type} [Monad m] [FileStore m] [Sleeper m]

/-- A command, for the settings of a directory. -/
def Command.run (styled : Bool) (directory : String) : Command → Session m Unit
  | .range a => a.run styled
  | .pool a => a.run styled
  | .select a => do
    let f ← loadSettings directory
    a.run styled f.settings
  | .wait a => do
    let f ← loadSettings directory
    a.run styled f.settings
  | .settings action => action.run styled directory

/-- What a program leaves for its caller. -/
structure Ending where
  /-- The exit status. -/
  status : Nat
  /-- The text on the output. -/
  output : String := ""
  /-- The text on the error stream, reported entries aside. -/
  errors : String := ""
  /-- What was reported. -/
  entries : List Entry := []

/-- The name and version of the program. -/
def versionText : String := "stratus 0.1.0\n"

/-- What arguments that are refused lead to. -/
def Ending.ofFault : UsageFault → Ending
  | .version => { status := 0, output := versionText }
  | .help => { status := 0 }
  | _ => { status := 2 }

/-- What a run leads to. -/
def Ending.ofRun (styled : Bool) (r : Except CommandError Unit × Transcript) : Ending :=
  let done : Ending := { status := 0, output := r.2.printed, entries := r.2.entries }
  match r.1 with
  | .ok _ => done
  | .error e =>
    { done with status := 1, errors := Notice.error.line styled ("Error: " ++ e.message) }

/-- The program, for a command line without the program's name. -/
def runProgramLine (styled : Bool) (directory : String) (arguments : List String) : m Ending := do
  match Invocation.read arguments with
  | .error fault => return Ending.ofFault fault
  | .ok invocation =>
    return Ending.ofRun styled
      (← Session.transcript (invocation.command.run styled directory))

/-- The directory of the settings: the one that is set for them, or else one in the user's
directory. -/
def settingsDirectory (own home : Option String) : Option String :=
  match own, home with
  | some directory, _ => some directory
  | none, some home => some (joinPath home ".stratus")
  | none, none => none

end Provisioning

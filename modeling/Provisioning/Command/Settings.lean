import Provisioning.Command.Arguments
import Provisioning.Command.Session
import Provisioning.Settings.Keys

/-!
# The settings command

Shows and changes stored settings. Removing them and showing their path do not read the file, and
so do not depend on what it holds.

## Main definitions

* `loadSettings`, `saveSettings`: the settings of a directory, with a failure as that of a command
* `SettingsAction.run`: the command
-/

namespace Provisioning

open Terminal

variable {m : Type → Type} [Monad m] [FileStore m]

/-- The settings of a directory; the loading is reported. -/
def loadSettings (directory : String) : Session m SettingsFile := do
  let f ← Session.require .ofStore (← Session.perform (SettingsFile.load directory))
  Session.note (SettingsFile.loadedEntry f.path)
  return f

/-- Writes settings. -/
def saveSettings (f : SettingsFile) : Session m Unit := do
  Session.require .ofStore (← Session.perform f.save)

namespace SettingsAction

/-- What is said about settings below their path. -/
def contentText (s : Settings) : String :=
  let content := s.shown
  if Text.isBlankText content then "(no settings, using defaults)\n" else content ++ "\n"

/-- The command, for the settings of a directory. -/
def run (styled : Bool) (directory : String) : SettingsAction → Session m Unit
  | .list => do
    let f ← loadSettings directory
    Session.notice styled .info ("Configuration file: " ++ f.path)
    Session.print (contentText f.settings)
  | .set key value => do
    let f ← loadSettings directory
    let settings ← Session.require .settings (f.settings.set key value)
    saveSettings { f with settings }
    Session.notice styled .success ("Set " ++ key ++ " = " ++ value)
  | .get key => do
    let f ← loadSettings directory
    match ← Session.require .settings (f.settings.get key) with
    | some value => Session.print (value ++ "\n")
    | none => Session.notice styled .warning (key ++ " is not set (using default)")
  | .reset => do
    saveSettings (.emptyIn directory)
    Session.notice styled .success "Configuration reset to defaults"
  | .path => Session.print ((SettingsFile.emptyIn directory).path ++ "\n")

end SettingsAction

end Provisioning

import Provisioning.Files.Store
import Provisioning.Log.Entry
import Provisioning.Settings.Document

/-!
# Stored settings

Settings are kept in a file of a directory. A new version is written beside it and then takes its
place.

## Main definitions

* `SettingsFile`: settings and the directory that they are kept in
* `SettingsFile.load`, `SettingsFile.save`: reading and writing
* `SettingsFile.emptyIn`: no settings, for a directory
-/

namespace Provisioning

open Log

/-- Why stored settings cannot be read or written. -/
inductive StoreError where
  /-- The settings are refused. -/
  | settings (e : SettingsError)
  /-- The file system refuses. -/
  | file (e : FileError)
deriving DecidableEq

/-- Settings and the directory that they are kept in. -/
structure SettingsFile where
  /-- The directory. -/
  directory : String
  /-- The settings. -/
  settings : Settings := {}

namespace SettingsFile

/-- The path of the settings of a directory. -/
def pathIn (directory : String) : String := joinPath directory "config.toml"

/-- The path of the file. -/
def path (f : SettingsFile) : String := pathIn f.directory

/-- No settings, for the file of a directory, whatever that holds. -/
def emptyIn (directory : String) : SettingsFile := { directory }

/-- The entry that reports a loaded file. -/
def loadedEntry (path : String) : Entry := ⟨.debug, "Loaded configuration from " ++ path⟩

variable {m : Type → Type} [Monad m] [FileStore m]

/-- The settings of a directory's file; none if there is no file. -/
def load (directory : String) : m (Except StoreError SettingsFile) := do
  let path := pathIn directory
  if ← FileStore.isPresent path then
    match ← readText path with
    | .error e => return .error (.file e)
    | .ok text =>
      match Settings.ofText? text with
      | none => return .error (.settings (.document "invalid document"))
      | some settings => return .ok { directory, settings }
  else return .ok (emptyIn directory)

/-- Writes the settings: to a file beside the settings' own, which it then replaces. The directory
is made if it is missing. -/
def save (f : SettingsFile) : m (Except StoreError Unit) := do
  match f.settings.toText? with
  | none => return .error (.settings (.document "number out of range"))
  | some text =>
    -- Nothing is touched before the text is known to be whole.
    let present ← FileStore.isPresent f.directory
    let made ← if present then pure (.ok ()) else FileStore.makeDirectories f.directory
    match made with
    | .error e => return .error (.settings (.directoryFailed e.message))
    | .ok _ =>
      let temporary := joinPath f.directory "config.tmp"
      match ← FileStore.write temporary text.toUTF8 with
      | .error e => return .error (.file e)
      | .ok _ =>
        match ← FileStore.rename temporary f.path with
        | .error e => return .error (.file e)
        | .ok _ => return .ok ()

end SettingsFile

end Provisioning

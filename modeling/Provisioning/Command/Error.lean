import Provisioning.Network.Error
import Provisioning.Settings.Store
import Provisioning.Template.Error

/-!
# Errors of commands

## Main definitions

* `CommandError`: why a command fails
* `CommandError.message`: the wording
-/

namespace Provisioning

/-- Why a command fails. -/
inductive CommandError where
  /-- A template, a requirement or a catalog is refused. -/
  | template (e : TemplateError)
  /-- A block is refused. -/
  | address (e : AddressError)
  /-- A pool refuses. -/
  | pool (e : PoolError)
  /-- Timeout and interval do not go together. -/
  | policy (e : Poll.PolicyError)
  /-- The settings are refused. -/
  | settings (e : SettingsError)
  /-- The file system refuses. -/
  | file (e : FileError)
  /-- The arguments do not go together with what they are for. -/
  | invalidInput (text : String)
  /-- The command did its work, and that came to nothing. -/
  | failed (text : String)

namespace CommandError

/-- The wording of an error. -/
def message : CommandError → String
  | .template e => "Core domain error: " ++ e.message
  | .address e => "Utils error: " ++ e.message
  | .pool e => "Utils error: " ++ e.message
  | .policy e => "Utils error: " ++ e.message
  | .settings e => e.message
  | .file e => "IO error: " ++ e.message
  | .invalidInput text => "Invalid input: " ++ text
  | .failed text => "Operation failed: " ++ text

/-- The error of a fault with stored settings. -/
def ofStore : StoreError → CommandError
  | .settings e => .settings e
  | .file e => .file e

end CommandError

end Provisioning

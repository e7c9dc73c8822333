import Provisioning.Text.Utf8

/-!
# Stores of files

What the library asks of a file system.

## Main definitions

* `FileError`: why an operation on files fails, worded as the operating system does
* `FileStore m`: the operations, in a monad `m`
* `joinPath`: the path of an entry of a directory
* `readText`: the text of a file
-/

namespace Provisioning

/-- Why an operation on files fails. -/
inductive FileError where
  /-- There is no such entry. -/
  | notFound
  /-- An entry on the way is no directory. -/
  | notDirectory
  /-- The entry is a directory. -/
  | isDirectory
  /-- The entry is there already. -/
  | alreadyExists
  /-- The operation is not allowed. -/
  | permissionDenied
  /-- The path holds a NUL. -/
  | nulInPath
  /-- The bytes of a text are no UTF-8. -/
  | invalidUtf8
  /-- Anything else. -/
  | other (text : String)
deriving DecidableEq

/-- The wording of an error. -/
def FileError.message : FileError → String
  | .notFound => "No such file or directory (os error 2)"
  | .notDirectory => "Not a directory (os error 20)"
  | .isDirectory => "Is a directory (os error 21)"
  | .alreadyExists => "File exists (os error 17)"
  | .permissionDenied => "Permission denied (os error 13)"
  | .nulInPath => "file name contained an unexpected NUL byte"
  | .invalidUtf8 => "stream did not contain valid UTF-8"
  | .other text => text

/-- The operations on files. -/
class FileStore (m : Type → Type) where
  /-- Whether a path leads to an entry. -/
  isPresent : String → m Bool
  /-- The bytes of a file. -/
  read : String → m (Except FileError ByteArray)
  /-- Makes bytes the content of a file, which is made if it is missing. -/
  write : String → ByteArray → m (Except FileError Unit)
  /-- Makes a directory and those that it is in. -/
  makeDirectories : String → m (Except FileError Unit)
  /-- Gives a file another path; a file that is there already is replaced. -/
  rename : String → String → m (Except FileError Unit)

/-- The path of an entry of a directory. An absolute path stands for itself. -/
def joinPath (directory entry : String) : String :=
  if directory = "" ∨ entry.toList.head? = some '/' then entry
  else if directory.toList.getLast? = some '/' then directory ++ entry
  else directory ++ "/" ++ entry

/-- The text of a file. -/
def readText {m : Type → Type} [Monad m] [FileStore m] (path : String) :
    m (Except FileError String) := do
  match ← FileStore.read path with
  | .error e => return .error e
  | .ok bytes =>
    match Text.ofUtf8? bytes with
    | some text => return .ok text
    | none => return .error .invalidUtf8

end Provisioning

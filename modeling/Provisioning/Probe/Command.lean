import Provisioning.Shell.Run
import Provisioning.Text.Blank

/-!
# Probe commands

Commands that are tried until they succeed.

## Main definitions

* `Probe`: a command with its label
* `Probe.shell`, `Probe.direct`: the probe of a script, and of a program with its arguments
* `Attempt`: one run, its result and the time it takes
* `Probe.attempt`: one run of a probe
-/

namespace Provisioning

open Shell Text

/-- A command that is tried. -/
structure Probe where
  /-- Its name in reports. -/
  label : String
  /-- The program. -/
  program : String
  /-- The arguments of the program. -/
  arguments : List String
deriving DecidableEq

namespace Probe

/-- The probe of a script. -/
def shell (script : String) : Probe where
  label := script
  program := "sh"
  arguments := ["-c", script]

/-- The probe of a program and its arguments; nothing is no probe. -/
def direct : List String → Option Probe
  | [] => none
  | program :: arguments =>
    some { label := String.intercalate " " (program :: arguments), program, arguments }

/-- The last line of a text; a newline at the end of the text ends its last line. -/
def lastLine (text : List Char) : List Char :=
  let backwards := text.reverse
  let backwards := if backwards.head? = some '\n' then backwards.tail else backwards
  (backwards.takeWhile (· ≠ '\n')).reverse

/-- What a program said last: the last line of its error stream, blanks around it aside. -/
def detail (errors : ByteArray) : String :=
  trim (String.ofList (lastLine (ofUtf8Lossy errors).toList))

/-- How a program ended, in words. -/
def endText : Exit → String
  | .code status => "exit " ++ toString status
  | .signal _ => "killed by signal"

/-- The result of a program that ended: success for status zero. -/
def resultOf (ended : Exit) (errors : ByteArray) : Except String Unit :=
  if ended = .code 0 then .ok ()
  else
    let detail := detail errors
    .error (if detail = "" then endText ended else endText ended ++ ": " ++ detail)

/-- Whether a text cannot be handed to a program. -/
def holdsNul (s : String) : Bool := s.toList.contains '\x00'

end Probe

/-- One run of a probe. -/
structure Attempt where
  /-- Success, or why there was none. -/
  result : Except String Unit
  /-- The time it takes. -/
  takes : Span

namespace Attempt

/-- A program that was not started: that takes no time. -/
def notStarted (reason : String) : Attempt where
  result := .error ("failed to start: " ++ reason)
  takes := .zero

/-- The time that a program takes at least. -/
def least : Span := .ofMillis 1

/-- A program that was started: it takes some time, and the time it sleeps. -/
def ofProcess (final : Process) : Attempt where
  result := Probe.resultOf (final.ended.getD (.code final.status)) final.errors
  takes := least + final.slept

end Attempt

/-- One run of a probe. -/
def Probe.attempt {m : Type → Type} [Monad m] [FileStore m] (p : Probe) : m Attempt := do
  if holdsNul p.program || p.arguments.any holdsNul then
    return .notStarted "nul byte found in provided data"
  else
    match ← locate p.program with
    | .error e => return .notStarted e.message
    | .ok program => return .ofProcess (← runProgram program p.arguments)

end Provisioning

import Provisioning.Command.Error
import Provisioning.Log.Entry
import Provisioning.Terminal.Notice

/-!
# Sessions

The run of a command: it prints, reports and may fail. What was printed and reported before a failure
stays.

## Main definitions

* `Transcript`: what was printed and reported
* `Session m`: runs over a monad `m`
* `Session.print`, `Session.logged`, `Session.require`: their steps
-/

namespace Provisioning

open Log Terminal

/-- What a command printed and reported. -/
structure Transcript where
  /-- What was printed. -/
  printed : String := ""
  /-- What was reported, the oldest entry first. -/
  entries : List Entry := []

/-- The run of a command. -/
abbrev Session (m : Type → Type) := ExceptT CommandError (StateT Transcript m)

namespace Session

variable {m : Type → Type} [Monad m] {α ε : Type}

/-- Prints a text. -/
def print (text : String) : Session m Unit :=
  modify fun t => { t with printed := t.printed ++ text }

/-- Prints a notice. -/
def notice (styled : Bool) (kind : Notice) (message : String) : Session m Unit :=
  print (kind.line styled message)

/-- A value, with its entries reported. -/
def logged (x : Logged α) : Session m α := do
  modify fun t => { t with entries := t.entries ++ x.entries }
  return x.value

/-- Reports an entry. -/
def note (entry : Entry) : Session m Unit := logged (Logged.note entry)

/-- A result, of which a failure ends the run. -/
def require (cause : ε → CommandError) : Except ε α → Session m α
  | .ok a => pure a
  | .error e => throw (cause e)

/-- A step of the monad underneath. -/
def perform (x : m α) : Session m α := fun t => do return (.ok (← x), t)

/-- The result of a run, and its transcript. -/
def transcript (x : Session m α) : m (Except CommandError α × Transcript) :=
  (ExceptT.run x).run {}

end Session

end Provisioning

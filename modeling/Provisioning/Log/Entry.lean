/-!
# Log entries

What the library reports of its own work, apart from its results: entries of a level and a text, in
order.

## Main definitions

* `Level`, `Entry`: an entry and its level
* `Logged α`: a value with the entries reported on the way to it
* `Logged.note`: the reporting of one entry
-/

namespace Provisioning.Log

/-- The levels of importance. -/
inductive Level where
  | trace | debug | info | warn | error
deriving DecidableEq

/-- The name of a level. -/
def Level.name : Level → String
  | .trace => "TRACE"
  | .debug => "DEBUG"
  | .info => "INFO"
  | .warn => "WARN"
  | .error => "ERROR"

/-- One reported entry. -/
structure Entry where
  /-- Its importance. -/
  level : Level
  /-- What it says. -/
  text : String
deriving DecidableEq

/-- A value and the entries reported on the way to it, the oldest first. -/
structure Logged (α : Type) where
  /-- The entries. -/
  entries : List Entry
  /-- The value. -/
  value : α

namespace Logged

/-- A value with nothing to report. -/
def silent {α : Type} (a : α) : Logged α := ⟨[], a⟩

/-- One reported entry. -/
def note (entry : Entry) : Logged Unit := ⟨[entry], ()⟩

/-- The entries of both steps, in order. -/
def andThen {α β : Type} (x : Logged α) (f : α → Logged β) : Logged β :=
  let y := f x.value
  ⟨x.entries ++ y.entries, y.value⟩

instance : Monad Logged where
  pure := silent
  bind := andThen

@[simp] theorem value_pure {α : Type} (a : α) : (pure a : Logged α).value = a := rfl

@[simp] theorem value_bind {α β : Type} (x : Logged α) (f : α → Logged β) :
    (x >>= f).value = (f x.value).value := rfl

end Logged

end Provisioning.Log

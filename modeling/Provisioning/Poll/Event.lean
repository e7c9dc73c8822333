import Provisioning.Log.Entry
import Provisioning.Poll.Outcome
import Provisioning.Poll.Policy

/-!
# Events of a poll

What a poll reports while it runs, and the log entries of these events.

## Main definitions

* `Event`: the events
* `Event.entry`: the log entry of an event
* `warning?`: the entry about a faulty policy
-/

namespace Provisioning.Poll

open Log

/-- What happens in a poll, as far as it is reported. -/
inductive Event where
  /-- An attempt was completed. -/
  | attempted (number : Nat) (elapsed : Span)
  /-- A cancellation cut an attempt off. -/
  | cutByCancel (number : Nat)
  /-- The deadline cut an attempt off. -/
  | cutByDeadline (number : Nat)
  /-- The poll ended. -/
  | finished (state : State) (attempts : Nat) (elapsed : Span)
deriving DecidableEq

/-- The log entry of an event. -/
def Event.entry : Event → Entry
  | .attempted n elapsed => ⟨.trace, "poll attempt " ++ toString n ++ " at " ++ elapsed.text⟩
  | .cutByCancel n => ⟨.debug, "poll cancelled during attempt " ++ toString n⟩
  | .cutByDeadline n => ⟨.debug, "attempt " ++ toString n ++ " still running at the deadline"⟩
  | .finished state attempts elapsed =>
    ⟨.debug, "poll finished: " ++ state.name ++ " after " ++ toString attempts ++
      " attempt(s) in " ++ elapsed.text⟩

/-- The entry about the fault of a policy, if it has one. A poll goes on nevertheless. -/
def warning? (policy : Policy) : Option Entry :=
  policy.fault?.map fun e => ⟨.warn, "polling with an invalid policy: " ++ e.message⟩

end Provisioning.Poll

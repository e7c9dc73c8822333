import Provisioning.Time.Span

/-!
# Outcomes of polls

## Main definitions

* `State`: how a poll ended
* `counted`: a number of attempts as a counter shows it
* `Outcome`: the state, the last completed result, the time taken and the attempts made
* `Outcome.toResult`: the last result of a poll that converged, an error of the caller's otherwise
-/

namespace Provisioning.Poll

/-- How a poll ended. -/
inductive State where
  /-- The last result was accepted. -/
  | converged
  /-- No further attempt fits before the deadline. -/
  | timedOut
  /-- The poll was cancelled. -/
  | cancelled
deriving DecidableEq

namespace State

/-- The name of a state. -/
def name : State → String
  | .converged => "Converged"
  | .timedOut => "TimedOut"
  | .cancelled => "Cancelled"

/-- The state of two flags, of which the first wins. -/
def ofFlags (timedOut cancelled : Bool) : State :=
  if timedOut then .timedOut else if cancelled then .cancelled else .converged

end State

/-- A number of attempts as a counter of 32 bits shows it. -/
def counted (n : Nat) : Nat := n % 0x100000000

/-- What a poll came to. -/
structure Outcome (ε α : Type) where
  /-- The result of the last completed attempt; none if the first attempt was cut off. -/
  result : Option (Except ε α)
  /-- How the poll ended. -/
  state : State
  /-- The time from start to end. -/
  elapsed : Span
  /-- The attempts started, as a counter shows them. -/
  attempts : Nat

namespace Outcome

variable {ε α : Type}

/-- Whether the last result was accepted. -/
def converged (o : Outcome ε α) : Bool := o.state == .converged

/-- Whether the deadline ended the poll. -/
def timedOut (o : Outcome ε α) : Bool := o.state == .timedOut

/-- Whether a cancellation ended the poll. -/
def cancelled (o : Outcome ε α) : Bool := o.state == .cancelled

/-- The value of the last completed attempt, if it succeeded. -/
def value? (o : Outcome ε α) : Option α :=
  match o.result with
  | some (.ok a) => some a
  | _ => none

/-- The error of the last completed attempt, if it failed. -/
def error? (o : Outcome ε α) : Option ε :=
  match o.result with
  | some (.error e) => some e
  | _ => none

/-- The last result if it was accepted; otherwise the caller's error, made from the time taken and
the attempts. -/
def toResult (o : Outcome ε α) (onStopped : Span → Nat → ε) : Except ε α :=
  match o.state, o.result with
  | .converged, some r => r
  | _, _ => .error (onStopped o.elapsed o.attempts)

end Outcome

end Provisioning.Poll

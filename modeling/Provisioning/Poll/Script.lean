import Provisioning.Poll.Blocking

/-!
# Rehearsed polls

Polls against a script: what each attempt gives, how long it takes and whether it cancels the poll.

## Main definitions

* `Step`, `Script`: the attempts of a script; the last step is repeated
* `Stage`: the clock, the attempts and the sleeps of a rehearsal so far
* `rehearsal`, `Script.world`: the world of a rehearsal
* `Script.onRunningClock`: the script with attempts that all take time
-/

namespace Provisioning.Poll

variable {ε α : Type}

/-- One attempt of a script. -/
structure Step (ε α : Type) where
  /-- What the attempt gives. -/
  result : Except ε α
  /-- How long it takes. -/
  takes : Span := .zero
  /-- Where the clock stands afterwards, if it is set. -/
  clockTo : Option Span := none
  /-- Whether it cancels the poll as it ends. -/
  cancels : Bool := false
  /-- Whether it never ends. -/
  hangs : Bool := false

/-- A first attempt and those after it. -/
structure Script (ε α : Type) where
  /-- The first attempt. -/
  first : Step ε α
  /-- The attempts after it. -/
  more : List (Step ε α) := []

/-- The attempt after `n` others; the last one of the script is repeated. -/
def Script.step (script : Script ε α) (n : Nat) : Step ε α :=
  let steps := script.first :: script.more
  (steps[n]?).getD (steps.getLast (List.cons_ne_nil _ _))

/-- A rehearsal under way. -/
structure Stage where
  /-- The reading of the clock. -/
  clock : Span
  /-- The attempts made. -/
  attempts : Nat := 0
  /-- The sleeps so far, the latest first. -/
  sleeps : List Span := []
  /-- Whether the poll was cancelled. -/
  cancelled : Bool := false

/-- The world of a rehearsal of given steps: sleeps take exactly their time, and the one of number
`cancelInSleep` cancels. The poll heeds cancellations if it is `cancellable`. -/
def rehearsal (steps : Nat → Step ε α) (cancellable : Bool) (cancelInSleep : Option Nat) :
    World Stage ε α where
  now stage := stage.clock
  attempt stage :=
    let step := steps stage.attempts
    (step.result,
      { stage with
        clock := step.clockTo.getD (stage.clock + step.takes)
        attempts := stage.attempts + 1
        cancelled := stage.cancelled || step.cancels })
  sleep span stage :=
    { stage with
      clock := stage.clock + span
      sleeps := span :: stage.sleeps
      cancelled := stage.cancelled || cancelInSleep == some (stage.sleeps.length + 1) }
  cancelled stage := cancellable && stage.cancelled

/-- The world of a rehearsal of a script. -/
def Script.world (script : Script ε α) (cancellable : Bool) (cancelInSleep : Option Nat) :
    World Stage ε α :=
  rehearsal script.step cancellable cancelInSleep

/-- The same script under a clock that runs by itself: no attempt takes no time. -/
def Script.onRunningClock (script : Script ε α) : Script ε α where
  first := { script.first with takes := .ofNanos (script.first.takes.nanos + 1) }
  more := script.more.map fun step => { step with takes := .ofNanos (step.takes.nanos + 1) }

end Provisioning.Poll

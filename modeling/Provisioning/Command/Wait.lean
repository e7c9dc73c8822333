import Provisioning.Command.Arguments
import Provisioning.Command.Session
import Provisioning.Poll.Timed
import Provisioning.Probe.Command
import Provisioning.Terminal.Report

/-!
# The wait command

Tries probes until each of them succeeds or its time is over. All probes are tried together, once in
a round; between two rounds lies the interval.

## Main definitions

* `Sleeper m`: the sleep between two rounds, in a monad `m`
* `WaitArguments.probes`, `WaitArguments.policy`: what is tried, and how often
* `Course`, `runCourses`: the attempts of a probe, round by round
* `WaitArguments.run`: the command
-/

namespace Provisioning

open Log Terminal

/-- The sleep between two rounds. -/
class Sleeper (m : Type → Type) where
  /-- Sleeps for a span. -/
  sleep : Span → m Unit

/-- A state holds no time, so sleeping takes none. -/
instance {σ : Type} : Sleeper (StateM σ) where
  sleep _ := pure ()

namespace WaitArguments

/-- The probes of the arguments: the program comes before the scripts. -/
def probes (a : WaitArguments) : Except CommandError (List Probe) :=
  match (Probe.direct a.program).toList ++ a.scripts.map Probe.shell with
  | [] => .error (.invalidInput
      "Nothing to wait for: give a command after \x60--\x60 or at least one --probe")
  | probes => .ok probes

/-- The policy of the arguments, with the settings for what they leave open. The policy of the
settings must be sound in any case. -/
def policy (a : WaitArguments) (s : Settings) : Except CommandError Poll.Policy :=
  match s.policy with
  | .error e => .error (.settings e)
  | .ok stored =>
    match Poll.Policy.make (a.timeout.getD stored.timeout) (a.interval.getD stored.interval) with
    | .error e => .error (.policy e)
    | .ok policy => .ok policy

end WaitArguments

/-! ## Rounds -/

/-- A probe under way. -/
structure Course where
  /-- The probe. -/
  probe : Probe
  /-- The attempts so far, the latest first. -/
  attempts : List Attempt := []
  /-- The tick of the next attempt. -/
  tick : Nat := 0
  /-- Whether there is no further attempt. -/
  isOver : Bool := false

namespace Course

/-- The poll that the attempts make. -/
def scene (c : Course) : Poll.Scene String Unit where
  step n :=
    match c.attempts.reverse[n]? with
    | some attempt => { result := attempt.result, takes := attempt.takes }
    | none => { result := .error "" }

/-- Whether an attempt may start an interval after a tick. -/
def fits (policy : Poll.Policy) (tick : Nat) : Bool :=
  !decide (policy.timeout < Span.ofMillis tick + policy.interval)

/-- The course with an attempt made. Another one follows an interval after its end, if it was no
success and there is time left. -/
def add (policy : Poll.Policy) (c : Course) (attempt : Attempt) : Course :=
  let ended := c.tick + Poll.timerTicks attempt.takes
  { c with
    attempts := attempt :: c.attempts
    tick := ended + Poll.timerTicks policy.interval
    isOver := attempt.result.isOk || !fits policy ended }

variable {m : Type → Type} [Monad m] [FileStore m]

/-- The course after one more attempt, unless it is over. -/
def tryOnce (policy : Poll.Policy) (c : Course) : m Course := do
  if c.isOver then return c
  else return c.add policy (← c.probe.attempt)

/-- The courses after one more attempt of each that is not over. -/
def tryAll (policy : Poll.Policy) : List Course → m (List Course)
  | [] => return []
  | c :: courses => do
    let c ← c.tryOnce policy
    return c :: (← tryAll policy courses)

end Course

/-- The courses of probes after all rounds, at most `limit` of them. -/
def runCourses {m : Type → Type} [Monad m] [FileStore m] [Sleeper m] (policy : Poll.Policy) :
    Nat → List Course → m (List Course)
  | 0, courses => return courses
  | limit + 1, courses => do
    let courses ← Course.tryAll policy courses
    if courses.all Course.isOver then return courses
    else
      Sleeper.sleep policy.interval
      runCourses policy limit courses

/-- A bound on the rounds that a policy leaves time for. -/
def roundLimit (policy : Poll.Policy) : Nat := policy.timeout.nanos / policy.interval.nanos + 1

/-! ## Reports -/

/-- Events of several polls in the order of their ticks; those of one tick keep the order of the
polls. -/
def mergeEvents (polls : List (Poll.Timed String Unit)) : List Poll.Event :=
  ((polls.flatMap Poll.Timed.events).mergeSort fun a b => decide (a.1 ≤ b.1)).map Prod.snd

/-- The longest of some spans. -/
def longestOf (spans : List Span) : Span := spans.foldl Span.max .zero

/-- The polls of courses, each with its label. -/
def pollsOf (policy : Poll.Policy) (courses : List Course) :
    List (String × Poll.Timed String Unit) :=
  courses.filterMap fun c =>
    (c.scene.poll Except.isOk policy (roundLimit policy)).map fun t => (c.probe.label, t)

namespace WaitArguments

/-- The entry about the begin of a wait. -/
def startEntry (probes : List Probe) (policy : Poll.Policy) : Entry :=
  ⟨.info, "waiting on " ++ toString probes.length ++ " probe(s): timeout " ++
    policy.timeout.text ++ ", interval " ++ policy.interval.text⟩

/-- What a wait comes to: a remark if all probes have succeeded, else the failure. -/
def verdict (policy : Poll.Policy) (outcomes : List (Poll.Outcome String Unit)) :
    Except CommandError String :=
  let failed := outcomes.countP fun o => !o.converged
  let all := toString outcomes.length
  if failed = 0 then
    .ok ("All " ++ all ++ " probe(s) converged in " ++
      (longestOf (outcomes.map Poll.Outcome.elapsed)).elapsedText)
  else
    .error (.failed (toString failed ++ " of " ++ all ++ " probe(s) did not converge within " ++
      policy.timeout.elapsedText))

/-- The command. -/
def run {m : Type → Type} [Monad m] [FileStore m] [Sleeper m] (styled : Bool) (s : Settings)
    (a : WaitArguments) : Session m Unit := do
  let probes ← Session.require id a.probes
  let policy ← Session.require id (a.policy s)
  Session.note (startEntry probes policy)
  let courses ← Session.perform
    (runCourses policy (roundLimit policy) (probes.map fun probe => { probe }))
  let polls := pollsOf policy courses
  let events := mergeEvents (polls.map Prod.snd)
  Session.logged ⟨events.map Poll.Event.entry, ()⟩
  let outcomes := polls.map fun (label, t) => (label, t.outcome)
  Session.print ((outcomeTable styled outcomes).text styled)
  let message ← Session.require id (verdict policy (outcomes.map Prod.snd))
  Session.notice styled .success message

end WaitArguments

end Provisioning

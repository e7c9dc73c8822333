import Provisioning.Poll.Script

/-!
# The timed poll

A poll whose attempts are cut off at the deadline or by a cancellation, and whose sleeps end early
when it is cancelled. Time is counted in ticks of a millisecond from the start of the poll; a timer
goes off at the first tick at or after its time.

## Main definitions

* `Scene`: what happens around a poll: attempts by number, and a cancellation
* `Scene.noticeTick?`: when the poll learns of the cancellation
* `Wait`, `Scene.await`: how the wait for an attempt ends
* `Scene.rest`: how the sleep between two attempts ends
* `Timed`: the end of a timed poll, with the ticks of its events and attempts
* `Scene.pollFrom`, `Scene.poll`: the poll

## Main results

* `timerTicks_pos`, `timerTicks_eq_millisUp`: a timer goes off later, at the next whole millisecond
-/

namespace Provisioning.Poll

variable {ε α : Type}

/-- The ticks of a span that is too long for a timer. -/
def farTicks : Nat := 946080000000

/-- The tick, counted from now, at which a timer for a span goes off. -/
def timerTicks (span : Span) : Nat :=
  if span.seconds < 0x8000000000000000 then span.millisUp else farTicks

theorem timerTicks_pos {span : Span} (h : .zero < span) : 0 < timerTicks span := by
  have h : 0 < span.nanos := h
  rw [timerTicks, Span.millisUp]
  split
  · exact Nat.div_pos (by omega) (by decide)
  · decide

theorem timerTicks_eq_millisUp {span : Span} (h : span ≤ .ofSeconds 946080000) :
    timerTicks span = span.millisUp := by
  have h : span.nanos ≤ 946080000 * 1000000000 := h
  have hlt : span.seconds < 0x8000000000000000 := by
    show span.nanos / 1000000000 < 0x8000000000000000
    omega
  exact if_pos hlt

/-- The ticks that an attempt takes; one that hangs never ends. -/
def Step.ticks? (step : Step ε α) : Option Nat :=
  if step.hangs then none else some (timerTicks step.takes)

/-- What happens around a timed poll. -/
structure Scene (ε α : Type) where
  /-- The attempt after `n` others. -/
  step : Nat → Step ε α
  /-- Whether the poll can be cancelled at all. -/
  cancellable : Bool := true
  /-- Whether it is cancelled before it starts. -/
  cancelledFirst : Bool := false
  /-- The tick at which it is cancelled from outside. -/
  cancelTick : Option Nat := none
  /-- Whether the sleep after `n` attempts and one more gives way to a cancellation at the very tick
  at which it ends. Either may come first. -/
  givesWay : Nat → Bool := fun _ => true

/-- How the wait for an attempt ends, and at which tick. -/
inductive Wait where
  /-- The attempt is complete. -/
  | completed (tick : Nat)
  /-- The deadline is there. -/
  | deadline (tick : Nat)
  /-- The poll is cancelled. -/
  | cancelled (tick : Nat)
deriving DecidableEq

/-- A poll under way. -/
structure Progress (ε α : Type) where
  /-- The current tick. -/
  tick : Nat := 0
  /-- The attempts started. -/
  made : Nat := 0
  /-- The result of the last completed attempt. -/
  last : Option (Except ε α) := none
  /-- Whether the poll was cancelled. -/
  cancelled : Bool

/-- The end of a timed poll. -/
structure Timed (ε α : Type) where
  /-- What the poll came to. -/
  outcome : Outcome ε α
  /-- What it reported, each event with its tick. -/
  events : List (Nat × Event)
  /-- The attempts that it started, in order, each with its tick. -/
  started : List (Nat × Step ε α)

namespace Timed

/-- The end of a poll: the outcome is reported last. -/
def finish (result : Option (Except ε α)) (state : State) (tick attempts : Nat) : Timed ε α where
  outcome := { result, state, elapsed := .ofMillis tick, attempts }
  events := [(tick, .finished state attempts (.ofMillis tick))]
  started := []

/-- The end with an event before all others. -/
def after (tick : Nat) (event : Event) (t : Timed ε α) : Timed ε α :=
  { t with events := (tick, event) :: t.events }

/-- The end with an attempt before all others. -/
def start (tick : Nat) (step : Step ε α) (t : Timed ε α) : Timed ε α :=
  { t with started := (tick, step) :: t.started }

end Timed

namespace Scene

/-- The tick at which a poll that waits from a tick on learns of its cancellation, if it ever does: at
once if it has been cancelled already. -/
def noticeTick? (scene : Scene ε α) (now : Nat) (cancelled : Bool) : Option Nat :=
  if cancelled then some now
  else if scene.cancellable then scene.cancelTick.map (max now) else none

/-- The wait for an attempt that ends after `ticks`, or never. An attempt that is ready comes first,
then the deadline, then a cancellation; an attempt that ends at the tick of the deadline is
complete. -/
def await (scene : Scene ε α) (deadline now : Nat) (cancelled : Bool) (ticks : Option Nat) : Wait :=
  if ticks = some 0 then .completed now
  else if deadline ≤ now then .deadline now
  else
    let timer : Nat × Wait :=
      match ticks with
      | some n =>
        if now + n ≤ deadline then (now + n, .completed (now + n))
        else (deadline, .deadline deadline)
      | none => (deadline, .deadline deadline)
    -- A cancellation counts only if it falls before the timer that would end the wait.
    match scene.noticeTick? now cancelled with
    | some c => if c < timer.1 then .cancelled c else timer.2
    | none => timer.2

/-- The sleep of an interval after `made` attempts and one more: the tick of the next attempt, or the
tick of the cancellation. -/
def rest (scene : Scene ε α) (interval : Span) (made now : Nat) (cancelled : Bool) :
    Except Nat Nat :=
  let wake := now + timerTicks interval
  match scene.noticeTick? now cancelled with
  | some c => if c < wake ∨ c = wake ∧ scene.givesWay made then .error c else .ok wake
  | none => .ok wake

/-- The poll from a point on, if it ends within `limit` attempts. -/
def pollFrom (scene : Scene ε α) (accepts : Except ε α → Bool) (policy : Policy) :
    Nat → Progress ε α → Option (Timed ε α)
  | 0, _ => none
  | limit + 1, p =>
    let step := scene.step p.made
    let number := counted (p.made + 1)
    Option.map (Timed.start p.tick step) <|
      match scene.await (timerTicks policy.timeout) p.tick p.cancelled step.ticks? with
      | .deadline t =>
        some ((Timed.finish p.last .timedOut t number).after t (.cutByDeadline number))
      | .cancelled t =>
        some ((Timed.finish p.last .cancelled t number).after t (.cutByCancel number))
      | .completed t =>
        let elapsed := Span.ofMillis t
        Option.map (Timed.after t (.attempted number elapsed)) <|
          if accepts step.result then some (Timed.finish (some step.result) .converged t number)
          else if policy.timeout < elapsed + policy.interval then
            some (Timed.finish (some step.result) .timedOut t number)
          else
            let cancelled := p.cancelled || (scene.cancellable && step.cancels)
            match scene.rest policy.interval p.made t cancelled with
            | .error c => some (Timed.finish (some step.result) .cancelled c number)
            | .ok wake =>
              pollFrom scene accepts policy limit
                { tick := wake, made := p.made + 1, last := some step.result, cancelled }

/-- The poll, if it ends within `limit` attempts. -/
def poll (scene : Scene ε α) (accepts : Except ε α → Bool) (policy : Policy) (limit : Nat) :
    Option (Timed ε α) :=
  scene.pollFrom accepts policy limit
    { cancelled := scene.cancellable && scene.cancelledFirst }

end Scene

end Provisioning.Poll

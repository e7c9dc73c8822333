import Provisioning.Poll.Event

/-!
# The blocking poll

A poll that waits for every attempt and for every sleep. After an attempt it asks, in this order,
whether the result is accepted, whether another attempt would start after the deadline, and whether
it was cancelled; after a sleep, whether it was cancelled.

## Main definitions

* `World σ ε α`: the clock, the attempts and the cancellation, over a state `σ`
* `Run`: the outcome of a poll, its events and the state that it leaves
* `pollFrom`: the loop, with a bound on the attempts it still may make
* `poll`: the poll from a state
-/

namespace Provisioning.Poll

variable {σ ε α : Type}

/-- What a blocking poll works with. Between two readings of the clock, and between two looks at the
cancellation, there is always an attempt or a sleep, so it is enough that these change the state. -/
structure World (σ ε α : Type) where
  /-- The reading of the clock. -/
  now : σ → Span
  /-- One attempt. -/
  attempt : σ → Except ε α × σ
  /-- A sleep of a given length. -/
  sleep : Span → σ → σ
  /-- Whether the poll was cancelled. -/
  cancelled : σ → Bool

/-- A poll that came to its end. -/
structure Run (σ ε α : Type) where
  /-- What the poll came to. -/
  outcome : Outcome ε α
  /-- What it reported, in order. -/
  events : List Event
  /-- The state that it left. -/
  final : σ

namespace Run

/-- The end of a poll: the outcome is reported last. -/
def finish (result : Except ε α) (state : State) (elapsed : Span) (attempts : Nat) (s : σ) :
    Run σ ε α where
  outcome := { result := some result, state, elapsed, attempts }
  events := [.finished state attempts elapsed]
  final := s

/-- The run with an event before all others. -/
def after (event : Event) (r : Run σ ε α) : Run σ ε α := { r with events := event :: r.events }

@[simp] theorem outcome_after (event : Event) (r : Run σ ε α) :
    (r.after event).outcome = r.outcome := rfl

@[simp] theorem events_after (event : Event) (r : Run σ ε α) :
    (r.after event).events = event :: r.events := rfl

@[simp] theorem final_after (event : Event) (r : Run σ ε α) : (r.after event).final = r.final := rfl

end Run

/-- The poll after `made` attempts, if it ends within `limit` more. -/
def pollFrom (w : World σ ε α) (accepts : Except ε α → Bool) (policy : Policy)
    (start deadline : Span) : Nat → Nat → σ → Option (Run σ ε α)
  | 0, _, _ => none
  | limit + 1, made, s =>
    let (result, s) := w.attempt s
    let number := counted (made + 1)
    let now := w.now s
    let elapsed := now - start
    Option.map (Run.after (.attempted number elapsed)) <|
      if accepts result then some (Run.finish result .converged elapsed number s)
      else if deadline < now + policy.interval then
        some (Run.finish result .timedOut elapsed number s)
      else if w.cancelled s then some (Run.finish result .cancelled elapsed number s)
      else
        let s := w.sleep policy.interval s
        if w.cancelled s then some (Run.finish result .cancelled (w.now s - start) number s)
        else pollFrom w accepts policy start deadline limit (made + 1) s

/-- The poll from a state, if it ends within `limit` attempts. -/
def poll (w : World σ ε α) (accepts : Except ε α → Bool) (policy : Policy) (limit : Nat) (s : σ) :
    Option (Run σ ε α) :=
  pollFrom w accepts policy (w.now s) (w.now s + policy.timeout) limit 0 s

end Provisioning.Poll

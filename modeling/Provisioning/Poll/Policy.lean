import Provisioning.Time.Span

/-!
# Poll policies

How often a poll tries and how long it goes on.

## Main definitions

* `Policy`: a timeout and an interval
* `Policy.check`: the fault of a policy, if it has one
* `Policy.make`: the policy of two spans, if it is sound
-/

namespace Provisioning.Poll

/-- How long a poll goes on in all, and the time between two attempts. -/
structure Policy where
  /-- The time from the start to the deadline. -/
  timeout : Span
  /-- The time slept between two attempts. -/
  interval : Span
deriving DecidableEq

namespace Policy

/-- Five minutes, with an attempt every ten seconds. -/
def default : Policy where
  timeout := .ofSeconds 300
  interval := .ofSeconds 10

instance : Inhabited Policy := ⟨default⟩

end Policy

/-- The fault of a policy. -/
inductive PolicyError where
  /-- The interval is zero. -/
  | zeroInterval
  /-- The deadline comes before the second attempt. -/
  | timeoutShorterThanInterval (timeout interval : Span)
deriving DecidableEq

/-- The wording of an error. -/
def PolicyError.message : PolicyError → String
  | .zeroInterval => "Poll policy error: Poll interval must be greater than zero"
  | .timeoutShorterThanInterval timeout interval =>
    "Poll policy error: Total timeout " ++ timeout.text ++ " is shorter than the interval " ++
      interval.text

namespace Policy

/-- The fault of a policy, if it has one. -/
def fault? (p : Policy) : Option PolicyError :=
  if p.interval = Span.zero then some .zeroInterval
  else if p.timeout < p.interval then some (.timeoutShorterThanInterval p.timeout p.interval)
  else none

/-- The policy of two spans, if it has no fault. -/
def make (timeout interval : Span) : Except PolicyError Policy :=
  match fault? ⟨timeout, interval⟩ with
  | some e => .error e
  | none => .ok ⟨timeout, interval⟩

theorem fault?_eq_none_iff {p : Policy} :
    p.fault? = none ↔ Span.zero < p.interval ∧ p.interval ≤ p.timeout := by
  have hzero : Span.zero < p.interval ↔ p.interval ≠ Span.zero := by
    rw [ne_eq, Span.ext_iff]
    exact Nat.pos_iff_ne_zero
  have hshort : p.interval ≤ p.timeout ↔ ¬ p.timeout < p.interval := Nat.not_lt.symm
  rw [hzero, hshort]
  unfold fault?
  by_cases h : p.interval = Span.zero
  · simp [h]
  · by_cases h' : p.timeout < p.interval <;> simp [h, h']

theorem make_eq_ok_iff {timeout interval : Span} {p : Policy} :
    make timeout interval = .ok p ↔
      p = ⟨timeout, interval⟩ ∧ Span.zero < interval ∧ interval ≤ timeout := by
  have hfault : fault? ⟨timeout, interval⟩ = none ↔ Span.zero < interval ∧ interval ≤ timeout :=
    fault?_eq_none_iff
  rw [← hfault, make]
  cases fault? ⟨timeout, interval⟩ with
  | some e => simp
  | none => simp [eq_comm]

end Policy

end Provisioning.Poll

import Provisioning.Poll.Blocking

/-!
# The calls of a poll

What a poll asks of its world, recorded by the world itself, and the ways in which a poll comes to
its end. A recorded world answers like the world itself, so its record shows what the poll does.

## Main definitions

* `Call`: an attempt or a sleep, as the world sees it
* `attempts`, `begins`, `results`, `sleeps`: what the calls say of the attempts and of the sleeps
* `World.recorded w`: the world `w` with a record of its calls
* `EndsWithin`: the end of a poll, together with the calls up to it
* `Path`: the ways from a state to the end of a poll, one attempt after another

## Main results

* `exists_path`, `Path.pollFrom_eq`: a poll ends if and only if it goes such a way
* `Path.recorded`: a recorded world goes the way of the world itself
* `exists_endsWithin`: recording the calls does not change the poll
-/

namespace Provisioning.Poll

variable {σ ε α : Type}

/-! ## Records -/

/-- What a poll asks of its world. -/
inductive Call (ε α : Type) where
  /-- An attempt: the clock as it began, and its result. -/
  | tried (began : Span) (result : Except ε α)
  /-- A sleep: its length, and whether the poll was cancelled as it ended. -/
  | slept (span : Span) (cancelled : Bool)

namespace Call

/-- An attempt: its beginning and its result. -/
def tried? : Call ε α → Option (Span × Except ε α)
  | tried began result => some (began, result)
  | slept _ _ => none

/-- The length of a sleep. -/
def slept? : Call ε α → Option Span
  | tried _ _ => none
  | slept span _ => some span

end Call

/-- The attempts: their beginnings and results. -/
def attempts (calls : List (Call ε α)) : List (Span × Except ε α) := calls.filterMap Call.tried?

/-- The beginnings of the attempts. -/
def begins (calls : List (Call ε α)) : List Span := (attempts calls).map Prod.fst

/-- The results of the attempts. -/
def results (calls : List (Call ε α)) : List (Except ε α) := (attempts calls).map Prod.snd

/-- The lengths of the sleeps. -/
def sleeps (calls : List (Call ε α)) : List Span := calls.filterMap Call.slept?

section Projections

variable (began span : Span) (result : Except ε α) (cancelled : Bool) (calls : List (Call ε α))

@[simp] theorem begins_nil : begins ([] : List (Call ε α)) = [] := rfl

@[simp] theorem begins_tried : begins (.tried began result :: calls) = began :: begins calls := rfl

@[simp] theorem begins_slept : begins (.slept span cancelled :: calls) = begins calls := rfl

@[simp] theorem results_nil : results ([] : List (Call ε α)) = [] := rfl

@[simp] theorem results_tried :
    results (.tried began result :: calls) = result :: results calls := rfl

@[simp] theorem results_slept : results (.slept span cancelled :: calls) = results calls := rfl

@[simp] theorem sleeps_nil : sleeps ([] : List (Call ε α)) = [] := rfl

@[simp] theorem sleeps_tried : sleeps (.tried began result :: calls) = sleeps calls := rfl

@[simp] theorem sleeps_slept : sleeps (.slept span cancelled :: calls) = span :: sleeps calls := rfl

end Projections

/-! ## Recorded worlds -/

/-- The world with a record of its calls, the latest last. -/
def World.recorded (w : World σ ε α) : World (σ × List (Call ε α)) ε α where
  now s := w.now s.1
  attempt s :=
    ((w.attempt s.1).1,
      ((w.attempt s.1).2, s.2 ++ [.tried (w.now s.1) (w.attempt s.1).1]))
  sleep span s :=
    (w.sleep span s.1, s.2 ++ [.slept span (w.cancelled (w.sleep span s.1))])
  cancelled s := w.cancelled s.1

theorem recorded_attempt {w : World σ ε α} {s t : σ} {r : Except ε α}
    (attempt : w.attempt s = (r, t)) (before : List (Call ε α)) :
    w.recorded.attempt (s, before) = (r, (t, before ++ [.tried (w.now s) r])) := by
  simp only [World.recorded, attempt]

theorem recorded_sleep {w : World σ ε α} {span : Span} {t : σ} {c : Bool} {call : Call ε α}
    (cancelled : w.cancelled (w.sleep span t) = c) (before : List (Call ε α)) :
    w.recorded.sleep span (t, before ++ [call]) =
      (w.sleep span t, before ++ [call, .slept span c]) := by
  simp [World.recorded, cancelled]

/-- A run together with a record. -/
def Run.record (run : Run σ ε α) (calls : List (Call ε α)) : Run (σ × List (Call ε α)) ε α where
  outcome := run.outcome
  events := run.events
  final := (run.final, calls)

/-- Within `limit` attempts the poll from `s` ends with `run`, and its world records `calls`. -/
def EndsWithin (w : World σ ε α) (accepts : Except ε α → Bool) (policy : Policy) (limit : Nat)
    (s : σ) (run : Run σ ε α) (calls : List (Call ε α)) : Prop :=
  poll w accepts policy limit s = some run ∧
    poll w.recorded accepts policy limit (s, []) = some (run.record calls)

/-! ## The ways to the end of a poll -/

section Path

variable (w : World σ ε α) (accepts : Except ε α → Bool) (policy : Policy) (start deadline : Span)

/-- The report of the attempt after `made` others, which leaves the world in a state. -/
def attemptEvent (made : Nat) (t : σ) : Event :=
  .attempted (counted (made + 1)) (w.now t - start)

/-- The end of a poll in a state, right after its attempt after `made` others or after the sleep that
follows. -/
def endAt (made : Nat) (r : Except ε α) (state : State) (t : σ) : Run σ ε α :=
  Run.finish r state (w.now t - start) (counted (made + 1)) t

@[simp] theorem outcome_endAt (made : Nat) (r : Except ε α) (state : State) (t : σ) :
    (endAt w start made r state t).outcome =
      ⟨some r, state, w.now t - start, counted (made + 1)⟩ := rfl

/-- The ways from a state after `made` attempts to the end of a poll, and the calls in between. -/
inductive Path : Nat → σ → Run σ ε α → List (Call ε α) → Prop where
  /-- The result is accepted. -/
  | converged {made : Nat} {s t : σ} {r : Except ε α} (attempt : w.attempt s = (r, t))
      (accepted : accepts r = true) :
      Path made s ((endAt w start made r .converged t).after (attemptEvent w start made t))
        [.tried (w.now s) r]
  /-- The next attempt would start after the deadline. -/
  | timedOut {made : Nat} {s t : σ} {r : Except ε α} (attempt : w.attempt s = (r, t))
      (rejected : accepts r = false) (late : deadline < w.now t + policy.interval) :
      Path made s ((endAt w start made r .timedOut t).after (attemptEvent w start made t))
        [.tried (w.now s) r]
  /-- A cancellation is noticed after the attempt. -/
  | cancelled {made : Nat} {s t : σ} {r : Except ε α} (attempt : w.attempt s = (r, t))
      (rejected : accepts r = false) (due : ¬ deadline < w.now t + policy.interval)
      (noticed : w.cancelled t = true) :
      Path made s ((endAt w start made r .cancelled t).after (attemptEvent w start made t))
        [.tried (w.now s) r]
  /-- A cancellation is noticed after the sleep. -/
  | cancelledInSleep {made : Nat} {s t : σ} {r : Except ε α} (attempt : w.attempt s = (r, t))
      (rejected : accepts r = false) (due : ¬ deadline < w.now t + policy.interval)
      (unnoticed : w.cancelled t = false)
      (noticed : w.cancelled (w.sleep policy.interval t) = true) :
      Path made s
        ((endAt w start made r .cancelled (w.sleep policy.interval t)).after
          (attemptEvent w start made t))
        [.tried (w.now s) r, .slept policy.interval true]
  /-- The poll goes on. -/
  | again {made : Nat} {s t : σ} {r : Except ε α} {run : Run σ ε α} {calls : List (Call ε α)}
      (attempt : w.attempt s = (r, t)) (rejected : accepts r = false)
      (due : ¬ deadline < w.now t + policy.interval) (unnoticed : w.cancelled t = false)
      (still : w.cancelled (w.sleep policy.interval t) = false)
      (rest : Path (made + 1) (w.sleep policy.interval t) run calls) :
      Path made s (run.after (attemptEvent w start made t))
        (.tried (w.now s) r :: .slept policy.interval false :: calls)

variable {w accepts policy start deadline}

/-- The exits of a poll after an attempt, in their order. -/
theorem pollFrom_succ {limit made : Nat} {s t : σ} {r : Except ε α}
    (attempt : w.attempt s = (r, t)) :
    pollFrom w accepts policy start deadline (limit + 1) made s =
      Option.map (Run.after (attemptEvent w start made t))
        (if accepts r then some (endAt w start made r .converged t)
        else if deadline < w.now t + policy.interval then
          some (endAt w start made r .timedOut t)
        else if w.cancelled t then some (endAt w start made r .cancelled t)
        else if w.cancelled (w.sleep policy.interval t) then
          some (endAt w start made r .cancelled (w.sleep policy.interval t))
        else
          pollFrom w accepts policy start deadline limit (made + 1)
            (w.sleep policy.interval t)) := by
  simp only [pollFrom, attempt, endAt, attemptEvent]

/-- **A poll that ends has gone such a way**, with no more attempts than it might make. -/
theorem exists_path {limit made : Nat} {s : σ} {run : Run σ ε α}
    (h : pollFrom w accepts policy start deadline limit made s = some run) :
    ∃ calls, Path w accepts policy start deadline made s run calls ∧
      (begins calls).length ≤ limit := by
  -- An attempt uses up one of the limit, then the poll takes one of its exits or goes on.
  induction limit generalizing made s run with
  | zero => cases h
  | succ limit ih =>
    rcases attempt : w.attempt s with ⟨r, t⟩
    rw [pollFrom_succ attempt] at h
    obtain ⟨run, hrun, rfl⟩ := Option.map_eq_some_iff.1 h
    split at hrun
    · next accepted =>
      obtain rfl := Option.some.inj hrun
      exact ⟨_, .converged attempt accepted, by simp⟩
    next rejected =>
    have rejected : accepts r = false := Bool.eq_false_iff.2 rejected
    split at hrun
    · next late =>
      obtain rfl := Option.some.inj hrun
      exact ⟨_, .timedOut attempt rejected late, by simp⟩
    next due =>
    split at hrun
    · next noticed =>
      obtain rfl := Option.some.inj hrun
      exact ⟨_, .cancelled attempt rejected due noticed, by simp⟩
    next unnoticed =>
    have unnoticed : w.cancelled t = false := Bool.eq_false_iff.2 unnoticed
    split at hrun
    · next noticed =>
      obtain rfl := Option.some.inj hrun
      exact ⟨_, .cancelledInSleep attempt rejected due unnoticed noticed, by simp⟩
    next still =>
    obtain ⟨calls, rest, hl⟩ := ih hrun
    exact ⟨_, .again attempt rejected due unnoticed (Bool.eq_false_iff.2 still) rest,
      Nat.succ_le_succ hl⟩

namespace Path

variable {made : Nat} {s : σ} {run : Run σ ε α} {calls : List (Call ε α)}

theorem length_begins_pos (h : Path w accepts policy start deadline made s run calls) :
    1 ≤ (begins calls).length := by
  cases h <;> simp

theorem pollFrom_eq (h : Path w accepts policy start deadline made s run calls) {limit : Nat}
    (hl : (begins calls).length ≤ limit) :
    pollFrom w accepts policy start deadline limit made s = some run := by
  induction h generalizing limit with
  | converged attempt accepted =>
    obtain ⟨limit, rfl⟩ := Nat.exists_eq_add_of_le' hl
    simp [pollFrom_succ attempt, accepted]
  | timedOut attempt rejected late =>
    obtain ⟨limit, rfl⟩ := Nat.exists_eq_add_of_le' hl
    simp [pollFrom_succ attempt, rejected, late]
  | cancelled attempt rejected due noticed =>
    obtain ⟨limit, rfl⟩ := Nat.exists_eq_add_of_le' hl
    simp [pollFrom_succ attempt, rejected, due, noticed]
  | cancelledInSleep attempt rejected due unnoticed noticed =>
    obtain ⟨limit, rfl⟩ := Nat.exists_eq_add_of_le' hl
    simp [pollFrom_succ attempt, rejected, due, unnoticed, noticed]
  | again attempt rejected due unnoticed still rest ih =>
    obtain ⟨limit, rfl⟩ : ∃ k, limit = k + 1 := Nat.exists_eq_add_of_le' (Nat.le_of_add_left_le hl)
    simp [pollFrom_succ attempt, rejected, due, unnoticed, still, ih (Nat.le_of_succ_le_succ hl)]

/-- A recorded world goes the way of the world itself, and records the calls. -/
theorem recorded (h : Path w accepts policy start deadline made s run calls)
    (before : List (Call ε α)) :
    Path w.recorded accepts policy start deadline made (s, before) (run.record (before ++ calls))
      calls := by
  -- The record so far stays general: an attempt and a sleep are put at its end.
  induction h generalizing before with
  | converged attempt accepted => exact .converged (recorded_attempt attempt before) accepted
  | timedOut attempt rejected late =>
    exact .timedOut (recorded_attempt attempt before) rejected late
  | cancelled attempt rejected due noticed =>
    exact .cancelled (recorded_attempt attempt before) rejected due noticed
  | @cancelledInSleep made s t r attempt rejected due unnoticed noticed =>
    have path : Path w.recorded accepts policy start deadline made (s, before) _ _ :=
      .cancelledInSleep (recorded_attempt attempt before) rejected due unnoticed noticed
    rwa [recorded_sleep noticed before] at path
  | @again _ s t r _ _ attempt rejected due unnoticed still _ ih =>
    have rest := ih (before ++ [.tried (w.now s) r, .slept policy.interval false])
    rw [← recorded_sleep still before, List.append_assoc] at rest
    exact .again (recorded_attempt attempt before) rejected due unnoticed still rest

end Path

end Path

variable {w : World σ ε α} {accepts : Except ε α → Bool} {policy : Policy} {limit : Nat} {s : σ}
  {run : Run σ ε α} {calls : List (Call ε α)}

/-- Recording the calls of a poll does not change it. -/
theorem exists_endsWithin (h : poll w accepts policy limit s = some run) :
    ∃ calls, EndsWithin w accepts policy limit s run calls := by
  obtain ⟨calls, hpath, hl⟩ := exists_path h
  exact ⟨calls, h, (hpath.recorded []).pollFrom_eq hl⟩

/-- The calls of a poll are those of its way to the end. -/
theorem EndsWithin.path (h : EndsWithin w accepts policy limit s run calls) :
    Path w accepts policy (w.now s) (w.now s + policy.timeout) 0 s run calls := by
  obtain ⟨calls', hpath, hl⟩ := exists_path h.1
  -- The recorded poll has one end only, so its record is that of the way.
  have he : run.record calls = run.record calls' :=
    Option.some.inj (h.2.symm.trans ((hpath.recorded []).pollFrom_eq hl))
  obtain rfl : calls = calls' := congrArg (fun run => run.final.2) he
  exact hpath

end Provisioning.Poll

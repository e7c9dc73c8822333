import Provisioning.Proofs.Poll.Truthful

/-!
# Blocking polls are bounded

On a clock that never goes back, and that a sleep advances by exactly its length, a poll with a
positive interval comes to its end, and no attempt of it starts after the deadline. The measure is
the number of intervals that fit between the clock and the deadline: every sleep uses up one.

## Main definitions

* `World.Steady`: such a clock

## Main results

* `exists_pollFrom`: the poll ends
* `Path.length_begins_le`, `Path.begins_le`: the attempts are few, and each starts by the deadline
* `Path.stalled`: a poll that waits in vain makes all the attempts that there is time for
* `poll_bounded`: all this for a poll from its start
-/

namespace Provisioning.Poll

variable {σ ε α : Type}

/-- The clock never goes back, and a sleep advances it by exactly its length. -/
structure World.Steady (w : World σ ε α) : Prop where
  /-- The clock does not go back in an attempt. -/
  now_le_attempt : ∀ s, w.now s ≤ w.now (w.attempt s).2
  /-- A sleep advances the clock by its length, up to the longest span. -/
  now_sleep : ∀ span s, w.now (w.sleep span s) = w.now s + span

theorem rehearsal_steady {steps : Nat → Step ε α} (h : ∀ n, (steps n).clockTo = none)
    (cancellable : Bool) (cancelInSleep : Option Nat) :
    (rehearsal steps cancellable cancelInSleep).Steady where
  now_le_attempt stage := by
    have := stage.clock.nanos_le_longest
    simp only [rehearsal, h, Option.getD_none, Span.le_def, Span.nanos_add]
    omega
  now_sleep _ _ := rfl

/-! ## Time up to the deadline -/

/-- Below the longest span, sums are not cut. -/
theorem nanos_add_of_le {a b deadline : Span} (hd : deadline < Span.longest)
    (h : a.nanos + b.nanos ≤ deadline.nanos) : (a + b).nanos = a.nanos + b.nanos := by
  rw [Span.lt_def] at hd
  rw [Span.nanos_add]
  omega

theorem not_lt_add_iff {a b deadline : Span} (hd : deadline < Span.longest) :
    ¬ deadline < a + b ↔ a.nanos + b.nanos ≤ deadline.nanos := by
  rw [Span.lt_def] at hd
  rw [Span.lt_def, Span.nanos_add]
  omega

/-- The number of intervals between a time and the deadline. -/
def spare (policy : Policy) (deadline now : Span) : Nat :=
  (deadline.nanos - now.nanos) / policy.interval.nanos

section Loop

variable {w : World σ ε α} {accepts : Except ε α → Bool} {policy : Policy} {start deadline : Span}
  {s t : σ} {r : Except ε α}

namespace World.Steady

theorem now_le (hw : w.Steady) (attempt : w.attempt s = (r, t)) : w.now s ≤ w.now t := by
  have := hw.now_le_attempt s
  rwa [attempt] at this

theorem sleep_le (hw : w.Steady) (due : ¬ deadline < w.now t + policy.interval) :
    w.now (w.sleep policy.interval t) ≤ deadline := by
  rw [hw.now_sleep]
  exact Nat.le_of_not_lt due

/-- A sleep uses up an interval. -/
theorem spare_lt (hw : w.Steady) (hd : deadline < Span.longest) (hi : 0 < policy.interval.nanos)
    (attempt : w.attempt s = (r, t)) (due : ¬ deadline < w.now t + policy.interval) :
    spare policy deadline (w.now (w.sleep policy.interval t)) + 1 ≤
      spare policy deadline (w.now s) := by
  have hle := Span.le_def.1 (hw.now_le attempt)
  have hdue := (not_lt_add_iff hd).1 due
  -- No sum is cut before the deadline, so the sleep moves the clock by a whole interval.
  rw [hw.now_sleep, spare, spare, nanos_add_of_le hd hdue, ← Nat.add_div_right _ hi]
  exact Nat.div_le_div_right (by omega)

/-- A sleep uses up no more than an interval, if the attempt before it takes no time. -/
theorem spare_eq (hw : w.Steady) (hd : deadline < Span.longest) (hi : 0 < policy.interval.nanos)
    (hn : w.now t = w.now s) (due : ¬ deadline < w.now t + policy.interval) :
    spare policy deadline (w.now s) =
      spare policy deadline (w.now (w.sleep policy.interval t)) + 1 := by
  have hdue := (not_lt_add_iff hd).1 due
  rw [hw.now_sleep, spare, spare, nanos_add_of_le hd hdue, ← Nat.add_div_right _ hi, ← hn]
  congr 1
  omega

end World.Steady

/-- **The poll ends**, as soon as it may make as many attempts as there is time for. -/
theorem exists_pollFrom (hw : w.Steady) (hd : deadline < Span.longest)
    (hi : 0 < policy.interval.nanos) {limit made : Nat}
    (hl : spare policy deadline (w.now s) < limit) :
    ∃ run, pollFrom w accepts policy start deadline limit made s = some run := by
  induction limit generalizing made s with
  | zero => exact absurd hl (Nat.not_lt_zero _)
  | succ limit ih =>
    rcases attempt : w.attempt s with ⟨r, t⟩
    simp only [pollFrom_succ attempt, Option.map_eq_some_iff]
    split
    · exact ⟨_, _, rfl, rfl⟩
    split
    · exact ⟨_, _, rfl, rfl⟩
    split
    · exact ⟨_, _, rfl, rfl⟩
    split
    · exact ⟨_, _, rfl, rfl⟩
    next due _ _ =>
      -- The sleep leaves fewer intervals, so a smaller limit is enough for the rest.
      have hspare := hw.spare_lt hd hi attempt due
      obtain ⟨run, hrun⟩ : ∃ run, pollFrom w accepts policy start deadline limit (made + 1)
          (w.sleep policy.interval t) = some run := ih (by omega)
      exact ⟨_, run, hrun, rfl⟩

/-! ## The attempts -/

namespace Path

variable {made : Nat} {run : Run σ ε α} {calls : List (Call ε α)}

/-- A poll makes at most one attempt for each interval, and one more. -/
theorem length_begins_le (hw : w.Steady) (hd : deadline < Span.longest)
    (hi : 0 < policy.interval.nanos)
    (h : Path w accepts policy start deadline made s run calls) :
    (begins calls).length ≤ spare policy deadline (w.now s) + 1 := by
  induction h with
  | converged => simp
  | timedOut => simp
  | cancelled => simp
  | cancelledInSleep => simp
  | again attempt _ due _ _ _ ih =>
    have hspare := hw.spare_lt hd hi attempt due
    rw [begins_tried, begins_slept, List.length_cons]
    omega

/-- No attempt starts after the deadline, if the first does not. -/
theorem begins_le (hw : w.Steady)
    (h : Path w accepts policy start deadline made s run calls) (hs : w.now s ≤ deadline) :
    ∀ began ∈ begins calls, began ≤ deadline := by
  induction h with
  | converged => simpa using hs
  | timedOut => simpa using hs
  | cancelled => simpa using hs
  | cancelledInSleep => simpa using hs
  | again _ _ due _ _ _ ih =>
    exact List.forall_mem_cons.2 ⟨hs, ih (hw.sleep_le due)⟩

/-- A poll that is neither accepted nor cancelled, and whose attempts take no time, makes all the
attempts that there is time for, and times out by the deadline. -/
theorem stalled (hw : w.Steady) (hd : deadline < Span.longest) (hi : 0 < policy.interval.nanos)
    (hr : ∀ r, accepts r = false) (hn : ∀ s, w.now (w.attempt s).2 = w.now s)
    (hc : ∀ s, w.cancelled s = false)
    (h : Path w accepts policy start deadline made s run calls) (hs : w.now s ≤ deadline) :
    (begins calls).length = spare policy deadline (w.now s) + 1 ∧ run.outcome.state = .timedOut ∧
      w.now run.final ≤ deadline := by
  have hnow : ∀ {s t r}, w.attempt s = (r, t) → w.now t = w.now s := by
    intro s t r attempt
    simpa only [attempt] using hn s
  induction h with
  | converged _ accepted => exact absurd accepted (by simp [hr])
  | timedOut attempt _ late =>
    have ht := hnow attempt
    rw [← ht] at hs
    refine ⟨?_, rfl, hs⟩
    -- Less than an interval is left.
    rw [Span.lt_def, Span.nanos_add] at late
    rw [spare, ← ht, Nat.div_eq_of_lt (by omega)]
    rfl
  | cancelled _ _ _ noticed => exact absurd noticed (by simp [hc])
  | cancelledInSleep _ _ _ _ noticed => exact absurd noticed (by simp [hc])
  | again attempt _ due _ _ _ ih =>
    obtain ⟨hlength, hstate, hfinal⟩ := ih (hw.sleep_le due)
    refine ⟨?_, hstate, hfinal⟩
    rw [begins_tried, begins_slept, List.length_cons, hlength,
      hw.spare_eq hd hi (hnow attempt) due]

end Path

end Loop

/-! ## The poll -/

variable {w : World σ ε α} {policy : Policy} {s : σ}

/-- **A blocking poll is bounded.** It ends, after at least one attempt and at most one for each
interval of the timeout and one more, and no attempt starts after the deadline. If it waits in vain,
it makes all of these attempts and times out within the timeout. -/
theorem poll_bounded (accepts : Except ε α → Bool) (hw : w.Steady) (hi : .zero < policy.interval)
    (hs : (w.now s).nanos + policy.timeout.nanos < Span.longest.nanos) :
    ∃ run calls,
      EndsWithin w accepts policy (policy.timeout.nanos / policy.interval.nanos + 1) s run calls ∧
      1 ≤ (begins calls).length ∧
      (begins calls).length ≤ policy.timeout.nanos / policy.interval.nanos + 1 ∧
      (∀ began ∈ (begins calls).tail, began ≤ w.now s + policy.timeout) ∧
      ((∀ r, accepts r = false) → (∀ s, w.now (w.attempt s).2 = w.now s) →
        (∀ s, w.cancelled s = false) →
        (begins calls).length = policy.timeout.nanos / policy.interval.nanos + 1 ∧
          run.outcome.state = .timedOut ∧ run.outcome.elapsed ≤ policy.timeout) := by
  have hi : 0 < policy.interval.nanos := hi
  have hsum : (w.now s + policy.timeout).nanos = (w.now s).nanos + policy.timeout.nanos := by
    rw [Span.nanos_add]
    omega
  have hd : w.now s + policy.timeout < Span.longest := by rwa [Span.lt_def, hsum]
  have hle : w.now s ≤ w.now s + policy.timeout := by
    rw [Span.le_def, hsum]
    omega
  have hspare : spare policy (w.now s + policy.timeout) (w.now s) =
      policy.timeout.nanos / policy.interval.nanos := by
    rw [spare, hsum, Nat.add_sub_cancel_left]
  obtain ⟨run, hrun⟩ : ∃ run, poll w accepts policy
      (policy.timeout.nanos / policy.interval.nanos + 1) s = some run :=
    exists_pollFrom hw hd hi (by omega)
  obtain ⟨calls, hcalls⟩ := exists_endsWithin hrun
  have hpath := hcalls.path
  refine ⟨run, calls, hcalls, hpath.length_begins_pos, ?_, fun began hb => ?_, fun hr hn hc => ?_⟩
  · rw [← hspare]
    exact hpath.length_begins_le hw hd hi
  · exact hpath.begins_le hw hle began (List.mem_of_mem_tail hb)
  · obtain ⟨hlength, hstate, hfinal⟩ := hpath.stalled hw hd hi hr hn hc hle
    rw [hspare] at hlength
    refine ⟨hlength, hstate, ?_⟩
    rw [Span.le_def, hsum] at hfinal
    rw [hpath.elapsed_eq, Span.le_def, Span.nanos_sub]
    omega

/-- A poll of three seconds that waits in vain, with an attempt every second, makes four attempts. -/
theorem poll_bounded_three_seconds :
    let w := rehearsal (fun _ => ({ result := .error () } : Step Unit Unit)) false none
    let policy : Policy := { timeout := .ofSeconds 3, interval := .ofSeconds 1 }
    ∃ run calls, EndsWithin w (fun _ => false) policy 4 { clock := .ofSeconds 7 } run calls ∧
      (begins calls).length = 4 ∧ run.outcome.state = .timedOut := by
  intro w policy
  have hw : w.Steady := rehearsal_steady (fun _ => rfl) false none
  have hfour : policy.timeout.nanos / policy.interval.nanos + 1 = 4 := by decide +kernel
  have hi : .zero < policy.interval := by decide +kernel
  have hs : (w.now { clock := .ofSeconds 7 }).nanos + policy.timeout.nanos <
      Span.longest.nanos := by
    decide +kernel
  obtain ⟨run, calls, hrun, -, -, -, hvain⟩ := poll_bounded (fun _ => false) hw hi hs
  obtain ⟨hlength, hstate, -⟩ := hvain (fun _ => rfl) (fun s => Span.add_zero s.clock) fun _ => rfl
  rw [hfour] at hrun hlength
  exact ⟨run, calls, hrun, hlength, hstate⟩

end Provisioning.Poll

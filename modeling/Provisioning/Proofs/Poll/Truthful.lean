import Provisioning.Poll.Script
import Provisioning.Proofs.Poll.Calls

/-!
# The outcome of a poll tells what happened

The outcome that a blocking poll returns, against the calls that its world has recorded. Nothing is
asked of the policy, of the clock, which may go back, of the attempts or of the cancellation.

## Main definitions

* `NoticedInSleep`: a sleep ended with the poll cancelled
* `Truthful`: the outcome agrees with the calls and with the clock

## Main results

* `Path.attempts_eq`, `Path.result_eq`, `Path.rejected`, `Path.converged_iff`, `Path.sleep_eq`,
  `Path.length_sleeps_of_noticed`, `Path.length_sleeps_of_not_noticed`, `Path.elapsed_eq`: what holds
  along every way to the end of a poll
* `truthful_of_poll`: the outcome of a poll that ends is truthful
-/

namespace Provisioning.Poll

variable {σ ε α : Type}

/-- A cancellation was noticed as a sleep ended. -/
def NoticedInSleep (calls : List (Call ε α)) : Prop := ∃ span, .slept span true ∈ calls

@[simp] theorem not_noticedInSleep_tried (began : Span) (r : Except ε α) :
    ¬ NoticedInSleep [Call.tried began r] := by
  simp [NoticedInSleep]

theorem noticedInSleep_slept (began span : Span) (r : Except ε α) :
    NoticedInSleep [Call.tried began r, .slept span true] :=
  ⟨span, by simp⟩

@[simp] theorem noticedInSleep_again (began span : Span) (r : Except ε α)
    (calls : List (Call ε α)) :
    NoticedInSleep (.tried began r :: .slept span false :: calls) ↔ NoticedInSleep calls := by
  simp [NoticedInSleep]

/-- The outcome of a poll from `s` agrees with the calls that its world has recorded, and with the
clock as the poll started and as it ended. -/
structure Truthful (w : World σ ε α) (accepts : Except ε α → Bool) (policy : Policy) (s : σ)
    (run : Run σ ε α) (calls : List (Call ε α)) : Prop where
  /-- The attempts are counted. -/
  attempts_eq : run.outcome.attempts = (results calls).length
  /-- The result is that of the last attempt. -/
  result_eq : ∃ r, (results calls).getLast? = some r ∧ run.outcome.result = some r
  /-- All results before the last one were rejected. -/
  rejected : ∀ r ∈ (results calls).dropLast, accepts r = false
  /-- The poll converged if and only if the last result is accepted. -/
  converged_iff : run.outcome.state = .converged ↔
    ∃ r, (results calls).getLast? = some r ∧ accepts r = true
  /-- A sleep lasts an interval. -/
  sleep_eq : ∀ span ∈ sleeps calls, span = policy.interval
  /-- There are as many sleeps as attempts exactly if a cancellation was noticed after a sleep. -/
  sleeps_iff : (sleeps calls).length = run.outcome.attempts ↔ NoticedInSleep calls
  /-- Otherwise there is a sleep between any two attempts. -/
  sleeps_eq : ¬ NoticedInSleep calls → (sleeps calls).length = run.outcome.attempts - 1
  /-- The time taken is that between the first and the last reading of the clock. -/
  elapsed_eq : run.outcome.elapsed = w.now run.final - w.now s
  /-- A poll that converged comes to its last result, unchanged. -/
  toResult_converged : run.outcome.state = .converged →
    ∀ onStopped, (results calls).getLast? = some (run.outcome.toResult onStopped)
  /-- Any other poll comes to the caller's error, made from the time taken and the attempts. -/
  toResult_stopped : run.outcome.state ≠ .converged →
    ∀ onStopped, run.outcome.toResult onStopped =
      .error (onStopped run.outcome.elapsed run.outcome.attempts)

/-! ## Along every way to the end -/

namespace Path

variable {w : World σ ε α} {accepts : Except ε α → Bool} {policy : Policy} {start deadline : Span}
  {made : Nat} {s : σ} {run : Run σ ε α} {calls : List (Call ε α)}

theorem results_ne_nil (h : Path w accepts policy start deadline made s run calls) :
    results calls ≠ [] := by
  cases h <;> simp

theorem attempts_eq (h : Path w accepts policy start deadline made s run calls) :
    run.outcome.attempts = counted (made + (results calls).length) := by
  induction h with
  | converged => rfl
  | timedOut => rfl
  | cancelled => rfl
  | cancelledInSleep => rfl
  | again _ _ _ _ _ _ ih =>
    rw [Run.outcome_after, ih, results_tried, results_slept, List.length_cons]
    congr 1
    omega

theorem result_eq (h : Path w accepts policy start deadline made s run calls) :
    run.outcome.result = (results calls).getLast? := by
  induction h with
  | converged => rfl
  | timedOut => rfl
  | cancelled => rfl
  | cancelledInSleep => rfl
  | again _ _ _ _ _ rest ih =>
    rw [Run.outcome_after, ih, results_tried, results_slept,
      List.getLast?_cons_of_ne_nil rest.results_ne_nil]

theorem rejected (h : Path w accepts policy start deadline made s run calls) :
    ∀ r ∈ (results calls).dropLast, accepts r = false := by
  induction h with
  | converged => simp
  | timedOut => simp
  | cancelled => simp
  | cancelledInSleep => simp
  | again _ hr _ _ _ rest ih =>
    rw [results_tried, results_slept, List.dropLast_cons_of_ne_nil rest.results_ne_nil]
    exact List.forall_mem_cons.2 ⟨hr, ih⟩

theorem converged_iff (h : Path w accepts policy start deadline made s run calls) :
    run.outcome.state = .converged ↔ ∃ r, (results calls).getLast? = some r ∧ accepts r = true := by
  induction h with
  | converged _ ha => simp [ha]
  | timedOut _ hr => simp [hr]
  | cancelled _ hr => simp [hr]
  | cancelledInSleep _ hr => simp [hr]
  | again _ _ _ _ _ rest ih =>
    rw [Run.outcome_after, ih, results_tried, results_slept,
      List.getLast?_cons_of_ne_nil rest.results_ne_nil]

theorem sleep_eq (h : Path w accepts policy start deadline made s run calls) :
    ∀ span ∈ sleeps calls, span = policy.interval := by
  induction h with
  | converged => simp
  | timedOut => simp
  | cancelled => simp
  | cancelledInSleep => simp
  | again _ _ _ _ _ _ ih => exact List.forall_mem_cons.2 ⟨rfl, ih⟩

theorem length_sleeps_of_noticed (h : Path w accepts policy start deadline made s run calls)
    (hn : NoticedInSleep calls) : (sleeps calls).length = (results calls).length := by
  induction h with
  | converged => exact absurd hn (not_noticedInSleep_tried _ _)
  | timedOut => exact absurd hn (not_noticedInSleep_tried _ _)
  | cancelled => exact absurd hn (not_noticedInSleep_tried _ _)
  | cancelledInSleep => rfl
  | again _ _ _ _ _ _ ih => simpa using ih ((noticedInSleep_again _ _ _ _).1 hn)

theorem length_sleeps_of_not_noticed
    (h : Path w accepts policy start deadline made s run calls) (hn : ¬ NoticedInSleep calls) :
    (sleeps calls).length + 1 = (results calls).length := by
  induction h with
  | converged => rfl
  | timedOut => rfl
  | cancelled => rfl
  | cancelledInSleep => exact absurd (noticedInSleep_slept _ _ _) hn
  | again _ _ _ _ _ _ ih => simpa using ih (mt (noticedInSleep_again _ _ _ _).2 hn)

theorem elapsed_eq (h : Path w accepts policy start deadline made s run calls) :
    run.outcome.elapsed = w.now run.final - start := by
  induction h with
  | converged => rfl
  | timedOut => rfl
  | cancelled => rfl
  | cancelledInSleep => rfl
  | again _ _ _ _ _ _ ih => exact ih

end Path

/-! ## The outcome -/

theorem counted_of_lt {n : Nat} (h : n < 0x100000000) : counted n = n := Nat.mod_eq_of_lt h

namespace Outcome

variable {o : Outcome ε α}

theorem toResult_of_converged {r : Except ε α} (hs : o.state = .converged) (hr : o.result = some r)
    (onStopped : Span → Nat → ε) : o.toResult onStopped = r := by
  simp [toResult, hs, hr]

theorem toResult_of_not_converged (hs : o.state ≠ .converged) (onStopped : Span → Nat → ε) :
    o.toResult onStopped = .error (onStopped o.elapsed o.attempts) := by
  rw [toResult]
  split
  · next h _ => exact absurd h hs
  · rfl

end Outcome

variable {w : World σ ε α} {accepts : Except ε α → Bool} {policy : Policy} {limit : Nat} {s : σ}
  {run : Run σ ε α} {calls : List (Call ε α)}

theorem EndsWithin.truthful (h : EndsWithin w accepts policy limit s run calls)
    (hc : (results calls).length < 0x100000000) : Truthful w accepts policy s run calls := by
  have hp := h.path
  have hattempts : run.outcome.attempts = (results calls).length := by
    rw [hp.attempts_eq, Nat.zero_add, counted_of_lt hc]
  have hpos : 0 < (results calls).length := List.length_pos_iff.2 hp.results_ne_nil
  obtain ⟨r, hr⟩ : ∃ r, (results calls).getLast? = some r :=
    ⟨_, List.getLast?_eq_some_getLast hp.results_ne_nil⟩
  have hresult : run.outcome.result = some r := hp.result_eq.trans hr
  refine ⟨hattempts, ⟨r, hr, hresult⟩, hp.rejected, hp.converged_iff, hp.sleep_eq, ?_, ?_,
    hp.elapsed_eq, ?_, fun hs => Outcome.toResult_of_not_converged hs⟩
  · rw [hattempts]
    refine ⟨fun he => Classical.not_not.1 fun hn => ?_, hp.length_sleeps_of_noticed⟩
    have := hp.length_sleeps_of_not_noticed hn
    omega
  · intro hn
    have := hp.length_sleeps_of_not_noticed hn
    omega
  · intro hs onStopped
    rw [hr, Outcome.toResult_of_converged hs hresult]

/-- **The outcome of a blocking poll tells what happened**, whenever the poll ends after fewer than
`2 ^ 32` attempts. -/
theorem truthful_of_poll (h : poll w accepts policy limit s = some run) :
    ∃ calls, EndsWithin w accepts policy limit s run calls ∧
      ((results calls).length < 0x100000000 → Truthful w accepts policy s run calls) := by
  obtain ⟨calls, hcalls⟩ := exists_endsWithin h
  exact ⟨calls, hcalls, hcalls.truthful⟩

/-- A poll whose clock goes back to zero while its second attempt is accepted. -/
theorem truthful_of_poll_clock_back :
    let steps : Nat → Step Unit Unit := fun n =>
      if n = 0 then { result := .error (), takes := .ofSeconds 3 }
      else { result := .ok (), clockTo := some .zero }
    let w := rehearsal steps true none
    let policy : Policy := { timeout := .ofSeconds 60, interval := .ofSeconds 5 }
    let s : Stage := { clock := .ofSeconds 100 }
    ∃ run calls, poll w Except.isOk policy 2 s = some run ∧ run.outcome.elapsed = .zero ∧
      (results calls).length = 2 ∧ Truthful w Except.isOk policy s run calls := by
  intro steps w policy s
  have hrun : (poll w Except.isOk policy 2 s).map (·.outcome.elapsed) = some .zero := by
    decide +kernel
  have hlength : (poll w.recorded Except.isOk policy 2 (s, [])).map
      (fun run => (results run.final.2).length) = some 2 := by
    decide +kernel
  obtain ⟨run, h, helapsed⟩ := Option.map_eq_some_iff.1 hrun
  obtain ⟨calls, hcalls, ht⟩ := truthful_of_poll h
  have hc : (results calls).length = 2 := by simpa [hcalls.2, Run.record] using hlength
  exact ⟨run, calls, h, helapsed, hc, ht (by omega)⟩

end Provisioning.Poll

import Mathlib.Logic.Function.Iterate
import Mathlib.Order.Basic
import Provisioning.Proofs.Poll.Truthful

/-!
# A cancellation halts a blocking poll

A blocking poll looks at its cancellation after each attempt and after each sleep. So it starts neither
another attempt nor another sleep once it is cancelled, save for its first attempt, which it makes in
any case.

The states that a poll passes through depend on its world alone. What is accepted, the deadline and the
cancellation only decide how far it gets.

## Main definitions

* `World.Latched`: a cancellation is for good
* `World.atStart`, `World.atEnd`: the states in which the attempts of a poll start and end
* `StartsAttempt`, `StartsSleep`: how far a poll gets
* `HaltsOnceCancelled`: what a cancellation does, before the poll, in an attempt and in a sleep

## Main results

* `pollFrom_eq_none_iff`: a poll starts an attempt just when it goes on after all those before it
* `Path.length_iff`: the attempts and sleeps that a poll starts are those which its world records
* `halts_once_cancelled`: a cancellation halts every poll
-/

namespace Provisioning.Poll

variable {σ ε α : Type}

/-! ## States -/

/-- A poll that is cancelled stays so, whatever its attempts and sleeps do. -/
structure World.Latched (w : World σ ε α) : Prop where
  attempt : ∀ s, w.cancelled s = true → w.cancelled (w.attempt s).2 = true
  sleep : ∀ span s, w.cancelled s = true → w.cancelled (w.sleep span s) = true

theorem rehearsal_latched (steps : Nat → Step ε α) (cancellable : Bool)
    (cancelInSleep : Option Nat) : (rehearsal steps cancellable cancelInSleep).Latched := by
  constructor
  · intro stage h
    simp only [rehearsal, Bool.and_eq_true, Bool.or_eq_true] at h ⊢
    exact ⟨h.1, .inl h.2⟩
  · intro span stage h
    simp only [rehearsal, Bool.and_eq_true, Bool.or_eq_true] at h ⊢
    exact ⟨h.1, .inl h.2⟩

namespace World

variable (w : World σ ε α) (interval : Span) (s : σ) (k : Nat)

/-- The state after an attempt and a sleep. -/
def round : σ := w.sleep interval (w.attempt s).2

/-- The state in which a poll from `s` would start an attempt after `k` others. -/
def atStart : σ := Nat.iterate (w.round interval) k s

/-- The state in which that attempt would end, and the sleep after it start. -/
def atEnd : σ := (w.attempt (w.atStart interval s k)).2

@[simp] theorem atStart_zero : w.atStart interval s 0 = s := rfl

theorem atStart_succ : w.atStart interval s (k + 1) = w.atStart interval (w.round interval s) k := rfl

theorem atStart_succ' :
    w.atStart interval s (k + 1) = w.sleep interval (w.atEnd interval s k) :=
  Function.iterate_succ_apply' (w.round interval) k s

end World

/-! ## How far a poll gets -/

section Rounds

variable (w : World σ ε α) (accepts : Except ε α → Bool) (policy : Policy) (deadline : Span)

/-- The attempt that starts in a state does not end the poll. -/
structure SleepsAfter (s : σ) : Prop where
  rejected : accepts (w.attempt s).1 = false
  due : ¬ deadline < w.now (w.attempt s).2 + policy.interval
  unnoticed : w.cancelled (w.attempt s).2 = false

/-- Neither the attempt that starts in a state nor the sleep after it ends the poll. -/
structure GoesOn (s : σ) : Prop extends SleepsAfter w accepts policy deadline s where
  still : w.cancelled (w.round policy.interval s) = false

/-- The poll from `s` starts an attempt after `k` others: it does not end within these. -/
def StartsAttempt (s : σ) (k : Nat) : Prop := poll w accepts policy k s = none

/-- The poll from `s` starts to sleep after its attempt after `k` others. -/
structure StartsSleep (s : σ) (k : Nat) : Prop where
  started : StartsAttempt w accepts policy s k
  sleeps : SleepsAfter w accepts policy (w.now s + policy.timeout) (w.atStart policy.interval s k)

variable {w accepts policy deadline} {start : Span} {limit made k : Nat} {s : σ} {run : Run σ ε α}
  {calls : List (Call ε α)}

theorem pollFrom_succ_eq_none_iff :
    pollFrom w accepts policy start deadline (limit + 1) made s = none ↔
      GoesOn w accepts policy deadline s ∧
        pollFrom w accepts policy start deadline limit (made + 1) (w.round policy.interval s) =
          none := by
  rw [pollFrom_succ rfl, Option.map_eq_none_iff]
  constructor
  · intro h
    split at h
    · cases h
    next rejected =>
    split at h
    · cases h
    next due =>
    split at h
    · cases h
    next unnoticed =>
    split at h
    · cases h
    next still =>
    exact ⟨⟨⟨Bool.eq_false_iff.2 rejected, due, Bool.eq_false_iff.2 unnoticed⟩,
      Bool.eq_false_iff.2 still⟩, h⟩
  · rintro ⟨goes, h⟩
    have still : ¬ w.cancelled (w.sleep policy.interval (w.attempt s).2) = true :=
      Bool.eq_false_iff.1 goes.still
    rw [if_neg (Bool.eq_false_iff.1 goes.rejected), if_neg goes.due,
      if_neg (Bool.eq_false_iff.1 goes.unnoticed), if_neg still]
    exact h

/-- **A poll starts an attempt just when it goes on after all those before it.** -/
theorem pollFrom_eq_none_iff :
    pollFrom w accepts policy start deadline k made s = none ↔
      ∀ j < k, GoesOn w accepts policy deadline (w.atStart policy.interval s j) := by
  induction k generalizing made s with
  | zero => simp [pollFrom]
  | succ k ih =>
    rw [pollFrom_succ_eq_none_iff, ih, Nat.forall_lt_succ_left]
    rfl

theorem startsAttempt_iff : StartsAttempt w accepts policy s k ↔
    ∀ j < k, GoesOn w accepts policy (w.now s + policy.timeout) (w.atStart policy.interval s j) :=
  pollFrom_eq_none_iff

namespace Path

/-- The attempts and sleeps that a world records are those that the poll starts. -/
theorem length_iff (h : Path w accepts policy start deadline made s run calls) (k : Nat) :
    (k < (results calls).length ↔
      ∀ j < k, GoesOn w accepts policy deadline (w.atStart policy.interval s j)) ∧
    (k < (sleeps calls).length ↔
      (∀ j < k, GoesOn w accepts policy deadline (w.atStart policy.interval s j)) ∧
        SleepsAfter w accepts policy deadline (w.atStart policy.interval s k)) := by
  -- An attempt that ends the poll is followed by no sleep, and by no other attempt.
  have last : ∀ {s : σ}, ¬ SleepsAfter w accepts policy deadline s → ∀ k,
      (k < 1 ↔ ∀ j < k, GoesOn w accepts policy deadline (w.atStart policy.interval s j)) ∧
      (k < 0 ↔ (∀ j < k, GoesOn w accepts policy deadline (w.atStart policy.interval s j)) ∧
        SleepsAfter w accepts policy deadline (w.atStart policy.interval s k)) := by
    intro s hs k
    cases k with
    | zero => simp [hs]
    | succ k =>
      have hnone : ¬ ∀ j < k + 1, GoesOn w accepts policy deadline (w.atStart policy.interval s j) :=
        fun hgo => hs (hgo 0 (Nat.succ_pos k)).toSleepsAfter
      exact ⟨iff_of_false (by omega) hnone, iff_of_false (by omega) fun h => hnone h.1⟩
  induction h generalizing k with
  | converged attempt accepted =>
    refine last (fun hs => ?_) k
    have rejected := hs.rejected
    rw [attempt, accepted] at rejected
    cases rejected
  | timedOut attempt _ late =>
    refine last (fun hs => hs.due ?_) k
    rwa [attempt]
  | cancelled attempt _ _ noticed =>
    refine last (fun hs => ?_) k
    have unnoticed := hs.unnoticed
    rw [attempt, noticed] at unnoticed
    cases unnoticed
  | @cancelledInSleep made s t r attempt rejected due unnoticed noticed =>
    have hs : SleepsAfter w accepts policy deadline s := by
      constructor <;> simpa [attempt]
    have hgo : ¬ GoesOn w accepts policy deadline s := by
      intro hgo
      have still := hgo.still
      rw [World.round, attempt, noticed] at still
      cases still
    cases k with
    | zero => simp [hs]
    | succ k =>
      have hnone : ¬ ∀ j < k + 1, GoesOn w accepts policy deadline (w.atStart policy.interval s j) :=
        fun h => hgo (h 0 (Nat.succ_pos k))
      have hk : ¬ k + 1 < 1 := by omega
      exact ⟨iff_of_false hk hnone, iff_of_false hk fun h => hnone h.1⟩
  | @again made s t r run calls attempt rejected due unnoticed still rest ih =>
    have hround : w.round policy.interval s = w.sleep policy.interval t := by
      rw [World.round, attempt]
    have hs : SleepsAfter w accepts policy deadline s := by
      constructor <;> simpa [attempt]
    have hgo : GoesOn w accepts policy deadline s := ⟨hs, by rwa [hround]⟩
    rw [← hround] at ih
    cases k with
    | zero => simp [hs]
    | succ k =>
      simp only [results_tried, results_slept, sleeps_tried, sleeps_slept, List.length_cons,
        Nat.add_lt_add_iff_right, Nat.forall_lt_succ_left, World.atStart_succ, World.atStart_zero,
        hgo, true_and]
      exact ih k

/-- A way to the end is one from the start, if the poll goes on up to where it begins. -/
theorem of_goesOn
    (hgo : ∀ j < k, GoesOn w accepts policy deadline (w.atStart policy.interval s j))
    (h : Path w accepts policy start deadline (made + k) (w.atStart policy.interval s k) run calls) :
    ∃ run' calls', Path w accepts policy start deadline made s run' calls' ∧
      run'.outcome = run.outcome ∧ (results calls').length = k + (results calls).length ∧
      (sleeps calls').length = k + (sleeps calls).length := by
  induction k generalizing made s with
  | zero => exact ⟨run, calls, h, rfl, (Nat.zero_add _).symm, (Nat.zero_add _).symm⟩
  | succ k ih =>
    obtain ⟨hfirst, hothers⟩ := Nat.forall_lt_succ_left.1 hgo
    have hmade : made + (k + 1) = made + 1 + k := by omega
    rw [hmade] at h
    obtain ⟨run', calls', hpath, houtcome, hresults, hsleeps⟩ := ih hothers h
    refine ⟨_, _, .again rfl hfirst.rejected hfirst.due hfirst.unnoticed hfirst.still hpath,
      houtcome, ?_, ?_⟩
    · simp only [results_tried, results_slept, List.length_cons, hresults]
      omega
    · simp only [sleeps_tried, sleeps_slept, List.length_cons, hsleeps]
      omega

/-- A poll that goes such a way from its start ends, as soon as it may make its attempts. -/
theorem endsWithin
    (h : Path w accepts policy (w.now s) (w.now s + policy.timeout) 0 s run calls)
    (hl : (results calls).length ≤ limit) : EndsWithin w accepts policy limit s run calls := by
  have hbegins : (begins calls).length ≤ limit := by
    rwa [begins, List.length_map, ← List.length_map (f := Prod.snd)]
  exact ⟨h.pollFrom_eq hbegins, (h.recorded []).pollFrom_eq hbegins⟩

end Path

end Rounds

/-! ## Cancelled polls -/

/-- How a poll ends after an attempt, if it is cancelled by then. -/
def stateIfCancelled (accepts : Except ε α → Bool) (policy : Policy) (deadline : Span)
    (r : Except ε α) (now : Span) : State :=
  if accepts r then .converged
  else if deadline < now + policy.interval then .timedOut
  else .cancelled

/-- A cancellation halts the poll from `s`. -/
structure HaltsOnceCancelled (w : World σ ε α) (accepts : Except ε α → Bool) (policy : Policy)
    (s : σ) : Prop where
  /-- The attempts and sleeps that are spoken of are those that the world of a poll records. -/
  recorded_iff : ∀ limit run calls, EndsWithin w accepts policy limit s run calls → ∀ k,
    (k < (results calls).length ↔ StartsAttempt w accepts policy s k) ∧
      (k < (sleeps calls).length ↔ StartsSleep w accepts policy s k)
  /-- An attempt after the first is started only if the poll was not cancelled at any time before. -/
  attempt_uncancelled : ∀ k, StartsAttempt w accepts policy s k → k = 0 ∨
    (∀ j ≤ k, w.cancelled (w.atStart policy.interval s j) = false) ∧
      ∀ j < k, w.cancelled (w.atEnd policy.interval s j) = false
  /-- So is a sleep. -/
  sleep_uncancelled : ∀ k, StartsSleep w accepts policy s k → ∀ j ≤ k,
    w.cancelled (w.atStart policy.interval s j) = false ∧
      w.cancelled (w.atEnd policy.interval s j) = false
  /-- If the poll is cancelled in an attempt, or before the first one, it ends after the attempt. -/
  in_attempt : ∀ k, StartsAttempt w accepts policy s k → k + 1 < 0x100000000 →
    k = 0 ∧ w.cancelled s = true ∨ w.cancelled (w.atEnd policy.interval s k) = true →
    ∃ run calls, (∀ limit, k < limit → EndsWithin w accepts policy limit s run calls) ∧
      (results calls).length = k + 1 ∧ (sleeps calls).length = k ∧
      run.outcome =
        { result := some (w.attempt (w.atStart policy.interval s k)).1
          state := stateIfCancelled accepts policy (w.now s + policy.timeout)
            (w.attempt (w.atStart policy.interval s k)).1 (w.now (w.atEnd policy.interval s k))
          elapsed := w.now (w.atEnd policy.interval s k) - w.now s
          attempts := k + 1 }
  /-- If it is cancelled in a sleep, it ends after the sleep, with the result of the attempt before. -/
  in_sleep : ∀ k, StartsSleep w accepts policy s k → k + 1 < 0x100000000 →
    w.cancelled (w.atStart policy.interval s (k + 1)) = true →
    ∃ run calls, (∀ limit, k < limit → EndsWithin w accepts policy limit s run calls) ∧
      (results calls).length = k + 1 ∧ (sleeps calls).length = k + 1 ∧
      run.outcome =
        { result := some (w.attempt (w.atStart policy.interval s k)).1
          state := .cancelled
          elapsed := w.now (w.atStart policy.interval s (k + 1)) - w.now s
          attempts := k + 1 }

variable {w : World σ ε α} {accepts : Except ε α → Bool} {policy : Policy} {s : σ} {k : Nat}

theorem StartsAttempt.uncancelled (h : StartsAttempt w accepts policy s k) {j : Nat} (hj : j < k) :
    w.cancelled (w.atEnd policy.interval s j) = false ∧
      w.cancelled (w.atStart policy.interval s (j + 1)) = false := by
  have hgo := startsAttempt_iff.1 h j hj
  refine ⟨hgo.unnoticed, ?_⟩
  rw [World.atStart_succ']
  exact hgo.still

/-- The start of a poll that makes more than one attempt, or that sleeps, was not cancelled. -/
theorem World.Latched.uncancelled (hw : w.Latched) (h : w.cancelled (w.attempt s).2 = false) :
    w.cancelled s = false := by
  rw [Bool.eq_false_iff]
  intro hs
  rw [hw.attempt s hs] at h
  cases h

theorem uncancelled_atStart (hw : w.Latched) (h : StartsAttempt w accepts policy s k)
    (hend : w.cancelled (w.atEnd policy.interval s 0) = false) {j : Nat} (hj : j ≤ k) :
    w.cancelled (w.atStart policy.interval s j) = false := by
  cases j with
  | zero => exact hw.uncancelled hend
  | succ j => exact (h.uncancelled hj).2

/-- The way to the end of a poll that is cancelled as its attempt ends. -/
theorem path_of_cancelled (accepts : Except ε α → Bool) (policy : Policy) (start deadline : Span)
    (made : Nat) (h : w.cancelled (w.attempt s).2 = true) : ∃ run,
      Path w accepts policy start deadline made s run [.tried (w.now s) (w.attempt s).1] ∧
      run.outcome =
        { result := some (w.attempt s).1
          state := stateIfCancelled accepts policy deadline (w.attempt s).1 (w.now (w.attempt s).2)
          elapsed := w.now (w.attempt s).2 - start
          attempts := counted (made + 1) } := by
  -- The exits of a poll are tried in the order in which the state is decided.
  unfold stateIfCancelled
  split
  · next accepted => exact ⟨_, .converged rfl accepted, rfl⟩
  next rejected =>
  split
  · next late => exact ⟨_, .timedOut rfl (Bool.eq_false_iff.2 rejected) late, rfl⟩
  · next due => exact ⟨_, .cancelled rfl (Bool.eq_false_iff.2 rejected) due h, rfl⟩

/-- **A cancellation halts a blocking poll**, whatever its policy, its clock and its attempts are. -/
theorem halts_once_cancelled (hw : w.Latched) (accepts : Except ε α → Bool) (policy : Policy)
    (s : σ) : HaltsOnceCancelled w accepts policy s where
  recorded_iff limit run calls hends k := by
    obtain ⟨hresults, hsleeps⟩ := hends.path.length_iff k
    refine ⟨hresults.trans startsAttempt_iff.symm, hsleeps.trans ?_⟩
    rw [← startsAttempt_iff]
    exact ⟨fun h => ⟨h.1, h.2⟩, fun h => ⟨h.started, h.sleeps⟩⟩
  attempt_uncancelled k h := by
    rcases Nat.eq_zero_or_pos k with hk | hk
    · exact .inl hk
    · exact .inr ⟨fun j hj => uncancelled_atStart hw h (h.uncancelled hk).1 hj,
        fun j hj => (h.uncancelled hj).1⟩
  sleep_uncancelled k h := by
    have hend : ∀ j ≤ k, w.cancelled (w.atEnd policy.interval s j) = false := by
      intro j hj
      rcases Nat.lt_or_eq_of_le hj with hj | rfl
      · exact (h.started.uncancelled hj).1
      · exact h.sleeps.unnoticed
    exact fun j hj => ⟨uncancelled_atStart hw h.started (hend 0 (Nat.zero_le k)) hj, hend j hj⟩
  in_attempt k h hk hcancelled := by
    have hend : w.cancelled (w.atEnd policy.interval s k) = true := by
      rcases hcancelled with ⟨rfl, hs⟩ | hend
      · exact hw.attempt s hs
      · exact hend
    obtain ⟨run, hpath, hrun⟩ :=
      path_of_cancelled accepts policy (w.now s) (w.now s + policy.timeout) (0 + k) hend
    obtain ⟨run', calls, hpath', houtcome, hresults, hsleeps⟩ :=
      hpath.of_goesOn (startsAttempt_iff.1 h)
    refine ⟨run', calls, fun limit hl => hpath'.endsWithin ?_, hresults, hsleeps, ?_⟩
    · rw [hresults]
      exact hl
    · rw [houtcome, hrun, Nat.zero_add, counted_of_lt hk]
      rfl
  in_sleep k h hk hcancelled := by
    have hround : w.cancelled (w.sleep policy.interval (w.atEnd policy.interval s k)) = true := by
      rwa [← World.atStart_succ']
    have hpath : Path w accepts policy (w.now s) (w.now s + policy.timeout) (0 + k)
        (w.atStart policy.interval s k) _ _ :=
      .cancelledInSleep rfl h.sleeps.rejected h.sleeps.due h.sleeps.unnoticed hround
    obtain ⟨run', calls, hpath', houtcome, hresults, hsleeps⟩ :=
      hpath.of_goesOn (startsAttempt_iff.1 h.started)
    refine ⟨run', calls, fun limit hl => hpath'.endsWithin ?_, hresults, hsleeps, ?_⟩
    · rw [hresults]
      exact hl
    · rw [houtcome, Run.outcome_after, outcome_endAt, Nat.zero_add, counted_of_lt hk,
        World.atStart_succ']
      rfl

/-- A poll of a minute with an attempt every second, cancelled in its second attempt. -/
theorem halts_once_cancelled_second_attempt :
    let step : Nat → Step Unit Nat := fun n => { result := .ok (n + 1), cancels := n == 1 }
    let w := rehearsal step true none
    let policy : Policy := { timeout := .ofSeconds 60, interval := .ofSeconds 1 }
    let s : Stage := { clock := .ofSeconds 7 }
    w.Latched ∧ ∃ run calls, EndsWithin w (fun _ => false) policy 2 s run calls ∧
      (results calls).length = 2 ∧ (sleeps calls).length = 1 ∧
      run.outcome = ⟨some (.ok 2), .cancelled, .ofSeconds 1, 2⟩ := by
  intro step w policy s
  have hw : w.Latched := rehearsal_latched step true none
  have hstart : StartsAttempt w (fun _ => false) policy s 1 :=
    Option.isNone_iff_eq_none.1 (by decide +kernel)
  obtain ⟨run, calls, hends, hresults, hsleeps, houtcome⟩ :=
    (halts_once_cancelled hw (fun _ => false) policy s).in_attempt 1 hstart (by decide)
      (.inr (by decide +kernel))
  have hstate : stateIfCancelled (fun _ => false) policy (w.now s + policy.timeout)
      (w.attempt (w.atStart policy.interval s 1)).1 (w.now (w.atEnd policy.interval s 1)) =
        .cancelled := by
    decide +kernel
  have helapsed : w.now (w.atEnd policy.interval s 1) - w.now s = .ofSeconds 1 := by decide +kernel
  rw [hstate, helapsed] at houtcome
  exact ⟨hw, run, calls, hends 2 (by decide), hresults, hsleeps, houtcome⟩

end Provisioning.Poll

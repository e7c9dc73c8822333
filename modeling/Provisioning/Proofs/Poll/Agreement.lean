import Provisioning.Poll.Timed
import Provisioning.Proofs.Poll.Bounded

/-!
# Blocking and timed polls agree

A script whose attempts end in time, in whole milliseconds, is polled in the same way by the blocking
poll, on a clock that a sleep advances by exactly its length, and by the timed poll. The two loops
stay together from attempt to attempt: the one compares the clock with a deadline that is cut at the
longest span, the other the ticks since the start with the timeout.

## Main definitions

* `attemptTime`, `Reaches`: when an attempt starts, and whether a poll comes to it
* `Step.Punctual`, `Comparable`: the policies and scripts in question
* `Agree`: the two polls make the same attempts and come to the same end
* `Together`: the two polls are at the same attempt

## Main results

* `Together.succ`: after a sleep the polls are together again
* `endsAlike_of_path`: from a point where they are together, the polls go on alike
* `agree_of_comparable`: the polls agree, if the deadline is before the longest span
* `Path.not_timedOut`, `not_agree_at_longest`: a blocking poll never passes a deadline at the longest
  span, so there they do not
-/

namespace Provisioning.Poll

variable {ε α : Type}

/-! ## Scripts on time -/

/-- The nanoseconds from the start of a poll to its attempt after `n` others, if none is cut off. -/
def attemptTime (policy : Policy) (steps : Nat → Step ε α) : Nat → Nat
  | 0 => 0
  | n + 1 => attemptTime policy steps n + (steps n).takes.nanos + policy.interval.nanos

/-- A poll comes to its attempt after `n` others. -/
structure Reaches (policy : Policy) (accepts : Except ε α → Bool) (cancellable : Bool)
    (steps : Nat → Step ε α) (n : Nat) : Prop where
  /-- The results before it were rejected. -/
  rejected : ∀ i < n, accepts (steps i).result = false
  /-- No attempt before it cancelled the poll. -/
  uncancelled : ∀ i < n, (cancellable && (steps i).cancels) = false
  /-- It starts by the deadline. -/
  due : attemptTime policy steps n ≤ policy.timeout.nanos

/-- An attempt that ends, after whole milliseconds of the clock. -/
structure Step.Punctual (step : Step ε α) : Prop where
  /-- It ends. -/
  ends : step.hangs = false
  /-- It does not set the clock. -/
  unset : step.clockTo = none
  /-- It takes whole milliseconds. -/
  whole : Span.nanosPerMilli ∣ step.takes.nanos

/-- A policy in whole milliseconds, and a script whose attempts take whole milliseconds and, as far
as a poll comes to them, end by the deadline. -/
structure Comparable (policy : Policy) (accepts : Except ε α → Bool) (cancellable : Bool)
    (steps : Nat → Step ε α) : Prop where
  /-- The interval is positive. -/
  interval_pos : .zero < policy.interval
  /-- The interval is one of whole milliseconds. -/
  interval_whole : Span.nanosPerMilli ∣ policy.interval.nanos
  /-- The timeout is one of whole milliseconds. -/
  timeout_whole : Span.nanosPerMilli ∣ policy.timeout.nanos
  /-- The timeout is not too long for a timer. -/
  timeout_le : policy.timeout ≤ .ofSeconds 946080000
  /-- The attempts take whole milliseconds. -/
  punctual : ∀ n, (steps n).Punctual
  /-- The attempts end by the deadline. -/
  by_deadline : ∀ n, Reaches policy accepts cancellable steps n →
    attemptTime policy steps n + (steps n).takes.nanos ≤ policy.timeout.nanos

/-- What happens around the timed poll of a script: no cancellation but those of its attempts. -/
def sceneOf (steps : Nat → Step ε α) (cancellable : Bool) : Scene ε α where
  step := steps
  cancellable

/-- The blocking poll of a script, from a reading of the clock, and its timed poll both end, make the
same attempts at the same times, report the same events and have the same outcome. -/
def Agree (policy : Policy) (accepts : Except ε α → Bool) (cancellable : Bool)
    (steps : Nat → Step ε α) (start : Span) : Prop :=
  ∃ limit run calls t,
    EndsWithin (rehearsal steps cancellable none) accepts policy limit { clock := start } run
      calls ∧
    (sceneOf steps cancellable).poll accepts policy limit = some t ∧
    attempts calls = t.started.map (fun (tick, step) => (start + .ofMillis tick, step.result)) ∧
    run.events = t.events.map Prod.snd ∧
    run.outcome = t.outcome

/-! ## Timers -/

theorem timerTicks_mul {span : Span} (hw : Span.nanosPerMilli ∣ span.nanos)
    (hs : span ≤ .ofSeconds 946080000) : timerTicks span * Span.nanosPerMilli = span.nanos := by
  rw [timerTicks_eq_millisUp hs]
  show (span.nanos + 999999) / 1000000 * 1000000 = span.nanos
  obtain ⟨k, hk⟩ : 1000000 ∣ span.nanos := hw
  omega

theorem Scene.await_completed (scene : Scene ε α) (hc : scene.cancelTick = none)
    {deadline now ticks : Nat} (h : now + ticks ≤ deadline) :
    scene.await deadline now false (some ticks) = .completed (now + ticks) := by
  by_cases h0 : ticks = 0
  · simp [await, h0]
  · have hnow : ¬ deadline ≤ now := by omega
    simp [await, h0, hnow, h, noticeTick?, hc]

theorem Scene.rest_eq (scene : Scene ε α) (hc : scene.cancelTick = none)
    (hg : ∀ n, scene.givesWay n = true) (interval : Span) (made now : Nat) (cancelled : Bool) :
    scene.rest interval made now cancelled =
      if cancelled then .error now else .ok (now + timerTicks interval) := by
  cases cancelled
  · simp [rest, noticeTick?, hc]
  · simp [rest, noticeTick?, hg, Nat.pos_iff_ne_zero, eq_comm]

/-! ## The two polls from attempt to attempt -/

/-- The time from the start of a poll to the end of its attempt after `n` others. -/
def attemptEnd (policy : Policy) (steps : Nat → Step ε α) (n : Nat) : Span :=
  .ofNanos (attemptTime policy steps n + (steps n).takes.nanos)

/-- The tick at which the timed poll is through with its attempt after `n` others. -/
def endTick (steps : Nat → Step ε α) (n : Nat) (p : Progress ε α) : Nat :=
  p.tick + timerTicks (steps n).takes

/-- A timed poll, from its attempt after `n` others on, by what comes after that attempt. -/
def withAttempt (policy : Policy) (steps : Nat → Step ε α) (n : Nat) (p : Progress ε α)
    (t : Timed ε α) : Timed ε α :=
  (t.after (endTick steps n p) (.attempted (counted (n + 1)) (attemptEnd policy steps n))).start
    p.tick (steps n)

/-- The end of the timed poll right after its attempt after `n` others. -/
def timedEnd (steps : Nat → Step ε α) (n : Nat) (p : Progress ε α) (state : State) : Timed ε α :=
  Timed.finish (some (steps n).result) state (endTick steps n p) (counted (n + 1))

/-- The timed poll as it comes to its attempt after `n + 1` others. -/
def progressAfter (policy : Policy) (steps : Nat → Step ε α) (n : Nat) (p : Progress ε α) :
    Progress ε α where
  tick := endTick steps n p + timerTicks policy.interval
  made := n + 1
  last := some (steps n).result
  cancelled := false

/-- The two polls are at their attempts after `n` others. -/
structure Together (policy : Policy) (cancellable : Bool) (steps : Nat → Step ε α) (start : Span)
    (n : Nat) (stage : Stage) (p : Progress ε α) : Prop where
  /-- The rehearsal has seen the others. -/
  attempts_eq : stage.attempts = n
  /-- The timed poll has made the others. -/
  made_eq : p.made = n
  /-- The clock of the rehearsal shows when the attempt starts. -/
  clock_eq : stage.clock.nanos = start.nanos + attemptTime policy steps n
  /-- So does the tick of the timed poll. -/
  tick_eq : p.tick * Span.nanosPerMilli = attemptTime policy steps n
  /-- The blocking poll has no cancellation to heed. -/
  uncancelled : (cancellable && stage.cancelled) = false
  /-- Nor has the timed poll. -/
  cancelled_eq : p.cancelled = false

section Lockstep

variable {policy : Policy} {accepts : Except ε α → Bool} {cancellable : Bool}
  {steps : Nat → Step ε α} {start : Span} {n : Nat} {stage : Stage} {p : Progress ε α}

namespace Comparable

theorem timeout_lt (hc : Comparable policy accepts cancellable steps) :
    policy.timeout < Span.longest :=
  Nat.lt_of_le_of_lt hc.timeout_le (by decide +kernel)

theorem nanos_attemptEnd (hc : Comparable policy accepts cancellable steps)
    (hr : Reaches policy accepts cancellable steps n) :
    (attemptEnd policy steps n).nanos = attemptTime policy steps n + (steps n).takes.nanos := by
  have hlt := Span.lt_def.1 hc.timeout_lt
  have hby := hc.by_deadline n hr
  exact Nat.min_eq_left (by omega)

theorem attemptEnd_le (hc : Comparable policy accepts cancellable steps)
    (hr : Reaches policy accepts cancellable steps n) :
    attemptEnd policy steps n ≤ policy.timeout := by
  rw [Span.le_def, hc.nanos_attemptEnd hr]
  exact hc.by_deadline n hr

/-- The blocking poll takes the time of the timed poll. -/
theorem sub_start (hc : Comparable policy accepts cancellable steps)
    (hs : start.nanos + policy.timeout.nanos < Span.longest.nanos)
    (hr : Reaches policy accepts cancellable steps n) :
    start + attemptEnd policy steps n - start = attemptEnd policy steps n := by
  have hle := Span.le_def.1 (hc.attemptEnd_le hr)
  apply Span.ext
  rw [Span.nanos_sub, Span.nanos_add]
  omega

/-- Another attempt is due in the blocking poll if and only if it is due in the timed poll. -/
theorem due_iff (hc : Comparable policy accepts cancellable steps)
    (hs : start.nanos + policy.timeout.nanos < Span.longest.nanos)
    (hr : Reaches policy accepts cancellable steps n) :
    start + policy.timeout < start + attemptEnd policy steps n + policy.interval ↔
      policy.timeout < attemptEnd policy steps n + policy.interval := by
  have hle := Span.le_def.1 (hc.attemptEnd_le hr)
  simp only [Span.lt_def, Span.nanos_add]
  omega

/-- The poll comes to the next attempt, if this one is rejected, does not cancel the poll and leaves
time for another. -/
theorem reaches_succ (hc : Comparable policy accepts cancellable steps)
    (hr : Reaches policy accepts cancellable steps n) (rejected : accepts (steps n).result = false)
    (uncancelled : (cancellable && (steps n).cancels) = false)
    (due : ¬ policy.timeout < attemptEnd policy steps n + policy.interval) :
    Reaches policy accepts cancellable steps (n + 1) where
  rejected i hi := by
    rcases Nat.lt_succ_iff_lt_or_eq.1 hi with hi | rfl
    · exact hr.rejected i hi
    · exact rejected
  uncancelled i hi := by
    rcases Nat.lt_succ_iff_lt_or_eq.1 hi with hi | rfl
    · exact hr.uncancelled i hi
    · exact uncancelled
  due := by
    have := (not_lt_add_iff hc.timeout_lt).1 due
    rwa [hc.nanos_attemptEnd hr] at this

end Comparable

namespace Together

theorem attempt_eq (hc : Comparable policy accepts cancellable steps)
    (hs : start.nanos + policy.timeout.nanos < Span.longest.nanos)
    (hr : Reaches policy accepts cancellable steps n)
    (ht : Together policy cancellable steps start n stage p) :
    (rehearsal steps cancellable none).attempt stage =
      ((steps n).result,
        { stage with
          clock := start + attemptEnd policy steps n
          attempts := n + 1
          cancelled := stage.cancelled || (steps n).cancels }) := by
  have hby := hc.by_deadline n hr
  have hclock : stage.clock + (steps n).takes = start + attemptEnd policy steps n := by
    apply Span.ext
    rw [Span.nanos_add, Span.nanos_add, hc.nanos_attemptEnd hr, ht.clock_eq]
    omega
  simp [rehearsal, ht.attempts_eq, (hc.punctual n).unset, hclock]

/-- The clock and the tick agree on when the attempt starts. -/
theorem clock_eq_tick (hs : start.nanos + policy.timeout.nanos < Span.longest.nanos)
    (hr : Reaches policy accepts cancellable steps n)
    (ht : Together policy cancellable steps start n stage p) :
    stage.clock = start + .ofMillis p.tick := by
  have hdue := hr.due
  apply Span.ext
  rw [Span.nanos_add, Span.nanos_ofMillis, ht.clock_eq, ht.tick_eq]
  omega

/-- So they do on when it ends. -/
theorem ofMillis_endTick (hc : Comparable policy accepts cancellable steps)
    (hr : Reaches policy accepts cancellable steps n)
    (ht : Together policy cancellable steps start n stage p) :
    Span.ofMillis (endTick steps n p) = attemptEnd policy steps n := by
  have hby := hc.by_deadline n hr
  have htakes : (steps n).takes ≤ .ofSeconds 946080000 :=
    Nat.le_trans (by omega) hc.timeout_le
  apply Span.ext
  rw [Span.nanos_ofMillis, endTick, Nat.add_mul, ht.tick_eq,
    timerTicks_mul (hc.punctual n).whole htakes]
  rfl

/-- After the attempt the blocking poll notices no cancellation but that of the attempt. -/
theorem noticed_eq (ht : Together policy cancellable steps start n stage p) (c : Bool) :
    (cancellable && (stage.cancelled || c)) = (cancellable && c) := by
  rw [Bool.and_or_distrib_left, ht.uncancelled, Bool.false_or]

/-- The exits of the timed poll after its attempt, in their order. The attempt ends by the deadline,
so nothing cuts it off. -/
theorem pollFrom_timed (hc : Comparable policy accepts cancellable steps)
    (hr : Reaches policy accepts cancellable steps n)
    (ht : Together policy cancellable steps start n stage p) (limit : Nat) :
    (sceneOf steps cancellable).pollFrom accepts policy (limit + 1) p =
      Option.map (withAttempt policy steps n p)
        (if accepts (steps n).result then some (timedEnd steps n p .converged)
        else if policy.timeout < attemptEnd policy steps n + policy.interval then
          some (timedEnd steps n p .timedOut)
        else if cancellable && (steps n).cancels then some (timedEnd steps n p .cancelled)
        else
          (sceneOf steps cancellable).pollFrom accepts policy limit
            (progressAfter policy steps n p)) := by
  have hby := hc.by_deadline n hr
  have htakes : (steps n).takes ≤ .ofSeconds 946080000 :=
    Nat.le_trans (by omega) hc.timeout_le
  -- In whole milliseconds the timers round nothing, so the attempt is complete in time.
  have hfits : p.tick + timerTicks (steps n).takes ≤ timerTicks policy.timeout := by
    apply Nat.le_of_mul_le_mul_right _ (show 0 < Span.nanosPerMilli by decide)
    rw [Nat.add_mul, ht.tick_eq, timerTicks_mul (hc.punctual n).whole htakes,
      timerTicks_mul hc.timeout_whole hc.timeout_le]
    exact hby
  have hawait := (sceneOf steps cancellable).await_completed rfl hfits
  have hstep : (sceneOf steps cancellable).step = steps := rfl
  have hcancellable : (sceneOf steps cancellable).cancellable = cancellable := rfl
  have hmillis := ht.ofMillis_endTick hc hr
  rw [endTick] at hmillis
  simp only [Scene.pollFrom, hstep, ht.made_eq, ht.cancelled_eq, (hc.punctual n).ends, hawait,
    (sceneOf steps cancellable).rest_eq rfl (fun _ => rfl), Step.ticks?, hmillis, hcancellable, Bool.false_or,
    Bool.false_eq_true, if_false, Option.map_map]
  cases cancellable && (steps n).cancels <;> rfl

/-- After a sleep the two polls are at the next attempt. -/
theorem succ (hc : Comparable policy accepts cancellable steps)
    (hs : start.nanos + policy.timeout.nanos < Span.longest.nanos)
    (hr : Reaches policy accepts cancellable steps n)
    (ht : Together policy cancellable steps start n stage p) {t : Stage}
    (hclock : t.clock = start + attemptEnd policy steps n) (hattempts : t.attempts = n + 1)
    (unnoticed : (cancellable && t.cancelled) = false)
    (due : ¬ policy.timeout < attemptEnd policy steps n + policy.interval) :
    Together policy cancellable steps start (n + 1)
      ((rehearsal steps cancellable none : World Stage ε α).sleep policy.interval t)
      (progressAfter policy steps n p) where
  attempts_eq := hattempts
  made_eq := rfl
  clock_eq := by
    have hdue := (not_lt_add_iff hc.timeout_lt).1 due
    rw [hc.nanos_attemptEnd hr] at hdue
    show (t.clock + policy.interval).nanos = _
    rw [hclock, Span.nanos_add, Span.nanos_add, hc.nanos_attemptEnd hr, attemptTime]
    omega
  tick_eq := by
    have hdue := (not_lt_add_iff hc.timeout_lt).1 due
    rw [hc.nanos_attemptEnd hr] at hdue
    have htakes : (steps n).takes ≤ .ofSeconds 946080000 :=
      Nat.le_trans (by omega) hc.timeout_le
    have hinterval : policy.interval ≤ .ofSeconds 946080000 :=
      Nat.le_trans (by omega) hc.timeout_le
    rw [progressAfter, endTick, Nat.add_mul, Nat.add_mul, ht.tick_eq,
      timerTicks_mul (hc.punctual n).whole htakes, timerTicks_mul hc.interval_whole hinterval]
    rfl
  uncancelled := by
    show (cancellable && (t.cancelled || false)) = false
    rw [Bool.or_false, unnoticed]
  cancelled_eq := rfl

end Together

/-- The timed poll from a point makes the attempts of a blocking poll, and ends like it. -/
def EndsAlike (policy : Policy) (accepts : Except ε α → Bool) (cancellable : Bool)
    (steps : Nat → Step ε α) (start : Span) (p : Progress ε α) (run : Run Stage ε α)
    (calls : List (Call ε α)) : Prop :=
  ∃ t, (∀ limit, (begins calls).length ≤ limit →
      (sceneOf steps cancellable).pollFrom accepts policy limit p = some t) ∧
    attempts calls = t.started.map (fun (tick, step) => (start + .ofMillis tick, step.result)) ∧
    run.events = t.events.map Prod.snd ∧ run.outcome = t.outcome

theorem Together.endsAlike_of_end (hc : Comparable policy accepts cancellable steps)
    (hs : start.nanos + policy.timeout.nanos < Span.longest.nanos)
    (hr : Reaches policy accepts cancellable steps n)
    (ht : Together policy cancellable steps start n stage p) {t : Stage} {state : State}
    (hclock : t.clock = start + attemptEnd policy steps n)
    (hend : ∀ limit, (sceneOf steps cancellable).pollFrom accepts policy (limit + 1) p =
      some (withAttempt policy steps n p (timedEnd steps n p state))) :
    EndsAlike policy accepts cancellable steps start p
      ((endAt (rehearsal steps cancellable none) start n (steps n).result state t).after
        (attemptEvent (rehearsal steps cancellable none) start n t))
      [.tried stage.clock (steps n).result] := by
  have hnow : (rehearsal steps cancellable none).now t - start = attemptEnd policy steps n := by
    show t.clock - start = _
    rw [hclock, hc.sub_start hs hr]
  refine ⟨withAttempt policy steps n p (timedEnd steps n p state), fun limit hl => ?_, ?_, ?_, ?_⟩
  · obtain ⟨limit, rfl⟩ := Nat.exists_eq_add_of_le' hl
    exact hend limit
  · rw [ht.clock_eq_tick hs hr]
    rfl
  · rw [Run.events_after, attemptEvent, endAt, hnow]
    simp [withAttempt, timedEnd, Timed.start, Timed.after, Timed.finish, Run.finish,
      ht.ofMillis_endTick hc hr]
  · rw [Run.outcome_after, outcome_endAt, hnow]
    simp [withAttempt, timedEnd, Timed.start, Timed.after, Timed.finish,
      ht.ofMillis_endTick hc hr]

/-- **From a point where they are together, the polls go on alike**, along every way of the blocking
poll to its end. -/
theorem endsAlike_of_path (hc : Comparable policy accepts cancellable steps)
    (hs : start.nanos + policy.timeout.nanos < Span.longest.nanos)
    {run : Run Stage ε α} {calls : List (Call ε α)}
    (h : Path (rehearsal steps cancellable none) accepts policy start (start + policy.timeout) n
      stage run calls)
    (hr : Reaches policy accepts cancellable steps n)
    (ht : Together policy cancellable steps start n stage p) :
    EndsAlike policy accepts cancellable steps start p run calls := by
  -- Along the way of the blocking poll; in each case the timed poll passes the same tests.
  induction h generalizing p with
  | converged attempt accepted =>
    obtain ⟨rfl, rfl⟩ := Prod.mk.inj (attempt.symm.trans (ht.attempt_eq hc hs hr))
    refine ht.endsAlike_of_end hc hs hr rfl fun limit => ?_
    rw [ht.pollFrom_timed hc hr, if_pos accepted, Option.map_some]
  | timedOut attempt rejected late =>
    obtain ⟨rfl, rfl⟩ := Prod.mk.inj (attempt.symm.trans (ht.attempt_eq hc hs hr))
    refine ht.endsAlike_of_end hc hs hr rfl fun limit => ?_
    rw [ht.pollFrom_timed hc hr, if_neg (ne_true_of_eq_false rejected),
      if_pos ((hc.due_iff hs hr).1 late), Option.map_some]
  | cancelled attempt rejected due noticed =>
    obtain ⟨rfl, rfl⟩ := Prod.mk.inj (attempt.symm.trans (ht.attempt_eq hc hs hr))
    have hcancels : (cancellable && (steps _).cancels) = true := (ht.noticed_eq _).symm.trans noticed
    refine ht.endsAlike_of_end hc hs hr rfl fun limit => ?_
    rw [ht.pollFrom_timed hc hr, if_neg (ne_true_of_eq_false rejected),
      if_neg (mt (hc.due_iff hs hr).2 due), if_pos hcancels, Option.map_some]
  | cancelledInSleep attempt rejected due unnoticed noticed =>
    -- A sleep of this rehearsal does not cancel, so there is nothing to notice after it.
    have hsleep : (cancellable && (_ || false)) = true := noticed
    rw [Bool.or_false] at hsleep
    exact absurd hsleep (ne_true_of_eq_false unnoticed)
  | @again n stage t r run calls attempt rejected due unnoticed still rest ih =>
    obtain ⟨rfl, rfl⟩ := Prod.mk.inj (attempt.symm.trans (ht.attempt_eq hc hs hr))
    have hcancels : (cancellable && (steps n).cancels) = false :=
      (ht.noticed_eq _).symm.trans unnoticed
    have hdue := mt (hc.due_iff hs hr).2 due
    obtain ⟨t, ht', hattempts, hevents, houtcome⟩ :=
      ih (hc.reaches_succ hr rejected hcancels hdue) (ht.succ hc hs hr rfl rfl unnoticed hdue)
    refine ⟨withAttempt policy steps n p t, fun limit hl => ?_, ?_, ?_, houtcome⟩
    · obtain ⟨limit, rfl⟩ : ∃ k, limit = k + 1 :=
        Nat.exists_eq_add_of_le' (Nat.le_of_add_left_le hl)
      rw [ht.pollFrom_timed hc hr, if_neg (ne_true_of_eq_false rejected), if_neg hdue,
        if_neg (ne_true_of_eq_false hcancels), ht' limit (Nat.le_of_succ_le_succ hl),
        Option.map_some]
    · have hbegan : (rehearsal steps cancellable none).now stage = start + .ofMillis p.tick :=
        ht.clock_eq_tick hs hr
      rw [hbegan]
      exact congrArg (_ :: ·) hattempts
    · have hnow : start + attemptEnd policy steps n - start = attemptEnd policy steps n :=
        hc.sub_start hs hr
      exact congr (congrArg (fun e => List.cons (Event.attempted _ e)) hnow) hevents

/-! ## The polls from their starts -/

theorem reaches_zero (policy : Policy) (accepts : Except ε α → Bool) (cancellable : Bool)
    (steps : Nat → Step ε α) : Reaches policy accepts cancellable steps 0 where
  rejected _ hi := absurd hi (Nat.not_lt_zero _)
  uncancelled _ hi := absurd hi (Nat.not_lt_zero _)
  due := Nat.zero_le _

theorem together_zero (policy : Policy) (cancellable : Bool) (steps : Nat → Step ε α)
    (start : Span) :
    Together policy cancellable steps start 0 { clock := start }
      { cancelled := cancellable && false } where
  attempts_eq := rfl
  made_eq := rfl
  clock_eq := rfl
  tick_eq := Nat.zero_mul _
  uncancelled := Bool.and_false _
  cancelled_eq := Bool.and_false _

/-- **The blocking poll and the timed poll agree**, if the deadline is before the longest span. -/
theorem agree_of_comparable (hc : Comparable policy accepts cancellable steps)
    (hs : start.nanos + policy.timeout.nanos < Span.longest.nanos) :
    Agree policy accepts cancellable steps start := by
  have hw : (rehearsal steps cancellable none).Steady :=
    rehearsal_steady (fun n => (hc.punctual n).unset) cancellable none
  have hd : start + policy.timeout < Span.longest := by
    rw [Span.lt_def, Span.nanos_add]
    omega
  obtain ⟨run, hrun⟩ : ∃ run, poll (rehearsal steps cancellable none) accepts policy
      (spare policy (start + policy.timeout) start + 1) { clock := start } = some run :=
    exists_pollFrom hw hd hc.interval_pos (Nat.lt_succ_self _)
  obtain ⟨calls, hcalls⟩ := exists_endsWithin hrun
  obtain ⟨t, ht, hattempts, hevents, houtcome⟩ := endsAlike_of_path hc hs hcalls.path
    (reaches_zero policy accepts cancellable steps) (together_zero policy cancellable steps start)
  have hlimit := hcalls.path.length_begins_le hw hd hc.interval_pos
  exact ⟨_, run, calls, t, hcalls, ht _ hlimit, hattempts, hevents, houtcome⟩

end Lockstep

/-- Polls of four seconds, with an attempt of half a second every second and a half, of which the
second cancels the poll. -/
theorem agree_of_comparable_four_seconds :
    Agree { timeout := .ofSeconds 4, interval := .ofSeconds 1 } (fun _ => false) true
      (fun n => ({ result := .error n, takes := .ofMillis 500, cancels := n == 1 } : Step Nat Unit))
      (.ofSeconds 7) := by
  have hc : Comparable { timeout := .ofSeconds 4, interval := .ofSeconds 1 } (fun _ => false) true
      (fun n =>
        ({ result := .error n, takes := .ofMillis 500, cancels := n == 1 } : Step Nat Unit)) := by
    refine ⟨by decide +kernel, by decide +kernel, by decide +kernel, by decide +kernel,
      fun n => ⟨rfl, rfl, ?_⟩, fun n hr => ?_⟩
    · show Span.nanosPerMilli ∣ (Span.ofMillis 500).nanos
      decide +kernel
    · obtain _ | _ | n := n
      · decide +kernel
      · decide +kernel
      · have := hr.uncancelled 1 (by omega)
        cases this
  exact agree_of_comparable hc (by decide +kernel)

/-! ## At the longest span -/

/-- A blocking poll never passes a deadline at the longest span. -/
theorem Path.not_timedOut {σ : Type} {w : World σ ε α} {accepts : Except ε α → Bool}
    {policy : Policy} {start : Span} {made : Nat} {s : σ} {run : Run σ ε α} {calls : List (Call ε α)}
    (h : Path w accepts policy start .longest made s run calls) : run.outcome.state ≠ .timedOut := by
  induction h with
  | converged => simp
  | timedOut _ _ late => exact absurd (Span.nanos_le_longest _) (Nat.not_le_of_lt late)
  | cancelled => simp
  | cancelledInSleep => simp
  | again _ _ _ _ _ _ ih => exact ih

/-- The polls of a script whose one attempt ends at the deadline and cancels them do not agree if
the deadline is the longest span: the blocking poll is cancelled, the timed poll times out. -/
theorem not_agree_at_longest :
    let policy : Policy := { timeout := .ofSeconds 5, interval := .ofSeconds 1 }
    let steps : Nat → Step Unit Unit :=
      fun _ => { result := .error (), takes := .ofSeconds 5, cancels := true }
    let start : Span := .longest - .ofSeconds 5
    Comparable policy (fun _ => false) true steps ∧
      start.nanos + policy.timeout.nanos = Span.longest.nanos ∧
      ¬ Agree policy (fun _ => false) true steps start := by
  intro policy steps start
  have hc : Comparable policy (fun _ => false) true steps := by
    refine ⟨by decide +kernel, by decide +kernel, by decide +kernel, by decide +kernel,
      fun n => ⟨rfl, rfl, ?_⟩, fun n hr => ?_⟩
    · show Span.nanosPerMilli ∣ (Span.ofSeconds 5).nanos
      decide +kernel
    · obtain _ | n := n
      · decide +kernel
      · cases hr.uncancelled 0 (by omega)
  have hdeadline : start + policy.timeout = Span.longest := by decide +kernel
  refine ⟨hc, by decide +kernel, ?_⟩
  rintro ⟨limit, run, calls, t, hrun, ht, -, -, houtcome⟩
  have hpath := hrun.path
  have hnow : (rehearsal steps true none).now { clock := start } = start := rfl
  rw [hnow, hdeadline] at hpath
  obtain _ | limit := limit
  · cases ht
  have hlate : policy.timeout < attemptEnd policy steps 0 + policy.interval := by decide +kernel
  have htimed := (together_zero policy true steps start).pollFrom_timed hc
    (reaches_zero policy (fun _ => false) true steps) limit
  rw [if_neg (by simp), if_pos hlate] at htimed
  obtain rfl := Option.some.inj (ht.symm.trans htimed)
  exact hpath.not_timedOut (congrArg Outcome.state houtcome)

end Provisioning.Poll

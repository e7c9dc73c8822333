import Provisioning.Proofs.Settings.Answers

/-!
# Policies that can be reached

Timeout and interval are written one at a time, and each write is refused unless they go together after
it. So it may matter which of them is written first. The timeout can be, unless the new one is shorter
than the old interval, and the interval can be, unless the new one is longer than the old timeout. Not
both are the case, as the new interval would then be longer than the new timeout. So from any policy any
other can be reached, and if both orders lead to it, they end alike.

## Main definitions

* `Settings.AcceptsAll`: writes that are accepted one after another
* `PollTexts`, `PollOrder.writes`: a timeout and an interval as texts, and their writes in an order
* `Settings.ReachesPolicy`: one of the orders leads to the policy, and none leads astray

## Main results

* `Settings.exists_policy_writeAll`: after any writes there is a policy if there was one
* `Settings.reachesPolicy`: every policy can be reached
-/

namespace Provisioning

open Text

/-- A timeout and an interval as texts. -/
structure PollTexts (timeout interval : UInt64) where
  /-- A text that is read as the timeout, blanks around it aside. -/
  timeoutText : String
  /-- A text that is read as the interval. -/
  intervalText : String
  readTimeout : Settings.readSeconds? (trim timeoutText) = some timeout
  readInterval : Settings.readSeconds? (trim intervalText) = some interval

/-- The texts in digits, so that there are some for any timeout and interval. -/
def PollTexts.digits (timeout interval : UInt64) : PollTexts timeout interval where
  timeoutText := toString timeout.toNat
  intervalText := toString interval.toNat
  readTimeout := Settings.readSeconds?_text timeout
  readInterval := Settings.readSeconds?_text interval

/-- Which of the settings of polls is written first. -/
inductive PollOrder where
  | timeoutFirst
  | intervalFirst

/-- The writes of a timeout and an interval in an order. -/
def PollOrder.writes {timeout interval : UInt64} (texts : PollTexts timeout interval) :
    PollOrder → List (String × String)
  | .timeoutFirst =>
    [("poll.timeout_secs", texts.timeoutText), ("poll.interval_secs", texts.intervalText)]
  | .intervalFirst =>
    [("poll.interval_secs", texts.intervalText), ("poll.timeout_secs", texts.timeoutText)]

namespace Settings

variable {s t : Settings} {p : Poll.Policy} {n timeout interval : UInt64} {key value text : String}
  {rest : List (String × String)}

/-! ## Writes that are accepted -/

/-- All writes are accepted, and lead to the settings `t`. -/
def AcceptsAll (s : Settings) (writes : List (String × String)) (t : Settings) : Prop :=
  s.writeAll writes = (writes, t)

theorem acceptsAll_nil : s.AcceptsAll [] t ↔ t = s := by
  simp [AcceptsAll, writeAll, eq_comm]

theorem writeAll_sublist (s : Settings) (writes : List (String × String)) :
    (s.writeAll writes).1.Sublist writes := by
  induction writes generalizing s with
  | nil => exact .slnil
  | cons w rest ih =>
    obtain ⟨key, value⟩ := w
    simp only [writeAll]
    split
    · exact (ih _).cons_cons _
    · exact (ih _).cons _

theorem acceptsAll_cons : s.AcceptsAll ((key, value) :: rest) t ↔
    ∃ u, s.write key value = (.ok (), u) ∧ u.AcceptsAll rest t := by
  unfold AcceptsAll
  rcases hw : s.write key value with ⟨answer, u⟩
  cases answer with
  | ok => simp [writeAll, hw, Prod.ext_iff]
  | error e =>
    refine iff_of_false (fun h => ?_) (by simp)
    have hlog : (u.writeAll rest).1 = (key, value) :: rest := by
      simpa [writeAll, hw] using congrArg Prod.fst h
    -- The refused write is missing from the log, which then is too short.
    have hlength := (u.writeAll_sublist rest).length_le
    rw [hlog, List.length_cons] at hlength
    exact Nat.not_succ_le_self _ hlength

/-- After any writes there is a policy if there was one before. -/
theorem exists_policy_writeAll (h : ∃ p, s.policy = .ok p) (writes : List (String × String)) :
    ∃ p, (s.writeAll writes).2.policy = .ok p := by
  induction writes generalizing s with
  | nil => exact h
  | cons w rest ih =>
    obtain ⟨key, value⟩ := w
    have hrest := ih (exists_policy_write h key value)
    simp only [writeAll]
    split <;> exact hrest

/-! ## One setting -/

theorem exists_policy_iff :
    (∃ p, s.policy = .ok p) ↔ Span.zero < s.intervalInUse ∧ s.intervalInUse ≤ s.timeoutInUse := by
  constructor
  · rintro ⟨p, hp⟩
    obtain ⟨htimeout, hinterval, hpos, hle⟩ := policy_eq_ok_iff.1 hp
    rw [← htimeout, ← hinterval]
    exact ⟨hpos, hle⟩
  · rintro ⟨hpos, hle⟩
    exact ⟨⟨s.timeoutInUse, s.intervalInUse⟩, policy_eq_ok_iff.2 ⟨rfl, rfl, hpos, hle⟩⟩

/-- The settings with a timeout. -/
def withTimeout (s : Settings) (n : UInt64) : Settings :=
  { s with poll := some { s.poll.getD {} with timeoutSecs := some n } }

/-- The settings with an interval. -/
def withInterval (s : Settings) (n : UInt64) : Settings :=
  { s with poll := some { s.poll.getD {} with intervalSecs := some n } }

@[simp] theorem timeoutInUse_withTimeout : (s.withTimeout n).timeoutInUse = .ofSeconds n := rfl

@[simp] theorem intervalInUse_withInterval : (s.withInterval n).intervalInUse = .ofSeconds n := rfl

@[simp] theorem intervalInUse_withTimeout : (s.withTimeout n).intervalInUse = s.intervalInUse := by
  unfold intervalInUse withTimeout
  cases s.poll <;> rfl

@[simp] theorem timeoutInUse_withInterval : (s.withInterval n).timeoutInUse = s.timeoutInUse := by
  unfold timeoutInUse withInterval
  cases s.poll <;> rfl

theorem withInterval_withTimeout (s : Settings) (m n : UInt64) :
    (s.withTimeout m).withInterval n = (s.withInterval n).withTimeout m := rfl

/-- A timeout is accepted if the interval in use goes with it. -/
theorem write_timeout_eq_ok_iff (hread : readSeconds? (trim text) = some n) :
    s.write "poll.timeout_secs" text = (.ok (), t) ↔
      t = s.withTimeout n ∧ Span.zero < s.intervalInUse ∧ s.intervalInUse ≤ .ofSeconds n := by
  have hassign : s.assign? (trim text) .timeout = some (s.withTimeout n) := by
    rw [assign?, hread]
    rfl
  rw [write_eq_ok_iff]
  constructor
  · rintro ⟨k, hk, ht, hpolicy⟩
    obtain rfl := hk.unique .timeout
    obtain rfl := Option.some.inj (hassign.symm.trans ht)
    exact ⟨rfl, by simpa using exists_policy_iff.1 (hpolicy rfl)⟩
  · rintro ⟨rfl, hfit⟩
    exact ⟨.timeout, .timeout, hassign, fun _ => exists_policy_iff.2 (by simpa using hfit)⟩

/-- An interval that is not zero is accepted if the timeout in use goes with it. -/
theorem write_interval_eq_ok_iff (hread : readSeconds? (trim text) = some n) (hpos : 0 < n) :
    s.write "poll.interval_secs" text = (.ok (), t) ↔
      t = s.withInterval n ∧ .ofSeconds n ≤ s.timeoutInUse := by
  have hassign : s.assign? (trim text) .interval = some (s.withInterval n) := by
    rw [assign?, hread, Option.filter_some, if_pos (decide_eq_true hpos)]
    rfl
  rw [write_eq_ok_iff]
  constructor
  · rintro ⟨k, hk, ht, hpolicy⟩
    obtain rfl := hk.unique .interval
    obtain rfl := Option.some.inj (hassign.symm.trans ht)
    exact ⟨rfl, by simpa using (exists_policy_iff.1 (hpolicy rfl)).2⟩
  · rintro ⟨rfl, hle⟩
    refine ⟨.interval, .interval, hassign, fun _ => exists_policy_iff.2 ?_⟩
    simpa [Span.zero_lt_ofSeconds] using ⟨hpos, hle⟩

/-! ## Both settings -/

/-- From settings with the policy `p` another timeout and interval are reached by writing one at a
time. -/
structure ReachesPolicy (s : Settings) (p : Poll.Policy) {timeout interval : UInt64}
    (texts : PollTexts timeout interval) : Prop where
  /-- All writes are accepted in one of the orders. -/
  reached : ∃ order t, s.AcceptsAll (PollOrder.writes texts order) t
  /-- Whichever it is, they end in the same settings, and the policy is the one that was meant. -/
  ends : ∀ order t, s.AcceptsAll (PollOrder.writes texts order) t →
    t = { s with poll := some { timeoutSecs := some timeout, intervalSecs := some interval } } ∧
      t.policy = .ok { timeout := .ofSeconds timeout, interval := .ofSeconds interval }
  /-- The timeout can be written first if it goes with the old interval. -/
  timeoutFirst_iff : (∃ t, s.AcceptsAll (PollOrder.writes texts .timeoutFirst) t) ↔
    p.interval ≤ .ofSeconds timeout
  /-- The interval can be written first if it goes with the old timeout. -/
  intervalFirst_iff : (∃ t, s.AcceptsAll (PollOrder.writes texts .intervalFirst) t) ↔
    .ofSeconds interval ≤ p.timeout
  /-- No writes, whether they are accepted or not, leave a timeout and an interval that do not go
  together. -/
  kept : ∀ writes, ∃ q, (s.writeAll writes).2.policy = .ok q ∧ Span.zero < q.interval ∧
    q.interval ≤ q.timeout

section Orders

variable (hp : s.policy = .ok p) (hpos : 0 < interval) (hle : interval ≤ timeout)
  (texts : PollTexts timeout interval)

include hp hpos hle

theorem acceptsAll_timeoutFirst : s.AcceptsAll (PollOrder.writes texts .timeoutFirst) t ↔
    t = (s.withTimeout timeout).withInterval interval ∧ p.interval ≤ .ofSeconds timeout := by
  obtain ⟨-, hinterval, hold, -⟩ := policy_eq_ok_iff.1 hp
  simp only [PollOrder.writes, acceptsAll_cons, acceptsAll_nil,
    write_timeout_eq_ok_iff texts.readTimeout, write_interval_eq_ok_iff texts.readInterval hpos]
  rw [← hinterval]
  constructor
  · rintro ⟨_, ⟨rfl, -, hfirst⟩, _, ⟨rfl, -⟩, rfl⟩
    exact ⟨rfl, hfirst⟩
  · rintro ⟨rfl, hfirst⟩
    -- The second write is always accepted, since the new timeout and interval go together.
    exact ⟨_, ⟨rfl, hold, hfirst⟩, _, ⟨rfl, Span.ofSeconds_le_ofSeconds.2 hle⟩, rfl⟩

theorem acceptsAll_intervalFirst : s.AcceptsAll (PollOrder.writes texts .intervalFirst) t ↔
    t = (s.withTimeout timeout).withInterval interval ∧ .ofSeconds interval ≤ p.timeout := by
  obtain ⟨htimeout, -, -, -⟩ := policy_eq_ok_iff.1 hp
  simp only [PollOrder.writes, acceptsAll_cons, acceptsAll_nil,
    write_timeout_eq_ok_iff texts.readTimeout, write_interval_eq_ok_iff texts.readInterval hpos,
    withInterval_withTimeout]
  rw [← htimeout]
  constructor
  · rintro ⟨_, ⟨rfl, hfirst⟩, _, ⟨rfl, -, -⟩, rfl⟩
    exact ⟨rfl, hfirst⟩
  · rintro ⟨rfl, hfirst⟩
    exact ⟨_, ⟨rfl, hfirst⟩, _,
      ⟨rfl, Span.zero_lt_ofSeconds.2 hpos, Span.ofSeconds_le_ofSeconds.2 hle⟩, rfl⟩

/-- **Every policy is reached from every other by writing one setting at a time.** -/
theorem reachesPolicy : s.ReachesPolicy p texts where
  reached := by
    obtain ⟨-, -, -, hold⟩ := policy_eq_ok_iff.1 hp
    by_cases hfirst : p.interval ≤ .ofSeconds timeout
    · exact ⟨.timeoutFirst, _, (acceptsAll_timeoutFirst hp hpos hle texts).2 ⟨rfl, hfirst⟩⟩
    · -- The new timeout is shorter than the old interval, so the new interval is than the old timeout.
      have hshort : (Span.ofSeconds interval).nanos ≤ p.timeout.nanos := calc
        (Span.ofSeconds interval).nanos ≤ (Span.ofSeconds timeout).nanos :=
          Span.ofSeconds_le_ofSeconds.2 hle
        _ ≤ p.interval.nanos := Nat.le_of_not_le hfirst
        _ ≤ p.timeout.nanos := hold
      exact ⟨.intervalFirst, _, (acceptsAll_intervalFirst hp hpos hle texts).2 ⟨rfl, hshort⟩⟩
  ends order t h := by
    have hends : t = (s.withTimeout timeout).withInterval interval := by
      cases order with
      | timeoutFirst => exact ((acceptsAll_timeoutFirst hp hpos hle texts).1 h).1
      | intervalFirst => exact ((acceptsAll_intervalFirst hp hpos hle texts).1 h).1
    subst hends
    refine ⟨rfl, policy_eq_ok_iff.2 ⟨?_, ?_, ?_, ?_⟩⟩
    · rw [timeoutInUse_withInterval, timeoutInUse_withTimeout]
    · rw [intervalInUse_withInterval]
    · exact Span.zero_lt_ofSeconds.2 hpos
    · exact Span.ofSeconds_le_ofSeconds.2 hle
  timeoutFirst_iff := by simp [acceptsAll_timeoutFirst hp hpos hle texts]
  intervalFirst_iff := by simp [acceptsAll_intervalFirst hp hpos hle texts]
  kept writes := by
    obtain ⟨q, hq⟩ := exists_policy_writeAll ⟨p, hp⟩ writes
    exact ⟨q, hq, (policy_eq_ok_iff.1 hq).2.2⟩

end Orders

/-- From a minute with an attempt every twenty seconds to ten seconds with an attempt every five, only
the interval can be written first. -/
theorem reachesPolicy_shorter :
    let s : Settings := { poll := some { timeoutSecs := some 60, intervalSecs := some 20 } }
    s.ReachesPolicy { timeout := .ofSeconds 60, interval := .ofSeconds 20 } (.digits 10 5) ∧
      ¬ ∃ t, s.AcceptsAll (PollOrder.writes (.digits 10 5) .timeoutFirst) t := by
  intro s
  have h : s.ReachesPolicy { timeout := .ofSeconds 60, interval := .ofSeconds 20 } (.digits 10 5) :=
    reachesPolicy (by decide +kernel) (by decide) (by decide) (.digits 10 5)
  refine ⟨h, ?_⟩
  rw [h.timeoutFirst_iff]
  decide +kernel

end Settings

end Provisioning

import Provisioning.Proofs.Settings.Keys
import Provisioning.Proofs.Settings.Weights

/-!
# Checks of settings in use

A file of settings can be edited by hand and then holds anything. Each value is checked when it is used:
what is in use is the stored value, or the default one, and is fit for its use.

The weights are checked one by one in the order of their names. The first entry that cannot be used
decides, for its name or for its number, and no entry after it is looked at.

## Main definitions

* `Settings.timeoutInUse`, `Settings.intervalInUse`: the stored spans, or the default ones
* `Settings.IsUsable`, `Settings.WeightFault`: an entry of the weights can be used, or has a fault
* `Settings.ChecksValues`: nothing is used that is not fit for it

## Main results

* `Settings.policy_eq_ok_iff`, `Settings.hoursPerMonth_eq_ok_iff`, `Settings.commitment_eq_ok_iff`: the
  values that can be used
* `Settings.applyWeights_cases`: either all entries can be used, or the first that cannot decides
* `Settings.checksValues`: so it is for all settings
-/

namespace Provisioning.Settings

open Text

variable {s t : Settings} {e : SettingsError} {name : String} {d : Dimension} {x : Binary64}
  {w weights : Weights} {entry : String × Binary64} {entries before after : List (String × Binary64)}

/-! ## Policies -/

/-- The timeout that is stored, or the default one. -/
def timeoutInUse (s : Settings) : Span :=
  (s.poll.bind PollSection.timeoutSecs).elim Poll.Policy.default.timeout Span.ofSeconds

/-- The interval that is stored, or the default one. -/
def intervalInUse (s : Settings) : Span :=
  (s.poll.bind PollSection.intervalSecs).elim Poll.Policy.default.interval Span.ofSeconds

theorem policy_eq_mapError (s : Settings) :
    s.policy = (Poll.Policy.make s.timeoutInUse s.intervalInUse).mapError .policy := by
  have htimeout : (s.poll.getD {}).timeoutSecs = s.poll.bind PollSection.timeoutSecs := by
    cases s.poll <;> rfl
  have hinterval : (s.poll.getD {}).intervalSecs = s.poll.bind PollSection.intervalSecs := by
    cases s.poll <;> rfl
  simp only [policy, timeoutInUse, intervalInUse, htimeout, hinterval]
  split
  · next hmake => rw [hmake, Except.mapError]
  · next hmake => rw [hmake, Except.mapError]

/-- There is a policy if timeout and interval go together, and it is made of them. -/
theorem policy_eq_ok_iff {p : Poll.Policy} : s.policy = .ok p ↔
    p.timeout = s.timeoutInUse ∧ p.interval = s.intervalInUse ∧
      Span.zero < p.interval ∧ p.interval ≤ p.timeout := by
  have hmake : s.policy = .ok p ↔ Poll.Policy.make s.timeoutInUse s.intervalInUse = .ok p := by
    rw [policy_eq_mapError]
    cases Poll.Policy.make s.timeoutInUse s.intervalInUse <;> simp [Except.mapError]
  rw [hmake, Poll.Policy.make_eq_ok_iff]
  constructor
  · rintro ⟨rfl, hpos, hle⟩
    exact ⟨rfl, rfl, hpos, hle⟩
  · obtain ⟨timeout, interval⟩ := p
    rintro ⟨rfl, rfl, hpos, hle⟩
    exact ⟨rfl, hpos, hle⟩

/-! ## Prices -/

theorem hoursPerMonth_eq_ok_iff : s.hoursPerMonth = .ok x ↔
    x = (s.pricing.bind PricingSection.hoursPerMonth).getD Provisioning.hoursPerMonth ∧
      isHours x = true := by
  unfold hoursPerMonth
  cases s.pricing.bind PricingSection.hoursPerMonth with
  | none =>
    have hdefault : isHours Provisioning.hoursPerMonth = true := by decide +kernel
    constructor
    · intro h
      obtain rfl := Except.ok.inj h
      exact ⟨rfl, hdefault⟩
    · rintro ⟨rfl, -⟩
      rfl
  | some hours =>
    dsimp only [Option.getD_some]
    constructor
    · intro h
      split at h
      · next hfit =>
        obtain rfl := Except.ok.inj h
        exact ⟨rfl, hfit⟩
      · cases h
    · rintro ⟨rfl, hfit⟩
      rw [if_pos hfit]

theorem one_le_iff_ne_zero {n : UInt32} : 1 ≤ n ↔ n ≠ 0 := by
  rw [UInt32.le_iff_toNat_le, ne_eq, ← UInt32.toNat_inj]
  exact Nat.one_le_iff_ne_zero

theorem commitment_eq_ok_iff {months : Option UInt32} : s.commitment = .ok months ↔
    months = s.pricing.bind PricingSection.commitmentMonths ∧ ∀ n ∈ months, 1 ≤ n := by
  unfold commitment
  cases s.pricing.bind PricingSection.commitmentMonths with
  | none =>
    constructor
    · intro h
      obtain rfl := Except.ok.inj h
      exact ⟨rfl, fun n hn => by cases hn⟩
    · rintro ⟨rfl, -⟩
      rfl
  | some n =>
    dsimp only
    constructor
    · intro h
      split at h
      · cases h
      · next hzero =>
        obtain rfl := Except.ok.inj h
        exact ⟨rfl, fun m hm => Option.some.inj hm ▸ one_le_iff_ne_zero.2 hzero⟩
    · rintro ⟨rfl, hfit⟩
      rw [if_neg (one_le_iff_ne_zero.1 (hfit n rfl))]

/-! ## Weights -/

/-- An entry of the weights can be used: it has the name of a dimension, and its number is finite and
not negative. -/
structure IsUsable (entry : String × Binary64) : Prop where
  named : ∃ d : Dimension, d.IsNamed entry.1
  finite : entry.2.isFinite = true
  nonneg : Binary64.zero.le entry.2 = true

/-- The fault of an entry that cannot be used. A name that is none is told before a number that is no
weight. -/
inductive WeightFault : String × Binary64 → SettingsError → Prop
  | unknown {name : String} {x : Binary64} (h : ∀ d : Dimension, ¬ d.IsNamed name) :
      WeightFault (name, x) (.unknownKey ("weights." ++ name))
  | invalid {name : String} {x : Binary64} {d : Dimension} (hd : d.IsNamed name)
      (h : ¬ (x.isFinite = true ∧ Binary64.zero.le x = true)) :
      WeightFault (name, x) (.invalidValue ("weights." ++ name) x.text)

theorem isWeight_iff : isWeight x = true ↔ x.isFinite = true ∧ Binary64.zero.le x = true :=
  Bool.and_eq_true_iff

theorem IsUsable.exists_applyWeights_cons (h : IsUsable entry) (weights : Weights) :
    ∃ w, ∀ rest, applyWeights weights (entry :: rest) = applyWeights w rest := by
  obtain ⟨name, x⟩ := entry
  obtain ⟨⟨d, hd⟩, hfinite, hnonneg⟩ := h
  refine ⟨weights.set d x, fun rest => ?_⟩
  simp only [applyWeights, Dimension.read?_eq_some_iff.2 hd, isWeight_iff.2 ⟨hfinite, hnonneg⟩, if_true]

theorem WeightFault.applyWeights_cons (h : WeightFault entry e) (weights : Weights)
    (rest : List (String × Binary64)) : applyWeights weights (entry :: rest) = .error e := by
  cases h with
  | unknown hname => simp only [applyWeights, Dimension.read?_eq_none_iff.2 hname]
  | invalid hd hx =>
    simp only [applyWeights, Dimension.read?_eq_some_iff.2 hd, if_neg (mt isWeight_iff.1 hx)]

theorem isUsable_or_fault (entry : String × Binary64) :
    IsUsable entry ∨ ∃ e, WeightFault entry e := by
  obtain ⟨name, x⟩ := entry
  by_cases hname : ∃ d : Dimension, d.IsNamed name
  · by_cases hx : x.isFinite = true ∧ Binary64.zero.le x = true
    · exact .inl ⟨hname, hx.1, hx.2⟩
    · obtain ⟨d, hd⟩ := hname
      exact .inr ⟨_, .invalid hd hx⟩
  · exact .inr ⟨_, .unknown (not_exists.1 hname)⟩

theorem WeightFault.not_isUsable (h : WeightFault entry e) : ¬ IsUsable entry := by
  intro husable
  cases h with
  | unknown hname =>
    obtain ⟨d, hd⟩ := husable.named
    exact hname d hd
  | invalid hd hx => exact hx ⟨husable.finite, husable.nonneg⟩

/-- The first entry that cannot be used decides. -/
theorem applyWeights_of_fault (hbefore : ∀ x ∈ before, IsUsable x) (h : WeightFault entry e)
    (weights : Weights) : applyWeights weights (before ++ entry :: after) = .error e := by
  induction before generalizing weights with
  | nil => exact h.applyWeights_cons weights after
  | cons first before ih =>
    obtain ⟨hfirst, hbefore⟩ := List.forall_mem_cons.1 hbefore
    obtain ⟨w, hw⟩ := hfirst.exists_applyWeights_cons weights
    rw [List.cons_append, hw]
    exact ih hbefore w

/-- Either all entries can be used, or there is a first one that cannot. -/
theorem applyWeights_cases (weights : Weights) (entries : List (String × Binary64)) :
    ((∃ w, applyWeights weights entries = .ok w) ∧ ∀ x ∈ entries, IsUsable x) ∨
      ∃ e before entry after, entries = before ++ entry :: after ∧ (∀ x ∈ before, IsUsable x) ∧
        WeightFault entry e := by
  -- Each usable entry changes the weights, so they stay general.
  induction entries generalizing weights with
  | nil => exact .inl ⟨⟨weights, rfl⟩, List.forall_mem_nil _⟩
  | cons first rest ih =>
    rcases isUsable_or_fault first with hfirst | ⟨e, he⟩
    · obtain ⟨w, hw⟩ := hfirst.exists_applyWeights_cons weights
      rcases ih w with ⟨hok, hrest⟩ | ⟨e, before, entry, after, rfl, hbefore, he⟩
      · rw [← hw rest] at hok
        exact .inl ⟨hok, List.forall_mem_cons.2 ⟨hfirst, hrest⟩⟩
      · exact .inr ⟨e, first :: before, entry, after, rfl,
          List.forall_mem_cons.2 ⟨hfirst, hbefore⟩, he⟩
    · exact .inr ⟨e, [], first, rest, rfl, List.forall_mem_nil _, he⟩

theorem exists_applyWeights_eq_ok_iff :
    (∃ w, applyWeights weights entries = .ok w) ↔ ∀ x ∈ entries, IsUsable x := by
  rcases applyWeights_cases weights entries with
    ⟨hok, hall⟩ | ⟨e, before, entry, after, rfl, hbefore, he⟩
  · exact iff_of_true hok hall
  · refine iff_of_false ?_ fun hall => he.not_isUsable (hall entry (by simp))
    rintro ⟨w, hw⟩
    rw [applyWeights_of_fault hbefore he] at hw
    cases hw

theorem applyWeights_eq_error_iff : applyWeights weights entries = .error e ↔
    ∃ before entry after, entries = before ++ entry :: after ∧ (∀ x ∈ before, IsUsable x) ∧
      WeightFault entry e := by
  constructor
  · intro h
    rcases applyWeights_cases weights entries with
      ⟨⟨w, hw⟩, -⟩ | ⟨e', before, entry, after, rfl, hbefore, he⟩
    · rw [hw] at h
      cases h
    · obtain rfl := Except.error.inj ((applyWeights_of_fault hbefore he weights).symm.trans h)
      exact ⟨before, entry, after, rfl, hbefore, he⟩
  · rintro ⟨before, entry, after, rfl, hbefore, he⟩
    exact applyWeights_of_fault hbefore he weights

/-! ## All settings -/

/-- What is in use is the stored value or the default one, and is fit for its use. -/
structure ChecksValues (s : Settings) : Prop where
  /-- The interval of a policy is not zero and no longer than the timeout. -/
  policy_iff : ∀ p, s.policy = .ok p ↔ p.timeout = s.timeoutInUse ∧ p.interval = s.intervalInUse ∧
    Span.zero < p.interval ∧ p.interval ≤ p.timeout
  /-- The hours of a month are finite and positive. -/
  hours_iff : ∀ x, s.hoursPerMonth = .ok x ↔
    x = (s.pricing.bind PricingSection.hoursPerMonth).getD Provisioning.hoursPerMonth ∧
      x.isFinite = true ∧ Binary64.zero.lt x = true
  /-- A commitment is one of at least a month. -/
  commitment_iff : ∀ months, s.commitment = .ok months ↔
    months = s.pricing.bind PricingSection.commitmentMonths ∧ ∀ n ∈ months, 1 ≤ n
  /-- There are weights if all stored entries can be used. -/
  weights_iff : (∃ w, s.scoreWeights = .ok w) ↔ ∀ entry ∈ s.storedWeights, IsUsable entry
  /-- They are finite and not negative, the default ones among them too. -/
  weights_fit : ∀ w, s.scoreWeights = .ok w → ∀ d : Dimension,
    (w.get d).isFinite = true ∧ Binary64.zero.le (w.get d) = true
  /-- Otherwise the fault is that of the first entry that cannot be used. -/
  weights_refused_iff : ∀ e, s.scoreWeights = .error e ↔
    ∃ before entry after, s.storedWeights = before ++ entry :: after ∧
      (∀ x ∈ before, IsUsable x) ∧ WeightFault entry e

/-- **Nothing is used unchecked**, whatever the settings hold. -/
theorem checksValues (s : Settings) : s.ChecksValues where
  policy_iff _ := policy_eq_ok_iff
  hours_iff _ := hoursPerMonth_eq_ok_iff.trans (and_congr_right fun _ => Bool.and_eq_true_iff)
  commitment_iff _ := commitment_eq_ok_iff
  weights_iff := exists_applyWeights_eq_ok_iff
  weights_fit _ h d := isWeight_iff.1 (isWeight_of_scoreWeights h d)
  weights_refused_iff _ := applyWeights_eq_error_iff

end Provisioning.Settings

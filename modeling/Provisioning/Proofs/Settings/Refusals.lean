import Provisioning.Proofs.Settings.Checks
import Provisioning.Proofs.Settings.Writes
import Provisioning.Settings.Document

/-!
# Writes that are refused

A write has its effect as a whole or none at all. It is refused for a key that names no setting, else
for a text that is no value of the setting, else because timeout and interval would not go together with
the value. The last fault shows only after the value has been put in, and is the one for which something
has to be put back: the section of polls, or its absence.

None of this asks for settings that are sound. In particular a timeout is refused as long as an interval
of zero is stored, and the settings then keep that interval.

## Main definitions

* `Settings.Refuses`: why a write is refused
* `Settings.WritesWhole`: a write that is refused changes nothing, and any other one setting only

## Main results

* `Settings.write_eq_ok_iff`, `Settings.write_eq_error_iff`: what a write answers and leaves
* `Settings.writesWhole`: so it is for all settings, keys and texts
-/

namespace Provisioning.Settings

open Text

variable {s t t' : Settings} {k : SettingKey} {v : SettingValue} {text key value : String}
  {e : SettingsError}

/-! ## Assignments -/

/-- A text is assigned to a setting if it is a value of it. -/
theorem isSome_assign? (s : Settings) (text : String) (k : SettingKey) :
    (s.assign? text k).isSome = (k.valueOf? text).isSome := by
  cases k <;> exact (Option.isSome_map ..).trans (Option.isSome_map ..).symm

theorem assign?_eq_none_iff : s.assign? text k = none ↔ k.valueOf? text = none := by
  rw [← Option.isNone_iff_eq_none, ← Option.isNone_iff_eq_none, ← Option.not_isSome,
    ← Option.not_isSome, isSome_assign?]

/-- Settings with the same values have the same policy. -/
theorem policy_eq_of_stored? (h : ∀ k, t.stored? k = t'.stored? k) : t.policy = t'.policy := by
  have hseconds {o o' : Option UInt64} (h : o.map SettingValue.seconds = o'.map .seconds) : o = o' :=
    Option.map_injective (fun _ _ => SettingValue.seconds.inj) h
  rw [policy_eq_mapError, policy_eq_mapError]
  unfold timeoutInUse intervalInUse
  rw [hseconds (h .timeout), hseconds (h .interval)]

theorem Updated.policy_eq (h : Updated k v s t) (h' : Updated k v s t') : t.policy = t'.policy := by
  refine policy_eq_of_stored? fun k' => ?_
  by_cases hk : k' = k
  · rw [hk, h.stored, h'.stored]
  · rw [h.others k' hk, h'.others k' hk]

/-! ## Faults -/

/-- Why a write is refused: the first of its faults. -/
inductive Refuses (s : Settings) (key value : String) : SettingsError → Prop
  /-- The key names no setting. -/
  | unknownKey (h : ∀ k : SettingKey, ¬ k.IsKey key) : Refuses s key value (.unknownKey key)
  /-- The text, blanks around it aside, is no value of the setting. -/
  | invalidValue {k : SettingKey} (hk : k.IsKey key) (h : k.valueOf? (trim value) = none) :
      Refuses s key value (.invalidValue key value)
  /-- The settings with the value have no policy. -/
  | policy {k : SettingKey} {v : SettingValue} {t : Settings} {e : SettingsError} (hk : k.IsKey key)
      (hpoll : isPollKey k = true) (hv : k.valueOf? (trim value) = some v) (ht : Updated k v s t)
      (he : t.policy = .error e) : Refuses s key value e

/-- A write that is refused leaves the settings as they were. -/
theorem Refuses.write_eq (h : s.Refuses key value e) : s.write key value = (.error e, s) := by
  unfold write
  cases h with
  | unknownKey h => rw [SettingKey.read?_eq_none_iff.2 h]
  | invalidValue hk h => simp only [hk.read?_eq, assign?_eq_none_iff.2 h]
  | @policy k v t _ hk hpoll hv ht he =>
    obtain ⟨t', hassign⟩ : ∃ t', s.assign? (trim value) k = some t' := by
      rw [← Option.isSome_iff_exists, isSome_assign?, hv]
      rfl
    obtain ⟨v', hv', ht'⟩ := updated_of_assign hassign
    obtain rfl : v = v' := Option.some.inj (hv.symm.trans hv')
    -- The value has been put in when the fault shows, and is taken back.
    simp only [hk.read?_eq, hassign, hpoll, if_true, ht'.policy_eq ht, he, putBack_poll hassign hpoll]

/-- A write is refused for a fault, or assigns the value of the text. -/
theorem refuses_or_assigns (s : Settings) (key value : String) : (∃ e, s.Refuses key value e) ∨
    ∃ k t, k.IsKey key ∧ s.assign? (trim value) k = some t ∧
      (isPollKey k = true → ∃ p, t.policy = .ok p) := by
  -- The cases follow the order of the checks: the key, the text, and then the policy.
  by_cases hkey : ∃ k : SettingKey, k.IsKey key
  · obtain ⟨k, hk⟩ := hkey
    cases hassign : s.assign? (trim value) k with
    | none => exact .inl ⟨_, .invalidValue hk (assign?_eq_none_iff.1 hassign)⟩
    | some t =>
      obtain ⟨v, hv, ht⟩ := updated_of_assign hassign
      cases hpolicy : t.policy with
      | ok p => exact .inr ⟨k, t, hk, hassign, fun _ => ⟨p, hpolicy⟩⟩
      | error e =>
        by_cases hpoll : isPollKey k = true
        · exact .inl ⟨e, .policy hk hpoll hv ht hpolicy⟩
        · exact .inr ⟨k, t, hk, hassign, fun h => absurd h hpoll⟩
  · exact .inl ⟨_, .unknownKey (not_exists.1 hkey)⟩

/-! ## Writes -/

theorem write_of_assign (hk : k.IsKey key) (h : s.assign? (trim value) k = some t)
    (hpolicy : isPollKey k = true → ∃ p, t.policy = .ok p) : s.write key value = (.ok (), t) := by
  unfold write
  simp only [hk.read?_eq, h]
  split
  · next hpoll =>
    obtain ⟨p, hp⟩ := hpolicy hpoll
    rw [hp]
  · rfl

theorem write_eq_ok_iff : s.write key value = (.ok (), t) ↔
    ∃ k, k.IsKey key ∧ s.assign? (trim value) k = some t ∧
      (isPollKey k = true → ∃ p, t.policy = .ok p) := by
  constructor
  · intro h
    rcases s.refuses_or_assigns key value with ⟨e, he⟩ | ⟨k, t', hk, hassign, hpolicy⟩
    · cases he.write_eq.symm.trans h
    · cases (write_of_assign hk hassign hpolicy).symm.trans h
      exact ⟨k, hk, hassign, hpolicy⟩
  · rintro ⟨k, hk, hassign, hpolicy⟩
    exact write_of_assign hk hassign hpolicy

theorem write_eq_error_iff : s.write key value = (.error e, t) ↔ s.Refuses key value e ∧ t = s := by
  constructor
  · intro h
    rcases s.refuses_or_assigns key value with ⟨e', he⟩ | ⟨k, t', hk, hassign, hpolicy⟩
    · cases he.write_eq.symm.trans h
      exact ⟨he, rfl⟩
    · cases (write_of_assign hk hassign hpolicy).symm.trans h
  · rintro ⟨he, rfl⟩
    exact he.write_eq

/-! ## All settings -/

/-- What a write of a text for a key does, whatever the settings hold. -/
structure WritesWhole (s : Settings) (key value : String) : Prop where
  /-- It is refused for the first of its faults. -/
  refused_iff : ∀ e, (s.write key value).1 = .error e ↔ s.Refuses key value e
  /-- Then all sections are what they were, and missing if they were missing, and the same document is
  shown. -/
  unchanged : ∀ e, (s.write key value).1 = .error e →
    (s.write key value).2 = s ∧ (s.write key value).2.shown = s.shown
  /-- Otherwise the setting of the key has the value of the text, and nothing else is changed. -/
  written : (s.write key value).1 = .ok () → ∃ k v, k.IsKey key ∧ k.valueOf? (trim value) = some v ∧
    Updated k v s (s.write key value).2

/-- **A write has its effect as a whole or none at all**, whatever the settings hold. -/
theorem writesWhole (s : Settings) (key value : String) : s.WritesWhole key value where
  refused_iff e := by
    constructor
    · intro h
      exact (write_eq_error_iff.1 (Prod.ext h rfl)).1
    · intro h
      rw [h.write_eq]
  unchanged e h := by
    have hsame : (s.write key value).2 = s := (write_eq_error_iff.1 (Prod.ext h rfl)).2
    exact ⟨hsame, congrArg shown hsame⟩
  written h := by
    obtain ⟨k, hk, hassign, -⟩ := write_eq_ok_iff.1 (Prod.ext h rfl)
    obtain ⟨v, hv, hupdated⟩ := updated_of_assign hassign
    exact ⟨k, v, hk, hv, hupdated⟩

/-- A timeout shorter than the default interval leaves no section of polls behind. -/
example : (write {} "poll.timeout_secs" "9").2.poll = none ∧
    (write {} "poll.timeout_secs" "10").2.poll = some { timeoutSecs := some 10 } := by
  decide +kernel

end Provisioning.Settings

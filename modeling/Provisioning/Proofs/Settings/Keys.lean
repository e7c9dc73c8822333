import Provisioning.Proofs.Network.Notation
import Provisioning.Settings.Keys

/-!
# The keys of settings

Each setting has one key, save for the weights: the name of a dimension may be written in any case and
with blanks around it. A text that is none of these keys names no setting, even if it starts like one,
has more dots, or differs in case or blanks elsewhere.

The grammar lists the keys as whole texts. It does not say where a key is cut, and so it need not say
that the cut is at the first dot, or that neither part may be empty.

## Main definitions

* `Dimension.IsNamed`: the names of a dimension
* `SettingKey.IsKey`: the keys of a setting

## Main results

* `SettingKey.read?_eq_some_iff`, `SettingKey.read?_eq_none_iff`: the keys that are accepted
* `Settings.get_eq_error_iff`, `Settings.get_eq_ok_iff`: what is shown under a key
-/

namespace Provisioning

open Text

variable {name key : String} {d : Dimension} {k : SettingKey}

/-! ## Names of dimensions -/

/-- The names of a dimension: blanks at the ends and case aside, its own one. -/
def Dimension.IsNamed (d : Dimension) (name : String) : Prop := toLower (trim name) = d.key

instance (d : Dimension) (name : String) : Decidable (d.IsNamed name) :=
  inferInstanceAs (Decidable (_ = _))

theorem Dimension.find?_all_eq_some_iff :
    Dimension.all.find? (fun e => e.key == name) = some d ↔ name = d.key := by
  constructor
  · intro h
    have hkey : (d.key == name) = true := by simpa using List.find?_some h
    exact (eq_of_beq hkey).symm
  · rintro rfl
    -- No two dimensions have one key.
    cases d <;> rfl

theorem Dimension.read?_eq_some_iff : Dimension.read? name = some d ↔ d.IsNamed name := by
  unfold Dimension.read? Dimension.IsNamed
  exact Dimension.find?_all_eq_some_iff

theorem Dimension.read?_eq_none_iff :
    Dimension.read? name = none ↔ ∀ d : Dimension, ¬ d.IsNamed name := by
  simp only [Option.eq_none_iff_forall_ne_some, ne_eq, Dimension.read?_eq_some_iff]

/-! ## Keys -/

namespace SettingKey

/-- The keys of a setting. -/
inductive IsKey : SettingKey → String → Prop
  | timeout : IsKey .timeout "poll.timeout_secs"
  | interval : IsKey .interval "poll.interval_secs"
  | hours : IsKey .hours "pricing.hours_per_month"
  | commitment : IsKey .commitment "pricing.commitment_months"
  | weight {d : Dimension} {name : String} (h : d.IsNamed name) :
      IsKey (.weight d) ("weights." ++ name)

theorem isKey_of_read? (h : read? key = some k) : k.IsKey key := by
  unfold read? at h
  split at h
  · cases h
  next before after hcut =>
  have hkey : key = String.ofList before ++ "." ++ String.ofList after := by
    rw [← String.toList_inj]
    simpa using (splitFirst_eq_some_iff.1 hcut).2
  subst hkey
  split at h
  · cases h
  -- In each branch the parts are known, and with them the whole key.
  split at h
  · next hbefore hafter =>
    obtain rfl := Option.some.inj h
    rw [hbefore, hafter]
    exact .timeout
  · next hbefore hafter =>
    obtain rfl := Option.some.inj h
    rw [hbefore, hafter]
    exact .interval
  · next hbefore hafter =>
    obtain rfl := Option.some.inj h
    rw [hbefore, hafter]
    exact .hours
  · next hbefore hafter =>
    obtain rfl := Option.some.inj h
    rw [hbefore, hafter]
    exact .commitment
  · next hbefore =>
    obtain ⟨d, hd, rfl⟩ := Option.map_eq_some_iff.1 h
    rw [hbefore]
    exact .weight (Dimension.read?_eq_some_iff.1 hd)
  · cases h

theorem IsKey.read?_eq (h : k.IsKey key) : read? key = some k := by
  cases h with
  | timeout | interval | hours | commitment => rfl
  | @weight d name hname =>
    -- No dimension has the empty name, so something follows the dot.
    have hne : name.toList ≠ [] := by
      intro hnil
      obtain rfl := String.toList_eq_nil_iff.1 hnil
      revert hname
      cases d <;> decide +kernel
    have hcut : splitFirst '.' ("weights." ++ name).toList = some ("weights".toList, name.toList) := by
      rw [String.toList_append]
      exact splitFirst_eq_some_iff.2 ⟨by decide, rfl⟩
    unfold read?
    rw [hcut]
    simp only [List.isEmpty_iff, hne, String.ofList_toList, Bool.or_eq_true, or_false]
    rw [Dimension.read?_eq_some_iff.2 hname]
    rfl

/-- **A key is accepted if and only if it is one of the keys of a setting.** -/
theorem read?_eq_some_iff : read? key = some k ↔ k.IsKey key := ⟨isKey_of_read?, IsKey.read?_eq⟩

theorem read?_eq_none_iff : read? key = none ↔ ∀ k : SettingKey, ¬ k.IsKey key := by
  simp only [Option.eq_none_iff_forall_ne_some, ne_eq, read?_eq_some_iff]

/-- No key is that of two settings. -/
theorem IsKey.unique {k' : SettingKey} (h : k.IsKey key) (h' : k'.IsKey key) : k = k' :=
  Option.some.inj (h.read?_eq.symm.trans h'.read?_eq)

end SettingKey

/-- A key is cut at its first dot, and only what follows it may be written in another way. -/
example : SettingKey.read? "weights. GPU_Count " = some (.weight .gpuCount) ∧
    SettingKey.read? "Weights.gpu_count" = none ∧ SettingKey.read? "poll.timeout_secs " = none ∧
    SettingKey.read? "weights.gpu.count" = none ∧ SettingKey.read? "weights." = none := by
  decide +kernel

/-! ## What is shown -/

namespace Settings

variable {s : Settings} {e : SettingsError} {shown : Option String}

theorem get_of_isKey (hk : k.IsKey key) : s.get key = .ok (s.textOf k) := by
  rw [get, hk.read?_eq]

/-- The only fault of a key is that it names no setting. -/
theorem get_eq_error_iff : s.get key = .error e ↔
    e = .unknownKey key ∧ ∀ k : SettingKey, ¬ k.IsKey key := by
  rw [get, ← SettingKey.read?_eq_none_iff]
  cases SettingKey.read? key with
  | none => simp [eq_comm]
  | some k => simp

theorem get_eq_ok_iff : s.get key = .ok shown ↔ ∃ k : SettingKey, k.IsKey key ∧ s.textOf k = shown := by
  simp only [← SettingKey.read?_eq_some_iff]
  rw [get]
  cases SettingKey.read? key with
  | none => simp
  | some k => simp

end Settings

end Provisioning

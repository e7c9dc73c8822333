import Provisioning.Proofs.Settings.Refusals

/-!
# What was written is shown

A setting is shown as the text of its value. Each value can be read from its text again: whole numbers
are shown in their digits, and hours and weights, which are finite, in the digits of a shortest decimal.
So a setting can be written back as it is shown, and that changes nothing.

## Main definitions

* `SettingValue.text`: the text of a value
* `Settings.AnswersWrites`: what is shown under the keys before and after a write

## Main results

* `SettingKey.valueOf?_text`: a value is read from its text
* `Settings.assign?_of_stored?`: to assign the value that is stored changes nothing
* `Settings.answersWrites`: settings show what was written, and all else as before
-/

namespace Provisioning

open Text

/-! ## Texts of values -/

/-- The text of a value. -/
def SettingValue.text : SettingValue → String
  | .seconds n => toString n.toNat
  | .months n => toString n.toNat
  | .number x => x.text

variable {s t : Settings} {text key value : String} {k : SettingKey} {v : SettingValue}

namespace Settings

theorem readSeconds?_text (n : UInt64) : readSeconds? (trim (toString n.toNat)) = some n := by
  rw [readSeconds?, trim_toString, readNatural?_toString (Nat.le_of_lt_succ n.toNat_lt),
    Option.map_some, UInt64.ofNat_toNat]

theorem readMonths?_text (n : UInt32) : readMonths? (trim (toString n.toNat)) = some n := by
  rw [readMonths?, trim_toString, readNatural?_toString (Nat.le_of_lt_succ n.toNat_lt),
    Option.map_some, UInt32.ofNat_toNat]

theorem readNumber?_trim_text {x : Binary64} (hfinite : x.isFinite = true) :
    readNumber? (trim x.text) = some x := by
  rw [Binary64.trim_text hfinite, readNumber?_text hfinite]

/-- A value that is fit for its setting is one again if its text is read as it. -/
theorem IsKept.valueOf?_text {α : Type} {wrap : α → SettingValue} {read : String → Option α}
    {fit : α → Bool} {stored : Settings → Option α} (hk : IsKept k wrap read fit stored)
    (hread : ∀ a, fit a = true → read (trim (wrap a).text) = some a) (h : k.valueOf? text = some v) :
    k.valueOf? (trim v.text) = some v := by
  rw [hk.valueOf?_eq] at h ⊢
  obtain ⟨a, ha, rfl⟩ := Option.map_eq_some_iff.1 h
  have hfit : fit a = true := (Option.filter_eq_some_iff.1 ha).2
  rw [hread a hfit, Option.filter_some, if_pos hfit, Option.map_some]

end Settings

/-- **A value is read from its text.** -/
theorem SettingKey.valueOf?_text (h : k.valueOf? text = some v) :
    k.valueOf? (trim v.text) = some v := by
  cases k with
  | timeout => exact Settings.isKept_timeout.valueOf?_text (fun n _ => Settings.readSeconds?_text n) h
  | interval => exact Settings.isKept_interval.valueOf?_text (fun n _ => Settings.readSeconds?_text n) h
  | hours =>
    refine Settings.isKept_hours.valueOf?_text (fun x hx => ?_) h
    exact Settings.readNumber?_trim_text (Bool.and_eq_true_iff.1 hx).1
  | commitment =>
    exact Settings.isKept_commitment.valueOf?_text (fun n _ => Settings.readMonths?_text n) h
  | weight d =>
    refine (Settings.isKept_weight d).valueOf?_text (fun x hx => ?_) h
    exact Settings.readNumber?_trim_text (Bool.and_eq_true_iff.1 hx).1

namespace Settings

/-- A setting is shown as the text of its value. -/
theorem textOf_eq_map (s : Settings) (k : SettingKey) :
    s.textOf k = (s.stored? k).map SettingValue.text := by
  unfold textOf stored?
  cases k <;> rw [Option.map_map] <;> rfl

/-! ## Writing back -/

theorem IsKept.read_and_stored {α : Type} {wrap : α → SettingValue} {read : String → Option α}
    {fit : α → Bool} {stored : Settings → Option α} (hk : IsKept k wrap read fit stored)
    (hv : k.valueOf? text = some v) (h : s.stored? k = some v) :
    ∃ a, read text = some a ∧ fit a = true ∧ stored s = some a := by
  rw [hk.valueOf?_eq] at hv
  rw [hk.stored?_eq] at h
  obtain ⟨a, ha, rfl⟩ := Option.map_eq_some_iff.1 hv
  obtain ⟨b, hb, heq⟩ := Option.map_eq_some_iff.1 h
  obtain rfl := hk.injective heq
  obtain ⟨hread, hfit⟩ := Option.filter_eq_some_iff.1 ha
  exact ⟨b, hread, hfit, hb⟩

/-- To assign the value that is stored changes nothing. -/
theorem assign?_of_stored? (hv : k.valueOf? text = some v) (h : s.stored? k = some v) :
    s.assign? text k = some s := by
  obtain ⟨poll, pricing, weights⟩ := s
  -- The section of a stored value is there already.
  cases k with
  | timeout =>
    obtain ⟨n, hread, -, hs⟩ := isKept_timeout.read_and_stored hv h
    obtain ⟨⟨_, _⟩, rfl, hp⟩ := Option.bind_eq_some_iff.1 hs
    cases hp
    rw [assign?, hread]
    rfl
  | interval =>
    obtain ⟨n, hread, hfit, hs⟩ := isKept_interval.read_and_stored hv h
    obtain ⟨⟨_, _⟩, rfl, hp⟩ := Option.bind_eq_some_iff.1 hs
    cases hp
    rw [assign?, hread, Option.filter_some, if_pos hfit]
    rfl
  | hours =>
    obtain ⟨x, hread, hfit, hs⟩ := isKept_hours.read_and_stored hv h
    obtain ⟨⟨_, _⟩, rfl, hp⟩ := Option.bind_eq_some_iff.1 hs
    cases hp
    rw [assign?, hread, Option.filter_some, if_pos hfit]
    rfl
  | commitment =>
    obtain ⟨n, hread, hfit, hs⟩ := isKept_commitment.read_and_stored hv h
    obtain ⟨⟨_, _⟩, rfl, hp⟩ := Option.bind_eq_some_iff.1 hs
    cases hp
    rw [assign?, hread, Option.filter_some, if_pos hfit]
    rfl
  | weight d =>
    obtain ⟨x, hread, hfit, hs⟩ := (isKept_weight d).read_and_stored hv h
    obtain ⟨m, rfl, hm⟩ := Option.bind_eq_some_iff.1 hs
    rw [assign?, hread, Option.filter_some, if_pos hfit, Option.map_some, Option.getD_some,
      SortedMap.insert_of_get? hm]

/-- What is written back as it is shown is accepted. -/
theorem write_of_stored? (hk : k.IsKey key) (hv : k.valueOf? text = some v) (h : s.stored? k = some v)
    (hpolicy : isPollKey k = true → ∃ p, s.policy = .ok p) : s.write key v.text = (.ok (), s) :=
  write_of_assign hk (assign?_of_stored? (SettingKey.valueOf?_text hv) h) hpolicy

/-! ## All settings -/

/-- What is shown under the keys before and after a write for one of them. -/
structure AnswersWrites (s : Settings) (key : String) : Prop where
  /-- The key is refused as unknown when it is read if it is when it is written, whatever the text. -/
  unknown_iff : ∀ name, s.get key = .error (.unknownKey name) ↔
    ∀ value, (s.write key value).1 = .error (.unknownKey name)
  /-- That is so for the texts that are no key of a setting, and there is no other error. -/
  get_error_iff : ∀ e, s.get key = .error e ↔ e = .unknownKey key ∧ ∀ k : SettingKey, ¬ k.IsKey key
  /-- After a write the key has the text of the value, this text can be written without any effect, and
  what is shown under the keys of other settings is as before. -/
  written : ∀ value t, s.write key value = (.ok (), t) → ∃ (k : SettingKey) (v : SettingValue),
    k.IsKey key ∧ k.valueOf? (trim value) = some v ∧ t.get key = .ok (some v.text) ∧
      t.write key v.text = (.ok (), t) ∧ ∀ other, ¬ k.IsKey other → t.get other = s.get other

theorem get_eq_of_not_isKey (h : Updated k v s t) (hk : ¬ k.IsKey key) : t.get key = s.get key := by
  by_cases hkey : ∃ k' : SettingKey, k'.IsKey key
  · obtain ⟨k', hk'⟩ := hkey
    have hne : k' ≠ k := fun heq => hk (heq ▸ hk')
    rw [get_of_isKey hk', get_of_isKey hk', textOf_eq_map, textOf_eq_map, h.others k' hne]
  · have hunknown := not_exists.1 hkey
    rw [get_eq_error_iff.2 ⟨rfl, hunknown⟩, get_eq_error_iff.2 ⟨rfl, hunknown⟩]

/-- The empty text is no value. -/
theorem valueOf?_empty (k : SettingKey) : k.valueOf? (trim "") = none := by
  have hnumber : readNumber? (trim "") = none := by decide +kernel
  cases k with
  | timeout | interval | commitment => decide +kernel
  | hours | weight d =>
    rw [SettingKey.valueOf?, hnumber]
    rfl

theorem unknownKey_iff {name : String} : s.get key = .error (.unknownKey name) ↔
    ∀ value, (s.write key value).1 = .error (.unknownKey name) := by
  rw [get_eq_error_iff]
  constructor
  · rintro ⟨hname, hunknown⟩ value
    rw [(Refuses.unknownKey hunknown).write_eq, hname]
  · intro h
    -- For the key of a setting the empty text is refused as a text.
    cases (write_eq_error_iff.1 (Prod.ext (h "") rfl)).1 with
    | unknownKey hunknown => exact ⟨rfl, hunknown⟩
    | @policy k v _ _ _ _ hv _ _ =>
      rw [valueOf?_empty] at hv
      cases hv

/-- **Settings show what was written, and all else as before**, whatever they hold. -/
theorem answersWrites (s : Settings) (key : String) : s.AnswersWrites key where
  unknown_iff _ := unknownKey_iff
  get_error_iff _ := get_eq_error_iff
  written value t h := by
    obtain ⟨k, hk, hassign, hpolicy⟩ := write_eq_ok_iff.1 h
    obtain ⟨v, hv, hupdated⟩ := updated_of_assign hassign
    refine ⟨k, v, hk, hv, get_eq_ok_iff.2 ⟨k, hk, ?_⟩,
      write_of_stored? hk hv hupdated.stored hpolicy, fun other => get_eq_of_not_isKey hupdated⟩
    rw [textOf_eq_map, hupdated.stored, Option.map_some]

end Settings

end Provisioning

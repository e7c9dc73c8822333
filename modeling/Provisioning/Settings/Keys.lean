import Provisioning.Decimal.Reading
import Provisioning.Network.Cidr
import Provisioning.Settings.Data

/-!
# Settings by key

Each setting has a key of two parts with a dot between them.

## Main definitions

* `SettingKey`, `SettingKey.read?`: the settings, and the setting of a key
* `Settings.get`: the text of a setting
* `Settings.write`: sets a setting to the value of a text
* `Settings.set`: the settings after that
-/

namespace Provisioning

open Text

/-- A setting. -/
inductive SettingKey where
  | timeout
  | interval
  | hours
  | commitment
  | weight (dimension : Dimension)
deriving DecidableEq

/-- The setting of a key. The key is cut at its first dot, and neither part may be empty. -/
def SettingKey.read? (key : String) : Option SettingKey :=
  match splitFirst '.' key.toList with
  | none => none
  | some (before, after) =>
    if before.isEmpty || after.isEmpty then none
    else
      match String.ofList before, String.ofList after with
      | "poll", "timeout_secs" => some .timeout
      | "poll", "interval_secs" => some .interval
      | "pricing", "hours_per_month" => some .hours
      | "pricing", "commitment_months" => some .commitment
      | "weights", name => (Dimension.read? name).map .weight
      | _, _ => none

namespace Settings

/-- The text of a setting, if it is stored. -/
def textOf (s : Settings) : SettingKey → Option String
  | .timeout => (s.poll.bind PollSection.timeoutSecs).map fun n => toString n.toNat
  | .interval => (s.poll.bind PollSection.intervalSecs).map fun n => toString n.toNat
  | .hours => (s.pricing.bind PricingSection.hoursPerMonth).map Binary64.text
  | .commitment => (s.pricing.bind PricingSection.commitmentMonths).map fun n => toString n.toNat
  | .weight d => (s.weights.bind fun weights => weights.get? d.key).map Binary64.text

/-- The text of the setting of a key, if it is stored. -/
def get (s : Settings) (key : String) : Except SettingsError (Option String) :=
  match SettingKey.read? key with
  | none => .error (.unknownKey key)
  | some k => .ok (s.textOf k)

/-- A number of seconds. -/
def readSeconds? (text : String) : Option UInt64 :=
  (readNatural? 0xFFFFFFFFFFFFFFFF text).map UInt64.ofNat

/-- A number of months. -/
def readMonths? (text : String) : Option UInt32 :=
  (readNatural? 0xFFFFFFFF text).map UInt32.ofNat

/-- The settings with one set to the value of a text, if it is a value for it. -/
def assign? (s : Settings) (text : String) : SettingKey → Option Settings
  | .timeout =>
    (readSeconds? text).map fun n =>
      { s with poll := some { s.poll.getD {} with timeoutSecs := some n } }
  | .interval =>
    ((readSeconds? text).filter (0 < ·)).map fun n =>
      { s with poll := some { s.poll.getD {} with intervalSecs := some n } }
  | .hours =>
    ((readNumber? text).filter isHours).map fun x =>
      { s with pricing := some { s.pricing.getD {} with hoursPerMonth := some x } }
  | .commitment =>
    ((readMonths? text).filter (0 < ·)).map fun n =>
      { s with pricing := some { s.pricing.getD {} with commitmentMonths := some n } }
  | .weight d =>
    ((readNumber? text).filter isWeight).map fun x =>
      { s with weights := some ((s.weights.getD .empty).insert d.key x) }

/-- Whether a setting is one of those that only together make a policy. -/
def isPollKey : SettingKey → Bool
  | .timeout | .interval => true
  | _ => false

/-- Sets the setting of a key to the value of a text, blanks around it aside. Timeout and interval
must go together afterwards; if they do not, the section of polls is put back. -/
def write (s : Settings) (key value : String) : Except SettingsError Unit × Settings :=
  match SettingKey.read? key with
  | none => (.error (.unknownKey key), s)
  | some k =>
    match s.assign? (trim value) k with
    | none => (.error (.invalidValue key value), s)
    | some changed =>
      -- The other settings are sound by themselves.
      if isPollKey k then
        match changed.policy with
        | .ok _ => (.ok (), changed)
        | .error e => (.error e, { changed with poll := s.poll })
      else (.ok (), changed)

/-- The settings with the one of a key set, if it can be. -/
def set (s : Settings) (key value : String) : Except SettingsError Settings :=
  let (answer, changed) := s.write key value
  answer.map fun _ => changed

end Settings

end Provisioning

import Provisioning.Data.SortedMap
import Provisioning.Poll.Policy
import Provisioning.Template.Score

/-!
# Settings

The settings that a user can store. Every one may be missing and then has a default.

## Main definitions

* `PollSection`, `PricingSection`, `Settings`: the sections
* `SettingsError`: why settings are refused
* `Settings.policy`, `Settings.hoursPerMonth`, `Settings.commitment`, `Settings.scoreWeights`: the
  values in use, checked
-/

namespace Provisioning

/-- The settings of polls, in seconds. -/
structure PollSection where
  timeoutSecs : Option UInt64 := none
  intervalSecs : Option UInt64 := none
deriving DecidableEq

/-- The settings of prices. -/
structure PricingSection where
  hoursPerMonth : Option Binary64 := none
  commitmentMonths : Option UInt32 := none
deriving DecidableEq

/-- All settings, by section. -/
structure Settings where
  poll : Option PollSection := none
  pricing : Option PricingSection := none
  /-- Weights by the name of their dimension; any name may stand in a file. -/
  weights : Option (SortedMap String Binary64) := none
deriving DecidableEq

/-- Whether two values that may be missing are both missing or both there and alike. -/
def bothAlike {α : Type} (alike : α → α → Bool) : Option α → Option α → Bool
  | none, none => true
  | some a, some b => alike a b
  | _, _ => false

/-- Whether the sections of prices hold equal numbers; a number that is none equals no number. -/
def PricingSection.alike (p q : PricingSection) : Bool :=
  bothAlike Binary64.eq p.hoursPerMonth q.hoursPerMonth &&
    p.commitmentMonths == q.commitmentMonths

/-- Whether the sections of weights hold the same names with equal numbers. -/
def weightsAlike (v w : SortedMap String Binary64) : Bool :=
  v.toList.length == w.toList.length &&
    (v.toList.zip w.toList).all fun (a, b) => a.1 == b.1 && a.2.eq b.2

/-- Whether two settings hold equal values, numbers compared by their size. -/
def Settings.alike (s t : Settings) : Bool :=
  s.poll == t.poll && bothAlike PricingSection.alike s.pricing t.pricing &&
    bothAlike weightsAlike s.weights t.weights

/-- Why settings are refused. -/
inductive SettingsError where
  /-- The key names no setting. -/
  | unknownKey (key : String)
  /-- The value is not one for the setting. -/
  | invalidValue (field value : String)
  /-- The directory of the settings cannot be made. -/
  | directoryFailed (reason : String)
  /-- The file cannot be read as settings, or the settings cannot be written. -/
  | document (reason : String)
  /-- Timeout and interval do not go together. -/
  | policy (e : Poll.PolicyError)
deriving DecidableEq

/-- The wording of an error. -/
def SettingsError.message : SettingsError → String
  | .unknownKey key => "Config error: Unknown configuration key: " ++ key
  | .invalidValue field value => "Config error: Invalid value for " ++ field ++ ": " ++ value
  | .directoryFailed reason => "Config error: Config directory creation failed: " ++ reason
  | .document reason => "Config error: TOML parsing error: " ++ reason
  | .policy e => "Utils error: " ++ e.message

/-- Whether a number may be the hours of a month: finite and above zero. -/
def isHours (x : Binary64) : Bool := x.isFinite && Binary64.zero.lt x

/-- Whether a number may be a weight: finite and not below zero. -/
def isWeight (x : Binary64) : Bool := x.isFinite && Binary64.zero.le x

namespace Settings

/-- The poll policy: the stored seconds, or the default ones. -/
def policy (s : Settings) : Except SettingsError Poll.Policy :=
  let stored := s.poll.getD {}
  let timeout := stored.timeoutSecs.elim Poll.Policy.default.timeout Span.ofSeconds
  let interval := stored.intervalSecs.elim Poll.Policy.default.interval Span.ofSeconds
  match Poll.Policy.make timeout interval with
  | .ok p => .ok p
  | .error e => .error (.policy e)

/-- The hours that a month counts. -/
def hoursPerMonth (s : Settings) : Except SettingsError Binary64 :=
  match s.pricing.bind PricingSection.hoursPerMonth with
  | none => .ok Provisioning.hoursPerMonth
  | some hours =>
    if isHours hours then .ok hours
    else .error (.invalidValue "pricing.hours_per_month" hours.text)

/-- The months of commitment. -/
def commitment (s : Settings) : Except SettingsError (Option UInt32) :=
  match s.pricing.bind PricingSection.commitmentMonths with
  | none => .ok none
  | some months =>
    if months = 0 then .error (.invalidValue "pricing.commitment_months" "0")
    else .ok (some months)

/-- The weights with some entries applied to them, up to the first that is refused. -/
def applyWeights (weights : Weights) : List (String × Binary64) → Except SettingsError Weights
  | [] => .ok weights
  | (name, x) :: rest =>
    let field := "weights." ++ name
    match Dimension.read? name with
    | none => .error (.unknownKey field)
    | some d =>
      if isWeight x then applyWeights (weights.set d x) rest
      else .error (.invalidValue field x.text)

/-- The default weights with the stored ones applied to them. -/
def scoreWeights (s : Settings) : Except SettingsError Weights :=
  applyWeights .default ((s.weights.map SortedMap.toList).getD [])

end Settings

end Provisioning

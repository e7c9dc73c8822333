import Provisioning.Settings.Data
import Provisioning.Toml.Reading
import Provisioning.Toml.Writing

/-!
# Settings as a document

## Main definitions

* `Settings.toText?`: the document of settings, if their numbers fit one
* `Settings.ofText?`: the settings of a document
-/

namespace Provisioning

open Toml

namespace Settings

/-! ## Writing -/

/-- The text of a number of seconds; a document holds integers below `2^63` only. -/
def secondsText? (n : UInt64) : Option String :=
  if n.toNat < Toml.integerLimit then some (toString n.toNat) else none

/-- The entry of a setting that is stored. -/
def entry {α : Type} (key : String) (text : α → Option String) :
    Option α → Option (List (String × String))
  | none => some []
  | some a => (text a).map fun t => [(key, t)]

/-- The section of polls. -/
def pollText? (p : PollSection) : Option String := do
  let timeout ← entry "timeout_secs" secondsText? p.timeoutSecs
  let interval ← entry "interval_secs" secondsText? p.intervalSecs
  return sectionText "poll" (timeout ++ interval)

/-- The section of prices. -/
def pricingText? (p : PricingSection) : Option String := do
  let hours ← entry "hours_per_month" (fun x => some (numberText x)) p.hoursPerMonth
  let months ← entry "commitment_months" (fun n : UInt32 => some (toString n.toNat))
    p.commitmentMonths
  return sectionText "pricing" (hours ++ months)

/-- The section of weights, names in order. -/
def weightsText? (w : SortedMap String Binary64) : Option String :=
  some (sectionText "weights" (w.toList.map fun (name, x) => (name, numberText x)))

/-- The text of a section that is stored. -/
def sectionOf? {α : Type} (text : α → Option String) : Option α → Option (List String)
  | none => some []
  | some a => (text a).map ([·])

/-- The document of settings: the sections that are stored, with empty lines between them. -/
def toText? (s : Settings) : Option String := do
  let poll ← sectionOf? pollText? s.poll
  let pricing ← sectionOf? pricingText? s.pricing
  let weights ← sectionOf? weightsText? s.weights
  return String.intercalate "\n" (poll ++ pricing ++ weights)

/-- The document of settings, or a remark that there is none. -/
def shown (s : Settings) : String := s.toText?.getD "Error formatting config"

/-! ## Reading -/

/-- A number of seconds. -/
def seconds? : Value → Option UInt64
  | .integer n => if 0 ≤ n then some (UInt64.ofNat n.toNat) else none
  | _ => none

/-- A number of months. -/
def months? : Value → Option UInt32
  | .integer n => if 0 ≤ n ∧ n < 0x100000000 then some (UInt32.ofNat n.toNat) else none
  | _ => none

/-- A number, whole or not. -/
def number? : Value → Option Binary64
  | .integer n => some (.ofInt n)
  | .float x => some x
  | _ => none

/-- A setting that may be missing, but is not of another form. -/
def optional? {α : Type} (read : Value → Option α) : Option Value → Option (Option α)
  | none => some none
  | some v => (read v).map some

/-- A section of two settings: a table, in which other entries do not count, or an array of both in
their order. A date has none of them. -/
def pair? {α β γ : Type} (first second : String) (readFirst : Value → Option α)
    (readSecond : Value → Option β) (make : Option α → Option β → γ) : Value → Option γ
  | .table entries => do
    let a ← optional? readFirst (lookup first entries)
    let b ← optional? readSecond (lookup second entries)
    return make a b
  | .array (x :: y :: _) => do
    let a ← readFirst x
    let b ← readSecond y
    return make (some a) (some b)
  -- A date reads as a table whose only entry is not known.
  | .moment => some (make none none)
  | _ => none

/-- The section of polls. -/
def poll? : Value → Option PollSection :=
  pair? "timeout_secs" "interval_secs" seconds? seconds? fun timeoutSecs intervalSecs =>
    { timeoutSecs, intervalSecs }

/-- The section of prices. -/
def pricing? : Value → Option PricingSection :=
  pair? "hours_per_month" "commitment_months" number? months? fun hoursPerMonth commitmentMonths =>
    { hoursPerMonth, commitmentMonths }

/-- The section of weights: a table of numbers. -/
def weights? : Value → Option (SortedMap String Binary64)
  | .table entries =>
    (entries.mapM fun entry => (number? entry.2).map fun x => (entry.1, x)).map .ofList
  | _ => none

/-- The settings of a document's entries; entries that are not known do not count. -/
def ofEntries? (entries : List (String × Value)) : Option Settings := do
  let poll ← optional? poll? (lookup "poll" entries)
  let pricing ← optional? pricing? (lookup "pricing" entries)
  let weights ← optional? weights? (lookup "weights" entries)
  return { poll, pricing, weights }

/-- The settings of a document. -/
def ofText? (text : String) : Option Settings := (readDocument? text).bind ofEntries?

end Settings

end Provisioning

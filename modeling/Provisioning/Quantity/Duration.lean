import Provisioning.Quantity.Scan
import Provisioning.Decimal.Reading
import Provisioning.Time.Span

/-!
# Durations

Durations in text: `500ms`, `30s`, `5m`, `1h`. A number without a unit counts seconds.

## Main definitions

* `DurationUnit`: the units
* `readDuration`: the span of a text
-/

namespace Provisioning

open Text

/-- The units of time. -/
inductive DurationUnit where
  | millisecond | second | minute | hour
deriving DecidableEq

namespace DurationUnit

/-- The case folding of a unit: the long s folds to `s`. -/
def foldCase (c : Char) : Char := if c = '\u017F' then 's' else asciiLower c

/-- The unit of a unit text after case folding. -/
def ofFolded? : List Char → Option DurationUnit
  | [] => some .second
  | ['s'] => some .second
  | ['m'] => some .minute
  | ['h'] => some .hour
  | ['m', 's'] => some .millisecond
  | _ => none

/-- The seconds in a number of units. -/
def toSeconds (x : Binary64) : DurationUnit → Binary64
  | .millisecond => x / Binary64.ofNat 1000
  | .second => x
  | .minute => x * Binary64.ofNat 60
  | .hour => x * Binary64.ofNat 3600

end DurationUnit

/-- The span that a text gives. A digit outside ASCII, a long s, or a number of seconds beyond the
longest span has the form of a duration and no value. -/
def readDuration (raw : String) : Except QuantityError Span :=
  match Quantity.ofChars? raw.toList with
  | none => .error (.malformedDuration raw)
  | some q =>
    match DurationUnit.ofFolded? (q.unit.map DurationUnit.foldCase) with
    | none => .error (.malformedDuration raw)
    | some unit =>
      match readNumber? (String.ofList q.number) with
      | some x =>
        -- Folding admits the form only: the unit itself is spelled in ASCII letters.
        if q.unit.contains '\u017F' then .error (.unusable raw)
        else
          match Span.ofSeconds? (unit.toSeconds x) with
          | some span => .ok span
          | none => .error (.unusable raw)
      | none => .error (.unusable raw)

end Provisioning

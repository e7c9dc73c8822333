import Provisioning.Text.Blank
import Provisioning.Text.DecimalDigit

/-!
# Written quantities

A quantity is a decimal number with a unit after it. Blanks may stand before, between and after the
two. The digits may be of any script here; a reader of the number takes ASCII digits only.

## Main definitions

* `Quantity`: the two parts of a written quantity
* `Quantity.ofChars?`: the grammar, units aside
* `QuantityError`: why a text is no size or duration
-/

namespace Provisioning

open Text

/-- A written quantity: the number as it stands, and the text after it without blanks around. -/
structure Quantity where
  /-- The digits, with at most one point between two of them. -/
  number : List Char
  /-- The text of the unit. -/
  unit : List Char

namespace Quantity

/-- The fraction at the head of a text, its point included, and the rest: a point counts only if a
digit follows it. -/
def splitFraction : List Char → List Char × List Char
  | '.' :: rest =>
    let digits := rest.takeWhile isDecimalDigit
    if digits.isEmpty then ([], '.' :: rest) else ('.' :: digits, rest.dropWhile isDecimalDigit)
  | rest => ([], rest)

/-- The parts of a quantity, if the text starts with a number. -/
def ofChars? (s : List Char) : Option Quantity :=
  let s := s.dropWhile isBlank
  let whole := s.takeWhile isDecimalDigit
  if whole.isEmpty then none
  else
    let (fraction, rest) := splitFraction (s.dropWhile isDecimalDigit)
    some { number := whole ++ fraction, unit := trimChars rest }

end Quantity

/-- Why a text is no size or no duration. -/
inductive QuantityError where
  /-- The text has not the form of a size. -/
  | malformedSize (raw : String)
  /-- The text has not the form of a duration. -/
  | malformedDuration (raw : String)
  /-- The form is right and the value is not. -/
  | unusable (raw : String)
deriving DecidableEq

/-- The wording of an error. -/
def QuantityError.message : QuantityError → String
  | .malformedSize raw =>
    "Parse error: Failed to parse: Invalid size '" ++ raw ++
      "'. Use a number with an optional unit (e.g. 16G, 512M)"
  | .malformedDuration raw =>
    "Parse error: Failed to parse: Invalid duration '" ++ raw ++ "'. Use e.g. 500ms, 30s, 5m, 1h"
  | .unusable raw => "Parse error: Invalid value: " ++ raw

end Provisioning

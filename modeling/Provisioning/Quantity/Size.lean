import Provisioning.Quantity.Scan
import Provisioning.Decimal.Reading

/-!
# Sizes

Sizes in gigabytes: `16`, `16G`, `512MiB`, `1.5T`. A step between units is 1024, and a number
without a unit letter counts gigabytes.

## Main definitions

* `SizeUnit`: the unit letters
* `SizeUnit.ofChars?`: a unit letter and an optional `b` or `ib`, in any case
* `readSize`: the gigabytes of a text
-/

namespace Provisioning

open Text

/-- The unit letters. -/
inductive SizeUnit where
  | kilo | mega | giga | tera | peta
deriving DecidableEq

namespace SizeUnit

/-- The unit of a lower-case letter. -/
def ofLetter? : Char → Option SizeUnit
  | 'k' => some .kilo
  | 'm' => some .mega
  | 'g' => some .giga
  | 't' => some .tera
  | 'p' => some .peta
  | _ => none

/-- The gigabytes in a number of units. -/
def toGigabytes (x : Binary64) : SizeUnit → Binary64
  | .kilo => x / (Binary64.ofNat 1024 * Binary64.ofNat 1024)
  | .mega => x / Binary64.ofNat 1024
  | .giga => x
  | .tera => x * Binary64.ofNat 1024
  | .peta => x * Binary64.ofNat 1024 * Binary64.ofNat 1024

/-- The case folding of a unit: the Kelvin sign folds to `k`. -/
def foldCase (c : Char) : Char := if c = '\u212A' then 'k' else asciiLower c

/-- What may stand after the unit letter, folded: nothing, `b` or `ib`. -/
def isByteMark (s : List Char) : Bool := s == [] || s == ['b'] || s == ['i', 'b']

/-- The unit of a unit text after case folding. -/
def ofFolded? (s : List Char) : Option SizeUnit :=
  if isByteMark s then some .giga
  else
    match s with
    | [] => none
    | c :: rest => if isByteMark rest then ofLetter? c else none

end SizeUnit

/-- The gigabytes that a text gives. A digit outside ASCII or a Kelvin sign has the form of a size
and no value. -/
def readSize (raw : String) : Except QuantityError Binary64 :=
  match Quantity.ofChars? raw.toList with
  | none => .error (.malformedSize raw)
  | some q =>
    match SizeUnit.ofFolded? (q.unit.map SizeUnit.foldCase) with
    | none => .error (.malformedSize raw)
    | some unit =>
      match readNumber? (String.ofList q.number) with
      | some x => if q.unit.contains '\u212A' then .error (.unusable raw) else .ok (unit.toGigabytes x)
      | none => .error (.unusable raw)

end Provisioning

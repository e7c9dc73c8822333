import Provisioning.Decimal.Shortest
import Provisioning.Text.Natural

/-!
# Notations of numbers

How a binary64 number is written: with its shortest decimal, laid out by a `NumberStyle`, or with
a fixed number of places.

## Main definitions

* `NumberStyle`: the decisions of a format
* `NumberStyle.plain`, `NumberStyle.json`, `NumberStyle.toml`: the three formats in use
* `NumberStyle.render`: the text of a number in a format
* `renderFixed`: the text with a fixed number of places, the exact value rounded half to even
-/

namespace Provisioning

open Text (repeated)

/-- The decisions that a format makes about the text of a number. -/
structure NumberStyle where
  /-- Which of two equally near shortest decimals is written. -/
  tie : Tie
  /-- The decimal exponents written without an exponent part, from the first to before the second;
  `none` if all are. -/
  positional : Option (Int × Int)
  /-- Whether a whole number gets `.0`. -/
  marksWhole : Bool
  /-- The text of NaN. -/
  nan : String
  /-- The text of positive infinity; the negative one has a minus sign before it. -/
  infinity : String

namespace NumberStyle

/-- Numbers in messages, tables and settings values. -/
def plain : NumberStyle where
  tie := .up
  positional := none
  marksWhole := false
  nan := "NaN"
  infinity := "inf"

/-- Numbers in JSON, which has none that are not finite. -/
def json : NumberStyle where
  tie := .even
  positional := some (-5, 16)
  marksWhole := true
  nan := "null"
  infinity := "null"

/-- Numbers in TOML. -/
def toml : NumberStyle where
  tie := .up
  positional := none
  marksWhole := true
  nan := "nan"
  infinity := "inf"

end NumberStyle

namespace Decimal

/-- The power of ten of the leading digit. -/
def leadingExponent (d : Decimal) : Int := digitCount d.digits + d.exponent - 1

/-- The decimal without an exponent part. -/
def positionalText (marksWhole : Bool) (d : Decimal) : String :=
  let digits := digitChars d.digits
  let point := digits.length + d.exponent
  if 0 ≤ d.exponent then
    String.ofList digits ++ repeated d.exponent.toNat '0' ++ (if marksWhole then ".0" else "")
  else if 0 < point then
    String.ofList (digits.take point.toNat) ++ "." ++ String.ofList (digits.drop point.toNat)
  else "0." ++ repeated (-point).toNat '0' ++ String.ofList digits

/-- The decimal with one digit before the point and a signed exponent part. -/
def scientificText (d : Decimal) : String :=
  let e := d.leadingExponent
  let mantissa :=
    match digitChars d.digits with
    | [] => ""
    | [c] => String.singleton c
    | c :: rest => String.singleton c ++ "." ++ String.ofList rest
  mantissa ++ (if e < 0 then "e-" else "e+") ++ toString e.natAbs

end Decimal

namespace NumberStyle

/-- The text of a decimal. -/
def decimalText (style : NumberStyle) (d : Decimal) : String :=
  match style.positional with
  | none => d.positionalText style.marksWhole
  | some (first, last) =>
    if first ≤ d.leadingExponent ∧ d.leadingExponent < last then
      d.positionalText style.marksWhole
    else d.scientificText

/-- The text of a number without its sign. -/
def magnitudeText (style : NumberStyle) (x : Binary64) : String :=
  if x.isZero then if style.marksWhole then "0.0" else "0"
  else style.decimalText (Decimal.shortest style.tie x.magnitude)

/-- The text of a number. NaN shows no sign. -/
def render (style : NumberStyle) (x : Binary64) : String :=
  if x.isNaN then style.nan
  else
    let sign := if x.isNegative then "-" else ""
    if x.isFinite then sign ++ style.magnitudeText x else sign ++ style.infinity

end NumberStyle

/-- A finite number's text in messages. -/
def Binary64.text (x : Binary64) : String := NumberStyle.plain.render x

/-- A natural number of `places` decimal places: the point is set before the last `places` digits. -/
def withPoint (places n : Nat) : String :=
  if places = 0 then toString n
  else toString (n / Nat.pow 10 places) ++ "." ++
    (let fraction := toString (n % Nat.pow 10 places)
     repeated (places - fraction.length) '0' ++ fraction)

/-- The number with `places` decimal places, its exact value rounded half to even. A negative number
keeps its sign even if it is written as zero. -/
def renderFixed (places : Nat) (x : Binary64) : String :=
  if x.isFinite then
    (if x.isNegative then "-" else "") ++
      withPoint places (roundHalfEven (x.units * Nat.pow 10 places) Binary64.unitsPerOne)
  else x.text

end Provisioning

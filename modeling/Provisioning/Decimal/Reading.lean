import Provisioning.Number.Binary64
import Provisioning.Text.DecimalDigit
import Provisioning.Text.LowerCase

/-!
# Decimal text to number

The reading of a decimal number: an optional sign, digits with an optional point among or around
them, an optional exponent; or `inf`, `infinity`, `nan` in any case. The result is the number nearest
to the exact value.

## Main definitions

* `ofScaled negative digits exponent`: the number nearest to `digits · 10 ^ exponent`
* `Numeral`: the parts of a written number
* `Numeral.ofChars?`: the grammar
* `readNumber?`: the number of a text
-/

namespace Provisioning

open Text (isAsciiDigit naturalOf asciiLower)

namespace Binary64

/-- The decimal exponent from which a number is infinite. -/
def overflowPoint : Int := 310

/-- The decimal exponent below which a number is zero. -/
def underflowPoint : Int := -330

/-- The number nearest to `digits · 10 ^ exponent`. Numbers far beyond the range are decided by
their leading exponent alone. -/
def ofScaled (negative : Bool) (digits : Nat) (exponent : Int) : Binary64 :=
  if digits = 0 then ofMagnitude negative 0
  else
    let point := (Nat.toDigits 10 digits).length + exponent
    -- This keeps the powers of ten below small, whatever exponent is written.
    if overflowPoint < point then ofMagnitude negative infiniteMagnitude
    else if point < underflowPoint then ofMagnitude negative 0
    else
      ofMagnitude negative
        (nearest (digits * Nat.pow 10 exponent.toNat * unitsPerOne)
          (Nat.pow 10 (-exponent).toNat))

end Binary64

/-- The parts of a number written in digits. -/
structure Numeral where
  /-- The digits before the point. -/
  whole : List Char
  /-- The digits after the point. -/
  fraction : List Char
  /-- The power of ten. -/
  exponent : Int

namespace Numeral

/-- The number nearest to the written value. -/
def value (negative : Bool) (n : Numeral) : Binary64 :=
  Binary64.ofScaled negative (naturalOf (n.whole ++ n.fraction))
    (n.exponent - n.fraction.length)

/-- An exponent: an optional sign and at least one digit, and nothing else. -/
def exponentOf? (s : List Char) : Option Int :=
  let (negative, digits) :=
    match s with
    | '+' :: rest => (false, rest)
    | '-' :: rest => (true, rest)
    | rest => (false, rest)
  if digits.isEmpty || !digits.all isAsciiDigit then none
  else some (if negative then -(naturalOf digits : Int) else naturalOf digits)

/-- The rest of a number after its digits: nothing, or `e` and an exponent. -/
def exponentPart? : List Char → Option Int
  | [] => some 0
  | c :: rest => if c = 'e' ∨ c = 'E' then exponentOf? rest else none

/-- A number without sign: digits with at most one point, at least one digit, and perhaps an
exponent. -/
def ofChars? (s : List Char) : Option Numeral :=
  let whole := s.takeWhile isAsciiDigit
  let (fraction, rest) :=
    match s.dropWhile isAsciiDigit with
    | '.' :: rest => (rest.takeWhile isAsciiDigit, rest.dropWhile isAsciiDigit)
    | rest => ([], rest)
  if whole.isEmpty && fraction.isEmpty then none
  else (exponentPart? rest).map fun exponent => { whole, fraction, exponent }

end Numeral

/-- The number of a text without sign. -/
def readUnsigned? (negative : Bool) (s : List Char) : Option Binary64 :=
  match (Numeral.ofChars? s).map (Numeral.value negative) with
  | some x => some x
  | none =>
    let word := String.ofList (s.map asciiLower)
    if word = "inf" ∨ word = "infinity" then
      some (Binary64.ofMagnitude negative Binary64.infiniteMagnitude)
    else if word = "nan" then some (if negative then Binary64.nan.neg else Binary64.nan)
    else none

/-- The number of a text: an optional sign, then a number without sign. -/
def readNumber? (s : String) : Option Binary64 :=
  match s.toList with
  | '-' :: rest => readUnsigned? true rest
  | '+' :: rest => readUnsigned? false rest
  | rest => readUnsigned? false rest

end Provisioning

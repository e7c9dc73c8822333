import Provisioning.Decimal.Reading
import Provisioning.Json.Scan

/-!
# Values of JSON numbers

A number without fraction and exponent is whole if it fits 64 bits. Any other is read in three steps,
each of which rounds: the leading digits that fit 64 bits form a natural number, this becomes a
binary64 number, and that is multiplied with or divided by a power of ten. The result may differ from
the nearest number in the last bit.

## Main definitions

* `absorb`: the leading digits that fit
* `scale`: a number times a power of ten
* `NumberToken.value`: the value of a number
-/

namespace Provisioning.Json

open Text (digitValue naturalOf Rest)

/-- The greatest natural number of 64 bits. -/
def wordLimit : Nat := 0xFFFFFFFFFFFFFFFF

/-- A natural number with digits appended, as many as fit 64 bits, and the count of these digits. -/
def absorb (n : Nat) : List Char → Nat × Nat
  | [] => (n, 0)
  | c :: rest =>
    let m := 10 * n + digitValue c
    if wordLimit < m then (n, 0)
    else
      let (result, count) := absorb m rest
      (result, count + 1)

/-- The number nearest to a power of ten. -/
def powerOfTen (e : Nat) : Binary64 := Binary64.ofScaled false 1 e

/-- The greatest power of ten of the table of powers. -/
def lastPower : Nat := 308

/-- A number divided by a power of ten, in steps of the greatest power of the table. -/
def shrink (fuel : Nat) (x : Binary64) (e : Nat) : Binary64 :=
  match fuel with
  | 0 => x
  | fuel + 1 =>
    if e ≤ lastPower then x / powerOfTen e
    -- Once the quotient is zero it stays zero.
    else if x.isZero then x
    else shrink fuel (x / powerOfTen lastPower) (e - lastPower)

/-- A number without sign times a power of ten. A number that is not zero must not become too
large. -/
def scale (x : Binary64) (e : Int) : Except Fault Binary64 :=
  if 0 ≤ e then
    if e.toNat ≤ lastPower then
      let y := x * powerOfTen e.toNat
      if y.isInfinite then .error .malformed else .ok y
    else if x.isZero then .ok x
    else .error .malformed
  else .ok (shrink 8 x e.natAbs)

/-- The limit of an exponent's digits; beyond it the value is zero or too large at once. -/
def exponentLimit : Nat := 0x7FFFFFFF

namespace NumberToken

/-- The value of a number that is not whole, without its sign. -/
def realValue (t : NumberToken) : Except Fault Binary64 :=
  let (wholePart, wholeCount) := absorb 0 t.whole
  let fraction := t.fraction.getD []
  -- Digits of the whole part that did not fit still shift the point; those of the fraction do not.
  let (significand, fractionCount) := absorb wholePart fraction
  let shift : Int := (t.whole.length - wholeCount : Nat) - (fractionCount : Int)
  match t.exponent with
  | none => scale (.ofNat significand) shift
  | some (negative, digits) =>
    let e := naturalOf digits
    if exponentLimit < e then
      if significand ≠ 0 ∧ !negative then .error .malformed else .ok .zero
    else scale (.ofNat significand) (shift + if negative then -(e : Int) else e)

/-- A number with a sign put before it. -/
def signed (negative : Bool) (x : Binary64) : Binary64 := if negative then x.neg else x

/-- The value of a number. Minus zero is no whole number. -/
def value (t : NumberToken) : Except Fault Value :=
  let n := naturalOf t.whole
  if t.fraction.isNone && t.exponent.isNone && n ≤ wordLimit then
    if !t.negative then .ok (.integer n)
    else if n = 0 ∨ 0x8000000000000000 < n then .ok (.real (Binary64.ofNat n).neg)
    else .ok (.integer (-(n : Int)))
  else (t.realValue).map fun x => .real (signed t.negative x)

end NumberToken

/-- A number and its value. -/
def number : Reader Value := (numberToken true).bind NumberToken.value

end Provisioning.Json

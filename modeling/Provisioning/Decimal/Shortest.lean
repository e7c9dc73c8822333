import Provisioning.Number.Binary64

/-!
# Shortest decimals

The fewest digits that read back as a given binary64 number, and of those the nearest to it.

All comparisons are made in quarters of the least positive number, so that the bounds of the
interval of reals that round to a number are whole.

## Main definitions

* `Tie`: which of two equally near decimals is taken
* `Decimal`: `digits · 10 ^ exponent`
* `Interval.ofMagnitude`: the reals that round to a magnitude
* `search tie i`: the decimal of the fewest digits in an interval
* `shortest tie magnitude`: the decimal
-/

namespace Provisioning

/-- The choice between two decimals at the same distance. -/
inductive Tie where
  /-- The greater one. -/
  | up
  /-- The one with the even last digit. -/
  | even
deriving DecidableEq

/-- The positive number `digits · 10 ^ exponent`. -/
structure Decimal where
  /-- The digits, as a natural number. -/
  digits : Nat
  /-- The power of ten. -/
  exponent : Int
deriving DecidableEq

namespace Decimal

/-- The decimal digits of a natural number. -/
def digitChars (n : Nat) : List Char := Nat.toDigits 10 n

/-- The number of decimal digits of a natural number. -/
def digitCount (n : Nat) : Nat := (digitChars n).length

/-- The same number with at most `fuel` final zeros moved into the exponent. -/
def dropZeros : Nat → Decimal → Decimal
  | 0, d => d
  | fuel + 1, d =>
    if d.digits % 10 = 0 ∧ d.digits ≠ 0 then dropZeros fuel ⟨d.digits / 10, d.exponent + 1⟩ else d

/-- The same number without final zeros among its digits. -/
def normalize (d : Decimal) : Decimal := dropZeros (digitCount d.digits) d

end Decimal

/-- The reals that round to a number, in quarters of a unit. -/
structure Interval where
  /-- The lower end. -/
  low : Nat
  /-- The number itself. -/
  center : Nat
  /-- The upper end. -/
  high : Nat
  /-- Whether the ends round to the number too. -/
  closed : Bool

namespace Interval

/-- The interval of a finite magnitude. Below a power of two the numbers lie twice as dense; the
ends belong to the number with the even significand. -/
def ofMagnitude (magnitude : Nat) : Interval :=
  let shift := Binary64.shiftOf magnitude
  let significand := Binary64.significandOf magnitude
  -- Half the distance to a neighbour is two quarters of a unit, below a power of two one quarter.
  let center := 4 * significand * Nat.pow 2 shift
  let below := 
    if significand = Binary64.leadingBit ∧ shift ≠ 0 then Nat.pow 2 shift else 2 * Nat.pow 2 shift
  { low := center - below
    center
    high := center + 2 * Nat.pow 2 shift
    closed := significand % 2 == 0 }

/-- Whether a point lies in the interval, all its numbers being multiplied by `scale`. -/
def holds (i : Interval) (scale point : Nat) : Bool :=
  if i.closed then i.low * scale ≤ point && point ≤ i.high * scale
  else i.low * scale < point && point < i.high * scale

end Interval

namespace Decimal

/-- The number of quarter units in one. -/
def quartersPerOne : Nat := 4 * Binary64.unitsPerOne

theorem quartersPerOne_pos : 0 < quartersPerOne :=
  Nat.mul_pos (by omega) Binary64.unitsPerOne_pos

/-- The exponent `k` with `10 ^ (k - 1) ≤ x < 10 ^ k` for `x` given in quarter units. -/
def pointOf (quarters : Nat) : Int :=
  if quartersPerOne ≤ quarters then digitCount (quarters / quartersPerOne)
  else 1 - (digitCount (quartersPerOne / quarters) : Int)

/-- The multiple of `10 ^ exponent` in the interval that is next to its centre, if there is one. -/
def onGrid (tie : Tie) (i : Interval) (exponent : Int) : Option Decimal :=
  let scale := Nat.pow 10 (-exponent).toNat
  let step := Nat.pow 10 exponent.toNat * quartersPerOne
  let center := i.center * scale
  let d := center / step
  let below := d * step
  let above := (d + 1) * step
  -- Of the points of the grid only the two neighbours of the centre can be the nearest.
  match i.holds scale below && d != 0, i.holds scale above with
  | true, true =>
    let toBelow := center - below
    let toAbove := above - center
    if toBelow < toAbove ∨ (toBelow = toAbove ∧ tie = .even ∧ d % 2 = 0) then some ⟨d, exponent⟩
    else some ⟨d + 1, exponent⟩
  | true, false => some ⟨d, exponent⟩
  | false, true => some ⟨d + 1, exponent⟩
  | false, false => none

/-- The decimal of the fewest digits in an interval: the first of the grids of 1 to 17 digits with a
point in it. -/
def search (tie : Tie) (i : Interval) : Option Decimal :=
  (List.range 17).findSome? fun (n : Nat) => onGrid tie i (pointOf i.center - (n + 1))

/-- The shortest decimal of a positive finite magnitude. -/
def shortest (tie : Tie) (magnitude : Nat) : Decimal :=
  -- Seventeen digits always tell a number from its neighbours, so a grid is found.
  ((search tie (Interval.ofMagnitude magnitude)).map normalize).getD ⟨0, 0⟩

end Decimal

end Provisioning

/-!
# Binary64 numbers

Double-precision numbers by their bits. A finite number is a whole count of the least positive one,
its *units*, so arithmetic is integer arithmetic followed by one rounding to nearest, ties to even.

## Main definitions

* `Binary64`: the 64 bits
* `magnitude`, `isNegative`, `units`: the number without its sign, the sign, the count of `2^-1074`
* `nearest num den`: the magnitude nearest to a quotient of units
* `add`, `sub`, `mul`, `div`, `neg`: the operations; an invalid one gives `invalid`, a NaN operand is
  passed on
* `lt`, `le`, `eq`: the numeric comparisons, false on NaN
* `rank`: the key of the total order of all bit patterns
-/

namespace Provisioning

/-- A double-precision number, by its bits: sign, eleven bits of exponent, 52 of fraction. -/
structure Binary64 where
  /-- The bits, the sign being the highest. -/
  bits : UInt64
deriving DecidableEq, Inhabited

/-- The quotient rounded to the nearest natural number, ties to the even one. -/
def roundHalfEven (num den : Nat) : Nat :=
  let q := num / den
  let r := num % den
  if den < 2 * r ∨ (2 * r = den ∧ q % 2 = 1) then q + 1 else q

namespace Binary64

/-- The bit of the sign. -/
abbrev signBit : Nat := 0x8000000000000000

/-- The bits less the sign. -/
def magnitude (x : Binary64) : Nat := x.bits.toNat % signBit

/-- Whether the sign bit is set; it is on `-0` and on some NaNs. -/
def isNegative (x : Binary64) : Bool := signBit ≤ x.bits.toNat

/-- The magnitude of the infinities; greater ones are NaNs. -/
def infiniteMagnitude : Nat := 0x7FF0000000000000

/-- Not a number. -/
def isNaN (x : Binary64) : Bool := infiniteMagnitude < x.magnitude

/-- Neither an infinity nor a NaN. -/
def isFinite (x : Binary64) : Bool := x.magnitude < infiniteMagnitude

/-- One of the two infinities. -/
def isInfinite (x : Binary64) : Bool := x.magnitude == infiniteMagnitude

/-- One of the two zeros. -/
def isZero (x : Binary64) : Bool := x.magnitude == 0

theorem isNaN_of_isFinite {x : Binary64} (h : x.isFinite = true) : x.isNaN = false := by
  have hlt : x.magnitude < infiniteMagnitude := of_decide_eq_true h
  exact decide_eq_false (Nat.not_lt.2 (Nat.le_of_lt hlt))

/-- The number of a sign and a magnitude. -/
def ofMagnitude (negative : Bool) (magnitude : Nat) : Binary64 :=
  ⟨UInt64.ofNat (if negative then signBit + magnitude else magnitude)⟩

/-- A number is made of its sign and its magnitude. -/
theorem ofMagnitude_magnitude (x : Binary64) : ofMagnitude x.isNegative x.magnitude = x := by
  have hbits : (if x.isNegative then signBit + x.magnitude else x.magnitude) = x.bits.toNat := by
    have hx := x.bits.toNat_lt
    unfold isNegative magnitude signBit
    split
    · next h =>
      have hle := of_decide_eq_true h
      omega
    · next h =>
      have hlt := of_decide_eq_false (Bool.eq_false_iff.2 h)
      omega
  unfold ofMagnitude
  rw [hbits, UInt64.ofNat_toNat]

/-- Positive zero. -/
def zero : Binary64 := ⟨0⟩

/-- Negative zero. -/
def negZero : Binary64 := ⟨0x8000000000000000⟩

/-- Positive infinity. -/
def infinity : Binary64 := ⟨0x7FF0000000000000⟩

/-- The NaN that is read from text. -/
def nan : Binary64 := ⟨0x7FF8000000000000⟩

/-- The NaN that an invalid operation gives: its sign bit is set. -/
def invalid : Binary64 := ⟨0xFFF8000000000000⟩

/-! ## Value -/

/-- The leading bit of a significand, which only a normal number has. -/
abbrev leadingBit : Nat := 0x10000000000000

/-- The power of two that a magnitude's significand is multiplied with, in units. -/
def shiftOf (magnitude : Nat) : Nat := magnitude / leadingBit - 1

/-- The significand of a magnitude. -/
def significandOf (magnitude : Nat) : Nat := magnitude - shiftOf magnitude * leadingBit

/-- The value of a magnitude in units of `2^-1074`. -/
def unitsOf (magnitude : Nat) : Nat := significandOf magnitude * Nat.pow 2 (shiftOf magnitude)

theorem shiftOf_mul_add (magnitude : Nat) :
    shiftOf magnitude * leadingBit + significandOf magnitude = magnitude := by
  unfold significandOf shiftOf leadingBit
  omega

/-- A significand has 53 bits. -/
theorem significandOf_lt (magnitude : Nat) : significandOf magnitude < 2 * leadingBit := by
  unfold significandOf shiftOf leadingBit
  omega

theorem leadingBit_le_significandOf {magnitude : Nat} (h : shiftOf magnitude ≠ 0) :
    leadingBit ≤ significandOf magnitude := by
  unfold significandOf
  unfold shiftOf leadingBit at *
  omega

theorem significandOf_pos {magnitude : Nat} (h : 0 < magnitude) : 0 < significandOf magnitude := by
  unfold significandOf shiftOf leadingBit
  omega

/-- The number of units in one. -/
def unitsPerOne : Nat := Nat.pow 2 1074

theorem unitsPerOne_pos : 0 < unitsPerOne := by
  unfold unitsPerOne
  generalize 1074 = n
  exact Nat.two_pow_pos n

/-- The absolute value in units of `2^-1074`. -/
def units (x : Binary64) : Nat := unitsOf x.magnitude

/-- The value in units of `2^-1074`, with its sign. -/
def signedUnits (x : Binary64) : Int := if x.isNegative then -(x.units : Int) else x.units

/-- The magnitude nearest to `num / den` units, ties to the even significand; infinite when that
lies beyond the greatest finite number. -/
def nearest (num den : Nat) : Nat :=
  -- A significand has 53 bits; a quotient of no more of them loses none.
  let shift := (num / den).log2 - 52
  min infiniteMagnitude (shift * leadingBit + roundHalfEven num (den * Nat.pow 2 shift))

/-- The number nearest to a natural number. -/
def ofNat (n : Nat) : Binary64 := ofMagnitude false (nearest (n * unitsPerOne) 1)

/-- The number nearest to an integer. -/
def ofInt (n : Int) : Binary64 :=
  ofMagnitude (n < 0) (nearest (n.natAbs * unitsPerOne) 1)

/-! ## Operations -/

/-- The number with the other sign. -/
def neg (x : Binary64) : Binary64 := ofMagnitude (!x.isNegative) x.magnitude

/-- The sum. -/
def add (x y : Binary64) : Binary64 :=
  if x.isNaN then x
  else if y.isNaN then y
  else if x.isInfinite then
    if y.isInfinite && x.isNegative != y.isNegative then invalid else x
  else if y.isInfinite then y
  else
    let sum := x.signedUnits + y.signedUnits
    -- A sum of zero is negative only if both terms are.
    if sum = 0 then ofMagnitude (x.isNegative && y.isNegative) 0
    else ofMagnitude (sum < 0) (nearest sum.natAbs 1)

/-- The difference. -/
def sub (x y : Binary64) : Binary64 :=
  if x.isNaN then x else if y.isNaN then y else add x y.neg

/-- The product. -/
def mul (x y : Binary64) : Binary64 :=
  let negative := x.isNegative != y.isNegative
  if x.isNaN then x
  else if y.isNaN then y
  else if x.isInfinite || y.isInfinite then
    if x.isZero || y.isZero then invalid else ofMagnitude negative infiniteMagnitude
  else ofMagnitude negative (nearest (x.units * y.units) unitsPerOne)

/-- The quotient. -/
def div (x y : Binary64) : Binary64 :=
  let negative := x.isNegative != y.isNegative
  if x.isNaN then x
  else if y.isNaN then y
  else if x.isInfinite then
    if y.isInfinite then invalid else ofMagnitude negative infiniteMagnitude
  else if y.isInfinite then ofMagnitude negative 0
  else if y.isZero then
    if x.isZero then invalid else ofMagnitude negative infiniteMagnitude
  else ofMagnitude negative (nearest (x.units * unitsPerOne) y.units)

instance : Add Binary64 := ⟨add⟩
instance : Sub Binary64 := ⟨sub⟩
instance : Mul Binary64 := ⟨mul⟩
instance : Div Binary64 := ⟨div⟩
instance : Neg Binary64 := ⟨neg⟩

/-! ## Order -/

/-- The magnitude with its sign: an order-preserving count on the numbers, the zeros both at 0. -/
def ordinal (x : Binary64) : Int := if x.isNegative then -(x.magnitude : Int) else x.magnitude

/-- Numerically less; false on NaN. -/
def lt (x y : Binary64) : Bool := !x.isNaN && !y.isNaN && x.ordinal < y.ordinal

/-- Numerically at most; false on NaN. -/
def le (x y : Binary64) : Bool := !x.isNaN && !y.isNaN && x.ordinal ≤ y.ordinal

/-- Numerically equal: the two zeros are, a NaN and itself are not. -/
def eq (x y : Binary64) : Bool := !x.isNaN && !y.isNaN && x.ordinal == y.ordinal

/-- The key of the total order: negative NaNs, `-∞` up to `-0`, `+0` up to `∞`, positive NaNs. -/
def rank (x : Binary64) : Int := if x.isNegative then -1 - (x.magnitude : Int) else x.magnitude

/-- The total order of all bit patterns. -/
def totalLe (x y : Binary64) : Bool := x.rank ≤ y.rank

end Binary64

end Provisioning

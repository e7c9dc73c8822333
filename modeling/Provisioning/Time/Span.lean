import Provisioning.Decimal.Notation

/-!
# Spans of time

Spans in whole nanoseconds, below `2^64` seconds, with saturating arithmetic.

## Main definitions

* `Span`: a span of time
* `Span.add`, `Span.sub`: the sum, cut at the longest span, and the difference, floored at zero
* `Span.ofSeconds?`: the span nearest to a number of seconds
* `Span.text`: the exact text, such as `1.5s` or `500ms`
* `Span.elapsedText`: the text for a reader, such as `3m 5s`

## Main results

* `Span.nanos_add`, `Span.nanos_sub`, `Span.nanos_le_longest`: the arithmetic in nanoseconds
-/

namespace Provisioning

/-- The nanoseconds of a millisecond. -/
abbrev Span.nanosPerMilli : Nat := 1000000

/-- The nanoseconds of a second. -/
abbrev Span.nanosPerSecond : Nat := 1000000000

/-- The nanoseconds of `2^64` seconds. -/
abbrev Span.limit : Nat := 0x10000000000000000 * nanosPerSecond

/-- A span of time of whole nanoseconds. -/
structure Span where
  /-- The nanoseconds. -/
  nanos : Nat
  /-- The seconds fit 64 bits. -/
  bounded : nanos < Span.limit := by decide
deriving DecidableEq

namespace Span

/-- The longest span. -/
def longest : Span where
  nanos := limit - 1

/-- No time at all. -/
def zero : Span where
  nanos := 0

instance : Inhabited Span := ⟨zero⟩

/-- The span of a number of nanoseconds, cut at the longest span. -/
def ofNanos (n : Nat) : Span where
  nanos := min n longest.nanos
  bounded := Nat.lt_of_le_of_lt (Nat.min_le_right _ _) longest.bounded

/-- The span of whole seconds. -/
def ofSeconds (s : UInt64) : Span where
  nanos := s.toNat * nanosPerSecond
  bounded := (Nat.mul_lt_mul_right (by decide)).2 s.toNat_lt

/-- The span of a number of milliseconds, cut at the longest span. -/
def ofMillis (n : Nat) : Span := ofNanos (n * nanosPerMilli)

/-- The sum, cut at the longest span. -/
def add (a b : Span) : Span := ofNanos (a.nanos + b.nanos)

/-- The difference, floored at zero. -/
def sub (a b : Span) : Span where
  nanos := a.nanos - b.nanos
  bounded := Nat.lt_of_le_of_lt (Nat.sub_le _ _) a.bounded

instance : Add Span := ⟨add⟩
instance : Sub Span := ⟨sub⟩
instance : LE Span := ⟨fun a b => a.nanos ≤ b.nanos⟩
instance : LT Span := ⟨fun a b => a.nanos < b.nanos⟩
instance (a b : Span) : Decidable (a ≤ b) := inferInstanceAs (Decidable (a.nanos ≤ b.nanos))
instance (a b : Span) : Decidable (a < b) := inferInstanceAs (Decidable (a.nanos < b.nanos))

@[ext] theorem ext {a b : Span} (h : a.nanos = b.nanos) : a = b := by
  cases a
  cases b
  cases h
  rfl

theorem le_def {a b : Span} : a ≤ b ↔ a.nanos ≤ b.nanos := Iff.rfl

theorem lt_def {a b : Span} : a < b ↔ a.nanos < b.nanos := Iff.rfl

theorem nanos_le_longest (s : Span) : s.nanos ≤ longest.nanos := Nat.le_pred_of_lt s.bounded

theorem nanos_add (a b : Span) : (a + b).nanos = min (a.nanos + b.nanos) longest.nanos := rfl

theorem add_zero (s : Span) : s + zero = s := ext (Nat.min_eq_left s.nanos_le_longest)

theorem zero_add (s : Span) : zero + s = s := by
  apply ext
  rw [nanos_add, show zero.nanos = 0 from rfl, Nat.zero_add]
  exact Nat.min_eq_left s.nanos_le_longest

@[simp] theorem nanos_sub (a b : Span) : (a - b).nanos = a.nanos - b.nanos := rfl

theorem ofSeconds_le_ofSeconds {m n : UInt64} : ofSeconds m ≤ ofSeconds n ↔ m ≤ n :=
  Nat.mul_le_mul_right_iff (by decide)

theorem zero_lt_ofSeconds {n : UInt64} : zero < ofSeconds n ↔ 0 < n :=
  Nat.mul_pos_iff_of_pos_right (by decide)

theorem ofMillis_zero : ofMillis 0 = zero := by decide

theorem nanos_ofMillis (n : Nat) : (ofMillis n).nanos = min (n * nanosPerMilli) longest.nanos := rfl

/-- The longer of two spans. -/
def max (a b : Span) : Span := if a ≤ b then b else a

/-- The whole seconds. -/
def seconds (s : Span) : Nat := s.nanos / nanosPerSecond

/-- The nanoseconds after the whole seconds. -/
def subsecond (s : Span) : Nat := s.nanos % nanosPerSecond

/-- The whole milliseconds. -/
def millis (s : Span) : Nat := s.nanos / nanosPerMilli

/-- The milliseconds, a started one counting as whole. -/
def millisUp (s : Span) : Nat := (s.nanos + (nanosPerMilli - 1)) / nanosPerMilli

/-- The span nearest to a number of seconds, ties to the even nanosecond; `none` for a number that
is negative, not finite or too large. -/
def ofSeconds? (x : Binary64) : Option Span :=
  if !x.isFinite || (x.isNegative && !x.isZero) then none
  else
    let n := roundHalfEven (x.units * nanosPerSecond) Binary64.unitsPerOne
    if h : n < limit then some ⟨n, h⟩ else none

/-! ## Text -/

/-- `n / 10 ^ places` in decimals, without final zeros. -/
def decimalText (places n : Nat) : String :=
  let fraction := toString (n % Nat.pow 10 places)
  let padded := List.replicate (places - fraction.length) '0' ++ fraction.toList
  let kept := (padded.reverse.dropWhile (· == '0')).reverse
  toString (n / Nat.pow 10 places) ++ (if kept.isEmpty then "" else "." ++ String.ofList kept)

/-- The exact text, in the largest unit that the span fills: seconds, milliseconds, microseconds or
nanoseconds. -/
def text (s : Span) : String :=
  if nanosPerSecond ≤ s.nanos then decimalText 9 s.nanos ++ "s"
  else if nanosPerMilli ≤ s.nanos then decimalText 6 s.nanos ++ "ms"
  else if 1000 ≤ s.nanos then decimalText 3 s.nanos ++ "µs"
  else toString s.nanos ++ "ns"

/-- The text for a reader: two units from an hour or a minute on, else whole seconds, else whole
milliseconds. -/
def elapsedText (s : Span) : String :=
  let hours := s.seconds / 3600
  let minutes := s.seconds % 3600 / 60
  let seconds := s.seconds % 60
  if 0 < hours then toString hours ++ "h " ++ toString minutes ++ "m"
  else if 0 < minutes then toString minutes ++ "m " ++ toString seconds ++ "s"
  else if 0 < s.seconds then toString seconds ++ "s"
  else toString s.millis ++ "ms"

end Span

end Provisioning

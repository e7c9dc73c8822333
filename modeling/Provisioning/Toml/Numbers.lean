import Provisioning.Decimal.Reading
import Provisioning.Toml.Strings
import Provisioning.Toml.Value

/-!
# TOML numbers, dates and times

## Main definitions

* `numberLiteral`: an integer of 64 bits, or a number with a fraction or an exponent
* `momentLiteral`: a date, a time, or a date and a time
-/

namespace Provisioning.Toml

open Text

/-! ## Numbers -/

/-- A sign, if there is one; whether it is negative. -/
def skipSign (s : List Char) : Bool × Tail s :=
  match s with
  | '-' :: rest => (true, (Rest.tail rest).toTail)
  | '+' :: rest => (false, (Rest.tail rest).toTail)
  | s => (false, Tail.whole s)

/-- A scanner after an optional sign. -/
def signed {α : Type} (p : Bool → Scanner α) : Scanner α := fun s =>
  match p (skipSign s).1 (skipSign s).2.1 with
  | some (a, r) => some (a, r.of (skipSign s).2.2)
  | none => none

/-- Digits of a class; an underscore may stand between two of them. -/
def digitGroups (p : Char → Bool) : Scanner (List Char) :=
  let digit := Scanner.char p
  (digit.thenMany (digit.orElse ((Scanner.exact '_').andThen fun _ => digit))).map
    fun (d, ds) => d :: ds

/-- The digits of a decimal integer: no zero stands before others. -/
def decimalDigits : Scanner (List Char) := fun s =>
  match s with
  | '0' :: rest => some (['0'], Rest.tail rest)
  | s => digitGroups isAsciiDigit s

/-- A point and digits. -/
def fractionDigits : Scanner (List Char) :=
  (Scanner.exact '.').andThen fun _ => digitGroups isAsciiDigit

/-- An exponent. -/
def exponentValue : Scanner Int :=
  (Scanner.char fun c => c == 'e' || c == 'E').andThen fun _ =>
    signed fun negative =>
      (digitGroups isAsciiDigit).map fun digits =>
        if negative then -(naturalOf digits : Int) else naturalOf digits

/-- A number with a fraction, an exponent or both. One that is too large is refused, unless it is
negative: then it is the negative infinity. -/
def floatDigits (negative : Bool) : Scanner Value :=
  let make (whole fraction : List Char) (exponent : Int) : Option Value :=
    let x := Numeral.value negative { whole, fraction, exponent }
    if x.isInfinite && !negative then none else some (.float x)
  -- A fraction may have an exponent after it; without a fraction there must be one.
  decimalDigits.andThen fun whole =>
    ((fractionDigits.andOptionally exponentValue).filterMap fun (fraction, e) =>
        make whole fraction (e.getD 0)).orElse
      (exponentValue.filterMap fun e => make whole [] e)

/-- An infinity or NaN. -/
def specialFloat (negative : Bool) : Scanner Value :=
  ((Scanner.letters 'i' ['n', 'f']).map fun _ =>
      .float (Binary64.ofMagnitude negative Binary64.infiniteMagnitude)).orElse
    ((Scanner.letters 'n' ['a', 'n']).map fun _ =>
      .float (if negative then Binary64.nan.neg else Binary64.nan))

/-- The first natural number that is no integer of a document. -/
def integerLimit : Nat := 0x8000000000000000

/-- An integer that fits 64 bits with a sign. -/
def integerOf? (negative : Bool) (n : Nat) : Option Value :=
  if negative then if n ≤ integerLimit then some (.integer (-(n : Int))) else none
  else if n < integerLimit then some (.integer n)
  else none

/-- An integer in another base, after its mark. -/
def basedInteger (mark : Char) (base : Nat) (p : Char → Bool) : Scanner Value :=
  ((Scanner.letters '0' [mark]).andThen fun _ => digitGroups p).filterMap fun digits =>
    integerOf? false (digits.foldl (fun n c => base * n + hexValue c) 0)

/-- A decimal integer. -/
def decimalInteger (negative : Bool) : Scanner Value :=
  decimalDigits.filterMap fun digits => integerOf? negative (naturalOf digits)

/-- A number. -/
def numberLiteral : Scanner Value :=
  ((((basedInteger 'x' 16 isHexDigit).orElse
    (basedInteger 'o' 8 fun c => '0' ≤ c && c ≤ '7')).orElse
    (basedInteger 'b' 2 fun c => c == '0' || c == '1')).orElse
    (signed floatDigits)).orElse
    ((signed specialFloat).orElse (signed decimalInteger))

/-! ## Dates and times -/

/-- A number of a fixed count of digits, less one, within bounds. -/
def fixedNumber (more low high : Nat) : Scanner Nat :=
  (Scanner.times (Scanner.char isAsciiDigit) more).filterMap fun digits =>
    let n := naturalOf digits
    if low ≤ n ∧ n ≤ high then some n else none

/-- The days of a month. -/
def daysOf (year month : Nat) : Nat :=
  if month = 2 then
    if year % 4 = 0 ∧ (year % 100 ≠ 0 ∨ year % 400 = 0) then 29 else 28
  else if month = 4 ∨ month = 6 ∨ month = 9 ∨ month = 11 then 30
  else 31

/-- A date. -/
def date : Scanner Unit :=
  (((fixedNumber 3 0 9999).before (Scanner.exact '-')).andThen fun year =>
    ((fixedNumber 1 1 12).before (Scanner.exact '-')).andThen fun month =>
      (fixedNumber 1 1 31).map fun day => decide (day ≤ daysOf year month)).filterMap fun valid =>
    if valid then some () else none

/-- A time of day. -/
def timeOfDay : Scanner Unit :=
  let clock :=
    ((fixedNumber 1 0 23).before (Scanner.exact ':')).andThen fun _ =>
      ((fixedNumber 1 0 59).before (Scanner.exact ':')).andThen fun _ => fixedNumber 1 0 60
  (clock.andOptionally ((Scanner.exact '.').andThen fun _ => Scanner.run isAsciiDigit)).map
    fun _ => ()

/-- The offset of a time from the common one. -/
def offset : Scanner Unit :=
  ((Scanner.char fun c => c == 'Z' || c == 'z').map fun _ => ()).orElse
    ((Scanner.char fun c => c == '+' || c == '-').andThen fun _ =>
      ((fixedNumber 1 0 23).before (Scanner.exact ':')).andThen fun _ =>
        (fixedNumber 1 0 59).map fun _ => ())

/-- A date, a time, or a date and a time. -/
def momentLiteral : Scanner Value :=
  let afterDate :=
    (Scanner.char fun c => c == 'T' || c == 't' || c == ' ').andThen fun _ =>
      timeOfDay.andOptionally offset
  ((date.andOptionally afterDate).map fun _ => Value.moment).orElse
    (timeOfDay.map fun _ => Value.moment)

end Provisioning.Toml

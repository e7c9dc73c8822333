import Provisioning.Json.Fault
import Provisioning.Json.Value
import Provisioning.Text.DecimalDigit
import Provisioning.Text.Rest

/-!
# Tokens of JSON text

Readers of strings, numbers and words. A reader returns what it read and the rest of the text, which
is shorter; so loops over readers come to an end.

A *careful* reader checks all that a value depends on. A careless one, for values that nobody looks
at, leaves out the pairing of surrogates, and calls a number that the text cuts off malformed.

## Main definitions

* `Reader α`: the readers
* `skipBlank`: the text after blanks
* `stringBody`: a string after its opening quote
* `NumberToken`, `numberToken`: the parts of a number
* `word`: the letters of a word after its first
-/

namespace Provisioning.Json

open Text (isAsciiDigit Rest Tail length_dropWhile_le)

/-- A reader of values of one kind. -/
abbrev Reader (α : Type) := (s : List Char) → Except Fault (α × Rest s)

/-- The reader with a function applied to what it reads. -/
def Reader.map {α β : Type} (f : α → β) (reader : Reader α) : Reader β := fun s =>
  match reader s with
  | .ok (a, rest) => .ok (f a, rest)
  | .error e => .error e

/-- The reader with a further test of what it reads. -/
def Reader.bind {α β : Type} (reader : Reader α) (f : α → Except Fault β) : Reader β := fun s =>
  match reader s with
  | .ok (a, rest) => (f a).map fun b => (b, rest)
  | .error e => .error e

/-- The four blanks of JSON. -/
def isJsonBlank (c : Char) : Bool := c == ' ' || c == '\n' || c == '\t' || c == '\r'

/-- The text after leading blanks. -/
def skipBlank (s : List Char) : List Char := s.dropWhile isJsonBlank

theorem length_skipBlank_le (s : List Char) : (skipBlank s).length ≤ s.length :=
  length_dropWhile_le _ s

/-- The reader after leading blanks. -/
def afterBlank {α : Type} (reader : Reader α) : Reader α := fun s =>
  match reader (skipBlank s) with
  | .ok (a, rest) => .ok (a, rest.of (length_skipBlank_le s))
  | .error e => .error e

/-! ## Words -/

/-- The given letters at the head of a text. -/
def word : List Char → (s : List Char) → Except Fault (Tail s)
  | [], s => .ok (Tail.whole s)
  | _ :: _, [] => .error .truncated
  | c :: letters, d :: s =>
    if c = d then
      (word letters s).map fun r => r.cons.toTail
    else .error .malformed

/-! ## Strings -/

/-- The value of a hexadecimal digit. -/
def hexValue? (c : Char) : Option Nat :=
  if '0' ≤ c ∧ c ≤ '9' then some (c.toNat - 48)
  else if 'a' ≤ c ∧ c ≤ 'f' then some (c.toNat - 87)
  else if 'A' ≤ c ∧ c ≤ 'F' then some (c.toNat - 55)
  else none

/-- The number of bytes of a text. -/
def byteCount (s : List Char) : Nat := s.foldl (fun n c => n + c.utf8Size) 0

/-- Four hexadecimal digits. A text with fewer than four bytes left is truncated, whatever they
are. -/
def hexQuad : Reader Nat
  | a :: b :: c :: d :: rest =>
    match hexValue? a, hexValue? b, hexValue? c, hexValue? d with
    | some a, some b, some c, some d =>
      .ok (((a * 16 + b) * 16 + c) * 16 + d, (Rest.tail rest).cons.cons.cons)
    | _, _, _, _ => .error .malformed
  | s => .error (if byteCount s < 4 then .truncated else .malformed)

/-- The first half of a surrogate pair. -/
def isHighSurrogate (n : Nat) : Bool := 0xD800 ≤ n && n ≤ 0xDBFF

/-- The second half of a surrogate pair. -/
def isLowSurrogate (n : Nat) : Bool := 0xDC00 ≤ n && n ≤ 0xDFFF

/-- The character of a code unit and perhaps a second one, after the first is read. -/
def unicodeEscape (careful : Bool) : Reader Char := fun s =>
  match hexQuad s with
  | .error e => .error e
  | .ok (n, rest) =>
    if !careful then .ok ('\uFFFD', rest)
    else if isLowSurrogate n then .error .malformed
    else if isHighSurrogate n then
      match rest with
      | ⟨[], _⟩ => .error .truncated
      | ⟨['\\'], _⟩ => .error .truncated
      | ⟨'\\' :: 'u' :: second, hsecond⟩ =>
        match hexQuad second with
        | .error e => .error e
        | .ok (m, rest) =>
          if isLowSurrogate m then
            .ok (Char.ofNat (0x10000 + (n - 0xD800) * 1024 + (m - 0xDC00)),
              rest.of (by simp only [List.length_cons] at hsecond; omega))
          else .error .malformed
      | _ => .error .malformed
    else .ok (Char.ofNat n, rest)

/-- The character of an escape, after its backslash. -/
def escapeSequence (careful : Bool) : Reader Char
  | [] => .error .truncated
  | c :: rest =>
    let give (d : Char) : Except Fault (Char × Rest (c :: rest)) := .ok (d, Rest.tail rest)
    if c = '"' then give '"'
    else if c = '\\' then give '\\'
    else if c = '/' then give '/'
    else if c = 'b' then give '\x08'
    else if c = 'f' then give '\x0c'
    else if c = 'n' then give '\n'
    else if c = 'r' then give '\r'
    else if c = 't' then give '\t'
    else if c = 'u' then
      match unicodeEscape careful rest with
      | .ok (d, r) => .ok (d, r.cons)
      | .error e => .error e
    else .error .malformed

/-- The characters of a string up to its closing quote, and the rest after the quote. -/
def stringBody (careful : Bool) (s : List Char) : Except Fault (List Char × Rest s) :=
  match s with
  | [] => .error .truncated
  | '"' :: rest => .ok ([], Rest.tail rest)
  | '\\' :: rest =>
    match escapeSequence careful rest with
    | .error e => .error e
    | .ok (c, ⟨r, hr⟩) =>
      match stringBody careful r with
      | .error e => .error e
      | .ok (cs, final) =>
        .ok (c :: cs, (final.of (Nat.le_of_lt hr)).cons)
  | c :: rest =>
    if c.toNat < 32 then .error .malformed
    else
      match stringBody careful rest with
      | .error e => .error e
      | .ok (cs, final) => .ok (c :: cs, final.cons)
termination_by s.length
decreasing_by
  · simp only [List.length_cons]; omega
  · simp only [List.length_cons]; omega

/-! ## Numbers -/

/-- The parts of a number. -/
structure NumberToken where
  /-- Whether a minus sign stands before it. -/
  negative : Bool
  /-- The digits before the point. -/
  whole : List Char
  /-- The digits after the point, if there is one. -/
  fraction : Option (List Char)
  /-- Whether the exponent is negative, and its digits, if there is one. -/
  exponent : Option (Bool × List Char)

/-- The fault of a text that ends within a number. -/
def cutNumber (careful : Bool) : Fault := if careful then .truncated else .malformed

/-- At least one digit. -/
def digitRun (careful : Bool) : Reader (List Char)
  | [] => .error (cutNumber careful)
  | c :: rest =>
    if isAsciiDigit c then
      .ok (c :: rest.takeWhile isAsciiDigit, (Tail.dropWhile isAsciiDigit rest).cons)
    else .error .malformed

/-- The digits before the point: a zero alone, or digits of which the first is no zero. -/
def wholeDigits (careful : Bool) : Reader (List Char)
  | '0' :: c :: rest =>
    if isAsciiDigit c then .error .malformed else .ok (['0'], Rest.tail (c :: rest))
  | s => digitRun careful s

/-- A point and digits after it, if there is a point. -/
def fractionPart (careful : Bool) (s : List Char) :
    Except Fault (Option (List Char) × Tail s) :=
  match s with
  | '.' :: rest =>
    match digitRun careful rest with
    | .ok (digits, r) => .ok (some digits, r.cons.toTail)
    | .error e => .error e
  | s => .ok (none, Tail.whole s)

/-- An exponent's sign. -/
def exponentSign (s : List Char) : Bool × Tail s :=
  match s with
  | '-' :: rest => (true, (Rest.tail rest).toTail)
  | '+' :: rest => (false, (Rest.tail rest).toTail)
  | s => (false, Tail.whole s)

/-- An exponent, if there is one. -/
def exponentPart (careful : Bool) (s : List Char) :
    Except Fault (Option (Bool × List Char) × Tail s) :=
  match s with
  | c :: rest =>
    if c = 'e' ∨ c = 'E' then
      let (negative, ⟨digits, hdigits⟩) := exponentSign rest
      match digitRun careful digits with
      | .ok (e, r) => .ok (some (negative, e), (r.of hdigits).cons.toTail)
      | .error e => .error e
    else .ok (none, Tail.whole (c :: rest))
  | [] => .ok (none, Tail.whole [])

/-- A number without sign. -/
def unsignedToken (careful negative : Bool) : Reader NumberToken := fun s =>
  match wholeDigits careful s with
  | .error e => .error e
  | .ok (whole, ⟨r, hr⟩) =>
    match fractionPart careful r with
    | .error e => .error e
    | .ok (fraction, ⟨r2, hr2⟩) =>
      match exponentPart careful r2 with
      | .error e => .error e
      | .ok (exponent, ⟨r3, hr3⟩) =>
        .ok ({ negative, whole, fraction, exponent }, ⟨r3, by omega⟩)

/-- A number. -/
def numberToken (careful : Bool) : Reader NumberToken
  | '-' :: rest =>
    match unsignedToken careful true rest with
    | .ok (t, r) => .ok (t, r.cons)
    | .error e => .error e
  | s => unsignedToken careful false s

end Provisioning.Json

import Provisioning.Json.Number

/-!
# Reading of JSON text

Readers for values of a known form. The text is read from left to right, and the first fault ends the
reading: a fault of form counts where the text first departs from the form asked for.

## Main definitions

* `string`, `float`, `count`, `optional`: readers of single values
* `itemsThen`, `entriesThen`: the loops over the items of an array and the entries of an object
* `anyValue`: any value, up to a depth of nesting
* `skipValue`: any value that nobody looks at
* `readAll`: a whole text
-/

namespace Provisioning.Json

open Text (Rest)

/-- The depth of nesting from which on a text is refused. -/
def depthLimit : Nat := 128

/-! ## Single values -/

/-- A word whose first letter is known to be there. -/
def wordThen {α : Type} (letters : List Char) (a : α) : Reader α
  | [] => .error .truncated
  | _ :: rest => (word letters rest).map fun r => (a, r.cons)

/-- A string, its opening quote included. -/
def quotedString (careful : Bool) : Reader (List Char)
  | [] => .error .truncated
  | _ :: rest => (stringBody careful rest).map fun (cs, r) => (cs, r.cons)

/-- The fault of a result that is not of the form asked for. -/
def faultOf {α β : Type} : Except Fault (α × β) → Fault
  | .ok _ => .mismatched
  | .error e => e

/-- Whether a character starts a number. -/
def startsNumber (c : Char) : Bool := c == '-' || Text.isAsciiDigit c

/-- The fault of a text that starts with a value of another form: a value without parts is read to
its end first, and its own fault wins. -/
def departure (s : List Char) : Fault :=
  match s.head? with
  | none => .truncated
  | some c =>
    if c = '[' ∨ c = '\x7b' then .mismatched
    else if c = '"' then faultOf (quotedString true s)
    else if c = 'n' then faultOf (wordThen ['u', 'l', 'l'] () s)
    else if c = 't' then faultOf (wordThen ['r', 'u', 'e'] () s)
    else if c = 'f' then faultOf (wordThen ['a', 'l', 's', 'e'] () s)
    else if startsNumber c then faultOf (number s)
    else .malformed

/-- A reader for values that start with certain characters. -/
def startingWith {α : Type} (p : Char → Bool) (reader : Reader α) : Reader α :=
  afterBlank fun s =>
    match s.head? with
    | none => .error .truncated
    | some c => if p c then reader s else .error (departure s)

/-- A string. -/
def string : Reader String :=
  startingWith (· == '"') ((quotedString true).map String.ofList)

/-- A number, whole or not. -/
def numeric : Reader Value := startingWith startsNumber number

/-- The binary64 number of a value. -/
def Value.float? : Value → Option Binary64
  | .integer n => some (.ofInt n)
  | .real x => some x
  | _ => none

/-- The count of a value: a whole number of 32 bits. -/
def Value.count? : Value → Option UInt32
  | .integer n => if 0 ≤ n ∧ n < 0x100000000 then some (UInt32.ofNat n.toNat) else none
  | _ => none

/-- A value that must be there. -/
def orMismatch {α : Type} : Option α → Except Fault α
  | some a => .ok a
  | none => .error .mismatched

/-- A number as binary64. -/
def float : Reader Binary64 := numeric.bind fun v => orMismatch v.float?

/-- A whole number of 32 bits. -/
def count : Reader UInt32 := numeric.bind fun v => orMismatch v.count?

/-- A value or `null`. -/
def optional {α : Type} (reader : Reader α) : Reader (Option α) :=
  afterBlank fun s =>
    if s.head? = some 'n' then wordThen ['u', 'l', 'l'] none s else reader.map some s

/-! ## Arrays and objects -/

/-- What comes between the items of an array: its end, or the text of the next item. -/
inductive Next (s : List Char) where
  /-- The closing bracket was read. -/
  | done (rest : Rest s)
  /-- An item follows. -/
  | more (text : { r : List Char // r.length ≤ s.length })

/-- What follows an item, or the opening bracket if there was no item yet. -/
def nextItem (first : Bool) (s : List Char) : Except Fault (Next s) :=
  match h : skipBlank s with
  | [] => .error .truncated
  | c :: rest =>
    have hs : rest.length < s.length := by
      have := length_skipBlank_le s
      rw [h] at this
      exact this
    if c = ']' then .ok (.done ⟨rest, hs⟩)
    else if first then .ok (.more ⟨c :: rest, hs⟩)
    else if c = ',' then
      match h2 : skipBlank rest with
      | [] => .error .truncated
      | ']' :: _ => .error .malformed
      | d :: rest2 =>
        .ok (.more ⟨d :: rest2, by
          have := length_skipBlank_le rest
          rw [h2] at this
          exact Nat.le_of_lt (Nat.lt_of_le_of_lt this hs)⟩)
    else .error .malformed

/-- The items of an array and its closing bracket; each item is read by a reader that depends on what
was read before. -/
def itemsThen {σ : Type} (item : σ → Reader σ) (first : Bool) (state : σ) (s : List Char) :
    Except Fault (σ × Rest s) :=
  match nextItem first s with
  | .error e => .error e
  | .ok (.done rest) => .ok (state, rest)
  | .ok (.more ⟨text, htext⟩) =>
    match item state text with
    | .error e => .error e
    | .ok (state, ⟨rest, hrest⟩) =>
      match itemsThen item false state rest with
      | .error e => .error e
      | .ok (state, final) => .ok (state, final.of (Nat.le_of_lt (Nat.lt_of_lt_of_le hrest htext)))
termination_by s.length
decreasing_by exact Nat.lt_of_lt_of_le hrest htext

/-- What follows an entry, or the opening brace if there was no entry yet. An entry starts with a
quote. -/
def nextEntry (first : Bool) (s : List Char) : Except Fault (Next s) :=
  match h : skipBlank s with
  | [] => .error .truncated
  | c :: rest =>
    have hs : rest.length < s.length := by
      have := length_skipBlank_le s
      rw [h] at this
      exact this
    if c = '\x7d' then .ok (.done ⟨rest, hs⟩)
    else if first then
      if c = '"' then .ok (.more ⟨c :: rest, hs⟩) else .error .malformed
    else if c = ',' then
      match h2 : skipBlank rest with
      | [] => .error .truncated
      | d :: rest2 =>
        if d = '"' then
          .ok (.more ⟨d :: rest2, by
            have := length_skipBlank_le rest
            rw [h2] at this
            exact Nat.le_of_lt (Nat.lt_of_le_of_lt this hs)⟩)
        else .error .malformed
    else .error .malformed

/-- The colon after a name. -/
def colon : Reader Unit :=
  afterBlank fun s =>
    match s with
    | [] => .error .truncated
    | c :: rest => if c = ':' then .ok ((), Rest.tail rest) else .error .malformed

/-- The entries of an object and its closing brace. A name is read by `key`; `entry` then refuses it,
or gives the reader of its value. -/
def entriesThen {κ σ : Type} (key : Reader κ) (entry : σ → κ → Except Fault (Reader σ))
    (first : Bool) (state : σ) (s : List Char) : Except Fault (σ × Rest s) :=
  match nextEntry first s with
  | .error e => .error e
  | .ok (.done rest) => .ok (state, rest)
  | .ok (.more ⟨text, htext⟩) =>
    match key text with
    | .error e => .error e
    | .ok (name, ⟨afterName, hname⟩) =>
      match entry state name with
      | .error e => .error e
      | .ok reader =>
        match colon afterName with
        | .error e => .error e
        | .ok (_, ⟨afterColon, hcolon⟩) =>
          match reader afterColon with
          | .error e => .error e
          | .ok (state, ⟨rest, hrest⟩) =>
            match entriesThen key entry false state rest with
            | .error e => .error e
            | .ok (state, final) => .ok (state, final.of (by omega))
termination_by s.length
decreasing_by omega

/-- A name in an object. -/
def name : Reader String := (quotedString true).map String.ofList

/-- A reader after an opening bracket or brace. -/
def afterOpening {α : Type} (reader : Reader α) : Reader α
  | [] => .error .truncated
  | _ :: rest =>
    match reader rest with
    | .ok (a, r) => .ok (a, r.cons)
    | .error e => .error e

/-- An array, read item by item. -/
def array {σ : Type} (item : σ → Reader σ) (state : σ) : Reader σ :=
  startingWith (· == '[') (afterOpening (itemsThen item true state))

/-- An object, read entry by entry. -/
def object {κ σ : Type} (key : Reader κ) (entry : σ → κ → Except Fault (Reader σ)) (state : σ) :
    Reader σ :=
  startingWith (· == '\x7b') (afterOpening (entriesThen key entry true state))

/-! ## Values of any form -/

/-- Any value. Within `depth` levels, arrays and objects may be nested `depth - 1` deep. -/
def anyValue : Nat → Reader Value
  | 0 => fun _ => .error .malformed
  | depth + 1 =>
    afterBlank fun s =>
      match s.head? with
      | none => .error .truncated
      | some c =>
        if c = 'n' then wordThen ['u', 'l', 'l'] Value.null s
        else if c = 't' then wordThen ['r', 'u', 'e'] (Value.bool true) s
        else if c = 'f' then wordThen ['a', 'l', 's', 'e'] (Value.bool false) s
        else if startsNumber c then number s
        else if c = '"' then (quotedString true).map (fun cs => Value.string (String.ofList cs)) s
        else if c = '[' then
          if depth = 0 then .error .malformed
          else
            Reader.map (fun items => Value.array items.reverse)
              (afterOpening (itemsThen
                (fun items => (anyValue depth).map (· :: items)) true [])) s
        else if c = '\x7b' then
          if depth = 0 then .error .malformed
          else
            Reader.map (fun members => Value.object members.reverse)
              (afterOpening (entriesThen name
                (fun members name => .ok ((anyValue depth).map fun v => (name, v) :: members))
                true [])) s
        else .error .malformed

/-- What a value without parts is, read carelessly. -/
def skipScalar : Reader Unit := fun s =>
  match s.head? with
  | none => .error .truncated
  | some c =>
    if c = 'n' then wordThen ['u', 'l', 'l'] () s
    else if c = 't' then wordThen ['r', 'u', 'e'] () s
    else if c = 'f' then wordThen ['a', 'l', 's', 'e'] () s
    else if startsNumber c then (numberToken false).map (fun _ => ()) s
    else if c = '"' then (quotedString false).map (fun _ => ()) s
    else .error .malformed

/-- Any value, nested to any depth within `fuel`, of which only the form matters. -/
def skipWithin : Nat → Reader Unit
  | 0 => fun _ => .error .malformed
  | fuel + 1 =>
    afterBlank fun s =>
      if s.head? = some '[' then afterOpening (itemsThen (fun _ => skipWithin fuel) true ()) s
      else if s.head? = some '\x7b' then
        afterOpening (entriesThen ((quotedString false).map fun _ => ())
          (fun _ _ => .ok (skipWithin fuel)) true ()) s
      else skipScalar s

/-- Any value, of which only the form matters. Each level of nesting takes a character. -/
def skipValue : Reader Unit := fun s => skipWithin (s.length + 1) s

/-! ## Whole texts -/

/-- A value and nothing but blanks after it. -/
def readAll {α : Type} (reader : Reader α) (text : String) : Except Fault α :=
  match reader text.toList with
  | .error e => .error e
  | .ok (a, rest) => if (skipBlank rest.1).isEmpty then .ok a else .error .malformed

end Provisioning.Json

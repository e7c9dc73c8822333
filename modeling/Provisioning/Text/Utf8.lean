/-!
# Bytes as text

Two readings of a byte list as UTF-8: the strict one refuses malformed bytes, the lossy one puts
`U+FFFD` for each malformed part.

## Main definitions

* `ofUtf8?`: the strict reading
* `ofUtf8Lossy`: the lossy reading
-/

namespace Provisioning.Text

/-- The text of well-formed UTF-8 bytes. -/
def ofUtf8? (bytes : ByteArray) : Option String :=
  String.fromUTF8? bytes

/-- Whether a byte continues a sequence, `low` and `high` being the bounds at its place. -/
def continues (low high : Nat) : Option UInt8 → Bool
  | some b => low ≤ b.toNat && b.toNat ≤ high
  | none => false

/-- The allowed second bytes after a leading byte, and the number of bytes that follow it; `none`
for a byte that leads no sequence of several bytes. -/
def leadingByte? (b : Nat) : Option (Nat × Nat × Nat) :=
  if 0xC2 ≤ b ∧ b ≤ 0xDF then some (0x80, 0xBF, 1)
  else if b = 0xE0 then some (0xA0, 0xBF, 2)
  else if b = 0xED then some (0x80, 0x9F, 2)
  else if 0xE1 ≤ b ∧ b ≤ 0xEF then some (0x80, 0xBF, 2)
  else if b = 0xF0 then some (0x90, 0xBF, 3)
  else if b = 0xF4 then some (0x80, 0x8F, 3)
  else if 0xF1 ≤ b ∧ b ≤ 0xF3 then some (0x80, 0xBF, 3)
  else none

/-- The number of continuation bytes, at most `want`, at the head of a list. -/
def continuationCount (want : Nat) (rest : List UInt8) : Nat :=
  ((rest.take want).takeWhile fun b => continues 0x80 0xBF (some b)).length

/-- The character at the head of a byte list, and how many bytes after the first belong to it. A
malformed part is the longest start of a sequence that is there. -/
def leadingChar (b : UInt8) (rest : List UInt8) : Char × Nat :=
  if b.toNat < 0x80 then (Char.ofNat b.toNat, 0)
  else
    match leadingByte? b.toNat with
    | none => ('\uFFFD', 0)
    | some (low, high, want) =>
      if continues low high rest.head? then
        let found := 1 + continuationCount (want - 1) (rest.drop 1)
        if found = want then
          let lead := b.toNat % Nat.pow 2 (6 - want)
          let value := (rest.take want).foldl (fun n c => n * 64 + c.toNat % 64) lead
          (Char.ofNat value, want)
        else ('\uFFFD', found)
      else ('\uFFFD', 0)

/-- The characters of a byte list, malformed parts replaced. -/
def charsLossy : List UInt8 → List Char
  | [] => []
  | b :: rest =>
    let (c, used) := leadingChar b rest
    c :: charsLossy (rest.drop used)
termination_by bytes => bytes.length
decreasing_by simp only [List.length_drop, List.length_cons]; omega

/-- The text of any bytes, each malformed part replaced by `U+FFFD`. -/
def ofUtf8Lossy (bytes : ByteArray) : String :=
  String.ofList (charsLossy bytes.toList)

end Provisioning.Text

import Provisioning.Network.Block
import Provisioning.Network.Error
import Provisioning.Text.Blank
import Provisioning.Text.DecimalDigit
import Provisioning.Text.Natural

/-!
# Block notation

The reading of `address/prefix` texts.

## Main definitions

* `splitFirst`: a text cut at the first occurrence of a character
* `octet?`, `Address.ofChars?`: four decimal octets without leading zeros
* `prefixLength?`: a prefix length of at most 32
* `Block.read`: the block of a text; bits beyond the prefix are cleared
* `hostRangeOf`: the host range of a block's text
-/

namespace Provisioning

open Text Log

/-- A text cut at the first occurrence of a character, which is dropped. -/
def splitFirst (mark : Char) : List Char → Option (List Char × List Char)
  | [] => none
  | c :: rest =>
    if c = mark then some ([], rest)
    else (splitFirst mark rest).map fun (before, after) => (c :: before, after)

/-- An octet: one to three digits without a leading zero, at most 255. -/
def octet? (s : List Char) : Option UInt8 :=
  if s.isEmpty || 3 < s.length || !s.all isAsciiDigit || (s.head? == some '0' && 1 < s.length) then
    none
  else if naturalOf s ≤ 255 then some (UInt8.ofNat (naturalOf s))
  else none

/-- Four octets with dots between them. -/
def Address.ofChars? (s : List Char) : Option Address :=
  match s.splitOn '.' with
  | [a, b, c, d] =>
    match octet? a, octet? b, octet? c, octet? d with
    | some a, some b, some c, some d => some ⟨a, b, c, d⟩
    | _, _, _, _ => none
  | _ => none

/-- A prefix length: a number of eight bits, at most 32. Such a number may start with a plus sign, which
no prefix length does. -/
def prefixLength? (s : List Char) : Option Nat :=
  (readNatural? 0xFF (String.ofList s)).filter fun p => p ≤ 32 && s.all isAsciiDigit

/-- The block of a text, blanks around it aside. Errors show the text without those blanks. -/
def Block.read (raw : String) : Except AddressError Block :=
  let trimmed := trimChars raw.toList
  match splitFirst '/' trimmed with
  | none => .error (.missingPrefix (String.ofList trimmed))
  | some (before, after) =>
    match Address.ofChars? before with
    | none => .error (.invalidAddress (String.ofList trimmed))
    | some address =>
      match prefixLength? after with
      | none => .error (.invalidPrefix (String.ofList trimmed))
      | some p => .ok (Block.containing address p)

/-- The host range of a block's text. -/
def hostRangeOf (raw : String) : Logged (Except AddressError AddressRange) :=
  match Block.read raw with
  | .error e => pure (.error e)
  | .ok block => do return .ok (← block.hostRangeLogged)

end Provisioning

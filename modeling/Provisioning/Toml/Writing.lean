import Provisioning.Decimal.Notation
import Provisioning.Toml.Strings

/-!
# Written TOML

## Main definitions

* `keyText`: a key, bare if it can be, else in the quotes that need no escapes, else escaped
* `sectionText`: a table under a header
-/

namespace Provisioning.Toml

open Text (repeated)

/-- The control characters that no quoted key shows as they are. A tab may stand in quotes. -/
def needsCode (c : Char) : Bool := (c.toNat < 0x20 && c != '\t') || c.toNat == 0x7F

/-- Four hexadecimal digits in capitals. -/
def fourHexDigits (n : Nat) : List Char :=
  let digits := (Nat.toDigits 16 n).map Char.toUpper
  List.replicate (4 - digits.length) '0' ++ digits

/-- A character within double quotes. -/
def escapedChar (c : Char) : List Char :=
  if c = '\x08' then ['\\', 'b']
  else if c = '\t' then ['\\', 't']
  else if c = '\n' then ['\\', 'n']
  else if c = '\x0c' then ['\\', 'f']
  else if c = '\r' then ['\\', 'r']
  else if c = '"' then ['\\', '"']
  else if c = '\\' then ['\\', '\\']
  else if needsCode c then '\\' :: 'u' :: fourHexDigits c.toNat
  else [c]

/-- A key in double quotes, with escapes. -/
def basicText (key : List Char) : String :=
  "\"" ++ String.ofList (key.flatMap escapedChar) ++ "\""

/-- A key as it is written. -/
def keyText (key : String) : String :=
  let cs := key.toList
  if !cs.isEmpty && cs.all isBareKeyChar then key
  else if cs.any needsCode then basicText cs
  else if !cs.contains '\\' && !cs.contains '"' then basicText cs
  else if !cs.contains '\'' then "'" ++ key ++ "'"
  else basicText cs

/-- An entry of a table. -/
def entryText (key value : String) : String := keyText key ++ " = " ++ value ++ "\n"

/-- A table under a header, entries in order. -/
def sectionText (header : String) (entries : List (String × String)) : String :=
  "[" ++ keyText header ++ "]\n" ++ String.join (entries.map fun (k, v) => entryText k v)

/-- The text of a number. -/
def numberText (x : Binary64) : String := NumberStyle.toml.render x

end Provisioning.Toml

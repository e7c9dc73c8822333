import Provisioning.Text.DecimalDigit
import Provisioning.Text.Rest

/-!
# TOML strings and keys

## Main definitions

* `basicString`, `literalString`: the strings on one line
* `longBasicString`, `longLiteralString`: the strings over several lines
* `stringLiteral`: any string
* `simpleKey`, `dottedKey`: a key's part, and a key
-/

namespace Provisioning.Toml

open Text

/-- The blanks within a line. -/
def isSpace (c : Char) : Bool := c == ' ' || c == '\t'

/-- The characters of texts and comments: all but the control characters; a tab is allowed. -/
def isPrintable (c : Char) : Bool := c == '\t' || (0x20 ≤ c.toNat && c.toNat != 0x7F)

/-- The text after blanks. -/
def skipSpace (s : List Char) : Tail s := Tail.dropWhile isSpace s

/-- A line break: a line feed, or a carriage return and a line feed. -/
def lineBreak : Scanner Unit
  | '\n' :: rest => some ((), Rest.tail rest)
  | '\r' :: '\n' :: rest => some ((), (Rest.tail rest).cons)
  | _ => none

/-- A line break, if there is one. -/
def skipLineBreak (s : List Char) : Tail s :=
  match lineBreak s with
  | some (_, r) => r.toTail
  | none => Tail.whole s

/-! ## Escapes -/

/-- The value of a hexadecimal digit. -/
def hexValue (c : Char) : Nat :=
  if c ≤ '9' then c.toNat - 48 else if c ≤ 'F' then c.toNat - 55 else c.toNat - 87

/-- The hexadecimal digits. -/
def isHexDigit (c : Char) : Bool :=
  isAsciiDigit c || ('a' ≤ c && c ≤ 'f') || ('A' ≤ c && c ≤ 'F')

/-- The character of a code point that is one. -/
def charOfCode? (n : Nat) : Option Char :=
  if n < 0xD800 ∨ (0xDFFF < n ∧ n < 0x110000) then some (Char.ofNat n) else none

/-- The character of a code point in a given number of hexadecimal digits, less one. -/
def codePoint (more : Nat) : Scanner Char :=
  (Scanner.times (Scanner.char isHexDigit) more).filterMap fun digits =>
    charOfCode? (digits.foldl (fun n c => 16 * n + hexValue c) 0)

/-- The character of an escape, after its backslash. -/
def escapeSequence : Scanner Char
  | [] => none
  | c :: rest =>
    let give (d : Char) : Option (Char × Rest (c :: rest)) := some (d, Rest.tail rest)
    let code (more : Nat) : Option (Char × Rest (c :: rest)) :=
      (codePoint more rest).map fun (d, r) => (d, r.cons)
    if c = 'b' then give '\x08'
    else if c = 't' then give '\t'
    else if c = 'n' then give '\n'
    else if c = 'f' then give '\x0c'
    else if c = 'r' then give '\r'
    else if c = '"' then give '"'
    else if c = '\\' then give '\\'
    else if c = 'u' then code 3
    else if c = 'U' then code 7
    else none

/-! ## Strings on one line -/

/-- A character of a basic string, escapes included. -/
def basicChar : Scanner Char
  | '\\' :: rest => (escapeSequence rest).map fun (d, r) => (d, r.cons)
  | s => Scanner.char (fun c => isPrintable c && c != '"') s

/-- Characters of a class after an opening quote, and the closing quote. -/
def between (quote : Char) (content : Scanner Char) : Scanner String :=
  ((Scanner.exact quote).thenMany content).before (Scanner.exact quote) |>.map fun (_, cs) =>
    String.ofList cs

/-- A string in double quotes. -/
def basicString : Scanner String := between '"' basicChar

/-- A string in single quotes, which knows no escapes. -/
def literalString : Scanner String :=
  between '\'' (Scanner.char fun c => isPrintable c && c != '\'')

/-! ## Strings over several lines -/

/-- What a backslash at the end of a line drops: the line break, and the blanks and line breaks up to
the next text. -/
def lineContinuation : Scanner Unit :=
  let blank : Scanner Unit := (Scanner.char isSpace).map fun _ => ()
  Scanner.skipping skipSpace (lineBreak.thenMany (lineBreak.orElse blank)) |>.map fun _ => ()

/-- Some characters of a long string: escapes count only in a basic one. A line break is a line
feed, whatever it is written as. -/
def longContent (quote : Char) (escapes : Bool) : Scanner (List Char) := fun s =>
  match lineBreak s with
  | some (_, r) => some (['\n'], r)
  | none =>
    match s with
    | [] => none
    | c :: rest =>
      if escapes && c == '\\' then
        match lineContinuation rest with
        | some (_, r) => some ([], r.cons)
        | none => (escapeSequence rest).map fun (d, r) => ([d], r.cons)
      else if isPrintable c && c != quote then some ([c], Rest.tail rest)
      else none

/-- One or two quotes that do not close a long string. -/
def innerQuotes (quote : Char) : Scanner (List Char) := fun s =>
  match s with
  | a :: b :: c :: rest =>
    if a = quote ∧ b ≠ quote then some ([a], Rest.tail (b :: c :: rest))
    else if a = quote ∧ c ≠ quote then some ([a, b], (Rest.tail (c :: rest)).cons)
    else none
  | _ => none

/-- The end of a long string: three quotes, after at most two more that belong to it. -/
def longEnd (quote : Char) : Scanner (List Char) := fun s =>
  let close : Scanner Unit := Scanner.letters quote [quote, quote]
  let withQuotes : List Char → Scanner (List Char)
    | [] => close.map fun _ => []
    | more => (Scanner.letters quote more.tail).andThen fun _ => close.map fun _ => more
  match withQuotes [quote, quote] s with
  | some x => some x
  | none =>
    match withQuotes [quote] s with
    | some x => some x
    | none => withQuotes [] s

/-- A string in three quotes on each side; a line break after the first three does not count. -/
def longString (quote : Char) (escapes : Bool) : Scanner String :=
  let opening := Scanner.letters quote [quote, quote]
  let content := (longContent quote escapes).orElse (innerQuotes quote)
  (opening.andThen fun _ => Scanner.skipping skipLineBreak fun s =>
      let (parts, ⟨r, hr⟩) := Scanner.many content s
      match longEnd quote r with
      | none => none
      | some (last, final) => some (String.ofList (parts.flatten ++ last), final.of hr))

/-- A basic string over several lines. -/
def longBasicString : Scanner String := longString '"' true

/-- A literal string over several lines. -/
def longLiteralString : Scanner String := longString '\'' false

/-- Any string. -/
def stringLiteral : Scanner String :=
  ((longBasicString.orElse basicString).orElse longLiteralString).orElse literalString

/-! ## Keys -/

/-- The characters of a key without quotes. -/
def isBareKeyChar (c : Char) : Bool :=
  isAsciiDigit c || ('a' ≤ c && c ≤ 'z') || ('A' ≤ c && c ≤ 'Z') || c == '-' || c == '_'

/-- A part of a key, with blanks around it. -/
def simpleKey : Scanner String := fun s =>
  let part :=
    (basicString.orElse literalString).orElse ((Scanner.run isBareKeyChar).map String.ofList)
  match Scanner.skipping skipSpace part s with
  | none => none
  | some (key, ⟨r, hr⟩) => some (key, ⟨(skipSpace r).1, Nat.lt_of_le_of_lt (skipSpace r).2 hr⟩)

/-- The number of parts from which on a key is refused. -/
def keyLimit : Nat := 80

/-- A key: its parts with dots between them. -/
def dottedKey : Scanner (List String) :=
  (simpleKey.thenMany ((Scanner.exact '.').andThen fun _ => simpleKey)).filterMap fun (k, ks) =>
    if ks.length + 1 < keyLimit then some (k :: ks) else none

end Provisioning.Toml

import Provisioning.Text.DecimalDigit

/-!
# Utilities

The programs that scripts use for text.

## Main definitions

* `echoed`: what `echo` writes
* `printed`: what `printf` writes
* `signalNumber?`: the number of a signal by its name
-/

namespace Provisioning.Shell

open Text

/-- The value of up to `count` octal digits, and what stands behind them. -/
def octal (count : Nat) (s : List Char) : Nat × List Char :=
  let digits := (s.take count).takeWhile fun c => '0' ≤ c && c ≤ '7'
  (digits.foldl (fun n c => n * 8 + (c.toNat - '0'.toNat)) 0, s.drop digits.length)

/-- The byte of a letter behind a backslash. -/
def escapeByte? : Char → Option UInt8
  | 'a' => some 7
  | 'b' => some 8
  | 'f' => some 12
  | 'n' => some 10
  | 'r' => some 13
  | 't' => some 9
  | 'v' => some 11
  | '\\' => some 92
  | _ => none

/-- The bytes of a character. -/
def charBytes (c : Char) : List UInt8 := (String.singleton c).toUTF8.toList

/-- The bytes of a text. -/
def textBytes (s : String) : List UInt8 := s.toUTF8.toList

/-- The bytes of the text of `echo`, backslashes resolved, and whether the text goes on to its end. -/
def echoBytes : Nat → List Char → List UInt8 × Bool
  | 0, _ => ([], true)
  | _, [] => ([], true)
  | limit + 1, '\\' :: c :: rest =>
    if c = 'c' then ([], false)
    else
      let (head, rest) : List UInt8 × List Char :=
        if c = '0' then let (n, rest) := octal 3 rest; ([UInt8.ofNat n], rest)
        else
          match escapeByte? c with
          | some b => ([b], rest)
          | none => (charBytes '\\' ++ charBytes c, rest)
      let (tail, whole) := echoBytes limit rest
      (head ++ tail, whole)
  | limit + 1, c :: rest =>
    let (tail, whole) := echoBytes limit rest
    (charBytes c ++ tail, whole)

/-- What `echo` writes: its arguments with spaces between them and a newline, without the newline
after `-n`. -/
def echoed (arguments : List String) : List UInt8 :=
  let (newline, arguments) :=
    match arguments with
    | "-n" :: rest => (false, rest)
    | _ => (true, arguments)
  let text := (String.intercalate " " arguments).toList
  let (bytes, whole) := echoBytes (text.length + 1) text
  bytes ++ (if newline && whole then [10] else [])

/-- One pass over a format: the bytes, the arguments that are left, and whether one was asked for. -/
def formatPass : Nat → List Char → List String → List UInt8 × List String × Bool
  | 0, _, arguments => ([], arguments, false)
  | _, [], arguments => ([], arguments, false)
  | limit + 1, '\\' :: c :: rest, arguments =>
    let (head, rest) : List UInt8 × List Char :=
      if '0' ≤ c && c ≤ '7' then
        let (n, rest) := octal 3 (c :: rest)
        ([UInt8.ofNat n], rest)
      else
        match escapeByte? c with
        | some b => ([b], rest)
        | none => (charBytes '\\' ++ charBytes c, rest)
    let (tail, left, used) := formatPass limit rest arguments
    (head ++ tail, left, used)
  | limit + 1, '%' :: '%' :: rest, arguments =>
    let (tail, left, used) := formatPass limit rest arguments
    (37 :: tail, left, used)
  | limit + 1, '%' :: c :: rest, arguments =>
    let argument := arguments.headD ""
    let head : List UInt8 :=
      if c = 'd' ∨ c = 'i' ∨ c = 'u' then textBytes (if argument = "" then "0" else argument)
      else if c = 'b' then (echoBytes (argument.length + 1) argument.toList).1
      else if c = 'c' then textBytes (argument.take 1).toString
      else textBytes argument
    let (tail, left, _) := formatPass limit rest arguments.tail
    (head ++ tail, left, true)
  | limit + 1, c :: rest, arguments =>
    let (tail, left, used) := formatPass limit rest arguments
    (charBytes c ++ tail, left, used)

/-- The passes over a format that use up the arguments. -/
def formatPasses (format : List Char) : Nat → List String → List UInt8
  | 0, _ => []
  | limit + 1, arguments =>
    let (bytes, left, used) := formatPass (format.length + 1) format arguments
    if used && !left.isEmpty then bytes ++ formatPasses format limit left else bytes

/-- What `printf` writes: the format, again and again while it uses up arguments. -/
def printed (format : String) (arguments : List String) : List UInt8 :=
  formatPasses format.toList (arguments.length + 1) arguments

/-- The numbers of the signals by their names. -/
def signals : List (String × Nat) :=
  [("HUP", 1), ("INT", 2), ("QUIT", 3), ("ILL", 4), ("TRAP", 5), ("ABRT", 6), ("BUS", 7),
    ("FPE", 8), ("KILL", 9), ("USR1", 10), ("SEGV", 11), ("USR2", 12), ("PIPE", 13), ("ALRM", 14),
    ("TERM", 15), ("CHLD", 17), ("CONT", 18), ("URG", 23), ("WINCH", 28)]

/-- The number of a signal, by its name, with or without `SIG`, or by its number. -/
def signalNumber? (s : String) : Option Nat :=
  let digits := s.toList
  if !digits.isEmpty && digits.all isAsciiDigit then some (naturalOf digits)
  else (signals.find? fun e => e.1 == s || "SIG" ++ e.1 == s).map Prod.snd

/-- Whether a signal ends a process that does not mind it. -/
def ends (signal : Nat) : Bool := signal ∉ [0, 17, 18, 23, 28]

end Provisioning.Shell

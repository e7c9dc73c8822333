import Provisioning.Text.DecimalDigit

/-!
# Arithmetic of shell scripts

Whole numbers, variables and parentheses, joined by operators. Operators of a closer level bind
first, and those of one level from the left.

## Main definitions

* `ArithmeticFault`: why a text has no value
* `Operator`, `levels`: the operators, those that bind closest last
* `arithmeticValue`: the value of a text
-/

namespace Provisioning.Shell

open Text (isAsciiDigit naturalOf)

/-- Why a text has no value. -/
inductive ArithmeticFault where
  /-- A number, a variable or a parenthesis is missing. -/
  | missingPrimary
  /-- The text goes on where it should end. -/
  | trailing
  /-- A number is divided by zero. -/
  | divisionByZero
deriving DecidableEq

/-- What is said about a fault. -/
def ArithmeticFault.remark : ArithmeticFault → String
  | .missingPrimary => "expecting primary"
  | .trailing => "expecting EOF"
  | .divisionByZero => "division by zero"

/-- An operator: its characters and what it makes of two numbers. -/
structure Operator where
  sign : List Char
  apply : Int → Int → Except ArithmeticFault Int

/-- One for a relation that holds, else zero. -/
def truth (holds : Bool) : Except ArithmeticFault Int := .ok (if holds then 1 else 0)

/-- A quotient, unless the divisor is zero. -/
def divided (f : Int → Int → Int) (x y : Int) : Except ArithmeticFault Int :=
  if y = 0 then .error .divisionByZero else .ok (f x y)

/-- The operators by level, those that bind closest last. -/
def levels : List (List Operator) := [
  [⟨['=', '='], fun x y => truth (x == y)⟩, ⟨['!', '='], fun x y => truth (x != y)⟩],
  [⟨['<', '='], fun x y => truth (x ≤ y)⟩, ⟨['>', '='], fun x y => truth (y ≤ x)⟩,
    ⟨['<'], fun x y => truth (x < y)⟩, ⟨['>'], fun x y => truth (y < x)⟩],
  [⟨['+'], fun x y => .ok (x + y)⟩, ⟨['-'], fun x y => .ok (x - y)⟩],
  [⟨['*'], fun x y => .ok (x * y)⟩, ⟨['/'], divided Int.tdiv⟩, ⟨['%'], divided Int.tmod⟩]]

/-- The text without blanks at its head. -/
def skipSpaces (s : List Char) : List Char := s.dropWhile fun c => c = ' ' || c = '\t' || c = '\n'

/-- The characters of variables. -/
def isVariableLetter (c : Char) : Bool := c.isAlphanum || c = '_'

section Reading

variable (lookup : String → Int)

mutual

/-- The number at the head of a text, from the operators of some levels on. -/
def readLevel : Nat → List (List Operator) → List Char → Except ArithmeticFault (Int × List Char)
  | 0, _, _ => .error .missingPrimary
  | limit + 1, [], s => readPrimary limit (skipSpaces s)
  | limit + 1, operators :: closer, s => do
    let (x, rest) ← readLevel limit closer s
    readOperands limit operators closer x (skipSpaces rest)

/-- The number that a first one and the operators of a level behind it make. -/
def readOperands : Nat → List Operator → List (List Operator) → Int → List Char →
    Except ArithmeticFault (Int × List Char)
  | 0, _, _, _, _ => .error .missingPrimary
  | limit + 1, operators, closer, x, s =>
    match operators.find? fun o => o.sign.isPrefixOf s with
    | none => .ok (x, s)
    | some o => do
      let (y, rest) ← readLevel limit closer (s.drop o.sign.length)
      readOperands limit operators closer (← o.apply x y) (skipSpaces rest)

/-- A number with signs before it, a variable, or a text in parentheses. -/
def readPrimary : Nat → List Char → Except ArithmeticFault (Int × List Char)
  | 0, _ => .error .missingPrimary
  | limit + 1, '(' :: s => do
    let (x, rest) ← readLevel limit levels s
    match skipSpaces rest with
    | ')' :: rest => return (x, rest)
    | _ => throw .trailing
  | limit + 1, '-' :: s => do
    let (x, rest) ← readPrimary limit (skipSpaces s)
    return (-x, rest)
  | limit + 1, '+' :: s => readPrimary limit (skipSpaces s)
  | _ + 1, s =>
    let name := s.takeWhile isVariableLetter
    let rest := s.drop name.length
    if name.isEmpty then .error .missingPrimary
    else if name.all isAsciiDigit then .ok (naturalOf name, rest)
    else if name.head?.any isAsciiDigit then .error .trailing
    else .ok (lookup (String.ofList name), rest)

end

/-- The value of a text, where `lookup` gives the values of variables. A dollar sign before a
variable may stand or not. -/
def arithmeticValue (text : String) : Except ArithmeticFault Int := do
  let s := text.toList.filter (· ≠ '$')
  let (x, rest) ← readLevel lookup ((levels.length + 2) * (s.length + 1)) levels s
  if (skipSpaces rest).isEmpty then return x else throw .trailing

end Reading

end Provisioning.Shell

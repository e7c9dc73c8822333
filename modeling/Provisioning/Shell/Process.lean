import Provisioning.Shell.Arithmetic
import Provisioning.Shell.Script
import Provisioning.Time.Span

/-!
# Shell processes

The state of a shell, and the arguments that its words stand for.

## Main definitions

* `Exit`: how a program ends
* `Process`: a shell under way
* `Process.fields`: the arguments that words stand for
-/

namespace Provisioning.Shell

/-- How a program ends. -/
inductive Exit where
  /-- With a status. -/
  | code (status : Nat)
  /-- By a signal. -/
  | signal (number : Nat)
deriving DecidableEq

/-- The status that a shell sees of a program's end. -/
def Exit.status : Exit → Nat
  | .code status => status
  | .signal number => 128 + number

/-- A shell under way. -/
structure Process where
  /-- The name of the script. -/
  name : String
  /-- The arguments of the script. -/
  arguments : List String := []
  /-- The values of the variables, the latest first. -/
  bindings : List (String × String) := []
  /-- The status of the last command. -/
  status : Nat := 0
  /-- How the shell ended, once it has. -/
  ended : Option Exit := none
  /-- What was written to the output. -/
  output : ByteArray := .empty
  /-- What was written to the error stream. -/
  errors : ByteArray := .empty
  /-- What was written to the pipe. -/
  piped : ByteArray := .empty
  /-- The time spent asleep. -/
  slept : Span := .zero

namespace Process

/-- The process after a command with a status. -/
def done (p : Process) (status : Nat) : Process := { p with status }

/-- The value of a variable. -/
def variableText (p : Process) (name : String) : String :=
  ((p.bindings.find? fun v => v.1 == name).map Prod.snd).getD ""

/-- The number that a variable holds; any other text counts as zero. -/
def variableNumber (p : Process) (name : String) : Int := (p.variableText name).toInt?.getD 0

/-- The value of a parameter. What is still to be computed has none. -/
def value (p : Process) : Parameter → String
  | .status => toString p.status
  | .process => "1"
  | .count => toString p.arguments.length
  | .each | .joined => String.intercalate " " p.arguments
  | .position 0 => p.name
  | .position (n + 1) => (p.arguments[n]?).getD ""
  | .variable name => p.variableText name
  | .fallback name text => if p.variableText name = "" then text else p.variableText name
  | .output _ | .sum _ => ""
  | .known text => text

/-- The process with a variable set. -/
def assign (p : Process) (name value : String) : Process :=
  { p with bindings := (name, value) :: p.bindings.filter fun v => v.1 ≠ name }

/-! ## Fields -/

/-- Fields under way: those complete, the last one first, and the one that may go on. -/
structure Fields where
  complete : List String := []
  current : Option String := none

namespace Fields

/-- More text for the current field. -/
def add (f : Fields) (s : String) : Fields := { f with current := some (f.current.getD "" ++ s) }

/-- The current field is complete. -/
def cut (f : Fields) : Fields :=
  match f.current with
  | some s => ⟨s :: f.complete, none⟩
  | none => f

/-- More text, which is cut at spaces, tabs and newlines. -/
def addSplit (f : Fields) (s : String) : Fields :=
  s.toList.foldl (fun f c =>
    if c = ' ' ∨ c = '\t' ∨ c = '\n' then f.cut else f.add (String.singleton c)) f

/-- Several arguments, each a field; the first and the last join with what stands beside them. -/
def addEach (f : Fields) : List String → Fields
  | [] => f
  | [s] => f.add s
  | s :: more => addEach (f.add s).cut more

end Fields

/-- The fields with a piece of a word added. -/
def addPiece (p : Process) (f : Fields) : Piece → Fields
  | .text s _ => f.add s
  | .parameter .each true => f.addEach p.arguments
  | .parameter q true => f.add (p.value q)
  | .parameter q false => f.addSplit (p.value q)

/-- The arguments that a word stands for. -/
def wordFields (p : Process) (w : Word) : List String :=
  (w.foldl p.addPiece {}).cut.complete.reverse

/-- The arguments that words stand for. -/
def fields (p : Process) (words : List Word) : List String := words.flatMap p.wordFields

/-- The text that a word stands for where it is not split. -/
def wordText (p : Process) (w : Word) : String :=
  String.join (w.map fun
    | .text s _ => s
    | .parameter q _ => p.value q)

end Process

/-! ## Assignments -/

/-- The name and value of a word that sets a variable. -/
def assignment? : Word → Option (String × Word)
  | .text s false :: more =>
    let letters := s.toList
    let name := letters.takeWhile isNameLetter
    match letters.drop name.length with
    | '=' :: value =>
      if name.isEmpty ∨ name.head?.any Char.isDigit then none
      else some (String.ofList name, .text (String.ofList value) false :: more)
    | _ => none
  | _ => none

/-- The assignments at the head of words, and the other words. -/
def splitAssignments : List Word → List (String × Word) × List Word
  | [] => ([], [])
  | w :: words =>
    match assignment? w with
    | some a =>
      let (more, rest) := splitAssignments words
      (a :: more, rest)
    | none => ([], w :: words)

end Provisioning.Shell

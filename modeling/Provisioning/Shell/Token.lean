import Provisioning.Text.DecimalDigit

/-!
# Tokens of a shell script

A script is read character by character. Quotes, backslashes, parameters and operators of several
characters are modes of the reader.

## Main definitions

* `Parameter`, `Piece`, `Word`: words, with what is to be put into them
* `Token`: words, operators and redirections
* `readTokens`: the tokens of a script, up to quotes that are left open
-/

namespace Provisioning.Shell

open Text

/-- What a script can ask for by a dollar sign. -/
inductive Parameter where
  /-- The status of the last command. -/
  | status
  /-- The number of the process. -/
  | process
  /-- The number of arguments. -/
  | count
  /-- The arguments, each for itself. -/
  | each
  /-- The arguments, with spaces between them. -/
  | joined
  /-- The argument at a position; at position 0 the name of the script. -/
  | position (n : Nat)
  /-- A variable. -/
  | variable (name : String)
  /-- A variable, or another text where it is empty. -/
  | fallback (name text : String)
  /-- What a script writes. -/
  | output (script : String)
  /-- The value of a sum. -/
  | sum (text : String)
  /-- A text that is known. -/
  | known (text : String)
deriving DecidableEq

/-- A piece of a word, within quotes or not. -/
inductive Piece where
  | text (s : String) (quoted : Bool)
  | parameter (p : Parameter) (quoted : Bool)
deriving DecidableEq

/-- A word: its pieces in order. -/
abbrev Word := List Piece

/-- A token, with operators as they stand. A redirection has the number of its stream. -/
inductive Token where
  | word (w : Word)
  | operator (text : String)
  | redirection (stream : Nat) (text : String)
deriving DecidableEq

/-- What the reader is in. -/
inductive Mode where
  | plain
  | single
  | double
  | comment
  /-- Behind a backslash. -/
  | escape (quoted : Bool)
  /-- Behind a dollar sign. -/
  | dollar (quoted : Bool)
  /-- Within a name behind a dollar sign, its letters in reverse. -/
  | name (letters : List Char) (quoted : Bool)
  /-- Within braces behind a dollar sign, their letters in reverse. -/
  | braced (letters : List Char) (quoted : Bool)
  /-- Within parentheses behind a dollar sign, their letters in reverse. -/
  | nested (depth : Nat) (letters : List Char) (quoted : Bool)
  /-- Within backquotes, their letters in reverse. -/
  | backquoted (letters : List Char) (quoted : Bool)
deriving DecidableEq

/-- A reader under way. -/
structure Lexer where
  /-- What it is in. -/
  mode : Mode := .plain
  /-- The tokens so far, the last one first. -/
  tokens : List Token := []
  /-- The pieces of the current word, the last one first, if there is a word. -/
  word : Option (List Piece) := none
  /-- The operator that may still go on. -/
  operator : String := ""

/-- The operators. -/
def operators : List String :=
  [";", ";;", "&", "&&", "|", "||", "(", ")", "<", ">", ">>", ">&", "<&", "<<", "\n"]

/-- Whether an operator redirects a stream. -/
def redirects (operator : String) : Bool := operator.toList.any fun c => c = '<' || c = '>'

/-- The characters of names. -/
def isNameLetter (c : Char) : Bool := c.isAlphanum || c = '_'

/-- The parameter of a name or number. -/
def namedParameter (name : String) : Parameter :=
  match name with
  | "?" => .status
  | "$" => .process
  | "#" => .count
  | "@" => .each
  | "*" => .joined
  | name =>
    let digits := name.toList
    if digits.all isAsciiDigit then .position (naturalOf digits) else .variable name

/-- The parameter of a name in braces; behind `:-` stands what replaces an empty value. -/
def bracedParameter (letters : List Char) : Parameter :=
  let name := letters.takeWhile (· ≠ ':')
  match letters.drop name.length with
  | ':' :: '-' :: text => .fallback (String.ofList name) (String.ofList text)
  | _ => namedParameter (String.ofList letters)

/-- The parameter of a text in parentheses: a sum if there is another pair of them within. -/
def nestedParameter (letters : List Char) : Parameter :=
  match letters, letters.getLast? with
  | '(' :: inner, some ')' => .sum (String.ofList inner.dropLast)
  | _, _ => .output (String.ofList letters)

namespace Lexer

/-- One more piece for the current word. -/
def addPiece (piece : Piece) (r : Lexer) : Lexer :=
  { r with word := some (piece :: r.word.getD []) }

/-- One more character for the current word. -/
def addChar (c : Char) (quoted : Bool) (r : Lexer) : Lexer :=
  match r.word with
  | some (.text s q :: pieces) =>
    if q = quoted then { r with word := some (.text (s.push c) q :: pieces) }
    else r.addPiece (.text (String.singleton c) quoted)
  | _ => r.addPiece (.text (String.singleton c) quoted)

/-- The current word becomes a token. -/
def endWord (r : Lexer) : Lexer :=
  match r.word with
  | some pieces => { r with tokens := .word pieces.reverse :: r.tokens, word := none }
  | none => r

/-- The operator becomes a token. A redirection takes the number that stands right before it, and
otherwise the stream of its direction. -/
def endOperator (r : Lexer) : Lexer :=
  if r.operator = "" then r
  else
    let r' := { r with operator := "" }
    if redirects r.operator then
      let usual := if r.operator.toList.head? = some '<' then 0 else 1
      match r.word with
      | some [.text s false] =>
        if s.toList.all isAsciiDigit then
          let token := .redirection (naturalOf s.toList) r.operator
          { r' with tokens := token :: r.tokens, word := none }
        else
          let r' := r'.endWord
          { r' with tokens := .redirection usual r.operator :: r'.tokens }
      | _ =>
        let r' := r'.endWord
        { r' with tokens := .redirection usual r.operator :: r'.tokens }
    else
      let r' := r'.endWord
      { r' with tokens := .operator r.operator :: r'.tokens }

/-- The mode of text within or without quotes. -/
def textMode (quoted : Bool) : Mode := if quoted then .double else .plain

/-- One more character outside of quotes. -/
def plainStep (r : Lexer) (c : Char) : Lexer :=
  let longer := r.operator.push c
  if r.operator ≠ "" ∧ longer ∈ operators then { r with operator := longer }
  else
    let r := r.endOperator
    if c = '\'' then { r with mode := .single }.addPiece (.text "" true)
    else if c = '"' then { r with mode := .double }.addPiece (.text "" true)
    else if c = '\\' then { r with mode := .escape false }
    else if c = '$' then { r with mode := .dollar false }
    else if c = '\x60' then { r with mode := .backquoted [] false }
    else if c = '#' ∧ r.word.isNone then { r with mode := .comment }
    else if c = ' ' ∨ c = '\t' then r.endWord
    else if String.singleton c ∈ operators then { r with operator := String.singleton c }
    else r.addChar c false

/-- One more character within double quotes. -/
def doubleStep (r : Lexer) (c : Char) : Lexer :=
  if c = '"' then { r with mode := .plain }
  else if c = '\\' then { r with mode := .escape true }
  else if c = '$' then { r with mode := .dollar true }
  else if c = '\x60' then { r with mode := .backquoted [] true }
  else r.addChar c true

/-- One more character of text. -/
def textStep (quoted : Bool) (r : Lexer) (c : Char) : Lexer :=
  if quoted then r.doubleStep c else r.plainStep c

/-- One more character of a script. -/
def step (r : Lexer) (c : Char) : Lexer :=
  match r.mode with
  | .plain => r.plainStep c
  | .double => r.doubleStep c
  | .single => if c = '\'' then { r with mode := .plain } else r.addChar c true
  | .comment => if c = '\n' then { r with mode := .plain }.plainStep c else r
  | .escape false =>
    let r := { r with mode := .plain }
    if c = '\n' then r else r.addChar c true
  | .escape true =>
    let r := { r with mode := .double }
    if c = '\n' then r
    else if c = '$' ∨ c = '"' ∨ c = '\\' ∨ c = '\x60' then r.addChar c true
    else (r.addChar '\\' true).addChar c true
  | .dollar quoted =>
    let r := { r with mode := textMode quoted }
    if c = '{' then { r with mode := .braced [] quoted }
    else if c = '(' then { r with mode := .nested 0 [] quoted }
    else if c.isAlpha ∨ c = '_' then { r with mode := .name [c] quoted }
    else if c.isDigit ∨ c ∈ ['?', '$', '#', '@', '*'] then
      r.addPiece (.parameter (namedParameter (String.singleton c)) quoted)
    else (r.addChar '$' quoted).textStep quoted c
  | .name letters quoted =>
    if isNameLetter c then { r with mode := .name (c :: letters) quoted }
    else
      let name := String.ofList letters.reverse
      ({ r with mode := textMode quoted }.addPiece (.parameter (.variable name) quoted)).textStep
        quoted c
  | .braced letters quoted =>
    if c = '}' then
      let parameter := bracedParameter letters.reverse
      { r with mode := textMode quoted }.addPiece (.parameter parameter quoted)
    else { r with mode := .braced (c :: letters) quoted }
  | .nested depth letters quoted =>
    if c = '(' then { r with mode := .nested (depth + 1) (c :: letters) quoted }
    else if c ≠ ')' then { r with mode := .nested depth (c :: letters) quoted }
    else
      match depth with
      | depth + 1 => { r with mode := .nested depth (c :: letters) quoted }
      | 0 =>
        let parameter := nestedParameter letters.reverse
        { r with mode := textMode quoted }.addPiece (.parameter parameter quoted)
  | .backquoted letters quoted =>
    if c = '\x60' then
      let script := String.ofList letters.reverse
      { r with mode := textMode quoted }.addPiece (.parameter (.output script) quoted)
    else { r with mode := .backquoted (c :: letters) quoted }

/-- The tokens that are complete when the reader stops. -/
def complete (r : Lexer) : List Token := r.endOperator.endWord.tokens.reverse

/-- The tokens at the end of a script, and what is said if quotes, braces or parentheses are left
open. -/
def finish (r : Lexer) : List Token × Option String :=
  match r.mode with
  | .plain | .comment => (r.complete, none)
  | .escape false => ((r.addChar '\\' true).complete, none)
  | .dollar false => ((r.addChar '$' false).complete, none)
  | .name letters false =>
    let piece := Piece.parameter (.variable (String.ofList letters.reverse)) false
    ((r.addPiece piece).complete, none)
  | .braced _ _ => (r.complete, some "Missing '\x7d'")
  | .nested _ _ _ => (r.complete, some "end of file unexpected (expecting \")\")")
  | .backquoted _ _ => (r.complete, some "EOF in backquote substitution")
  | _ => (r.complete, some "Unterminated quoted string")

end Lexer

/-- The tokens of a script, and what is said if quotes, braces or parentheses are left open. -/
def readTokens (script : String) : List Token × Option String :=
  (script.toList.foldl Lexer.step {}).finish

end Provisioning.Shell

import Provisioning.Shell.Token

/-!
# Shell scripts

Commands, and what joins them. `&&` and `||` bind alike and to the left; a pipe binds closer, and a
list is a sequence of such chains. A script is read line by line, so a fault leaves the lines before
it as they are.

## Main definitions

* `Redirection`, `Script`: the commands
* `SyntaxFault`: a token out of place
* `readScript`: the script of a text
-/

namespace Provisioning.Shell

/-- What a redirection does with its stream. -/
inductive RedirectionKind where
  /-- Output replaces a file. -/
  | replace
  /-- Output is added to a file. -/
  | append
  /-- Input comes from a file. -/
  | input
  /-- The stream becomes the one of another number. -/
  | copy
deriving DecidableEq

/-- A redirection of a stream. -/
structure Redirection where
  stream : Nat
  kind : RedirectionKind
  target : Word
deriving DecidableEq

/-- A script. -/
inductive Script where
  /-- Nothing to do. -/
  | skip
  /-- A command by its words, with the number of its line. -/
  | simple (line : Nat) (words : List Word) (redirections : List Redirection)
  /-- One after the other. -/
  | sequence (first second : Script)
  /-- The second if the first succeeds. -/
  | both (first second : Script)
  /-- The second if the first fails. -/
  | either (first second : Script)
  /-- Success and failure exchanged. -/
  | negated (s : Script)
  /-- The output of the first is the input of the second. -/
  | pipe (first second : Script)
  /-- Commands in braces. -/
  | group (s : Script) (redirections : List Redirection)
  /-- Commands in parentheses, in a shell of their own. -/
  | subshell (s : Script) (redirections : List Redirection)
  /-- The second if the first succeeds, else the third. -/
  | choice (test yes no : Script)
  /-- The body for each argument, which a variable holds. -/
  | each (line : Nat) (name : String) (words : List Word) (body : Script)
  /-- The body as long as the test succeeds, or as long as it fails. -/
  | loop (goal : Bool) (test body : Script)
  /-- What cannot be read. -/
  | fault (line : Nat) (text : String)
deriving Inhabited

/-- A token out of place: its line, and what is said about it. -/
structure SyntaxFault where
  line : Nat
  text : String
deriving DecidableEq

namespace Script

/-- The kind of a redirection by its operator. -/
def redirectionKind? : String → Option RedirectionKind
  | ">" => some .replace
  | ">>" => some .append
  | "<" => some .input
  | ">&" | "<&" => some .copy
  | _ => none

/-- The letters of a word that is a single piece without quotes. -/
def literal? : Word → Option String
  | [.text s false] => some s
  | _ => none

/-- The words that start or end commands. -/
def reserved : List String :=
  ["!", "\x7b", "\x7d", "if", "then", "elif", "else", "fi", "for", "while", "until", "do", "done"]

/-- Whether a token is a given word. -/
def isWord (s : String) : Token → Bool
  | .word w => literal? w == some s
  | _ => false

/-- Whether tokens start with a given word. -/
def startsWith (s : String) (tokens : List Token) : Bool := tokens.head?.any (isWord s)

/-- The redirections at the head of tokens. -/
def readRedirections : List Token → List Redirection × List Token
  | .redirection stream operator :: .word target :: rest =>
    match redirectionKind? operator with
    | some kind =>
      let (more, rest) := readRedirections rest
      (⟨stream, kind, target⟩ :: more, rest)
    | none => ([], .redirection stream operator :: .word target :: rest)
  | tokens => ([], tokens)

/-- The words and redirections at the head of tokens. -/
def readSimple : List Token → List Word × List Redirection × List Token
  | .word w :: rest =>
    let (words, redirections, rest) := readSimple rest
    (w :: words, redirections, rest)
  | .redirection stream operator :: .word target :: rest =>
    match redirectionKind? operator with
    | some kind =>
      let (words, redirections, rest) := readSimple rest
      (words, ⟨stream, kind, target⟩ :: redirections, rest)
    | none => ([], [], .redirection stream operator :: .word target :: rest)
  | tokens => ([], [], tokens)

/-- The words at the head of tokens. -/
def readWords : List Token → List Word × List Token
  | .word w :: rest =>
    let (words, rest) := readWords rest
    (w :: words, rest)
  | tokens => ([], tokens)

/-- The tokens without newlines at their head. -/
def skipNewlines : List Token → List Token
  | .operator "\n" :: rest => skipNewlines rest
  | tokens => tokens

/-- The number of the line at which tokens start, among those of a whole script. -/
def lineAt (lines : Nat) (tokens : List Token) : Nat :=
  lines - (tokens.filter (· == .operator "\n")).length

/-- The name of the token that tokens start with. -/
def describe : List Token → String
  | [] => "end of file"
  | .operator "\n" :: _ => "newline"
  | .operator text :: _ => "\"" ++ text ++ "\""
  | .redirection _ _ :: _ => "redirection"
  | .word w :: _ =>
    match literal? w with
    | some s => if s ∈ reserved then "\"" ++ s ++ "\"" else "word"
    | none => "word"

/-- A part of a script and the tokens behind it. -/
abbrev Parsed := Except SyntaxFault (Script × List Token)

/-- The fault that tokens start with something out of place, with what should stand there. -/
def unexpected {α : Type} (lines : Nat) (tokens : List Token) (wanted : Option String := none) :
    Except SyntaxFault α :=
  let hint := match wanted with
    | some s => " (expecting \"" ++ s ++ "\")"
    | none => ""
  .error ⟨lineAt lines tokens.tail, describe tokens ++ " unexpected" ++ hint⟩

/-- The tokens behind a given word, which must stand there. -/
def expect (lines : Nat) (s : String) (tokens : List Token) : Except SyntaxFault (List Token) :=
  if startsWith s tokens then .ok tokens.tail else unexpected lines tokens s

/-- A command with the redirections behind it. -/
def redirected (s : Script) (tokens : List Token) : Script × List Token :=
  match readRedirections tokens with
  | ([], rest) => (s, rest)
  | (redirections, rest) => (.group s redirections, rest)

/-- Whether tokens end a list of commands. -/
def endsList (tokens : List Token) : Bool :=
  tokens.isEmpty || tokens.head? == some (.operator ")") ||
    ["\x7d", "then", "elif", "else", "fi", "do", "done"].any fun s => startsWith s tokens

/-- The simple command at the head of tokens. -/
def readPlain (lines : Nat) (tokens : List Token) : Parsed :=
  match readSimple tokens with
  | (_, _, .redirection _ _ :: rest) => unexpected lines rest
  | ([_], [], .operator "(" :: rest) => unexpected lines rest ")"
  | ([], [], rest) => unexpected lines rest
  | (words, redirections, rest) => .ok (.simple (lineAt lines tokens) words redirections, rest)

/-- The variable, the words and the body's tokens of a loop over arguments; without words it goes
over the arguments of the script. -/
def readHeading (lines : Nat) : List Token →
    Except SyntaxFault (String × List Word × List Token)
  | .word w :: rest =>
    match literal? w with
    | none => .error ⟨lineAt lines rest, "Bad for loop variable"⟩
    | some name =>
      let letters := name.toList
      if !letters.all isNameLetter || letters.head?.any Char.isDigit then
        .error ⟨lineAt lines rest, "Bad for loop variable"⟩
      else
        let rest := skipNewlines rest
        if startsWith "in" rest then
          match readWords rest.tail with
          | (words, .operator ";" :: rest) | (words, .operator "\n" :: rest) =>
            .ok (name, words, skipNewlines rest)
          | (_, rest) => unexpected lines rest
        else
          let all : List Word := [[.parameter .each true]]
          match rest with
          | .operator ";" :: rest => .ok (name, all, skipNewlines rest)
          | rest => .ok (name, all, rest)
  | tokens => .error ⟨lineAt lines tokens, "Bad for loop variable"⟩

mutual

/-- The list of commands at the head of tokens. -/
def readList (lines : Nat) : Nat → List Token → Parsed
  | 0, tokens => unexpected lines tokens
  | limit + 1, tokens => do
    match skipNewlines tokens with
    | [] => return (.skip, [])
    | tokens =>
      let (first, rest) ← readChain lines limit tokens
      match rest with
      | .operator ";" :: rest | .operator "\n" :: rest =>
        let rest := skipNewlines rest
        if endsList rest then return (first, rest)
        else
          let (second, rest) ← readList lines limit rest
          return (.sequence first second, rest)
      | rest => return (first, rest)

/-- The chain of pipes at the head of tokens. -/
def readChain (lines : Nat) : Nat → List Token → Parsed
  | 0, tokens => unexpected lines tokens
  | limit + 1, tokens => do
    let (first, rest) ← readPipe lines limit tokens
    readLinks lines limit first rest

/-- The chain that a first part and tokens make. -/
def readLinks (lines : Nat) : Nat → Script → List Token → Parsed
  | limit + 1, first, .operator "&&" :: rest => do
    let (second, rest) ← readPipe lines limit (skipNewlines rest)
    readLinks lines limit (.both first second) rest
  | limit + 1, first, .operator "||" :: rest => do
    let (second, rest) ← readPipe lines limit (skipNewlines rest)
    readLinks lines limit (.either first second) rest
  | _, first, rest => .ok (first, rest)

/-- The pipe at the head of tokens. -/
def readPipe (lines : Nat) : Nat → List Token → Parsed
  | 0, tokens => unexpected lines tokens
  | limit + 1, tokens => do
    if startsWith "!" tokens then
      let (s, rest) ← readPipe lines limit tokens.tail
      return (.negated s, rest)
    else
      match ← readCommand lines limit tokens with
      | (first, .operator "|" :: rest) =>
        let (second, rest) ← readPipe lines limit (skipNewlines rest)
        return (.pipe first second, rest)
      | result => return result

/-- The command at the head of tokens. -/
def readCommand (lines : Nat) : Nat → List Token → Parsed
  | 0, tokens => unexpected lines tokens
  | limit + 1, tokens => do
    match tokens with
    | .operator "(" :: rest =>
      match ← readList lines limit rest with
      | (s, .operator ")" :: rest) =>
        let (redirections, rest) := readRedirections rest
        return (.subshell s redirections, rest)
      | (_, rest) => unexpected lines rest ")"
    | tokens =>
      if startsWith "\x7b" tokens then
        let (s, rest) ← readList lines limit tokens.tail
        return redirected s (← expect lines "\x7d" rest)
      else if startsWith "if" tokens then
        let (s, rest) ← readChoice lines limit tokens.tail
        return redirected s rest
      else if startsWith "while" tokens then readLoop lines true limit tokens.tail
      else if startsWith "until" tokens then readLoop lines false limit tokens.tail
      else if startsWith "for" tokens then
        let (name, words, rest) ← readHeading lines tokens.tail
        let (body, rest) ← readBody lines limit rest
        return redirected (.each (lineAt lines tokens) name words body) rest
      else if reserved.any fun s => startsWith s tokens then unexpected lines tokens
      else readPlain lines tokens

/-- The choice behind its first word. -/
def readChoice (lines : Nat) : Nat → List Token → Parsed
  | 0, tokens => unexpected lines tokens
  | limit + 1, tokens => do
    let (test, rest) ← readList lines limit tokens
    let (yes, rest) ← readList lines limit (← expect lines "then" rest)
    if startsWith "elif" rest then
      let (no, rest) ← readChoice lines limit rest.tail
      return (.choice test yes no, rest)
    else if startsWith "else" rest then
      let (no, rest) ← readList lines limit rest.tail
      return (.choice test yes no, ← expect lines "fi" rest)
    else return (.choice test yes .skip, ← expect lines "fi" rest)

/-- The loop behind its first word. -/
def readLoop (lines : Nat) (goal : Bool) : Nat → List Token → Parsed
  | 0, tokens => unexpected lines tokens
  | limit + 1, tokens => do
    let (test, rest) ← readList lines limit tokens
    let (body, rest) ← readBody lines limit rest
    return redirected (.loop goal test body) rest

/-- The body of a loop. -/
def readBody (lines : Nat) : Nat → List Token → Parsed
  | 0, tokens => unexpected lines tokens
  | limit + 1, tokens => do
    let (body, rest) ← readList lines limit (← expect lines "do" tokens)
    return (body, ← expect lines "done" rest)

end

/-- The commands of a line, and the tokens of the lines behind it. -/
def readLine (lines : Nat) : Nat → List Token → Parsed
  | 0, tokens => unexpected lines tokens
  | limit + 1, tokens => do
    let (first, rest) ← readChain lines (limit + 1) tokens
    match rest with
    | [] | [.operator ";"] => return (first, [])
    | .operator "\n" :: rest | .operator ";" :: .operator "\n" :: rest => return (first, rest)
    | .operator ";" :: rest =>
      let (second, rest) ← readLine lines limit rest
      return (.sequence first second, rest)
    | rest => unexpected lines rest

/-- The script of tokens, line by line up to the first fault. -/
def readLines (lines : Nat) : Nat → List Token → Script
  | 0, _ => .skip
  | limit + 1, tokens =>
    match skipNewlines tokens with
    | [] => .skip
    | tokens =>
      match readLine lines (8 * tokens.length + 8) tokens with
      | .error e => .fault e.line e.text
      | .ok (first, rest) => .sequence first (readLines lines limit rest)

end Script

/-- The tokens up to the last newline. -/
def completeLines (tokens : List Token) : List Token :=
  (tokens.reverse.dropWhile (· != .operator "\n")).reverse

/-- The script of a text. Where quotes are left open, the line before is the last one. -/
def readScript (text : String) : Script :=
  let (tokens, remark) := readTokens text
  let lines := (tokens.filter (· == .operator "\n")).length + 1
  let script (tokens : List Token) := Script.readLines lines (tokens.length + 1) tokens
  match remark with
  | none => script tokens
  | some s => .sequence (script (completeLines tokens)) (.fault lines s)

end Provisioning.Shell

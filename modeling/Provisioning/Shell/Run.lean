import Provisioning.Decimal.Reading
import Provisioning.Files.Store
import Provisioning.Shell.Process
import Provisioning.Shell.Utility
import Provisioning.Text.Blank
import Provisioning.Text.Natural

/-!
# Running shell scripts

## Main definitions

* `Sink`, `Streams`: where the output of a command goes, and where its input comes from
* `locate`: the utility of a program's name
* `resolveWords`: words with what they ask for put in
* `evaluate`: a script, run by a process
* `runText`: the text of a script, run by a process
* `runProgram`: a program, run by itself
-/

namespace Provisioning.Shell

/-- Where output goes. -/
inductive Sink where
  | output | errors | pipe | nowhere
  | file (path : String)
deriving DecidableEq

/-- The streams of a command. -/
structure Streams where
  output : Sink := .output
  errors : Sink := .errors
  input : ByteArray := .empty

variable {m : Type → Type} [Monad m] [FileStore m]

/-! ## Output -/

/-- The process after bytes were written. -/
def emit (sink : Sink) (bytes : ByteArray) (p : Process) : m Process :=
  match sink with
  | .output => return { p with output := p.output ++ bytes }
  | .errors => return { p with errors := p.errors ++ bytes }
  | .pipe => return { p with piped := p.piped ++ bytes }
  | .nowhere => return p
  | .file path => do
    let old ← FileStore.read path
    let _ ← FileStore.write path ((old.toOption.getD .empty) ++ bytes)
    return p

/-- The process after a line about a fault was written, with a status. -/
def complain (streams : Streams) (text : String) (status : Nat) (p : Process) : m Process := do
  return (← emit streams.errors (text ++ "\n").toUTF8 p).done status

/-- The process after a line about a fault of the script was written, with a status. -/
def complainAt (streams : Streams) (line : Nat) (text : String) (status : Nat) (p : Process) :
    m Process :=
  complain streams (p.name ++ ": " ++ toString line ++ ": " ++ text) status p

/-! ## Redirections -/

/-- The stream of a number. -/
def Streams.numbered (s : Streams) : Nat → Sink
  | 1 => s.output
  | 2 => s.errors
  | _ => .nowhere

/-- The streams with the output stream of a number replaced. -/
def Streams.set (s : Streams) (stream : Nat) (sink : Sink) : Streams :=
  match stream with
  | 1 => { s with output := sink }
  | 2 => { s with errors := sink }
  | _ => s

/-- The streams with a redirection done, or the text of the fault. -/
def redirect (p : Process) (s : Streams) (r : Redirection) : m (Except String Streams) := do
  let target := p.wordText r.target
  match r.kind with
  | .copy =>
    match target with
    | "-" => return .ok (s.set r.stream .nowhere)
    | target =>
      match Text.readNatural? 9 target with
      | some n => return .ok (s.set r.stream (s.numbered n))
      | none => return .error "Syntax error: Bad fd number"
  | .input =>
    if target = "/dev/null" then return .ok { s with input := .empty }
    else
      match ← FileStore.read target with
      | .ok bytes => return .ok { s with input := bytes }
      | .error .isDirectory => return .ok { s with input := .empty }
      | .error .notFound => return .error ("cannot open " ++ target ++ ": No such file")
      | .error e => return .error ("cannot open " ++ target ++ ": " ++ e.message)
  | .replace | .append =>
    if target = "/dev/null" then return .ok (s.set r.stream .nowhere)
    else if target = "/dev/stdout" then return .ok (s.set r.stream s.output)
    else if target = "/dev/stderr" then return .ok (s.set r.stream s.errors)
    else
      let old ← FileStore.read target
      let kept := if r.kind = .append then old.toOption.getD .empty else .empty
      match ← FileStore.write target kept with
      | .ok _ => return .ok (s.set r.stream (.file target))
      | .error .isDirectory => return .error ("cannot create " ++ target ++ ": Is a directory")
      | .error _ => return .error ("cannot create " ++ target ++ ": Directory nonexistent")

/-- The streams with redirections done in order, or the text of the first fault. -/
def redirectAll (p : Process) (s : Streams) : List Redirection → m (Except String Streams)
  | [] => return .ok s
  | r :: more => do
    match ← redirect p s r with
    | .ok s => redirectAll p s more
    | .error e => return .error e

/-! ## Utilities -/

/-- The names of the programs that are there. -/
def programs : List String :=
  ["sh", "true", "false", "echo", "printf", "cat", "test", "[", "sleep", "kill", "grep"]

/-- The name of the program that a path leads to. -/
def programOf (path : String) : Option String :=
  match programs.find? fun name => path == "/bin/" ++ name || path == "/usr/bin/" ++ name with
  | some name => some name
  | none => if path ∈ programs then some path else none

/-- The program of a name or path. A file that is no program must not be run, nor a directory. -/
def locate (path : String) : m (Except FileError String) := do
  match programOf path with
  | some name => return .ok name
  | none =>
    if path = "." ∨ path = ".." then return .error .permissionDenied
    else if path.toList.contains '/' then
      match ← FileStore.read path with
      | .ok _ | .error .isDirectory => return .error .permissionDenied
      | .error e => return .error e
    else return .error .notFound

/-- Whether a path leads to a file. -/
def isFile (path : String) : m Bool := do return (← FileStore.read path).isOk

/-- Whether a path leads to a directory. -/
def isDirectory (path : String) : m Bool := do
  match ← FileStore.read path with
  | .error .isDirectory => return true
  | _ => return false

/-- The comparison of two numbers by its name. -/
def comparison? : String → Option (Nat → Nat → Bool)
  | "-eq" => some (· == ·)
  | "-ne" => some (· != ·)
  | "-lt" => some fun a b => decide (a < b)
  | "-le" => some fun a b => decide (a ≤ b)
  | "-gt" => some fun a b => decide (b < a)
  | "-ge" => some fun a b => decide (b ≤ a)
  | _ => none

/-- The greatest number that is compared. -/
def numberLimit : Nat := 0x7FFFFFFFFFFFFFFF

/-- The number of an argument of a comparison. -/
def testNumber? (s : String) : Option Nat := Text.readNatural? numberLimit (Text.trim s)

/-- Arguments cut at each occurrence of one. -/
def splitAt (mark : String) : List String → List (List String)
  | [] => [[]]
  | s :: more =>
    match splitAt mark more with
    | [] => [[]]
    | part :: parts => if s = mark then [] :: part :: parts else (s :: part) :: parts

/-- What a simple test comes to, or what is said about a malformed one. -/
def testedPart : List String → m (Except String Bool)
  | [] => return .ok false
  | "!" :: more => do return (← testedPart more).map not
  | [s] => return .ok (s ≠ "")
  | ["-f", path] => do return .ok (← isFile path)
  | ["-d", path] => do return .ok (← isDirectory path)
  | ["-e", path] | ["-r", path] | ["-w", path] => do return .ok (← FileStore.isPresent path)
  | ["-x", path] => do return .ok (← isDirectory path)
  | ["-s", path] => do
    match ← FileStore.read path with
    | .ok bytes => return .ok (0 < bytes.size)
    | .error .isDirectory => return .ok true
    | .error _ => return .ok false
  | ["-n", s] => return .ok (s ≠ "")
  | ["-z", s] => return .ok (s = "")
  | [a, "=", b] => return .ok (a = b)
  | [a, "!=", b] => return .ok (a ≠ b)
  | [a, operator, b] =>
    match comparison? operator, testNumber? a, testNumber? b with
    | some f, some x, some y => return .ok (f x y)
    | some _, none, _ => return .error ("Illegal number: " ++ a)
    | some _, _, none => return .error ("Illegal number: " ++ b)
    | none, _, _ => return .error (a ++ ": unexpected operator")
  | [_, operator] => return .error (operator ++ ": argument expected")
  | a :: _ => return .error (a ++ ": unexpected operator")

/-- What a test comes to: `-o` joins less closely than `-a`. The parts are all looked at. -/
def tested (arguments : List String) : m (Except String Bool) := do
  -- Up to three arguments are read by their number, so that any of them may look like an operator.
  if arguments.length ≤ 3 then testedPart arguments
  else
    let choices ← (splitAt "-o" arguments).mapM fun choice =>
      ((splitAt "-a" choice).mapM fun part => testedPart part)
    return (choices.mapM fun (parts : List (Except String Bool)) =>
      (parts.mapM id).map fun results => results.all id).map fun results => results.any id

/-- The process after the content of files was written. -/
def concatenate (s : Streams) : List String → Process → m Process
  | [], p => return p
  | path :: more, p => do
    let p ←
      if path = "-" then emit s.output s.input p
      else
        match ← FileStore.read path with
        | .ok bytes => emit s.output bytes p
        | .error e =>
          let reason := match e with
            | .isDirectory => "Is a directory"
            | .notDirectory => "Not a directory"
            | .permissionDenied => "Permission denied"
            | _ => "No such file or directory"
          complain s ("cat: " ++ path ++ ": " ++ reason) 1 p
    concatenate s more p

/-- The signal and the targets that arguments of `kill` ask for, or what is said about them. -/
def killArguments : List String → Except String (Nat × List String)
  | "-s" :: name :: targets =>
    match signalNumber? name with
    | some n => .ok (n, targets)
    | none => .error ("invalid signal number or name: " ++ name)
  | first :: targets =>
    match first.toList with
    | '-' :: name =>
      match signalNumber? (String.ofList name) with
      | some n => .ok (n, targets)
      | none => .error ("Illegal option -" ++ String.ofList (name.take 1))
    | _ => .ok (15, first :: targets)
  | [] => .ok (15, [])

/-- What is said about `kill` without targets. -/
def killUsage : String :=
  "Usage: kill [-s sigspec | -signum | -sigspec] [pid | job]... or\nkill -l [exitstatus]"

/-- The number that a process takes for a status, if a text is one. -/
def statusOf? (s : String) : Option Nat :=
  (Text.readNatural? 0x7FFFFFFF (Text.trim s)).map (· % 256)

/-- The seconds of a unit's letter. -/
def secondsOf : Char → Option Nat
  | 's' => some 1
  | 'm' => some 60
  | 'h' => some 3600
  | 'd' => some 86400
  | _ => none

/-- The span of a number of seconds, or of a number with a unit. -/
def sleepSpan? (s : String) : Option Span :=
  let span (digits : List Char) (seconds : Nat) : Option Span :=
    (readNumber? (String.ofList digits)).bind fun x =>
      if x.isNaN || x.isNegative then none
      else some ((Span.ofSeconds? (x * Binary64.ofNat seconds)).getD .longest)
  match s.toList.getLast?.bind secondsOf with
  | some seconds => span s.toList.dropLast seconds
  | none => span s.toList 1

/-- The process after `sleep`. -/
def sleep (s : Streams) (arguments : List String) (p : Process) : m Process :=
  let hint := "\nTry 'sleep --help' for more information."
  match arguments with
  | [] => complain s ("sleep: missing operand" ++ hint) 1 p
  | arguments =>
    match arguments.mapM sleepSpan? with
    | some spans => return { p with slept := spans.foldl Span.add p.slept, status := 0 }
    | none =>
      let wrong := (arguments.find? fun a => (sleepSpan? a).isNone).getD ""
      complain s ("sleep: invalid time interval '" ++ wrong ++ "'" ++ hint) 1 p

/-- The lines of a text, without an empty one at its end. -/
def linesOf (text : String) : List (List Char) :=
  let step (c : Char) : List (List Char) → List (List Char)
    | [] => if c = '\n' then [[]] else [[c]]
    | line :: more => if c = '\n' then [] :: line :: more else (c :: line) :: more
  text.toList.foldr step []

/-- Whether a text occurs in a line. -/
def occursIn (text : List Char) : List Char → Bool
  | [] => text.isEmpty
  | c :: rest => text.isPrefixOf (c :: rest) || occursIn text rest

/-- The process after `grep` for a text that stands for itself. -/
def search (s : Streams) (quiet : Bool) (pattern path : String) (p : Process) : m Process := do
  match ← FileStore.read path with
  | .error _ => complain s ("grep: " ++ path ++ ": No such file or directory") 2 p
  | .ok bytes =>
    let found := (linesOf (Text.ofUtf8Lossy bytes)).filter (occursIn pattern.toList)
    let text := String.join (found.map fun line => String.ofList line ++ "\n")
    let p ← if quiet then pure p else emit s.output text.toUTF8 p
    return p.done (if found.isEmpty then 1 else 0)

/-- How the text of a script within a script is run by a process. -/
abbrev Nested (m : Type → Type) := Streams → String → Process → m Process

/-- A process after a script of its own was run: what that wrote is kept. -/
def absorb (p child : Process) : Process :=
  { p with
    output := p.output ++ child.output
    errors := p.errors ++ child.errors
    piped := p.piped ++ child.piped
    slept := p.slept + child.slept
    status := (child.ended.map Exit.status).getD child.status }

/-- The arguments of the program `sh`: the text, the name and the arguments of a script. -/
def shellArguments : List String → m (Except String (String × String × List String))
  | "-c" :: text :: name :: arguments => return .ok (text, name, arguments)
  | ["-c", text] => return .ok (text, "sh", [])
  | ["-c"] => return .error "0: -c requires an argument"
  | path :: arguments => do
    match ← readText path with
    | .ok text => return .ok (text, path, arguments)
    | .error _ => return .error ("0: cannot open " ++ path ++ ": No such file")
  | [] => return .ok ("", "sh", [])

/-- The process after a command was run by its name and arguments. -/
def command (nested : Nested m) (s : Streams) (line : Nat) (name : String)
    (arguments : List String) (p : Process) : m Process := do
  match name, arguments with
  | ":", _ | "true", _ => return p.done 0
  | "sleep", arguments => sleep s arguments p
  | "false", _ => return p.done 1
  | "exit", [] => return { p with ended := some (.code p.status) }
  | "exit", status :: _ =>
    match statusOf? status with
    | some n => return { p with status := n, ended := some (.code n) }
    | none =>
      let p ← complainAt s line ("exit: Illegal number: " ++ status) 2 p
      return { p with ended := some (.code 2) }
  | "echo", arguments => return (← emit s.output ⟨(echoed arguments).toArray⟩ p).done 0
  | "printf", format :: arguments =>
    return (← emit s.output ⟨(printed format arguments).toArray⟩ p).done 0
  | "printf", [] => complainAt s line "printf: usage: printf format [arg ...]" 2 p
  | "cat", [] => return (← emit s.output s.input p).done 0
  | "cat", paths => concatenate s paths (p.done 0)
  | "read", names =>
    let text := Text.ofUtf8Lossy s.input
    match names with
    | name :: _ =>
      let p := p.assign name (String.ofList (text.toList.takeWhile (· ≠ '\n')))
      return p.done (if text.toList.contains '\n' then 0 else 1)
    | [] => return p.done (if text.toList.contains '\n' then 0 else 1)
  | "test", arguments =>
    match ← tested arguments with
    | .ok r => return p.done (if r then 0 else 1)
    | .error e => complainAt s line ("test: " ++ e) 2 p
  | "[", arguments =>
    if arguments.getLast? = some "]" then
      match ← tested arguments.dropLast with
      | .ok r => return p.done (if r then 0 else 1)
      | .error e => complainAt s line ("[: " ++ e) 2 p
    else complainAt s line "[: missing ]" 2 p
  | "kill", arguments =>
    match killArguments arguments with
    | .error e => complainAt s line ("kill: " ++ e) 2 p
    | .ok (_, []) => complainAt s line ("kill: " ++ killUsage) 2 p
    | .ok (signal, targets) =>
      match targets.find? fun target => (Text.readNatural? numberLimit target).isNone with
      | some target => complainAt s line ("kill: Illegal number: " ++ target) 2 p
      | none =>
        if "1" ∈ targets then
          if ends signal then return { p with ended := some (.signal signal) }
          else return p.done 0
        else complainAt s line "kill: No such process" 1 p
  | "grep", ["-q", pattern, path] => search s true pattern path p
  | "grep", [pattern, path] => search s false pattern path p
  | ".", path :: _ =>
    match ← readText path with
    | .ok text => nested s text p
    | .error _ =>
      let p ← complainAt s line (".: cannot open " ++ path ++ ": No such file") 2 p
      return { p with ended := some (.code 2) }
  | ".", [] | "exec", [] => return p.done 0
  | name, arguments =>
    match ← locate name with
    | .ok "sh" =>
      match ← shellArguments arguments with
      | .ok (text, name, arguments) => return absorb p (← nested s text { name, arguments })
      | .error e => complain s ("sh: " ++ e) 2 p
    | .ok _ | .error .notFound => complainAt s line (name ++ ": not found") 127 p
    | .error .permissionDenied =>
      let status := if name.toList.contains '/' then 126 else 127
      complainAt s line (name ++ ": Permission denied") status p
    | .error _ => complainAt s line (name ++ ": not found") 127 p

/-- The process after a command was run, which may stand for itself or for the shell. -/
def commandOrExec (nested : Nested m) (s : Streams) (line : Nat) (arguments : List String)
    (p : Process) : m Process := do
  match arguments with
  | [] => return p.done 0
  | "exec" :: name :: arguments =>
    let p ←
      match ← locate name with
      | .ok program => command nested s line program arguments p
      | .error .permissionDenied =>
        complainAt s line ("exec: " ++ name ++ ": Permission denied") 126 p
      | .error _ => complainAt s line ("exec: " ++ name ++ ": not found") 127 p
    return { p with ended := some (p.ended.getD (.code p.status)) }
  | name :: arguments => command nested s line ((programOf name).getD name) arguments p

/-! ## Words -/

/-- Bytes as text, without the newlines at their end. -/
def substituted (bytes : ByteArray) : String :=
  String.ofList ((Text.ofUtf8Lossy bytes).toList.reverse.dropWhile (· = '\n')).reverse

/-- The piece of a word with what it asks for put in, or what is said about a sum without value. -/
def resolvePiece (nested : Nested m) (s : Streams) (p : Process) :
    Piece → m (Except String (Process × Piece))
  | .parameter (.output script) quoted => do
    let child ← nested { s with output := .pipe } script { p with piped := .empty }
    let status := (child.ended.map Exit.status).getD child.status
    let p := { p with errors := child.errors, slept := child.slept, status }
    return .ok (p, .parameter (.known (substituted child.piped)) quoted)
  | .parameter (.sum text) quoted =>
    match arithmeticValue p.variableNumber text with
    | .ok n => return .ok (p, .parameter (.known (toString n)) quoted)
    | .error e =>
      return .error ("arithmetic expression: " ++ e.remark ++ ": \"" ++ text ++ "\"")
  | piece => return .ok (p, piece)

/-- A word with what it asks for put in. -/
def resolveWord (nested : Nested m) (s : Streams) (p : Process) :
    Word → m (Except String (Process × Word))
  | [] => return .ok (p, [])
  | piece :: w => do
    match ← resolvePiece nested s p piece with
    | .error e => return .error e
    | .ok (p, piece) => return (← resolveWord nested s p w).map fun (p, w) => (p, piece :: w)

/-- Words with what they ask for put in. -/
def resolveWords (nested : Nested m) (s : Streams) (p : Process) :
    List Word → m (Except String (Process × List Word))
  | [] => return .ok (p, [])
  | w :: words => do
    match ← resolveWord nested s p w with
    | .error e => return .error e
    | .ok (p, w) => return (← resolveWords nested s p words).map fun (p, words) => (p, w :: words)

/-- Whether a word asks for the output of a script. -/
def asksForOutput (w : Word) : Bool :=
  w.any fun
    | .parameter (.output _) _ => true
    | _ => false

/-! ## Scripts -/

/-- The process after a fault of the script, which ends it. -/
def fail (s : Streams) (line : Nat) (text : String) (p : Process) : m Process := do
  return { ← complainAt s line text 2 p with ended := some (.code 2) }

/-- The process after a body was run as long as a test comes to a goal, at most `limit` times. A loop
that goes on takes all time there is. -/
def repeatWhile (goal : Bool) (test body : Process → m Process) : Nat → Nat → Process → m Process
  | 0, _, p => return { p with slept := .longest, ended := some (.signal 9) }
  | limit + 1, last, p => do
    let p ← test p
    if p.ended.isSome then return p
    else if (p.status == 0) != goal then return p.done last
    else
      let p ← body p
      repeatWhile goal test body limit p.status p

/-- How often the body of a loop is run at most. -/
def loopLimit : Nat := 100000

/-- The process after a body was run for each text, which a variable holds. -/
def repeatEach (name : String) (body : Process → m Process) : List String → Process → m Process
  | [], p => return p
  | text :: more, p => do
    if p.ended.isSome then return p
    else repeatEach name body more (← body (p.assign name text))

/-- The process after a script was run; nothing is run once the process has ended. -/
def evaluate (nested : Nested m) : Script → Streams → Process → m Process
  | .skip, _, p => return p
  | .fault line text, s, p => do
    if p.ended.isSome then return p else fail s line ("Syntax error: " ++ text) p
  | .simple line words redirections, s, p => do
    if p.ended.isSome then return p
    match ← resolveWords nested s p words with
    | .error e => fail s line e p
    | .ok (p, resolved) =>
      let (assignments, plain) := splitAssignments resolved
      let p := assignments.foldl (fun p (name, w) => p.assign name (p.wordText w)) p
      match ← redirectAll p s redirections with
      | .error e => complainAt s line e 2 p
      | .ok s =>
        match p.fields plain with
        -- A command without a name has the status of the last script that its words asked for.
        | [] => return if words.any asksForOutput then p else p.done 0
        | fields => commandOrExec nested s line fields p
  | .sequence first second, s, p => do evaluate nested second s (← evaluate nested first s p)
  | .both first second, s, p => do
    let p ← evaluate nested first s p
    if p.ended.isNone && p.status == 0 then evaluate nested second s p else return p
  | .either first second, s, p => do
    let p ← evaluate nested first s p
    if p.ended.isNone && p.status != 0 then evaluate nested second s p else return p
  | .negated script, s, p => do
    let p ← evaluate nested script s p
    return if p.ended.isSome then p else p.done (if p.status = 0 then 1 else 0)
  | .pipe first second, s, p => do
    if p.ended.isSome then return p
    let left ← evaluate nested first { s with output := .pipe } { p with piped := .empty }
    let input := left.piped
    -- Each side is a shell of its own: only what it wrote and the time it took remain.
    let right ← evaluate nested second { s with input }
      { p with output := left.output, errors := left.errors, slept := left.slept }
    return { right with ended := none, status := (right.ended.map Exit.status).getD right.status }
  | .group script redirections, s, p => do
    if p.ended.isSome then return p
    match ← redirectAll p s redirections with
    | .error e => complainAt s 1 e 2 p
    | .ok s => evaluate nested script s p
  | .subshell script redirections, s, p => do
    if p.ended.isSome then return p
    match ← redirectAll p s redirections with
    | .error e => complainAt s 1 e 2 p
    | .ok s =>
      let child ← evaluate nested script s p
      match child.ended with
      | some (.signal _) => return child
      | _ =>
        return { p with
          output := child.output, errors := child.errors, piped := child.piped
          slept := child.slept, status := (child.ended.map Exit.status).getD child.status }
  | .choice test yes no, s, p => do
    let p ← evaluate nested test s p
    if p.ended.isSome then return p
    else if p.status = 0 then evaluate nested yes s p
    else evaluate nested no s (p.done 0)
  | .each line name words body, s, p => do
    if p.ended.isSome then return p
    match ← resolveWords nested s p words with
    | .error e => fail s line e p
    | .ok (p, words) =>
      repeatEach name (fun p => evaluate nested body s p) (p.fields words) (p.done 0)
  | .loop goal test body, s, p => do
    if p.ended.isSome then return p
    repeatWhile goal (fun p => evaluate nested test s p) (fun p => evaluate nested body s p)
      loopLimit 0 p

/-- The process after the text of a script was run; scripts may be nested `depth` deep. -/
def runText : Nat → Nested m
  | 0, s, _, p => complain s (p.name ++ ": too many nested scripts") 2 p
  | depth + 1, s, text, p => evaluate (runText depth) (readScript text) s p

/-- How deep scripts may be nested. -/
def nestingLimit : Nat := 100

/-- The process of a program after it was run. The program `sh` is the shell of its script. -/
def runProgram (program : String) (arguments : List String) : m Process := do
  if program = "sh" then
    match ← shellArguments arguments with
    | .ok (text, name, arguments) => runText nestingLimit {} text { name, arguments }
    | .error e => complain {} ("sh: " ++ e) 2 { name := program }
  else command (runText nestingLimit) {} 1 program arguments { name := program }

end Provisioning.Shell

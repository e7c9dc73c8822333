/-!
# Grammars of arguments

Arguments are switches and operands. A switch has a long name after two dashes and perhaps a letter
after one; some take a value, which stands in the next argument or is attached. Behind a lone `--`
all arguments are operands. Where a grammar has the names of commands, the first of them ends it.

A value is looked at when the next switch or operand is taken, or at the end: so an argument that is
not known is reported before a malformed value in front of it.

## Main definitions

* `UsageFault`: why arguments are refused
* `Switch`, `Operand`, `Grammar`: what arguments there are, for a draft of a kind
* `Progress`: the draft under way
* `Grammar.read`: the draft of arguments, and the command behind them
-/

namespace Provisioning

/-- Why arguments are refused, or what was asked for in place of a command. -/
inductive UsageFault where
  /-- An argument is not known. -/
  | unknownArgument
  /-- A switch has a value that it does not take. -/
  | unwantedValue
  /-- A switch lacks its value. -/
  | missingValue
  /-- A value is none of those to choose from. -/
  | notAChoice
  /-- A value has not the form that it must have. -/
  | malformedValue
  /-- A switch is given twice. -/
  | repeated
  /-- An argument is missing. -/
  | missingArgument
  /-- A command is not known. -/
  | unknownCommand
  /-- The command is missing. -/
  | missingCommand
  /-- There are no arguments at all where a command must be. -/
  | nothingGiven
  /-- Help was asked for. -/
  | help
  /-- The version was asked for. -/
  | version
deriving DecidableEq

variable {δ : Type}

/-- What a switch does. -/
inductive Effect (δ : Type) where
  /-- It changes the draft, once. -/
  | flag (set : δ → δ)
  /-- It adds to the verbosity. -/
  | louder
  /-- It puts its value into the draft, once. -/
  | once (set : String → Except UsageFault (δ → δ))
  /-- It puts its value into the draft, any number of times. -/
  | many (add : String → Except UsageFault (δ → δ))
  /-- It ends the reading. -/
  | stop (fault : UsageFault)

/-- Whether a switch takes a value. -/
def Effect.takesValue : Effect δ → Bool
  | .once _ | .many _ => true
  | _ => false

/-- A switch. -/
structure Switch (δ : Type) where
  /-- The long name. -/
  name : String
  /-- The letter. -/
  letter : Option Char := none
  /-- What it does. -/
  effect : Effect δ

/-- A place for operands. -/
inductive Operand (δ : Type) where
  /-- One operand. -/
  | one (set : String → δ → δ)
  /-- Any number of operands. -/
  | many (add : String → δ → δ)
  /-- Any number of operands, behind `--` only. -/
  | behindDashes (add : String → δ → δ)

/-- The arguments that there are. -/
structure Grammar (δ : Type) where
  /-- The switches, those of every grammar aside. -/
  switches : List (Switch δ) := []
  /-- The places for operands, in order. -/
  operands : List (Operand δ) := []
  /-- The names of the commands that may follow. -/
  commands : List String := []

/-- A draft under way. -/
structure Progress (δ : Type) where
  /-- The draft. -/
  draft : δ
  /-- How often the verbosity was added to. -/
  verbosity : Nat := 0
  /-- The switches given that may be given once. -/
  used : List String := []
  /-- The last switch, with its value if that is there. -/
  pending : Option (Switch δ × Option String) := none
  /-- The places for operands that are left. -/
  places : List (Operand δ)
  /-- Whether only operands follow. -/
  operandsOnly : Bool := false

namespace Progress

/-- The draft with a switch done that may be given once. -/
def mark (p : Progress δ) (name : String) (set : δ → δ) : Except UsageFault (Progress δ) :=
  if name ∈ p.used then .error .repeated
  else .ok { p with draft := set p.draft, used := name :: p.used }

/-- The draft with a value put into it. -/
def put (p : Progress δ) (set : String → Except UsageFault (δ → δ)) (value : String) :
    Except UsageFault (Progress δ) :=
  (set value).map fun f => { p with draft := f p.draft }

/-- The draft with a switch done. -/
def apply (p : Progress δ) (s : Switch δ) (value : Option String) :
    Except UsageFault (Progress δ) :=
  match s.effect, value with
  | .flag set, _ => p.mark s.name set
  | .louder, _ => .ok { p with verbosity := p.verbosity + 1 }
  | .stop fault, _ => .error fault
  | .once _, none | .many _, none => .error .missingValue
  | .once set, some v => do (← p.mark s.name id).put set v
  | .many add, some v => p.put add v

/-- The draft with the last switch done. -/
def settle (p : Progress δ) : Except UsageFault (Progress δ) :=
  match p.pending with
  | some (s, value) => { p with pending := none }.apply s value
  | none => .ok p

/-- The draft with a switch done at once, after the last one. -/
def takeSwitch (p : Progress δ) (s : Switch δ) (value : Option String) :
    Except UsageFault (Progress δ) := do
  (← p.settle).apply s value

/-- The draft with a switch that waits for its value. -/
def await (p : Progress δ) (s : Switch δ) : Except UsageFault (Progress δ) := do
  return { ← p.settle with pending := some (s, none) }

/-- Whether the last switch waits for its value. -/
def isAwaiting (p : Progress δ) : Bool :=
  match p.pending with
  | some (_, none) => true
  | _ => false

end Progress

namespace Grammar

/-- The switches of every grammar. -/
def commonSwitches : List (Switch δ) :=
  [{ name := "verbose", letter := some 'v', effect := .louder },
    { name := "help", letter := some 'h', effect := .stop .help }]

/-- The switch of a long name. -/
def named? (g : Grammar δ) (name : String) : Option (Switch δ) :=
  (g.switches ++ commonSwitches).find? fun s => s.name == name

/-- The switch of a letter. -/
def lettered? (g : Grammar δ) (letter : Char) : Option (Switch δ) :=
  (g.switches ++ commonSwitches).find? fun s => s.letter == some letter

/-- A name and the value attached to it, if there is one. -/
def splitValue (text : List Char) : String × Option String :=
  let name := text.takeWhile (· ≠ '=')
  match text.drop name.length with
  | _ :: value => (String.ofList name, some (String.ofList value))
  | [] => (String.ofList name, none)

/-- The draft after a switch by its long name, which stands behind two dashes. -/
def readNamed (g : Grammar δ) (p : Progress δ) (text : List Char) :
    Except UsageFault (Progress δ) :=
  let (name, value) := splitValue text
  match g.named? name with
  | none => .error .unknownArgument
  | some s =>
    match s.effect.takesValue, value with
    | true, none => p.await s
    | false, some _ => .error .unwantedValue
    | _, _ => p.takeSwitch s value

/-- The draft after switches by their letters, which stand behind one dash. What follows the letter
of a switch that takes a value is that value. -/
def readLetters (g : Grammar δ) (p : Progress δ) : List Char → Except UsageFault (Progress δ)
  | [] => .ok p
  | c :: rest =>
    match g.lettered? c with
    | none => .error .unknownArgument
    | some s =>
      if s.effect.takesValue then
        match rest with
        -- The value follows at once, perhaps after an equals sign, or is the next argument.
        | [] => p.await s
        | '=' :: value => p.takeSwitch s (some (String.ofList value))
        | value => p.takeSwitch s (some (String.ofList value))
      else
        match p.takeSwitch s none with
        | .ok p => g.readLetters p rest
        | .error e => .error e

/-- Why an argument cannot be an operand. A command behind `--` is no command. -/
def operandFault (g : Grammar δ) (p : Progress δ) (argument : String) : UsageFault :=
  if g.commands.isEmpty then .unknownArgument
  else if p.operandsOnly && argument ∈ g.commands then .unknownArgument
  else .unknownCommand

/-- The draft after an operand. -/
def readOperand (g : Grammar δ) (p : Progress δ) (argument : String) :
    Except UsageFault (Progress δ) :=
  match p.places with
  | [] => .error (g.operandFault p argument)
  | .one set :: places => do
    let p ← p.settle
    return { p with draft := set argument p.draft, places }
  | .many add :: _ => do
    let p ← p.settle
    return { p with draft := add argument p.draft }
  | .behindDashes add :: _ =>
    if p.operandsOnly then do
      let p ← p.settle
      return { p with draft := add argument p.draft }
    else .error .unknownArgument

/-- The draft after one more argument. -/
def readArgument (g : Grammar δ) (p : Progress δ) (argument : String) :
    Except UsageFault (Progress δ) :=
  if p.operandsOnly then g.readOperand p argument
  else
    match argument.toList, p.pending with
    | ['-', '-'], _ => .ok { p with operandsOnly := true }
    | '-' :: '-' :: text, _ => g.readNamed p text
    | '-' :: c :: rest, _ => g.readLetters p (c :: rest)
    -- A switch that waits takes any argument for its value that does not start like a switch.
    | _, some (s, none) => .ok { p with pending := some (s, some argument) }
    | _, _ => g.readOperand p argument

/-- The draft of arguments, and the command behind them with its arguments. -/
def readFrom (g : Grammar δ) (p : Progress δ) :
    List String → Except UsageFault (Progress δ × Option (String × List String))
  | [] => p.settle.map fun p => (p, none)
  | argument :: rest =>
    if !p.operandsOnly && !p.isAwaiting && argument ∈ g.commands then
      .ok (p, some (argument, rest))
    else
      match g.readArgument p argument with
      | .ok p => g.readFrom p rest
      | .error e => .error e

/-- The draft that arguments make of an empty one, and the command behind them with its
arguments. -/
def read (g : Grammar δ) (empty : δ) (arguments : List String) :
    Except UsageFault (Progress δ × Option (String × List String)) :=
  g.readFrom { draft := empty, places := g.operands } arguments

end Grammar

end Provisioning

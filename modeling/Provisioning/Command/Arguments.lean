import Provisioning.Command.Grammar
import Provisioning.Decimal.Reading
import Provisioning.Network.Cidr
import Provisioning.Quantity.Duration
import Provisioning.Quantity.Size
import Provisioning.Template.Resources
import Provisioning.Text.Natural

/-!
# Arguments of commands

## Main definitions

* `RangeArguments`, `PoolArguments`, `SelectArguments`, `WaitArguments`, `SettingsAction`: what each
  command is given
* `Command`, `Invocation`: a command, and with it the verbosity
* `Invocation.read`: the invocation of a command line
-/

namespace Provisioning

open Text

/-! ## Values -/

/-- A whole number below `2^32`. A minus sign may stand before zero. -/
def readCount (text : String) : Except UsageFault UInt32 :=
  let limit := 0xFFFFFFFF
  let number :=
    match text.toList with
    | '-' :: digits =>
      if !digits.isEmpty && digits.all isAsciiDigit then readNatural? 0 (String.ofList digits)
      else none
    | _ => readNatural? limit text
  match number with
  | some n => .ok (UInt32.ofNat n)
  | none => .error .malformedValue

/-- A whole number below `2^64`. -/
def readLength (text : String) : Except UsageFault Nat :=
  match readNatural? 0xFFFFFFFFFFFFFFFF text with
  | some n => .ok n
  | none => .error .malformedValue

/-- A number. -/
def readAmount (text : String) : Except UsageFault Binary64 :=
  match readNumber? text with
  | some x => .ok x
  | none => .error .malformedValue

/-- A size. -/
def readSizeValue (text : String) : Except UsageFault Binary64 :=
  match readSize text with
  | .ok x => .ok x
  | .error _ => .error .malformedValue

/-- A duration. -/
def readSpanValue (text : String) : Except UsageFault Span :=
  match readDuration text with
  | .ok span => .ok span
  | .error _ => .error .malformedValue

/-- An address. -/
def readAddressValue (text : String) : Except UsageFault Address :=
  match Address.ofChars? text.toList with
  | some x => .ok x
  | none => .error .malformedValue

/-- A path, which is not empty. -/
def readPath (text : String) : Except UsageFault String :=
  if text = "" then .error .missingValue else .ok text

/-- One of some named choices. -/
def readChoice {α : Type} (choices : List (String × α)) (text : String) : Except UsageFault α :=
  match choices.find? fun choice => choice.1 == text with
  | some (_, a) => .ok a
  | none => .error .notAChoice

/-- The effect that puts a value into the draft, once. -/
def Effect.readOnce {δ α : Type} (read : String → Except UsageFault α) (set : α → δ → δ) : Effect δ :=
  .once fun text => (read text).map set

/-- The effect that puts a value into the draft, any number of times. -/
def Effect.readMany {δ α : Type} (read : String → Except UsageFault α) (add : α → δ → δ) : Effect δ :=
  .many fun text => (read text).map add

/-! ## Ranges -/

/-- What host ranges are shown of, and how. -/
structure RangeArguments where
  /-- The texts of the blocks. -/
  blocks : List String := []
  /-- Whether to show JSON. -/
  json : Bool := false
deriving DecidableEq

namespace RangeArguments

/-- The arguments that there are. -/
def grammar : Grammar RangeArguments where
  switches := [{ name := "json", effect := .flag fun a => { a with json := true } }]
  operands := [.many fun block a => { a with blocks := a.blocks ++ [block] }]

/-- The arguments of a complete draft: one block at least. -/
def finish (a : RangeArguments) : Except UsageFault RangeArguments :=
  if a.blocks.isEmpty then .error .missingArgument else .ok a

end RangeArguments

/-! ## Pools -/

/-- What addresses are taken from, and which. -/
structure PoolArguments where
  /-- The text of the block. -/
  block : String
  /-- The addresses in use. -/
  reserved : List Address := []
  /-- The number of addresses to allocate. -/
  count : Nat := 1
deriving DecidableEq

/-- A draft of pool arguments. -/
structure PoolDraft where
  block : Option String := none
  reserved : List Address := []
  count : Nat := 1

namespace PoolDraft

/-- The arguments that there are. -/
def grammar : Grammar PoolDraft where
  switches := [
    { name := "reserve"
      effect := .readMany readAddressValue fun x d => { d with reserved := d.reserved ++ [x] } },
    { name := "allocate", letter := some 'n'
      effect := .readOnce readLength fun count d => { d with count } }]
  operands := [.one fun block d => { d with block := some block }]

/-- The arguments of a complete draft: with a block. -/
def finish (d : PoolDraft) : Except UsageFault PoolArguments :=
  match d.block with
  | some block => .ok { block, reserved := d.reserved, count := d.count }
  | none => .error .missingArgument

end PoolDraft

/-! ## Selections -/

/-- What templates are scored by. -/
inductive ScorerKind where
  /-- What they have beyond the requirement. -/
  | overage
  /-- Their price. -/
  | price
deriving DecidableEq

/-- The name of a way to score. -/
def ScorerKind.name : ScorerKind → String
  | .overage => "Drf"
  | .price => "Price"

/-- How a selection is shown. -/
inductive OutputFormat where
  | table | json
deriving DecidableEq

/-- What templates are asked for, and how they are shown. -/
structure SelectArguments where
  /-- The path of the catalog. -/
  catalog : String
  /-- The text of the architecture. -/
  architecture : String := "x86_64"
  /-- The least amounts. -/
  resources : Resources := {}
  /-- What templates are scored by. -/
  scorer : ScorerKind := .overage
  /-- The months of commitment. -/
  commitment : Option UInt32 := none
  /-- How many templates to show at most. -/
  limit : Option Nat := none
  /-- Whether to show the templates that do not qualify. -/
  explain : Bool := false
  /-- How to show the templates. -/
  format : OutputFormat := .table
deriving DecidableEq

/-- A draft of selection arguments: the arguments for a catalog that may still be missing. -/
structure SelectDraft where
  catalog : Option String := none
  others : SelectArguments := { catalog := "" }

namespace SelectDraft

/-- The draft with the arguments besides the catalog changed. -/
def alter (f : SelectArguments → SelectArguments) (d : SelectDraft) : SelectDraft :=
  { d with others := f d.others }

/-- The draft with the amounts changed. -/
def require (f : Resources → Resources) : SelectDraft → SelectDraft :=
  alter fun a => { a with resources := f a.resources }

/-- The switches of amounts. -/
def amountSwitches : List (Switch SelectDraft) := [
  { name := "cpu-cores"
    effect := .readOnce readCount fun cpuCores => require fun r => { r with cpuCores } },
  { name := "cpu-ghz"
    effect := .readOnce readAmount fun cpuFrequency => require fun r => { r with cpuFrequency } },
  { name := "memory"
    effect := .readOnce readSizeValue fun memory => require fun r => { r with memory } },
  { name := "system-disk"
    effect := .readOnce readSizeValue fun systemDisk => require fun r => { r with systemDisk } },
  { name := "ephemeral-disk"
    effect := .readOnce readSizeValue fun ephemeralDisk => require fun r => { r with ephemeralDisk } },
  { name := "gpu-count"
    effect := .readOnce readCount fun gpuCount => require fun r => { r with gpuCount } },
  { name := "gpu-cores"
    effect := .readOnce readCount fun gpuCores => require fun r => { r with gpuCores } },
  { name := "gpu-memory"
    effect := .readOnce readSizeValue fun gpuMemory => require fun r => { r with gpuMemory } },
  { name := "gpu-ghz"
    effect := .readOnce readAmount fun gpuFrequency => require fun r => { r with gpuFrequency } }]

/-- The other switches. -/
def otherSwitches : List (Switch SelectDraft) := [
  { name := "catalog", letter := some 'c'
    effect := .readOnce readPath fun path d => { d with catalog := some path } },
  { name := "arch"
    effect := .readOnce .ok fun architecture => alter fun a => { a with architecture } },
  { name := "scorer"
    effect := .readOnce (readChoice [("drf", .overage), ("price", .price)]) fun scorer =>
      alter fun a => { a with scorer } },
  { name := "commitment"
    effect := .readOnce readCount fun months => alter fun a => { a with commitment := some months } },
  { name := "limit", letter := some 'l'
    effect := .readOnce readLength fun n => alter fun a => { a with limit := some n } },
  { name := "explain"
    effect := .flag (alter fun a => { a with explain := true }) },
  { name := "format", letter := some 'f'
    effect := .readOnce (readChoice [("table", .table), ("json", .json)]) fun format =>
      alter fun a => { a with format } }]

/-- The arguments that there are. -/
def grammar : Grammar SelectDraft where
  switches := otherSwitches ++ amountSwitches

/-- The arguments of a complete draft: with a catalog. -/
def finish (d : SelectDraft) : Except UsageFault SelectArguments :=
  match d.catalog with
  | some catalog => .ok { d.others with catalog }
  | none => .error .missingArgument

end SelectDraft

/-! ## Waits -/

/-- What is waited for, and how long. -/
structure WaitArguments where
  /-- The time in all. -/
  timeout : Option Span := none
  /-- The time between two attempts. -/
  interval : Option Span := none
  /-- The scripts to try. -/
  scripts : List String := []
  /-- The program to try, with its arguments. -/
  program : List String := []
deriving DecidableEq

namespace WaitArguments

/-- The arguments that there are. -/
def grammar : Grammar WaitArguments where
  switches := [
    { name := "timeout", letter := some 't'
      effect := .readOnce readSpanValue fun span a => { a with timeout := some span } },
    { name := "interval", letter := some 'i'
      effect := .readOnce readSpanValue fun span a => { a with interval := some span } },
    { name := "probe", letter := some 'p'
      effect := .readMany .ok fun script a => { a with scripts := a.scripts ++ [script] } }]
  operands := [.behindDashes fun word a => { a with program := a.program ++ [word] }]

end WaitArguments

/-! ## Settings -/

/-- What is done with the settings. -/
inductive SettingsAction where
  /-- All settings are shown. -/
  | list
  /-- The setting of a key is changed. -/
  | set (key value : String)
  /-- The setting of a key is shown. -/
  | get (key : String)
  /-- All settings are removed. -/
  | reset
  /-- The path of the settings is shown. -/
  | path
deriving DecidableEq

namespace SettingsAction

/-- The names of the actions. -/
def names : List String := ["show", "set", "get", "reset", "path"]

/-- The grammar of an action: its operands in a list. -/
def grammar (action : String) : Grammar (List String) :=
  let operand : Operand (List String) := .one fun text texts => texts ++ [text]
  match action with
  | "set" => { operands := [operand, operand] }
  | "get" => { operands := [operand] }
  | _ => {}

/-- The action of a name and its operands. -/
def ofOperands (action : String) (operands : List String) : Except UsageFault SettingsAction :=
  match action, operands with
  | "set", [key, value] => .ok (.set key value)
  | "get", [key] => .ok (.get key)
  | "show", _ => .ok .list
  | "reset", _ => .ok .reset
  | "path", _ => .ok .path
  | _, _ => .error .missingArgument

end SettingsAction

/-! ## Commands -/

/-- A command with its arguments. -/
inductive Command where
  | range (arguments : RangeArguments)
  | pool (arguments : PoolArguments)
  | select (arguments : SelectArguments)
  | wait (arguments : WaitArguments)
  | settings (action : SettingsAction)
deriving DecidableEq

/-- A command and the verbosity that it is run with. -/
structure Invocation where
  /-- The verbosity. -/
  verbosity : Nat
  /-- The command. -/
  command : Command
deriving DecidableEq

namespace Invocation

/-- The names of the commands. -/
def commandNames : List String := ["range", "pool", "select", "wait", "config"]

/-- The greatest verbosity. -/
def verbosityLimit : Nat := 255

/-- The verbosity of a level and of the levels outside of it: the innermost one counts that has
any. -/
def innermost (outer inner : Nat) : Nat := if inner = 0 then outer else min inner verbosityLimit

/-- What a request for help leads to, by the names of the commands that help is wanted with: each
must be a command of the one before it. -/
def helpFault (settingsLevel : Bool) : List String → UsageFault
  | [] => .help
  | name :: names =>
    let known := if settingsLevel then SettingsAction.names else commandNames
    if !settingsLevel && name == "config" then helpFault true names
    else if name ∈ "help" :: known && names.isEmpty then .help
    else .unknownCommand

/-- The arguments of a command without commands of its own, and its verbosity. -/
def readLeaf {δ α : Type} (g : Grammar δ) (empty : δ) (finish : δ → Except UsageFault α)
    (arguments : List String) : Except UsageFault (α × Nat) := do
  let (p, _) ← g.read empty arguments
  return (← finish p.draft, p.verbosity)

/-- Why no command follows: nothing was given at all, or a switch only. -/
def commandFault {δ : Type} (p : Progress δ) : UsageFault :=
  if p.verbosity = 0 then .nothingGiven else .missingCommand

/-- The action of the arguments behind the name of the settings command, and its verbosity. -/
def readSettings (arguments : List String) : Except UsageFault (SettingsAction × Nat) := do
  let g : Grammar Unit := { commands := "help" :: SettingsAction.names }
  let (p, next) ← g.read () arguments
  match next with
  | none => .error (commandFault p)
  | some ("help", names) => .error (helpFault true names)
  | some (action, rest) =>
    let (a, verbosity) ←
      readLeaf (SettingsAction.grammar action) [] (SettingsAction.ofOperands action) rest
    return (a, innermost p.verbosity verbosity)

/-- The command of a name and the arguments behind it, and its verbosity. -/
def readCommand (name : String) (arguments : List String) :
    Except UsageFault (Command × Nat) :=
  match name with
  | "range" =>
    (readLeaf RangeArguments.grammar {} RangeArguments.finish arguments).map (·.map .range id)
  | "pool" => (readLeaf PoolDraft.grammar {} PoolDraft.finish arguments).map (·.map .pool id)
  | "select" =>
    (readLeaf SelectDraft.grammar {} SelectDraft.finish arguments).map (·.map .select id)
  | "wait" => (readLeaf WaitArguments.grammar {} .ok arguments).map (·.map .wait id)
  | "config" => (readSettings arguments).map (·.map .settings id)
  | "help" => .error (helpFault false arguments)
  | _ => .error .unknownCommand

/-- The invocation of a command line, the name of the program aside. -/
def read (arguments : List String) : Except UsageFault Invocation := do
  let g : Grammar Unit :=
    { switches := [{ name := "version", letter := some 'V', effect := .stop .version }]
      commands := "help" :: commandNames }
  let (p, next) ← g.read () arguments
  match next with
  | none => .error (commandFault p)
  | some (name, rest) =>
    let (command, verbosity) ← readCommand name rest
    return { verbosity := innermost (min p.verbosity verbosityLimit) verbosity, command }

end Invocation

end Provisioning

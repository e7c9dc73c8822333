import Provisioning.Network.Block
import Provisioning.Poll.Outcome
import Provisioning.Template.Ranking
import Provisioning.Terminal.Notice
import Provisioning.Terminal.Table

/-!
# Reports

Results as text for a terminal.

## Main definitions

* `hostRangeTable`: the host ranges of blocks
* `rankedTable?`, `rankedText`: a ranking, if it is not empty
* `exclusionsText`: the templates that do not qualify, with the reasons
* `outcomeTable`: the outcomes of polls
-/

namespace Provisioning.Terminal

open Log

/-! ## Host ranges -/

/-- The row of a block. -/
def hostRangeRow (b : Block) : Logged (List String) := do
  let range ← b.hostRangeLogged
  return [b.text, b.netmask.text, range.first.text, range.last.text, toString range.length]

/-- The rows of blocks. -/
def hostRangeRows : List Block → Logged (List (List String))
  | [] => pure []
  | b :: blocks => do
    let row ← hostRangeRow b
    let rows ← hostRangeRows blocks
    return row :: rows

/-- The host ranges of blocks. -/
def hostRangeTable (blocks : List Block) : Logged Table := do
  let rows ← hostRangeRows blocks
  return { headings := ["CIDR", "Netmask", "First host", "Last host", "Hosts"], rows }

/-! ## Rankings -/

/-- The heading of prices. -/
def priceHeading (pricing : Pricing) : String :=
  match pricing.commitment with
  | some months => "$/mo (" ++ toString months.toNat ++ "m)"
  | none => "$/hr"

/-- The text of a score, to two places; every score that is no finite number looks alike. -/
def scoreText (score : Binary64) : String :=
  if score.isFinite then renderFixed 2 score else "∞"

/-- The text of a place; the first one stands out. -/
def placeText (styled : Bool) (place : Nat) : String :=
  if place = 1 then paint styled (.strongOf .green) "1" else toString place

/-- The row of a template at a place. -/
def rankedRow (styled : Bool) (pricing : Pricing) (place : Nat) (r : Ranked) : List String :=
  let c := r.candidate
  [placeText styled place, c.id, c.name, c.architecture.text,
    toString c.resources.cpuCores.toNat ++ " @ " ++ renderFixed 1 c.resources.cpuFrequency ++ "GHz",
    renderFixed 0 c.resources.memory, toString c.resources.gpuCount.toNat,
    renderFixed 0 c.resources.gpuMemory, priceText (pricing.effectivePrice c), scoreText r.score]

/-- The rows of templates from a place on. -/
def rankedRows (styled : Bool) (pricing : Pricing) : Nat → List Ranked → List (List String)
  | _, [] => []
  | place, r :: ranked =>
    rankedRow styled pricing place r :: rankedRows styled pricing (place + 1) ranked

/-- The table of a ranking that is not empty. -/
def rankedTable? (styled : Bool) (pricing : Pricing) : List Ranked → Option Table
  | [] => none
  | ranked => some {
      headings := ["Rank", "ID", "Name", "Arch", "CPU", "RAM (GB)", "GPU", "GPU RAM (GB)",
        priceHeading pricing, "Score"]
      rows := rankedRows styled pricing 1 ranked }

/-- A ranking as text. -/
def rankedText (styled : Bool) (pricing : Pricing) (ranked : List Ranked) : String :=
  match rankedTable? styled pricing ranked with
  | some table => table.text styled
  | none => paint styled (.of .yellow) "No template satisfies the requirement." ++ "\n"

/-! ## Exclusions -/

/-- The line of a template that does not qualify. -/
def exclusionLine (styled : Bool) (c : Candidate) (mismatches : List Mismatch) : String :=
  "  " ++ paint styled (.of Notice.error.colour) Notice.error.sign ++ " " ++
    paint styled .strong c.id ++ " (" ++
    String.intercalate "; " (mismatches.map Mismatch.text) ++ ")\n"

/-- Templates that do not qualify as text; nothing if there are none. -/
def exclusionsText (styled : Bool) : List (Candidate × List Mismatch) → String
  | [] => ""
  | excluded =>
    "\n" ++ paint styled .strong "Excluded templates:" ++ "\n" ++
      String.join (excluded.map fun e => exclusionLine styled e.1 e.2)

/-! ## Outcomes -/

/-- The text of a state. -/
def stateText (styled : Bool) : Poll.State → String
  | .converged => paint styled (.of .green) "converged"
  | .timedOut => paint styled (.of .red) "timed out"
  | .cancelled => paint styled (.of .yellow) "cancelled"

/-- What is said about the last error of a poll. -/
def lastErrorText {α : Type} (o : Poll.Outcome String α) : String :=
  match o.result with
  | none => "no attempt completed"
  | some (.error e) => e
  | some (.ok _) => "-"

/-- The row of a poll. -/
def outcomeRow {α : Type} (styled : Bool) (label : String) (o : Poll.Outcome String α) :
    List String :=
  [label, stateText styled o.state, toString o.attempts, o.elapsed.elapsedText, lastErrorText o]

/-- The outcomes of polls, each with its label. -/
def outcomeTable {α : Type} (styled : Bool) (outcomes : List (String × Poll.Outcome String α)) :
    Table where
  headings := ["Probe", "State", "Attempts", "Elapsed", "Last error"]
  rows := outcomes.map fun o => outcomeRow styled o.1 o.2

end Provisioning.Terminal

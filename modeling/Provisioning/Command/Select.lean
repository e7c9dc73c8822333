import Provisioning.Command.Arguments
import Provisioning.Command.Session
import Provisioning.Json.Print
import Provisioning.Template.Reading
import Provisioning.Template.Writing
import Provisioning.Terminal.Report

/-!
# The select command

Ranks the templates of a catalog by a requirement.

## Main definitions

* `SelectArguments.requirement`, `SelectArguments.pricing`, `SelectArguments.scorer?`: what the
  arguments and the settings ask for
* `SelectReport`, `SelectArguments.report`: the ranking, cut off at the limit, and the templates that
  do not qualify
* `SelectReport.toJson`, `SelectReport.text`: the report as JSON and as text
* `SelectArguments.run`: the command
-/

namespace Provisioning

open Log Terminal

namespace SelectArguments

/-- The requirement of the arguments. -/
def requirement (a : SelectArguments) : Except TemplateError Requirement := do
  let architecture ← readArchitecture a.architecture
  let r : Requirement := { architecture, resources := a.resources }
  r.check
  return r

/-- How prices are compared: by the commitment of the arguments, or else by the one of the
settings. -/
def pricing (a : SelectArguments) (s : Settings) : Except SettingsError Pricing := do
  let commitment ←
    match a.commitment with
    | some months => pure (some months)
    | none => s.commitment
  return { commitment, hoursPerMonth := ← s.hoursPerMonth }

/-- The scorer of the arguments, with the weights or the pricing of the settings. -/
def scorer? (a : SelectArguments) (s : Settings) : Except SettingsError Scorer :=
  match a.scorer with
  | .overage => s.scoreWeights.map overageScorer
  | .price => (a.pricing s).map Pricing.scorer

end SelectArguments

/-- What a selection comes to. -/
structure SelectReport where
  /-- The requirement. -/
  requirement : Requirement
  /-- The number of templates that qualify. -/
  qualifying : Nat
  /-- The best of them. -/
  ranked : List Ranked
  /-- The templates that do not qualify, if they are to be shown. -/
  excluded : List (Candidate × List Mismatch)

namespace SelectArguments

/-- The ranking up to a limit. -/
def cut (limit : Option Nat) (ranked : List Ranked) : List Ranked :=
  match limit with
  | some n => ranked.take n
  | none => ranked

/-- The report of a catalog. -/
def report (a : SelectArguments) (catalog : List Candidate) (r : Requirement) (score : Scorer) :
    Logged SelectReport := do
  Logged.note ⟨.debug, "ranking " ++ toString catalog.length ++ " templates with " ++
    a.scorer.name ++ " scorer"⟩
  let ranked ← rankingLogged catalog r score
  return {
    requirement := r
    qualifying := ranked.length
    ranked := cut a.limit ranked
    excluded := if a.explain then exclusions catalog r else [] }

end SelectArguments

namespace SelectReport

/-- The JSON form of a template that does not qualify. -/
def excludedJson (c : Candidate) (mismatches : List Mismatch) : Json.Value :=
  .object [("id", .string c.id), ("mismatches", .array (mismatches.map Mismatch.toJson))]

/-- The JSON form of a report. -/
def toJson (r : SelectReport) : Json.Value :=
  .object [("requirement", r.requirement.toJson), ("ranked", .array (r.ranked.map Ranked.toJson)),
    ("excluded", .array (r.excluded.map fun e => excludedJson e.1 e.2))]

/-- The remark below a report: that nothing qualifies, or that not all is shown. -/
def remark (styled : Bool) (r : SelectReport) : String :=
  if r.qualifying = 0 then
    Notice.warning.line styled "Relax the requirement or add templates to the catalog"
  else if r.ranked.length < r.qualifying then
    Notice.info.line styled ("Showing " ++ toString r.ranked.length ++ " of " ++
      toString r.qualifying ++ " qualifying templates")
  else ""

/-- A report as text. -/
def text (styled : Bool) (pricing : Pricing) (r : SelectReport) : String :=
  rankedText styled pricing r.ranked ++ exclusionsText styled r.excluded ++ r.remark styled

end SelectReport

namespace SelectArguments

variable {m : Type → Type} [Monad m] [FileStore m]

/-- The catalog at a path. -/
def loadCatalog (path : String) : m (Except CommandError (List Candidate)) := do
  match ← readText path with
  | .error e => return .error (.invalidInput ("Cannot read catalog " ++ path ++ ": " ++ e.message))
  | .ok text =>
    match readCatalog text with
    | .error e => return .error (.template e)
    | .ok catalog => return .ok catalog

/-- The command. -/
def run (styled : Bool) (s : Settings) (a : SelectArguments) : Session m Unit := do
  let r ← Session.require .template a.requirement
  let catalog ← Session.require id (← Session.perform (loadCatalog a.catalog))
  let score ← Session.require .settings (a.scorer? s)
  let report ← Session.logged (a.report catalog r score)
  match a.format with
  | .json => Session.print (Json.pretty report.toJson.sorted ++ "\n")
  | .table =>
    let pricing ← Session.require .settings (a.pricing s)
    Session.print (report.text styled pricing)

end SelectArguments

end Provisioning

import Provisioning.Json.Read
import Provisioning.Template.Candidate

/-!
# Reading of templates

The JSON forms of architectures, amounts, weights, requirements, templates and catalogs. Members that
are not known are skipped, and a known member that stands twice is a fault.

Amounts and weights on their own may also be arrays, in the order of the dimensions, that may end
early. Where amounts stand among the other members of an object, these members are first read as
values of any form and are looked at when the object ends.

## Main definitions

* `architectureReader`, `resourcesReader`, `weightsReader`, `requirementReader`, `candidateReader`:
  the readers
* `readCatalog`: the templates of a catalog's text, all of them checked
-/

namespace Provisioning

open Json Text

/-- An architecture, by any spelling. -/
def architectureReader : Reader Architecture :=
  Json.string.bind fun raw => orMismatch (Architecture.read? raw)

/-! ## Amounts and weights on their own -/

/-- The dimension of an exact name. -/
def dimensionOfKey? (key : String) : Option Dimension :=
  Dimension.all.find? fun d => d.key == key

namespace Resources

/-- The amounts with the one of a dimension set by a value; a count must be whole. -/
def setValue? (r : Resources) (d : Dimension) (v : Value) : Option Resources :=
  match d with
  | .cpuCores => v.count?.map fun x => { r with cpuCores := x }
  | .cpuFrequency => v.float?.map fun x => { r with cpuFrequency := x }
  | .memory => v.float?.map fun x => { r with memory := x }
  | .systemDisk => v.float?.map fun x => { r with systemDisk := x }
  | .ephemeralDisk => v.float?.map fun x => { r with ephemeralDisk := x }
  | .gpuCount => v.count?.map fun x => { r with gpuCount := x }
  | .gpuCores => v.count?.map fun x => { r with gpuCores := x }
  | .gpuMemory => v.float?.map fun x => { r with gpuMemory := x }
  | .gpuFrequency => v.float?.map fun x => { r with gpuFrequency := x }

end Resources

/-- The weights with the one of a dimension set by a value. -/
def Weights.setValue? (w : Weights) (d : Dimension) (v : Value) : Option Weights :=
  v.float?.map (w.set d)

section Fields

variable {σ : Type} (set : σ → Dimension → Value → Option σ)

/-- A number for a dimension. -/
def fieldReader (state : σ) (d : Dimension) : Reader σ :=
  numeric.bind fun v => orMismatch (set state d v)

/-- The entry of a name: a dimension that was not there yet, or anything to be skipped. -/
def fieldEntry (state : σ × List Dimension) (key : String) :
    Except Fault (Reader (σ × List Dimension)) :=
  match dimensionOfKey? key with
  | none => .ok (skipValue.map fun _ => state)
  | some d =>
    if d ∈ state.2 then .error .mismatched
    else .ok ((fieldReader set state.1 d).map fun s => (s, d :: state.2))

/-- The end of an array all of whose items are read. -/
def arrayEnd : Reader Unit :=
  afterBlank fun s =>
    match s with
    | [] => .error .truncated
    | c :: rest => if c = ']' then .ok ((), Rest.tail rest) else .error .malformed

/-- The items of an array for dimensions in their order, as many as there are, and its closing
bracket. -/
def fieldItems : List Dimension → Bool → σ → Reader σ
  | [], _, state => arrayEnd.map fun _ => state
  | d :: more, first, state => fun s =>
    match nextItem first s with
    | .error e => .error e
    | .ok (.done rest) => .ok (state, rest)
    | .ok (.more ⟨text, htext⟩) =>
      match fieldReader set state d text with
      | .error e => .error e
      | .ok (state, ⟨rest, hrest⟩) =>
        match fieldItems more false state rest with
        | .error e => .error e
        | .ok (state, final) =>
          .ok (state, final.of (Nat.le_of_lt (Nat.lt_of_lt_of_le hrest htext)))

/-- Numbers by dimension: an object, or an array in the order of the dimensions. -/
def fieldsReader (state : σ) : Reader σ :=
  afterBlank fun s =>
    if s.head? = some '[' then afterOpening (fieldItems set Dimension.all true state) s
    else
      Reader.map Prod.fst (object name (fieldEntry set) (state, [])) s

end Fields

/-- Amounts on their own; those that are missing are zero. -/
def resourcesReader : Reader Resources := fieldsReader Resources.setValue? {}

/-- Weights on their own; those that are missing have their defaults. -/
def weightsReader : Reader Weights := fieldsReader Weights.setValue? .default

/-! ## Amounts among other members -/

/-- The amounts among the members that an object holds besides its own, the first member first. -/
def resourcesOf (r : Resources) (seen : List Dimension) :
    List (String × Value) → Except Fault Resources
  | [] => .ok r
  | (key, v) :: rest =>
    match dimensionOfKey? key with
    | none => resourcesOf r seen rest
    | some d =>
      if d ∈ seen then .error .mismatched
      else
        match r.setValue? d v with
        | none => .error .mismatched
        | some r => resourcesOf r (d :: seen) rest

/-- A member that must not stand twice. -/
def once {α σ : Type} (present : Option α) (reader : Reader σ) : Except Fault (Reader σ) :=
  if present.isSome then .error .mismatched else .ok reader

/-- A requirement while its members are read, the latest of the other members first. -/
structure RequirementDraft where
  architecture : Option Architecture := none
  others : List (String × Value) := []

/-- The entry of a requirement's member. -/
def requirementEntry (depth : Nat) (draft : RequirementDraft) (key : String) :
    Except Fault (Reader RequirementDraft) :=
  if key = "architecture" then
    once draft.architecture (architectureReader.map fun a => { draft with architecture := some a })
  else .ok ((anyValue depth).map fun v => { draft with others := (key, v) :: draft.others })

/-- A requirement. -/
def requirementReader (depth : Nat) : Reader Requirement :=
  (object name (requirementEntry (depth - 1)) {}).bind fun draft =>
    (resourcesOf {} [] draft.others.reverse).map fun resources =>
      { architecture := draft.architecture.getD .x86, resources }

/-- The months of a commitment, as a name: a whole number in quotes, written as a number is. -/
def monthsName : Reader UInt32 := fun s =>
  match s with
  | [] => .error .truncated
  | _ :: rest =>
    match rest.head? with
    | none => .error .malformed
    | some c =>
      if startsNumber c then
        match count rest with
        | .error e => .error e
        | .ok (months, ⟨r, hr⟩) =>
          match r with
          | '"' :: final =>
            .ok (months, ⟨final, by simp only [List.length_cons] at hr ⊢; omega⟩)
          | _ => .error .malformed
      else .error .malformed

/-- The prices of a month; the last one of a commitment counts. -/
def monthlyPricesReader : Reader (SortedMap UInt32 Binary64) :=
  object monthsName (fun prices months => .ok (float.map fun x => prices.insert months x)) .empty

/-- A template while its members are read, the latest of the other members first. -/
structure CandidateDraft where
  id : Option String := none
  name : Option String := none
  architecture : Option Architecture := none
  hourlyPrice : Option (Option Binary64) := none
  monthlyPrices : Option (SortedMap UInt32 Binary64) := none
  others : List (String × Value) := []

/-- The entry of a template's member. -/
def candidateEntry (depth : Nat) (draft : CandidateDraft) (key : String) :
    Except Fault (Reader CandidateDraft) :=
  if key = "id" then once draft.id (Json.string.map fun x => { draft with id := some x })
  else if key = "name" then once draft.name (Json.string.map fun x => { draft with name := some x })
  else if key = "architecture" then
    once draft.architecture (architectureReader.map fun x => { draft with architecture := some x })
  else if key = "hourly_price" then
    once draft.hourlyPrice ((optional float).map fun x => { draft with hourlyPrice := some x })
  else if key = "monthly_prices" then
    once draft.monthlyPrices
      (monthlyPricesReader.map fun x => { draft with monthlyPrices := some x })
  else .ok ((anyValue depth).map fun v => { draft with others := (key, v) :: draft.others })

/-- The template of its members; its id and its name must be there. -/
def CandidateDraft.finish (draft : CandidateDraft) : Except Fault Candidate :=
  match draft.id, draft.name with
  | some id, some name =>
    (resourcesOf {} [] draft.others.reverse).map fun resources =>
      { id, name, resources
        architecture := draft.architecture.getD .x86
        hourlyPrice := draft.hourlyPrice.getD none
        monthlyPrices := draft.monthlyPrices.getD .empty }
  | _, _ => .error .mismatched

/-- A template. -/
def candidateReader (depth : Nat) : Reader Candidate :=
  (object name (candidateEntry (depth - 1)) {}).bind CandidateDraft.finish

/-- The templates of an array. -/
def candidatesReader (depth : Nat) : Reader (List Candidate) :=
  (array (fun found => (candidateReader (depth - 1)).map (· :: found)) []).map List.reverse

/-- Refuses the first template that has a fault. -/
def checkAll : List Candidate → Except TemplateError Unit
  | [] => .ok ()
  | c :: rest =>
    match c.check with
    | .ok _ => checkAll rest
    | .error e => .error e

/-- The templates of a catalog's text, all of them checked. -/
def readCatalog (text : String) : Except TemplateError (List Candidate) :=
  match readAll (candidatesReader depthLimit) text with
  | .error fault => .error (.unreadable fault)
  | .ok catalog => (checkAll catalog).map fun _ => catalog

end Provisioning

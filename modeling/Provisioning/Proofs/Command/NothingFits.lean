import Provisioning.Proofs.Command.Select
import Provisioning.Proofs.Command.Session

/-!
# When a selection says that nothing fits

In place of an empty table a selection prints a message that no template satisfies the requirement. The
message depends on the ranking as it is shown, after the limit has cut it off, and not on the templates
that qualify. So a limit of zero brings it about as well, and the remark below it then counts the
templates that it denies.

## Main definitions

* `nothingFits`: the message
* `SaysNothingFits`, `ShowsTable`: a text opens with the message, or with a table
* `TellsWhatFits`: when a text does the one and when the other

## Main results

* `SelectArguments.finishes_run_iff`: when a selection succeeds, and what it prints then
* `SelectArguments.tellsWhatFits_report`: the text of a report, for any scorer
* `SelectArguments.tellsWhatFits_run`: what a selection that succeeds prints
-/

namespace Provisioning

open Log Terminal

variable {catalog : List Candidate} {r : Requirement} {styled : Bool} {printed : String}

/-! ## Messages and tables -/

/-- The message that nothing fits. -/
def nothingFits (styled : Bool) : String :=
  paint styled (.of .yellow) "No template satisfies the requirement." ++ "\n"

/-- A text opens with the message that nothing fits. -/
def SaysNothingFits (styled : Bool) (printed : String) : Prop :=
  ∃ rest, printed = nothingFits styled ++ rest

/-- A text opens with a table. -/
def ShowsTable (styled : Bool) (printed : String) : Prop :=
  ∃ (table : Table) (rest : String), printed = table.text styled ++ rest

/-- A table opens with a corner of its frame. -/
theorem ShowsTable.head? (h : ShowsTable styled printed) : printed.toList.head? = some '┌' := by
  obtain ⟨table, rest, rfl⟩ := h
  simp [Table.text, Table.lines, Table.frameLine, String.join_cons]

/-- The message opens with a letter, or with the code for its style. -/
theorem head?_nothingFits (styled : Bool) :
    (nothingFits styled).toList.head? = some (if styled then '\x1b' else 'N') := by
  cases styled with
  | false => decide +kernel
  | true => decide +kernel

theorem SaysNothingFits.head?_ne (h : SaysNothingFits styled printed) :
    printed.toList.head? ≠ some '┌' := by
  obtain ⟨rest, rfl⟩ := h
  rw [String.toList_append, List.head?_append, head?_nothingFits, Option.some_or]
  intro heq
  have hopens := Option.some.inj heq
  cases styled with
  | false => exact absurd hopens (by decide)
  | true => exact absurd hopens (by decide)

/-- No text is both. -/
theorem not_saysNothingFits_of_showsTable (h : ShowsTable styled printed) :
    ¬ SaysNothingFits styled printed :=
  fun hsays => hsays.head?_ne h.head?

theorem rankedText_nil (styled : Bool) (pricing : Pricing) :
    rankedText styled pricing [] = nothingFits styled := rfl

theorem exists_rankedText_cons (styled : Bool) (pricing : Pricing) (x : Ranked) (ranked : List Ranked) :
    ∃ table : Table, rankedText styled pricing (x :: ranked) = table.text styled :=
  ⟨_, rfl⟩

/-! ## Reports -/

/-- What a text tells about the templates of a catalog that qualify, of which a limit may hide some. -/
structure TellsWhatFits (catalog : List Candidate) (r : Requirement) (limit : Option Nat)
    (styled : Bool) (printed : String) : Prop where
  /-- That nothing fits is said if nothing does, or if nothing is to be shown. -/
  nothing_iff : SaysNothingFits styled printed ↔
    (∀ c ∈ catalog, qualifies c r = false) ∨ limit = some 0
  /-- A table is shown if something fits and is to be shown. -/
  table_iff : ShowsTable styled printed ↔ (∃ c ∈ catalog, qualifies c r = true) ∧ limit ≠ some 0
  /-- If nothing is to be shown, the last line tells how many templates fit all the same. -/
  hidden : limit = some 0 → (∃ c ∈ catalog, qualifies c r = true) →
    ∃ above, printed = above ++ Notice.info.line styled ("Showing 0 of " ++
      toString (catalog.countP (qualifies · r)) ++ " qualifying templates")

theorem ranking_eq_nil_iff (catalog : List Candidate) (r : Requirement) (score : Scorer) :
    ranking catalog r score = [] ↔ ∀ c ∈ catalog, qualifies c r = false := by
  rw [← List.length_eq_zero_iff, length_ranking, List.length_eq_zero_iff, List.filter_eq_nil_iff]
  simp only [Bool.not_eq_true]

theorem SelectReport.exists_text (styled : Bool) (pricing : Pricing) (report : SelectReport) :
    ∃ rest, report.text styled pricing = rankedText styled pricing report.ranked ++ rest :=
  ⟨_, String.append_assoc⟩

theorem SelectReport.saysNothingFits_iff (pricing : Pricing) (report : SelectReport) :
    SaysNothingFits styled (report.text styled pricing) ↔ report.ranked = [] := by
  obtain ⟨rest, hrest⟩ := report.exists_text styled pricing
  rw [hrest]
  constructor
  · -- If there is something to show, the text opens with a table, and a table is no message.
    intro hsays
    cases hranked : report.ranked with
    | nil => rfl
    | cons x ranked =>
      obtain ⟨table, htable⟩ := exists_rankedText_cons styled pricing x ranked
      rw [hranked, htable] at hsays
      exact absurd hsays (not_saysNothingFits_of_showsTable ⟨table, rest, rfl⟩)
  · intro hranked
    rw [hranked, rankedText_nil]
    exact ⟨rest, rfl⟩

theorem SelectReport.showsTable_iff (pricing : Pricing) (report : SelectReport) :
    ShowsTable styled (report.text styled pricing) ↔ report.ranked ≠ [] := by
  constructor
  · intro htable hranked
    exact not_saysNothingFits_of_showsTable htable
      ((SelectReport.saysNothingFits_iff pricing report).2 hranked)
  · intro hranked
    obtain ⟨rest, hrest⟩ := report.exists_text styled pricing
    obtain ⟨x, ranked, hcons⟩ := List.exists_cons_of_ne_nil hranked
    obtain ⟨table, htable⟩ := exists_rankedText_cons styled pricing x ranked
    exact ⟨table, rest, by rw [hrest, hcons, htable]⟩

namespace SelectArguments

variable {a : SelectArguments} {s : Settings}

/-- Nothing is shown if there is nothing to show, or if nothing is to be shown. -/
theorem cut_eq_nil_iff {limit : Option Nat} {ranked : List Ranked} :
    cut limit ranked = [] ↔ ranked = [] ∨ limit = some 0 := by
  cases limit with
  | none => simp [cut]
  | some n => simp [cut, or_comm]

theorem ranked_report_eq_nil_iff (a : SelectArguments) (catalog : List Candidate) (r : Requirement)
    (score : Scorer) :
    (a.report catalog r score).value.ranked = [] ↔
      (∀ c ∈ catalog, qualifies c r = false) ∨ a.limit = some 0 := by
  have hranked : (a.report catalog r score).value.ranked = cut a.limit (ranking catalog r score) := rfl
  rw [hranked, cut_eq_nil_iff, ranking_eq_nil_iff]

/-- The text of a report tells what fits, whatever the scorer is. -/
theorem tellsWhatFits_report (a : SelectArguments) (catalog : List Candidate) (r : Requirement)
    (score : Scorer) (styled : Bool) (pricing : Pricing) :
    TellsWhatFits catalog r a.limit styled ((a.report catalog r score).value.text styled pricing) := by
  have hnothing := ranked_report_eq_nil_iff a catalog r score
  constructor
  case nothing_iff => rw [SelectReport.saysNothingFits_iff, hnothing]
  case table_iff =>
    rw [SelectReport.showsTable_iff, ne_eq, hnothing, not_or]
    simp
  case hidden =>
    intro hlimit hsome
    have hranked := hnothing.2 (.inr hlimit)
    -- The templates are counted before the limit cuts them off.
    have hqualifying : (a.report catalog r score).value.qualifying = catalog.countP (qualifies · r) :=
      (length_ranking catalog r score).trans List.countP_eq_length_filter.symm
    have hpos : 0 < catalog.countP (qualifies · r) := List.countP_pos_iff.2 hsome
    have hremark : (a.report catalog r score).value.remark styled = Notice.info.line styled
        ("Showing 0 of " ++ toString (catalog.countP (qualifies · r)) ++ " qualifying templates") := by
      rw [SelectReport.remark, hqualifying, if_neg (Nat.pos_iff_ne_zero.1 hpos), hranked]
      exact if_pos hpos
    rw [← hremark]
    exact ⟨_, rfl⟩

/-! ## Runs -/

variable {σ : Type} [FileStore (StateM σ)] {before after : σ} {t t' : Transcript}

/-- A selection that is shown as text succeeds if its parts do, and prints the text of the report. -/
theorem finishes_run_iff (hformat : a.format = .table) :
    Session.Finishes (a.run styled s) t before () t' after ↔
      ∃ r catalog score pricing, a.requirement = .ok r ∧
        loadCatalog (m := StateM σ) a.catalog before = (.ok catalog, after) ∧
        a.scorer? s = .ok score ∧ a.pricing s = .ok pricing ∧
        t' = ⟨t.printed ++ (a.report catalog r score).value.text styled pricing,
          t.entries ++ (a.report catalog r score).entries⟩ := by
  simp only [run, hformat, Session.finishes_bind_iff, Session.finishes_require_iff,
    Session.finishes_perform_iff, Session.finishes_logged_iff, Session.finishes_print_iff]
  constructor
  · rintro ⟨r, _, _, ⟨hr, rfl, rfl⟩, _, _, _, ⟨hload, rfl⟩, catalog, _, _, ⟨rfl, rfl, rfl⟩, score, _, _,
      ⟨hscore, rfl, rfl⟩, _, _, _, ⟨rfl, rfl, rfl⟩, pricing, _, _, ⟨hpricing, rfl, rfl⟩, rfl, rfl⟩
    exact ⟨r, catalog, score, pricing, hr, hload, hscore, hpricing, rfl⟩
  · rintro ⟨r, catalog, score, pricing, hr, hload, hscore, hpricing, rfl⟩
    exact ⟨r, _, _, ⟨hr, rfl, rfl⟩, _, _, _, ⟨hload, rfl⟩, catalog, _, _, ⟨rfl, rfl, rfl⟩, score, _, _,
      ⟨hscore, rfl, rfl⟩, _, _, _, ⟨rfl, rfl, rfl⟩, pricing, _, _, ⟨hpricing, rfl, rfl⟩, rfl, rfl⟩

/-- **A selection that succeeds says that nothing fits if no template of its catalog does, or if its
limit is zero**, and shows a table otherwise. No scorer changes that. -/
theorem tellsWhatFits_run (hformat : a.format = .table)
    (hcatalog : (loadCatalog (m := StateM σ) a.catalog before).1 = .ok catalog)
    (hr : a.requirement = .ok r)
    (hok : (Session.transcript (m := StateM σ) (a.run styled s) before).1.1 = .ok ()) :
    TellsWhatFits catalog r a.limit styled
        (Session.transcript (m := StateM σ) (a.run styled s) before).1.2.printed ∧
      ∀ score pricing, TellsWhatFits catalog r a.limit styled
        ((a.report catalog r score).value.text styled pricing) := by
  refine ⟨?_, fun score pricing => tellsWhatFits_report a catalog r score styled pricing⟩
  obtain ⟨r', catalog', score, pricing, hr', hload, -, -, hprinted⟩ :=
    (finishes_run_iff hformat).1 (Session.finishes_of_transcript hok)
  obtain rfl := Except.ok.inj (hr.symm.trans hr')
  obtain rfl : catalog = catalog' := Except.ok.inj (hcatalog.symm.trans (congrArg Prod.fst hload))
  -- A run starts with nothing printed.
  rw [hprinted, String.empty_append]
  exact tellsWhatFits_report a catalog r score styled pricing

/-- Of the machines one has a core, and up to five are to be shown. -/
theorem tellsWhatFits_run_machines :
    (Session.transcript (m := StateM FileTree) (coreArguments.run false {}) machineFiles).1.1 =
        .ok () ∧
      ShowsTable false
        (Session.transcript (m := StateM FileTree) (coreArguments.run false {}) machineFiles).1.2.printed := by
  have hok : (Session.transcript (m := StateM FileTree) (coreArguments.run false {})
      machineFiles).1.1 = .ok () := ok_of_toOption (by decide +kernel)
  have h := (tellsWhatFits_run rfl loadCatalog_machines requirement_coreArguments hok).1
  exact ⟨hok, h.table_iff.2 ⟨by decide +kernel, by decide⟩⟩

/-- With a limit of zero it is said that nothing fits, though a machine does, and then the machine is
counted. -/
theorem saysNothingFits_limit_zero :
    let a := { coreArguments with limit := some 0, explain := false }
    let ending := Session.transcript (m := StateM FileTree) (a.run false {}) machineFiles
    (loadCatalog (m := StateM FileTree) a.catalog machineFiles).1 = .ok machines ∧
      a.requirement = .ok ⟨.x86, { cpuCores := 1 }⟩ ∧ ending.1.1 = .ok () ∧
      SaysNothingFits false ending.1.2.printed ∧
      ¬ ∀ c ∈ machines, qualifies c ⟨.x86, { cpuCores := 1 }⟩ = false := by
  intro a ending
  have hending : (ending.1.1.toOption, ending.1.2.printed) =
      (some (), nothingFits false ++ "ℹ Showing 0 of 1 qualifying templates\n") := by decide +kernel
  obtain ⟨hok, hprinted⟩ := Prod.mk.inj hending
  exact ⟨loadCatalog_machines, requirement_coreArguments, ok_of_toOption hok, ⟨_, hprinted⟩,
    by decide +kernel⟩

end SelectArguments

end Provisioning

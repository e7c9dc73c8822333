import Provisioning.Command.Select
import Provisioning.Files.Tree
import Provisioning.Proofs.Data.Except
import Provisioning.Proofs.Template.Checks

/-!
# What a selection accounts for

The templates of a catalog that qualify are ranked, and with an explanation the others are listed with
their mismatches. So a report leaves out no template, and a limit changes only how much of the ranking
is shown.

## Main definitions

* `SelectArguments.shownLength`: how many of the templates that qualify are shown
* `SelectReport.Accounts`: a report accounts for every template of a catalog

## Main results

* `SelectArguments.report_accounts`: the report of a catalog that was loaded does so
-/

namespace Provisioning

variable {catalog : List Candidate} {r : Requirement}

/-! ## Rankings and exclusions -/

/-- The templates of a ranking are those that qualify. -/
theorem map_candidate_ranking_perm (catalog : List Candidate) (r : Requirement) (score : Scorer) :
    ((ranking catalog r score).map Ranked.candidate).Perm (catalog.filter (qualifies · r)) := by
  have h := (List.mergeSort_perm ((catalog.filter (qualifies · r)).map fun c => Ranked.mk c (score c r))
    fun x y => x.score.totalLe y.score).map Ranked.candidate
  rwa [List.map_map, List.map_id''] at h
  exact fun _ => rfl

theorem length_ranking (catalog : List Candidate) (r : Requirement) (score : Scorer) :
    (ranking catalog r score).length = (catalog.filter (qualifies · r)).length := by
  rw [← (map_candidate_ranking_perm catalog r score).length_eq, List.length_map]

theorem map_fst_exclusions (catalog : List Candidate) (r : Requirement) :
    (exclusions catalog r).map Prod.fst = catalog.filter fun c => !qualifies c r := by
  rw [exclusions, List.map_map]
  exact List.map_id _

theorem snd_of_mem_exclusions {e : Candidate × List Mismatch} (he : e ∈ exclusions catalog r) :
    e.2 = mismatches e.1 r := by
  obtain ⟨c, -, rfl⟩ := List.mem_map.1 he
  rfl

/-- No template is left out without a mismatch, as long as all amounts can be compared. -/
theorem snd_ne_nil_of_mem_exclusions {e : Candidate × List Mismatch}
    (hcatalog : ∀ c ∈ catalog, ∀ d, (c.resources.get d).isNaN = false)
    (hr : ∀ d, (r.resources.get d).isNaN = false) (he : e ∈ exclusions catalog r) : e.2 ≠ [] := by
  have hfst : e.1 ∈ catalog.filter fun c => !qualifies c r :=
    map_fst_exclusions catalog r ▸ List.mem_map_of_mem he
  obtain ⟨hmem, hnot⟩ := List.mem_filter.1 hfst
  rw [snd_of_mem_exclusions he, Ne, mismatches_eq_nil_iff (hcatalog e.1 hmem) hr]
  simpa using hnot

/-- A template is ranked or left out, as often as it is in the catalog. -/
theorem count_ranking_or_exclusions (catalog : List Candidate) (r : Requirement) (score : Scorer)
    (c : Candidate) :
    (((ranking catalog r score).map Ranked.candidate).count c = catalog.count c ∧
        ((exclusions catalog r).map Prod.fst).count c = 0) ∨
      (((ranking catalog r score).map Ranked.candidate).count c = 0 ∧
        ((exclusions catalog r).map Prod.fst).count c = catalog.count c) := by
  rw [(map_candidate_ranking_perm catalog r score).count_eq, map_fst_exclusions]
  -- All its copies qualify, or none does.
  cases hq : qualifies c r with
  | true =>
    refine .inl ⟨List.count_filter hq, List.count_eq_zero.2 fun hmem => ?_⟩
    simpa [hq] using (List.mem_filter.1 hmem).2
  | false =>
    refine .inr ⟨List.count_eq_zero.2 fun hmem => ?_, List.count_filter (by simp [hq])⟩
    simpa [hq] using (List.mem_filter.1 hmem).2

theorem length_ranking_add_length_exclusions (catalog : List Candidate) (r : Requirement)
    (score : Scorer) :
    (ranking catalog r score).length + (exclusions catalog r).length = catalog.length := by
  have hexclusions : (exclusions catalog r).length =
      (catalog.filter fun c => !qualifies c r).length := by
    rw [← map_fst_exclusions, List.length_map]
  rw [length_ranking, hexclusions, ← List.length_append]
  exact (List.filter_append_perm (qualifies · r) catalog).length_eq

/-! ## Reports -/

/-- How many of the templates that qualify are shown. -/
def SelectArguments.shownLength (limit : Option Nat) (qualifying : Nat) : Nat :=
  match limit with
  | some n => min n qualifying
  | none => qualifying

theorem SelectArguments.cut_eq_take (limit : Option Nat) (ranked : List Ranked) :
    cut limit ranked = ranked.take (shownLength limit ranked.length) := by
  cases limit with
  | some n => exact List.take_eq_take_min
  | none => exact List.take_length.symm

/-- A report accounts for every template of a catalog: `full` is the full ranking. -/
structure SelectReport.Accounts (catalog : List Candidate) (r : Requirement) (full : List Ranked)
    (limit : Option Nat) (report : SelectReport) : Prop where
  /-- Each template is in the full ranking or left out, never both, as often as it is in the
  catalog. -/
  count : ∀ c, ((full.map Ranked.candidate).count c = catalog.count c ∧
      (report.excluded.map Prod.fst).count c = 0) ∨
    ((full.map Ranked.candidate).count c = 0 ∧
      (report.excluded.map Prod.fst).count c = catalog.count c)
  /-- So their numbers add up. -/
  sizes : full.length + report.excluded.length = catalog.length
  /-- What is left out stands in the order of the catalog. -/
  inOrder : (report.excluded.map Prod.fst).Sublist catalog
  /-- It is left out for its mismatches, of which there is at least one. -/
  explained : ∀ e ∈ report.excluded, e.2 = mismatches e.1 r ∧ e.2 ≠ []
  /-- The full ranking has the templates that qualify. -/
  qualifying : report.qualifying = full.length
  /-- As many of its first entries are shown as the limit allows. -/
  shown : report.ranked = full.take (SelectArguments.shownLength limit report.qualifying)

namespace SelectArguments

variable {a : SelectArguments}

/-- The text of a catalog that was loaded was read. -/
theorem exists_text_of_loadCatalog {path : String} {files : FileTree}
    (h : (loadCatalog (m := StateM FileTree) path files).1 = .ok catalog) :
    ∃ text, readCatalog text = .ok catalog := by
  unfold loadCatalog at h
  -- Only what was read matters, and not how the files were searched for it.
  obtain ⟨⟨result, files'⟩, hread⟩ : ∃ x, readText (m := StateM FileTree) path files = x := ⟨_, rfl⟩
  simp only [bind, StateT.bind, hread] at h
  cases result with
  | error e => cases h
  | ok text =>
    refine ⟨text, ?_⟩
    cases hcatalog : readCatalog text with
    | error e =>
      simp only [hcatalog] at h
      cases h
    | ok found =>
      simp only [hcatalog] at h
      cases h
      rfl

/-- The requirement of arguments was checked. -/
theorem check_of_requirement (h : a.requirement = .ok r) : r.check = .ok () := by
  unfold requirement at h
  obtain ⟨architecture, -, h⟩ := bind_eq_ok.1 h
  obtain ⟨_, hcheck, hr⟩ := bind_eq_ok.1 h
  cases hr
  exact hcheck

/-- **The report of a catalog accounts for every template**, whatever the scorer is: each one is in the
full ranking, of which the first ones are shown, or it is left out with at least one mismatch. What is
left out does not depend on the limit. -/
theorem report_accounts {files : FileTree} (score : Scorer)
    (hcatalog : (loadCatalog (m := StateM FileTree) a.catalog files).1 = .ok catalog)
    (hr : a.requirement = .ok r) (hexplain : a.explain = true) :
    (a.report catalog r score).value.Accounts catalog r (ranking catalog r score) a.limit ∧
      ∀ limit, ({ a with limit := limit }.report catalog r score).value.excluded =
        (a.report catalog r score).value.excluded := by
  obtain ⟨text, htext⟩ := exists_text_of_loadCatalog hcatalog
  -- Both were checked, so all amounts can be compared and a template is left out for a reason.
  have hamounts : ∀ c ∈ catalog, ∀ d, (c.resources.get d).isNaN = false := fun c hc d =>
    Binary64.isNaN_of_isAmount
      ((Candidate.check_eq_ok_iff.1 ((readCatalog_eq_ok_iff.1 htext).2 c hc)).2.1 d)
  have hleast : ∀ d, (r.resources.get d).isNaN = false := fun d =>
    Binary64.isNaN_of_isAmount (Requirement.check_eq_ok_iff.1 (check_of_requirement hr) d)
  have hexcluded (limit : Option Nat) :
      ({ a with limit := limit }.report catalog r score).value.excluded = exclusions catalog r :=
    if_pos hexplain
  have hexcluded' : (a.report catalog r score).value.excluded = exclusions catalog r :=
    hexcluded a.limit
  refine ⟨?_, fun limit => (hexcluded limit).trans hexcluded'.symm⟩
  constructor
  · rw [hexcluded']
    exact count_ranking_or_exclusions catalog r score
  · rw [hexcluded']
    exact length_ranking_add_length_exclusions catalog r score
  · rw [hexcluded', map_fst_exclusions]
    exact List.filter_sublist
  · rw [hexcluded']
    exact fun e he => ⟨snd_of_mem_exclusions he, snd_ne_nil_of_mem_exclusions hamounts hleast he⟩
  · rfl
  · exact cut_eq_take a.limit _

/-- A machine without cores that stands twice, and one with a core. -/
def machines : List Candidate :=
  [⟨"a", "A", .x86, {}, none, .empty⟩, ⟨"b", "B", .x86, { cpuCores := 1 }, none, .empty⟩,
    ⟨"a", "A", .x86, {}, none, .empty⟩]

/-- A file of these machines. -/
def machineFiles : FileTree where
  work := .directory [("machines.json", .file (
    "[\x7b\"id\":\"a\",\"name\":\"A\"\x7d,\x7b\"id\":\"b\",\"name\":\"B\",\"cpu_cores\":1\x7d," ++
      "\x7b\"id\":\"a\",\"name\":\"A\"\x7d]").toUTF8)]

/-- A selection of the machines with a core. -/
def coreArguments : SelectArguments where
  catalog := "machines.json"
  resources := { cpuCores := 1 }
  limit := some 5
  explain := true

theorem loadCatalog_machines :
    (loadCatalog (m := StateM FileTree) "machines.json" machineFiles).1 = .ok machines :=
  ok_of_toOption (by decide +kernel)

theorem requirement_coreArguments :
    coreArguments.requirement = .ok ⟨.x86, { cpuCores := 1 }⟩ :=
  ok_of_toOption (by decide +kernel)

/-- The machine without cores is left out twice. -/
theorem report_accounts_machines :
    (loadCatalog (m := StateM FileTree) "machines.json" machineFiles).1 = .ok machines ∧
      coreArguments.requirement = .ok ⟨.x86, { cpuCores := 1 }⟩ ∧
      (coreArguments.report machines ⟨.x86, { cpuCores := 1 }⟩ (overageScorer .default)).value.Accounts
        machines ⟨.x86, { cpuCores := 1 }⟩
        [⟨⟨"b", "B", .x86, { cpuCores := 1 }, none, .empty⟩, .zero⟩] (some 5) := by
  have hranking : ranking machines ⟨.x86, { cpuCores := 1 }⟩ (overageScorer .default) =
      [⟨⟨"b", "B", .x86, { cpuCores := 1 }, none, .empty⟩, .zero⟩] := by decide +kernel
  have h := (report_accounts (overageScorer .default) loadCatalog_machines requirement_coreArguments
    rfl).1
  exact ⟨loadCatalog_machines, requirement_coreArguments, hranking ▸ h⟩

end SelectArguments

end Provisioning

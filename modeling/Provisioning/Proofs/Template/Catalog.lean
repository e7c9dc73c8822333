import Provisioning.Proofs.Json.Numbers
import Provisioning.Proofs.Json.Strings
import Provisioning.Proofs.Template.Architecture
import Provisioning.Proofs.Template.Checks
import Provisioning.Proofs.Text.Digits
import Provisioning.Template.Writing

/-!
# Written catalogs are read back

The members of a template are read one by one: its own members at once, and its amounts as values of
any form, which are looked at when the template ends. What is then found for each dimension is the
amount that was written.

## Main definitions

* `Candidate.Writable`: a template is read back if it is written
* `Resources.withAmountOf`: amounts with the one of a dimension taken from others

## Main results

* `exists_takes_members`: the written amounts are found again among the members of a template
* `result_candidateReader`: a written template is read back
* `readCatalog_catalogText`: so is a written catalog
-/

namespace Provisioning

open Json Text

variable {c : Candidate} {r : Resources} {d : Dimension} {catalog : List Candidate}
  {s t : List Char} {depth : Nat}

/-! ## Amounts -/

/-- The amounts that are no counts. -/
def Resources.floats (r : Resources) : List Binary64 :=
  [r.cpuFrequency, r.memory, r.systemDisk, r.ephemeralDisk, r.gpuMemory, r.gpuFrequency]

/-- The amounts with the one of a dimension taken from others. -/
def Resources.withAmountOf (other r : Resources) (d : Dimension) : Resources :=
  match d with
  | .cpuCores => { r with cpuCores := other.cpuCores }
  | .cpuFrequency => { r with cpuFrequency := other.cpuFrequency }
  | .memory => { r with memory := other.memory }
  | .systemDisk => { r with systemDisk := other.systemDisk }
  | .ephemeralDisk => { r with ephemeralDisk := other.ephemeralDisk }
  | .gpuCount => { r with gpuCount := other.gpuCount }
  | .gpuCores => { r with gpuCores := other.gpuCores }
  | .gpuMemory => { r with gpuMemory := other.gpuMemory }
  | .gpuFrequency => { r with gpuFrequency := other.gpuFrequency }

/-- Amounts are put together from those of all dimensions. -/
theorem foldl_withAmountOf (other r : Resources) :
    Dimension.all.foldl other.withAmountOf r = other := by
  simp [Dimension.all, Resources.withAmountOf]

/-- The written amount of a dimension is read as a value that sets this amount. -/
theorem exists_result_amountJson (h : ∀ x ∈ r.floats, ReadsBack x) (d : Dimension) (depth : Nat) :
    ∃ v, (∀ t, EndsNumber t →
        (anyValue (depth + 1)).result ((compact (amountJson r d)).toList ++ t) = .ok (v, t)) ∧
      ∀ r' : Resources, r'.setValue? d v = some (r.withAmountOf r' d) := by
  have hcount (n : UInt32) {set : Resources → UInt32 → Resources} :
      ∃ v : Value, (∀ t, EndsNumber t →
          (anyValue (depth + 1)).result ((compact (.integer n.toNat)).toList ++ t) = .ok (v, t)) ∧
        ∀ r', v.count?.map (set r') = some (set r' n) :=
    ⟨_, fun t ht => result_anyValue_count n depth ht, fun r' => by rw [count?_toNat]; rfl⟩
  have hfloat (x : Binary64) (hx : x ∈ r.floats) {set : Resources → Binary64 → Resources} :
      ∃ v : Value, (∀ t, EndsNumber t →
          (anyValue (depth + 1)).result ((compact (.real x)).toList ++ t) = .ok (v, t)) ∧
        ∀ r', v.float?.map (set r') = some (set r' x) := by
    obtain ⟨v, hv, hread⟩ := (h x hx).exists_result_anyValue depth
    exact ⟨v, hread, fun r' => by rw [hv]; rfl⟩
  cases d with
  | cpuCores => exact hcount r.cpuCores
  | gpuCount => exact hcount r.gpuCount
  | gpuCores => exact hcount r.gpuCores
  | cpuFrequency => exact hfloat r.cpuFrequency (by simp [Resources.floats])
  | memory => exact hfloat r.memory (by simp [Resources.floats])
  | systemDisk => exact hfloat r.systemDisk (by simp [Resources.floats])
  | ephemeralDisk => exact hfloat r.ephemeralDisk (by simp [Resources.floats])
  | gpuMemory => exact hfloat r.gpuMemory (by simp [Resources.floats])
  | gpuFrequency => exact hfloat r.gpuFrequency (by simp [Resources.floats])

theorem dimensionOfKey?_key (d : Dimension) : dimensionOfKey? d.key = some d := by
  cases d <;> decide

/-- The key of a dimension is none of a template's own members. -/
theorem candidateEntry_key (depth : Nat) (draft : CandidateDraft) (d : Dimension) :
    candidateEntry depth draft d.key =
      .ok ((anyValue depth).map fun v => { draft with others := (d.key, v) :: draft.others }) := by
  cases d <;> rfl

/-- **The written amounts are found again** among the members of a template. -/
theorem exists_takes_members (h : ∀ x ∈ r.floats, ReadsBack x) (ds : List Dimension) (depth : Nat)
    (draft : CandidateDraft) :
    ∃ vs, Takes name (candidateEntry (depth + 1)) draft (ds.map fun d => (d.key, amountJson r d))
        { draft with others := vs.reverse ++ draft.others } ∧
      ∀ r' seen, ds.Nodup → (∀ d ∈ ds, d ∉ seen) →
        resourcesOf r' seen vs = .ok (ds.foldl r.withAmountOf r') := by
  -- The values are kept in the draft, the last one first, and are looked at in the order of the text.
  induction ds generalizing draft with
  | nil => exact ⟨[], .nil draft, fun r' seen _ _ => rfl⟩
  | cons d ds ih =>
    obtain ⟨v, hread, hset⟩ := exists_result_amountJson h d depth
    obtain ⟨vs, htakes, hfound⟩ := ih { draft with others := (d.key, v) :: draft.others }
    refine ⟨(d.key, v) :: vs, ?_, fun r' seen hnodup hseen => ?_⟩
    · have hreverse : ((d.key, v) :: vs).reverse ++ draft.others =
          vs.reverse ++ (d.key, v) :: draft.others := by simp
      rw [List.map_cons, hreverse]
      refine .cons (fun t => result_name d.key _) (candidateEntry_key _ draft d) (fun t ht => ?_) htakes
      rw [result_map, hread t ht.endsNumber]
      rfl
    · -- No dimension is found twice, because none is written twice.
      obtain ⟨hd, hnodup⟩ := List.nodup_cons.1 hnodup
      obtain ⟨hd', hseen⟩ := List.forall_mem_cons.1 hseen
      have hrest : ∀ e ∈ ds, e ∉ d :: seen := fun e he hmem =>
        (List.mem_cons.1 hmem).elim (fun heq => hd (heq ▸ he)) (hseen e he)
      rw [resourcesOf, dimensionOfKey?_key]
      simp only [if_neg hd', hset]
      exact hfound _ _ hnodup hrest

/-! ## Prices -/

theorem escaped_of_isAsciiDigit {c : Char} (hc : isAsciiDigit c = true) : escaped c = [c] := by
  -- The characters with an escape are a quote, a backslash and those with codes below 32.
  obtain ⟨hlow, hhigh⟩ := toNat_of_isAsciiDigit hc
  have hquote : c ≠ '"' := by rintro rfl; exact absurd hlow (by decide)
  have hbackslash : c ≠ '\\' := by rintro rfl; exact absurd hhigh (by decide)
  unfold escaped
  rw [if_neg hquote, if_neg hbackslash, if_neg (by omega), if_neg (by omega), if_neg (by omega),
    if_neg (by omega), if_neg (by omega), if_neg (by omega)]

/-- Months stand in quotes as the digits of their number. -/
theorem toList_quoted_toString (n : Nat) :
    (quoted (toString n)).toList = '"' :: (Nat.toDigits 10 n ++ ['"']) := by
  have hdigits : (Nat.toDigits 10 n).flatMap escaped = Nat.toDigits 10 n := by
    have hsingle : (Nat.toDigits 10 n).flatMap escaped = (Nat.toDigits 10 n).flatMap fun c => [c] :=
      List.flatMap_congr fun c hc => escaped_of_isAsciiDigit (isAsciiDigit_of_mem_toDigits hc)
    rw [hsingle, List.flatMap_singleton']
  simp [quoted, hdigits]

theorem result_monthsName (n : UInt32) (t : List Char) :
    monthsName.result ((quoted (toString n.toNat)).toList ++ t) = .ok (n, t) := by
  obtain ⟨c, hhead, hc⟩ := (startsNumber_toDigits n.toNat).append ('"' :: t)
  obtain ⟨hlt, hcount⟩ := result_eq_ok.1 (result_count n (endsNumber_quote t))
  have htext : (quoted (toString n.toNat)).toList ++ t =
      '"' :: (Nat.toDigits 10 n.toNat ++ '"' :: t) := by
    rw [toList_quoted_toString]
    simp
  unfold Reader.result
  rw [htext, monthsName]
  simp only [hhead, hc, hcount, if_true]
  rfl

/-- The written prices of a month are read one by one. -/
theorem takes_monthlyPrices {l : List (UInt32 × Binary64)} (h : ∀ e ∈ l, ReadsBack e.2)
    (prices : SortedMap UInt32 Binary64) :
    Takes monthsName
      (fun prices months => .ok (float.map fun x => prices.insert months x)) prices
      (l.map fun e => (toString e.1.toNat, .real e.2))
      (l.foldl (fun prices e => prices.insert e.1 e.2) prices) := by
  induction l generalizing prices with
  | nil => exact .nil prices
  | cons e l ih =>
    obtain ⟨he, hl⟩ := List.forall_mem_cons.1 h
    refine .cons (fun t => result_monthsName e.1 _) rfl (fun t ht => ?_) (ih hl _)
    rw [result_map, he.result_float ht.endsNumber]
    rfl

theorem result_monthlyPricesReader {prices : SortedMap UInt32 Binary64}
    (h : ∀ e ∈ prices.toList, ReadsBack e.2) (t : List Char) :
    monthlyPricesReader.result
        ((compact (.object (prices.toList.map fun e => (toString e.1.toNat, .real e.2)))).toList ++ t) =
      .ok (prices, t) := by
  have hread := (takes_monthlyPrices h .empty).result_object (t := t)
  -- The prices are put in one by one, which gives the prices again.
  have hprices : prices.toList.foldl (fun prices e => prices.insert e.1 e.2) .empty = prices :=
    prices.ofList_toList
  rwa [hprices] at hread

theorem result_optional_price {price : Option Binary64} (h : ∀ x ∈ price, ReadsBack x)
    (ht : EndsNumber t) :
    (optional float).result ((compact (optionalJson price)).toList ++ t) = .ok (price, t) := by
  cases price with
  | none => exact result_optional_null
  | some x => exact (h x rfl).result_optional_float ht

/-! ## Templates -/

/-- All numbers of a template that are no counts. -/
def Candidate.floats (c : Candidate) : List Binary64 := c.resources.floats ++ c.prices

/-- A template that can be written: it is not refused, its architecture is one that is read from some
spelling, and each of its numbers is read back from its written form. -/
structure Candidate.Writable (c : Candidate) : Prop where
  checked : c.check = .ok ()
  spelled : ∃ raw, Architecture.read? raw = some c.architecture
  exact : ∀ x ∈ c.floats, ReadsBack x

theorem result_architectureReader {a : Architecture} {raw : String}
    (h : Architecture.read? raw = some a) (t : List Char) :
    architectureReader.result ((compact a.toJson).toList ++ t) = .ok (a, t) := by
  exact result_bind_orMismatch (result_string a.text t) (Architecture.read?_text h)

/-- The members of a template that stand before its amounts. -/
theorem takes_names {raw : String} (hraw : Architecture.read? raw = some c.architecture)
    (depth : Nat) :
    Takes name (candidateEntry depth) {}
      [("id", .string c.id), ("name", .string c.name), ("architecture", c.architecture.toJson)]
      { id := some c.id, name := some c.name, architecture := some c.architecture } := by
  have hid : candidateEntry depth {} "id" = .ok (Json.string.map fun x => { id := some x }) := rfl
  have hname : candidateEntry depth { id := some c.id } "name" =
      .ok (Json.string.map fun x => { id := some c.id, name := some x }) := rfl
  have harchitecture : candidateEntry depth { id := some c.id, name := some c.name } "architecture" =
      .ok (architectureReader.map fun x =>
        { id := some c.id, name := some c.name, architecture := some x }) := rfl
  refine .cons (fun t => result_name "id" _) hid (fun t _ => ?_)
    (.cons (fun t => result_name "name" _) hname (fun t _ => ?_)
      (.cons (fun t => result_name "architecture" _) harchitecture (fun t _ => ?_) (.nil _)))
  · rw [result_map, result_string]
    rfl
  · rw [result_map, result_string]
    rfl
  · rw [result_map, result_architectureReader hraw]
    rfl

/-- The members of a template that stand after its amounts. -/
theorem takes_prices (h : ∀ x ∈ c.prices, ReadsBack x) (depth : Nat) (draft : CandidateDraft)
    (hhourly : draft.hourlyPrice = none) (hmonthly : draft.monthlyPrices = none) :
    Takes name (candidateEntry depth) draft
      [("hourly_price", optionalJson c.hourlyPrice),
        ("monthly_prices",
          .object (c.monthlyPrices.toList.map fun e => (toString e.1.toNat, .real e.2)))]
      { draft with hourlyPrice := some c.hourlyPrice, monthlyPrices := some c.monthlyPrices } := by
  have hhour : ∀ x ∈ c.hourlyPrice, ReadsBack x := fun x hx =>
    h x (List.mem_append_left _ (Option.mem_toList.2 hx))
  have hmonth : ∀ e ∈ c.monthlyPrices.toList, ReadsBack e.2 := fun e he =>
    h e.2 (List.mem_append_right _ (List.mem_map_of_mem he))
  have hhourEntry : candidateEntry depth draft "hourly_price" =
      .ok ((optional float).map fun x => { draft with hourlyPrice := some x }) := by
    simp [candidateEntry, once, hhourly]
  have hmonthEntry : candidateEntry depth { draft with hourlyPrice := some c.hourlyPrice }
      "monthly_prices" = .ok (monthlyPricesReader.map fun x =>
        { draft with hourlyPrice := some c.hourlyPrice, monthlyPrices := some x }) := by
    simp [candidateEntry, once, hmonthly]
  refine .cons (fun t => result_name "hourly_price" _) hhourEntry (fun t ht => ?_)
    (.cons (fun t => result_name "monthly_prices" _) hmonthEntry (fun t _ => ?_) (.nil _))
  · rw [result_map, result_optional_price hhour ht.endsNumber]
    rfl
  · rw [result_map, result_monthlyPricesReader hmonth]
    rfl

/-- **A written template is read back.** -/
theorem result_candidateReader (h : c.Writable) (depth : Nat) (t : List Char) :
    (candidateReader (depth + 2)).result ((compact c.toJson).toList ++ t) = .ok (c, t) := by
  obtain ⟨raw, hraw⟩ := h.spelled
  obtain ⟨vs, hmembers, hfound⟩ := exists_takes_members (fun x hx =>
    h.exact x (List.mem_append_left _ hx)) Dimension.all depth
    { id := some c.id, name := some c.name, architecture := some c.architecture }
  have hprices := takes_prices (fun x hx => h.exact x (List.mem_append_right _ hx)) (depth + 1)
    ⟨some c.id, some c.name, some c.architecture, none, none, vs.reverse ++ []⟩ rfl rfl
  -- The text of a template is that of its names, its amounts and its prices, one after another.
  have hobject := (((takes_names hraw (depth + 1)).append hmembers).append hprices).result_object
    (t := t)
  have hresources : resourcesOf {} [] (vs.reverse ++ []).reverse = .ok c.resources := by
    rw [List.append_nil, List.reverse_reverse, hfound {} [] (by decide) (by simp), foldl_withAmountOf]
  have hjson : c.toJson = .object ([("id", .string c.id), ("name", .string c.name),
      ("architecture", c.architecture.toJson)] ++
      Dimension.all.map (fun d => (d.key, amountJson c.resources d)) ++
      [("hourly_price", optionalJson c.hourlyPrice), ("monthly_prices",
        .object (c.monthlyPrices.toList.map fun e => (toString e.1.toNat, .real e.2)))]) := rfl
  have hdepth : depth + 2 - 1 = depth + 1 := rfl
  unfold candidateReader
  rw [result_bind, hdepth, hjson, hobject]
  change (CandidateDraft.finish _).map (fun c => (c, t)) = _
  unfold CandidateDraft.finish
  rw [hresources]
  rfl

theorem startsItem_toJson (c : Candidate) : StartsItem (compact c.toJson).toList := by
  unfold Candidate.toJson
  refine ⟨'\x7b', ?_⟩
  simp [compact, isJsonBlank]

/-- The templates of a written catalog are read one by one. -/
theorem result_candidatesReader (h : ∀ c ∈ catalog, c.Writable) (depth : Nat) :
    (candidatesReader (depth + 3)).result (catalogText catalog).toList = .ok (catalog, []) := by
  have hitem : ∀ c ∈ catalog, ∀ found t, EndsValue t →
      Reader.result ((candidateReader (depth + 2)).map (· :: found)) ((compact c.toJson).toList ++ t) =
        .ok (c :: found, t) := by
    intro c hc found t _
    rw [result_map, result_candidateReader (h c hc)]
    rfl
  have hread := result_array (t := []) [] (fun c _ => startsItem_toJson c) hitem
  have hdepth : depth + 3 - 1 = depth + 2 := rfl
  -- Each template was put before those that were read, so their order is turned round at the end.
  rw [List.append_nil, List.foldl_flip_cons_eq_append', List.append_nil] at hread
  unfold candidatesReader catalogText
  rw [result_map, hdepth, hread]
  simp [Except.map]

/-- **A catalog that is written is read back**, with all its templates in their order. -/
theorem readCatalog_catalogText (h : ∀ c ∈ catalog, c.Writable) :
    readCatalog (catalogText catalog) = .ok catalog :=
  readCatalog_eq_ok_iff.2
    ⟨readAll_eq_ok_iff.2 ⟨[], result_candidatesReader h 125, rfl⟩, fun c hc => (h c hc).checked⟩

/-- Two templates with a quote, a control character and a character beyond 16 bits in their texts, a
negative zero, and prices or none. -/
def unusualTemplates : List Candidate :=
  [⟨"\"a\"\n", "\x1b\\ 😀", .other "riscv64", { cpuCores := 4294967295, memory := .negZero },
      none, .ofList [(12, .ofNat 1 / .ofNat 10), (1, .ofNat 3)]⟩,
    ⟨"b", "", .arm, { gpuMemory := .ofNat 1 / .ofNat 3 }, some (.ofNat 2), .empty⟩]

theorem readCatalog_catalogText_unusual :
    (∀ c ∈ unusualTemplates, c.Writable) ∧
      readCatalog (catalogText unusualTemplates) = .ok unusualTemplates := by
  have hexact {c : Candidate}
      (h : ∀ x ∈ c.floats, (readAll float (compact (.real x))).toOption = some x) :
      ∀ x ∈ c.floats, ReadsBack x := fun x hx => ok_of_toOption (h x hx)
  have hwritable : ∀ c ∈ unusualTemplates, c.Writable := by
    refine List.forall_mem_cons.2 ⟨?_, List.forall_mem_singleton.2 ?_⟩
    · exact ⟨ok_of_toOption (by decide +kernel), ⟨" RiscV64", by decide +kernel⟩,
        hexact (by decide +kernel)⟩
    · exact ⟨ok_of_toOption (by decide +kernel), ⟨"AArch64", by decide +kernel⟩,
        hexact (by decide +kernel)⟩
  exact ⟨hwritable, readCatalog_catalogText hwritable⟩

end Provisioning

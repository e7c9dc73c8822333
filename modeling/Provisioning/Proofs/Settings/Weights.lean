import Provisioning.Proofs.Data.Except
import Provisioning.Proofs.Decimal.Positional
import Provisioning.Settings.Document
import Provisioning.Settings.Keys

/-!
# Weights shown and weights in use

A file may name a dimension in any case and with blanks around it. The weights in use follow every
such name, in the order of the names, while only the weight under the key itself is shown. The two
agree unless a name of another spelling comes last and has another weight.

## Main definitions

* `Settings.storedWeights`: the entries of the weights, in the order of their names
* `Settings.lastNaming`: the last entry that names a dimension
* `Settings.Shows`: what is shown under the key of a dimension is the weight in use

## Main results

* `Settings.get_of_applyWeights`: the weight in use is that of the last entry
* `Settings.shows_iff`: it is shown if and only if that entry is the one of the key, or has the weight
  that is shown
-/

namespace Provisioning

open Text

namespace Settings

variable {s : Settings} {w weights : Weights} {d : Dimension} {entries : List (String × Binary64)}
  {e : String × Binary64}

/-- The entries of the weights, in the order of their names. -/
def storedWeights (s : Settings) : List (String × Binary64) :=
  (s.weights.map SortedMap.toList).getD []

/-- Whether an entry names a dimension, in some spelling. -/
def namesDimension (d : Dimension) (e : String × Binary64) : Bool := Dimension.read? e.1 == some d

/-- The last entry that names a dimension. -/
def lastNaming (d : Dimension) (entries : List (String × Binary64)) : Option (String × Binary64) :=
  (entries.filter (namesDimension d)).getLast?

/-- What is shown under the key of a dimension is the text of the weight in use; if nothing is, the
default weight is in use. -/
def Shows (s : Settings) (w : Weights) (d : Dimension) : Prop :=
  match s.get ("weights." ++ d.key) with
  | .ok (some text) => text = (w.get d).text
  | .ok none => w.get d = Weights.default.get d
  | .error _ => False

/-! ## Weights in use -/

theorem isWeight_default (d : Dimension) : isWeight (Weights.default.get d) = true := by
  cases d <;> decide +kernel

theorem lastNaming_cons (d : Dimension) (e : String × Binary64) (entries : List (String × Binary64)) :
    lastNaming d (e :: entries) =
      (lastNaming d entries).or (if namesDimension d e then some e else none) := by
  unfold lastNaming
  rw [List.filter_cons]
  split
  · rw [List.getLast?_cons]
    cases (entries.filter (namesDimension d)).getLast? <;> rfl
  · rw [Option.or_none]

/-- Weights that are applied are all weights, and of a dimension the last one counts. -/
theorem get_of_applyWeights (h : applyWeights weights entries = .ok w) :
    (∀ e ∈ entries, isWeight e.2 = true) ∧
      ∀ d, w.get d = ((lastNaming d entries).map Prod.snd).getD (weights.get d) := by
  induction entries generalizing weights with
  | nil =>
    obtain rfl := Except.ok.inj h
    exact ⟨by simp, fun d => rfl⟩
  | cons e entries ih =>
    obtain ⟨name, x⟩ := e
    rw [applyWeights] at h
    cases hname : Dimension.read? name with
    | none =>
      rw [hname] at h
      cases h
    | some d' =>
      simp only [hname] at h
      split at h
      · next hx =>
        obtain ⟨hfit, hget⟩ := ih h
        refine ⟨List.forall_mem_cons.2 ⟨hx, hfit⟩, fun d => ?_⟩
        -- A later entry of the dimension overrides this one.
        rw [hget, lastNaming_cons, Weights.get_set, namesDimension, hname]
        by_cases hd : d = d'
        · subst hd
          cases lastNaming d entries <;> simp
        · have hne : (some d' == some d) = false := by simpa using Ne.symm hd
          rw [hne, if_neg hd, if_neg Bool.false_ne_true, Option.or_none]
      · cases h

theorem mem_of_lastNaming (h : lastNaming d entries = some e) :
    e ∈ entries ∧ Dimension.read? e.1 = some d := by
  obtain ⟨hmem, hname⟩ := List.mem_filter.1 (List.mem_of_getLast? h)
  exact ⟨hmem, eq_of_beq hname⟩

/-! ## Weights shown -/

theorem get?_storedWeights (s : Settings) (key : String) :
    Entries.get? key s.storedWeights = s.weights.bind fun weights => weights.get? key := by
  unfold storedWeights
  cases s.weights <;> rfl

theorem ascending_storedWeights (s : Settings) :
    s.storedWeights.Pairwise fun x y => x.1 < y.1 := by
  unfold storedWeights
  cases s.weights with
  | none => exact List.Pairwise.nil
  | some weights => exact weights.ascending

theorem read?_weights (d : Dimension) :
    SettingKey.read? ("weights." ++ d.key) = (Dimension.read? d.key).map .weight := by
  cases d <;> rfl

/-- Under the key of a dimension its weight is shown, if one is stored under this very name. -/
theorem get_weight (s : Settings) (d : Dimension) :
    s.get ("weights." ++ d.key) = .ok ((Entries.get? d.key s.storedWeights).map Binary64.text) := by
  rw [get, read?_weights, Dimension.read?_key, get?_storedWeights]
  rfl

theorem text_injective {x y : Binary64} (hx : x.isFinite = true) (hy : y.isFinite = true)
    (h : x.text = y.text) : x = y :=
  Option.some.inj ((readNumber?_text hx).symm.trans (h ▸ readNumber?_text hy))

theorem lastNaming_ne_none {x : Binary64} (h : Entries.get? d.key entries = some x) :
    lastNaming d entries ≠ none := by
  have hmem : (d.key, x) ∈ entries.filter (namesDimension d) :=
    List.mem_filter.2 ⟨Entries.mem_of_get? h, by simp [namesDimension, Dimension.read?_key]⟩
  exact fun hnone => List.ne_nil_of_mem hmem (List.getLast?_eq_none_iff.1 hnone)

/-- All weights in use pass the check, the default ones among them. -/
theorem isWeight_of_scoreWeights (h : s.scoreWeights = .ok w) (d : Dimension) :
    isWeight (w.get d) = true := by
  obtain ⟨hfit, hget⟩ := get_of_applyWeights h
  rw [hget d]
  cases hlast : lastNaming d ((s.weights.map SortedMap.toList).getD []) with
  | none => exact isWeight_default d
  | some e => exact hfit e (mem_of_lastNaming hlast).1

theorem isFinite_of_scoreWeights (h : s.scoreWeights = .ok w) (d : Dimension) :
    (w.get d).isFinite = true :=
  (Bool.and_eq_true_iff.1 (isWeight_of_scoreWeights h d)).1

/-- The weight that is shown, or else the default one, is in use. -/
theorem shows_iff_get_eq (h : s.scoreWeights = .ok w) (d : Dimension) :
    s.Shows w d ↔
      w.get d = (Entries.get? d.key s.storedWeights).getD (Weights.default.get d) := by
  unfold Shows
  rw [get_weight]
  cases hstored : Entries.get? d.key s.storedWeights with
  | none => exact Iff.rfl
  | some x =>
    have hx : x.isFinite = true :=
      (Bool.and_eq_true_iff.1 ((get_of_applyWeights h).1 _ (Entries.mem_of_get? hstored))).1
    -- The text of a weight tells the weight.
    exact ⟨fun heq => (text_injective hx (isFinite_of_scoreWeights h d) heq).symm,
      fun heq => congrArg Binary64.text heq.symm⟩

/-- **The weight in use is that of the last entry that names its dimension**, and it is shown if and
only if this entry has the key of the dimension for its name, or the weight that is shown. -/
theorem shows_iff (h : s.scoreWeights = .ok w) (d : Dimension) :
    w.get d = ((lastNaming d s.storedWeights).map Prod.snd).getD (Weights.default.get d) ∧
      (s.Shows w d ↔ ∀ e ∈ lastNaming d s.storedWeights, e.1 ≠ d.key →
        e.2 = (Entries.get? d.key s.storedWeights).getD (Weights.default.get d)) := by
  have hget : w.get d = ((lastNaming d s.storedWeights).map Prod.snd).getD (Weights.default.get d) :=
    (get_of_applyWeights h).2 d
  refine ⟨hget, ?_⟩
  rw [shows_iff_get_eq h, hget]
  cases hlast : lastNaming d s.storedWeights with
  | none =>
    -- If no entry names the dimension, the key does not either.
    have hnone : Entries.get? d.key s.storedWeights = none := by
      cases hstored : Entries.get? d.key s.storedWeights with
      | none => rfl
      | some x => exact absurd hlast (lastNaming_ne_none hstored)
    simp [hnone]
  | some e =>
    by_cases hkey : e.1 = d.key
    · have hstored : Entries.get? d.key s.storedWeights = some e.2 :=
        hkey ▸ Entries.get?_of_mem s.ascending_storedWeights (mem_of_lastNaming hlast).1
      simp [hstored, hkey]
    · simp [hkey]

/-- Of two spellings the key comes last, and so the weight in use is shown. -/
theorem shows_two_spellings :
    Settings.scoreWeights
          { weights := some (.ofList [("cpu_cores", .ofNat 4), ("CPU_CORES", .ofNat 3)]) } =
        .ok (Weights.default.set .cpuCores (.ofNat 4)) ∧
      Settings.Shows { weights := some (.ofList [("cpu_cores", .ofNat 4), ("CPU_CORES", .ofNat 3)]) }
        (Weights.default.set .cpuCores (.ofNat 4)) .cpuCores := by
  have h : Settings.scoreWeights
      { weights := some (.ofList [("cpu_cores", .ofNat 4), ("CPU_CORES", .ofNat 3)]) } =
      .ok (Weights.default.set .cpuCores (.ofNat 4)) := ok_of_toOption (by decide +kernel)
  have hlast : lastNaming .cpuCores (Settings.storedWeights
      { weights := some (.ofList [("cpu_cores", .ofNat 4), ("CPU_CORES", .ofNat 3)]) }) =
      some ("cpu_cores", .ofNat 4) := by decide +kernel
  refine ⟨h, (shows_iff h .cpuCores).2.2 ?_⟩
  intro e he hne
  obtain rfl := Option.some.inj (hlast.symm.trans he)
  exact absurd rfl hne

/-- A weight under a name in capitals is in use and not shown. -/
theorem not_shows_capitals :
    ofText? "[weights]\nCPU_CORES = 3.0\n" =
        some { weights := some (.ofList [("CPU_CORES", .ofNat 3)]) } ∧
      Settings.scoreWeights { weights := some (.ofList [("CPU_CORES", .ofNat 3)]) } =
        .ok (Weights.default.set .cpuCores (.ofNat 3)) ∧
      ¬ Settings.Shows { weights := some (.ofList [("CPU_CORES", .ofNat 3)]) }
        (Weights.default.set .cpuCores (.ofNat 3)) .cpuCores := by
  refine ⟨by decide +kernel, ok_of_toOption (by decide +kernel), ?_⟩
  unfold Shows
  rw [get_weight]
  have hdefault : (Weights.default.set .cpuCores (.ofNat 3)).get .cpuCores ≠
      Weights.default.get .cpuCores := by decide +kernel
  exact hdefault

end Settings

end Provisioning

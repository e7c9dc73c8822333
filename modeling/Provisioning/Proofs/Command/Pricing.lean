import Provisioning.Command.Select
import Provisioning.Proofs.Data.Except
import Provisioning.Proofs.Settings.Checks

/-!
# Where a pricing comes from

A selection takes the commitment of its arguments, or else the one of the settings, and the hours of a
month always from the settings. The settings check what they give. The arguments are taken as they are,
and so a commitment of no months passes there, which the settings refuse.

## Main definitions

* `Pricing.IsFit`: the values that the settings accept
* `SelectArguments.PricesBy`: what a pricing is made of, and what of it is checked

## Main results

* `SelectArguments.pricing_eq_ok_iff`: the pricings that there are
* `SelectArguments.pricesBy_of_pricing`: a pricing is fit, save for a commitment of no months in the
  arguments
-/

namespace Provisioning

/-- The values that the settings accept: a commitment, if there is one, is at least a month, and the
hours of a month are finite and positive. -/
structure Pricing.IsFit (p : Pricing) : Prop where
  commitment : ∀ months ∈ p.commitment, 1 ≤ months
  finite : p.hoursPerMonth.isFinite = true
  positive : Binary64.zero.lt p.hoursPerMonth = true

namespace SelectArguments

/-- What a pricing is made of, and what of it is checked. -/
structure PricesBy (a : SelectArguments) (s : Settings) (p : Pricing) : Prop where
  /-- The commitment is that of the arguments, or else the stored one. -/
  commitment_eq : p.commitment =
    a.commitment.or (s.pricing.bind PricingSection.commitmentMonths)
  /-- The hours of a month are the stored ones, or else the default ones. -/
  hours_eq : p.hoursPerMonth =
    (s.pricing.bind PricingSection.hoursPerMonth).getD Provisioning.hoursPerMonth
  /-- The hours are checked, wherever they come from. -/
  hours_fit : p.hoursPerMonth.isFinite = true ∧ Binary64.zero.lt p.hoursPerMonth = true
  /-- The commitment is checked if the arguments have none. -/
  isFit_iff : p.IsFit ↔ a.commitment ≠ some 0

variable {a : SelectArguments} {s : Settings} {p : Pricing} {months : Option UInt32}

/-- The commitment of the arguments, or else the one of the settings, which is checked. -/
def commitmentFor (a : SelectArguments) (s : Settings) : Except SettingsError (Option UInt32) :=
  a.commitment.elim s.commitment fun months => .ok (some months)

theorem pricing_eq_bind (a : SelectArguments) (s : Settings) :
    a.pricing s = a.commitmentFor s >>= fun commitment =>
      s.hoursPerMonth >>= fun hours => .ok ⟨commitment, hours⟩ := by
  unfold pricing commitmentFor
  cases a.commitment <;> rfl

/-- The commitment of the arguments is not looked at. -/
theorem commitmentFor_eq_ok_iff : a.commitmentFor s = .ok months ↔
    months = a.commitment.or (s.pricing.bind PricingSection.commitmentMonths) ∧
      (a.commitment = none → ∀ n ∈ months, 1 ≤ n) := by
  unfold commitmentFor
  cases a.commitment with
  | none =>
    rw [Option.elim_none, Option.none_or, Settings.commitment_eq_ok_iff]
    simp
  | some n =>
    rw [Option.elim_some, Option.some_or]
    simp [eq_comm]

/-- A pricing is made of values that are checked, save for the commitment of the arguments. -/
theorem pricing_eq_ok_iff : a.pricing s = .ok p ↔
    p.commitment = a.commitment.or (s.pricing.bind PricingSection.commitmentMonths) ∧
      (a.commitment = none → ∀ n ∈ p.commitment, 1 ≤ n) ∧
      p.hoursPerMonth =
        (s.pricing.bind PricingSection.hoursPerMonth).getD Provisioning.hoursPerMonth ∧
      isHours p.hoursPerMonth = true := by
  rw [pricing_eq_bind, bind_eq_ok]
  constructor
  · rintro ⟨months, hmonths, hrest⟩
    obtain ⟨hours, hhours, hp⟩ := bind_eq_ok.1 hrest
    obtain rfl := Except.ok.inj hp
    obtain ⟨heq, hfit⟩ := commitmentFor_eq_ok_iff.1 hmonths
    exact ⟨heq, hfit, Settings.hoursPerMonth_eq_ok_iff.1 hhours⟩
  · rintro ⟨heq, hfit, hhours⟩
    exact ⟨p.commitment, commitmentFor_eq_ok_iff.2 ⟨heq, hfit⟩,
      bind_eq_ok.2 ⟨p.hoursPerMonth, Settings.hoursPerMonth_eq_ok_iff.2 hhours, rfl⟩⟩

/-- **Whatever the settings hold, a pricing is fit, unless the arguments commit to no months.** -/
theorem pricesBy_of_pricing (h : a.pricing s = .ok p) : a.PricesBy s p := by
  obtain ⟨hcommitment, hfit, hhours, hisHours⟩ := pricing_eq_ok_iff.1 h
  have hchecked := Bool.and_eq_true_iff.1 hisHours
  refine ⟨hcommitment, hhours, hchecked, ?_⟩
  constructor
  · -- The commitment of the arguments is that of the pricing, even if it is of no months.
    intro hp hzero
    have hmem : 0 ∈ p.commitment := by rw [hcommitment, hzero]; rfl
    exact Settings.one_le_iff_ne_zero.1 (hp.commitment 0 hmem) rfl
  · intro hne
    refine ⟨fun n hn => ?_, hchecked.1, hchecked.2⟩
    -- Either the settings have checked the commitment, or it is the one of the arguments.
    cases hmonths : a.commitment with
    | none => exact hfit hmonths n hn
    | some months =>
      rw [hcommitment, hmonths, Option.some_or] at hn
      obtain rfl := Option.some.inj hn
      exact Settings.one_le_iff_ne_zero.2 fun hzero => hne (hzero ▸ hmonths)

/-- Settings that were edited by hand, with a commitment that they refuse. -/
def editedSettings : Settings where
  pricing := some { hoursPerMonth := some (.ofNat 100), commitmentMonths := some 0 }

/-- The stored commitment is not asked for if the arguments have one, and only then. -/
theorem pricesBy_of_pricing_edited :
    (SelectArguments.pricing { catalog := "c.json", commitment := some 12 } editedSettings =
          .ok ⟨some 12, .ofNat 100⟩ ∧
        SelectArguments.pricing { catalog := "c.json" } editedSettings =
          .error (.invalidValue "pricing.commitment_months" "0")) ∧
      SelectArguments.PricesBy { catalog := "c.json", commitment := some 12 } editedSettings
        ⟨some 12, .ofNat 100⟩ := by
  have h : SelectArguments.pricing { catalog := "c.json", commitment := some 12 } editedSettings =
      .ok ⟨some 12, .ofNat 100⟩ := ok_of_toOption (by decide +kernel)
  exact ⟨⟨h, rfl⟩, pricesBy_of_pricing h⟩

/-- A commitment of no months that is written in the arguments is that of the pricing. -/
theorem not_isFit_no_months :
    (Invocation.read ["select", "--catalog", "c.json", "--commitment", "0"]).toOption.map
          Invocation.command = some (.select { catalog := "c.json", commitment := some 0 }) ∧
      SelectArguments.pricing { catalog := "c.json", commitment := some 0 } {} =
        .ok { commitment := some 0 } ∧
      ¬ Pricing.IsFit { commitment := some 0 } :=
  ⟨by decide +kernel, rfl, fun h => absurd (h.commitment 0 rfl) (by decide)⟩

end SelectArguments

end Provisioning

import Mathlib.Data.List.Sort
import Mathlib.Data.Set.Card
import Mathlib.Order.Interval.Finset.Nat
import Provisioning.Proofs.Network.Requests

/-!
# Addresses in order

Addresses are ordered as their numbers are. A set of addresses is kept as its ascending list, so it is
determined by its members, and a pool by its range and what it holds.

## Main results

* `AddressSet.ext`, `Pool.ext`: sets and pools with the same members are equal
* `AddressSet.ncard_eq`, `AddressRange.ncard_eq`: sizes and lengths count the addresses
* `Pool.size_le`: a pool has no more addresses in use than its range
-/

namespace Provisioning

instance : LinearOrder Address where
  le_refl x := Nat.le_refl x.toNat
  le_trans _ _ _ := Nat.le_trans
  lt_iff_le_not_ge _ _ := Nat.lt_iff_le_and_not_ge
  le_antisymm _ _ hxy hyx := Address.toNat_inj (Nat.le_antisymm hxy hyx)
  le_total x y := Nat.le_total x.toNat y.toNat
  toDecidableLE := Address.decidableLe
  toDecidableLT := Address.decidableLt
  toDecidableEq := inferInstance

theorem Address.toNat_injective : Function.Injective Address.toNat := fun _ _ => toNat_inj

instance : Finite Address :=
  Finite.of_injective (fun x => (⟨x.toNat, x.toNat_lt⟩ : Fin 0x100000000))
    fun _ _ h => Address.toNat_inj (congrArg Fin.val h)

theorem AddressSet.ext {s t : AddressSet} (h : ∀ x, x ∈ s ↔ x ∈ t) : s = t := by
  have hlist : s.toList = t.toList := s.ascending.eq_of_mem_iff t.ascending h
  cases s
  cases t
  cases hlist
  rfl

theorem Pool.ext {p q : Pool} (hrange : p.range = q.range)
    (hheld : ∀ x, x ∈ p.held ↔ x ∈ q.held) : p = q := by
  have heq : p.held = q.held := AddressSet.ext hheld
  cases p
  cases q
  cases hrange
  cases heq
  rfl

/-- The members of a set of addresses are counted by its size. -/
theorem AddressSet.ncard_eq (s : AddressSet) : {x | x ∈ s}.ncard = s.size := by
  have hcoe : {x | x ∈ s} = (s.toList.toFinset : Set Address) := by
    ext x
    simp [mem_def]
  rw [hcoe, Set.ncard_coe_finset, List.toFinset_card_of_nodup s.ascending.nodup]
  rfl

/-- The numbers of the addresses of a range are those between the numbers of its ends. -/
theorem AddressRange.image_toNat (r : AddressRange) :
    Address.toNat '' {x | r.contains x = true} = Finset.Icc r.first.toNat r.last.toNat := by
  ext n
  simp only [Set.mem_image, Set.mem_ofPred_eq, AddressRange.contains_iff, Finset.coe_Icc, Set.mem_Icc]
  constructor
  · rintro ⟨x, ⟨hfirst, hlast⟩, rfl⟩
    exact ⟨hfirst, hlast⟩
  · rintro ⟨hfirst, hlast⟩
    -- A number up to that of an address is itself the number of one.
    have hn : (Address.ofNat n).toNat = n := by
      rw [Address.toNat_ofNat, Nat.mod_eq_of_lt (Nat.lt_of_le_of_lt hlast r.last.toNat_lt)]
    refine ⟨Address.ofNat n, ⟨?_, ?_⟩, hn⟩
    · rwa [Address.le_def, hn]
    · rwa [Address.le_def, hn]

theorem AddressRange.ncard_eq (r : AddressRange) :
    {x | r.contains x = true}.ncard = r.length := by
  have hle := Address.le_def.1 r.first_le_last
  rw [← Set.ncard_image_of_injective _ Address.toNat_injective, image_toNat, Set.ncard_coe_finset,
    Nat.card_Icc, AddressRange.length]
  omega

/-- No more addresses are in use than the range has. -/
theorem Pool.size_le (pool : Pool) : pool.held.size ≤ pool.range.length := by
  rw [← AddressSet.ncard_eq, ← AddressRange.ncard_eq]
  exact Set.ncard_le_ncard pool.held_in_range

end Provisioning

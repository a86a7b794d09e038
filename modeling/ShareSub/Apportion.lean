import Mathlib

/-!
# Apportioning a whole by weight

Each part gets the floor of its proportional share. The parts never add up to more than the
whole, and a part reaches the whole only if the whole is not smaller than it.
-/
namespace ShareSub.Apportion

/-- The floored share of a part of weight `weight` in `whole`, out of the weight `total`. -/
def part (whole total weight : ℤ) : ℤ := weight * whole / total

variable {ι : Type*} {whole total : ℤ}

lemma part_mul_le (weight : ℤ) (htotal : 0 < total) :
    part whole total weight * total ≤ weight * whole :=
  Int.ediv_mul_le _ htotal.ne'

lemma part_le_whole {weight : ℤ} (hwhole : 0 ≤ whole) (htotal : 0 < total) (hweight : weight ≤ total) :
    part whole total weight ≤ whole := by
  have hmul : part whole total weight * total ≤ whole * total := by
    calc part whole total weight * total ≤ weight * whole := part_mul_le weight htotal
      _ ≤ total * whole := mul_le_mul_of_nonneg_right hweight hwhole
      _ = whole * total := mul_comm _ _
  exact le_of_mul_le_mul_right hmul htotal

/-- Parts whose weights fit into the total fit into the whole. -/
theorem sum_part_le (s : Finset ι) (weight : ι → ℤ) (hwhole : 0 ≤ whole) (htotal : 0 < total)
    (hweight : ∑ i ∈ s, weight i ≤ total) : ∑ i ∈ s, part whole total (weight i) ≤ whole := by
  have hmul : (∑ i ∈ s, part whole total (weight i)) * total ≤ whole * total := by
    calc (∑ i ∈ s, part whole total (weight i)) * total
        = ∑ i ∈ s, part whole total (weight i) * total := Finset.sum_mul ..
      _ ≤ ∑ i ∈ s, weight i * whole := Finset.sum_le_sum fun i _ => part_mul_le (weight i) htotal
      _ = (∑ i ∈ s, weight i) * whole := (Finset.sum_mul ..).symm
      _ ≤ total * whole := mul_le_mul_of_nonneg_right hweight hwhole
      _ = whole * total := mul_comm _ _
  exact le_of_mul_le_mul_right hmul htotal

/-- A list grouped by a key: the groups of a finite set of keys hold at most the whole list. -/
lemma sum_groups_le {ρ : Type*} [DecidableEq ι] (s : Finset ι) (key : ρ → ι) (weight : ρ → ℤ)
    (rows : List ρ) (hnn : ∀ r ∈ rows, 0 ≤ weight r) :
    ∑ i ∈ s, ((rows.filter fun r => key r = i).map weight).sum ≤ (rows.map weight).sum := by
  induction rows with
  | nil => simp
  | cons r rows ih =>
    have hi := ih fun x hx => hnn x (by simp [hx])
    have hr := hnn r (by simp)
    have hsplit : ∀ i, (((r :: rows).filter fun r => key r = i).map weight).sum =
        (if key r = i then weight r else 0) + ((rows.filter fun r => key r = i).map weight).sum := by
      intro i
      by_cases h : key r = i <;> simp [h]
    rw [Finset.sum_congr rfl fun i _ => hsplit i, Finset.sum_add_distrib, Finset.sum_ite_eq, List.map_cons,
      List.sum_cons]
    split_ifs <;> omega

/-- The largest of a list of values, zero when there is none. -/
def largest (values : List ℤ) : ℤ := values.max?.getD 0

lemma le_largest_iff {values : List ℤ} {limit : ℤ} (hlimit : 0 < limit) :
    limit ≤ largest values ↔ ∃ v ∈ values, limit ≤ v := by
  cases hmax : values.max? with
  | none =>
    obtain rfl := List.max?_eq_none_iff.mp hmax
    simpa [largest] using hlimit
  | some m =>
    obtain ⟨hmem, hle⟩ := List.max?_eq_some_iff.mp hmax
    simp only [largest, hmax, Option.getD_some]
    exact ⟨fun h => ⟨m, hmem, h⟩, fun ⟨v, hv, h⟩ => h.trans (hle v hv)⟩

end ShareSub.Apportion

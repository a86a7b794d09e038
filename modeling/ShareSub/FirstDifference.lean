import Mathlib

/-!
# Comparison by the first difference

Sequences that agree from some place on are compared where they first differ. This is their lexicographic order.
-/
namespace ShareSub.FirstDifference

variable {α : Type*} [LinearOrder α]

def firstDifference (n : ℕ) (f g : ℕ → α) : ℤ :=
  ((List.range n).findSome? fun i =>
    if f i < g i then some (-1) else if g i < f i then some 1 else none).getD 0

variable {f g : ℕ → α} {n : ℕ}

/-- Either nothing differs, or the first difference decides. -/
lemma firstDifference_cases (n : ℕ) (f g : ℕ → α) :
    firstDifference n f g = 0 ∧ (∀ i < n, f i = g i) ∨
      ∃ i < n, (∀ j < i, f j = g j) ∧
        (firstDifference n f g = -1 ∧ f i < g i ∨ firstDifference n f g = 1 ∧ g i < f i) := by
  induction n with
  | zero => exact .inl ⟨rfl, fun i hi => absurd hi (Nat.not_lt_zero i)⟩
  | succ n ih =>
    unfold firstDifference at ih ⊢
    rw [List.range_succ, List.findSome?_append]
    cases hfound : (List.range n).findSome? (fun i =>
        if f i < g i then some (-1) else if g i < f i then some 1 else none : ℕ → Option ℤ) with
    | some found =>
      rw [hfound] at ih
      rcases ih with ⟨hzero, hall⟩ | ⟨i, hi, hagree, hdecide⟩
      · -- what is found is never zero
        obtain ⟨i, hi, hsome⟩ := List.exists_of_findSome?_eq_some hfound
        rw [hall i (List.mem_range.mp hi)] at hsome
        simp at hsome
      · exact .inr ⟨i, by omega, hagree, hdecide⟩
    | none =>
      have hagree : ∀ i < n, f i = g i := by
        intro i hi
        have hnone := List.findSome?_eq_none_iff.mp hfound i (List.mem_range.mpr hi)
        split_ifs at hnone with hlt hgt
        exact le_antisymm (not_lt.mp hgt) (not_lt.mp hlt)
      rcases lt_trichotomy (f n) (g n) with hlt | heq | hgt
      · exact .inr ⟨n, by omega, hagree, .inl ⟨by simp [hlt], hlt⟩⟩
      · refine .inl ⟨by simp [heq], fun i hi => ?_⟩
        rcases Nat.lt_succ_iff_lt_or_eq.mp hi with hi | rfl
        · exact hagree i hi
        · exact heq
      · exact .inr ⟨n, by omega, hagree, .inr ⟨by simp [hgt, not_lt.mpr hgt.le], hgt⟩⟩

theorem firstDifference_decides (htail : ∀ i, n ≤ i → f i = g i) :
    firstDifference n f g = 0 ∧ f = g ∨ firstDifference n f g = -1 ∧ toLex f < toLex g ∨
      firstDifference n f g = 1 ∧ toLex g < toLex f := by
  rcases firstDifference_cases n f g with ⟨hzero, hall⟩ | ⟨i, -, hagree, ⟨hneg, hlt⟩ | ⟨hpos, hgt⟩⟩
  · exact .inl ⟨hzero, funext fun i => (lt_or_ge i n).elim (hall i) (htail i)⟩
  · exact .inr (.inl ⟨hneg, i, hagree, hlt⟩)
  · exact .inr (.inr ⟨hpos, i, fun j hj => (hagree j hj).symm, hgt⟩)

lemma firstDifference_pos_iff (htail : ∀ i, n ≤ i → f i = g i) : 0 < firstDifference n f g ↔ toLex g < toLex f := by
  rcases firstDifference_decides htail with ⟨hzero, rfl⟩ | ⟨hneg, hlt⟩ | ⟨hpos, hgt⟩
  · exact iff_of_false (by omega) (lt_irrefl _)
  · exact iff_of_false (by omega) (lt_asymm hlt)
  · exact iff_of_true (by omega) hgt

lemma firstDifference_neg_iff (htail : ∀ i, n ≤ i → f i = g i) : firstDifference n f g < 0 ↔ toLex f < toLex g := by
  rcases firstDifference_decides htail with ⟨hzero, rfl⟩ | ⟨hneg, hlt⟩ | ⟨hpos, hgt⟩
  · exact iff_of_false (by omega) (lt_irrefl _)
  · exact iff_of_true (by omega) hlt
  · exact iff_of_false (by omega) (lt_asymm hgt)

end ShareSub.FirstDifference

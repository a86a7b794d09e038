import Mathlib

/-!
# Reserved bases and a shared pool

Every holder has a base of its own, and what it holds beyond the base is taken from a pool that
all holders share. The pool is not exceeded when every finite set of holders fits it.
-/
namespace ShareSub.Reservation

open scoped BigOperators

variable {α : Type} {base base' count count' : α → ℤ} {pool : ℤ} {a : α}

/-- What a holder has beyond its base. -/
def excess (base count : α → ℤ) (a : α) : ℤ := max 0 (count a - base a)

def Fits (base count : α → ℤ) (pool : ℤ) : Prop := ∀ s : Finset α, ∑ a ∈ s, excess base count a ≤ pool

lemma excess_nonneg (base count : α → ℤ) (a : α) : 0 ≤ excess base count a := le_max_left _ _

/-- Who holds less fits as well. -/
lemma Fits.of_le (h : Fits base count pool) (hle : ∀ a, count' a ≤ count a) : Fits base count' pool := by
  intro s
  have hterm : ∀ b ∈ s, excess base count' b ≤ excess base count b := by
    intro b _
    have := hle b
    unfold excess
    omega
  exact (Finset.sum_le_sum hterm).trans (h s)

/-- A set that has everybody who is beyond the base bounds every other set. -/
lemma sum_excess_le {s t : Finset α} (hrest : ∀ b, b ∉ t → excess base count b = 0) :
    ∑ b ∈ s, excess base count b ≤ ∑ b ∈ t, excess base count b := by
  classical
  have hunion : ∑ b ∈ t, excess base count b = ∑ b ∈ t ∪ s, excess base count b :=
    Finset.sum_subset Finset.subset_union_left fun b _ hb => hrest b hb
  rw [hunion]
  exact Finset.sum_le_sum_of_subset_of_nonneg Finset.subset_union_right fun b _ _ => excess_nonneg base count b

/-- As long as one holder is below its base, the bases and the pool are not used up. -/
lemma Fits.sum_lt {s : Finset α} (h : Fits base count pool) (ha : a ∈ s) (hbelow : count a < base a) :
    ∑ b ∈ s, count b < ∑ b ∈ s, base b + pool := by
  have hlt : ∑ b ∈ s, count b < ∑ b ∈ s, (base b + excess base count b) := by
    refine Finset.sum_lt_sum ?_ ⟨a, ha, ?_⟩
    · intro b _
      unfold excess
      omega
    · unfold excess
      omega
  rw [Finset.sum_add_distrib] at hlt
  have := h s
  omega

variable [DecidableEq α]

/-- Below the base nothing is taken from the pool. -/
lemma Fits.enter_base (h : Fits base count pool) (hcount : ∀ b, count' b = count b + if b = a then 1 else 0)
    (hbelow : count a < base a) : Fits base count' pool := by
  intro s
  have hterm : ∀ b ∈ s, excess base count' b = excess base count b := by
    intro b _
    unfold excess
    rw [hcount]
    split_ifs with hb
    · subst hb
      omega
    · rw [add_zero]
  rw [Finset.sum_congr rfl hterm]
  exact h s

/-- One more holding is at most one more of the pool. -/
lemma Fits.enter_pool (h : Fits base count (pool - 1)) (hcount : ∀ b, count' b = count b + if b = a then 1 else 0) :
    Fits base count' pool := by
  intro s
  have hterm : ∀ b ∈ s, excess base count' b ≤ excess base count b + if b = a then 1 else 0 := by
    intro b _
    unfold excess
    rw [hcount]
    split_ifs <;> omega
  have hone : (∑ b ∈ s, if b = a then 1 else 0 : ℤ) ≤ 1 := by
    rw [Finset.sum_ite_eq']
    split_ifs <;> omega
  have hsum := Finset.sum_le_sum hterm
  rw [Finset.sum_add_distrib] at hsum
  have := h s
  omega

/-- A holder that loses its base keeps what it holds, and its base goes to the pool. -/
lemma Fits.drop (h : Fits base count pool) (hbase : ∀ b, base' b = if b = a then 0 else base b) (hcount : 0 ≤ count a) :
    Fits base' count (pool + base a) := by
  intro s
  have hother : ∑ b ∈ s.erase a, excess base' count b = ∑ b ∈ s.erase a, excess base count b := by
    refine Finset.sum_congr rfl ?_
    intro b hb
    rw [excess, excess, hbase, if_neg (Finset.ne_of_mem_erase hb)]
  have hmore : ∑ b ∈ s, excess base' count b ≤ ∑ b ∈ insert a (s.erase a), excess base' count b := by
    refine Finset.sum_le_sum_of_subset_of_nonneg ?_ fun b _ _ => excess_nonneg base' count b
    exact Finset.subset_insert_iff.mpr subset_rfl
  rw [Finset.sum_insert (Finset.notMem_erase a s), hother] at hmore
  have hall := h (insert a (s.erase a))
  rw [Finset.sum_insert (Finset.notMem_erase a s)] at hall
  have hself : excess base' count a ≤ excess base count a + base a := by
    unfold excess
    rw [hbase, if_pos rfl]
    omega
  omega

end ShareSub.Reservation

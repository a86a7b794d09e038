import Mathlib

/-!
# Recordings of a value over time

Time is counted in ticks. A recording has the value that was held at every observed tick, up to
its clock, and the values that were marked at single instants. A weight of the value is
integrated over a window by summing over the observed ticks of the window.
-/
namespace ShareSub.Timeline

structure Recording (α : Type) where
  created : ℤ
  clock : ℤ
  held : ℤ → Option α
  marks : List (ℤ × α)

namespace Recording

variable {α : Type}

def start (now : ℤ) : Recording α := ⟨now, now, fun _ => none, []⟩

/-- Leave the time up to an instant unobserved. -/
def skipTo (r : Recording α) (t : ℤ) : Recording α := { r with clock := max r.clock t }

/-- The value was held from the clock until `now`. -/
def observe (r : Recording α) (a : α) (now : ℤ) : Recording α :=
  { r with
    clock := max r.clock now
    held := fun t => if r.clock ≤ t ∧ t < now then some a else r.held t }

def mark (r : Recording α) (t : ℤ) (a : α) : Recording α := { r with marks := r.marks ++ [(t, a)] }

/-- The integral of a weight over the observed part of a window. -/
noncomputable def integral (r : Recording α) (w : α → ℤ) (s e : ℤ) : ℤ := ∑ t ∈ Finset.Ico s e, (r.held t).elim 0 w

/-- The weights that were held for a tick of a window or marked in it. -/
def values (r : Recording α) (w : α → ℤ) (s e : ℤ) : Set ℤ :=
  {x | ∃ t a, s ≤ t ∧ t < e ∧ r.held t = some a ∧ w a = x} ∪
    {x | ∃ m ∈ r.marks, s ≤ m.1 ∧ m.1 < e ∧ w m.2 = x}

/-- Nothing is held outside of the time between the creation and the clock. -/
structure Bounded (r : Recording α) : Prop where
  created_le : r.created ≤ r.clock
  held : ∀ t, r.held t ≠ none → r.created ≤ t ∧ t < r.clock

variable {r : Recording α} {w : α → ℤ} {a : α} {s e t now : ℤ}

lemma bounded_start (now : ℤ) : (start now : Recording α).Bounded :=
  ⟨le_rfl, fun _ h => absurd rfl h⟩

lemma Bounded.skipTo (h : r.Bounded) (t : ℤ) : (r.skipTo t).Bounded := by
  refine ⟨h.created_le.trans (le_max_left _ _), ?_⟩
  intro u hu
  obtain ⟨hcreated, hclock⟩ := h.held u hu
  exact ⟨hcreated, hclock.trans_le (le_max_left _ _)⟩

lemma Bounded.observe (h : r.Bounded) (a : α) (now : ℤ) : (r.observe a now).Bounded := by
  refine ⟨h.created_le.trans (le_max_left _ _), ?_⟩
  intro u hu
  have hcreated := h.created_le
  simp only [Recording.observe] at hu ⊢
  split_ifs at hu with hin
  · constructor <;> omega
  · obtain ⟨hfrom, hclock⟩ := h.held u hu
    exact ⟨hfrom, hclock.trans_le (le_max_left _ _)⟩

lemma Bounded.mark (h : r.Bounded) (t : ℤ) (a : α) : (r.mark t a).Bounded := ⟨h.created_le, h.held⟩

lemma Bounded.held_none (h : r.Bounded) (ht : r.clock ≤ t) : r.held t = none := by
  by_contra hne
  have := (h.held t hne).2
  omega

@[simp] lemma observe_clock_of_le (h : r.clock ≤ now) : (r.observe a now).clock = now := max_eq_right h

lemma held_observe_of_mem (ht : r.clock ≤ t) (hnow : t < now) : (r.observe a now).held t = some a :=
  if_pos ⟨ht, hnow⟩

lemma held_observe_of_notMem (h : t < r.clock ∨ now ≤ t) : (r.observe a now).held t = r.held t :=
  if_neg (by omega)

/-- Observing in two parts is observing once. -/
lemma observe_observe (ht : r.clock ≤ t) (hnow : t ≤ now) :
    (r.observe a t).observe a now = r.observe a now := by
  simp only [observe, max_eq_right ht, max_eq_right hnow, max_eq_right (ht.trans hnow), Recording.mk.injEq,
    true_and, and_true]
  funext u
  split_ifs <;> first | rfl | omega

lemma observe_of_le (h : now ≤ r.clock) : r.observe a now = r := by
  have hheld : (fun t => if r.clock ≤ t ∧ t < now then some a else r.held t) = r.held := by
    funext u
    rw [if_neg (by omega)]
  simp only [observe, hheld, max_eq_left h]

section Windows

@[simp] lemma integral_skipTo : (r.skipTo t).integral w s e = r.integral w s e := rfl

@[simp] lemma integral_mark : (r.mark t a).integral w s e = r.integral w s e := rfl

@[simp] lemma values_skipTo : (r.skipTo t).values w s e = r.values w s e := rfl

lemma integral_observe_of_disjoint (h : e ≤ r.clock ∨ now ≤ s) :
    (r.observe a now).integral w s e = r.integral w s e := by
  refine Finset.sum_congr rfl ?_
  intro u hu
  have hwindow := Finset.mem_Ico.mp hu
  simp only [observe]
  rw [if_neg (by omega)]

lemma integral_observe_of_within (hr : r.Bounded) (hs : s ≤ r.clock) (hclock : r.clock ≤ now) (hnow : now ≤ e) :
    (r.observe a now).integral w s e = r.integral w s e + w a * (now - r.clock) := by
  -- Only the ticks from the clock on change, and nothing was held there before.
  have hsum : ∀ u, ((r.observe a now).held u).elim 0 w =
      (r.held u).elim 0 w + if r.clock ≤ u ∧ u < now then w a else 0 := by
    intro u
    by_cases hin : r.clock ≤ u ∧ u < now
    · simp [observe, hin, hr.held_none hin.1]
    · simp [observe, hin]
  have hpart : (Finset.Ico s e).filter (fun u => r.clock ≤ u ∧ u < now) = Finset.Ico r.clock now := by
    ext u
    simp only [Finset.mem_filter, Finset.mem_Ico]
    omega
  rw [integral, integral, Finset.sum_congr rfl fun u _ => hsum u, Finset.sum_add_distrib, ← Finset.sum_filter,
    hpart, Finset.sum_const, Int.card_Ico, nsmul_eq_mul, Int.toNat_of_nonneg (by omega), mul_comm]

/-- A window has no more observed time than its length. -/
lemma integral_one_le (h : s ≤ e) : r.integral (fun _ => 1) s e ≤ e - s := by
  have hle : r.integral (fun _ => 1) s e ≤ ∑ _t ∈ Finset.Ico s e, (1 : ℤ) := by
    refine Finset.sum_le_sum ?_
    intro t _
    cases r.held t with
    | none => exact zero_le_one
    | some a => exact le_rfl
  rw [Finset.sum_const, Int.card_Ico, nsmul_eq_mul, mul_one] at hle
  omega

lemma values_observe_of_disjoint (h : e ≤ r.clock ∨ now ≤ s) :
    (r.observe a now).values w s e = r.values w s e := by
  unfold values
  congr 1
  ext x
  constructor
  · rintro ⟨u, b, hs, he, hheld, hx⟩
    simp only [observe] at hheld
    rw [if_neg (by omega)] at hheld
    exact ⟨u, b, hs, he, hheld, hx⟩
  · rintro ⟨u, b, hs, he, hheld, hx⟩
    refine ⟨u, b, hs, he, ?_, hx⟩
    simp only [observe]
    rw [if_neg (by omega)]
    exact hheld

lemma values_observe_of_within (hr : r.Bounded) (hs : s ≤ r.clock) (hclock : r.clock < now) (hnow : now ≤ e) :
    (r.observe a now).values w s e = insert (w a) (r.values w s e) := by
  ext x
  simp only [values, Set.mem_union, Set.mem_ofPred_eq, Set.mem_insert_iff]
  constructor
  · rintro (⟨u, b, hsu, heu, hheld, hx⟩ | hmark)
    · simp only [observe] at hheld
      split_ifs at hheld with hin
      · cases hheld
        exact Or.inl hx.symm
      · exact Or.inr (Or.inl ⟨u, b, hsu, heu, hheld, hx⟩)
    · exact Or.inr (Or.inr hmark)
  · rintro (rfl | ⟨u, b, hsu, heu, hheld, hx⟩ | hmark)
    · refine Or.inl ⟨r.clock, a, hs, by omega, ?_, rfl⟩
      simp only [observe]
      rw [if_pos ⟨le_rfl, hclock⟩]
    · have hbefore := (hr.held u (by rw [hheld]; simp)).2
      refine Or.inl ⟨u, b, hsu, heu, ?_, hx⟩
      simp only [observe]
      rw [if_neg (by omega)]
      exact hheld
    · exact Or.inr hmark

lemma values_mark_of_mem (hs : s ≤ t) (he : t < e) : (r.mark t a).values w s e = insert (w a) (r.values w s e) := by
  ext x
  simp only [values, mark, List.mem_append, List.mem_singleton, Set.mem_union, Set.mem_ofPred_eq, Set.mem_insert_iff]
  constructor
  · rintro (hheld | ⟨m, hm | rfl, hms, hme, hx⟩)
    · exact Or.inr (Or.inl hheld)
    · exact Or.inr (Or.inr ⟨m, hm, hms, hme, hx⟩)
    · exact Or.inl hx.symm
  · rintro (rfl | hheld | ⟨m, hm, hms, hme, hx⟩)
    · exact Or.inr ⟨(t, a), Or.inr rfl, hs, he, rfl⟩
    · exact Or.inl hheld
    · exact Or.inr ⟨m, Or.inl hm, hms, hme, hx⟩

lemma values_mark_of_notMem (h : t < s ∨ e ≤ t) : (r.mark t a).values w s e = r.values w s e := by
  ext x
  simp only [values, mark, List.mem_append, List.mem_singleton, Set.mem_union, Set.mem_ofPred_eq]
  constructor
  · rintro (hheld | ⟨m, hm | rfl, hms, hme, hx⟩)
    · exact Or.inl hheld
    · exact Or.inr ⟨m, hm, hms, hme, hx⟩
    · omega
  · rintro (hheld | ⟨m, hm, hms, hme, hx⟩)
    · exact Or.inl hheld
    · exact Or.inr ⟨m, Or.inl hm, hms, hme, hx⟩

end Windows

end Recording

end ShareSub.Timeline

import Mathlib
import ShareSub.CostModel

/-!
# The range of a cost

The guard of a product compares with `2^63`, which is the first number out of range. A segment whose products miss it
has components in range, and the sums over the segments are exact.
-/
namespace ShareSub.CostRange

open FloatRounding PricingModel CostModel

section Charges

variable {charge : Charge} {value : ℤ}

/-- The amount of a charge is an integer. -/
lemma exists_amount (charge : Charge) : ∃ n : ℤ, charge.amount = n := by
  cases charge with
  | free => exact ⟨0, by simp [Charge.amount]⟩
  | tokens count price factor divisor => exact ⟨_, rfl⟩
  | micros count unit =>
    obtain ⟨m, hm⟩ := exists_round53_intCast count
    obtain ⟨k, hk⟩ := exists_round53_intCast unit
    obtain ⟨n, hn⟩ := exists_round53_intCast (m * k)
    refine ⟨n, ?_⟩
    rw [Charge.amount, hm, hk, ← hn]
    push_cast
    rfl

/-- A call without an error has a value in range, or its amount is exactly the bound. -/
lemma calculate_cases (h : charge.calculate = (value, none)) :
    charge.amount = 2 ^ 63 ∧ value = -2 ^ 63 ∨ charge.amount ≠ 2 ^ 63 ∧ 0 ≤ value ∧ value < 2 ^ 63 := by
  obtain ⟨n, hn⟩ := exists_amount charge
  have hvalue : ∀ m : ℤ, ¬ ((m : ℚ) < 0 ∨ 2 ^ 63 < (m : ℚ)) →
      (m : ℚ) = 2 ^ 63 ∧ toInt64 m = -2 ^ 63 ∨ (m : ℚ) ≠ 2 ^ 63 ∧ 0 ≤ toInt64 m ∧ toInt64 m < 2 ^ 63 := by
    intro m hguard
    rw [not_or, not_lt, not_lt] at hguard
    have hlow : 0 ≤ m := by exact_mod_cast hguard.1
    have hhigh : m ≤ 2 ^ 63 := by exact_mod_cast hguard.2
    rw [toInt64_intCast]
    rcases hhigh.eq_or_lt with heq | hlt
    · left
      rw [if_neg (by omega), heq]
      exact ⟨by norm_num, rfl⟩
    · right
      rw [if_pos ⟨by omega, hlt⟩]
      exact ⟨by exact_mod_cast hlt.ne, hlow, hlt⟩
  cases charge with
  | free =>
    right
    cases h
    exact ⟨by norm_num [Charge.amount], le_rfl, by norm_num⟩
  | tokens count price factor divisor =>
    simp only [Charge.calculate, hn] at h ⊢
    split_ifs at h with hneg hguard
    · cases h
    · cases h
    · cases h
      exact hvalue n hguard
  | micros count unit =>
    simp only [Charge.calculate, hn, roundAway_intCast] at h ⊢
    split_ifs at h with hguard
    · cases h
    · cases h
      exact hvalue n hguard

lemma value_cases (h : charge.calculate.2 = none) :
    charge.amount = 2 ^ 63 ∧ charge.calculate.1 = -2 ^ 63 ∨
      charge.amount ≠ 2 ^ 63 ∧ 0 ≤ charge.calculate.1 ∧ charge.calculate.1 < 2 ^ 63 :=
  calculate_cases (Prod.ext rfl h)

end Charges

section Segments

variable {toLower : String → String} {config : PricingConfig} {model serviceTier : String}
  {segment : GatewayBillingSegment} {cost : CostBreakdown}

/-- A product of the segment is exactly the bound of the guard. -/
def OnBound (toLower : String → String) (config : PricingConfig) (model serviceTier : String)
    (segment : GatewayBillingSegment) : Prop :=
  ∃ charges, segmentCharges toLower config model serviceTier segment = .ok charges ∧
    ∃ charge ∈ charges.toList, charge.amount = 2 ^ 63

/-- The components are in range and the total is their sum. -/
def InRange (cost : CostBreakdown) : Prop :=
  (∀ value ∈ cost.micros.toList, 0 ≤ value ∧ value < 2 ^ 63) ∧ cost.totalMicros = cost.micros.toList.sum

/-- A segment that is charged, with the values of its calls. -/
lemma versionedSegmentCost_eq_ok (h : versionedSegmentCost toLower config model serviceTier segment = .ok cost) :
    ∃ charges, segmentCharges toLower config model serviceTier segment = .ok charges ∧
      cost.micros = charges.map (fun charge => charge.calculate.1) ∧ cost.totalMicros = cost.micros.toList.sum ∧
      isInt64 cost.totalMicros = true ∧ ∀ charge ∈ charges.toList, charge.calculate.2 = none := by
  unfold versionedSegmentCost at h
  split_ifs at h
  split at h
  · cases h
  · next charges hcharges =>
    unfold finishCost at h
    dsimp only at h
    split_ifs at h with hint
    split at h
    · cases h
    · next hnone =>
      cases h
      refine ⟨charges, hcharges, rfl, rfl, by simpa using hint, ?_⟩
      rw [List.getLast?_eq_none_iff, List.filterMap_eq_nil_iff] at hnone
      intro charge hcharge
      refine hnone charge.calculate ?_
      simp only [Components.toList, Components.callOrder, Components.map, List.mem_cons, List.not_mem_nil,
        or_false] at hcharge ⊢
      rcases hcharge with rfl | rfl | rfl | rfl | rfl | rfl | rfl <;> simp

lemma toList_map {α β : Type} (f : α → β) (c : Components α) : (c.map f).toList = c.toList.map f := rfl

/-- A segment off the bound has its components in range. -/
lemma segment_inRange (h : versionedSegmentCost toLower config model serviceTier segment = .ok cost)
    (hoff : ¬ OnBound toLower config model serviceTier segment) : InRange cost := by
  obtain ⟨charges, hcharges, hmicros, htotal, -, hnone⟩ := versionedSegmentCost_eq_ok h
  refine ⟨?_, htotal⟩
  intro value hvalue
  rw [hmicros, toList_map] at hvalue
  obtain ⟨charge, hcharge, rfl⟩ := List.mem_map.mp hvalue
  rcases value_cases (hnone charge hcharge) with ⟨hbound, -⟩ | ⟨-, hrange⟩
  · exact absurd ⟨charges, hcharges, charge, hcharge, hbound⟩ hoff
  · exact hrange

/-- A segment on the bound has a negative component. -/
lemma segment_negative (h : versionedSegmentCost toLower config model serviceTier segment = .ok cost)
    (hon : OnBound toLower config model serviceTier segment) : -2 ^ 63 ∈ cost.micros.toList := by
  obtain ⟨charges, hcharges, hmicros, -, -, hnone⟩ := versionedSegmentCost_eq_ok h
  obtain ⟨charges', hcharges', charge, hcharge, hbound⟩ := hon
  rw [hcharges] at hcharges'
  cases hcharges'
  rw [hmicros, toList_map]
  refine List.mem_map.mpr ⟨charge, hcharge, ?_⟩
  rcases value_cases (hnone charge hcharge) with ⟨-, hvalue⟩ | ⟨hne, -⟩
  · exact hvalue
  · exact absurd hbound hne

/-- Every component of a segment that is charged fits the machine word. -/
lemma segment_inInt64 (h : versionedSegmentCost toLower config model serviceTier segment = .ok cost) :
    cost.inInt64 = true := by
  obtain ⟨charges, -, hmicros, -, htotal, hnone⟩ := versionedSegmentCost_eq_ok h
  unfold CostBreakdown.inInt64
  rw [Bool.and_eq_true, List.all_eq_true]
  refine ⟨?_, htotal⟩
  intro value hvalue
  rw [hmicros, toList_map] at hvalue
  obtain ⟨charge, hcharge, rfl⟩ := List.mem_map.mp hvalue
  simp only [isInt64, Bool.and_eq_true, decide_eq_true_eq]
  rcases value_cases (hnone charge hcharge) with ⟨-, hvalue⟩ | ⟨-, hlow, hhigh⟩ <;> omega

end Segments

section Sums

variable {toLower : String → String} {config : PricingConfig} {model serviceTier : String}
  {segments rest : List GatewayBillingSegment} {a b c d r r' total cost : CostBreakdown}

lemma zeroCost_add (a : CostBreakdown) : zeroCost.add a = a := by
  obtain ⟨⟨_, _, _, _, _, _, _⟩, _⟩ := a
  simp [zeroCost, CostBreakdown.add]

lemma add_comm (a b : CostBreakdown) : a.add b = b.add a := by
  simp [CostBreakdown.add, Int.add_comm]

lemma add_assoc (a b c : CostBreakdown) : (a.add b).add c = a.add (b.add c) := by
  simp [CostBreakdown.add, Int.add_assoc]

lemma sum_add (a b : CostBreakdown) : (a.add b).micros.toList.sum = a.micros.toList.sum + b.micros.toList.sum := by
  simp only [CostBreakdown.add, Components.toList, List.sum_cons, List.sum_nil]
  ring

lemma costFrom_cons {segment : GatewayBillingSegment}
    (h : costFrom toLower config model serviceTier total (segment :: rest) = .ok r) :
    ∃ cost, versionedSegmentCost toLower config model serviceTier segment = .ok cost ∧
      (total.add cost).inInt64 = true ∧ costFrom toLower config model serviceTier (total.add cost) rest = .ok r := by
  rw [costFrom] at h
  split at h
  · cases h
  · next cost hcost =>
    split_ifs at h with hint
    exact ⟨cost, hcost, hint, h⟩

lemma costFrom_append {front : List GatewayBillingSegment}
    (h : costFrom toLower config model serviceTier total (front ++ rest) = .ok r) :
    ∃ u, costFrom toLower config model serviceTier total front = .ok u ∧
      costFrom toLower config model serviceTier u rest = .ok r := by
  induction front generalizing total with
  | nil => exact ⟨total, rfl, h⟩
  | cons segment front ih =>
    obtain ⟨cost, hcost, hint, hrest⟩ := costFrom_cons h
    obtain ⟨u, hfront, hlast⟩ := ih hrest
    refine ⟨u, ?_, hlast⟩
    rw [costFrom, hcost]
    exact (if_pos hint).trans hfront

/-- The segments add the same to whatever they start from. -/
lemma costFrom_add (h : costFrom toLower config model serviceTier a segments = .ok r)
    (h' : costFrom toLower config model serviceTier b segments = .ok r') : r.add b = r'.add a := by
  induction segments generalizing a b with
  | nil =>
    cases h
    cases h'
    exact add_comm _ _
  | cons segment rest ih =>
    obtain ⟨cost, hcost, -, hrest⟩ := costFrom_cons h
    obtain ⟨cost', hcost', -, hrest'⟩ := costFrom_cons h'
    rw [hcost] at hcost'
    cases hcost'
    have hih := ih hrest hrest'
    rw [← add_assoc, ← add_assoc] at hih
    simp only [CostBreakdown.add, CostBreakdown.mk.injEq, Components.mk.injEq] at hih ⊢
    omega

/-- The sum over segments off the bound stays in range. -/
lemma costFrom_inRange (hoff : ∀ segment cost, versionedSegmentCost toLower config model serviceTier segment = .ok cost →
      InRange cost) (htotal : InRange total)
    (h : costFrom toLower config model serviceTier total segments = .ok r) : InRange r := by
  induction segments generalizing total with
  | nil =>
    cases h
    exact htotal
  | cons segment rest ih =>
    obtain ⟨cost, hcost, hint, hrest⟩ := costFrom_cons h
    have hsegment := hoff segment cost hcost
    refine ih ⟨?_, ?_⟩ hrest
    · have hint := List.all_eq_true.mp (Bool.and_eq_true_iff.mp hint).1
      have hlow := hsegment.1
      have hlow' := htotal.1
      simp only [CostBreakdown.add, Components.toList, List.forall_mem_cons, isInt64, Bool.and_eq_true,
        decide_eq_true_eq] at hint hlow hlow' ⊢
      simp only [List.not_mem_nil, false_implies, implies_true, and_true] at hint hlow hlow' ⊢
      omega
    · rw [sum_add, ← htotal.2, ← hsegment.2]
      rfl

/-- What is wanted of the costs for a model and a tier. -/
structure Exact (toLower : String → String) (config : PricingConfig) (model serviceTier : String) : Prop where
  range : ∀ segments cost, versionedCost toLower config model serviceTier segments = .ok cost → InRange cost
  append : ∀ front rest first last cost, versionedCost toLower config model serviceTier front = .ok first →
    versionedCost toLower config model serviceTier rest = .ok last →
    versionedCost toLower config model serviceTier (front ++ rest) = .ok cost → cost = first.add last

lemma versionedCost_append {front : List GatewayBillingSegment}
    (hfront : versionedCost toLower config model serviceTier front = .ok a)
    (hrest : versionedCost toLower config model serviceTier rest = .ok b)
    (h : versionedCost toLower config model serviceTier (front ++ rest) = .ok c) : c = a.add b := by
  obtain ⟨u, hu, hlast⟩ := costFrom_append h
  rw [versionedCost, hu] at hfront
  cases hfront
  have hsum := costFrom_add hlast hrest
  rw [add_comm c, zeroCost_add, add_comm b] at hsum
  exact hsum

end Sums

section Sample

def sampleConfig : PricingConfig where
  models := [⟨"model", ⟨1, 1, 1, 1, 1, 1⟩, 0, 10000, 10000⟩]
  fastMultiplierBPS := 10000
  flexMultiplierBPS := 10000
  webSearchMicros := 2 ^ 29
  image1KMicros := 0
  image2KMicros := 0
  image4KMicros := 0

def sampleSegment : GatewayBillingSegment := ⟨⟨0, 0, 0, 0, 0, 0, 0⟩, 2 ^ 34, ""⟩

lemma sample_amount : (Charge.micros (2 ^ 34) (2 ^ 29)).amount = 2 ^ 63 := by
  have hcount := round53_two_pow 34
  have hunit := round53_two_pow 29
  have hproduct := round53_two_pow 63
  rw [Charge.amount, Int.cast_pow, Int.cast_pow, Int.cast_ofNat, hcount, hunit, ← pow_add]
  exact hproduct

lemma sample_calculate : (Charge.micros (2 ^ 34) (2 ^ 29)).calculate = (-2 ^ 63, none) := by
  have hround : roundAway (2 ^ 63 : ℚ) = 2 ^ 63 := by
    have := roundAway_intCast (2 ^ 63)
    rwa [Int.cast_pow, Int.cast_ofNat] at this
  have hword : toInt64 ((2 ^ 63 : ℤ) : ℚ) = -2 ^ 63 := by
    rw [toInt64_intCast]
    rfl
  simp only [Charge.calculate, sample_amount]
  rw [if_neg (by norm_num), hround, hword]

end Sample

end ShareSub.CostRange

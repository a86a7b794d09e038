import Mathlib

/-!
# Rounding to 53 bits

The arithmetic of floating point numbers with exact rationals for their values. A result is rounded to the nearest
number with 53 bits, ties to even; the exponent is unbounded.
-/
namespace ShareSub.FloatRounding

section Nearest

/-- The nearest integer, and the even one of two. -/
def roundEven (x : ℚ) : ℤ :=
  if x - ⌊x⌋ < 1 / 2 then ⌊x⌋ else if 1 / 2 < x - ⌊x⌋ then ⌊x⌋ + 1 else if ⌊x⌋ % 2 = 0 then ⌊x⌋ else ⌊x⌋ + 1

lemma floor_le_roundEven (x : ℚ) : ⌊x⌋ ≤ roundEven x := by
  unfold roundEven
  split_ifs <;> omega

lemma roundEven_le_floor_add_one (x : ℚ) : roundEven x ≤ ⌊x⌋ + 1 := by
  unfold roundEven
  split_ifs <;> omega

@[simp] lemma roundEven_intCast (n : ℤ) : roundEven n = n := by
  simp [roundEven]

lemma roundEven_mono {x y : ℚ} (h : x ≤ y) : roundEven x ≤ roundEven y := by
  have hfloor : ⌊x⌋ ≤ ⌊y⌋ := Int.floor_le_floor h
  rcases hfloor.eq_or_lt with heq | hlt
  · unfold roundEven
    rw [heq]
    split_ifs <;> first | omega | (exfalso; linarith)
  · have := roundEven_le_floor_add_one x
    have := floor_le_roundEven y
    omega

end Nearest

section Significand

/-- The distance between neighbours of 53 bits at a number. -/
def ulp (x : ℚ) : ℚ := 2 ^ (Int.log 2 |x| - 52)

/-- The nearest number with 53 bits. -/
def round53 (x : ℚ) : ℚ := roundEven (x / ulp x) * ulp x

lemma ulp_pos (x : ℚ) : 0 < ulp x := by
  unfold ulp
  positivity

@[simp] lemma round53_zero : round53 0 = 0 := by
  simp [round53, show roundEven 0 = 0 from mod_cast roundEven_intCast 0]

lemma round53_nonneg {x : ℚ} (h : 0 ≤ x) : 0 ≤ round53 x := by
  have hfloor : 0 ≤ ⌊x / ulp x⌋ := Int.floor_nonneg.mpr (div_nonneg h (ulp_pos x).le)
  have hround := floor_le_roundEven (x / ulp x)
  exact mul_nonneg (by exact_mod_cast hfloor.trans hround) (ulp_pos x).le

/-- A multiple of the distance is not changed. -/
lemma round53_of_mul_ulp {x : ℚ} {n : ℤ} (h : x = n * ulp x) : round53 x = x := by
  have hdiv : x / ulp x = n := by
    rw [div_eq_iff (ulp_pos x).ne']
    exact h
  rw [round53, hdiv, roundEven_intCast]
  exact h.symm

/-- An integer is a multiple of the distance while that divides one. -/
lemma round53_intCast_of_log {n : ℤ} (h : Int.log 2 |(n : ℚ)| ≤ 52) : round53 n = n := by
  have hpow : ((2 : ℚ) ^ (52 - Int.log 2 |(n : ℚ)|).toNat) * ulp n = 1 := by
    unfold ulp
    rw [← zpow_natCast, ← zpow_add₀ (by norm_num), Int.toNat_of_nonneg (by omega)]
    have hzero : 52 - Int.log 2 |(n : ℚ)| + (Int.log 2 |(n : ℚ)| - 52) = 0 := by ring
    rw [hzero, zpow_zero]
  refine round53_of_mul_ulp (n := n * 2 ^ (52 - Int.log 2 |(n : ℚ)|).toNat) ?_
  push_cast
  rw [mul_assoc, hpow, mul_one]

lemma round53_intCast_of_lt {n : ℤ} (hpos : 0 < n) (h : n < 2 ^ 53) : round53 n = n := by
  have hpos' : (0 : ℚ) < n := by exact_mod_cast hpos
  have hlt : (n : ℚ) < ((2 : ℕ) : ℚ) ^ (53 : ℤ) := by
    have : (n : ℚ) < 2 ^ 53 := by exact_mod_cast h
    exact_mod_cast this
  have hlog := (Int.lt_zpow_iff_log_lt (by norm_num) hpos').mp hlt
  refine round53_intCast_of_log ?_
  rw [abs_of_pos hpos']
  omega

lemma round53_two_pow (n : ℕ) : round53 (2 ^ n) = 2 ^ n := by
  refine round53_of_mul_ulp (n := 2 ^ 52) ?_
  have hlog : Int.log 2 |(2 : ℚ) ^ n| = n := by
    rw [abs_of_pos (by positivity), ← zpow_natCast]
    exact_mod_cast Int.log_zpow (R := ℚ) (by norm_num : 1 < 2) n
  rw [ulp, hlog, Int.cast_pow, Int.cast_ofNat, ← zpow_natCast, ← zpow_natCast, ← zpow_add₀ (by norm_num)]
  congr 1
  push_cast
  ring

/-- An integer becomes an integer. -/
lemma exists_round53_intCast (n : ℤ) : ∃ m : ℤ, round53 n = m := by
  by_cases hsmall : Int.log 2 |(n : ℚ)| ≤ 52
  · exact ⟨n, round53_intCast_of_log hsmall⟩
  · have hnat : ulp n = ((2 ^ (Int.log 2 |(n : ℚ)| - 52).toNat : ℤ) : ℚ) := by
      unfold ulp
      push_cast
      rw [← zpow_natCast, Int.toNat_of_nonneg (by omega)]
    refine ⟨roundEven (n / ulp n) * 2 ^ (Int.log 2 |(n : ℚ)| - 52).toNat, ?_⟩
    rw [round53]
    nth_rewrite 2 [hnat]
    push_cast
    rfl

lemma log_bounds {x : ℚ} (h : 0 < x) : (2 : ℚ) ^ Int.log 2 |x| ≤ x ∧ x < 2 ^ (Int.log 2 |x| + 1) := by
  rw [abs_of_pos h]
  exact ⟨Int.zpow_log_le_self (by norm_num) h, Int.lt_zpow_succ_log_self (by norm_num) x⟩

/-- The rounded number stays between the powers of two around it. -/
lemma round53_bounds {x : ℚ} (h : 0 < x) : (2 : ℚ) ^ Int.log 2 |x| ≤ round53 x ∧ round53 x ≤ 2 ^ (Int.log 2 |x| + 1) := by
  obtain ⟨hlow, hhigh⟩ := log_bounds h
  have hulp := ulp_pos x
  have hpow : (2 : ℚ) ^ Int.log 2 |x| = ((2 ^ 52 : ℤ) : ℚ) * ulp x := by
    rw [ulp, Int.cast_pow, Int.cast_ofNat, ← zpow_natCast, ← zpow_add₀ (by norm_num)]
    congr 1
    push_cast
    ring
  have hpow' : (2 : ℚ) ^ (Int.log 2 |x| + 1) = ((2 ^ 53 : ℤ) : ℚ) * ulp x := by
    rw [ulp, Int.cast_pow, Int.cast_ofNat, ← zpow_natCast, ← zpow_add₀ (by norm_num)]
    congr 1
    push_cast
    ring
  rw [hpow] at hlow ⊢
  rw [hpow'] at hhigh ⊢
  have hround := roundEven_mono ((le_div_iff₀ hulp).mpr hlow)
  have hround' := roundEven_mono ((div_le_iff₀ hulp).mpr hhigh.le)
  rw [roundEven_intCast] at hround hround'
  exact ⟨mul_le_mul_of_nonneg_right (by exact_mod_cast hround) hulp.le,
    mul_le_mul_of_nonneg_right (by exact_mod_cast hround') hulp.le⟩

theorem round53_mono {x y : ℚ} (hx : 0 < x) (h : x ≤ y) : round53 x ≤ round53 y := by
  have hy : 0 < y := hx.trans_le h
  have hlog : Int.log 2 |x| ≤ Int.log 2 |y| := by
    rw [abs_of_pos hx, abs_of_pos hy]
    exact Int.log_mono_right hx h
  rcases hlog.eq_or_lt with heq | hlt
  · have hulp : ulp x = ulp y := by rw [ulp, ulp, heq]
    rw [round53, round53, hulp]
    refine mul_le_mul_of_nonneg_right ?_ (ulp_pos y).le
    exact_mod_cast roundEven_mono (div_le_div_of_nonneg_right h (ulp_pos y).le)
  · calc round53 x ≤ 2 ^ (Int.log 2 |x| + 1) := (round53_bounds hx).2
      _ ≤ 2 ^ Int.log 2 |y| := zpow_le_zpow_right₀ (by norm_num) (by omega)
      _ ≤ round53 y := (round53_bounds hy).1

end Significand

section Conversions

/-- `math.Round`, half away from zero. -/
def roundAway (x : ℚ) : ℤ := if 0 ≤ x then ⌊x + 1 / 2⌋ else -⌊-x + 1 / 2⌋

/-- The integer towards zero. -/
def truncate (x : ℚ) : ℤ := if 0 ≤ x then ⌊x⌋ else ⌈x⌉

/-- The conversion to `int64`, with the result of the processor for what is out of range. -/
def toInt64 (x : ℚ) : ℤ := if -2 ^ 63 ≤ truncate x ∧ truncate x < 2 ^ 63 then truncate x else -2 ^ 63

@[simp] lemma roundAway_intCast (n : ℤ) : roundAway n = n := by
  unfold roundAway
  split_ifs
  · rw [Int.floor_eq_iff]
    constructor <;> linarith
  · rw [neg_eq_iff_eq_neg, Int.floor_eq_iff]
    push_cast
    constructor <;> linarith

@[simp] lemma truncate_intCast (n : ℤ) : truncate n = n := by
  unfold truncate
  split_ifs <;> simp

lemma toInt64_intCast (n : ℤ) : toInt64 n = if -2 ^ 63 ≤ n ∧ n < 2 ^ 63 then n else -2 ^ 63 := by
  rw [toInt64, truncate_intCast]

lemma toInt64_bounds {x : ℚ} {n : ℤ} (h : 0 ≤ x) (hn : x ≤ n) (hlt : n < 2 ^ 63) : 0 ≤ toInt64 x ∧ toInt64 x ≤ n := by
  have hlow : 0 ≤ ⌊x⌋ := Int.floor_nonneg.mpr h
  have hhigh : ⌊x⌋ ≤ n := by
    have := Int.floor_le_floor hn
    rwa [Int.floor_intCast] at this
  have htrunc : truncate x = ⌊x⌋ := if_pos h
  rw [toInt64, htrunc, if_pos ⟨by omega, by omega⟩]
  exact ⟨hlow, hhigh⟩

end Conversions

section Special

/-- The values that a number can be read as. -/
inductive Float64
  | nan
  | inf (negative : Bool)
  | finite (value : ℚ)
  deriving DecidableEq

/-- The comparison with a number; one with no number is false. -/
def Float64.lt (c : ℚ) : Float64 → Bool
  | .nan => false
  | .inf negative => negative
  | .finite value => value < c

def Float64.gt (c : ℚ) : Float64 → Bool
  | .nan => false
  | .inf negative => !negative
  | .finite value => c < value

/-- The product with a positive number. -/
def Float64.scale (c : ℚ) : Float64 → Float64
  | .finite value => .finite (round53 (value * c))
  | special => special

def Float64.toInt64 : Float64 → ℤ
  | .finite value => FloatRounding.toInt64 value
  | _ => -2 ^ 63

end Special

end ShareSub.FloatRounding

import Mathlib
import ShareSub.FloatRounding
import ShareSub.ProtectionBackoff
import ShareSub.QuotaModel

/-!
# The quota headers of a response

The embedding of `application/quota.go`. Instants are in nanoseconds. What `strconv.ParseFloat` reads from a text is a
parameter; `headers` is the lookup of a header, the empty text where there is none.
-/
namespace ShareSub.QuotaHeaders

open FloatRounding
open HistoryModel (minute)
open ProtectionModel (atoi second)
open GatewayModel (trimSpace)
open QuotaModel (WindowType QuotaSignal)

section Functions

/-- `rateWindow`. -/
structure RateWindow where
  usedPercent : Float64
  resetAfter : ℤ
  minutes : ℤ

def percentMicros : ℚ := 1000000

/-- The product of two durations, which wraps around. -/
def duration (n unit : ℤ) : ℤ := Int.bmod (n * unit) (2 ^ 64)

def parseWindow (parseFloat : String → Option Float64) (headers : String → String) (stem : String) : RateWindow :=
  match parseFloat (trimSpace (headers (stem ++ "-used-percent"))),
    atoi (trimSpace (headers (stem ++ "-reset-after-seconds"))),
    atoi (trimSpace (headers (stem ++ "-window-minutes"))) with
  | some used, some reset, some minutes => ⟨used, reset, minutes⟩
  | _, _, _ => ⟨.finite 0, 0, -1⟩

/-- `observedAt.Truncate(time.Second)`. -/
def truncateSecond (observedAt : ℤ) : ℤ := observedAt - observedAt % second

def windowKind (minutes : ℤ) : Option WindowType :=
  if minutes = 300 then some .window5H else if minutes = 10080 then some .window7D else none

/-- The body of the loop over the windows; `none` is `continue`. -/
def signalOf (window : RateWindow) (observedAt : ℤ) : Option QuotaSignal :=
  match windowKind window.minutes with
  | none => none
  | some kind =>
    if window.usedPercent.lt 0 ∨ window.usedPercent.gt 100 ∨ window.resetAfter ≤ 0 then none
    else
      let resetAt := truncateSecond observedAt + duration window.resetAfter second
      some { windowType := kind
             windowStart := resetAt + duration (-window.minutes) minute
             resetAt := resetAt
             accountUsedMicros := (window.usedPercent.scale percentMicros).toInt64 }

def parseCodexQuotaHeaders (parseFloat : String → Option Float64) (headers : String → String) (observedAt : ℤ) :
    List QuotaSignal :=
  [parseWindow parseFloat headers "x-codex-primary", parseWindow parseFloat headers "x-codex-secondary"].filterMap
    fun window => signalOf window observedAt

end Functions

section Sanity

/-- The length of a window. -/
def windowLength : WindowType → ℤ
  | .window5H => 5 * 60 * minute
  | .window7D => 7 * 24 * 60 * minute

structure Sane (observedAt : ℤ) (signal : QuotaSignal) : Prop where
  used_nonneg : 0 ≤ signal.accountUsedMicros
  used_le : signal.accountUsedMicros ≤ 100000000
  ahead : truncateSecond observedAt < signal.resetAt
  length : signal.resetAt - signal.windowStart = windowLength signal.windowType

/-- The seconds in nanoseconds, taken modulo `2^64`, are zero or have the sign bit. -/
def WrapsBack (seconds : ℤ) : Prop := seconds * second % 2 ^ 64 = 0 ∨ 2 ^ 63 ≤ seconds * second % 2 ^ 64

/-- A window of a known length whose percentage is no number, or is one in range together with a reset that wraps around
to no time ahead. -/
def Poisoned (window : RateWindow) : Prop :=
  (window.minutes = 300 ∨ window.minutes = 10080) ∧ 0 < window.resetAfter ∧
    (window.usedPercent = .nan ∨
      ∃ used, window.usedPercent = .finite used ∧ 0 ≤ used ∧ used ≤ 100 ∧ WrapsBack window.resetAfter)

variable {window : RateWindow} {observedAt : ℤ} {kind : WindowType}

lemma duration_pos_iff (seconds : ℤ) : 0 < duration seconds second ↔ ¬ WrapsBack seconds := by
  unfold duration WrapsBack
  generalize seconds * second = n
  have hlow : (0 : ℤ) ≤ n % 2 ^ 64 := Int.emod_nonneg _ (by norm_num)
  have hhigh : n % 2 ^ 64 < 2 ^ 64 := Int.emod_lt_of_pos _ (by norm_num)
  rw [Int.bmod_def]
  norm_num at hlow hhigh ⊢
  split_ifs with h <;> omega

lemma windowKind_eq_some : windowKind window.minutes = some kind →
    (window.minutes = 300 ∨ window.minutes = 10080) ∧ duration (-window.minutes) minute = -windowLength kind := by
  intro h
  unfold windowKind at h
  split_ifs at h with h5 h7
  · cases h
    rw [h5]
    exact ⟨Or.inl rfl, by decide⟩
  · cases h
    rw [h7]
    exact ⟨Or.inr rfl, by decide⟩

/-- A percentage in range becomes millionths in range. -/
lemma scale_bounds {used : ℚ} (hlow : 0 ≤ used) (hhigh : used ≤ 100) :
    0 ≤ (Float64.scale percentMicros (.finite used)).toInt64 ∧
      (Float64.scale percentMicros (.finite used)).toInt64 ≤ 100000000 := by
  have hnonneg : 0 ≤ used * percentMicros := mul_nonneg hlow (by norm_num [percentMicros])
  have hround : round53 (used * percentMicros) ≤ ((100000000 : ℤ) : ℚ) := by
    rcases hnonneg.eq_or_lt with hzero | hpos
    · rw [← hzero, round53_zero]
      norm_num
    · have hle : used * percentMicros ≤ ((100000000 : ℤ) : ℚ) := by
        unfold percentMicros
        push_cast
        linarith
      have hmono := round53_mono hpos hle
      rwa [round53_intCast_of_lt (by norm_num) (by norm_num)] at hmono
  exact toInt64_bounds (round53_nonneg hnonneg) hround (by norm_num)

/-- The percentage passes the check of the loop, which no comparison with NaN fails. -/
def Passes (used : Float64) : Prop := used.lt 0 = false ∧ used.gt 100 = false

lemma passes_cases {used : Float64} (h : Passes used) : used = .nan ∨ ∃ q, used = .finite q ∧ 0 ≤ q ∧ q ≤ 100 := by
  obtain ⟨hlt, hgt⟩ := h
  cases used with
  | nan => exact Or.inl rfl
  | inf negative =>
    cases negative
    · simp [Float64.gt] at hgt
    · simp [Float64.lt] at hlt
  | finite q =>
    simp only [Float64.lt, Float64.gt, decide_eq_false_iff_not, not_lt] at hlt hgt
    exact Or.inr ⟨q, rfl, hlt, hgt⟩

lemma passes_finite {q : ℚ} (hlow : 0 ≤ q) (hhigh : q ≤ 100) : Passes (.finite q) := by
  simp [Passes, Float64.lt, Float64.gt, hlow, hhigh]

lemma signalOf_eq_some {signal : QuotaSignal} : signalOf window observedAt = some signal ↔
    ∃ kind, windowKind window.minutes = some kind ∧ Passes window.usedPercent ∧ 0 < window.resetAfter ∧
      signal = ⟨kind, truncateSecond observedAt + duration window.resetAfter second + duration (-window.minutes) minute,
        truncateSecond observedAt + duration window.resetAfter second,
        (window.usedPercent.scale percentMicros).toInt64⟩ := by
  unfold signalOf Passes
  cases windowKind window.minutes with
  | none => simp
  | some kind =>
    dsimp only
    split_ifs with hskip
    · refine iff_of_false (by simp) ?_
      rintro ⟨-, -, ⟨hlt, hgt⟩, hreset, -⟩
      rw [hlt, hgt] at hskip
      simp only [Bool.false_eq_true, false_or] at hskip
      omega
    · simp only [not_or, Bool.not_eq_true, not_le] at hskip
      simp [hskip, eq_comm]

/-- The millionths are out of range for NaN only. -/
lemma used_sane_iff {used : Float64} (h : Passes used) :
    (0 ≤ (used.scale percentMicros).toInt64 ∧ (used.scale percentMicros).toInt64 ≤ 100000000) ↔ used ≠ .nan := by
  rcases passes_cases h with rfl | ⟨q, rfl, hlow, hhigh⟩
  · have hneg : (Float64.nan.scale percentMicros).toInt64 = -2 ^ 63 := rfl
    rw [hneg]
    exact iff_of_false (by norm_num) (by simp)
  · exact iff_of_true (scale_bounds hlow hhigh) (by simp)

lemma poisoned_iff : Poisoned window ↔
    (window.minutes = 300 ∨ window.minutes = 10080) ∧ Passes window.usedPercent ∧ 0 < window.resetAfter ∧
      (window.usedPercent = .nan ∨ WrapsBack window.resetAfter) := by
  constructor
  · rintro ⟨hminutes, hreset, hnan | ⟨q, hq, hlow, hhigh, hwraps⟩⟩
    · exact ⟨hminutes, hnan ▸ ⟨rfl, rfl⟩, hreset, Or.inl hnan⟩
    · exact ⟨hminutes, hq ▸ passes_finite hlow hhigh, hreset, Or.inr hwraps⟩
  · rintro ⟨hminutes, hpasses, hreset, hbad⟩
    refine ⟨hminutes, hreset, ?_⟩
    rcases passes_cases hpasses with hnan | ⟨q, hq, hlow, hhigh⟩
    · exact Or.inl hnan
    · rcases hbad with hnan | hwraps
      · exact Or.inl hnan
      · exact Or.inr ⟨q, hq, hlow, hhigh, hwraps⟩

/-- A window gives a signal that is not sane exactly when it is poisoned. -/
lemma sane_iff (window : RateWindow) (observedAt : ℤ) :
    (∀ signal, signalOf window observedAt = some signal → Sane observedAt signal) ↔ ¬ Poisoned window := by
  rw [poisoned_iff]
  constructor
  · rintro h ⟨hminutes, hpasses, hreset, hbad⟩
    obtain ⟨kind, hkind⟩ : ∃ kind, windowKind window.minutes = some kind := by
      rcases hminutes with hminutes | hminutes <;> rw [hminutes]
      · exact ⟨.window5H, rfl⟩
      · exact ⟨.window7D, rfl⟩
    have hsane := h _ (signalOf_eq_some.mpr ⟨kind, hkind, hpasses, hreset, rfl⟩)
    rcases hbad with hnan | hwraps
    · exact (used_sane_iff hpasses).mp ⟨hsane.used_nonneg, hsane.used_le⟩ hnan
    · have hahead := hsane.ahead
      have hpos : ¬ 0 < duration window.resetAfter second := fun hpos => (duration_pos_iff _).mp hpos hwraps
      dsimp only at hahead
      omega
  · intro h signal hsignal
    obtain ⟨kind, hkind, hpasses, hreset, rfl⟩ := signalOf_eq_some.mp hsignal
    obtain ⟨hminutes, hlength⟩ := windowKind_eq_some hkind
    have hnan : window.usedPercent ≠ .nan := fun hnan => h ⟨hminutes, hpasses, hreset, Or.inl hnan⟩
    have hpos : 0 < duration window.resetAfter second :=
      (duration_pos_iff _).mpr fun hwraps => h ⟨hminutes, hpasses, hreset, Or.inr hwraps⟩
    obtain ⟨hnonneg, hle⟩ := (used_sane_iff hpasses).mpr hnan
    refine ⟨hnonneg, hle, ?_, ?_⟩
    · dsimp only
      omega
    · dsimp only
      rw [hlength]
      ring

/-- The signals of a response are sane exactly when neither of its two windows is poisoned. -/
theorem signals_sane_iff (parseFloat : String → Option Float64) (headers : String → String) (observedAt : ℤ) :
    (∀ signal ∈ parseCodexQuotaHeaders parseFloat headers observedAt, Sane observedAt signal) ↔
      ∀ stem ∈ ["x-codex-primary", "x-codex-secondary"], ¬ Poisoned (parseWindow parseFloat headers stem) := by
  have hwindows : (∀ signal ∈ parseCodexQuotaHeaders parseFloat headers observedAt, Sane observedAt signal) ↔
      ∀ stem ∈ ["x-codex-primary", "x-codex-secondary"], ∀ signal,
        signalOf (parseWindow parseFloat headers stem) observedAt = some signal → Sane observedAt signal := by
    simp only [parseCodexQuotaHeaders, List.mem_filterMap, List.mem_cons, List.not_mem_nil, or_false]
    constructor
    · rintro h stem (rfl | rfl) signal hsignal
      · exact h signal ⟨_, Or.inl rfl, hsignal⟩
      · exact h signal ⟨_, Or.inr rfl, hsignal⟩
    · rintro h signal ⟨window, rfl | rfl, hsignal⟩
      · exact h _ (Or.inl rfl) signal hsignal
      · exact h _ (Or.inr rfl) signal hsignal
  rw [hwindows]
  exact forall₂_congr fun stem _ => sane_iff _ observedAt

end Sanity

section Sample

/-- The parser on the texts of the samples. -/
def sampleParseFloat : String → Option Float64
  | "NaN" => some .nan
  | "50" => some (.finite 50)
  | _ => none

def sampleHeaders (used seconds name : String) : String :=
  if name = "x-codex-primary-used-percent" then used
  else if name = "x-codex-primary-reset-after-seconds" then seconds
  else if name = "x-codex-primary-window-minutes" then "300"
  else ""

lemma not_sane_of_poisoned {headers : String → String}
    (h : Poisoned (parseWindow sampleParseFloat headers "x-codex-primary")) :
    ¬ ∀ signal ∈ parseCodexQuotaHeaders sampleParseFloat headers 0, Sane 0 signal := by
  intro hsane
  refine (sane_iff _ 0).mp ?_ h
  intro signal hsignal
  exact hsane signal (List.mem_filterMap.mpr ⟨_, List.mem_cons_self .., hsignal⟩)

/-- A percentage that is no number, and a reset that wraps around. -/
theorem signals_of_special_values :
    ¬ (∀ signal ∈ parseCodexQuotaHeaders sampleParseFloat (sampleHeaders "NaN" "60") 0, Sane 0 signal) ∧
      ¬ ∀ signal ∈ parseCodexQuotaHeaders sampleParseFloat (sampleHeaders "50" "9223372037") 0, Sane 0 signal := by
  constructor
  · refine not_sane_of_poisoned ⟨Or.inl ?_, ?_, Or.inl ?_⟩
    · decide
    · decide
    · decide
  · refine not_sane_of_poisoned ⟨Or.inl ?_, ?_, Or.inr ⟨50, ?_, by norm_num, by norm_num, Or.inr ?_⟩⟩
    · decide
    · decide
    · decide
    · decide

end Sample

end ShareSub.QuotaHeaders

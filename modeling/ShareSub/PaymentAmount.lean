import Mathlib
import ShareSub.PaymentModel

/-!
# The amounts of a payment

The texts that `ParseAmount` accepts and their values, and the text that a checkout writes for an amount.
-/
namespace ShareSub.PaymentAmount

open ProtectionModel (atoi)
open PaymentModel

section Digits

/-- Decimal digits, all of them ASCII. -/
def Digits (l : Text) : Prop := ∀ c ∈ l, c.isDigit = true

variable {l : Text} {c : Char}

lemma digit_bounds (h : c.isDigit = true) : 48 ≤ c.toNat ∧ c.toNat ≤ 57 := by
  simp only [Char.isDigit, Bool.and_eq_true, decide_eq_true_eq, ge_iff_le, UInt32.le_iff_toNat_le] at h
  exact h

lemma foldl_digits (hl : Digits l) (n : ℕ) :
    l.foldl (fun (n : ℤ) d => 10 * n + (d.toNat - 48 : ℤ)) n = (Nat.ofDigitChars 10 l n : ℤ) := by
  induction l generalizing n with
  | nil => simp
  | cons c l ih =>
    have hc := (digit_bounds (hl c (List.mem_cons_self ..))).1
    have hcast : 10 * (n : ℤ) + (c.toNat - 48 : ℤ) = ((10 * n + (c.toNat - '0'.toNat) : ℕ) : ℤ) := by
      have hzero : '0'.toNat = 48 := rfl
      rw [hzero]
      omega
    rw [List.foldl_cons, hcast, ih fun d hd => hl d (List.mem_cons_of_mem c hd), Nat.ofDigitChars_cons]

lemma ofDigitChars_lt (hl : Digits l) : Nat.ofDigitChars 10 l 0 < 10 ^ l.length := by
  induction l with
  | nil => simp
  | cons c l ih =>
    have hc := (digit_bounds (hl c (List.mem_cons_self ..))).2
    have hrest := ih fun d hd => hl d (List.mem_cons_of_mem c hd)
    have hzero : '0'.toNat = 48 := rfl
    rw [Nat.ofDigitChars_cons, Nat.ofDigitChars_eq_ofDigitChars_zero, List.length_cons, pow_succ]
    have hdigit : 10 ^ l.length * (10 * 0 + (c.toNat - '0'.toNat)) ≤ 10 ^ l.length * 9 :=
      Nat.mul_le_mul_left _ (by omega)
    omega

/-- Digits that fit into the machine word are read as they are written. -/
lemma atoi_digits (hne : l ≠ []) (hl : Digits l) (hlength : l.length ≤ 18) :
    atoi (String.ofList l) = some (Nat.ofDigitChars 10 l 0 : ℤ) := by
  cases l with
  | nil => exact absurd rfl hne
  | cons c l =>
    have hc := hl c (List.mem_cons_self ..)
    have hplus : c ≠ '+' := by
      rintro rfl
      exact absurd hc (by decide)
    have hminus : c ≠ '-' := by
      rintro rfl
      exact absurd hc (by decide)
    have hall : (c :: l).all Char.isDigit = true := List.all_eq_true.mpr hl
    have hlt : Nat.ofDigitChars 10 (c :: l) 0 < 10 ^ 18 :=
      (ofDigitChars_lt hl).trans_le (Nat.pow_le_pow_right (by norm_num) hlength)
    have hfold := foldl_digits hl 0
    rw [Nat.cast_zero] at hfold
    unfold atoi
    dsimp only
    rw [String.toList_ofList]
    split
    · next heq => exact absurd (List.cons.inj heq).1 hplus
    · next heq => exact absurd (List.cons.inj heq).1 hminus
    · have hhead : ¬ (c :: l).head? = some '-' := by simpa using hminus
      rw [if_pos ⟨hne, hall⟩, if_neg hhead, hfold, if_pos (by omega)]

end Digits

section Parsing

/-- The text is one to nine digits, or those with a point and one or two digits behind it. -/
structure Spells (value whole fraction : Text) : Prop where
  text : value = whole ∧ fraction = [] ∨ value = whole ++ '.' :: fraction ∧ fraction ≠ []
  whole_ne : whole ≠ []
  whole_le : whole.length ≤ 9
  fraction_le : fraction.length ≤ 2
  whole_digits : Digits whole
  fraction_digits : Digits fraction

/-- The number that the digits before and behind a point denote. -/
def decimalValue (whole fraction : Text) : ℚ :=
  Nat.ofDigitChars 10 whole 0 + Nat.ofDigitChars 10 fraction 0 / 10 ^ fraction.length

variable {value whole fraction : Text} {n : ℤ}

lemma point_not_mem (h : Digits whole) : '.' ∉ whole := fun hmem => absurd (h '.' hmem) (by decide)

/-- The hundredths that the fraction stands for. -/
def cents (fraction : Text) : ℕ :=
  if fraction.length = 1 then Nat.ofDigitChars 10 fraction 0 * 10 else Nat.ofDigitChars 10 fraction 0

lemma cents_eq (h : fraction.length ≤ 2) :
    (cents fraction : ℚ) = 100 * (Nat.ofDigitChars 10 fraction 0 / 10 ^ fraction.length) := by
  unfold cents
  have hcases : fraction.length = 0 ∨ fraction.length = 1 ∨ fraction.length = 2 := by omega
  rcases hcases with hlength | hlength | hlength
  · rw [List.length_eq_zero_iff.mp hlength]
    simp
  · rw [if_pos hlength, hlength]
    push_cast
    ring
  · rw [if_neg (by omega), hlength]
    ring

lemma hundred_mul_decimalValue (h : fraction.length ≤ 2) :
    100 * decimalValue whole fraction = (Nat.ofDigitChars 10 whole 0 * 100 + cents fraction : ℕ) := by
  push_cast
  rw [cents_eq h, decimalValue]
  ring

lemma parseAmount_of_spells (h : Spells value whole fraction) :
    parseAmount value = .ok ((Nat.ofDigitChars 10 whole 0 * 100 + cents fraction : ℕ) : ℤ) := by
  have hwhole : atoi (String.ofList whole) = some (Nat.ofDigitChars 10 whole 0 : ℤ) :=
    atoi_digits h.whole_ne h.whole_digits (h.whole_le.trans (by norm_num))
  rcases h.text with ⟨rfl, rfl⟩ | ⟨rfl, hne⟩
  · have hparts : value.splitOn '.' = [value] := List.splitOn_eq_singleton (point_not_mem h.whole_digits)
    have hdigits : ¬ ∃ part ∈ [value], part = [] ∨ ∃ character ∈ part, character.isDigit = false := by
      rintro ⟨part, hpart, hnil | ⟨c, hc, hdigit⟩⟩
      · exact h.whole_ne (List.mem_singleton.mp hpart ▸ hnil)
      · rw [List.mem_singleton.mp hpart] at hc
        exact absurd (h.whole_digits c hc) (by simp [hdigit])
    have hfirst : ¬ (2 < [value].length ∨ value = [] ∨ 9 < value.length) := by
      simp [h.whole_ne, h.whole_le]
    unfold parseAmount
    simp only [hparts, List.headD_cons, if_neg hfirst, if_neg hdigits, hwhole]
    simp [cents]
  · have hfraction : atoi (String.ofList fraction) = some (Nat.ofDigitChars 10 fraction 0 : ℤ) :=
      atoi_digits hne h.fraction_digits (h.fraction_le.trans (by norm_num))
    have hparts : (whole ++ '.' :: fraction).splitOn '.' = [whole, fraction] := by
      rw [List.splitOn_append_cons_self_of_not_mem (point_not_mem h.whole_digits),
        List.splitOn_eq_singleton (point_not_mem h.fraction_digits)]
    have hdigits : ¬ ∃ part ∈ [whole, fraction], part = [] ∨ ∃ character ∈ part, character.isDigit = false := by
      rintro ⟨part, hpart, hbad⟩
      have hpart' : part = whole ∨ part = fraction := by simpa using hpart
      rcases hpart' with rfl | rfl
      · rcases hbad with hnil | ⟨c, hc, hdigit⟩
        · exact h.whole_ne hnil
        · exact absurd (h.whole_digits c hc) (by simp [hdigit])
      · rcases hbad with hnil | ⟨c, hc, hdigit⟩
        · exact hne hnil
        · exact absurd (h.fraction_digits c hc) (by simp [hdigit])
    have hfirst : ¬ (2 < [whole, fraction].length ∨ whole = [] ∨ 9 < whole.length) := by
      simp [h.whole_ne, h.whole_le]
    have hprecision : ¬ 2 < fraction.length := not_lt.mpr h.fraction_le
    unfold parseAmount
    simp only [hparts, List.headD_cons, if_neg hfirst, if_neg hdigits, hwhole, if_neg hprecision, hfraction, cents]
    split_ifs <;> simp

lemma digits_of_checked {parts : List Text}
    (h : ¬ ∃ part ∈ parts, part = [] ∨ ∃ character ∈ part, character.isDigit = false) :
    ∀ part ∈ parts, part ≠ [] ∧ Digits part := by
  intro part hpart
  refine ⟨fun hnil => h ⟨part, hpart, Or.inl hnil⟩, ?_⟩
  intro c hc
  by_contra hdigit
  exact h ⟨part, hpart, Or.inr ⟨c, hc, Bool.eq_false_of_not_eq_true hdigit⟩⟩

lemma spells_of_parseAmount (h : parseAmount value = .ok n) : ∃ whole fraction, Spells value whole fraction := by
  have htext : ['.'].intercalate (value.splitOn '.') = value := List.intercalate_splitOn '.'
  unfold parseAmount at h
  dsimp only at h
  generalize value.splitOn '.' = parts at h htext
  split_ifs at h with hfirst hdigits
  have hchecked := digits_of_checked hdigits
  push Not at hfirst
  obtain ⟨hcount, hne, hle⟩ := hfirst
  match parts with
  | [] => exact absurd rfl hne
  | [whole] =>
    refine ⟨whole, [], Or.inl ⟨?_, rfl⟩, hne, hle, by simp, (hchecked whole (by simp)).2, ?_⟩
    · simpa using htext.symm
    · intro c hc
      cases hc
  | [whole, fraction] =>
    have hprecision : fraction.length ≤ 2 := by
      by_contra hlong
      simp only [if_pos (not_le.mp hlong)] at h
      split at h <;> cases h
    obtain ⟨hfraction, hfractionDigits⟩ := hchecked fraction (by simp)
    refine ⟨whole, fraction, Or.inr ⟨?_, hfraction⟩, hne, hle, hprecision, (hchecked whole (by simp)).2, hfractionDigits⟩
    rw [← htext]
    simp [List.intercalate]
  | _ :: _ :: _ :: _ =>
    simp only [List.length_cons] at hcount
    omega

end Parsing

section Money

lemma decimal_natCast (n : ℕ) : decimal n = Nat.toDigits 10 n := by
  unfold decimal
  rw [if_neg (by omega), Int.natAbs_natCast]

lemma decimal02_natCast {n : ℕ} (h : n < 100) :
    Digits (decimal02 n) ∧ (decimal02 n).length = 2 ∧ Nat.ofDigitChars 10 (decimal02 n) 0 = n := by
  have hdigits : Digits (Nat.toDigits 10 n) := fun c hc => Nat.isDigit_of_mem_toDigits (by decide) (by decide) hc
  have hpos : 0 < (Nat.toDigits 10 n).length := Nat.length_toDigits_pos
  have hle : (Nat.toDigits 10 n).length ≤ 2 := (Nat.length_toDigits_le_iff (by decide) (by decide)).mpr h
  have hvalue : Nat.ofDigitChars 10 (Nat.toDigits 10 n) 0 = n := Nat.ofDigitChars_ten_toDigits
  unfold decimal02
  rw [decimal_natCast]
  split_ifs with hshort
  · refine ⟨?_, ?_, ?_⟩
    · intro c hc
      rcases List.mem_cons.mp hc with rfl | hc
      · decide
      · exact hdigits c hc
    · rw [List.length_cons]
      omega
    · rw [Nat.ofDigitChars_cons]
      simp [hvalue]
  · exact ⟨hdigits, by omega, hvalue⟩

/-- The text of an amount in the range of the parser has its digits before and behind the point. -/
lemma spells_money {c : ℕ} (h : c < 10 ^ 11) :
    Spells (money c) (Nat.toDigits 10 (c / 100)) (decimal02 ((c % 100 : ℕ) : ℤ)) := by
  obtain ⟨hdigits, hlength, -⟩ := decimal02_natCast (Nat.mod_lt c (by norm_num : 0 < 100))
  have htext : money c = Nat.toDigits 10 (c / 100) ++ '.' :: decimal02 ((c % 100 : ℕ) : ℤ) := by
    have hdiv : (c : ℤ).tdiv 100 = ((c / 100 : ℕ) : ℤ) := by
      rw [Int.tdiv_eq_ediv_of_nonneg (by omega)]
      omega
    have hmod : (c : ℤ).tmod 100 = ((c % 100 : ℕ) : ℤ) := by
      rw [Int.tmod_eq_emod_of_nonneg (by omega)]
      omega
    rw [money, hdiv, hmod, decimal_natCast]
  refine ⟨Or.inr ⟨htext, ?_⟩, Nat.toDigits_ne_nil, ?_, hlength.le, ?_, hdigits⟩
  · intro hnil
    rw [hnil] at hlength
    cases hlength
  · rw [Nat.length_toDigits_le_iff (by decide) (by decide)]
    omega
  · exact fun c hc => Nat.isDigit_of_mem_toDigits (by decide) (by decide) hc

lemma parseAmount_money {c : ℕ} (h : c < 10 ^ 11) : parseAmount (money c) = .ok (c : ℤ) := by
  obtain ⟨-, hlength, hvalue⟩ := decimal02_natCast (Nat.mod_lt c (by norm_num : 0 < 100))
  rw [parseAmount_of_spells (spells_money h), Nat.ofDigitChars_ten_toDigits, cents, if_neg (by omega), hvalue]
  congr 2
  omega

/-- `ParseAmount` accepts the texts of the grammar and no others, with a hundred times their value, and it reads back
what a checkout writes. -/
theorem amounts_exact :
    (∀ value, (∃ n, parseAmount value = .ok n) ↔ ∃ whole fraction, Spells value whole fraction) ∧
    (∀ value whole fraction n, Spells value whole fraction → parseAmount value = .ok n →
      (n : ℚ) = 100 * decimalValue whole fraction) ∧
    ∀ c : ℤ, 0 ≤ c → c < 10 ^ 11 → parseAmount (money c) = .ok c := by
  refine ⟨?_, ?_, ?_⟩
  · intro value
    constructor
    · rintro ⟨n, hn⟩
      exact spells_of_parseAmount hn
    · rintro ⟨whole, fraction, h⟩
      exact ⟨_, parseAmount_of_spells h⟩
  · intro value whole fraction n h hn
    rw [parseAmount_of_spells h] at hn
    cases hn
    rw [hundred_mul_decimalValue h.fraction_le]
    push_cast
    ring
  · intro c hlow hhigh
    lift c to ℕ using hlow
    exact parseAmount_money (by exact_mod_cast hhigh)

end Money

end ShareSub.PaymentAmount

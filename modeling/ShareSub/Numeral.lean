import Mathlib

/-!
# Texts that end in a number

The decimal digits at the end of a text are determined by it, once what stands before them
does not end in a digit itself.
-/
namespace ShareSub

/-- The text is empty or its last character is no digit. -/
def NoDigitLast (w : List Char) : Prop := ∀ c ∈ w.getLast?, c.isDigit = false

lemma toDigits_all_isDigit (n : ℕ) : ∀ c ∈ (Nat.toDigits 10 n).reverse, c.isDigit = true := by
  intro c hc
  exact Nat.isDigit_of_mem_toDigits (by decide) (by decide) (List.mem_reverse.mp hc)

/-- Reading digits from the end of such a text stops at the number. -/
lemma dropWhile_reverse_numeral {w : List Char} (hw : NoDigitLast w) (n : ℕ) :
    (w ++ Nat.toDigits 10 n).reverse.dropWhile Char.isDigit = w.reverse := by
  rw [List.reverse_append, List.dropWhile_append_of_pos (toDigits_all_isDigit n)]
  cases hrev : w.reverse with
  | nil => rfl
  | cons c cs =>
    have hlast : w.getLast? = some c := by rw [← List.head?_reverse, hrev, List.head?_cons]
    rw [List.dropWhile_cons_of_neg]
    simp [hw c hlast]

theorem numeral_suffix_inj {w w' : List Char} (hw : NoDigitLast w) (hw' : NoDigitLast w') {m n : ℕ}
    (h : w ++ Nat.toDigits 10 m = w' ++ Nat.toDigits 10 n) : w = w' ∧ m = n := by
  have hdrop := congrArg (fun l => l.reverse.dropWhile Char.isDigit) h
  simp only [dropWhile_reverse_numeral hw, dropWhile_reverse_numeral hw'] at hdrop
  obtain rfl := List.reverse_injective hdrop
  refine ⟨rfl, Nat.repr_injective ?_⟩
  apply String.toList_injective
  simpa using List.append_cancel_left h

/-- A text that ends in a number does not end in a letter. -/
theorem numeral_suffix_ne {w v : List Char} {c : Char} {n : ℕ} (hc : c.isDigit = false) :
    w ++ Nat.toDigits 10 n ≠ v ++ [c] := by
  intro h
  have hlast := congrArg List.getLast? h
  rw [List.getLast?_append_of_ne_nil _ Nat.toDigits_ne_nil, List.getLast?_concat] at hlast
  have hmem := List.mem_of_getLast? hlast
  rw [Nat.isDigit_of_mem_toDigits (by decide) (by decide) hmem] at hc
  cases hc

end ShareSub

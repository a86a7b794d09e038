import Mathlib

/-!
# Logs with a spacing and a limit for each window

A log keeps the rate of its keys when two entries of one key are apart by a spacing, in the order of the log, and the
window that ends in an entry holds no more entries of its key than a limit. Then every window of that length does.
-/
namespace ShareSub

section RateLog

variable {α κ : Type*} [DecidableEq κ] {key : α → κ} {time : α → ℤ} {spacing window : ℤ} {limit : ℕ} {log : List α}

/-- The entries of a key in a window that is open at its start and closed at its end. -/
def countWithin (key : α → κ) (time : α → ℤ) (k : κ) (start stop : ℤ) (log : List α) : ℕ :=
  log.countP fun a => key a = k ∧ start < time a ∧ time a ≤ stop

structure RateLog (key : α → κ) (time : α → ℤ) (spacing window : ℤ) (limit : ℕ) (log : List α) : Prop where
  spaced : log.Pairwise fun a b => key a = key b → time a + spacing ≤ time b
  limited : ∀ a ∈ log, countWithin key time (key a) (time a - window) (time a) log ≤ limit

lemma countWithin_mono {k : κ} {start stop start' stop' : ℤ} {log log' : List α} (hlog : log.Subperm log')
    (hstart : start' ≤ start) (hstop : stop ≤ stop') :
    countWithin key time k start stop log ≤ countWithin key time k start' stop' log' := by
  refine (hlog.countP_le _).trans (List.countP_mono_left fun a _ h => ?_)
  simp only [decide_eq_true_eq] at h ⊢
  exact ⟨h.1, by omega, by omega⟩

lemma countWithin_append {k : κ} {start stop : ℤ} (a : α) :
    countWithin key time k start stop (log ++ [a]) =
      countWithin key time k start stop log + if key a = k ∧ start < time a ∧ time a ≤ stop then 1 else 0 := by
  simp [countWithin, List.countP_append, List.countP_singleton]

namespace RateLog

lemma nil : RateLog key time spacing window limit [] := ⟨.nil, by simp⟩

lemma sublist (h : RateLog key time spacing window limit log) {kept : List α} (hkept : kept.Sublist log) :
    RateLog key time spacing window limit kept :=
  ⟨h.spaced.sublist hkept, fun a ha =>
    (countWithin_mono hkept.subperm le_rfl le_rfl).trans (h.limited a (hkept.subset ha))⟩

/-- The entry comes after those of its key, and its window has room for it. -/
lemma append (h : RateLog key time spacing window limit log) {a : α} (hspacing : 0 < spacing)
    (hlater : ∀ b ∈ log, key b = key a → time b + spacing ≤ time a)
    (hroom : countWithin key time (key a) (time a - window) (time a) log < limit) :
    RateLog key time spacing window limit (log ++ [a]) := by
  constructor
  · refine List.pairwise_append.mpr ⟨h.spaced, List.pairwise_singleton _ _, fun b hb a' ha' hkey => ?_⟩
    rw [List.mem_singleton.mp ha'] at hkey ⊢
    exact hlater b hb hkey
  · intro b hb
    rw [countWithin_append]
    rcases List.mem_append.mp hb with hb | hb
    · have hbefore := h.limited b hb
      have hafter : ¬ (key a = key b ∧ time b - window < time a ∧ time a ≤ time b) := by
        rintro ⟨hkey, -, hle⟩
        have := hlater b hb hkey.symm
        omega
      rw [if_neg hafter]
      exact hbefore
    · rw [List.mem_singleton.mp hb]
      split_ifs <;> omega

/-- An entry of a key that the log does not have. -/
lemma append_new (h : RateLog key time spacing window limit log) {a : α} (hspacing : 0 < spacing) (hlimit : 0 < limit)
    (hnew : ∀ b ∈ log, key b ≠ key a) : RateLog key time spacing window limit (log ++ [a]) := by
  refine h.append hspacing (fun b hb hkey => absurd hkey (hnew b hb)) ?_
  rw [countWithin, List.countP_eq_zero.mpr]
  · exact hlimit
  · intro b hb
    simp [hnew b hb]

/-- Two entries of one key are apart. -/
lemma apart (h : RateLog key time spacing window limit log) {a b : α} (ha : a ∈ log) (hb : b ∈ log) (hne : a ≠ b)
    (hkey : key a = key b) : spacing ≤ |time a - time b| := by
  let Apart (a b : α) : Prop := key a = key b → spacing ≤ |time a - time b|
  have hsymm : Std.Symm Apart := ⟨fun a b hab hkey => abs_sub_comm (time a) (time b) ▸ hab hkey.symm⟩
  have happart : log.Pairwise Apart := by
    refine h.spaced.imp fun hab hkey => ?_
    have hle := hab hkey
    rw [le_abs]
    right
    omega
  exact happart.forall ha hb hne hkey

/-- The window that ends in the latest of its entries has them all. -/
lemma countWithin_le (h : RateLog key time spacing window limit log) (k : κ) (start : ℤ) :
    countWithin key time k start (start + window) log ≤ limit := by
  set within := log.filter fun a => key a = k ∧ start < time a ∧ time a ≤ start + window with hwithin
  cases hlast : within.argmax time with
  | none =>
    rw [countWithin, List.countP_eq_length_filter, ← hwithin, List.argmax_eq_none.mp hlast]
    exact Nat.zero_le _
  | some a =>
    have ha := List.mem_filter.mp (hwithin ▸ List.argmax_mem hlast)
    simp only [decide_eq_true_eq] at ha
    obtain ⟨ha, rfl, hstart, hstop⟩ := ha
    refine le_trans ?_ (h.limited a ha)
    refine List.countP_mono_left fun b hb hb' => ?_
    have hle := List.le_of_mem_argmax (hwithin ▸ List.mem_filter.mpr ⟨hb, hb'⟩) hlast
    simp only [decide_eq_true_eq] at hb' ⊢
    exact ⟨hb'.1, by omega, hle⟩

end RateLog

end RateLog

end ShareSub

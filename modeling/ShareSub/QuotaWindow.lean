import ShareSub.QuotaModel

/-!
# What a passive observation leaves in a window

A passive batch treats each window on its own: the row of a window is folded over the signals
of that window. The fold never lowers the reset instant, and the one row it cannot move is an
authoritative row whose reset has passed.
-/
namespace ShareSub.QuotaWindow
open PlanModel QuotaModel Transaction

variable {now : ℤ}

/-- The row of a window after one passive signal. -/
def passiveRow (now : ℤ) (row : Option Snapshot) (signal : QuotaSignal) : Option Snapshot :=
  match lockAndReconcileAccountQuotaSignal row signal false now with
  | none => row
  | some (accepted, authoritative, authoritativeAt) =>
    some
      { windowStart := accepted.windowStart
        resetAt := accepted.resetAt
        usedMicros := accepted.accountUsedMicros
        updatedAt := now
        authoritative := authoritative
        authoritativeAt := if authoritative then some authoritativeAt else none }

def Live (now : ℤ) (row : Option Snapshot) : Prop := ∃ q ∈ row, now < q.resetAt

/-- An authoritative row that has expired. -/
def Expired (now : ℤ) (row : Option Snapshot) : Prop :=
  ∃ q ∈ row, q.authoritative = true ∧ q.resetAt ≤ now

section Fold

lemma merge_windowType (oldStart oldReset oldUsed : ℤ) (signal : QuotaSignal) :
    (mergeAccountQuotaSignal oldStart oldReset oldUsed signal).windowType = signal.windowType := by
  unfold mergeAccountQuotaSignal
  split_ifs <;> rfl

lemma accepted_windowType {row : Option Snapshot} {signal accepted : QuotaSignal} {authoritative flag : Bool}
    {at' : ℤ} (h : lockAndReconcileAccountQuotaSignal row signal authoritative now = some (accepted, flag, at')) :
    accepted.windowType = signal.windowType := by
  cases row with
  | none =>
    simp only [lockAndReconcileAccountQuotaSignal, Option.some.injEq, Prod.mk.injEq] at h
    rw [← h.1]
  | some old =>
    simp only [lockAndReconcileAccountQuotaSignal, reconcileAccountQuotaSignal] at h
    split_ifs at h
    · simp only [Option.some.injEq, Prod.mk.injEq] at h
      rw [← h.1]
    · simp only [Option.some.injEq, Prod.mk.injEq] at h
      rw [← h.1, merge_windowType]

/-- A committed passive batch folds every window over its own signals. -/
lemma recordSignals_passive {planID accountID : String} {generation : ℕ} {signals : List QuotaSignal}
    {db : QuotaDB} {recorded : Option QuotaDB} (w : WindowType)
    (h : recordSignals planID accountID generation now false signals db = .ok recorded) :
    ∃ db', recorded = some db' ∧ db'.snapshots (accountID, w) =
      (signals.filter fun s => s.windowType = w).foldl (passiveRow now) (db.snapshots (accountID, w)) := by
  induction signals generalizing db with
  | nil =>
    simp only [recordSignals, Except.ok.injEq] at h
    exact ⟨db, h.symm, rfl⟩
  | cons signal rest ih =>
    simp only [recordSignals] at h
    split at h
    · next hrefused =>
      simp only [Bool.false_eq_true, if_false] at h
      obtain ⟨db', hdb', hfold⟩ := ih h
      refine ⟨db', hdb', hfold.trans ?_⟩
      by_cases hw : signal.windowType = w
      · subst hw
        simp [passiveRow, hrefused]
      · simp [hw]
    · next accepted authoritative authoritativeAt haccepted =>
      simp only [check_bind_eq_ok] at h
      obtain ⟨db', hdb', hfold⟩ := ih h.2
      have hwindow := accepted_windowType haccepted
      refine ⟨db', hdb', hfold.trans ?_⟩
      by_cases hw : signal.windowType = w
      · subst hw
        simp [passiveRow, haccepted, writeBaseline, writeSnapshot, hwindow]
      · have hne : (accountID, w) ≠ (accountID, accepted.windowType) := by
          rw [hwindow]
          intro heq
          exact hw (Prod.mk.inj heq).2.symm
        simp [hw, writeBaseline, writeSnapshot, Function.update_of_ne hne]

end Fold

section Row

variable {row : Option Snapshot} {signal : QuotaSignal}

lemma merge_resetAt (oldStart oldReset oldUsed : ℤ) (signal : QuotaSignal) :
    (mergeAccountQuotaSignal oldStart oldReset oldUsed signal).resetAt =
      if sameQuotaWindow oldReset signal.resetAt then oldReset else max oldReset signal.resetAt := by
  by_cases hsame : sameQuotaWindow oldReset signal.resetAt
  · simp [mergeAccountQuotaSignal, hsame]
  · by_cases hlt : oldReset < signal.resetAt
    · simp [mergeAccountQuotaSignal, hsame, hlt, max_eq_right hlt.le]
    · simp [mergeAccountQuotaSignal, hsame, hlt, max_eq_left (not_lt.mp hlt)]

lemma le_merge_resetAt (oldStart oldReset oldUsed : ℤ) (signal : QuotaSignal) :
    oldReset ≤ (mergeAccountQuotaSignal oldStart oldReset oldUsed signal).resetAt := by
  rw [merge_resetAt]
  split_ifs
  · exact le_rfl
  · exact le_max_left _ _

lemma merge_resetAt_live (oldStart oldReset oldUsed : ℤ)
    (hfresh : now + quotaWindowResetTolerance < signal.resetAt) :
    now < (mergeAccountQuotaSignal oldStart oldReset oldUsed signal).resetAt := by
  have htol : 0 ≤ quotaWindowResetTolerance := by decide
  rw [merge_resetAt]
  split_ifs with hsame
  · -- the old window is kept: its reset is within the tolerance of the signal's
    have hclose := abs_le.mp hsame
    omega
  · have := le_max_right oldReset signal.resetAt
    omega

lemma passiveRow_live (h : Live now row) : Live now (passiveRow now row signal) := by
  obtain ⟨old, hrow, hold⟩ := h
  obtain rfl : row = some old := hrow
  by_cases hother : old.authoritative = true ∧ ¬ sameQuotaWindow old.resetAt signal.resetAt
  · exact ⟨old, by simp [passiveRow, lockAndReconcileAccountQuotaSignal, reconcileAccountQuotaSignal, hother], hold⟩
  · have hle := le_merge_resetAt old.windowStart old.resetAt old.usedMicros signal
    simp only [passiveRow, lockAndReconcileAccountQuotaSignal, reconcileAccountQuotaSignal, hother,
      Bool.false_eq_true, if_false]
    exact ⟨_, rfl, hold.trans_le hle⟩

lemma passiveRow_live_of_fresh (h : ¬ Expired now row)
    (hfresh : now + quotaWindowResetTolerance < signal.resetAt) : Live now (passiveRow now row signal) := by
  have htol : 0 ≤ quotaWindowResetTolerance := by decide
  cases row with
  | none => exact ⟨_, rfl, show now < signal.resetAt by omega⟩
  | some old =>
    by_cases hlive : now < old.resetAt
    · exact passiveRow_live ⟨old, rfl, hlive⟩
    · have hpassive : old.authoritative ≠ true := by
        intro hauth
        exact h ⟨old, rfl, hauth, not_lt.mp hlive⟩
      have hmerged := merge_resetAt_live old.windowStart old.resetAt old.usedMicros hfresh
      simp only [passiveRow, lockAndReconcileAccountQuotaSignal, reconcileAccountQuotaSignal, hpassive,
        false_and, Bool.false_eq_true, if_false]
      exact ⟨_, rfl, hmerged⟩

/-- An expired authoritative row is never moved, and no passive signal makes one. -/
lemma passiveRow_expired_iff : Expired now (passiveRow now row signal) ↔ Expired now row := by
  cases row with
  | none => simp [Expired, passiveRow, lockAndReconcileAccountQuotaSignal]
  | some old =>
    by_cases hother : old.authoritative = true ∧ ¬ sameQuotaWindow old.resetAt signal.resetAt
    · simp [passiveRow, lockAndReconcileAccountQuotaSignal, reconcileAccountQuotaSignal, hother]
    · simp only [passiveRow, lockAndReconcileAccountQuotaSignal, reconcileAccountQuotaSignal, hother,
        Bool.false_eq_true, if_false, Expired, Option.mem_some_iff, exists_eq_left']
      refine and_congr_right fun hauth => ?_
      have hsame : sameQuotaWindow old.resetAt signal.resetAt := by
        by_contra hno
        exact hother ⟨hauth, hno⟩
      simp [mergeAccountQuotaSignal, hsame]

end Row

lemma foldl_live {signals : List QuotaSignal} {row : Option Snapshot} (h : Live now row) :
    Live now (signals.foldl (passiveRow now) row) := by
  induction signals generalizing row with
  | nil => exact h
  | cons signal rest ih => exact ih (passiveRow_live h)

lemma foldl_expired_iff {signals : List QuotaSignal} {row : Option Snapshot} :
    Expired now (signals.foldl (passiveRow now) row) ↔ Expired now row := by
  induction signals generalizing row with
  | nil => exact Iff.rfl
  | cons signal rest ih => exact ih.trans passiveRow_expired_iff

lemma not_live_of_expired {row : Option Snapshot} (h : Expired now row) : ¬ Live now row := by
  obtain ⟨q, hq, -, hle⟩ := h
  rintro ⟨q', hq', hlt⟩
  obtain rfl : q = q' := Option.mem_unique hq hq'
  omega

lemma foldl_live_of_fresh {signals : List QuotaSignal} {signal : QuotaSignal} {row : Option Snapshot}
    (hs : signal ∈ signals) (hfresh : now + quotaWindowResetTolerance < signal.resetAt)
    (h : ¬ Expired now row) : Live now (signals.foldl (passiveRow now) row) := by
  induction signals generalizing row with
  | nil => simp at hs
  | cons first rest ih =>
    rw [List.foldl_cons]
    rcases List.mem_cons.mp hs with rfl | hs'
    · exact foldl_live (passiveRow_live_of_fresh h hfresh)
    · exact ih hs' (mt passiveRow_expired_iff.mp h)

/-- A fresh passive signal leaves a live window, unless the stored row is authoritative and has
expired. -/
theorem passive_signal_live_iff {planID accountID : String} {generation : ℕ} {signals : List QuotaSignal}
    {db db' : QuotaDB} {signal : QuotaSignal}
    (h : recordAccountQuotaSignals planID accountID generation signals now false db = .ok db')
    (hs : signal ∈ signals) (hfresh : now + quotaWindowResetTolerance < signal.resetAt) :
    (∃ q ∈ db'.snapshots (accountID, signal.windowType), now < q.resetAt) ↔
      ¬ ∃ q ∈ db.snapshots (accountID, signal.windowType), q.authoritative = true ∧ q.resetAt ≤ now := by
  simp only [recordAccountQuotaSignals, bind_eq_ok, commit_eq_ok, Bool.false_eq_true, if_false] at h
  obtain ⟨-, -, recorded, hrecord, rfl⟩ := h
  obtain ⟨db', rfl, hfold⟩ := recordSignals_passive signal.windowType hrecord
  rw [Option.getD_some, hfold]
  have hmem : signal ∈ signals.filter fun s => s.windowType = signal.windowType := by simp [hs]
  constructor
  · intro hlive hexpired
    exact not_live_of_expired (foldl_expired_iff.mpr hexpired) hlive
  · exact foldl_live_of_fresh hmem hfresh

/-- A plan whose account was probed an hour ago, with a window that ended at the instant 0. -/
def probedPlan (resetAt : ℤ) : QuotaDB where
  plans := ⟨[⟨"plan", "owner", some "account", 1⟩], by decide, by decide⟩
  snapshots := fun key =>
    if key = ("account", .window5H) then some ⟨-18000000000, resetAt, 0, -3600000000, true, some (-3600000000)⟩
    else none
  baselines := fun _ => none

/-- The first gateway response of the next five hours. -/
def nextWindow : QuotaSignal := ⟨.window5H, 0, 18000000000, 100000⟩

theorem passive_signal_refused :
    (nextWindow ∈ [nextWindow] ∧ 1000000 + quotaWindowResetTolerance < nextWindow.resetAt) ∧
      ∃ db', recordAccountQuotaSignals "plan" "account" 1 [nextWindow] 1000000 false (probedPlan 0) = .ok db' ∧
        ¬ ∃ q ∈ db'.snapshots ("account", nextWindow.windowType), 1000000 < q.resetAt := by
  refine ⟨by decide, probedPlan 0, rfl, ?_⟩
  rintro ⟨q, hq, hlive⟩
  obtain rfl : _ = q := Option.some.inj hq
  exact absurd hlive (by decide)

theorem passive_signal_live_iff_probedPlan :
    ∃ db', recordAccountQuotaSignals "plan" "account" 1 [nextWindow] 1000000 false (probedPlan 18000000000) =
        .ok db' ∧
      ((∃ q ∈ db'.snapshots ("account", nextWindow.windowType), 1000000 < q.resetAt) ↔
        ¬ ∃ q ∈ (probedPlan 18000000000).snapshots ("account", nextWindow.windowType),
          q.authoritative = true ∧ q.resetAt ≤ 1000000) := by
  obtain ⟨db', hcommit⟩ : ∃ db', recordAccountQuotaSignals "plan" "account" 1 [nextWindow] 1000000 false
      (probedPlan 18000000000) = .ok db' := ⟨_, rfl⟩
  exact ⟨db', hcommit, passive_signal_live_iff hcommit (List.mem_singleton_self nextWindow) (by decide)⟩

end ShareSub.QuotaWindow

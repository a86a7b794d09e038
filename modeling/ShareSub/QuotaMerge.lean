import Mathlib
import ShareSub.QuotaWindow

/-!
# Merging quota signals

Passive signals move the row of a window that was never probed forward only: to a later window, or to a higher usage of
the window that it is locked to. A probe that is older than the stored one undoes all that its transaction did.
-/
namespace ShareSub.QuotaMerge

open PlanModel QuotaModel QuotaWindow Transaction

section Rows

variable {row : Option Snapshot} {signal : QuotaSignal} {now : ℤ}

/-- No row, or one that no probe has written. -/
def Unprobed (row : Option Snapshot) : Prop := ∀ q ∈ row, q.authoritative = false

/-- A row is followed by one of a later reset, or of the same reset with no lower usage. -/
def Advances (row next : Option Snapshot) : Prop :=
  ∀ p ∈ row, ∃ q ∈ next, p.resetAt ≤ q.resetAt ∧ (p.resetAt = q.resetAt → p.usedMicros ≤ q.usedMicros)

lemma Advances.refl (row : Option Snapshot) : Advances row row := fun p hp => ⟨p, hp, le_rfl, fun _ => le_rfl⟩

/-- Between two states of one reset the reset never changed. -/
lemma Advances.trans {a b c : Option Snapshot} (hab : Advances a b) (hbc : Advances b c) : Advances a c := by
  intro p hp
  obtain ⟨q, hq, hreset, hused⟩ := hab p hp
  obtain ⟨r, hr, hreset', hused'⟩ := hbc q hq
  refine ⟨r, hr, hreset.trans hreset', ?_⟩
  intro heq
  have hfirst : p.resetAt = q.resetAt := le_antisymm hreset (heq ▸ hreset')
  exact (hused hfirst).trans (hused' (hfirst ▸ heq))

/-- The row that a passive signal leaves where no probe has written. -/
lemma passiveRow_some {old : Snapshot} (now : ℤ) (signal : QuotaSignal) (h : old.authoritative = false) :
    ∃ q, passiveRow now (some old) signal = some q ∧ q.authoritative = false ∧
      q.resetAt = (mergeAccountQuotaSignal old.windowStart old.resetAt old.usedMicros signal).resetAt ∧
      q.usedMicros = (mergeAccountQuotaSignal old.windowStart old.resetAt old.usedMicros signal).accountUsedMicros := by
  simp only [passiveRow, lockAndReconcileAccountQuotaSignal, reconcileAccountQuotaSignal, h, Bool.false_eq_true,
    false_and, if_false]
  exact ⟨_, rfl, rfl, rfl, rfl⟩

/-- A signal of the locked window raises the usage to its own. -/
lemma merge_same (oldStart : ℤ) {oldReset : ℤ} (oldUsed : ℤ) (h : sameQuotaWindow oldReset signal.resetAt) :
    (mergeAccountQuotaSignal oldStart oldReset oldUsed signal).resetAt = oldReset ∧
      (mergeAccountQuotaSignal oldStart oldReset oldUsed signal).accountUsedMicros =
        max oldUsed signal.accountUsedMicros := by
  simp only [mergeAccountQuotaSignal, h, not_true_eq_false, if_false, true_and]
  split_ifs with hle
  · exact (max_eq_left hle).symm
  · exact (max_eq_right (not_le.mp hle).le).symm

/-- A signal of another window is taken as it is when it ends later, and has no effect when it does not. -/
lemma merge_other (oldStart : ℤ) {oldReset : ℤ} (oldUsed : ℤ) (h : ¬ sameQuotaWindow oldReset signal.resetAt) :
    oldReset < (mergeAccountQuotaSignal oldStart oldReset oldUsed signal).resetAt ∨
      (mergeAccountQuotaSignal oldStart oldReset oldUsed signal).resetAt = oldReset ∧
        (mergeAccountQuotaSignal oldStart oldReset oldUsed signal).accountUsedMicros = oldUsed := by
  simp only [mergeAccountQuotaSignal, h, not_false_eq_true, if_true]
  split_ifs with hlt
  · exact Or.inl hlt
  · exact Or.inr ⟨rfl, rfl⟩

lemma passiveRow_advances (now : ℤ) (signal : QuotaSignal) (h : Unprobed row) :
    Unprobed (passiveRow now row signal) ∧ Advances row (passiveRow now row signal) := by
  cases row with
  | none =>
    refine ⟨?_, nofun⟩
    intro q hq
    cases hq
    rfl
  | some old =>
    obtain ⟨q, hq, hprobed, hreset, hused⟩ := passiveRow_some now signal (h old rfl)
    rw [hq]
    constructor
    · intro r hr
      cases hr
      exact hprobed
    · intro p hp
      cases hp
      refine ⟨q, rfl, ?_⟩
      rw [hreset, hused]
      by_cases hsame : sameQuotaWindow old.resetAt signal.resetAt
      · obtain ⟨heq, hmax⟩ := merge_same old.windowStart old.usedMicros hsame
        rw [heq, hmax]
        exact ⟨le_rfl, fun _ => le_max_left _ _⟩
      · rcases merge_other old.windowStart old.usedMicros hsame with hlt | ⟨heq, hkept⟩
        · exact ⟨hlt.le, fun heq => absurd heq hlt.ne⟩
        · rw [heq, hkept]
          exact ⟨le_rfl, fun _ => le_rfl⟩

end Rows

section Sequences

/-- The signals of a window, each with the instant it was observed at. -/
abbrev Signals := List (ℤ × QuotaSignal)

/-- The row after a sequence of passive signals. -/
def passiveRows (row : Option Snapshot) (signals : Signals) : Option Snapshot :=
  signals.foldl (fun row e => passiveRow e.1 row e.2) row

variable {row : Option Snapshot} {signals : Signals}

lemma passiveRows_advances (signals : Signals) (h : Unprobed row) :
    Unprobed (passiveRows row signals) ∧ Advances row (passiveRows row signals) := by
  induction signals generalizing row with
  | nil => exact ⟨h, Advances.refl row⟩
  | cons e signals ih =>
    obtain ⟨hprobed, hadvance⟩ := passiveRow_advances e.1 e.2 h
    obtain ⟨hlast, hrest⟩ := ih hprobed
    exact ⟨hlast, hadvance.trans hrest⟩

/-- The usages of the stored row and of the signals. -/
def usages (row : Option Snapshot) (signals : Signals) : Set ℤ :=
  {v | (∃ q ∈ row, v = q.usedMicros) ∨ ∃ e ∈ signals, v = e.2.accountUsedMicros}

/-- The resets of the stored row and of the signals. -/
def resets (row : Option Snapshot) (signals : Signals) : Set ℤ :=
  {v | (∃ q ∈ row, v = q.resetAt) ∨ ∃ e ∈ signals, v = e.2.resetAt}

/-- Signals of the window that a row is locked to leave the greatest usage. -/
lemma passiveRows_greatest {old : Snapshot} (h : old.authoritative = false)
    (hsame : ∀ e ∈ signals, sameQuotaWindow old.resetAt e.2.resetAt) :
    ∃ q, passiveRows (some old) signals = some q ∧ IsGreatest (usages (some old) signals) q.usedMicros := by
  induction signals generalizing old with
  | nil =>
    refine ⟨old, rfl, Or.inl ⟨old, rfl, rfl⟩, ?_⟩
    rintro v (⟨q, hq, rfl⟩ | ⟨e, he, -⟩)
    · cases hq
      exact le_rfl
    · cases he
  | cons e signals ih =>
    obtain ⟨p, hp, hprobed, hreset, hused⟩ := passiveRow_some e.1 e.2 h
    obtain ⟨heq, hmax⟩ := merge_same old.windowStart old.usedMicros
      (hsame e (List.mem_cons_self ..))
    rw [heq] at hreset
    rw [hmax] at hused
    obtain ⟨q, hq, hmem, hupper⟩ := ih hprobed fun e' he' => hreset ▸ hsame e' (List.mem_cons_of_mem e he')
    refine ⟨q, ?_, ?_, ?_⟩
    · rw [passiveRows, List.foldl_cons, hp]
      exact hq
    · rcases hmem with ⟨r, hr, hvalue⟩ | ⟨e', he', hvalue⟩
      · cases hr
        rcases max_choice old.usedMicros e.2.accountUsedMicros with hleft | hright
        · exact Or.inl ⟨old, rfl, by rw [hvalue, hused, hleft]⟩
        · exact Or.inr ⟨e, List.mem_cons_self .., by rw [hvalue, hused, hright]⟩
      · exact Or.inr ⟨e', List.mem_cons_of_mem e he', hvalue⟩
    · have hp' : p.usedMicros ≤ q.usedMicros := hupper (Or.inl ⟨p, rfl, rfl⟩)
      rw [hused] at hp'
      rintro v (⟨r, hr, rfl⟩ | ⟨e', he', rfl⟩)
      · cases hr
        exact (le_max_left _ _).trans hp'
      · rcases List.mem_cons.mp he' with rfl | he'
        · exact (le_max_right _ _).trans hp'
        · exact hupper (Or.inr ⟨e', he', rfl⟩)

/-- The greatest usage does not depend on the order of the signals. -/
lemma passiveRows_usage (h : Unprobed row) (hsame : ∀ a ∈ resets row signals, ∀ b ∈ resets row signals, sameQuotaWindow a b) :
    (passiveRows row signals = none → row = none ∧ signals = []) ∧
      ∀ q ∈ passiveRows row signals, IsGreatest (usages row signals) q.usedMicros := by
  cases row with
  | some old =>
    obtain ⟨q, hq, hgreatest⟩ := passiveRows_greatest (h old rfl) fun e he =>
      hsame _ (Or.inl ⟨old, rfl, rfl⟩) _ (Or.inr ⟨e, he, rfl⟩)
    rw [hq]
    refine ⟨nofun, ?_⟩
    intro r hr
    cases hr
    exact hgreatest
  | none =>
    cases signals with
    | nil => exact ⟨fun _ => ⟨rfl, rfl⟩, nofun⟩
    | cons e signals =>
      -- The first signal is stored as it is.
      obtain ⟨p, hp, hprobed, hreset, hused⟩ : ∃ p, passiveRow e.1 none e.2 = some p ∧ p.authoritative = false ∧
          p.resetAt = e.2.resetAt ∧ p.usedMicros = e.2.accountUsedMicros := ⟨_, rfl, rfl, rfl, rfl⟩
      obtain ⟨q, hq, hmem, hupper⟩ := passiveRows_greatest hprobed fun e' he' => hreset ▸
        hsame _ (Or.inr ⟨e, List.mem_cons_self .., rfl⟩) _ (Or.inr ⟨e', List.mem_cons_of_mem e he', rfl⟩)
      have hfirst : passiveRows none (e :: signals) = some q := by
        rw [passiveRows, List.foldl_cons, hp]
        exact hq
      rw [hfirst]
      refine ⟨nofun, ?_⟩
      intro r hr
      cases hr
      constructor
      · rcases hmem with ⟨r, hr, hvalue⟩ | ⟨e', he', hvalue⟩
        · cases hr
          exact Or.inr ⟨e, List.mem_cons_self .., hvalue.trans hused⟩
        · exact Or.inr ⟨e', List.mem_cons_of_mem e he', hvalue⟩
      · rintro v (⟨r, hr, rfl⟩ | ⟨e', he', rfl⟩)
        · cases hr
        · rcases List.mem_cons.mp he' with rfl | he'
          · exact hused ▸ hupper (Or.inl ⟨p, rfl, rfl⟩)
          · exact hupper (Or.inr ⟨e', he', rfl⟩)

end Sequences

section Runs

/-- A call of `RecordAccountQuotaSignals` for an account. -/
structure PassiveCall where
  planID : String
  generation : ℕ
  signals : List QuotaSignal
  now : ℤ

variable {accountID : String} {w : WindowType} {calls : List PassiveCall} {db : QuotaDB}

def PassiveCall.record (accountID : String) (db : QuotaDB) (call : PassiveCall) : Except DomainError QuotaDB :=
  recordAccountQuotaSignals call.planID accountID call.generation call.signals call.now false db

/-- What a transaction leaves: a rollback leaves what it found. -/
def committed (db : QuotaDB) (transaction : Except DomainError QuotaDB) : QuotaDB :=
  match transaction with
  | .ok db' => db'
  | .error _ => db

def recordCalls (accountID : String) (db : QuotaDB) (calls : List PassiveCall) : QuotaDB :=
  calls.foldl (fun db call => committed db (call.record accountID db)) db

/-- The signals of a window that the calls commit. -/
def recordedSignals (accountID : String) (w : WindowType) : QuotaDB → List PassiveCall → Signals
  | _, [] => []
  | db, call :: rest =>
    (match call.record accountID db with
      | .ok _ => (call.signals.filter fun s => s.windowType = w).map fun s => (call.now, s)
      | .error _ => []) ++
      recordedSignals accountID w (committed db (call.record accountID db)) rest

lemma record_row {call : PassiveCall} {db' : QuotaDB} (w : WindowType) (h : call.record accountID db = .ok db') :
    db'.snapshots (accountID, w) = passiveRows (db.snapshots (accountID, w))
      ((call.signals.filter fun s => s.windowType = w).map fun s => (call.now, s)) := by
  simp only [PassiveCall.record, recordAccountQuotaSignals, bind_eq_ok, commit_eq_ok, Bool.false_eq_true,
    if_false] at h
  obtain ⟨-, -, recorded, hrecord, rfl⟩ := h
  obtain ⟨db', rfl, hrow⟩ := recordSignals_passive w hrecord
  rw [Option.getD_some, hrow, passiveRows, List.foldl_map]

lemma recordCalls_row (w : WindowType) (db : QuotaDB) (calls : List PassiveCall) :
    (recordCalls accountID db calls).snapshots (accountID, w) =
      passiveRows (db.snapshots (accountID, w)) (recordedSignals accountID w db calls) := by
  induction calls generalizing db with
  | nil => rfl
  | cons call rest ih =>
    have hstep : recordCalls accountID db (call :: rest) =
        recordCalls accountID (committed db (call.record accountID db)) rest := rfl
    rw [hstep, ih, recordedSignals]
    cases hcall : call.record accountID db with
    | error e => rfl
    | ok db' =>
      simp only [committed]
      rw [record_row w hcall, passiveRows, passiveRows, passiveRows, List.foldl_append]

lemma recordCalls_append (db : QuotaDB) (first rest : List PassiveCall) :
    recordCalls accountID db (first ++ rest) = recordCalls accountID (recordCalls accountID db first) rest :=
  List.foldl_append ..

end Runs

section Stale

variable {planID accountID : String} {generation : ℕ} {signals : List QuotaSignal} {now : ℤ} {db : QuotaDB}

/-- A stored weekly window that a probe wrote at the instant or later. -/
def ProbedSince (now : ℤ) (row : Option Snapshot) : Prop :=
  ∃ q ∈ row, q.authoritative = true ∧ now ≤ q.authoritativeAt.getD 0

/-- Only a signal of the weekly window touches its row, and none is accepted there. -/
lemma recordSignals_stale {recorded : Option QuotaDB} (hweek : ∃ s ∈ signals, s.windowType = .window7D)
    (hprobed : ProbedSince now (db.snapshots (accountID, .window7D)))
    (h : recordSignals planID accountID generation now true signals db = .ok recorded) : recorded = none := by
  induction signals generalizing db with
  | nil =>
    obtain ⟨s, hs, -⟩ := hweek
    cases hs
  | cons signal rest ih =>
    simp only [recordSignals] at h
    split at h
    · simpa using h.symm
    · next accepted authoritative authoritativeAt haccepted =>
      simp only [check_bind_eq_ok] at h
      have hwindow := accepted_windowType haccepted
      by_cases hw : signal.windowType = .window7D
      · obtain ⟨q, hq, hauthoritative, hlater⟩ := hprobed
        rw [hw, Option.mem_def.mp hq] at haccepted
        simp [lockAndReconcileAccountQuotaSignal, reconcileAccountQuotaSignal, hauthoritative, hlater] at haccepted
      · have hrest : ∃ s ∈ rest, s.windowType = .window7D := by
          obtain ⟨s, hs, hweekly⟩ := hweek
          rcases List.mem_cons.mp hs with rfl | hs
          · exact absurd hweekly hw
          · exact ⟨s, hs, hweekly⟩
        have hne : (accountID, WindowType.window7D) ≠ (accountID, accepted.windowType) := by
          rw [hwindow]
          intro heq
          exact hw (Prod.mk.inj heq).2.symm
        refine ih hrest ?_ h.2
        rw [writeBaseline_snapshots, writeSnapshot_ne hne]
        exact hprobed

lemma removeMissing_week (accountID : String) (signals : List QuotaSignal) (db : QuotaDB) :
    (removeMissingOptionalQuotaWindows accountID signals db).snapshots (accountID, .window7D) =
      db.snapshots (accountID, .window7D) := by
  unfold removeMissingOptionalQuotaWindows
  split_ifs
  · rfl
  · exact Function.update_of_ne (by simp) ..

/-- A late probe commits nothing, not even the optional window that its transaction removed. -/
lemma record_stale (hweek : ∃ s ∈ signals, s.windowType = .window7D)
    (hprobed : ProbedSince now (db.snapshots (accountID, .window7D))) :
    committed db (recordAccountQuotaSignals planID accountID generation signals now true db) = db := by
  cases h : recordAccountQuotaSignals planID accountID generation signals now true db with
  | error e => rfl
  | ok db' =>
    simp only [recordAccountQuotaSignals, bind_eq_ok, commit_eq_ok, if_true] at h
    obtain ⟨-, -, recorded, hrecord, rfl⟩ := h
    have hnone := recordSignals_stale hweek ((removeMissing_week accountID signals db).symm ▸ hprobed) hrecord
    rw [hnone]
    rfl

end Stale

/-- Passive calls move a window that was never probed forward only, to the greatest usage where all is of one window;
a late probe changes nothing. -/
theorem quota_signals_merge :
    (∀ (accountID : String) (w : WindowType) (db : QuotaDB), Unprobed (db.snapshots (accountID, w)) →
      (∀ first rest : List PassiveCall,
        Advances ((recordCalls accountID db first).snapshots (accountID, w))
          ((recordCalls accountID db (first ++ rest)).snapshots (accountID, w))) ∧
      ∀ calls : List PassiveCall,
        (∀ a ∈ resets (db.snapshots (accountID, w)) (recordedSignals accountID w db calls),
          ∀ b ∈ resets (db.snapshots (accountID, w)) (recordedSignals accountID w db calls), sameQuotaWindow a b) →
        ((recordCalls accountID db calls).snapshots (accountID, w) = none →
          db.snapshots (accountID, w) = none ∧ recordedSignals accountID w db calls = []) ∧
        ∀ q ∈ (recordCalls accountID db calls).snapshots (accountID, w),
          IsGreatest (usages (db.snapshots (accountID, w)) (recordedSignals accountID w db calls)) q.usedMicros) ∧
    ∀ (planID accountID : String) (generation : ℕ) (signals : List QuotaSignal) (now : ℤ) (db : QuotaDB),
      (∃ s ∈ signals, s.windowType = .window7D) → ProbedSince now (db.snapshots (accountID, .window7D)) →
      committed db (recordAccountQuotaSignals planID accountID generation signals now true db) = db := by
  refine ⟨?_, fun _ _ _ _ _ _ => record_stale⟩
  intro accountID w db hunprobed
  constructor
  · intro first rest
    obtain ⟨hfirst, -⟩ := passiveRows_advances (recordedSignals accountID w db first) hunprobed
    rw [recordCalls_append, recordCalls_row w (recordCalls accountID db first) rest, recordCalls_row w db first]
    exact (passiveRows_advances _ hfirst).2
  · intro calls hsame
    rw [recordCalls_row w db calls]
    exact passiveRows_usage hunprobed hsame

end ShareSub.QuotaMerge

import ShareSub.PlanModel

/-!
# Quota snapshots of accounts and quota baselines of plans

The embedding of the quota half of `key_metrics.go` with the binding transactions of
`plan_queries.go` and `lifecycle.go` that write the same tables. The two quota tables are
maps from their primary keys. `now` is the instant the caller observed the signals at.
-/
namespace ShareSub.QuotaModel
open PlanModel Transaction

/-- `domain.Window5H` and `domain.Window7D`. -/
inductive WindowType | window5H | window7D
  deriving DecidableEq, Repr

structure QuotaSignal where
  windowType : WindowType
  windowStart : ℤ
  resetAt : ℤ
  accountUsedMicros : ℤ
  deriving DecidableEq, Repr

/-- A row of `account_quota_snapshots`. -/
structure Snapshot where
  windowStart : ℤ
  resetAt : ℤ
  usedMicros : ℤ
  updatedAt : ℤ
  authoritative : Bool
  authoritativeAt : Option ℤ
  deriving DecidableEq, Repr

/-- A row of `plan_account_quota_baselines`. -/
structure Baseline where
  accountID : String
  windowStart : ℤ
  resetAt : ℤ
  baselineUsedMicros : ℤ
  accountingStartedAt : ℤ
  updatedAt : ℤ
  deriving DecidableEq, Repr

/-- The columns of `shared_plans` that bind an account. -/
structure PlanBinding where
  id : String
  ownerUserID : String
  accountID : Option String
  generation : ℕ
  deriving DecidableEq, Repr

abbrev PlanTable := Table PlanBinding.id (fun _ => (none : Option Unit))

structure QuotaDB where
  plans : PlanTable
  snapshots : String × WindowType → Option Snapshot
  baselines : String × ℕ × WindowType → Option Baseline

section Reconcile

def quotaWindowResetTolerance : ℤ := 2 * 60 * 1000000

def sameQuotaWindow (left right : ℤ) : Prop := |left - right| ≤ quotaWindowResetTolerance

instance (left right : ℤ) : Decidable (sameQuotaWindow left right) :=
  inferInstanceAs (Decidable (|left - right| ≤ quotaWindowResetTolerance))

def mergeAccountQuotaSignal (oldStart oldReset oldUsed : ℤ) (signal : QuotaSignal) : QuotaSignal :=
  if ¬ sameQuotaWindow oldReset signal.resetAt then
    if oldReset < signal.resetAt then signal
    else ⟨signal.windowType, oldStart, oldReset, oldUsed⟩
  else
    { signal with
      windowStart := oldStart
      resetAt := oldReset
      accountUsedMicros :=
        if signal.accountUsedMicros ≤ oldUsed then oldUsed else signal.accountUsedMicros }

/-- An accepted signal with the two authority columns to store; `none` when it is not accepted. -/
def reconcileAccountQuotaSignal (old : Snapshot) (signal : QuotaSignal) (authoritative : Bool)
    (observedAt : ℤ) : Option (QuotaSignal × Bool × ℤ) :=
  let oldAuthoritativeAt := old.authoritativeAt.getD 0
  if authoritative then
    if old.authoritative ∧ observedAt ≤ oldAuthoritativeAt then none
    else some (signal, true, observedAt)
  else if old.authoritative ∧ ¬ sameQuotaWindow old.resetAt signal.resetAt then none
  else
    some (mergeAccountQuotaSignal old.windowStart old.resetAt old.usedMicros signal,
      old.authoritative, oldAuthoritativeAt)

def lockAndReconcileAccountQuotaSignal (row : Option Snapshot) (signal : QuotaSignal)
    (authoritative : Bool) (observedAt : ℤ) : Option (QuotaSignal × Bool × ℤ) :=
  match row with
  | none => some (signal, authoritative, observedAt)
  | some old => reconcileAccountQuotaSignal old signal authoritative observedAt

end Reconcile

section Recording

/-- The `CHECK` of both quota tables on their usage column. -/
def usageInRange (used : ℤ) : Prop := 0 ≤ used ∧ used ≤ 100000000

instance (used : ℤ) : Decidable (usageInRange used) :=
  inferInstanceAs (Decidable (0 ≤ used ∧ used ≤ 100000000))

def writeSnapshot (accountID : String) (signal : QuotaSignal) (authoritative : Bool)
    (authoritativeAt now : ℤ) (db : QuotaDB) : QuotaDB :=
  { db with
    snapshots := Function.update db.snapshots (accountID, signal.windowType) (some
      { windowStart := signal.windowStart
        resetAt := signal.resetAt
        usedMicros := signal.accountUsedMicros
        updatedAt := now
        authoritative := authoritative
        authoritativeAt := if authoritative then some authoritativeAt else none }) }

/-- The baseline row that a signal starts. -/
def newBaseline (accountID : String) (signal : QuotaSignal) (now : ℤ) : Baseline where
  accountID := accountID
  windowStart := signal.windowStart
  resetAt := signal.resetAt
  baselineUsedMicros := signal.accountUsedMicros
  accountingStartedAt := now
  updatedAt := now

/-- The baseline upsert of `recordAccountQuotaSignals`: a row of another window is restarted. -/
def keepBaseline (accountID : String) (signal : QuotaSignal) (now : ℤ) : Option Baseline → Baseline
  | none => newBaseline accountID signal now
  | some b =>
    if 120 * 1000000 < |b.resetAt - signal.resetAt| then
      { b with
        windowStart := signal.windowStart
        resetAt := signal.resetAt
        baselineUsedMicros := 0
        accountingStartedAt := signal.windowStart
        updatedAt := now }
    else b

def writeBaseline (planID : String) (generation : ℕ) (windowType : WindowType)
    (f : Option Baseline → Baseline) (db : QuotaDB) : QuotaDB :=
  { db with
    baselines := Function.update db.baselines (planID, generation, windowType)
      (some (f (db.baselines (planID, generation, windowType)))) }

section Api

variable {accountID planID : String} {generation : ℕ} {w : WindowType} {signal : QuotaSignal}
  {authoritative : Bool} {authoritativeAt now : ℤ} {f : Option Baseline → Baseline} {db : QuotaDB}

@[simp] lemma writeSnapshot_plans :
    (writeSnapshot accountID signal authoritative authoritativeAt now db).plans = db.plans := rfl

@[simp] lemma writeSnapshot_baselines :
    (writeSnapshot accountID signal authoritative authoritativeAt now db).baselines = db.baselines := rfl

@[simp] lemma writeBaseline_plans : (writeBaseline planID generation w f db).plans = db.plans := rfl

@[simp] lemma writeBaseline_snapshots :
    (writeBaseline planID generation w f db).snapshots = db.snapshots := rfl

lemma writeSnapshot_self :
    (writeSnapshot accountID signal authoritative authoritativeAt now db).snapshots
      (accountID, signal.windowType) = some
      { windowStart := signal.windowStart
        resetAt := signal.resetAt
        usedMicros := signal.accountUsedMicros
        updatedAt := now
        authoritative := authoritative
        authoritativeAt := if authoritative then some authoritativeAt else none } :=
  Function.update_self ..

lemma writeSnapshot_ne {key : String × WindowType} (h : key ≠ (accountID, signal.windowType)) :
    (writeSnapshot accountID signal authoritative authoritativeAt now db).snapshots key =
      db.snapshots key := Function.update_of_ne h ..

lemma writeBaseline_self :
    (writeBaseline planID generation w f db).baselines (planID, generation, w) =
      some (f (db.baselines (planID, generation, w))) := Function.update_self ..

lemma writeBaseline_ne {key : String × ℕ × WindowType} (h : key ≠ (planID, generation, w)) :
    (writeBaseline planID generation w f db).baselines key = db.baselines key :=
  Function.update_of_ne h ..

end Api

def removeMissingOptionalQuotaWindows (accountID : String) (signals : List QuotaSignal)
    (db : QuotaDB) : QuotaDB :=
  if ¬ (∃ s ∈ signals, s.windowType = .window7D) ∨ (∃ s ∈ signals, s.windowType = .window5H) then db
  else
    { db with
      baselines := fun key => (db.baselines key).filter fun b =>
        ¬ (b.accountID = accountID ∧ key.2.2 = .window5H)
      snapshots := Function.update db.snapshots (accountID, .window5H) none }

/-- The loop over the signals. `none` is the early return that rolls the transaction back. -/
def recordSignals (planID accountID : String) (generation : ℕ) (now : ℤ) (authoritative : Bool) :
    List QuotaSignal → QuotaDB → Except DomainError (Option QuotaDB)
  | [], db => .ok (some db)
  | signal :: rest, db =>
    match lockAndReconcileAccountQuotaSignal (db.snapshots (accountID, signal.windowType)) signal
      authoritative now with
    | none =>
      if authoritative then .ok none
      else recordSignals planID accountID generation now authoritative rest db
    | some (accepted, snapshotAuthoritative, authoritativeAt) => do
      ensure (usageInRange accepted.accountUsedMicros) .database
      recordSignals planID accountID generation now authoritative rest
        (writeBaseline planID generation accepted.windowType (keepBaseline accountID accepted now)
          (writeSnapshot accountID accepted snapshotAuthoritative authoritativeAt now db))

/-- The lock on the plan row and the check that the caller's binding is the current one. -/
def currentBinding (planID accountID : String) (generation : ℕ) (db : QuotaDB) :
    Except DomainError Unit := do
  let plan ← orFail (db.plans.rows.find? fun p => p.id = planID) .notFound
  let current ← orFail plan.accountID .database
  ensure (current = accountID ∧ plan.generation = generation) .conflict

def recordAccountQuotaSignals (planID accountID : String) (generation : ℕ)
    (signals : List QuotaSignal) (now : ℤ) (authoritative : Bool) (db : QuotaDB) :
    Except DomainError QuotaDB := do
  currentBinding planID accountID generation db
  let recorded ← recordSignals planID accountID generation now authoritative signals
    (if authoritative then removeMissingOptionalQuotaWindows accountID signals db else db)
  pure (recorded.getD db)

/-- `orderedBindingQuotaSignals`: the weekly window is required, the 5h window optional and first. -/
def orderedBindingQuotaSignals (signals : List QuotaSignal) : Option (List QuotaSignal) :=
  let fiveHour := signals.filter fun s => s.windowType = .window5H
  let sevenDay := signals.filter fun s => s.windowType = .window7D
  if fiveHour.length ≤ 1 ∧ sevenDay.length = 1 then some (fiveHour ++ sevenDay) else none

/-- The writes of `RecordQuotaResetSignals` for one signal: both rows are replaced. -/
def resetSignal (planID accountID : String) (generation : ℕ) (now : ℤ) (signal : QuotaSignal)
    (db : QuotaDB) : Except DomainError QuotaDB := do
  ensure (usageInRange signal.accountUsedMicros) .database
  pure (writeBaseline planID generation signal.windowType (fun _ => newBaseline accountID signal now)
    (writeSnapshot accountID signal true now now db))

def recordQuotaResetSignals (planID accountID : String) (generation : ℕ) (signals : List QuotaSignal)
    (now : ℤ) (db : QuotaDB) : Except DomainError QuotaDB := do
  let ordered ← orFail (orderedBindingQuotaSignals signals) .invalidInput
  currentBinding planID accountID generation db
  ordered.foldlM (fun db signal => resetSignal planID accountID generation now signal db)
    (removeMissingOptionalQuotaWindows accountID ordered db)

end Recording

section Binding

/-- The writes of `initializePlanAccountBinding` for one signal; the baseline must be new. -/
def bindSignal (planID accountID : String) (generation : ℕ) (observedAt : ℤ) (signal : QuotaSignal)
    (db : QuotaDB) : Except DomainError QuotaDB := do
  ensure (usageInRange signal.accountUsedMicros) .database
  ensure (db.baselines (planID, generation, signal.windowType) = none) .conflict
  pure (writeBaseline planID generation signal.windowType
    (fun _ => newBaseline accountID signal observedAt)
    (writeSnapshot accountID signal true observedAt observedAt db))

def initializePlanAccountBinding (planID accountID : String) (generation : ℕ)
    (signals : List QuotaSignal) (observedAt : ℤ) (db : QuotaDB) : Except DomainError QuotaDB := do
  let ordered ← orFail (orderedBindingQuotaSignals signals) .invalidInput
  ordered.foldlM (fun db signal => bindSignal planID accountID generation observedAt signal db) db

/-- `Store.CreatePlan` on the binding tables; the checks on members and accounts are arguments. -/
def createBoundPlan (ownerCheck accountCheck : Except DomainError Unit) (planID ownerID : String)
    (accountID : Option String) (signals : List QuotaSignal) (observedAt : ℤ) (db : QuotaDB) :
    Except DomainError QuotaDB := do
  ownerCheck
  match accountID with
  | none =>
    let plans ← orFail (db.plans.insert? ⟨planID, ownerID, none, 0⟩) .conflict
    pure { db with plans := plans }
  | some account =>
    ensure (signals ≠ []) .invalidInput
    accountCheck
    ensure (¬ ∃ p ∈ db.plans.rows, p.accountID = some account) .accountAlreadyBound
    let plans ← orFail (db.plans.insert? ⟨planID, ownerID, some account, 1⟩) .conflict
    initializePlanAccountBinding planID account 1 signals observedAt { db with plans := plans }

/-- `Store.RebindPlanAccount`. -/
def rebindPlanAccount (accountCheck capacityCheck : Except DomainError Unit) (planID ownerID accountID : String)
    (signals : List QuotaSignal) (observedAt : ℤ) (db : QuotaDB) : Except DomainError QuotaDB := do
  ensure (signals ≠ []) .invalidInput
  let plan ← orFail (db.plans.rows.find? fun p => p.id = planID) .notFound
  ensure (plan.ownerUserID = ownerID) .forbidden
  ensure (plan.accountID ≠ some accountID) .conflict
  accountCheck
  ensure (¬ ∃ p ∈ db.plans.rows, p.accountID = some accountID ∧ p.id ≠ planID) .accountAlreadyBound
  capacityCheck
  let plans ← orFail (db.plans.update? (fun p => p.id = planID) fun p =>
    { p with accountID := some accountID, generation := plan.generation + 1 }) .conflict
  initializePlanAccountBinding planID accountID (plan.generation + 1) signals observedAt
    { db with plans := plans }

end Binding

end ShareSub.QuotaModel

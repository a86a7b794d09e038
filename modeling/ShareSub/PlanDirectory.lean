import ShareSub.FiniteMap
import ShareSub.PlanSystem
import ShareSub.TrafficModel

/-!
# All plans with the accounts they are bound to

The embedding of `concurrency.go`, of `CreatePlan`, `RebindPlanAccount`, `DeletePlan` and of the account statements of
`store.go`, as far as they decide about limits. A serializable transaction is one step: it holds the row locks that it
takes, and it fails if a row that it reads was changed. `UpdateAccountConfig` runs under read committed, so its
statements are steps of their own, and between them it holds the lock on the row of its account. The quota windows of a
binding are in `QuotaModel`.
-/
namespace ShareSub.PlanDirectory

open PlanModel PlanSystem Transaction
open TrafficModel (MemberLimit ConcurrencyPolicy)

section Data

/-- `waiting` stands for a statement that waits for a row lock. -/
inductive DirectoryError
  | domain (e : DomainError)
  | concurrencyConfiguration
  | waiting
  deriving DecidableEq, Repr

/-- A plan with its column `concurrency_enabled`. -/
structure HostedPlan where
  plan : Plan
  concurrencyEnabled : Bool

/-- The columns of `openai_accounts` that the plans depend on. -/
structure HostAccount where
  ownerUserID : String
  chatGPTAccountID : String
  active : Bool
  maxConcurrency : ℤ
  deriving DecidableEq, Repr

/-- An `UpdateAccountConfig` after its `UPDATE`, with the bound plans that it has yet to validate. -/
structure AccountConfig where
  accountID : String
  maxConcurrency : ℤ
  active : Bool
  boundPlans : Option (List String)
  deriving DecidableEq, Repr

structure Directory where
  clock : ℤ
  plans : FiniteMap String HostedPlan
  accounts : FiniteMap String HostAccount
  configs : List AccountConfig

def Directory.Locked (d : Directory) (accountID : String) : Prop := ∃ c ∈ d.configs, c.accountID = accountID

instance (d : Directory) (accountID : String) : Decidable (d.Locked accountID) :=
  inferInstanceAs (Decidable (∃ c ∈ d.configs, c.accountID = accountID))

/-- `SELECT id FROM shared_plans WHERE account_id=$1`. -/
def Directory.boundPlans (d : Directory) (accountID : String) : List String :=
  (d.plans.entries.filter fun e => e.2.plan.accountID = some accountID).map Sigma.fst

/-- An account row that is read `FOR UPDATE`. -/
def Directory.lockAccount (d : Directory) (accountID : String) : Except DirectoryError HostAccount := do
  ensure (¬ d.Locked accountID) .waiting
  orFail (d.accounts.lookup accountID) (.domain .notFound)

def Directory.putPlan (d : Directory) (planID : String) (h : HostedPlan) : Directory :=
  { d with plans := d.plans.insert planID h }

end Data

section Policies

def reservedBase (p : Plan) : ℤ := sumWhere (fun m => m.status = .active) Member.concurrencyBase p.members.rows

/-- `planConcurrencyPolicySQL`. -/
def HostedPlan.policy (h : HostedPlan) : ConcurrencyPolicy where
  enabled := h.concurrencyEnabled
  members :=
    ((h.plan.members.rows.filter fun m => m.status = .active).mergeSort fun m m' =>
      m.createdAt < m'.createdAt ∨ m.createdAt = m'.createdAt ∧ m.id ≤ m'.id).map fun m =>
        ⟨m.userID, m.concurrencyBase, m.concurrencyMax⟩

def validatePlanConcurrencyCapacity (h : HostedPlan) (accountMax : ℤ) : Except DirectoryError Unit :=
  ensure (h.concurrencyEnabled → ¬ (accountMax ≤ 0 ∨ accountMax < reservedBase h.plan)) .concurrencyConfiguration

/-- The checks of a limit in the loop over `policy.Members`, which are those of the columns too. -/
def limitInRange (m : MemberLimit) : Prop :=
  0 ≤ m.baseLimit ∧ m.baseLimit ≤ 100 ∧ 0 ≤ m.maxConcurrency ∧ m.maxConcurrency ≤ 100 ∧
    (0 < m.maxConcurrency → m.baseLimit ≤ m.maxConcurrency)

instance (m : MemberLimit) : Decidable (limitInRange m) :=
  inferInstanceAs (Decidable (0 ≤ m.baseLimit ∧ m.baseLimit ≤ 100 ∧ 0 ≤ m.maxConcurrency ∧ m.maxConcurrency ≤ 100 ∧
    (0 < m.maxConcurrency → m.baseLimit ≤ m.maxConcurrency)))

/-- The loop that checks the limits and sums up `reserved`. -/
def checkLimits : List MemberLimit → List String → ℤ → Except DirectoryError ℤ
  | [], _, reserved => .ok reserved
  | m :: rest, users, reserved => do
    ensure (m.userID ∈ users) (.domain .conflict)
    ensure (limitInRange m) (.domain .invalidInput)
    checkLimits rest (users.erase m.userID) (reserved + m.baseLimit)

/-- The loop that writes the limits to the active members. -/
def writeLimits : List MemberLimit → MemberTable → Except DirectoryError MemberTable
  | [], members => .ok members
  | limit :: rest, members => do
    let members ← orFail (members.update? (fun m => m.userID = limit.userID ∧ m.status = .active) fun m =>
      { m with concurrencyBase := limit.baseLimit, concurrencyMax := limit.maxConcurrency }) (.domain .database)
    writeLimits rest members

/-- The limit of the account that a plan is bound to, or 0. -/
def Directory.limitOf (d : Directory) : Option String → Except DirectoryError ℤ
  | none => .ok 0
  | some accountID => HostAccount.maxConcurrency <$> d.lockAccount accountID

def Directory.updatePlanConcurrency (d : Directory) (planID ownerID : String) (policy : ConcurrencyPolicy) :
    Except DirectoryError Directory := do
  let h ← orFail (d.plans.lookup planID) (.domain .notFound)
  ensure (h.plan.ownerUserID = ownerID) (.domain .forbidden)
  ensure (h.plan.status = .active) (.domain .invalidInput)
  let limit ← d.limitOf h.plan.accountID
  let users := (h.plan.members.rows.filter fun m => m.status = .active).map Member.userID
  ensure (users.length = policy.members.length) (.domain .conflict)
  let reserved ← checkLimits policy.members users 0
  ensure (policy.enabled → ¬ (limit ≤ 0 ∨ limit < reserved)) .concurrencyConfiguration
  let members ← writeLimits policy.members h.plan.members
  pure (d.putPlan planID ⟨{ h.plan with members := members }, policy.enabled⟩)

end Policies

section Plans

/-- The checks on the account of a new plan. -/
def Directory.accountCheck (d : Directory) (userID accountID : String) : Except DomainError Unit := do
  let a ← orFail (d.accounts.lookup accountID) .notFound
  ensure (a.ownerUserID = userID) .forbidden
  ensure (a.active = true) .accountUnavailable
  ensure (d.boundPlans accountID = []) .accountAlreadyBound

def Directory.createPlan (d : Directory) (ownerMembership : Except DomainError Unit) (planID userID memberID : String)
    (accountID : Option String) (mode : AllocationMode) (share : ℤ) : Except DirectoryError Directory := do
  ensure (∀ id ∈ accountID, ¬ d.Locked id) .waiting
  ensure (d.plans.lookup planID = none) (.domain .conflict)
  let plan ← (PlanModel.createPlan ownerMembership (d.accountCheck userID (accountID.getD ""))
    (newPlan d.clock userID accountID mode) (newOwner d.clock userID memberID share)).mapError .domain
  pure (d.putPlan planID ⟨plan, false⟩)

/-- An operation on one plan. -/
def Directory.planOp (d : Directory) (planID : String) (op : PlanOp) : Except DirectoryError Directory := do
  let h ← orFail (d.plans.lookup planID) (.domain .notFound)
  let plan ← (apply d.clock h.plan op).mapError .domain
  pure { d.putPlan planID { h with plan := plan } with clock := tick d.clock op }

def Directory.deletePlan (d : Directory) (planID ownerID : String) : Except DirectoryError Directory := do
  let h ← orFail (d.plans.lookup planID) (.domain .notFound)
  ensure (h.plan.ownerUserID = ownerID) (.domain .forbidden)
  ensure (h.plan.status = .archived) (.domain .conflict)
  pure { d with plans := d.plans.erase planID }

def Directory.rebindPlanAccount (d : Directory) (planID ownerID accountID : String) :
    Except DirectoryError Directory := do
  let h ← orFail (d.plans.lookup planID) (.domain .notFound)
  ensure (h.plan.ownerUserID = ownerID) (.domain .forbidden)
  ensure (h.plan.accountID ≠ some accountID) (.domain .conflict)
  let a ← d.lockAccount accountID
  ensure (a.ownerUserID = ownerID) (.domain .forbidden)
  ensure (a.active = true) (.domain .accountUnavailable)
  ensure (∀ id ∈ d.boundPlans accountID, id = planID) (.domain .accountAlreadyBound)
  validatePlanConcurrencyCapacity h a.maxConcurrency
  pure (d.putPlan planID { h with plan :=
    { h.plan with
      accountID := some accountID
      accountBindingGeneration := h.plan.accountBindingGeneration + 1 } })

end Plans

section Accounts

/-- `CHECK (max_concurrency BETWEEN 0 AND 100)`. -/
def maxInRange (maxConcurrency : ℤ) : Prop := 0 ≤ maxConcurrency ∧ maxConcurrency ≤ 100

instance (maxConcurrency : ℤ) : Decidable (maxInRange maxConcurrency) :=
  inferInstanceAs (Decidable (0 ≤ maxConcurrency ∧ maxConcurrency ≤ 100))

/-- The row that the unique index on owner and upstream account has. -/
def Directory.conflicting (d : Directory) (ownerID chatGPTAccountID : String) : Option (String × HostAccount) :=
  (d.accounts.entries.find? fun e => e.2.ownerUserID = ownerID ∧ e.2.chatGPTAccountID = chatGPTAccountID).map
    fun e => (e.1, e.2)

/-- A row that exists keeps its limit. -/
def Directory.createOrRotateAccountAuthorization (d : Directory) (id : String) (account : HostAccount) :
    Except DirectoryError Directory := do
  ensure (maxInRange account.maxConcurrency) (.domain .database)
  match d.conflicting account.ownerUserID account.chatGPTAccountID with
  | some (existing, a) =>
    ensure (¬ d.Locked existing) .waiting
    pure { d with accounts := d.accounts.insert existing { a with active := true } }
  | none =>
    ensure (d.accounts.lookup id = none) (.domain .conflict)
    pure { d with accounts := d.accounts.insert id account }

/-- The `UPDATE` of `UpdateAccountConfig`. -/
def Directory.updateAccountConfig (d : Directory) (userID accountID : String) (maxConcurrency : ℤ) (active : Bool) :
    Except DirectoryError Directory := do
  ensure (maxInRange maxConcurrency) (.domain .database)
  let a ← d.lockAccount accountID
  ensure (a.ownerUserID = userID) (.domain .notFound)
  pure { d with configs := d.configs ++ [⟨accountID, maxConcurrency, active, none⟩] }

def Directory.selectBoundPlans (d : Directory) (i : ℕ) : Except DirectoryError Directory := do
  let c ← orFail d.configs[i]? (.domain .notFound)
  ensure (c.boundPlans = none) (.domain .conflict)
  pure { d with configs := d.configs.set i { c with boundPlans := some (d.boundPlans c.accountID) } }

def Directory.rollbackAccountConfig (d : Directory) (i : ℕ) : Directory := { d with configs := d.configs.eraseIdx i }

/-- The next call of `validatePlanConcurrencyCapacity`; a plan that does not fit, or is gone, ends the transaction. -/
def Directory.validateBoundPlan (d : Directory) (i : ℕ) : Except DirectoryError Directory := do
  let c ← orFail d.configs[i]? (.domain .notFound)
  match c.boundPlans with
  | some (planID :: rest) =>
    match d.plans.lookup planID with
    | none => pure (d.rollbackAccountConfig i)
    | some h =>
      match validatePlanConcurrencyCapacity h c.maxConcurrency with
      | .ok _ => pure { d with configs := d.configs.set i { c with boundPlans := some rest } }
      | .error _ => pure (d.rollbackAccountConfig i)
  | _ => .error (.domain .conflict)

def Directory.commitAccountConfig (d : Directory) (i : ℕ) : Except DirectoryError Directory := do
  let c ← orFail d.configs[i]? (.domain .notFound)
  ensure (c.boundPlans = some []) (.domain .conflict)
  let a ← orFail (d.accounts.lookup c.accountID) (.domain .notFound)
  pure { d with
    accounts := d.accounts.insert c.accountID { a with maxConcurrency := c.maxConcurrency, active := c.active }
    configs := d.configs.eraseIdx i }

end Accounts

section Steps

inductive DirectoryOp
  | createPlan (ownerMembership : Except DomainError Unit) (planID userID memberID : String) (accountID : Option String)
      (mode : AllocationMode) (share : ℤ)
  | planOp (planID : String) (op : PlanOp)
  | deletePlan (planID ownerID : String)
  | updatePlanConcurrency (planID ownerID : String) (policy : ConcurrencyPolicy)
  | rebindPlanAccount (planID ownerID accountID : String)
  | createOrRotateAccountAuthorization (id : String) (account : HostAccount)
  | updateAccountConfig (userID accountID : String) (maxConcurrency : ℤ) (active : Bool)
  | selectBoundPlans (i : ℕ)
  | validateBoundPlan (i : ℕ)
  | commitAccountConfig (i : ℕ)
  | rollbackAccountConfig (i : ℕ)

def directoryStep (d : Directory) : DirectoryOp → Except DirectoryError Directory
  | .createPlan ownerMembership planID userID memberID accountID mode share =>
    d.createPlan ownerMembership planID userID memberID accountID mode share
  | .planOp planID op => d.planOp planID op
  | .deletePlan planID ownerID => d.deletePlan planID ownerID
  | .updatePlanConcurrency planID ownerID policy => d.updatePlanConcurrency planID ownerID policy
  | .rebindPlanAccount planID ownerID accountID => d.rebindPlanAccount planID ownerID accountID
  | .createOrRotateAccountAuthorization id account => d.createOrRotateAccountAuthorization id account
  | .updateAccountConfig userID accountID maxConcurrency active =>
    d.updateAccountConfig userID accountID maxConcurrency active
  | .selectBoundPlans i => d.selectBoundPlans i
  | .validateBoundPlan i => d.validateBoundPlan i
  | .commitAccountConfig i => d.commitAccountConfig i
  | .rollbackAccountConfig i => .ok (d.rollbackAccountConfig i)

def emptyDirectory (clock : ℤ) : Directory := ⟨clock, ∅, ∅, []⟩

/-- The directories that committed steps lead to. -/
def DirectoryRun (clock : ℤ) : List DirectoryOp → Directory → Prop :=
  Run (fun d op d' => directoryStep d op = .ok d') (emptyDirectory clock)

end Steps

section Origins

/-- A step that concerns a plan only. -/
def AccountsKept (d d' : Directory) : Prop := d'.accounts = d.accounts ∧ d'.configs = d.configs

/-- Where a plan comes from after a step. -/
inductive PlanOrigin (d : Directory) (op : DirectoryOp) (d' : Directory) (id : String) (h' : HostedPlan) : Prop
  | kept (hold : d.plans.lookup id = some h')
  | created {ownerMembership accountCheck : Except DomainError Unit} {userID memberID : String}
      {accountID : Option String} {mode : AllocationMode} {share : ℤ} (hnew : d.plans.lookup id = none)
      (hplan : PlanModel.createPlan ownerMembership accountCheck (newPlan d.clock userID accountID mode)
        (newOwner d.clock userID memberID share) = .ok h'.plan) (henabled : h'.concurrencyEnabled = false)
      (hframe : AccountsKept d d')
  | operated {h : HostedPlan} {planOp : PlanOp} (hop : op = .planOp id planOp) (hold : d.plans.lookup id = some h)
      (hplan : apply d.clock h.plan planOp = .ok h'.plan) (henabled : h'.concurrencyEnabled = h.concurrencyEnabled)
      (hframe : AccountsKept d d')
  | limited {h : HostedPlan} {policy : ConcurrencyPolicy} {limit reserved : ℤ} {members : MemberTable}
      (hold : d.plans.lookup id = some h) (hlimit : d.limitOf h.plan.accountID = .ok limit)
      (hlength : ((h.plan.members.rows.filter fun m => m.status = .active).map Member.userID).length =
        policy.members.length)
      (hcheck : checkLimits policy.members
        ((h.plan.members.rows.filter fun m => m.status = .active).map Member.userID) 0 = .ok reserved)
      (hcap : policy.enabled → ¬ (limit ≤ 0 ∨ limit < reserved))
      (hwrite : writeLimits policy.members h.plan.members = .ok members)
      (hplan : h' = ⟨{ h.plan with members := members }, policy.enabled⟩) (hframe : AccountsKept d d')
  | rebound {h : HostedPlan} {accountID : String} {a : HostAccount} (hold : d.plans.lookup id = some h)
      (hlock : d.lockAccount accountID = .ok a)
      (hcap : h.concurrencyEnabled → ¬ (a.maxConcurrency ≤ 0 ∨ a.maxConcurrency < reservedBase h.plan))
      (hplan : h' = { h with plan :=
        { h.plan with
          accountID := some accountID
          accountBindingGeneration := h.plan.accountBindingGeneration + 1 } }) (hframe : AccountsKept d d')

variable {d d' : Directory} {op : DirectoryOp} {id : String} {h' : HostedPlan}

lemma mapError_eq_ok {ε ε' α : Type} {x : Except ε α} {f : ε → ε'} {r : α} : x.mapError f = .ok r ↔ x = .ok r := by
  cases x <;> simp [Except.mapError]

lemma lookup_putPlan {planID : String} {h : HostedPlan} (hlookup : (d.putPlan planID h).plans.lookup id = some h') :
    id = planID ∧ h' = h ∨ d.plans.lookup id = some h' := by
  rw [Directory.putPlan, FiniteMap.lookup_insert] at hlookup
  split_ifs at hlookup with hid
  · cases hlookup
    exact Or.inl ⟨hid, rfl⟩
  · exact Or.inr hlookup

lemma step_plan (hstep : directoryStep d op = .ok d') (hlookup : d'.plans.lookup id = some h') :
    PlanOrigin d op d' id h' := by
  cases op with
  | createPlan om planID userID memberID accountID mode share =>
    simp only [directoryStep, Directory.createPlan, check_bind_eq_ok, ensure_eq_ok] at hstep
    obtain ⟨-, hnew, hstep⟩ := hstep
    simp only [bind_eq_ok, mapError_eq_ok, commit_eq_ok] at hstep
    obtain ⟨plan, hplan, rfl⟩ := hstep
    rcases lookup_putPlan hlookup with ⟨rfl, rfl⟩ | hold
    · exact .created hnew hplan rfl ⟨rfl, rfl⟩
    · exact .kept hold
  | planOp planID op =>
    simp only [directoryStep, Directory.planOp, orFail_bind_eq_ok] at hstep
    obtain ⟨h, hold, hstep⟩ := hstep
    simp only [bind_eq_ok, mapError_eq_ok, commit_eq_ok] at hstep
    obtain ⟨plan, hplan, rfl⟩ := hstep
    rcases lookup_putPlan hlookup with ⟨rfl, rfl⟩ | hold
    · exact .operated rfl hold hplan rfl ⟨rfl, rfl⟩
    · exact .kept hold
  | deletePlan planID ownerID =>
    simp only [directoryStep, Directory.deletePlan, orFail_bind_eq_ok, check_bind_eq_ok, commit_eq_ok] at hstep
    obtain ⟨h, -, -, -, rfl⟩ := hstep
    have hne : id ≠ planID := by
      rintro rfl
      rw [AList.lookup_erase] at hlookup
      cases hlookup
    rw [AList.lookup_erase_ne hne] at hlookup
    exact .kept hlookup
  | updatePlanConcurrency planID ownerID policy =>
    simp only [directoryStep, Directory.updatePlanConcurrency, orFail_bind_eq_ok, check_bind_eq_ok] at hstep
    obtain ⟨h, hold, -, -, hstep⟩ := hstep
    simp only [bind_eq_ok, commit_eq_ok] at hstep
    obtain ⟨limit, hlimit, ⟨⟩, hlength, reserved, hcheck, ⟨⟩, hcap, members, hwrite, rfl⟩ := hstep
    rcases lookup_putPlan hlookup with ⟨rfl, rfl⟩ | hold
    · exact .limited hold hlimit (ensure_eq_ok.mp hlength) hcheck (ensure_eq_ok.mp hcap) hwrite rfl ⟨rfl, rfl⟩
    · exact .kept hold
  | rebindPlanAccount planID ownerID accountID =>
    simp only [directoryStep, Directory.rebindPlanAccount, orFail_bind_eq_ok, check_bind_eq_ok] at hstep
    obtain ⟨h, hold, -, -, hstep⟩ := hstep
    obtain ⟨a, hlock, hstep⟩ := bind_eq_ok.mp hstep
    simp only [check_bind_eq_ok, commit_eq_ok] at hstep
    obtain ⟨-, -, -, hvalid, rfl⟩ := hstep
    rcases lookup_putPlan hlookup with ⟨rfl, rfl⟩ | hold
    · exact .rebound hold hlock (ensure_eq_ok.mp hvalid) rfl ⟨rfl, rfl⟩
    · exact .kept hold
  | createOrRotateAccountAuthorization accountID account =>
    simp only [directoryStep, Directory.createOrRotateAccountAuthorization, check_bind_eq_ok] at hstep
    obtain ⟨-, hstep⟩ := hstep
    split at hstep
    · simp only [check_bind_eq_ok, commit_eq_ok] at hstep
      obtain ⟨-, rfl⟩ := hstep
      exact .kept hlookup
    · simp only [check_bind_eq_ok, commit_eq_ok] at hstep
      obtain ⟨-, rfl⟩ := hstep
      exact .kept hlookup
  | updateAccountConfig userID accountID maxConcurrency active =>
    simp only [directoryStep, Directory.updateAccountConfig, check_bind_eq_ok] at hstep
    obtain ⟨-, hstep⟩ := hstep
    obtain ⟨a, -, hstep⟩ := bind_eq_ok.mp hstep
    simp only [check_bind_eq_ok, commit_eq_ok] at hstep
    obtain ⟨-, rfl⟩ := hstep
    exact .kept hlookup
  | selectBoundPlans i =>
    simp only [directoryStep, Directory.selectBoundPlans, orFail_bind_eq_ok, check_bind_eq_ok, commit_eq_ok] at hstep
    obtain ⟨c, -, -, rfl⟩ := hstep
    exact .kept hlookup
  | validateBoundPlan i =>
    simp only [directoryStep, Directory.validateBoundPlan, orFail_bind_eq_ok] at hstep
    obtain ⟨c, -, hstep⟩ := hstep
    split at hstep
    · split at hstep
      · cases hstep
        exact .kept hlookup
      · split at hstep
        · cases hstep
          exact .kept hlookup
        · cases hstep
          exact .kept hlookup
    · cases hstep
  | commitAccountConfig i =>
    simp only [directoryStep, Directory.commitAccountConfig, orFail_bind_eq_ok, check_bind_eq_ok, commit_eq_ok] at hstep
    obtain ⟨c, -, -, a, -, rfl⟩ := hstep
    exact .kept hlookup
  | rollbackAccountConfig i =>
    cases hstep
    exact .kept hlookup

/-- What a step does to the accounts and to the pending transactions. -/
inductive AccountChange (d d' : Directory) : Prop
  | kept (hkept : AccountsKept d d')
  | rotated {existing : String} {a : HostAccount} (ha : d.accounts.lookup existing = some a)
      (hnew : d' = { d with accounts := d.accounts.insert existing { a with active := true } })
  | added {accountID : String} {a : HostAccount} (hfree : d.accounts.lookup accountID = none)
      (hnew : d' = { d with accounts := d.accounts.insert accountID a })
  | started {c : AccountConfig} (hnone : c.boundPlans = none) (hnew : d' = { d with configs := d.configs ++ [c] })
  | selected {i : ℕ} {c : AccountConfig} (hnew : d' =
      { d with configs := d.configs.set i { c with boundPlans := some (d.boundPlans c.accountID) } })
  | validated {i : ℕ} {c : AccountConfig} {planID : String} {rest : List String} {h : HostedPlan}
      (hc : d.configs[i]? = some c) (hbound : c.boundPlans = some (planID :: rest))
      (hplan : d.plans.lookup planID = some h)
      (hcap : h.concurrencyEnabled → ¬ (c.maxConcurrency ≤ 0 ∨ c.maxConcurrency < reservedBase h.plan))
      (hnew : d' = { d with configs := d.configs.set i { c with boundPlans := some rest } })
  | ended {i : ℕ} (hnew : d' = d.rollbackAccountConfig i)
  | committed {i : ℕ} {c : AccountConfig} {a : HostAccount} (hc : d.configs[i]? = some c)
      (hdone : c.boundPlans = some []) (hnew : d' =
        { d with
          accounts := d.accounts.insert c.accountID { a with maxConcurrency := c.maxConcurrency, active := c.active }
          configs := d.configs.eraseIdx i })

lemma step_accountChange (hstep : directoryStep d op = .ok d') : AccountChange d d' := by
  cases op with
  | createPlan om planID userID memberID accountID mode share =>
    simp only [directoryStep, Directory.createPlan, check_bind_eq_ok] at hstep
    simp only [bind_eq_ok, commit_eq_ok] at hstep
    obtain ⟨-, -, plan, -, rfl⟩ := hstep
    exact .kept ⟨rfl, rfl⟩
  | planOp planID op =>
    simp only [directoryStep, Directory.planOp, bind_eq_ok, commit_eq_ok] at hstep
    obtain ⟨h, -, plan, -, rfl⟩ := hstep
    exact .kept ⟨rfl, rfl⟩
  | deletePlan planID ownerID =>
    simp only [directoryStep, Directory.deletePlan, bind_eq_ok, commit_eq_ok] at hstep
    obtain ⟨h, -, ⟨⟩, -, ⟨⟩, -, rfl⟩ := hstep
    exact .kept ⟨rfl, rfl⟩
  | updatePlanConcurrency planID ownerID policy =>
    simp only [directoryStep, Directory.updatePlanConcurrency, bind_eq_ok, commit_eq_ok] at hstep
    obtain ⟨h, -, ⟨⟩, -, ⟨⟩, -, limit, -, ⟨⟩, -, reserved, -, ⟨⟩, -, members, -, rfl⟩ := hstep
    exact .kept ⟨rfl, rfl⟩
  | rebindPlanAccount planID ownerID accountID =>
    simp only [directoryStep, Directory.rebindPlanAccount, bind_eq_ok, commit_eq_ok] at hstep
    obtain ⟨h, -, ⟨⟩, -, ⟨⟩, -, a, -, ⟨⟩, -, ⟨⟩, -, ⟨⟩, -, ⟨⟩, -, rfl⟩ := hstep
    exact .kept ⟨rfl, rfl⟩
  | createOrRotateAccountAuthorization accountID account =>
    simp only [directoryStep, Directory.createOrRotateAccountAuthorization, check_bind_eq_ok] at hstep
    obtain ⟨-, hstep⟩ := hstep
    split at hstep
    · next existing a hfound =>
      simp only [check_bind_eq_ok, commit_eq_ok] at hstep
      obtain ⟨-, rfl⟩ := hstep
      obtain ⟨e, he, ha⟩ := Option.map_eq_some_iff.mp hfound
      cases ha
      exact .rotated (FiniteMap.mem_entries_iff.mp (List.mem_of_find?_eq_some he)) rfl
    · simp only [check_bind_eq_ok, ensure_eq_ok, commit_eq_ok] at hstep
      obtain ⟨hfree, rfl⟩ := hstep
      exact .added hfree rfl
  | updateAccountConfig userID accountID maxConcurrency active =>
    simp only [directoryStep, Directory.updateAccountConfig, bind_eq_ok, commit_eq_ok] at hstep
    obtain ⟨⟨⟩, -, a, -, ⟨⟩, -, rfl⟩ := hstep
    exact .started rfl rfl
  | selectBoundPlans i =>
    simp only [directoryStep, Directory.selectBoundPlans, bind_eq_ok, commit_eq_ok] at hstep
    obtain ⟨c, -, ⟨⟩, -, rfl⟩ := hstep
    exact .selected rfl
  | validateBoundPlan i =>
    simp only [directoryStep, Directory.validateBoundPlan, orFail_bind_eq_ok] at hstep
    obtain ⟨c, hc, hstep⟩ := hstep
    split at hstep
    · next hbound =>
      split at hstep
      · cases hstep
        exact .ended rfl
      · next hplan =>
        split at hstep
        · next hvalid =>
          cases hstep
          exact .validated hc hbound hplan (ensure_eq_ok.mp hvalid) rfl
        · cases hstep
          exact .ended rfl
    · cases hstep
  | commitAccountConfig i =>
    simp only [directoryStep, Directory.commitAccountConfig, orFail_bind_eq_ok, check_bind_eq_ok, ensure_eq_ok,
      commit_eq_ok] at hstep
    obtain ⟨c, hc, hdone, a, -, rfl⟩ := hstep
    exact .committed hc hdone rfl
  | rollbackAccountConfig i =>
    cases hstep
    exact .ended rfl

end Origins

end ShareSub.PlanDirectory

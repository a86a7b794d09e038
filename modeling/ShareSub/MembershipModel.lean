import ShareSub.PlanModel

/-!
# Platform memberships and their payment orders

The embedding of `membership.go`, `membership_orders.go`, `membership_fulfillment.go` and
`payment_settings.go`. Every operation locks the user's row first and is one transaction.
Instants are microsecond counts. What an order carries only for the checkout page (the
encrypted provider key, the payment method) and the time of its last query are left out.
-/
namespace ShareSub.MembershipModel
open PlanModel Transaction

inductive Tier | none | vip | svip
  deriving DecidableEq, Repr

inductive Product | vip | svip | upgrade
  deriving DecidableEq, Repr

inductive OrderStatus | pending | expired | paid | reviewRequired
  deriving DecidableEq, Repr

inductive Source | none | payment | rollout | admin
  deriving DecidableEq, Repr

inductive UserStatus | active | disabled
  deriving DecidableEq, Repr

/-- A row of `user_memberships`. -/
structure MembershipRow where
  tier : Tier
  expiresAt : Option ℤ
  ownerLimitOverride : Option ℤ
  revision : ℤ
  source : Source
  updatedAt : ℤ
  deriving DecidableEq, Repr

/-- A row of `membership_payment_orders`. -/
structure Order where
  id : String
  userID : String
  product : Product
  amountCents : ℤ
  membershipRevision : ℤ
  upgradeExpiresAt : Option ℤ
  providerPID : String
  providerBaseURL : String
  status : OrderStatus
  tradeNo : Option String
  createdAt : ℤ
  expiresAt : ℤ
  paidAt : Option ℤ
  serviceExpiresAt : Option ℤ
  deriving DecidableEq, Repr

/-- The two unique indexes of the orders: one pending order for each user, and one settled
order for each trade number of a provider. No other order has a trade number. -/
def orderIndex (o : Order) : Option (String ⊕ String × String × String) :=
  match o.status with
  | .pending => some (.inl o.userID)
  | .expired => none
  | .paid | .reviewRequired => o.tradeNo.map fun tradeNo => .inr (o.providerBaseURL, o.providerPID, tradeNo)

abbrev OrderTable := Table Order.id orderIndex

/-- The row of `payment_settings`, without the encrypted key. -/
structure PaymentSettings where
  baseURL : String
  pid : String
  enabled : Bool
  revision : ℤ
  deriving DecidableEq, Repr

/-- `ownedPlans` counts a user's plans that are not archived, `seated` tells whether he is an
active member of one. -/
structure MembershipState where
  users : String → Option UserStatus
  ownedPlans : String → ℕ
  seated : String → Bool
  memberships : String → Option MembershipRow
  orders : OrderTable
  settings : Option PaymentSettings
  rolloutStartedAt : Option ℤ

/-- `domain.Membership`. -/
structure Membership where
  tier : Tier
  expiresAt : Option ℤ
  active : Bool
  ownerLimitOverride : Option ℤ
  ownerLimit : ℤ
  ownedPlans : ℕ
  revision : ℤ
  source : Source
  billingStarted : Bool
  deriving DecidableEq, Repr

/-- `720 * time.Hour`. -/
def servicePeriod : ℤ := 720 * 3600 * 1000000

section Reading

/-- `COALESCE(m.revision, 0)`. -/
def revisionOf : Option MembershipRow → ℤ
  | .none => 0
  | .some row => row.revision

def tierOf : Option MembershipRow → Tier
  | .none => .none
  | .some row => row.tier

def expiryOf (row : Option MembershipRow) : Option ℤ := row.bind MembershipRow.expiresAt

def activeAt (row : Option MembershipRow) (now : ℤ) : Prop :=
  tierOf row ≠ .none ∧ ∃ expiresAt ∈ expiryOf row, now < expiresAt

instance (row : Option MembershipRow) (now : ℤ) : Decidable (activeAt row now) := by
  unfold activeAt
  infer_instance

def readMembership (s : MembershipState) (userID : String) (now : ℤ) : Membership :=
  let row := s.memberships userID
  let override := row.bind MembershipRow.ownerLimitOverride
  { tier := tierOf row
    expiresAt := expiryOf row
    active := activeAt row now
    ownerLimitOverride := override
    ownerLimit := override.getD 2
    ownedPlans := s.ownedPlans userID
    revision := revisionOf row
    source := (row.map MembershipRow.source).getD .none
    billingStarted := s.rolloutStartedAt.isSome }

end Reading

section Writing

/-- Write a user's row: `INSERT ... ON CONFLICT(user_id) DO UPDATE` with the next revision. -/
def putMembership (s : MembershipState) (userID : String) (tier : Tier) (expiresAt ownerLimitOverride : Option ℤ)
    (source : Source) (now : ℤ) : MembershipState :=
  { s with
    memberships := Function.update s.memberships userID
      (some ⟨tier, expiresAt, ownerLimitOverride, revisionOf (s.memberships userID) + 1, source, now⟩) }

/-- `GREATEST`, which ignores nulls. -/
def greatest (a b : Option ℤ) : Option ℤ :=
  match a, b with
  | .some a, .some b => some (max a b)
  | .some a, .none => some a
  | .none, b => b

/-- The row that the rollout gives to a user with plans. -/
def rolloutRow (ownedPlans : ℕ) (now : ℤ) (row : Option MembershipRow) : MembershipRow :=
  let tier : Tier := if 0 < ownedPlans then .svip else .vip
  let override : Option ℤ := if 2 < ownedPlans then some (ownedPlans : ℤ) else none
  match row with
  | .none => ⟨tier, some (now + servicePeriod), override, 1, .rollout, now⟩
  | .some row =>
    { tier := if row.tier = .svip ∧ ∃ expiresAt ∈ row.expiresAt, now < expiresAt then .svip else tier
      expiresAt := greatest row.expiresAt (some (now + servicePeriod))
      ownerLimitOverride :=
        if override = none then row.ownerLimitOverride else greatest row.ownerLimitOverride override
      revision := row.revision + 1
      source := .rollout
      updatedAt := now }

def activateMemberships (now : ℤ) (s : MembershipState) : MembershipState :=
  if s.rolloutStartedAt.isSome then s
  else
    { s with
      rolloutStartedAt := some now
      memberships := fun userID =>
        if (s.users userID).isSome ∧ (0 < s.ownedPlans userID ∨ s.seated userID) then
          some (rolloutRow (s.ownedPlans userID) now (s.memberships userID))
        else s.memberships userID }

def savePaymentSettings (settings : PaymentSettings) (now : ℤ) (s : MembershipState) :
    Except DomainError MembershipState := do
  let revision ← orFail (match s.settings with
    | .none => if settings.revision = 0 then some 1 else none
    | .some old =>
      if 0 < settings.revision ∧ old.revision = settings.revision then some (old.revision + 1) else none)
    .conflict
  let s := { s with settings := some { settings with revision := revision } }
  pure (if settings.enabled then activateMemberships now s else s)

structure MembershipAdjustment where
  tier : Tier
  expiresAt : Option ℤ
  ownerLimitOverride : Option ℤ
  revision : ℤ
  reviewOrderID : String
  deriving DecidableEq, Repr

end Writing

section Orders

/-- `SET status='expired'` for the pending orders that the condition selects. -/
def expireOrder (c : Order → Prop) [DecidablePred c] (o : Order) : Order :=
  if o.status = .pending ∧ c o then { o with status := .expired } else o

def expireOrders (c : Order → Prop) [DecidablePred c] (orders : OrderTable) : OrderTable :=
  orders.mapRows (expireOrder c) (fun o => by unfold expireOrder; split_ifs <;> rfl) fun o i h => by
    unfold expireOrder at h
    split_ifs at h
    · simp [orderIndex] at h
    · exact h

/-- `SET status='paid'` for an order under review, with the expiry that the administrator grants. -/
def acceptReviewed (orderID userID : String) (expiresAt : Option ℤ) (o : Order) : Order :=
  if o.id = orderID ∧ o.userID = userID ∧ o.status = .reviewRequired then
    { o with status := .paid, serviceExpiresAt := expiresAt }
  else o

def acceptOrders (orderID userID : String) (expiresAt : Option ℤ) (orders : OrderTable) : OrderTable :=
  orders.mapRows (acceptReviewed orderID userID expiresAt)
    (fun o => by unfold acceptReviewed; split_ifs <;> rfl) fun o i h => by
    unfold acceptReviewed at h
    split_ifs at h with hreview
    · simpa [orderIndex, hreview.2.2] using h
    · exact h

/-- The price of a product and the memberships that may buy it. -/
def productTerms (product : Product) (member : Membership) : Except DomainError (ℤ × Option ℤ) :=
  match product with
  | .vip => do
    ensure (¬ (member.active ∧ member.tier = .svip)) .membershipProduct
    pure (990, none)
  | .svip => do
    ensure (¬ (member.active ∧ member.tier = .vip)) .membershipProduct
    pure (1990, none)
  | .upgrade => do
    ensure (member.active ∧ member.tier = .vip) .membershipProduct
    pure (1000, member.expiresAt)

/-- What the checkout passes to `CreateMembershipOrder`. -/
structure OrderDraft where
  id : String
  userID : String
  product : Product
  providerPID : String
  providerBaseURL : String
  createdAt : ℤ
  expiresAt : ℤ
  deriving DecidableEq, Repr

/-- The inserted row; the price, the revision and the frozen expiry come from the membership. -/
def OrderDraft.toOrder (draft : OrderDraft) (member : Membership) (amountCents : ℤ) (upgradeExpiresAt : Option ℤ) :
    Order where
  id := draft.id
  userID := draft.userID
  product := draft.product
  amountCents := amountCents
  membershipRevision := member.revision
  upgradeExpiresAt := upgradeExpiresAt
  providerPID := draft.providerPID
  providerBaseURL := draft.providerBaseURL
  status := .pending
  tradeNo := none
  createdAt := draft.createdAt
  expiresAt := draft.expiresAt
  paidAt := none
  serviceExpiresAt := none

def createMembershipOrder (draft : OrderDraft) (s : MembershipState) :
    Except DomainError (MembershipState × Order) := do
  ensure (s.users draft.userID = some .active) .notFound
  let member := readMembership s draft.userID draft.createdAt
  ensure ((∃ settings ∈ s.settings, settings.enabled = true) ∧ member.billingStarted) .paymentUnavailable
  let terms ← productTerms draft.product member
  let orders := expireOrders (fun o => o.userID = draft.userID ∧ o.expiresAt ≤ draft.createdAt) s.orders
  match orders.rows.find? fun o => o.userID = draft.userID ∧ o.status = .pending with
  | some existing =>
    ensure (existing.product = draft.product ∧
      (draft.product = .upgrade → existing.membershipRevision = member.revision)) .pendingMembershipOrder
    pure ({ s with orders := orders }, existing)
  | none =>
    let order := draft.toOrder member terms.1 terms.2
    let orders ← orFail (orders.insert? order) .conflict
    pure ({ s with orders := orders }, order)

def cancelMembershipOrder (id userID : String) (s : MembershipState) : Except DomainError MembershipState := do
  ensure (∃ o ∈ s.orders.rows, o.id = id ∧ o.userID = userID ∧ o.status = .pending) .conflict
  pure { s with orders := expireOrders (fun o => o.id = id ∧ o.userID = userID) s.orders }

/-- The first statement of `MembershipReconciliationBatch`. -/
def expireOverdue (now : ℤ) (s : MembershipState) : MembershipState :=
  { s with orders := expireOrders (fun o => o.expiresAt ≤ now) s.orders }

def adjustMembership (userID : String) (input : MembershipAdjustment) (now : ℤ) (s : MembershipState) :
    Except DomainError MembershipState := do
  ensure ((s.users userID).isSome) .notFound
  ensure ((readMembership s userID now).revision = input.revision) .conflict
  whenever (input.reviewOrderID ≠ "") <|
    ensure (∃ o ∈ s.orders.rows, o.id = input.reviewOrderID ∧ o.userID = userID ∧ o.status = .reviewRequired)
      .conflict
  let orders :=
    if input.reviewOrderID ≠ "" then acceptOrders input.reviewOrderID userID input.expiresAt s.orders else s.orders
  ensure (∀ limit ∈ input.ownerLimitOverride, 0 ≤ limit ∧ limit ≤ 10000) .database
  pure (putMembership { s with orders := orders } userID input.tier input.expiresAt input.ownerLimitOverride
    .admin now)

end Orders

section Fulfillment

def Settled (o : Order) : Prop := o.status = .paid ∨ o.status = .reviewRequired

instance (o : Order) : Decidable (Settled o) := by
  unfold Settled
  infer_instance

/-- A further period of a tier, from the end of a running one; another running tier is left alone. -/
def renewal (tier : Tier) (member : Membership) (now : ℤ) : Option (Tier × ℤ) :=
  if member.active ∧ member.tier ≠ tier then none
  else some (tier, (if member.active then member.expiresAt.getD now else now) + servicePeriod)

/-- The tier and the expiry that a payment buys; a payment without them is put under review. -/
def fulfillment (o : Order) (member : Membership) (now : ℤ) : Option (Tier × ℤ) :=
  match o.product with
  | .vip => renewal .vip member now
  | .svip => renewal .svip member now
  | .upgrade =>
    match o.upgradeExpiresAt with
    | .none => none
    | .some expiresAt =>
      if ¬ member.active ∨ member.tier ≠ .vip ∨ member.revision ≠ o.membershipRevision ∨ ¬ now < expiresAt then
        none
      else some (.svip, expiresAt)

def settleOrder (tradeNo : String) (now : ℤ) (grant : Option (Tier × ℤ)) (o : Order) : Order :=
  { o with
    status := if grant.isSome then .paid else .reviewRequired
    tradeNo := some tradeNo
    paidAt := some now
    serviceExpiresAt := grant.map Prod.snd }

/-- The membership that the fulfilment writes; the owner limit stays as it is. -/
def applyGrant (s : MembershipState) (userID : String) (now : ℤ) : Option (Tier × ℤ) → MembershipState
  | .none => s
  | .some (tier, expiresAt) =>
    putMembership s userID tier (some expiresAt)
      ((s.memberships userID).bind MembershipRow.ownerLimitOverride) .payment now

def confirmMembershipPayment (id tradeNo pid : String) (amount now : ℤ) (s : MembershipState) :
    Except DomainError MembershipState := do
  ensure (tradeNo ≠ "") .invalidInput
  let order ← orFail (s.orders.rows.find? fun o => o.id = id) .notFound
  ensure (order.providerPID = pid ∧ order.amountCents = amount) .invalidInput
  if Settled order then
    ensure (order.tradeNo = some tradeNo) .conflict
    pure s
  else
    let grant := fulfillment order (readMembership s order.userID now) now
    let orders ← orFail (s.orders.update? (fun o => o.id = id) (settleOrder tradeNo now grant)) .conflict
    pure { applyGrant s order.userID now grant with orders := orders }

end Fulfillment

section System

inductive MembershipOp
  | confirm (id tradeNo pid : String) (amount now : ℤ)
  | createOrder (draft : OrderDraft)
  | cancelOrder (id userID : String)
  | expireOverdue (now : ℤ)
  | adjust (userID : String) (input : MembershipAdjustment) (now : ℤ)
  | saveSettings (settings : PaymentSettings) (now : ℤ)
  | changeUser (userID : String) (status : UserStatus)
  | changePlans (ownedPlans : String → ℕ) (seated : String → Bool)

def perform (s : MembershipState) : MembershipOp → Except DomainError MembershipState
  | .confirm id tradeNo pid amount now => confirmMembershipPayment id tradeNo pid amount now s
  | .createOrder draft => (createMembershipOrder draft s).map Prod.fst
  | .cancelOrder id userID => cancelMembershipOrder id userID s
  | .expireOverdue now => .ok (expireOverdue now s)
  | .adjust userID input now => adjustMembership userID input now s
  | .saveSettings settings now => savePaymentSettings settings now s
  | .changeUser userID status => .ok { s with users := Function.update s.users userID (some status) }
  | .changePlans ownedPlans seated => .ok { s with ownedPlans := ownedPlans, seated := seated }

/-- The state right after the migration. -/
def migrated (users : String → Option UserStatus) (ownedPlans : String → ℕ) (seated : String → Bool)
    (settings : Option PaymentSettings) : MembershipState :=
  ⟨users, ownedPlans, seated, fun _ => none, Table.empty, settings, none⟩

end System

end ShareSub.MembershipModel

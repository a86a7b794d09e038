import ShareSub.Transaction
import ShareSub.Table

/-!
# Shared plans: members, invites and join applications

The embedding of `plan_queries.go`, `plan_collaboration.go` and `lifecycle.go` for one
plan. Every operation is one serializable transaction, executed at one instant: `now` is
both the argument the service passes and the `now()` of the database. Instants are
microsecond counts. Audit rows and notifications are written by these functions and read by
none of them, so they are left out, and so are names and descriptions.

The answers of checks on other tables (the owner's membership, the account a plan is to be
bound to) are arguments, so that a run may meet them in any combination.
-/
namespace ShareSub.PlanModel
open Transaction

/-- The values of `domain/errors.go` that the modelled operations return; `database` stands for an
error of the driver that no domain error is mapped to. -/
inductive DomainError
  | database | notFound | forbidden | conflict | invalidInput | shareExceeded | publicPlanFull
  | svipRequired | ownerLimit | accountUnavailable | accountAlreadyBound
  | membershipProduct | pendingMembershipOrder | paymentUnavailable
  deriving DecidableEq, Repr

inductive AllocationMode | fixed | shared
  deriving DecidableEq, Repr

inductive PlanStatus | active | disabled | archived
  deriving DecidableEq, Repr

inductive Visibility | privatePlan | publicPlan
  deriving DecidableEq, Repr

inductive Role | owner | member
  deriving DecidableEq, Repr

inductive MemberStatus | active | removed
  deriving DecidableEq, Repr

inductive InviteStatus | pending | accepted | revoked | expired
  deriving DecidableEq, Repr

inductive ApplicationStatus | pending | approved | rejected
  deriving DecidableEq, Repr

/-- `domain.MaxShareBPS`. -/
def maxShareBPS : ℤ := 10000

/-- A row of `plan_members`. -/
structure Member where
  id : String
  userID : String
  role : Role
  status : MemberStatus
  shareBasisPoints : ℤ
  usdLimitMicros : Option ℤ
  concurrencyBase : ℤ
  concurrencyMax : ℤ
  createdAt : ℤ
  removedAt : Option ℤ
  deriving DecidableEq, Repr

/-- A row of `plan_invites`. -/
structure Invite where
  id : String
  tokenHash : String
  shareBasisPoints : ℤ
  status : InviteStatus
  expiresAt : ℤ
  acceptedByUserID : Option String
  acceptedAt : Option ℤ
  revokedAt : Option ℤ
  createdAt : ℤ
  deriving DecidableEq, Repr

/-- A row of `plan_join_applications`. -/
structure JoinApplication where
  id : String
  userID : String
  status : ApplicationStatus
  memberID : Option String
  reviewedAt : Option ℤ
  createdAt : ℤ
  deriving DecidableEq, Repr

/-- The partial unique index `plan_join_applications_pending_idx`. -/
def pendingApplicant (j : JoinApplication) : Option String :=
  if j.status = .pending then some j.userID else none

/-- `UNIQUE (plan_id, user_id)` on `plan_members`. -/
def memberUser (m : Member) : Option String := some m.userID

/-- `token_hash ... UNIQUE` on `plan_invites`. -/
def inviteToken (i : Invite) : Option String := some i.tokenHash

abbrev MemberTable := Table Member.id memberUser
abbrev InviteTable := Table Invite.id inviteToken
abbrev ApplicationTable := Table JoinApplication.id pendingApplicant

/-- A row of `shared_plans` with the rows of the three tables that refer to it. -/
structure Plan where
  ownerUserID : String
  accountID : Option String
  accountBindingGeneration : ℤ
  status : PlanStatus
  visibility : Visibility
  publicSlots : ℤ
  publicShareBasisPoints : ℤ
  allocationMode : AllocationMode
  createdAt : ℤ
  archivedAt : Option ℤ
  members : MemberTable
  invites : InviteTable
  applications : ApplicationTable

/-- An active member row under a nullable id: the join of the seat count. -/
def seatedIn (members : MemberTable) (id : Option String) : Prop :=
  ∃ m ∈ members.rows, some m.id = id ∧ m.status = .active

instance (members : MemberTable) (id : Option String) : Decidable (seatedIn members id) :=
  inferInstanceAs (Decidable (∃ m ∈ members.rows, some m.id = id ∧ m.status = .active))

/-- The occupied public seats: approved applications joined to an active member. -/
def Plan.approvedSeats (p : Plan) : ℕ :=
  p.applications.rows.countP fun j => j.status = .approved ∧ seatedIn p.members j.memberID

def Plan.activeShares (p : Plan) : ℤ :=
  sumWhere (fun m => m.status = .active) Member.shareBasisPoints p.members.rows

def Plan.pendingShares (p : Plan) (now : ℤ) : ℤ :=
  sumWhere (fun i => i.status = .pending ∧ now < i.expiresAt) Invite.shareBasisPoints p.invites.rows

/-- `GREATEST(public_slots-approved,0)*public_share_basis_points`. -/
def Plan.reservedShares (p : Plan) : ℤ :=
  max (p.publicSlots - p.approvedSeats) 0 * p.publicShareBasisPoints

/-- The sum that `CreateInvite` compares with the cap. -/
def Plan.allocatedShares (p : Plan) (now : ℤ) : ℤ :=
  p.activeShares + p.pendingShares now + p.reservedShares

/-- The `CHECK` constraint on every share column. -/
def shareInRange (share : ℤ) : Prop := 0 ≤ share ∧ share ≤ maxShareBPS

instance (share : ℤ) : Decidable (shareInRange share) :=
  inferInstanceAs (Decidable (0 ≤ share ∧ share ≤ maxShareBPS))

section Creation

/-- The `domain.Plan` that `Service.CreatePlan` hands to the store. -/
def newPlan (now : ℤ) (userID : String) (accountID : Option String) (mode : AllocationMode) : Plan where
  ownerUserID := userID
  accountID := accountID
  accountBindingGeneration := 0
  status := .active
  visibility := .privatePlan
  publicSlots := 0
  publicShareBasisPoints := 0
  allocationMode := mode
  createdAt := now
  archivedAt := none
  members := Table.empty
  invites := Table.empty
  applications := Table.empty

/-- The owner's membership row in the same call. -/
def newOwner (now : ℤ) (userID memberID : String) (share : ℤ) : Member where
  id := memberID
  userID := userID
  role := .owner
  status := .active
  shareBasisPoints := share
  usdLimitMicros := none
  concurrencyBase := 0
  concurrencyMax := 0
  createdAt := now
  removedAt := none

/-- `Store.CreatePlan`. -/
def createPlan (ownerMembership accountCheck : Except DomainError Unit) (plan : Plan)
    (owner : Member) : Except DomainError Plan := do
  ensure (plan.allocationMode = .fixed → shareInRange owner.shareBasisPoints) .invalidInput
  ensure (plan.allocationMode = .shared → owner.shareBasisPoints = 0) .invalidInput
  ownerMembership
  whenever (plan.accountID ≠ none) accountCheck
  let members ← orFail (plan.members.insert? owner) .conflict
  pure { plan with
    members := members
    accountBindingGeneration := if plan.accountID = none then 0 else 1 }

end Creation

section Publication

/-- `Store.UpdatePlanPublication` with the range checks of the service and of the columns. -/
def updatePlanPublication (ownerMembership : Except DomainError Unit) (now : ℤ) (ownerID : String)
    (visibility : Visibility) (slots share : ℤ) (p : Plan) : Except DomainError Plan := do
  ensure (visibility = .publicPlan → 1 ≤ slots ∧ slots ≤ 100 ∧ shareInRange share) .invalidInput
  ensure (p.ownerUserID = ownerID) .forbidden
  ensure (p.status = .active) .conflict
  whenever (visibility = .publicPlan ∧ (p.visibility ≠ .publicPlan ∨ p.publicSlots < slots))
    ownerMembership
  let slots := if visibility = .privatePlan then 0 else slots
  let share := if visibility = .privatePlan then 0 else share
  ensure (visibility = .publicPlan → p.allocationMode = .shared → share = 0) .invalidInput
  ensure (visibility = .publicPlan → p.allocationMode = .fixed → 0 ≤ share) .invalidInput
  ensure ((p.approvedSeats : ℤ) ≤ slots) .invalidInput
  ensure (p.allocationMode = .fixed →
    p.activeShares + p.pendingShares now + (slots - p.approvedSeats) * share ≤ maxShareBPS)
    .shareExceeded
  pure { p with visibility := visibility, publicSlots := slots, publicShareBasisPoints := share }

/-- `Store.CreateJoinApplication`. -/
def createJoinApplication (now : ℤ) (applicationID userID : String) (p : Plan) :
    Except DomainError Plan := do
  ensure (p.status = .active ∧ p.visibility = .publicPlan) .notFound
  ensure (p.ownerUserID ≠ userID) .forbidden
  ensure ((p.approvedSeats : ℤ) < p.publicSlots) .publicPlanFull
  ensure (¬ ∃ m ∈ p.members.rows, m.userID = userID ∧ m.status = .active) .conflict
  let applications ← orFail (p.applications.insert?
    ⟨applicationID, userID, .pending, none, none, now⟩) .conflict
  pure { p with applications := applications }

end Publication

section Joining

/-- The row written by `INSERT INTO plan_members` when a user joins for the first time. -/
def joiningMember (now : ℤ) (memberID userID : String) (share : ℤ) : Member where
  id := memberID
  userID := userID
  role := .member
  status := .active
  shareBasisPoints := share
  usdLimitMicros := none
  concurrencyBase := 0
  concurrencyMax := 0
  createdAt := now
  removedAt := none

/-- `ON CONFLICT(plan_id,user_id) DO UPDATE`: the row of a returning user is reused. -/
def rejoin (share : ℤ) (m : Member) : Member :=
  { m with
    role := .member, status := .active, shareBasisPoints := share, usdLimitMicros := none,
    concurrencyBase := 0, concurrencyMax := 0, removedAt := none }

/-- The member upsert shared by `ReviewJoinApplication` and `AcceptInvite`, with the row id it
returns. A row that is still active is a conflict before the statement runs. -/
def upsertMember (now : ℤ) (memberID userID : String) (share : ℤ) (members : MemberTable) :
    Except DomainError (MemberTable × String) := do
  match members.rows.find? fun m => m.userID = userID with
  | some m =>
    ensure (m.status ≠ .active) .conflict
    let members ← orFail (members.update? (fun x => x.userID = userID) (rejoin share)) .conflict
    pure (members, m.id)
  | none =>
    let members ← orFail (members.insert? (joiningMember now memberID userID share)) .conflict
    pure (members, memberID)

/-- `Store.ReviewJoinApplication`. -/
def reviewJoinApplication (ownerMembership : Except DomainError Unit) (now : ℤ)
    (ownerID applicationID : String) (approve : Bool) (memberID : String) (p : Plan) :
    Except DomainError Plan := do
  let application ← orFail (p.applications.rows.find? fun j => j.id = applicationID) .notFound
  ensure (p.ownerUserID = ownerID) .forbidden
  ensure (application.status = .pending) .conflict
  if approve then
    ownerMembership
    ensure (p.visibility = .publicPlan) .conflict
    ensure ((p.approvedSeats : ℤ) < p.publicSlots) .publicPlanFull
    ensure (p.allocationMode = .shared → p.publicShareBasisPoints = 0) .invalidInput
    ensure (p.allocationMode = .fixed → 0 ≤ p.publicShareBasisPoints) .invalidInput
    let upserted ← upsertMember now memberID application.userID p.publicShareBasisPoints p.members
    let applications ← orFail (p.applications.update? (fun j => j.id = applicationID) fun j =>
      { j with status := .approved, memberID := some upserted.2, reviewedAt := some now }) .conflict
    pure { p with members := upserted.1, applications := applications }
  else
    let applications ← orFail (p.applications.update? (fun j => j.id = applicationID) fun j =>
      { j with status := .rejected, reviewedAt := some now }) .conflict
    pure { p with applications := applications }

end Joining

section Invites

/-- `UPDATE plan_invites SET status='expired'` for the invites whose time has passed. -/
def expireInvites (now : ℤ) (invites : InviteTable) : Option InviteTable :=
  invites.update? (fun i => i.status = .pending ∧ i.expiresAt ≤ now) fun i =>
    { i with status := .expired }

/-- `Store.CreateInvite`. -/
def createInvite (ownerMembership : Except DomainError Unit) (now : ℤ) (ownerID : String)
    (invite : Invite) (p : Plan) : Except DomainError Plan := do
  ensure (p.status = .active) .notFound
  ensure (p.ownerUserID = ownerID) .forbidden
  ownerMembership
  let invites ← orFail (expireInvites invite.createdAt p.invites) .conflict
  ensure (p.allocationMode = .shared → invite.shareBasisPoints = 0) .invalidInput
  ensure (p.allocationMode = .fixed → 0 ≤ invite.shareBasisPoints) .invalidInput
  ensure (p.allocationMode = .fixed →
    Plan.allocatedShares { p with invites := invites } now + invite.shareBasisPoints ≤ maxShareBPS)
    .shareExceeded
  let invites ← orFail (invites.insert? invite) .conflict
  pure { p with invites := invites }

/-- The invite that `Service.Invite` creates: open to anyone for seven days. -/
def newInvite (now : ℤ) (inviteID tokenHash : String) (share : ℤ) : Invite where
  id := inviteID
  tokenHash := tokenHash
  shareBasisPoints := share
  status := .pending
  expiresAt := now + 7 * 24 * 3600 * 1000000
  acceptedByUserID := none
  acceptedAt := none
  revokedAt := none
  createdAt := now

/-- `Store.AcceptInvite`. An invite found expired is marked so and the mark is committed
although the call reports a conflict: the second component is the error reported after the
commit. -/
def acceptInvite (ownerMembership : Except DomainError Unit) (now : ℤ)
    (tokenHash userID memberID : String) (p : Plan) :
    Except DomainError (Plan × Option DomainError) := do
  let invite ← orFail (p.invites.rows.find? fun i => i.tokenHash = tokenHash) .notFound
  if invite.status = .pending ∧ invite.expiresAt ≤ now then
    let invites ← orFail (p.invites.update? (fun i => i.id = invite.id) fun i =>
      { i with status := .expired }) .conflict
    pure ({ p with invites := invites }, some .conflict)
  else
    ensure (invite.status = .pending ∧ p.status = .active) .conflict
    ownerMembership
    let upserted ← upsertMember now memberID userID invite.shareBasisPoints p.members
    let invites ← orFail (p.invites.update? (fun i => i.id = invite.id) fun i =>
      { i with status := .accepted, acceptedByUserID := some userID, acceptedAt := some now }) .conflict
    pure ({ p with members := upserted.1, invites := invites }, none)

/-- `Store.RevokeInvite`. -/
def revokeInvite (now : ℤ) (ownerID inviteID : String) (p : Plan) : Except DomainError Plan := do
  ensure (p.ownerUserID = ownerID) .forbidden
  ensure (∃ i ∈ p.invites.rows, i.id = inviteID ∧ i.status = .pending ∧ now < i.expiresAt) .notFound
  let invites ← orFail (p.invites.update?
    (fun i => i.id = inviteID ∧ i.status = .pending ∧ now < i.expiresAt) fun i =>
    { i with status := .revoked, revokedAt := some now }) .conflict
  pure { p with invites := invites }

end Invites

section Shares

/-- The sum that `UpdateMemberShare` compares with the cap: everything but the member's row. -/
def Plan.otherShares (p : Plan) (now : ℤ) (memberID : String) : ℤ :=
  sumWhere (fun m => m.status = .active ∧ m.id ≠ memberID) Member.shareBasisPoints p.members.rows +
    p.pendingShares now + p.reservedShares

/-- `Store.UpdateMemberShare` with the range checks of the service. -/
def updateMemberShare (now : ℤ) (ownerID memberID : String) (share : ℤ) (usdLimitMicros : Option ℤ)
    (p : Plan) : Except DomainError Plan := do
  ensure (shareInRange share ∧ ∀ limit ∈ usdLimitMicros, 0 < limit ∧ limit ≤ 9007199254740991)
    .invalidInput
  ensure (p.ownerUserID = ownerID) .forbidden
  ensure (p.allocationMode = .shared → share = 0) .invalidInput
  ensure (p.allocationMode = .fixed → 0 ≤ share) .invalidInput
  ensure (p.allocationMode = .fixed → p.otherShares now memberID + share ≤ maxShareBPS) .shareExceeded
  ensure (∃ m ∈ p.members.rows, m.id = memberID ∧ m.status = .active) .notFound
  let members ← orFail (p.members.update? (fun m => m.id = memberID ∧ m.status = .active) fun m =>
    { m with shareBasisPoints := share, usdLimitMicros := usdLimitMicros }) .invalidInput
  pure { p with members := members }

/-- `domain.MemberShareAllocation`. -/
structure MemberShareAllocation where
  memberID : String
  shareBasisPoints : ℤ
  deriving DecidableEq, Repr

/-- The loop that fills `allocationByMember`, with the running total. -/
def collectAllocations : List MemberShareAllocation → List (String × ℤ) → ℤ →
    Except DomainError (List (String × ℤ))
  | [], seen, _ => .ok seen
  | a :: rest, seen, total => do
    ensure (a.memberID ≠ "" ∧ shareInRange a.shareBasisPoints) .invalidInput
    ensure (a.memberID ∉ seen.map Prod.fst) .invalidInput
    ensure (total + a.shareBasisPoints ≤ maxShareBPS) .shareExceeded
    collectAllocations rest (seen ++ [(a.memberID, a.shareBasisPoints)]) (total + a.shareBasisPoints)

/-- The loop that writes `allocationByMember` to the active members. -/
def applyAllocations : List (String × ℤ) → MemberTable → Except DomainError MemberTable
  | [], members => .ok members
  | (memberID, share) :: rest, members => do
    let members ← orFail (members.update? (fun m => m.id = memberID ∧ m.status = .active) fun m =>
      { m with shareBasisPoints := share }) .conflict
    applyAllocations rest members

/-- `Store.ConvertPlanToFixed`. -/
def convertPlanToFixed (ownerID : String) (allocations : List MemberShareAllocation) (p : Plan) :
    Except DomainError Plan := do
  let allocationByMember ← collectAllocations allocations [] 0
  ensure (p.ownerUserID = ownerID) .forbidden
  ensure (p.allocationMode = .shared) .conflict
  ensure (∀ a ∈ allocationByMember, ∃ m ∈ p.members.rows, m.id = a.1 ∧ m.status = .active)
    .invalidInput
  let members ← orFail (p.members.update? (fun m => m.status = .active) fun m =>
    { m with shareBasisPoints := 0 }) .conflict
  let members ← applyAllocations allocationByMember members
  let invites ← orFail (p.invites.update? (fun i => i.status = .pending) fun i =>
    { i with shareBasisPoints := 0 }) .conflict
  pure { p with
    members := members, invites := invites, allocationMode := .fixed, publicShareBasisPoints := 0 }

end Shares

section Lifecycle

/-- `Store.RemovePlanMember`, for a member who leaves and for one whom the owner removes. -/
def removePlanMember (now : ℤ) (actorUserID memberID : String) (p : Plan) : Except DomainError Plan := do
  let target ← orFail (p.members.rows.find? fun m => m.id = memberID) .notFound
  ensure (actorUserID = p.ownerUserID ∨ actorUserID = target.userID) .forbidden
  ensure (target.role ≠ .owner) .conflict
  ensure (target.status = .active) .conflict
  let members ← orFail (p.members.update? (fun m => m.id = memberID) fun m =>
    { m with status := .removed, concurrencyBase := 0, concurrencyMax := 0, removedAt := some now })
    .conflict
  pure { p with members := members }

/-- `Store.UpdatePlanStatus`; the service admits only `active` and `archived`. -/
def updatePlanStatus (ownerMembership accountCheck : Except DomainError Unit) (now : ℤ)
    (ownerID : String) (status : PlanStatus) (p : Plan) : Except DomainError Plan := do
  ensure (status ≠ .disabled) .invalidInput
  ensure (p.ownerUserID = ownerID) .forbidden
  ensure (p.status ≠ status) .conflict
  ensure (status = .archived → p.status = .active) .conflict
  ensure (status = .active → p.status = .archived) .conflict
  whenever (status = .active) ownerMembership
  whenever (status = .active ∧ p.accountID ≠ none) accountCheck
  if status = .archived then
    let invites ← orFail (p.invites.update? (fun i => i.status = .pending) fun i =>
      { i with status := .revoked, revokedAt := some now }) .conflict
    let applications ← orFail (p.applications.update? (fun j => j.status = .pending) fun j =>
      { j with status := .rejected, reviewedAt := some now }) .conflict
    pure { p with
      status := .archived, visibility := .privatePlan, publicSlots := 0,
      publicShareBasisPoints := 0, archivedAt := some now,
      invites := invites, applications := applications }
  else
    pure { p with status := status, archivedAt := none }

/-- `Store.TransferPlanOwnership`. -/
def transferPlanOwnership (ownerMembership : Except DomainError Unit) (ownerID memberID : String)
    (p : Plan) : Except DomainError Plan := do
  ensure (p.ownerUserID = ownerID) .forbidden
  let target ← orFail (p.members.rows.find? fun m => m.id = memberID) .notFound
  ensure (target.status = .active ∧ target.role = .member ∧ target.userID ≠ ownerID) .conflict
  ownerMembership
  let members ← orFail (p.members.update?
    (fun m => m.userID = ownerID ∧ m.role = .owner ∧ m.status = .active) fun m =>
    { m with role := .member }) .conflict
  let members ← orFail (members.update? (fun m => m.id = memberID ∧ m.status = .active) fun m =>
    { m with role := .owner }) .conflict
  pure { p with members := members, ownerUserID := target.userID }

/-- `status<>'pending' AND COALESCE(reviewed_at,created_at)<$1`. -/
def purgeable (cutoff : ℤ) (j : JoinApplication) : Prop :=
  j.status ≠ .pending ∧ j.reviewedAt.getD j.createdAt < cutoff

instance (cutoff : ℤ) (j : JoinApplication) : Decidable (purgeable cutoff j) :=
  inferInstanceAs (Decidable (j.status ≠ .pending ∧ j.reviewedAt.getD j.createdAt < cutoff))

/-- The two deletions of `Store.CleanupResources` that touch a plan. Each batch loop runs until
nothing is left to delete, so a completed call deletes every row its predicate selects. -/
def cleanupResources (now terminalRecords : ℤ) (p : Plan) : Plan :=
  { p with
    invites := p.invites.delete fun i =>
      ((i.acceptedAt.orElse fun _ => i.revokedAt).getD i.expiresAt) < now - terminalRecords
    applications := p.applications.delete (purgeable (now - terminalRecords)) }

end Lifecycle

end ShareSub.PlanModel

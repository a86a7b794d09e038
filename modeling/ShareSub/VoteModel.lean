import ShareSub.PlanModel

/-!
# Quota-reset votes and execution leases

The embedding of `quota_reset_votes.go` for one plan: its configuration, its votes with their
ballots, and the execution lease. Each operation carries the instant its caller read, and a
rolled-back call leaves no trace. Reads of a vote for display, audit rows and notifications
are left out.
-/
namespace ShareSub.VoteModel
open PlanModel Transaction

inductive VoteStatus
  | active | executing | succeeded | succeededUnsynced | expired | cancelled | outcomeUnknown
  deriving DecidableEq, Repr

inductive Choice | support | oppose
  deriving DecidableEq, Repr

/-- A row of `quota_reset_vote_members`. -/
structure Ballot where
  memberID : String
  userID : String
  weightBasisPoints : ℤ
  choice : Option Choice
  votedAt : Option ℤ
  deriving DecidableEq, Repr

/-- A row of `quota_reset_votes` with its ballots. -/
structure Vote where
  id : String
  accountID : String
  generation : ℤ
  initiatorMemberID : String
  initiatorUserID : String
  allocationMode : AllocationMode
  status : VoteStatus
  eligibleCount : ℕ
  eligibleWeight : ℤ
  windowsReset : ℤ
  resultCode : String
  createdAt : ℤ
  expiresAt : ℤ
  executionStartedAt : Option ℤ
  completedAt : Option ℤ
  ballots : List Ballot
  deriving DecidableEq, Repr

/-- The partial index `quota_reset_votes_one_open_per_plan_idx`. -/
def openVote (v : Vote) : Option Unit :=
  if v.status = .active ∨ v.status = .executing then some () else none

abbrev VoteTable := Table Vote.id openVote

/-- A row of `quota_reset_execution_leases`. -/
structure Lease where
  operationID : String
  accountID : String
  generation : ℤ
  voteID : Option String
  acquiredAt : ℤ
  deriving DecidableEq, Repr

structure VoteState where
  plan : Plan
  votes : VoteTable
  lease : Option Lease

def quotaResetExecutionLeaseTTL : ℤ := 15 * 60 * 1000000

def quotaResetVotePassed (mode : AllocationMode) (supportCount : ℕ) (supportWeight : ℤ)
    (eligibleCount : ℕ) : Bool :=
  match mode with
  | .shared => eligibleCount < supportCount * 2
  | .fixed => 5000 < supportWeight

/-- The members of a plan that take part in a vote of the given mode. -/
def eligibleMembers (mode : AllocationMode) (p : Plan) : List Member :=
  p.members.rows.filter fun m => m.status = .active ∧ (mode = .shared ∨ 0 < m.shareBasisPoints)

def voteWeight (mode : AllocationMode) (m : Member) : ℤ :=
  match mode with
  | .shared => 0
  | .fixed => m.shareBasisPoints

/-- The pairs that both sides of the `EXCEPT` compare. -/
def eligiblePairs (mode : AllocationMode) (p : Plan) : List (String × ℤ) :=
  (eligibleMembers mode p).map fun m => (m.id, voteWeight mode m)

def Vote.pairs (v : Vote) : List (String × ℤ) := v.ballots.map fun b => (b.memberID, b.weightBasisPoints)

section Reconcile

def interruptExecution (now : ℤ) (v : Vote) : Vote :=
  if v.status = .executing ∧ ∃ started ∈ v.executionStartedAt, started ≤ now - 15 * 60 * 1000000 then
    { v with
      status := .outcomeUnknown, resultCode := "execution_interrupted", completedAt := some now }
  else v

def expireVote (now : ℤ) (v : Vote) : Vote :=
  if v.status = .active ∧ v.expiresAt ≤ now then
    { v with status := .expired, completedAt := some now }
  else v

/-- The plan is still the one that was put to the vote. -/
def Vote.matchesPlan (v : Vote) (p : Plan) : Prop :=
  p.status = .active ∧ p.accountID = some v.accountID ∧ p.accountBindingGeneration = v.generation ∧
    p.allocationMode = v.allocationMode ∧
    (∀ x ∈ eligiblePairs v.allocationMode p, x ∈ v.pairs) ∧
    (∀ x ∈ v.pairs, x ∈ eligiblePairs v.allocationMode p)

instance (v : Vote) (p : Plan) : Decidable (v.matchesPlan p) := by
  unfold Vote.matchesPlan
  infer_instance

def cancelChanged (p : Plan) (now : ℤ) (v : Vote) : Vote :=
  if v.status = .active ∧ ¬ v.matchesPlan p then
    { v with status := .cancelled, resultCode := "plan_changed", completedAt := some now }
  else v

/-- The three updates of `reconcileQuotaResetVote`, each of which treats rows one by one. -/
def reconcileVote (p : Plan) (now : ℤ) (v : Vote) : Vote :=
  cancelChanged p now (expireVote now (interruptExecution now v))

/-- A status change keeps the row and may only close it. -/
def Closing (f : Vote → Vote) : Prop :=
  (∀ v, (f v).id = v.id) ∧ ∀ v i, openVote (f v) = some i → openVote v = some i

/-- An update into a closed status, of some rows. -/
lemma closing_ite {c : Vote → Prop} [DecidablePred c] {g : Vote → Vote} (hid : ∀ v, (g v).id = v.id)
    (hclosed : ∀ v, openVote (g v) = none) : Closing fun v => if c v then g v else v := by
  constructor
  · intro v
    by_cases h : c v
    · simp only [if_pos h, hid]
    · simp only [if_neg h]
  · intro v i hi
    by_cases h : c v
    · simp only [if_pos h, hclosed, reduceCtorEq] at hi
    · simpa only [if_neg h] using hi

lemma interruptExecution_closing (now : ℤ) : Closing (interruptExecution now) :=
  closing_ite (fun _ => rfl) fun _ => by simp [openVote]

lemma expireVote_closing (now : ℤ) : Closing (expireVote now) :=
  closing_ite (fun _ => rfl) fun _ => by simp [openVote]

lemma cancelChanged_closing (p : Plan) (now : ℤ) : Closing (cancelChanged p now) :=
  closing_ite (fun _ => rfl) fun _ => by simp [openVote]

lemma Closing.comp {f g : Vote → Vote} (hf : Closing f) (hg : Closing g) : Closing fun v => f (g v) :=
  ⟨fun v => (hf.1 _).trans (hg.1 v), fun v i h => hg.2 v i (hf.2 _ i h)⟩

lemma reconcileVote_closing (p : Plan) (now : ℤ) : Closing (reconcileVote p now) :=
  (cancelChanged_closing p now).comp ((expireVote_closing now).comp (interruptExecution_closing now))

def reconcileQuotaResetVote (p : Plan) (now : ℤ) (votes : VoteTable) : VoteTable :=
  votes.mapRows (reconcileVote p now) (reconcileVote_closing p now).1 (reconcileVote_closing p now).2

def rejectActiveQuotaResetExecution (now : ℤ) (lease : Option Lease) : Except DomainError Unit :=
  ensure (∀ l ∈ lease, l.acquiredAt ≤ now - quotaResetExecutionLeaseTTL) .conflict

end Reconcile

section Updates

/-- `UPDATE quota_reset_vote_members SET choice` for the user's ballot, if his member row is active. -/
def markBallot (p : Plan) (userID : String) (choice : Choice) (now : ℤ) (b : Ballot) : Ballot :=
  if b.userID = userID ∧ seatedIn p.members (some b.memberID) then
    { b with choice := some choice, votedAt := some now }
  else b

def castBallot (p : Plan) (voteID userID : String) (choice : Choice) (now : ℤ) (v : Vote) : Vote :=
  if v.id = voteID then { v with ballots := v.ballots.map (markBallot p userID choice now) } else v

def startExecution (voteID : String) (now : ℤ) (v : Vote) : Vote :=
  if v.id = voteID ∧ v.status = .active then
    { v with status := .executing, executionStartedAt := some now }
  else v

def completeExecution (voteID : String) (status : VoteStatus) (windowsReset : ℤ) (resultCode : String)
    (now : ℤ) (v : Vote) : Vote :=
  if v.id = voteID ∧ v.status = .executing then
    { v with
      status := status, windowsReset := windowsReset, resultCode := resultCode, completedAt := some now }
  else v

def cancelActive (reason : String) (now : ℤ) (v : Vote) : Vote :=
  if v.status = .active then
    { v with status := .cancelled, resultCode := reason, completedAt := some now }
  else v

lemma castBallot_closing (p : Plan) (voteID userID : String) (choice : Choice) (now : ℤ) :
    Closing (castBallot p voteID userID choice now) := by
  constructor
  · intro v
    unfold castBallot
    split_ifs <;> rfl
  · intro v i h
    unfold castBallot at h
    split_ifs at h <;> exact h

lemma startExecution_closing (voteID : String) (now : ℤ) : Closing (startExecution voteID now) := by
  constructor
  · intro v
    unfold startExecution
    split_ifs <;> rfl
  · intro v i h
    by_cases hc : v.id = voteID ∧ v.status = .active
    · simp [openVote, hc.2]
    · rwa [startExecution, if_neg hc] at h

lemma cancelActive_closing (reason : String) (now : ℤ) : Closing (cancelActive reason now) :=
  closing_ite (fun _ => rfl) fun _ => by simp [openVote]

lemma completeExecution_closing (voteID : String) (status : VoteStatus) (windowsReset : ℤ)
    (resultCode : String) (now : ℤ) :
    Closing (completeExecution voteID status windowsReset resultCode now) := by
  constructor
  · intro v
    unfold completeExecution
    split_ifs <;> rfl
  · intro v i h
    by_cases hc : v.id = voteID ∧ v.status = .executing
    · simp [openVote, hc.2]
    · rwa [completeExecution, if_neg hc] at h

def updateVotes (f : Vote → Vote) (hf : Closing f) (votes : VoteTable) : VoteTable :=
  votes.mapRows f hf.1 hf.2

@[simp] lemma updateVotes_rows (f : Vote → Vote) (hf : Closing f) (votes : VoteTable) :
    (updateVotes f hf votes).rows = votes.rows.map f := rfl

def supporters (ballots : List Ballot) : List Ballot := ballots.filter fun b => b.choice = some .support

def supportWeight (ballots : List Ballot) : ℤ :=
  ((supporters ballots).map Ballot.weightBasisPoints).sum

end Updates

section Operations

/-- What a committed call reports: a passed vote is the one the caller then executes. -/
inductive Reply
  | done
  | conflict
  | ballot (voteID : String) (passed : Bool)
  deriving DecidableEq, Repr

/-- The row that `CreateQuotaResetVote` inserts, with the initiator's support recorded. -/
def newVote (p : Plan) (voteID userID accountID : String) (initiator : Member) (now expiresAt : ℤ) : Vote where
  id := voteID
  accountID := accountID
  generation := p.accountBindingGeneration
  initiatorMemberID := initiator.id
  initiatorUserID := userID
  allocationMode := p.allocationMode
  status := .active
  eligibleCount := (eligibleMembers p.allocationMode p).length
  eligibleWeight := ((eligibleMembers p.allocationMode p).map (voteWeight p.allocationMode)).sum
  windowsReset := 0
  resultCode := ""
  createdAt := now
  expiresAt := expiresAt
  executionStartedAt := none
  completedAt := none
  ballots := (eligibleMembers p.allocationMode p).map fun m =>
    { memberID := m.id
      userID := m.userID
      weightBasisPoints := voteWeight p.allocationMode m
      choice := if m.userID = userID then some .support else none
      votedAt := if m.userID = userID then some now else none }

def createQuotaResetVote (voteID userID : String) (now expiresAt : ℤ) (s : VoteState) :
    Except DomainError (VoteState × Reply) := do
  ensure (s.plan.status = .active) .conflict
  let accountID ← orFail s.plan.accountID .conflict
  let votes := reconcileQuotaResetVote s.plan now s.votes
  rejectActiveQuotaResetExecution now s.lease
  let eligible := eligibleMembers s.plan.allocationMode s.plan
  let initiator ← orFail (eligible.find? fun m => m.userID = userID) .forbidden
  let vote := newVote s.plan voteID userID accountID initiator now expiresAt
  ensure (s.plan.allocationMode = .fixed → 5000 < vote.eligibleWeight) .conflict
  ensure (0 ≤ vote.eligibleWeight ∧ vote.eligibleWeight ≤ 10000 ∧ now < expiresAt) .database
  let votes ← orFail (votes.insert? vote) .conflict
  let passed := quotaResetVotePassed s.plan.allocationMode 1
    (voteWeight s.plan.allocationMode initiator) eligible.length
  let votes := if passed then updateVotes _ (startExecution_closing voteID now) votes else votes
  pure ({ s with votes := votes, lease := none }, .ballot voteID passed)

def castQuotaResetVote (voteID userID : String) (choice : Choice) (now : ℤ) (s : VoteState) :
    Except DomainError (VoteState × Reply) := do
  let votes := reconcileQuotaResetVote s.plan now s.votes
  let vote ← orFail (votes.rows.find? fun v => v.id = voteID) .notFound
  if vote.status ≠ .active ∨ vote.expiresAt ≤ now then
    -- the reconciled status is committed before the conflict is reported
    pure ({ s with votes := votes }, .conflict)
  else
    ensure ((vote.ballots.countP fun b => b.userID = userID ∧ seatedIn s.plan.members (some b.memberID)) = 1)
      .forbidden
    let votes := updateVotes _ (castBallot_closing s.plan voteID userID choice now) votes
    let ballots := vote.ballots.map (markBallot s.plan userID choice now)
    let passed := quotaResetVotePassed vote.allocationMode (supporters ballots).length
      (supportWeight ballots) vote.eligibleCount
    let votes := if passed then updateVotes _ (startExecution_closing voteID now) votes else votes
    pure ({ s with votes := votes }, .ballot voteID passed)

/-- A read of the current vote, which reconciles first. -/
def quotaResetVote (userID : String) (now : ℤ) (s : VoteState) : Except DomainError (VoteState × Reply) := do
  ensure (∃ m ∈ s.plan.members.rows, m.userID = userID ∧ m.status = .active) .forbidden
  pure ({ s with votes := reconcileQuotaResetVote s.plan now s.votes }, .done)

def completeQuotaResetVote (voteID : String) (status : VoteStatus) (windowsReset : ℤ) (resultCode : String)
    (now : ℤ) (s : VoteState) : Except DomainError (VoteState × Reply) := do
  ensure (status ∈ [.succeeded, .succeededUnsynced, .outcomeUnknown, .cancelled]) .invalidInput
  ensure (∃ v ∈ s.votes.rows, v.id = voteID ∧ v.status = .executing) .notFound
  pure ({ s with
    votes := updateVotes _ (completeExecution_closing voteID status windowsReset resultCode now) s.votes },
    .done)

/-- The check that a lease is requested for the plan's current binding. -/
def bindingMatches (p : Plan) (lease : Lease) : Prop :=
  p.status = .active ∧ p.accountID = some lease.accountID ∧ p.accountBindingGeneration = lease.generation

instance (p : Plan) (lease : Lease) : Decidable (bindingMatches p lease) := by
  unfold bindingMatches
  infer_instance

def reserveManualQuotaReset (operationID accountID : String) (generation : ℤ) (reason : String) (now : ℤ)
    (s : VoteState) : Except DomainError (VoteState × Reply) := do
  let lease : Lease := ⟨operationID, accountID, generation, none, now⟩
  ensure (bindingMatches s.plan lease) .conflict
  let votes := reconcileQuotaResetVote s.plan now s.votes
  rejectActiveQuotaResetExecution now s.lease
  ensure (¬ ∃ v ∈ votes.rows, v.status = .executing) .conflict
  pure ({ s with votes := updateVotes _ (cancelActive_closing reason now) votes, lease := some lease }, .done)

def reserveVotedQuotaReset (operationID accountID : String) (generation : ℤ) (voteID : String) (now : ℤ)
    (s : VoteState) : Except DomainError (VoteState × Reply) := do
  let lease : Lease := ⟨operationID, accountID, generation, some voteID, now⟩
  ensure (bindingMatches s.plan lease) .conflict
  rejectActiveQuotaResetExecution now s.lease
  ensure (∃ v ∈ s.votes.rows, v.id = voteID ∧ v.accountID = accountID ∧ v.generation = generation ∧
    v.status = .executing) .conflict
  pure ({ s with lease := some lease }, .done)

def releaseQuotaResetExecution (operationID : String) (s : VoteState) : VoteState :=
  { s with lease := s.lease.filter fun l => l.operationID ≠ operationID }

end Operations

section System

/-- The calls on one plan, and any change of the plan itself. -/
inductive VoteOp
  | create (voteID userID : String) (now expiresAt : ℤ)
  | cast (voteID userID : String) (choice : Choice) (now : ℤ)
  | read (userID : String) (now : ℤ)
  | complete (voteID : String) (status : VoteStatus) (windowsReset : ℤ) (resultCode : String) (now : ℤ)
  | reserveManual (operationID accountID : String) (generation : ℤ) (reason : String) (now : ℤ)
  | reserveVoted (operationID accountID : String) (generation : ℤ) (voteID : String) (now : ℤ)
  | release (operationID : String) (now : ℤ)
  | changePlan (plan : Plan) (now : ℤ)

def VoteOp.now : VoteOp → ℤ
  | .create _ _ now _ | .cast _ _ _ now | .read _ now | .complete _ _ _ _ now
  | .reserveManual _ _ _ _ now | .reserveVoted _ _ _ _ now | .release _ now | .changePlan _ now => now

def perform (s : VoteState) : VoteOp → Except DomainError (VoteState × Reply)
  | .create voteID userID now expiresAt => createQuotaResetVote voteID userID now expiresAt s
  | .cast voteID userID choice now => castQuotaResetVote voteID userID choice now s
  | .read userID now => quotaResetVote userID now s
  | .complete voteID status windowsReset resultCode now =>
    completeQuotaResetVote voteID status windowsReset resultCode now s
  | .reserveManual operationID accountID generation reason now =>
    reserveManualQuotaReset operationID accountID generation reason now s
  | .reserveVoted operationID accountID generation voteID now =>
    reserveVotedQuotaReset operationID accountID generation voteID now s
  | .release operationID _ => .ok (releaseQuotaResetExecution operationID s, .done)
  | .changePlan plan _ => .ok ({ s with plan := plan }, .done)

end System

end ShareSub.VoteModel

import ShareSub.ShareLedger

/-!
# Runs of a plan and their ledger

The transition system of one plan: its transactions, the passing of time and the cleanup job.
Every committed step is a move of the share ledger, so that accounting can be done there.
-/
namespace ShareSub.PlanSystem
open PlanModel ShareLedger Transaction

structure PlanState where
  clock : ℤ
  plan : Plan

/-- The operations, with the answers of the checks on tables outside the plan. -/
inductive PlanOp
  | updatePlanPublication (ownerMembership : Except DomainError Unit) (ownerID : String)
      (visibility : Visibility) (slots share : ℤ)
  | createJoinApplication (applicationID userID : String)
  | reviewJoinApplication (ownerMembership : Except DomainError Unit) (ownerID applicationID : String)
      (approve : Bool) (memberID : String)
  | createInvite (ownerMembership : Except DomainError Unit) (ownerID inviteID tokenHash : String)
      (share : ℤ)
  | acceptInvite (ownerMembership : Except DomainError Unit) (tokenHash userID memberID : String)
  | revokeInvite (ownerID inviteID : String)
  | updateMemberShare (ownerID memberID : String) (share : ℤ) (usdLimitMicros : Option ℤ)
  | convertPlanToFixed (ownerID : String) (allocations : List MemberShareAllocation)
  | removePlanMember (actorUserID memberID : String)
  | updatePlanStatus (ownerMembership accountCheck : Except DomainError Unit) (ownerID : String)
      (status : PlanStatus)
  | transferPlanOwnership (ownerMembership : Except DomainError Unit) (ownerID memberID : String)
  | elapse (micros : ℕ)
  | cleanupResources (terminalRecords : ℕ)

/-- What an operation does to the plan when it commits. -/
def apply (now : ℤ) (p : Plan) : PlanOp → Except DomainError Plan
  | .updatePlanPublication om ownerID v slots share => updatePlanPublication om now ownerID v slots share p
  | .createJoinApplication applicationID userID => createJoinApplication now applicationID userID p
  | .reviewJoinApplication om ownerID applicationID approve memberID =>
    reviewJoinApplication om now ownerID applicationID approve memberID p
  | .createInvite om ownerID inviteID tokenHash share =>
    createInvite om now ownerID (newInvite now inviteID tokenHash share) p
  | .acceptInvite om tokenHash userID memberID =>
    Prod.fst <$> acceptInvite om now tokenHash userID memberID p
  | .revokeInvite ownerID inviteID => revokeInvite now ownerID inviteID p
  | .updateMemberShare ownerID memberID share limit => updateMemberShare now ownerID memberID share limit p
  | .convertPlanToFixed ownerID allocations => convertPlanToFixed ownerID allocations p
  | .removePlanMember actorUserID memberID => removePlanMember now actorUserID memberID p
  | .updatePlanStatus om account ownerID status => updatePlanStatus om account now ownerID status p
  | .transferPlanOwnership om ownerID memberID => transferPlanOwnership om ownerID memberID p
  | .elapse _ => .ok p
  | .cleanupResources terminalRecords => .ok (cleanupResources now terminalRecords p)

def tick (now : ℤ) : PlanOp → ℤ
  | .elapse micros => now + micros
  | _ => now

def step (s : PlanState) (op : PlanOp) : Except DomainError PlanState :=
  (apply s.clock s.plan op).map fun p => ⟨tick s.clock op, p⟩

/-- A state right after a committed `CreatePlan`. -/
def Created (s : PlanState) : Prop :=
  ∃ (ownerMembership accountCheck : Except DomainError Unit) (userID memberID : String)
    (accountID : Option String) (mode : AllocationMode) (share : ℤ),
    createPlan ownerMembership accountCheck (newPlan s.clock userID accountID mode)
      (newOwner s.clock userID memberID share) = .ok s.plan

section Ledger

/-- The approved applications that refer to a member row. -/
def heldBy (applications : List JoinApplication) (id : String) : ℕ :=
  applications.countP fun j => j.status = .approved ∧ j.memberID = some id

def seatHolders (members : List Member) : List (String × ℤ) :=
  (members.filter fun m => m.status = .active).map fun m => (m.id, m.shareBasisPoints)

def openOffers (now : ℤ) (invites : List Invite) : List ℤ :=
  (invites.filter fun i => i.status = .pending ∧ now < i.expiresAt).map Invite.shareBasisPoints

/-- The ledger that a plan keeps in its tables. -/
def ledger (now : ℤ) (p : Plan) : Ledger where
  mode := p.allocationMode
  visibility := p.visibility
  slots := p.publicSlots
  publicShare := p.publicShareBasisPoints
  holders := seatHolders p.members.rows
  offers := openOffers now p.invites.rows
  held := heldBy p.applications.rows

theorem seatedIn_iff {members : MemberTable} {id : String} :
    seatedIn members (some id) ↔ id ∈ (seatHolders members.rows).map Prod.fst := by
  simp [seatedIn, seatHolders, and_comm, and_assoc]

theorem holders_nodup (members : MemberTable) : ((seatHolders members.rows).map Prod.fst).Nodup := by
  have hsub : ((members.rows.filter fun m => m.status = .active).map Member.id).Sublist
      (members.rows.map Member.id) := List.filter_sublist.map _
  simpa [seatHolders, Function.comp_def] using members.keys_nodup.sublist hsub

/-- Counting approved applications over the join is counting them holder by holder. -/
theorem countP_seated_eq_sum {ids : List String} (hn : ids.Nodup) (applications : List JoinApplication) :
    (applications.countP fun j => j.status = .approved ∧ ∃ id ∈ ids, j.memberID = some id) =
      (ids.map (heldBy applications)).sum := by
  induction ids with
  | nil => simp
  | cons id ids ih =>
    obtain ⟨hid, hn'⟩ := List.nodup_cons.mp hn
    rw [List.map_cons, List.sum_cons, ← ih hn', heldBy, ← countP_or_of_disjoint]
    · apply List.countP_congr
      intro j _
      simp [and_or_left]
    · rintro j _ ⟨-, hj⟩ ⟨-, x, hx, hjx⟩
      have hxid : x = id := by simpa [hj] using hjx.symm
      exact hid (hxid ▸ hx)

theorem approvedSeats_eq_seats (now : ℤ) (p : Plan) : p.approvedSeats = (ledger now p).seats := by
  have hcount := countP_seated_eq_sum (holders_nodup p.members) p.applications.rows
  have hjoin : ∀ j ∈ p.applications.rows,
      (decide (j.status = .approved ∧ seatedIn p.members j.memberID) = true ↔
        decide (j.status = .approved ∧
          ∃ id ∈ (seatHolders p.members.rows).map Prod.fst, j.memberID = some id) = true) := by
    intro j _
    cases hm : j.memberID with
    | none => simp [seatedIn]
    | some id => simp [seatedIn_iff]
  rw [Plan.approvedSeats, List.countP_congr hjoin, hcount, Ledger.seats, List.map_map]
  rfl

theorem activeShares_eq_shares (now : ℤ) (p : Plan) : p.activeShares = (ledger now p).shares := by
  simp [Plan.activeShares, sumWhere, Ledger.shares, ledger, seatHolders, Function.comp_def]

theorem pendingShares_eq_offers (now : ℤ) (p : Plan) : p.pendingShares now = (ledger now p).offers.sum :=
  rfl

theorem allocatedShares_eq_total (now : ℤ) (p : Plan) : p.allocatedShares now = (ledger now p).total := by
  rw [Plan.allocatedShares, Plan.reservedShares, activeShares_eq_shares now, pendingShares_eq_offers,
    approvedSeats_eq_seats now]
  rfl

end Ledger

/-- The id of the member row that a joining user gets: his old one, if there is one. -/
def joinedID (members : MemberTable) (memberID userID : String) : String :=
  ((members.rows.find? fun m => m.userID = userID).map Member.id).getD memberID

/-- How an operation changes who is seated, read off the state before it. -/
def seatingOf (now : ℤ) (p : Plan) : PlanOp → Seating
  | .reviewJoinApplication _ _ applicationID approve memberID =>
    match p.applications.rows.find? fun j => j.id = applicationID with
    | some j => if approve then .joinedByApplication (joinedID p.members memberID j.userID) else .unchanged
    | none => .unchanged
  | .acceptInvite _ tokenHash userID memberID =>
    match p.invites.rows.find? fun i => i.tokenHash = tokenHash with
    | some i =>
      if i.status = .pending ∧ i.expiresAt ≤ now then .unchanged
      else .joinedByInvite (joinedID p.members memberID userID)
    | none => .unchanged
  | .removePlanMember _ memberID => .left memberID
  | .cleanupResources _ => .purged
  | _ => .unchanged

section Moves

variable {now : ℤ} {p p' : Plan} {members members' : MemberTable}

theorem seatHolders_append (xs ys : List Member) :
    seatHolders (xs ++ ys) = seatHolders xs ++ seatHolders ys := by
  simp [seatHolders]

theorem exists_of_mem_seatHolders {rows : List Member} {id : String}
    (h : id ∈ (seatHolders rows).map Prod.fst) : ∃ m ∈ rows, m.id = id := by
  obtain ⟨x, hx, rfl⟩ := List.mem_map.mp h
  obtain ⟨m, hm, rfl⟩ := List.mem_map.mp hx
  exact ⟨m, (List.mem_filter.mp hm).1, rfl⟩

/-- Replacing one member row exchanges its entry among the seat holders. -/
theorem seatHolders_update {q : Member → Prop} [DecidablePred q] {g : Member → Member} {m : Member}
    (hm : m ∈ members.rows) (hq : ∀ x ∈ members.rows, q x ↔ x.id = m.id) :
    ∃ rest, m.id ∉ (seatHolders rest).map Prod.fst ∧
      (seatHolders members.rows).Perm (seatHolders [m] ++ seatHolders rest) ∧
      (seatHolders (updateRows q g members.rows)).Perm (seatHolders [g m] ++ seatHolders rest) := by
  obtain ⟨rest, hrest, hold, hnew⟩ := updateRows_perm (g := g) members.keys_nodup hm hq
  refine ⟨rest, ?_, ?_, ?_⟩
  · intro hmem
    obtain ⟨x, hx, hxid⟩ := exists_of_mem_seatHolders hmem
    exact hrest x hx hxid
  · rw [← seatHolders_append]
    exact (hold.filter _).map _
  · rw [← seatHolders_append]
    exact (hnew.filter _).map _

theorem selects_active {m : Member} (hm : m ∈ members.rows) (hactive : m.status = .active) :
    ∀ x ∈ members.rows, x.id = m.id ∧ x.status = .active ↔ x.id = m.id := by
  intro x hx
  refine ⟨And.left, fun hxid => ⟨hxid, ?_⟩⟩
  rw [eq_of_key_eq members.keys_nodup hx hm hxid, hactive]

theorem upsertMember_joins {memberID userID : String} {share : ℤ} {joined : MemberTable × String}
    (h : upsertMember now memberID userID share members = .ok joined) :
    joined.2 = joinedID members memberID userID ∧ joined.2 ∉ (seatHolders members.rows).map Prod.fst ∧
      (seatHolders joined.1.rows).Perm ((joined.2, share) :: seatHolders members.rows) := by
  unfold upsertMember at h
  split at h
  · next m hfind =>
    have hm : m ∈ members.rows := List.mem_of_find?_eq_some hfind
    have huser : m.userID = userID := by simpa using List.find?_some hfind
    simp only [check_bind_eq_ok, ensure_eq_ok, orFail_bind_eq_ok, commit_eq_ok] at h
    obtain ⟨hstatus, members', hupdate, rfl⟩ := h
    have hq : ∀ x ∈ members.rows, x.userID = userID ↔ x.id = m.id := by
      intro x hx
      constructor
      · intro hxu
        have : x = m := members.eq_of_index_eq hx hm (i := userID) (by simp [memberUser, hxu])
          (by simp [memberUser, huser])
        rw [this]
      · intro hxi
        rw [eq_of_key_eq members.keys_nodup hx hm hxi, huser]
    obtain ⟨rest, hrest, hold, hnew⟩ := seatHolders_update (g := rejoin share) hm hq
    have hout : seatHolders [m] = [] := by simp [seatHolders, hstatus]
    have hin : seatHolders [rejoin share m] = [(m.id, share)] := by simp [seatHolders, rejoin]
    rw [hout, List.nil_append] at hold
    rw [hin] at hnew
    rw [Table.rows_of_update? hupdate]
    exact ⟨by simp [joinedID, hfind], fun hmem => hrest ((hold.map _).subset hmem),
      hnew.trans (hold.symm.cons _)⟩
  · next hfind =>
    simp only [orFail_bind_eq_ok, commit_eq_ok] at h
    obtain ⟨members', hinsert, rfl⟩ := h
    have hrows := Table.rows_of_insert? hinsert
    have hkeys := members'.keys_nodup
    rw [hrows, List.map_append, List.nodup_append] at hkeys
    refine ⟨by simp [joinedID, hfind], fun hmem => ?_, ?_⟩
    · obtain ⟨x, hx, hxid⟩ := exists_of_mem_seatHolders hmem
      exact hkeys.2.2 x.id (List.mem_map_of_mem hx) memberID (by simp [joiningMember]) hxid
    · rw [hrows, seatHolders_append]
      exact List.perm_append_singleton _ _

theorem updatePlanPublication_moves {om : Except DomainError Unit} {ownerID : String} {v : Visibility}
    {slots share : ℤ} (h : updatePlanPublication om now ownerID v slots share p = .ok p') :
    Move (ledger now p) .unchanged (ledger now p') := by
  simp only [updatePlanPublication, check_bind_eq_ok, ensure_eq_ok, commit_eq_ok] at h
  obtain ⟨hrange, -, -, -, -, -, hseats, hcap, rfl⟩ := h
  rw [approvedSeats_eq_seats now] at hseats hcap
  rw [activeShares_eq_shares now, pendingShares_eq_offers] at hcap
  refine Move.publish ?_ hseats hcap
  cases v with
  | privatePlan => simp
  | publicPlan => exact (hrange rfl).2.2.1

theorem heldBy_append_pending {applications : List JoinApplication} {j : JoinApplication}
    (h : j.status ≠ .approved) : heldBy (applications ++ [j]) = heldBy applications := by
  funext id
  simp [heldBy, h]

/-- Closing pending applications leaves the approved ones where they are. -/
theorem heldBy_updateRows {q : JoinApplication → Prop} [DecidablePred q]
    {g : JoinApplication → JoinApplication} {applications : List JoinApplication}
    (h : ∀ j ∈ applications, q j → j.status ≠ .approved ∧ (g j).status ≠ .approved) :
    heldBy (updateRows q g applications) = heldBy applications := by
  funext id
  simp only [heldBy, updateRows, List.countP_map]
  apply List.countP_congr
  intro j hj
  by_cases hq : q j
  · obtain ⟨hold, hnew⟩ := h j hj hq
    simp [hq, hold, hnew]
  · simp [hq]

theorem createJoinApplication_moves {applicationID userID : String}
    (h : createJoinApplication now applicationID userID p = .ok p') :
    Move (ledger now p) .unchanged (ledger now p') := by
  simp only [createJoinApplication, check_bind_eq_ok, ensure_eq_ok, orFail_bind_eq_ok, commit_eq_ok] at h
  obtain ⟨-, -, -, -, applications, hinsert, rfl⟩ := h
  have hheld : heldBy applications.rows = heldBy p.applications.rows := by
    rw [Table.rows_of_insert? hinsert]
    exact heldBy_append_pending (by simp)
  have := Move.settle (L := ledger now p) (List.Sublist.refl _)
  simpa only [ledger, hheld] using this

theorem approved_heldBy {applications applications' : ApplicationTable} {j : JoinApplication} {id : String}
    (hj : j ∈ applications.rows) (hpending : j.status = .pending)
    (h : applications.update? (fun x => x.id = j.id) (fun x =>
      { x with status := .approved, memberID := some id, reviewedAt := some now }) = some applications') (x : String) :
    heldBy applications'.rows x = heldBy applications.rows x + if x = id then 1 else 0 := by
  obtain ⟨rest, -, hold, hnew⟩ := updateRows_perm (q := fun x => x.id = j.id)
    (g := fun x => { x with status := .approved, memberID := some id, reviewedAt := some now })
    applications.keys_nodup hj fun _ _ => Iff.rfl
  rw [Table.rows_of_update? h, heldBy, heldBy, hnew.countP_eq, hold.countP_eq, List.countP_cons, List.countP_cons]
  simp [hpending, eq_comm]

theorem reviewJoinApplication_moves {om : Except DomainError Unit} {ownerID applicationID memberID : String}
    {approve : Bool} (h : reviewJoinApplication om now ownerID applicationID approve memberID p = .ok p') :
    Move (ledger now p) (seatingOf now p (.reviewJoinApplication om ownerID applicationID approve memberID))
      (ledger now p') := by
  simp only [reviewJoinApplication, check_bind_eq_ok, ensure_eq_ok, orFail_bind_eq_ok] at h
  obtain ⟨application, hfind, -, hpending, h⟩ := h
  have hj : application ∈ p.applications.rows := List.mem_of_find?_eq_some hfind
  have hid : application.id = applicationID := by simpa using List.find?_some hfind
  subst hid
  simp only [seatingOf, hfind]
  split at h
  · next happrove =>
    simp only [check_bind_eq_ok, ensure_eq_ok] at h
    obtain ⟨-, hvis, hfree, -, -, h⟩ := h
    simp only [bind_eq_ok, orFail_eq_ok, commit_eq_ok] at h
    obtain ⟨joined, hjoin, applications, hupdate, rfl⟩ := h
    obtain ⟨hjid, hnew, hperm⟩ := upsertMember_joins hjoin
    rw [approvedSeats_eq_seats now] at hfree
    rw [if_pos happrove, ← hjid]
    exact Move.approve hvis hfree hnew hperm (approved_heldBy hj hpending hupdate)
  · next happrove =>
    simp only [orFail_bind_eq_ok, commit_eq_ok] at h
    obtain ⟨applications, hupdate, rfl⟩ := h
    have hheld : heldBy applications.rows = heldBy p.applications.rows := by
      rw [Table.rows_of_update? hupdate]
      refine heldBy_updateRows fun x hx hxid => ⟨?_, by simp⟩
      rw [eq_of_key_eq p.applications.keys_nodup hx hj hxid, hpending]
      simp
    rw [if_neg happrove]
    have := Move.settle (L := ledger now p) (List.Sublist.refl _)
    simpa only [ledger, hheld] using this

theorem openOffers_perm (now : ℤ) {rows rows' : List Invite} (h : rows.Perm rows') :
    (openOffers now rows).Perm (openOffers now rows') :=
  (h.filter _).map _

theorem openOffers_cons (i : Invite) (rows : List Invite) :
    openOffers now (i :: rows) =
      if i.status = .pending ∧ now < i.expiresAt then i.shareBasisPoints :: openOffers now rows
      else openOffers now rows := by
  by_cases h : i.status = .pending ∧ now < i.expiresAt
  · simp [openOffers, h]
  · simp only [openOffers, List.filter_cons, h, decide_false, if_false, Bool.false_eq_true]

/-- An update that closes invites. -/
theorem openOffers_update_sublist (now : ℤ) {q : Invite → Prop} [DecidablePred q] {g : Invite → Invite}
    {invites invites' : InviteTable} (h : invites.update? q g = some invites')
    (hg : ∀ i, (g i).status ≠ .pending) :
    (openOffers now invites'.rows).Sublist (openOffers now invites.rows) := by
  rw [Table.rows_of_update? h]
  refine List.Sublist.map _ (filter_updateRows_sublist fun i _ _ hopen => ?_)
  exact hg i hopen.1

theorem openOffers_expireInvites {invites invites' : InviteTable}
    (h : expireInvites now invites = some invites') :
    openOffers now invites'.rows = openOffers now invites.rows := by
  rw [openOffers, openOffers, Table.rows_of_update? h]
  refine map_filter_updateRows fun i _ hq => ?_
  obtain ⟨-, hexp⟩ := hq
  constructor
  · simp only [reduceCtorEq, false_and, false_iff, not_and, not_lt]
    exact fun _ => hexp
  · intro hopen
    omega

theorem createInvite_moves {om : Except DomainError Unit} {ownerID inviteID tokenHash : String} {share : ℤ}
    (h : createInvite om now ownerID (newInvite now inviteID tokenHash share) p = .ok p') :
    Move (ledger now p) .unchanged (ledger now p') := by
  simp only [createInvite, check_bind_eq_ok, ensure_eq_ok, orFail_bind_eq_ok, commit_eq_ok] at h
  obtain ⟨-, -, -, expired, hexpire, hzero, hshare, hcap, invites, hinsert, rfl⟩ := h
  have hoffers : openOffers now expired.rows = openOffers now p.invites.rows :=
    openOffers_expireInvites hexpire
  have hledger : ledger now { p with invites := expired } = ledger now p := by
    simp only [ledger, hoffers]
  rw [allocatedShares_eq_total, hledger] at hcap
  refine @Move.offer _ _ share ?_ hshare hzero hcap
  rw [Table.rows_of_insert? hinsert]
  refine (openOffers_perm now (List.perm_append_singleton _ _)).trans ?_
  rw [openOffers_cons, if_pos ⟨rfl, by simp [newInvite]⟩, hoffers]
  exact List.Perm.refl _

theorem acceptInvite_moves {om : Except DomainError Unit} {tokenHash userID memberID : String}
    {reported : Option DomainError}
    (h : acceptInvite om now tokenHash userID memberID p = .ok (p', reported)) :
    Move (ledger now p) (seatingOf now p (.acceptInvite om tokenHash userID memberID)) (ledger now p') := by
  simp only [acceptInvite, orFail_bind_eq_ok] at h
  obtain ⟨invite, hfind, h⟩ := h
  have hi : invite ∈ p.invites.rows := List.mem_of_find?_eq_some hfind
  simp only [seatingOf, hfind]
  split at h
  · next hexpired =>
    simp only [orFail_bind_eq_ok, commit_eq_ok, Prod.mk.injEq] at h
    obtain ⟨invites, hupdate, rfl, -⟩ := h
    rw [if_pos hexpired]
    exact Move.settle (openOffers_update_sublist now hupdate fun _ => by simp)
  · next hexpired =>
    simp only [check_bind_eq_ok, ensure_eq_ok] at h
    obtain ⟨⟨hpending, -⟩, -, h⟩ := h
    simp only [bind_eq_ok, orFail_eq_ok, commit_eq_ok, Prod.mk.injEq] at h
    obtain ⟨joined, hjoin, invites, hupdate, rfl, -⟩ := h
    obtain ⟨hjid, hnew, hperm⟩ := upsertMember_joins hjoin
    rw [if_neg hexpired, ← hjid]
    refine Move.accept hnew hperm ?_
    -- the accepted invite leaves the open offers, every other row stays
    obtain ⟨rest, -, hold, hupdated⟩ := updateRows_perm (q := fun i => i.id = invite.id)
      (g := fun i =>
        { i with status := .accepted, acceptedByUserID := some userID, acceptedAt := some now })
      p.invites.keys_nodup hi fun _ _ => Iff.rfl
    have hopen : invite.status = .pending ∧ now < invite.expiresAt := by
      refine ⟨hpending, ?_⟩
      by_contra hle
      exact hexpired ⟨hpending, not_lt.mp hle⟩
    rw [Table.rows_of_update? hupdate]
    have hbefore := openOffers_perm now hold
    have hafter := openOffers_perm now hupdated
    rw [openOffers_cons, if_pos hopen] at hbefore
    rw [openOffers_cons, if_neg (by simp)] at hafter
    exact hbefore.trans (hafter.symm.cons _)

theorem revokeInvite_moves {ownerID inviteID : String} (h : revokeInvite now ownerID inviteID p = .ok p') :
    Move (ledger now p) .unchanged (ledger now p') := by
  simp only [revokeInvite, check_bind_eq_ok, ensure_eq_ok, orFail_bind_eq_ok, commit_eq_ok] at h
  obtain ⟨-, -, invites, hupdate, rfl⟩ := h
  exact Move.settle (openOffers_update_sublist now hupdate fun _ => by simp)

theorem sum_filter_ne_eq_rest {holders rest : List (String × ℤ)} {id : String} {old : ℤ}
    (hid : id ∉ rest.map Prod.fst) (h : holders.Perm ((id, old) :: rest)) :
    ((holders.filter fun x => x.1 ≠ id).map Prod.snd).sum = (rest.map Prod.snd).sum := by
  have hrest : rest.filter (fun x => x.1 ≠ id) = rest := by
    rw [List.filter_eq_self]
    intro x hx
    have hne : x.1 ≠ id := ne_of_mem_holders hid hx
    simpa using hne
  rw [((h.filter fun x => x.1 ≠ id).map Prod.snd).sum_eq, List.filter_cons, hrest]
  simp

theorem otherShares_eq (p : Plan) (memberID : String) :
    p.otherShares now memberID =
      (((ledger now p).holders.filter fun x => x.1 ≠ memberID).map Prod.snd).sum +
        (ledger now p).offers.sum + (ledger now p).reserved := by
  have hshares : sumWhere (fun m => m.status = .active ∧ m.id ≠ memberID) Member.shareBasisPoints
      p.members.rows = (((ledger now p).holders.filter fun x => x.1 ≠ memberID).map Prod.snd).sum := by
    simp only [sumWhere, ledger, seatHolders, List.filter_map, List.map_map, List.filter_filter]
    congr 3
    funext m
    simp [Bool.and_comm]
  rw [Plan.otherShares, hshares, Plan.reservedShares, approvedSeats_eq_seats now, pendingShares_eq_offers]
  rfl

theorem updateMemberShare_moves {ownerID memberID : String} {share : ℤ} {limit : Option ℤ}
    (h : updateMemberShare now ownerID memberID share limit p = .ok p') :
    Move (ledger now p) .unchanged (ledger now p') := by
  simp only [updateMemberShare, check_bind_eq_ok, ensure_eq_ok, orFail_bind_eq_ok, commit_eq_ok] at h
  obtain ⟨-, -, -, -, hcap, ⟨m, hm, rfl, hactive⟩, members, hupdate, rfl⟩ := h
  obtain ⟨rest, hrest, hold, hnew⟩ := seatHolders_update
    (g := fun x => { x with shareBasisPoints := share, usdLimitMicros := limit }) hm (selects_active hm hactive)
  have hm_old : seatHolders [m] = [(m.id, m.shareBasisPoints)] := by simp [seatHolders, hactive]
  have hm_new : seatHolders [{ m with shareBasisPoints := share, usdLimitMicros := limit }] =
      [(m.id, share)] := by simp [seatHolders, hactive]
  rw [hm_old] at hold
  rw [hm_new, ← Table.rows_of_update? hupdate] at hnew
  refine @Move.reshare _ _ (seatHolders rest) m.id m.shareBasisPoints share hold hnew fun hfixed => ?_
  have hother := sum_filter_ne_eq_rest hrest hold
  have hcap := hcap hfixed
  rw [otherShares_eq] at hcap
  rw [← hother]
  exact hcap

/-- The collected allocations are the requested ones, in range and within the cap. -/
theorem collectAllocations_spec {allocations : List MemberShareAllocation} {seen collected : List (String × ℤ)}
    {total : ℤ} (htotal : total ≤ maxShareBPS) (hsum : (seen.map Prod.snd).sum = total)
    (hseen : ∀ a ∈ seen, 0 ≤ a.2) (h : collectAllocations allocations seen total = .ok collected) :
    (collected.map Prod.snd).sum ≤ maxShareBPS ∧ ∀ a ∈ collected, 0 ≤ a.2 := by
  induction allocations generalizing seen total with
  | nil =>
    obtain rfl : seen = collected := by simpa [collectAllocations] using h
    exact ⟨hsum.trans_le htotal, hseen⟩
  | cons a rest ih =>
    simp only [collectAllocations, check_bind_eq_ok, ensure_eq_ok] at h
    obtain ⟨⟨-, hrange⟩, -, hle, h⟩ := h
    refine ih hle (by simp [hsum]) ?_ h
    intro b hb
    rcases List.mem_append.mp hb with hb | hb
    · exact hseen b hb
    · obtain rfl := List.mem_singleton.mp hb
      exact hrange.1

/-- One allocation keeps the holders and raises the sum of their shares by at most its share. -/
theorem allocate_spec {id : String} {share : ℤ} (hnn : ∀ x ∈ seatHolders members.rows, 0 ≤ x.2)
    (hshare : 0 ≤ share)
    (h : members.update? (fun m => m.id = id ∧ m.status = .active)
      (fun m => { m with shareBasisPoints := share }) = some members') :
    (seatHolders members'.rows).map Prod.fst = (seatHolders members.rows).map Prod.fst ∧
      (∀ x ∈ seatHolders members'.rows, 0 ≤ x.2) ∧
      ((seatHolders members'.rows).map Prod.snd).sum ≤
        ((seatHolders members.rows).map Prod.snd).sum + share := by
  rw [Table.rows_of_update? h]
  refine ⟨?_, ?_⟩
  · simp only [seatHolders, List.map_map]
    exact map_filter_updateRows fun _ _ _ => ⟨Iff.rfl, fun _ => rfl⟩
  by_cases hm : ∃ m ∈ members.rows, m.id = id ∧ m.status = .active
  · obtain ⟨m, hm, rfl, hactive⟩ := hm
    obtain ⟨rest, -, hold, hnew⟩ := seatHolders_update
      (g := fun x => { x with shareBasisPoints := share }) hm (selects_active hm hactive)
    have hm_old : seatHolders [m] = [(m.id, m.shareBasisPoints)] := by simp [seatHolders, hactive]
    have hm_new : seatHolders [{ m with shareBasisPoints := share }] = [(m.id, share)] := by
      simp [seatHolders, hactive]
    rw [hm_old] at hold
    rw [hm_new] at hnew
    have hm_nn : 0 ≤ m.shareBasisPoints := hnn (m.id, m.shareBasisPoints) (hold.symm.subset (by simp))
    refine ⟨fun x hx => ?_, ?_⟩
    · rcases List.mem_cons.mp (hnew.subset hx) with rfl | hx'
      · exact hshare
      · exact hnn x (hold.symm.subset (List.mem_cons_of_mem _ hx'))
    · rw [shares_perm_cons hold, shares_perm_cons hnew]
      omega
  · rw [updateRows_eq_self fun x hx hq => hm ⟨x, hx, hq⟩]
    exact ⟨hnn, by omega⟩

theorem applyAllocations_spec {allocations : List (String × ℤ)} (hall : ∀ a ∈ allocations, 0 ≤ a.2)
    (hnn : ∀ x ∈ seatHolders members.rows, 0 ≤ x.2)
    (h : applyAllocations allocations members = .ok members') :
    (seatHolders members'.rows).map Prod.fst = (seatHolders members.rows).map Prod.fst ∧
      ((seatHolders members'.rows).map Prod.snd).sum ≤
        ((seatHolders members.rows).map Prod.snd).sum + (allocations.map Prod.snd).sum := by
  induction allocations generalizing members with
  | nil =>
    obtain rfl : members = members' := by simpa [applyAllocations] using h
    simp
  | cons a rest ih =>
    simp only [applyAllocations, orFail_bind_eq_ok] at h
    obtain ⟨next, hupdate, h⟩ := h
    obtain ⟨hids, hnn', hsum⟩ := allocate_spec hnn (hall a (by simp)) hupdate
    obtain ⟨hids', hsum'⟩ := ih (fun b hb => hall b (by simp [hb])) hnn' h
    refine ⟨hids'.trans hids, ?_⟩
    rw [List.map_cons, List.sum_cons]
    omega

theorem convertPlanToFixed_moves {ownerID : String} {allocations : List MemberShareAllocation}
    (h : convertPlanToFixed ownerID allocations p = .ok p') :
    Move (ledger now p) .unchanged (ledger now p') := by
  simp only [convertPlanToFixed, bind_eq_ok] at h
  obtain ⟨allocationByMember, hcollect, h⟩ := h
  simp only [orFail_eq_ok, commit_eq_ok] at h
  obtain ⟨-, -, -, -, -, -, zeroed, hzero, members, happly, invites, hinvites, rfl⟩ := h
  obtain ⟨hsum, hall⟩ := collectAllocations_spec (by decide) rfl (by simp) hcollect
  have hzero_ids : (seatHolders zeroed.rows).map Prod.fst = (seatHolders p.members.rows).map Prod.fst := by
    rw [Table.rows_of_update? hzero]
    simp only [seatHolders, List.map_map]
    exact map_filter_updateRows fun _ _ _ => ⟨Iff.rfl, fun _ => rfl⟩
  have hzero_shares : ∀ x ∈ seatHolders zeroed.rows, x.2 = 0 := by
    intro x hx
    rw [Table.rows_of_update? hzero] at hx
    obtain ⟨m, hm, rfl⟩ := List.mem_map.mp hx
    obtain ⟨hmem, hactive⟩ := List.mem_filter.mp hm
    obtain ⟨m₀, -, rfl⟩ := List.mem_map.mp hmem
    by_cases hm₀ : m₀.status = .active
    · simp [hm₀]
    · simp [hm₀] at hactive
  obtain ⟨hids, hshares⟩ := applyAllocations_spec hall (fun x hx => (hzero_shares x hx).ge) happly
  have hzero_sum : ((seatHolders zeroed.rows).map Prod.snd).sum = 0 := by
    apply List.sum_eq_zero
    intro share hshare
    obtain ⟨x, hx, rfl⟩ := List.mem_map.mp hshare
    exact hzero_shares x hx
  refine Move.convert (L := ledger now p) (hids.trans hzero_ids) ?_ ?_
  · intro o ho
    rw [Table.rows_of_update? hinvites] at ho
    obtain ⟨i, hi, rfl⟩ := List.mem_map.mp ho
    obtain ⟨hmem, hopen⟩ := List.mem_filter.mp hi
    obtain ⟨i₀, -, rfl⟩ := List.mem_map.mp hmem
    by_cases hi₀ : i₀.status = .pending
    · simp [hi₀]
    · simp [hi₀] at hopen
  · rw [hzero_sum, zero_add] at hshares
    exact hshares.trans hsum

theorem removePlanMember_moves {actorUserID memberID : String}
    (h : removePlanMember now actorUserID memberID p = .ok p') :
    Move (ledger now p) (.left memberID) (ledger now p') := by
  simp only [removePlanMember, check_bind_eq_ok, ensure_eq_ok, orFail_bind_eq_ok, commit_eq_ok] at h
  obtain ⟨target, hfind, -, -, hactive, members, hupdate, rfl⟩ := h
  have hm : target ∈ p.members.rows := List.mem_of_find?_eq_some hfind
  have hid : target.id = memberID := by simpa using List.find?_some hfind
  subst hid
  obtain ⟨rest, hrest, hold, hnew⟩ := seatHolders_update (q := fun x => x.id = target.id)
    (g := fun x =>
      { x with status := .removed, concurrencyBase := 0, concurrencyMax := 0, removedAt := some now })
    hm fun _ _ => Iff.rfl
  have hseat : seatHolders [target] = [(target.id, target.shareBasisPoints)] := by
    simp [seatHolders, hactive]
  rw [hseat] at hold
  rw [← Table.rows_of_update? hupdate] at hnew
  have hnew' : (seatHolders members.rows).Perm (seatHolders rest) := by
    simpa [seatHolders] using hnew
  exact Move.leave (fun hmem => hrest ((hnew'.map _).subset hmem)) (hold.trans (hnew'.symm.cons _))

theorem updatePlanStatus_moves {om account : Except DomainError Unit} {ownerID : String}
    {status : PlanStatus} (h : updatePlanStatus om account now ownerID status p = .ok p') :
    Move (ledger now p) .unchanged (ledger now p') := by
  simp only [updatePlanStatus, check_bind_eq_ok, ensure_eq_ok] at h
  obtain ⟨-, -, -, -, -, -, -, h⟩ := h
  split at h
  · simp only [orFail_bind_eq_ok, commit_eq_ok] at h
    obtain ⟨invites, hinvites, applications, happlications, rfl⟩ := h
    have hheld : heldBy applications.rows = heldBy p.applications.rows := by
      rw [Table.rows_of_update? happlications]
      refine heldBy_updateRows fun j _ hj => ⟨?_, by simp⟩
      rw [hj]
      simp
    have := Move.close (L := ledger now p)
      (openOffers_update_sublist now hinvites fun _ => by simp)
    simpa only [ledger, hheld] using this
  · simp only [commit_eq_ok] at h
    subst h
    exact Move.settle (L := ledger now p) (List.Sublist.refl _)

theorem seatHolders_setRole {q : Member → Prop} [DecidablePred q] {role : Role}
    (h : members.update? q (fun m => { m with role := role }) = some members') :
    seatHolders members'.rows = seatHolders members.rows := by
  rw [seatHolders, Table.rows_of_update? h]
  exact map_filter_updateRows fun _ _ _ => ⟨Iff.rfl, fun _ => rfl⟩

theorem transferPlanOwnership_moves {om : Except DomainError Unit} {ownerID memberID : String}
    (h : transferPlanOwnership om ownerID memberID p = .ok p') :
    Move (ledger now p) .unchanged (ledger now p') := by
  simp only [transferPlanOwnership, check_bind_eq_ok, ensure_eq_ok, orFail_bind_eq_ok, commit_eq_ok] at h
  obtain ⟨-, target, -, -, -, demoted, hdemote, members, hpromote, rfl⟩ := h
  have hholders : seatHolders members.rows = seatHolders p.members.rows :=
    (seatHolders_setRole hpromote).trans (seatHolders_setRole hdemote)
  have := Move.settle (L := ledger now p) (List.Sublist.refl _)
  simpa only [ledger, hholders] using this

theorem elapse_moves (micros : ℕ) : Move (ledger now p) .unchanged (ledger (now + micros) p) := by
  refine Move.settle (L := ledger now p) (List.Sublist.map _ ?_)
  apply List.monotone_filter_right
  intro i hi
  simp only [decide_eq_true_eq] at hi ⊢
  exact ⟨hi.1, by omega⟩

theorem cleanupResources_moves (terminalRecords : ℕ) :
    Move (ledger now p) .purged (ledger now (cleanupResources now terminalRecords p)) := by
  refine Move.purge (L := ledger now p) ?_ fun id => ?_
  · exact List.Sublist.map _ (List.filter_sublist.filter _)
  · exact List.filter_sublist.countP_le

/-- Every committed operation is a move of the ledger. -/
theorem apply_moves {op : PlanOp} (h : apply now p op = .ok p') :
    Move (ledger now p) (seatingOf now p op) (ledger (tick now op) p') := by
  cases op with
  | updatePlanPublication => exact updatePlanPublication_moves h
  | createJoinApplication => exact createJoinApplication_moves h
  | reviewJoinApplication => exact reviewJoinApplication_moves h
  | createInvite => exact createInvite_moves h
  | acceptInvite =>
    obtain ⟨⟨p₁, reported⟩, haccept, rfl⟩ := map_eq_ok.mp h
    exact acceptInvite_moves haccept
  | revokeInvite => exact revokeInvite_moves h
  | updateMemberShare => exact updateMemberShare_moves h
  | convertPlanToFixed => exact convertPlanToFixed_moves h
  | removePlanMember => exact removePlanMember_moves h
  | updatePlanStatus => exact updatePlanStatus_moves h
  | transferPlanOwnership => exact transferPlanOwnership_moves h
  | elapse micros =>
    cases h
    exact elapse_moves micros
  | cleanupResources terminalRecords =>
    cases h
    exact cleanupResources_moves terminalRecords

theorem step_moves {s t : PlanState} {op : PlanOp} (h : step s op = .ok t) :
    apply s.clock s.plan op = .ok t.plan ∧
      Move (ledger s.clock s.plan) (seatingOf s.clock s.plan op) (ledger t.clock t.plan) := by
  obtain ⟨p', happly, rfl⟩ := map_eq_ok.mp h
  exact ⟨happly, apply_moves happly⟩

/-- A new plan has one holder, no offer and no application. -/
theorem ledger_of_created {s : PlanState} (h : Created s) :
    ∃ (mode : AllocationMode) (memberID : String) (share : ℤ),
      (mode = .fixed → share ≤ maxShareBPS) ∧
        ledger s.clock s.plan = ⟨mode, .privatePlan, 0, 0, [(memberID, share)], [], fun _ => 0⟩ := by
  obtain ⟨om, account, userID, memberID, accountID, mode, share, h⟩ := h
  simp only [createPlan, check_bind_eq_ok, ensure_eq_ok, orFail_bind_eq_ok, commit_eq_ok] at h
  obtain ⟨hfixed, -, -, -, members, hinsert, hplan⟩ := h
  have hrows : members.rows = [newOwner s.clock userID memberID share] := Table.rows_of_insert? hinsert
  refine ⟨mode, memberID, share, fun hmode => (hfixed hmode).2, ?_⟩
  rw [← hplan]
  simp [ledger, newPlan, hrows, seatHolders, openOffers, newOwner]
  rfl

end Moves

end ShareSub.PlanSystem

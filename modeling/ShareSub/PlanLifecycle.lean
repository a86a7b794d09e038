import ShareSub.Evolution
import ShareSub.PlanMembers
import ShareSub.PlanShareCap

/-!
# The life of an invite, an application and a plan

Beside its members a plan keeps the invites its owner sent and the applications it received. An operation moves a
row only as long as it is pending, and every row says how it was decided and when.
-/
namespace ShareSub.PlanLifecycle

open PlanModel PlanSystem PlanMembers PlanShareCap Evolution Transaction

section Changes

inductive InviteMove (now : ℤ) (members : List Member) (i : Invite) : Invite → Prop
  | kept : InviteMove now members i i
  | expired (hpending : i.status = .pending) (hpast : i.expiresAt ≤ now) :
      InviteMove now members i { i with status := .expired }
  | accepted {userID : String} (hpending : i.status = .pending) (hopen : now < i.expiresAt)
      (hjoined : ∃ m ∈ members, m.userID = userID) :
      InviteMove now members i
        { i with status := .accepted, acceptedByUserID := some userID, acceptedAt := some now }
  | revoked (hpending : i.status = .pending) :
      InviteMove now members i { i with status := .revoked, revokedAt := some now }
  | emptied (hpending : i.status = .pending) : InviteMove now members i { i with shareBasisPoints := 0 }

inductive ApplicationMove (now : ℤ) (members : List Member) (j : JoinApplication) : JoinApplication → Prop
  | kept : ApplicationMove now members j j
  | approved {id : String} (hpending : j.status = .pending) (hjoined : ∃ m ∈ members, m.id = id ∧ m.userID = j.userID) :
      ApplicationMove now members j { j with status := .approved, memberID := some id, reviewedAt := some now }
  | rejected (hpending : j.status = .pending) :
      ApplicationMove now members j { j with status := .rejected, reviewedAt := some now }

/-- The columns of the plan's own row that its operations change. -/
structure Settings where
  status : PlanStatus
  visibility : Visibility
  publicSlots : ℤ
  publicShareBasisPoints : ℤ
  allocationMode : AllocationMode
  archivedAt : Option ℤ
  deriving DecidableEq, Repr

def settings (p : Plan) : Settings :=
  ⟨p.status, p.visibility, p.publicSlots, p.publicShareBasisPoints, p.allocationMode, p.archivedAt⟩

inductive SettingsMove (now : ℤ) (c : Settings) : Settings → Prop
  | kept : SettingsMove now c c
  | published {slots share : ℤ} (hactive : c.status = .active) (hslots : 1 ≤ slots ∧ slots ≤ 100)
      (hshare : shareInRange share) (hshared : c.allocationMode = .shared → share = 0) :
      SettingsMove now c
        { c with visibility := .publicPlan, publicSlots := slots, publicShareBasisPoints := share }
  | withdrawn (hactive : c.status = .active) :
      SettingsMove now c { c with visibility := .privatePlan, publicSlots := 0, publicShareBasisPoints := 0 }
  | converted (hshared : c.allocationMode = .shared) :
      SettingsMove now c { c with allocationMode := .fixed, publicShareBasisPoints := 0 }
  | archived (hactive : c.status = .active) :
      SettingsMove now c
        { c with
          status := .archived, visibility := .privatePlan, publicSlots := 0,
          publicShareBasisPoints := 0, archivedAt := some now }
  | restored (harchived : c.status = .archived) : SettingsMove now c { c with status := .active, archivedAt := none }

/-- A shared plan gives a member no share of his own but that of an invite. -/
def Given (p p' : Plan) (share : ℤ) : Prop :=
  p'.allocationMode = .shared → share = 0 ∨ ∃ i ∈ p.invites.rows, i.shareBasisPoints = share

inductive MemberMove (p p' : Plan) (m : Member) : Member → Prop
  | kept : MemberMove p p' m m
  | allotted {share : ℤ} (limit : Option ℤ) (hgiven : Given p p' share) :
      MemberMove p p' m { m with shareBasisPoints := share, usdLimitMicros := limit }
  | rejoined {share : ℤ} (hgiven : Given p p' share) : MemberMove p p' m (rejoin share m)
  | left {now : ℤ} : MemberMove p p' m (leave now m)
  | handedOver {role : Role} : MemberMove p p' m { m with role := role }

def Joined (p p' : Plan) (m : Member) : Prop :=
  ∃ now memberID userID share, m = joiningMember now memberID userID share ∧ Given p p' share

/-- The instant that the retention of an invite counts from. -/
def settledAt (i : Invite) : ℤ := (i.acceptedAt.orElse fun _ => i.revokedAt).getD i.expiresAt

def Offered (now : ℤ) (p : Plan) (op : PlanOp) (i : Invite) : Prop :=
  ∃ ownerMembership ownerID inviteID tokenHash share,
    op = .createInvite ownerMembership ownerID inviteID tokenHash share ∧
    i = newInvite now inviteID tokenHash share ∧ p.status = .active ∧ (p.allocationMode = .shared → share = 0)

def Applied (now : ℤ) (p : Plan) (op : PlanOp) (j : JoinApplication) : Prop :=
  ∃ applicationID userID, op = .createJoinApplication applicationID userID ∧
    j = ⟨applicationID, userID, .pending, none, none, now⟩ ∧ p.status = .active

def InvitePurged (now : ℤ) (op : PlanOp) (i : Invite) : Prop :=
  ∃ terminalRecords, op = .cleanupResources terminalRecords ∧ settledAt i < now - terminalRecords

def ApplicationPurged (now : ℤ) (op : PlanOp) (j : JoinApplication) : Prop :=
  ∃ terminalRecords, op = .cleanupResources terminalRecords ∧ purgeable (now - terminalRecords) j

structure PlanChange (now : ℤ) (op : PlanOp) (p p' : Plan) : Prop where
  invites : Evolves (InviteMove now p'.members.rows) (Offered now p op) (InvitePurged now op)
    p.invites.rows p'.invites.rows
  applications : Evolves (ApplicationMove now p'.members.rows) (Applied now p op) (ApplicationPurged now op)
    p.applications.rows p'.applications.rows
  members : Evolves (MemberMove p p') (Joined p p') (fun _ => False) p.members.rows p'.members.rows
  config : SettingsMove now (settings p) (settings p')
  closing : p.status = .active → p'.status = .archived →
    (∀ i ∈ p'.invites.rows, i.status ≠ .pending) ∧ ∀ j ∈ p'.applications.rows, j.status ≠ .pending

variable {now : ℤ} {p p' : Plan} {op : PlanOp} {members members' : MemberTable}

lemma keep_invites (h : p'.invites = p.invites) :
    Evolves (InviteMove now p'.members.rows) (Offered now p op) (InvitePurged now op)
    p.invites.rows p'.invites.rows := by
  rw [h]
  exact Evolves.refl (fun _ => .kept) _

lemma keep_applications (h : p'.applications = p.applications) :
    Evolves (ApplicationMove now p'.members.rows) (Applied now p op) (ApplicationPurged now op)
      p.applications.rows p'.applications.rows := by
  rw [h]
  exact Evolves.refl (fun _ => .kept) _

lemma keep_members (h : p'.members = p.members) :
    Evolves (MemberMove p p') (Joined p p') (fun _ => False) p.members.rows p'.members.rows := by
  rw [h]
  exact Evolves.refl (fun _ => .kept) _

lemma keep_settings (h : settings p' = settings p) : SettingsMove now (settings p) (settings p') := by
  rw [h]
  exact .kept

lemma not_closing (h : p'.status = p.status) : p.status = .active → p'.status = .archived →
    (∀ i ∈ p'.invites.rows, i.status ≠ .pending) ∧ ∀ j ∈ p'.applications.rows, j.status ≠ .pending := by
  intro hactive harchived
  rw [h, hactive] at harchived
  cases harchived

/-- The row that a joining user has afterwards. -/
lemma upsertMember_row {memberID userID : String} {share : ℤ} {joined : MemberTable × String}
    (h : upsertMember now memberID userID share members = .ok joined) :
    ∃ m ∈ joined.1.rows, m.id = joined.2 ∧ m.userID = userID := by
  unfold upsertMember at h
  split at h
  · next m hfind =>
    simp only [check_bind_eq_ok, ensure_eq_ok, orFail_bind_eq_ok, commit_eq_ok] at h
    obtain ⟨-, members', hupdate, rfl⟩ := h
    have huser : m.userID = userID := by simpa using List.find?_some hfind
    refine ⟨rejoin share m, ?_, rfl, huser⟩
    rw [Table.rows_of_update? hupdate]
    exact List.mem_map.mpr ⟨m, List.mem_of_find?_eq_some hfind, if_pos huser⟩
  · simp only [orFail_bind_eq_ok, commit_eq_ok] at h
    obtain ⟨members', hinsert, rfl⟩ := h
    rw [Table.rows_of_insert? hinsert]
    exact ⟨_, List.mem_append_right _ (List.mem_singleton.mpr rfl), rfl, rfl⟩

lemma upsertMember_evolves {memberID userID : String} {share : ℤ} {joined : MemberTable × String}
    (h : upsertMember now memberID userID share p.members = .ok joined) (hmembers : p'.members = joined.1)
    (hgiven : Given p p' share) :
    Evolves (MemberMove p p') (Joined p p') (fun _ => False) p.members.rows p'.members.rows := by
  rw [hmembers]
  rcases upsertMember_cases h with ⟨-, hrows⟩ | ⟨-, hrows⟩
  · rw [hrows]
    exact (Evolves.refl (fun _ => .kept) _).append ⟨now, memberID, userID, share, rfl, hgiven⟩
  · rw [hrows]
    exact evolves_update (fun _ => .kept) fun _ _ _ => .rejoined hgiven

lemma reviewJoinApplication_change {om : Except DomainError Unit} {ownerID applicationID memberID : String}
    {approve : Bool} (h : reviewJoinApplication om now ownerID applicationID approve memberID p = .ok p') :
    PlanChange now (.reviewJoinApplication om ownerID applicationID approve memberID) p p' := by
  simp only [reviewJoinApplication, check_bind_eq_ok, ensure_eq_ok, orFail_bind_eq_ok] at h
  obtain ⟨application, hfind, -, hpending, h⟩ := h
  have hmem := List.mem_of_find?_eq_some hfind
  have hid : application.id = applicationID := by simpa using List.find?_some hfind
  have hone : ∀ j ∈ p.applications.rows, j.id = applicationID → j = application := fun j hj hj' =>
    eq_of_key_eq p.applications.keys_nodup hj hmem (hj'.trans hid.symm)
  split at h
  · simp only [check_bind_eq_ok, ensure_eq_ok] at h
    obtain ⟨-, -, -, hshared, -, h⟩ := h
    simp only [bind_eq_ok, orFail_eq_ok, commit_eq_ok] at h
    obtain ⟨joined, hjoin, applications, hupdate, rfl⟩ := h
    obtain ⟨m, hm, hmid, huser⟩ := upsertMember_row hjoin
    refine ⟨keep_invites rfl, ?_, upsertMember_evolves hjoin rfl fun hmode => Or.inl (hshared hmode),
      keep_settings rfl, not_closing rfl⟩
    dsimp only
    rw [Table.rows_of_update? hupdate]
    refine evolves_update (fun _ => .kept) ?_
    intro j hj hj'
    rw [hone j hj hj']
    exact .approved hpending ⟨m, hm, hmid, huser⟩
  · simp only [orFail_bind_eq_ok, commit_eq_ok] at h
    obtain ⟨applications, hupdate, rfl⟩ := h
    refine ⟨keep_invites rfl, ?_, keep_members rfl, keep_settings rfl, not_closing rfl⟩
    dsimp only
    rw [Table.rows_of_update? hupdate]
    refine evolves_update (fun _ => .kept) ?_
    intro j hj hj'
    rw [hone j hj hj']
    exact .rejected hpending

lemma createInvite_change {om : Except DomainError Unit} {ownerID inviteID tokenHash : String} {share : ℤ}
    (h : createInvite om now ownerID (newInvite now inviteID tokenHash share) p = .ok p') :
    PlanChange now (.createInvite om ownerID inviteID tokenHash share) p p' := by
  simp only [createInvite, check_bind_eq_ok, ensure_eq_ok, orFail_bind_eq_ok, commit_eq_ok] at h
  obtain ⟨hactive, -, -, expired, hexpire, hshared, -, -, invites, hinsert, rfl⟩ := h
  refine ⟨?_, keep_applications rfl, keep_members rfl, keep_settings rfl, not_closing rfl⟩
  dsimp only
  rw [Table.rows_of_insert? hinsert, Table.rows_of_update? hexpire]
  refine Evolves.append (evolves_update (fun _ => .kept) ?_) ?_
  · rintro i - ⟨hpending, hpast⟩
    exact .expired hpending hpast
  · exact ⟨om, ownerID, inviteID, tokenHash, share, rfl, rfl, hactive, hshared⟩

lemma acceptInvite_change {om : Except DomainError Unit} {tokenHash userID memberID : String}
    {outcome : Plan × Option DomainError} (h : acceptInvite om now tokenHash userID memberID p = .ok outcome) :
    PlanChange now (.acceptInvite om tokenHash userID memberID) p outcome.1 := by
  simp only [acceptInvite, orFail_bind_eq_ok] at h
  obtain ⟨invite, hfind, h⟩ := h
  have hmem := List.mem_of_find?_eq_some hfind
  have hone : ∀ i ∈ p.invites.rows, i.id = invite.id → i = invite := fun i hi hi' =>
    eq_of_key_eq p.invites.keys_nodup hi hmem hi'
  split at h
  · next hpast =>
    simp only [orFail_bind_eq_ok, commit_eq_ok] at h
    obtain ⟨invites, hupdate, rfl⟩ := h
    refine ⟨?_, keep_applications rfl, keep_members rfl, keep_settings rfl, not_closing rfl⟩
    dsimp only
    rw [Table.rows_of_update? hupdate]
    refine evolves_update (fun _ => .kept) ?_
    intro i hi hi'
    rw [hone i hi hi']
    exact .expired hpast.1 hpast.2
  · next hopen =>
    simp only [check_bind_eq_ok, ensure_eq_ok] at h
    obtain ⟨⟨hpending, -⟩, -, h⟩ := h
    simp only [bind_eq_ok, orFail_eq_ok, commit_eq_ok] at h
    obtain ⟨joined, hjoin, invites, hupdate, rfl⟩ := h
    obtain ⟨m, hm, -, huser⟩ := upsertMember_row hjoin
    refine ⟨?_, keep_applications rfl, upsertMember_evolves hjoin rfl fun _ => Or.inr ⟨invite, hmem, rfl⟩,
      keep_settings rfl, not_closing rfl⟩
    dsimp only
    rw [Table.rows_of_update? hupdate]
    refine evolves_update (fun _ => .kept) ?_
    intro i hi hi'
    rw [hone i hi hi']
    refine .accepted hpending ?_ ⟨m, hm, huser⟩
    by_contra hlate
    exact hopen ⟨hpending, not_lt.mp hlate⟩

lemma applyAllocations_evolves {allocations : List (String × ℤ)}
    (h : applyAllocations allocations members = .ok members') :
    Evolves (fun m m' => ∃ share, m' = { m with shareBasisPoints := share }) (fun _ => False) (fun _ => False)
      members.rows members'.rows := by
  induction allocations generalizing members with
  | nil =>
    cases h
    exact Evolves.refl (fun m => ⟨m.shareBasisPoints, rfl⟩) _
  | cons a rest ih =>
    simp only [applyAllocations, orFail_bind_eq_ok] at h
    obtain ⟨next, hupdate, h⟩ := h
    have hfirst : Evolves (fun m m' => ∃ share, m' = { m with shareBasisPoints := share }) (fun _ => False)
        (fun _ => False) members.rows next.rows := by
      rw [Table.rows_of_update? hupdate]
      exact evolves_update (fun m => ⟨m.shareBasisPoints, rfl⟩) fun m _ _ => ⟨a.2, rfl⟩
    refine hfirst.trans ?_ (fun _ _ hf _ => hf) (fun _ _ _ hf => hf) (ih h)
    rintro m - - ⟨share, rfl⟩ ⟨share', rfl⟩
    exact ⟨share', rfl⟩

lemma convertPlanToFixed_change {ownerID : String} {allocations : List MemberShareAllocation}
    (h : convertPlanToFixed ownerID allocations p = .ok p') :
    PlanChange now (.convertPlanToFixed ownerID allocations) p p' := by
  simp only [convertPlanToFixed, bind_eq_ok] at h
  obtain ⟨allocationByMember, -, h⟩ := h
  simp only [orFail_eq_ok, commit_eq_ok] at h
  obtain ⟨-, -, _, hshared, -, -, zeroed, hzero, members, happly, invites, hupdate, rfl⟩ := h
  refine ⟨?_, keep_applications rfl, ?_, .converted (ensure_eq_ok.mp hshared), not_closing rfl⟩
  · dsimp only
    rw [Table.rows_of_update? hupdate]
    exact evolves_update (fun _ => .kept) fun _ _ hpending => .emptied hpending
  · have hfirst : Evolves (fun m m' => ∃ share, m' = { m with shareBasisPoints := share }) (fun _ => False)
        (fun _ => False) p.members.rows zeroed.rows := by
      rw [Table.rows_of_update? hzero]
      exact evolves_update (fun m => ⟨m.shareBasisPoints, rfl⟩) fun m _ _ => ⟨0, rfl⟩
    have hboth := hfirst.trans (by
      rintro m - - ⟨share, rfl⟩ ⟨share', rfl⟩
      exact ⟨share', rfl⟩) (fun _ _ hf _ => hf) (fun _ _ _ hf => hf) (applyAllocations_evolves happly)
    refine hboth.mono ?_ (fun _ hf => hf.elim) fun _ hf => hf
    rintro m - ⟨share, rfl⟩
    exact .allotted m.usdLimitMicros fun hmode => by cases hmode

lemma updatePlanStatus_change {om account : Except DomainError Unit} {ownerID : String} {status : PlanStatus}
    (h : updatePlanStatus om account now ownerID status p = .ok p') :
    PlanChange now (.updatePlanStatus om account ownerID status) p p' := by
  simp only [updatePlanStatus, check_bind_eq_ok, ensure_eq_ok] at h
  obtain ⟨hstatus, -, -, hactive, harchived, -, -, h⟩ := h
  split at h
  · next harchive =>
    simp only [orFail_bind_eq_ok, commit_eq_ok] at h
    obtain ⟨invites, hinvites, applications, happlications, rfl⟩ := h
    refine ⟨?_, ?_, keep_members rfl, .archived (hactive harchive), fun _ _ => ⟨?_, ?_⟩⟩
    · dsimp only
      rw [Table.rows_of_update? hinvites]
      exact evolves_update (fun _ => .kept) fun _ _ hpending => .revoked hpending
    · dsimp only
      rw [Table.rows_of_update? happlications]
      exact evolves_update (fun _ => .kept) fun _ _ hpending => .rejected hpending
    · intro i hi
      rw [Table.rows_of_update? hinvites] at hi
      obtain ⟨i₀, -, rfl⟩ := List.mem_map.mp hi
      split_ifs with hpending
      · simp
      · exact hpending
    · intro j hj
      rw [Table.rows_of_update? happlications] at hj
      obtain ⟨j₀, -, rfl⟩ := List.mem_map.mp hj
      split_ifs with hpending
      · simp
      · exact hpending
  · next harchive =>
    simp only [commit_eq_ok] at h
    subst h
    cases status with
    | disabled => exact absurd rfl hstatus
    | archived => exact absurd rfl harchive
    | active =>
      exact ⟨keep_invites rfl, keep_applications rfl, keep_members rfl, .restored (harchived rfl),
        fun _ h => by cases h⟩

lemma updatePlanPublication_change {om : Except DomainError Unit} {ownerID : String} {v : Visibility}
    {slots share : ℤ} (h : updatePlanPublication om now ownerID v slots share p = .ok p') :
    PlanChange now (.updatePlanPublication om ownerID v slots share) p p' := by
  simp only [updatePlanPublication, check_bind_eq_ok, ensure_eq_ok, commit_eq_ok] at h
  obtain ⟨hrange, -, hactive, -, hshared, -, -, -, rfl⟩ := h
  refine ⟨keep_invites rfl, keep_applications rfl, keep_members rfl, ?_, not_closing rfl⟩
  cases v with
  | privatePlan => exact .withdrawn hactive
  | publicPlan =>
    obtain ⟨hlow, hhigh, hshare⟩ := hrange rfl
    exact .published hactive ⟨hlow, hhigh⟩ hshare (hshared rfl)

lemma transferPlanOwnership_change {om : Except DomainError Unit} {ownerID memberID : String}
    (h : transferPlanOwnership om ownerID memberID p = .ok p') :
    PlanChange now (.transferPlanOwnership om ownerID memberID) p p' := by
  simp only [transferPlanOwnership, check_bind_eq_ok, ensure_eq_ok, orFail_bind_eq_ok, commit_eq_ok] at h
  obtain ⟨-, target, -, -, -, demoted, hdemote, promoted, hpromote, rfl⟩ := h
  refine ⟨keep_invites rfl, keep_applications rfl, ?_, keep_settings rfl, not_closing rfl⟩
  have hroles : Evolves (fun m m' => ∃ role, m' = { m with role := role }) (fun _ => False) (fun _ => False)
      p.members.rows promoted.rows := by
    rw [Table.rows_of_update? hpromote, Table.rows_of_update? hdemote]
    refine Evolves.trans ?_ (fun _ _ hf _ => hf) (fun _ _ _ hf => hf)
      (evolves_update (fun m => ⟨m.role, rfl⟩) fun m _ _ => ⟨.member, rfl⟩)
      (evolves_update (fun m => ⟨m.role, rfl⟩) fun m _ _ => ⟨.owner, rfl⟩)
    rintro m - - ⟨role, rfl⟩ ⟨role', rfl⟩
    exact ⟨role', rfl⟩
  refine hroles.mono ?_ (fun _ hf => hf.elim) fun _ hf => hf
  rintro m - ⟨role, rfl⟩
  exact .handedOver

/-- What a committed operation does to the plan and its rows. -/
lemma apply_change (h : apply now p op = .ok p') : PlanChange now op p p' := by
  cases op with
  | updatePlanPublication => exact updatePlanPublication_change h
  | createJoinApplication applicationID userID =>
    simp only [apply, createJoinApplication, check_bind_eq_ok, ensure_eq_ok, orFail_bind_eq_ok, commit_eq_ok] at h
    obtain ⟨⟨hactive, -⟩, -, -, -, applications, hinsert, rfl⟩ := h
    refine ⟨keep_invites rfl, ?_, keep_members rfl, keep_settings rfl, not_closing rfl⟩
    dsimp only
    rw [Table.rows_of_insert? hinsert]
    exact (Evolves.refl (fun _ => .kept) _).append ⟨applicationID, userID, rfl, rfl, hactive⟩
  | reviewJoinApplication => exact reviewJoinApplication_change h
  | createInvite => exact createInvite_change h
  | acceptInvite =>
    obtain ⟨outcome, haccept, rfl⟩ := map_eq_ok.mp h
    exact acceptInvite_change haccept
  | revokeInvite ownerID inviteID =>
    simp only [apply, revokeInvite, check_bind_eq_ok, ensure_eq_ok, orFail_bind_eq_ok, commit_eq_ok] at h
    obtain ⟨-, -, invites, hupdate, rfl⟩ := h
    refine ⟨?_, keep_applications rfl, keep_members rfl, keep_settings rfl, not_closing rfl⟩
    dsimp only
    rw [Table.rows_of_update? hupdate]
    exact evolves_update (fun _ => .kept) fun _ _ hq => .revoked hq.2.1
  | updateMemberShare ownerID memberID share limit =>
    simp only [apply, updateMemberShare, check_bind_eq_ok, ensure_eq_ok, orFail_bind_eq_ok, commit_eq_ok] at h
    obtain ⟨-, -, hshared, -, -, -, members, hupdate, rfl⟩ := h
    refine ⟨keep_invites rfl, keep_applications rfl, ?_, keep_settings rfl, not_closing rfl⟩
    dsimp only
    rw [Table.rows_of_update? hupdate]
    exact evolves_update (fun _ => .kept) fun _ _ _ => .allotted limit fun hmode => Or.inl (hshared hmode)
  | convertPlanToFixed => exact convertPlanToFixed_change h
  | removePlanMember actorUserID memberID =>
    simp only [apply, removePlanMember, check_bind_eq_ok, ensure_eq_ok, orFail_bind_eq_ok, commit_eq_ok] at h
    obtain ⟨target, -, -, -, -, members, hupdate, rfl⟩ := h
    refine ⟨keep_invites rfl, keep_applications rfl, ?_, keep_settings rfl, not_closing rfl⟩
    dsimp only
    rw [Table.rows_of_update? hupdate]
    exact evolves_update (fun _ => .kept) fun _ _ _ => .left
  | updatePlanStatus => exact updatePlanStatus_change h
  | transferPlanOwnership => exact transferPlanOwnership_change h
  | elapse micros =>
    cases h
    exact ⟨keep_invites rfl, keep_applications rfl, keep_members rfl, keep_settings rfl, not_closing rfl⟩
  | cleanupResources terminalRecords =>
    cases h
    refine ⟨?_, ?_, keep_members rfl, keep_settings rfl, not_closing rfl⟩
    · exact evolves_delete (fun _ => .kept) fun i _ hold => ⟨terminalRecords, rfl, hold⟩
    · exact evolves_delete (fun _ => .kept) fun j _ hold => ⟨terminalRecords, rfl, hold⟩

end Changes

section Consistency

structure SettingsOk (c : Settings) : Prop where
  unpublished : c.visibility = .privatePlan → c.publicSlots = 0 ∧ c.publicShareBasisPoints = 0
  published : c.visibility = .publicPlan →
    c.status = .active ∧ 1 ≤ c.publicSlots ∧ c.publicSlots ≤ 100 ∧ shareInRange c.publicShareBasisPoints
  enabled : c.status ≠ .disabled
  archived : c.status = .archived ↔ c.archivedAt.isSome
  pooled : c.allocationMode = .shared → c.publicShareBasisPoints = 0

structure InviteOk (members : List Member) (i : Invite) : Prop where
  accepted : i.status = .accepted ↔ i.acceptedAt.isSome
  acceptor : i.acceptedAt.isSome ↔ i.acceptedByUserID.isSome
  revoked : i.status = .revoked ↔ i.revokedAt.isSome
  inTime : ∀ at' ∈ i.acceptedAt, at' < i.expiresAt
  joined : ∀ userID ∈ i.acceptedByUserID, ∃ m ∈ members, m.userID = userID

structure ApplicationOk (members : List Member) (j : JoinApplication) : Prop where
  reviewed : j.status = .pending ↔ j.reviewedAt = none
  approved : j.status = .approved ↔ j.memberID.isSome
  joined : ∀ id ∈ j.memberID, ∃ m ∈ members, m.id = id ∧ m.userID = j.userID

def MemberOk (m : Member) : Prop := m.status = .removed ↔ m.removedAt.isSome

/-- The columns of a plan and of its rows agree with one another. -/
structure Consistent (p : Plan) : Prop where
  config : SettingsOk (settings p)
  invites : ∀ i ∈ p.invites.rows, InviteOk p.members.rows i
  applications : ∀ j ∈ p.applications.rows, ApplicationOk p.members.rows j
  members : ∀ m ∈ p.members.rows, MemberOk m
  closed : p.status = .archived →
    (∀ i ∈ p.invites.rows, i.status ≠ .pending) ∧ ∀ j ∈ p.applications.rows, j.status ≠ .pending
  pooled : p.allocationMode = .shared →
    (∀ m ∈ p.members.rows, m.shareBasisPoints = 0) ∧ ∀ i ∈ p.invites.rows, i.shareBasisPoints = 0

variable {now : ℤ} {p p' : Plan} {op : PlanOp} {s t : PlanState} {ops : List PlanOp}

lemma settingsMove_ok {c c' : Settings} (h : SettingsMove now c c') (hc : SettingsOk c) : SettingsOk c' := by
  cases h with
  | kept => exact hc
  | published hactive hslots hshare hshared =>
    refine ⟨fun h => (by cases h), fun _ => ⟨hactive, hslots.1, hslots.2, hshare⟩, hc.enabled, hc.archived, hshared⟩
  | withdrawn => exact ⟨fun _ => ⟨rfl, rfl⟩, fun h => (by cases h), hc.enabled, hc.archived, fun _ => rfl⟩
  | converted =>
    refine ⟨fun h => ⟨(hc.unpublished h).1, rfl⟩, fun h => ?_, hc.enabled, hc.archived, fun _ => rfl⟩
    obtain ⟨hactive, hlow, hhigh, -⟩ := hc.published h
    exact ⟨hactive, hlow, hhigh, le_rfl, (by decide : (0 : ℤ) ≤ maxShareBPS)⟩
  | archived =>
    exact ⟨fun _ => ⟨rfl, rfl⟩, fun h => (by cases h), by simp, by simp, fun _ => rfl⟩
  | restored harchived =>
    refine ⟨hc.unpublished, fun h => ?_, by simp, by simp, hc.pooled⟩
    obtain ⟨hactive, -⟩ := hc.published h
    rw [hactive] at harchived
    cases harchived

lemma memberMove_keys {m m' : Member} (h : MemberMove p p' m m') : m'.id = m.id ∧ m'.userID = m.userID := by
  cases h <;> exact ⟨rfl, rfl⟩

/-- No operation deletes a member. -/
lemma PlanChange.member_stays (h : PlanChange now op p p') {m : Member} (hm : m ∈ p.members.rows) :
    ∃ m' ∈ p'.members.rows, m'.id = m.id ∧ m'.userID = m.userID := by
  rcases h.members.fate m hm with ⟨m', hm', hmove⟩ | hfalse
  · exact ⟨m', hm', memberMove_keys hmove⟩
  · exact hfalse.elim

lemma inviteMove_ok {members members' : List Member} {i i' : Invite}
    (hstay : ∀ m ∈ members, ∃ m' ∈ members', m'.userID = m.userID) (h : InviteMove now members' i i')
    (hi : InviteOk members i) : InviteOk members' i' := by
  have hjoined : ∀ userID ∈ i.acceptedByUserID, ∃ m ∈ members', m.userID = userID := by
    intro userID huser
    obtain ⟨m, hm, rfl⟩ := hi.joined userID huser
    exact hstay m hm
  have hnone : i.status = .pending → i.acceptedAt = none ∧ i.acceptedByUserID = none ∧ i.revokedAt = none := by
    intro hpending
    have haccepted : ¬ i.acceptedAt.isSome := by
      rw [← hi.accepted, hpending]
      simp
    have hrevoked : ¬ i.revokedAt.isSome := by
      rw [← hi.revoked, hpending]
      simp
    exact ⟨by simpa using haccepted, by simpa using hi.acceptor.not.mp haccepted, by simpa using hrevoked⟩
  cases h with
  | kept => exact ⟨hi.accepted, hi.acceptor, hi.revoked, hi.inTime, hjoined⟩
  | expired hpending =>
    obtain ⟨haccepted, huser, hrevoked⟩ := hnone hpending
    exact ⟨by simp [haccepted], hi.acceptor, by simp [hrevoked], hi.inTime, hjoined⟩
  | accepted hpending hopen huser =>
    obtain ⟨-, -, hrevoked⟩ := hnone hpending
    exact ⟨by simp, by simp, by simp [hrevoked], by simpa using hopen, by simpa using huser⟩
  | revoked hpending =>
    obtain ⟨haccepted, huser, -⟩ := hnone hpending
    exact ⟨by simp [haccepted], hi.acceptor, by simp, hi.inTime, hjoined⟩
  | emptied => exact ⟨hi.accepted, hi.acceptor, hi.revoked, hi.inTime, hjoined⟩

lemma applicationMove_ok {members members' : List Member} {j j' : JoinApplication}
    (hstay : ∀ m ∈ members, ∃ m' ∈ members', m'.id = m.id ∧ m'.userID = m.userID)
    (h : ApplicationMove now members' j j') (hj : ApplicationOk members j) : ApplicationOk members' j' := by
  have hjoined : ∀ id ∈ j.memberID, ∃ m ∈ members', m.id = id ∧ m.userID = j.userID := by
    intro id hid
    obtain ⟨m, hm, rfl, huser⟩ := hj.joined id hid
    obtain ⟨m', hm', hmid, hmuser⟩ := hstay m hm
    exact ⟨m', hm', hmid, hmuser.trans huser⟩
  cases h with
  | kept => exact ⟨hj.reviewed, hj.approved, hjoined⟩
  | approved hpending hmember => exact ⟨by simp, by simp, by simpa using hmember⟩
  | rejected hpending =>
    have hnone : ¬ j.memberID.isSome := by
      rw [← hj.approved, hpending]
      simp
    exact ⟨by simp, by simpa using hnone, hjoined⟩

lemma memberMove_ok {m m' : Member} (h : MemberMove p p' m m') (hm : MemberOk m) : MemberOk m' := by
  cases h with
  | kept => exact hm
  | allotted => exact hm
  | rejoined => simp [MemberOk, rejoin]
  | left => simp [MemberOk, leave]
  | handedOver => exact hm

/-- The invites and the applications that are pending after a step were pending before it, or are new. -/
lemma PlanChange.pending (h : PlanChange now op p p') :
    (∀ i' ∈ p'.invites.rows, i'.status = .pending →
      (∃ i ∈ p.invites.rows, i.status = .pending ∧ i.tokenHash = i'.tokenHash) ∨ Offered now p op i') ∧
    ∀ j' ∈ p'.applications.rows, j'.status = .pending →
      (∃ j ∈ p.applications.rows, j.status = .pending ∧ j.id = j'.id) ∨ Applied now p op j' := by
  constructor
  · intro i' hi' hpending
    refine (h.invites.origin i' hi').imp_left ?_
    rintro ⟨i, hi, hmove⟩
    refine ⟨i, hi, ?_⟩
    cases hmove with
    | kept => exact ⟨hpending, rfl⟩
    | emptied hold => exact ⟨hold, rfl⟩
    | expired => cases hpending
    | accepted => cases hpending
    | revoked => cases hpending
  · intro j' hj' hpending
    refine (h.applications.origin j' hj').imp_left ?_
    rintro ⟨j, hj, hmove⟩
    refine ⟨j, hj, ?_⟩
    cases hmove with
    | kept => exact ⟨hpending, rfl⟩
    | approved => cases hpending
    | rejected => cases hpending

lemma PlanChange.closed (h : PlanChange now op p p') (hp : Consistent p) (harchived : p'.status = .archived) :
    (∀ i ∈ p'.invites.rows, i.status ≠ .pending) ∧ ∀ j ∈ p'.applications.rows, j.status ≠ .pending := by
  by_cases hactive : p.status = .active
  · exact h.closing hactive harchived
  · have hold : p.status = .archived := by
      cases hstatus : p.status with
      | active => exact absurd hstatus hactive
      | archived => rfl
      | disabled => exact absurd hstatus hp.config.enabled
    obtain ⟨hinvites, happlications⟩ := hp.closed hold
    obtain ⟨hi, hj⟩ := h.pending
    constructor
    · intro i' hi' hpending
      rcases hi i' hi' hpending with ⟨i, himem, hstill, -⟩ | ⟨-, -, -, -, -, -, -, hopen, -⟩
      · exact hinvites i himem hstill
      · exact hactive hopen
    · intro j' hj' hpending
      rcases hj j' hj' hpending with ⟨j, hjmem, hstill, -⟩ | ⟨-, -, -, -, hopen⟩
      · exact happlications j hjmem hstill
      · exact hactive hopen

lemma PlanChange.shared_before (h : PlanChange now op p p') (hshared : p'.allocationMode = .shared) :
    p.allocationMode = .shared := by
  have hmode : ∀ c c' : Settings, SettingsMove now c c' → c'.allocationMode = .shared → c.allocationMode = .shared := by
    intro c c' hmove hc'
    cases hmove with
    | converted => cases hc'
    | kept => exact hc'
    | published => exact hc'
    | withdrawn => exact hc'
    | archived => exact hc'
    | restored => exact hc'
  exact hmode _ _ h.config hshared

lemma PlanChange.pooled (h : PlanChange now op p p') (hp : Consistent p) (hshared : p'.allocationMode = .shared) :
    (∀ m ∈ p'.members.rows, m.shareBasisPoints = 0) ∧ ∀ i ∈ p'.invites.rows, i.shareBasisPoints = 0 := by
  have hbefore := h.shared_before hshared
  obtain ⟨hmembers, hinvites⟩ := hp.pooled hbefore
  have hgiven : ∀ share, Given p p' share → share = 0 := by
    intro share hgiven
    rcases hgiven hshared with hzero | ⟨i, hi, rfl⟩
    · exact hzero
    · exact hinvites i hi
  constructor
  · refine h.members.forall_rows hmembers ?_ ?_
    · intro m m' hm hmove
      cases hmove with
      | kept => exact hm
      | allotted _ hshare => exact hgiven _ hshare
      | rejoined hshare => exact hgiven _ hshare
      | left => exact hm
      | handedOver => exact hm
    · rintro - ⟨-, -, -, share, rfl, hshare⟩
      exact hgiven share hshare
  · refine h.invites.forall_rows hinvites ?_ ?_
    · intro i i' hi hmove
      cases hmove with
      | emptied => rfl
      | kept => exact hi
      | expired => exact hi
      | accepted => exact hi
      | revoked => exact hi
    · rintro - ⟨-, -, -, -, share, -, rfl, -, hshare⟩
      exact hshare hbefore

lemma PlanChange.consistent (h : PlanChange now op p p') (hp : Consistent p) : Consistent p' := by
  have hstay : ∀ m ∈ p.members.rows, ∃ m' ∈ p'.members.rows, m'.id = m.id ∧ m'.userID = m.userID := fun m hm =>
    h.member_stays hm
  refine ⟨settingsMove_ok h.config hp.config, ?_, ?_, ?_, h.closed hp, h.pooled hp⟩
  · refine h.invites.forall_rows hp.invites (fun i i' hi hmove => ?_) ?_
    · exact inviteMove_ok (fun m hm => (hstay m hm).imp fun m' hm' => ⟨hm'.1, hm'.2.2⟩) hmove hi
    · rintro - ⟨-, -, -, -, -, -, rfl, -, -⟩
      exact ⟨by simp [newInvite], by simp [newInvite], by simp [newInvite], by simp [newInvite], by simp [newInvite]⟩
  · refine h.applications.forall_rows hp.applications (fun j j' hj hmove => applicationMove_ok hstay hmove hj) ?_
    rintro - ⟨-, -, -, rfl, -⟩
    exact ⟨by simp, by simp, by simp⟩
  · refine h.members.forall_rows hp.members (fun m m' hm hmove => memberMove_ok hmove hm) ?_
    rintro - ⟨-, -, -, -, rfl, -⟩
    simp [MemberOk, joiningMember]

lemma consistent_of_created (h : Created s) : Consistent s.plan := by
  obtain ⟨om, account, userID, memberID, accountID, mode, share, h⟩ := h
  simp only [createPlan, check_bind_eq_ok, ensure_eq_ok, orFail_bind_eq_ok, commit_eq_ok] at h
  obtain ⟨-, hshared, -, -, members, hinsert, hplan⟩ := h
  have hrows : members.rows = [newOwner s.clock userID memberID share] := Table.rows_of_insert? hinsert
  rw [← hplan]
  refine ⟨⟨fun _ => ⟨rfl, rfl⟩, fun h => (by cases h), ?_, ?_, fun _ => rfl⟩, ?_, ?_, ?_, ?_, ?_⟩
  · simp [settings, newPlan]
  · simp [settings, newPlan]
  · simp [newPlan]
  · simp [newPlan]
  · simp [hrows, MemberOk, newOwner]
  · simp [newPlan]
  · intro hmode
    exact ⟨by simpa [hrows, newOwner] using hshared hmode, by simp [newPlan]⟩

theorem plans_stay_consistent (hs : Created s) (hrun : Run (fun u op v => step u op = .ok v) s ops t) :
    Consistent t.plan := by
  refine hrun.invariant (I := fun u => Consistent u.plan) (consistent_of_created hs) ?_
  intro u op v hu hstep
  exact (apply_change (step_moves hstep).1).consistent hu

def wholeLife : List PlanOp :=
  [.updatePlanPublication (.ok ()) "owner" .publicPlan 2 100,
    .createJoinApplication "a1" "alice",
    .createJoinApplication "a2" "bob",
    .createInvite (.ok ()) "owner" "i1" "token" 300,
    .reviewJoinApplication (.ok ()) "owner" "a1" true "m1",
    .acceptInvite (.ok ()) "token" "carol" "m2",
    .removePlanMember "alice" "m1",
    .updatePlanStatus (.ok ()) (.ok ()) "owner" .archived,
    .updatePlanStatus (.ok ()) (.ok ()) "owner" .active]

theorem plans_stay_consistent_wholeLife :
    ∃ t, Run (fun u op v => step u op = .ok v) ownerOnly wholeLife t ∧ Consistent t.plan := by
  have hend : (executeWhen (fun _ _ => True) step ownerOnly wholeLife).isSome := by decide
  obtain ⟨t, ht⟩ := Option.isSome_iff_exists.mp hend
  have hrun : Run (fun u op v => step u op = .ok v) ownerOnly wholeLife t :=
    (run_of_executeWhen ht).mono fun _ _ _ => And.left
  exact ⟨t, hrun, plans_stay_consistent ownerOnly_created hrun⟩

end Consistency

end ShareSub.PlanLifecycle

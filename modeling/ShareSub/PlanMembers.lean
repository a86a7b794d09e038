import ShareSub.PlanSystem

/-!
# What the operations do to the members

Beside the shares an operation can change the rows of the members in four ways: a user joins, or joins again, a
member leaves, and the ownership is transferred.
-/
namespace ShareSub.PlanMembers

open PlanModel PlanSystem Transaction

section Changes

/-- A row without its shares and times. -/
structure Standing where
  id : String
  userID : String
  role : Role
  status : MemberStatus
  concurrencyBase : ℤ
  concurrencyMax : ℤ
  deriving DecidableEq, Repr

def standing (m : Member) : Standing := ⟨m.id, m.userID, m.role, m.status, m.concurrencyBase, m.concurrencyMax⟩

/-- The row of a member who has left. -/
def leave (now : ℤ) (m : Member) : Member :=
  { m with status := .removed, concurrencyBase := 0, concurrencyMax := 0, removedAt := some now }

inductive MemberChange (op : PlanOp) (p p' : Plan) : Prop
  | same (howner : p'.ownerUserID = p.ownerUserID)
      (hrows : p'.members.rows.map standing = p.members.rows.map standing)
  | joined {now : ℤ} {memberID userID : String} {share : ℤ} (howner : p'.ownerUserID = p.ownerUserID)
      (hfree : ∀ m ∈ p.members.rows, m.userID ≠ userID)
      (hrows : p'.members.rows = p.members.rows ++ [joiningMember now memberID userID share])
  | rejoined {userID : String} {share : ℤ} (howner : p'.ownerUserID = p.ownerUserID)
      (hgone : ∀ m ∈ p.members.rows, m.userID = userID → m.status ≠ .active)
      (hrows : p'.members.rows = updateRows (fun m => m.userID = userID) (rejoin share) p.members.rows)
  | left {now : ℤ} {memberID : String} (howner : p'.ownerUserID = p.ownerUserID)
      (hrole : ∀ m ∈ p.members.rows, m.id = memberID → m.role ≠ .owner)
      (hrows : p'.members.rows = updateRows (fun m => m.id = memberID) (leave now) p.members.rows)
  | transferred {ownerMembership : Except DomainError Unit} {ownerID : String} {target : Member}
      (hop : op = .transferPlanOwnership ownerMembership ownerID target.id) (htarget : target ∈ p.members.rows) (hactive : target.status = .active)
      (hother : target.userID ≠ p.ownerUserID) (howner : p'.ownerUserID = target.userID)
      (hrows : p'.members.rows = updateRows (fun m => m.id = target.id ∧ m.status = .active)
        (fun m => { m with role := .owner })
        (updateRows (fun m => m.userID = p.ownerUserID ∧ m.role = .owner ∧ m.status = .active)
          (fun m => { m with role := .member }) p.members.rows))

variable {now : ℤ} {p p' : Plan} {members members' : MemberTable}

/-- An update of the shares. -/
lemma standing_update {q : Member → Prop} [DecidablePred q] {g : Member → Member}
    (h : members.update? q g = some members') (hg : ∀ m, standing (g m) = standing m) :
    members'.rows.map standing = members.rows.map standing := by
  rw [Table.rows_of_update? h, updateRows, List.map_map]
  apply List.map_congr_left
  intro m _
  rw [Function.comp_apply]
  split_ifs
  · exact hg m
  · rfl

lemma standing_applyAllocations {allocations : List (String × ℤ)}
    (h : applyAllocations allocations members = .ok members') :
    members'.rows.map standing = members.rows.map standing := by
  induction allocations generalizing members with
  | nil =>
    cases h
    rfl
  | cons a rest ih =>
    simp only [applyAllocations, orFail_bind_eq_ok] at h
    obtain ⟨next, hupdate, h⟩ := h
    have hnext : next.rows.map standing = members.rows.map standing := standing_update hupdate fun _ => rfl
    exact (ih h).trans hnext

/-- The upsert of a joining user. -/
lemma upsertMember_cases {memberID userID : String} {share : ℤ} {joined : MemberTable × String}
    (h : upsertMember now memberID userID share members = .ok joined) :
    ((∀ m ∈ members.rows, m.userID ≠ userID) ∧
      joined.1.rows = members.rows ++ [joiningMember now memberID userID share]) ∨
    ((∀ m ∈ members.rows, m.userID = userID → m.status ≠ .active) ∧
      joined.1.rows = updateRows (fun m => m.userID = userID) (rejoin share) members.rows) := by
  unfold upsertMember at h
  split at h
  · next m hfind =>
    right
    simp only [check_bind_eq_ok, ensure_eq_ok, orFail_bind_eq_ok, commit_eq_ok] at h
    obtain ⟨hstatus, members', hupdate, rfl⟩ := h
    refine ⟨?_, Table.rows_of_update? hupdate⟩
    intro x hx huser
    -- There is one row for each user.
    have hm : m.userID = userID := by simpa using List.find?_some hfind
    have hsame : x = m := members.eq_of_index_eq hx (List.mem_of_find?_eq_some hfind)
      (show memberUser x = some userID by rw [memberUser, huser]) (by rw [memberUser, hm])
    rw [hsame]
    exact hstatus
  · next hfind =>
    left
    simp only [orFail_bind_eq_ok, commit_eq_ok] at h
    obtain ⟨members', hinsert, rfl⟩ := h
    refine ⟨?_, Table.rows_of_insert? hinsert⟩
    intro m hm huser
    have := List.find?_eq_none.mp hfind m hm
    simp [huser] at this

lemma memberChange_upsert {op : PlanOp} {memberID userID : String} {share : ℤ} {joined : MemberTable × String}
    (h : upsertMember now memberID userID share p.members = .ok joined) (howner : p'.ownerUserID = p.ownerUserID)
    (hmembers : p'.members = joined.1) : MemberChange op p p' := by
  rcases upsertMember_cases h with ⟨hfree, hrows⟩ | ⟨hgone, hrows⟩
  · exact .joined howner hfree (by rw [hmembers, hrows])
  · exact .rejoined howner hgone (by rw [hmembers, hrows])

/-- What a committed operation does to the members; it never changes the account. -/
lemma apply_members {op : PlanOp} (h : apply now p op = .ok p') :
    p'.accountID = p.accountID ∧ MemberChange op p p' := by
  cases op with
  | updatePlanPublication om ownerID v slots share =>
    simp only [apply, updatePlanPublication, check_bind_eq_ok, ensure_eq_ok, commit_eq_ok] at h
    obtain ⟨-, -, -, -, -, -, -, -, rfl⟩ := h
    exact ⟨rfl, .same rfl rfl⟩
  | createJoinApplication applicationID userID =>
    simp only [apply, createJoinApplication, check_bind_eq_ok, ensure_eq_ok, orFail_bind_eq_ok, commit_eq_ok] at h
    obtain ⟨-, -, -, -, applications, -, rfl⟩ := h
    exact ⟨rfl, .same rfl rfl⟩
  | reviewJoinApplication om ownerID applicationID approve memberID =>
    simp only [apply, reviewJoinApplication, check_bind_eq_ok, ensure_eq_ok, orFail_bind_eq_ok] at h
    obtain ⟨application, -, -, -, h⟩ := h
    split at h
    · simp only [check_bind_eq_ok, ensure_eq_ok] at h
      obtain ⟨-, -, -, -, -, h⟩ := h
      simp only [bind_eq_ok, orFail_eq_ok, commit_eq_ok] at h
      obtain ⟨joined, hjoin, applications, -, rfl⟩ := h
      exact ⟨rfl, memberChange_upsert hjoin rfl rfl⟩
    · simp only [orFail_bind_eq_ok, commit_eq_ok] at h
      obtain ⟨applications, -, rfl⟩ := h
      exact ⟨rfl, .same rfl rfl⟩
  | createInvite om ownerID inviteID tokenHash share =>
    simp only [apply, createInvite, check_bind_eq_ok, ensure_eq_ok, orFail_bind_eq_ok, commit_eq_ok] at h
    obtain ⟨-, -, -, expired, -, -, -, -, invites, -, rfl⟩ := h
    exact ⟨rfl, .same rfl rfl⟩
  | acceptInvite om tokenHash userID memberID =>
    obtain ⟨⟨p₁, reported⟩, haccept, rfl⟩ := map_eq_ok.mp h
    simp only [acceptInvite, orFail_bind_eq_ok] at haccept
    obtain ⟨invite, -, haccept⟩ := haccept
    split at haccept
    · simp only [orFail_bind_eq_ok, commit_eq_ok, Prod.mk.injEq] at haccept
      obtain ⟨invites, -, rfl, -⟩ := haccept
      exact ⟨rfl, .same rfl rfl⟩
    · simp only [check_bind_eq_ok, ensure_eq_ok] at haccept
      obtain ⟨-, -, haccept⟩ := haccept
      simp only [bind_eq_ok, orFail_eq_ok, commit_eq_ok, Prod.mk.injEq] at haccept
      obtain ⟨joined, hjoin, invites, -, rfl, -⟩ := haccept
      exact ⟨rfl, memberChange_upsert hjoin rfl rfl⟩
  | revokeInvite ownerID inviteID =>
    simp only [apply, revokeInvite, check_bind_eq_ok, ensure_eq_ok, orFail_bind_eq_ok, commit_eq_ok] at h
    obtain ⟨-, -, invites, -, rfl⟩ := h
    exact ⟨rfl, .same rfl rfl⟩
  | updateMemberShare ownerID memberID share limit =>
    simp only [apply, updateMemberShare, check_bind_eq_ok, ensure_eq_ok, orFail_bind_eq_ok, commit_eq_ok] at h
    obtain ⟨-, -, -, -, -, -, members, hupdate, rfl⟩ := h
    exact ⟨rfl, .same rfl (standing_update hupdate fun _ => rfl)⟩
  | convertPlanToFixed ownerID allocations =>
    simp only [apply, convertPlanToFixed, bind_eq_ok] at h
    obtain ⟨allocationByMember, -, h⟩ := h
    simp only [orFail_eq_ok, commit_eq_ok] at h
    obtain ⟨-, -, -, -, -, -, zeroed, hzero, members, happly, invites, -, rfl⟩ := h
    have hzeroed : zeroed.rows.map standing = p.members.rows.map standing := standing_update hzero fun _ => rfl
    exact ⟨rfl, .same rfl ((standing_applyAllocations happly).trans hzeroed)⟩
  | removePlanMember actorUserID memberID =>
    simp only [apply, removePlanMember, check_bind_eq_ok, ensure_eq_ok, orFail_bind_eq_ok, commit_eq_ok] at h
    obtain ⟨target, hfind, -, hrole, -, members, hupdate, rfl⟩ := h
    refine ⟨rfl, .left rfl ?_ (Table.rows_of_update? hupdate)⟩
    intro m hm hid
    have htarget : target.id = memberID := by simpa using List.find?_some hfind
    rw [eq_of_key_eq p.members.keys_nodup hm (List.mem_of_find?_eq_some hfind) (hid.trans htarget.symm)]
    exact hrole
  | updatePlanStatus om account ownerID status =>
    simp only [apply, updatePlanStatus, check_bind_eq_ok, ensure_eq_ok] at h
    obtain ⟨-, -, -, -, -, -, -, h⟩ := h
    split at h
    · simp only [orFail_bind_eq_ok, commit_eq_ok] at h
      obtain ⟨invites, -, applications, -, rfl⟩ := h
      exact ⟨rfl, .same rfl rfl⟩
    · simp only [commit_eq_ok] at h
      subst h
      exact ⟨rfl, .same rfl rfl⟩
  | transferPlanOwnership om ownerID memberID =>
    simp only [apply, transferPlanOwnership, check_bind_eq_ok, ensure_eq_ok, orFail_bind_eq_ok, commit_eq_ok] at h
    obtain ⟨rfl, target, hfind, ⟨hactive, -, hother⟩, -, demoted, hdemote, promoted, hpromote, rfl⟩ := h
    obtain rfl : target.id = memberID := by simpa using List.find?_some hfind
    refine ⟨rfl, .transferred rfl (List.mem_of_find?_eq_some hfind) hactive hother rfl ?_⟩
    dsimp only
    rw [Table.rows_of_update? hpromote, Table.rows_of_update? hdemote]
  | elapse micros =>
    cases h
    exact ⟨rfl, .same rfl rfl⟩
  | cleanupResources terminalRecords =>
    cases h
    exact ⟨rfl, .same rfl rfl⟩

end Changes

end ShareSub.PlanMembers

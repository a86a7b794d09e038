import ShareSub.KeySafety

/-!
# The ways into a plan

A user who is no member of a plan becomes one by creating it, by accepting an invite to it, or by an application that its
owner approves. Until then no key of his leads to the plan.
-/
namespace ShareSub.KeyLockout

open PlanModel PlanSystem PlanMembers PlanLifecycle PlanDirectory PlanBinding PlanOwnership KeyModel KeySafety ShareLedger
  Evolution Transaction

section Seats

variable {now : ℤ} {p p' : Plan} {op : PlanOp} {userID : String}

/-- An active member row of the user. -/
def Seated (p : Plan) (userID : String) : Prop := ∃ m ∈ p.members.rows, m.userID = userID ∧ m.status = .active

/-- The operations of a plan by which a user joins it. -/
inductive Admits (now : ℤ) (p : Plan) (userID : String) : PlanOp → Prop
  | invited {ownerMembership : Except DomainError Unit} {memberID : String} {i : Invite} (hi : i ∈ p.invites.rows)
      (hpending : i.status = .pending) (hopen : now < i.expiresAt) :
      Admits now p userID (.acceptInvite ownerMembership i.tokenHash userID memberID)
  | approved {ownerMembership : Except DomainError Unit} {memberID : String} {j : JoinApplication}
      (hj : j ∈ p.applications.rows) (hpending : j.status = .pending) (huser : j.userID = userID) :
      Admits now p userID (.reviewJoinApplication ownerMembership p.ownerUserID j.id true memberID)

lemma move_holders {L L' : Ledger} {seating : Seating} (h : Move L seating L') {id : String}
    (hid : id ∈ L'.holders.map Prod.fst) :
    id ∈ L.holders.map Prod.fst ∨ seating = .joinedByApplication id ∨ seating = .joinedByInvite id := by
  cases h with
  | publish => exact Or.inl hid
  | settle => exact Or.inl hid
  | close => exact Or.inl hid
  | offer => exact Or.inl hid
  | reshare hold hnew =>
    exact Or.inl ((hold.map Prod.fst).mem_iff.mpr ((hnew.map Prod.fst).mem_iff.mp hid))
  | convert hids => exact Or.inl (hids ▸ hid)
  | approve _ _ _ hperm =>
    rcases List.mem_cons.mp ((hperm.map Prod.fst).mem_iff.mp hid) with rfl | hold
    · exact Or.inr (Or.inl rfl)
    · exact Or.inl hold
  | accept _ hperm =>
    rcases List.mem_cons.mp ((hperm.map Prod.fst).mem_iff.mp hid) with rfl | hold
    · exact Or.inr (Or.inr rfl)
    · exact Or.inl hold
  | leave _ hperm => exact Or.inl ((hperm.map Prod.fst).mem_iff.mpr (List.mem_cons_of_mem _ hid))
  | purge => exact Or.inl hid

lemma mem_holders {m : Member} {rows : List Member} (hm : m ∈ rows) (hactive : m.status = .active) :
    m.id ∈ (seatHolders rows).map Prod.fst := by
  refine List.mem_map_of_mem (List.mem_map_of_mem (List.mem_filter.mpr ⟨hm, ?_⟩))
  simp [hactive]

lemma exists_of_mem_holders {rows : List Member} {id : String} (h : id ∈ (seatHolders rows).map Prod.fst) :
    ∃ m ∈ rows, m.id = id ∧ m.status = .active := by
  obtain ⟨x, hx, rfl⟩ := List.mem_map.mp h
  obtain ⟨m, hm, rfl⟩ := List.mem_map.mp hx
  obtain ⟨hm, hactive⟩ := List.mem_filter.mp hm
  exact ⟨m, hm, rfl, of_decide_eq_true hactive⟩

lemma acceptInvite_joins {om : Except DomainError Unit} {tokenHash joiner memberID id : String}
    {outcome : Plan × Option DomainError} (h : acceptInvite om now tokenHash joiner memberID p = .ok outcome)
    (hseating : seatingOf now p (.acceptInvite om tokenHash joiner memberID) = .joinedByInvite id) :
    (∃ m ∈ outcome.1.members.rows, m.id = id ∧ m.userID = joiner) ∧ Admits now p joiner (.acceptInvite om tokenHash joiner memberID) := by
  simp only [acceptInvite, orFail_bind_eq_ok] at h
  obtain ⟨invite, hfind, h⟩ := h
  obtain rfl : invite.tokenHash = tokenHash := by simpa using List.find?_some hfind
  split at h
  · next hpast => simp [seatingOf, hfind, hpast] at hseating
  · next hopen =>
    simp only [check_bind_eq_ok, ensure_eq_ok] at h
    obtain ⟨⟨hpending, -⟩, -, h⟩ := h
    simp only [bind_eq_ok, orFail_eq_ok, commit_eq_ok] at h
    obtain ⟨joined, hjoin, invites, -, rfl⟩ := h
    obtain ⟨m, hm, hmid, huser⟩ := upsertMember_row hjoin
    have hid : joined.2 = id := by
      rw [(upsertMember_joins hjoin).1]
      simpa [seatingOf, hfind, hopen] using hseating
    refine ⟨⟨m, hm, hmid.trans hid, huser⟩, .invited (List.mem_of_find?_eq_some hfind) hpending ?_⟩
    by_contra hlate
    exact hopen ⟨hpending, not_lt.mp hlate⟩

lemma reviewJoinApplication_joins {om : Except DomainError Unit} {ownerID applicationID memberID id : String}
    {approve : Bool} (h : reviewJoinApplication om now ownerID applicationID approve memberID p = .ok p')
    (hseating : seatingOf now p (.reviewJoinApplication om ownerID applicationID approve memberID) =
      .joinedByApplication id) :
    ∃ m ∈ p'.members.rows, m.id = id ∧
      Admits now p m.userID (.reviewJoinApplication om ownerID applicationID approve memberID) := by
  simp only [reviewJoinApplication, check_bind_eq_ok, ensure_eq_ok, orFail_bind_eq_ok] at h
  obtain ⟨application, hfind, rfl, hpending, h⟩ := h
  obtain rfl : application.id = applicationID := by simpa using List.find?_some hfind
  split at h
  · next happrove =>
    subst happrove
    simp only [check_bind_eq_ok, ensure_eq_ok] at h
    obtain ⟨-, -, -, -, -, h⟩ := h
    simp only [bind_eq_ok, orFail_eq_ok, commit_eq_ok] at h
    obtain ⟨joined, hjoin, applications, -, rfl⟩ := h
    obtain ⟨m, hm, hmid, huser⟩ := upsertMember_row hjoin
    have hid : joined.2 = id := by
      rw [(upsertMember_joins hjoin).1]
      simpa [seatingOf, hfind] using hseating
    exact ⟨m, hm, hmid.trans hid, .approved (List.mem_of_find?_eq_some hfind) hpending huser.symm⟩
  · next happrove => simp [seatingOf, hfind, happrove] at hseating

/-- Who is seated after an operation was seated before it, or is admitted by it. -/
lemma apply_admits (h : apply now p op = .ok p') (hseated : Seated p' userID) :
    Seated p userID ∨ Admits now p userID op := by
  obtain ⟨m', hm', rfl, hactive'⟩ := hseated
  have hone : ∀ m ∈ p'.members.rows, m.id = m'.id → m = m' := fun m hm hid =>
    eq_of_key_eq p'.members.keys_nodup hm hm' hid
  rcases move_holders (apply_moves h) (mem_holders hm' hactive') with hold | happlied | hinvited
  · left
    obtain ⟨m, hm, hid, hactive⟩ := exists_of_mem_holders hold
    obtain ⟨m'', hm'', hid'', huser''⟩ := (apply_change h).member_stays hm
    rw [hone m'' hm'' (hid''.trans hid)] at huser''
    exact ⟨m, hm, huser''.symm, hactive⟩
  · right
    cases op with
    | reviewJoinApplication =>
      obtain ⟨m, hm, hid, hadmits⟩ := reviewJoinApplication_joins h happlied
      rw [hone m hm hid] at hadmits
      exact hadmits
    | acceptInvite =>
      simp only [seatingOf] at happlied
      split at happlied
      · split_ifs at happlied
      · cases happlied
    | updatePlanPublication => cases happlied
    | createJoinApplication => cases happlied
    | createInvite => cases happlied
    | revokeInvite => cases happlied
    | updateMemberShare => cases happlied
    | convertPlanToFixed => cases happlied
    | removePlanMember => cases happlied
    | updatePlanStatus => cases happlied
    | transferPlanOwnership => cases happlied
    | elapse => cases happlied
    | cleanupResources => cases happlied
  · right
    cases op with
    | acceptInvite =>
      obtain ⟨outcome, haccept, rfl⟩ := map_eq_ok.mp h
      obtain ⟨⟨m, hm, hid, huser⟩, hadmits⟩ := acceptInvite_joins haccept hinvited
      rw [hone m hm hid] at huser
      rw [huser]
      exact hadmits
    | reviewJoinApplication =>
      simp only [seatingOf] at hinvited
      split at hinvited
      · split_ifs at hinvited
      · cases hinvited
    | updatePlanPublication => cases hinvited
    | createJoinApplication => cases hinvited
    | createInvite => cases hinvited
    | revokeInvite => cases hinvited
    | updateMemberShare => cases hinvited
    | convertPlanToFixed => cases hinvited
    | removePlanMember => cases hinvited
    | updatePlanStatus => cases hinvited
    | transferPlanOwnership => cases hinvited
    | elapse => cases hinvited
    | cleanupResources => cases hinvited

end Seats

section Entries

variable {d d' : Directory} {op : DirectoryOp} {planID userID : String}

def MemberOf (d : Directory) (planID userID : String) : Prop :=
  ∃ h, d.plans.lookup planID = some h ∧ Seated h.plan userID

inductive Enters (d : Directory) (planID userID : String) : DirectoryOp → Prop
  | created {ownerMembership : Except DomainError Unit} {memberID : String} {accountID : Option String}
      {mode : AllocationMode} {share : ℤ} :
      Enters d planID userID (.createPlan ownerMembership planID userID memberID accountID mode share)
  | operated {h : HostedPlan} {op : PlanOp} (hplan : d.plans.lookup planID = some h)
      (hadmits : Admits d.clock h.plan userID op) : Enters d planID userID (.planOp planID op)

lemma seated_of_seats {p p' : Plan} (h : p'.members.rows.map seat = p.members.rows.map seat) (hseated : Seated p' userID) :
    Seated p userID := by
  obtain ⟨m', hm', huser, hactive⟩ := hseated
  obtain ⟨m, hm, heq⟩ := exists_seat h.symm hm'
  obtain ⟨-, hmuser, -, hmstatus⟩ := seat_eq.mp heq
  exact ⟨m, hm, hmuser.trans huser, hmstatus.trans hactive⟩

/-- A new plan has its creator for a member. -/
lemma createPlan_enters {ownerMembership : Except DomainError Unit} {id creator memberID : String}
    {accountID : Option String} {mode : AllocationMode} {share : ℤ} {h' : HostedPlan}
    (hstep : d.createPlan ownerMembership id creator memberID accountID mode share = .ok d')
    (hnew : d.plans.lookup planID = none) (hlookup : d'.plans.lookup planID = some h') (hseated : Seated h'.plan userID) :
    Enters d planID userID (.createPlan ownerMembership id creator memberID accountID mode share) := by
  simp only [Directory.createPlan, check_bind_eq_ok] at hstep
  obtain ⟨-, -, hstep⟩ := hstep
  simp only [bind_eq_ok, mapError_eq_ok, commit_eq_ok] at hstep
  obtain ⟨plan, hplan, rfl⟩ := hstep
  rcases lookup_putPlan hlookup with ⟨rfl, rfl⟩ | hold
  · simp only [PlanModel.createPlan, check_bind_eq_ok, orFail_bind_eq_ok, commit_eq_ok] at hplan
    obtain ⟨-, -, -, -, members, hinsert, rfl⟩ := hplan
    obtain ⟨m, hm, huser, -⟩ := hseated
    have hrows : members.rows = [newOwner d.clock creator memberID share] := Table.rows_of_insert? hinsert
    rw [hrows, List.mem_singleton] at hm
    have hcreator : creator = userID := by rw [← huser, hm]; rfl
    rw [hcreator]
    exact .created
  · rw [hnew] at hold
    cases hold

lemma new_plan_enters {h' : HostedPlan} (hstep : directoryStep d op = .ok d') (hnew : d.plans.lookup planID = none)
    (hop : bindsPlan op = some planID) (hlookup : d'.plans.lookup planID = some h') (hseated : Seated h'.plan userID) :
    Enters d planID userID op := by
  unfold bindsPlan at hop
  split at hop
  · exact createPlan_enters hstep hnew hlookup hseated
  · next id ownerID accountID =>
    cases hop
    simp only [directoryStep, Directory.rebindPlanAccount, orFail_bind_eq_ok] at hstep
    obtain ⟨h, hold, -⟩ := hstep
    rw [hnew] at hold
    cases hold
  · cases hop

lemma step_enters (hstep : directoryStep d op = .ok d') (hout : ¬ MemberOf d planID userID)
    (hin : MemberOf d' planID userID) : Enters d planID userID op := by
  obtain ⟨h', hlookup, hseated⟩ := hin
  cases step_plan hstep hlookup with
  | kept hold => exact absurd ⟨h', hold, hseated⟩ hout
  | operated hop hold hplan =>
    rcases apply_admits hplan hseated with hbefore | hadmits
    · exact absurd ⟨_, hold, hbefore⟩ hout
    · rw [hop]
      exact .operated hold hadmits
  | limited hold _ _ _ _ hwrite hplan =>
    subst hplan
    exact absurd ⟨_, hold, seated_of_seats (seats_of_writeLimits hwrite) hseated⟩ hout
  | rebound hold _ _ hplan =>
    subst hplan
    exact absurd ⟨_, hold, hseated⟩ hout
  | created hnew =>
    cases step_binding hstep hlookup with
    | kept hold =>
      rw [hnew] at hold
      cases hold
    | unbound hop => exact new_plan_enters hstep hnew hop hlookup hseated
    | created hop => exact new_plan_enters hstep hnew hop hlookup hseated
    | rebound _ hold =>
      rw [hnew] at hold
      cases hold

end Entries

section Lockout

variable {k k₀ : Keyring} {ops : List KeyOp} {planID userID : String}

/-- A user who is no member has no way to the plan by any key, unless the run has a step that lets him in. -/
theorem locked_out_until_admitted (hrun : Run (fun k op k' => keyStep k op = .ok k') k₀ ops k)
    (hout : ¬ MemberOf k₀.directory planID userID) {billed : String → Bool} {keyHash : String} {key : APIKey}
    {cs : List RouteCandidate} (hres : k.resolveGatewayRoutes billed keyHash = .ok (key, cs))
    (huser : key.userID = userID) {c : RouteCandidate} (hc : c ∈ cs) (hplan : c.planID = planID) :
    ∃ pre u op v post, ops = pre ++ .directory op :: post ∧
      Run (fun k op k' => keyStep k op = .ok k') k₀ pre u ∧ keyStep u (.directory op) = .ok v ∧
      Run (fun k op k' => keyStep k op = .ok k') v post k ∧ Enters u.directory planID userID op := by
  obtain ⟨r, -, hcandidate⟩ := mem_resolved hres hc
  obtain ⟨-, h, hlookup, -, -, -, -, m, hm, -, hmuser, hactive⟩ := (mem_routeCandidates hcandidate).2.2
  have hin : MemberOf k.directory planID userID := ⟨h, hplan ▸ hlookup, m, hm, hmuser.trans huser, hactive⟩
  obtain ⟨pre, u, op, v, post, rfl, hpre, hstep, hpost, hu, hv⟩ :=
    exists_turn (P := fun u => ¬ MemberOf u.directory planID userID) hrun hout (not_not.mpr hin)
  have hv := not_not.mp hv
  rcases keyStep_plans hstep with hplans | ⟨dop, rfl, hdirectory⟩
  · rw [MemberOf, hplans] at hv
    exact absurd hv hu
  · exact ⟨pre, u, dop, v, post, rfl, hpre, hstep, hpost, step_enters hdirectory hu hv⟩

def memberRemoved : List KeyOp := keyRouted ++ [.directory (.planOp "p1" (.removePlanMember "owner" "m1"))]

def invitedAgain : List KeyOp :=
  [.updateAPIKey "alice" "k1" .balanced [⟨"p1", 1, true⟩], .insertRoute 0,
    .directory (.planOp "p1" (.createInvite (.ok ()) "owner" "i2" "second" 200)),
    .directory (.planOp "p1" (.acceptInvite (.ok ()) "second" "alice" "m2"))]

instance (d : Directory) (planID userID : String) : Decidable (MemberOf d planID userID) :=
  decidable_of_iff ((d.plans.lookup planID).any fun h => ∃ m ∈ h.plan.members.rows, m.userID = userID ∧ m.status = .active)
    (by
      rw [Option.any_eq_true]
      exact exists_congr fun h => and_congr Iff.rfl decide_eq_true_iff)

theorem locked_out_until_admitted_invitedAgain : ∃ k₀ k, KeyRun 0 memberRemoved k₀ ∧
    ¬ MemberOf k₀.directory "p1" "alice" ∧ Run (fun k op k' => keyStep k op = .ok k') k₀ invitedAgain k ∧
    ∃ pre u op v post, invitedAgain = pre ++ .directory op :: post ∧
      Run (fun k op k' => keyStep k op = .ok k') k₀ pre u ∧ keyStep u (.directory op) = .ok v ∧
      Run (fun k op k' => keyStep k op = .ok k') v post k ∧ Enters u.directory "p1" "alice" op := by
  have hend : ((executeWhen (fun _ _ => True) keyStep (emptyKeyring 0) memberRemoved).bind fun k₀ =>
      if MemberOf k₀.directory "p1" "alice" then none else
        (executeWhen (fun _ _ => True) keyStep k₀ invitedAgain).bind fun k =>
          (k.resolveGatewayRoutes (fun _ => false) "hash").toOption.bind fun r =>
            if r.1.userID = "alice" then r.2.find? fun c => c.planID = "p1" else none).isSome := by decide +kernel
  obtain ⟨c, hall⟩ := Option.isSome_iff_exists.mp hend
  obtain ⟨k₀, hk₀, hall⟩ := Option.bind_eq_some_iff.mp hall
  split_ifs at hall with hout
  obtain ⟨k, hk, hall⟩ := Option.bind_eq_some_iff.mp hall
  obtain ⟨⟨key, cs⟩, hres, hall⟩ := Option.bind_eq_some_iff.mp hall
  split_ifs at hall with huser
  have hok : k.resolveGatewayRoutes (fun _ => false) "hash" = .ok (key, cs) := resolved_of_toOption hres
  have hstart : KeyRun 0 memberRemoved k₀ := (run_of_executeWhen hk₀).mono fun _ _ _ => And.left
  have hrun : Run (fun k op k' => keyStep k op = .ok k') k₀ invitedAgain k :=
    (run_of_executeWhen hk).mono fun _ _ _ => And.left
  have hplan : c.planID = "p1" := by simpa using List.find?_some hall
  exact ⟨k₀, k, hstart, hout, hrun,
    locked_out_until_admitted hrun hout hok huser (List.mem_of_find?_eq_some hall) hplan⟩

end Lockout

end ShareSub.KeyLockout

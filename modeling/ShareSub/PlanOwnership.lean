import ShareSub.PlanMembers
import ShareSub.PlanDirectory

/-!
# The owner of a plan

The owner is stored in the plan and as the role of a member. The two agree in every directory.
-/
namespace ShareSub.PlanOwnership

open PlanModel PlanSystem PlanMembers PlanDirectory Transaction

section Owners

/-- The rows with the role of the owner are active rows of the owner, and there is one. -/
structure Owned (p : Plan) : Prop where
  has : ∃ m ∈ p.members.rows, m.role = .owner
  only : ∀ m ∈ p.members.rows, m.role = .owner → m.status = .active ∧ m.userID = p.ownerUserID

/-- Who has which role. -/
def seat (m : Member) : String × String × Role × MemberStatus := (m.id, m.userID, m.role, m.status)

variable {p p' : Plan}

lemma seat_eq {m m' : Member} : seat m = seat m' ↔
    m.id = m'.id ∧ m.userID = m'.userID ∧ m.role = m'.role ∧ m.status = m'.status := by
  simp [seat]

lemma seats_of_standings (h : p'.members.rows.map standing = p.members.rows.map standing) :
    p'.members.rows.map seat = p.members.rows.map seat := by
  have hseat : seat = (fun x : Standing => (x.id, x.userID, x.role, x.status)) ∘ standing := rfl
  rw [hseat, ← List.map_map, ← List.map_map, h]

lemma exists_seat {rows rows' : List Member} (h : rows'.map seat = rows.map seat) {m : Member} (hm : m ∈ rows) :
    ∃ m' ∈ rows', seat m' = seat m := by
  have hmem : seat m ∈ rows'.map seat := by
    rw [h]
    exact List.mem_map_of_mem hm
  exact List.mem_map.mp hmem

/-- A row that is the owner's after an operation other than a transfer was so before, and the other way round. -/
structure OwnerKept (p p' : Plan) : Prop where
  owner : p'.ownerUserID = p.ownerUserID
  before : ∀ m' ∈ p'.members.rows, m'.role = .owner → ∃ m ∈ p.members.rows, seat m' = seat m
  after : ∀ m ∈ p.members.rows, m.role = .owner → ∃ m' ∈ p'.members.rows, seat m' = seat m

lemma ownerKept_of_seats (howner : p'.ownerUserID = p.ownerUserID)
    (h : p'.members.rows.map seat = p.members.rows.map seat) : OwnerKept p p' := by
  refine ⟨howner, ?_, ?_⟩
  · intro m' hm' _
    obtain ⟨m, hm, heq⟩ := exists_seat h.symm hm'
    exact ⟨m, hm, heq.symm⟩
  · intro m hm _
    exact exists_seat h hm

lemma Owned.keep (h : Owned p) (hkept : OwnerKept p p') : Owned p' := by
  constructor
  · obtain ⟨m, hm, hrole⟩ := h.has
    obtain ⟨m', hm', heq⟩ := hkept.after m hm hrole
    exact ⟨m', hm', (seat_eq.mp heq).2.2.1.trans hrole⟩
  · intro m' hm' hrole
    obtain ⟨m, hm, heq⟩ := hkept.before m' hm' hrole
    obtain ⟨-, huser, hsame, hstatus⟩ := seat_eq.mp heq
    rw [hkept.owner, huser, hstatus]
    exact h.only m hm (hsame.symm.trans hrole)

/-- An update of rows that are not the owner's. -/
lemma ownerKept_of_update {q : Member → Prop} [DecidablePred q] {g : Member → Member}
    (howner : p'.ownerUserID = p.ownerUserID) (hrows : p'.members.rows = updateRows q g p.members.rows)
    (hq : ∀ m ∈ p.members.rows, q m → m.role ≠ .owner ∧ (g m).role ≠ .owner) : OwnerKept p p' := by
  refine ⟨howner, ?_, ?_⟩
  · intro m' hm' hrole
    rw [hrows] at hm'
    obtain ⟨m, hm, rfl⟩ := List.mem_map.mp hm'
    split_ifs at hrole with hqm
    · exact absurd hrole (hq m hm hqm).2
    · rw [if_neg hqm]
      exact ⟨m, hm, rfl⟩
  · intro m hm hrole
    refine ⟨m, ?_, rfl⟩
    rw [hrows]
    refine List.mem_map.mpr ⟨m, hm, ?_⟩
    split_ifs with hqm
    · exact absurd hrole (hq m hm hqm).1
    · rfl

/-- A change of the members other than a transfer. -/
lemma memberChange_ownerKept {op : PlanOp} (h : MemberChange op p p') (hp : Owned p) :
    OwnerKept p p' ∨ ∃ ownerMembership ownerID, ∃ target ∈ p.members.rows,
      op = .transferPlanOwnership ownerMembership ownerID target.id ∧
      target.status = .active ∧ target.userID ≠ p.ownerUserID ∧ p'.ownerUserID = target.userID ∧
      p'.members.rows = updateRows (fun m => m.id = target.id ∧ m.status = .active) (fun m => { m with role := .owner })
        (updateRows (fun m => m.userID = p.ownerUserID ∧ m.role = .owner ∧ m.status = .active)
          (fun m => { m with role := .member }) p.members.rows) := by
  cases h with
  | same howner hrows => exact Or.inl (ownerKept_of_seats howner (seats_of_standings hrows))
  | joined howner _ hrows =>
    left
    refine ⟨howner, ?_, ?_⟩
    · intro m' hm' hrole
      rw [hrows] at hm'
      rcases List.mem_append.mp hm' with hm' | hm'
      · exact ⟨m', hm', rfl⟩
      · rw [List.mem_singleton.mp hm'] at hrole
        cases hrole
    · intro m hm _
      rw [hrows]
      exact ⟨m, List.mem_append_left _ hm, rfl⟩
  | rejoined howner hgone hrows =>
    left
    refine ownerKept_of_update howner hrows ?_
    intro m hm huser
    constructor
    · intro hrole
      exact hgone m hm huser (hp.only m hm hrole).1
    · simp [rejoin]
  | left howner hrole hrows =>
    left
    refine ownerKept_of_update howner hrows ?_
    intro m hm hid
    exact ⟨hrole m hm hid, hrole m hm hid⟩
  | transferred hop htarget hactive hother howner hrows =>
    exact Or.inr ⟨_, _, _, htarget, hop, hactive, hother, howner, hrows⟩

/-- After a transfer the target is the only owner. -/
lemma owned_of_transfer (hp : Owned p) {target : Member} (htarget : target ∈ p.members.rows)
    (hactive : target.status = .active) (hother : target.userID ≠ p.ownerUserID) (howner : p'.ownerUserID = target.userID)
    (hrows : p'.members.rows = updateRows (fun m => m.id = target.id ∧ m.status = .active)
      (fun m => { m with role := .owner })
      (updateRows (fun m => m.userID = p.ownerUserID ∧ m.role = .owner ∧ m.status = .active)
        (fun m => { m with role := .member }) p.members.rows)) : Owned p' := by
  rw [updateRows, updateRows, List.map_map] at hrows
  constructor
  · refine ⟨{ target with role := .owner }, ?_, rfl⟩
    rw [hrows]
    refine List.mem_map.mpr ⟨target, htarget, ?_⟩
    simp [hother, hactive]
  · intro m' hm' hrole
    rw [hrows] at hm'
    obtain ⟨m, hm, rfl⟩ := List.mem_map.mp hm'
    rw [Function.comp_apply] at hrole ⊢
    by_cases hold : m.userID = p.ownerUserID ∧ m.role = .owner ∧ m.status = .active
    · rw [if_pos hold] at hrole ⊢
      split_ifs at hrole ⊢ with hid
      have hsame := eq_of_key_eq p.members.keys_nodup hm htarget hid.1
      exact ⟨hid.2, by rw [howner, ← hsame]⟩
    · rw [if_neg hold] at hrole ⊢
      split_ifs at hrole ⊢ with hid
      · have hsame := eq_of_key_eq p.members.keys_nodup hm htarget hid.1
        exact ⟨hid.2, by rw [howner, ← hsame]⟩
      · -- An owner whose role was kept would be the old one.
        obtain ⟨hstatus, huser⟩ := hp.only m hm hrole
        exact absurd ⟨huser, hrole, hstatus⟩ hold

lemma owned_of_memberChange {op : PlanOp} (h : MemberChange op p p') (hp : Owned p) : Owned p' := by
  rcases memberChange_ownerKept h hp with hkept | ⟨_, _, target, htarget, -, hactive, hother, howner, hrows⟩
  · exact hp.keep hkept
  · exact owned_of_transfer hp htarget hactive hother howner hrows

lemma owned_of_created {ownerMembership accountCheck : Except DomainError Unit} {now : ℤ} {userID memberID : String}
    {accountID : Option String} {mode : AllocationMode} {share : ℤ}
    (h : createPlan ownerMembership accountCheck (newPlan now userID accountID mode)
      (newOwner now userID memberID share) = .ok p) : Owned p := by
  simp only [createPlan, check_bind_eq_ok, ensure_eq_ok, orFail_bind_eq_ok, commit_eq_ok] at h
  obtain ⟨-, -, -, -, members, hinsert, rfl⟩ := h
  have hrows : members.rows = [newOwner now userID memberID share] := Table.rows_of_insert? hinsert
  constructor
  · exact ⟨_, by rw [hrows]; exact List.mem_singleton_self _, rfl⟩
  · intro m hm _
    rw [hrows] at hm
    rw [List.mem_singleton.mp hm]
    exact ⟨rfl, rfl⟩

end Owners

section Directories

variable {d d' : Directory} {op : DirectoryOp} {id : String} {h h' : HostedPlan}

lemma seats_of_writeLimits {limits : List TrafficModel.MemberLimit} {members members' : MemberTable}
    (hwrite : writeLimits limits members = .ok members') : members'.rows.map seat = members.rows.map seat := by
  induction limits generalizing members with
  | nil =>
    cases hwrite
    rfl
  | cons limit rest ih =>
    simp only [writeLimits, orFail_bind_eq_ok] at hwrite
    obtain ⟨next, hupdate, hwrite⟩ := hwrite
    rw [ih hwrite, Table.rows_of_update? hupdate, updateRows, List.map_map]
    apply List.map_congr_left
    intro m _
    rw [Function.comp_apply]
    split_ifs <;> rfl

/-- The owner of a plan changes by a transfer only. -/
lemma step_ownerKept (hstep : directoryStep d op = .ok d') (hd : ∀ id h, d.plans.lookup id = some h → Owned h.plan)
    (hold : d.plans.lookup id = some h) (hnew : d'.plans.lookup id = some h')
    (hop : ∀ ownerMembership ownerID memberID,
      op ≠ .planOp id (.transferPlanOwnership ownerMembership ownerID memberID)) : OwnerKept h.plan h'.plan := by
  cases step_plan hstep hnew with
  | kept hsame =>
    rw [hold] at hsame
    cases hsame
    exact ownerKept_of_seats rfl rfl
  | created hnone _ _ _ =>
    rw [hold] at hnone
    cases hnone
  | @operated _ planOp hplanOp hsame hplan _ _ =>
    rw [hold] at hsame
    cases hsame
    rcases memberChange_ownerKept (apply_members hplan).2 (hd id h hold) with hkept | ⟨_, _, _, -, rfl, -⟩
    · exact hkept
    · exact absurd hplanOp (hop _ _ _)
  | limited hsame _ _ _ _ hwrite hplan _ =>
    rw [hold] at hsame
    cases hsame
    rw [hplan]
    exact ownerKept_of_seats rfl (seats_of_writeLimits hwrite)
  | rebound hsame _ _ hplan _ =>
    rw [hold] at hsame
    cases hsame
    rw [hplan]
    exact ownerKept_of_seats rfl rfl

lemma step_owned (hstep : directoryStep d op = .ok d') (hd : ∀ id h, d.plans.lookup id = some h → Owned h.plan)
    (hnew : d'.plans.lookup id = some h') : Owned h'.plan := by
  cases step_plan hstep hnew with
  | kept hold => exact hd id h' hold
  | created _ hplan _ _ => exact owned_of_created hplan
  | operated _ hold hplan _ _ => exact owned_of_memberChange (apply_members hplan).2 (hd id _ hold)
  | limited hold _ _ _ _ hwrite hplan _ =>
    rw [hplan]
    exact (hd id _ hold).keep (ownerKept_of_seats rfl (seats_of_writeLimits hwrite))
  | rebound hold _ _ hplan _ =>
    rw [hplan]
    exact (hd id _ hold).keep (ownerKept_of_seats rfl rfl)

lemma run_owned {clock : ℤ} {ops : List DirectoryOp} (hrun : DirectoryRun clock ops d) :
    ∀ id h, d.plans.lookup id = some h → Owned h.plan := by
  apply Run.invariant hrun
  · intro id h hlookup
    cases hlookup
  · intro u op v hu hstep id h hlookup
    exact step_owned hstep hu hlookup

lemma Owned.unique {p : Plan} (hp : Owned p) : ∃! m, m ∈ p.members.rows ∧ m.role = .owner ∧ m.status = .active := by
  obtain ⟨m, hm, hrole⟩ := hp.has
  obtain ⟨hstatus, huser⟩ := hp.only m hm hrole
  refine ⟨m, ⟨hm, hrole, hstatus⟩, ?_⟩
  intro m' hm'
  exact p.members.eq_of_index_eq hm'.1 hm (show memberUser m' = some p.ownerUserID from
    congrArg some (hp.only m' hm'.1 hm'.2.1).2) (congrArg some huser)

lemma Owned.upsert_fails {p : Plan} (hp : Owned p) (now : ℤ) (memberID : String) (share : ℤ)
    (joined : MemberTable × String) : upsertMember now memberID p.ownerUserID share p.members ≠ .ok joined := by
  intro hjoin
  obtain ⟨m, hm, hrole⟩ := hp.has
  obtain ⟨hstatus, huser⟩ := hp.only m hm hrole
  rcases upsertMember_cases hjoin with ⟨hfree, -⟩ | ⟨hgone, -⟩
  · exact hfree m hm huser
  · exact hgone m hm huser hstatus

lemma remove_owner_fails {p : Plan} {m : Member} (hm : m ∈ p.members.rows) (hrole : m.role = .owner) (now : ℤ)
    (actorUserID : String) (p' : Plan) : removePlanMember now actorUserID m.id p ≠ .ok p' := by
  intro hremove
  simp only [removePlanMember, check_bind_eq_ok, ensure_eq_ok, orFail_bind_eq_ok, commit_eq_ok] at hremove
  obtain ⟨target, hfind, -, htarget, -⟩ := hremove
  have hid : target.id = m.id := by simpa using List.find?_some hfind
  rw [eq_of_key_eq p.members.keys_nodup (List.mem_of_find?_eq_some hfind) hm hid] at htarget
  exact htarget hrole

/-- In every directory: each plan has exactly one active row with the role of the owner, which is the row of
`owner_user_id`; no user has two rows; the owner's row can be neither removed nor overwritten by a join; and an
operation other than a transfer keeps it. -/
theorem plan_has_one_owner (clock : ℤ) (ops : List DirectoryOp) (d : Directory) (hrun : DirectoryRun clock ops d)
    (id : String) (h : HostedPlan) (hlookup : d.plans.lookup id = some h) :
    (∃! m, m ∈ h.plan.members.rows ∧ m.role = .owner ∧ m.status = .active) ∧
    (∀ m ∈ h.plan.members.rows, m.role = .owner → m.status = .active ∧ m.userID = h.plan.ownerUserID) ∧
    (h.plan.members.rows.map Member.userID).Nodup ∧
    (∀ m ∈ h.plan.members.rows, m.userID = h.plan.ownerUserID → ∀ now actorUserID p',
      removePlanMember now actorUserID m.id h.plan ≠ .ok p') ∧
    (∀ now memberID share joined, upsertMember now memberID h.plan.ownerUserID share h.plan.members ≠ .ok joined) ∧
    ∀ op d' h', directoryStep d op = .ok d' → d'.plans.lookup id = some h' →
      (∀ ownerMembership ownerID memberID,
        op ≠ .planOp id (.transferPlanOwnership ownerMembership ownerID memberID)) →
      h'.plan.ownerUserID = h.plan.ownerUserID ∧ ∀ m ∈ h.plan.members.rows, m.role = .owner →
        ∃ m' ∈ h'.plan.members.rows, m'.id = m.id ∧ m'.userID = m.userID ∧ m'.role = .owner ∧ m'.status = .active := by
  have hd := run_owned hrun
  have hp := hd id h hlookup
  refine ⟨hp.unique, hp.only, ?_, ?_, hp.upsert_fails, ?_⟩
  · rw [← List.filterMap_eq_map]
    exact h.plan.members.index_nodup
  · intro m hm huser now actorUserID p'
    -- The owner has one row, and it has the role.
    obtain ⟨m₀, hm₀, hrole⟩ := hp.has
    have hsame : m = m₀ := h.plan.members.eq_of_index_eq hm hm₀ (show memberUser m = some h.plan.ownerUserID from
      congrArg some huser) (congrArg some (hp.only m₀ hm₀ hrole).2)
    rw [hsame]
    exact remove_owner_fails hm₀ hrole now actorUserID p'
  · intro op d' h' hstep hnew hop
    have hkept := step_ownerKept hstep hd hlookup hnew hop
    refine ⟨hkept.owner, ?_⟩
    intro m hm hrole
    obtain ⟨m', hm', heq⟩ := hkept.after m hm hrole
    obtain ⟨hid, huser, hsame, hstatus⟩ := seat_eq.mp heq
    exact ⟨m', hm', hid, huser, hsame.trans hrole, hstatus.trans (hp.only m hm hrole).1⟩

/-- The ownership is transferred to a member, and the former owner leaves and joins again. -/
def handedOver : List DirectoryOp :=
  [.createPlan (.ok ()) "plan" "u1" "m1" none .shared 0,
    .planOp "plan" (.createInvite (.ok ()) "u1" "i1" "t1" 0), .planOp "plan" (.acceptInvite (.ok ()) "t1" "u2" "m2"),
    .planOp "plan" (.transferPlanOwnership (.ok ()) "u1" "m2"), .planOp "plan" (.removePlanMember "u1" "m1"),
    .planOp "plan" (.createInvite (.ok ()) "u2" "i2" "t2" 0), .planOp "plan" (.acceptInvite (.ok ()) "t2" "u1" "m3")]

theorem plan_has_one_owner_handedOver : ∃ d h, DirectoryRun 0 handedOver d ∧ d.plans.lookup "plan" = some h ∧
    h.plan.ownerUserID = "u2" ∧ ∃! m, m ∈ h.plan.members.rows ∧ m.role = .owner ∧ m.status = .active := by
  have hend : ((executeWhen (fun _ _ => True) directoryStep (emptyDirectory 0) handedOver).bind fun d =>
      (d.plans.lookup "plan").map fun h => h.plan.ownerUserID) = some "u2" := by decide
  obtain ⟨d, hexecuted, hlookup⟩ := Option.bind_eq_some_iff.mp hend
  obtain ⟨h, hlookup, howner⟩ := Option.map_eq_some_iff.mp hlookup
  have hrun : DirectoryRun 0 handedOver d := (run_of_executeWhen hexecuted).mono fun _ _ _ => And.left
  exact ⟨d, h, hrun, hlookup, howner, (plan_has_one_owner 0 handedOver d hrun "plan" h hlookup).1⟩

end Directories

end ShareSub.PlanOwnership

import ShareSub.PlanDirectory
import ShareSub.PlanMembers

/-!
# The binding of plans and accounts

An account is bound to one plan at a time. Every binding of a plan has its own generation, so that a plan and a
generation name an account.
-/
namespace ShareSub.PlanBinding

open PlanModel PlanSystem PlanMembers PlanDirectory Transaction

section Bindings

variable {clock : ℤ} {ops : List DirectoryOp} {d d' : Directory} {op : DirectoryOp} {id : String} {h' : HostedPlan}

/-- The plan that an operation may bind. -/
def bindsPlan : DirectoryOp → Option String
  | .createPlan _ planID _ _ _ _ _ => some planID
  | .rebindPlanAccount planID _ _ => some planID
  | _ => none

inductive BindingOrigin (d : Directory) (op : DirectoryOp) (id : String) (h' : HostedPlan) : Prop
  | kept {h : HostedPlan} (hold : d.plans.lookup id = some h) (haccount : h'.plan.accountID = h.plan.accountID)
      (hgeneration : h'.plan.accountBindingGeneration = h.plan.accountBindingGeneration)
  | unbound (hop : bindsPlan op = some id) (hnew : d.plans.lookup id = none) (haccount : h'.plan.accountID = none)
      (hgeneration : h'.plan.accountBindingGeneration = 0)
  | created {accountID : String} (hop : bindsPlan op = some id) (hnew : d.plans.lookup id = none)
      (haccount : h'.plan.accountID = some accountID) (hfree : d.boundPlans accountID = [])
      (hgeneration : h'.plan.accountBindingGeneration = 1)
  | rebound {h : HostedPlan} {accountID : String} (hop : bindsPlan op = some id) (hold : d.plans.lookup id = some h)
      (haccount : h'.plan.accountID = some accountID) (hfree : ∀ id' ∈ d.boundPlans accountID, id' = id)
      (hgeneration : h'.plan.accountBindingGeneration = h.plan.accountBindingGeneration + 1)

lemma mem_boundPlans {accountID : String} {h : HostedPlan} (hlookup : d.plans.lookup id = some h)
    (haccount : h.plan.accountID = some accountID) : id ∈ d.boundPlans accountID := by
  have he : (⟨id, h⟩ : Sigma fun _ : String => HostedPlan) ∈ d.plans.entries := FiniteMap.mem_entries_iff.mpr hlookup
  exact List.mem_map.mpr ⟨_, List.mem_filter.mpr ⟨he, decide_eq_true haccount⟩, rfl⟩

lemma apply_generation {now : ℤ} {p p' : Plan} {planOp : PlanOp} (h : apply now p planOp = .ok p') :
    p'.accountBindingGeneration = p.accountBindingGeneration := by
  cases planOp with
  | updatePlanPublication om ownerID v slots share =>
    simp only [apply, updatePlanPublication, check_bind_eq_ok, ensure_eq_ok, commit_eq_ok] at h
    obtain ⟨-, -, -, -, -, -, -, -, rfl⟩ := h
    rfl
  | createJoinApplication applicationID userID =>
    simp only [apply, createJoinApplication, check_bind_eq_ok, ensure_eq_ok, orFail_bind_eq_ok, commit_eq_ok] at h
    obtain ⟨-, -, -, -, applications, -, rfl⟩ := h
    rfl
  | reviewJoinApplication om ownerID applicationID approve memberID =>
    simp only [apply, reviewJoinApplication, check_bind_eq_ok, ensure_eq_ok, orFail_bind_eq_ok] at h
    obtain ⟨application, -, -, -, h⟩ := h
    split at h
    · simp only [bind_eq_ok, orFail_eq_ok, commit_eq_ok] at h
      obtain ⟨-, -, -, -, -, -, -, -, -, -, joined, -, applications, -, rfl⟩ := h
      rfl
    · simp only [orFail_bind_eq_ok, commit_eq_ok] at h
      obtain ⟨applications, -, rfl⟩ := h
      rfl
  | createInvite om ownerID inviteID tokenHash share =>
    simp only [apply, createInvite, check_bind_eq_ok, ensure_eq_ok, orFail_bind_eq_ok, commit_eq_ok] at h
    obtain ⟨-, -, -, expired, -, -, -, -, invites, -, rfl⟩ := h
    rfl
  | acceptInvite om tokenHash userID memberID =>
    obtain ⟨⟨p₁, reported⟩, haccept, rfl⟩ := map_eq_ok.mp h
    simp only [acceptInvite, orFail_bind_eq_ok] at haccept
    obtain ⟨invite, -, haccept⟩ := haccept
    split at haccept
    · simp only [orFail_bind_eq_ok, commit_eq_ok, Prod.mk.injEq] at haccept
      obtain ⟨invites, -, rfl, -⟩ := haccept
      rfl
    · simp only [bind_eq_ok, orFail_eq_ok, commit_eq_ok, Prod.mk.injEq] at haccept
      obtain ⟨-, -, -, -, joined, -, invites, -, rfl, -⟩ := haccept
      rfl
  | revokeInvite ownerID inviteID =>
    simp only [apply, revokeInvite, check_bind_eq_ok, ensure_eq_ok, orFail_bind_eq_ok, commit_eq_ok] at h
    obtain ⟨-, -, invites, -, rfl⟩ := h
    rfl
  | updateMemberShare ownerID memberID share limit =>
    simp only [apply, updateMemberShare, check_bind_eq_ok, ensure_eq_ok, orFail_bind_eq_ok, commit_eq_ok] at h
    obtain ⟨-, -, -, -, -, -, members, -, rfl⟩ := h
    rfl
  | convertPlanToFixed ownerID allocations =>
    simp only [apply, convertPlanToFixed, bind_eq_ok] at h
    obtain ⟨allocationByMember, -, h⟩ := h
    simp only [orFail_eq_ok, commit_eq_ok] at h
    obtain ⟨-, -, -, -, -, -, zeroed, -, members, -, invites, -, rfl⟩ := h
    rfl
  | removePlanMember actorUserID memberID =>
    simp only [apply, removePlanMember, check_bind_eq_ok, ensure_eq_ok, orFail_bind_eq_ok, commit_eq_ok] at h
    obtain ⟨target, -, -, -, -, members, -, rfl⟩ := h
    rfl
  | updatePlanStatus om account ownerID status =>
    simp only [apply, updatePlanStatus, check_bind_eq_ok, ensure_eq_ok] at h
    obtain ⟨-, -, -, -, -, -, -, h⟩ := h
    split at h
    · simp only [orFail_bind_eq_ok, commit_eq_ok] at h
      obtain ⟨invites, -, applications, -, rfl⟩ := h
      rfl
    · simp only [commit_eq_ok] at h
      subst h
      rfl
  | transferPlanOwnership om ownerID memberID =>
    simp only [apply, transferPlanOwnership, check_bind_eq_ok, ensure_eq_ok, orFail_bind_eq_ok, commit_eq_ok] at h
    obtain ⟨-, target, -, -, -, demoted, -, promoted, -, rfl⟩ := h
    rfl
  | elapse micros =>
    cases h
    rfl
  | cleanupResources terminalRecords =>
    cases h
    rfl

lemma createPlan_binding {ownerMembership : Except DomainError Unit} {planID userID memberID : String}
    {accountID : Option String} {mode : AllocationMode} {share : ℤ}
    (hstep : d.createPlan ownerMembership planID userID memberID accountID mode share = .ok d')
    (hlookup : d'.plans.lookup id = some h') :
    BindingOrigin d (.createPlan ownerMembership planID userID memberID accountID mode share) id h' := by
  simp only [Directory.createPlan, check_bind_eq_ok, ensure_eq_ok] at hstep
  obtain ⟨-, hnew, hstep⟩ := hstep
  simp only [bind_eq_ok, mapError_eq_ok, commit_eq_ok] at hstep
  obtain ⟨plan, hplan, rfl⟩ := hstep
  rcases lookup_putPlan hlookup with ⟨rfl, rfl⟩ | hold
  · simp only [PlanModel.createPlan, check_bind_eq_ok, ensure_eq_ok, whenever_eq_ok, orFail_bind_eq_ok,
      commit_eq_ok] at hplan
    obtain ⟨-, -, -, haccount, members, -, rfl⟩ := hplan
    cases accountID with
    | none => exact .unbound rfl hnew rfl rfl
    | some accountID =>
      have hcheck := haccount (by simp [newPlan])
      simp only [Directory.accountCheck, orFail_bind_eq_ok, check_bind_eq_ok, ensure_eq_ok] at hcheck
      obtain ⟨a, -, -, -, hfree⟩ := hcheck
      exact .created rfl hnew rfl hfree rfl
  · exact .kept hold rfl rfl

lemma step_binding (hstep : directoryStep d op = .ok d') (hlookup : d'.plans.lookup id = some h') :
    BindingOrigin d op id h' := by
  cases op with
  | createPlan => exact createPlan_binding hstep hlookup
  | planOp planID op =>
    simp only [directoryStep, Directory.planOp, orFail_bind_eq_ok] at hstep
    obtain ⟨h, hold, hstep⟩ := hstep
    simp only [bind_eq_ok, mapError_eq_ok, commit_eq_ok] at hstep
    obtain ⟨plan, hplan, rfl⟩ := hstep
    rcases lookup_putPlan hlookup with ⟨rfl, rfl⟩ | hold
    · exact .kept hold (apply_members hplan).1 (apply_generation hplan)
    · exact .kept hold rfl rfl
  | deletePlan planID ownerID =>
    simp only [directoryStep, Directory.deletePlan, orFail_bind_eq_ok, check_bind_eq_ok, commit_eq_ok] at hstep
    obtain ⟨h, -, -, -, rfl⟩ := hstep
    have hne : id ≠ planID := by
      rintro rfl
      rw [AList.lookup_erase] at hlookup
      cases hlookup
    rw [AList.lookup_erase_ne hne] at hlookup
    exact .kept hlookup rfl rfl
  | updatePlanConcurrency planID ownerID policy =>
    simp only [directoryStep, Directory.updatePlanConcurrency, orFail_bind_eq_ok, check_bind_eq_ok] at hstep
    obtain ⟨h, hold, -, -, hstep⟩ := hstep
    simp only [bind_eq_ok, commit_eq_ok] at hstep
    obtain ⟨limit, -, ⟨⟩, -, reserved, -, ⟨⟩, -, members, -, rfl⟩ := hstep
    rcases lookup_putPlan hlookup with ⟨rfl, rfl⟩ | hold
    · exact .kept hold rfl rfl
    · exact .kept hold rfl rfl
  | rebindPlanAccount planID ownerID accountID =>
    simp only [directoryStep, Directory.rebindPlanAccount, orFail_bind_eq_ok, check_bind_eq_ok] at hstep
    obtain ⟨h, hold, -, -, hstep⟩ := hstep
    obtain ⟨a, -, hstep⟩ := bind_eq_ok.mp hstep
    simp only [check_bind_eq_ok, ensure_eq_ok, commit_eq_ok] at hstep
    obtain ⟨-, -, hfree, -, rfl⟩ := hstep
    rcases lookup_putPlan hlookup with ⟨rfl, rfl⟩ | hold
    · exact .rebound rfl hold rfl hfree rfl
    · exact .kept hold rfl rfl
  | createOrRotateAccountAuthorization accountID account =>
    simp only [directoryStep, Directory.createOrRotateAccountAuthorization, check_bind_eq_ok] at hstep
    obtain ⟨-, hstep⟩ := hstep
    split at hstep
    · simp only [check_bind_eq_ok, commit_eq_ok] at hstep
      obtain ⟨-, rfl⟩ := hstep
      exact .kept hlookup rfl rfl
    · simp only [check_bind_eq_ok, commit_eq_ok] at hstep
      obtain ⟨-, rfl⟩ := hstep
      exact .kept hlookup rfl rfl
  | updateAccountConfig userID accountID maxConcurrency active =>
    simp only [directoryStep, Directory.updateAccountConfig, check_bind_eq_ok] at hstep
    obtain ⟨-, hstep⟩ := hstep
    obtain ⟨a, -, hstep⟩ := bind_eq_ok.mp hstep
    simp only [check_bind_eq_ok, commit_eq_ok] at hstep
    obtain ⟨-, rfl⟩ := hstep
    exact .kept hlookup rfl rfl
  | selectBoundPlans i =>
    simp only [directoryStep, Directory.selectBoundPlans, orFail_bind_eq_ok, check_bind_eq_ok, commit_eq_ok] at hstep
    obtain ⟨c, -, -, rfl⟩ := hstep
    exact .kept hlookup rfl rfl
  | validateBoundPlan i =>
    simp only [directoryStep, Directory.validateBoundPlan, orFail_bind_eq_ok] at hstep
    obtain ⟨c, -, hstep⟩ := hstep
    split at hstep
    · split at hstep
      · cases hstep
        exact .kept hlookup rfl rfl
      · split at hstep
        · cases hstep
          exact .kept hlookup rfl rfl
        · cases hstep
          exact .kept hlookup rfl rfl
    · cases hstep
  | commitAccountConfig i =>
    simp only [directoryStep, Directory.commitAccountConfig, orFail_bind_eq_ok, check_bind_eq_ok, commit_eq_ok] at hstep
    obtain ⟨c, -, -, a, -, rfl⟩ := hstep
    exact .kept hlookup rfl rfl
  | rollbackAccountConfig i =>
    cases hstep
    exact .kept hlookup rfl rfl

/-- No two plans have one account, and the plans without one are those that never had one. -/
structure BoundOnce (d : Directory) : Prop where
  unique : ∀ {id id' h h' accountID}, d.plans.lookup id = some h → d.plans.lookup id' = some h' →
    h.plan.accountID = some accountID → h'.plan.accountID = some accountID → id = id'
  generation : ∀ {id h}, d.plans.lookup id = some h → 0 ≤ h.plan.accountBindingGeneration ∧
    (h.plan.accountID = none ↔ h.plan.accountBindingGeneration = 0)

/-- A plan that has an account after a step had it before, or is the plan that the step binds. -/
lemma BindingOrigin.account {accountID : String} (h : BindingOrigin d op id h') (haccount : h'.plan.accountID = some accountID) :
    id ∈ d.boundPlans accountID ∨ bindsPlan op = some id ∧ ∀ id' ∈ d.boundPlans accountID, id' = id := by
  cases h with
  | kept hold hkept => exact Or.inl (mem_boundPlans hold (hkept.symm.trans haccount))
  | unbound _ _ hnone =>
    rw [hnone] at haccount
    cases haccount
  | created hop _ hbound hfree =>
    obtain rfl := Option.some_inj.mp (hbound.symm.trans haccount)
    exact Or.inr ⟨hop, by simp [hfree]⟩
  | rebound hop _ hbound hfree =>
    obtain rfl := Option.some_inj.mp (hbound.symm.trans haccount)
    exact Or.inr ⟨hop, hfree⟩

lemma BoundOnce.boundPlans {accountID : String} {id' : String} (hd : BoundOnce d) (hid : id ∈ d.boundPlans accountID)
    (hid' : id' ∈ d.boundPlans accountID) : id = id' := by
  obtain ⟨e, he, rfl⟩ := List.mem_map.mp hid
  obtain ⟨e', he', rfl⟩ := List.mem_map.mp hid'
  obtain ⟨hmem, haccount⟩ := List.mem_filter.mp he
  obtain ⟨hmem', haccount'⟩ := List.mem_filter.mp he'
  exact hd.unique (FiniteMap.mem_entries_iff.mp hmem) (FiniteMap.mem_entries_iff.mp hmem') (of_decide_eq_true haccount)
    (of_decide_eq_true haccount')

lemma BoundOnce.step (hd : BoundOnce d) (hstep : directoryStep d op = .ok d') : BoundOnce d' := by
  constructor
  · intro id id' h h' accountID hlookup hlookup' haccount haccount'
    rcases (step_binding hstep hlookup).account haccount with hid | ⟨hop, hfree⟩
    · rcases (step_binding hstep hlookup').account haccount' with hid' | ⟨-, hfree'⟩
      · exact hd.boundPlans hid hid'
      · exact hfree' id hid
    · rcases (step_binding hstep hlookup').account haccount' with hid' | ⟨hop', -⟩
      · exact (hfree id' hid').symm
      · exact Option.some_inj.mp (hop.symm.trans hop')
  · intro id h hlookup
    cases step_binding hstep hlookup with
    | kept hold haccount hgeneration =>
      rw [haccount, hgeneration]
      exact hd.generation hold
    | unbound _ _ haccount hgeneration => simp [haccount, hgeneration]
    | created _ _ haccount _ hgeneration => simp [haccount, hgeneration]
    | rebound _ hold haccount _ hgeneration =>
      have hold := (hd.generation hold).1
      rw [haccount, hgeneration]
      exact ⟨by omega, by simp; omega⟩

lemma run_boundOnce (hrun : DirectoryRun clock ops d) : BoundOnce d := by
  refine Run.invariant hrun ⟨?_, ?_⟩ fun u op v hu hstep => hu.step hstep
  · intro id id' h h' accountID hlookup
    cases hlookup
  · intro id h hlookup
    cases hlookup

theorem account_bound_once (hrun : DirectoryRun clock ops d) :
    (∀ id id' h h' accountID, d.plans.lookup id = some h → d.plans.lookup id' = some h' →
      h.plan.accountID = some accountID → h'.plan.accountID = some accountID → id = id') ∧
    ∀ id h, d.plans.lookup id = some h → (h.plan.accountID = none ↔ h.plan.accountBindingGeneration = 0) := by
  have hbound := run_boundOnce hrun
  constructor
  · intro id id' h h' accountID hlookup hlookup' haccount haccount'
    exact hbound.unique hlookup hlookup' haccount haccount'
  · intro id h hlookup
    exact (hbound.generation hlookup).2

/-- An account moves from one plan to another, once the first is bound to its successor. -/
def movedAccount : List DirectoryOp :=
  [.createOrRotateAccountAuthorization "a1" ⟨"owner", "upstream1", true, 10⟩,
    .createOrRotateAccountAuthorization "a2" ⟨"owner", "upstream2", true, 10⟩,
    .createPlan (.ok ()) "p1" "owner" "m1" (some "a1") .fixed 0,
    .createPlan (.ok ()) "p2" "owner" "m2" none .fixed 0,
    .rebindPlanAccount "p1" "owner" "a2",
    .rebindPlanAccount "p2" "owner" "a1"]

theorem account_bound_once_moved : ∃ d, DirectoryRun 0 movedAccount d ∧
    (∀ id id' h h' accountID, d.plans.lookup id = some h → d.plans.lookup id' = some h' →
      h.plan.accountID = some accountID → h'.plan.accountID = some accountID → id = id') ∧
    ∀ id h, d.plans.lookup id = some h → (h.plan.accountID = none ↔ h.plan.accountBindingGeneration = 0) := by
  have hend : (executeWhen (fun _ _ => True) directoryStep (emptyDirectory 0) movedAccount).isSome := by
    decide
  obtain ⟨d, hd⟩ := Option.isSome_iff_exists.mp hend
  have hrun : DirectoryRun 0 movedAccount d := (run_of_executeWhen hd).mono fun _ _ _ => And.left
  exact ⟨d, hrun, account_bound_once hrun⟩

end Bindings

section Generations

variable {ops : List DirectoryOp} {d d' s t : Directory} {op : DirectoryOp} {id : String} {h h' : HostedPlan}

lemma lookup_putPlan_ne_none {planID : String} (hold : d.plans.lookup id ≠ none) :
    (d.putPlan planID h).plans.lookup id ≠ none := by
  rw [Directory.putPlan, FiniteMap.lookup_insert]
  split_ifs
  · simp
  · exact hold

/-- Only its deletion takes a plan away. -/
lemma plan_stays (hstep : directoryStep d op = .ok d') (hop : ∀ ownerID, op ≠ .deletePlan id ownerID)
    (hold : d.plans.lookup id ≠ none) : d'.plans.lookup id ≠ none := by
  cases op with
  | createPlan om planID userID memberID accountID mode share =>
    simp only [directoryStep, Directory.createPlan, check_bind_eq_ok] at hstep
    simp only [bind_eq_ok, commit_eq_ok] at hstep
    obtain ⟨-, -, plan, -, rfl⟩ := hstep
    exact lookup_putPlan_ne_none hold
  | planOp planID op =>
    simp only [directoryStep, Directory.planOp, bind_eq_ok, commit_eq_ok] at hstep
    obtain ⟨h, -, plan, -, rfl⟩ := hstep
    exact lookup_putPlan_ne_none hold
  | deletePlan planID ownerID =>
    simp only [directoryStep, Directory.deletePlan, bind_eq_ok, commit_eq_ok] at hstep
    obtain ⟨h, -, ⟨⟩, -, ⟨⟩, -, rfl⟩ := hstep
    have hne : id ≠ planID := by
      rintro rfl
      exact hop ownerID rfl
    rw [AList.lookup_erase_ne hne]
    exact hold
  | updatePlanConcurrency planID ownerID policy =>
    simp only [directoryStep, Directory.updatePlanConcurrency, bind_eq_ok, commit_eq_ok] at hstep
    obtain ⟨h, -, ⟨⟩, -, ⟨⟩, -, limit, -, ⟨⟩, -, reserved, -, ⟨⟩, -, members, -, rfl⟩ := hstep
    exact lookup_putPlan_ne_none hold
  | rebindPlanAccount planID ownerID accountID =>
    simp only [directoryStep, Directory.rebindPlanAccount, bind_eq_ok, commit_eq_ok] at hstep
    obtain ⟨h, -, ⟨⟩, -, ⟨⟩, -, a, -, ⟨⟩, -, ⟨⟩, -, ⟨⟩, -, ⟨⟩, -, rfl⟩ := hstep
    exact lookup_putPlan_ne_none hold
  | createOrRotateAccountAuthorization accountID account =>
    simp only [directoryStep, Directory.createOrRotateAccountAuthorization, check_bind_eq_ok] at hstep
    obtain ⟨-, hstep⟩ := hstep
    split at hstep
    · simp only [check_bind_eq_ok, commit_eq_ok] at hstep
      obtain ⟨-, rfl⟩ := hstep
      exact hold
    · simp only [check_bind_eq_ok, commit_eq_ok] at hstep
      obtain ⟨-, rfl⟩ := hstep
      exact hold
  | updateAccountConfig userID accountID maxConcurrency active =>
    simp only [directoryStep, Directory.updateAccountConfig, bind_eq_ok, commit_eq_ok] at hstep
    obtain ⟨⟨⟩, -, a, -, ⟨⟩, -, rfl⟩ := hstep
    exact hold
  | selectBoundPlans i =>
    simp only [directoryStep, Directory.selectBoundPlans, bind_eq_ok, commit_eq_ok] at hstep
    obtain ⟨c, -, ⟨⟩, -, rfl⟩ := hstep
    exact hold
  | validateBoundPlan i =>
    simp only [directoryStep, Directory.validateBoundPlan, orFail_bind_eq_ok] at hstep
    obtain ⟨c, -, hstep⟩ := hstep
    split at hstep
    · split at hstep
      · cases hstep
        exact hold
      · split at hstep
        · cases hstep
          exact hold
        · cases hstep
          exact hold
    · cases hstep
  | commitAccountConfig i =>
    simp only [directoryStep, Directory.commitAccountConfig, orFail_bind_eq_ok, check_bind_eq_ok, commit_eq_ok] at hstep
    obtain ⟨c, -, -, a, -, rfl⟩ := hstep
    exact hold
  | rollbackAccountConfig i =>
    cases hstep
    exact hold

lemma plan_stays_run (hrun : Run (fun d op d' => directoryStep d op = .ok d') s ops t)
    (hops : ∀ ownerID, .deletePlan id ownerID ∉ ops) (hs : s.plans.lookup id ≠ none) : t.plans.lookup id ≠ none := by
  induction hrun with
  | nil => exact hs
  | @snoc ops op u v _ last ih =>
    refine plan_stays last ?_ (ih fun ownerID hmem => hops ownerID (List.mem_append_left _ hmem))
    rintro ownerID rfl
    exact hops ownerID (by simp)

/-- While a plan exists its generation only grows, and as long as the generation stays the account does. -/
theorem generation_identifies_account (hrun : Run (fun d op d' => directoryStep d op = .ok d') s ops t)
    (hexists : ∀ ownerID, .deletePlan id ownerID ∉ ops) (hs : s.plans.lookup id = some h)
    (ht : t.plans.lookup id = some h') :
    h.plan.accountBindingGeneration ≤ h'.plan.accountBindingGeneration ∧
      (h.plan.accountBindingGeneration = h'.plan.accountBindingGeneration → h.plan.accountID = h'.plan.accountID) := by
  induction hrun generalizing h' with
  | nil =>
    obtain rfl := Option.some_inj.mp (hs.symm.trans ht)
    exact ⟨le_rfl, fun _ => rfl⟩
  | @snoc ops op u v prior last ih =>
    have hprior : ∀ ownerID, .deletePlan id ownerID ∉ ops := fun ownerID hmem =>
      hexists ownerID (List.mem_append_left _ hmem)
    have hthere := plan_stays_run prior hprior (by simp [hs])
    cases step_binding last ht with
    | kept hold haccount hgeneration =>
      obtain ⟨hle, heq⟩ := ih hprior hold
      rw [haccount, hgeneration]
      exact ⟨hle, heq⟩
    | unbound _ hnew => exact absurd hnew hthere
    | created _ hnew => exact absurd hnew hthere
    | rebound _ hold haccount _ hgeneration =>
      obtain ⟨hle, -⟩ := ih hprior hold
      rw [hgeneration]
      exact ⟨by omega, fun heq => by omega⟩

def boundAnew : List DirectoryOp :=
  [.rebindPlanAccount "p1" "owner" "a2", .rebindPlanAccount "p1" "owner" "a1", .rebindPlanAccount "p1" "owner" "a2"]

def firstBound : List DirectoryOp :=
  [.createOrRotateAccountAuthorization "a1" ⟨"owner", "upstream1", true, 10⟩,
    .createOrRotateAccountAuthorization "a2" ⟨"owner", "upstream2", true, 10⟩,
    .createPlan (.ok ()) "p1" "owner" "m1" (some "a1") .fixed 0]

theorem generation_identifies_account_boundAnew : ∃ s t h h',
    Run (fun d op d' => directoryStep d op = .ok d') s boundAnew t ∧ s.plans.lookup "p1" = some h ∧
      t.plans.lookup "p1" = some h' ∧ h.plan.accountBindingGeneration ≤ h'.plan.accountBindingGeneration ∧
      (h.plan.accountBindingGeneration = h'.plan.accountBindingGeneration → h.plan.accountID = h'.plan.accountID) := by
  have hstart : ((executeWhen (fun _ _ => True) directoryStep (emptyDirectory 0) firstBound).bind fun s =>
      (executeWhen (fun _ _ => True) directoryStep s boundAnew).bind fun t =>
        (s.plans.lookup "p1").bind fun _ => t.plans.lookup "p1").isSome := by
    decide
  obtain ⟨h', hall⟩ := Option.isSome_iff_exists.mp hstart
  obtain ⟨s, -, hall⟩ := Option.bind_eq_some_iff.mp hall
  obtain ⟨t, ht, hall⟩ := Option.bind_eq_some_iff.mp hall
  obtain ⟨h, hs, ht'⟩ := Option.bind_eq_some_iff.mp hall
  have hrun : Run (fun d op d' => directoryStep d op = .ok d') s boundAnew t :=
    (run_of_executeWhen ht).mono fun _ _ _ => And.left
  exact ⟨s, t, h, h', hrun, hs, ht', generation_identifies_account hrun (by simp [boundAnew]) hs ht'⟩

end Generations

end ShareSub.PlanBinding

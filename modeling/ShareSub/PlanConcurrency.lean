import ShareSub.PlanMembers
import ShareSub.PlanDirectory

/-!
# Concurrency policies and the limits of the accounts

The sum of the base limits of a plan is raised only by a transaction that holds the lock on the account of the plan, and
members who join or leave can only lower it.
-/
namespace ShareSub.PlanConcurrency

open PlanModel PlanSystem PlanMembers PlanDirectory Transaction
open TrafficModel (MemberLimit ConcurrencyPolicy Credential admitMemberConcurrency)

section Limits

/-- The limits of a row that counts. -/
def memberInRange (m : Member) : Prop :=
  0 ≤ m.concurrencyBase ∧ 0 ≤ m.concurrencyMax ∧ (0 < m.concurrencyMax → m.concurrencyBase ≤ m.concurrencyMax)

def LimitsInRange (p : Plan) : Prop := ∀ m ∈ p.members.rows, m.status = .active → memberInRange m

/-- The account can serve the base limits of the plan. -/
def Fits (p : Plan) (maxConcurrency : ℤ) : Prop := 0 < maxConcurrency ∧ reservedBase p ≤ maxConcurrency

variable {p p' : Plan}

lemma Fits.mono {maxConcurrency : ℤ} (h : Fits p maxConcurrency) (hle : reservedBase p' ≤ reservedBase p) :
    Fits p' maxConcurrency := ⟨h.1, hle.trans h.2⟩

/-- The columns that the sum of the base limits is of. -/
def limitsOf (m : Member) : MemberStatus × ℤ × ℤ := (m.status, m.concurrencyBase, m.concurrencyMax)

lemma reservedBase_eq_sum (p : Plan) : reservedBase p =
    (((p.members.rows.map limitsOf).filter fun x => x.1 = .active).map fun x => x.2.1).sum := by
  rw [reservedBase, sumWhere, List.filter_map, List.map_map]
  rfl

/-- The limits and the states of the rows are as before. -/
lemma limits_of_same (h : p'.members.rows.map limitsOf = p.members.rows.map limitsOf) (hp : LimitsInRange p) :
    LimitsInRange p' ∧ reservedBase p' ≤ reservedBase p := by
  constructor
  · intro m' hm' hactive
    have hmem : limitsOf m' ∈ p.members.rows.map limitsOf := by
      rw [← h]
      exact List.mem_map_of_mem hm'
    obtain ⟨m, hm, heq⟩ := List.mem_map.mp hmem
    simp only [limitsOf, Prod.mk.injEq] at heq
    obtain ⟨hstatus, hbase, hmax⟩ := heq
    have := hp m hm (hstatus.trans hactive)
    rw [memberInRange, hbase, hmax] at this
    exact this
  · rw [reservedBase_eq_sum, reservedBase_eq_sum, h]

/-- An update after which a row either does not count or has the limits 0, or is as before. -/
lemma limits_of_update {q : Member → Prop} [DecidablePred q] {g : Member → Member}
    (hrows : p'.members.rows = updateRows q g p.members.rows) (hp : LimitsInRange p)
    (hg : ∀ m ∈ p.members.rows, q m → (g m).status = .active → memberInRange (g m)) : LimitsInRange p' := by
  intro m' hm' hactive
  rw [hrows] at hm'
  obtain ⟨m, hm, rfl⟩ := List.mem_map.mp hm'
  split_ifs at hactive ⊢ with hq
  · exact hg m hm hq hactive
  · exact hp m hm hactive

lemma reservedBase_of_update {q : Member → Prop} [DecidablePred q] {g : Member → Member}
    (hrows : p'.members.rows = updateRows q g p.members.rows)
    (hg : ∀ m ∈ p.members.rows, q m → (if (g m).status = .active then (g m).concurrencyBase else 0) ≤
      if m.status = .active then m.concurrencyBase else 0) : reservedBase p' ≤ reservedBase p := by
  rw [reservedBase, hrows]
  apply sumWhere_map_le
  intro m hm
  by_cases hq : q m
  · rw [if_pos hq]
    exact hg m hm hq
  · rw [if_neg hq]

lemma rejoin_inRange (share : ℤ) (m : Member) : memberInRange (rejoin share m) := ⟨le_rfl, le_rfl, fun h => h.le⟩

/-- Members who join or leave do not raise the sum of the base limits. -/
lemma memberChange_limits {op : PlanOp} (h : MemberChange op p p') (hp : LimitsInRange p) :
    LimitsInRange p' ∧ reservedBase p' ≤ reservedBase p := by
  cases h with
  | same _ hrows =>
    apply limits_of_same _ hp
    have hlimits : limitsOf = (fun x : Standing => (x.status, x.concurrencyBase, x.concurrencyMax)) ∘ standing := rfl
    rw [hlimits, ← List.map_map, ← List.map_map, hrows]
  | joined _ _ hrows =>
    constructor
    · intro m hm hactive
      rw [hrows] at hm
      rcases List.mem_append.mp hm with hm | hm
      · exact hp m hm hactive
      · rw [List.mem_singleton.mp hm]
        exact ⟨le_rfl, le_rfl, fun h => h.le⟩
    · rw [reservedBase, hrows, sumWhere_append, sumWhere_cons, sumWhere_nil]
      simp [joiningMember, reservedBase]
  | rejoined _ hgone hrows =>
    constructor
    · exact limits_of_update hrows hp fun m _ _ _ => rejoin_inRange _ m
    · apply reservedBase_of_update hrows
      intro m hm huser
      rw [if_neg (hgone m hm huser)]
      simp [rejoin]
  | left _ _ hrows =>
    constructor
    · apply limits_of_update hrows hp
      intro m _ _ hactive
      cases hactive
    · apply reservedBase_of_update hrows
      intro m hm _
      rw [if_neg (by simp [leave])]
      split_ifs with hactive
      · exact (hp m hm hactive).1
      · exact le_rfl
  | transferred _ _ _ _ _ hrows =>
    -- The two updates change the roles only.
    apply limits_of_same _ hp
    rw [hrows, updateRows, updateRows, List.map_map, List.map_map]
    apply List.map_congr_left
    intro m _
    simp only [Function.comp_apply]
    split_ifs <;> rfl

end Limits

section Policies

variable {members members' : MemberTable} {limits : List MemberLimit}

lemma checkLimits_spec {users : List String} {before reserved : ℤ} (hn : users.Nodup)
    (h : checkLimits limits users before = .ok reserved) :
    (limits.map MemberLimit.userID).Nodup ∧ (∀ l ∈ limits, l.userID ∈ users ∧ limitInRange l) ∧
      reserved = before + (limits.map MemberLimit.baseLimit).sum := by
  induction limits generalizing users before with
  | nil =>
    cases h
    simp
  | cons l rest ih =>
    simp only [checkLimits, check_bind_eq_ok, ensure_eq_ok] at h
    obtain ⟨hmem, hrange, h⟩ := h
    obtain ⟨hnodup, hall, hsum⟩ := ih (hn.erase l.userID) h
    refine ⟨?_, ?_, ?_⟩
    · rw [List.map_cons, List.nodup_cons]
      refine ⟨?_, hnodup⟩
      intro hl
      obtain ⟨x, hx, heq⟩ := List.mem_map.mp hl
      have := (hall x hx).1
      rw [heq] at this
      exact hn.not_mem_erase this
    · intro x hx
      rcases List.mem_cons.mp hx with rfl | hx
      · exact ⟨hmem, hrange⟩
      · exact ⟨List.mem_of_mem_erase (hall x hx).1, (hall x hx).2⟩
    · rw [List.map_cons, List.sum_cons, hsum]
      ring

/-- The base limits of the users that are not named. -/
def baseExcept (users : List String) (rows : List Member) : ℤ :=
  sumWhere (fun m => m.status = .active ∧ m.userID ∉ users) Member.concurrencyBase rows

/-- One limit is written to the row of its user. -/
lemma baseExcept_write {l : MemberLimit} {users : List String} (hl : l.userID ∉ users)
    (hactive : ∃ m ∈ members.rows, m.userID = l.userID ∧ m.status = .active)
    (h : members.update? (fun m => m.userID = l.userID ∧ m.status = .active) (fun m =>
      { m with concurrencyBase := l.baseLimit, concurrencyMax := l.maxConcurrency }) = some members') :
    baseExcept users members'.rows = baseExcept (l.userID :: users) members.rows + l.baseLimit := by
  obtain ⟨m, hm, huser, hstatus⟩ := hactive
  have hq : ∀ x ∈ members.rows, x.userID = l.userID ∧ x.status = .active ↔ x.id = m.id := by
    intro x hx
    constructor
    · intro hx'
      have hsame : x = m := members.eq_of_index_eq hx hm (show memberUser x = some l.userID from
        congrArg some hx'.1) (congrArg some huser)
      rw [hsame]
    · intro hid
      rw [eq_of_key_eq members.keys_nodup hx hm hid]
      exact ⟨huser, hstatus⟩
  obtain ⟨rest, hrest, hold, hnew⟩ := updateRows_perm (g := fun m : Member =>
    { m with concurrencyBase := l.baseLimit, concurrencyMax := l.maxConcurrency }) members.keys_nodup hm hq
  have hother : ∀ x ∈ rest, x.userID ≠ l.userID := by
    intro x hx heq
    have hmem : x ∈ members.rows := hold.symm.subset (List.mem_cons_of_mem m hx)
    have hsame : x = m := members.eq_of_index_eq hmem hm (show memberUser x = some l.userID from
      congrArg some heq) (congrArg some huser)
    exact hrest x hx (by rw [hsame])
  have hrestSum : baseExcept users rest = baseExcept (l.userID :: users) rest := by
    apply sumWhere_congr
    intro x hx
    simp [hother x hx]
  have hperm : ∀ {us : List String} {rows rows' : List Member}, rows.Perm rows' →
      baseExcept us rows = baseExcept us rows' := fun hp => ((hp.filter _).map _).sum_eq
  rw [Table.rows_of_update? h, hperm hnew, hperm hold, baseExcept, sumWhere_cons, baseExcept, sumWhere_cons]
  have hrestSum : sumWhere (fun m => m.status = .active ∧ m.userID ∉ users) Member.concurrencyBase rest =
      sumWhere (fun m => m.status = .active ∧ m.userID ∉ l.userID :: users) Member.concurrencyBase rest := hrestSum
  rw [if_pos ⟨hstatus, by rw [huser]; exact hl⟩, if_neg (by simp [huser]), hrestSum]
  ring

/-- What the two loops of `UpdatePlanConcurrency` leave. -/
lemma writeLimits_spec (hn : (limits.map MemberLimit.userID).Nodup)
    (hactive : ∀ l ∈ limits, ∃ m ∈ members.rows, m.userID = l.userID ∧ m.status = .active)
    (h : writeLimits limits members = .ok members') :
    baseExcept [] members'.rows =
      baseExcept (limits.map MemberLimit.userID) members.rows + (limits.map MemberLimit.baseLimit).sum ∧
    ∀ m' ∈ members'.rows, m' ∈ members.rows ∨
      ∃ l ∈ limits, m'.concurrencyBase = l.baseLimit ∧ m'.concurrencyMax = l.maxConcurrency := by
  induction limits generalizing members with
  | nil =>
    cases h
    simp
  | cons l rest ih =>
    simp only [writeLimits, orFail_bind_eq_ok] at h
    obtain ⟨next, hupdate, h⟩ := h
    rw [List.map_cons, List.nodup_cons] at hn
    have hnext : ∀ x ∈ rest, ∃ m ∈ next.rows, m.userID = x.userID ∧ m.status = .active := by
      intro x hx
      obtain ⟨m, hm, huser, hstatus⟩ := hactive x (List.mem_cons_of_mem l hx)
      rw [Table.rows_of_update? hupdate]
      refine ⟨_, List.mem_map_of_mem hm, ?_⟩
      split_ifs <;> exact ⟨huser, hstatus⟩
    obtain ⟨hsum, hrows⟩ := ih hn.2 hnext h
    constructor
    · rw [hsum, baseExcept_write hn.1 (hactive l List.mem_cons_self) hupdate, List.map_cons, List.map_cons, List.sum_cons]
      ring
    · intro m' hm'
      rcases hrows m' hm' with hm' | ⟨x, hx, hlimits⟩
      · rw [Table.rows_of_update? hupdate] at hm'
        obtain ⟨m, hm, rfl⟩ := List.mem_map.mp hm'
        split_ifs
        · exact Or.inr ⟨l, List.mem_cons_self, rfl, rfl⟩
        · exact Or.inl hm
      · exact Or.inr ⟨x, List.mem_cons_of_mem l hx, hlimits⟩

/-- After `UpdatePlanConcurrency` the base limits sum up to `reserved`. -/
lemma limits_of_written {p : Plan} {reserved : ℤ} (hp : LimitsInRange p)
    (hlength : ((p.members.rows.filter fun m => m.status = .active).map Member.userID).length = limits.length)
    (hcheck : checkLimits limits ((p.members.rows.filter fun m => m.status = .active).map Member.userID) 0 = .ok reserved)
    (hwrite : writeLimits limits p.members = .ok members') :
    LimitsInRange { p with members := members' } ∧ reservedBase { p with members := members' } = reserved := by
  have husers : ((p.members.rows.filter fun m => m.status = .active).map Member.userID).Nodup := by
    have hall : (p.members.rows.map Member.userID).Nodup := by
      rw [← List.filterMap_eq_map]
      exact p.members.index_nodup
    exact hall.sublist (List.filter_sublist.map _)
  obtain ⟨hnodup, hall, hsum⟩ := checkLimits_spec husers hcheck
  have hactive : ∀ l ∈ limits, ∃ m ∈ p.members.rows, m.userID = l.userID ∧ m.status = .active := by
    intro l hl
    obtain ⟨m, hm, huser⟩ := List.mem_map.mp (hall l hl).1
    obtain ⟨hm, hstatus⟩ := List.mem_filter.mp hm
    exact ⟨m, hm, huser, of_decide_eq_true hstatus⟩
  obtain ⟨hwritten, hrows⟩ := writeLimits_spec hnodup hactive hwrite
  constructor
  · intro m' hm' hstatus
    rcases hrows m' hm' with hm' | ⟨l, hl, hbase, hmax⟩
    · exact hp m' hm' hstatus
    · obtain ⟨hbaseLow, -, hmaxLow, -, hle⟩ := (hall l hl).2
      rw [memberInRange, hbase, hmax]
      exact ⟨hbaseLow, hmaxLow, hle⟩
  · -- As many limits as active users, each for another one: no user is left out.
    have hcover : ∀ m ∈ p.members.rows, m.status = .active → m.userID ∈ limits.map MemberLimit.userID := by
      intro m hm hstatus
      have hsub : (limits.map MemberLimit.userID).Subperm
          ((p.members.rows.filter fun m => m.status = .active).map Member.userID) := by
        apply hnodup.subperm
        intro user huser
        obtain ⟨l, hl, rfl⟩ := List.mem_map.mp huser
        exact (hall l hl).1
      have hperm := hsub.perm_of_length_le (by rw [hlength, List.length_map])
      exact hperm.symm.subset (List.mem_map_of_mem (List.mem_filter.mpr ⟨hm, by simpa using hstatus⟩))
    have hnone : baseExcept (limits.map MemberLimit.userID) p.members.rows = 0 := by
      rw [baseExcept, sumWhere, List.filter_eq_nil_iff.mpr]
      · rfl
      · intro m hm hsel
        have hsel := of_decide_eq_true hsel
        exact hsel.2 (hcover m hm hsel.1)
    have hbase : reservedBase { p with members := members' } = baseExcept [] members'.rows := by
      apply sumWhere_congr
      intro m _
      simp
    rw [hbase, hwritten, hnone, hsum]

end Policies

section Directories

/-- Every plan whose policy is enabled fits its account, and the plans that a pending `UpdateAccountConfig` has yet to
validate apart, it fits the limit that is about to be committed. -/
structure Covered (d : Directory) : Prop where
  limits : ∀ id h, d.plans.lookup id = some h → LimitsInRange h.plan
  accounts : ∀ id h accountID, d.plans.lookup id = some h → h.concurrencyEnabled = true →
    h.plan.accountID = some accountID → ∃ a, d.accounts.lookup accountID = some a ∧ Fits h.plan a.maxConcurrency
  configs : ∀ c ∈ d.configs, ∀ id h rest, d.plans.lookup id = some h → h.concurrencyEnabled = true →
    h.plan.accountID = some c.accountID → c.boundPlans = some rest → id ∉ rest → Fits h.plan c.maxConcurrency

variable {d d' : Directory} {op : DirectoryOp} {id : String} {h h' : HostedPlan}

/-- What a step does to the limit of an account. -/
lemma step_accounts (hstep : directoryStep d op = .ok d') {accountID : String} {a : HostAccount}
    (ha : d.accounts.lookup accountID = some a) : ∃ a', d'.accounts.lookup accountID = some a' ∧
      (a'.maxConcurrency = a.maxConcurrency ∨ ∃ c ∈ d.configs, d'.plans = d.plans ∧ c.boundPlans = some [] ∧
        c.accountID = accountID ∧ a'.maxConcurrency = c.maxConcurrency) := by
  cases step_accountChange hstep with
  | kept hkept =>
    rw [hkept.1]
    exact ⟨a, ha, Or.inl rfl⟩
  | rotated hb hnew =>
    rw [hnew, FiniteMap.lookup_insert]
    split_ifs with heq
    · subst heq
      rw [hb] at ha
      cases ha
      exact ⟨_, rfl, Or.inl rfl⟩
    · exact ⟨a, ha, Or.inl rfl⟩
  | @added newID b hfree hnew =>
    have hne : accountID ≠ newID := by
      rintro rfl
      rw [ha] at hfree
      cases hfree
    rw [hnew, FiniteMap.lookup_insert, if_neg hne]
    exact ⟨a, ha, Or.inl rfl⟩
  | started _ hnew =>
    rw [hnew]
    exact ⟨a, ha, Or.inl rfl⟩
  | selected hnew =>
    rw [hnew]
    exact ⟨a, ha, Or.inl rfl⟩
  | validated _ _ _ _ hnew =>
    rw [hnew]
    exact ⟨a, ha, Or.inl rfl⟩
  | ended hnew =>
    rw [hnew]
    exact ⟨a, ha, Or.inl rfl⟩
  | committed hc hdone hnew =>
    rw [hnew, FiniteMap.lookup_insert]
    split_ifs with heq
    · exact ⟨_, rfl, Or.inr ⟨_, List.mem_of_getElem? hc, rfl, hdone, heq.symm, rfl⟩⟩
    · exact ⟨a, ha, Or.inl rfl⟩

/-- Where a pending `UpdateAccountConfig` comes from. -/
inductive ConfigOrigin (d d' : Directory) (c' : AccountConfig) : Prop
  | kept (hold : c' ∈ d.configs)
  | started (hnone : c'.boundPlans = none)
  | selected (hplans : d'.plans = d.plans) (hbound : c'.boundPlans = some (d.boundPlans c'.accountID))
  | validated {c : AccountConfig} {planID : String} {rest : List String} {h : HostedPlan} (hold : c ∈ d.configs)
      (hplans : d'.plans = d.plans) (hbound : c.boundPlans = some (planID :: rest)) (hplan : d.plans.lookup planID = some h)
      (hcap : h.concurrencyEnabled → ¬ (c.maxConcurrency ≤ 0 ∨ c.maxConcurrency < reservedBase h.plan))
      (hnew : c' = { c with boundPlans := some rest })

lemma step_configs (hstep : directoryStep d op = .ok d') {c' : AccountConfig} (hc' : c' ∈ d'.configs) :
    ConfigOrigin d d' c' := by
  cases step_accountChange hstep with
  | kept hkept =>
    rw [hkept.2] at hc'
    exact .kept hc'
  | rotated _ hnew =>
    rw [hnew] at hc'
    exact .kept hc'
  | added _ hnew =>
    rw [hnew] at hc'
    exact .kept hc'
  | started hnone hnew =>
    rw [hnew] at hc'
    rcases List.mem_append.mp hc' with hc' | hc'
    · exact .kept hc'
    · rw [List.mem_singleton.mp hc']
      exact .started hnone
  | selected hnew =>
    rw [hnew] at hc' ⊢
    rcases List.mem_or_eq_of_mem_set hc' with hc' | rfl
    · exact .kept hc'
    · exact .selected rfl rfl
  | validated hc hbound hplan hcap hnew =>
    rw [hnew] at hc' ⊢
    rcases List.mem_or_eq_of_mem_set hc' with hc' | rfl
    · exact .kept hc'
    · exact .validated (List.mem_of_getElem? hc) rfl hbound hplan hcap rfl
  | ended hnew =>
    rw [hnew] at hc'
    exact .kept (List.mem_of_mem_eraseIdx hc')
  | committed _ _ hnew =>
    rw [hnew] at hc'
    exact .kept (List.mem_of_mem_eraseIdx hc')

lemma fits_of_check {p : Plan} {maxConcurrency : ℤ} (h : ¬ (maxConcurrency ≤ 0 ∨ maxConcurrency < reservedBase p)) :
    Fits p maxConcurrency := by
  rw [not_or, not_le, not_lt] at h
  exact h

lemma lockAccount_ok {accountID : String} {a : HostAccount} (h : d.lockAccount accountID = .ok a) :
    ¬ d.Locked accountID ∧ d.accounts.lookup accountID = some a := by
  simpa [Directory.lockAccount] using h

lemma limitOf_ok {accountID : String} {limit : ℤ} (h : d.limitOf (some accountID) = .ok limit) :
    ¬ d.Locked accountID ∧ ∃ a, d.accounts.lookup accountID = some a ∧ a.maxConcurrency = limit := by
  obtain ⟨a, ha, rfl⟩ := map_eq_ok.mp h
  obtain ⟨hfree, ha⟩ := lockAccount_ok ha
  exact ⟨hfree, a, ha, rfl⟩

lemma limits_of_created {ownerMembership accountCheck : Except DomainError Unit} {now : ℤ} {userID memberID : String}
    {accountID : Option String} {mode : AllocationMode} {share : ℤ} {p : Plan}
    (h : createPlan ownerMembership accountCheck (newPlan now userID accountID mode)
      (newOwner now userID memberID share) = .ok p) : LimitsInRange p := by
  simp only [createPlan, check_bind_eq_ok, ensure_eq_ok, orFail_bind_eq_ok, commit_eq_ok] at h
  obtain ⟨-, -, -, -, members, hinsert, rfl⟩ := h
  have hrows : members.rows = [newOwner now userID memberID share] := Table.rows_of_insert? hinsert
  intro m hm _
  rw [hrows] at hm
  rw [List.mem_singleton.mp hm]
  exact ⟨le_rfl, le_rfl, fun h => h.le⟩

lemma Covered.limits_step (hd : Covered d) (hstep : directoryStep d op = .ok d')
    (hlookup : d'.plans.lookup id = some h') : LimitsInRange h'.plan := by
  cases step_plan hstep hlookup with
  | kept hold => exact hd.limits id h' hold
  | created _ hplan _ _ => exact limits_of_created hplan
  | operated _ hold hplan _ _ => exact (memberChange_limits (apply_members hplan).2 (hd.limits id _ hold)).1
  | limited hold _ hlength hcheck _ hwrite hplan _ =>
    rw [hplan]
    exact (limits_of_written (hd.limits id _ hold) hlength hcheck hwrite).1
  | rebound hold _ _ hplan _ =>
    rw [hplan]
    have hlimits := hd.limits id _ hold
    exact hlimits

lemma Covered.accounts_step (hd : Covered d) (hstep : directoryStep d op = .ok d')
    (hlookup : d'.plans.lookup id = some h') (henabled : h'.concurrencyEnabled = true) {accountID : String}
    (hbound : h'.plan.accountID = some accountID) :
    ∃ a, d'.accounts.lookup accountID = some a ∧ Fits h'.plan a.maxConcurrency := by
  cases step_plan hstep hlookup with
  | kept hold =>
    obtain ⟨a, ha, hfits⟩ := hd.accounts id h' accountID hold henabled hbound
    obtain ⟨a', ha', hmax | ⟨c, hc, -, hdone, hid, hmax⟩⟩ := step_accounts hstep ha
    · exact ⟨a', ha', hmax ▸ hfits⟩
    · subst hid
      exact ⟨a', ha', hmax ▸ hd.configs c hc id h' [] hold henabled hbound hdone List.not_mem_nil⟩
  | created _ _ hdisabled _ =>
    rw [hdisabled] at henabled
    cases henabled
  | operated _ hold hplan hsame hframe =>
    obtain ⟨haccount, hchange⟩ := apply_members hplan
    rw [hsame] at henabled
    rw [haccount] at hbound
    obtain ⟨a, ha, hfits⟩ := hd.accounts id _ accountID hold henabled hbound
    rw [hframe.1]
    exact ⟨a, ha, hfits.mono (memberChange_limits hchange (hd.limits id _ hold)).2⟩
  | limited hold hlimit hlength hcheck hcap hwrite hplan hframe =>
    rw [hplan] at henabled hbound ⊢
    have hbound : _ = some accountID := hbound
    rw [hbound] at hlimit
    obtain ⟨-, a, ha, rfl⟩ := limitOf_ok hlimit
    rw [hframe.1]
    refine ⟨a, ha, fits_of_check ?_⟩
    rw [(limits_of_written (hd.limits id _ hold) hlength hcheck hwrite).2]
    exact hcap henabled
  | rebound hold hlock hcap hplan hframe =>
    rw [hplan] at henabled hbound ⊢
    cases hbound
    rw [hframe.1]
    exact ⟨_, (lockAccount_ok hlock).2, fits_of_check (hcap henabled)⟩

lemma Covered.configs_step (hd : Covered d) (hstep : directoryStep d op = .ok d') {c : AccountConfig}
    (hc : c ∈ d'.configs) (hlookup : d'.plans.lookup id = some h') (henabled : h'.concurrencyEnabled = true)
    (hbound : h'.plan.accountID = some c.accountID) {rest : List String} (hrest : c.boundPlans = some rest)
    (hid : id ∉ rest) : Fits h'.plan c.maxConcurrency := by
  cases step_plan hstep hlookup with
  | kept hold =>
    cases step_configs hstep hc with
    | kept hc => exact hd.configs c hc id h' rest hold henabled hbound hrest hid
    | started hnone =>
      rw [hrest] at hnone
      cases hnone
    | selected _ hselected =>
      -- The plan is among those that were selected.
      rw [hrest, Option.some_inj] at hselected
      refine absurd ?_ hid
      rw [hselected, Directory.boundPlans]
      exact List.mem_map.mpr ⟨⟨id, h'⟩, List.mem_filter.mpr ⟨FiniteMap.mem_entries_iff.mpr hold, by simpa using hbound⟩, rfl⟩
    | @validated c₀ planID rest₀ h₀ hc₀ _ hbound₀ hplan hcap hnew =>
      subst hnew
      cases hrest
      by_cases heq : id = planID
      · subst heq
        rw [hold] at hplan
        cases hplan
        exact fits_of_check (hcap henabled)
      · refine hd.configs c₀ hc₀ id h' _ hold henabled hbound hbound₀ ?_
        rw [List.mem_cons, not_or]
        exact ⟨heq, hid⟩
  | created _ _ hdisabled _ =>
    rw [hdisabled] at henabled
    cases henabled
  | operated _ hold hplan hsame hframe =>
    obtain ⟨haccount, hchange⟩ := apply_members hplan
    rw [hsame] at henabled
    rw [haccount] at hbound
    rw [hframe.2] at hc
    exact (hd.configs c hc id _ rest hold henabled hbound hrest hid).mono
      (memberChange_limits hchange (hd.limits id _ hold)).2
  | limited hold hlimit _ _ _ _ hplan hframe =>
    -- The transaction would wait for the lock.
    rw [hplan] at hbound
    have hbound : _ = some c.accountID := hbound
    rw [hbound] at hlimit
    rw [hframe.2] at hc
    exact absurd ⟨c, hc, rfl⟩ (limitOf_ok hlimit).1
  | rebound hold hlock _ hplan hframe =>
    rw [hplan] at hbound
    cases hbound
    rw [hframe.2] at hc
    exact absurd ⟨c, hc, rfl⟩ (lockAccount_ok hlock).1

lemma run_covered {clock : ℤ} {ops : List DirectoryOp} (hrun : DirectoryRun clock ops d) : Covered d := by
  apply Run.invariant hrun
  · refine ⟨?_, ?_, ?_⟩
    · intro id h hlookup
      cases hlookup
    · intro id h accountID hlookup
      cases hlookup
    · intro c hc
      cases hc
  · intro u op v hu hstep
    refine ⟨?_, ?_, ?_⟩
    · intro id h hlookup
      exact hu.limits_step hstep hlookup
    · intro id h accountID hlookup henabled hbound
      exact hu.accounts_step hstep hlookup henabled hbound
    · intro c hc id h rest hlookup henabled hbound hrest hid
      exact hu.configs_step hstep hc hlookup henabled hbound hrest hid

lemma reserved_policy (h : HostedPlan) : TrafficModel.reserved h.policy.members = reservedBase h.plan := by
  rw [TrafficModel.reserved, HostedPlan.policy, List.map_map, reservedBase, sumWhere]
  exact ((List.mergeSort_perm _ _).map _).sum_eq

lemma admit_ne_configuration {credential : Credential} (henabled : credential.policy.enabled = true →
      ¬ (credential.maxConcurrency ≤ 0 ∨ credential.maxConcurrency < TrafficModel.reserved credential.policy.members))
    (active : Counter String) : admitMemberConcurrency active credential ≠ .error .concurrencyConfiguration := by
  intro hrefused
  unfold admitMemberConcurrency at hrefused
  by_cases hpolicy : credential.policy.enabled = true
  · rw [if_pos hpolicy] at hrefused
    cases hown : TrafficModel.own credential.caller.userID credential.policy.members with
    | none =>
      rw [hown] at hrefused
      cases hrefused
    | some own =>
      rw [hown] at hrefused
      dsimp only at hrefused
      rw [if_neg (henabled hpolicy)] at hrefused
      split_ifs at hrefused <;> cases hrefused
  · rw [if_neg hpolicy] at hrefused
    cases hrefused

/-- In every directory that committed steps lead to: a plan whose policy is enabled fits the account that it is bound to,
the limits of the active members of a plan are in range, and an admission that reads the plan and the account together
is never refused for the configuration. -/
theorem concurrency_policy_fits (clock : ℤ) (ops : List DirectoryOp) (d : Directory) (hrun : DirectoryRun clock ops d)
    (id : String) (h : HostedPlan) (hlookup : d.plans.lookup id = some h) :
    (∀ m ∈ h.plan.members.rows, m.status = .active → 0 ≤ m.concurrencyBase ∧
      (0 < m.concurrencyMax → m.concurrencyBase ≤ m.concurrencyMax)) ∧
    ∀ accountID, h.plan.accountID = some accountID →
      (h.concurrencyEnabled = true → ∃ a, d.accounts.lookup accountID = some a ∧ 0 < a.maxConcurrency ∧
        reservedBase h.plan ≤ a.maxConcurrency) ∧
      ∀ a, d.accounts.lookup accountID = some a → ∀ active caller rpmLimit,
        admitMemberConcurrency active ⟨caller, a.maxConcurrency, rpmLimit, h.policy⟩ ≠ .error .concurrencyConfiguration := by
  have hd := run_covered hrun
  constructor
  · intro m hm hactive
    have hrange := hd.limits id h hlookup m hm hactive
    exact ⟨hrange.1, hrange.2.2⟩
  · intro accountID hbound
    constructor
    · intro henabled
      obtain ⟨a, ha, hfits⟩ := hd.accounts id h accountID hlookup henabled hbound
      exact ⟨a, ha, hfits.1, hfits.2⟩
    · intro a ha active caller rpmLimit
      apply admit_ne_configuration
      intro henabled
      obtain ⟨a', ha', hfits⟩ := hd.accounts id h accountID hlookup henabled hbound
      rw [ha] at ha'
      cases ha'
      dsimp only
      rw [reserved_policy, not_or, not_le, not_lt]
      exact hfits

/-- A plan is created and bound to an account, its policy is set, and the limit of the account is lowered as far as the
policy permits. -/
def loweredLimit : List DirectoryOp :=
  [.createOrRotateAccountAuthorization "account" ⟨"u1", "chatgpt", true, 10⟩,
    .createPlan (.ok ()) "plan" "u1" "m1" (some "account") .shared 0,
    .planOp "plan" (.createInvite (.ok ()) "u1" "i1" "t1" 0), .planOp "plan" (.acceptInvite (.ok ()) "t1" "u2" "m2"),
    .updatePlanConcurrency "plan" "u1" ⟨true, [⟨"u2", 2, 4⟩, ⟨"u1", 3, 0⟩]⟩,
    .updateAccountConfig "u1" "account" 5 true, .selectBoundPlans 0, .validateBoundPlan 0, .commitAccountConfig 0]

theorem concurrency_policy_fits_lowered : ∃ d h a, DirectoryRun 0 loweredLimit d ∧ d.plans.lookup "plan" = some h ∧
    h.concurrencyEnabled = true ∧ h.plan.accountID = some "account" ∧ d.accounts.lookup "account" = some a ∧
    a.maxConcurrency = 5 ∧ reservedBase h.plan ≤ 5 := by
  have hend : ((executeWhen (fun _ _ => True) directoryStep (emptyDirectory 0) loweredLimit).bind fun d =>
      (d.plans.lookup "plan").bind fun h => (d.accounts.lookup "account").map fun a =>
        (h.concurrencyEnabled, h.plan.accountID, a.maxConcurrency)) = some (true, some "account", 5) := by
    decide
  obtain ⟨d, hexecuted, hend⟩ := Option.bind_eq_some_iff.mp hend
  obtain ⟨h, hlookup, hend⟩ := Option.bind_eq_some_iff.mp hend
  obtain ⟨a, ha, hend⟩ := Option.map_eq_some_iff.mp hend
  simp only [Prod.mk.injEq] at hend
  obtain ⟨henabled, hbound, hmax⟩ := hend
  have hrun : DirectoryRun 0 loweredLimit d := (run_of_executeWhen hexecuted).mono fun _ _ _ => And.left
  obtain ⟨a', ha', -, hle⟩ :=
    ((concurrency_policy_fits 0 loweredLimit d hrun "plan" h hlookup).2 "account" hbound).1 henabled
  rw [ha] at ha'
  cases ha'
  rw [hmax] at hle
  exact ⟨d, h, a, hrun, hlookup, henabled, hbound, ha, hmax, hle⟩

end Directories

end ShareSub.PlanConcurrency

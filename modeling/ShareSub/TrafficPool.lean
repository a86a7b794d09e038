import Mathlib
import ShareSub.Reservation
import ShareSub.TrafficSafety

/-!
# The bases of the members and the shared pool

An account whose plan has an enabled policy is only used by requests of the members. The policy is one
that `UpdatePlanConcurrency` accepts, and members may leave it while their requests are in flight.
-/
namespace ShareSub.TrafficPool

open scoped BigOperators
open HistoryModel TrafficModel TrafficWiring TrafficAccounting TrafficSafety Reservation

section Members

variable {members : List MemberLimit} {m : MemberLimit} {user : String}

lemma own_append (user : String) (members : List MemberLimit) (m : MemberLimit) :
    own user (members ++ [m]) = if m.userID = user then some m else own user members := by
  rw [own, own, List.foldl_append]
  rfl

lemma bases_append (members : List MemberLimit) (m : MemberLimit) (user : String) :
    bases (members ++ [m]) user = if user = m.userID then m.baseLimit else bases members user := by
  rw [bases, bases, List.foldl_append, List.foldl_cons, List.foldl_nil, Function.update_apply]

lemma reserved_append (members : List MemberLimit) (m : MemberLimit) :
    reserved (members ++ [m]) = reserved members + m.baseLimit := by
  rw [reserved, reserved, List.map_append, List.sum_append, List.map_singleton, List.sum_singleton]

/-- The base of a user is that of the member that the loop finds for it. -/
lemma bases_eq_own (members : List MemberLimit) (user : String) :
    bases members user = ((own user members).map MemberLimit.baseLimit).getD 0 := by
  induction members using List.reverseRecOn with
  | nil => rfl
  | append_singleton members m ih =>
    rw [bases_append, own_append, ih]
    by_cases h : m.userID = user
    · rw [if_pos h.symm, if_pos h]
      rfl
    · rw [if_neg (Ne.symm h), if_neg h]

lemma own_some (h : own user members = some m) : m ∈ members ∧ m.userID = user := by
  induction members using List.reverseRecOn with
  | nil => cases h
  | append_singleton members x ih =>
    rw [own_append] at h
    split_ifs at h with hx
    · cases h
      exact ⟨List.mem_append_right _ (List.mem_singleton_self m), hx⟩
    · exact ⟨List.mem_append_left _ (ih h).1, (ih h).2⟩

lemma own_none (h : ∀ m ∈ members, m.userID ≠ user) : own user members = none := by
  cases hown : own user members with
  | none => rfl
  | some m => exact absurd (own_some hown).2 (h m (own_some hown).1)

lemma own_of_mem (hdistinct : (members.map MemberLimit.userID).Nodup) (hm : m ∈ members) :
    own m.userID members = some m := by
  induction members using List.reverseRecOn with
  | nil => cases hm
  | append_singleton members x ih =>
    rw [List.map_append, List.nodup_append] at hdistinct
    obtain ⟨hdistinct, -, hcross⟩ := hdistinct
    rw [own_append]
    rcases List.mem_append.mp hm with hm | hm
    · rw [if_neg, ih hdistinct hm]
      exact fun h => hcross m.userID (List.mem_map_of_mem hm) x.userID List.mem_cons_self h.symm
    · rw [List.mem_singleton.mp hm, if_pos rfl]

lemma own_filter (members : List MemberLimit) (gone user : String) :
    own user (members.filter fun m => m.userID ≠ gone) = if user = gone then none else own user members := by
  induction members using List.reverseRecOn with
  | nil => simp [own]
  | append_singleton members m ih =>
    rw [List.filter_append, own_append]
    by_cases hgone : m.userID = gone
    · have hnil : [m].filter (fun m => m.userID ≠ gone) = [] := by simp [hgone]
      rw [hnil, List.append_nil, ih]
      by_cases huser : user = gone
      · rw [if_pos huser, if_pos huser]
      · rw [if_neg huser, if_neg huser, if_neg]
        exact fun h => huser (h.symm.trans hgone)
    · have hkept : [m].filter (fun m => m.userID ≠ gone) = [m] := by simp [hgone]
      rw [hkept, own_append, ih]
      by_cases huser : user = gone
      · rw [if_pos huser, if_pos huser, if_neg]
        exact fun h => hgone (h.trans huser)
      · rw [if_neg huser, if_neg huser]

lemma bases_filter (members : List MemberLimit) (gone user : String) :
    bases (members.filter fun m => m.userID ≠ gone) user = if user = gone then 0 else bases members user := by
  rw [bases_eq_own, bases_eq_own, own_filter]
  split_ifs <;> rfl

/-- The base of a member that leaves is no longer reserved. -/
lemma reserved_filter (hdistinct : (members.map MemberLimit.userID).Nodup) (gone : String) :
    reserved (members.filter fun m => m.userID ≠ gone) = reserved members - bases members gone := by
  induction members using List.reverseRecOn with
  | nil => rfl
  | append_singleton members m ih =>
    rw [List.map_append, List.nodup_append] at hdistinct
    obtain ⟨hdistinct, -, hcross⟩ := hdistinct
    rw [List.filter_append, reserved_append, bases_append]
    by_cases hgone : m.userID = gone
    · have hnil : [m].filter (fun m => m.userID ≠ gone) = [] := by simp [hgone]
      have hbase : bases members gone = 0 := by
        rw [bases_eq_own, own_none]
        · rfl
        · intro x hx heq
          exact hcross x.userID (List.mem_map_of_mem hx) m.userID List.mem_cons_self (heq.trans hgone.symm)
      rw [hnil, List.append_nil, ih hdistinct, hbase, if_pos hgone.symm]
      omega
    · have hkept : [m].filter (fun m => m.userID ≠ gone) = [m] := by simp [hgone]
      rw [hkept, reserved_append, ih hdistinct, if_neg (Ne.symm hgone)]
      omega

lemma bases_nonneg (hnonneg : ∀ m ∈ members, 0 ≤ m.baseLimit) (user : String) : 0 ≤ bases members user := by
  rw [bases_eq_own]
  cases hown : own user members with
  | none => exact le_refl 0
  | some m => exact hnonneg m (own_some hown).1

/-- The bases of some users are at most what is reserved. -/
lemma sum_bases_le (hdistinct : (members.map MemberLimit.userID).Nodup) (hnonneg : ∀ m ∈ members, 0 ≤ m.baseLimit)
    (users : Finset String) : ∑ user ∈ users, bases members user ≤ reserved members := by
  induction members using List.reverseRecOn with
  | nil => simp [bases, reserved]
  | append_singleton members m ih =>
    rw [List.map_append, List.nodup_append] at hdistinct
    obtain ⟨hdistinct, -, -⟩ := hdistinct
    have hprev := ih hdistinct fun x hx => hnonneg x (List.mem_append_left _ hx)
    have hm := hnonneg m (List.mem_append_right _ (List.mem_singleton_self m))
    have hbase : ∀ user ∈ users, bases (members ++ [m]) user ≤
        bases members user + if user = m.userID then m.baseLimit else 0 := by
      intro user _
      rw [bases_append]
      have := bases_nonneg (fun x hx => hnonneg x (List.mem_append_left _ hx)) user
      split_ifs <;> omega
    have hlast : (∑ user ∈ users, if user = m.userID then m.baseLimit else 0) ≤ m.baseLimit := by
      rw [Finset.sum_ite_eq']
      split_ifs <;> omega
    calc ∑ user ∈ users, bases (members ++ [m]) user
        ≤ ∑ user ∈ users, (bases members user + if user = m.userID then m.baseLimit else 0) := Finset.sum_le_sum hbase
      _ = ∑ user ∈ users, bases members user + ∑ user ∈ users, if user = m.userID then m.baseLimit else 0 :=
          Finset.sum_add_distrib
      _ ≤ reserved members + m.baseLimit := add_le_add hprev hlast
      _ = reserved (members ++ [m]) := (reserved_append members m).symm

end Members

section Policies

/-- An account limit and the members of an enabled policy, as `UpdatePlanConcurrency` validates them. -/
structure Policy where
  maxConcurrency : ℤ
  members : List MemberLimit
  distinct : (members.map MemberLimit.userID).Nodup
  base_nonneg : ∀ m ∈ members, 0 ≤ m.baseLimit
  base_le : ∀ m ∈ members, m.maxConcurrency = 0 ∨ m.baseLimit ≤ m.maxConcurrency
  limited : 0 < maxConcurrency
  fits : reserved members ≤ maxConcurrency

lemma reserved_filter_le {members : List MemberLimit} (hdistinct : (members.map MemberLimit.userID).Nodup)
    (hnonneg : ∀ m ∈ members, 0 ≤ m.baseLimit) (gone : String) :
    reserved (members.filter fun m => m.userID ≠ gone) ≤ reserved members := by
  have := bases_nonneg hnonneg gone
  rw [reserved_filter hdistinct]
  omega

/-- The policy after a member has left. -/
def Policy.drop (p : Policy) (userID : String) : Policy where
  maxConcurrency := p.maxConcurrency
  members := p.members.filter fun m => m.userID ≠ userID
  distinct := p.distinct.sublist (List.filter_sublist.map _)
  base_nonneg := fun m hm => p.base_nonneg m (List.mem_of_mem_filter hm)
  base_le := fun m hm => p.base_le m (List.mem_of_mem_filter hm)
  limited := p.limited
  fits := (reserved_filter_le p.distinct p.base_nonneg userID).trans p.fits

/-- What a request of a user is admitted with; the account has no request limit. -/
def Policy.credential (p : Policy) (caller : Caller) : Credential := ⟨caller, p.maxConcurrency, 0, ⟨true, p.members⟩⟩

variable {p : Policy} {active : Counter String} {caller : Caller}

lemma admitMember_of_own {m : MemberLimit} (hown : own caller.userID p.members = some m) :
    admitMemberConcurrency active (p.credential caller) =
      if 0 < m.maxConcurrency ∧ m.maxConcurrency ≤ active.get m.userID then .error .memberConcurrency
      else if active.get m.userID < m.baseLimit then .ok ()
      else if p.maxConcurrency - reserved p.members ≤ sharedUsed (bases p.members) active then .error .memberConcurrency
      else .ok () := by
  have hfits := p.fits
  have hlimited := p.limited
  have hconfigured : ¬ (p.maxConcurrency ≤ 0 ∨ p.maxConcurrency < reserved p.members) := by omega
  simp only [admitMemberConcurrency, Policy.credential, hown, hconfigured, if_true, if_false]
  rfl

/-- The member check in the terms of the reservation. -/
lemma admitMember_ok (h : admitMemberConcurrency active (p.credential caller) = .ok ()) :
    ∃ m ∈ p.members, m.userID = caller.userID ∧ (0 < m.maxConcurrency → active.get caller.userID < m.maxConcurrency) ∧
      (active.get caller.userID < bases p.members caller.userID ∨
        sharedUsed (bases p.members) active < p.maxConcurrency - reserved p.members) := by
  cases hown : own caller.userID p.members with
  | none => simp [admitMemberConcurrency, Policy.credential, hown] at h
  | some m =>
    obtain ⟨hm, huser⟩ := own_some hown
    have hbase : bases p.members caller.userID = m.baseLimit := by
      rw [bases_eq_own, hown]
      rfl
    rw [admitMember_of_own hown, huser] at h
    refine ⟨m, hm, huser, ?_, ?_⟩
    · intro hpos
      split_ifs at h <;> omega
    · rw [hbase]
      split_ifs at h <;> omega

/-- A member below its base passes the check. -/
lemma admitMember_of_below {m : MemberLimit} (hm : m ∈ p.members) (huser : m.userID = caller.userID)
    (hbelow : active.get m.userID < m.baseLimit) : admitMemberConcurrency active (p.credential caller) = .ok () := by
  have hown : own caller.userID p.members = some m := by
    rw [← huser]
    exact own_of_mem p.distinct hm
  have hmax := p.base_le m hm
  have hpersonal : ¬ (0 < m.maxConcurrency ∧ m.maxConcurrency ≤ active.get m.userID) := by omega
  rw [admitMember_of_own hown, if_neg hpersonal, if_pos hbelow]

end Policies

section Runs

structure Pool where
  system : System
  policy : Policy

/-- A gateway request of a user is admitted or refused under the policy of the moment, it is committed or released,
or a member leaves the policy. -/
inductive PoolStep
  | prepareGateway (plan : String) (generation : ℤ) (userID username : String) (now : ℤ)
  | commit (i : ℕ)
  | release (i : ℕ) (now : ℤ)
  | drop (userID : String)
  deriving DecidableEq, Repr

def poolStep (account : String) (p : Pool) : PoolStep → Option Pool
  | .prepareGateway plan generation userID username now =>
    (prepareGateway p.system.controller (p.policy.credential ⟨⟨account, plan, generation⟩, userID, username⟩) now).map
      fun out => { p with system := p.system.arrival out.1 out.2 }
  | .commit i => (step p.system (.commit i)).map fun s => { p with system := s }
  | .release i now => (step p.system (.release i now)).map fun s => { p with system := s }
  | .drop userID => some { p with policy := p.policy.drop userID }

def poolRun (account : String) (p : Pool) : List PoolStep → Option Pool
  | [] => some p
  | a :: steps => (poolStep account p a).bind fun p => poolRun account p steps

/-- The requests of a user that are in flight. -/
def held (account : String) (s : System) (user : String) : ℤ := tally (inFlightOf account user) s.requests

/-- Every request in flight is of a user, the account is not quiesced, and the pool is not exceeded. -/
structure Shared (account : String) (p : Pool) : Prop where
  sound : Sound p.system
  named : ∀ r ∈ p.system.requests, inFlight account r = true → r.user ≠ none
  free : ∀ q ∈ p.system.quiescers, account ∉ flaggedAccounts q
  pool : Fits (bases p.policy.members) (held account p.system) (p.policy.maxConcurrency - reserved p.policy.members)
  maxima : ∀ m ∈ p.policy.members, 0 < m.maxConcurrency → held account p.system m.userID ≤ m.maxConcurrency
  limit : tally (inFlight account) p.system.requests ≤ p.policy.maxConcurrency

variable {account : String} {p : Pool}

/-- The requests in flight, user by user. -/
lemma tally_eq_sum {l : List Request} {users : Finset String}
    (h : ∀ r ∈ l, inFlight account r = true → ∃ user ∈ users, r.user = some user) :
    tally (inFlight account) l = ∑ user ∈ users, tally (inFlightOf account user) l := by
  induction l with
  | nil => simp [tally]
  | cons r l ih =>
    have hl := ih fun x hx => h x (List.mem_cons_of_mem r hx)
    have hr : (if inFlight account r then 1 else 0 : ℤ) =
        ∑ user ∈ users, if inFlightOf account user r then 1 else 0 := by
      by_cases hlive : inFlight account r = true
      · obtain ⟨user, hmem, huser⟩ := h r List.mem_cons_self hlive
        have hone : ∀ b ∈ users, (if inFlightOf account b r then 1 else 0 : ℤ) = if b = user then 1 else 0 := by
          intro b _
          simp [inFlightOf, hlive, huser, eq_comm]
        rw [Finset.sum_congr rfl hone, Finset.sum_ite_eq', if_pos hmem, if_pos hlive]
      · have hzero : ∀ b ∈ users, (if inFlightOf account b r then 1 else 0 : ℤ) = 0 := by
          intro b _
          simp [inFlightOf, hlive]
        rw [Finset.sum_eq_zero hzero, if_neg hlive]
    have hcons : ∀ p : Request → Bool, tally p (r :: l) = tally p l + if p r then 1 else 0 := by
      intro p
      unfold tally
      rw [List.countP_cons]
      split_ifs <;> simp
    rw [hcons, hl, hr, ← Finset.sum_add_distrib]
    exact Finset.sum_congr rfl fun b _ => (hcons _).symm

/-- What the member check adds up is the excess of all users. -/
lemma sharedUsed_bounds {active : Counter String} {base : String → ℤ} (hnonneg : ∀ user, 0 ≤ base user) {pool : ℤ}
    (h : sharedUsed base active < pool) : Fits base active.get (pool - 1) := by
  intro users
  have hrest : ∀ user, user ∉ active.keys.toFinset → excess base active.get user = 0 := by
    intro user hnot
    have hmem : user ∉ active := fun hmem => hnot (List.mem_toFinset.mpr (AList.mem_keys.mp hmem))
    have := hnonneg user
    rw [excess, Counter.get_of_notMem hmem]
    omega
  have hle := sum_excess_le (s := users) hrest
  rw [sharedUsed, Counter.sumBy_eq_sum] at h
  have hsame : ∑ user ∈ active.keys.toFinset, excess base active.get user =
      ∑ user ∈ active.keys.toFinset, max 0 (active.get user - base user) := rfl
  omega

lemma Shared.found_free (h : Shared account p) (now : ℤ) : (found p.system.controller account now).quiescing = false := by
  obtain ⟨hsound, hstate⟩ := h.sound.looksUp account now
  by_contra hflag
  have hflag : (found p.system.controller account now).quiescing = true := by simpa using hflag
  obtain ⟨q, hq, hmem⟩ := hsound.flag_owner hstate hflag
  exact h.free q hq hmem

/-- The counts that an arrival finds are those of the requests in flight. -/
lemma Shared.found_counts (h : Shared account p) (now : ℤ) :
    (found p.system.controller account now).activeMembers.get = held account p.system :=
  funext (h.sound.found_accounts account now).members

/-- What an arrival is checked for. -/
lemma check_gateway {state : TrafficState} {policy : Policy} {caller : Caller} {now : ℤ} :
    state.check policy.maxConcurrency 0 now true (some (policy.credential caller)) =
      if policy.maxConcurrency ≤ state.activeRequests then .error .accountConcurrency
      else admitMemberConcurrency state.activeMembers (policy.credential caller) := by
  simp [TrafficState.check, policy.limited]

/-- An admitted request takes a base or a place of the pool, and the account has room for it. -/
lemma Shared.enters (h : Shared account p) {caller : Caller} (haccount : caller.key.account = account) {now : ℤ}
    {c : Controller} {r : Request}
    (hcall : prepareGateway p.system.controller (p.policy.credential caller) now = some (c, .ok r)) :
    Shared account { p with system := p.system.arrival c (.ok r) } := by
  obtain ⟨R, hT⟩ := h.sound.tracked
  obtain ⟨c₁, result, hcall₁, hsound⟩ :=
    h.sound.arrives account p.policy.maxConcurrency 0 now true (some (p.policy.credential caller))
  obtain ⟨c₂, result₂, -, hcall₂, -, -, -, -, hresult⟩ := prepareRequest_spec h.sound.wired hT h.sound.counted account
    p.policy.maxConcurrency 0 now true (some (p.policy.credential caller))
  have hgateway : prepareRequest p.system.controller account p.policy.maxConcurrency 0 now true
      (some (p.policy.credential caller)) = some (c, .ok r) := haccount ▸ hcall
  rw [hgateway] at hcall₁ hcall₂
  cases hcall₁
  cases hcall₂
  obtain ⟨-, -, ⟨o, rfl⟩, hcheck⟩ := hresult
  obtain ⟨hactive, hmembers, -⟩ := arrive_frame (found p.system.controller account now) now true
  rw [check_gateway, hactive, hmembers, (h.sound.found_accounts account now).active] at hcheck
  split_ifs at hcheck with hfull
  dsimp only at hfull
  obtain ⟨m, hm, huser, hmax, hplace⟩ := admitMember_ok hcheck
  rw [h.found_counts] at hmax hplace
  -- The request that enters counts for its user only.
  have hcounts : ∀ user, held account (p.system.arrival c (.ok ⟨account, o, truncate now, true,
      some (p.policy.credential caller), false, false⟩)) user =
        held account p.system user + if user = caller.userID then 1 else 0 := by
    intro user
    simp only [held, System.arrival]
    rw [tally_append]
    simp [inFlightOf, inFlight, Request.user, Policy.credential, eq_comm]
  refine ⟨hsound, ?_, h.free, ?_, ?_, ?_⟩
  · intro x hx hlive
    rcases List.mem_append.mp hx with hx | hx
    · exact h.named x hx hlive
    · rw [List.mem_singleton.mp hx]
      simp [Request.user]
  · rcases hplace with hbase | hpool
    · exact h.pool.enter_base hcounts hbase
    · have hfits := sharedUsed_bounds (bases_nonneg p.policy.base_nonneg) hpool
      rw [h.found_counts] at hfits
      exact hfits.enter_pool hcounts
  · intro x hx hpos
    rw [hcounts]
    split_ifs with hsame
    · have hown := own_of_mem p.policy.distinct hx
      rw [hsame, ← huser, own_of_mem p.policy.distinct hm] at hown
      cases hown
      have := hmax hpos
      rw [hsame]
      omega
    · rw [add_zero]
      exact h.maxima x hx hpos
  · simp only [System.arrival]
    rw [tally_append]
    split_ifs <;> omega

/-- Callbacks keep whose request it is, and a request that was released stays so. -/
lemma Shared.keeps (h : Shared account p) {s : System} {i : ℕ} {r r' : Request} (hget : p.system.requests[i]? = some r)
    (hsound : Sound s) (hrequests : s.requests = p.system.requests.set i r') (hquiescers : s.quiescers = p.system.quiescers)
    (haccount : r'.account = r.account) (hcredential : r'.credential = r.credential)
    (hreleased : r.released = true → r'.released = true) : Shared account { p with system := s } := by
  have hlive : inFlight account r' = true → inFlight account r = true := by
    simp only [inFlight, haccount, decide_eq_true_eq]
    intro hr
    refine ⟨hr.1, ?_⟩
    by_contra hdone
    rw [hreleased (by simpa using hdone)] at hr
    exact absurd hr.2 (by simp)
  have huser : r'.user = r.user := by rw [Request.user, Request.user, hcredential]
  have hfewer : ∀ q : Request → Bool, (q r' = true → q r = true) → tally q s.requests ≤ tally q p.system.requests := by
    intro q hq
    rw [hrequests, tally_set hget]
    by_cases hq' : q r' = true
    · rw [if_pos hq', if_pos (hq hq')]
      omega
    · rw [if_neg hq']
      split_ifs <;> omega
  have hheld : ∀ user, held account s user ≤ held account p.system user := by
    intro user
    apply hfewer
    simp only [inFlightOf, huser, decide_eq_true_eq]
    exact fun hr => ⟨hlive hr.1, hr.2⟩
  refine ⟨hsound, ?_, ?_, h.pool.of_le hheld, ?_, (hfewer _ hlive).trans h.limit⟩
  · intro x hx hx'
    have hx : x ∈ s.requests := hx
    rw [hrequests] at hx
    rcases List.mem_or_eq_of_mem_set hx with hx | hx
    · exact h.named x hx hx'
    · rw [hx, huser]
      rw [hx] at hx'
      exact h.named r (List.mem_of_getElem? hget) (hlive hx')
  · intro q hq
    have hq : q ∈ s.quiescers := hq
    rw [hquiescers] at hq
    exact h.free q hq
  · intro m hm hpos
    exact (hheld m.userID).trans (h.maxima m hm hpos)

lemma commit_request (c : Controller) (r : Request) :
    (commit c r).2.account = r.account ∧ (commit c r).2.credential = r.credential ∧
      (commit c r).2.released = r.released := by
  unfold commit
  split_ifs
  · exact ⟨rfl, rfl, rfl⟩
  · exact ⟨rfl, rfl, rfl⟩

lemma release_request {c c' : Controller} {r r' : Request} {now : ℤ} (h : release c r now = some (c', r')) :
    r'.account = r.account ∧ r'.credential = r.credential ∧ r'.released = true := by
  unfold release at h
  split_ifs at h with hdone
  · cases h
    exact ⟨rfl, rfl, hdone⟩
  · obtain ⟨history, -, h⟩ := Option.bind_eq_some_iff.mp h
    obtain ⟨c₁, -, h⟩ := Option.bind_eq_some_iff.mp h
    obtain ⟨c₂, -, h⟩ := Option.map_eq_some_iff.mp h
    cases h
    exact ⟨rfl, rfl, rfl⟩

/-- A member that leaves takes its requests to the pool, which grows by its base. -/
lemma Shared.drops (h : Shared account p) (userID : String) :
    Shared account { p with policy := p.policy.drop userID } := by
  refine ⟨h.sound, h.named, h.free, ?_, ?_, h.limit⟩
  · have hpool := h.pool.drop (bases_filter p.policy.members userID) (tally_nonneg _ p.system.requests)
    have hroom : (p.policy.drop userID).maxConcurrency - reserved (p.policy.drop userID).members =
        p.policy.maxConcurrency - reserved p.policy.members + bases p.policy.members userID := by
      simp only [Policy.drop]
      rw [reserved_filter p.policy.distinct]
      omega
    rw [hroom]
    exact hpool
  · intro m hm hpos
    exact h.maxima m (List.mem_of_mem_filter hm) hpos

lemma poolStep_shared (h : Shared account p) (a : PoolStep) :
    ∃ p', poolStep account p a = some p' ∧ Shared account p' := by
  cases a with
  | prepareGateway plan generation userID username now =>
    obtain ⟨c, result, hcall, hsound⟩ := h.sound.arrives account p.policy.maxConcurrency 0 now true
      (some (p.policy.credential ⟨⟨account, plan, generation⟩, userID, username⟩))
    have hcall : prepareGateway p.system.controller
        (p.policy.credential ⟨⟨account, plan, generation⟩, userID, username⟩) now = some (c, result) := hcall
    refine ⟨_, by rw [poolStep, hcall, Option.map_some], ?_⟩
    cases result with
    | error e => exact ⟨hsound, h.named, h.free, h.pool, h.maxima, h.limit⟩
    | ok r => exact h.enters rfl hcall
  | commit i =>
    cases hget : p.system.requests[i]? with
    | none => exact ⟨p, by simp only [poolStep, step, hget, Option.map_some], h⟩
    | some r =>
      obtain ⟨haccount, hcredential, hreleased⟩ := commit_request p.system.controller r
      exact ⟨_, by simp only [poolStep, step, hget, Option.map_some],
        h.keeps hget (h.sound.commits hget) rfl rfl haccount hcredential hreleased.trans⟩
  | release i now =>
    cases hget : p.system.requests[i]? with
    | none => exact ⟨p, by simp only [poolStep, step, hget, Option.map_some], h⟩
    | some r =>
      obtain ⟨c, r', hcall, hsound⟩ := h.sound.leaves hget now
      obtain ⟨haccount, hcredential, hreleased⟩ := release_request hcall
      exact ⟨_, by simp only [poolStep, step, hget, hcall, Option.map_some],
        h.keeps hget hsound rfl rfl haccount hcredential fun _ => hreleased⟩
  | drop userID => exact ⟨_, rfl, h.drops userID⟩

lemma poolRun_shared (steps : List PoolStep) (h : Shared account p) :
    ∃ p', poolRun account p steps = some p' ∧ Shared account p' := by
  induction steps generalizing p with
  | nil => exact ⟨p, rfl, h⟩
  | cons a steps ih =>
    obtain ⟨p₁, hstep, h₁⟩ := poolStep_shared h a
    obtain ⟨p₂, hrun, h₂⟩ := ih h₁
    exact ⟨p₂, by rw [poolRun, hstep, Option.bind_some, hrun], h₂⟩

/-- The policy changes by the members that leave. -/
lemma poolStep_policy {p' : Pool} {a : PoolStep} (h : poolStep account p a = some p') :
    p'.policy.maxConcurrency = p.policy.maxConcurrency ∧
      ∀ m, m ∈ p'.policy.members ↔ m ∈ p.policy.members ∧ a ≠ .drop m.userID := by
  cases a with
  | drop userID =>
    cases h
    refine ⟨rfl, ?_⟩
    intro m
    simp only [Policy.drop, List.mem_filter, decide_eq_true_eq, ne_eq, PoolStep.drop.injEq]
    rw [eq_comm (a := userID)]
  | _ =>
    obtain ⟨x, -, rfl⟩ := Option.map_eq_some_iff.mp h
    exact ⟨rfl, fun m => by simp⟩

lemma poolRun_policy {p' : Pool} {steps : List PoolStep} (h : poolRun account p steps = some p') :
    p'.policy.maxConcurrency = p.policy.maxConcurrency ∧
      ∀ m, m ∈ p'.policy.members ↔ m ∈ p.policy.members ∧ PoolStep.drop m.userID ∉ steps := by
  induction steps generalizing p with
  | nil =>
    cases h
    exact ⟨rfl, fun m => by simp⟩
  | cons a steps ih =>
    obtain ⟨p₁, hstep, hrun⟩ := Option.bind_eq_some_iff.mp h
    obtain ⟨hmax, hmembers⟩ := poolStep_policy hstep
    obtain ⟨hmax', hmembers'⟩ := ih hrun
    refine ⟨hmax'.trans hmax, ?_⟩
    intro m
    rw [hmembers', hmembers, List.mem_cons, not_or, eq_comm, and_assoc]

/-- A member below its base finds a place at the account as well. -/
lemma Shared.room (h : Shared account p) {m : MemberLimit} (hm : m ∈ p.policy.members)
    (hbelow : held account p.system m.userID < m.baseLimit) :
    tally (inFlight account) p.system.requests < p.policy.maxConcurrency := by
  have hbase : bases p.policy.members m.userID = m.baseLimit := by
    rw [bases_eq_own, own_of_mem p.policy.distinct hm]
    rfl
  obtain ⟨users, hmem, hnamed⟩ : ∃ users : Finset String, m.userID ∈ users ∧
      ∀ r ∈ p.system.requests, inFlight account r = true → ∃ user ∈ users, r.user = some user := by
    refine ⟨insert m.userID (p.system.requests.filterMap Request.user).toFinset, Finset.mem_insert_self _ _, ?_⟩
    intro r hr hlive
    obtain ⟨user, huser⟩ := Option.ne_none_iff_exists'.mp (h.named r hr hlive)
    refine ⟨user, Finset.mem_insert_of_mem ?_, huser⟩
    rw [List.mem_toFinset, List.mem_filterMap]
    exact ⟨r, hr, huser⟩
  have hlt := h.pool.sum_lt hmem (by rw [hbase]; exact hbelow)
  have hreserved := sum_bases_le p.policy.distinct p.policy.base_nonneg users
  have htotal : tally (inFlight account) p.system.requests = ∑ user ∈ users, held account p.system user :=
    tally_eq_sum hnamed
  omega

/-- A member below its base is admitted at once. -/
lemma Shared.admits (h : Shared account p) {m : MemberLimit} (hm : m ∈ p.policy.members)
    (hbelow : held account p.system m.userID < m.baseLimit) (plan : String) (generation : ℤ) (username : String) (now : ℤ) :
    ∃ c r, prepareGateway p.system.controller
      (p.policy.credential ⟨⟨account, plan, generation⟩, m.userID, username⟩) now = some (c, .ok r) := by
  obtain ⟨R, hT⟩ := h.sound.tracked
  obtain ⟨c, result, -, hcall, -, -, -, -, hresult⟩ := prepareRequest_spec h.sound.wired hT h.sound.counted account
    p.policy.maxConcurrency 0 now true (some (p.policy.credential ⟨⟨account, plan, generation⟩, m.userID, username⟩))
  cases result with
  | ok r => exact ⟨c, r, hcall⟩
  | error e =>
    exfalso
    obtain ⟨hactive, hmembers, -⟩ := arrive_frame (found p.system.controller account now) now true
    have hroom := h.room hm hbelow
    rcases hresult.2 with ⟨hflag, -⟩ | hcheck
    · rw [h.found_free now] at hflag
      cases hflag
    · rw [check_gateway, hactive, hmembers, (h.sound.found_accounts account now).active, if_neg (not_le.mpr hroom),
        admitMember_of_below hm rfl (by rw [h.found_counts]; exact hbelow)] at hcheck
      cases hcheck

/-- From an account without requests in flight. -/
lemma shared_start {s : System} (policy : Policy) (hsound : Sound s) (hidle : tally (inFlight account) s.requests = 0)
    (hfree : ∀ q ∈ s.quiescers, account ∉ flaggedAccounts q) : Shared account ⟨s, policy⟩ := by
  have hnone : ∀ r ∈ s.requests, inFlight account r = false := by
    intro r hr
    by_contra hlive
    have := tally_pos hr (by simpa using hlive)
    omega
  have hheld : ∀ user, held account s user = 0 := by
    intro user
    refine tally_eq_zero fun r hr => ?_
    simp [inFlightOf, hnone r hr]
  refine ⟨hsound, ?_, hfree, ?_, ?_, ?_⟩
  · intro r hr hlive
    rw [hnone r hr] at hlive
    cases hlive
  · intro users
    have hzero : ∀ user ∈ users, excess (bases policy.members) (held account s) user = 0 := by
      intro user _
      have := bases_nonneg policy.base_nonneg user
      rw [excess, hheld]
      omega
    rw [Finset.sum_eq_zero hzero]
    have := policy.fits
    dsimp only
    omega
  · intro m _ hpos
    rw [hheld]
    exact hpos.le
  · rw [hidle]
    exact policy.limited.le

/-- In every state that gateway requests under a policy reach from an idle account, what the users have beyond
their bases fits the pool, no member is over a maximum of its own, the account is not over its limit, and a member
below its base is admitted at once. Members may leave in the meantime: their base is given to the pool, which their
requests are then counted against. -/
theorem reserved_base_available (instanceID account : String) (before : List Step) (s : System) (policy : Policy)
    (steps : List PoolStep) (hstart : run (initial instanceID) before = some s)
    (hidle : tally (inFlight account) s.requests = 0) (hfree : ∀ q ∈ s.quiescers, account ∉ flaggedAccounts q) :
    ∃ p, poolRun account ⟨s, policy⟩ steps = some p ∧
      p.policy.maxConcurrency = policy.maxConcurrency ∧
      (∀ m, m ∈ p.policy.members ↔ m ∈ policy.members ∧ PoolStep.drop m.userID ∉ steps) ∧
      (∀ user, PoolStep.drop user ∈ steps → bases p.policy.members user = 0) ∧
      (∀ users : Finset String, ∑ user ∈ users,
        max 0 (tally (inFlightOf account user) p.system.requests - bases p.policy.members user) ≤
          p.policy.maxConcurrency - reserved p.policy.members) ∧
      (∀ m ∈ p.policy.members, 0 < m.maxConcurrency →
        tally (inFlightOf account m.userID) p.system.requests ≤ m.maxConcurrency) ∧
      tally (inFlight account) p.system.requests ≤ p.policy.maxConcurrency ∧
      ∀ m ∈ p.policy.members, tally (inFlightOf account m.userID) p.system.requests < m.baseLimit →
        ∀ plan generation username now, ∃ c r, prepareGateway p.system.controller
          (p.policy.credential ⟨⟨account, plan, generation⟩, m.userID, username⟩) now = some (c, .ok r) := by
  obtain ⟨s', hrun, hsound⟩ := run_sound before (sound_initial instanceID)
  rw [hstart] at hrun
  cases hrun
  obtain ⟨p, hpool, h⟩ := poolRun_shared steps (shared_start policy hsound hidle hfree)
  obtain ⟨hmax, hmembers⟩ := poolRun_policy hpool
  refine ⟨p, hpool, hmax, hmembers, ?_, h.pool, h.maxima, h.limit, ?_⟩
  · intro user hdrop
    rw [bases_eq_own, own_none]
    · rfl
    · intro m hm heq
      exact ((hmembers m).mp hm).2 (heq ▸ hdrop)
  · intro m hm hbelow plan generation username now
    exact h.admits hm hbelow plan generation username now

/-- Two members with a base of one each, and a pool of one. -/
def twoMembers : Policy where
  maxConcurrency := 3
  members := [⟨"a", 1, 0⟩, ⟨"b", 1, 2⟩]
  distinct := by decide
  base_nonneg := by decide
  base_le := by decide
  limited := by decide
  fits := by decide

theorem reserved_base_available_twoMembers :
    ∃ p, poolRun "account" ⟨initial "instance", twoMembers⟩
        [.prepareGateway "plan" 1 "a" "A" 0, .prepareGateway "plan" 1 "a" "A" 1, .release 0 2, .drop "a"] = some p ∧
      tally (inFlight "account") p.system.requests ≤ p.policy.maxConcurrency := by
  obtain ⟨p, hrun, -, -, -, -, -, hlimit, -⟩ := reserved_base_available "instance" "account" [] (initial "instance")
    twoMembers [.prepareGateway "plan" 1 "a" "A" 0, .prepareGateway "plan" 1 "a" "A" 1, .release 0 2, .drop "a"] rfl rfl
    (by intro q hq; cases hq)
  exact ⟨p, hrun, hlimit⟩

end Runs

end ShareSub.TrafficPool

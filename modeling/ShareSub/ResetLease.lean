import ShareSub.VoteSafety

/-!
# Exclusion of quota-reset executions

A plan with the leases its executors still hold. An executor reserves, consumes a credit
upstream and releases with its own operation id; one that crashes never releases. The time is
the latest instant any call has read, so calls may commit out of the order of their clocks.
-/
namespace ShareSub.ResetLease
open PlanModel VoteModel VoteSafety Transaction

/-- The leases that were granted and not yet released by the executor that holds them. -/
structure History where
  state : VoteState
  outstanding : List Lease
  clock : ℤ

/-- The lease that a call asks for. -/
def grantOf : VoteOp → Option Lease
  | .reserveManual operationID accountID generation _ now => some ⟨operationID, accountID, generation, none, now⟩
  | .reserveVoted operationID accountID generation voteID now =>
    some ⟨operationID, accountID, generation, some voteID, now⟩
  | _ => none

def afterRelease (op : VoteOp) (leases : List Lease) : List Lease :=
  match op with
  | .release operationID _ => leases.filter fun l => l.operationID ≠ operationID
  | _ => leases

def historyStep (h : History) (op : VoteOp) : Except DomainError History :=
  (perform h.state op).map fun result =>
    { state := result.1
      outstanding := afterRelease op h.outstanding ++ (grantOf op).toList
      clock := max h.clock op.now }

/-- Every executor draws an operation id of its own. -/
def FreshID (h : History) (op : VoteOp) : Prop :=
  ∀ l ∈ grantOf op, l.operationID ∉ h.outstanding.map Lease.operationID

instance (h : History) (op : VoteOp) : Decidable (FreshID h op) := by
  unfold FreshID
  infer_instance

def HistoryStep (h : History) (op : VoteOp) (k : History) : Prop := historyStep h op = .ok k ∧ FreshID h op

/-- What a committed call does to the lease of the plan. -/
inductive LeaseMove (s : VoteState) (op : VoteOp) (t : VoteState) : Prop
  | kept (hgrant : grantOf op = none) (hrelease : ∀ leases, afterRelease op leases = leases)
      (hlease : t.lease = s.lease) (hlength : t.votes.rows.length = s.votes.rows.length)
  | cleared (hgrant : grantOf op = none) (hrelease : ∀ leases, afterRelease op leases = leases)
      (hexpired : ∀ l ∈ s.lease, l.acquiredAt ≤ op.now - quotaResetExecutionLeaseTTL) (hlease : t.lease = none)
  | manual {l : Lease} (hgrant : grantOf op = some l) (hrelease : ∀ leases, afterRelease op leases = leases)
      (hexpired : ∀ l ∈ s.lease, l.acquiredAt ≤ op.now - quotaResetExecutionLeaseTTL)
      (hlease : t.lease = some l) (hvote : l.voteID = none) (hterminal : ∀ w ∈ t.votes.rows, Terminal w.status)
  | voted {l : Lease} {v : Vote} (hgrant : grantOf op = some l)
      (hrelease : ∀ leases, afterRelease op leases = leases)
      (hexpired : ∀ l ∈ s.lease, l.acquiredAt ≤ op.now - quotaResetExecutionLeaseTTL)
      (hlease : t.lease = some l) (hvote : l.voteID = some v.id) (hbinding : bindingMatches s.plan l)
      (hv : v ∈ s.votes.rows) (hexec : v.status = .executing) (haccount : v.accountID = l.accountID)
      (hgeneration : v.generation = l.generation)
  | released {id : String} (hgrant : grantOf op = none)
      (hrelease : ∀ leases, afterRelease op leases = leases.filter fun l => l.operationID ≠ id)
      (hlease : t.lease = s.lease.filter fun l => l.operationID ≠ id) (hvotes : t.votes = s.votes)

section Moves

variable {s t : VoteState} {op : VoteOp} {reply : Reply}

lemma reject_eq_ok {now : ℤ} {lease : Option Lease} (h : rejectActiveQuotaResetExecution now lease = .ok ()) :
    ∀ l ∈ lease, l.acquiredAt ≤ now - quotaResetExecutionLeaseTTL :=
  ensure_eq_ok.mp h

/-- Once the active votes are cancelled and none is executing, every vote is closed. -/
lemma cancelActive_terminal {reason : String} {now : ℤ} {v : Vote} (h : v.status ≠ .executing) :
    Terminal (cancelActive reason now v).status := by
  unfold cancelActive
  split_ifs with hactive
  · simp [Terminal]
  · exact ⟨hactive, h⟩

lemma cast_length {voteID userID : String} {choice : Choice} {now : ℤ}
    (h : castQuotaResetVote voteID userID choice now s = .ok (t, reply)) :
    t.lease = s.lease ∧ t.votes.rows.length = s.votes.rows.length := by
  simp only [castQuotaResetVote, orFail_bind_eq_ok] at h
  obtain ⟨vote, -, h⟩ := h
  by_cases hclosed : vote.status ≠ .active ∨ vote.expiresAt ≤ now
  · simp only [if_pos hclosed, commit_eq_ok, Prod.mk.injEq] at h
    obtain ⟨rfl, -⟩ := h
    simp [reconcileQuotaResetVote]
  · simp only [if_neg hclosed, check_bind_eq_ok, commit_eq_ok, Prod.mk.injEq] at h
    obtain ⟨-, rfl, -⟩ := h
    refine ⟨rfl, ?_⟩
    split_ifs <;> simp [reconcileQuotaResetVote]

lemma perform_lease (h : perform s op = .ok (t, reply)) : LeaseMove s op t := by
  cases op with
  | create voteID userID now expiresAt =>
    simp only [perform, createQuotaResetVote, check_bind_eq_ok, orFail_bind_eq_ok, commit_eq_ok,
      Prod.mk.injEq] at h
    obtain ⟨-, accountID, -, hreject, initiator, -, -, -, votes, -, rfl, -⟩ := h
    exact LeaseMove.cleared rfl (fun _ => rfl) (reject_eq_ok hreject) rfl
  | cast voteID userID choice now =>
    obtain ⟨hlease, hlength⟩ := cast_length h
    exact LeaseMove.kept rfl (fun _ => rfl) hlease hlength
  | read userID now =>
    simp only [perform, quotaResetVote, check_bind_eq_ok, commit_eq_ok, Prod.mk.injEq] at h
    obtain ⟨-, rfl, -⟩ := h
    exact LeaseMove.kept rfl (fun _ => rfl) rfl (by simp [reconcileQuotaResetVote])
  | complete voteID status windowsReset resultCode now =>
    simp only [perform, completeQuotaResetVote, check_bind_eq_ok, commit_eq_ok, Prod.mk.injEq] at h
    obtain ⟨-, -, rfl, -⟩ := h
    exact LeaseMove.kept rfl (fun _ => rfl) rfl (by simp)
  | reserveManual operationID accountID generation reason now =>
    simp only [perform, reserveManualQuotaReset, check_bind_eq_ok, ensure_eq_ok, commit_eq_ok,
      Prod.mk.injEq] at h
    obtain ⟨-, hreject, hnone, rfl, -⟩ := h
    refine LeaseMove.manual rfl (fun _ => rfl) (reject_eq_ok hreject) rfl rfl ?_
    intro w hw
    obtain ⟨v, hv, rfl⟩ := List.mem_map.mp hw
    exact cancelActive_terminal fun hexec => hnone ⟨v, hv, hexec⟩
  | reserveVoted operationID accountID generation voteID now =>
    simp only [perform, reserveVotedQuotaReset, check_bind_eq_ok, ensure_eq_ok, commit_eq_ok,
      Prod.mk.injEq] at h
    obtain ⟨hbinding, hreject, ⟨v, hv, rfl, haccount, hgeneration, hexec⟩, rfl, -⟩ := h
    exact LeaseMove.voted rfl (fun _ => rfl) (reject_eq_ok hreject) rfl rfl hbinding hv hexec haccount hgeneration
  | release operationID now =>
    simp only [perform, Except.ok.injEq, Prod.mk.injEq] at h
    obtain ⟨rfl, -⟩ := h
    exact LeaseMove.released rfl (fun _ => rfl) rfl rfl
  | changePlan plan now =>
    simp only [perform, Except.ok.injEq, Prod.mk.injEq] at h
    obtain ⟨rfl, -⟩ := h
    exact LeaseMove.kept rfl (fun _ => rfl) rfl rfl

/-- Closed votes stay closed as long as none is added. -/
lemma terminal_of_length (h : perform s op = .ok (t, reply))
    (hlength : t.votes.rows.length = s.votes.rows.length) (hs : ∀ v ∈ s.votes.rows, Terminal v.status) :
    ∀ w ∈ t.votes.rows, Terminal w.status := by
  have hmove := perform_moves h
  generalize t.votes.rows = rows at hmove hlength
  intro w hw
  cases hmove with
  | quiet hadv _ _ =>
    obtain ⟨v, hv, rfl⟩ := List.mem_map.mp hw
    rw [(hadv v).terminal (hs v hv)]
    exact hs v hv
  | opened => simp at hlength
  | passed _ hv hactive _ _ _ => exact absurd hactive (hs _ hv).1

end Moves

section Invariant

/-- The lease row is the only outstanding lease that is not yet expired, and a manual one
leaves no vote open. -/
structure Held (h : History) : Prop where
  current : ∀ g ∈ h.outstanding, h.clock - quotaResetExecutionLeaseTTL < g.acquiredAt → h.state.lease = some g
  recorded : ∀ l ∈ h.state.lease, l ∈ h.outstanding
  distinct : (h.outstanding.map Lease.operationID).Nodup
  closed : ∀ l ∈ h.state.lease, l.voteID = none → h.clock - quotaResetExecutionLeaseTTL < l.acquiredAt →
    ∀ v ∈ h.state.votes.rows, Terminal v.status

variable {h k : History} {op : VoteOp}

/-- When an expired row is all that stands, every outstanding lease is expired. -/
lemma Held.all_expired (hh : Held h) {now : ℤ}
    (hexpired : ∀ l ∈ h.state.lease, l.acquiredAt ≤ now - quotaResetExecutionLeaseTTL) :
    ∀ g ∈ h.outstanding, g.acquiredAt ≤ max h.clock now - quotaResetExecutionLeaseTTL := by
  intro g hg
  by_cases hlive : h.clock - quotaResetExecutionLeaseTTL < g.acquiredAt
  · have := hexpired g (hh.current g hg hlive)
    omega
  · omega

/-- A grant onto an expired row. -/
lemma Held.grant (hh : Held h) {t : VoteState} {l : Lease} (hgrant : grantOf op = some l) (hfresh : FreshID h op)
    (hexpired : ∀ l ∈ h.state.lease, l.acquiredAt ≤ op.now - quotaResetExecutionLeaseTTL)
    (hlease : t.lease = some l) (hclosed : l.voteID = none → ∀ v ∈ t.votes.rows, Terminal v.status) :
    Held ⟨t, h.outstanding ++ [l], max h.clock op.now⟩ := by
  refine ⟨?_, ?_, ?_, ?_⟩
  · intro g hg hlive
    rcases List.mem_append.mp hg with hg | hg
    · have := hh.all_expired hexpired g hg
      exact absurd hlive (by simp only; omega)
    · obtain rfl := List.mem_singleton.mp hg
      exact hlease
  · intro x hx
    obtain rfl : l = x := Option.some.inj (hlease.symm.trans hx)
    simp
  · simp only [List.map_append, List.map_cons, List.map_nil]
    exact List.nodup_append.mpr ⟨hh.distinct, List.nodup_singleton _, fun a ha b hb hab =>
      hfresh l hgrant (List.mem_singleton.mp hb ▸ hab ▸ ha)⟩
  · intro x hx hmanual _
    obtain rfl : l = x := Option.some.inj (hlease.symm.trans hx)
    exact hclosed hmanual

lemma held_step (hh : Held h) (hstep : HistoryStep h op k) : Held k := by
  obtain ⟨hok, hfresh⟩ := hstep
  obtain ⟨⟨t, reply⟩, hperform, rfl⟩ := map_eq_ok.mp hok
  cases perform_lease hperform with
  | kept hgrant hrelease hlease hlength =>
    simp only [hgrant, hrelease, Option.toList_none, List.append_nil]
    refine ⟨?_, ?_, hh.distinct, ?_⟩
    · intro g hg hlive
      exact hlease.trans (hh.current g hg (by simp only at hlive; omega))
    · intro l hl
      exact hh.recorded l (hlease ▸ hl)
    · intro l hl hmanual hlive
      exact terminal_of_length hperform hlength
        (hh.closed l (hlease ▸ hl) hmanual (by simp only at hlive; omega))
  | cleared hgrant hrelease hexpired hlease =>
    simp only [hgrant, hrelease, Option.toList_none, List.append_nil]
    refine ⟨?_, ?_, hh.distinct, ?_⟩
    · intro g hg hlive
      have := hh.all_expired hexpired g hg
      exact absurd hlive (by simp only; omega)
    · simp [hlease]
    · simp [hlease]
  | manual hgrant hrelease hexpired hlease _ hterminal =>
    simp only [hgrant, hrelease, Option.toList_some]
    exact hh.grant hgrant hfresh hexpired hlease fun _ => hterminal
  | voted hgrant hrelease hexpired hlease hvote _ _ _ _ _ =>
    simp only [hgrant, hrelease, Option.toList_some]
    exact hh.grant hgrant hfresh hexpired hlease fun hnone => by simp [hvote] at hnone
  | @released id hgrant hrelease hlease hvotes =>
    simp only [hgrant, hrelease, Option.toList_none, List.append_nil]
    refine ⟨?_, ?_, ?_, ?_⟩
    · intro g hg hlive
      obtain ⟨hg, hne⟩ := List.mem_filter.mp hg
      rw [hlease, hh.current g hg (by simp only at hlive; omega)]
      simpa [Option.filter] using hne
    · intro l hl
      rw [hlease, Option.mem_def, Option.filter_eq_some_iff] at hl
      exact List.mem_filter.mpr ⟨hh.recorded l hl.1, hl.2⟩
    · exact hh.distinct.sublist (List.filter_sublist.map _)
    · intro l hl hmanual hlive
      rw [hlease, Option.mem_def, Option.filter_eq_some_iff] at hl
      rw [hvotes]
      exact hh.closed l hl.1 hmanual (by simp only at hlive; omega)

/-- A plan before its first vote and its first lease. -/
def beforeLeases (plan : Plan) (start : ℤ) : History := ⟨(beforeVotes plan).state, [], start⟩

lemma held_run {plan : Plan} {start : ℤ} {ops : List VoteOp}
    (hrun : Run HistoryStep (beforeLeases plan start) ops k) : Held k := by
  refine hrun.invariant ?_ fun _ _ _ => held_step
  exact ⟨by simp [beforeLeases], by simp [beforeLeases, beforeVotes], by simp [beforeLeases],
    by simp [beforeLeases, beforeVotes]⟩

/-- Wherever a run leads: a lease is granted only when every other outstanding one is 15
minutes old; a release keeps the lease of every other executor; a voted lease is granted for an
executing vote of the plan's own binding; and a live manual lease leaves no vote open. -/
theorem leases_exclusive {plan : Plan} {start : ℤ} {ops : List VoteOp}
    (hrun : Run HistoryStep (beforeLeases plan start) ops k) :
    (∀ op t reply l, perform k.state op = .ok (t, reply) → grantOf op = some l →
      ∀ g ∈ k.outstanding, g.acquiredAt ≤ max k.clock op.now - quotaResetExecutionLeaseTTL) ∧
    (∀ id now t reply, perform k.state (.release id now) = .ok (t, reply) → ∀ l ∈ k.state.lease,
      ∀ g ∈ k.outstanding, g.operationID = id → l ≠ g → l ∈ t.lease) ∧
    (∀ op t reply l id, perform k.state op = .ok (t, reply) → grantOf op = some l → l.voteID = some id →
      ∃ v ∈ k.state.votes.rows, v.id = id ∧ v.status = .executing ∧
        k.state.plan.accountID = some v.accountID ∧ k.state.plan.accountBindingGeneration = v.generation ∧
        k.state.plan.accountID = some l.accountID ∧ k.state.plan.accountBindingGeneration = l.generation) ∧
    (∀ g ∈ k.outstanding, g.voteID = none → k.clock - quotaResetExecutionLeaseTTL < g.acquiredAt →
      ∀ v ∈ k.state.votes.rows, v.status ≠ .active ∧ v.status ≠ .executing) := by
  have hheld := held_run hrun
  refine ⟨?_, ?_, ?_, ?_⟩
  · intro op t reply l hperform hgrant
    cases perform_lease hperform with
    | kept hnone _ _ _ => simp [hnone] at hgrant
    | cleared hnone _ _ _ => simp [hnone] at hgrant
    | manual _ _ hexpired _ _ _ => exact hheld.all_expired hexpired
    | voted _ _ hexpired _ _ _ _ _ _ _ => exact hheld.all_expired hexpired
    | released hnone _ _ _ => simp [hnone] at hgrant
  · intro id now t reply hperform l hl g hg hid hne
    simp only [perform, Except.ok.injEq, Prod.mk.injEq] at hperform
    obtain ⟨rfl, -⟩ := hperform
    rw [releaseQuotaResetExecution, Option.mem_def, Option.filter_eq_some_iff]
    refine ⟨hl, decide_eq_true ?_⟩
    intro hsame
    exact hne (eq_of_key_eq hheld.distinct (hheld.recorded l hl) hg (hsame.trans hid.symm))
  · intro op t reply l id hperform hgrant hid
    cases perform_lease hperform with
    | kept hnone _ _ _ => simp [hnone] at hgrant
    | cleared hnone _ _ _ => simp [hnone] at hgrant
    | manual hgrant' _ _ _ hmanual _ =>
      obtain rfl := Option.some.inj (hgrant'.symm.trans hgrant)
      simp [hmanual] at hid
    | @voted l' v hgrant' _ _ _ hvote hbinding hv hexec haccount hgeneration =>
      obtain rfl : l' = l := Option.some.inj (hgrant'.symm.trans hgrant)
      obtain ⟨-, hplan, hplanGeneration⟩ := hbinding
      refine ⟨v, hv, Option.some.inj (hvote.symm.trans hid), hexec, ?_, ?_, hplan, hplanGeneration⟩
      · rw [haccount, hplan]
      · rw [hgeneration, hplanGeneration]
    | released hnone _ _ _ => simp [hnone] at hgrant
  · intro g hg hmanual hlive
    exact hheld.closed g (hheld.current g hg hlive) hmanual hlive

/-- The executor of the vote crashes; fifteen minutes later the owner may reset by hand. -/
theorem leases_exclusive_crashedExecutor :
    ∃ k t reply g, Run HistoryStep (beforeLeases threeMembers 0)
        [.create "v1" "u1" 0 7200000000, .cast "v1" "u2" .support 5, .reserveVoted "op1" "account" 1 "v1" 10] k ∧
      perform k.state (.reserveManual "op2" "account" 1 "owner_reset" 900000010) = .ok (t, reply) ∧
      g ∈ k.outstanding ∧ g.operationID = "op1" ∧ g.acquiredAt ≤ max k.clock 900000010 - quotaResetExecutionLeaseTTL := by
  have hend : ((executeWhen FreshID historyStep (beforeLeases threeMembers 0)
      [.create "v1" "u1" 0 7200000000, .cast "v1" "u2" .support 5,
        .reserveVoted "op1" "account" 1 "v1" 10]).map fun k =>
        (k.outstanding.map Lease.operationID,
          (perform k.state (.reserveManual "op2" "account" 1 "owner_reset" 900000010)).isOk)) =
      some (["op1"], true) := by decide
  obtain ⟨k, hexecuted, hk⟩ := Option.map_eq_some_iff.mp hend
  obtain ⟨hids, hok⟩ := Prod.mk.inj hk
  have hrun := run_of_executeWhen hexecuted
  cases hperform : perform k.state (.reserveManual "op2" "account" 1 "owner_reset" 900000010) with
  | error e => simp [hperform, Except.isOk, Except.toBool] at hok
  | ok result =>
    obtain ⟨g, hg, hid⟩ := List.mem_map.mp (hids ▸ List.mem_singleton_self "op1")
    exact ⟨k, result.1, result.2, g, hrun, hperform, hg, hid,
      (leases_exclusive hrun).1 _ _ _ _ hperform rfl g hg⟩

end Invariant

end ShareSub.ResetLease

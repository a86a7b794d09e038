import ShareSub.ResetLease

/-!
# The recorded outcome of a voted reset

The end of `executeQuotaResetVote`: the lease is reserved, the credit is consumed while other
calls commit, and the outcome is recorded. Reconciliation measures an interruption from
`execution_started_at`, the lease its lifetime from `acquired_at`.
-/
namespace ShareSub.ResetOutcome
open PlanModel VoteModel VoteSafety Transaction

/-- What the upstream answers to an executor that holds the lease. -/
inductive Upstream
  | failed
  | consumed (windowsReset : ℤ) (code : String) (refreshed : Bool)
  deriving DecidableEq, Repr

/-- The status, the windows and the code with which the executor completes the vote. -/
def completion : Upstream → VoteStatus × ℤ × String
  | .failed => (.outcomeUnknown, 0, "quota_reset_result_unknown")
  | .consumed windowsReset code refreshed =>
    (if refreshed then .succeeded else .succeededUnsynced, windowsReset, code)

def recordCompletion (voteID : String) (upstream : Upstream) (now : ℤ) (s : VoteState) : VoteState :=
  match completeQuotaResetVote voteID (completion upstream).1 (completion upstream).2.1
      (completion upstream).2.2 now s with
  | .ok (t, _) => t
  | .error _ => s -- the handler only logs a completion that fails

/-- The calls that reconcile the votes of the plan before they do anything else. -/
def reconciles : VoteOp → Bool
  | .create .. | .cast .. | .read .. | .reserveManual .. => true
  | _ => false

/-- The call finds the vote executing for 15 minutes or more. -/
def Late (v : Vote) (op : VoteOp) : Prop :=
  reconciles op = true ∧ ∃ started ∈ v.executionStartedAt, started ≤ op.now - 15 * 60 * 1000000

instance (v : Vote) (op : VoteOp) : Decidable (Late v op) := by
  unfold Late
  infer_instance

def performed (s : VoteState) (op : VoteOp) : Except DomainError VoteState := (perform s op).map Prod.fst

/-- An executor reserves the lease for a vote and other calls commit before it completes the
vote; only the vote's own executor completes it. -/
structure Reserved (s : VoteState) (v : Vote) (lease : Lease) (others : List VoteOp) (t : VoteState) : Prop where
  vote : v ∈ s.votes.rows
  reserve : ∃ u, performed s (.reserveVoted lease.operationID lease.accountID lease.generation v.id
      lease.acquiredAt) = .ok u ∧ Run (fun a op b => performed a op = .ok b) u others t
  sole : ∀ op ∈ others, ∀ status windowsReset code now, op ≠ .complete v.id status windowsReset code now

section Rows

lemma performed_eq_ok {s t : VoteState} {op : VoteOp} (h : performed s op = .ok t) :
    ∃ reply, perform s op = .ok (t, reply) := by
  obtain ⟨⟨u, reply⟩, hperform, rfl⟩ := map_eq_ok.mp h
  exact ⟨reply, hperform⟩

variable {v w : Vote} {s t : VoteState} {op : VoteOp} {reply : Reply}

/-- The row of a vote under execution, in the status that it has now. -/
structure Tracks (v : Vote) (status : VoteStatus) (w : Vote) : Prop where
  id_eq : w.id = v.id
  started_eq : status = .executing → w.executionStartedAt = v.executionStartedAt
  status_eq : w.status = status

lemma reconcileVote_tracks (p : Plan) (now : ℤ) (hexec : v.status = .executing) :
    Tracks v (if ∃ started ∈ v.executionStartedAt, started ≤ now - 15 * 60 * 1000000 then .outcomeUnknown
      else .executing) (reconcileVote p now v) := by
  by_cases hlate : ∃ started ∈ v.executionStartedAt, started ≤ now - 15 * 60 * 1000000
  · rw [if_pos hlate, reconcileVote, interruptExecution, if_pos ⟨hexec, hlate⟩]
    exact ⟨by simp [expireVote, cancelChanged], by simp [expireVote, cancelChanged],
      by simp [expireVote, cancelChanged]⟩
  · rw [if_neg hlate, reconcileVote, interruptExecution, if_neg fun h => hlate h.2]
    exact ⟨by simp [expireVote, cancelChanged, hexec], by simp [expireVote, cancelChanged, hexec],
      by simp [expireVote, cancelChanged, hexec]⟩

lemma castBallot_tracks {status : VoteStatus} {p : Plan} {voteID userID : String} {choice : Choice} {now : ℤ}
    (h : Tracks v status w) : Tracks v status (castBallot p voteID userID choice now w) := by
  unfold castBallot
  split_ifs
  · exact ⟨h.id_eq, h.started_eq, h.status_eq⟩
  · exact h

lemma startExecution_tracks {status : VoteStatus} {voteID : String} {now : ℤ} (h : Tracks v status w)
    (hstatus : status ≠ .active) : Tracks v status (startExecution voteID now w) := by
  rw [startExecution, if_neg fun hactive => hstatus (h.status_eq ▸ hactive.2)]
  exact h

lemma cancelActive_tracks {status : VoteStatus} {reason : String} {now : ℤ} (h : Tracks v status w)
    (hstatus : status ≠ .active) : Tracks v status (cancelActive reason now w) := by
  rw [cancelActive, if_neg fun hactive => hstatus (h.status_eq ▸ hactive)]
  exact h

/-- One call: the vote is interrupted if the call reconciles late, and otherwise keeps executing. -/
lemma perform_tracks (h : perform s op = .ok (t, reply)) (hv : v ∈ s.votes.rows) (hexec : v.status = .executing)
    (hsole : ∀ status windowsReset code now, op ≠ .complete v.id status windowsReset code now) :
    ∃ w ∈ t.votes.rows, Tracks v (if Late v op then .outcomeUnknown else .executing) w := by
  have hnotActive : (if Late v op then VoteStatus.outcomeUnknown else .executing) ≠ .active := by
    split_ifs <;> simp
  have hrec : reconciles op = true →
      Tracks v (if Late v op then .outcomeUnknown else .executing) (reconcileVote s.plan op.now v) := by
    intro hop
    have := reconcileVote_tracks s.plan op.now hexec
    simpa only [Late, hop, true_and] using this
  have hkeep : reconciles op = false →
      Tracks v (if Late v op then .outcomeUnknown else .executing) v := by
    intro hop
    rw [if_neg (by simp [Late, hop])]
    exact ⟨rfl, fun _ => rfl, hexec⟩
  generalize (if Late v op then VoteStatus.outcomeUnknown else .executing) = next at hnotActive hrec hkeep ⊢
  cases op with
  | create voteID userID now expiresAt =>
    simp only [perform, createQuotaResetVote, check_bind_eq_ok, orFail_bind_eq_ok, commit_eq_ok,
      Prod.mk.injEq] at h
    obtain ⟨-, accountID, -, -, initiator, -, -, -, votes, hinsert, rfl, -⟩ := h
    have hmem : reconcileVote s.plan now v ∈ votes.rows := by
      rw [Table.rows_of_insert? hinsert]
      exact List.mem_append_left _ (List.mem_map_of_mem hv)
    split_ifs with hpassed
    · exact ⟨_, List.mem_map_of_mem hmem, startExecution_tracks (hrec rfl) hnotActive⟩
    · exact ⟨_, hmem, hrec rfl⟩
  | cast voteID userID choice now =>
    simp only [perform, castQuotaResetVote, orFail_bind_eq_ok] at h
    obtain ⟨vote, -, h⟩ := h
    by_cases hclosed : vote.status ≠ .active ∨ vote.expiresAt ≤ now
    · simp only [if_pos hclosed, commit_eq_ok, Prod.mk.injEq] at h
      obtain ⟨rfl, -⟩ := h
      exact ⟨_, List.mem_map_of_mem hv, hrec rfl⟩
    · simp only [if_neg hclosed, check_bind_eq_ok, commit_eq_ok, Prod.mk.injEq] at h
      obtain ⟨-, rfl, -⟩ := h
      have hmem := List.mem_map_of_mem (f := castBallot s.plan voteID userID choice now)
        (List.mem_map_of_mem (f := reconcileVote s.plan now) hv)
      split_ifs with hpassed
      · exact ⟨_, List.mem_map_of_mem hmem, startExecution_tracks (castBallot_tracks (hrec rfl)) hnotActive⟩
      · exact ⟨_, hmem, castBallot_tracks (hrec rfl)⟩
  | read userID now =>
    simp only [perform, quotaResetVote, check_bind_eq_ok, commit_eq_ok, Prod.mk.injEq] at h
    obtain ⟨-, rfl, -⟩ := h
    exact ⟨_, List.mem_map_of_mem hv, hrec rfl⟩
  | complete voteID status windowsReset resultCode now =>
    simp only [perform, completeQuotaResetVote, check_bind_eq_ok, commit_eq_ok, Prod.mk.injEq] at h
    obtain ⟨-, -, rfl, -⟩ := h
    have hother : completeExecution voteID status windowsReset resultCode now v = v := by
      rw [completeExecution, if_neg]
      rintro ⟨rfl, -⟩
      exact hsole status windowsReset resultCode now rfl
    exact ⟨v, List.mem_map.mpr ⟨v, hv, hother⟩, hkeep rfl⟩
  | reserveManual operationID accountID generation reason now =>
    simp only [perform, reserveManualQuotaReset, check_bind_eq_ok, commit_eq_ok, Prod.mk.injEq] at h
    obtain ⟨-, -, -, rfl, -⟩ := h
    exact ⟨_, List.mem_map_of_mem (List.mem_map_of_mem hv), cancelActive_tracks (hrec rfl) hnotActive⟩
  | reserveVoted operationID accountID generation voteID now =>
    simp only [perform, reserveVotedQuotaReset, check_bind_eq_ok, commit_eq_ok, Prod.mk.injEq] at h
    obtain ⟨-, -, -, rfl, -⟩ := h
    exact ⟨v, hv, hkeep rfl⟩
  | release operationID now =>
    simp only [perform, Except.ok.injEq, Prod.mk.injEq] at h
    obtain ⟨rfl, -⟩ := h
    exact ⟨v, hv, hkeep rfl⟩
  | changePlan plan now =>
    simp only [perform, Except.ok.injEq, Prod.mk.injEq] at h
    obtain ⟨rfl, -⟩ := h
    exact ⟨v, hv, hkeep rfl⟩

end Rows

section Runs

variable {v : Vote} {s t : VoteState} {others : List VoteOp} {lease : Lease}

lemma late_congr {w : Vote} (h : w.executionStartedAt = v.executionStartedAt) (op : VoteOp) :
    Late w op ↔ Late v op := by
  unfold Late
  rw [h]

/-- The whole run: the vote still executes exactly when no call reconciled it late. -/
lemma run_tracks (hrun : Run (fun a op b => performed a op = .ok b) s others t)
    (hv : v ∈ s.votes.rows) (hexec : v.status = .executing)
    (hsole : ∀ op ∈ others, ∀ status windowsReset code now, op ≠ .complete v.id status windowsReset code now) :
    ∃ w ∈ t.votes.rows, Tracks v (if ∃ op ∈ others, Late v op then .outcomeUnknown else .executing) w := by
  induction hrun with
  | nil => exact ⟨v, hv, rfl, fun _ => rfl, by simpa using hexec⟩
  | @snoc ops op a b prior last ih =>
    obtain ⟨reply, hperform⟩ := performed_eq_ok last
    obtain ⟨w, hw, htracks⟩ := ih fun op hop => hsole op (List.mem_append_left _ hop)
    by_cases hlate : ∃ op ∈ ops, Late v op
    · -- an interrupted vote is closed, and closed votes are final
      rw [if_pos hlate] at htracks
      obtain ⟨late, hmem, hlate⟩ := hlate
      obtain ⟨x, hx, hadv⟩ := perform_advances hperform hw
      have hterm : Terminal w.status := by simp [htracks.status_eq, Terminal]
      rw [if_pos ⟨late, List.mem_append_left _ hmem, hlate⟩]
      exact ⟨x, hx, hadv.id_eq.trans htracks.id_eq, by simp, (hadv.terminal hterm).trans htracks.status_eq⟩
    · rw [if_neg hlate] at htracks
      have hstarted := htracks.started_eq rfl
      have hsole' := hsole op (by simp)
      rw [← htracks.id_eq] at hsole'
      obtain ⟨x, hx, hnext⟩ := perform_tracks hperform hw htracks.status_eq hsole'
      have hiff : (∃ op' ∈ ops ++ [op], Late v op') ↔ Late w op := by
        rw [late_congr hstarted]
        constructor
        · rintro ⟨op', hop', hlate'⟩
          rcases List.mem_append.mp hop' with hop' | hop'
          · exact absurd ⟨op', hop', hlate'⟩ hlate
          · exact List.mem_singleton.mp hop' ▸ hlate'
        · exact fun hlate' => ⟨op, by simp, hlate'⟩
      simp only [hiff]
      exact ⟨x, hx, hnext.id_eq.trans htracks.id_eq, fun h => (hnext.started_eq h).trans hstarted, hnext.status_eq⟩

/-- A reserved vote is executing, and the reservation leaves the votes as they are. -/
lemma Reserved.tracks (h : Reserved s v lease others t) :
    ∃ w ∈ t.votes.rows, Tracks v (if ∃ op ∈ others, Late v op then .outcomeUnknown else .executing) w := by
  obtain ⟨hv, ⟨u, hreserve, hrun⟩, hsole⟩ := h
  obtain ⟨reply, hreserve⟩ := performed_eq_ok hreserve
  simp only [perform, reserveVotedQuotaReset, check_bind_eq_ok, ensure_eq_ok, commit_eq_ok,
    Prod.mk.injEq] at hreserve
  obtain ⟨-, -, ⟨x, hx, hid, -, -, hexec⟩, rfl, -⟩ := hreserve
  obtain rfl : x = v := eq_of_key_eq s.votes.keys_nodup hx hv hid
  exact run_tracks hrun hv hexec hsole

lemma recordCompletion_executing {w : Vote} (upstream : Upstream) (now : ℤ) (hw : w ∈ t.votes.rows)
    (hexec : w.status = .executing) :
    ∃ x ∈ (recordCompletion w.id upstream now t).votes.rows, x.id = w.id ∧ x.status = (completion upstream).1 := by
  have hstatus : (completion upstream).1 ∈
      [VoteStatus.succeeded, .succeededUnsynced, .outcomeUnknown, .cancelled] := by
    cases upstream with
    | failed => simp [completion]
    | consumed windowsReset code refreshed => cases refreshed <;> simp [completion]
  have hcomplete : completeQuotaResetVote w.id (completion upstream).1 (completion upstream).2.1
      (completion upstream).2.2 now t = .ok ({ t with votes := updateVotes _ (completeExecution_closing w.id
        (completion upstream).1 (completion upstream).2.1 (completion upstream).2.2 now) t.votes }, .done) := by
    simp only [completeQuotaResetVote, check_bind_eq_ok, ensure_eq_ok]
    exact ⟨hstatus, ⟨w, hw, rfl, hexec⟩, rfl⟩
  rw [recordCompletion, hcomplete]
  refine ⟨_, List.mem_map_of_mem hw, ?_⟩
  simp [completeExecution, hexec]

/-- A completion that comes after an interruption is refused. -/
lemma recordCompletion_closed {w : Vote} {upstream : Upstream} {now : ℤ} (hw : w ∈ t.votes.rows)
    (hstatus : w.status ≠ .executing) : recordCompletion w.id upstream now t = t := by
  unfold recordCompletion
  split
  · next u reply hcomplete =>
    simp only [completeQuotaResetVote, check_bind_eq_ok, ensure_eq_ok] at hcomplete
    obtain ⟨-, ⟨x, hx, hid, hexec⟩, -⟩ := hcomplete
    obtain rfl : x = w := eq_of_key_eq t.votes.keys_nodup hx hw hid
    exact absurd hexec hstatus
  · rfl

/-- A vote passes at once, the account takes ten minutes to quiesce, and a member reads the vote
while the credit is consumed. -/
lemma reserved_threeMembers (readAt completedAt : ℤ) (during after : List (String × VoteStatus))
    (h : ((executeWhen (fun _ _ => True) performed (beforeVotes threeMembers).state
        [.create "v1" "u1" 0 7200000000, .cast "v1" "u2" .support 0]).bind fun s =>
      (performed s (.reserveVoted "op1" "account" 1 "v1" 600000000)).toOption.bind fun u =>
      (executeWhen (fun _ _ => True) performed u [.read "u3" readAt]).map fun t =>
        (s.votes.rows.map fun v => (v.id, v.executionStartedAt), t.votes.rows.map fun v => (v.id, v.status),
          (recordCompletion "v1" (.consumed 2 "reset" true) completedAt t).votes.rows.map fun v =>
            (v.id, v.status))) = some ([("v1", some 0)], during, after)) :
    ∃ s v t, Run (fun a op b => performed a op = .ok b) (beforeVotes threeMembers).state
        [.create "v1" "u1" 0 7200000000, .cast "v1" "u2" .support 0] s ∧
      Reserved s v ⟨"op1", "account", 1, some "v1", 600000000⟩ [.read "u3" readAt] t ∧
      v.id = "v1" ∧ v.executionStartedAt = some 0 ∧
      (t.votes.rows.map fun v => (v.id, v.status)) = during ∧
      ((recordCompletion "v1" (.consumed 2 "reset" true) completedAt t).votes.rows.map fun v =>
        (v.id, v.status)) = after := by
  obtain ⟨s, hs, h⟩ := Option.bind_eq_some_iff.mp h
  obtain ⟨u, hu, h⟩ := Option.bind_eq_some_iff.mp h
  obtain ⟨t, ht, h⟩ := Option.map_eq_some_iff.mp h
  obtain ⟨hbefore, h⟩ := Prod.mk.inj h
  obtain ⟨hduring, hafter⟩ := Prod.mk.inj h
  obtain ⟨v, hv, hvrow⟩ := List.mem_map.mp (hbefore ▸ List.mem_singleton_self ("v1", some 0))
  obtain ⟨hid, hstarted⟩ := Prod.mk.inj hvrow
  have hreserve : performed s (.reserveVoted "op1" "account" 1 "v1" 600000000) = .ok u := by
    cases hperformed : performed s (.reserveVoted "op1" "account" 1 "v1" 600000000) with
    | error e => simp [hperformed, Except.toOption] at hu
    | ok u' => simpa [hperformed, Except.toOption] using hu
  refine ⟨s, v, t, (run_of_executeWhen hs).mono fun _ _ _ => And.left, ⟨hv, ⟨u, ?_, ?_⟩, by simp⟩,
    hid, hstarted, hduring, hafter⟩
  · rw [hid]
    exact hreserve
  · exact (run_of_executeWhen ht).mono fun _ _ _ => And.left

end Runs

end ShareSub.ResetOutcome

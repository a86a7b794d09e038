import ShareSub.VoteModel

/-!
# Safety of quota-reset votes

Everything a committed call can do to the votes of a plan is one of three moves: rows advance
quietly, a vote is opened, or a vote passes. The four safety properties are read off these
moves. Instants are arbitrary: no clock is assumed to be monotone.
-/
namespace ShareSub.VoteSafety
open PlanModel VoteModel Transaction

def Terminal (status : VoteStatus) : Prop := status ≠ .active ∧ status ≠ .executing

/-- A row keeps its identity and its electorate, and its status only moves forward. -/
structure Advances (v w : Vote) : Prop where
  id_eq : w.id = v.id
  count_eq : w.eligibleCount = v.eligibleCount
  pairs_eq : w.pairs = v.pairs
  forward : w.status = v.status ∨ v.status = .active ∨ v.status = .executing ∧ Terminal w.status

/-- The stored count is the number of ballots, one for each member. -/
def WellCounted (v : Vote) : Prop := v.eligibleCount = v.ballots.length ∧ (v.pairs.map Prod.fst).Nodup

/-- What has to hold of the plan and of the ballots when a vote is executed. -/
structure Mandate (p : Plan) (now : ℤ) (v : Vote) : Prop where
  plan_active : p.status = .active
  account_eq : p.accountID = some v.accountID
  generation_eq : p.accountBindingGeneration = v.generation
  mode_eq : p.allocationMode = v.allocationMode
  electorate : ∀ x, x ∈ v.pairs ↔ x ∈ eligiblePairs v.allocationMode p
  unexpired : now < v.expiresAt
  majority_shared : v.allocationMode = .shared →
    (eligibleMembers .shared p).length < 2 * (supporters v.ballots).length
  majority_fixed : v.allocationMode = .fixed → 5000 < supportWeight v.ballots

section Rows

variable {v w x : Vote} {p : Plan} {now : ℤ}

lemma Advances.refl (v : Vote) : Advances v v := ⟨rfl, rfl, rfl, Or.inl rfl⟩

lemma Advances.trans (h₁ : Advances v w) (h₂ : Advances w x) : Advances v x := by
  refine ⟨h₂.id_eq.trans h₁.id_eq, h₂.count_eq.trans h₁.count_eq, h₂.pairs_eq.trans h₁.pairs_eq, ?_⟩
  rcases h₁.forward with hsame | hactive | ⟨hexec, hterm⟩
  · rw [← hsame]
    exact h₂.forward
  · exact Or.inr (Or.inl hactive)
  · rcases h₂.forward with hsame' | hactive' | ⟨hexec', -⟩
    · exact Or.inr (Or.inr ⟨hexec, hsame' ▸ hterm⟩)
    · exact absurd hactive' hterm.1
    · exact absurd hexec' hterm.2

lemma Advances.wellCounted (h : Advances v w) (hv : WellCounted v) : WellCounted w := by
  have hlen : w.ballots.length = v.ballots.length := by
    have := congrArg List.length h.pairs_eq
    simpa [Vote.pairs] using this
  exact ⟨by rw [h.count_eq, hlen, hv.1], by rw [h.pairs_eq]; exact hv.2⟩

lemma Advances.terminal (h : Advances v w) (hv : Terminal v.status) : w.status = v.status := by
  rcases h.forward with hsame | hactive | ⟨hexec, -⟩
  · exact hsame
  · exact absurd hactive hv.1
  · exact absurd hexec hv.2

lemma interruptExecution_advances (v : Vote) : Advances v (interruptExecution now v) := by
  unfold interruptExecution
  split_ifs with h
  · exact ⟨rfl, rfl, rfl, Or.inr (Or.inr ⟨h.1, by simp [Terminal]⟩)⟩
  · exact Advances.refl v

lemma expireVote_advances (v : Vote) : Advances v (expireVote now v) := by
  unfold expireVote
  split_ifs with h
  · exact ⟨rfl, rfl, rfl, Or.inr (Or.inl h.1)⟩
  · exact Advances.refl v

lemma cancelChanged_advances (v : Vote) : Advances v (cancelChanged p now v) := by
  unfold cancelChanged
  split_ifs with h
  · exact ⟨rfl, rfl, rfl, Or.inr (Or.inl h.1)⟩
  · exact Advances.refl v

lemma reconcileVote_advances (p : Plan) (now : ℤ) (v : Vote) : Advances v (reconcileVote p now v) :=
  ((interruptExecution_advances v).trans (expireVote_advances _)).trans (cancelChanged_advances _)

lemma castBallot_advances (p : Plan) (now : ℤ) (voteID userID : String) (choice : Choice) (v : Vote) :
    Advances v (castBallot p voteID userID choice now v) := by
  unfold castBallot
  split_ifs with h
  · refine ⟨rfl, rfl, ?_, Or.inl rfl⟩
    simp only [Vote.pairs, List.map_map]
    apply List.map_congr_left
    intro b _
    simp only [Function.comp_apply, markBallot]
    split_ifs <;> rfl
  · exact Advances.refl v

lemma startExecution_advances (now : ℤ) (voteID : String) (v : Vote) : Advances v (startExecution voteID now v) := by
  unfold startExecution
  split_ifs with h
  · exact ⟨rfl, rfl, rfl, Or.inr (Or.inl h.2)⟩
  · exact Advances.refl v

lemma cancelActive_advances (reason : String) (v : Vote) : Advances v (cancelActive reason now v) := by
  unfold cancelActive
  split_ifs with h
  · exact ⟨rfl, rfl, rfl, Or.inr (Or.inl h)⟩
  · exact Advances.refl v

lemma completeExecution_advances {voteID : String} {status : VoteStatus} {windowsReset : ℤ}
    {resultCode : String} (hstatus : Terminal status) (v : Vote) :
    Advances v (completeExecution voteID status windowsReset resultCode now v) := by
  unfold completeExecution
  split_ifs with h
  · exact ⟨rfl, rfl, rfl, Or.inr (Or.inr ⟨h.2, hstatus⟩)⟩
  · exact Advances.refl v

/-- Updates into another status start no execution. -/
lemma executing_of_ite {c : Prop} [Decidable c] {g : Vote} (hg : g.status ≠ .executing)
    (h : (if c then g else v).status = .executing) : v.status = .executing := by
  split_ifs at h
  · exact absurd h hg
  · exact h

lemma reconcileVote_executing (h : (reconcileVote p now v).status = .executing) : v.status = .executing := by
  have hcancel := executing_of_ite (by simp) h
  have hexpire := executing_of_ite (by simp) hcancel
  exact executing_of_ite (by simp) hexpire

/-- A vote that reconciliation leaves active is unexpired and about the plan as it is. -/
lemma reconcileVote_active (h : (reconcileVote p now v).status = .active) :
    reconcileVote p now v = v ∧ v.status = .active ∧ now < v.expiresAt ∧ v.matchesPlan p := by
  have hv : v.status = .active := by
    rcases (reconcileVote_advances p now v).forward with hsame | hactive | ⟨-, hterm⟩
    · rw [← hsame, h]
    · exact hactive
    · exact absurd h hterm.1
  have hinterrupt : interruptExecution now v = v := by simp [interruptExecution, hv]
  have hunexpired : now < v.expiresAt := by
    by_contra hle
    rw [reconcileVote, hinterrupt, expireVote, if_pos ⟨hv, not_lt.mp hle⟩] at h
    simp [cancelChanged] at h
  have hexpire : expireVote now v = v := by
    rw [expireVote, if_neg]
    rintro ⟨-, hle⟩
    omega
  have hmatch : v.matchesPlan p := by
    by_contra hno
    rw [reconcileVote, hinterrupt, hexpire, cancelChanged, if_pos ⟨hv, hno⟩] at h
    cases h
  refine ⟨?_, hv, hunexpired, hmatch⟩
  rw [reconcileVote, hinterrupt, hexpire, cancelChanged, if_neg]
  rintro ⟨-, hno⟩
  exact hno hmatch

end Rows

section Moves

/-- What a committed call does to the votes. -/
inductive VotesMove (s : VoteState) (now : ℤ) : List Vote → Reply → Prop
  | quiet {f : Vote → Vote} {reply : Reply} (hadv : ∀ v, Advances v (f v))
      (hexec : ∀ v, (f v).status = .executing → v.status = .executing)
      (hreply : ∀ id, reply ≠ .ballot id true) :
      VotesMove s now (s.votes.rows.map f) reply
  | opened {f : Vote → Vote} {w : Vote} {passed : Bool} (hadv : ∀ v, Advances v (f v))
      (hexec : ∀ v, (f v).status = .executing → v.status = .executing)
      (hfresh : w.id ∉ s.votes.rows.map Vote.id) (hcount : WellCounted w)
      (hstatus : w.status = if passed then .executing else .active)
      (hmandate : passed = true → Mandate s.plan now w) :
      VotesMove s now (s.votes.rows.map f ++ [w]) (.ballot w.id passed)
  | passed {f : Vote → Vote} {v : Vote} (hadv : ∀ x, Advances x (f x)) (hv : v ∈ s.votes.rows)
      (hactive : v.status = .active) (hexec : (f v).status = .executing)
      (hothers : ∀ x, x.id ≠ v.id → (f x).status = .executing → x.status = .executing)
      (hmandate : WellCounted v → Mandate s.plan now (f v)) :
      VotesMove s now (s.votes.rows.map f) (.ballot v.id true)

variable {s t : VoteState} {reply : Reply} {now : ℤ}

lemma eligiblePairs_nodup (mode : AllocationMode) (p : Plan) :
    ((eligiblePairs mode p).map Prod.fst).Nodup := by
  have hsub : ((eligibleMembers mode p).map Member.id).Sublist (p.members.rows.map Member.id) :=
    List.filter_sublist.map _
  simpa [eligiblePairs, Function.comp_def] using p.members.keys_nodup.sublist hsub

/-- Lists of pairs with distinct first components and the same elements are equally long. -/
lemma length_eq_of_same_elements {xs ys : List (String × ℤ)} (hx : (xs.map Prod.fst).Nodup)
    (hy : (ys.map Prod.fst).Nodup) (h : ∀ x, x ∈ xs ↔ x ∈ ys) : xs.length = ys.length :=
  ((List.perm_ext_iff_of_nodup (List.Nodup.of_map _ hx) (List.Nodup.of_map _ hy)).mpr h).length_eq

/-- The votes that are not the one cast for are only reconciled. -/
lemma castBallot_of_ne {p : Plan} {voteID userID : String} {choice : Choice} {v : Vote} (h : v.id ≠ voteID) :
    castBallot p voteID userID choice now v = v := by
  rw [castBallot, if_neg h]

lemma castBallot_status {p : Plan} {voteID userID : String} {choice : Choice} (v : Vote) :
    (castBallot p voteID userID choice now v).status = v.status := by
  unfold castBallot
  split_ifs <;> rfl

lemma cast_moves {voteID userID : String} {choice : Choice}
    (h : castQuotaResetVote voteID userID choice now s = .ok (t, reply)) :
    VotesMove s now t.votes.rows reply := by
  simp only [castQuotaResetVote, orFail_bind_eq_ok] at h
  obtain ⟨vote, hfind, h⟩ := h
  by_cases hclosed : vote.status ≠ .active ∨ vote.expiresAt ≤ now
  · simp only [if_pos hclosed, commit_eq_ok, Prod.mk.injEq] at h
    obtain ⟨rfl, rfl⟩ := h
    exact VotesMove.quiet (reconcileVote_advances s.plan now) (fun _ => reconcileVote_executing) (by simp)
  rw [if_neg hclosed] at h
  simp only [check_bind_eq_ok, ensure_eq_ok, commit_eq_ok, Prod.mk.injEq] at h
  obtain ⟨-, rfl, rfl⟩ := h
  have hmem := List.mem_of_find?_eq_some hfind
  have hid : vote.id = voteID := by simpa using List.find?_some hfind
  subst hid
  obtain ⟨v, hv, rfl⟩ := List.mem_map.mp hmem
  obtain ⟨hactive, hopen⟩ := not_or.mp hclosed
  obtain ⟨hkept, hvactive, hunexpired, hmatch⟩ := reconcileVote_active (not_not.mp hactive)
  rw [hkept]
  have hadv : ∀ x, Advances x (castBallot s.plan v.id userID choice now (reconcileVote s.plan now x)) :=
    fun x => (reconcileVote_advances s.plan now x).trans (castBallot_advances s.plan now v.id userID choice _)
  cases hpassed : quotaResetVotePassed v.allocationMode
      (supporters (v.ballots.map (markBallot s.plan userID choice now))).length
      (supportWeight (v.ballots.map (markBallot s.plan userID choice now))) v.eligibleCount with
  | false =>
    simp only [Bool.false_eq_true, if_false, updateVotes_rows, reconcileQuotaResetVote, Table.mapRows_rows,
      List.map_map]
    refine VotesMove.quiet hadv ?_ (by simp)
    intro x hx
    rw [Function.comp_apply, castBallot_status] at hx
    exact reconcileVote_executing hx
  | true =>
    simp only [if_true, updateVotes_rows, reconcileQuotaResetVote, Table.mapRows_rows, List.map_map]
    have hfv : (startExecution v.id now ∘ castBallot s.plan v.id userID choice now ∘
        reconcileVote s.plan now) v =
        { v with
          ballots := v.ballots.map (markBallot s.plan userID choice now)
          status := .executing
          executionStartedAt := some now } := by
      simp only [Function.comp_apply, hkept, castBallot, if_true, startExecution, hvactive, and_self]
    refine VotesMove.passed (v := v) (fun x => (hadv x).trans (startExecution_advances now v.id _)) hv hvactive
      ?_ ?_ ?_
    · rw [hfv]
    · intro x hx hexec
      have hx' : (reconcileVote s.plan now x).id ≠ v.id := by
        rw [(reconcileVote_closing s.plan now).1]
        exact hx
      have hstart : startExecution v.id now (reconcileVote s.plan now x) = reconcileVote s.plan now x := by
        rw [startExecution, if_neg fun h => hx' h.1]
      rw [Function.comp_apply, Function.comp_apply, castBallot_of_ne hx', hstart] at hexec
      exact reconcileVote_executing hexec
    · intro hcount
      obtain ⟨hstatus, haccount, hgen, hmode, hsub, hsup⟩ := hmatch
      have hpairs : ∀ x, x ∈ v.pairs ↔ x ∈ eligiblePairs v.allocationMode s.plan :=
        fun x => ⟨hsup x, hsub x⟩
      have hkeep := (castBallot_advances s.plan now v.id userID choice v).pairs_eq
      rw [castBallot, if_pos rfl] at hkeep
      rw [hfv]
      refine ⟨hstatus, haccount, hgen, hmode, fun x => ?_, hunexpired, fun hshared => ?_, fun hfixed => ?_⟩
      · exact (iff_of_eq (congrArg (x ∈ ·) hkeep)).trans (hpairs x)
      · have hlen := length_eq_of_same_elements hcount.2 (eligiblePairs_nodup _ _) hpairs
        have hshared' : v.allocationMode = .shared := hshared
        simp only [hshared', quotaResetVotePassed, decide_eq_true_eq] at hpassed
        rw [hshared'] at hlen
        simp only [Vote.pairs, eligiblePairs, List.length_map] at hlen
        show (eligibleMembers .shared s.plan).length <
          2 * (supporters (v.ballots.map (markBallot s.plan userID choice now))).length
        have := hcount.1
        omega
      · have hfixed' : v.allocationMode = .fixed := hfixed
        simpa [hfixed', quotaResetVotePassed] using hpassed

lemma newVote_pairs (p : Plan) (voteID userID accountID : String) (initiator : Member) (now expiresAt : ℤ) :
    (newVote p voteID userID accountID initiator now expiresAt).pairs = eligiblePairs p.allocationMode p := by
  simp [newVote, Vote.pairs, eligiblePairs, Function.comp_def]

lemma newVote_wellCounted (p : Plan) (voteID userID accountID : String) (initiator : Member)
    (now expiresAt : ℤ) : WellCounted (newVote p voteID userID accountID initiator now expiresAt) := by
  refine ⟨by simp [newVote], ?_⟩
  rw [newVote_pairs]
  exact eligiblePairs_nodup _ _

/-- The initiator's own support is a majority only if it is one among the eligible members. -/
lemma newVote_mandate {p : Plan} {voteID userID accountID : String} {initiator : Member} {expiresAt : ℤ}
    (hstatus : p.status = .active) (haccount : p.accountID = some accountID)
    (hinitiator : initiator ∈ eligibleMembers p.allocationMode p) (huser : initiator.userID = userID)
    (hunexpired : now < expiresAt)
    (hpassed : quotaResetVotePassed p.allocationMode 1 (voteWeight p.allocationMode initiator)
      (eligibleMembers p.allocationMode p).length = true) :
    Mandate p now (startExecution voteID now
      (newVote p voteID userID accountID initiator now expiresAt)) := by
  have hballot : (⟨initiator.id, initiator.userID, voteWeight p.allocationMode initiator, some .support, some now⟩ :
      Ballot) ∈ supporters (newVote p voteID userID accountID initiator now expiresAt).ballots := by
    refine List.mem_filter.mpr ⟨List.mem_map.mpr ⟨initiator, hinitiator, ?_⟩, by simp⟩
    simp [huser]
  rw [startExecution, if_pos ⟨rfl, rfl⟩]
  refine ⟨hstatus, haccount, rfl, rfl, fun x => ?_, hunexpired, fun hshared => ?_, fun hfixed => ?_⟩
  · show x ∈ (newVote p voteID userID accountID initiator now expiresAt).pairs ↔ _
    rw [newVote_pairs]
    rfl
  · have hmode : p.allocationMode = .shared := hshared
    have hpos := List.length_pos_of_mem hballot
    simp only [quotaResetVotePassed, hmode, decide_eq_true_eq] at hpassed
    show (eligibleMembers .shared p).length <
      2 * (supporters (newVote p voteID userID accountID initiator now expiresAt).ballots).length
    omega
  · have hmode : p.allocationMode = .fixed := hfixed
    have hle : voteWeight p.allocationMode initiator ≤
        supportWeight (newVote p voteID userID accountID initiator now expiresAt).ballots := by
      refine List.single_le_sum ?_ _ (List.mem_map.mpr ⟨_, hballot, rfl⟩)
      intro weight hweight
      obtain ⟨b, hb, rfl⟩ := List.mem_map.mp hweight
      obtain ⟨m, hm, rfl⟩ := List.mem_map.mp (List.mem_filter.mp hb).1
      have helig := of_decide_eq_true (List.mem_filter.mp hm).2
      simp only [hmode, reduceCtorEq, false_or] at helig
      simpa [hmode, voteWeight] using helig.2.le
    simp only [quotaResetVotePassed, hmode, decide_eq_true_eq] at hpassed
    rw [hmode] at hle
    exact hpassed.trans_le hle

lemma create_moves {voteID userID : String} {expiresAt : ℤ}
    (h : createQuotaResetVote voteID userID now expiresAt s = .ok (t, reply)) :
    VotesMove s now t.votes.rows reply := by
  simp only [createQuotaResetVote, check_bind_eq_ok, ensure_eq_ok, orFail_bind_eq_ok, commit_eq_ok,
    Prod.mk.injEq] at h
  obtain ⟨hstatus, accountID, haccount, -, initiator, hfind, -, ⟨-, -, hunexpired⟩, votes, hinsert, rfl, rfl⟩ := h
  have hinitiator := List.mem_of_find?_eq_some hfind
  have huser : initiator.userID = userID := by simpa using List.find?_some hfind
  have hrows := Table.rows_of_insert? hinsert
  have hkeys := votes.keys_nodup
  rw [hrows, List.map_append, List.nodup_append] at hkeys
  have hids : (reconcileQuotaResetVote s.plan now s.votes).rows.map Vote.id = s.votes.rows.map Vote.id := by
    simp only [reconcileQuotaResetVote, Table.mapRows_rows, List.map_map]
    exact List.map_congr_left fun v _ => (reconcileVote_closing s.plan now).1 v
  have hfresh : voteID ∉ s.votes.rows.map Vote.id := by
    intro hmem
    rw [← hids] at hmem
    exact hkeys.2.2 voteID hmem voteID (by simp [newVote]) rfl
  cases hpassed : quotaResetVotePassed s.plan.allocationMode 1
      (voteWeight s.plan.allocationMode initiator) (eligibleMembers s.plan.allocationMode s.plan).length with
  | false =>
    simp only [Bool.false_eq_true, if_false, hrows]
    exact VotesMove.opened (reconcileVote_advances s.plan now)
      (fun _ => reconcileVote_executing) hfresh (newVote_wellCounted ..) rfl (by simp)
  | true =>
    simp only [if_true, updateVotes_rows, hrows, List.map_append, List.map_cons, List.map_nil]
    have hstart : (reconcileQuotaResetVote s.plan now s.votes).rows.map (startExecution voteID now) =
        s.votes.rows.map (reconcileVote s.plan now) := by
      simp only [reconcileQuotaResetVote, Table.mapRows_rows, List.map_map]
      apply List.map_congr_left
      intro v hv
      rw [Function.comp_apply, startExecution, if_neg]
      rintro ⟨hid, -⟩
      rw [(reconcileVote_closing s.plan now).1] at hid
      exact hfresh (hid ▸ List.mem_map_of_mem hv)
    rw [hstart]
    have hnew := startExecution_advances now voteID
      (newVote s.plan voteID userID accountID initiator now expiresAt)
    have hexecuting : (startExecution voteID now
        (newVote s.plan voteID userID accountID initiator now expiresAt)).status = .executing := by
      rw [startExecution, if_pos ⟨rfl, rfl⟩]
    have hid : (startExecution voteID now
        (newVote s.plan voteID userID accountID initiator now expiresAt)).id = voteID := hnew.id_eq
    have hfresh' : (startExecution voteID now
        (newVote s.plan voteID userID accountID initiator now expiresAt)).id ∉ s.votes.rows.map Vote.id := by
      rw [hid]
      exact hfresh
    have hreply : Reply.ballot voteID true = .ballot (startExecution voteID now
        (newVote s.plan voteID userID accountID initiator now expiresAt)).id true := by rw [hid]
    rw [hreply]
    exact VotesMove.opened (reconcileVote_advances s.plan now) (fun _ => reconcileVote_executing)
      hfresh' (hnew.wellCounted (newVote_wellCounted ..)) hexecuting
      fun _ => newVote_mandate hstatus haccount hinitiator huser hunexpired hpassed

lemma complete_moves {voteID resultCode : String} {status : VoteStatus} {windowsReset : ℤ}
    (h : completeQuotaResetVote voteID status windowsReset resultCode now s = .ok (t, reply)) :
    VotesMove s now t.votes.rows reply := by
  simp only [completeQuotaResetVote, check_bind_eq_ok, ensure_eq_ok, commit_eq_ok, Prod.mk.injEq] at h
  obtain ⟨hstatus, -, rfl, rfl⟩ := h
  have hterm : Terminal status := by
    simp only [List.mem_cons, List.not_mem_nil, or_false] at hstatus
    rcases hstatus with rfl | rfl | rfl | rfl <;> simp [Terminal]
  refine VotesMove.quiet (completeExecution_advances hterm) ?_ (by simp)
  intro v hv
  exact executing_of_ite hterm.2 hv

lemma reserveManual_moves {operationID accountID reason : String} {generation : ℤ}
    (h : reserveManualQuotaReset operationID accountID generation reason now s = .ok (t, reply)) :
    VotesMove s now t.votes.rows reply := by
  simp only [reserveManualQuotaReset, check_bind_eq_ok, ensure_eq_ok, commit_eq_ok, Prod.mk.injEq] at h
  obtain ⟨-, -, -, rfl, rfl⟩ := h
  simp only [updateVotes_rows, reconcileQuotaResetVote, Table.mapRows_rows, List.map_map]
  refine VotesMove.quiet (fun v => (reconcileVote_advances s.plan now v).trans (cancelActive_advances reason _))
    ?_ (by simp)
  intro v hv
  exact reconcileVote_executing (executing_of_ite (by simp) hv)

lemma unchanged_moves (h : t.votes = s.votes) (hreply : ∀ id, reply ≠ .ballot id true) :
    VotesMove s now t.votes.rows reply := by
  have hmove : VotesMove s now (s.votes.rows.map fun v => v) reply :=
    VotesMove.quiet Advances.refl (fun _ hv => hv) hreply
  rwa [List.map_id', ← h] at hmove

/-- Every committed call is one of the three moves. -/
lemma perform_moves {op : VoteOp} (h : perform s op = .ok (t, reply)) :
    VotesMove s op.now t.votes.rows reply := by
  cases op with
  | create => exact create_moves h
  | cast => exact cast_moves h
  | read userID now =>
    simp only [perform, quotaResetVote, check_bind_eq_ok, commit_eq_ok, Prod.mk.injEq] at h
    obtain ⟨-, rfl, rfl⟩ := h
    exact VotesMove.quiet (reconcileVote_advances s.plan now) (fun _ => reconcileVote_executing) (by simp)
  | complete => exact complete_moves h
  | reserveManual => exact reserveManual_moves h
  | reserveVoted =>
    simp only [perform, reserveVotedQuotaReset, check_bind_eq_ok, commit_eq_ok, Prod.mk.injEq] at h
    obtain ⟨-, -, -, rfl, rfl⟩ := h
    exact unchanged_moves rfl (by simp)
  | release =>
    simp only [perform, Except.ok.injEq, Prod.mk.injEq] at h
    obtain ⟨rfl, rfl⟩ := h
    exact unchanged_moves rfl (by simp)
  | changePlan =>
    simp only [perform, Except.ok.injEq, Prod.mk.injEq] at h
    obtain ⟨rfl, rfl⟩ := h
    exact unchanged_moves rfl (by simp)

end Moves

section Runs

/-- A plan's votes with the reports that some vote has passed, in order. -/
structure Journal where
  state : VoteState
  passed : List String

def recordPassed (passed : List String) : Reply → List String
  | .ballot id true => passed ++ [id]
  | _ => passed

def journalStep (j : Journal) (op : VoteOp) : Except DomainError Journal :=
  (perform j.state op).map fun result => ⟨result.1, recordPassed j.passed result.2⟩

lemma recordPassed_of_ne {passed : List String} {reply : Reply} (h : ∀ id, reply ≠ .ballot id true) :
    recordPassed passed reply = passed := by
  unfold recordPassed
  split
  · next id => exact absurd rfl (h id)
  · rfl

/-- Rows are well counted, and whatever was reported is past its ballot. -/
structure Sound (j : Journal) : Prop where
  counted : ∀ v ∈ j.state.votes.rows, WellCounted v
  reported : ∀ id ∈ j.passed, ∃ v ∈ j.state.votes.rows, v.id = id ∧ v.status ≠ .active
  once : j.passed.Nodup

variable {j k : Journal} {op : VoteOp}

lemma reported_map {f : Vote → Vote} {rows : List Vote} (hadv : ∀ v, Advances v (f v)) {id : String}
    (h : ∃ v ∈ rows, v.id = id ∧ v.status ≠ .active) : ∃ v ∈ rows.map f, v.id = id ∧ v.status ≠ .active := by
  obtain ⟨v, hv, rfl, hstatus⟩ := h
  refine ⟨f v, List.mem_map_of_mem hv, (hadv v).id_eq, ?_⟩
  rcases (hadv v).forward with hsame | hactive | ⟨-, hterm⟩
  · rwa [hsame]
  · exact absurd hactive hstatus
  · exact hterm.1

lemma counted_map {f : Vote → Vote} {rows : List Vote} (hadv : ∀ v, Advances v (f v))
    (h : ∀ v ∈ rows, WellCounted v) : ∀ v ∈ rows.map f, WellCounted v := by
  intro w hw
  obtain ⟨v, hv, rfl⟩ := List.mem_map.mp hw
  exact (hadv v).wellCounted (h v hv)

lemma sound_step (hj : Sound j) (h : journalStep j op = .ok k) : Sound k := by
  obtain ⟨⟨t, reply⟩, hperform, rfl⟩ := map_eq_ok.mp h
  have hmove := perform_moves hperform
  obtain ⟨hcounted, hreported, honce⟩ := hj
  generalize hrows : t.votes.rows = rows at hmove
  cases hmove with
  | quiet hadv hexec hreply =>
    rw [recordPassed_of_ne hreply]
    refine ⟨?_, ?_, honce⟩
    · rw [hrows]
      exact counted_map hadv hcounted
    · rw [hrows]
      exact fun id hid => reported_map hadv (hreported id hid)
  | @opened f w passed hadv hexec hfresh hcount hstatus hmandate =>
    have hcounted' : ∀ v ∈ t.votes.rows, WellCounted v := by
      rw [hrows]
      intro v hv
      rcases List.mem_append.mp hv with hv | hv
      · exact counted_map hadv hcounted v hv
      · obtain rfl := List.mem_singleton.mp hv
        exact hcount
    have hold : ∀ id ∈ j.passed, ∃ v ∈ t.votes.rows, v.id = id ∧ v.status ≠ .active := by
      intro id hid
      obtain ⟨v, hv, hvid, hvs⟩ := reported_map hadv (hreported id hid)
      exact ⟨v, by rw [hrows]; exact List.mem_append_left _ hv, hvid, hvs⟩
    cases passed with
    | false => exact ⟨hcounted', hold, honce⟩
    | true =>
      refine ⟨hcounted', ?_, ?_⟩
      · intro id hid
        rcases List.mem_append.mp hid with hid | hid
        · exact hold id hid
        · obtain rfl := List.mem_singleton.mp hid
          exact ⟨w, by rw [hrows]; simp, rfl, by simp [hstatus]⟩
      · refine List.nodup_append.mpr ⟨honce, List.nodup_singleton _, ?_⟩
        rintro id hid _ hw rfl
        obtain rfl := List.mem_singleton.mp hw
        obtain ⟨v, hv, hvid, -⟩ := hreported _ hid
        exact hfresh (hvid ▸ List.mem_map_of_mem hv)
  | @passed f v hadv hv hactive hexec hothers hmandate =>
    refine ⟨?_, ?_, ?_⟩
    · rw [hrows]
      exact counted_map hadv hcounted
    · rw [hrows]
      intro id hid
      rcases List.mem_append.mp hid with hid | hid
      · exact reported_map hadv (hreported id hid)
      · obtain rfl := List.mem_singleton.mp hid
        exact ⟨f v, List.mem_map_of_mem hv, (hadv v).id_eq, by simp [hexec]⟩
    · refine List.nodup_append.mpr ⟨honce, List.nodup_singleton _, ?_⟩
      rintro id hid _ hw rfl
      obtain rfl := List.mem_singleton.mp hw
      obtain ⟨x, hx, hxid, hxs⟩ := hreported _ hid
      obtain rfl : x = v := eq_of_key_eq j.state.votes.keys_nodup hx hv hxid
      exact hxs hactive

/-- A plan before its first vote. -/
def beforeVotes (plan : Plan) : Journal := ⟨⟨plan, Table.empty, none⟩, []⟩

lemma sound_run {plan : Plan} {ops : List VoteOp}
    (hrun : Run (fun u op v => journalStep u op = .ok v) (beforeVotes plan) ops k) : Sound k := by
  refine hrun.invariant ⟨by simp [beforeVotes], by simp [beforeVotes], by simp [beforeVotes]⟩ ?_
  intro u op v hu hstep
  exact sound_step hu hstep

/-- A vote enters its execution only with a mandate. -/
lemma enters_with_mandate {s t : VoteState} {reply : Reply} (hcount : ∀ v ∈ s.votes.rows, WellCounted v)
    (h : perform s op = .ok (t, reply)) {w : Vote} (hw : w ∈ t.votes.rows) (hexec : w.status = .executing)
    (hnew : ¬ ∃ v ∈ s.votes.rows, v.id = w.id ∧ v.status = .executing) : Mandate s.plan op.now w := by
  have hmove := perform_moves h
  generalize t.votes.rows = rows at hmove hw
  cases hmove with
  | quiet hadv hkeep _ =>
    obtain ⟨v, hv, rfl⟩ := List.mem_map.mp hw
    exact absurd ⟨v, hv, (hadv v).id_eq.symm, hkeep v hexec⟩ hnew
  | @opened f w' passed hadv hkeep hfresh hcounted hstatus hmandate =>
    rcases List.mem_append.mp hw with hw | hw
    · obtain ⟨v, hv, rfl⟩ := List.mem_map.mp hw
      exact absurd ⟨v, hv, (hadv v).id_eq.symm, hkeep v hexec⟩ hnew
    · obtain rfl := List.mem_singleton.mp hw
      apply hmandate
      cases passed with
      | true => rfl
      | false => simp [hstatus] at hexec
  | @passed f v hadv hv hactive hstart hothers hmandate =>
    obtain ⟨x, hx, rfl⟩ := List.mem_map.mp hw
    by_cases hxv : x.id = v.id
    · obtain rfl : x = v := eq_of_key_eq s.votes.keys_nodup hx hv hxv
      exact hmandate (hcount x hx)
    · exact absurd ⟨x, hx, (hadv x).id_eq.symm, hothers x hxv hexec⟩ hnew

lemma perform_advances {s t : VoteState} {reply : Reply} (h : perform s op = .ok (t, reply)) {v : Vote}
    (hv : v ∈ s.votes.rows) : ∃ w ∈ t.votes.rows, Advances v w := by
  have hmove := perform_moves h
  generalize t.votes.rows = rows at hmove
  cases hmove with
  | quiet hadv _ _ => exact ⟨_, List.mem_map_of_mem hv, hadv v⟩
  | opened hadv _ _ _ _ _ => exact ⟨_, List.mem_append_left _ (List.mem_map_of_mem hv), hadv v⟩
  | passed hadv _ _ _ _ _ => exact ⟨_, List.mem_map_of_mem hv, hadv v⟩

/-- What a run keeps of a closed vote. -/
def ClosedKept (j k : Journal) : Prop :=
  ∀ v ∈ j.state.votes.rows, Terminal v.status → ∃ w ∈ k.state.votes.rows, w.id = v.id ∧ w.status = v.status

lemma closedKept_run {ops : List VoteOp} (hrun : Run (fun u op v => journalStep u op = .ok v) j ops k) :
    ClosedKept j k := by
  refine hrun.related (R := ClosedKept) (fun j v hv _ => ⟨v, hv, rfl, rfl⟩) ?_ ?_
  · intro a b c hab hbc v hv hterm
    obtain ⟨w, hw, hid, hstatus⟩ := hab v hv hterm
    obtain ⟨x, hx, hxid, hxstatus⟩ := hbc w hw (hstatus ▸ hterm)
    exact ⟨x, hx, hxid.trans hid, hxstatus.trans hstatus⟩
  · intro u op u' hstep v hv hterm
    obtain ⟨result, hperform, rfl⟩ := map_eq_ok.mp hstep
    obtain ⟨w, hw, hadv⟩ := perform_advances hperform hv
    exact ⟨w, hw, hadv.id_eq, hadv.terminal hterm⟩

/-- After any run: the next vote to be executed has a mandate, at most one vote is open, closed
votes stay as they are, and no vote is reported to have passed twice. -/
theorem votes_safe {plan : Plan} {ops : List VoteOp}
    (hrun : Run (fun u op v => journalStep u op = .ok v) (beforeVotes plan) ops k) :
    (∀ op t reply, perform k.state op = .ok (t, reply) → ∀ w ∈ t.votes.rows, w.status = .executing →
      (¬ ∃ v ∈ k.state.votes.rows, v.id = w.id ∧ v.status = .executing) →
      Mandate k.state.plan op.now w) ∧
    (∀ v ∈ k.state.votes.rows, ∀ w ∈ k.state.votes.rows, v.status = .active ∨ v.status = .executing →
      w.status = .active ∨ w.status = .executing → v = w) ∧
    (∀ ops' k', Run (fun u op v => journalStep u op = .ok v) k ops' k' →
      ∀ v ∈ k.state.votes.rows, Terminal v.status →
      ∃ w ∈ k'.state.votes.rows, w.id = v.id ∧ w.status = v.status) ∧
    k.passed.Nodup := by
  have hsound := sound_run hrun
  refine ⟨?_, ?_, ?_, hsound.once⟩
  · intro op t reply h w hw hexec hnew
    exact enters_with_mandate hsound.counted h hw hexec hnew
  · intro v hv w hw hvopen hwopen
    exact k.state.votes.eq_of_index_eq hv hw (if_pos hvopen) (if_pos hwopen)
  · intro ops' k' hrun'
    exact closedKept_run hrun'

/-- Three members who share an account. -/
def threeMembers : Plan :=
  { newPlan 0 "u1" (some "account") .shared with
    accountBindingGeneration := 1
    members := ⟨[newOwner 0 "u1" "m1" 0, joiningMember 0 "m2" "u2" 0, joiningMember 0 "m3" "u3" 0],
      by decide, by decide⟩ }

theorem votes_safe_threeMembers :
    ∃ k t reply w, Run (fun u op v => journalStep u op = .ok v) (beforeVotes threeMembers)
        [.create "v1" "u1" 0 7200000000] k ∧
      perform k.state (.cast "v1" "u2" .support 5) = .ok (t, reply) ∧ w ∈ t.votes.rows ∧
      w.status = .executing ∧ Mandate k.state.plan 5 w := by
  have hend : ((executeWhen (fun _ _ => True) journalStep (beforeVotes threeMembers)
      [.create "v1" "u1" 0 7200000000]).map fun k =>
        (k.state.votes.rows.map Vote.status, (perform k.state (.cast "v1" "u2" .support 5)).toOption.map
          fun result => result.1.votes.rows.map Vote.status)) =
      some ([.active], some [.executing]) := by decide
  obtain ⟨k, hrun, hk⟩ := Option.map_eq_some_iff.mp hend
  obtain ⟨hbefore, hafter⟩ := Prod.mk.inj hk
  have hrun' := (run_of_executeWhen hrun).mono fun _ _ _ => And.left
  cases hperform : perform k.state (.cast "v1" "u2" .support 5) with
  | error e => simp [hperform, Except.toOption] at hafter
  | ok result =>
    simp only [hperform, Except.toOption, Option.map_some, Option.some.injEq] at hafter
    obtain ⟨w, hw, hwstatus⟩ := List.mem_map.mp (hafter ▸ List.mem_singleton_self VoteStatus.executing)
    refine ⟨k, result.1, result.2, w, hrun', hperform, hw, hwstatus, ?_⟩
    refine (votes_safe hrun').1 _ _ _ hperform w hw hwstatus ?_
    rintro ⟨v, hv, -, hvstatus⟩
    have hmem := List.mem_map_of_mem (f := Vote.status) hv
    rw [hbefore, hvstatus] at hmem
    simp at hmem

end Runs

end ShareSub.VoteSafety

import ShareSub.PlanLifecycle

/-!
# Decisions on invites and applications

What was decided stays decided until the retention has passed, and an invite or an application is used up by its
decision: it lets nobody in a second time.
-/
namespace ShareSub.PlanDecisions

open PlanModel PlanSystem PlanLifecycle PlanShareCap ShareLedger Evolution Transaction

section Finality

variable {s t u v : PlanState} {op : PlanOp} {ops : List PlanOp}

lemma clock_le_of_step (h : step u op = .ok v) : u.clock ≤ v.clock := by
  obtain ⟨p', -, rfl⟩ := map_eq_ok.mp h
  cases op with
  | elapse micros => exact Int.le_add_of_nonneg_right (Int.natCast_nonneg micros)
  | _ => exact le_rfl

lemma invite_stays (h : step u op = .ok v) {i : Invite} (hi : i ∈ u.plan.invites.rows) (hdecided : i.status ≠ .pending) :
    i ∈ v.plan.invites.rows ∨ InvitePurged u.clock op i := by
  refine ((apply_change (step_moves h).1).invites.fate i hi).imp_left ?_
  rintro ⟨i', hi', hmove⟩
  cases hmove with
  | kept => exact hi'
  | expired hpending => exact absurd hpending hdecided
  | accepted hpending => exact absurd hpending hdecided
  | revoked hpending => exact absurd hpending hdecided
  | emptied hpending => exact absurd hpending hdecided

lemma application_stays (h : step u op = .ok v) {j : JoinApplication} (hj : j ∈ u.plan.applications.rows)
    (hdecided : j.status ≠ .pending) : j ∈ v.plan.applications.rows ∨ ApplicationPurged u.clock op j := by
  refine ((apply_change (step_moves h).1).applications.fate j hj).imp_left ?_
  rintro ⟨j', hj', hmove⟩
  cases hmove with
  | kept => exact hj'
  | approved hpending => exact absurd hpending hdecided
  | rejected hpending => exact absurd hpending hdecided

/-- A row that only the cleanup removes, and that only once its instant is older than the retention. -/
lemma stays_or_purged (kept : PlanState → Prop) {instant : ℤ}
    (hstay : ∀ u op v, step u op = .ok v → kept u →
      kept v ∨ ∃ n : ℕ, op = .cleanupResources n ∧ instant < u.clock - n)
    (hrun : Run (fun u op v => step u op = .ok v) s ops t) (hs : kept s) :
    kept t ∨ ∃ n : ℕ, .cleanupResources n ∈ ops ∧ instant + n < t.clock := by
  induction hrun with
  | nil => exact Or.inl hs
  | snoc _ last ih =>
    have hclock := clock_le_of_step last
    rcases ih with hkept | ⟨n, hmem, hpast⟩
    · refine (hstay _ _ _ last hkept).imp_right ?_
      rintro ⟨n, rfl, hpast⟩
      exact ⟨n, by simp, by omega⟩
    · exact Or.inr ⟨n, List.mem_append_left _ hmem, hpast.trans_le hclock⟩

theorem decisions_are_final (hrun : Run (fun u op v => step u op = .ok v) s ops t) :
    (∀ i ∈ s.plan.invites.rows, i.status ≠ .pending →
      i ∈ t.plan.invites.rows ∨ ∃ n : ℕ, .cleanupResources n ∈ ops ∧ settledAt i + n < t.clock) ∧
    ∀ j ∈ s.plan.applications.rows, j.status ≠ .pending →
      j ∈ t.plan.applications.rows ∨
        ∃ n : ℕ, .cleanupResources n ∈ ops ∧ j.reviewedAt.getD j.createdAt + n < t.clock := by
  constructor
  · intro i hi hdecided
    refine stays_or_purged (fun u => i ∈ u.plan.invites.rows) ?_ hrun hi
    intro u op v hstep hu
    exact invite_stays hstep hu hdecided
  · intro j hj hdecided
    refine stays_or_purged (fun u => j ∈ u.plan.applications.rows) ?_ hrun hj
    intro u op v hstep hu
    refine (application_stays hstep hu hdecided).imp_right ?_
    rintro ⟨n, hop, -, hpast⟩
    exact ⟨n, hop, hpast⟩

/-- A plan with an invite that was accepted and an application that was turned down. -/
def decidedRows : PlanState where
  clock := 50
  plan :=
    { ownerOnly.plan with
      invites := ⟨[⟨"i1", "token", 300, .accepted, 40, some "carol", some 10, none, 0⟩], by decide, by decide⟩
      applications := ⟨[⟨"a1", "alice", .rejected, none, some 20, 5⟩], by decide, by decide⟩ }

def thenPurged : List PlanOp := [.elapse 10, .cleanupResources 45]

theorem decisions_are_final_purged : ∃ t,
    Run (fun u op v => step u op = .ok v) decidedRows thenPurged t ∧
      (∀ i ∈ decidedRows.plan.invites.rows, i.status ≠ .pending →
        i ∈ t.plan.invites.rows ∨ ∃ n : ℕ, .cleanupResources n ∈ thenPurged ∧ settledAt i + n < t.clock) ∧
      ∀ j ∈ decidedRows.plan.applications.rows, j.status ≠ .pending →
        j ∈ t.plan.applications.rows ∨
          ∃ n : ℕ, .cleanupResources n ∈ thenPurged ∧ j.reviewedAt.getD j.createdAt + n < t.clock := by
  have hend : (executeWhen (fun _ _ => True) step decidedRows thenPurged).isSome := by
    decide
  obtain ⟨t, ht⟩ := Option.isSome_iff_exists.mp hend
  have hrun : Run (fun u op v => step u op = .ok v) decidedRows thenPurged t :=
    (run_of_executeWhen ht).mono fun _ _ _ => And.left
  exact ⟨t, hrun, decisions_are_final hrun⟩

end Finality

section Admissions

/-- A committed operation together with what it did to the seats. -/
def seatedStep (u : PlanState) (l : PlanOp × Seating) (v : PlanState) : Prop :=
  step u l.1 = .ok v ∧ l.2 = seatingOf u.clock u.plan l.1

def offers (tokenHash : String) : PlanOp × Seating → Bool
  | (.createInvite _ _ _ token _, _) => token = tokenHash
  | _ => false

def joinsThrough (tokenHash : String) : PlanOp × Seating → Bool
  | (.acceptInvite _ token _ _, .joinedByInvite _) => token = tokenHash
  | _ => false

def applies (applicationID : String) : PlanOp × Seating → Bool
  | (.createJoinApplication id _, _) => id = applicationID
  | _ => false

def reviews (applicationID : String) : PlanOp × Seating → Bool
  | (.reviewJoinApplication _ _ id _ _, _) => id = applicationID
  | _ => false

def InviteOpen (tokenHash : String) (u : PlanState) : Prop :=
  ∃ i ∈ u.plan.invites.rows, i.status = .pending ∧ i.tokenHash = tokenHash

instance (tokenHash : String) : DecidablePred (InviteOpen tokenHash) := fun u =>
  inferInstanceAs (Decidable (∃ i ∈ u.plan.invites.rows, i.status = .pending ∧ i.tokenHash = tokenHash))

def ApplicationOpen (applicationID : String) (u : PlanState) : Prop :=
  ∃ j ∈ u.plan.applications.rows, j.status = .pending ∧ j.id = applicationID

instance (applicationID : String) : DecidablePred (ApplicationOpen applicationID) := fun u =>
  inferInstanceAs (Decidable (∃ j ∈ u.plan.applications.rows, j.status = .pending ∧ j.id = applicationID))

variable {now : ℤ} {p p' : Plan} {s t u v : PlanState} {l : PlanOp × Seating} {labels : List (PlanOp × Seating)}
  {tokenHash applicationID : String}

lemma inviteOpen_of_step (h : seatedStep u l v) (hv : InviteOpen tokenHash v) :
    InviteOpen tokenHash u ∨ offers tokenHash l := by
  obtain ⟨op, seating⟩ := l
  obtain ⟨i', hi', hpending, rfl⟩ := hv
  rcases (apply_change (step_moves h.1).1).pending.1 i' hi' hpending with hold | hnew
  · exact Or.inl hold
  · obtain ⟨om, ownerID, inviteID, token, share, rfl, rfl, -, -⟩ := hnew
    exact Or.inr (by simp [offers, newInvite])

lemma applicationOpen_of_step (h : seatedStep u l v) (hv : ApplicationOpen applicationID v) :
    ApplicationOpen applicationID u ∨ applies applicationID l := by
  obtain ⟨op, seating⟩ := l
  obtain ⟨j', hj', hpending, rfl⟩ := hv
  rcases (apply_change (step_moves h.1).1).pending.2 j' hj' hpending with hold | hnew
  · exact Or.inl hold
  · obtain ⟨id, userID, rfl, rfl, -⟩ := hnew
    exact Or.inr (by simp [applies])

/-- A join takes the pending invite under its token, and leaves none. -/
lemma acceptInvite_closes {om : Except DomainError Unit} {userID memberID id : String}
    {outcome : Plan × Option DomainError} (h : acceptInvite om now tokenHash userID memberID p = .ok outcome)
    (hseating : .joinedByInvite id = seatingOf now p (.acceptInvite om tokenHash userID memberID)) :
    (∃ i ∈ p.invites.rows, i.status = .pending ∧ i.tokenHash = tokenHash) ∧
      ¬ ∃ i ∈ outcome.1.invites.rows, i.status = .pending ∧ i.tokenHash = tokenHash := by
  simp only [acceptInvite, orFail_bind_eq_ok] at h
  obtain ⟨invite, hfind, h⟩ := h
  have hmem := List.mem_of_find?_eq_some hfind
  have htoken : invite.tokenHash = tokenHash := by simpa using List.find?_some hfind
  split at h
  · next hpast => simp [seatingOf, hfind, hpast] at hseating
  · simp only [check_bind_eq_ok, ensure_eq_ok] at h
    obtain ⟨⟨hpending, -⟩, -, h⟩ := h
    simp only [bind_eq_ok, orFail_eq_ok, commit_eq_ok] at h
    obtain ⟨joined, -, invites, hupdate, rfl⟩ := h
    refine ⟨⟨invite, hmem, hpending, htoken⟩, ?_⟩
    rintro ⟨i', hi', hstill, htoken'⟩
    rw [Table.rows_of_update? hupdate] at hi'
    obtain ⟨i, hi, rfl⟩ := List.mem_map.mp hi'
    by_cases hid : i.id = invite.id
    · rw [if_pos hid] at hstill
      cases hstill
    · rw [if_neg hid] at htoken'
      have hindex : inviteToken i = some tokenHash := by rw [inviteToken, htoken']
      have hsame : i = invite := p.invites.eq_of_index_eq hi hmem hindex (by rw [inviteToken, htoken])
      exact hid (by rw [hsame])

lemma reviewJoinApplication_closes {om : Except DomainError Unit} {ownerID memberID : String} {approve : Bool}
    (h : reviewJoinApplication om now ownerID applicationID approve memberID p = .ok p') :
    (∃ j ∈ p.applications.rows, j.status = .pending ∧ j.id = applicationID) ∧
      ¬ ∃ j ∈ p'.applications.rows, j.status = .pending ∧ j.id = applicationID := by
  simp only [reviewJoinApplication, check_bind_eq_ok, ensure_eq_ok, orFail_bind_eq_ok] at h
  obtain ⟨application, hfind, -, hpending, h⟩ := h
  have hid : application.id = applicationID := by simpa using List.find?_some hfind
  refine ⟨⟨application, List.mem_of_find?_eq_some hfind, hpending, hid⟩, ?_⟩
  rintro ⟨j', hj', hstill, hid'⟩
  split at h
  · simp only [check_bind_eq_ok, ensure_eq_ok] at h
    obtain ⟨-, -, -, -, -, h⟩ := h
    simp only [bind_eq_ok, orFail_eq_ok, commit_eq_ok] at h
    obtain ⟨joined, -, applications, hupdate, rfl⟩ := h
    rw [Table.rows_of_update? hupdate] at hj'
    obtain ⟨j, -, rfl⟩ := List.mem_map.mp hj'
    by_cases hq : j.id = applicationID
    · rw [if_pos hq] at hstill
      cases hstill
    · rw [if_neg hq] at hid'
      exact hq hid'
  · simp only [orFail_bind_eq_ok, commit_eq_ok] at h
    obtain ⟨applications, hupdate, rfl⟩ := h
    rw [Table.rows_of_update? hupdate] at hj'
    obtain ⟨j, -, rfl⟩ := List.mem_map.mp hj'
    by_cases hq : j.id = applicationID
    · rw [if_pos hq] at hstill
      cases hstill
    · rw [if_neg hq] at hid'
      exact hq hid'

lemma joinsThrough_closes (h : seatedStep u l v) (hl : joinsThrough tokenHash l) :
    InviteOpen tokenHash u ∧ ¬ InviteOpen tokenHash v := by
  obtain ⟨op, seating⟩ := l
  obtain ⟨hstep, hseating⟩ := h
  have happly := (step_moves hstep).1
  unfold joinsThrough at hl
  split at hl
  · next om token userID memberID id heq =>
    cases heq
    obtain rfl : token = tokenHash := by simpa using hl
    obtain ⟨outcome, haccept, hplan⟩ := map_eq_ok.mp happly
    rw [InviteOpen, InviteOpen, ← hplan]
    exact acceptInvite_closes haccept hseating
  · cases hl

lemma reviews_closes (h : seatedStep u l v) (hl : reviews applicationID l) :
    ApplicationOpen applicationID u ∧ ¬ ApplicationOpen applicationID v := by
  obtain ⟨op, seating⟩ := l
  have happly := (step_moves h.1).1
  unfold reviews at hl
  split at hl
  · next om ownerID id approve memberID seating heq =>
    cases heq
    obtain rfl : id = applicationID := by simpa using hl
    exact reviewJoinApplication_closes happly
  · cases hl

lemma nothing_pending (h : Created s) : s.plan.invites.rows = [] ∧ s.plan.applications.rows = [] := by
  obtain ⟨om, account, userID, memberID, accountID, mode, share, h⟩ := h
  simp only [createPlan, check_bind_eq_ok, ensure_eq_ok, orFail_bind_eq_ok, commit_eq_ok] at h
  obtain ⟨-, -, -, -, members, -, hplan⟩ := h
  rw [← hplan]
  exact ⟨rfl, rfl⟩

/-- Nobody joins through a token more often than the owner made an invite with it, and an application is reviewed
no more often than it was made. -/
theorem admissions_within_offers (hs : Created s) (hrun : Run seatedStep s labels t) (tokenHash applicationID : String) :
    labels.countP (joinsThrough tokenHash) ≤ labels.countP (offers tokenHash) ∧
      labels.countP (reviews applicationID) ≤ labels.countP (applies applicationID) := by
  obtain ⟨hinvites, happlications⟩ := nothing_pending hs
  constructor
  · have hbound := closings_le_openings (InviteOpen tokenHash) (offers tokenHash)
      (joinsThrough tokenHash) (fun _ _ _ h hv => inviteOpen_of_step h hv)
      (fun _ _ _ h hl => joinsThrough_closes h hl) hrun (by simp [InviteOpen, hinvites])
    omega
  · have hbound := closings_le_openings (ApplicationOpen applicationID) (applies applicationID)
      (reviews applicationID) (fun _ _ _ h hv => applicationOpen_of_step h hv)
      (fun _ _ _ h hl => reviews_closes h hl) hrun (by simp [ApplicationOpen, happlications])
    omega

lemma seated_of_run {ops : List PlanOp} (h : Run (fun u op v => step u op = .ok v) s ops t) :
    ∃ labels, labels.map Prod.fst = ops ∧ Run seatedStep s labels t := by
  induction h with
  | nil => exact ⟨[], rfl, Run.nil⟩
  | @snoc ops op u v _ last ih =>
    obtain ⟨labels, rfl, hrun⟩ := ih
    exact ⟨labels ++ [(op, seatingOf u.clock u.plan op)], by simp, hrun.snoc ⟨last, rfl⟩⟩

def offeredTwice : List PlanOp :=
  [.createInvite (.ok ()) "owner" "i1" "token" 300,
    .acceptInvite (.ok ()) "token" "carol" "m1",
    .elapse 10,
    .cleanupResources 5,
    .createInvite (.ok ()) "owner" "i2" "token" 200,
    .acceptInvite (.ok ()) "token" "dave" "m2"]

theorem admissions_within_offers_offeredTwice : ∃ labels t, labels.map Prod.fst = offeredTwice ∧
    Run seatedStep ownerOnly labels t ∧ labels.countP (joinsThrough "token") ≤ labels.countP (offers "token") ∧
      labels.countP (reviews "a1") ≤ labels.countP (applies "a1") := by
  have hend : (executeWhen (fun _ _ => True) step ownerOnly offeredTwice).isSome := by decide
  obtain ⟨t, ht⟩ := Option.isSome_iff_exists.mp hend
  have hrun : Run (fun u op v => step u op = .ok v) ownerOnly offeredTwice t :=
    (run_of_executeWhen ht).mono fun _ _ _ => And.left
  obtain ⟨labels, hops, hseated⟩ := seated_of_run hrun
  exact ⟨labels, t, hops, hseated, admissions_within_offers ownerOnly_created hseated "token" "a1"⟩

end Admissions

end ShareSub.PlanDecisions

import ShareSub.PlanShareCap

/-!
# Public seats and the memberships that occupy them

The occupied seats are counted by joining approved applications to active member rows, and a
member row outlives the membership it was written for. The history of a run tells which
memberships an approved application began, and the count agrees with it as long as nobody
returns to a row that carries an approved application and no application of a seated member
is purged.
-/
namespace ShareSub.PlanSeats
open PlanModel ShareLedger PlanSystem PlanShareCap Transaction

/-- A plan with the history of its current memberships. -/
structure SeatState where
  base : PlanState
  byApplication : String → Bool

/-- A step of the plan, recorded in the history. -/
def seatStep (s : SeatState) (op : PlanOp) : Except DomainError SeatState :=
  (step s.base op).map fun t =>
    ⟨t, beginnings s.byApplication (seatingOf s.base.clock s.base.plan op)⟩

/-- A created plan: the owner's membership was begun by no application. -/
def SeatCreated (s : SeatState) : Prop := Created s.base ∧ s.byApplication = fun _ => false

/-- The active members whose current membership began with an approved application. -/
def SeatState.begunByApplication (s : SeatState) : ℕ :=
  s.base.plan.members.rows.countP fun m => m.status = .active ∧ s.byApplication m.id

/-- Whoever joins gets a row without approved applications, and the purge spares those of active
members. -/
def FreshSeats (s : PlanState) : PlanOp → Prop
  | .reviewJoinApplication _ _ applicationID approve memberID =>
    approve → ∀ j ∈ s.plan.applications.rows, j.id = applicationID →
      heldBy s.plan.applications.rows (joinedID s.plan.members memberID j.userID) = 0
  | .acceptInvite _ tokenHash userID memberID =>
    (∃ i ∈ s.plan.invites.rows, i.tokenHash = tokenHash ∧ s.clock < i.expiresAt) →
      heldBy s.plan.applications.rows (joinedID s.plan.members memberID userID) = 0
  | .cleanupResources terminalRecords => purgedSeats (s.clock - terminalRecords) s.plan = 0
  | _ => True

instance (s : PlanState) (op : PlanOp) : Decidable (FreshSeats s op) :=
  match op with
  | .reviewJoinApplication _ _ applicationID approve memberID =>
    inferInstanceAs (Decidable (approve → ∀ j ∈ s.plan.applications.rows, j.id = applicationID →
      heldBy s.plan.applications.rows (joinedID s.plan.members memberID j.userID) = 0))
  | .acceptInvite _ tokenHash userID memberID =>
    inferInstanceAs (Decidable ((∃ i ∈ s.plan.invites.rows, i.tokenHash = tokenHash ∧ s.clock < i.expiresAt) →
      heldBy s.plan.applications.rows (joinedID s.plan.members memberID userID) = 0))
  | .cleanupResources terminalRecords =>
    inferInstanceAs (Decidable (purgedSeats (s.clock - terminalRecords) s.plan = 0))
  | .updatePlanPublication .. | .createJoinApplication .. | .createInvite .. | .revokeInvite .. | .updateMemberShare ..
  | .convertPlanToFixed .. | .removePlanMember .. | .updatePlanStatus .. | .transferPlanOwnership .. | .elapse .. =>
    inferInstanceAs (Decidable True)

section Steps

variable {now : ℤ} {p p' : Plan}

theorem acceptInvite_unstale {om : Except DomainError Unit} {tokenHash userID memberID : String}
    {reported : Option DomainError} {L' : Ledger}
    (h : acceptInvite om now tokenHash userID memberID p = .ok (p', reported))
    (hf : FreshSeats ⟨now, p⟩ (.acceptInvite om tokenHash userID memberID)) :
    Unstale (ledger now p) (seatingOf now p (.acceptInvite om tokenHash userID memberID)) L' := by
  simp only [acceptInvite, orFail_bind_eq_ok] at h
  obtain ⟨invite, hfind, h⟩ := h
  have hi : invite ∈ p.invites.rows := List.mem_of_find?_eq_some hfind
  have htoken : invite.tokenHash = tokenHash := by simpa using List.find?_some hfind
  simp only [seatingOf, hfind]
  split_ifs with hexpired
  · trivial
  · rw [if_neg hexpired] at h
    simp only [check_bind_eq_ok, ensure_eq_ok] at h
    refine hf ⟨invite, hi, htoken, ?_⟩
    by_contra hle
    exact hexpired ⟨h.1.1, not_lt.mp hle⟩

theorem reviewJoinApplication_unstale {om : Except DomainError Unit}
    {ownerID applicationID memberID : String} {approve : Bool} {L' : Ledger}
    (hf : FreshSeats ⟨now, p⟩ (.reviewJoinApplication om ownerID applicationID approve memberID)) :
    Unstale (ledger now p)
      (seatingOf now p (.reviewJoinApplication om ownerID applicationID approve memberID)) L' := by
  simp only [seatingOf]
  split
  · next j hfind =>
    split_ifs with happrove
    · exact hf happrove j (List.mem_of_find?_eq_some hfind) (by simpa using List.find?_some hfind)
    · trivial
  · trivial

/-- A purge that spares the applications of active members leaves every holder's as they are. -/
theorem cleanupResources_unstale {terminalRecords : ℕ}
    (hf : purgedSeats (now - terminalRecords) p = 0) :
    Unstale (ledger now p) .purged (ledger now (cleanupResources now terminalRecords p)) := by
  intro h hh
  have hspare := List.countP_eq_zero.mp hf
  have hsum := countP_filter_not_add (p := fun j => j.status = .approved ∧ j.memberID = some h.1)
    (q := purgeable (now - terminalRecords)) p.applications.rows
  have hzero : (p.applications.rows.countP fun j =>
      purgeable (now - terminalRecords) j ∧ j.status = .approved ∧ j.memberID = some h.1) = 0 := by
    rw [List.countP_eq_zero]
    intro j hj hsel
    simp only [decide_eq_true_eq] at hsel
    obtain ⟨hpurge, happroved, hmember⟩ := hsel
    have hseated : seatedIn p.members j.memberID := by
      rw [hmember, seatedIn_iff]
      exact List.mem_map_of_mem hh
    exact hspare j hj (by simpa using ⟨hpurge, happroved, hseated⟩)
  rw [hzero, add_zero] at hsum
  exact hsum

theorem apply_unstale {op : PlanOp} (h : apply now p op = .ok p') (hf : FreshSeats ⟨now, p⟩ op) :
    Unstale (ledger now p) (seatingOf now p op) (ledger (tick now op) p') := by
  cases op with
  | acceptInvite =>
    obtain ⟨⟨p₁, reported⟩, haccept, -⟩ := map_eq_ok.mp h
    exact acceptInvite_unstale haccept hf
  | reviewJoinApplication => exact reviewJoinApplication_unstale hf
  | cleanupResources =>
    cases h
    exact cleanupResources_unstale hf
  | _ => trivial

end Steps

theorem begunByApplication_eq (s : SeatState) :
    s.begunByApplication = (ledger s.base.clock s.base.plan).begun s.byApplication := by
  simp only [SeatState.begunByApplication, Ledger.begun, ledger, seatHolders, List.countP_map,
    List.countP_filter]
  apply List.countP_congr
  intro m _
  simp [and_comm]

theorem matched_of_created {s : SeatState} (h : SeatCreated s) :
    Matched s.byApplication (ledger s.base.clock s.base.plan) := by
  obtain ⟨hcreated, hghost⟩ := h
  obtain ⟨mode, memberID, share, -, hledger⟩ := ledger_of_created hcreated
  rw [hledger, hghost]
  exact ⟨by simp, fun hpub => by cases hpub⟩

/-- Along runs in which seats are fresh, the joined count is the number of memberships begun by an
application, and a public plan never has more of them than slots. -/
theorem approvedSeats_eq_begun {s t : SeatState} {ops : List PlanOp} (hs : SeatCreated s)
    (hrun : Run (fun u op v => seatStep u op = .ok v ∧ FreshSeats u.base op) s ops t) :
    t.base.plan.approvedSeats = t.begunByApplication ∧
      (t.base.plan.visibility = .publicPlan →
        (t.begunByApplication : ℤ) ≤ t.base.plan.publicSlots) := by
  have hmatched : Matched t.byApplication (ledger t.base.clock t.base.plan) := by
    refine hrun.invariant (I := fun u => Matched u.byApplication (ledger u.base.clock u.base.plan))
      (matched_of_created hs) ?_
    rintro u op v hu ⟨hseat, hfresh⟩
    obtain ⟨t, hstep, rfl⟩ := map_eq_ok.mp hseat
    obtain ⟨p', happly, rfl⟩ := map_eq_ok.mp hstep
    exact (apply_moves happly).matched hu (apply_unstale happly hfresh)
  have hseats := hmatched.seats_eq_begun
  rw [approvedSeats_eq_seats t.base.clock, begunByApplication_eq]
  refine ⟨hseats, fun hpub => ?_⟩
  rw [← hseats]
  exact hmatched.seats_le hpub

/-- The created plan of the share cap, with no membership begun by an application. -/
def seatStart : SeatState := ⟨ownerOnly, fun _ => false⟩

theorem seatStart_created : SeatCreated seatStart := ⟨ownerOnly_created, rfl⟩

def leftAndApprovedAgain : List PlanOp :=
  [.updatePlanPublication (.ok ()) "owner" .publicPlan 1 100,
    .createJoinApplication "a1" "alice",
    .reviewJoinApplication (.ok ()) "owner" "a1" true "m1",
    .removePlanMember "alice" "m1",
    .createJoinApplication "a2" "alice",
    .reviewJoinApplication (.ok ()) "owner" "a2" true "m2"]

/-- One returning member occupies two seats of a plan that has one. -/
theorem approvedSeats_ne_begun :
    SeatCreated seatStart ∧ ∃ t, Run (fun u op v => seatStep u op = .ok v) seatStart leftAndApprovedAgain t ∧
      ¬ (t.base.plan.approvedSeats = t.begunByApplication ∧
        (t.base.plan.visibility = .publicPlan →
          (t.begunByApplication : ℤ) ≤ t.base.plan.publicSlots)) := by
  have hend : ((executeWhen (fun _ _ => True) seatStep seatStart leftAndApprovedAgain).map
      fun t => (t.base.plan.approvedSeats, t.begunByApplication)) = some (2, 1) := by decide
  obtain ⟨t, hrun, ht⟩ := Option.map_eq_some_iff.mp hend
  obtain ⟨hseats, hbegun⟩ := Prod.mk.inj ht
  refine ⟨seatStart_created, t, (run_of_executeWhen hrun).mono fun _ _ _ => And.left, ?_⟩
  rintro ⟨heq, -⟩
  omega

def leftAndInvitedOther : List PlanOp :=
  [.updatePlanPublication (.ok ()) "owner" .publicPlan 1 100,
    .createJoinApplication "a1" "alice",
    .reviewJoinApplication (.ok ()) "owner" "a1" true "m1",
    .removePlanMember "alice" "m1",
    .createInvite (.ok ()) "owner" "i1" "token" 100,
    .acceptInvite (.ok ()) "token" "bob" "m2",
    .elapse 10,
    .cleanupResources 5]

theorem approvedSeats_eq_begun_leftAndInvitedOther :
    ∃ t, Run (fun u op v => seatStep u op = .ok v ∧ FreshSeats u.base op) seatStart leftAndInvitedOther t ∧
      t.base.plan.approvedSeats = t.begunByApplication ∧
      (t.base.plan.visibility = .publicPlan →
        (t.begunByApplication : ℤ) ≤ t.base.plan.publicSlots) := by
  have hend : (executeWhen (fun s op => FreshSeats s.base op) seatStep seatStart
      leftAndInvitedOther).isSome = true := by decide
  obtain ⟨t, hrun⟩ := Option.isSome_iff_exists.mp hend
  have hguarded := run_of_executeWhen hrun
  exact ⟨t, hguarded, approvedSeats_eq_begun seatStart_created hguarded⟩

end ShareSub.PlanSeats

import ShareSub.PlanSystem

/-!
# The share cap of a fixed plan

A departing member's seat returns to the public slots with the public share, whatever share
the member had by then, and a purged application returns a seat that is still taken. Neither
operation looks at the cap. Runs in which these reopened seats are paid for respect the cap.
-/
namespace ShareSub.PlanShareCap
open PlanModel ShareLedger PlanSystem Transaction

/-- What the public slots reserve in addition once `n` approved applications no longer count. -/
def reopenedShares (p : Plan) (n : ℕ) : ℤ :=
  (max (p.publicSlots - (p.approvedSeats - n)) 0 - max (p.publicSlots - p.approvedSeats) 0) *
    p.publicShareBasisPoints

def activeShareOf (p : Plan) (memberID : String) : ℤ :=
  sumWhere (fun m => m.id = memberID ∧ m.status = .active) Member.shareBasisPoints p.members.rows

/-- The approved applications of active members that a cleanup deletes. -/
def purgedSeats (cutoff : ℤ) (p : Plan) : ℕ :=
  p.applications.rows.countP fun j =>
    purgeable cutoff j ∧ j.status = .approved ∧ seatedIn p.members j.memberID

/-- The seats an operation reopens fit into the share it frees and the share not yet allocated. -/
def ReopeningCovered (s : PlanState) : PlanOp → Prop
  | .removePlanMember _ memberID =>
    s.plan.allocationMode = .fixed →
      reopenedShares s.plan (heldBy s.plan.applications.rows memberID) ≤
        activeShareOf s.plan memberID + (maxShareBPS - s.plan.allocatedShares s.clock)
  | .cleanupResources terminalRecords =>
    s.plan.allocationMode = .fixed →
      reopenedShares s.plan (purgedSeats (s.clock - terminalRecords) s.plan) ≤
        maxShareBPS - s.plan.allocatedShares s.clock
  | _ => True

instance (s : PlanState) (op : PlanOp) : Decidable (ReopeningCovered s op) := by
  cases op <;> unfold ReopeningCovered <;> infer_instance

section Reopening

variable {now : ℤ} {p p' : Plan}

theorem reserved_sub_eq_reopened {seats' n : ℕ} (h : seats' + n = (ledger now p).seats) :
    reserve p.publicSlots seats' p.publicShareBasisPoints - (ledger now p).reserved =
      reopenedShares p n := by
  have hseats : (seats' : ℤ) = (ledger now p).seats - n := by omega
  rw [reopenedShares, approvedSeats_eq_seats now, Ledger.reserved, reserve, reserve, hseats, sub_mul]
  rfl

theorem activeShareOf_eq {holders : List (String × ℤ)} {id : String} {share : ℤ}
    (hnew : id ∉ holders.map Prod.fst) (h : (ledger now p).holders.Perm ((id, share) :: holders)) :
    activeShareOf p id = share := by
  have hsum : activeShareOf p id =
      (((ledger now p).holders.filter fun x => x.1 = id).map Prod.snd).sum := by
    simp only [activeShareOf, sumWhere, ledger, seatHolders, List.filter_map, List.map_map,
      List.filter_filter]
    congr 3
    funext m
    simp
  have hrest : holders.filter (fun x => x.1 = id) = [] := by
    rw [List.filter_eq_nil_iff]
    intro x hx
    simpa using ne_of_mem_holders hnew hx
  rw [hsum, ((h.filter _).map Prod.snd).sum_eq, List.filter_cons, hrest]
  simp

theorem seats_cleanupResources (now : ℤ) (p : Plan) (terminalRecords : ℕ) :
    (ledger now (cleanupResources now terminalRecords p)).seats + purgedSeats (now - terminalRecords) p =
      (ledger now p).seats := by
  rw [← approvedSeats_eq_seats, ← approvedSeats_eq_seats]
  exact countP_filter_not_add p.applications.rows

theorem removePlanMember_covered {actorUserID memberID : String}
    (h : removePlanMember now actorUserID memberID p = .ok p')
    (hc : ReopeningCovered ⟨now, p⟩ (.removePlanMember actorUserID memberID)) :
    Covered (ledger now p) (.left memberID) (ledger now p') := by
  intro hfixed
  have hcovered : reopenedShares p (heldBy p.applications.rows memberID) ≤
      activeShareOf p memberID + (maxShareBPS - p.allocatedShares now) := hc hfixed
  obtain ⟨share, hnew, hperm, hledger⟩ := (removePlanMember_moves h).left_inv
  have hseats := seats_perm_cons (ledger now p).held hperm
  have hshares := shares_perm_cons hperm
  have hreserved : (ledger now p').reserved - (ledger now p).reserved =
      reopenedShares p (heldBy p.applications.rows memberID) := by
    rw [hledger]
    refine reserved_sub_eq_reopened ?_
    rw [Nat.add_comm]
    exact hseats.symm
  rw [activeShareOf_eq hnew hperm, allocatedShares_eq_total, ← hreserved] at hcovered
  simp only [Ledger.shares]
  omega

theorem cleanupResources_covered {terminalRecords : ℕ}
    (hc : ReopeningCovered ⟨now, p⟩ (.cleanupResources terminalRecords)) :
    Covered (ledger now p) .purged (ledger now (cleanupResources now terminalRecords p)) := by
  intro hfixed
  have hcovered := hc hfixed
  have hreserved := reserved_sub_eq_reopened (seats_cleanupResources now p terminalRecords)
  rw [allocatedShares_eq_total, ← hreserved] at hcovered
  have hshares : (ledger now (cleanupResources now terminalRecords p)).shares = (ledger now p).shares := rfl
  rw [hshares, sub_self, zero_add]
  exact hcovered

theorem apply_covered {op : PlanOp} (h : apply now p op = .ok p') (hc : ReopeningCovered ⟨now, p⟩ op) :
    Covered (ledger now p) (seatingOf now p op) (ledger (tick now op) p') := by
  cases op with
  | removePlanMember => exact removePlanMember_covered h hc
  | cleanupResources =>
    cases h
    exact cleanupResources_covered hc
  | reviewJoinApplication =>
    simp only [seatingOf]
    split
    · split_ifs <;> trivial
    · trivial
  | acceptInvite =>
    simp only [seatingOf]
    split
    · split_ifs <;> trivial
    · trivial
  | _ => trivial

end Reopening

theorem sound_of_created {s : PlanState} (h : Created s) : (ledger s.clock s.plan).Sound := by
  obtain ⟨mode, memberID, share, hshare, hledger⟩ := ledger_of_created h
  rw [hledger]
  refine ⟨le_rfl, by simp, fun hmode => ?_⟩
  simpa [Ledger.total, Ledger.shares, Ledger.reserved, reserve] using hshare hmode

/-- In every state reached by steps whose reopened seats are covered, a fixed plan promises at most
the whole of its account, and so do its active members alone. -/
theorem fixed_shares_le_cap {s t : PlanState} {ops : List PlanOp} (hs : Created s)
    (hrun : Run (fun u op v => step u op = .ok v ∧ ReopeningCovered u op) s ops t)
    (hfixed : t.plan.allocationMode = .fixed) :
    t.plan.allocatedShares t.clock ≤ maxShareBPS ∧ t.plan.activeShares ≤ maxShareBPS := by
  have hsound : (ledger t.clock t.plan).Sound := by
    refine hrun.invariant (I := fun u => (ledger u.clock u.plan).Sound) (sound_of_created hs) ?_
    rintro u op v hu ⟨hstep, hcovered⟩
    obtain ⟨p', happly, rfl⟩ := map_eq_ok.mp hstep
    exact (apply_moves happly).sound hu (apply_covered happly hcovered)
  rw [allocatedShares_eq_total, activeShares_eq_shares t.clock]
  exact ⟨hsound.capped hfixed, hsound.shares_le hfixed⟩

/-- A fixed plan whose owner keeps no share. -/
def ownerOnly : PlanState where
  clock := 0
  plan :=
    { newPlan 0 "owner" (some "account") .fixed with
      accountBindingGeneration := 1
      members := ⟨[newOwner 0 "owner" "m0" 0], by decide, by decide⟩ }

/-- One public slot for the whole account is taken, its share is lowered and offered to an invitee,
and then the member leaves. -/
def loweredThenLeft : List PlanOp :=
  [.updatePlanPublication (.ok ()) "owner" .publicPlan 1 10000,
    .createJoinApplication "a1" "alice",
    .reviewJoinApplication (.ok ()) "owner" "a1" true "m1",
    .updateMemberShare "owner" "m1" 0 none,
    .createInvite (.ok ()) "owner" "i1" "token" 10000,
    .removePlanMember "alice" "m1"]

def seatsFilledAgain : List PlanOp :=
  [.createJoinApplication "a2" "bob",
    .reviewJoinApplication (.ok ()) "owner" "a2" true "m2",
    .acceptInvite (.ok ()) "token" "carol" "m3"]

theorem ownerOnly_created : Created ownerOnly :=
  ⟨.ok (), .ok (), "owner", "m0", some "account", .fixed, 0, rfl⟩

theorem fixed_shares_exceed_cap :
    Created ownerOnly ∧ ∃ t, Run (fun u op v => step u op = .ok v) ownerOnly
      (loweredThenLeft ++ seatsFilledAgain) t ∧ t.plan.allocationMode = .fixed ∧
      ¬ (t.plan.allocatedShares t.clock ≤ maxShareBPS ∧ t.plan.activeShares ≤ maxShareBPS) := by
  have hend : ((executeWhen (fun _ _ => True) step ownerOnly (loweredThenLeft ++ seatsFilledAgain)).map
      fun t => (t.plan.allocationMode, t.plan.activeShares)) = some (.fixed, 20000) := by decide
  obtain ⟨t, hrun, ht⟩ := Option.map_eq_some_iff.mp hend
  obtain ⟨hfixed, hshares⟩ := Prod.mk.inj ht
  refine ⟨ownerOnly_created, t, (run_of_executeWhen hrun).mono fun _ _ _ => And.left, hfixed, ?_⟩
  rintro ⟨-, hle⟩
  rw [hshares] at hle
  exact absurd hle (by decide)

/-- The member keeps the public share until he leaves. -/
def keptThenLeft : List PlanOp :=
  [.updatePlanPublication (.ok ()) "owner" .publicPlan 1 10000,
    .createJoinApplication "a1" "alice",
    .reviewJoinApplication (.ok ()) "owner" "a1" true "m1",
    .removePlanMember "alice" "m1",
    .createJoinApplication "a2" "bob",
    .reviewJoinApplication (.ok ()) "owner" "a2" true "m2"]

theorem fixed_shares_le_cap_keptThenLeft :
    ∃ t, Run (fun u op v => step u op = .ok v ∧ ReopeningCovered u op) ownerOnly keptThenLeft t ∧
      t.plan.allocatedShares t.clock ≤ maxShareBPS ∧ t.plan.activeShares ≤ maxShareBPS := by
  have hend : ((executeWhen ReopeningCovered step ownerOnly keptThenLeft).map
      fun t => t.plan.allocationMode) = some .fixed := by decide
  obtain ⟨t, hrun, hfixed⟩ := Option.map_eq_some_iff.mp hend
  exact ⟨t, run_of_executeWhen hrun,
    fixed_shares_le_cap ownerOnly_created (run_of_executeWhen hrun) hfixed⟩

end ShareSub.PlanShareCap

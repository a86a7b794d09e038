import ShareSub.MembershipModel

/-!
# Payments are applied once and never harm the payer

An order freezes the revision of the membership it was priced for, and every write of a
membership takes the next revision. So an upgrade that still finds its revision finds the
expiry it was sold with.
-/
namespace ShareSub.MembershipPayments
open PlanModel MembershipModel Transaction

section Rows

/-- The terms of an order, which no later operation touches. -/
structure SameTerms (o o' : Order) : Prop where
  id_eq : o'.id = o.id
  userID_eq : o'.userID = o.userID
  product_eq : o'.product = o.product
  revision_eq : o'.membershipRevision = o.membershipRevision
  upgrade_eq : o'.upgradeExpiresAt = o.upgradeExpiresAt

variable {c : Order → Prop} [DecidablePred c] {o : Order}

lemma SameTerms.refl (o : Order) : SameTerms o o := ⟨rfl, rfl, rfl, rfl, rfl⟩

lemma expireOrder_terms (o : Order) : SameTerms o (expireOrder c o) := by
  unfold expireOrder
  split_ifs <;> exact ⟨rfl, rfl, rfl, rfl, rfl⟩

lemma expireOrder_of_settled (h : Settled o) : expireOrder c o = o := by
  rw [expireOrder, if_neg]
  intro hpending
  rcases h with h | h <;> simp [h] at hpending

lemma acceptReviewed_terms (orderID userID : String) (expiresAt : Option ℤ) (o : Order) :
    SameTerms o (acceptReviewed orderID userID expiresAt o) := by
  unfold acceptReviewed
  split_ifs <;> exact ⟨rfl, rfl, rfl, rfl, rfl⟩

lemma settleOrder_terms (tradeNo : String) (now : ℤ) (grant : Option (Tier × ℤ)) (o : Order) :
    SameTerms o (settleOrder tradeNo now grant o) := ⟨rfl, rfl, rfl, rfl, rfl⟩

/-- Every settled order has a trade number; the table checks it. -/
def Numbered (o : Order) : Prop := Settled o → ∃ tradeNo, o.tradeNo = some tradeNo

lemma expireOrder_numbered (h : Numbered o) : Numbered (expireOrder c o) := by
  unfold expireOrder
  split_ifs
  · simp [Numbered, Settled]
  · exact h

lemma acceptReviewed_numbered {orderID userID : String} {expiresAt : Option ℤ} (h : Numbered o) :
    Numbered (acceptReviewed orderID userID expiresAt o) := by
  unfold acceptReviewed
  split_ifs with hreview
  · exact fun _ => h (Or.inr hreview.2.2)
  · exact h

end Rows

section Confirmation

variable {s t : MembershipState} {id tradeNo pid : String} {amount now : ℤ}

/-- A confirmation repeats an earlier one, or it settles an open order. -/
lemma confirm_cases (h : confirmMembershipPayment id tradeNo pid amount now s = .ok t) :
    ∃ o ∈ s.orders.rows, o.id = id ∧
      (Settled o ∧ t = s ∨ ¬ Settled o ∧ ∃ orders : OrderTable,
        orders.rows = updateRows (fun x => x.id = id) (settleOrder tradeNo now
          (fulfillment o (readMembership s o.userID now) now)) s.orders.rows ∧
        t = { applyGrant s o.userID now (fulfillment o (readMembership s o.userID now) now) with
          orders := orders }) := by
  simp only [confirmMembershipPayment, check_bind_eq_ok, ensure_eq_ok, orFail_bind_eq_ok] at h
  obtain ⟨-, o, hfind, -, h⟩ := h
  have hid : o.id = id := by simpa using List.find?_some hfind
  refine ⟨o, List.mem_of_find?_eq_some hfind, hid, ?_⟩
  by_cases hsettled : Settled o
  · simp only [if_pos hsettled, check_bind_eq_ok, commit_eq_ok] at h
    exact Or.inl ⟨hsettled, h.2.symm⟩
  · simp only [if_neg hsettled, orFail_bind_eq_ok, commit_eq_ok] at h
    obtain ⟨orders, hupdate, rfl⟩ := h
    exact Or.inr ⟨hsettled, orders, Table.rows_of_update? hupdate, rfl⟩

@[simp] lemma applyGrant_none (s : MembershipState) (userID : String) (now : ℤ) :
    applyGrant s userID now none = s := rfl

lemma applyGrant_of_ne {userID u : String} {grant : Option (Tier × ℤ)} (h : u ≠ userID) :
    (applyGrant s userID now grant).memberships u = s.memberships u := by
  cases grant with
  | none => rfl
  | some grant => exact Function.update_of_ne h _ _

lemma applyGrant_self (s : MembershipState) (userID : String) (now : ℤ) (tier : Tier) (expiresAt : ℤ) :
    ∃ row, (applyGrant s userID now (some (tier, expiresAt))).memberships userID = some row ∧
      row.tier = tier ∧ row.expiresAt = some expiresAt ∧
      row.revision = revisionOf (s.memberships userID) + 1 :=
  ⟨_, Function.update_self .., rfl, rfl, rfl⟩

/-- The expiry of a running membership; one that is not running counts from now. -/
def activeUntil (row : Option MembershipRow) (now : ℤ) : ℤ :=
  if activeAt row now then (expiryOf row).getD now else now

lemma le_activeUntil (row : Option MembershipRow) (now : ℤ) : now ≤ activeUntil row now := by
  unfold activeUntil
  split_ifs with h
  · obtain ⟨-, expiresAt, hmem, hlt⟩ := h
    rw [Option.mem_def.mp hmem, Option.getD_some]
    exact hlt.le
  · exact le_rfl

lemma renewal_eq_some {tier tier' : Tier} {userID : String} {expiresAt : ℤ}
    (h : renewal tier (readMembership s userID now) now = some (tier', expiresAt)) :
    tier' = tier ∧ expiresAt = activeUntil (s.memberships userID) now + servicePeriod ∧
      (activeAt (s.memberships userID) now → tierOf (s.memberships userID) = tier) := by
  unfold renewal at h
  split_ifs at h with hother hactive
  · obtain ⟨rfl, rfl⟩ := Prod.mk.inj (Option.some.inj h)
    have hactive' : activeAt (s.memberships userID) now := of_decide_eq_true hactive
    refine ⟨rfl, ?_, fun _ => ?_⟩
    · rw [activeUntil, if_pos hactive']
      rfl
    · by_contra hne
      exact hother ⟨hactive, hne⟩
  · obtain ⟨rfl, rfl⟩ := Prod.mk.inj (Option.some.inj h)
    have hinactive : ¬ activeAt (s.memberships userID) now := fun h => hactive (decide_eq_true h)
    refine ⟨rfl, ?_, fun h => absurd h hinactive⟩
    rw [activeUntil, if_neg hinactive]

lemma upgrade_eq_some {o : Order} (hproduct : o.product = .upgrade) {tier : Tier} {expiresAt : ℤ}
    (h : fulfillment o (readMembership s o.userID now) now = some (tier, expiresAt)) :
    tier = .svip ∧ o.upgradeExpiresAt = some expiresAt ∧ now < expiresAt ∧ activeAt (s.memberships o.userID) now ∧
      tierOf (s.memberships o.userID) = .vip ∧ revisionOf (s.memberships o.userID) = o.membershipRevision := by
  simp only [fulfillment, hproduct] at h
  split at h
  · cases h
  · next upgradeExpiresAt hupgrade =>
    split_ifs at h with hreview
    simp only [not_or, not_not] at hreview
    obtain ⟨hactive, htier, hrevision, hlt⟩ := hreview
    obtain ⟨rfl, rfl⟩ := Prod.mk.inj (Option.some.inj h)
    exact ⟨rfl, hupgrade, hlt, of_decide_eq_true hactive, htier, hrevision⟩

end Confirmation

section Effects

/-- An order priced for the membership as it stands. -/
def PricedBy (s : MembershipState) (o : Order) : Prop :=
  o.membershipRevision = revisionOf (s.memberships o.userID) ∧
    (o.product = .upgrade → o.upgradeExpiresAt = expiryOf (s.memberships o.userID))

/-- What every committed operation does to memberships and orders. -/
structure Effect (s t : MembershipState) : Prop where
  bumps : ∀ u, t.memberships u = s.memberships u ∨ revisionOf (s.memberships u) < revisionOf (t.memberships u)
  terms : ∀ o' ∈ t.orders.rows, (∃ o ∈ s.orders.rows, SameTerms o o') ∨
    PricedBy s o' ∧ t.memberships = s.memberships
  numbered : (∀ o ∈ s.orders.rows, Numbered o) → ∀ o' ∈ t.orders.rows, Numbered o'

variable {s t : MembershipState} {op : MembershipOp}

/-- Rows are rewritten one by one and memberships are left alone. -/
lemma effect_of_map {f : Order → Order} (hmembers : t.memberships = s.memberships)
    (hrows : t.orders.rows = s.orders.rows.map f) (hterms : ∀ o, SameTerms o (f o))
    (hnumbered : ∀ o, Numbered o → Numbered (f o)) : Effect s t := by
  refine ⟨fun u => Or.inl (by rw [hmembers]), ?_, ?_⟩
  · intro o' ho'
    rw [hrows] at ho'
    obtain ⟨o, ho, rfl⟩ := List.mem_map.mp ho'
    exact Or.inl ⟨o, ho, hterms o⟩
  · intro hs o' ho'
    rw [hrows] at ho'
    obtain ⟨o, ho, rfl⟩ := List.mem_map.mp ho'
    exact hnumbered o (hs o ho)

lemma effect_of_eq (hmembers : t.memberships = s.memberships) (horders : t.orders = s.orders) : Effect s t :=
  effect_of_map (f := fun o => o) hmembers (by rw [horders, List.map_id']) SameTerms.refl fun _ h => h

lemma confirm_effect {id tradeNo pid : String} {amount now : ℤ}
    (h : confirmMembershipPayment id tradeNo pid amount now s = .ok t) : Effect s t := by
  obtain ⟨o, ho, hid, ⟨-, rfl⟩ | ⟨-, orders, hrows, rfl⟩⟩ := confirm_cases h
  · exact effect_of_eq rfl rfl
  refine ⟨?_, ?_, ?_⟩
  · intro u
    by_cases hu : u = o.userID
    · subst hu
      cases hgrant : fulfillment o (readMembership s o.userID now) now with
      | none => exact Or.inl rfl
      | some grant =>
        obtain ⟨row, hrow, -, -, hrevision⟩ := applyGrant_self s o.userID now grant.1 grant.2
        refine Or.inr ?_
        show _ < revisionOf ((applyGrant s o.userID now (some grant)).memberships o.userID)
        rw [hrow]
        show _ < row.revision
        omega
    · exact Or.inl (applyGrant_of_ne hu)
  · intro o' ho'
    have hmem : o' ∈ orders.rows := ho'
    rw [hrows] at hmem
    obtain ⟨x, hx, rfl⟩ := List.mem_map.mp hmem
    refine Or.inl ⟨x, hx, ?_⟩
    split_ifs
    · exact settleOrder_terms ..
    · exact SameTerms.refl x
  · intro hs o' ho'
    have hmem : o' ∈ orders.rows := ho'
    rw [hrows] at hmem
    obtain ⟨x, hx, rfl⟩ := List.mem_map.mp hmem
    split_ifs
    · exact fun _ => ⟨tradeNo, rfl⟩
    · exact hs x hx

lemma productTerms_upgrade {member : Membership} {terms : ℤ × Option ℤ}
    (h : productTerms .upgrade member = .ok terms) : terms.2 = member.expiresAt := by
  simp only [productTerms, check_bind_eq_ok, commit_eq_ok] at h
  rw [← h.2]

lemma create_effect {draft : OrderDraft} {order : Order} (h : createMembershipOrder draft s = .ok (t, order)) :
    Effect s t := by
  simp only [createMembershipOrder, check_bind_eq_ok] at h
  obtain ⟨-, -, h⟩ := h
  obtain ⟨terms, hterms, h⟩ := bind_eq_ok.mp h
  split at h
  · simp only [check_bind_eq_ok, commit_eq_ok, Prod.mk.injEq] at h
    obtain ⟨-, rfl, -⟩ := h
    exact effect_of_map rfl rfl expireOrder_terms fun _ => expireOrder_numbered
  · simp only [orFail_bind_eq_ok, commit_eq_ok, Prod.mk.injEq] at h
    obtain ⟨orders, hinsert, rfl, -⟩ := h
    have hrows := Table.rows_of_insert? hinsert
    refine ⟨fun u => Or.inl rfl, ?_, ?_⟩
    · intro o' ho'
      have hmem : o' ∈ orders.rows := ho'
      rw [hrows] at hmem
      rcases List.mem_append.mp hmem with hmem | hmem
      · obtain ⟨o, ho, rfl⟩ := List.mem_map.mp hmem
        exact Or.inl ⟨o, ho, expireOrder_terms o⟩
      · obtain rfl := List.mem_singleton.mp hmem
        refine Or.inr ⟨⟨rfl, fun hproduct => ?_⟩, rfl⟩
        have hupgrade : draft.product = .upgrade := hproduct
        rw [hupgrade] at hterms
        exact productTerms_upgrade hterms
    · intro hs o' ho'
      have hmem : o' ∈ orders.rows := ho'
      rw [hrows] at hmem
      rcases List.mem_append.mp hmem with hmem | hmem
      · obtain ⟨o, ho, rfl⟩ := List.mem_map.mp hmem
        exact expireOrder_numbered (hs o ho)
      · obtain rfl := List.mem_singleton.mp hmem
        simp [Numbered, Settled, OrderDraft.toOrder]

lemma adjust_effect {userID : String} {input : MembershipAdjustment} {now : ℤ}
    (h : adjustMembership userID input now s = .ok t) : Effect s t := by
  simp only [adjustMembership, check_bind_eq_ok, commit_eq_ok] at h
  obtain ⟨-, -, -, -, rfl⟩ := h
  have hrows : ∃ f : Order → Order, (∀ o, SameTerms o (f o)) ∧ (∀ o, Numbered o → Numbered (f o)) ∧
      (if input.reviewOrderID ≠ "" then acceptOrders input.reviewOrderID userID input.expiresAt s.orders
        else s.orders).rows = s.orders.rows.map f := by
    split_ifs
    · exact ⟨_, acceptReviewed_terms _ _ _, fun _ => acceptReviewed_numbered, rfl⟩
    · exact ⟨id, SameTerms.refl, fun _ h => h, by simp⟩
  obtain ⟨f, hterms, hnumbered, hrows⟩ := hrows
  refine ⟨?_, ?_, ?_⟩
  · intro u
    by_cases hu : u = userID
    · subst hu
      refine Or.inr ?_
      simp only [putMembership, Function.update_self]
      show _ < revisionOf (s.memberships u) + 1
      omega
    · exact Or.inl (Function.update_of_ne hu _ _)
  · intro o' ho'
    obtain ⟨o, ho, rfl⟩ := List.mem_map.mp (hrows ▸ ho')
    exact Or.inl ⟨o, ho, hterms o⟩
  · intro hs o' ho'
    obtain ⟨o, ho, rfl⟩ := List.mem_map.mp (hrows ▸ ho')
    exact hnumbered o (hs o ho)

lemma rolloutRow_revision (ownedPlans : ℕ) (now : ℤ) (row : Option MembershipRow) :
    (rolloutRow ownedPlans now row).revision = revisionOf row + 1 := by
  cases row <;> rfl

/-- The rollout, in the transaction that has just saved the payment settings. -/
lemma activate_effect {saved : MembershipState} (now : ℤ) (hmembers : saved.memberships = s.memberships)
    (horders : saved.orders = s.orders) : Effect s (activateMemberships now saved) := by
  unfold activateMemberships
  split_ifs with hstarted
  · exact effect_of_eq hmembers horders
  · refine ⟨?_, ?_, ?_⟩
    · intro u
      dsimp only
      split_ifs with hgift
      · refine Or.inr ?_
        show _ < (rolloutRow (saved.ownedPlans u) now (saved.memberships u)).revision
        rw [rolloutRow_revision, hmembers]
        omega
      · exact Or.inl (congrFun hmembers u)
    · intro o' ho'
      exact Or.inl ⟨o', horders ▸ ho', SameTerms.refl o'⟩
    · intro hs o' ho'
      exact hs o' (horders ▸ ho')

lemma perform_effect (h : perform s op = .ok t) : Effect s t := by
  cases op with
  | confirm id tradeNo pid amount now => exact confirm_effect h
  | createOrder draft =>
    obtain ⟨⟨u, order⟩, hcreate, rfl⟩ := map_eq_ok.mp h
    exact create_effect hcreate
  | cancelOrder id userID =>
    simp only [perform, cancelMembershipOrder, check_bind_eq_ok, commit_eq_ok] at h
    obtain ⟨-, rfl⟩ := h
    exact effect_of_map rfl rfl expireOrder_terms fun _ => expireOrder_numbered
  | expireOverdue now =>
    obtain rfl := Except.ok.inj h
    exact effect_of_map rfl rfl expireOrder_terms fun _ => expireOrder_numbered
  | adjust userID input now => exact adjust_effect h
  | saveSettings settings now =>
    simp only [perform, savePaymentSettings, orFail_bind_eq_ok, commit_eq_ok] at h
    obtain ⟨revision, -, rfl⟩ := h
    split_ifs with henabled
    · exact activate_effect now rfl rfl
    · exact effect_of_eq rfl rfl
  | changeUser userID status =>
    obtain rfl := Except.ok.inj h
    exact effect_of_eq rfl rfl
  | changePlans ownedPlans seated =>
    obtain rfl := Except.ok.inj h
    exact effect_of_eq rfl rfl

end Effects

section Invariant

/-- No order is ahead of its membership, and one that is level with it was sold with its expiry. -/
structure Priced (s : MembershipState) : Prop where
  bounded : ∀ o ∈ s.orders.rows, o.membershipRevision ≤ revisionOf (s.memberships o.userID)
  frozen : ∀ o ∈ s.orders.rows, o.product = .upgrade →
    o.membershipRevision = revisionOf (s.memberships o.userID) →
    o.upgradeExpiresAt = expiryOf (s.memberships o.userID)
  numbered : ∀ o ∈ s.orders.rows, Numbered o

variable {s t : MembershipState}

lemma Effect.priced (h : Effect s t) (hs : Priced s) : Priced t := by
  obtain ⟨hbumps, hterms, hnumbered⟩ := h
  refine ⟨?_, ?_, hnumbered hs.numbered⟩
  · intro o' ho'
    rcases hterms o' ho' with ⟨o, ho, hsame⟩ | ⟨hpriced, hmembers⟩
    · rw [hsame.revision_eq, hsame.userID_eq]
      have hle := hs.bounded o ho
      rcases hbumps o.userID with heq | hlt
      · rwa [heq]
      · exact hle.trans hlt.le
    · rw [hmembers, hpriced.1]
  · intro o' ho' hproduct hrevision
    rcases hterms o' ho' with ⟨o, ho, hsame⟩ | ⟨hpriced, hmembers⟩
    · rw [hsame.product_eq] at hproduct
      rw [hsame.revision_eq, hsame.userID_eq] at hrevision
      rw [hsame.upgrade_eq, hsame.userID_eq]
      have hle := hs.bounded o ho
      rcases hbumps o.userID with heq | hlt
      · rw [heq] at hrevision ⊢
        exact hs.frozen o ho hproduct hrevision
      · -- the membership was written since the checkout
        omega
    · rw [hmembers]
      exact hpriced.2 hproduct

/-- Settled orders: paid ones are final, and a review ends only in an adjustment. -/
lemma perform_settled {op : MembershipOp} (h : perform s op = .ok t) {o : Order} (ho : o ∈ s.orders.rows)
    (hsettled : Settled o) :
    o ∈ t.orders.rows ∨ o.status = .reviewRequired ∧ ∃ userID input now, op = .adjust userID input now ∧
      input.reviewOrderID = o.id ∧
      { o with status := .paid, serviceExpiresAt := input.expiresAt } ∈ t.orders.rows := by
  cases op with
  | confirm id tradeNo pid amount now =>
    refine Or.inl ?_
    obtain ⟨x, hx, hid, ⟨-, rfl⟩ | ⟨hopen, orders, hrows, rfl⟩⟩ := confirm_cases h
    · exact ho
    · show o ∈ orders.rows
      rw [hrows]
      refine List.mem_map.mpr ⟨o, ho, if_neg ?_⟩
      intro hsame
      obtain rfl : o = x := eq_of_key_eq s.orders.keys_nodup ho hx (hsame.trans hid.symm)
      exact hopen hsettled
  | createOrder draft =>
    refine Or.inl ?_
    obtain ⟨⟨u, order⟩, hcreate, rfl⟩ := map_eq_ok.mp h
    simp only [createMembershipOrder, check_bind_eq_ok] at hcreate
    obtain ⟨-, -, hcreate⟩ := hcreate
    obtain ⟨terms, -, hcreate⟩ := bind_eq_ok.mp hcreate
    split at hcreate
    · simp only [check_bind_eq_ok, commit_eq_ok, Prod.mk.injEq] at hcreate
      obtain ⟨-, rfl, -⟩ := hcreate
      exact List.mem_map.mpr ⟨o, ho, expireOrder_of_settled hsettled⟩
    · simp only [orFail_bind_eq_ok, commit_eq_ok, Prod.mk.injEq] at hcreate
      obtain ⟨orders, hinsert, rfl, -⟩ := hcreate
      show o ∈ orders.rows
      rw [Table.rows_of_insert? hinsert]
      exact List.mem_append_left _ (List.mem_map.mpr ⟨o, ho, expireOrder_of_settled hsettled⟩)
  | cancelOrder id userID =>
    simp only [perform, cancelMembershipOrder, check_bind_eq_ok, commit_eq_ok] at h
    obtain ⟨-, rfl⟩ := h
    exact Or.inl (List.mem_map.mpr ⟨o, ho, expireOrder_of_settled hsettled⟩)
  | expireOverdue now =>
    obtain rfl := Except.ok.inj h
    exact Or.inl (List.mem_map.mpr ⟨o, ho, expireOrder_of_settled hsettled⟩)
  | adjust userID input now =>
    simp only [perform, adjustMembership, check_bind_eq_ok, commit_eq_ok] at h
    obtain ⟨-, -, -, -, rfl⟩ := h
    simp only [putMembership]
    split_ifs with hreview
    · by_cases hhit : o.id = input.reviewOrderID ∧ o.userID = userID ∧ o.status = .reviewRequired
      · exact Or.inr ⟨hhit.2.2, userID, input, now, rfl, hhit.1.symm, List.mem_map.mpr ⟨o, ho, if_pos hhit⟩⟩
      · exact Or.inl (List.mem_map.mpr ⟨o, ho, if_neg hhit⟩)
    · exact Or.inl ho
  | saveSettings settings now =>
    simp only [perform, savePaymentSettings, orFail_bind_eq_ok, commit_eq_ok] at h
    obtain ⟨revision, -, rfl⟩ := h
    refine Or.inl ?_
    simp only [activateMemberships]
    split_ifs <;> exact ho
  | changeUser userID status =>
    obtain rfl := Except.ok.inj h
    exact Or.inl ho
  | changePlans ownedPlans seated =>
    obtain rfl := Except.ok.inj h
    exact Or.inl ho

lemma perform_paid {op : MembershipOp} (h : perform s op = .ok t) {o : Order} (ho : o ∈ s.orders.rows)
    (hpaid : o.status = .paid) : o ∈ t.orders.rows := by
  rcases perform_settled h ho (Or.inl hpaid) with hkept | ⟨hreview, -⟩
  · exact hkept
  · simp [hpaid] at hreview

lemma priced_run {users : String → Option UserStatus} {ownedPlans : String → ℕ} {seated : String → Bool}
    {settings : Option PaymentSettings} {ops : List MembershipOp} {k : MembershipState}
    (hrun : Run (fun a op b => perform a op = .ok b) (migrated users ownedPlans seated settings) ops k) :
    Priced k := by
  refine hrun.invariant ?_ fun _ _ _ hu hstep => (perform_effect hstep).priced hu
  exact ⟨by simp [migrated], by simp [migrated], by simp [migrated]⟩

end Invariant

section Results

/-- The tier runs until a period after the expiry of the running membership, or after now. -/
def Extended (tier : Tier) (now : ℤ) (before after : Option MembershipRow) : Prop :=
  tierOf after = tier ∧ expiryOf after = some (max now (activeUntil before now) + servicePeriod)

/-- What a paid order buys. -/
def Fulfilled (product : Product) (now : ℤ) (before after : Option MembershipRow) : Prop :=
  match product with
  | .vip => Extended .vip now before after
  | .svip => Extended .svip now before after
  | .upgrade => activeAt before now ∧ tierOf before = .vip ∧ tierOf after = .svip ∧ expiryOf after = expiryOf before

def tierRank : Tier → ℕ
  | .none => 0
  | .vip => 1
  | .svip => 2

/-- A running membership keeps running, with no lower tier and no earlier expiry. -/
def NoWorse (now : ℤ) (before after : Option MembershipRow) : Prop :=
  activeAt before now → activeAt after now ∧ tierRank (tierOf before) ≤ tierRank (tierOf after) ∧
    activeUntil before now ≤ activeUntil after now

variable {s t : MembershipState} {o : Order} {now : ℤ}

lemma NoWorse.refl (now : ℤ) (row : Option MembershipRow) : NoWorse now row row := fun h => ⟨h, le_rfl, le_rfl⟩

lemma renewal_fulfilled {tier tier' : Tier} {userID : String} {expiresAt : ℤ} {after : Option MembershipRow}
    (hgrant : renewal tier (readMembership s userID now) now = some (tier', expiresAt))
    (htier : tierOf after = tier') (hexpiry : expiryOf after = some expiresAt) :
    Extended tier now (s.memberships userID) after := by
  obtain ⟨rfl, rfl, -⟩ := renewal_eq_some hgrant
  exact ⟨htier, by rw [hexpiry, max_eq_right (le_activeUntil _ _)]⟩

lemma activeUntil_eq (now : ℤ) {row : Option MembershipRow} {expiresAt : ℤ} (htier : tierOf row ≠ .none)
    (hexpiry : expiryOf row = some expiresAt) (hlt : now < expiresAt) :
    activeAt row now ∧ activeUntil row now = expiresAt := by
  have hactive : activeAt row now := ⟨htier, expiresAt, hexpiry, hlt⟩
  exact ⟨hactive, by rw [activeUntil, if_pos hactive, hexpiry, Option.getD_some]⟩

lemma renewal_noWorse {tier tier' : Tier} {userID : String} {expiresAt : ℤ} {after : Option MembershipRow}
    (hsold : tier ≠ .none) (hgrant : renewal tier (readMembership s userID now) now = some (tier', expiresAt))
    (htier : tierOf after = tier') (hexpiry : expiryOf after = some expiresAt) :
    NoWorse now (s.memberships userID) after := by
  intro hactive
  obtain ⟨rfl, rfl, hsame⟩ := renewal_eq_some hgrant
  have hle := le_activeUntil (s.memberships userID) now
  have hperiod : (0 : ℤ) < servicePeriod := by decide
  obtain ⟨hafter, huntil⟩ := activeUntil_eq now (htier ▸ hsold) hexpiry (by omega)
  exact ⟨hafter, by rw [hsame hactive, htier], by rw [huntil]; omega⟩

/-- A grant gives the payer what he bought and leaves him no worse off. -/
lemma fulfillment_sound (after : Option MembershipRow) (hs : Priced s) (ho : o ∈ s.orders.rows) {tier : Tier}
    {expiresAt : ℤ}
    (hgrant : fulfillment o (readMembership s o.userID now) now = some (tier, expiresAt))
    (htier : tierOf after = tier) (hexpiry : expiryOf after = some expiresAt) :
    Fulfilled o.product now (s.memberships o.userID) after ∧ NoWorse now (s.memberships o.userID) after := by
  cases hproduct : o.product with
  | vip =>
    rw [fulfillment, hproduct] at hgrant
    exact ⟨renewal_fulfilled hgrant htier hexpiry, renewal_noWorse (by simp) hgrant htier hexpiry⟩
  | svip =>
    rw [fulfillment, hproduct] at hgrant
    exact ⟨renewal_fulfilled hgrant htier hexpiry, renewal_noWorse (by simp) hgrant htier hexpiry⟩
  | upgrade =>
    obtain ⟨rfl, hupgrade, hlt, hactive, hvip, hrevision⟩ := upgrade_eq_some hproduct hgrant
    have hsame := hs.frozen o ho hproduct hrevision.symm
    rw [hupgrade] at hsame
    refine ⟨⟨hactive, hvip, htier, hexpiry.trans hsame⟩, fun _ => ?_⟩
    obtain ⟨hafter, huntil⟩ := activeUntil_eq now (by simp [htier]) hexpiry hlt
    obtain ⟨-, hbefore⟩ := activeUntil_eq now (by simp [hvip]) hsame.symm hlt
    exact ⟨hafter, by rw [hvip, htier]; decide, by rw [huntil, hbefore]⟩

/-- The rows that a settling confirmation leaves: the order, settled, and the payer's membership. -/
lemma confirm_open {id tradeNo pid : String} {amount : ℤ} (hs : Priced s) (ho : o ∈ s.orders.rows)
    (hid : o.id = id) (hopen : ¬ Settled o)
    (h : confirmMembershipPayment id tradeNo pid amount now s = .ok t) :
    (∃ o' ∈ t.orders.rows, o'.id = id ∧ (o'.status = .reviewRequired ∧ t.memberships = s.memberships ∨
      o'.status = .paid ∧ Fulfilled o.product now (s.memberships o.userID) (t.memberships o.userID))) ∧
    (∀ u, u ≠ o.userID → t.memberships u = s.memberships u) ∧
    NoWorse now (s.memberships o.userID) (t.memberships o.userID) := by
  obtain ⟨x, hx, hxid, ⟨hsettled, -⟩ | ⟨-, orders, hrows, rfl⟩⟩ := confirm_cases h
  · obtain rfl : o = x := eq_of_key_eq s.orders.keys_nodup ho hx (hid.trans hxid.symm)
    exact absurd hsettled hopen
  obtain rfl : o = x := eq_of_key_eq s.orders.keys_nodup ho hx (hid.trans hxid.symm)
  have hmem : settleOrder tradeNo now (fulfillment o (readMembership s o.userID now) now) o ∈ orders.rows := by
    rw [hrows]
    exact List.mem_map.mpr ⟨o, ho, if_pos hid⟩
  refine ⟨?_, fun u hu => applyGrant_of_ne hu, ?_⟩
  · refine ⟨_, hmem, hid, ?_⟩
    cases hgrant : fulfillment o (readMembership s o.userID now) now with
    | none => exact Or.inl ⟨rfl, rfl⟩
    | some grant =>
      obtain ⟨row, hrow, htier, hexpiry, -⟩ := applyGrant_self s o.userID now grant.1 grant.2
      refine Or.inr ⟨rfl, ?_⟩
      rw [show _ = some row from hrow]
      exact (fulfillment_sound (some row) hs ho hgrant htier hexpiry).1
  · cases hgrant : fulfillment o (readMembership s o.userID now) now with
    | none => exact NoWorse.refl now _
    | some grant =>
      obtain ⟨row, hrow, htier, hexpiry, -⟩ := applyGrant_self s o.userID now grant.1 grant.2
      rw [show _ = some row from hrow]
      exact (fulfillment_sound (some row) hs ho hgrant htier hexpiry).2

/-- A confirmation that writes a membership leaves its order paid. -/
lemma confirm_writes {id tradeNo pid : String} {amount : ℤ} (hs : Priced s)
    (h : confirmMembershipPayment id tradeNo pid amount now s = .ok t) (hne : t.memberships ≠ s.memberships) :
    ∃ o ∈ t.orders.rows, o.id = id ∧ o.status = .paid := by
  obtain ⟨o, ho, hid, hcases⟩ := confirm_cases h
  rcases hcases with ⟨-, rfl⟩ | ⟨hopen, -⟩
  · exact absurd rfl hne
  · obtain ⟨⟨o', ho', hid', ⟨-, hsame⟩ | ⟨hpaid, -⟩⟩, -, -⟩ := confirm_open hs ho hid hopen h
    · exact absurd hsame hne
    · exact ⟨o', ho', hid', hpaid⟩

/-- Wherever a run leads. An order writes a membership at most once through confirmations. A trade
number of a provider settles one order. Paid orders are final, and orders under review end only in an
adjustment. An open order becomes paid with what it sold, or is put under review and changes nothing.
No confirmation leaves anybody worse off. -/
theorem payments_applied_once {users : String → Option UserStatus} {ownedPlans : String → ℕ}
    {seated : String → Bool} {settings : Option PaymentSettings} {ops : List MembershipOp} {k : MembershipState}
    (hrun : Run (fun a op b => perform a op = .ok b) (migrated users ownedPlans seated settings) ops k) :
    (∀ id tradeNo pid amount now k', perform k (.confirm id tradeNo pid amount now) = .ok k' →
      k'.memberships ≠ k.memberships → ∀ ops' l, Run (fun a op b => perform a op = .ok b) k' ops' l →
      ∀ tradeNo' pid' amount' now' l', perform l (.confirm id tradeNo' pid' amount' now') = .ok l' →
      l'.memberships = l.memberships) ∧
    (∀ o ∈ k.orders.rows, ∀ o' ∈ k.orders.rows, Settled o → Settled o' →
      o.providerBaseURL = o'.providerBaseURL → o.providerPID = o'.providerPID → o.tradeNo = o'.tradeNo → o = o') ∧
    (∀ op k', perform k op = .ok k' → ∀ o ∈ k.orders.rows,
      (o.status = .paid → o ∈ k'.orders.rows) ∧
      (o.status = .reviewRequired → o ∈ k'.orders.rows ∨ ∃ userID input now, op = .adjust userID input now ∧
        input.reviewOrderID = o.id ∧
        { o with status := .paid, serviceExpiresAt := input.expiresAt } ∈ k'.orders.rows)) ∧
    (∀ id tradeNo pid amount now k', perform k (.confirm id tradeNo pid amount now) = .ok k' →
      ∀ o ∈ k.orders.rows, o.id = id → ¬ Settled o →
      ∃ o' ∈ k'.orders.rows, o'.id = id ∧ (o'.status = .reviewRequired ∧ k'.memberships = k.memberships ∨
        o'.status = .paid ∧ Fulfilled o.product now (k.memberships o.userID) (k'.memberships o.userID))) ∧
    (∀ id tradeNo pid amount now k', perform k (.confirm id tradeNo pid amount now) = .ok k' →
      ∀ u, NoWorse now (k.memberships u) (k'.memberships u)) := by
  have hpriced := priced_run hrun
  refine ⟨?_, ?_, ?_, ?_, ?_⟩
  · intro id tradeNo pid amount now k' hconfirm hne ops' l hlater tradeNo' pid' amount' now' l' hagain
    obtain ⟨o, ho, hid, hpaid⟩ := confirm_writes hpriced hconfirm hne
    have hkept : o ∈ l.orders.rows :=
      hlater.invariant (I := fun u => o ∈ u.orders.rows) ho fun _ _ _ hu hstep => perform_paid hstep hu hpaid
    obtain ⟨x, hx, hxid, ⟨-, rfl⟩ | ⟨hopen, -⟩⟩ := confirm_cases hagain
    · rfl
    · obtain rfl : o = x := eq_of_key_eq l.orders.keys_nodup hkept hx (hid.trans hxid.symm)
      exact absurd (Or.inl hpaid) hopen
  · intro o ho o' ho' hsettled hsettled' hbase hpid htrade
    obtain ⟨tradeNo, hno⟩ := hpriced.numbered o ho hsettled
    have hindex : ∀ x : Order, Settled x → x.tradeNo = some tradeNo →
        orderIndex x = some (.inr (x.providerBaseURL, x.providerPID, tradeNo)) := by
      intro x hx hxno
      rcases hx with hx | hx <;> simp [orderIndex, hx, hxno]
    refine k.orders.eq_of_index_eq ho ho' (hindex o hsettled hno) ?_
    rw [hbase, hpid]
    exact hindex o' hsettled' (htrade ▸ hno)
  · intro op k' hstep o ho
    refine ⟨perform_paid hstep ho, fun hreview => ?_⟩
    exact (perform_settled hstep ho (Or.inr hreview)).imp_right And.right
  · intro id tradeNo pid amount now k' hconfirm o ho hid hopen
    exact (confirm_open hpriced ho hid hopen hconfirm).1
  · intro id tradeNo pid amount now k' hconfirm u
    obtain ⟨o, ho, hid, hcases⟩ := confirm_cases hconfirm
    rcases hcases with ⟨-, rfl⟩ | ⟨hopen, -⟩
    · exact NoWorse.refl now _
    · obtain ⟨-, hothers, hpayer⟩ := confirm_open hpriced ho hid hopen hconfirm
      by_cases hu : u = o.userID
      · rw [hu]
        exact hpayer
      · rw [hothers u hu]
        exact NoWorse.refl now _

/-- Everybody is a user and nobody has a plan yet. -/
def openShop : MembershipState := migrated (fun _ => some .active) (fun _ => 0) (fun _ => false) none

/-- A first month of vip is paid; its callback arrives twice and then an upgrade is paid. -/
theorem payments_applied_once_repeatedCallback :
    ∃ k k', Run (fun a op b => perform a op = .ok b) openShop
        [.saveSettings ⟨"https://pay", "merchant", true, 0⟩ 0,
          .createOrder ⟨"first", "u", .vip, "merchant", "https://pay", 10, 1800000010⟩,
          .confirm "first" "trade1" "merchant" 990 20, .confirm "first" "trade1" "merchant" 990 30,
          .createOrder ⟨"second", "u", .upgrade, "merchant", "https://pay", 40, 1800000040⟩] k ∧
      perform k (.confirm "second" "trade2" "merchant" 1000 50) = .ok k' ∧
      activeAt (k.memberships "u") 50 ∧ activeAt (k'.memberships "u") 50 ∧
      activeUntil (k.memberships "u") 50 ≤ activeUntil (k'.memberships "u") 50 := by
  have hend : ((executeWhen (fun _ _ => True) perform openShop
      [.saveSettings ⟨"https://pay", "merchant", true, 0⟩ 0,
        .createOrder ⟨"first", "u", .vip, "merchant", "https://pay", 10, 1800000010⟩,
        .confirm "first" "trade1" "merchant" 990 20, .confirm "first" "trade1" "merchant" 990 30,
        .createOrder ⟨"second", "u", .upgrade, "merchant", "https://pay", 40, 1800000040⟩]).map fun k =>
        (decide (activeAt (k.memberships "u") 50),
          (perform k (.confirm "second" "trade2" "merchant" 1000 50)).isOk)) = some (true, true) := by
    decide
  obtain ⟨k, hexecuted, hk⟩ := Option.map_eq_some_iff.mp hend
  obtain ⟨hactive, hok⟩ := Prod.mk.inj hk
  have hrun := (run_of_executeWhen hexecuted).mono fun _ _ _ => And.left
  cases hconfirm : perform k (.confirm "second" "trade2" "merchant" 1000 50) with
  | error e => simp [hconfirm, Except.isOk, Except.toBool] at hok
  | ok k' =>
    obtain ⟨-, -, -, -, hnoWorse⟩ := payments_applied_once hrun
    have hbefore : activeAt (k.memberships "u") 50 := of_decide_eq_true hactive
    obtain ⟨hafter, -, huntil⟩ := hnoWorse _ _ _ _ _ k' hconfirm "u" hbefore
    exact ⟨k, k', hrun, hconfirm, hbefore, hafter, huntil⟩

end Results

end ShareSub.MembershipPayments

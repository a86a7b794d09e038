import Mathlib
import ShareSub.SessionSafety

/-!
# A verification signs its user in once

A verification takes all the open tokens of its user, and a token is added for a user who is not verified only. So a user
has no open token once verified, unless the server has verified an admin itself.
-/
namespace ShareSub.VerificationOnce

open IdentityModel IdentitySteps VerificationMail SessionSafety

variable {p : Primitives} {c : Config} {s t : System} {e : Event}

/-- The ids of the tokens are apart from each other and from those that a call has still to add. -/
structure Numbered (s : System) : Prop where
  tokens : (s.store.tokens.map EmailVerificationToken.id).Nodup
  drawn : ∀ r ∈ s.store.tokens, r.id < s.drawn
  verified : ∀ v ∈ s.verifications, v.id < s.drawn
  creating : ∀ (i : ℕ) v, s.calls[i]? = some (.creatingToken v) →
    (∀ r ∈ s.store.tokens, r.id ≠ v.id) ∧ ∀ w ∈ s.verifications, w.id ≠ v.id

/-- A verification is for a token that is open no more, and for a user who is verified since. -/
structure Single (s : System) : Prop where
  once : (s.verifications.map EmailVerificationToken.id).Nodup
  consumed : ∀ v ∈ s.verifications, ∀ r ∈ s.store.tokens, r.id = v.id → r.consumedAt.isSome
  confirmed : ∀ v ∈ s.verifications, Confirmed s v.userID
  closed : ∀ u user, s.store.users.lookup u = some user → user.role ≠ .admin → user.emailVerifiedAt.isSome →
    ∀ r ∈ s.store.tokens, r.userID = u → r.consumedAt.isSome
  used : ∀ u user, s.store.users.lookup u = some user → user.role ≠ .admin →
    (s.verifications.countP fun v => v.userID = u) ≤ 1

lemma Numbered.initial : Numbered System.initial :=
  ⟨.nil, by simp [System.initial], by simp [System.initial], by simp [System.initial]⟩

lemma Single.initial : Single System.initial :=
  ⟨.nil, by simp [System.initial], by simp [System.initial], by simp [System.initial], by simp [System.initial]⟩

/-- A step that adds no token, with a call whose token is drawn just now. -/
lemma Numbered.frame (h : Numbered s)
    (htokens : (t.store.tokens.map EmailVerificationToken.id).Sublist (s.store.tokens.map EmailVerificationToken.id))
    (hverifications : ∀ w ∈ t.verifications, w ∈ s.verifications ∨ w ∈ s.store.tokens) (hdrawn : s.drawn ≤ t.drawn)
    (hcalls : ∀ (i : ℕ) v, t.calls[i]? = some (.creatingToken v) →
      s.calls[i]? = some (.creatingToken v) ∨ v.id = s.drawn) : Numbered t := by
  have hids : ∀ r ∈ t.store.tokens, ∃ r' ∈ s.store.tokens, r'.id = r.id := fun r hr =>
    List.mem_map.mp (htokens.subset (List.mem_map_of_mem hr))
  constructor
  · exact h.tokens.sublist htokens
  · intro r hr
    obtain ⟨r', hr', heq⟩ := hids r hr
    exact heq ▸ (h.drawn r' hr').trans_le hdrawn
  · intro w hw
    rcases hverifications w hw with hw | hw
    · exact (h.verified w hw).trans_le hdrawn
    · exact (h.drawn w hw).trans_le hdrawn
  · intro i v hv
    rcases hcalls i v hv with hv | hnew
    · refine ⟨fun r hr => ?_, fun w hw => ?_⟩
      · obtain ⟨r', hr', heq⟩ := hids r hr
        exact heq ▸ (h.creating i v hv).1 r' hr'
      · rcases hverifications w hw with hw | hw
        · exact (h.creating i v hv).2 w hw
        · exact (h.creating i v hv).1 w hw
    · rw [hnew]
      refine ⟨fun r hr => ?_, fun w hw => ?_⟩
      · obtain ⟨r', hr', heq⟩ := hids r hr
        exact heq ▸ (h.drawn r' hr').ne
      · rcases hverifications w hw with hw | hw
        · exact (h.verified w hw).ne
        · exact (h.drawn w hw).ne

lemma id_sublist_updateRows {q : EmailVerificationToken → Prop} [DecidablePred q] {now : ℤ}
    {rows : List EmailVerificationToken} :
    ((updateRows q (fun r => { r with consumedAt := some now }) rows).map EmailVerificationToken.id).Sublist
      (rows.map EmailVerificationToken.id) := by
  have hid : (updateRows q (fun r => { r with consumedAt := some now }) rows).map EmailVerificationToken.id =
      rows.map EmailVerificationToken.id := by
    rw [updateRows, List.map_map]
    refine List.map_congr_left fun r _ => ?_
    simp only [Function.comp_apply]
    split_ifs <;> rfl
  rw [hid]

lemma Numbered.move (h : Numbered s) (hdrafted : Drafted c s) (hmove : Move c s e t) : Numbered t := by
  cases hmove with
  | rested keep k i next hnext =>
    refine h.frame (List.Sublist.refl _) (fun w => .inl) (Nat.le_add_right _ _) fun j v hv => .inl (call_of_set ?_ hv)
    rcases hnext with rfl | ⟨x, rfl⟩ <;> simp
  | registered user now hverified hrole =>
    refine ⟨?_, fun r hr => ?_, fun w hw => (h.verified w hw).trans (by simp), fun j v hv => ?_⟩
    · rw [List.map_append, List.nodup_append]
      refine ⟨h.tokens, List.nodup_singleton _, ?_⟩
      rintro _ hold _ hnew heq
      obtain ⟨r, hr, rfl⟩ := List.mem_map.mp hold
      exact (h.drawn r hr).ne (heq.trans (List.mem_singleton.mp hnew))
    · rcases List.mem_append.mp hr with hr | hr
      · exact (h.drawn r hr).trans (by simp)
      · rw [List.mem_singleton.mp hr]
        exact Nat.lt_add_of_pos_right (by decide)
    · have hv' := call_of_append_ne (by simp) hv
      refine ⟨fun r hr => ?_, (h.creating j v hv').2⟩
      rcases List.mem_append.mp hr with hr | hr
      · exact (h.creating j v hv').1 r hr
      · rw [List.mem_singleton.mp hr]
        exact (hdrafted.calls j v (unsentAt_of_getElem? hv')).id.ne'
  | drafted userID user now huser =>
    refine h.frame (List.Sublist.refl _) (fun w => .inl) (by simp) fun j v hv => ?_
    rcases call_of_append hv with hv | ⟨-, hnew⟩
    · exact .inl hv
    · cases hnew
      exact .inr rfl
  | created i v user now hevent hcall huser hverified hlast hroom =>
    have hv := unsentAt_of_getElem? hcall
    refine ⟨?_, fun r hr => ?_, h.verified, fun j w hw => ?_⟩
    · rw [List.map_append, List.nodup_append]
      refine ⟨h.tokens, List.nodup_singleton _, ?_⟩
      rintro _ hold _ hnew heq
      obtain ⟨r, hr, rfl⟩ := List.mem_map.mp hold
      exact (h.creating i v hcall).1 r hr (heq.trans (List.mem_singleton.mp hnew))
    · rcases List.mem_append.mp hr with hr | hr
      · exact h.drawn r hr
      · rw [List.mem_singleton.mp hr]
        exact (hdrafted.calls i v hv).id
    · have hij : i ≠ j := by
        rintro rfl
        rw [List.getElem?_set_self (unsentAt_lt hv)] at hw
        cases hw
      have hw' : s.calls[j]? = some (.creatingToken w) := call_of_set (by simp) hw
      refine ⟨fun r hr => ?_, (h.creating j w hw').2⟩
      rcases List.mem_append.mp hr with hr | hr
      · exact (h.creating j w hw').1 r hr
      · rw [List.mem_singleton.mp hr]
        exact fun heq => hij (hdrafted.apart i j v w hv (unsentAt_of_getElem? hw') heq)
  | sent i v resend hcall =>
    refine h.frame (List.Sublist.refl _) (fun w => .inl) le_rfl fun j w hw => .inl (call_of_set ?_ hw)
    cases resend <;> simp
  | unsent i v hcall =>
    exact h.frame (List.Sublist.refl _) (fun w => .inl) le_rfl fun j w hw => .inl (call_of_set (by simp) hw)
  | discarded i v hcall =>
    exact h.frame (List.filter_sublist.map _) (fun w => .inl) le_rfl fun j w hw => .inl (call_of_set (by simp) hw)
  | superseded i v =>
    exact h.frame id_sublist_updateRows (fun w => .inl) le_rfl fun j w hw =>
      .inl (call_of_set (by simp) hw)
  | verified v user now htoken hlive hexpires huser =>
    refine h.frame id_sublist_updateRows (fun w hw => ?_) le_rfl fun j w hw =>
      .inl (call_of_append_ne (by simp) hw)
    rcases List.mem_append.mp hw with hw | hw
    · exact .inl hw
    · rw [List.mem_singleton.mp hw]
      exact .inr htoken
  | admitted userID user huser hverified =>
    exact h.frame (List.Sublist.refl _) (fun w => .inl) le_rfl fun j w hw => .inl (call_of_append_ne (by simp) hw)
  | opened i userID now hcall =>
    exact h.frame (List.Sublist.refl _) (fun w => .inl) (by simp) fun j w hw => .inl (call_of_set (by simp) hw)
  | changing userID user passwordHash token huser =>
    exact h.frame (List.Sublist.refl _) (fun w => .inl) (by simp) fun j w hw => .inl (call_of_append_ne (by simp) hw)
  | wrote userID user user' keep k i huser hwrite =>
    exact h.frame (List.Sublist.refl _) (fun w => .inl) (Nat.le_add_right _ _) fun j w hw =>
      .inl (call_of_set (by simp) hw)
  | seeded user hrole => exact h.frame (List.Sublist.refl _) (fun w => .inl) (by simp) fun j w hw => .inl hw
  | cleaned now locked => exact h.frame (List.filter_sublist.map _) (fun w => .inl) le_rfl fun j w hw => .inl hw

/-- What a step that neither adds a token nor verifies a user keeps. -/
lemma Single.frame (h : Single s) (hconfirmed : ∀ u, Confirmed s u → Confirmed t u)
    (htokens : ∀ r ∈ t.store.tokens, ∃ r' ∈ s.store.tokens, r'.id = r.id ∧ r'.userID = r.userID ∧
      (r'.consumedAt.isSome → r.consumedAt.isSome))
    (hverifications : t.verifications = s.verifications)
    (husers : ∀ u user', t.store.users.lookup u = some user' → user'.role ≠ .admin →
      ∃ user, s.store.users.lookup u = some user ∧ user.role ≠ .admin ∧
        (user'.emailVerifiedAt.isSome → user.emailVerifiedAt.isSome)) : Single t := by
  constructor
  · rw [hverifications]
    exact h.once
  · intro v hv r hr hid
    rw [hverifications] at hv
    obtain ⟨r', hr', hid', -, hconsumed⟩ := htokens r hr
    exact hconsumed (h.consumed v hv r' hr' (hid'.trans hid))
  · rw [hverifications]
    exact fun v hv => hconfirmed _ (h.confirmed v hv)
  · intro u user' huser' hrole hverified r hr hid
    obtain ⟨user, huser, hrole', hback⟩ := husers u user' huser' hrole
    obtain ⟨r', hr', -, hid', hconsumed⟩ := htokens r hr
    exact hconsumed (h.closed u user huser hrole' (hback hverified) r' hr' (hid'.trans hid))
  · intro u user' huser' hrole
    obtain ⟨user, huser, hrole', -⟩ := husers u user' huser' hrole
    rw [hverifications]
    exact h.used u user huser hrole'

lemma consumed_updateRows {q : EmailVerificationToken → Prop} [DecidablePred q] {now : ℤ}
    {rows : List EmailVerificationToken} :
    ∀ r ∈ updateRows q (fun r => { r with consumedAt := some now }) rows,
      ∃ r' ∈ rows, r'.id = r.id ∧ r'.userID = r.userID ∧ (q r' → r.consumedAt.isSome) ∧
        (r'.consumedAt.isSome → r.consumedAt.isSome) := by
  intro r hr
  obtain ⟨r', hr', rfl⟩ := List.mem_map.mp hr
  refine ⟨r', hr', ?_⟩
  split_ifs with hq
  · exact ⟨rfl, rfl, fun _ => rfl, fun _ => rfl⟩
  · exact ⟨rfl, rfl, fun h => absurd h hq, fun h => h⟩

/-- A token that is added for a user who is not verified. -/
lemma Single.add (h : Single s) {v : EmailVerificationToken} (hnew : ∀ w ∈ s.verifications, w.id ≠ v.id)
    (hconfirmed : ∀ u, Confirmed s u → Confirmed t u) (htokens : t.store.tokens = s.store.tokens ++ [v])
    (hverifications : t.verifications = s.verifications)
    (husers : ∀ u user, t.store.users.lookup u = some user → s.store.users.lookup u = some user ∨
      (user.emailVerifiedAt = none ∧ ¬ Confirmed s u))
    (hunverified : ∀ user, t.store.users.lookup v.userID = some user → user.emailVerifiedAt = none) : Single t := by
  constructor
  · rw [hverifications]
    exact h.once
  · intro w hw r hr hid
    rw [hverifications] at hw
    rw [htokens] at hr
    rcases List.mem_append.mp hr with hr | hr
    · exact h.consumed w hw r hr hid
    · rw [List.mem_singleton.mp hr] at hid
      exact absurd hid.symm (hnew w hw)
  · rw [hverifications]
    exact fun w hw => hconfirmed _ (h.confirmed w hw)
  · intro u user huser hrole hverified r hr hid
    rw [htokens] at hr
    rcases List.mem_append.mp hr with hr | hr
    · rcases husers u user huser with huser | ⟨hnone, -⟩
      · exact h.closed u user huser hrole hverified r hr hid
      · rw [hnone] at hverified
        cases hverified
    · rw [List.mem_singleton.mp hr] at hid
      rw [hunverified user (hid ▸ huser)] at hverified
      cases hverified
  · intro u user huser hrole
    rw [hverifications]
    rcases husers u user huser with huser | ⟨-, hnone⟩
    · exact h.used u user huser hrole
    · have hzero : (s.verifications.countP fun w => w.userID = u) = 0 := by
        refine List.countP_eq_zero.mpr fun w hw hid => hnone ?_
        rw [decide_eq_true_eq] at hid
        exact hid ▸ h.confirmed w hw
      omega

/-- The verification takes the open tokens of its user, who has not been verified before unless it is an admin. -/
lemma Single.verify (h : Single s) (hnumbered : Numbered s) (hconfirmed : ∀ u, Confirmed s u → Confirmed t u)
    {v : EmailVerificationToken} {user : User} {now : ℤ} (htoken : v ∈ s.store.tokens) (hlive : v.consumedAt = none)
    (huser : s.store.users.lookup v.userID = some user)
    (hstore : t.store = { s.store with
      users := s.store.users.insert v.userID { user with emailVerifiedAt := some (user.emailVerifiedAt.getD now) }
      tokens := updateRows (fun r => r.userID = v.userID ∧ r.consumedAt = none)
        (fun r => { r with consumedAt := some now }) s.store.tokens })
    (hverifications : t.verifications = s.verifications ++ [v]) : Single t := by
  have hfresh : ∀ w ∈ s.verifications, w.id ≠ v.id := by
    intro w hw hid
    have hsome := h.consumed w hw v htoken hid.symm
    rw [hlive] at hsome
    cases hsome
  have htokens : ∀ r ∈ t.store.tokens, ∃ r' ∈ s.store.tokens, r'.id = r.id ∧ r'.userID = r.userID ∧
      (r'.userID = v.userID ∧ r'.consumedAt = none → r.consumedAt.isSome) ∧
        (r'.consumedAt.isSome → r.consumedAt.isSome) := by
    rw [hstore]
    exact consumed_updateRows
  have hclosed : ∀ r ∈ t.store.tokens, r.userID = v.userID → r.consumedAt.isSome := by
    intro r hr hid
    obtain ⟨r', hr', -, hid', htaken, hkept⟩ := htokens r hr
    cases hconsumed : r'.consumedAt with
    | none => exact htaken ⟨hid'.trans hid, hconsumed⟩
    | some at' => exact hkept (hconsumed ▸ rfl)
  constructor
  · rw [hverifications, List.map_append, List.nodup_append]
    refine ⟨h.once, List.nodup_singleton _, ?_⟩
    rintro _ hold _ hnew heq
    obtain ⟨w, hw, rfl⟩ := List.mem_map.mp hold
    exact hfresh w hw (heq.trans (List.mem_singleton.mp hnew))
  · intro w hw r hr hid
    obtain ⟨r', hr', hrid, hruser, -, hkept⟩ := htokens r hr
    rw [hverifications] at hw
    rcases List.mem_append.mp hw with hw | hw
    · exact hkept (h.consumed w hw r' hr' (hrid.trans hid))
    · rw [List.mem_singleton.mp hw] at hid
      have hsame : r' = v := List.inj_on_of_nodup_map hnumbered.tokens hr' htoken (hrid.trans hid)
      exact hclosed r hr (hruser.symm.trans (hsame ▸ rfl))
  · intro w hw
    rw [hverifications] at hw
    rcases List.mem_append.mp hw with hw | hw
    · exact hconfirmed _ (h.confirmed w hw)
    · rw [List.mem_singleton.mp hw]
      refine ⟨{ user with emailVerifiedAt := some (user.emailVerifiedAt.getD now) }, ?_, rfl⟩
      rw [hstore]
      exact AList.lookup_insert _
  · intro u user' huser' hrole hverified r hr hid
    by_cases hu : u = v.userID
    · exact hclosed r hr (hid.trans hu)
    · rw [hstore] at huser'
      rw [FiniteMap.lookup_insert, if_neg hu] at huser'
      obtain ⟨r', hr', -, hruser, -, hkept⟩ := htokens r hr
      exact hkept (h.closed u user' huser' hrole hverified r' hr' (hruser.trans hid))
  · intro u user' huser' hrole
    rw [hstore] at huser'
    rw [FiniteMap.lookup_insert] at huser'
    rw [hverifications, List.countP_append, List.countP_singleton]
    split_ifs at huser' with hu
    · -- The token was open, so its user was not verified, and no verification before was theirs.
      have hrole' : user.role ≠ .admin := by
        cases huser'
        exact hrole
      have hnone : ¬ user.emailVerifiedAt.isSome := by
        intro hverified
        have hsome := h.closed v.userID user huser hrole' hverified v htoken rfl
        rw [hlive] at hsome
        cases hsome
      have hzero : (s.verifications.countP fun w => w.userID = u) = 0 := by
        refine List.countP_eq_zero.mpr fun w hw hid => ?_
        rw [decide_eq_true_eq] at hid
        obtain ⟨found, hfound, hverified⟩ := h.confirmed w hw
        rw [hid, hu, huser, Option.some_inj] at hfound
        exact hnone (hfound ▸ hverified)
      split_ifs <;> omega
    · have hother : ¬ v.userID = u := fun heq => hu heq.symm
      simpa [hother] using h.used u user' huser' hrole

theorem Single.move (h : Single s) (hdrafted : Drafted c s) (hnumbered : Numbered s) (hmove : Move c s e t) : Single t := by
  have hconfirmed : ∀ u, Confirmed s u → Confirmed t u := fun u hu => hu.move hdrafted hmove
  have hsame : ∀ r ∈ s.store.tokens, ∃ r' ∈ s.store.tokens, r'.id = r.id ∧ r'.userID = r.userID ∧
      (r'.consumedAt.isSome → r.consumedAt.isSome) := fun r hr => ⟨r, hr, rfl, rfl, fun h => h⟩
  have husers : ∀ u user', s.store.users.lookup u = some user' → user'.role ≠ .admin →
      ∃ user, s.store.users.lookup u = some user ∧ user.role ≠ .admin ∧
        (user'.emailVerifiedAt.isSome → user.emailVerifiedAt.isSome) :=
    fun u user huser hrole => ⟨user, huser, hrole, fun h => h⟩
  cases hmove with
  | registered user now hverified hrole =>
    have hnew : ¬ Confirmed s (s.drawn + 2) := by
      rintro ⟨found, hfound, -⟩
      have hlt := hdrafted.users (s.drawn + 2) (hfound ▸ rfl)
      omega
    refine h.add (v := newEmailVerification c s (s.drawn + 2) now) (fun w hw => (hnumbered.verified w hw).ne) hconfirmed rfl
      rfl (fun u found hfound => ?_) fun found hfound => ?_
    · dsimp only at hfound
      rw [FiniteMap.lookup_insert] at hfound
      split_ifs at hfound with hu
      · cases hfound
        exact .inr ⟨hverified, hu ▸ hnew⟩
      · exact .inl hfound
    · rw [show (newEmailVerification c s (s.drawn + 2) now).userID = s.drawn + 2 from rfl, AList.lookup_insert,
        Option.some_inj] at hfound
      exact hfound ▸ hverified
  | created i v user now hevent hcall huser hverified hlast hroom =>
    refine h.add (hnumbered.creating i v hcall).2 hconfirmed rfl rfl (fun u found => .inl) fun found hfound => ?_
    rw [huser, Option.some_inj] at hfound
    exact hfound ▸ hverified
  | verified v user now htoken hlive hexpires huser => exact h.verify hnumbered hconfirmed htoken hlive huser rfl rfl
  | wrote userID user user' keep k i huser hwrite =>
    refine h.frame hconfirmed hsame rfl fun u found hfound hrole => ?_
    dsimp only at hfound
    rw [FiniteMap.lookup_insert] at hfound
    split_ifs at hfound with hu
    · cases hfound
      refine ⟨user, hu ▸ huser, fun hadmin => hrole (hwrite.admin hadmin), fun hverified => ?_⟩
      rcases hwrite.verifying hverified with hbefore | hadmin
      · exact hbefore
      · exact absurd hadmin hrole
    · exact husers u found hfound hrole
  | seeded user hadmin =>
    refine h.frame hconfirmed hsame rfl fun u found hfound hrole => ?_
    dsimp only at hfound
    rw [FiniteMap.lookup_insert] at hfound
    split_ifs at hfound with hu
    · cases hfound
      exact absurd hadmin hrole
    · exact husers u found hfound hrole
  | discarded i v hcall =>
    exact h.frame hconfirmed (fun r hr => hsame r (List.mem_of_mem_filter hr)) rfl husers
  | superseded i v =>
    refine h.frame hconfirmed (fun r hr => ?_) rfl husers
    obtain ⟨r', hr', hid, huser, -, hkept⟩ := consumed_updateRows r hr
    exact ⟨r', hr', hid, huser, hkept⟩
  | cleaned now locked => exact h.frame hconfirmed (fun r hr => hsame r (List.mem_of_mem_filter hr)) rfl husers
  | rested keep k i next hnext => exact h.frame hconfirmed hsame rfl husers
  | drafted userID user now huser => exact h.frame hconfirmed hsame rfl husers
  | sent i v resend hcall => exact h.frame hconfirmed hsame rfl husers
  | unsent i v hcall => exact h.frame hconfirmed hsame rfl husers
  | admitted userID user huser hverified => exact h.frame hconfirmed hsame rfl husers
  | opened i userID now hcall => exact h.frame hconfirmed hsame rfl husers
  | changing userID user passwordHash token huser => exact h.frame hconfirmed hsame rfl husers

lemma Single.run (h : Single s) (hnumbered : Numbered s) (hdrafted : Drafted c s) (events : List Event) :
    Single (run p c s events) := by
  induction events generalizing s with
  | nil => exact h
  | cons e events ih =>
    exact ih (h.move hdrafted hnumbered (step_move (p := p))) (hnumbered.move hdrafted step_move) (hdrafted.move step_move)

/-- In every run no token verifies twice, and a user who is no admin is verified by one token at most and has none that is
open after it; every session is of a verified user, and has a token of its own. -/
theorem verified_once (p : Primitives) (c : Config) (events : List Event) :
    ((run p c System.initial events).verifications.map EmailVerificationToken.id).Nodup ∧
      (∀ userID user, (run p c System.initial events).store.users.lookup userID = some user → user.role ≠ .admin →
        ((run p c System.initial events).verifications.countP fun v => v.userID = userID) ≤ 1 ∧
          (user.emailVerifiedAt.isSome → ∀ r ∈ (run p c System.initial events).store.tokens, r.userID = userID →
            r.consumedAt.isSome)) ∧
      (∀ r ∈ (run p c System.initial events).store.sessions, Confirmed (run p c System.initial events) r.userID) ∧
      ((run p c System.initial events).store.sessions.map UserSession.tokenHash).Nodup := by
  have hsingle : Single (run p c System.initial events) := Single.initial.run Numbered.initial Drafted.initial events
  have hverified : Verified (run p c System.initial events) := (Verified.initial.run Drafted.initial events).1
  refine ⟨hsingle.once, fun userID user huser hrole => ⟨hsingle.used userID user huser hrole, fun hdone => ?_⟩,
    hverified.sessions, hverified.distinct⟩
  exact hsingle.closed userID user huser hrole hdone

end ShareSub.VerificationOnce

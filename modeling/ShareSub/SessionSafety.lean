import Mathlib
import ShareSub.VerificationMail

/-!
# The sessions of verified users, and their end

A session is opened by a call that has seen its user verified. Whatever takes a session away takes it for good, for a call
opens one session at most. A verification is good for one sign-in, and a user who is verified has no other, but for an
admin, whom the server verifies itself.
-/
namespace ShareSub.SessionSafety

open IdentityModel IdentitySteps VerificationMail

variable {p : Primitives} {c : Config} {s t : System} {e : Event} {r : UserSession} {userID i j : ℕ}

section Revocation

/-- The session comes from a call that begins later, or that is about to open a session of the user. -/
def Later (s : System) (r : UserSession) : Prop :=
  s.calls[r.openedBy]? = none ∨ s.calls[r.openedBy]? = some (.openingSession r.userID)

lemma later_of_set {next : Call} (hnext : ∀ u, next ≠ .openingSession u) (hcalls : t.calls = s.calls.set i next)
    (h : Later t r) : Later s r := by
  rcases h with h | h <;> rw [hcalls] at h
  · left
    rw [List.getElem?_eq_none_iff, List.length_set] at h
    exact List.getElem?_eq_none h
  · exact .inr (call_of_set (hnext _) h)

lemma later_of_append {call : Call} (hcalls : t.calls = s.calls ++ [call]) (h : Later t r) : Later s r := by
  rcases h with h | h <;> rw [hcalls] at h
  · left
    rw [List.getElem?_eq_none_iff, List.length_append] at h
    exact List.getElem?_eq_none (by omega)
  · rcases call_of_append h with h | ⟨hj, -⟩
    · exact .inr h
    · exact .inl (List.getElem?_eq_none hj.ge)

lemma Later.move (hmove : Move c s e t) (h : Later t r) : Later s r := by
  cases hmove with
  | rested keep k i next hnext =>
    refine later_of_set ?_ rfl h
    rcases hnext with rfl | ⟨v, rfl⟩ <;> simp
  | registered user now hverified hrole => exact later_of_append rfl h
  | drafted userID user now huser => exact later_of_append rfl h
  | created i v user now hevent hcall huser hverified hlast hroom => exact later_of_set (by simp) rfl h
  | sent i v resend hcall =>
    refine later_of_set ?_ rfl h
    cases resend <;> simp
  | unsent i v hcall => exact later_of_set (by simp) rfl h
  | discarded i v hcall => exact later_of_set (by simp) rfl h
  | superseded i v => exact later_of_set (by simp) rfl h
  | verified v user now htoken hlive hexpires huser => exact later_of_append rfl h
  | admitted userID user huser hverified => exact later_of_append rfl h
  | opened i userID now hcall => exact later_of_set (by simp) rfl h
  | changing userID user passwordHash token huser => exact later_of_append rfl h
  | wrote userID user user' keep k i huser hwrite => exact later_of_set (by simp) rfl h
  | seeded user hrole => exact h
  | cleaned now locked => exact h

/-- A step has no session but those before it and the one of a call that was about to open it. -/
lemma session_move (hmove : Move c s e t) (h : r ∈ t.store.sessions) : r ∈ s.store.sessions ∨ Later s r := by
  cases hmove with
  | rested keep k i next hnext => exact .inl (List.mem_of_mem_filter h)
  | opened i userID now hcall =>
    rcases List.mem_append.mp h with h | h
    · exact .inl h
    · rw [List.mem_singleton.mp h]
      exact .inr (.inr hcall)
  | wrote userID user user' keep k i huser hwrite => exact .inl (List.mem_of_mem_filter h)
  | cleaned now locked => exact .inl (List.mem_of_mem_filter h)
  | registered user now hverified hrole => exact .inl h
  | drafted userID user now huser => exact .inl h
  | created i v user now hevent hcall huser hverified hlast hroom => exact .inl h
  | sent i v resend hcall => exact .inl h
  | unsent i v hcall => exact .inl h
  | discarded i v hcall => exact .inl h
  | superseded i v => exact .inl h
  | verified v user now htoken hlive hexpires huser => exact .inl h
  | admitted userID user huser hverified => exact .inl h
  | changing userID user passwordHash token huser => exact .inl h
  | seeded user hrole => exact .inl h

lemma session_run (events : List Event) (h : r ∈ (run p c s events).store.sessions) : r ∈ s.store.sessions ∨ Later s r := by
  induction events generalizing s with
  | nil => exact .inl h
  | cons e events ih =>
    rcases ih (s := s.step p c e) h with h | h
    · exact session_move step_move h
    · exact .inr (h.move step_move)

end Revocation

section Verified

/-- A user who is verified is there. -/
def Confirmed (s : System) (userID : ℕ) : Prop :=
  ∃ user, s.store.users.lookup userID = some user ∧ user.emailVerifiedAt.isSome

lemma lookup_insert_of_lt {users : FiniteMap ℕ User} {user : User} {id id' : ℕ} (hlt : id < id') :
    (users.insert id' user).lookup id = users.lookup id := by
  rw [FiniteMap.lookup_insert, if_neg hlt.ne]

/-- A user stays, and so does what the server has found out about them. -/
lemma users_move (hdrafted : Drafted c s) (hmove : Move c s e t) {id : ℕ} {user : User}
    (huser : s.store.users.lookup id = some user) :
    ∃ user', t.store.users.lookup id = some user' ∧ (user.emailVerifiedAt.isSome → user'.emailVerifiedAt.isSome) ∧
      (user.role = .admin → user'.role = .admin) := by
  have hlt : id < s.drawn := hdrafted.users id (huser ▸ rfl)
  cases hmove with
  | registered user' now hverified hrole =>
    exact ⟨user, (lookup_insert_of_lt (by omega)).trans huser, fun h => h, fun h => h⟩
  | seeded user' hrole => exact ⟨user, (lookup_insert_of_lt (by omega)).trans huser, fun h => h, fun h => h⟩
  | verified v user' now htoken hlive hexpires huser' =>
    dsimp only
    rw [FiniteMap.lookup_insert]
    split_ifs with hid
    · rw [← hid, huser, Option.some_inj] at huser'
      subst huser'
      exact ⟨_, rfl, fun _ => rfl, fun h => h⟩
    · exact ⟨user, huser, fun h => h, fun h => h⟩
  | wrote userID old new keep k i huser' hwrite =>
    dsimp only
    rw [FiniteMap.lookup_insert]
    split_ifs with hid
    · rw [← hid, huser, Option.some_inj] at huser'
      subst huser'
      exact ⟨_, rfl, hwrite.verified, hwrite.admin⟩
    · exact ⟨user, huser, fun h => h, fun h => h⟩
  | rested keep k i next hnext => exact ⟨user, huser, fun h => h, fun h => h⟩
  | drafted userID user' now huser' => exact ⟨user, huser, fun h => h, fun h => h⟩
  | created i v user' now hevent hcall huser' hverified hlast hroom => exact ⟨user, huser, fun h => h, fun h => h⟩
  | sent i v resend hcall => exact ⟨user, huser, fun h => h, fun h => h⟩
  | unsent i v hcall => exact ⟨user, huser, fun h => h, fun h => h⟩
  | discarded i v hcall => exact ⟨user, huser, fun h => h, fun h => h⟩
  | superseded i v => exact ⟨user, huser, fun h => h, fun h => h⟩
  | admitted userID user' huser' hverified => exact ⟨user, huser, fun h => h, fun h => h⟩
  | opened i userID now hcall => exact ⟨user, huser, fun h => h, fun h => h⟩
  | changing userID user' passwordHash token huser' => exact ⟨user, huser, fun h => h, fun h => h⟩
  | cleaned now locked => exact ⟨user, huser, fun h => h, fun h => h⟩

lemma Confirmed.move (hdrafted : Drafted c s) (hmove : Move c s e t) (h : Confirmed s userID) : Confirmed t userID := by
  obtain ⟨user, huser, hverified⟩ := h
  obtain ⟨user', huser', hkept, -⟩ := users_move hdrafted hmove huser
  exact ⟨user', huser', hkept hverified⟩

/-- The sessions and the calls are of users who are there, and a session is opened for a verified one. -/
structure Verified (s : System) : Prop where
  sessions : ∀ r ∈ s.store.sessions, Confirmed s r.userID
  opening : ∀ i u : ℕ, s.calls[i]? = some (.openingSession u) → Confirmed s u
  changing : ∀ (i u : ℕ) hash token, s.calls[i]? = some (.updatingPassword u hash token) → (s.store.users.lookup u).isSome
  drawn : ∀ r ∈ s.store.sessions, r.tokenHash < s.drawn
  distinct : (s.store.sessions.map UserSession.tokenHash).Nodup

lemma Verified.initial : Verified System.initial :=
  ⟨by simp [System.initial], by simp [System.initial], by simp [System.initial], by simp [System.initial], .nil⟩

/-- What a step that opens no session keeps, if its new call is of a user whom it has looked up. -/
lemma Verified.frame (h : Verified s) (hdrafted : Drafted c s) (hmove : Move c s e t)
    (hsessions : t.store.sessions.Sublist s.store.sessions) (hdrawn : s.drawn ≤ t.drawn)
    (hopening : ∀ i u : ℕ, t.calls[i]? = some (.openingSession u) →
      s.calls[i]? = some (.openingSession u) ∨ Confirmed t u)
    (hchanging : ∀ (i u : ℕ) hash token, t.calls[i]? = some (.updatingPassword u hash token) →
      s.calls[i]? = some (.updatingPassword u hash token) ∨ (s.store.users.lookup u).isSome) : Verified t := by
  constructor
  · exact fun r hr => (h.sessions r (hsessions.subset hr)).move hdrafted hmove
  · intro i u hcall
    rcases hopening i u hcall with hcall | hconfirmed
    · exact (h.opening i u hcall).move hdrafted hmove
    · exact hconfirmed
  · intro i u hash token hcall
    have hthere : (s.store.users.lookup u).isSome := by
      rcases hchanging i u hash token hcall with hcall | hthere
      · exact h.changing i u hash token hcall
      · exact hthere
    obtain ⟨user, huser⟩ := Option.isSome_iff_exists.mp hthere
    obtain ⟨user', huser', -⟩ := users_move hdrafted hmove huser
    rw [huser']
    rfl
  · exact fun r hr => (h.drawn r (hsessions.subset hr)).trans_le hdrawn
  · exact h.distinct.sublist (hsessions.map _)

/-- A step that sets a call to a phase that is not about a session or a password. -/
lemma Verified.goto (h : Verified s) (hdrafted : Drafted c s) (hmove : Move c s e t) {next : Call}
    (hcalls : t.calls = s.calls.set i next) (hopening : ∀ u, next ≠ .openingSession u)
    (hchanging : ∀ u hash token, next ≠ .updatingPassword u hash token)
    (hsessions : t.store.sessions.Sublist s.store.sessions) (hdrawn : s.drawn ≤ t.drawn) : Verified t := by
  refine h.frame hdrafted hmove hsessions hdrawn (fun j u hcall => ?_) fun j u hash token hcall => ?_
  · rw [hcalls] at hcall
    exact .inl (call_of_set (hopening u) hcall)
  · rw [hcalls] at hcall
    exact .inl (call_of_set (hchanging u hash token) hcall)

/-- A step with a call of a user whom it has looked up. -/
lemma Verified.call (h : Verified s) (hdrafted : Drafted c s) (hmove : Move c s e t) {next : Call}
    (hcalls : t.calls = s.calls ++ [next]) (hopening : ∀ u, next = .openingSession u → Confirmed t u)
    (hchanging : ∀ u hash token, next = .updatingPassword u hash token → (s.store.users.lookup u).isSome)
    (hsessions : t.store.sessions = s.store.sessions) (hdrawn : s.drawn ≤ t.drawn) : Verified t := by
  refine h.frame hdrafted hmove (hsessions ▸ List.Sublist.refl _) hdrawn (fun j u hcall => ?_) fun j u hash token hcall => ?_
  · rw [hcalls] at hcall
    rcases call_of_append hcall with hcall | ⟨-, hnext⟩
    · exact .inl hcall
    · exact .inr (hopening u hnext)
  · rw [hcalls] at hcall
    rcases call_of_append hcall with hcall | ⟨-, hnext⟩
    · exact .inl hcall
    · exact .inr (hchanging u hash token hnext)

theorem Verified.move (h : Verified s) (hdrafted : Drafted c s) (hmove : Move c s e t) : Verified t := by
  have hstep := hmove
  cases hmove with
  | rested keep k i next hnext =>
    refine h.goto hdrafted hstep rfl ?_ ?_ List.filter_sublist (Nat.le_add_right _ _)
    · rcases hnext with rfl | ⟨v, rfl⟩ <;> simp
    · rcases hnext with rfl | ⟨v, rfl⟩ <;> simp
  | registered user now hverified hrole => exact h.call hdrafted hstep rfl (by simp) (by simp) rfl (by simp)
  | drafted userID user now huser => exact h.call hdrafted hstep rfl (by simp) (by simp) rfl (by simp)
  | created i v user now hevent hcall huser hverified hlast hroom =>
    exact h.goto hdrafted hstep rfl (by simp) (by simp) (List.Sublist.refl _) le_rfl
  | sent i v resend hcall =>
    refine h.goto hdrafted hstep rfl ?_ ?_ (List.Sublist.refl _) le_rfl
    · cases resend <;> simp
    · cases resend <;> simp
  | unsent i v hcall => exact h.goto hdrafted hstep rfl (by simp) (by simp) (List.Sublist.refl _) le_rfl
  | discarded i v hcall => exact h.goto hdrafted hstep rfl (by simp) (by simp) (List.Sublist.refl _) le_rfl
  | superseded i v => exact h.goto hdrafted hstep rfl (by simp) (by simp) (List.Sublist.refl _) le_rfl
  | verified v user now htoken hlive hexpires huser =>
    refine h.call hdrafted hstep rfl ?_ (by simp) rfl le_rfl
    rintro u ⟨⟩
    exact ⟨_, AList.lookup_insert _, rfl⟩
  | admitted userID user huser hverified =>
    refine h.call hdrafted hstep rfl ?_ (by simp) rfl le_rfl
    rintro u ⟨⟩
    exact ⟨user, huser, hverified⟩
  | changing userID user passwordHash token huser =>
    refine h.call hdrafted hstep rfl (by simp) ?_ rfl (by simp)
    rintro u hash token ⟨⟩
    exact huser ▸ rfl
  | wrote userID user user' keep k i huser hwrite =>
    exact h.goto hdrafted hstep rfl (by simp) (by simp) List.filter_sublist (Nat.le_add_right _ _)
  | seeded user hrole => exact h.frame hdrafted hstep (List.Sublist.refl _) (by simp) (fun j u => .inl) fun j u hash token => .inl
  | cleaned now locked => exact h.frame hdrafted hstep List.filter_sublist le_rfl (fun j u => .inl) fun j u hash token => .inl
  | opened i userID now hcall =>
    -- The hash of the new session is drawn for it.
    refine ⟨fun r hr => ?_, fun j u hu => ?_, fun j u hash token hu => ?_, fun r hr => ?_, ?_⟩
    · rcases List.mem_append.mp hr with hr | hr
      · exact h.sessions r hr
      · rw [List.mem_singleton.mp hr]
        exact h.opening i userID hcall
    · exact h.opening j u (call_of_set (by simp) hu)
    · exact h.changing j u hash token (call_of_set (by simp) hu)
    · rcases List.mem_append.mp hr with hr | hr
      · exact (h.drawn r hr).trans (by simp)
      · rw [List.mem_singleton.mp hr]
        exact Nat.lt_succ_self _
    · rw [List.map_append, List.nodup_append]
      refine ⟨h.distinct, List.nodup_singleton _, ?_⟩
      rintro _ hold _ hnew heq
      obtain ⟨r, hr, rfl⟩ := List.mem_map.mp hold
      have hlt := h.drawn r hr
      rw [heq, List.mem_singleton.mp hnew] at hlt
      exact absurd hlt (by simp)

lemma Verified.run (h : Verified s) (hdrafted : Drafted c s) (events : List Event) :
    Verified (run p c s events) ∧ Drafted c (run p c s events) := by
  induction events generalizing s with
  | nil => exact ⟨h, hdrafted⟩
  | cons e events ih => exact ih (h.move hdrafted (step_move (p := p))) (hdrafted.move step_move)

end Verified

section Revoked

/-- The event ends the sessions of a user, but for the one that has changed its password. -/
inductive Revokes (p : Primitives) (s : System) (userID : ℕ) : Option ℕ → Event → Prop
  | changedPassword (i : ℕ) (passwordHash : String) (token : ℕ) (now : ℤ)
      (hcall : s.calls[i]? = some (.updatingPassword userID passwordHash token)) :
      Revokes p s userID (some token) (.proceed i (.done now))
  | disabled (token adminID : ℕ) (admin : User) (now : ℤ)
      (hsession : s.store.userBySessionHash token now = some (adminID, admin)) (hrole : admin.role = .admin)
      (hother : userID ≠ adminID) : Revokes p s userID none (.adminUpdateUserStatus token userID .disabled now)
  | resetAdminPassword (email password passwordHash : String) (user : User) (now : ℤ)
      (hhash : hashPassword p s.drawn password = some passwordHash)
      (huser : s.store.userByEmail p (if normalizeEmail p email = "" then bootstrapAdminEmail else normalizeEmail p email) =
        some (userID, user)) (hrole : user.role = .admin) :
      Revokes p s userID none (.resetAdminPassword email password now)

lemma Revokes.step {kept : Option ℕ} (h : Revokes p s userID kept e) (hverified : Verified s) :
    ∀ r ∈ (s.step p c e).store.sessions, r.userID = userID → some r.tokenHash = kept := by
  cases h with
  | changedPassword i passwordHash token now hcall =>
    obtain ⟨user, huser⟩ := Option.isSome_iff_exists.mp (hverified.changing i userID passwordHash token hcall)
    intro r hr hid
    simp only [System.step, System.proceed, hcall, Store.updatePassword, huser, System.goto] at hr
    have hkept := (List.mem_filter.mp hr).2
    simp only [decide_eq_true_eq, not_and, not_not] at hkept
    rw [hkept hid]
  | disabled token adminID admin now hsession hrole hother =>
    intro r hr hid
    have hadmin : (s.store.userBySessionHash token now).filter (fun e => e.2.role = .admin) = some (adminID, admin) := by
      rw [hsession, Option.filter_some, if_pos (by simpa using hrole)]
    simp only [System.step, System.adminUpdateUserStatus, hadmin, if_neg hother, Store.adminUpdateUserStatus] at hr
    cases huser : s.store.users.lookup userID with
    | none =>
      simp only [huser, System.update, Option.getD_none] at hr
      obtain ⟨user, hfound, -⟩ := hverified.sessions r hr
      rw [hid, huser] at hfound
      cases hfound
    | some user =>
      simp only [huser, System.update, Option.getD_some, if_pos] at hr
      have hkept := (List.mem_filter.mp hr).2
      exact absurd hid (by simpa using hkept)
  | resetAdminPassword email password passwordHash user now hhash huser hrole =>
    intro r hr hid
    have hadmin : (s.store.userByEmail p
        (if normalizeEmail p email = "" then bootstrapAdminEmail else normalizeEmail p email)).filter
          (fun e => e.2.role = .admin) = some (userID, user) := by
      rw [huser, Option.filter_some, if_pos (by simpa using hrole)]
    simp only [System.step, System.resetAdminPassword, hhash, Store.resetAdminPassword, hadmin, System.update,
      Option.getD_some] at hr
    have hkept := (List.mem_filter.mp hr).2
    exact absurd hid (by simpa using hkept)

lemma run_append (before after : List Event) : run p c s (before ++ after) = run p c (run p c s before) after :=
  List.foldl_append ..

/-- In every run a session that was ended does not come back: what a user has after it is the session that was kept, and
what a call opens that has begun since, or was about to. -/
theorem ended_sessions_stay_ended (p : Primitives) (c : Config) (before after : List Event) {kept : Option ℕ}
    (h : Revokes p (run p c System.initial before) userID kept e) :
    ∀ r ∈ (run p c System.initial (before ++ e :: after)).store.sessions, r.userID = userID →
      some r.tokenHash = kept ∨ Later (run p c System.initial before) r := by
  intro r hr hid
  have hbefore := (Verified.initial.run Drafted.initial before : Verified (run p c System.initial before) ∧ _)
  rw [run_append] at hr
  rcases session_run after (s := (run p c System.initial before).step p c e) hr with hr | hlater
  · exact .inl (h.step hbefore.1 r hr hid)
  · exact .inr (hlater.move step_move)

/-- A verification and a sign-in have opened two sessions, and the first one is about to change the password. -/
def signedIn : List Event :=
  [.register "ann" "a@b.c" "0123456789" ⟨true, "2026-08-17", "2026-08-17", "2026-08-05"⟩ 0, .verifyEmail 1 10,
    .proceed 1 (.done 20), .login "a@b.c" "0123456789", .proceed 2 (.done 30),
    .changePassword 4 "0123456789" "abcdefghij" 40]

theorem ended_sessions_stay_ended_changed :
    (run plain daily System.initial signedIn).store.sessions.map UserSession.tokenHash = [4, 6] ∧
      ∀ r ∈ (run plain daily System.initial
          (signedIn ++ .proceed 3 (.done 50) :: [.login "a@b.c" "abcdefghij", .proceed 4 (.done 60)])).store.sessions,
        r.userID = 2 → some r.tokenHash = some 4 ∨ Later (run plain daily System.initial signedIn) r :=
  ⟨by decide, ended_sessions_stay_ended plain daily signedIn _
    (.changedPassword 3 "abcdefghij" 4 50 (by decide))⟩

end Revoked

end ShareSub.SessionSafety

import Mathlib
import ShareSub.IdentityModel

/-!
# What a step of the users and their sessions can do

One relation lists the changes that a step makes to the rows, the calls and the logs. What holds over whole runs is proved
on it, without the checks of the single functions.
-/
namespace ShareSub.IdentitySteps

open IdentityModel

/-- How an update rewrites a user. -/
structure Rewritten (user user' : User) : Prop where
  verified : user.emailVerifiedAt.isSome → user'.emailVerifiedAt.isSome
  admin : user.role = .admin → user'.role = .admin
  verifying : user'.emailVerifiedAt.isSome → user.emailVerifiedAt.isSome ∨ user'.role = .admin

/-- The changes of a step. A call that is set at the end of the list is not there. -/
inductive Move (c : Config) (s : System) (e : Event) : System → Prop
  | rested (keep : UserSession → Bool) (k i : ℕ) (next : Call) (hnext : next = .returned ∨ ∃ v, next = .abandoned v) :
      Move c s e { s with
        store := { s.store with sessions := s.store.sessions.filter keep }
        calls := s.calls.set i next
        drawn := s.drawn + k }
  | registered (user : User) (now : ℤ) (hverified : user.emailVerifiedAt = none) (hrole : user.role = .user) :
      Move c s e { s with
        store := { s.store with
          users := s.store.users.insert (s.drawn + 2) user
          tokens := s.store.tokens ++ [newEmailVerification c s (s.drawn + 2) now] }
        calls := s.calls ++ [.sending (newEmailVerification c s (s.drawn + 2) now) false]
        drawn := s.drawn + 3 }
  | drafted (userID : ℕ) (user : User) (now : ℤ) (huser : s.store.users.lookup userID = some user) :
      Move c s e { s with
        calls := s.calls ++ [.creatingToken (newEmailVerification c s userID now)]
        drawn := s.drawn + 2 }
  | created (i : ℕ) (v : EmailVerificationToken) (user : User) (now : ℤ) (hevent : e = .proceed i (.done now))
      (hcall : s.calls[i]? = some (.creatingToken v)) (huser : s.store.users.lookup v.userID = some user)
      (hverified : user.emailVerifiedAt = none)
      (hlast : ∀ r ∈ s.store.tokens, r.userID = v.userID → r.createdAt + c.emailResendCooldown ≤ v.createdAt)
      (hroom : (s.store.tokens.countP fun r =>
        r.userID = v.userID ∧ v.createdAt - emailVerificationLimitWindow < r.createdAt) < emailVerificationLimit) :
      Move c s e { s with
        store := { s.store with tokens := s.store.tokens ++ [v] }
        calls := s.calls.set i (.sending v true) }
  | sent (i : ℕ) (v : EmailVerificationToken) (resend : Bool) (hcall : s.calls[i]? = some (.sending v resend)) :
      Move c s e { s with
        calls := s.calls.set i (if resend then .superseding v else .returned)
        mails := s.mails ++ [v.mail] }
  | unsent (i : ℕ) (v : EmailVerificationToken) (hcall : s.calls[i]? = some (.sending v true)) :
      Move c s e { s with calls := s.calls.set i (.discarding v) }
  | discarded (i : ℕ) (v : EmailVerificationToken) (hcall : s.calls[i]? = some (.discarding v)) :
      Move c s e { s with
        store := s.store.deleteEmailVerificationToken v.id v.userID
        calls := s.calls.set i .returned }
  | superseded (i : ℕ) (v : EmailVerificationToken) :
      Move c s e { s with
        store := s.store.supersedeEmailVerificationTokens v.userID v.id v.createdAt
        calls := s.calls.set i .returned }
  | verified (v : EmailVerificationToken) (user : User) (now : ℤ) (htoken : v ∈ s.store.tokens) (hlive : v.consumedAt = none)
      (hexpires : now < v.expiresAt) (huser : s.store.users.lookup v.userID = some user) :
      Move c s e { s with
        store := { s.store with
          users := s.store.users.insert v.userID { user with emailVerifiedAt := some (user.emailVerifiedAt.getD now) }
          tokens := updateRows (fun r => r.userID = v.userID ∧ r.consumedAt = none)
            (fun r => { r with consumedAt := some now }) s.store.tokens }
        calls := s.calls ++ [.openingSession v.userID]
        verifications := s.verifications ++ [v] }
  | admitted (userID : ℕ) (user : User) (huser : s.store.users.lookup userID = some user)
      (hverified : user.emailVerifiedAt.isSome) : Move c s e { s with calls := s.calls ++ [.openingSession userID] }
  | opened (i userID : ℕ) (now : ℤ) (hcall : s.calls[i]? = some (.openingSession userID)) :
      Move c s e { s with
        store := { s.store with
          sessions := s.store.sessions ++ [⟨s.drawn, userID, s.drawn + 1, now + c.sessionTTL, i⟩] }
        calls := s.calls.set i .returned
        drawn := s.drawn + 2 }
  | changing (userID : ℕ) (user : User) (passwordHash : String) (token : ℕ) (huser : s.store.users.lookup userID = some user) :
      Move c s e { s with
        calls := s.calls ++ [.updatingPassword userID passwordHash token]
        drawn := s.drawn + 1 }
  | wrote (userID : ℕ) (user user' : User) (keep : UserSession → Bool) (k i : ℕ)
      (huser : s.store.users.lookup userID = some user) (hwrite : Rewritten user user') :
      Move c s e { s with
        store := { s.store with
          users := s.store.users.insert userID user'
          sessions := s.store.sessions.filter keep }
        calls := s.calls.set i .returned
        drawn := s.drawn + k }
  | seeded (user : User) (hrole : user.role = .admin) :
      Move c s e { s with
        store := { s.store with users := s.store.users.insert (s.drawn + 1) user }
        drawn := s.drawn + 2 }
  | cleaned (now : ℤ) (locked : List ℕ) :
      Move c s e { s with store := s.store.cleanupResources now locked, cleanups := s.cleanups ++ [now] }

variable {p : Primitives} {c : Config} {s : System} {store : Store} {e : Event}

section Rows

lemma mem_of_find?_entries {users : FiniteMap ℕ User} {pick : (Sigma fun _ : ℕ => User) → Bool}
    {e : Sigma fun _ : ℕ => User} (h : users.entries.find? pick = some e) : users.lookup e.1 = some e.2 :=
  FiniteMap.mem_entries_iff.mp (List.mem_of_find?_eq_some h)

lemma userByEmail_some {email : String} {e : ℕ × User} (h : store.userByEmail p email = some e) :
    store.users.lookup e.1 = some e.2 := by
  obtain ⟨e', hfind, rfl⟩ := Option.map_eq_some_iff.mp h
  exact mem_of_find?_entries hfind

lemma userBySessionHash_some {token : ℕ} {now : ℤ} {e : ℕ × User} (h : store.userBySessionHash token now = some e) :
    (∃ r ∈ store.sessions, r.tokenHash = token ∧ r.userID = e.1) ∧ store.users.lookup e.1 = some e.2 ∧
      e.2.status = .active ∧ e.2.emailVerifiedAt.isSome := by
  unfold Store.userBySessionHash at h
  cases hfind : store.sessions.find? fun r => r.tokenHash = token ∧ now < r.expiresAt with
  | none =>
    rw [hfind] at h
    cases h
  | some r =>
    rw [hfind] at h
    obtain ⟨user, huser, rfl⟩ := Option.map_eq_some_iff.mp h
    rw [Option.filter_eq_some_iff] at huser
    have hr := List.find?_some hfind
    simp only [decide_eq_true_eq] at hr huser
    exact ⟨⟨r, List.mem_of_find?_eq_some hfind, hr.1, rfl⟩, huser.1, huser.2⟩

lemma Rewritten.of_eq {user user' : User} (hverified : user'.emailVerifiedAt = user.emailVerifiedAt)
    (hrole : user'.role = user.role) : Rewritten user user' :=
  ⟨fun h => hverified ▸ h, fun h => hrole ▸ h, fun h => .inl (hverified ▸ h)⟩

end Rows

section Calls

lemma call_of_set {calls : List Call} {i j : ℕ} {call next : Call} (hnext : next ≠ call)
    (h : (calls.set i next)[j]? = some call) : calls[j]? = some call := by
  rw [List.getElem?_set] at h
  split_ifs at h
  · exact absurd (Option.some_inj.mp h) hnext
  · exact h

lemma call_of_append {calls : List Call} {j : ℕ} {call next : Call} (h : (calls ++ [next])[j]? = some call) :
    calls[j]? = some call ∨ (j = calls.length ∧ next = call) := by
  rcases lt_trichotomy j calls.length with hj | rfl | hj
  · rw [List.getElem?_append_left hj] at h
    exact .inl h
  · simp only [List.getElem?_concat_length, Option.some_inj] at h
    exact .inr ⟨rfl, h⟩
  · rw [List.getElem?_eq_none (by simp; omega)] at h
    cases h

lemma call_of_append_ne {calls : List Call} {j : ℕ} {call next : Call} (hnext : next ≠ call)
    (h : (calls ++ [next])[j]? = some call) : calls[j]? = some call := by
  rcases call_of_append h with h | ⟨-, h⟩
  · exact h
  · exact absurd h hnext

/-- A step that does nothing is a rest. -/
lemma Move.refl : Move c s e s := by
  have h := Move.rested (c := c) (s := s) (e := e) (fun _ => true) 0 s.calls.length .returned (.inl rfl)
  simpa [List.set_eq_of_length_le] using h

lemma Move.drew (k : ℕ) : Move c s e { s with drawn := s.drawn + k } := by
  have h := Move.rested (c := c) (s := s) (e := e) (fun _ => true) k s.calls.length .returned (.inl rfl)
  simpa [List.set_eq_of_length_le] using h

lemma Move.returned (i : ℕ) : Move c s e (s.goto i .returned) := by
  have h := Move.rested (c := c) (s := s) (e := e) (fun _ => true) 0 i .returned (.inl rfl)
  simpa [System.goto] using h

lemma Move.abandoned (i : ℕ) (v : EmailVerificationToken) : Move c s e (s.goto i (.abandoned v)) := by
  have h := Move.rested (c := c) (s := s) (e := e) (fun _ => true) 0 i (.abandoned v) (.inr ⟨v, rfl⟩)
  simpa [System.goto] using h

lemma register_move (username email password : String) (agreement : RegistrationAgreement) (now : ℤ) :
    Move c s e (s.register p c username email password agreement now) := by
  unfold System.register
  dsimp only
  split_ifs
  · exact .refl
  · cases hhash : hashPassword p s.drawn password with
    | none => exact .refl
    | some passwordHash =>
      dsimp only
      unfold Store.createUserWithEmailVerification
      split_ifs
      · exact .drew 3
      · exact .registered _ now rfl rfl

lemma resendEmailVerification_move (email : String) (now : ℤ) : Move c s e (s.resendEmailVerification p c email now) := by
  unfold System.resendEmailVerification
  dsimp only
  split_ifs
  · exact .refl
  · cases huser : (s.store.userByEmail p (normalizeEmail p email)).filter fun e => e.2.emailVerifiedAt.isNone with
    | none => exact .refl
    | some e =>
      rw [Option.filter_eq_some_iff] at huser
      exact .drafted e.1 e.2 now (userByEmail_some huser.1)

lemma verifyEmail_move (token : ℕ) (now : ℤ) : Move c s e (s.verifyEmail token now) := by
  unfold System.verifyEmail Store.consumeEmailVerificationToken
  cases hfind : s.store.tokens.find? fun r => r.tokenHash = token ∧ r.consumedAt = none ∧ now < r.expiresAt with
  | none => exact .refl
  | some v =>
    have hv := List.find?_some hfind
    simp only [decide_eq_true_eq] at hv
    dsimp only
    cases huser : (s.store.users.lookup v.userID).filter fun user => user.status = .active with
    | none => exact .refl
    | some user =>
      rw [Option.filter_eq_some_iff] at huser
      exact .verified v user now (List.mem_of_find?_eq_some hfind) hv.2.1 hv.2.2 huser.1

lemma login_move (email password : String) : Move c s e (s.login p email password) := by
  unfold System.login
  cases huser : s.store.userByEmail p (normalizeEmail p email) with
  | none => exact .refl
  | some e =>
    dsimp only
    split_ifs with hrefused
    · exact .refl
    · simp only [not_or] at hrefused
      exact .admitted e.1 e.2 (userByEmail_some huser) (Option.isSome_iff_ne_none.mpr hrefused.2.2)

lemma changePassword_move (token : ℕ) (currentPassword newPassword : String) (now : ℤ) :
    Move c s e (s.changePassword p token currentPassword newPassword now) := by
  unfold System.changePassword
  cases huser : s.store.userBySessionHash token now with
  | none => exact .refl
  | some e =>
    dsimp only
    split_ifs
    · exact .refl
    · cases hhash : hashPassword p s.drawn newPassword with
      | none => exact .refl
      | some passwordHash => exact .changing e.1 e.2 passwordHash token (userBySessionHash_some huser).2.1

lemma createEmailVerificationToken_some {v : EmailVerificationToken} {store' : Store}
    (h : store.createEmailVerificationToken c v = some store') :
    (∃ user, store.users.lookup v.userID = some user ∧ user.emailVerifiedAt = none) ∧
      (∀ r ∈ store.tokens, r.userID = v.userID → r.createdAt + c.emailResendCooldown ≤ v.createdAt) ∧
      (store.tokens.countP fun r => r.userID = v.userID ∧ v.createdAt - emailVerificationLimitWindow < r.createdAt) <
        emailVerificationLimit ∧
      store' = { store with tokens := store.tokens ++ [v] } := by
  unfold Store.createEmailVerificationToken at h
  cases huser : store.users.lookup v.userID with
  | none => simp [huser] at h
  | some user =>
    simp only [huser] at h
    split_ifs at h with hverified hlast hroom
    cases h
    refine ⟨⟨user, rfl, by simpa using hverified⟩, ?_, ?_, rfl⟩
    · intro r hr hid
      have hmem : r.createdAt ∈ (store.tokens.filter fun r => r.userID = v.userID).map EmailVerificationToken.createdAt :=
        List.mem_map.mpr ⟨r, List.mem_filter.mpr ⟨hr, by simpa using hid⟩, rfl⟩
      cases hmax : ((store.tokens.filter fun r => r.userID = v.userID).map EmailVerificationToken.createdAt).max? with
      | none =>
        rw [List.max?_eq_none_iff] at hmax
        simp [hmax] at hmem
      | some last =>
        have hle : r.createdAt ≤ last := (List.max?_eq_some_iff.mp hmax).2 _ hmem
        rw [hmax] at hlast
        simp only [Option.any_some, decide_eq_true_eq, not_lt] at hlast
        omega
    · rw [List.countP_filter] at hroom
      refine lt_of_le_of_lt (List.countP_mono_left fun r _ h => ?_) (not_le.mp hroom)
      simp only [decide_eq_true_eq, Bool.and_eq_true] at h ⊢
      exact ⟨h.2, h.1⟩

/-- One case for each phase that a call is in. -/
lemma proceed_move (i : ℕ) (outcome : Outcome) : Move c s (.proceed i outcome) (s.proceed c i outcome) := by
  unfold System.proceed
  cases hcall : s.calls[i]? with
  | none => exact .refl
  | some call =>
    cases call with
    | creatingToken v =>
      cases outcome with
      | fail => exact .returned i
      | done now =>
        dsimp only
        cases hcreate : s.store.createEmailVerificationToken c v with
        | none => exact .returned i
        | some store =>
          obtain ⟨⟨user, huser, hverified⟩, hlast, hroom, rfl⟩ := createEmailVerificationToken_some hcreate
          exact .created i v user now rfl hcall huser hverified hlast hroom
    | sending v resend =>
      cases outcome with
      | fail =>
        cases resend with
        | false => exact .returned i
        | true => exact .unsent i v hcall
      | done now => exact .sent i v resend hcall
    | discarding v =>
      cases outcome with
      | fail => exact .abandoned i v
      | done now => exact .discarded i v hcall
    | superseding v =>
      cases outcome with
      | fail => exact .abandoned i v
      | done now => exact .superseded i v
    | abandoned v =>
      cases outcome with
      | fail => exact .refl
      | done now => exact .refl
    | openingSession userID =>
      cases outcome with
      | fail => exact .returned i
      | done now =>
        dsimp only [Store.createSession]
        split_ifs with hfound
        · exact .opened i userID now hcall
        · exact .returned i
    | updatingPassword userID passwordHash token =>
      cases outcome with
      | fail => exact .returned i
      | done now =>
        dsimp only
        unfold Store.updatePassword
        cases huser : s.store.users.lookup userID with
        | none => exact .returned i
        | some user => exact .wrote userID user _ _ 0 i huser (.of_eq rfl rfl)
    | returned =>
      cases outcome with
      | fail => exact .refl
      | done now => exact .refl

/-- A statement on the users and sessions, outside of the calls. -/
lemma Move.update {userID : ℕ} {user user' : User} (k : ℕ) (keep : UserSession → Bool)
    (huser : s.store.users.lookup userID = some user) (hwrite : Rewritten user user') :
    Move c s e { s with
      store := { s.store with
        users := s.store.users.insert userID user'
        sessions := s.store.sessions.filter keep }
      drawn := s.drawn + k } := by
  have h := Move.wrote (c := c) (e := e) userID user user' keep k s.calls.length huser hwrite
  rwa [List.set_eq_of_length_le le_rfl] at h

lemma updateUsername_move (token : ℕ) (username : String) (now : ℤ) : Move c s e (s.updateUsername p token username now) := by
  unfold System.updateUsername Store.updateUsername
  cases hsession : s.store.userBySessionHash token now with
  | none => exact .refl
  | some found =>
    dsimp only
    rw [(userBySessionHash_some hsession).2.1]
    dsimp only
    split_ifs
    · exact .refl
    · have hwrite : Rewritten found.2 { found.2 with username := GatewayModel.trimSpace username } := .of_eq rfl rfl
      have h := Move.update (c := c) (e := e) 0 (fun _ => true) (userBySessionHash_some hsession).2.1 hwrite
      simpa [System.update] using h
    · exact .refl

lemma adminUpdateUserStatus_move (token userID : ℕ) (status : UserStatus) (now : ℤ) :
    Move c s e (s.adminUpdateUserStatus token userID status now) := by
  unfold System.adminUpdateUserStatus Store.adminUpdateUserStatus
  cases hadmin : (s.store.userBySessionHash token now).filter fun e => e.2.role = .admin with
  | none => exact .refl
  | some found =>
    dsimp only
    split
    · exact .refl
    · cases huser : s.store.users.lookup userID with
      | none => exact .refl
      | some user =>
        have hwrite : Rewritten user { user with status := status } := .of_eq rfl rfl
        by_cases hstatus : status = .disabled
        · have h := Move.update (c := c) (e := e) 0 (fun r => r.userID ≠ userID) huser hwrite
          simpa [System.update, hstatus] using h
        · have h := Move.update (c := c) (e := e) 0 (fun _ => true) huser hwrite
          simpa [System.update, hstatus] using h

lemma ensureBootstrapAdmin_move (password suffix : String) (now : ℤ) :
    Move c s e (s.ensureBootstrapAdmin p password suffix now) := by
  unfold System.ensureBootstrapAdmin
  cases hhash : hashPassword p s.drawn password with
  | none => exact .refl
  | some passwordHash =>
    dsimp only
    unfold Store.ensureBootstrapAdmin
    split
    · exact .drew 2
    · cases hfound : s.store.userByEmail p bootstrapAdminEmail with
      | some found =>
        have hwrite : Rewritten found.2 { found.2 with
            passwordHash := passwordHash
            status := .active
            role := .admin
            emailVerifiedAt := some (found.2.emailVerifiedAt.getD now) } :=
          ⟨fun _ => rfl, fun _ => rfl, fun _ => .inr rfl⟩
        have h := Move.update (c := c) (e := e) 2 (fun _ => true) (userByEmail_some hfound) hwrite
        simpa [System.update] using h
      | none =>
        dsimp only
        split_ifs
        · exact .drew 2
        · exact .seeded _ rfl
        · exact .drew 2
        · exact .seeded _ rfl

lemma resetAdminPassword_move (email password : String) (now : ℤ) :
    Move c s e (s.resetAdminPassword p email password now) := by
  unfold System.resetAdminPassword
  cases hhash : hashPassword p s.drawn password with
  | none => exact .refl
  | some passwordHash =>
    dsimp only
    generalize (if normalizeEmail p email = "" then bootstrapAdminEmail else normalizeEmail p email) = email
    unfold Store.resetAdminPassword
    cases hfound : (s.store.userByEmail p email).filter fun e => e.2.role = .admin with
    | none => exact .drew 1
    | some e =>
      rw [Option.filter_eq_some_iff] at hfound
      have hrole : e.2.role = .admin := by simpa using hfound.2
      exact .update 1 _ (userByEmail_some hfound.1) ⟨fun _ => rfl, fun _ => hrole, fun _ => .inr hrole⟩

theorem step_move : Move c s e (s.step p c e) := by
  cases e with
  | register username email password agreement now => exact register_move username email password agreement now
  | resendEmailVerification email now => exact resendEmailVerification_move email now
  | verifyEmail token now => exact verifyEmail_move token now
  | login email password => exact login_move email password
  | changePassword token currentPassword newPassword now =>
    exact changePassword_move token currentPassword newPassword now
  | updateUsername token username now => exact updateUsername_move token username now
  | logout token =>
    have h := Move.rested (c := c) (s := s) (e := .logout token) (fun r => r.tokenHash ≠ token) 0 s.calls.length .returned (.inl rfl)
    rw [List.set_eq_of_length_le le_rfl] at h
    exact h
  | adminUpdateUserStatus token userID status now => exact adminUpdateUserStatus_move token userID status now
  | ensureBootstrapAdmin password suffix now => exact ensureBootstrapAdmin_move password suffix now
  | resetAdminPassword email password now => exact resetAdminPassword_move email password now
  | cleanupResources now locked => exact .cleaned now locked
  | proceed i outcome => exact proceed_move i outcome

end Calls

end ShareSub.IdentitySteps

import Mathlib
import ShareSub.FiniteMap
import ShareSub.GatewayModel
import ShareSub.Table

/-!
# Users, their sessions and the mails that verify them

The embedding of the users and sessions of `identity_accounts.go`, `admin.go` and `bootstrap_admin.go`, of
`email_verification.go`, and of the statements of `store.go`, `admin.go` and `resource_cleanup.go` on their tables. What a
call of the service has still to do stands in a list of calls, so that any number of them interleave; a call that crashes is
never taken up again. An id or an opaque token is the number of its draw, and so is the hash of a token: no two draws are the
same. Times are in nanoseconds. Avatars, profiles and the must-change flag are left out.
-/
namespace ShareSub.IdentityModel

open GatewayModel (trimSpace)

section Checks

/-- The functions of the standard library and of bcrypt that the service calls. -/
structure Primitives where
  toLower : String → String
  isLetter : Char → Bool
  isNumber : Char → Bool
  /-- The first argument is the salt. -/
  bcrypt : ℕ → String → Option String
  checkPassword : String → String → Bool

structure Config where
  emailVerificationTTL : ℤ
  emailResendCooldown : ℤ
  sessionTTL : ℤ
  cooldown_pos : 0 < emailResendCooldown

def emailVerificationLimit : ℕ := 5

def emailVerificationLimitWindow : ℤ := 60 * 60 * 1000000000

variable (p : Primitives)

def normalizeEmail (value : String) : String := p.toLower (trimSpace value)

/-- The text is cut at its last `@`. -/
def validEmail (value : String) : Bool :=
  let domain := value.toList.reverse.takeWhile (· ≠ '@')
  let before := value.toList.reverse.dropWhile (· ≠ '@')
  1 < before.length && 0 < domain.length && '.' ∈ domain && value.utf8ByteSize ≤ 254

def validUsername (value : String) : Bool :=
  2 ≤ value.length && value.length ≤ 32 && value.toList.all fun c => p.isLetter c || p.isNumber c || c = '_' || c = '-'

structure RegistrationAgreement where
  accepted : Bool
  termsVersion : String
  privacyPolicyVersion : String
  acceptableUseVersion : String
  deriving DecidableEq, Repr

def validRegistrationAgreement (agreement : RegistrationAgreement) : Bool :=
  agreement.accepted && agreement.termsVersion = "2026-08-17" && agreement.privacyPolicyVersion = "2026-08-17" &&
    agreement.acceptableUseVersion = "2026-08-05"

def hashPassword (salt : ℕ) (password : String) : Option String :=
  if password.utf8ByteSize < 10 ∨ 128 < password.utf8ByteSize then none else p.bcrypt salt password

end Checks

section Store

inductive UserStatus
  | active
  | disabled
  deriving DecidableEq, Repr

inductive Role
  | user
  | admin
  deriving DecidableEq, Repr

/-- A row of `users`. -/
structure User where
  username : String
  email : String
  passwordHash : String
  status : UserStatus
  role : Role
  emailVerifiedAt : Option ℤ
  deriving DecidableEq, Repr

/-- A row of `email_verification_tokens`. -/
structure EmailVerificationToken where
  id : ℕ
  userID : ℕ
  tokenHash : ℕ
  expiresAt : ℤ
  consumedAt : Option ℤ
  createdAt : ℤ
  deriving DecidableEq, Repr

/-- A row of `user_sessions`, with the number of the call that has created it. -/
structure UserSession where
  id : ℕ
  userID : ℕ
  tokenHash : ℕ
  expiresAt : ℤ
  openedBy : ℕ
  deriving DecidableEq, Repr

structure Store where
  users : FiniteMap ℕ User
  tokens : List EmailVerificationToken
  sessions : List UserSession

variable (p : Primitives) (c : Config)

/-- The unique indexes on email and username. -/
def Store.taken (s : Store) (user : User) : Bool :=
  s.users.entries.any fun e =>
    p.toLower e.2.email = p.toLower user.email || p.toLower e.2.username = p.toLower user.username

def Store.userByEmail (s : Store) (email : String) : Option (ℕ × User) :=
  (s.users.entries.find? fun e => p.toLower e.2.email = p.toLower email).map fun e => (e.1, e.2)

def Store.createUserWithEmailVerification (s : Store) (id : ℕ) (user : User) (v : EmailVerificationToken) : Option Store :=
  if s.taken p user then none else some { s with users := s.users.insert id user, tokens := s.tokens ++ [v] }

def Store.createEmailVerificationToken (s : Store) (v : EmailVerificationToken) : Option Store :=
  match s.users.lookup v.userID with
  | none => none
  | some user =>
    if user.emailVerifiedAt.isSome then none
    else
      let rows := s.tokens.filter fun r => r.userID = v.userID
      let lastSentAt := (rows.map EmailVerificationToken.createdAt).max?
      let sendsInWindow := rows.countP fun r => v.createdAt - emailVerificationLimitWindow < r.createdAt
      if lastSentAt.any fun last => v.createdAt < last + c.emailResendCooldown then none
      else if emailVerificationLimit ≤ sendsInWindow then none
      else some { s with tokens := s.tokens ++ [v] }

def Store.deleteEmailVerificationToken (s : Store) (verificationID userID : ℕ) : Store :=
  { s with tokens := s.tokens.filter fun r => ¬ (r.id = verificationID ∧ r.userID = userID) }

def Store.supersedeEmailVerificationTokens (s : Store) (userID currentVerificationID : ℕ) (now : ℤ) : Store :=
  { s with
    tokens := updateRows (fun r => r.userID = userID ∧ r.id ≠ currentVerificationID ∧ r.consumedAt = none)
      (fun r => { r with consumedAt := some now }) s.tokens }

/-- The user of a token that is still good is verified, and no token of the user is good any more. -/
def Store.consumeEmailVerificationToken (s : Store) (tokenHash : ℕ) (now : ℤ) : Option (Store × EmailVerificationToken) :=
  match s.tokens.find? fun r => r.tokenHash = tokenHash ∧ r.consumedAt = none ∧ now < r.expiresAt with
  | none => none
  | some v =>
    match (s.users.lookup v.userID).filter fun user => user.status = .active with
    | none => none
    | some user =>
      some ({ s with
        users := s.users.insert v.userID { user with emailVerifiedAt := some (user.emailVerifiedAt.getD now) }
        tokens := updateRows (fun r => r.userID = v.userID ∧ r.consumedAt = none)
          (fun r => { r with consumedAt := some now }) s.tokens }, v)

def Store.createSession (s : Store) (session : UserSession) : Option Store :=
  if (s.users.lookup session.userID).isSome then some { s with sessions := s.sessions ++ [session] } else none

def Store.deleteSession (s : Store) (tokenHash : ℕ) : Store :=
  { s with sessions := s.sessions.filter fun r => r.tokenHash ≠ tokenHash }

def Store.userBySessionHash (s : Store) (tokenHash : ℕ) (now : ℤ) : Option (ℕ × User) :=
  match s.sessions.find? fun r => r.tokenHash = tokenHash ∧ now < r.expiresAt with
  | none => none
  | some session =>
    ((s.users.lookup session.userID).filter fun user => user.status = .active ∧ user.emailVerifiedAt.isSome).map fun user =>
      (session.userID, user)

def Store.updateUsername (s : Store) (userID : ℕ) (username : String) : Option Store :=
  match s.users.lookup userID with
  | none => none
  | some user =>
    if s.users.entries.any fun e => e.1 ≠ userID && p.toLower e.2.username = p.toLower username then none
    else some { s with users := s.users.insert userID { user with username := username } }

def Store.updatePassword (s : Store) (userID : ℕ) (passwordHash : String) (currentSessionHash : ℕ) : Option Store :=
  match s.users.lookup userID with
  | none => none
  | some user =>
    some { s with
      users := s.users.insert userID { user with passwordHash := passwordHash }
      sessions := s.sessions.filter fun r => ¬ (r.userID = userID ∧ r.tokenHash ≠ currentSessionHash) }

def Store.adminUpdateUserStatus (s : Store) (userID : ℕ) (status : UserStatus) : Option Store :=
  match s.users.lookup userID with
  | none => none
  | some user =>
    some { s with
      users := s.users.insert userID { user with status := status }
      sessions := if status = .disabled then s.sessions.filter fun r => r.userID ≠ userID else s.sessions }

def Store.ensureBootstrapAdmin (s : Store) (id : ℕ) (suffix : String) (user : User) (now : ℤ) : Option Store :=
  if s.users.entries.any fun e => e.2.role = .admin then none
  else
    match s.userByEmail p user.email with
    | some (existingID, existing) =>
      some { s with
        users := s.users.insert existingID
          { existing with
            passwordHash := user.passwordHash
            status := .active
            role := .admin
            emailVerifiedAt := some (existing.emailVerifiedAt.getD now) } }
    | none =>
      let username := if s.users.entries.any fun e => p.toLower e.2.username = "admin" then "admin_" ++ suffix else user.username
      let user := { user with username := username, status := .active, role := .admin, emailVerifiedAt := some now }
      if s.taken p user then none else some { s with users := s.users.insert id user }

def Store.resetAdminPassword (s : Store) (email passwordHash : String) (now : ℤ) : Option Store :=
  match (s.userByEmail p email).filter fun e => e.2.role = .admin with
  | none => none
  | some (userID, user) =>
    some { s with
      users := s.users.insert userID
        { user with passwordHash := passwordHash, status := .active, emailVerifiedAt := some (user.emailVerifiedAt.getD now) }
      sessions := s.sessions.filter fun r => r.userID ≠ userID }

/-- Rows that another transaction has locked are skipped. -/
def Store.cleanupResources (s : Store) (now : ℤ) (locked : List ℕ) : Store :=
  { s with
    sessions := s.sessions.filter fun r => ¬ (r.expiresAt < now ∧ r.id ∉ locked)
    tokens := s.tokens.filter fun r =>
      ¬ (r.expiresAt < now ∧ r.createdAt < now - emailVerificationLimitWindow ∧ r.id ∉ locked) }

end Store

section Calls

/-- What a call has still to do. A resend whose last statement has failed is abandoned with its token. -/
inductive Call
  | creatingToken (v : EmailVerificationToken)
  | sending (v : EmailVerificationToken) (resend : Bool)
  | discarding (v : EmailVerificationToken)
  | superseding (v : EmailVerificationToken)
  | abandoned (v : EmailVerificationToken)
  | openingSession (userID : ℕ)
  | updatingPassword (userID : ℕ) (passwordHash : String) (currentSessionHash : ℕ)
  | returned
  deriving DecidableEq, Repr

/-- A mail that was accepted for delivery. -/
structure Mail where
  userID : ℕ
  verificationID : ℕ
  createdAt : ℤ
  deriving DecidableEq, Repr

def EmailVerificationToken.mail (v : EmailVerificationToken) : Mail := ⟨v.userID, v.id, v.createdAt⟩

/-- The store with the calls, and with the logs of the mails, the verifications and the cleanups. -/
structure System where
  store : Store
  calls : List Call
  drawn : ℕ
  mails : List Mail
  verifications : List EmailVerificationToken
  cleanups : List ℤ

inductive Outcome
  | done (now : ℤ)
  | fail
  deriving DecidableEq, Repr

inductive Event
  | register (username email password : String) (agreement : RegistrationAgreement) (now : ℤ)
  | resendEmailVerification (email : String) (now : ℤ)
  | verifyEmail (token : ℕ) (now : ℤ)
  | login (email password : String)
  | changePassword (token : ℕ) (currentPassword newPassword : String) (now : ℤ)
  | updateUsername (token : ℕ) (username : String) (now : ℤ)
  | logout (token : ℕ)
  | adminUpdateUserStatus (token userID : ℕ) (status : UserStatus) (now : ℤ)
  | ensureBootstrapAdmin (password suffix : String) (now : ℤ)
  | resetAdminPassword (email password : String) (now : ℤ)
  | cleanupResources (now : ℤ) (locked : List ℕ)
  | proceed (i : ℕ) (outcome : Outcome)

variable (p : Primitives) (c : Config)

def newEmailVerification (s : System) (userID : ℕ) (now : ℤ) : EmailVerificationToken :=
  ⟨s.drawn, userID, s.drawn + 1, now + c.emailVerificationTTL, none, now⟩

def System.call (s : System) (call : Call) : System := { s with calls := s.calls ++ [call] }

def System.goto (s : System) (i : ℕ) (call : Call) : System := { s with calls := s.calls.set i call }

def System.register (s : System) (username email password : String) (agreement : RegistrationAgreement) (now : ℤ) : System :=
  let email := normalizeEmail p email
  let username := trimSpace username
  if !validEmail email || !validUsername p username || !validRegistrationAgreement agreement then s
  else
    match hashPassword p s.drawn password with
    | none => s
    | some passwordHash =>
      let v := newEmailVerification c s (s.drawn + 2) now
      let user : User := ⟨username, email, passwordHash, .active, .user, none⟩
      match s.store.createUserWithEmailVerification p (s.drawn + 2) user v with
      | none => { s with drawn := s.drawn + 3 }
      | some store => { s with store := store, drawn := s.drawn + 3 }.call (.sending v false)

/-- Up to the token, which is created next. -/
def System.resendEmailVerification (s : System) (email : String) (now : ℤ) : System :=
  let email := normalizeEmail p email
  if !validEmail email then s
  else
    match (s.store.userByEmail p email).filter fun e => e.2.emailVerifiedAt.isNone with
    | none => s
    | some (userID, _) => { s with drawn := s.drawn + 2 }.call (.creatingToken (newEmailVerification c s userID now))

def System.verifyEmail (s : System) (token : ℕ) (now : ℤ) : System :=
  match s.store.consumeEmailVerificationToken token now with
  | none => s
  | some (store, v) =>
    { s with store := store, verifications := s.verifications ++ [v] }.call (.openingSession v.userID)

def System.login (s : System) (email password : String) : System :=
  match s.store.userByEmail p (normalizeEmail p email) with
  | none => s
  | some (userID, user) =>
    if user.status ≠ .active ∨ p.checkPassword user.passwordHash password = false ∨ user.emailVerifiedAt = none then s
    else s.call (.openingSession userID)

def System.changePassword (s : System) (token : ℕ) (currentPassword newPassword : String) (now : ℤ) : System :=
  match s.store.userBySessionHash token now with
  | none => s
  | some (userID, user) =>
    if !p.checkPassword user.passwordHash currentPassword || p.checkPassword user.passwordHash newPassword then s
    else
      match hashPassword p s.drawn newPassword with
      | none => s
      | some passwordHash => { s with drawn := s.drawn + 1 }.call (.updatingPassword userID passwordHash token)

/-- A statement that fails leaves the store as it is. -/
def System.update (s : System) (store : Option Store) : System := { s with store := store.getD s.store }

def System.updateUsername (s : System) (token : ℕ) (username : String) (now : ℤ) : System :=
  match s.store.userBySessionHash token now with
  | none => s
  | some (userID, _) =>
    if validUsername p (trimSpace username) then s.update (s.store.updateUsername p userID (trimSpace username)) else s

def System.adminUpdateUserStatus (s : System) (token userID : ℕ) (status : UserStatus) (now : ℤ) : System :=
  match (s.store.userBySessionHash token now).filter fun e => e.2.role = .admin with
  | none => s
  | some (adminID, _) => if userID = adminID then s else s.update (s.store.adminUpdateUserStatus userID status)

def bootstrapAdminEmail : String := "admin@underelay.com"

def System.ensureBootstrapAdmin (s : System) (password suffix : String) (now : ℤ) : System :=
  match hashPassword p s.drawn password with
  | none => s
  | some passwordHash =>
    { s with drawn := s.drawn + 2 }.update (s.store.ensureBootstrapAdmin p (s.drawn + 1) suffix
      ⟨"admin", bootstrapAdminEmail, passwordHash, .active, .admin, none⟩ now)

def System.resetAdminPassword (s : System) (email password : String) (now : ℤ) : System :=
  let email := if normalizeEmail p email = "" then bootstrapAdminEmail else normalizeEmail p email
  match hashPassword p s.drawn password with
  | none => s
  | some passwordHash => { s with drawn := s.drawn + 1 }.update (s.store.resetAdminPassword p email passwordHash now)

/-- The next statement or mail of a call. -/
def System.proceed (s : System) (i : ℕ) (outcome : Outcome) : System :=
  match s.calls[i]?, outcome with
  | some (.creatingToken v), .done _ =>
    match s.store.createEmailVerificationToken c v with
    | none => s.goto i .returned
    | some store => { s with store := store }.goto i (.sending v true)
  | some (.sending v resend), .done _ =>
    { s with mails := s.mails ++ [v.mail] }.goto i (if resend then .superseding v else .returned)
  | some (.sending v resend), .fail => s.goto i (if resend then .discarding v else .returned)
  | some (.discarding v), .done _ => { s with store := s.store.deleteEmailVerificationToken v.id v.userID }.goto i .returned
  | some (.discarding v), .fail => s.goto i (.abandoned v)
  | some (.superseding v), .done _ =>
    { s with store := s.store.supersedeEmailVerificationTokens v.userID v.id v.createdAt }.goto i .returned
  | some (.superseding v), .fail => s.goto i (.abandoned v)
  | some (.openingSession userID), .done now =>
    match s.store.createSession ⟨s.drawn, userID, s.drawn + 1, now + c.sessionTTL, i⟩ with
    | none => s.goto i .returned
    | some store => { s with store := store, drawn := s.drawn + 2 }.goto i .returned
  | some (.updatingPassword userID passwordHash currentSessionHash), .done _ =>
    match s.store.updatePassword userID passwordHash currentSessionHash with
    | none => s.goto i .returned
    | some store => { s with store := store }.goto i .returned
  | some (.creatingToken _), .fail => s.goto i .returned
  | some (.openingSession _), .fail => s.goto i .returned
  | some (.updatingPassword _ _ _), .fail => s.goto i .returned
  | some (.abandoned _), _ => s
  | some .returned, _ => s
  | none, _ => s

def System.step (s : System) : Event → System
  | .register username email password agreement now => s.register p c username email password agreement now
  | .resendEmailVerification email now => s.resendEmailVerification p c email now
  | .verifyEmail token now => s.verifyEmail token now
  | .login email password => s.login p email password
  | .changePassword token currentPassword newPassword now => s.changePassword p token currentPassword newPassword now
  | .updateUsername token username now => s.updateUsername p token username now
  | .logout token => { s with store := s.store.deleteSession token }
  | .adminUpdateUserStatus token userID status now => s.adminUpdateUserStatus token userID status now
  | .ensureBootstrapAdmin password suffix now => s.ensureBootstrapAdmin p password suffix now
  | .resetAdminPassword email password now => s.resetAdminPassword p email password now
  | .cleanupResources now locked =>
    { s with store := s.store.cleanupResources now locked, cleanups := s.cleanups ++ [now] }
  | .proceed i outcome => s.proceed c i outcome

def System.initial : System := ⟨⟨∅, [], []⟩, [], 0, [], [], []⟩

def run (s : System) (events : List Event) : System := events.foldl (System.step p c) s

end Calls

end ShareSub.IdentityModel

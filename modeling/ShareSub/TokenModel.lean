import Mathlib
import ShareSub.FiniteMap
import ShareSub.GatewayModel

/-!
# The OAuth tokens of the accounts and who writes them

The embedding of `refreshAccountTokenWithAttempts`, of the statements of `store.go` and `lifecycle.go` that it
and its rivals execute, and of the parts of the OAuth client and of `security.go` that they call. A refresher is
a program with a phase for each call that it waits for, so that any number of them, of gateway requests and of
re-authorizations interleave. What a call returns is an argument of the step. Two logs are kept beside the
tables: the token pairs that the OAuth client has returned, and the accounts whose tokens were written. The
subscription column, audit rows and notifications are left out.
-/
namespace ShareSub.TokenModel

open GatewayModel (trimSpace)

section Credentials

/-- What `Encrypt` returns: no two encryptions draw the same nonce. -/
structure Ciphertext where
  nonce : ℕ
  associatedData : String
  plaintext : String
  deriving DecidableEq, Repr

def encrypt (nonce : ℕ) (plaintext associatedData : String) : Option Ciphertext :=
  if trimSpace plaintext = "" then none else some ⟨nonce, associatedData, plaintext⟩

def decrypt (c : Ciphertext) (associatedData : String) : Option String :=
  if c.associatedData = associatedData then some c.plaintext else none

/-- The parts of `OAuthToken` that are stored. -/
structure OAuthToken where
  accessToken : String
  refreshToken : String
  expiresAt : ℤ
  deriving DecidableEq, Repr

structure TokenResponse where
  accessToken : String
  refreshToken : String
  expiresIn : ℤ
  deriving DecidableEq, Repr

/-- `OAuthClient.Refresh`, for a response of the token endpoint; a response without a refresh token extends the one
that was sent. -/
def OAuthToken.ofRefresh (refreshToken : String) (response : TokenResponse) (now : ℤ) : Option OAuthToken :=
  if response.accessToken = "" ∨ response.expiresIn ≤ 0 then none
  else some
    { accessToken := response.accessToken
      refreshToken := if response.refreshToken = "" then refreshToken else response.refreshToken
      expiresAt := now + response.expiresIn * 1000000000 }

end Credentials

section Store

inductive AccountStatus
  | active
  | disabled
  | refreshRequired
  deriving DecidableEq, Repr

/-- The columns of `openai_accounts` that the token writers read or write. -/
structure Account where
  ownerUserID : String
  chatGPTAccountID : String
  accessTokenCiphertext : Ciphertext
  refreshTokenCiphertext : Ciphertext
  tokenExpiresAt : ℤ
  status : AccountStatus
  lastError : String
  deriving DecidableEq, Repr

def Account.scope (a : Account) : String := a.ownerUserID ++ ":" ++ a.chatGPTAccountID

structure Lease where
  holderID : String
  expiresAt : ℤ
  deriving DecidableEq, Repr

/-- A token pair that the client has returned: for whose account and for which refresh token, which are missing for
the exchange of a code, and whether that refresh token was still the stored one. -/
structure Exchange where
  account : Option String
  refreshToken : Option String
  token : OAuthToken
  stored : Bool
  deriving DecidableEq, Repr

structure Store where
  accounts : FiniteMap String Account
  leases : FiniteMap String Lease
  encryptions : ℕ
  exchanges : List Exchange
  writes : List String

def Store.tryAcquireAccountRefreshLease (s : Store) (accountID holderID : String) (expiresAt now : ℤ) : Option Store :=
  match s.leases.lookup accountID with
  | some lease =>
    if lease.expiresAt ≤ now then some { s with leases := s.leases.insert accountID ⟨holderID, expiresAt⟩ } else none
  | none => some { s with leases := s.leases.insert accountID ⟨holderID, expiresAt⟩ }

def Store.releaseAccountRefreshLease (s : Store) (accountID holderID : String) : Store :=
  match s.leases.lookup accountID with
  | some lease => if lease.holderID = holderID then { s with leases := s.leases.erase accountID } else s
  | none => s

/-- The row that a statement with `refresh_token_ciphertext=$2 AND status='active'` matches. -/
def Store.unchanged (s : Store) (id : String) (expectedRefresh : Ciphertext) : Option Account :=
  (s.accounts.lookup id).filter fun a => a.refreshTokenCiphertext = expectedRefresh ∧ a.status = .active

/-- The tokens of a row are replaced. -/
def Store.writeTokens (s : Store) (id : String) (a : Account) : Store :=
  { s with accounts := s.accounts.insert id a, writes := s.writes ++ [id] }

def Store.updateAccountTokensIfRefreshTokenUnchanged (s : Store) (id : String) (expectedRefresh access refresh : Ciphertext)
    (expiresAt : ℤ) : Store × Bool :=
  match s.unchanged id expectedRefresh with
  | some a =>
    (s.writeTokens id
      { a with
        accessTokenCiphertext := access
        refreshTokenCiphertext := refresh
        tokenExpiresAt := expiresAt
        lastError := "" }, true)
  | none => (s, false)

def Store.markAccountErrorIfRefreshTokenUnchanged (s : Store) (id : String) (expectedRefresh : Ciphertext)
    (message : String) : Store × Bool :=
  match s.unchanged id expectedRefresh with
  | some a => ({ s with accounts := s.accounts.insert id { a with status := .refreshRequired, lastError := message } }, true)
  | none => (s, false)

def Store.updateAccountAuthorization (s : Store) (id ownerID : String) (access refresh : Ciphertext) (expiresAt : ℤ) :
    Store :=
  match (s.accounts.lookup id).filter fun a => a.ownerUserID = ownerID with
  | some a =>
    s.writeTokens id
      { a with
        accessTokenCiphertext := access
        refreshTokenCiphertext := refresh
        tokenExpiresAt := expiresAt
        status := .active
        lastError := "" }
  | none => s

/-- The row that the unique index on owner and upstream account has. -/
def Store.conflicting (s : Store) (ownerID chatGPTAccountID : String) : Option (String × Account) :=
  (s.accounts.entries.find? fun e => e.2.ownerUserID = ownerID ∧ e.2.chatGPTAccountID = chatGPTAccountID).map
    fun e => (e.1, e.2)

/-- An id that is taken violates the primary key, and nothing is written. -/
def Store.createOrRotateAccountAuthorization (s : Store) (id ownerID chatGPTAccountID : String)
    (access refresh : Ciphertext) (expiresAt : ℤ) : Store :=
  match s.conflicting ownerID chatGPTAccountID with
  | some (existing, _) => s.updateAccountAuthorization existing ownerID access refresh expiresAt
  | none =>
    if s.accounts.lookup id = none then
      s.writeTokens id ⟨ownerID, chatGPTAccountID, access, refresh, expiresAt, .active, ""⟩
    else s

/-- Both tokens of a pair are encrypted. -/
def Store.encryptPair (s : Store) (scope : String) (token : OAuthToken) : Option (Store × Ciphertext × Ciphertext) :=
  (encrypt s.encryptions token.accessToken (scope ++ ":access")).bind fun access =>
    (encrypt (s.encryptions + 1) token.refreshToken (scope ++ ":refresh")).map fun refresh =>
      ({ s with encryptions := s.encryptions + 2 }, access, refresh)

end Store

section Refreshers

def accountRefreshLeaseTTL : ℤ := 3 * 60 * 1000000000

inductive RefreshError
  | inProgress
  | accountUnavailable
  | tokenRefresh (message : String)
  | failed (message : String)
  deriving DecidableEq, Repr

/-- The access token and `refreshed`. -/
abbrev Result := Except RefreshError (String × Bool)

/-- An account as it was read, with the number of token writes before. -/
structure Snapshot where
  account : Account
  writes : ℕ
  deriving DecidableEq, Repr

def Store.read (s : Store) (id : String) : Option Snapshot := (s.accounts.lookup id).map fun a => ⟨a, s.writes.length⟩

/-- The call that a refresher waits for; `response` is the place of its token pair in the log. -/
inductive Phase
  | acquiring
  | waiting
  | reading
  | exchanging (latest : Snapshot) (refreshToken : String) (attempt : ℤ)
  | backingOff (latest : Snapshot) (refreshToken : String) (attempt : ℤ)
  | marking (latest : Snapshot) (message : String)
  | encrypting (latest : Snapshot) (refreshed : OAuthToken) (response : ℕ)
  | writing (latest : Snapshot) (refreshed : OAuthToken) (response : ℕ) (access refresh : Ciphertext)
  | rereading
  | releasing (result : Result)
  | returned (result : Result)

/-- A call of `refreshAccountTokenWithAttempts`. -/
structure Refresher where
  accountID : String
  holderID : String
  refreshBefore : ℤ
  waitForPeer : Bool
  maxAttempts : ℤ
  markAccountError : Bool
  phase : Phase

/-- What the pending call returns. An update may also take effect although its commit returns an error. -/
inductive Outcome
  | done (now dbNow : ℤ)
  | response (now : ℤ) (response : TokenResponse)
  | fail (message : String)
  | lost

def decryptAccountAccessToken (a : Account) : Except RefreshError String :=
  match decrypt a.accessTokenCiphertext (a.scope ++ ":access") with
  | some accessToken => .ok accessToken
  | none => .error (.failed "decrypt account access token")

/-- The access token that is stored. -/
def storedAccess (a : Account) : Result := (decryptAccountAccessToken a).map fun accessToken => (accessToken, false)

def Refresher.goto (r : Refresher) (phase : Phase) : Refresher := { r with phase := phase }

def Refresher.refreshFailed (r : Refresher) (latest : Snapshot) (message : String) : Refresher :=
  if r.markAccountError then r.goto (.marking latest message) else r.goto (.releasing (.error (.tokenRefresh message)))

def Refresher.attemptFailed (r : Refresher) (latest : Snapshot) (refreshToken : String) (attempt : ℤ) (message : String) :
    Refresher :=
  if attempt < max r.maxAttempts 1 then r.goto (.backingOff latest refreshToken attempt)
  else r.refreshFailed latest message

/-- The text of `refreshErr`. -/
def refreshErrorText (message : String) : String := "OpenAI account token refresh failed: " ++ message

def Refresher.readLatest (r : Refresher) (s : Store) (now : ℤ) : Refresher :=
  match s.read r.accountID with
  | none => r.goto (.releasing (.error (.failed "not found")))
  | some latest =>
    if latest.account.status ≠ .active then r.goto (.releasing (.error .accountUnavailable))
    else if now + r.refreshBefore < latest.account.tokenExpiresAt then r.goto (.releasing (storedAccess latest.account))
    else
      match decrypt latest.account.refreshTokenCiphertext (latest.account.scope ++ ":refresh") with
      | none => r.refreshFailed latest "decrypt credential"
      | some refreshToken => r.goto (.exchanging latest refreshToken 1)

/-- One poll of `waitForAccountRefresh`. -/
def Refresher.poll (r : Refresher) (s : Store) (now : ℤ) : Refresher :=
  match s.accounts.lookup r.accountID with
  | none => r.goto (.returned (.error (.failed "not found")))
  | some a =>
    if a.status ≠ .active then r.goto (.returned (.error .accountUnavailable))
    else if now + r.refreshBefore < a.tokenExpiresAt then r.goto (.returned (storedAccess a))
    else r

/-- The account is read once more by a refresher whose write-back has matched no row. -/
def Refresher.readCurrent (r : Refresher) (s : Store) : Refresher :=
  match s.accounts.lookup r.accountID with
  | none => r.goto (.releasing (.error (.failed "not found")))
  | some a =>
    if a.status ≠ .active then r.goto (.releasing (.error .accountUnavailable)) else r.goto (.releasing (storedAccess a))

def Store.logExchange (s : Store) (id : String) (latest : Snapshot) (refreshToken : String) (token : OAuthToken) : Store :=
  { s with exchanges := s.exchanges ++ [⟨some id, some refreshToken, token,
      (s.accounts.lookup id).map (·.refreshTokenCiphertext) = some latest.account.refreshTokenCiphertext⟩] }

/-- An outcome that does not belong to the pending call changes nothing. -/
def Refresher.turn (r : Refresher) (s : Store) (outcome : Outcome) : Store × Refresher :=
  match r.phase, outcome with
  | .acquiring, .done now dbNow =>
    match s.tryAcquireAccountRefreshLease r.accountID r.holderID (now + accountRefreshLeaseTTL) dbNow with
    | some s => (s, r.goto .reading)
    | none => (s, if r.waitForPeer then r.goto .waiting else r.goto (.returned (.error .inProgress)))
  | .acquiring, .fail message => (s, r.goto (.returned (.error (.failed message))))
  | .waiting, .done now _ => (s, r.poll s now)
  | .waiting, .fail message => (s, r.goto (.returned (.error (.failed message))))
  | .reading, .done now _ => (s, r.readLatest s now)
  | .reading, .fail message => (s, r.goto (.releasing (.error (.failed message))))
  | .exchanging latest refreshToken attempt, .response now response =>
    match OAuthToken.ofRefresh refreshToken response now with
    | some token =>
      (s.logExchange r.accountID latest refreshToken token, r.goto (.encrypting latest token s.exchanges.length))
    | none => (s, r.attemptFailed latest refreshToken attempt "OpenAI OAuth response is missing required token fields")
  | .exchanging latest refreshToken attempt, .fail message => (s, r.attemptFailed latest refreshToken attempt message)
  | .backingOff latest refreshToken attempt, .done _ _ => (s, r.goto (.exchanging latest refreshToken (attempt + 1)))
  | .backingOff _ _ _, .fail message => (s, r.goto (.releasing (.error (.failed message))))
  | .marking latest message, .done _ _ =>
    ((s.markAccountErrorIfRefreshTokenUnchanged r.accountID latest.account.refreshTokenCiphertext
      (refreshErrorText message)).1, r.goto (.releasing (.error (.tokenRefresh message))))
  | .marking _ message, .fail _ => (s, r.goto (.releasing (.error (.tokenRefresh message))))
  | .encrypting latest refreshed response, .done _ _ =>
    match s.encryptPair latest.account.scope refreshed with
    | some (s, access, refresh) => (s, r.goto (.writing latest refreshed response access refresh))
    | none => (s, r.goto (.releasing (.error (.failed "cannot encrypt an empty credential"))))
  | .encrypting _ _ _, .fail message => (s, r.goto (.releasing (.error (.failed message))))
  | .writing latest refreshed _ access refresh, .done _ _ =>
    let out := s.updateAccountTokensIfRefreshTokenUnchanged r.accountID latest.account.refreshTokenCiphertext access
      refresh refreshed.expiresAt
    (out.1, if out.2 then r.goto (.releasing (.ok (refreshed.accessToken, true))) else r.goto .rereading)
  | .writing latest refreshed _ access refresh, .lost =>
    ((s.updateAccountTokensIfRefreshTokenUnchanged r.accountID latest.account.refreshTokenCiphertext access refresh
      refreshed.expiresAt).1, r.goto (.releasing (.error (.failed "commit"))))
  | .writing _ _ _ _ _, .fail message => (s, r.goto (.releasing (.error (.failed message))))
  | .rereading, .done _ _ => (s, r.readCurrent s)
  | .rereading, .fail message => (s, r.goto (.releasing (.error (.failed message))))
  | .releasing result, .done _ _ => (s.releaseAccountRefreshLease r.accountID r.holderID, r.goto (.returned result))
  | .releasing result, .fail _ => (s, r.goto (.returned result))
  | _, _ => (s, r)

lemma Refresher.turn_response {r : Refresher} (s : Store) (now : ℤ) (response : TokenResponse)
    (hphase : ∀ latest refreshToken attempt, r.phase ≠ .exchanging latest refreshToken attempt) :
    r.turn s (.response now response) = (s, r) := by
  cases h : r.phase with
  | exchanging latest refreshToken attempt => exact absurd h (hphase _ _ _)
  | _ => simp only [Refresher.turn, h]

lemma Refresher.turn_lost {r : Refresher} (s : Store)
    (hphase : ∀ latest refreshed response access refresh, r.phase ≠ .writing latest refreshed response access refresh) :
    r.turn s .lost = (s, r) := by
  cases h : r.phase with
  | writing latest refreshed response access refresh => exact absurd h (hphase _ _ _ _ _)
  | _ => simp only [Refresher.turn, h]

end Refreshers

section Systems

/-- A gateway request with the account that it was resolved with. -/
structure GatewayRequest where
  accountID : String
  credential : Snapshot
  deriving DecidableEq, Repr

/-- An existing account, or one that is connected under a new id. -/
inductive Target
  | reauthorize (accountID : String)
  | connect (accountID ownerUserID chatGPTAccountID : String)
  deriving DecidableEq, Repr

/-- The encrypted pair of an exchanged code, which is stored once. -/
structure Authorization where
  target : Target
  ownerUserID : String
  access : Ciphertext
  refresh : Ciphertext
  expiresAt : ℤ
  stored : Bool
  deriving DecidableEq, Repr

structure System where
  store : Store
  refreshers : List Refresher
  requests : List GatewayRequest
  authorizations : List Authorization

inductive Event
  | start (accountID holderID : String) (account : Account) (refreshBefore : ℤ) (waitForPeer : Bool) (maxAttempts : ℤ)
      (markAccountError : Bool) (now : ℤ)
  | turn (i : ℕ) (outcome : Outcome)
  | resolve (accountID : String)
  | markRefreshRequired (j : ℕ) (message : String)
  | authorize (target : Target) (token : OAuthToken) (chatGPTAccountID : String)
  | storeAuthorization (k : ℕ)
  | setStatus (accountID : String) (status : AccountStatus)

/-- The owner and the upstream account that a pair is encrypted for; of an existing account they never change. -/
def Store.ownerOf (s : Store) (target : Target) (chatGPTAccountID : String) : Option (String × String) :=
  match target with
  | .reauthorize accountID =>
    ((s.accounts.lookup accountID).filter fun a => a.chatGPTAccountID = chatGPTAccountID).map fun a =>
      (a.ownerUserID, a.chatGPTAccountID)
  | .connect _ ownerUserID chatGPTAccountID => some (ownerUserID, chatGPTAccountID)

def System.authorize (s : System) (target : Target) (token : OAuthToken) (chatGPTAccountID : String) : System :=
  match s.store.ownerOf target chatGPTAccountID with
  | none => s
  | some (ownerUserID, chatGPTAccountID) =>
    match s.store.encryptPair (ownerUserID ++ ":" ++ chatGPTAccountID) token with
    | none => s
    | some (store, access, refresh) =>
      { s with
        store := { store with exchanges := store.exchanges ++ [⟨none, none, token, false⟩] }
        authorizations := s.authorizations ++ [⟨target, ownerUserID, access, refresh, token.expiresAt, false⟩] }

def Store.storeAuthorization (s : Store) (a : Authorization) : Store :=
  match a.target with
  | .reauthorize accountID => s.updateAccountAuthorization accountID a.ownerUserID a.access a.refresh a.expiresAt
  | .connect accountID ownerUserID chatGPTAccountID =>
    s.createOrRotateAccountAuthorization accountID ownerUserID chatGPTAccountID a.access a.refresh a.expiresAt

/-- `UpdateAccountConfig` and `AdminUpdateAccountStatus`, as far as they write to these columns. -/
def Store.setStatus (s : Store) (id : String) (status : AccountStatus) : Store :=
  match s.accounts.lookup id with
  | some a =>
    let a := { a with status := status, lastError := if status = .active then "" else a.lastError }
    { s with accounts := s.accounts.insert id a }
  | none => s

def step (s : System) : Event → System
  | .start accountID holderID account refreshBefore waitForPeer maxAttempts markAccountError now =>
    let phase := if now + refreshBefore < account.tokenExpiresAt then .returned (storedAccess account) else .acquiring
    { s with refreshers :=
        s.refreshers ++ [⟨accountID, holderID, refreshBefore, waitForPeer, maxAttempts, markAccountError, phase⟩] }
  | .turn i outcome =>
    match s.refreshers[i]? with
    | some r =>
      let out := r.turn s.store outcome
      { s with store := out.1, refreshers := s.refreshers.set i out.2 }
    | none => s
  | .resolve accountID =>
    match (s.store.read accountID).filter fun credential => credential.account.status = .active with
    | some credential => { s with requests := s.requests ++ [⟨accountID, credential⟩] }
    | none => s
  | .markRefreshRequired j message =>
    match s.requests[j]? with
    | some q =>
      { s with store := (s.store.markAccountErrorIfRefreshTokenUnchanged q.accountID
          q.credential.account.refreshTokenCiphertext message).1 }
    | none => s
  | .authorize target token chatGPTAccountID => s.authorize target token chatGPTAccountID
  | .storeAuthorization k =>
    match s.authorizations[k]? with
    | some a =>
      if a.stored then s
      else
        { s with
          store := s.store.storeAuthorization a
          authorizations := s.authorizations.set k { a with stored := true } }
    | none => s
  | .setStatus accountID status => { s with store := s.store.setStatus accountID status }

def initial : System := ⟨⟨∅, ∅, 0, [], []⟩, [], [], []⟩

def run (events : List Event) : System := events.foldl step initial

end Systems

end ShareSub.TokenModel

import Mathlib
import ShareSub.Table
import ShareSub.TokenModel

/-!
# The OAuth flows that connect and re-authorize accounts

The embedding of `startOpenAIOAuth`, `CompleteOpenAIConnect` and `completeOpenAIReauthorize`, and of the statements of
`store.go` on `oauth_flows`, beside the rows and refreshers of the token model. A completion has a phase for each call that
it waits for, so that any number of them interleave with each other and with the refreshers. A state is the number of its
draw, and so is its hash. The settings and the subscription of an account are left out.
-/
namespace ShareSub.AuthorizationModel

open GatewayModel (trimSpace)
open TokenModel (OAuthToken Account AccountStatus Target Authorization Refresher)

section Flows

inductive Purpose
  | connect
  | reauthorize
  deriving DecidableEq, Repr

/-- A row of `oauth_flows`; the code verifier is drawn with it. -/
structure OAuthFlow where
  id : ℕ
  userID : String
  state : ℕ
  purpose : Purpose
  targetAccountID : String
  expiresAt : ℤ
  consumedAt : Option ℤ
  deriving DecidableEq, Repr

def oauthFlowTTL : ℤ := 15 * 60 * 1000000000

/-- What a call of a completion has been given; an admin requires no owner. -/
structure Completion where
  actorUserID : String
  requiredOwnerUserID : String
  purpose : Purpose
  accountID : String
  state : ℕ
  code : String
  deriving DecidableEq, Repr

/-- The call that a completion waits for. The account is missing for one that is connected. -/
inductive Phase
  | consuming
  | reading (flow : OAuthFlow)
  | exchanging (flow : OAuthFlow) (account : Option Account)
  | storing (k : ℕ)
  | returned
  deriving DecidableEq, Repr

structure Call where
  completion : Completion
  phase : Phase
  deriving DecidableEq, Repr

/-- A code that was sent to the token endpoint, with the flow that was consumed for it. -/
structure Exchanged where
  flow : OAuthFlow
  completion : Completion
  deriving DecidableEq, Repr

structure System where
  tokens : TokenModel.System
  flows : List OAuthFlow
  calls : List Call
  drawn : ℕ
  started : List OAuthFlow
  exchanges : List Exchanged

/-- What the pending call of a completion returns. A transaction may also take effect although its commit returns an
error. -/
inductive Outcome
  | done (now : ℤ)
  | lost (now : ℤ)
  | token (token : OAuthToken) (email chatGPTAccountID newID : String)
  | fail

inductive Event
  | startConnect (userID : String) (now : ℤ)
  | startReauthorize (userID accountID : String) (now : ℤ)
  | adminStartReauthorize (adminID : String) (isAdmin : Bool) (accountID : String) (now : ℤ)
  | completeConnect (userID : String) (state : ℕ) (code : String)
  | completeReauthorize (userID accountID : String) (state : ℕ) (code : String)
  | adminCompleteReauthorize (adminID : String) (isAdmin : Bool) (accountID : String) (state : ℕ) (code : String)
  | proceed (i : ℕ) (outcome : Outcome)
  | cleanupResources (now : ℤ) (locked : List ℕ)
  | startRefresh (accountID holderID : String) (account : Account) (refreshBefore : ℤ) (waitForPeer : Bool) (maxAttempts : ℤ)
      (markAccountError : Bool) (now : ℤ)
  | refresh (i : ℕ) (outcome : TokenModel.Outcome)
  | resolve (accountID : String)
  | markRefreshRequired (j : ℕ) (message : String)
  | setStatus (accountID : String) (status : AccountStatus)

end Flows

section Steps

def System.startOpenAIOAuth (s : System) (userID : String) (purpose : Purpose) (targetAccountID : String) (now : ℤ) :
    System :=
  let flow : OAuthFlow := ⟨s.drawn, userID, s.drawn + 1, purpose, targetAccountID, now + oauthFlowTTL, none⟩
  { s with flows := s.flows ++ [flow], drawn := s.drawn + 2, started := s.started ++ [flow] }

def System.startOpenAIReauthorize (s : System) (userID accountID : String) (now : ℤ) : System :=
  match s.tokens.store.accounts.lookup accountID with
  | none => s
  | some account => if account.ownerUserID ≠ userID then s else s.startOpenAIOAuth userID .reauthorize accountID now

def System.adminStartOpenAIReauthorize (s : System) (adminID : String) (isAdmin : Bool) (accountID : String) (now : ℤ) :
    System :=
  if !isAdmin || (s.tokens.store.accounts.lookup accountID).isNone then s
  else s.startOpenAIOAuth adminID .reauthorize accountID now

def System.complete (s : System) (completion : Completion) : System :=
  if trimSpace completion.code = "" then s else { s with calls := s.calls ++ [⟨completion, .consuming⟩] }

def System.goto (s : System) (i : ℕ) (call : Call) (phase : Phase) : System :=
  { s with calls := s.calls.set i { call with phase := phase } }

def System.log (s : System) (x : Exchanged) : System := { s with exchanges := s.exchanges ++ [x] }

def System.withTokens (s : System) (tokens : TokenModel.System) : System := { s with tokens := tokens }

def System.onTokens (s : System) (e : TokenModel.Event) : System := s.withTokens (TokenModel.step s.tokens e)

/-- The open flow of a state, which is consumed. -/
def System.consumeOAuthFlow (s : System) (state : ℕ) (now : ℤ) : Option (System × OAuthFlow) :=
  match s.flows.find? fun f => f.state = state ∧ f.consumedAt = none ∧ now < f.expiresAt with
  | none => none
  | some flow =>
    some ({ s with flows := updateRows (fun f => f.id = flow.id) (fun f => { f with consumedAt := some now }) s.flows },
      { flow with consumedAt := some now })

/-- What a completion does with the flow that it has consumed. -/
def Completion.consumed (c : Completion) (flow : OAuthFlow) : Phase :=
  if flow.userID ≠ c.actorUserID then .returned
  else
    match c.purpose with
    | .connect =>
      if flow.purpose ≠ .connect ∨ flow.targetAccountID ≠ "" then .returned else .exchanging flow none
    | .reauthorize =>
      if flow.purpose ≠ .reauthorize ∨ flow.targetAccountID = "" ∨ flow.targetAccountID ≠ c.accountID then .returned
      else .reading flow

/-- The pair is encrypted, to be stored next. -/
def authorizePair (tokens : TokenModel.System) (target : Target) (ownerUserID chatGPTAccountID : String)
    (token : OAuthToken) : Option TokenModel.System :=
  (tokens.store.encryptPair (ownerUserID ++ ":" ++ chatGPTAccountID) token).map fun (store, access, refresh) =>
    { tokens with
      store := { store with exchanges := store.exchanges ++ [⟨none, none, token, false⟩] }
      authorizations := tokens.authorizations ++ [⟨target, ownerUserID, access, refresh, token.expiresAt, false⟩] }

def System.authorized (s : System) (i : ℕ) (call : Call) (target : Target) (ownerUserID chatGPTAccountID : String)
    (token : OAuthToken) : System :=
  match authorizePair s.tokens target ownerUserID chatGPTAccountID token with
  | none => s.goto i call .returned
  | some tokens => (s.withTokens tokens).goto i call (.storing s.tokens.authorizations.length)

/-- What a completion does with the tokens that were exchanged, if they are of the account that they are for. -/
def System.exchanged (s : System) (i : ℕ) (call : Call) (flow : OAuthFlow) (account : Option Account) (token : OAuthToken)
    (email chatGPTAccountID newID : String) : System :=
  if token.accessToken = "" ∨ token.refreshToken = "" ∨ email = "" ∨ chatGPTAccountID = "" then s.goto i call .returned
  else
    match account with
    | none =>
      let ownerUserID := call.completion.actorUserID
      s.authorized i call (.connect newID ownerUserID chatGPTAccountID) ownerUserID chatGPTAccountID token
    | some a =>
      if chatGPTAccountID ≠ a.chatGPTAccountID then s.goto i call .returned
      else s.authorized i call (.reauthorize flow.targetAccountID) a.ownerUserID a.chatGPTAccountID token

/-- The next call of a completion. An outcome that does not belong to it changes nothing. -/
def System.proceed (s : System) (i : ℕ) (outcome : Outcome) : System :=
  match s.calls[i]? with
  | none => s
  | some call =>
    match call.phase, outcome with
    | .consuming, .done now =>
      match s.consumeOAuthFlow call.completion.state now with
      | none => s.goto i call .returned
      | some (s, flow) => s.goto i call (call.completion.consumed flow)
    | .consuming, .lost now =>
      match s.consumeOAuthFlow call.completion.state now with
      | none => s.goto i call .returned
      | some (s, _) => s.goto i call .returned
    | .consuming, .fail => s.goto i call .returned
    | .reading flow, .done _ =>
      match s.tokens.store.accounts.lookup flow.targetAccountID with
      | none => s.goto i call .returned
      | some account =>
        if call.completion.requiredOwnerUserID ≠ "" ∧ account.ownerUserID ≠ call.completion.requiredOwnerUserID then
          s.goto i call .returned
        else s.goto i call (.exchanging flow (some account))
    | .reading _, .fail => s.goto i call .returned
    | .exchanging flow account, .token token email chatGPTAccountID newID =>
      (s.log ⟨flow, call.completion⟩).exchanged i call flow account token email chatGPTAccountID newID
    | .exchanging flow _, .fail => (s.log ⟨flow, call.completion⟩).goto i call .returned
    | .storing k, .done _ => (s.onTokens (.storeAuthorization k)).goto i call .returned
    | .storing k, .lost _ => (s.onTokens (.storeAuthorization k)).goto i call .returned
    | .storing _, .fail => s.goto i call .returned
    | _, _ => s

def step (s : System) : Event → System
  | .startConnect userID now => s.startOpenAIOAuth userID .connect "" now
  | .startReauthorize userID accountID now => s.startOpenAIReauthorize userID accountID now
  | .adminStartReauthorize adminID isAdmin accountID now => s.adminStartOpenAIReauthorize adminID isAdmin accountID now
  | .completeConnect userID state code => s.complete ⟨userID, "", .connect, "", state, code⟩
  | .completeReauthorize userID accountID state code => s.complete ⟨userID, userID, .reauthorize, accountID, state, code⟩
  | .adminCompleteReauthorize adminID isAdmin accountID state code =>
    if isAdmin then s.complete ⟨adminID, "", .reauthorize, accountID, state, code⟩ else s
  | .proceed i outcome => s.proceed i outcome
  | .cleanupResources now locked => { s with flows := s.flows.filter fun f => ¬ (f.expiresAt < now ∧ f.id ∉ locked) }
  | .startRefresh accountID holderID account refreshBefore waitForPeer maxAttempts markAccountError now =>
    s.onTokens (.start accountID holderID account refreshBefore waitForPeer maxAttempts markAccountError now)
  | .refresh i outcome => s.onTokens (.turn i outcome)
  | .resolve accountID => s.onTokens (.resolve accountID)
  | .markRefreshRequired j message => s.onTokens (.markRefreshRequired j message)
  | .setStatus accountID status => s.onTokens (.setStatus accountID status)

def initial : System := ⟨TokenModel.initial, [], [], 0, [], []⟩

def run (events : List Event) : System := events.foldl step initial

end Steps

end ShareSub.AuthorizationModel

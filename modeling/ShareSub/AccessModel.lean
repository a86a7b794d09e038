import Mathlib
import ShareSub.TurnModel

/-!
# The account of a WebSocket session

The embedding of the hooks of `responsesWebSocketHandler` with the parts of `Run` that call them. What the store, the
dialer, the policy and the frames decide is given with each step; the turn that is relayed is that of `relayTurn`. A
reservation of the traffic controller is a number, and each call of its callback is counted.
-/
namespace ShareSub.AccessModel

open SseModel TurnModel

section Access

/-- `domain.GatewayCredential`, as far as a session reads it. -/
structure Credential where
  apiKeyID : String
  planID : String
  memberID : String
  accountID : String
  accountBindingGeneration : ℤ
  chatGPTAccountID : String
  deriving DecidableEq, Repr

/-- `application.GatewayAccess` without its pricing; `release` is the reservation whose callback it carries. -/
structure GatewayAccess where
  credential : Credential
  accessToken : String
  proxyURL : String
  release : Option ℕ
  deriving DecidableEq, Repr

def GatewayAccess.zero : GatewayAccess := ⟨⟨"", "", "", "", 0, ""⟩, "", "", none⟩

/-- A reservation: its account, and the accounts that had failed before. -/
structure Reservation where
  accountID : String
  failed : List String
  deriving DecidableEq, Repr

/-- All reservations of a connection, and the calls of their callbacks. -/
structure Reservations where
  acquired : List Reservation
  released : List ℕ
  deriving DecidableEq, Repr

def Reservations.acquire (r : Reservations) (accountID : String) (failed : List String) : Reservations :=
  ⟨r.acquired ++ [⟨accountID, failed⟩], r.released⟩

def Reservations.release (r : Reservations) : Option ℕ → Reservations
  | none => r
  | some i => ⟨r.acquired, r.released ++ [i]⟩

/-- The reservations whose callback was not called. -/
def Reservations.outstanding (r : Reservations) : List ℕ := (List.range r.acquired.length).filter fun i => i ∉ r.released

/-- What becomes of a candidate: its quota is exhausted, its account is at a limit, its credential cannot be opened once the
reservation is made, or it is granted with a token and a proxy. -/
inductive Offer
  | exhausted
  | limited
  | unresolved
  | granted (accessToken proxyURL : String)
  deriving DecidableEq, Repr

/-- A candidate in routing order. -/
structure Candidate where
  credential : Credential
  offer : Offer
  deriving DecidableEq, Repr

/-- One candidate, whose reservation is given back when its credential cannot be opened. -/
def Candidate.reserve (c : Candidate) (failed : List String) (r : Reservations) : Reservations × Option GatewayAccess :=
  match c.offer with
  | .exhausted => (r, none)
  | .limited => (r, none)
  | .unresolved => ((r.acquire c.credential.accountID failed).release (some r.acquired.length), none)
  | .granted accessToken proxyURL =>
    (r.acquire c.credential.accountID failed, some ⟨c.credential, accessToken, proxyURL, some r.acquired.length⟩)

/-- `ResolveGatewayAccess`, with the candidates that the store has for it. -/
def resolveGatewayAccess (excludedAccountIDs : List String) :
    List Candidate → Reservations → Reservations × Option GatewayAccess
  | [], r => (r, none)
  | c :: cs, r =>
    if c.credential.accountID ∈ excludedAccountIDs then resolveGatewayAccess excludedAccountIDs cs r
    else
      match c.reserve excludedAccountIDs r with
      | (r, some access) => (r, some access)
      | (r, none) => resolveGatewayAccess excludedAccountIDs cs r

def sameGatewayAccessBinding (candidate pinned : Credential) : Bool :=
  candidate.apiKeyID = pinned.apiKeyID && candidate.planID = pinned.planID && candidate.memberID = pinned.memberID &&
    candidate.accountID = pinned.accountID && candidate.accountBindingGeneration = pinned.accountBindingGeneration

def reacquireGatewayAccess (failed : List String) (pinned : GatewayAccess) (candidates : List Candidate) (r : Reservations) :
    Reservations × Option GatewayAccess :=
  match candidates.find? fun c => sameGatewayAccessBinding c.credential pinned.credential with
  | none => (r, none)
  | some c => c.reserve failed r

end Access

section Hooks

def maxUpstreamAccountSwitches : ℕ := 3

/-- `ResponsesWebSocketDialConfig`, as far as it names an account. -/
structure DialConfig where
  accessToken : String
  chatGPTAccountID : String
  apiKeyID : String
  internalAccountID : String
  proxyURL : String
  deriving DecidableEq, Repr

def dialConfig (access : GatewayAccess) : DialConfig :=
  ⟨access.accessToken, access.credential.chatGPTAccountID, access.credential.apiKeyID, access.credential.accountID,
    access.proxyURL⟩

/-- The variables of the handler that its hooks share. -/
structure Hooks where
  reservations : Reservations
  pinned : GatewayAccess
  turnAccess : GatewayAccess
  firstTurn : Bool
  failedFirstAccountIDs : List String
  /-- The calls of `ResolveGatewayAccess` for another account. -/
  firstAccountSwitches : ℕ
  authRefreshed : List String
  replacePinnedAfterTurn : Bool
  deriving DecidableEq, Repr

def Hooks.initial : Hooks := ⟨⟨[], []⟩, GatewayAccess.zero, GatewayAccess.zero, true, [], 0, [], false⟩

/-- `releaseGatewayAccess` of the access of the turn. -/
def Hooks.release (h : Hooks) : Hooks :=
  { h with
    reservations := h.reservations.release h.turnAccess.release
    turnAccess := { h.turnAccess with release := none } }

/-- The configuration is absent when the policy or the fingerprint refuses the turn. -/
def Hooks.setTurnAccess (h : Hooks) (access : GatewayAccess) (prepared : Bool) : Hooks × Option DialConfig :=
  if prepared then ({ h with turnAccess := access }, some (dialConfig access))
  else ({ h with turnAccess := access }.release, none)

def Hooks.retryFirstAccount (h : Hooks) (candidates : List Candidate) (prepared : Bool) : Hooks × Option DialConfig :=
  let failedAccess := h.turnAccess
  let h := { h with turnAccess := GatewayAccess.zero }
  if failedAccess.credential.apiKeyID = "" then (h, none)
  else
    let h := { h with
      failedFirstAccountIDs := h.failedFirstAccountIDs ++ [failedAccess.credential.accountID]
      reservations := h.reservations.release failedAccess.release }
    if maxUpstreamAccountSwitches ≤ h.firstAccountSwitches then (h, none)
    else
      let h := { h with firstAccountSwitches := h.firstAccountSwitches + 1 }
      match resolveGatewayAccess h.failedFirstAccountIDs candidates h.reservations with
      | (reservations, none) => ({ h with reservations := reservations }, none)
      | (reservations, some access) =>
        { h with reservations := reservations, replacePinnedAfterTurn := true }.setTurnAccess access prepared

/-- What the outside decides before a turn: the rate limit of the key, the pricing, the routes, the policy and the
fingerprint. -/
structure Opening where
  admitted : Bool
  priced : Bool
  candidates : List Candidate
  prepared : Bool
  deriving DecidableEq, Repr

def Hooks.beforeTurn (h : Hooks) (turn : ℕ) (o : Opening) : Hooks × Option DialConfig :=
  let h := { h with replacePinnedAfterTurn := false }
  if 1 < turn && !o.admitted then (h, none)
  else
    let h := { h with turnAccess := GatewayAccess.zero }
    if !o.priced then (h, none)
    else
      match if h.firstTurn then resolveGatewayAccess h.failedFirstAccountIDs o.candidates h.reservations
        else reacquireGatewayAccess h.failedFirstAccountIDs h.pinned o.candidates h.reservations with
      | (reservations, none) => ({ h with reservations := reservations }, none)
      | (reservations, some access) => { h with reservations := reservations }.setTurnAccess access o.prepared

/-- What the outside decides when an account has refused a turn: whether its conversation can be rebuilt, the refreshed
token, the routes, the policy and the fingerprint, and whether the frame and the configuration are accepted. -/
structure Reaction where
  rebuilt : Bool
  refreshed : Option String
  candidates : List Candidate
  prepared : Bool
  normalized : Bool
  fingerprinted : Bool
  deriving DecidableEq, Repr

/-- `refreshRejectedGatewayAccess`; the token is absent when it is revoked or the refresh fails. -/
def Hooks.refresh (h : Hooks) (refreshed : Option String) : Hooks × Bool :=
  if h.turnAccess.credential.accountID ∈ h.authRefreshed then (h, false)
  else
    let h := { h with authRefreshed := h.turnAccess.credential.accountID :: h.authRefreshed }
    match refreshed with
    | none => (h, false)
    | some token => ({ h with turnAccess := { h.turnAccess with accessToken := token } }, true)

def Hooks.onDialError (h : Hooks) (status : ℕ) (r : Reaction) : Hooks × Option DialConfig :=
  if status = 401 && h.turnAccess.credential.apiKeyID ≠ "" then
    match h.refresh r.refreshed with
    | (h, true) => h.setTurnAccess h.turnAccess r.prepared
    | (h, false) => (h, none)
  else if status ≠ 429 then (h, none)
  else h.retryFirstAccount r.candidates r.prepared

def Hooks.onUpstreamError (h : Hooks) (r : Reaction) : Hooks × Option DialConfig := h.retryFirstAccount r.candidates r.prepared

/-- `AfterTurn`, with whether the handshake of the turn has succeeded and whether it has a terminal event. -/
def Hooks.afterTurn (h : Hooks) (turn : ℕ) (handshakeSucceeded terminal : Bool) : Hooks :=
  let pins := handshakeSucceeded && ((turn = 1 && h.firstTurn) || (h.replacePinnedAfterTurn && terminal))
  let h := if pins then { h with pinned := { h.turnAccess with release := none }, firstTurn := false } else h
  { h with replacePinnedAfterTurn := false }.release

end Hooks

section Run

/-- The flag says whether the fingerprint of the configuration can be resolved. -/
def validateResponsesWebSocketDialConfig (config : DialConfig) (fingerprinted : Bool) : Bool :=
  GatewayModel.trimSpace config.accessToken ≠ "" && GatewayModel.trimSpace config.apiKeyID ≠ "" &&
    GatewayModel.trimSpace config.chatGPTAccountID ≠ "" &&
      (GatewayModel.trimSpace config.internalAccountID = "" || fingerprinted)

def verifyPinnedResponsesWebSocketDial (pinned current : DialConfig) : Bool :=
  GatewayModel.trimSpace current.apiKeyID = GatewayModel.trimSpace pinned.apiKeyID &&
    GatewayModel.trimSpace current.chatGPTAccountID = GatewayModel.trimSpace pinned.chatGPTAccountID &&
      GatewayModel.trimSpace current.proxyURL = GatewayModel.trimSpace pinned.proxyURL

/-- Where `Run` is: between two turns, before it looks at the connection, before a dial, before the write of the create, in
the relay, or after its return. The flag is that of the handshake in the result of the turn. -/
inductive Phase
  | between
  | connecting (config : DialConfig)
  | dialing (config : DialConfig)
  | writing (handshakeSucceeded : Bool)
  | relaying (handshakeSucceeded : Bool) (relay : Turn)
  | ended

/-- The session: the number of turns that were begun, the configuration with which the open connection was dialed, and that
of the last dial. -/
structure Session where
  hooks : Hooks
  turn : ℕ
  upstream : Option DialConfig
  pinnedDial : DialConfig
  phase : Phase

def Session.initial : Session := ⟨Hooks.initial, 0, none, dialConfig GatewayAccess.zero, .between⟩

/-- `Run` returns, and the handler does. -/
def Session.finish (s : Session) : Session := { s with hooks := s.hooks.release, upstream := none, phase := .ended }

/-- `Run` returns after `AfterTurn`. -/
def Session.abort (s : Session) (handshakeSucceeded terminal : Bool) : Session :=
  { s with hooks := s.hooks.afterTurn s.turn handshakeSucceeded terminal }.finish

/-- The result of a dial. -/
inductive Dialed
  | connected
  /-- The dialer returns no connection and no error. -/
  | missing
  /-- It fails, with whether the turn can be tried again. -/
  | refused (status : ℕ) (retrySafe : Bool) (r : Reaction)
  deriving DecidableEq, Repr

structure Setup where
  sessionModel : String
  sessionReplaySafe : Bool
  allowUpstreamErrorRetry : Bool
  pending : PendingClientFrames
  client : Connection
  upstream : Connection

inductive Action
  /-- The next create of the client, whether it is parsed, and whether the frame of the turn is. -/
  | create (parsed : Bool) (o : Opening) (normalized : Bool)
  | connect (fingerprinted : Bool)
  | dial (headers : Bool) (result : Dialed)
  | write (accepted : Bool) (setup : Setup)
  | happen (happening : Happening) (o : Outside) (r : Reaction)
  /-- The session ends between two turns. -/
  | leave

def Session.create (s : Session) (parsed : Bool) (o : Opening) (normalized : Bool) : Session :=
  let s := { s with turn := s.turn + 1 }
  if !parsed then s.finish
  else
    match s.hooks.beforeTurn s.turn o with
    | (hooks, none) => { s with hooks := hooks }.finish
    | (hooks, some config) =>
      let s := { s with hooks := hooks }
      if normalized then { s with phase := .connecting config } else s.abort false false

def Session.connect (s : Session) (config : DialConfig) (fingerprinted : Bool) : Session :=
  match s.upstream with
  | none =>
    if validateResponsesWebSocketDialConfig config fingerprinted then { s with phase := .dialing config } else s.abort false false
  | some _ =>
    if verifyPinnedResponsesWebSocketDial s.pinnedDial config then { s with phase := .writing false } else s.abort false false

/-- What follows a hook that has given another configuration; a refreshed token has to name the same account. -/
def Session.retry (s : Session) (next : DialConfig) (r : Reaction) (unauthorized : Bool) (phase : Phase) : Session :=
  if !r.normalized then s.abort false false
  else if !validateResponsesWebSocketDialConfig next r.fingerprinted then s.abort false false
  else if unauthorized && !verifyPinnedResponsesWebSocketDial s.pinnedDial next then s.abort false false
  else { s with phase := phase }

def Session.dial (s : Session) (config : DialConfig) (headers : Bool) (result : Dialed) : Session :=
  let s := { s with pinnedDial := config }
  if !headers then s.abort false false
  else
    match result with
    | .connected => { s with upstream := some config, phase := .writing true }
    | .missing => s.abort true false
    | .refused status retrySafe r =>
      if status = 401 || (status = 429 && retrySafe) then
        if status = 429 && !r.rebuilt then s.abort false false
        else
          match s.hooks.onDialError status r with
          | (hooks, none) => { s with hooks := hooks }.finish
          | (hooks, some next) => { s with hooks := hooks }.retry next r (status = 401) (.dialing next)
      else s.abort false false

/-- The end of `relayTurn`. -/
def Session.settle (s : Session) (handshakeSucceeded : Bool) (relay : Turn) (error : Option TurnError) (r : Reaction) : Session :=
  let terminal : Bool := relay.result.terminalEvent ≠ ""
  match error with
  | some (.firstUpstream _) =>
    let s := { s with upstream := none }
    if !r.rebuilt then s.abort handshakeSucceeded terminal
    else
      match s.hooks.onUpstreamError r with
      | (hooks, none) => { s with hooks := hooks }.finish
      | (hooks, some next) => { s with hooks := hooks }.retry next r false (.connecting next)
  | none => { s with hooks := s.hooks.afterTurn s.turn handshakeSucceeded terminal, phase := .between }
  | some (.terminal _ _) => { s with hooks := s.hooks.afterTurn s.turn handshakeSucceeded terminal, phase := .between }
  | some _ => s.abort handshakeSucceeded terminal

variable (json : FrameJson) (toLower : String → String)

def Session.step (s : Session) : Action → Option Session
  | .create parsed o normalized =>
    match s.phase with
    | .between => some (s.create parsed o normalized)
    | _ => none
  | .connect fingerprinted =>
    match s.phase with
    | .connecting config => some (s.connect config fingerprinted)
    | _ => none
  | .dial headers result =>
    match s.phase with
    | .dialing config => some (s.dial config headers result)
    | _ => none
  | .write accepted setup =>
    match s.phase with
    | .writing handshakeSucceeded =>
      if accepted then
        some { s with
          phase := .relaying handshakeSucceeded
            (Turn.start setup.sessionModel setup.sessionReplaySafe setup.allowUpstreamErrorRetry setup.pending setup.client
              setup.upstream) }
      else some (s.abort handshakeSucceeded false)
    | _ => none
  | .happen happening o r =>
    match s.phase with
    | .relaying handshakeSucceeded relay =>
      (relay.step json toLower o happening).map fun flow =>
        match flow with
        | .go relay => { s with phase := .relaying handshakeSucceeded relay }
        | .done relay error => s.settle handshakeSucceeded relay error r
    | _ => none
  | .leave =>
    match s.phase with
    | .between => some s.finish
    | _ => none

def Session.run (s : Session) : List Action → Option Session
  | [] => some s
  | action :: rest => (s.step json toLower action).bind fun t => t.run rest

end Run

end ShareSub.AccessModel

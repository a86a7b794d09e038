import Mathlib

/-!
# Gateway handlers and the metrics they record

The embedding of `gateway_handlers.go`, `alpha_search_handler.go`, the hooks of
`responses_websocket.go` and `RecordGatewayMetric`. What the upstream, the client and the
routing answer is an argument: one `Pass` for each pass of an HTTP loop, one `TurnScript` for
each WebSocket turn. A script that ends early is a request still in flight. Of a metric only the
conflict key, the member, the pricing version and the billed usage are kept.
-/
namespace ShareSub.GatewayModel

section RequestIDs

/-- `unicode.IsSpace`. -/
def isSpace (c : Char) : Bool :=
  (9 ≤ c.toNat && c.toNat ≤ 13) || (0x2000 ≤ c.toNat && c.toNat ≤ 0x200a) ||
    c.toNat ∈ [0x20, 0x85, 0xa0, 0x1680, 0x2028, 0x2029, 0x202f, 0x205f, 0x3000]

/-- `strings.TrimSpace`. -/
def trimSpace (s : String) : String :=
  String.ofList ((s.toList.dropWhile isSpace).reverse.dropWhile isSpace).reverse

/-- What the gateway appends to its own id of a request to name an attempt. -/
inductive Mark
  | first
  | retry (attempt : ℕ)
  | turn (number : ℕ)
  | turnAttempt (number attempt : ℕ)
  deriving DecidableEq, Repr

def Mark.text : Mark → String
  | .first => ""
  | .retry attempt => "-request-scoped-attempt-" ++ toString attempt
  | .turn number => "-ws-" ++ toString number
  | .turnAttempt number attempt => "-ws-" ++ toString number ++ "-attempt-" ++ toString attempt

lemma text_first : Mark.first.text = "" := rfl

lemma text_retry (attempt : ℕ) : (Mark.retry attempt).text = "-request-scoped-attempt-" ++ toString attempt := rfl

lemma text_turn (number : ℕ) : (Mark.turn number).text = "-ws-" ++ toString number := rfl

lemma text_turnAttempt (number attempt : ℕ) :
    (Mark.turnAttempt number attempt).text = "-ws-" ++ toString number ++ "-attempt-" ++ toString attempt := rfl

/-- The id of an attempt: one the upstream gave, or the gateway's own. -/
inductive RequestID
  | upstream (id : String)
  | fallback (gatewayRequestID : String) (mark : Mark)
  deriving DecidableEq, Repr

/-- The value of the column `request_id`. -/
def RequestID.text : RequestID → String
  | .upstream id => id
  | .fallback gatewayRequestID mark => gatewayRequestID ++ mark.text

/-- The headers of a client request that may name it, and the id drawn when none does. -/
structure ClientHeaders where
  xRequestID : String
  openaiRequestID : String
  newID : String
  deriving DecidableEq, Repr

def gatewayRequestID (h : ClientHeaders) : String :=
  if trimSpace h.xRequestID ≠ "" then trimSpace h.xRequestID
  else if trimSpace h.openaiRequestID ≠ "" then trimSpace h.openaiRequestID
  else h.newID

def requestScopedAttemptRequestID (gatewayRequestID : String) (completedRetries : ℕ) : RequestID :=
  if completedRetries = 0 then .fallback gatewayRequestID .first
  else .fallback gatewayRequestID (.retry (completedRetries + 1))

def upstreamRequestID (xRequestID openaiRequestID : String) (fallback : RequestID) : RequestID :=
  if xRequestID ≠ "" then .upstream xRequestID
  else if openaiRequestID ≠ "" then .upstream openaiRequestID
  else fallback

end RequestIDs

section Routing

/-- `application.GatewayAccess`: the route of a request, with the pricing version once it is pinned. -/
structure Access where
  apiKeyID : String
  planID : String
  memberID : String
  accountID : String
  generation : ℤ
  pricing : Option String
  deriving DecidableEq, Repr

/-- `ResolveGatewayAccess`, over the candidates in routing order that have quota left and that
admission and decryption accept at the moment. -/
def resolveGatewayAccess (candidates : List Access) (excludedAccountIDs : List String) : Option Access :=
  candidates.find? fun access => access.accountID ∉ excludedAccountIDs

def maxUpstreamAccountSwitches : ℕ := 3

def maxRequestScopedCapacityRetries : ℕ := 3

def shouldSwitchUpstreamAccount (status : ℕ) : Bool :=
  status = 401 || status = 402 || status = 403 || status = 429 || status = 529 || (500 ≤ status && status < 600)

end Routing

variable {Usage : Type}

structure Metric (Usage : Type) where
  requestID : RequestID
  access : Access
  usage : Usage

inductive Event (Usage : Type)
  | resolved (accountID : String)
  | released (accountID : String)
  | forwarded (accountID : String)
  | recorded (metric : Metric Usage)
  | responded

def Event.metric? : Event Usage → Option (Metric Usage)
  | .recorded metric => some metric
  | _ => none

section HTTP

/-- `ApplyFastPolicy`: a blocked request and a failed evaluation are both recorded. -/
inductive Policy (Usage : Type)
  | applied
  | refused (usage : Usage)

/-- How the copy of an accepted response ends. -/
inductive Copy
  | completed
  | failed
  | failover (requestScopedTransient : Bool)
  deriving DecidableEq, Repr

structure Response (Usage : Type) where
  status : ℕ
  xRequestID : String
  openaiRequestID : String
  usage : Usage
  planGated : Bool
  tokenRefreshed : Bool
  copy : Copy
  retryWaited : Bool
  /-- The client is gone when a rejection has been read. -/
  clientGone : Bool
  /-- The client is gone when the attempt has been recorded. -/
  clientGoneLater : Bool

inductive Forward (Usage : Type)
  | malformed (usage : Usage)
  | clientGone (usage : Usage)
  | unavailable (usage : Usage)
  | notAccepted (usage : Usage)
  | answered (response : Response Usage)

structure Pass (Usage : Type) where
  modelBlocked : Bool
  policy : Policy Usage
  forward : Forward Usage
  next : List Access

/-- Where the HTTP handlers differ. -/
structure Endpoint where
  checksModel : Bool
  appliesPolicy : Bool
  rejectsBadRequest : Bool
  stopsWhenGone : Bool
  retriesScoped : Bool
  failsOver : Bool
  deriving DecidableEq, Repr

structure Loop where
  access : Access
  switches : ℕ
  excludedAccountIDs : List String
  authRefreshed : List String
  requestScopedRetries : String → ℕ

/-- A handler goes round again, or returns with or without its reservation. -/
inductive Next
  | again (loop : Loop)
  | finish (held : Bool)

/-- The loop on the next route, which keeps the pricing of the request. -/
def Loop.moveTo (l : Loop) (next : Access) : Loop :=
  { l with
    access := { next with pricing := l.access.pricing }
    excludedAccountIDs := l.excludedAccountIDs ++ [l.access.accountID] }

def resolveNext (next : List Access) (l : Loop) : Option Access :=
  resolveGatewayAccess next (l.excludedAccountIDs ++ [l.access.accountID])

/-- Switch to another account while the request may; otherwise answer the client. -/
def switchAccount (next : List Access) (l : Loop) : List (Event Usage) × Next :=
  if l.switches < maxUpstreamAccountSwitches then
    match resolveNext next l with
    | some access =>
      ([.released l.access.accountID, .resolved access.accountID],
        .again { l.moveTo access with switches := l.switches + 1 })
    | none => ([.released l.access.accountID, .responded], .finish false)
  else ([.responded], .finish true)

/-- `refreshRejectedGatewayAccess` marks the account before it tries. -/
def Loop.markRefreshed (l : Loop) (status : ℕ) : Loop :=
  if status = 401 then { l with authRefreshed := l.access.accountID :: l.authRefreshed } else l

def rejected (e : Endpoint) (metric : Metric Usage) (r : Response Usage) (next : List Access) (l : Loop) :
    List (Event Usage) × Next :=
  if r.clientGone then ([.recorded metric], .finish true)
  else if r.status = 400 ∧ ¬ r.planGated then ([.recorded metric, .responded], .finish true)
  else if r.status = 401 ∧ l.access.accountID ∉ l.authRefreshed ∧ r.tokenRefreshed then
    ([], .again (l.markRefreshed r.status))
  else if e.stopsWhenGone ∧ r.clientGoneLater then ([.recorded metric], .finish true)
  else
    let step := switchAccount next (l.markRefreshed r.status)
    (.recorded metric :: step.1, step.2)

def Loop.retry (l : Loop) : Loop :=
  { l with
    requestScopedRetries := Function.update l.requestScopedRetries l.access.accountID
      (l.requestScopedRetries l.access.accountID + 1) }

def accepted (e : Endpoint) (metric : Metric Usage) (r : Response Usage) (next : List Access) (l : Loop) :
    List (Event Usage) × Next :=
  match r.copy with
  | .completed | .failed => ([.responded, .recorded metric], .finish true)
  | .failover requestScopedTransient =>
    if ¬ e.failsOver then ([.responded, .recorded metric], .finish true)
    else if e.retriesScoped ∧ requestScopedTransient ∧ ¬ r.clientGoneLater ∧
        l.requestScopedRetries l.access.accountID < maxRequestScopedCapacityRetries then
      ([.recorded metric], if r.retryWaited then .again l.retry else .finish true)
    else if r.clientGoneLater then ([.recorded metric, .responded], .finish true)
    else
      let step := switchAccount next l
      (.recorded metric :: step.1, step.2)

def afterForward (e : Endpoint) (attemptRequestID : RequestID) (p : Pass Usage) (l : Loop) :
    List (Event Usage) × Next :=
  match p.forward with
  | .malformed usage => ([.recorded ⟨attemptRequestID, l.access, usage⟩, .responded], .finish true)
  | .clientGone usage => ([.recorded ⟨attemptRequestID, l.access, usage⟩], .finish true)
  | .unavailable usage =>
    let step := switchAccount p.next l
    (.recorded ⟨attemptRequestID, l.access, usage⟩ :: step.1, step.2)
  | .notAccepted usage => ([.recorded ⟨attemptRequestID, l.access, usage⟩], .finish true)
  | .answered r =>
    let metric : Metric Usage :=
      ⟨upstreamRequestID r.xRequestID r.openaiRequestID attemptRequestID, l.access, r.usage⟩
    if shouldSwitchUpstreamAccount r.status ∨ e.rejectsBadRequest ∧ r.status = 400 then
      rejected e metric r p.next l
    else accepted e metric r p.next l

def onePass (e : Endpoint) (gatewayRequestID : String) (p : Pass Usage) (l : Loop) : List (Event Usage) × Next :=
  if e.checksModel ∧ p.modelBlocked then
    match resolveNext p.next l with
    | some access => ([.released l.access.accountID, .resolved access.accountID], .again (l.moveTo access))
    | none => ([.released l.access.accountID, .responded], .finish false)
  else
    let attemptRequestID :=
      requestScopedAttemptRequestID gatewayRequestID (l.requestScopedRetries l.access.accountID)
    match if e.appliesPolicy then p.policy else .applied with
    | .refused usage => ([.recorded ⟨attemptRequestID, l.access, usage⟩, .responded], .finish true)
    | .applied =>
      let step := afterForward e attemptRequestID p l
      (.forwarded l.access.accountID :: step.1, step.2)

/-- The loop of a handler, with the release that it defers. -/
def runPasses (e : Endpoint) (gatewayRequestID : String) : List (Pass Usage) → Loop → List (Event Usage)
  | [], _ => []
  | p :: ps, l =>
    match onePass e gatewayRequestID p l with
    | (events, .again l') => events ++ runPasses e gatewayRequestID ps l'
    | (events, .finish held) => events ++ if held then [.released l.access.accountID] else []

/-- Whether the body could be read and prepared; a refused one is recorded. -/
inductive Body (Usage : Type)
  | prepared
  | refused (usage : Usage)

structure HTTPRequest (Usage : Type) where
  headers : ClientHeaders
  candidates : List Access
  admitted : Bool
  pricing : Option String
  body : Body Usage
  passes : List (Pass Usage)

def handle (e : Endpoint) (r : HTTPRequest Usage) : List (Event Usage) :=
  match resolveGatewayAccess r.candidates [] with
  | none => [.responded]
  | some access =>
    match if r.admitted then r.pricing else none with
    | none => [.resolved access.accountID, .responded, .released access.accountID]
    | some pricing =>
      let access := { access with pricing := some pricing }
      match r.body with
      | .refused usage =>
        [.resolved access.accountID, .recorded ⟨.fallback (gatewayRequestID r.headers) .first, access, usage⟩,
          .responded, .released access.accountID]
      | .prepared =>
        .resolved access.accountID ::
          runPasses e (gatewayRequestID r.headers) r.passes ⟨access, 0, [], [], fun _ => 0⟩

def responses : HTTPRequest Usage → List (Event Usage) := handle ⟨true, true, true, true, true, true⟩

def images : HTTPRequest Usage → List (Event Usage) := handle ⟨true, false, true, false, false, true⟩

def alphaSearch : HTTPRequest Usage → List (Event Usage) := handle ⟨false, false, false, true, false, false⟩

end HTTP

section WebSocket

/-- The policy and the fingerprint of a turn; only a refusal is recorded. -/
inductive TurnPolicy (Usage : Type)
  | applied
  | refused (usage : Usage)
  | malformed

/-- The hook that the session calls next within a turn: `OnDialError` with a 401, `OnDialError` with a
429 or `OnUpstreamError`, or `AfterTurn`. -/
inductive Try (Usage : Type)
  | unauthorized (usage : Usage) (tokenRefreshed : Bool) (policy : TurnPolicy Usage)
  | rateLimited (usage : Usage) (next : List Access) (policy : TurnPolicy Usage)
  | afterTurn (responseID : String) (usage : Usage) (handshakeSucceeded terminal : Bool)

structure TurnScript (Usage : Type) where
  admitted : Bool
  pricing : Option String
  candidates : List Access
  reacquired : Bool
  policy : TurnPolicy Usage
  tries : List (Try Usage)

structure Connection where
  pinned : Option Access
  firstTurn : Bool
  failedFirstAccountIDs : List String
  firstAccountSwitches : ℕ
  authRefreshed : List String
  deriving DecidableEq, Repr

/-- The metric that `setTurnAccess` records when it refuses the turn. -/
def policyMetrics (connectionRequestID : String) (turn : ℕ) (access : Access) :
    TurnPolicy Usage → List (Metric Usage)
  | .refused usage => [⟨.fallback connectionRequestID (.turn turn), access, usage⟩]
  | _ => []

def TurnPolicy.passes : TurnPolicy Usage → Bool
  | .applied => true
  | _ => false

def turnRequestID (connectionRequestID : String) (turn : ℕ) (responseID : String) : RequestID :=
  if trimSpace responseID ≠ "" then .upstream (trimSpace responseID)
  else .fallback connectionRequestID (.turn turn)

/-- The account that the later turns stay on, as `AfterTurn` pins it. -/
def Connection.pin (c : Connection) (turn : ℕ) (access : Access) (replace handshakeSucceeded terminal : Bool) :
    Connection :=
  if handshakeSucceeded ∧ (turn = 1 ∧ c.firstTurn ∨ replace ∧ terminal) then
    { c with pinned := some access, firstTurn := false }
  else c

/-- The hooks of one turn, from the attempt with the given number on. The connection is returned
when the session goes on to the next turn. -/
def runTries (connectionRequestID : String) (turn : ℕ) :
    List (Try Usage) → ℕ → Access → Bool → Connection → List (Metric Usage) × Option Connection
  | [], _, _, _, _ => ([], none)
  | .unauthorized usage tokenRefreshed policy :: rest, attempt, access, replace, c =>
    let marked := { c with authRefreshed := access.accountID :: c.authRefreshed }
    if access.accountID ∉ c.authRefreshed ∧ tokenRefreshed then
      if policy.passes then
        let later := runTries connectionRequestID turn rest attempt access replace marked
        (policyMetrics connectionRequestID turn access policy ++ later.1, later.2)
      else (policyMetrics connectionRequestID turn access policy, none)
    else ([⟨.fallback connectionRequestID (.turnAttempt turn attempt), access, usage⟩], none)
  | .rateLimited usage next policy :: rest, attempt, access, _, c =>
    let failed : Metric Usage := ⟨.fallback connectionRequestID (.turnAttempt turn attempt), access, usage⟩
    let c := { c with failedFirstAccountIDs := c.failedFirstAccountIDs ++ [access.accountID] }
    if maxUpstreamAccountSwitches ≤ c.firstAccountSwitches then ([failed], none)
    else
      match resolveGatewayAccess next c.failedFirstAccountIDs with
      | none => ([failed], none)
      | some found =>
        let found := { found with pricing := access.pricing }
        let c := { c with firstAccountSwitches := c.firstAccountSwitches + 1 }
        if policy.passes then
          let later := runTries connectionRequestID turn rest (attempt + 1) found true c
          (failed :: policyMetrics connectionRequestID turn found policy ++ later.1, later.2)
        else (failed :: policyMetrics connectionRequestID turn found policy, none)
  | .afterTurn responseID usage handshakeSucceeded terminal :: _, _, access, replace, c =>
    ([⟨turnRequestID connectionRequestID turn responseID, access, usage⟩],
      some (c.pin turn access replace handshakeSucceeded terminal))

def turnAccess (t : TurnScript Usage) (c : Connection) : Option Access :=
  if c.firstTurn then resolveGatewayAccess t.candidates c.failedFirstAccountIDs
  else if t.reacquired then c.pinned else none

def runTurns (connectionRequestID : String) : List (TurnScript Usage) → ℕ → Connection → List (Metric Usage)
  | [], _, _ => []
  | t :: ts, turn, c =>
    if 1 < turn ∧ ¬ t.admitted then []
    else
      match t.pricing, turnAccess t c with
      | some pricing, some access =>
        let access := { access with pricing := some pricing }
        if t.policy.passes then
          let later := runTries connectionRequestID turn t.tries 1 access false c
          later.1 ++ match later.2 with
            | some c => runTurns connectionRequestID ts (turn + 1) c
            | none => []
        else policyMetrics connectionRequestID turn access t.policy
      | _, _ => []

structure WebSocketRequest (Usage : Type) where
  headers : ClientHeaders
  turns : List (TurnScript Usage)

def responsesWebSocket (w : WebSocketRequest Usage) : List (Metric Usage) :=
  runTurns (gatewayRequestID w.headers) w.turns 1 ⟨none, true, [], 0, []⟩

end WebSocket

section Store

/-- A client's request to the gateway. -/
inductive Exchange (Usage : Type)
  | responses (request : HTTPRequest Usage)
  | images (request : HTTPRequest Usage)
  | alphaSearch (request : HTTPRequest Usage)
  | webSocket (request : WebSocketRequest Usage)

/-- The attempts of an exchange that are recorded, in order. -/
def Exchange.recorded : Exchange Usage → List (Metric Usage)
  | .responses request => (GatewayModel.responses request).filterMap Event.metric?
  | .images request => (GatewayModel.images request).filterMap Event.metric?
  | .alphaSearch request => (GatewayModel.alphaSearch request).filterMap Event.metric?
  | .webSocket request => responsesWebSocket request

/-- A row of `gateway_request_metrics`. -/
structure MetricRow where
  requestID : String
  apiKeyID : String
  planID : String
  accountID : String
  memberID : String
  generation : ℤ
  pricingVersionID : String
  estimatedCostMicros : ℤ
  deriving DecidableEq, Repr

/-- The columns of the unique index that the insertion conflicts on. -/
def MetricRow.conflictKey (r : MetricRow) : String × String × String × String × ℤ :=
  (r.requestID, r.apiKeyID, r.planID, r.accountID, r.generation)

variable (versionedCost : String → Usage → Option ℤ)

/-- The row that the service builds for a metric; without pinned pricing or a cost there is none. -/
def Metric.row? (m : Metric Usage) : Option MetricRow :=
  m.access.pricing.bind fun pricing => (versionedCost pricing m.usage).map fun cost =>
    { requestID := m.requestID.text
      apiKeyID := m.access.apiKeyID
      planID := m.access.planID
      accountID := m.access.accountID
      memberID := m.access.memberID
      generation := m.access.generation
      pricingVersionID := pricing
      estimatedCostMicros := cost }

/-- `INSERT ... ON CONFLICT DO NOTHING`. -/
def insertMetric (rows : List MetricRow) (row : MetricRow) : List MetricRow :=
  if row.conflictKey ∈ rows.map MetricRow.conflictKey then rows else rows ++ [row]

def recordGatewayMetric (rows : List MetricRow) (m : Metric Usage) : List MetricRow :=
  match m.row? versionedCost with
  | some row => insertMetric rows row
  | none => rows

end Store

end ShareSub.GatewayModel

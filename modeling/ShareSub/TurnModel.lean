import Mathlib
import ShareSub.UsageModel

/-!
# A turn of a WebSocket session

The embedding of `relayTurn` with the queue of control frames that are held back until the first frame has reached the
client. A turn is a sequence of the events that its `select` takes, in any order. What it collects for a replay is left
out. `encoding/json` is a structure of functions on the frame, one for each type that is decoded.
-/
namespace ShareSub.TurnModel

open SseModel UsageModel

section Frames

inductive MessageType | text | binary | other
  deriving DecidableEq, Repr

/-- The fields of an upstream event. -/
structure UpstreamEvent where
  type : String
  id : String
  responseID : String
  response : Terminal
  deriving DecidableEq, Repr

/-- `encoding/json` at the types that the turn decodes frames into; a result is absent when `Unmarshal` fails. -/
structure FrameJson where
  type : Bytes → Option String
  /-- Into `type` and the `model` of `session`. -/
  sessionModel : Bytes → Option (String × String)
  /-- Into `type` and the raw members of `session`. -/
  session : Bytes → Option (String × Object)
  string : Bytes → Option String
  event : Bytes → Option UpstreamEvent
  error : Bytes → Option (Option ResponseError)
  /-- Into the `reason` of the `incomplete_details` of `response`. -/
  incompleteReason : Bytes → Option String
  /-- `responseEventStartsVisibleOutput` of a frame with its event type. -/
  startsVisibleOutput : Bytes → String → Bool

variable (json : FrameJson) (toLower : String → String)

def responsesWebSocketEventTypeIs (messageType : MessageType) (frame : Bytes) (expected : String) : Bool :=
  messageType = .text && (json.type frame).any fun type => GatewayModel.trimSpace type = expected

def isResponsesWebSocketResponseCreate (messageType : MessageType) (frame : Bytes) : Bool :=
  responsesWebSocketEventTypeIs json messageType frame "response.create"

def isResponsesWebSocketResponseCancel (messageType : MessageType) (frame : Bytes) : Bool :=
  responsesWebSocketEventTypeIs json messageType frame "response.cancel"

/-- The model of the session after a frame of the client. -/
def updateResponsesWebSocketSessionModel (model : String) (messageType : MessageType) (frame : Bytes) : String :=
  if messageType ≠ .text then model
  else
    match json.sessionModel frame with
    | some (type, value) =>
      if GatewayModel.trimSpace type = "session.update" ∧ GatewayModel.trimSpace value ≠ "" then GatewayModel.trimSpace value
      else model
    | none => model

def responsesWebSocketControlPreservesReplaySafety (messageType : MessageType) (frame : Bytes) : Bool :=
  messageType = .text && (json.session frame).any fun (type, session) =>
    match GatewayModel.trimSpace type with
    | "response.cancel" => true
    | "session.update" =>
      session.entries.length = 1 && (json.string (Object.raw session "model")).any fun model => GatewayModel.trimSpace model ≠ ""
    | _ => false

/-- The type, the response id and, if the event is terminal, the response of an upstream frame. -/
def observeResponsesWebSocketEvent (frame : Bytes) : String × String × Option Terminal :=
  match json.event frame with
  | none => ("", "", none)
  | some event =>
    let eventType := GatewayModel.trimSpace event.type
    if eventType = "" then ("", "", none)
    else
      let responseID := if event.response.id = "" then event.responseID else event.response.id
      if isTerminalResponseEvent eventType then
        (eventType, if responseID = "" then event.id else responseID, some event.response)
      else (eventType, responseID, none)

def parseResponsesWebSocketErrorEvent (frame : Bytes) : Option ResponseError := (json.error frame).bind id

def isResponsesWebSocketRateLimitError (e : ResponseError) : Bool :=
  let code := toLower (GatewayModel.trimSpace e.code)
  let errorType := toLower (GatewayModel.trimSpace e.type)
  let message := toLower (GatewayModel.trimSpace e.message)
  contains errorType "rate_limit" || contains errorType "usage_limit" || contains code "rate_limit" ||
    contains code "usage_limit" || contains code "insufficient_quota" ||
    (contains message "usage limit" && contains message "reached") ||
    (contains message "rate limit" && (contains message "reached" || contains message "exceeded"))

def isResponsesWebSocketSteeredIncomplete (frame : Bytes) (eventType : String) : Bool :=
  eventType = "response.incomplete" && (json.incompleteReason frame).any fun reason => GatewayModel.trimSpace reason = "steered"

def normalizeResponsesWebSocketTerminalEvent (eventType : String) : String :=
  if eventType = "response.canceled" then "response.cancelled" else eventType

def isSuccessfulResponsesWebSocketTerminalEvent (eventType : String) : Bool :=
  GatewayModel.trimSpace eventType ∈ ["response.completed", "response.done"]

end Frames

section Usage

/-- `ProxyMetrics` without its times. -/
structure ProxyMetrics extends UsageMetrics where
  clientDisconnected : Bool
  errorCode : String
  errorMessage : String
  errorStatusCode : ℕ
  deriving DecidableEq, Repr

def ProxyMetrics.zero : ProxyMetrics := ⟨usageMetrics Terminal.zero, false, "", "", 0⟩

def proxyMetrics (toLower : String → String) (r : Terminal) (clientDisconnected : Bool) : ProxyMetrics where
  toUsageMetrics := usageMetrics r
  clientDisconnected := clientDisconnected
  errorCode := (r.error.map ResponseError.code).getD ""
  errorMessage := (r.error.map ResponseError.message).getD ""
  errorStatusCode := (r.error.map fun e => terminalFailureStatus toLower ⟨some e, r.hasUsage, r.hasOutput⟩).getD 0

/-- `mergeResponsesWebSocketTerminal`. -/
def mergeResponsesWebSocketTerminal (dst addition : Terminal) : Terminal where
  id := if dst.id = "" then addition.id else dst.id
  model := if dst.model = "" then addition.model else dst.model
  usage :=
    { inputTokens := dst.usage.inputTokens + addition.usage.inputTokens
      outputTokens := dst.usage.outputTokens + addition.usage.outputTokens
      images := dst.usage.images + addition.usage.images
      cachedTokens := dst.usage.cachedTokens + addition.usage.cachedTokens
      cacheWriteTokens := dst.usage.cacheWriteTokens + addition.usage.cacheWriteTokens
      inputImageTokens := dst.usage.inputImageTokens + addition.usage.inputImageTokens
      outputImageTokens := dst.usage.outputImageTokens + addition.usage.outputImageTokens }
  output := dst.output ++ addition.output
  error := dst.error
  hasUsage := dst.hasUsage || addition.hasUsage
  hasOutput := dst.hasOutput || addition.hasOutput

/-- The usage of one segment. -/
def responsesWebSocketBillingMetrics (r : Terminal) : UsageMetrics where
  inputTokens := r.usage.inputTokens
  outputTokens := r.usage.outputTokens
  cachedTokens := r.usage.cachedTokens
  cacheCreationTokens := r.usage.cacheWriteTokens
  imageInputTokens := r.usage.inputImageTokens
  imageOutputTokens := r.usage.outputImageTokens
  imageCount := r.imageCount
  webSearchCalls := r.webSearchCalls
  upstreamModel := r.model

end Usage

section Pending

/-- A frame that the client has sent. -/
structure Frame where
  messageType : MessageType
  frame : Bytes
  deriving DecidableEq, Repr

def wsPreDownstreamQueueMaxFrames : ℕ := 64

def wsPreDownstreamQueueMaxBytes : ℕ := 4 * 2 ^ 20

/-- `responsesWebSocketPendingClientFrames`. -/
structure PendingClientFrames where
  frames : List Frame
  bytes : ℕ
  deriving DecidableEq, Repr

def PendingClientFrames.empty : PendingClientFrames := ⟨[], 0⟩

/-- Absent when the queue is full. -/
def PendingClientFrames.append (p : PendingClientFrames) (read : Frame) : Option PendingClientFrames :=
  if wsPreDownstreamQueueMaxFrames ≤ p.frames.length ∨
      (wsPreDownstreamQueueMaxBytes : ℤ) - p.bytes < read.frame.length then none
  else some ⟨p.frames ++ [read], p.bytes + read.frame.length⟩

/-- The frames that were written on a connection, and the number of writes that were tried. -/
structure Connection where
  written : List Frame
  attempts : ℕ
  deriving DecidableEq, Repr

/-- A write; the flag says whether it succeeds. -/
def Connection.write (accepts : ℕ → Bool) (c : Connection) (frame : Frame) : Connection × Bool :=
  if accepts c.attempts then (⟨c.written ++ [frame], c.attempts + 1⟩, true) else (⟨c.written, c.attempts + 1⟩, false)

/-- The writes up to the first that fails. -/
def Connection.writeAll (accepts : ℕ → Bool) (c : Connection) : List Frame → Connection × Bool
  | [] => (c, true)
  | frame :: frames =>
    match c.write accepts frame with
    | (c, true) => c.writeAll accepts frames
    | (c, false) => (c, false)

end Pending

section Turn

/-- The error that a turn returns. -/
inductive TurnError
  | close (status : ℕ) (reason : String)
  | firstUpstream (upstream : ResponseError)
  | terminal (event : String) (upstream : Option ResponseError)
  | client (cause : String)
  deriving DecidableEq, Repr

def statusGoingAway : ℕ := 1001
def statusPolicyViolation : ℕ := 1008
def statusInternalError : ℕ := 1011

/-- `ResponsesWebSocketTurnResult` without its times, its headers and its replay. -/
structure TurnResult where
  requestID : String
  terminalEvent : String
  metrics : ProxyMetrics
  billingSegments : List UsageMetrics
  nextFrame : Bytes
  allowQueuedCreate : Bool
  deriving DecidableEq, Repr

def TurnResult.initial : TurnResult := ⟨"", "", ProxyMetrics.zero, [], [], false⟩

/-- The variables of `relayTurn`, with the two connections. -/
structure Turn where
  result : TurnResult
  sessionModel : String
  sessionReplaySafe : Bool
  allowUpstreamErrorRetry : Bool
  pending : PendingClientFrames
  firstToken : Bool
  terminal : Terminal
  steeredUsage : Terminal
  steerAccepted : Bool
  awaitingSteerContinuation : Bool
  heldTerminalEvent : String
  pendingError : Option ResponseError
  clientErr : Option String
  wroteDownstream : Bool
  client : Connection
  upstream : Connection
  deriving DecidableEq, Repr

/-- `clientDisconnected`: an error of the client is kept with it. -/
def Turn.clientDisconnected (s : Turn) : Bool := s.clientErr.isSome

def Turn.start (sessionModel : String) (sessionReplaySafe allowUpstreamErrorRetry : Bool) (pending : PendingClientFrames)
    (client upstream : Connection) : Turn where
  result := TurnResult.initial
  sessionModel := sessionModel
  sessionReplaySafe := sessionReplaySafe
  allowUpstreamErrorRetry := allowUpstreamErrorRetry
  pending := pending
  firstToken := false
  terminal := Terminal.zero
  steeredUsage := Terminal.zero
  steerAccepted := false
  awaitingSteerContinuation := false
  heldTerminalEvent := ""
  pendingError := none
  clientErr := none
  wroteDownstream := false
  client := client
  upstream := upstream

/-- An event that the `select` of a turn can take. The last flag of an upstream frame says that the deadline of the first
output has passed. -/
inductive Happening
  | clientRead (read : String ⊕ Frame)
  | upstreamRead (read : String ⊕ Frame) (late : Bool)
  | readTimeout
  | drainTimeout
  | canceled
  deriving DecidableEq, Repr

/-- Which writes the upstream accepts, and with which error the client refuses one. -/
structure Outside where
  client : ℕ → Option String
  upstream : ℕ → Bool

inductive Flow
  | go (s : Turn)
  | done (s : Turn) (error : Option TurnError)

variable (json : FrameJson) (toLower : String → String) (o : Outside)

def Turn.applyPendingError (s : Turn) : Turn :=
  { s with terminal := if s.terminal.error.isNone then { s.terminal with error := s.pendingError } else s.terminal }

def Turn.finishMetrics (s : Turn) : Turn :=
  let s := s.applyPendingError
  let terminal := mergeResponsesWebSocketTerminal s.terminal s.steeredUsage
  let metrics := proxyMetrics toLower terminal s.clientDisconnected
  { s with
    terminal := terminal
    steeredUsage := Terminal.zero
    result :=
      { s.result with
        metrics :=
          if s.clientDisconnected then
            { metrics with
              errorStatusCode := 499
              errorCode := "client_disconnected"
              errorMessage := "client disconnected before response completed" }
          else metrics } }

/-- The turn ends here with an error. -/
def Turn.fail (s : Turn) (error : TurnError) : Flow := .done (s.finishMetrics toLower) (some error)

def Turn.markClientDisconnected (s : Turn) (cause : String) : Turn :=
  if s.clientDisconnected then s else { s with clientErr := some cause }

/-- The frames that are held back are written; they are kept when that fails. -/
def Turn.flush (s : Turn) : Turn × Bool :=
  match s.upstream.writeAll o.upstream s.pending.frames with
  | (upstream, true) => ({ s with upstream := upstream, pending := PendingClientFrames.empty }, true)
  | (upstream, false) => ({ s with upstream := upstream }, false)

def Turn.writeUpstream (s : Turn) (frame : Frame) : Turn × Bool :=
  let (upstream, ok) := s.upstream.write o.upstream frame
  ({ s with upstream := upstream }, ok)

def queuedControlFailed : TurnError := .close statusInternalError "upstream Responses WebSocket queued control write failed"

/-- A control frame that is not held back, once those before it are. -/
def Turn.control (s : Turn) (read : Frame) : Flow :=
  if s.allowUpstreamErrorRetry && !s.wroteDownstream then
    if isResponsesWebSocketResponseCancel json read.messageType read.frame then
      match { s with allowUpstreamErrorRetry := false }.flush o with
      | (s, false) => s.fail toLower queuedControlFailed
      | (s, true) =>
        match s.writeUpstream o read with
        | (s, false) => s.fail toLower (.close statusInternalError "upstream Responses WebSocket cancel write failed")
        | (s, true) => .go s
    else
      match s.pending.append read with
      | none =>
        s.fail toLower (.close statusPolicyViolation "too many client frames before the first upstream response")
      | some pending => .go { s with pending := pending }
  else
    match s.writeUpstream o read with
    | (s, false) => s.fail toLower (.close statusInternalError "upstream Responses WebSocket control write failed")
    | (s, true) => .go s

def overlappingCreate : TurnError := .close statusPolicyViolation "overlapping response.create is not supported"

def Turn.clientRead (s : Turn) : String ⊕ Frame → Flow
  | .inl cause => .go (s.markClientDisconnected cause)
  | .inr read =>
    if isResponsesWebSocketResponseCreate json read.messageType read.frame then
      if s.steerAccepted || s.awaitingSteerContinuation then
        if s.result.nextFrame ≠ [] then s.fail toLower overlappingCreate
        else .go { s with result := { s.result with nextFrame := read.frame } }
      else s.fail toLower overlappingCreate
    else
      let s := { s with
        sessionModel := updateResponsesWebSocketSessionModel json s.sessionModel read.messageType read.frame }
      if responsesWebSocketControlPreservesReplaySafety json read.messageType read.frame then
        s.control json toLower o read
      else
        let s := { s with sessionReplaySafe := false }
        if s.allowUpstreamErrorRetry && !s.wroteDownstream then
          match { s with allowUpstreamErrorRetry := false }.flush o with
          | (s, false) => s.fail toLower queuedControlFailed
          | (s, true) => s.control json toLower o read
        else s.control json toLower o read

/-- An upstream event that steers the turn. -/
def Turn.steer (s : Turn) (eventType : String) : Turn :=
  match eventType with
  | "response.steer.accepted" => { s with steerAccepted := true }
  | "response.steer.failed" => { s with steerAccepted := false }
  | "response.created" =>
    if s.awaitingSteerContinuation then { s with awaitingSteerContinuation := false, heldTerminalEvent := "" } else s
  | _ => s

def Turn.noteRequest (s : Turn) (frame : Bytes) (eventType responseID : String) : Turn :=
  { s with
    result := { s.result with requestID := if s.result.requestID = "" then responseID else s.result.requestID }
    firstToken := s.firstToken || json.startsVisibleOutput frame eventType }

/-- A terminal response is a segment of its own; it ends the turn unless it was steered. -/
def Turn.noteTerminal (s : Turn) (frame : Bytes) (eventType : String) (parsed : Option Terminal) : Turn × Bool × String :=
  match parsed with
  | none => (s, false, "")
  | some r =>
    let s := { s with
      result := { s.result with billingSegments := s.result.billingSegments ++ [responsesWebSocketBillingMetrics r] } }
    if isResponsesWebSocketSteeredIncomplete json frame eventType || s.steerAccepted then
      ({ s with
          steeredUsage := mergeResponsesWebSocketTerminal s.steeredUsage r
          terminal := Terminal.zero
          pendingError := none
          awaitingSteerContinuation := true
          heldTerminalEvent := normalizeResponsesWebSocketTerminalEvent eventType
          steerAccepted := false },
        false, "")
    else
      ({ s with terminal := mergeResponsesWebSocketTerminal r s.steeredUsage, steeredUsage := Terminal.zero },
        isTerminalResponseEvent eventType, eventType)

/-- The end of a steering without a continuation. -/
def Turn.noteHeld (s : Turn) (eventType : String) (terminalEvent : Bool × String) : Turn × Bool × String :=
  if s.awaitingSteerContinuation ∧ (eventType = "response.steer.pending" ∨ eventType = "response.steer.failed") then
    ({ s with
        awaitingSteerContinuation := false
        result := { s.result with allowQueuedCreate := eventType = "response.steer.pending" } },
      true, s.heldTerminalEvent)
  else (s, terminalEvent)

/-- A text frame, up to its delivery; it says whether it ends the turn, and as which event. -/
def Turn.observe (s : Turn) (frame : Bytes) : Except Flow (Turn × Bool × String) :=
  let (eventType, responseID, parsed) := observeResponsesWebSocketEvent json frame
  if eventType = "response.created" ∧ s.awaitingSteerContinuation ∧ s.result.nextFrame ≠ [] then
    .error (s.fail toLower
      (.close statusPolicyViolation "response.create is not allowed when steering continues automatically"))
  else
    let s := (s.steer eventType).noteRequest json frame eventType responseID
    let (s, terminalEvent) := s.noteTerminal json frame eventType parsed
    match if eventType = "error" then parseResponsesWebSocketErrorEvent json frame else none with
    | none => .ok (s.noteHeld eventType terminalEvent)
    | some e =>
      let s := { s with pendingError := some e }
      if s.allowUpstreamErrorRetry && !s.wroteDownstream && !s.clientDisconnected &&
          isResponsesWebSocketRateLimitError toLower e then
        let s := s.finishMetrics toLower
        .error (.done { s with result := { s.result with metrics := { s.result.metrics with errorStatusCode := 429 } } }
          (some (.firstUpstream e)))
      else .ok (s.noteHeld eventType terminalEvent)

/-- The frame is written to the client, and then what was held back to the upstream. -/
def Turn.deliver (s : Turn) (frame : Frame) : Except Flow Turn :=
  if s.clientDisconnected then .ok s
  else
    match o.client s.client.attempts with
    | some cause =>
      .ok ({ s with client := { s.client with attempts := s.client.attempts + 1 } }.markClientDisconnected cause)
    | none =>
      let client : Connection := ⟨s.client.written ++ [frame], s.client.attempts + 1⟩
      match { s with client := client, wroteDownstream := true }.flush o with
      | (s, false) => .error (s.fail toLower queuedControlFailed)
      | (s, true) => .ok s

/-- `applyResponsesWebSocketTerminalFailure`. -/
def Turn.applyTerminalFailure (s : Turn) (eventType : String) : Turn :=
  if s.terminal.error.isSome || isSuccessfulResponsesWebSocketTerminalEvent eventType then s
  else
    let normalized := normalizeResponsesWebSocketTerminalEvent eventType
    let e : ResponseError :=
      { type := "server_error"
        code := normalized.map fun c => if c = '.' then '_' else c
        message := "Upstream Responses WebSocket ended with " ++ normalized }
    { s with terminal := { s.terminal with error := some e } }

/-- The end of a turn at its terminal event. -/
def Turn.complete (s : Turn) (logicalTerminalEvent : String) : Flow :=
  let terminalEvent := normalizeResponsesWebSocketTerminalEvent logicalTerminalEvent
  let s := { s with result := { s.result with terminalEvent := terminalEvent } }
  let s := (s.applyPendingError.applyTerminalFailure logicalTerminalEvent).finishMetrics toLower
  if !s.clientDisconnected && !isSuccessfulResponsesWebSocketTerminalEvent logicalTerminalEvent then
    .done s (some (.terminal terminalEvent s.terminal.error))
  else .done s (s.clientErr.map .client)

def readTimedOut : TurnError := .close statusInternalError "upstream Responses WebSocket read timeout"

/-- A frame that was read from the upstream and understood. -/
def Turn.forward (s : Turn) (frame : Frame) (late : Bool) (terminalEvent : Bool × String) : Flow :=
  match s.deliver toLower o frame with
  | .error flow => flow
  | .ok s =>
    if terminalEvent.1 then s.complete toLower terminalEvent.2
    else if !s.clientDisconnected && !s.firstToken && late then s.fail toLower readTimedOut
    else .go s

def Turn.upstreamRead (s : Turn) (late : Bool) : String ⊕ Frame → Flow
  | .inl _ =>
    match s.clientErr with
    | some cause => s.fail toLower (.client cause)
    | none => s.fail toLower (.close statusInternalError "upstream Responses WebSocket read failed")
  | .inr read =>
    match read.messageType with
    | .other =>
      s.fail toLower (.close statusInternalError "upstream Responses WebSocket returned an unsupported message type")
    | .binary => s.forward toLower o read late (false, "")
    | .text =>
      match s.observe json toLower read.frame with
      | .error flow => flow
      | .ok (s, terminalEvent) => s.forward toLower o read late terminalEvent

/-- One round of the loop. The client is not read any more once it is gone, and its absence is waited for by another
timer than the upstream's silence. -/
def Turn.step (s : Turn) : Happening → Option Flow
  | .clientRead read => if s.clientDisconnected then none else some (s.clientRead json toLower o read)
  | .upstreamRead read late => some (s.upstreamRead json toLower o late read)
  | .readTimeout => if s.clientDisconnected then none else some (s.fail toLower readTimedOut)
  | .drainTimeout => s.clientErr.map fun cause => s.fail toLower (.client cause)
  | .canceled =>
    some (match s.clientErr with
      | some cause => s.fail toLower (.client cause)
      | none => s.fail toLower (.close statusGoingAway "Responses WebSocket session canceled"))

/-- The turn after the events, unless one of them cannot happen or comes after its end. -/
def Turn.run (s : Turn) : List Happening → Option Flow
  | [] => some (.go s)
  | happening :: rest =>
    match s.step json toLower o happening with
    | none => none
    | some (.go s) => s.run rest
    | some (.done s error) => if rest = [] then some (.done s error) else none

end Turn

end ShareSub.TurnModel

import Mathlib
import ShareSub.SseModel

/-!
# The relays of an upstream response

The embedding of `copySSEWithPendingLimitAndTimeout`, `copySSEAsJSON`, `CopyImagesResponse` and
`WriteStreamFailoverError`. The client is a log of the calls on its `http.ResponseWriter` with an answer for each
write; the upstream is a body that ends in some way, and for each read it is given whether the deadline of the first
output passes before it.
-/
namespace ShareSub.RelayModel

open SseModel

section Writer

abbrev Header := List (String × String)

def Header.values (header : Header) (key : String) : List String := (header.filter fun e => e.1 = key).map Prod.snd

def Header.get (header : Header) (key : String) : String := (header.values key).headD ""

def Header.set (header : Header) (key value : String) : Header := header.filter (fun e => e.1 ≠ key) ++ [(key, value)]

def responseHeaders : List String :=
  ["Content-Type", "Cache-Control", "Retry-After", "X-Request-Id", "Openai-Request-Id", "Openai-Processing-Ms",
    "Openai-Version", "X-Codex-Turn-State", "X-Codex-Primary-Used-Percent", "X-Codex-Primary-Reset-After-Seconds",
    "X-Codex-Primary-Window-Minutes", "X-Codex-Secondary-Used-Percent", "X-Codex-Secondary-Reset-After-Seconds",
    "X-Codex-Secondary-Window-Minutes", "X-Codex-Primary-Over-Secondary-Limit-Percent", "X-Ratelimit-Limit-Requests",
    "X-Ratelimit-Limit-Tokens", "X-Ratelimit-Remaining-Requests", "X-Ratelimit-Remaining-Tokens",
    "X-Ratelimit-Reset-Requests", "X-Ratelimit-Reset-Tokens"]

def copyResponseHeaders (dst src : Header) : Header :=
  dst ++ responseHeaders.flatMap fun key => (src.values key).map fun value => (key, value)

/-- The `http.ResponseWriter` of a client: its header map, and the arguments of the calls of `WriteHeader` and of
`Write`. -/
structure ResponseWriter where
  header : Header
  heads : List ℕ
  writes : List Bytes
  deriving DecidableEq, Repr

def ResponseWriter.writeHeader (w : ResponseWriter) (status : ℕ) : ResponseWriter :=
  { w with heads := w.heads ++ [status] }

def ResponseWriter.write (w : ResponseWriter) (data : Bytes) : ResponseWriter := { w with writes := w.writes ++ [data] }

/-- The bytes that a client has received that accepts every write. -/
def ResponseWriter.received (w : ResponseWriter) : Bytes := w.writes.flatten

structure StreamFailoverError where
  statusCode : ℕ
  streamBody : Bytes
  response : Bytes
  requestScopedTransient : Bool
  deriving DecidableEq, Repr

/-- The error that a relay returns, if it returns one; or the relay panics. -/
inductive CopyError
  | failover (e : StreamFailoverError)
  | incompleteStream
  | other
  | panicked
  deriving DecidableEq, Repr

/-- The upstream's response. -/
structure Response where
  statusCode : ℕ
  header : Header
  body : Bytes
  ending : ReadError
  deriving DecidableEq, Repr

def Response.reads (src : Response) : List (Bytes × Option ReadError) :=
  readLimitedLines src.ending (splitAfterNewline src.body)

def successfulStatus (status : ℕ) : Bool := 200 ≤ status && status < 300

/-- The outside of a relay: which writes the client accepts, before which reads the deadline passes, and the random
bytes that are drawn for a response without a request id. -/
structure Outside where
  accepts : ℕ → Bool
  late : ℕ → Bool
  seed : Option Bytes

end Writer

section Failed

def isAlphanumeric (c : Char) : Bool := ('a' ≤ c && c ≤ 'z') || ('A' ≤ c && c ≤ 'Z') || ('0' ≤ c && c ≤ '9')

def hexDigit (n : ℕ) : Char := "0123456789abcdef".toList.getD n '0'

/-- `hex.EncodeToString`. -/
def hexEncode (raw : Bytes) : String :=
  String.ofList (raw.flatMap fun b => [hexDigit (b.toNat / 16), hexDigit (b.toNat % 16)])

/-- The request id of the synthesized event. -/
def failedRequestID (header : Header) (seed : Option Bytes) : Option String :=
  let first := GatewayModel.trimSpace (header.get "X-Request-Id")
  let requestID := if first = "" then GatewayModel.trimSpace (header.get "Openai-Request-Id") else first
  let alphanumeric := String.ofList (requestID.toList.filter isAlphanumeric)
  if alphanumeric = "" then seed.map hexEncode else some alphanumeric

/-- The object that is marshalled, with the keys in order. -/
def failedPayload (requestID message : String) : Bytes :=
  bytes "\x7b\"response\":\x7b\"error\":\x7b\"code\":\"upstream_error\",\"message\":\"" ++ bytes message ++
    bytes "\"\x7d,\"id\":\"resp_" ++ bytes requestID ++
    bytes "\",\"object\":\"response\",\"output\":[],\"status\":\"failed\"\x7d,\"type\":\"response.failed\"\x7d"

def failedEvent (requestID message : String) : Bytes :=
  bytes "event: response.failed\ndata: " ++ failedPayload requestID message ++ bytes "\n\n"

def writeResponsesFailedSSE (dst : ResponseWriter) (header : Header) (seed : Option Bytes) (message : String) :
    ResponseWriter :=
  match failedRequestID header seed with
  | some requestID => dst.write (failedEvent requestID message)
  | none => dst

end Failed

section Stream

variable (json : Json) (toLower : String → String) (o : Outside) (src : Response) (pendingLimit : ℤ)

/-- The variables of `copySSEWithPendingLimitAndTimeout`, and whether it has panicked. -/
structure Relay where
  dst : ResponseWriter
  terminal : TerminalResponse
  topLevelError : Option ResponseError
  terminalSeen : Bool
  clientOutputStarted : Bool
  clientDisconnected : Bool
  responseDelivered : Bool
  terminalBoundaryPending : Bool
  pendingTerminal : Bool
  pendingTerminalComplete : Bool
  pendingEndsAtEventBoundary : Bool
  pending : Bytes
  panicked : Bool

def Relay.initial (dst : ResponseWriter) : Relay :=
  ⟨dst, ⟨none, false, false⟩, none, false, false, false, false, false, false, false, false, [], false⟩

/-- `writeClient` of a rewritten text; the flag is its result. After a panic nothing is written. -/
def Relay.writeClient (s : Relay) : Option Bytes → Relay × Bool
  | none => ({ s with panicked := true }, false)
  | some data =>
    if s.panicked || s.clientDisconnected || data = [] then (s, false)
    else if o.accepts s.dst.writes.length then ({ s with dst := s.dst.write data }, true)
    else ({ s with dst := s.dst.write data, clientDisconnected := true }, false)

def isBlank (line : Bytes) : Bool := trimSpace line = []

def Relay.appendPending (s : Relay) (line : Bytes) : Relay :=
  { s with
    pending := s.pending ++ line
    pendingEndsAtEventBoundary := isBlank line
    pendingTerminalComplete := s.pendingTerminalComplete || (s.pendingTerminal && isBlank line) }

def startHeader (dst : ResponseWriter) : ResponseWriter :=
  let header := copyResponseHeaders dst.header src.header
  { dst with header := if header.get "Content-Type" = "" then header.set "Content-Type" "text/event-stream" else header }

def Relay.startClientOutput (s : Relay) : Relay :=
  if s.clientOutputStarted then s
  else
    let s := { s with clientOutputStarted := true, dst := (startHeader src s.dst).writeHeader src.statusCode }
    let (s, written) := s.writeClient o (sanitizeCapacityShedSSEForClient json toLower s.pending)
    { s with
      responseDelivered := s.responseDelivered || (written && s.pendingTerminalComplete)
      terminalBoundaryPending :=
        s.terminalBoundaryPending || (written && !s.pendingTerminalComplete && s.pendingTerminal)
      pending := []
      pendingTerminal := false
      pendingTerminalComplete := false
      pendingEndsAtEventBoundary := false }

/-- The loop goes on, or the function returns. -/
inductive Flow
  | go (s : Relay)
  | done (s : Relay) (error : Option CopyError)

/-- The failover that hands the pending lines over. -/
def Relay.failover (s : Relay) : CopyError :=
  .failover
    { statusCode := (retryableTerminalFailure toLower s.terminal).1
      streamBody := s.pending
      response := []
      requestScopedTransient := requestScopedCapacityFailure toLower s.terminal }

/-- The usage of a terminal event. -/
def Relay.noteUsage (s : Relay) (line : Bytes) : Relay :=
  match parseResponseUsage json line with
  | some parsed =>
    { s with terminal :=
        if parsed.error.isNone && s.topLevelError.isSome then { parsed with error := s.topLevelError } else parsed }
  | none => s

/-- The limit of the pending lines: a line that does not fit any more releases them. -/
def Relay.overflow (s : Relay) (line : Bytes) : Relay :=
  if !s.clientOutputStarted && pendingLimit - s.pending.length ≤ line.length then s.startClientOutput json toLower o src
  else s

/-- The error of a top-level error event. -/
def Relay.noteError (s : Relay) (line : Bytes) : Relay :=
  match if responseEventType json line = some "error" then parseSSEError json line else none with
  | some e => { s with topLevelError := some e, terminal := { s.terminal with error := some e } }
  | none => s

/-- A line that is not empty, up to where its event type is known. -/
def Relay.inspect (s : Relay) (line : Bytes) : Relay :=
  ((s.noteUsage json line).overflow json toLower o src pendingLimit line).noteError json line

/-- The line is kept back, or handed to the client. -/
def Relay.relay (s : Relay) (line : Bytes) (terminalEvent : Bool) : Relay :=
  if !s.clientOutputStarted then
    let s := s.appendPending line
    if isClientOutputEvent json toLower line then s.startClientOutput json toLower o src else s
  else
    let (s, written) := s.writeClient o (sanitizeCapacityShedSSELineForClient json toLower line)
    let boundary := s.terminalBoundaryPending || (written && terminalEvent)
    { s with
      responseDelivered := s.responseDelivered || (written && boundary && isBlank line)
      terminalBoundaryPending := boundary && !(written && isBlank line) }

def Relay.line (s : Relay) (line : Bytes) : Flow :=
  let s := s.inspect json toLower o src pendingLimit line
  match (responseEventType json line).filter fun eventType => isTerminalResponseEvent eventType with
  | none => .go (s.relay json toLower o src line false)
  | some eventType =>
    let s := { s with terminalSeen := true, pendingTerminal := s.pendingTerminal || !s.clientOutputStarted }
    if eventType ∈ ["response.completed", "response.done"] ∧ !s.clientOutputStarted ∧ s.terminal.emptyCompleted then
      let s := s.appendPending line
      .done s (some (.failover ⟨502, s.pending, [], false⟩))
    else if eventType = "response.failed" ∧ !s.clientOutputStarted then
      let s := s.appendPending line
      if (retryableTerminalFailure toLower s.terminal).2 then .done s (some (s.failover toLower))
      else .go (s.startClientOutput json toLower o src)
    else .go (s.relay json toLower o src line true)

/-- The result of a read may hold no line. -/
def Relay.read (s : Relay) (line : Bytes) : Flow :=
  if line = [] then .go s
  else
    match s.line json toLower o src pendingLimit line with
    | .go s => if s.panicked then .done s (some .panicked) else .go s
    | out => out

def incompleteMessage : String := "upstream stream ended before a terminal response event"

/-- The failed event for a client that is still there. -/
def Relay.synthesize (s : Relay) (message : String) : Relay :=
  if s.panicked || s.clientDisconnected then s
  else { s with dst := writeResponsesFailedSSE s.dst src.header o.seed message }

/-- The stream ends without a terminal event, with the message for the client. -/
def Relay.endWithoutTerminal (s : Relay) (message : String) : Relay × Option CopyError :=
  if s.topLevelError.isSome then
    if !s.clientOutputStarted then
      if (retryableTerminalFailure toLower s.terminal).2 then (s, some (s.failover toLower))
      else
        let s := { s with pendingTerminal := true, pendingTerminalComplete := s.pendingEndsAtEventBoundary }
        (s.startClientOutput json toLower o src, none)
    else (s, none)
  else ((s.startClientOutput json toLower o src).synthesize o src message, some .incompleteStream)

/-- The end of the relay with the error of a read, as long as nothing panics. -/
def Relay.conclude (s : Relay) (error : ReadError) : Relay × Option CopyError :=
  if error = .eof then
    if successfulStatus src.statusCode && !s.terminalSeen then
      s.endWithoutTerminal json toLower o src incompleteMessage
    else (s.startClientOutput json toLower o src, none)
  else if successfulStatus src.statusCode && !s.terminalSeen then
    s.endWithoutTerminal json toLower o src "upstream stream read failed"
  else (s, some .other)

def Relay.finish (s : Relay) (error : ReadError) : Relay × Option CopyError :=
  let out := s.conclude json toLower o src error
  if out.1.panicked then (out.1, some .panicked) else out

/-- The loop over the reads from the given one on. A `continue` after a read that came with an error reads nothing
but the error again. -/
def Relay.loop : List (Bytes × Option ReadError) → ℕ → Relay → Relay × Option CopyError
  | [], _, s => (s, none)
  | (line, error) :: reads, n, s =>
    if !s.clientOutputStarted && o.late n then (s, some (.failover ⟨504, s.pending, [], false⟩))
    else
      match s.read json toLower o src pendingLimit line with
      | .done s error => (s, error)
      | .go s =>
        match error with
        | none => Relay.loop reads (n + 1) s
        | some error => s.finish json toLower o src error

def copySSEWithPendingLimitAndTimeout (dst : ResponseWriter) : Relay × Option CopyError :=
  Relay.loop json toLower o src pendingLimit src.reads 0 (Relay.initial dst)

end Stream

end ShareSub.RelayModel

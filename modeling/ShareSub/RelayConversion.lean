import Mathlib
import ShareSub.RelayModel

/-!
# The relays that convert a stream

The embedding of `copySSEAsJSON`, `CopyImagesResponse` and `WriteStreamFailoverError`. The two conversions read the
whole stream before they answer, except for the partial images of a streaming request.
-/
namespace ShareSub.RelayConversion

open SseModel RelayModel

section AsJSON

variable (json : Json) (toLower : String → String) (o : Outside) (src : Response)

/-- A write that is not followed by another one; its error is the result. -/
def writeLast (dst : ResponseWriter) (data : Bytes) : ResponseWriter × Option CopyError :=
  (dst.write data, if o.accepts dst.writes.length then none else some .other)

def writeProxyJSONError (dst : ResponseWriter) (status : ℕ) (code message : String) : ResponseWriter :=
  ({ dst with header := dst.header.set "Content-Type" "application/json" }.writeHeader status).write
    (json.encodeError code message)

/-- The head of a JSON response, and its body. -/
def writeJSON (dst : ResponseWriter) (status : ℕ) (body : Bytes) : ResponseWriter × Option CopyError :=
  let header := (copyResponseHeaders dst.header src.header).set "Content-Type" "application/json"
  writeLast o ({ dst with header := header }.writeHeader status) body

def responseJSONWithError (payload : Bytes) (e : ResponseError) : Option Bytes :=
  (json.object payload).bind fun response =>
    (json.marshalError e).bind fun encodedError => json.marshalObject (response.insert "error" encodedError)

structure Conversion where
  terminal : TerminalResponse
  finalResponse : Bytes
  terminalType : String
  topLevelError : Option ResponseError
  outputSeen : Bool

def Conversion.initial : Conversion := ⟨⟨none, false, false⟩, [], "", none, false⟩

/-- One line; absent when the error could not be put into the response. -/
def Conversion.line (s : Conversion) (line : Bytes) : Option Conversion :=
  let s := if isClientOutputEvent json toLower line then { s with outputSeen := true } else s
  match (ssePayload line).bind json.event with
  | none => some s
  | some (type, response, error) =>
    let s := match if type = "error" then error else none with
      | some e => { s with topLevelError := some e, terminal := { s.terminal with error := some e } }
      | none => s
    if isTerminalResponseEvent type ∧ response ≠ [] ∧ response ≠ bytes "null" then
      let s := { s with terminalType := type, finalResponse := response }
      match parseJSONResponseUsage json response with
      | none => some s
      | some parsed =>
        match if parsed.error.isNone then s.topLevelError else none with
        | none => some { s with terminal := parsed }
        | some e =>
          (responseJSONWithError json response e).map fun withError =>
            { s with terminal := { parsed with error := some e }, finalResponse := withError }
    else some s

/-- The answer to the client once the stream is at its end. -/
def Conversion.answer (s : Conversion) (dst : ResponseWriter) : ResponseWriter × Option CopyError :=
  let failure := retryableTerminalFailure toLower s.terminal
  let transient := requestScopedCapacityFailure toLower s.terminal
  if s.finalResponse = [] then
    match s.topLevelError with
    | some e =>
      match (json.marshalError e).bind fun encoded => json.marshalObject ((∅ : Object).insert "error" encoded) with
      | none =>
        (writeProxyJSONError json dst 502 "upstream_error" "upstream error response could not be encoded", some .other)
      | some envelope =>
        if failure.2 then (dst, some (.failover ⟨failure.1, [], envelope, transient⟩))
        else writeJSON o src dst failure.1 envelope
    | none => (writeProxyJSONError json dst 502 "upstream_error" incompleteMessage, some .incompleteStream)
  else if s.terminalType = "response.failed" then
    if failure.2 then (dst, some (.failover ⟨failure.1, [], s.finalResponse, transient⟩))
    else writeJSON o src dst failure.1 s.finalResponse
  else if s.terminalType ∈ ["response.completed", "response.done"] ∧ s.terminal.emptyCompleted then
    (dst, some (.failover ⟨502, [], s.finalResponse, false⟩))
  else writeJSON o src dst src.statusCode s.finalResponse

def Conversion.loop (dst : ResponseWriter) :
    List (Bytes × Option ReadError) → ℕ → Conversion → ResponseWriter × Option CopyError
  | [], _, _ => (dst, none)
  | (line, error) :: reads, n, s =>
    if !s.outputSeen && o.late n then (dst, some (.failover ⟨504, [], [], false⟩))
    else
      match if line = [] then some s else s.line json toLower line with
      | none =>
        (writeProxyJSONError json dst 502 "upstream_error" "upstream error response could not be encoded", some .other)
      | some s =>
        match error with
        | none => Conversion.loop dst reads (n + 1) s
        | some .eof => s.answer json toLower o src dst
        | some _ => (writeProxyJSONError json dst 502 "upstream_error" "upstream stream read failed", some .other)

def copySSEAsJSON (dst : ResponseWriter) : ResponseWriter × Option CopyError :=
  Conversion.loop json toLower o src dst src.reads 0 Conversion.initial

/-- The failure that the last attempt left, written when no other account is left to try. Nothing follows the head
when the rewriting panics. -/
def writeStreamFailoverError (dst : ResponseWriter) (failure : StreamFailoverError) (clientWantsStream : Bool) :
    ResponseWriter :=
  if clientWantsStream then
    let dst := (startHeader src dst).writeHeader src.statusCode
    match sanitizeCapacityShedSSEForClient json toLower failure.streamBody with
    | some body => dst.write body
    | none => dst
  else
    let header := (copyResponseHeaders dst.header src.header).set "Content-Type" "application/json"
    ({ dst with header := header }.writeHeader failure.statusCode).write
      (sanitizeCapacityShedResponseForClient json toLower failure.response)

end AsJSON

section Images

structure ImagesResult where
  result : String
  revisedPrompt : String
  outputFormat : String
  size : String
  background : String
  quality : String
  model : String
  deriving DecidableEq, Repr

/-- An output item; the content is its parts with their types. -/
structure ImagesOutput where
  type : String
  content : List (String × String)
  image : ImagesResult
  deriving DecidableEq, Repr

/-- `imagesTerminalEvent`; the usage of the tool and the response as a whole are kept encoded. -/
structure ImagesEvent where
  type : String
  error : Option ResponseError
  item : ImagesOutput
  createdAt : ℤ
  incompleteReason : String
  usage : Bytes
  output : List ImagesOutput
  responseError : Option ResponseError
  response : Bytes
  delta : String
  partialImageB64 : String
  partialImageIndex : ℤ
  deriving DecidableEq, Repr

structure ImagesRequest where
  stream : Bool
  isEdit : Bool
  responseFormat : String
  size : String
  model : String
  deriving DecidableEq, Repr

/-- `encoding/json` at the types of the image endpoints. -/
structure ImagesJson where
  event : Bytes → Option ImagesEvent
  /-- The payload of a partial image: the time, the index and the image. -/
  partialImage : String → ℤ → ℤ → String → Option Bytes
  /-- The payload of a completed image. -/
  completedImage : String → ImagesRequest → ImagesEvent → ImagesResult → Option Bytes
  /-- The payload of an error event. -/
  errorEvent : String → String → Option Bytes
  /-- `Encode` of the response without streaming. -/
  encodeResponse : ImagesRequest → ImagesEvent → List ImagesResult → Bytes

variable (json : Json) (images : ImagesJson) (toLower : String → String) (o : Outside) (src : Response)
  (request : ImagesRequest)

structure ImagesRelay where
  dst : ResponseWriter
  terminal : TerminalResponse
  completed : Option ImagesEvent
  outputItemResults : List ImagesResult
  streamStarted : Bool
  clientDisconnected : Bool
  createdAt : ℤ
  refusal : String

def ImagesRelay.initial (dst : ResponseWriter) : ImagesRelay :=
  ⟨dst, ⟨none, false, false⟩, none, [], false, false, 0, ""⟩

def appendImagesRefusalText (refusal value : String) : String :=
  let value := GatewayModel.trimSpace value
  if value = "" then refusal else if refusal = "" then value else refusal ++ " " ++ value

def appendImagesContentText (refusal : String) (content : List (String × String)) : String :=
  content.foldl (fun refusal part => if part.1 = "output_text" then appendImagesRefusalText refusal part.2 else refusal)
    refusal

def imagesIncompleteError (reason : String) : ResponseError :=
  let reason := GatewayModel.trimSpace reason
  let message :=
    if reason = "" then "Upstream did not complete image generation" else "Upstream image generation incomplete: " ++ reason
  if contains (toLower reason) "content_filter" || contains (toLower reason) "moderation" then
    ⟨"image_generation_user_error", "content_policy_violation", message⟩
  else ⟨"incomplete_error", "response_incomplete", message⟩

def ImagesEvent.terminal (event : ImagesEvent) : TerminalResponse := ⟨event.responseError, false, false⟩

def ImagesEvent.kind (suffix : String) : String :=
  (if request.isEdit then "image_edit" else "image_generation") ++ "." ++ suffix

/-- `writeImagesStreamEvent`; the flag is its success. -/
def writeImagesStreamEvent (dst : ResponseWriter) (eventType : String) (encoded : Option Bytes) :
    ResponseWriter × Bool :=
  match encoded with
  | none => (dst, false)
  | some encoded =>
    (dst.write (bytes "event: " ++ bytes eventType ++ bytes "\ndata: " ++ encoded ++ bytes "\n\n"),
      o.accepts dst.writes.length)

/-- The code and the message of an error for the client. -/
def imagesErrorTexts (e : Option ResponseError) : String × String :=
  match e with
  | none => ("upstream_error", "upstream image generation failed")
  | some e =>
    (if e.code = "" then "upstream_error" else e.code,
      if e.message = "" then "upstream image generation failed" else e.message)

def writeImagesStreamError (dst : ResponseWriter) (e : Option ResponseError) : ResponseWriter :=
  match images.errorEvent (imagesErrorTexts e).1 (imagesErrorTexts e).2 with
  | none => dst
  | some payload => dst.write (bytes "event: error\ndata: " ++ payload ++ bytes "\n\n")

def startImagesStream (dst : ResponseWriter) : ResponseWriter :=
  { dst with header := (copyResponseHeaders dst.header src.header).set "Content-Type" "text/event-stream" }.writeHeader
    src.statusCode

/-- `finishImagesFailure`, with the response that the failure carries. -/
def finishImagesFailure (s : ImagesRelay) (response : Bytes) : ResponseWriter × Option CopyError :=
  let failure := retryableTerminalFailure toLower s.terminal
  if !s.streamStarted && failure.2 then (s.dst, some (.failover ⟨failure.1, [], response, false⟩))
  else if request.stream then
    let dst := if !s.streamStarted then startImagesStream src s.dst else s.dst
    (writeImagesStreamError images dst s.terminal.error, none)
  else
    (writeProxyJSONError json s.dst failure.1 (imagesErrorTexts s.terminal.error).1
      (imagesErrorTexts s.terminal.error).2, none)

/-- The loop goes on, or the function returns. -/
inductive ImagesFlow
  | go (s : ImagesRelay)
  | done (dst : ResponseWriter) (error : Option CopyError)

def ImagesRelay.partialImage (s : ImagesRelay) (event : ImagesEvent) : ImagesRelay :=
  let s := if !s.streamStarted && !s.clientDisconnected then
      { s with dst := startImagesStream src s.dst, streamStarted := true }
    else s
  if s.clientDisconnected then s
  else
    let eventType := ImagesEvent.kind request "partial_image"
    let (dst, written) := writeImagesStreamEvent o s.dst eventType
      (images.partialImage eventType s.createdAt event.partialImageIndex event.partialImageB64)
    { s with dst := dst, clientDisconnected := !written }

/-- The end of a failed generation: a client that is gone gets nothing. -/
def ImagesRelay.fail (s : ImagesRelay) (terminal : TerminalResponse) (response : Bytes) : ImagesFlow :=
  let s := { s with terminal := terminal }
  if s.clientDisconnected then .done s.dst none
  else
    let out := finishImagesFailure json images toLower src request s response
    .done out.1 out.2

def ImagesRelay.event (s : ImagesRelay) (event : ImagesEvent) : ImagesFlow :=
  match event.type with
  | "response.created" | "response.in_progress" => .go { s with createdAt := event.createdAt }
  | "response.output_text.delta" => .go { s with refusal := appendImagesRefusalText s.refusal event.delta }
  | "response.image_generation_call.partial_image" =>
    .go (if request.stream then s.partialImage images o src request event else s)
  | "response.output_item.done" =>
    if event.item.type = "image_generation_call" ∧ event.item.image.result ≠ "" then
      .go { s with outputItemResults := s.outputItemResults ++ [event.item.image] }
    else if event.item.type = "message" then
      .go { s with refusal := appendImagesContentText s.refusal event.item.content }
    else .go s
  | "response.completed" =>
    .go { s with
      completed := some event
      createdAt := event.createdAt
      terminal := event.terminal
      refusal := (event.output.filter fun item => item.type = "message").foldl
        (fun refusal item => appendImagesContentText refusal item.content) s.refusal }
  | "error" =>
    match event.error with
    | some e => s.fail json images toLower src request { s.terminal with error := some e } event.response
    | none => .go s
  | "response.failed" =>
    s.fail json images toLower src request
      { event.terminal with error := some (event.terminal.error.getD
          ⟨"server_error", "response_failed", "Upstream image generation failed"⟩) } event.response
  | "response.incomplete" =>
    s.fail json images toLower src request
      { event.terminal with error := some (imagesIncompleteError toLower event.incompleteReason) } event.response
  | _ => .go s

/-- One image after the other, until the client is gone. -/
def writeCompletedImages (event : ImagesEvent) :
    List ImagesResult → ResponseWriter → ResponseWriter
  | [], dst => dst
  | result :: results, dst =>
    let eventType := ImagesEvent.kind request "completed"
    let (dst, written) := writeImagesStreamEvent o dst eventType (images.completedImage eventType request event result)
    if written then writeCompletedImages event results dst else dst

/-- The failover of a stream that ended without anything for the client. -/
def imagesFailover : CopyError := .failover ⟨502, [], [], false⟩

/-- A stream that began ends with an error event, unless the client is gone. -/
def ImagesRelay.endStream (s : ImagesRelay) (message : String) : ResponseWriter :=
  if s.clientDisconnected then s.dst else writeImagesStreamError images s.dst (some ⟨"", "upstream_error", message⟩)

/-- The images of the completed response, or else those of its items. -/
def ImagesRelay.results (s : ImagesRelay) (event : ImagesEvent) : List ImagesResult :=
  let results := (event.output.filter fun item =>
    item.type = "image_generation_call" && item.image.result ≠ "").map ImagesOutput.image
  if results = [] then s.outputItemResults else results

/-- The answer to a completed response without images: a refusal, or nothing at all. -/
def ImagesRelay.withoutImages (s : ImagesRelay) (event : ImagesEvent) : ResponseWriter × Option CopyError :=
  let message := GatewayModel.trimSpace s.refusal
  if message ≠ "" then
    if s.clientDisconnected then (s.dst, none)
    else
      finishImagesFailure json images toLower src request
        { s with terminal := { s.terminal with
            error := some ⟨"image_generation_user_error", "content_policy_violation", message⟩ } } event.response
  else if !s.streamStarted then (s.dst, some imagesFailover)
  else (s.endStream images "upstream completed without image output", some .other)

def ImagesRelay.withImages (s : ImagesRelay) (event : ImagesEvent) (results : List ImagesResult) :
    ResponseWriter × Option CopyError :=
  if request.stream then
    if s.clientDisconnected then (s.dst, none)
    else
      let dst := if !s.streamStarted then startImagesStream src s.dst else s.dst
      (writeCompletedImages images o request event results dst, none)
  else writeJSON o src s.dst src.statusCode (images.encodeResponse request event results)

/-- The answer once a stream has ended without an error. -/
def ImagesRelay.answer (s : ImagesRelay) : ResponseWriter × Option CopyError :=
  match s.completed with
  | none =>
    if !s.streamStarted then (s.dst, some imagesFailover)
    else (s.endStream images incompleteMessage, some .incompleteStream)
  | some event =>
    if s.results event = [] then s.withoutImages json images toLower src request event
    else s.withImages images o src request event (s.results event)

/-- One line of the stream. -/
def ImagesRelay.line (s : ImagesRelay) (line : Bytes) : ImagesFlow :=
  match ssePayload line with
  | none => .go s
  | some payload =>
    match images.event payload with
    | none => .done s.dst (some .other)
    | some event => s.event json images toLower o src request event

def ImagesRelay.loop : List (Bytes × Option ReadError) → ImagesRelay → ResponseWriter × Option CopyError
  | [], s => (s.dst, none)
  | (line, error) :: reads, s =>
    match s.line json images toLower o src request line with
    | .done dst error => (dst, error)
    | .go s =>
      match error with
      | none => ImagesRelay.loop reads s
      | some .eof => s.answer json images toLower o src request
      | some _ =>
        if !s.streamStarted then (s.dst, some imagesFailover) else (s.dst, some .other)

/-- `CopyImagesResponse` for an upstream that succeeds. -/
def copyImagesResponse (dst : ResponseWriter) : ResponseWriter × Option CopyError :=
  ImagesRelay.loop json images toLower o src request src.reads (ImagesRelay.initial dst)

end Images

end ShareSub.RelayConversion

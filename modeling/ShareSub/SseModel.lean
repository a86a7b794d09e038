import Mathlib
import ShareSub.FiniteMap
import ShareSub.GatewayModel

/-!
# The lines of an event stream

The embedding of `response_protocol.go`: how the gateway reads an upstream stream line by line, what it decides about a
line, and how it rewrites a line for the client. `encoding/json` is a structure of functions on the text, one for each
type that the gateway decodes, and `strings.ToLower` is a parameter.
-/
namespace ShareSub.SseModel

section Bytes

abbrev Bytes := List UInt8

/-- The bytes of an ASCII literal. -/
def bytes (s : String) : Bytes := s.toList.map fun c => UInt8.ofNat c.toNat

lemma bytes_ofList (l : List Char) : bytes (String.ofList l) = l.map fun c => UInt8.ofNat c.toNat := by
  rw [bytes, String.toList_ofList]

def newline : UInt8 := 10

/-- The runes of `unicode.IsSpace`, encoded. -/
def spaces : List Bytes :=
  [[9], [10], [11], [12], [13], [32], [0xC2, 0x85], [0xC2, 0xA0], [0xE1, 0x9A, 0x80], [0xE2, 0x80, 0xA8],
    [0xE2, 0x80, 0xA9], [0xE2, 0x80, 0xAF], [0xE2, 0x81, 0x9F], [0xE3, 0x80, 0x80]] ++
    (List.range 11).map fun i => [0xE2, 0x80, UInt8.ofNat (0x80 + i)]

/-- Drop the runes at the front as long as they are among the given ones. -/
def dropRunes (runes : List Bytes) : ℕ → Bytes → Bytes
  | 0, s => s
  | fuel + 1, s =>
    match runes.find? fun rune => rune.isPrefixOf s with
    | some rune => dropRunes runes fuel (s.drop rune.length)
    | none => s

/-- `bytes.TrimSpace`. -/
def trimSpace (s : Bytes) : Bytes :=
  let left := dropRunes spaces s.length s
  (dropRunes (spaces.map List.reverse) left.length left.reverse).reverse

/-- `bytes.SplitAfter` at newlines. -/
def splitAfterNewline : Bytes → List Bytes
  | [] => [[]]
  | b :: s =>
    if b = newline then [b] :: splitAfterNewline s
    else
      match splitAfterNewline s with
      | [] => [[b]]
      | line :: lines => (b :: line) :: lines

lemma splitAfterNewline_ne_nil (body : Bytes) : splitAfterNewline body ≠ [] := by
  cases body with
  | nil => exact List.cons_ne_nil _ _
  | cons b body =>
    unfold splitAfterNewline
    split_ifs
    · exact List.cons_ne_nil _ _
    · split
      · exact List.cons_ne_nil _ _
      · exact List.cons_ne_nil _ _

/-- `bytes.Index`. -/
def indexOf (s sub : Bytes) : Option ℕ :=
  (List.range (s.length + 1)).find? fun i => sub.isPrefixOf (s.drop i)

/-- `strings.Contains`. -/
def contains (s sub : String) : Bool := decide (sub.toList <:+: s.toList)

end Bytes

section Reading

def maxSSELineBytes : ℕ := 16 * 2 ^ 20

inductive ReadError | eof | failed | tooLarge
  deriving DecidableEq, Repr

/-- The results of `readLimitedLine`, one after the other. What follows the last newline comes with the error. -/
def readLimitedLines (ending : ReadError) : List Bytes → List (Bytes × Option ReadError)
  | [] => []
  | [line] => if maxSSELineBytes < line.length then [([], some .tooLarge)] else [(line, some ending)]
  | line :: lines =>
    if maxSSELineBytes < line.length then [([], some .tooLarge)] else (line, none) :: readLimitedLines ending lines

end Reading

section Decoding

structure ResponseError where
  type : String
  code : String
  message : String
  deriving DecidableEq, Repr

/-- What the decisions read of `terminalResponse`. -/
structure TerminalResponse where
  error : Option ResponseError
  hasUsage : Bool
  hasOutput : Bool
  deriving DecidableEq, Repr

abbrev Object := FiniteMap String Bytes

/-- `encoding/json` at the types that the gateway uses; a result is absent when `Unmarshal` or `Marshal` fails. -/
structure Json where
  /-- Into the field `type` alone. -/
  eventType : Bytes → Option String
  /-- Into `type` and a raw `response`. -/
  typeAndResponse : Bytes → Option (String × Bytes)
  /-- Into `type` and `error`. -/
  typeAndError : Bytes → Option (String × Option ResponseError)
  /-- Into `type`, a raw `response` and `error`. -/
  event : Bytes → Option (String × Bytes × Option ResponseError)
  /-- Into `error` alone. -/
  errorField : Bytes → Option (Option ResponseError)
  /-- Into `terminalResponse`: its error and the number of its output items. -/
  response : Bytes → Option (Option ResponseError × ℕ)
  /-- Into a map of raw values. -/
  object : Bytes → Option Object
  /-- Into a string. -/
  string : Bytes → Option String
  marshalObject : Object → Option Bytes
  marshalString : String → Option Bytes
  marshalError : ResponseError → Option Bytes
  /-- `Encode` of the error body with a code and a message. -/
  encodeError : String → String → Bytes

/-- `encoding/json` on the given texts, which are objects that hold a `type` alone. -/
def Json.ofTypes (types : List String) : Json :=
  let text (type : String) : Bytes := bytes "\x7b\"type\":\"" ++ bytes type ++ bytes "\"\x7d"
  let decode (payload : Bytes) : Option String := types.find? fun type => text type = payload
  let literal (type : String) : Bytes := bytes "\"" ++ bytes type ++ bytes "\""
  { eventType := decode
    typeAndResponse := fun payload => (decode payload).map fun type => (type, [])
    typeAndError := fun payload => (decode payload).map fun type => (type, none)
    event := fun payload => (decode payload).map fun type => (type, [], none)
    errorField := fun payload => (decode payload).map fun _ => none
    response := fun payload => (decode payload).map fun _ => (none, 0)
    object := fun payload => (decode payload).map fun type => (∅ : Object).insert "type" (literal type)
    string := fun payload => types.find? fun type => literal type = payload
    marshalObject := fun _ => none
    marshalString := fun s => some (literal s)
    marshalError := fun _ => none
    encodeError := fun _ _ => [] }

variable (json : Json) (toLower : String → String)

def TerminalResponse.emptyCompleted (r : TerminalResponse) : Bool := !r.hasUsage && !r.hasOutput && r.error.isNone

def ssePayload (line : Bytes) : Option Bytes :=
  let trimmed := trimSpace line
  if (bytes "data:").isPrefixOf trimmed then some (trimSpace (trimmed.drop 5)) else none

def responseEventType (line : Bytes) : Option String :=
  (ssePayload line).bind fun payload => (json.eventType payload).filter fun type => type ≠ ""

def isTerminalResponseEvent (eventType : String) : Bool :=
  eventType ∈ ["response.completed", "response.done", "response.failed", "response.incomplete", "response.cancelled",
    "response.canceled"]

def parseJSONResponseUsage (payload : Bytes) : Option TerminalResponse :=
  (json.response payload).map fun (error, outputs) =>
    match json.object payload with
    | some fields => ⟨error, "usage" ∈ fields, "output" ∈ fields && 0 < outputs⟩
    | none => ⟨error, false, false⟩

def parseResponseUsage (line : Bytes) : Option TerminalResponse :=
  (ssePayload line).bind fun payload =>
    match json.typeAndResponse payload with
    | some (type, response) => if isTerminalResponseEvent type then parseJSONResponseUsage json response else none
    | none => none

def parseSSEError (line : Bytes) : Option ResponseError :=
  (ssePayload line).bind fun payload =>
    match json.typeAndError payload with
    | some (type, error) => if type = "error" then error else none
    | none => none

/-- The text that the failure checks search. -/
def ResponseError.combined (e : ResponseError) : String :=
  toLower (GatewayModel.trimSpace (e.type ++ " " ++ e.code ++ " " ++ e.message))

def transientProcessingFailure (message : String) : Bool :=
  contains message "an error occurred while processing your request" ||
    contains message "selected model is at capacity" ||
    (contains message "you can retry your request" && contains message "help.openai.com" &&
      contains message "request id")

def terminalFailureStatus (r : TerminalResponse) : ℕ :=
  match r.error with
  | none => 502
  | some e =>
    let combined := e.combined toLower
    let overloaded := e.code = "server_is_overloaded" ∨ e.code = "slow_down"
    if e.type = "image_generation_user_error" ∨ ["content_policy", "policy_violation", "safety_violation",
        "content_filter", "moderation_blocked"].any (contains combined) then 400
    else if ["context_length", "context window", "invalid_request"].any (contains combined) then
      if overloaded ∨ transientProcessingFailure combined then 503 else 400
    else if contains combined "rate_limit" then 429
    else if ["authentication", "unauthorized", "invalid_api_key"].any (contains combined) then 401
    else if ["permission", "forbidden", "access denied"].any (contains combined) then 403
    else if overloaded then 503
    else 502

def retryableTerminalFailure (r : TerminalResponse) : ℕ × Bool :=
  let status := terminalFailureStatus toLower r
  match r.error with
  | none => (status, true)
  | some e =>
    if ["content_policy", "policy", "safety", "high-risk cyber", "not allowed", "violat"].any
        (contains (e.combined toLower)) then (status, false)
    else (status, status ≠ 400)

def isCapacityShedErrorCode (code : String) : Bool :=
  toLower (GatewayModel.trimSpace code) ∈ ["server_is_overloaded", "slow_down"]

def requestScopedCapacityFailure (r : TerminalResponse) : Bool :=
  match r.error with
  | none => false
  | some e =>
    isCapacityShedErrorCode toLower e.code ||
      ["server is overloaded", "servers are overloaded", "servers are currently overloaded"].any
        (contains (toLower (GatewayModel.trimSpace e.message)))

def isClientOutputEvent (line : Bytes) : Bool :=
  match responseEventType json line with
  | none => false
  | some eventType =>
    if eventType ∈ ["response.created", "response.in_progress", "response.failed"] then false
    else if eventType = "error" then
      match json.errorField ((ssePayload line).getD []) with
      | some (some e) => !(retryableTerminalFailure toLower ⟨some e, false, false⟩).2
      | _ => false
    else !("rate_limits.".toList.isPrefixOf eventType.toList)

end Decoding

section Rewriting

variable (json : Json) (toLower : String → String)

def capacityShedRetryableClientCode : String := "server_error"

/-- The value of a key in a map of raw values; a missing one is empty text. -/
def Object.raw (object : Object) (key : String) : Bytes := (object.lookup key).getD []

/-- The error with its code replaced, if the code is one of the fatal ones. -/
def sanitizeCapacityShedErrorForClient (payload : Bytes) : Option Bytes :=
  match json.object payload with
  | none => none
  | some upstreamError =>
    match json.string (Object.raw upstreamError "code") with
    | none => none
    | some code =>
      if isCapacityShedErrorCode toLower code then
        (json.marshalString capacityShedRetryableClientCode).bind fun updatedCode =>
          json.marshalObject (upstreamError.insert "code" updatedCode)
      else none

def sanitizeCapacityShedResponseForClient (payload : Bytes) : Bytes :=
  match json.object payload with
  | none => payload
  | some response =>
    match sanitizeCapacityShedErrorForClient json toLower (Object.raw response "error") with
    | none => payload
    | some updatedError => (json.marshalObject (response.insert "error" updatedError)).getD payload

def replaceSSEPayload (line payload replacement : Bytes) : Bytes :=
  match indexOf line payload with
  | none => line
  | some start => line.take start ++ replacement ++ line.drop (start + payload.length)

/-- The event with its error replaced, if it is to be rewritten at all. A `null` in place of the response is a nil map,
and the assignment to its error panics: then there is no result. -/
def sanitizeEvent (event : Object) : Option (Option Object) :=
  match json.string (Object.raw event "type") with
  | some "error" =>
    some ((sanitizeCapacityShedErrorForClient json toLower (Object.raw event "error")).map fun updatedError =>
      event.insert "error" updatedError)
  | some "response.failed" =>
    if Object.raw event "response" = bytes "null" then none
    else
      some ((json.object (Object.raw event "response")).bind fun response =>
        (sanitizeCapacityShedErrorForClient json toLower (Object.raw response "error")).bind fun updatedError =>
          (json.marshalObject (response.insert "error" updatedError)).map fun updatedResponse =>
            event.insert "response" updatedResponse)
  | _ => some none

/-- A line for the client; absent when the rewriting panics. -/
def sanitizeCapacityShedSSELineForClient (line : Bytes) : Option Bytes :=
  match (ssePayload line).bind fun payload => (json.object payload).map fun event => (payload, event) with
  | none => some line
  | some (payload, event) =>
    (sanitizeEvent json toLower event).map fun updated =>
      match updated.bind json.marshalObject with
      | none => line
      | some updatedPayload => replaceSSEPayload line payload updatedPayload

def sanitizeCapacityShedSSEForClient (body : Bytes) : Option Bytes :=
  ((splitAfterNewline body).mapM (sanitizeCapacityShedSSELineForClient json toLower)).map List.flatten

end Rewriting

end ShareSub.SseModel

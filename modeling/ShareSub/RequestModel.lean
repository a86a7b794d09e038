import Mathlib
import ShareSub.GatewayModel
import ShareSub.JsonValue
import ShareSub.FastPolicy
import ShareSub.CodexIdentity

/-!
# Requests on their way to an account

The embedding of `PrepareRequest`, of the frames of a session, and of `codexAccountIdentity.body`. A request is the object
that its JSON denotes. `strings.ToLower`, the quoting of a text and the decoding of an embedded text are parameters.
-/
namespace ShareSub.RequestModel

open JsonValue
open GatewayModel (trimSpace)
open FastPolicy (RequestBilling parseRequestBilling responsesWebSocketBilling)

section Normalizers

variable (toLower quote : String → String)

def chatGPTUnsupportedFields : List String :=
  ["max_output_tokens", "max_completion_tokens", "temperature", "top_p", "top_logprobs", "frequency_penalty",
    "presence_penalty", "user", "metadata", "prompt_cache_retention", "safety_identifier", "stream_options"]

def compactRequestFields : List String :=
  ["model", "input", "instructions", "tools", "parallel_tool_calls", "reasoning", "text", "previous_response_id"]

/-- The name of a model after its last slash, with dashes for underscores. -/
def solName (model : String) : String :=
  String.ofList (((toLower (trimSpace model)).toList.reverse.takeWhile fun c => c ≠ '/').reverse.map fun c =>
    if c = '_' then '-' else c)

/-- The effort that a request asks for. -/
def effortOf (payload : Members) : Option String :=
  match payload.get "reasoning" with
  | some (.object reasoning) =>
    match Members.get reasoning "effort" with
    | some (.string effort) => some effort
    | _ => none
  | _ => none

def lowEffort (effort : String) : Bool := toLower (trimSpace effort) = "none" || toLower (trimSpace effort) = "minimal"

def validateGPT61SolRequest (payload : Members) (model : String) : Except String Unit :=
  if solName toLower model ≠ "gpt-6.1-sol" then .ok ()
  else
    match effortOf payload with
    | some effort =>
      if lowEffort toLower effort then
        .error ("gpt-6.1-sol does not support reasoning effort " ++ quote effort ++ "; use low, medium, high, xhigh or max")
      else .ok ()
    | none => .ok ()

def isText (text : String) : Value → Bool
  | .string s => s = text
  | _ => false

def raiseEffort : Value → Value
  | .string effort => if lowEffort toLower effort then .string "low" else .string effort
  | v => v

def filterInclude : Value → Value
  | .array values => .array (values.filter fun v => !isText "message.output_text.logprobs" v)
  | v => v

def isAstra (model : String) : Bool := toLower (trimSpace model) = "gpt-6-astra"

def normalizeGPT6AstraRequest (payload : Members) (model : String) : Members :=
  if isAstra toLower model then
    (payload.update "reasoning" (Value.inMember "effort" (raiseEffort toLower))).update "include" filterInclude
  else payload

/-- A text becomes a message of the user, and an object a list of one. -/
def wrapInput : Value → Value
  | .string s =>
    if trimSpace s = "" then .array []
    else .array [.object [("type", .string "message"), ("role", .string "user"), ("content", .string s)]]
  | .object item => .array [.object item]
  | v => v

def normalizeCodexInput (payload : Members) : Members := payload.update "input" wrapInput

def maxCodexNestedToolDepth : ℕ := 4

/-- An explicit null type of parameters. -/
def repairType : Value → Value
  | .null => .string "object"
  | v => v

def repairParameters : Value → Value := Value.inMember "parameters" (Value.inMember "type" repairType)

/-- The tools of a list, and the tools in these, as deep as levels are left. -/
def normalizeTools : ℕ → Value → Value
  | 0, v => v
  | depth + 1, v =>
    Value.inItems (fun tool =>
      Value.inMember "tools" (normalizeTools depth) (Value.inMember "function" repairParameters (repairParameters tool))) v

def normalizeItems : Value → Value :=
  Value.inItems (Value.inMember "tools" (normalizeTools (maxCodexNestedToolDepth + 1)))

def normalizeCodexToolParameterTypes (payload : Members) : Members :=
  (payload.update "tools" (normalizeTools (maxCodexNestedToolDepth + 1))).update "input" normalizeItems

def encryptedContent : String := "reasoning.encrypted_content"

def ensureCodexReasoningInclude (payload : Members) : Members :=
  match payload.get "reasoning" with
  | some (.object (_ :: _)) =>
    match payload.get "include" with
    | none | some .null => payload.set "include" (.array [.string encryptedContent])
    | some (.array values) =>
      if values.any (isText encryptedContent) then payload
      else payload.set "include" (.array (values ++ [.string encryptedContent]))
    | some _ => payload
  | _ => payload

end Normalizers

section Requests

variable (toLower quote : String → String)

/-- A part of a text. -/
def contains (part text : String) : Bool := text.toList.tails.any fun rest => part.toList.isPrefixOf rest

def checkInstructions (payload : Members) (model : String) : Except String Unit :=
  match payload.get "instructions" with
  | none => .ok ()
  | some instructions =>
    if !contains "codex" (toLower model) then .ok ()
    else
      match instructions with
      | .string s => if trimSpace s = "" then .error "Codex request instructions must not be empty" else .ok ()
      | _ => .error "Codex request instructions must be a string"

def compactPayload (payload : Members) : Members :=
  compactRequestFields.filterMap fun field => (payload.get field).map fun v => (field, v)

def prepareRequest (payload : Members) (compact normalize : Bool) : Except String (Members × RequestBilling) := do
  let metadata ← parseRequestBilling payload
  if !normalize then return (payload, metadata)
  checkInstructions toLower payload metadata.model
  let payload := payload.erase chatGPTUnsupportedFields
  validateGPT61SolRequest toLower quote payload metadata.model
  let payload := normalizeGPT6AstraRequest toLower payload metadata.model
  let payload := normalizeCodexToolParameterTypes (normalizeCodexInput payload)
  if compact then return (compactPayload payload, metadata)
  return (ensureCodexReasoningInclude ((payload.set "store" (.bool false)).set "stream" (.bool true)), metadata)

/-- The case of a letter is ignored, also of the two letters outside ASCII that fold to an ASCII letter. -/
def foldCase (c : Char) : Char := if c.toNat = 0x17f then 's' else if c.toNat = 0x212a then 'k' else c.toLower

def idCharacter (c : Char) : Bool := c.isLower || c.isDigit || c = '_' || c = '-'

/-- `responsesWebSocketMessageIDPattern`. -/
def isMessageID (id : String) : Bool :=
  ["msg_", "message_", "item_", "chatcmpl_"].any fun stem =>
    let text := id.toList.map foldCase
    let rest := text.drop stem.length
    stem.toList.isPrefixOf text && decide (1 ≤ rest.length ∧ rest.length ≤ 256) && rest.all idCharacter

/-- Why a frame is not accepted: the session is closed with a policy violation, or with an internal error. -/
inductive FrameError
  | policyViolation (reason : String)
  | internal (message : String)
  deriving DecidableEq, Repr

def violation {α : Type} : Except String α → Except FrameError α
  | .ok a => .ok a
  | .error reason => .error (.policyViolation reason)

def typedFrame (payload : Members) : Except FrameError Members :=
  match payload.get "type" with
  | none => .ok (payload.set "type" (.string "response.create"))
  | some (.string s) =>
    if trimSpace s = "response.create" then .ok payload
    else if s = "response.append" then
      .error (.policyViolation
        "response.append is not supported in WebSocket v2; use response.create with previous_response_id")
    else .error (.policyViolation "unsupported WebSocket request type")
  | some _ => .error (.policyViolation "unsupported WebSocket request type")

def modelledFrame (payload : Members) (turn : ℕ) (inheritedModel : String) : Except FrameError Members :=
  if turn = 1 then
    match payload.get "model" with
    | some (.string s) =>
      if trimSpace s = "" then .error (.policyViolation "model is required in the first response.create payload")
      else .ok payload
    | _ => .error (.policyViolation "model is required in the first response.create payload")
  else
    match payload.get "model" with
    | none => .ok (payload.set "model" (.string inheritedModel))
    | some _ => .ok payload

def checkPrevious (payload : Members) : Except FrameError Unit :=
  match payload.get "previous_response_id" with
  | some (.string previous) =>
    if isMessageID (trimSpace previous) then
      .error (.policyViolation "previous_response_id must be a response.id (resp_*), not a message id")
    else .ok ()
  | _ => .ok ()

def parseResponsesWebSocketFrame (frame : Members) (turn : ℕ) (inheritedModel : String) :
    Except FrameError (Members × RequestBilling × String) := do
  let payload ← typedFrame frame
  let payload ← modelledFrame payload turn inheritedModel
  checkPrevious payload
  let (metadata, previousResponseID) ← violation (responsesWebSocketBilling payload turn)
  return (payload, metadata, previousResponseID)

/-- The frame that is sent. It is parsed again, with floats for its numbers. -/
def prepareResponsesWebSocketFrame (float64 : ℚ → Option ℚ) (frame : Members) (turn : ℕ) (inheritedModel : String) :
    Except FrameError (Members × RequestBilling × String) := do
  let (normalized, metadata, previousResponseID) ← parseResponsesWebSocketFrame frame turn inheritedModel
  match normalized.decodeFloats float64 with
  | none => .error (.internal "number out of range")
  | some payload =>
    let payload := payload.erase chatGPTUnsupportedFields
    violation (validateGPT61SolRequest toLower quote payload metadata.model)
    let payload := (normalizeGPT6AstraRequest toLower payload metadata.model).delete "background"
    let payload := (payload.set "type" (.string "response.create")).set "store" (.bool false)
    let payload := if (payload.get "stream").isSome then payload else payload.set "stream" (.bool true)
    return (ensureCodexReasoningInclude (normalizeCodexInput payload), metadata, previousResponseID)

end Requests

section Identity

/-- A `codexAccountIdentity` with its `scope`, and how the text of its turn metadata is decoded and encoded. -/
structure Identity where
  accountID : String
  scope : String → String → String
  decode : String → Option Value
  encode : Members → String

variable (identity : Identity)

def Identity.scopeValue (kind : String) : Value → Value
  | .string raw => if trimSpace raw = "" then .string raw else .string (identity.scope kind raw)
  | v => v

def Identity.fields (values : Members) : Members :=
  CodexIdentity.codexIdentityFields.foldl (fun values field => values.update field.1 (identity.scopeValue field.2)) values

def Identity.turnMetadata (raw : String) : Except String String :=
  match identity.decode raw with
  | some (.object metadata) => .ok (identity.encode (identity.fields metadata))
  | _ => .error "invalid X-Codex-Turn-Metadata"

/-- The metadata of the client with the turn metadata that is embedded in it. -/
def Identity.metadata (metadata : Members) : Except String Members :=
  match (identity.fields metadata).get "x-codex-turn-metadata" with
  | some (.string embedded) =>
    if trimSpace embedded = "" then .ok (identity.fields metadata)
    else do
      let renamed ← identity.turnMetadata embedded
      return (identity.fields metadata).replace "x-codex-turn-metadata" (.string renamed)
  | _ => .ok (identity.fields metadata)

def textOf : Option Value → String
  | some (.string s) => s
  | _ => ""

/-- The request with its client metadata, and the session that these had. -/
def Identity.scopeMetadata (payload : Members) : Except String (Members × String) :=
  match payload.get "client_metadata" with
  | none | some .null => .ok (payload, "")
  | some (.object metadata) => do
    let renamed ← identity.metadata metadata
    return (payload.replace "client_metadata" (.object renamed), textOf (Members.get metadata "session_id"))
  | some _ => .error "invalid Codex client_metadata"

/-- A key that names the session is renamed as the session. -/
def Identity.scopeCacheKey (payload : Members) (originalSession clientSessionID : String) (fingerprint : Option String) :
    Members :=
  match payload.get "prompt_cache_key" with
  | some (.string cacheKey) =>
    if trimSpace cacheKey = "" then payload
    else
      let session := cacheKey = originalSession ∨ cacheKey = clientSessionID
      let renamed := identity.scope (if session then "session" else "prompt-cache") cacheKey
      payload.replace "prompt_cache_key" <| .string
        (if session ∧ fingerprint.getD "" ≠ "" then fingerprint.getD "" else renamed)
  | _ => payload

/-- `codexAccountIdentity.body`, with the session of the fingerprint if there is one. -/
def Identity.body (payload : Members) (clientSessionID : String) (fingerprint : Option String) : Except String Members :=
  if identity.accountID = "" then .ok payload
  else do
    let (payload, originalSession) ← identity.scopeMetadata payload
    return identity.scopeCacheKey payload originalSession clientSessionID fingerprint

end Identity

end ShareSub.RequestModel

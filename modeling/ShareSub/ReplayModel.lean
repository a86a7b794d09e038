import Mathlib
import ShareSub.FiniteMap
import ShareSub.GatewayModel
import ShareSub.SseModel

/-!
# The history that a session can replay

The embedding of `responses_websocket_replay.go`, without the reservations of its bytes. A `json.RawMessage` is of an
abstract type with a text; `encoding/json` and the hash are a structure of functions.
-/
namespace ShareSub.ReplayModel

open SseModel (Bytes bytes)

section Items

variable {Raw : Type}

/-- `encoding/json` at the types that frames and their parts are decoded into, and `sha256.Sum256`; a result is absent when
`Unmarshal` fails. -/
structure ReplayJson (Raw : Type) where
  text : Raw → Bytes
  /-- `bytes.TrimSpace`, as a message of its own. -/
  trim : Raw → Raw
  frame : Bytes → Option (FiniteMap String Raw)
  object : Raw → Option (FiniteMap String Raw)
  items : Raw → Option (List Raw)
  string : Raw → Option String
  /-- The `type` and the `call_id` of an object, each empty unless it is a string. -/
  fields : Raw → Option (String × String)
  /-- Into `type`, `id` and `call_id`. -/
  head : Raw → Option (String × String × String)
  /-- `canonicalResponsesWebSocketJSON`. -/
  canonical : Raw → Option Bytes
  marshalFrame : FiniteMap String Raw → Bytes
  marshalItems : List Raw → Raw
  /-- The message of a user with the given content. -/
  message : String → Raw
  sha256 : Bytes → Bytes

variable (json : ReplayJson Raw)

def length (raw : Raw) : ℕ := (json.text raw).length

def rawMessagesBytes (items : List Raw) : ℕ := (items.map (length json)).sum

def responsesWebSocketReplayHistoryMaxItems : ℕ := 4096

def responsesWebSocketReplayHistoryMaxBytes : ℕ := 4 * 2 ^ 20

def responsesWebSocketReplayLimitExceeded (items bytes : ℕ) : Bool :=
  responsesWebSocketReplayHistoryMaxItems < items || responsesWebSocketReplayHistoryMaxBytes < bytes

/-- The items of the input of a frame, whether it has an input, and whether that can be replayed. -/
def responsesWebSocketInputItems (frame : Bytes) : Option (List Raw × Bool × Bool) :=
  match json.frame frame with
  | none => none
  | some payload =>
    match payload.lookup "input" with
    | none => some ([], false, true)
    | some raw =>
      match json.text (json.trim raw) with
      | [] => some ([], true, true)
      | b :: rest =>
        if b :: rest = bytes "null" then some ([], true, true)
        else if b = 91 then (json.items (json.trim raw)).map fun items => (items, true, true)
        else if b = 123 then some ([json.trim raw], true, true)
        else if b = 34 then (json.string (json.trim raw)).map fun content =>
          (if GatewayModel.trimSpace content = "" then [] else [json.message content], true, true)
        else some ([], true, false)

/-- What an item is to the tool calls of a conversation. -/
inductive Role
  | plain
  | call (id : String)
  | output (id : String)
  /-- It needs what only its account has. -/
  | bound
  deriving DecidableEq, Repr

def toolCallTypes : List String :=
  ["tool_call", "function_call", "local_shell_call", "tool_search_call", "custom_tool_call", "mcp_tool_call"]

def toolOutputTypes : List String :=
  ["function_call_output", "local_shell_call_output", "tool_search_output", "custom_tool_call_output", "mcp_tool_call_output"]

def roleOf (fields : String × String) : Role :=
  let itemType := GatewayModel.trimSpace fields.1
  let callID := GatewayModel.trimSpace fields.2
  if itemType ∈ toolCallTypes then (if callID = "" then .plain else .call callID)
  else if itemType = "item_reference" then .bound
  else if itemType ∈ toolOutputTypes then (if callID = "" then .bound else .output callID)
  else if "_call_output".toList.isSuffixOf itemType.toList then .bound
  else .plain

def role (raw : Raw) : Role := ((json.fields raw).map roleOf).getD .plain

/-- The loop over the items. -/
def scanContexts (contexts : Finset String) (required : List String) : List Raw → Option (Finset String × List String)
  | [] => some (contexts, required)
  | raw :: items =>
    match role json raw with
    | .plain => scanContexts contexts required items
    | .call id => scanContexts (insert id contexts) required items
    | .output id => scanContexts contexts (required ++ [id]) items
    | .bound => none

def responsesWebSocketToolContextDelta (existing : Finset String) (groups : List (List Raw)) : Option (Finset String) :=
  match scanContexts json ∅ [] groups.flatten with
  | none => none
  | some (contexts, required) => if required.all fun id => id ∈ contexts ∨ id ∈ existing then some contexts else none

def responsesWebSocketToolContextComplete (items : List Raw) : Bool :=
  (responsesWebSocketToolContextDelta json ∅ [items]).isSome

/-- Two items have the same text, or the same canonical form. -/
def sameItem (a b : Raw) : Bool :=
  json.text (json.trim a) = json.text (json.trim b) ||
    ((json.canonical (json.trim a)).isSome && json.canonical (json.trim a) = json.canonical (json.trim b))

def responsesWebSocketRawPrefix : List Raw → List Raw → Bool
  | _, [] => true
  | [], _ :: _ => false
  | item :: items, candidate :: rest => sameItem json item candidate && responsesWebSocketRawPrefix items rest

/-- `buildResponsesWebSocketRetryFrame`; the inner result is absent when the input is not safe to replay. -/
def buildResponsesWebSocketRetryFrame (frame : Bytes) (fullInput : List Raw) : Option (Option Bytes) :=
  (json.frame frame).map fun payload =>
    if responsesWebSocketToolContextComplete json fullInput then
      some (json.marshalFrame ((payload.insert "input" (json.marshalItems fullInput)).erase "previous_response_id"))
    else none

end Items

section History

variable {Raw : Type} (json : ReplayJson Raw)

/-- `responsesWebSocketReplayHistory` without its reservation. -/
structure ReplayHistory (Raw : Type) where
  responseID : String
  items : List Raw
  bytes : ℕ
  contexts : Finset String
  valid : Bool

/-- `invalidate`, which also releases the reservation. -/
def ReplayHistory.empty : ReplayHistory Raw := ⟨"", [], 0, ∅, false⟩

structure ReplayPlan where
  useHistory : Bool
  replaceWithCurrent : Bool
  currentFrom : ℕ
  itemCount : ℕ
  bytes : ℕ
  deriving DecidableEq, Repr

def ReplayPlan.zero : ReplayPlan := ⟨false, false, 0, 0, 0⟩

/-- `items[n:]`; absent where that is out of range. -/
def sliceFrom (items : List Raw) (n : ℕ) : Option (List Raw) := if n ≤ items.length then some (items.drop n) else none

/-- The plan of a turn, and whether the turn can be retried and committed; absent when a slice is out of range. -/
def ReplayHistory.plan (h : ReplayHistory Raw) (previousResponseID : String) (current : List Raw)
    (currentExists currentReplayable : Bool) : Option (ReplayPlan × Bool × Bool) :=
  let previousResponseID := GatewayModel.trimSpace previousResponseID
  let currentBytes := rawMessagesBytes json current
  if previousResponseID = "" then
    let retrySafe := !currentReplayable || (responsesWebSocketToolContextDelta json ∅ [current]).isSome
    some (⟨false, true, 0, current.length, currentBytes⟩, retrySafe, currentReplayable && retrySafe)
  else if !h.valid || !currentReplayable || previousResponseID ≠ h.responseID then some (ReplayPlan.zero, false, false)
  else
    let resent := currentExists && !current.isEmpty && responsesWebSocketRawPrefix json current h.items
    let plan : ReplayPlan :=
      if resent then ⟨true, true, h.items.length, current.length, currentBytes⟩
      else ⟨true, false, 0, h.items.length + current.length, h.bytes + currentBytes⟩
    match if resent then sliceFrom current plan.currentFrom else some current with
    | none => none
    | some newItems =>
      if responsesWebSocketReplayLimitExceeded plan.itemCount plan.bytes then some (plan, false, false)
      else if (responsesWebSocketToolContextDelta json h.contexts [newItems]).isNone then some (plan, false, false)
      else some (plan, true, true)

def ReplayPlan.input (p : ReplayPlan) (history current : List Raw) : List Raw :=
  if !p.useHistory || p.replaceWithCurrent then current
  else if current.isEmpty then history
  else history ++ current

/-- The bytes that a commit reserves. -/
def ReplayPlan.totalBytes (p : ReplayPlan) (output : List Raw) : ℕ := p.bytes + rawMessagesBytes json output

/-- What `commit` does before it reserves the bytes: the call ids that are added, unless it rejects the turn; absent when a
slice is out of range. -/
def ReplayHistory.commitContexts (h : ReplayHistory Raw) (responseID : String) (plan : ReplayPlan) (current output : List Raw)
    (replayable : Bool) : Option (Option (Finset String)) :=
  if !replayable || GatewayModel.trimSpace responseID = "" then some none
  else if responsesWebSocketReplayLimitExceeded (plan.itemCount + output.length) (plan.totalBytes json output) then some none
  else
    match if plan.useHistory && plan.replaceWithCurrent then sliceFrom current plan.currentFrom else some current with
    | none => none
    | some newItems =>
      some (responsesWebSocketToolContextDelta json (if plan.useHistory then h.contexts else ∅) [newItems, output])

/-- What `commit` does once it has the bytes. -/
def ReplayHistory.extend (h : ReplayHistory Raw) (responseID : String) (plan : ReplayPlan) (current output : List Raw)
    (addedContexts : Finset String) : ReplayHistory Raw where
  responseID := GatewayModel.trimSpace responseID
  items := (if !plan.useHistory || plan.replaceWithCurrent then current else h.items ++ current) ++ output
  bytes := plan.totalBytes json output
  contexts := (if plan.useHistory then h.contexts else ∅) ∪ addedContexts
  valid := true

end History

section Collector

variable {Raw : Type} (json : ReplayJson Raw)

/-- `"raw:"` or `"id:"` with the rest. -/
inductive ItemKey
  | raw (digest : Bytes)
  | id (text : String)
  deriving DecidableEq, Repr

/-- `responsesWebSocketReplayCollector`; its reservation is kept with the others. -/
structure Collector (Raw : Type) where
  items : List Raw
  seen : List ItemKey
  bytes : ℕ
  exceedsLimit : Bool
  disabled : Bool

def Collector.fresh (disabled : Bool) : Collector Raw := ⟨[], [], 0, false, disabled⟩

/-- `disable`, which also releases the reservation. -/
def Collector.disable (c : Collector Raw) : Collector Raw := ⟨[], [], 0, c.exceedsLimit, true⟩

def Collector.markExceededLimit (c : Collector Raw) : Collector Raw := { c.disable with exceedsLimit := true }

/-- The key of an item: its id, else its call id, else its hash. -/
def keyOf (item : Raw) (head : String × String × String) : ItemKey :=
  let id := if GatewayModel.trimSpace head.2.1 = "" then head.2.2 else head.2.1
  if GatewayModel.trimSpace id = "" then .raw (json.sha256 (json.text item)) else .id (GatewayModel.trimSpace id)

/-- The key of an item that is kept. -/
def collectKey (raw : Raw) : Option ItemKey :=
  if (json.text (json.trim raw)).head? ≠ some 123 then none
  else
    match json.head (json.trim raw) with
    | none => none
    | some head => if GatewayModel.trimSpace head.1 = "" then none else some (keyOf json (json.trim raw) head)

/-- The items that an event brings. -/
def eventItems (eventType : String) (frame : Bytes) : List Raw :=
  match json.frame frame with
  | none => []
  | some event =>
    match GatewayModel.trimSpace eventType with
    | "response.output_item.done" => (event.lookup "item").toList
    | "response.completed" | "response.done" =>
      (((event.lookup "response").bind json.object).bind fun response =>
        (response.lookup "output").bind json.items).getD []
    | _ => []

/-- The bytes of an item and those before it, if the item is new and is to be collected. -/
def Collector.wants (c : Collector Raw) (raw : Raw) : Option (ItemKey × ℕ) :=
  if c.disabled then none
  else
    match collectKey json raw with
    | none => none
    | some key => if key ∈ c.seen then none else some (key, c.bytes + length json (json.trim raw))

def Collector.add (c : Collector Raw) (raw : Raw) (key : ItemKey) (nextBytes : ℕ) : Collector Raw :=
  { c with items := c.items ++ [json.trim raw], seen := c.seen ++ [key], bytes := nextBytes }

end Collector

end ShareSub.ReplayModel

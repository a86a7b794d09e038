import Mathlib
import ShareSub.ReplayModel
import ShareSub.ReplayBudget
import ShareSub.TurnControls

/-!
# The run of a session with its history

The embedding of `Run` with what it keeps for a replay. What the hooks, the dials and the writes decide is given with the
actions; the turn that is relayed is that of `relayTurn`. Before each call to the budget the other sessions make theirs.
-/
namespace ShareSub.ReplaySession

open SseModel TurnModel ReplayModel ReplayBudget

section World

variable {X B : Type}

/-- The reservations of a session. -/
inductive Holder
  | history
  | current
  | output
  deriving DecidableEq, Repr

instance : Fintype Holder := ⟨{.history, .current, .output}, fun x => by cases x <;> simp⟩

/-- The budgets with all reservations, and the calls of the other sessions before each call of this one. -/
structure World (X B : Type) where
  heap : Heap (Holder ⊕ X) B
  others : List (List (Call X))

def mapCall {R R' : Type} (f : R → R') : Call R → Call R'
  | .resize target next => .resize (target.map f) next
  | .replaceWith target next sources => .replaceWith (target.map f) next (sources.map (Option.map f))
  | .release target => .release (target.map f)

variable [DecidableEq X] [DecidableEq B]

def World.interfere (w : World X B) : Heap (Holder ⊕ X) B := runCalls w.heap ((w.others.headD []).map (mapCall Sum.inr))

/-- A call of this session; the flag is its result. -/
def World.call (w : World X B) (call : Call Holder) : World X B × Bool :=
  let a := (mapCall Sum.inl call).run w.interfere
  (⟨a.heap, w.others.tail⟩, a.ok)

def World.release (w : World X B) (x : Holder) : World X B := (w.call (.release (some x))).1

/-- The bytes of a reservation. -/
def World.held (w : World X B) (x : Holder) : ℤ := w.heap.bytes (.inl x)

end World

section Session

variable {Raw X B : Type}

/-- How a run ends: with an error or an end that comes from outside, or with one that the replay causes. -/
inductive Ending
  | left
  | rebuildFailed
  | notSafeToReplay
  | outOfRange
  deriving DecidableEq, Repr

/-- The variables of a turn. The frame for a retry is absent until it is prepared. -/
structure ReplayTurn (Raw : Type) where
  requestFrame : Bytes
  plan : ReplayPlan
  retrySafe : Bool
  replayCommitSafe : Bool
  currentInput : List Raw
  retryFrame : Option Bytes

inductive Phase (Raw : Type)
  | between
  | attempting (t : ReplayTurn Raw)
  | relaying (t : ReplayTurn Raw) (relay : Turn) (collect : Bool) (collector : Collector Raw)
  | ended (e : Ending)

structure Session (Raw X B : Type) where
  world : World X B
  history : ReplayHistory Raw
  sessionReplaySafe : Bool
  phase : Phase Raw

def Session.initial (world : World X B) : Session Raw X B := ⟨world, ReplayHistory.empty, true, .between⟩

/-- What `Run` has when a turn is relayed: whether there is a hook for upstream errors, the frames that are held back, and
the connections. -/
structure Setup where
  sessionModel : String
  hook : Bool
  pending : PendingClientFrames
  client : Connection
  upstream : Connection

inductive Action
  /-- The next create of the client: its normalized frame with the response that it continues, unless it is refused. -/
  | start (frame : Option (Bytes × String))
  /-- A hook, a dial or a write fails, the client goes, the session is canceled. -/
  | leave
  /-- A dial is refused for a rate limit, and the hook has another account. -/
  | redial
  | relay (setup : Setup)
  | happen (happening : Happening) (o : Outside)
  /-- A control frame between two turns. -/
  | control (read : Frame)

variable [DecidableEq X] [DecidableEq B]

def Session.release (s : Session Raw X B) (x : Holder) : Session Raw X B := { s with world := s.world.release x }

def Session.invalidate (s : Session Raw X B) : Session Raw X B :=
  { s with world := s.world.release .history, history := ReplayHistory.empty }

/-- The deferred releases. -/
def Session.finish (s : Session Raw X B) (e : Ending) : Session Raw X B :=
  { ((s.release .current).release .output).invalidate with phase := .ended e }

def Session.resize (s : Session Raw X B) (x : Holder) (next : ℕ) : Session Raw X B × Bool :=
  let (world, ok) := s.world.call (.resize (some x) next)
  ({ s with world := world }, ok)

variable (json : ReplayJson Raw) (frameJson : FrameJson) (toLower : String → String)

/-- The plan of a turn with its input, and whether it can be retried and committed. -/
structure Planning (Raw : Type) where
  plan : ReplayPlan
  currentInput : List Raw
  retrySafe : Bool
  replayCommitSafe : Bool

def Planning.refused : Planning Raw := ⟨ReplayPlan.zero, [], false, false⟩

def Session.plan (s : Session Raw X B) (requestFrame : Bytes) (previousResponseID : String) :
    Session Raw X B × Except Ending (Planning Raw) :=
  if !s.sessionReplaySafe || responsesWebSocketReplayHistoryMaxBytes < requestFrame.length then (s, .ok Planning.refused)
  else
    match s.resize .current requestFrame.length with
    | (s, false) => (s, .ok Planning.refused)
    | (s, true) =>
      match responsesWebSocketInputItems json requestFrame with
      | none => (s, .error .left)
      | some (current, currentExists, currentReplayable) =>
        if responsesWebSocketReplayLimitExceeded current.length (rawMessagesBytes json current) then (s, .ok Planning.refused)
        else
          match s.resize .current (rawMessagesBytes json current) with
          | (s, false) => (s, .ok Planning.refused)
          | (s, true) =>
            match s.history.plan json previousResponseID current currentExists currentReplayable with
            | none => (s, .error .outOfRange)
            | some (plan, retrySafe, replayCommitSafe) => (s, .ok ⟨plan, current, retrySafe, replayCommitSafe⟩)

/-- The turn that has been planned. -/
def Session.planned (s : Session Raw X B) (requestFrame : Bytes) (previousResponseID : String) (p : Planning Raw) :
    Session Raw X B :=
  let dropped := !p.retrySafe && !p.replayCommitSafe
  let s := if dropped then s.release .current else s
  let s := if !p.replayCommitSafe then s.invalidate else s
  { s with
    phase := .attempting
      { requestFrame := requestFrame
        plan := p.plan
        retrySafe := p.retrySafe
        replayCommitSafe := p.replayCommitSafe
        currentInput := if dropped then [] else p.currentInput
        retryFrame := if GatewayModel.trimSpace previousResponseID = "" then some requestFrame else none } }

/-- The beginning of a turn. -/
def Session.start (s : Session Raw X B) : Option (Bytes × String) → Session Raw X B
  | none => ((s.release .current).release .output).finish .left
  | some (requestFrame, previousResponseID) =>
    let s := (s.release .current).release .output
    let s := if GatewayModel.trimSpace previousResponseID = "" then s.invalidate else s
    match s.plan json requestFrame previousResponseID with
    | (s, .error e) => s.finish e
    | (s, .ok p) => s.planned requestFrame previousResponseID p

/-- `prepareRetryTurnRequest`. -/
def Session.prepareRetry (s : Session Raw X B) (t : ReplayTurn Raw) : Session Raw X B :=
  match t.retryFrame with
  | some _ => { s with phase := .attempting t }
  | none =>
    match buildResponsesWebSocketRetryFrame json t.requestFrame (t.plan.input s.history.items t.currentInput) with
    | none => s.finish .rebuildFailed
    | some none => s.finish .notSafeToReplay
    | some (some frame) => { s with phase := .attempting { t with retryFrame := some frame } }

/-- `addItem`, with the reservation of the collector. -/
def collectItem (c : World X B × Collector Raw) (raw : Raw) : World X B × Collector Raw :=
  match c.2.wants json raw with
  | none => c
  | some (key, nextBytes) =>
    if responsesWebSocketReplayLimitExceeded (c.2.items.length + 1) nextBytes then
      (c.1.release .output, c.2.markExceededLimit)
    else
      match c.1.call (.resize (some .output) nextBytes) with
      | (world, true) => (world, c.2.add json raw key nextBytes)
      | (world, false) => (world.release .output, c.2.markExceededLimit)

/-- The control frame stops the replay of the session. -/
def unsafeControl (read : Frame) : Bool :=
  !isResponsesWebSocketResponseCreate frameJson read.messageType read.frame &&
    !responsesWebSocketControlPreservesReplaySafety frameJson read.messageType read.frame

/-- What an event of a turn does to what is kept for a replay. -/
def Session.note (s : Session Raw X B) (t : ReplayTurn Raw) (collect : Bool) (collector : Collector Raw) :
    Happening → Session Raw X B × ReplayTurn Raw × Bool × Collector Raw
  | .clientRead (.inr read) =>
    if unsafeControl frameJson read then
      let s := ({ s with sessionReplaySafe := false }.invalidate).release .current
      let s := if t.replayCommitSafe then s.release .output else s
      (s, { t with currentInput := [] }, false, collector.disable)
    else (s, t, collect, collector)
  | .upstreamRead (.inr read) _ =>
    if read.messageType = .text then
      let (world, collector) :=
        (eventItems json (observeResponsesWebSocketEvent frameJson read.frame).1 read.frame).foldl (collectItem json)
          (s.world, collector)
      ({ s with world := world }, t, collect, collector)
    else (s, t, collect, collector)
  | _ => (s, t, collect, collector)

/-- `commit`. -/
def Session.commit (s : Session Raw X B) (t : ReplayTurn Raw) (responseID : String) (output : List Raw) (replayable : Bool) :
    Session Raw X B :=
  let reject := (s.invalidate.release .current).release .output
  match s.history.commitContexts json responseID t.plan t.currentInput output replayable with
  | none => s.finish .outOfRange
  | some none => reject
  | some (some addedContexts) =>
    match s.world.call (.replaceWith (some .history) (t.plan.totalBytes json output) [some .current, some .output]) with
    | (world, true) =>
      { s with
        world := world
        history := s.history.extend json responseID t.plan t.currentInput output addedContexts }
    | (world, false) => ({ s with world := world }.invalidate.release .current).release .output

/-- The end of a turn, up to the releases. -/
def Session.conclude (s : Session Raw X B) (t : ReplayTurn Raw) (relay : Turn) (error : Option TurnError)
    (collector : Collector Raw) : Session Raw X B :=
  if relay.result.terminalEvent = "" then s
  else if error.isNone && isSuccessfulResponsesWebSocketTerminalEvent relay.result.terminalEvent then
    s.commit json t relay.result.requestID collector.items
      (t.replayCommitSafe && s.sessionReplaySafe && !collector.exceedsLimit)
  else (s.invalidate.release .current).release .output

/-- How `Run` goes on after the end of `relayTurn`. -/
def Session.settle (s : Session Raw X B) (t : ReplayTurn Raw) (relay : Turn) (error : Option TurnError) (collect : Bool)
    (collector : Collector Raw) : Session Raw X B :=
  -- the deferred release of the collector
  let s := if t.replayCommitSafe && !(relay.result.terminalEvent ≠ "" && collect) then s.release .output else s
  match error with
  | some (.firstUpstream _) => s.prepareRetry json t
  | _ =>
    let s := s.conclude json t relay error collector
    match s.phase with
    | .ended _ => s
    | _ =>
      let s := (s.release .current).release .output
      match error with
      | none => { s with phase := .between }
      | some (.terminal _ _) => { s with phase := .between }
      | some _ => s.finish .left

def Session.step (s : Session Raw X B) : Action → Option (Session Raw X B)
  | .start frame =>
    match s.phase with
    | .between => some (s.start json frame)
    | _ => none
  | .leave =>
    match s.phase with
    | .between => some (s.finish .left)
    | .attempting _ => some (s.finish .left)
    | _ => none
  | .redial =>
    match s.phase with
    | .attempting t => if t.retrySafe then some (s.prepareRetry json t) else none
    | _ => none
  | .relay setup =>
    match s.phase with
    | .attempting t =>
      some { s.release .output with
        phase := .relaying t
          (Turn.start setup.sessionModel s.sessionReplaySafe (t.retrySafe && setup.hook) setup.pending setup.client setup.upstream)
          t.replayCommitSafe (Collector.fresh !t.replayCommitSafe) }
    | _ => none
  | .happen happening o =>
    match s.phase with
    | .relaying t relay collect collector =>
      match relay.step frameJson toLower o happening with
      | none => none
      | some flow =>
        let (s, t, collect, collector) := s.note json frameJson t collect collector happening
        match flow with
        | .go relay => some { s with phase := .relaying t relay collect collector }
        | .done relay error => some (s.settle json t relay error collect collector)
    | _ => none
  | .control read =>
    match s.phase with
    | .between =>
      if isResponsesWebSocketResponseCreate frameJson read.messageType read.frame then none
      else if unsafeControl frameJson read then some { s with sessionReplaySafe := false }.invalidate
      else some s
    | _ => none

def Session.run (s : Session Raw X B) : List Action → Option (Session Raw X B)
  | [] => some s
  | action :: rest => (s.step json frameJson toLower action).bind fun t => t.run rest

end Session

end ShareSub.ReplaySession

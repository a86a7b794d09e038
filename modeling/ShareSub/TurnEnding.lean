import Mathlib
import ShareSub.TurnControls

/-!
# How a turn ends

A turn that ends without an error, or with that of its response, has a terminal event. The event that is held while a
steered turn waits for its continuation is one too.
-/
namespace ShareSub.TurnEnding

open SseModel UsageModel TurnModel TurnControls

variable {json : FrameJson} {toLower : String → String} {o : Outside} {s t : Turn}

/-- While the turn waits for its continuation it holds an event. -/
def Holding (s : Turn) : Prop := s.awaitingSteerContinuation = true → s.heldTerminalEvent ≠ ""

/-- A turn goes on as it should, or its end has an event. -/
def Ending : Flow → Prop
  | .go s => Holding s
  | .done s none => s.result.terminalEvent ≠ ""
  | .done s (some (.terminal _ _)) => s.result.terminalEvent ≠ ""
  | .done _ (some (.close _ _)) => True
  | .done _ (some (.client _)) => True
  | .done _ (some (.firstUpstream _)) => True

lemma holding_start (sessionModel : String) (sessionReplaySafe allow : Bool) (pending : PendingClientFrames)
    (client upstream : Connection) : Holding (Turn.start sessionModel sessionReplaySafe allow pending client upstream) := nofun

lemma normalize_ne_empty {event : String} (hevent : event ≠ "") : normalizeResponsesWebSocketTerminalEvent event ≠ "" := by
  unfold normalizeResponsesWebSocketTerminalEvent
  split_ifs
  · decide
  · exact hevent

lemma flush_holding (hs : Holding s) (hflush : s.flush o = (t, true)) : Holding t := by
  obtain ⟨c, -, rfl⟩ := flush_ok hflush
  exact hs

lemma control_ending (hs : Holding s) (read : Frame) : Ending (s.control json toLower o read) := by
  unfold Turn.control
  split_ifs
  · split
    · trivial
    · next t hflush =>
      have ht := flush_holding (s := { s with allowUpstreamErrorRetry := false }) hs hflush
      split
      · trivial
      · next u hwrite =>
        obtain ⟨c, -, rfl⟩ := writeUpstream_ok hwrite
        exact ht
  · split
    · trivial
    · exact hs
  · split
    · trivial
    · next u hwrite =>
      obtain ⟨c, -, rfl⟩ := writeUpstream_ok hwrite
      exact hs

lemma clientRead_ending (hs : Holding s) (read : String ⊕ Frame) : Ending (s.clientRead json toLower o read) := by
  cases read with
  | inl cause =>
    unfold Turn.clientRead Turn.markClientDisconnected
    dsimp only
    split_ifs
    · exact hs
    · exact hs
  | inr read =>
    unfold Turn.clientRead
    dsimp only
    split_ifs
    · trivial
    · exact hs
    · trivial
    · exact control_ending (by exact hs) read
    · split
      · trivial
      · next t hflush => exact control_ending (flush_holding (by exact hs) hflush) read
    · exact control_ending (by exact hs) read

lemma steer_holding (hs : Holding s) (eventType : String) : Holding (s.steer eventType) := by
  unfold Turn.steer
  split
  · exact hs
  · exact hs
  · split_ifs
    · exact nofun
    · exact hs
  · exact hs

/-- What is known of a turn when a frame has been understood: an event that ends it is not empty. -/
def Understood (p : Turn × Bool × String) : Prop := Holding p.1 ∧ (p.2.1 = true → p.2.2 ≠ "")

lemma noteTerminal_understood (json : FrameJson) (hs : Holding s) (frame : Bytes) {eventType : String} {parsed : Option Terminal}
    (hparsed : parsed.isSome = true → eventType ≠ "") : Understood (s.noteTerminal json frame eventType parsed) := by
  unfold Turn.noteTerminal
  cases parsed with
  | none => exact ⟨hs, nofun⟩
  | some r =>
    dsimp only
    split_ifs
    · exact ⟨fun _ => normalize_ne_empty (hparsed rfl), nofun⟩
    · exact ⟨hs, fun _ => hparsed rfl⟩

lemma noteHeld_understood (eventType : String) {p : Turn × Bool × String} (hp : Understood p) :
    Understood (p.1.noteHeld eventType p.2) := by
  unfold Turn.noteHeld
  split_ifs with hheld
  · exact ⟨nofun, fun _ => hp.1 hheld.1⟩
  · exact hp

lemma observed_event (json : FrameJson) (frame : Bytes) :
    (observeResponsesWebSocketEvent json frame).2.2.isSome = true → (observeResponsesWebSocketEvent json frame).1 ≠ "" := by
  unfold observeResponsesWebSocketEvent
  cases json.event frame with
  | none => nofun
  | some event =>
    dsimp only
    by_cases hblank : GatewayModel.trimSpace event.type = ""
    · rw [if_pos hblank]
      nofun
    · rw [if_neg hblank]
      split_ifs
      · exact fun _ => hblank
      · exact fun _ => hblank
      · exact fun _ => hblank
      · exact fun _ => hblank
      · exact fun _ => hblank

/-- What reading a text frame leads to. -/
def Observed : Except Flow (Turn × Bool × String) → Prop
  | .ok p => Understood p
  | .error flow => Ending flow

lemma observe_observed (json : FrameJson) (toLower : String → String) (hs : Holding s) (frame : Bytes) :
    Observed (s.observe json toLower frame) := by
  have hevent := observed_event json frame
  unfold Turn.observe
  dsimp only
  generalize observeResponsesWebSocketEvent json frame = event at hevent
  obtain ⟨eventType, responseID, parsed⟩ := event
  dsimp only at hevent ⊢
  by_cases hcreated : eventType = "response.created" ∧ s.awaitingSteerContinuation = true ∧ s.result.nextFrame ≠ []
  · rw [if_pos hcreated]
    trivial
  · rw [if_neg hcreated]
    have hnoted := noteTerminal_understood json
      (show Holding ((s.steer eventType).noteRequest json frame eventType responseID) from steer_holding hs eventType) frame hevent
    generalize ((s.steer eventType).noteRequest json frame eventType responseID).noteTerminal json frame eventType parsed = noted
      at hnoted
    obtain ⟨t, terminalEvent⟩ := noted
    generalize (if eventType = "error" then parseResponsesWebSocketErrorEvent json frame else none) = found
    cases found with
    | none => exact noteHeld_understood eventType hnoted
    | some e =>
      have herror : Understood ({ t with pendingError := some e }, terminalEvent) := hnoted
      dsimp only
      split_ifs
      · trivial
      · exact noteHeld_understood eventType herror

/-- What the delivery of a frame leads to. -/
def Delivered : Except Flow Turn → Prop
  | .ok t => Holding t
  | .error flow => Ending flow

lemma deliver_delivered (toLower : String → String) (o : Outside) (hs : Holding s) (frame : Frame) :
    Delivered (s.deliver toLower o frame) := by
  unfold Turn.deliver
  split_ifs
  · exact hs
  · cases o.client s.client.attempts with
    | some cause =>
      dsimp only [Turn.markClientDisconnected]
      split_ifs
      · exact hs
      · exact hs
    | none =>
      dsimp only
      split
      · trivial
      · next t hflush => exact flush_holding (by exact hs) hflush

lemma applyTerminalFailure_result (eventType : String) : (s.applyTerminalFailure eventType).result = s.result := by
  unfold Turn.applyTerminalFailure
  split_ifs
  · rfl
  · rfl

lemma complete_ending {event : String} (hevent : event ≠ "") : Ending (s.complete toLower event) := by
  have hresult : ∀ t : Turn, ((t.applyPendingError.applyTerminalFailure event).finishMetrics toLower).result.terminalEvent =
      t.result.terminalEvent := by
    intro t
    change (t.applyPendingError.applyTerminalFailure event).result.terminalEvent = t.result.terminalEvent
    rw [applyTerminalFailure_result]
    rfl
  unfold Turn.complete
  dsimp only
  split_ifs
  · exact (hresult _).trans_ne (normalize_ne_empty hevent)
  · generalize hdone : ((Turn.applyTerminalFailure _ event).finishMetrics toLower) = t
    cases hclient : t.clientErr with
    | none =>
      rw [← hdone]
      exact (hresult _).trans_ne (normalize_ne_empty hevent)
    | some cause => trivial

lemma forward_ending (hs : Holding s) (frame : Frame) (late : Bool) {terminalEvent : Bool × String}
    (hevent : terminalEvent.1 = true → terminalEvent.2 ≠ "") : Ending (s.forward toLower o frame late terminalEvent) := by
  have hdelivered := deliver_delivered toLower o hs frame
  unfold Turn.forward
  cases hcase : s.deliver toLower o frame with
  | error flow =>
    rw [hcase] at hdelivered
    exact hdelivered
  | ok t =>
    rw [hcase] at hdelivered
    dsimp only
    split_ifs with hterminal
    · exact complete_ending (hevent hterminal)
    · trivial
    · exact hdelivered

lemma upstreamRead_ending (hs : Holding s) (late : Bool) (read : String ⊕ Frame) :
    Ending (s.upstreamRead json toLower o late read) := by
  cases read with
  | inl cause =>
    unfold Turn.upstreamRead
    cases s.clientErr with
    | none => trivial
    | some cause => trivial
  | inr frame =>
    unfold Turn.upstreamRead
    dsimp only
    cases frame.messageType with
    | other => trivial
    | binary => exact forward_ending hs frame late nofun
    | text =>
      dsimp only
      have hobserved := observe_observed json toLower hs frame.frame
      cases hcase : s.observe json toLower frame.frame with
      | error flow =>
        rw [hcase] at hobserved
        exact hobserved
      | ok out =>
        rw [hcase] at hobserved
        exact forward_ending hobserved.1 frame late hobserved.2

/-- Whatever the `select` takes, a turn that ends well has a terminal event. -/
lemma step_ending (hs : Holding s) {happening : Happening} {flow : Flow} (hstep : s.step json toLower o happening = some flow) :
    Ending flow := by
  cases happening with
  | clientRead read =>
    unfold Turn.step at hstep
    split_ifs at hstep
    cases hstep
    exact clientRead_ending hs read
  | upstreamRead read late =>
    cases hstep
    exact upstreamRead_ending hs late read
  | readTimeout =>
    unfold Turn.step at hstep
    split_ifs at hstep
    cases hstep
    trivial
  | drainTimeout =>
    unfold Turn.step at hstep
    obtain ⟨cause, -, rfl⟩ := Option.map_eq_some_iff.mp hstep
    trivial
  | canceled =>
    cases hstep
    cases s.clientErr with
    | none => trivial
    | some cause => trivial

end ShareSub.TurnEnding

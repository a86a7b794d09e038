import Mathlib
import ShareSub.TurnModel

/-!
# The control frames of a turn that may be replayed

While a turn may still be replayed on another connection, its control frames are held back and nothing has been written
to the client. Once it may not, what was held back has been written, and the frames that follow are written at once. A
session is a run of turns, each with the attempts that were given up before the one that served it.
-/
namespace ShareSub.TurnControls

open SseModel UsageModel TurnModel

section Attempt

variable {json : FrameJson} {toLower : String → String} {o : Outside} {s t : Turn} {held written : List Frame}
  {client : List Frame} {allow : Bool}

/-- The control frame that an event brings. -/
def controls (json : FrameJson) : Happening → List Frame
  | .clientRead (.inr read) => if isResponsesWebSocketResponseCreate json read.messageType read.frame then [] else [read]
  | _ => []

/-- A control frame after which the turn is bound to its connection. -/
def Binding (json : FrameJson) (read : Frame) : Prop :=
  isResponsesWebSocketResponseCancel json read.messageType read.frame = true ∨
    responsesWebSocketControlPreservesReplaySafety json read.messageType read.frame = false

/-- The turn may still be replayed. -/
def Open (s : Turn) : Prop := s.allowUpstreamErrorRetry = true ∧ s.wroteDownstream = false

/-- Where the frames of the client are: those that were held back before, or have come since, are held back or written.
A turn that is bound to its connection from the start does not write what was held back before it. -/
structure Ordered (json : FrameJson) (allow : Bool) (client written held : List Frame) (s : Turn) (frames : List Frame) :
    Prop where
  untouched : s.wroteDownstream = false → s.client.written = client
  waiting : Open s →
    allow = true ∧ s.upstream.written = written ∧ s.pending.frames = held ++ frames ∧ ∀ read ∈ frames, ¬ Binding json read
  direct : allow = true ∨ held = [] → ¬ Open s → s.upstream.written = written ++ held ++ frames ∧ s.pending.frames = []

/-- How a turn ends with respect to its frames: it is handed over with all of them, or they have been written. -/
def Ends (json : FrameJson) (allow : Bool) (client written held : List Frame) (s : Turn) (frames : List Frame) :
    Option TurnError → Prop
  | some (.firstUpstream _) =>
    allow = true ∧ s.client.written = client ∧ s.clientDisconnected = false ∧ s.upstream.written = written ∧
      s.pending.frames = held ++ frames ∧ ∀ read ∈ frames, ¬ Binding json read
  | none => allow = true ∨ held = [] → s.upstream.written = written ++ held ++ frames ∧ s.pending.frames = []
  | some (.terminal _ _) => allow = true ∨ held = [] → s.upstream.written = written ++ held ++ frames ∧ s.pending.frames = []
  | some (.close _ _) => True
  | some (.client _) => True

def Follows (json : FrameJson) (allow : Bool) (client written held frames : List Frame) : Flow → Prop
  | .go s => Ordered json allow client written held s frames
  | .done s error => Ends json allow client written held s frames error

lemma writeAll_ok {c c' : Connection} {accepts : ℕ → Bool} {frames : List Frame}
    (h : c.writeAll accepts frames = (c', true)) : c'.written = c.written ++ frames := by
  induction frames generalizing c with
  | nil =>
    cases h
    exact (List.append_nil _).symm
  | cons frame frames ih =>
    unfold Connection.writeAll Connection.write at h
    split_ifs at h with haccepts
    · rw [ih h, List.append_assoc, List.singleton_append]
    · cases h

lemma write_ok {c c' : Connection} {accepts : ℕ → Bool} {frame : Frame} (h : c.write accepts frame = (c', true)) :
    c'.written = c.written ++ [frame] := by
  unfold Connection.write at h
  split_ifs at h
  · cases h
    rfl
  · cases h

/-- What was held back follows what was written, and nothing else changes. -/
lemma flush_ok (h : s.flush o = (t, true)) :
    ∃ c : Connection, c.written = s.upstream.written ++ s.pending.frames ∧
      t = { s with upstream := c, pending := PendingClientFrames.empty } := by
  unfold Turn.flush at h
  split at h
  · next c hwrite =>
    cases h
    exact ⟨c, writeAll_ok hwrite, rfl⟩
  · cases h

lemma writeUpstream_ok {read : Frame} (h : s.writeUpstream o read = (t, true)) :
    ∃ c : Connection, c.written = s.upstream.written ++ [read] ∧ t = { s with upstream := c } := by
  unfold Turn.writeUpstream at h
  split at h
  · next c ok hwrite =>
    cases h
    exact ⟨c, write_ok hwrite, rfl⟩

/-- Once the turn is no longer open, a flush leaves everything written. -/
lemma Ordered.flush {frames : List Frame} (h : Ordered json allow client written held s frames)
    (hflush : ({ s with allowUpstreamErrorRetry := false } : Turn).flush o = (t, true)) :
    Ordered json allow client written held t frames ∧ ¬ Open t ∧ t.allowUpstreamErrorRetry = false := by
  obtain ⟨c, hc, rfl⟩ := flush_ok hflush
  refine ⟨⟨h.untouched, nofun, fun hstart _ => ⟨?_, rfl⟩⟩, nofun, rfl⟩
  by_cases hopen : Open s
  · obtain ⟨-, hwritten, hpending, -⟩ := h.waiting hopen
    rw [hc, hwritten, hpending, List.append_assoc]
  · obtain ⟨hwritten, hpending⟩ := h.direct hstart hopen
    rw [hc, hwritten, hpending, List.append_nil]

lemma Ordered.write {frames : List Frame} {read : Frame} (h : Ordered json allow client written held s frames) (hopen : ¬ Open s)
    (hwrite : s.writeUpstream o read = (t, true)) : Ordered json allow client written held t (frames ++ [read]) := by
  obtain ⟨c, hc, rfl⟩ := writeUpstream_ok hwrite
  refine ⟨h.untouched, fun hopen' => absurd hopen' hopen, fun hstart _ => ?_⟩
  obtain ⟨hwritten, hpending⟩ := h.direct hstart hopen
  refine ⟨?_, hpending⟩
  rw [hc, hwritten, List.append_assoc]

lemma open_iff : (s.allowUpstreamErrorRetry && !s.wroteDownstream) = true ↔ Open s := by
  simp [Open]

/-- A control frame is held back if it may be, and written otherwise. -/
lemma control_follows {frames : List Frame} {read : Frame} (h : Ordered json allow client written held s frames)
    (hsafe : Open s → responsesWebSocketControlPreservesReplaySafety json read.messageType read.frame = true) :
    Follows json allow client written held (frames ++ [read]) (s.control json toLower o read) := by
  unfold Turn.control
  split_ifs with hopen hcancel
  · split
    · trivial
    · next t hflush =>
      obtain ⟨hordered, hclosed, -⟩ := h.flush hflush
      split
      · trivial
      · next u hwrite => exact hordered.write hclosed hwrite
  · rw [open_iff] at hopen
    split
    · trivial
    · next pending happend =>
      obtain ⟨hallow, hwritten, hpending, hframes⟩ := h.waiting hopen
      unfold PendingClientFrames.append at happend
      split_ifs at happend
      cases happend
      refine ⟨h.untouched, fun _ => ⟨hallow, hwritten, ?_, ?_⟩, fun _ hclosed => absurd hopen hclosed⟩
      · rw [hpending, List.append_assoc]
      · intro x hx
        rcases List.mem_append.mp hx with hx | hx
        · exact hframes x hx
        · rw [List.mem_singleton.mp hx]
          rintro (hc | hs)
          · exact hcancel hc
          · rw [hsafe hopen] at hs
            cases hs
  · rw [open_iff] at hopen
    split
    · trivial
    · next t hwrite => exact h.write hopen hwrite

/-- What an event leaves alone: the two flags, the queues and the connections. -/
def line (s : Turn) : Bool × Bool × PendingClientFrames × Connection × Connection × Option String × Bytes :=
  (s.allowUpstreamErrorRetry, s.wroteDownstream, s.pending, s.client, s.upstream, s.clientErr, s.result.nextFrame)

lemma line_eq (h : line t = line s) : t.allowUpstreamErrorRetry = s.allowUpstreamErrorRetry ∧
    t.wroteDownstream = s.wroteDownstream ∧ t.pending = s.pending ∧ t.client = s.client ∧ t.upstream = s.upstream ∧
      t.clientErr = s.clientErr ∧ t.result.nextFrame = s.result.nextFrame := by
  simpa [line] using h

lemma Ordered.congr {frames : List Frame} (h : Ordered json allow client written held s frames) (hline : line t = line s) :
    Ordered json allow client written held t frames := by
  obtain ⟨hallow, hwrote, hpending, hclient, hupstream, -⟩ := line_eq hline
  have hopen : Open t ↔ Open s := by rw [Open, Open, hallow, hwrote]
  constructor
  · rw [hwrote, hclient]
    exact h.untouched
  · rw [hopen, hupstream, hpending]
    exact h.waiting
  · rw [hopen, hupstream, hpending]
    exact h.direct

lemma clientRead_follows {frames : List Frame} (h : Ordered json allow client written held s frames) (read : String ⊕ Frame) :
    Follows json allow client written held (frames ++ controls json (.clientRead read)) (s.clientRead json toLower o read) := by
  cases read with
  | inl cause =>
    have hordered : Ordered json allow client written held (s.markClientDisconnected cause) frames := by
      unfold Turn.markClientDisconnected
      split_ifs
      · exact h
      · exact ⟨h.untouched, h.waiting, h.direct⟩
    rw [controls, List.append_nil]
    · exact hordered
    · nofun
  | inr read =>
    unfold Turn.clientRead
    dsimp only [controls]
    by_cases hcreate : isResponsesWebSocketResponseCreate json read.messageType read.frame = true
    · rw [if_pos hcreate, if_pos hcreate, List.append_nil]
      split_ifs
      · trivial
      · exact ⟨h.untouched, h.waiting, h.direct⟩
      · trivial
    · rw [if_neg hcreate, if_neg hcreate]
      by_cases hsafe : responsesWebSocketControlPreservesReplaySafety json read.messageType read.frame = true
      · rw [if_pos hsafe]
        exact control_follows (h.congr rfl) fun _ => hsafe
      · rw [if_neg hsafe]
        split_ifs with hopen
        · split
          · trivial
          · next t hflush =>
            have hsame : Ordered json allow client written held { s with
                sessionModel := updateResponsesWebSocketSessionModel json s.sessionModel read.messageType read.frame
                sessionReplaySafe := false } frames := h.congr rfl
            obtain ⟨hordered, hclosed, -⟩ := hsame.flush hflush
            exact control_follows hordered fun hopen' => absurd hopen' hclosed
        · rw [open_iff] at hopen
          exact control_follows (h.congr rfl) fun hopen' => absurd hopen' hopen

lemma line_steer (s : Turn) (eventType : String) : line (s.steer eventType) = line s := by
  unfold Turn.steer
  split
  · rfl
  · rfl
  · split_ifs <;> rfl
  · rfl

lemma line_noteTerminal (s : Turn) (frame : Bytes) (eventType : String) (parsed : Option Terminal) :
    line (s.noteTerminal json frame eventType parsed).1 = line s := by
  unfold Turn.noteTerminal
  cases parsed with
  | none => rfl
  | some r =>
    dsimp only
    split_ifs <;> rfl

lemma line_noteHeld (s : Turn) (eventType : String) (terminalEvent : Bool × String) :
    line (s.noteHeld eventType terminalEvent).1 = line s := by
  unfold Turn.noteHeld
  split_ifs <;> rfl

lemma line_applyPendingError (s : Turn) : line s.applyPendingError = line s := rfl

lemma line_applyTerminalFailure (s : Turn) (eventType : String) : line (s.applyTerminalFailure eventType) = line s := by
  unfold Turn.applyTerminalFailure
  split_ifs <;> rfl

/-- What reading a text frame does: only an open turn with its client is handed over. -/
def Observed (s : Turn) : Except Flow (Turn × Bool × String) → Prop
  | .ok (t, _) => line t = line s
  | .error (.done t (some (.firstUpstream _))) => line t = line s ∧ Open s ∧ s.clientErr = none
  | .error (.done _ (some (.close _ _))) => True
  | .error _ => False

lemma observe_observed (s : Turn) (frame : Bytes) : Observed s (s.observe json toLower frame) := by
  unfold Turn.observe
  dsimp only
  generalize observeResponsesWebSocketEvent json frame = event
  obtain ⟨eventType, responseID, parsed⟩ := event
  dsimp only
  by_cases hcreated : eventType = "response.created" ∧ s.awaitingSteerContinuation = true ∧ s.result.nextFrame ≠ []
  · rw [if_pos hcreated]
    trivial
  · rw [if_neg hcreated]
    have hline :
        line (((s.steer eventType).noteRequest json frame eventType responseID).noteTerminal json frame eventType parsed).1 =
          line s :=
      (line_noteTerminal _ frame eventType parsed).trans (line_steer s eventType)
    generalize ((s.steer eventType).noteRequest json frame eventType responseID).noteTerminal json frame eventType parsed = noted
      at hline
    obtain ⟨t, terminalEvent⟩ := noted
    generalize (if eventType = "error" then parseResponsesWebSocketErrorEvent json frame else none) = found
    cases found with
    | none => exact (line_noteHeld t eventType terminalEvent).trans hline
    | some e =>
      dsimp only
      split_ifs with hretry
      · obtain ⟨hallow, hwrote, -, -, -, herr, -⟩ := line_eq hline
        simp only [Bool.and_eq_true, Bool.not_eq_true'] at hretry
        obtain ⟨⟨⟨hallow', hwrote'⟩, hgone⟩, -⟩ := hretry
        refine ⟨hline, ⟨hallow.symm.trans hallow', hwrote.symm.trans hwrote'⟩, ?_⟩
        rw [← herr]
        simpa [Turn.clientDisconnected] using hgone
      · exact (line_noteHeld { t with pendingError := some e } eventType terminalEvent).trans hline

/-- After the delivery of a frame a client that is still there has got it. -/
def Delivered (json : FrameJson) (allow : Bool) (client written held frames : List Frame) : Except Flow Turn → Prop
  | .error flow => Follows json allow client written held frames flow
  | .ok t => Ordered json allow client written held t frames ∧ (t.clientErr = none → t.wroteDownstream = true)

lemma deliver_delivered {frames : List Frame} (toLower : String → String) (o : Outside)
    (h : Ordered json allow client written held s frames) (frame : Frame) :
    Delivered json allow client written held frames (s.deliver toLower o frame) := by
  unfold Turn.deliver
  split_ifs with hgone
  · refine ⟨h, fun herr => ?_⟩
    rw [Turn.clientDisconnected, herr] at hgone
    cases hgone
  · cases o.client s.client.attempts with
    | some cause =>
      have hconnected : s.clientDisconnected = false := by simpa using hgone
      refine ⟨?_, fun herr => ?_⟩
      · simp only [Turn.markClientDisconnected]
        split_ifs
        · exact ⟨h.untouched, h.waiting, h.direct⟩
        · exact ⟨h.untouched, h.waiting, h.direct⟩
      · simp [Turn.markClientDisconnected, Turn.clientDisconnected, Option.isSome_iff_ne_none] at herr hconnected
        simp [hconnected] at herr
    | none =>
      dsimp only
      split
      · trivial
      · next t hflush =>
        obtain ⟨c, hc, rfl⟩ := flush_ok hflush
        refine ⟨⟨nofun, fun hopen => absurd hopen.2 (by simp), fun hstart _ => ⟨?_, rfl⟩⟩, fun _ => rfl⟩
        by_cases hopen : Open s
        · obtain ⟨-, hwritten, hpending, -⟩ := h.waiting hopen
          rw [hc, hwritten, hpending, List.append_assoc]
        · obtain ⟨hwritten, hpending⟩ := h.direct hstart hopen
          rw [hc, hwritten, hpending, List.append_nil]

/-- A turn that completes has written all frames, unless its client is gone. -/
lemma complete_follows {frames : List Frame} (h : Ordered json allow client written held s frames)
    (hdelivered : s.clientErr = none → s.wroteDownstream = true) (event : String) :
    Follows json allow client written held frames (s.complete toLower event) := by
  have hline : ∀ t : Turn, line ((t.applyPendingError.applyTerminalFailure event).finishMetrics toLower) = line t := fun t =>
    (line_applyTerminalFailure _ event).trans (line_applyPendingError t)
  unfold Turn.complete
  dsimp only
  generalize hdone : ((Turn.applyTerminalFailure _ event).finishMetrics toLower) = t
  have hsame : line t = line s := by
    rw [← hdone, hline]
    rfl
  obtain ⟨-, hwrote, -, -, -, herr, -⟩ := line_eq hsame
  have hordered := h.congr hsame
  have hwritten : t.clientErr = none → allow = true ∨ held = [] → t.upstream.written = written ++ held ++ frames ∧ t.pending.frames = [] := by
    intro hnone hstart
    refine hordered.direct hstart fun hopen => ?_
    have hopened := hopen.2
    rw [hwrote, hdelivered (herr.symm.trans hnone)] at hopened
    cases hopened
  split_ifs with hfailed
  · refine hwritten ?_
    simp only [Bool.and_eq_true, Bool.not_eq_true'] at hfailed
    simpa [Turn.clientDisconnected] using hfailed.1
  · cases hclient : t.clientErr with
    | none => exact hwritten hclient
    | some cause => trivial

lemma forward_follows {frames : List Frame} (toLower : String → String) (o : Outside)
    (h : Ordered json allow client written held s frames) (frame : Frame) (late : Bool) (terminalEvent : Bool × String) :
    Follows json allow client written held frames (s.forward toLower o frame late terminalEvent) := by
  have hdelivered := deliver_delivered toLower o h frame
  unfold Turn.forward
  cases hcase : s.deliver toLower o frame with
  | error flow =>
    rw [hcase] at hdelivered
    exact hdelivered
  | ok t =>
    rw [hcase] at hdelivered
    dsimp only
    split_ifs
    · exact complete_follows hdelivered.1 hdelivered.2 terminalEvent.2
    · trivial
    · exact hdelivered.1

lemma upstreamRead_follows {frames : List Frame} (h : Ordered json allow client written held s frames) (late : Bool)
    (read : String ⊕ Frame) : Follows json allow client written held frames (s.upstreamRead json toLower o late read) := by
  cases read with
  | inl cause =>
    unfold Turn.upstreamRead
    cases s.clientErr <;> trivial
  | inr frame =>
    unfold Turn.upstreamRead
    dsimp only
    cases hmessage : frame.messageType with
    | other => trivial
    | binary => exact forward_follows toLower o h frame late (false, "")
    | text =>
      dsimp only
      have hobserved : Observed s (s.observe json toLower frame.frame) := observe_observed s frame.frame
      cases hcase : s.observe json toLower frame.frame with
      | ok out =>
        rw [hcase] at hobserved
        exact forward_follows toLower o (h.congr hobserved) frame late out.2
      | error flow =>
        rw [hcase] at hobserved
        dsimp only
        cases flow with
        | go t => exact hobserved.elim
        | done t error =>
          cases error with
          | none => exact hobserved.elim
          | some e =>
            cases e with
            | close status reason => trivial
            | client cause => trivial
            | terminal event upstream => exact hobserved.elim
            | firstUpstream upstream =>
              obtain ⟨hline, hopen, hclient⟩ := hobserved
              obtain ⟨-, -, hpending, hsame, hupstream, herr, -⟩ := line_eq hline
              obtain ⟨hallow, hwritten, hframes, hbinding⟩ := h.waiting hopen
              refine ⟨hallow, ?_, ?_, ?_, ?_, hbinding⟩
              · rw [hsame, h.untouched hopen.2]
              · rw [Turn.clientDisconnected, herr, hclient]
                rfl
              · rw [hupstream, hwritten]
              · rw [hpending, hframes]

/-- Whatever the `select` takes, the frames stay in order. -/
lemma step_follows {frames : List Frame} (h : Ordered json allow client written held s frames) (happening : Happening)
    {flow : Flow} (hstep : s.step json toLower o happening = some flow) :
    Follows json allow client written held (frames ++ controls json happening) flow := by
  cases happening with
  | clientRead read =>
    unfold Turn.step at hstep
    split_ifs at hstep
    cases hstep
    exact clientRead_follows h read
  | upstreamRead read late =>
    cases hstep
    exact (List.append_nil frames).symm ▸ upstreamRead_follows h late read
  | readTimeout =>
    unfold Turn.step at hstep
    split_ifs at hstep
    cases hstep
    trivial
  | drainTimeout =>
    unfold Turn.step at hstep
    obtain ⟨cause, -, rfl⟩ := Option.map_eq_some_iff.mp hstep
    trivial
  | canceled =>
    cases hstep
    cases s.clientErr <;> trivial

lemma run_follows {happenings : List Happening} {frames : List Frame} {flow : Flow}
    (h : Ordered json allow client written held s frames) (hrun : s.run json toLower o happenings = some flow) :
    Follows json allow client written held (frames ++ happenings.flatMap (controls json)) flow := by
  induction happenings generalizing s frames with
  | nil =>
    cases hrun
    exact (List.append_nil frames).symm ▸ h
  | cons happening rest ih =>
    unfold Turn.run at hrun
    cases hcase : s.step json toLower o happening with
    | none =>
      rw [hcase] at hrun
      cases hrun
    | some next =>
      rw [hcase] at hrun
      have hnext := step_follows h happening hcase
      rw [List.flatMap_cons, ← List.append_assoc]
      cases next with
      | go t => exact ih hnext hrun
      | done t error =>
        dsimp only at hrun
        split_ifs at hrun with hrest
        cases hrun
        rw [hrest, List.flatMap_nil, List.append_nil]
        exact hnext

lemma start_ordered (sessionModel : String) (sessionReplaySafe allow : Bool) (pending : PendingClientFrames)
    (client upstream : Connection) :
    Ordered json allow client.written upstream.written pending.frames
      (Turn.start sessionModel sessionReplaySafe allow pending client upstream) [] := by
  refine ⟨fun _ => rfl, fun hopen => ⟨hopen.1, rfl, (List.append_nil _).symm, nofun⟩, fun hstart hclosed => ?_⟩
  have hnone : pending.frames = [] := hstart.resolve_left fun hallow => hclosed ⟨hallow, rfl⟩
  refine ⟨?_, hnone⟩
  rw [hnone, List.append_nil, List.append_nil]
  rfl

/-- The end of an attempt. -/
lemma attempt_ends {sessionModel : String} {sessionReplaySafe allow : Bool} {pending : PendingClientFrames}
    {client upstream : Connection} {happenings : List Happening} {error : Option TurnError}
    (hrun : (Turn.start sessionModel sessionReplaySafe allow pending client upstream).run json toLower o happenings =
      some (.done t error)) :
    Ends json allow client.written upstream.written pending.frames t
      (happenings.flatMap (controls json)) error :=
  run_follows (start_ordered sessionModel sessionReplaySafe allow pending client upstream) hrun

end Attempt

section Session

/-- An attempt to serve a turn: the normalized frame that is written first, and what happens then. -/
structure Attempt where
  create : Bytes
  outside : Outside
  happenings : List Happening

/-- A turn with its attempts and the frames of the client that are read between it and the next. A turn that may not be
replayed has one attempt. -/
structure Exchange where
  allowUpstreamErrorRetry : Bool
  attempts : List Attempt
  accepts : ℕ → Bool
  between : List Frame

/-- The variables of `Run` that a turn hands to the next, and the upstream connections that were closed. -/
structure Session where
  sessionModel : String
  sessionReplaySafe : Bool
  pendingFirstDownstreamControls : PendingClientFrames
  client : Connection
  upstream : Option Connection
  closed : List Connection

/-- A session with the model of its first turn. -/
def Session.initial (sessionModel : String) : Session :=
  ⟨sessionModel, true, PendingClientFrames.empty, ⟨[], 0⟩, none, []⟩

variable (json : FrameJson) (toLower : String → String)

/-- The attempt on the open connection, or on a new one; absent when the session ends before the turn does. -/
def Session.attempt (s : Session) (allow : Bool) (a : Attempt) : Option (Turn × Option TurnError) :=
  match (s.upstream.getD ⟨[], 0⟩).write a.outside.upstream ⟨.text, a.create⟩ with
  | (_, false) => none
  | (upstream, true) =>
    match (Turn.start s.sessionModel s.sessionReplaySafe allow s.pendingFirstDownstreamControls s.client upstream).run json
      toLower a.outside a.happenings with
    | some (.done t error) => some (t, error)
    | _ => none

/-- `closeUpstream` after an attempt. -/
def Session.abandon (s : Session) (t : Turn) : Session :=
  ⟨t.sessionModel, t.sessionReplaySafe, t.pending, t.client, none, s.closed ++ [t.upstream]⟩

def Session.keep (s : Session) (t : Turn) : Session :=
  ⟨t.sessionModel, t.sessionReplaySafe, t.pending, t.client, some t.upstream, s.closed⟩

/-- The attempts of a turn; absent when an error aborts the session. -/
def Session.serve (s : Session) (allow : Bool) : List Attempt → Option Session
  | [] => none
  | a :: rest =>
    match s.attempt json toLower allow a with
    | some (t, some (.firstUpstream _)) => (s.abandon t).serve allow rest
    | some (t, some (.terminal _ _)) => if rest.isEmpty then some (s.keep t) else none
    | some (t, none) => if rest.isEmpty then some (s.keep t) else none
    | _ => none

/-- The frames between two turns, which are written at once. -/
def Session.idle (accepts : ℕ → Bool) (s : Session) : List Frame → Option Session
  | [] => some s
  | read :: rest =>
    if isResponsesWebSocketResponseCreate json read.messageType read.frame then none
    else
      match s.upstream.map fun c => c.write accepts read with
      | some (c, true) =>
        { s with
          sessionModel := updateResponsesWebSocketSessionModel json s.sessionModel read.messageType read.frame
          sessionReplaySafe :=
            s.sessionReplaySafe && responsesWebSocketControlPreservesReplaySafety json read.messageType read.frame
          upstream := some c }.idle accepts rest
      | _ => none

def Session.turn (s : Session) (exchange : Exchange) : Option Session :=
  (s.serve json toLower exchange.allowUpstreamErrorRetry exchange.attempts).bind fun t =>
    t.idle json exchange.accepts exchange.between

def Session.run (s : Session) : List Exchange → Option Session
  | [] => some s
  | exchange :: rest => (s.turn json toLower exchange).bind fun t => t.run rest

end Session

section Sessions

variable {json : FrameJson} {toLower : String → String} {s t : Session}

def Attempt.controls (json : FrameJson) (a : Attempt) : List Frame := a.happenings.flatMap (TurnControls.controls json)

/-- What was written on the open connection. -/
def Session.written (s : Session) : List Frame := (s.upstream.getD ⟨[], 0⟩).written

/-- What the connection of each attempt has got when its turn starts. -/
def opened (written : List Frame) : List Attempt → List (List Frame)
  | [] => []
  | a :: rest => (written ++ [⟨.text, a.create⟩]) :: opened [] rest

/-- The connections of a turn: those that were given up have got no control frame, and the one that served it all of
them, in the order in which they were read. -/
def Served (s t : Session) (attempts : List Attempt) (controls : List Frame) : Prop :=
  ∃ abandoned begun serving, opened s.written attempts = abandoned ++ [begun] ∧
    t.closed.map Connection.written = s.closed.map Connection.written ++ abandoned ∧
      t.upstream = some serving ∧ serving.written = begun ++ controls

lemma attempt_result {allow : Bool} {a : Attempt} {u : Turn} {error : Option TurnError}
    (h : s.attempt json toLower allow a = some (u, error)) :
    Ends json allow s.client.written (s.written ++ [⟨.text, a.create⟩]) s.pendingFirstDownstreamControls.frames u
      (a.controls json) error := by
  unfold Session.attempt at h
  split at h
  · cases h
  · next upstream hwrite =>
    rw [Session.written, ← write_ok hwrite]
    split at h
    · next v e hrun =>
      cases h
      exact attempt_ends hrun
    · cases h

/-- A turn that is served: by the attempts that are left, with the frames that those before have held back. -/
lemma serve_served {allow : Bool} {attempts : List Attempt}
    (hstart : allow = true ∨ s.pendingFirstDownstreamControls.frames = [])
    (h : s.serve json toLower allow attempts = some t) :
    Served s t attempts (s.pendingFirstDownstreamControls.frames ++ attempts.flatMap (Attempt.controls json)) ∧
      t.pendingFirstDownstreamControls.frames = [] := by
  induction attempts generalizing s with
  | nil => cases h
  | cons a rest ih =>
    have hlast : ∀ u : Turn, u.upstream.written = s.written ++ [⟨.text, a.create⟩] ++
        s.pendingFirstDownstreamControls.frames ++ a.controls json ∧ u.pending.frames = [] →
        (if rest.isEmpty then some (s.keep u) else none) = some t →
        Served s t (a :: rest) (s.pendingFirstDownstreamControls.frames ++ (a :: rest).flatMap (Attempt.controls json)) ∧
          t.pendingFirstDownstreamControls.frames = [] := by
      intro u hu hkeep
      split_ifs at hkeep with hrest
      cases hkeep
      rw [List.isEmpty_iff.mp hrest]
      refine ⟨⟨[], _, u.upstream, rfl, (List.append_nil _).symm, rfl, ?_⟩, hu.2⟩
      rw [hu.1, List.append_assoc, List.flatMap_cons, List.flatMap_nil, List.append_nil]
    unfold Session.serve at h
    split at h
    · next u e hattempt =>
      obtain ⟨hallow, hclient, -, hwritten, hpending, -⟩ := attempt_result hattempt
      obtain ⟨⟨abandoned, begun, serving, hopened, hclosed, hserving, hall⟩, hnone⟩ := ih (Or.inl hallow) h
      refine ⟨⟨(s.written ++ [⟨.text, a.create⟩]) :: abandoned, begun, serving, ?_, ?_, hserving, ?_⟩, hnone⟩
      · rw [opened, List.cons_append, ← hopened]
        rfl
      · rw [hclosed, Session.abandon, List.map_append, List.append_assoc, List.map_cons, List.map_nil, hwritten]
        rfl
      · rw [hall, List.flatMap_cons, ← List.append_assoc _ (a.controls json), ← hpending]
        rfl
    · next u event e hattempt => exact hlast u (attempt_result hattempt hstart) h
    · next u hattempt => exact hlast u (attempt_result hattempt hstart) h
    · cases h

lemma idle_written {accepts : ℕ → Bool} {between : List Frame} (h : s.idle json accepts between = some t) :
    t.closed = s.closed ∧ t.pendingFirstDownstreamControls = s.pendingFirstDownstreamControls ∧
      ∀ c, s.upstream = some c → ∃ d, t.upstream = some d ∧ d.written = c.written ++ between := by
  induction between generalizing s with
  | nil =>
    cases h
    exact ⟨rfl, rfl, fun c hc => ⟨c, hc, (List.append_nil _).symm⟩⟩
  | cons read rest ih =>
    unfold Session.idle at h
    split_ifs at h
    split at h
    · next c hwrite =>
      obtain ⟨hclosed, hpending, hupstream⟩ := ih h
      refine ⟨hclosed, hpending, fun base hbase => ?_⟩
      obtain ⟨d, hd, hwritten⟩ := hupstream c rfl
      rw [hbase] at hwrite
      refine ⟨d, hd, ?_⟩
      rw [hwritten, write_ok (Option.some.inj hwrite), List.append_assoc, List.singleton_append]
    · cases h

lemma turn_served {exchange : Exchange} (hpending : s.pendingFirstDownstreamControls.frames = [])
    (h : s.turn json toLower exchange = some t) :
    Served s t exchange.attempts (exchange.attempts.flatMap (Attempt.controls json) ++ exchange.between) ∧
      t.pendingFirstDownstreamControls.frames = [] := by
  obtain ⟨u, hserve, hidle⟩ := Option.bind_eq_some_iff.mp h
  obtain ⟨⟨abandoned, begun, serving, hopened, hclosed, hserving, hall⟩, hnone⟩ := serve_served (Or.inr hpending) hserve
  obtain ⟨hsame, hkept, hwritten⟩ := idle_written hidle
  obtain ⟨d, hd, hbetween⟩ := hwritten serving hserving
  refine ⟨⟨abandoned, begun, d, hopened, ?_, hd, ?_⟩, ?_⟩
  · rw [hsame, hclosed]
  · rw [hbetween, hall, hpending, List.nil_append, List.append_assoc]
  · rw [hkept, hnone]

/-- Between two turns nothing is held back. -/
lemma run_pending {exchanges : List Exchange} (hpending : s.pendingFirstDownstreamControls.frames = [])
    (h : s.run json toLower exchanges = some t) : t.pendingFirstDownstreamControls.frames = [] := by
  induction exchanges generalizing s with
  | nil =>
    cases h
    exact hpending
  | cons exchange rest ih =>
    obtain ⟨u, hturn, hrest⟩ := Option.bind_eq_some_iff.mp h
    exact ih (turn_served hpending hturn).2 hrest

/-- An attempt that is given up was allowed to be, has left its client alone and has seen no control frame that binds it;
and a turn that is served brings all control frames to the connection that serves it, and none to another. -/
theorem replay_keeps_controls (json : FrameJson) (toLower : String → String) :
    (∀ (s : Session) (allow : Bool) (a : Attempt) (t : Turn) (e : ResponseError),
      s.attempt json toLower allow a = some (t, some (.firstUpstream e)) →
        allow = true ∧ t.client.written = s.client.written ∧ t.clientDisconnected = false ∧
          ∀ read ∈ a.controls json, ¬ Binding json read) ∧
    ∀ (sessionModel : String) (exchanges : List Exchange) (s t : Session) (exchange : Exchange),
      (Session.initial sessionModel).run json toLower exchanges = some s → s.turn json toLower exchange = some t →
        Served s t exchange.attempts (exchange.attempts.flatMap (Attempt.controls json) ++ exchange.between) := by
  constructor
  · intro s allow a t e h
    obtain ⟨hallow, hclient, hconnected, -, -, hbinding⟩ := attempt_result h
    exact ⟨hallow, hclient, hconnected, hbinding⟩
  · intro sessionModel exchanges s t exchange hrun hturn
    exact (turn_served (run_pending rfl hrun) hturn).1

end Sessions

section Example

def modelUpdate : Bytes := bytes "\x7b\"type\":\"session.update\",\"session\":\x7b\"model\":\"gpt-5\"\x7d\x7d"

def limited : Bytes := bytes "\x7b\"type\":\"error\",\"error\":\x7b\"type\":\"rate_limit_error\"\x7d\x7d"

def completed : Bytes := bytes "\x7b\"type\":\"response.completed\"\x7d"

def sampleType (x : Bytes) : Option String :=
  if x = modelUpdate then some "session.update"
  else if x = limited then some "error"
  else if x = completed then some "response.completed"
  else none

/-- `encoding/json` as it is on the three frames. -/
def sampleJson : FrameJson where
  type := sampleType
  sessionModel x := (sampleType x).map fun type => (type, if x = modelUpdate then "gpt-5" else "")
  session x := (sampleType x).map fun type =>
    (type, if x = modelUpdate then (∅ : Object).insert "model" (bytes "\"gpt-5\"") else ∅)
  string x := if x = bytes "\"gpt-5\"" then some "gpt-5" else none
  event x := (sampleType x).map fun type => ⟨type, "", "", Terminal.zero⟩
  error x := (sampleType x).map fun _ => if x = limited then some ⟨"rate_limit_error", "", ""⟩ else none
  incompleteReason x := (sampleType x).map fun _ => ""
  startsVisibleOutput _ _ := false

def outside : Outside := ⟨fun _ => none, fun _ => true⟩

/-- The model is updated during an attempt that is then given up for a rate limit. -/
def firstAttempt : Attempt :=
  ⟨[1], outside, [.clientRead (.inr ⟨.text, modelUpdate⟩), .upstreamRead (.inr ⟨.text, limited⟩) false]⟩

def secondAttempt : Attempt := ⟨[2], outside, [.upstreamRead (.inr ⟨.text, completed⟩) false]⟩

def replayed : Exchange := ⟨true, [firstAttempt, secondAttempt], fun _ => true, [⟨.text, modelUpdate⟩]⟩

def fresh : Session := Session.initial "gpt-5"

/-- The update that comes during the attempt that is given up is written once, to the connection that serves the turn. -/
theorem replay_keeps_controls_update :
    (∃ t e, fresh.attempt sampleJson String.toLower true firstAttempt = some (t, some (.firstUpstream e)) ∧
      t.client.written = [] ∧ ∀ read ∈ firstAttempt.controls sampleJson, ¬ Binding sampleJson read) ∧
    ∃ t, fresh.turn sampleJson String.toLower replayed = some t ∧
      t.upstream.map Connection.written =
        some [⟨.text, [2]⟩, ⟨.text, modelUpdate⟩, ⟨.text, modelUpdate⟩] ∧
      Served fresh t replayed.attempts (replayed.attempts.flatMap (Attempt.controls sampleJson) ++ replayed.between) := by
  constructor
  · have hended : ((fresh.attempt sampleJson String.toLower true firstAttempt).map Prod.snd) =
        some (some (.firstUpstream ⟨"rate_limit_error", "", ""⟩)) := by decide +kernel
    obtain ⟨⟨t, error⟩, hattempt, herror⟩ := Option.map_eq_some_iff.mp hended
    rw [show error = some (.firstUpstream ⟨"rate_limit_error", "", ""⟩) from herror] at hattempt
    obtain ⟨-, hclient, -, hbinding⟩ := (replay_keeps_controls sampleJson String.toLower).1 fresh true firstAttempt t _ hattempt
    exact ⟨t, _, hattempt, hclient, hbinding⟩
  · have hwritten : (fresh.turn sampleJson String.toLower replayed).map (fun t => t.upstream.map Connection.written) =
        some (some [⟨.text, [2]⟩, ⟨.text, modelUpdate⟩, ⟨.text, modelUpdate⟩]) := by decide +kernel
    obtain ⟨t, hturn, hall⟩ := Option.map_eq_some_iff.mp hwritten
    exact ⟨t, hturn, hall, (replay_keeps_controls sampleJson String.toLower).2 "gpt-5" [] fresh t replayed rfl hturn⟩

end Example

end ShareSub.TurnControls

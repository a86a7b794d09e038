import Mathlib
import ShareSub.Transaction
import ShareSub.TurnControls

/-!
# The lifecycle of the turns of a session

The embedding of `responsesWebSocketTurnLifecycle` with its three users: the goroutine that reads the client, the turn that
is relayed, and the loop between two turns. The lock is held across the terminal write, so that the write and what the
reader decides under the lock are one action each. What the loop does before a turn is relayed ends the session or does
not; it touches neither the flag nor the frames of the client.
-/
namespace ShareSub.TurnLifecycle

open SseModel UsageModel TurnModel TurnControls

section Model

/-- `responsesWebSocketRead`. Two observations are kept beside `duringTurn`: whether a turn was active when the frame came,
and when the reader was done with it. -/
structure Read where
  read : String ⊕ Frame
  duringTurn : Bool
  arrivedInTurn : Bool
  admittedInTurn : Bool
  deriving DecidableEq

/-- Where `readResponsesWebSocketFrames` is. A create waits for the lock before it is sent on. -/
inductive Reader
  | reading
  | locking (read : Read)
  | sending (read : Read)
  | stopped
  deriving DecidableEq

/-- Where `Run` is. Between two turns it has the last one. -/
inductive Phase
  | turn (t : Turn)
  | idle (t : Turn)
  | ended
  deriving DecidableEq

/-- The variables that the three share, with the number of turns begun and of those whose terminal frame was written,
and the creates that began a turn. -/
structure State where
  inFlight : Bool
  reader : Reader
  clientReads : Option Read
  phase : Phase
  begun : ℕ
  finished : ℕ
  started : List Read
  deriving DecidableEq

/-- What `Run` decides before it relays: whether the turn may be replayed, and the connection with the create written. -/
structure Setup where
  allowUpstreamErrorRetry : Bool
  upstream : Connection

inductive Action
  | read (read : String ⊕ Frame)
  | beginResponseCreate
  | send
  | relayClient (setup : Setup)
  | relay (happening : Happening) (setup : Setup)
  | take (setup : Setup) (accepts : ℕ → Bool)
  | leave

def State.active (s : State) : Bool :=
  match s.phase with
  | .turn _ => true
  | _ => false

def State.initial (sessionModel : String) (setup : Setup) : State where
  inFlight := true
  reader := .reading
  clientReads := none
  phase := .turn (Turn.start sessionModel true setup.allowUpstreamErrorRetry PendingClientFrames.empty ⟨[], 0⟩ setup.upstream)
  begun := 1
  finished := 0
  started := []

/-- The next turn, or the next attempt. -/
def restart (t : Turn) (setup : Setup) : Turn :=
  Turn.start t.sessionModel t.sessionReplaySafe setup.allowUpstreamErrorRetry t.pending t.client setup.upstream

variable (json : FrameJson) (toLower : String → String) (o : Outside)

def isCreate (read : Read) : Bool :=
  match read.read with
  | .inl _ => false
  | .inr frame => isResponsesWebSocketResponseCreate json frame.messageType frame.frame

/-- The terminal frame of the turn is written to the client, which is when the flag is cleared. -/
def terminalWritten (t : Turn) : Happening → Bool
  | .upstreamRead (.inr read) _ =>
    read.messageType = .text &&
      match t.observe json toLower read.frame with
      | .ok (u, terminalEvent) => terminalEvent.1 && !u.clientDisconnected && (o.client u.client.attempts).isNone
      | .error _ => false
  | _ => false

/-- After a turn a create that was queued in it begins the next one. -/
def State.next (s : State) (setup : Setup) (t : Turn) : State :=
  if t.result.nextFrame = [] then { s with phase := .idle t, finished := s.finished + 1 }
  else { s with phase := .turn (restart t setup), finished := s.finished + 1, begun := s.begun + 1 }

/-- How `Run` goes on after an event of a turn. -/
def State.settle (s : State) (setup : Setup) : Flow → State
  | .go t => { s with phase := .turn t }
  | .done t none => s.next setup t
  | .done t (some (.terminal _ _)) => s.next setup t
  | .done t (some (.firstUpstream _)) => { s with phase := .turn (restart t setup) }
  | .done _ (some (.close _ _)) => { s with phase := .ended }
  | .done _ (some (.client _)) => { s with phase := .ended }

/-- An event of the turn, with `finishTerminalWrite`. -/
def State.relay (s : State) (t : Turn) (happening : Happening) (setup : Setup) : Option State :=
  (t.step json toLower o happening).map
    ({ s with inFlight := s.inFlight && !terminalWritten json toLower o t happening }.settle setup)

/-- A frame of the client that the loop takes between two turns. -/
def State.take (s : State) (t : Turn) (read : Read) (setup : Setup) (accepts : ℕ → Bool) : State :=
  match read.read with
  | .inl _ => { s with phase := .ended }
  | .inr frame =>
    if isResponsesWebSocketResponseCreate json frame.messageType frame.frame then
      if read.duringTurn && !t.result.allowQueuedCreate then { s with phase := .ended }
      else { s with phase := .turn (restart t setup), begun := s.begun + 1, started := s.started ++ [read] }
    else
      let (upstream, ok) := t.upstream.write accepts frame
      if ok then
        { s with
          phase := .idle { t with
            sessionModel := updateResponsesWebSocketSessionModel json t.sessionModel frame.messageType frame.frame
            sessionReplaySafe :=
              t.sessionReplaySafe && responsesWebSocketControlPreservesReplaySafety json frame.messageType frame.frame
            upstream := upstream } }
      else { s with phase := .ended }

/-- An action of one of the three; absent when it has to wait. -/
def State.step (s : State) : Action → Option State
  | .read read =>
    match s.reader with
    | .reading =>
      let read : Read := ⟨read, false, s.active, s.active⟩
      some { s with reader := if isCreate json read then .locking read else .sending read }
    | _ => none
  | .beginResponseCreate =>
    match s.reader with
    | .locking read =>
      some { s with
        inFlight := true
        reader := .sending { read with duringTurn := s.inFlight, admittedInTurn := s.active } }
    | _ => none
  | .send =>
    match s.reader, s.clientReads with
    | .sending read, none =>
      some { s with clientReads := some read, reader := if read.read.isLeft then .stopped else .reading }
    | _, _ => none
  | .relayClient setup =>
    match s.phase, s.clientReads with
    | .turn t, some read => { s with clientReads := none }.relay json toLower o t (.clientRead read.read) setup
    | _, _ => none
  | .relay (.clientRead _) _ => none
  | .relay happening setup =>
    match s.phase with
    | .turn t => s.relay json toLower o t happening setup
    | _ => none
  | .take setup accepts =>
    match s.phase, s.clientReads with
    | .idle t, some read => some ({ s with clientReads := none }.take json t read setup accepts)
    | _, _ => none
  | .leave => some { s with phase := .ended }

/-- No turn begins with a create that was queued in another: none is queued where a terminal frame is written, and the
loop takes none that came during a turn. -/
def Direct (s : State) : Action → Prop
  | .relay happening _ =>
    ∀ t, s.phase = .turn t → terminalWritten json toLower o t happening = true → t.result.nextFrame = []
  | .take _ _ => ∀ read, s.clientReads = some read → isCreate json read = true → read.duringTurn = false
  | _ => True

/-- A create that came during a turn does not wait for the lock until the turn has written its terminal frame. -/
def Prompt (s : State) : Action → Prop
  | .beginResponseCreate => ∀ read, s.reader = .locking read → read.arrivedInTurn = true → s.active = true
  | _ => True

end Model

section Turns

variable {json : FrameJson} {toLower : String → String} {o : Outside} {s t : Turn}

/-- A turn that goes on or is tried again has not written a terminal frame; one that is over has, and has queued what it
had queued before. -/
def Marked (written : Bool) (nextFrame : Bytes) : Flow → Prop
  | .go _ => written = false
  | .done t none => written = true ∧ t.result.nextFrame = nextFrame
  | .done t (some (.terminal _ _)) => written = true ∧ t.result.nextFrame = nextFrame
  | .done _ (some (.firstUpstream _)) => written = false
  | .done _ _ => True

lemma control_marked (s : Turn) (read : Frame) (nextFrame : Bytes) :
    Marked false nextFrame (s.control json toLower o read) := by
  unfold Turn.control
  split_ifs
  · split
    · trivial
    · split
      · trivial
      · rfl
  · split
    · trivial
    · rfl
  · split
    · trivial
    · rfl

lemma clientRead_marked (s : Turn) (read : String ⊕ Frame) (nextFrame : Bytes) :
    Marked false nextFrame (s.clientRead json toLower o read) := by
  cases read with
  | inl cause => rfl
  | inr read =>
    unfold Turn.clientRead
    dsimp only
    split_ifs
    · trivial
    · rfl
    · trivial
    · exact control_marked _ read nextFrame
    · split
      · trivial
      · exact control_marked _ read nextFrame
    · exact control_marked _ read nextFrame

/-- A completed turn has a client that is still there, and keeps what it has queued. -/
lemma complete_marked (s : Turn) (event : String) :
    Marked s.clientErr.isNone s.result.nextFrame (s.complete toLower event) := by
  have hline : ∀ t : Turn, line ((t.applyPendingError.applyTerminalFailure event).finishMetrics toLower) = line t := fun t =>
    (line_applyTerminalFailure _ event).trans (line_applyPendingError t)
  unfold Turn.complete
  dsimp only
  generalize hdone : ((Turn.applyTerminalFailure _ event).finishMetrics toLower) = t
  have hsame : line t = line s := by
    rw [← hdone, hline]
    rfl
  obtain ⟨-, -, -, -, -, herr, hnext⟩ := line_eq hsame
  rw [← herr, ← hnext]
  split_ifs with hfailed
  · refine ⟨?_, rfl⟩
    simp only [Bool.and_eq_true, Bool.not_eq_true'] at hfailed
    simpa [Turn.clientDisconnected] using hfailed.1
  · cases hclient : t.clientErr with
    | none => exact ⟨rfl, rfl⟩
    | some cause => trivial

/-- A client that is still there has got the frame. -/
def Reached (o : Outside) (s : Turn) : Except Flow Turn → Prop
  | .error flow => ∃ t status reason, flow = .done t (some (.close status reason))
  | .ok t => t.clientErr.isNone = (!s.clientDisconnected && (o.client s.client.attempts).isNone) ∧
      t.result.nextFrame = s.result.nextFrame

lemma deliver_reached (s : Turn) (frame : Frame) : Reached o s (s.deliver toLower o frame) := by
  unfold Turn.deliver
  cases hgone : s.clientDisconnected with
  | true =>
    refine ⟨?_, rfl⟩
    rw [hgone, ← Option.not_isSome, ← Turn.clientDisconnected, hgone]
    rfl
  | false =>
    simp only [Bool.false_eq_true, if_false]
    cases hclient : o.client s.client.attempts with
    | some cause =>
      rw [Turn.clientDisconnected] at hgone
      refine ⟨?_, ?_⟩
      · simp [Turn.markClientDisconnected, Turn.clientDisconnected, hgone, hclient]
      · simp [Turn.markClientDisconnected, Turn.clientDisconnected, hgone]
    | none =>
      dsimp only
      split
      · exact ⟨_, _, _, rfl⟩
      · next t hflush =>
        obtain ⟨c, -, rfl⟩ := flush_ok hflush
        refine ⟨?_, rfl⟩
        dsimp only
        rw [hclient, ← Option.not_isSome, ← Turn.clientDisconnected, hgone]
        rfl

lemma forward_marked (s : Turn) (frame : Frame) (late : Bool) (terminalEvent : Bool × String) :
    Marked (terminalEvent.1 && !s.clientDisconnected && (o.client s.client.attempts).isNone) s.result.nextFrame
      (s.forward toLower o frame late terminalEvent) := by
  have hreached : Reached o s (s.deliver toLower o frame) := deliver_reached s frame
  unfold Turn.forward
  cases hcase : s.deliver toLower o frame with
  | error flow =>
    rw [hcase] at hreached
    obtain ⟨t, status, reason, rfl⟩ := hreached
    trivial
  | ok t =>
    rw [hcase] at hreached
    obtain ⟨herr, hnext⟩ := hreached
    dsimp only
    rw [Bool.and_assoc, ← herr, ← hnext]
    cases hterminal : terminalEvent.1 with
    | true => exact complete_marked t terminalEvent.2
    | false =>
      simp only [Bool.false_eq_true, if_false]
      split_ifs
      · trivial
      · rfl

lemma upstreamRead_marked (s : Turn) (late : Bool) (read : String ⊕ Frame) :
    Marked (terminalWritten json toLower o s (.upstreamRead read late)) s.result.nextFrame
      (s.upstreamRead json toLower o late read) := by
  cases read with
  | inl cause =>
    unfold Turn.upstreamRead
    cases s.clientErr <;> trivial
  | inr frame =>
    unfold Turn.upstreamRead terminalWritten
    dsimp only
    cases hmessage : frame.messageType with
    | other => trivial
    | binary => exact forward_marked s frame late (false, "")
    | text =>
      dsimp only
      have hobserved : Observed s (s.observe json toLower frame.frame) := observe_observed s frame.frame
      cases hcase : s.observe json toLower frame.frame with
      | ok out =>
        rw [hcase] at hobserved
        obtain ⟨-, -, -, -, -, -, hnext⟩ := line_eq hobserved
        rw [← hnext]
        exact forward_marked out.1 frame late out.2
      | error flow =>
        rw [hcase] at hobserved
        cases flow with
        | go t => exact hobserved.elim
        | done t error =>
          cases error with
          | none => exact hobserved.elim
          | some e =>
            cases e with
            | close status reason => trivial
            | client cause => trivial
            | terminal event upstream => exact hobserved.elim
            | firstUpstream upstream => rfl

/-- The flag is cleared by the event with which a turn is over, and by no other after which it goes on. -/
lemma step_marked {happening : Happening} {flow : Flow} (h : s.step json toLower o happening = some flow) :
    Marked (terminalWritten json toLower o s happening) s.result.nextFrame flow := by
  cases happening with
  | clientRead read =>
    unfold Turn.step at h
    split_ifs at h
    cases h
    exact clientRead_marked s read s.result.nextFrame
  | upstreamRead read late =>
    cases h
    exact upstreamRead_marked s late read
  | readTimeout =>
    unfold Turn.step at h
    split_ifs at h
    cases h
    trivial
  | drainTimeout =>
    unfold Turn.step at h
    obtain ⟨cause, -, rfl⟩ := Option.map_eq_some_iff.mp h
    trivial
  | canceled =>
    cases h
    cases s.clientErr <;> trivial

end Turns

section Safety

variable {json : FrameJson} {toLower : String → String} {o : Outside} {s t : State} {a : Action}

/-- A create that may begin a turn at any time. -/
def Admitted (json : FrameJson) (read : Read) : Prop := isCreate json read = true ∧ read.duringTurn = false

/-- The reader is done with the frame, and it was not taken yet. -/
def Waits (s : State) (read : Read) : Prop := s.reader = .sending read ∨ s.clientReads = some read

/-- The flag stands for the turn that is active, or for the one create that may begin the next. -/
structure Sound (json : FrameJson) (s : State) : Prop where
  running : s.active = true → s.inFlight = true
  waiting : ∀ read, Waits s read → Admitted json read → s.inFlight = true ∧ s.active = false
  single : ∀ read next, s.clientReads = some read → s.reader = .sending next → Admitted json read → ¬ Admitted json next
  refused : ∀ read, Waits s read → isCreate json read = true → read.admittedInTurn = true → read.duringTurn = true
  started : ∀ read ∈ s.started, read.admittedInTurn = false
  begun_le : s.begun ≤ s.finished + 1
  begun_idle : ∀ u, s.phase = .idle u → s.begun = s.finished
  begun_turn : ∀ u, s.phase = .turn u → s.begun = s.finished + 1

lemma initial_sound (sessionModel : String) (setup : Setup) : Sound json (State.initial sessionModel setup) where
  running _ := rfl
  waiting _ h := h.elim nofun nofun
  single _ _ h := nomatch h
  refused _ h := h.elim nofun nofun
  started _ h := nomatch h
  begun_le := le_rfl
  begun_idle _ h := nomatch h
  begun_turn _ _ := rfl

lemma Sound.taken (h : Sound json s) : Sound json { s with clientReads := none } := by
  refine ⟨h.running, ?_, nofun, ?_, h.started, h.begun_le, h.begun_idle, h.begun_turn⟩
  · rintro read (hread | hread)
    · exact h.waiting read (Or.inl hread)
    · cases hread
  · rintro read (hread | hread)
    · exact h.refused read (Or.inl hread)
    · cases hread

/-- The session may end at any time. -/
lemma Sound.leave (h : Sound json s) : Sound json { s with phase := .ended } where
  running hactive := nomatch hactive
  waiting read hread hadmitted := ⟨(h.waiting read hread hadmitted).1, rfl⟩
  single := h.single
  refused := h.refused
  started := h.started
  begun_le := h.begun_le
  begun_idle _ hidle := nomatch hidle
  begun_turn _ hturn := nomatch hturn

lemma Sound.linger {u : Turn} (h : Sound json s) (hidle : s.phase = .idle u) (v : Turn) :
    Sound json { s with phase := .idle v } where
  running hactive := nomatch hactive
  waiting read hread hadmitted := ⟨(h.waiting read hread hadmitted).1, rfl⟩
  single := h.single
  refused := h.refused
  started := h.started
  begun_le := h.begun_le
  begun_idle _ _ := h.begun_idle u hidle
  begun_turn _ hturn := nomatch hturn

lemma read_sound {read : String ⊕ Frame} (h : Sound json s) (hread : s.step json toLower o (.read read) = some t) :
    Sound json t := by
  simp only [State.step] at hread
  split at hread
  · next hreader =>
    cases hread
    have hfree : ∀ read, s.reader ≠ .sending read := by
      intro read hsending
      rw [hreader] at hsending
      cases hsending
    refine ⟨h.running, ?_, ?_, ?_, h.started, h.begun_le, h.begun_idle, h.begun_turn⟩
    · rintro read (hwaits | hwaits) hadmitted
      · dsimp only at hwaits
        split_ifs at hwaits with hcreate
        cases hwaits
        exact absurd hadmitted.1 hcreate
      · exact h.waiting read (Or.inr hwaits) hadmitted
    · intro read next _ hsending _ hadmitted
      dsimp only at hsending
      split_ifs at hsending with hcreate
      cases hsending
      exact hcreate hadmitted.1
    · rintro read (hwaits | hwaits) hcreate hturn
      · dsimp only at hwaits
        split_ifs at hwaits with hnew
        cases hwaits
        exact absurd hcreate hnew
      · exact h.refused read (Or.inr hwaits) hcreate hturn
  · cases hread

/-- What the reader decides under the lock: while a turn is active, the create came during a turn. -/
lemma beginResponseCreate_sound (h : Sound json s) (hbegin : s.step json toLower o .beginResponseCreate = some t) :
    Sound json t := by
  simp only [State.step] at hbegin
  split at hbegin
  · next read hreader =>
    cases hbegin
    have hother : ∀ next, s.clientReads = some next → Admitted json next → s.inFlight = true ∧ s.active = false :=
      fun next hnext => h.waiting next (Or.inr hnext)
    refine ⟨fun _ => rfl, ?_, ?_, ?_, h.started, h.begun_le, h.begun_idle, h.begun_turn⟩
    · rintro next (hwaits | hwaits) hadmitted
      · cases hwaits
        refine ⟨rfl, ?_⟩
        by_contra hactive
        rw [Bool.not_eq_false] at hactive
        have hflag : s.inFlight = false := hadmitted.2
        rw [h.running hactive] at hflag
        cases hflag
      · exact ⟨rfl, (hother next hwaits hadmitted).2⟩
    · intro next sent hnext hsending hadmitted hsent
      cases hsending
      have hflag : s.inFlight = false := hsent.2
      rw [(hother next hnext hadmitted).1] at hflag
      cases hflag
    · rintro next (hwaits | hwaits) hcreate hturn
      · cases hwaits
        exact h.running hturn
      · exact h.refused next (Or.inr hwaits) hcreate hturn
  · cases hbegin

lemma send_sound (h : Sound json s) (hsend : s.step json toLower o .send = some t) : Sound json t := by
  simp only [State.step] at hsend
  split at hsend
  · next read hreader hempty =>
    cases hsend
    have hnone : ∀ next, (if read.read.isLeft = true then Reader.stopped else .reading) ≠ .sending next := by
      intro next
      split_ifs <;> nofun
    refine ⟨h.running, ?_, ?_, ?_, h.started, h.begun_le, h.begun_idle, h.begun_turn⟩
    · rintro next (hwaits | hwaits)
      · exact absurd hwaits (hnone next)
      · cases hwaits
        exact h.waiting read (Or.inl hreader)
    · intro next sent _ hsending
      exact absurd hsending (hnone sent)
    · rintro next (hwaits | hwaits)
      · exact absurd hwaits (hnone next)
      · cases hwaits
        exact h.refused read (Or.inl hreader)
  · cases hsend

lemma active_iff : s.active = true ↔ ∃ u, s.phase = .turn u := by
  unfold State.active
  split
  · next u hphase => exact ⟨fun _ => ⟨u, hphase⟩, fun _ => rfl⟩
  · next hphase => exact ⟨nofun, fun ⟨u, hu⟩ => absurd hu (hphase u)⟩

/-- The loop may go on as it likes when no create waits that may begin a turn. -/
lemma Sound.move (h : Sound json s) (hnone : ∀ read, Waits s read → ¬ Admitted json read) {inFlight : Bool} {phase : Phase}
    {begun finished : ℕ} {started : List Read} (hturn : ∀ u, phase = .turn u → inFlight = true ∧ begun = finished + 1)
    (hidle : ∀ u, phase = .idle u → begun = finished) (hbegun : begun ≤ finished + 1)
    (hstarted : ∀ read ∈ started, read.admittedInTurn = false) :
    Sound json { s with
      inFlight := inFlight, phase := phase, begun := begun, finished := finished, started := started } where
  running hactive := by
    obtain ⟨u, hu⟩ := active_iff.mp hactive
    exact (hturn u hu).1
  waiting read hwaits hadmitted := absurd hadmitted (hnone read hwaits)
  single := h.single
  refused := h.refused
  started := hstarted
  begun_le := hbegun
  begun_idle := hidle
  begun_turn u hu := (hturn u hu).2

lemma Sound.none_waits (h : Sound json s) (hactive : s.active = true) (read : Read) (hwaits : Waits s read) :
    ¬ Admitted json read := by
  intro hadmitted
  rw [(h.waiting read hwaits hadmitted).2] at hactive
  cases hactive

/-- After an event of a turn that does not begin the next one, the flag stands for the turn if it goes on. -/
lemma settle_sound {written : Bool} {nextFrame : Bytes} {flow : Flow} {u : Turn} (h : Sound json s) (hturn : s.phase = .turn u)
    (hmarked : Marked written nextFrame flow) (hdirect : written = true → nextFrame = []) (setup : Setup) :
    Sound json (({ s with inFlight := s.inFlight && !written } : State).settle setup flow) := by
  have hactive : s.active = true := active_iff.mpr ⟨u, hturn⟩
  have hbegun := h.begun_turn u hturn
  have hnone := h.none_waits hactive
  have hgoes : ∀ v : Turn, written = false →
      Sound json { s with inFlight := s.inFlight && !written, phase := .turn v } := by
    intro v hwritten
    refine h.move hnone (fun _ _ => ⟨?_, hbegun⟩) (fun _ hidle => nomatch hidle) hbegun.le h.started
    rw [hwritten, h.running hactive]
    rfl
  have hover : ∀ v : Turn, written = true ∧ v.result.nextFrame = nextFrame →
      Sound json (({ s with inFlight := s.inFlight && !written } : State).next setup v) := by
    rintro v ⟨hwritten, hnext⟩
    unfold State.next
    rw [if_pos (hnext.trans (hdirect hwritten))]
    exact h.move hnone (fun _ hgoing => nomatch hgoing) (fun _ _ => hbegun) (by dsimp only; omega) h.started
  have hends : Sound json { s with inFlight := s.inFlight && !written, phase := .ended } :=
    h.move hnone (fun _ hgoing => nomatch hgoing) (fun _ hidle => nomatch hidle) hbegun.le h.started
  cases flow with
  | go v => exact hgoes v hmarked
  | done v error =>
    cases error with
    | none => exact hover v hmarked
    | some e =>
      cases e with
      | close status reason => exact hends
      | firstUpstream upstream => exact hgoes (restart v setup) hmarked
      | terminal event upstream => exact hover v hmarked
      | client cause => exact hends

lemma relay_sound {happening : Happening} {setup : Setup} {u : Turn} (h : Sound json s) (hturn : s.phase = .turn u)
    (hdirect : terminalWritten json toLower o u happening = true → u.result.nextFrame = [])
    (hrelay : s.relay json toLower o u happening setup = some t) : Sound json t := by
  obtain ⟨flow, hstep, rfl⟩ := Option.map_eq_some_iff.mp hrelay
  exact settle_sound h hturn (step_marked hstep) hdirect setup

/-- Between two turns, a create that came in none of them is the one that the flag stands for. -/
lemma take_sound {u : Turn} {read : Read} (h : Sound json s) (hidle : s.phase = .idle u) (hread : s.clientReads = some read)
    (hdirect : isCreate json read = true → read.duringTurn = false) (setup : Setup) (accepts : ℕ → Bool) :
    Sound json (({ s with clientReads := none } : State).take json u read setup accepts) := by
  have htaken := h.taken
  unfold State.take
  split
  · exact htaken.leave
  · next frame hframe =>
    have hcreate : isCreate json read = isResponsesWebSocketResponseCreate json frame.messageType frame.frame := by
      unfold isCreate
      rw [hframe]
    split_ifs with hnew hoverlapping
    · exact htaken.leave
    · have hduring := hdirect (hcreate.trans hnew)
      have hadmitted : Admitted json read := ⟨hcreate.trans hnew, hduring⟩
      have hflag := (h.waiting read (Or.inr hread) hadmitted).1
      refine htaken.move ?_ (fun _ _ => ⟨hflag, ?_⟩) (fun _ hnone => nomatch hnone) ?_ ?_
      · rintro next (hnext | hnext)
        · exact h.single read next hread hnext hadmitted
        · cases hnext
      · exact congrArg (· + 1) (h.begun_idle u hidle)
      · exact (congrArg (· + 1) (h.begun_idle u hidle)).le
      · intro x hx
        rcases List.mem_append.mp hx with hx | hx
        · exact h.started x hx
        · rw [List.mem_singleton.mp hx]
          by_contra hturn
          rw [Bool.not_eq_false] at hturn
          rw [h.refused read (Or.inr hread) hadmitted.1 hturn] at hduring
          cases hduring
    · obtain ⟨upstream, ok⟩ := u.upstream.write accepts frame
      dsimp only
      split_ifs
      · exact htaken.linger hidle _
      · exact htaken.leave

lemma step_sound (h : Sound json s) (hdirect : Direct json toLower o s a) (hstep : s.step json toLower o a = some t) :
    Sound json t := by
  cases a with
  | read read => exact read_sound h hstep
  | beginResponseCreate => exact beginResponseCreate_sound h hstep
  | send => exact send_sound h hstep
  | relayClient setup =>
    simp only [State.step] at hstep
    split at hstep
    · next u read hturn hread =>
      have hnone : terminalWritten json toLower o u (.clientRead read.read) = true → u.result.nextFrame = [] := nofun
      exact relay_sound h.taken hturn hnone hstep
    · cases hstep
  | relay happening setup =>
    have hrelay : ∃ u, s.phase = .turn u ∧ s.relay json toLower o u happening setup = some t := by
      cases happening with
      | clientRead read => cases hstep
      | upstreamRead | readTimeout | drainTimeout | canceled =>
        simp only [State.step] at hstep
        split at hstep
        · next u hturn => exact ⟨u, hturn, hstep⟩
        · cases hstep
    obtain ⟨u, hturn, hsame⟩ := hrelay
    exact relay_sound h hturn (hdirect u hturn) hsame
  | take setup accepts =>
    simp only [State.step] at hstep
    split at hstep
    · next u read hidle hread =>
      cases hstep
      exact take_sound h hidle hread (hdirect read hread) setup accepts
    · cases hstep
  | leave =>
    cases hstep
    exact h.leave

/-- A create that came during a turn is turned down for it. -/
def Timely (s : State) : Prop :=
  ∀ read, Waits s read ∨ read ∈ s.started → read.arrivedInTurn = true → read.admittedInTurn = true

/-- What the loop does with a frame: it may begin a turn with it. -/
lemma take_timely {u : Turn} {read : Read} (h : Timely s) (hread : s.clientReads = some read) (setup : Setup)
    (accepts : ℕ → Bool) : Timely (({ s with clientReads := none } : State).take json u read setup accepts) := by
  have hkeep : ∀ phase : Phase, Timely { s with clientReads := none, phase := phase } := by
    rintro phase next ((hsending | hnext) | hstarted)
    · exact h next (Or.inl (Or.inl hsending))
    · cases hnext
    · exact h next (Or.inr hstarted)
  unfold State.take
  split
  · exact hkeep _
  · next frame hframe =>
    split_ifs with hnew hoverlapping
    · exact hkeep _
    · rintro next ((hsending | hnext) | hstarted)
      · exact h next (Or.inl (Or.inl hsending))
      · cases hnext
      · rcases List.mem_append.mp hstarted with hold | hnew
        · exact h next (Or.inr hold)
        · rw [List.mem_singleton.mp hnew]
          exact h read (Or.inl (Or.inr hread))
    · obtain ⟨upstream, ok⟩ := u.upstream.write accepts frame
      dsimp only
      split_ifs
      · exact hkeep _
      · exact hkeep _

lemma settle_kept (s : State) (setup : Setup) (flow : Flow) :
    (s.settle setup flow).reader = s.reader ∧ (s.settle setup flow).clientReads = s.clientReads ∧
      (s.settle setup flow).started = s.started := by
  have hnext : ∀ u : Turn, (s.next setup u).reader = s.reader ∧ (s.next setup u).clientReads = s.clientReads ∧
      (s.next setup u).started = s.started := by
    intro u
    unfold State.next
    split_ifs
    · exact ⟨rfl, rfl, rfl⟩
    · exact ⟨rfl, rfl, rfl⟩
  unfold State.settle
  split
  · exact ⟨rfl, rfl, rfl⟩
  · exact hnext _
  · exact hnext _
  · exact ⟨rfl, rfl, rfl⟩
  · exact ⟨rfl, rfl, rfl⟩
  · exact ⟨rfl, rfl, rfl⟩

lemma relay_timely {happening : Happening} {setup : Setup} {u : Turn} (h : Timely s)
    (hrelay : s.relay json toLower o u happening setup = some t) : Timely t := by
  obtain ⟨flow, -, rfl⟩ := Option.map_eq_some_iff.mp hrelay
  obtain ⟨hreader, hreads, hstarted⟩ := settle_kept
    { s with inFlight := s.inFlight && !terminalWritten json toLower o u happening } setup flow
  unfold Timely Waits
  rw [hreader, hreads, hstarted]
  exact h

lemma step_timely (h : Timely s) (hprompt : Prompt s a) (hstep : s.step json toLower o a = some t) : Timely t := by
  cases a with
  | read read =>
    simp only [State.step] at hstep
    split at hstep
    · cases hstep
      rintro next ((hsending | hnext) | hstarted)
      · dsimp only at hsending
        split_ifs at hsending
        cases hsending
        exact id
      · exact h next (Or.inl (Or.inr hnext))
      · exact h next (Or.inr hstarted)
    · cases hstep
  | beginResponseCreate =>
    simp only [State.step] at hstep
    split at hstep
    · next read hreader =>
      cases hstep
      rintro next ((hsending | hnext) | hstarted)
      · cases hsending
        exact hprompt read hreader
      · exact h next (Or.inl (Or.inr hnext))
      · exact h next (Or.inr hstarted)
    · cases hstep
  | send =>
    simp only [State.step] at hstep
    split at hstep
    · next read hreader hempty =>
      cases hstep
      rintro next ((hsending | hnext) | hstarted)
      · dsimp only at hsending
        split_ifs at hsending
      · cases hnext
        exact h read (Or.inl (Or.inl hreader))
      · exact h next (Or.inr hstarted)
    · cases hstep
  | relayClient setup =>
    simp only [State.step] at hstep
    split at hstep
    · refine relay_timely ?_ hstep
      rintro next ((hsending | hnext) | hstarted)
      · exact h next (Or.inl (Or.inl hsending))
      · cases hnext
      · exact h next (Or.inr hstarted)
    · cases hstep
  | relay happening setup =>
    cases happening with
    | clientRead read => cases hstep
    | upstreamRead | readTimeout | drainTimeout | canceled =>
      simp only [State.step] at hstep
      split at hstep
      · exact relay_timely h hstep
      · cases hstep
  | take setup accepts =>
    simp only [State.step] at hstep
    split at hstep
    · next u read _ hread =>
      cases hstep
      exact take_timely h hread setup accepts
    · cases hstep
  | leave =>
    cases hstep
    exact h

/-- In every run in which no turn begins with a create that was queued in another, the flag is set while a turn is active,
one turn at most is, and a create that the loop begins a turn with was admitted between two turns; it has come there as
well if the reader is prompt. -/
theorem direct_turns_in_flight (json : FrameJson) (toLower : String → String) (o : Outside) (sessionModel : String)
    (setup : Setup) (actions : List Action) (s : State)
    (h : Transaction.Run (fun s a t => Direct json toLower o s a ∧ s.step json toLower o a = some t)
      (State.initial sessionModel setup) actions s) :
    (s.active = true → s.inFlight = true) ∧ s.begun ≤ s.finished + 1 ∧
      (∀ read ∈ s.started, read.admittedInTurn = false) ∧
      (Transaction.Run (fun s a t => Prompt s a ∧ s.step json toLower o a = some t) (State.initial sessionModel setup) actions s →
        ∀ read ∈ s.started, read.arrivedInTurn = false) := by
  have hsound : Sound json s :=
    h.invariant (initial_sound sessionModel setup) fun u a v hu hstep => step_sound hu hstep.1 hstep.2
  refine ⟨hsound.running, hsound.begun_le, hsound.started, fun hrun read hread => ?_⟩
  have htimely : Timely s := by
    refine hrun.invariant ?_ fun u a v hu hstep => step_timely hu hstep.1 hstep.2
    rintro next ((hsending | hnext) | hstarted)
    · cases hsending
    · cases hnext
    · cases hstarted
  by_contra harrived
  rw [Bool.not_eq_false] at harrived
  have hadmitted := htimely read (Or.inr hread) harrived
  rw [hsound.started read hread] at hadmitted
  cases hadmitted

end Safety

section Example

def create : Bytes := bytes "\x7b\"type\":\"response.create\"\x7d"

def accepted : Bytes := bytes "\x7b\"type\":\"response.steer.accepted\"\x7d"

def steered : Bytes :=
  bytes "\x7b\"type\":\"response.incomplete\",\"response\":\x7b\"incomplete_details\":\x7b\"reason\":\"steered\"\x7d\x7d\x7d"

def steerPending : Bytes := bytes "\x7b\"type\":\"response.steer.pending\"\x7d"

def completed : Bytes := bytes "\x7b\"type\":\"response.completed\"\x7d"

def sampleType (x : Bytes) : Option String :=
  if x = create then some "response.create"
  else if x = accepted then some "response.steer.accepted"
  else if x = steered then some "response.incomplete"
  else if x = steerPending then some "response.steer.pending"
  else if x = completed then some "response.completed"
  else none

/-- `encoding/json` as it is on the five frames. -/
def sampleJson : FrameJson where
  type := sampleType
  sessionModel x := (sampleType x).map fun type => (type, "")
  session x := (sampleType x).map fun type => (type, ∅)
  string _ := none
  event x := (sampleType x).map fun type => ⟨type, "", "", Terminal.zero⟩
  error x := (sampleType x).map fun _ => none
  incompleteReason x := (sampleType x).map fun _ => if x = steered then "steered" else ""
  startsVisibleOutput _ _ := false

def sampleSetup : Setup := ⟨false, ⟨[⟨.text, create⟩], 1⟩⟩

def sampleState : State := State.initial "gpt-5" sampleSetup

def sampleStep (s : State) (a : Action) : Option State := s.step sampleJson String.toLower outside a

def upstreamSends (frame : Bytes) : Action := .relay (.upstreamRead (.inr ⟨.text, frame⟩) false) sampleSetup

/-- The reader passes a create on. -/
def clientCreates : List Action := [.read (.inr ⟨.text, create⟩), .beginResponseCreate, .send]

def checked (guard : State → Action → Bool) (s : State) (actions : List Action) : Option State :=
  actions.foldlM (fun s a => if guard s a then sampleStep s a else none) s

lemma checked_run {guard : State → Action → Bool} {s t : State} {actions : List Action} (h : checked guard s actions = some t) :
    Transaction.Run (fun s a t => guard s a = true ∧ sampleStep s a = some t) s actions t := by
  induction actions generalizing s with
  | nil =>
    cases h
    exact Transaction.Run.nil
  | cons a actions ih =>
    obtain ⟨u, hu, hrest⟩ := Option.bind_eq_some_iff.mp h
    dsimp only at hu
    split_ifs at hu with hguard
    exact Transaction.Run.cons ⟨hguard, hu⟩ (ih hrest)

/-- A check of both conditions. -/
def plain (s : State) : Action → Bool
  | .relay happening _ =>
    match s.phase with
    | .turn t => t.result.nextFrame = [] || !terminalWritten sampleJson String.toLower outside t happening
    | _ => true
  | .take _ _ =>
    match s.clientReads with
    | some read => !read.duringTurn
    | none => true
  | .beginResponseCreate =>
    match s.reader with
    | .locking read => !read.arrivedInTurn
    | _ => true
  | _ => true

lemma plain_conditions {s : State} {a : Action} (h : plain s a = true) :
    Direct sampleJson String.toLower outside s a ∧ Prompt s a := by
  cases a with
  | relay happening setup =>
    refine ⟨fun t hturn hwritten => ?_, trivial⟩
    simp only [plain, hturn, hwritten, Bool.not_true, Bool.or_false, decide_eq_true_eq] at h
    exact h
  | take setup accepts =>
    refine ⟨fun read hread _ => ?_, trivial⟩
    simp only [plain, hread, Bool.not_eq_true'] at h
    exact h
  | beginResponseCreate =>
    refine ⟨trivial, fun read hreader harrived => ?_⟩
    simp only [plain, hreader, harrived, Bool.not_true, Bool.false_eq_true] at h
  | read | send | relayClient | leave => exact ⟨trivial, trivial⟩

def twoTurns : List Action := upstreamSends completed :: (clientCreates ++ [.take sampleSetup fun _ => true])

/-- A second turn that begins after the first is in flight. -/
theorem direct_turns_in_flight_two :
    ∃ s, Transaction.Run (fun s a t => Direct sampleJson String.toLower outside s a ∧ sampleStep s a = some t) sampleState
      twoTurns s ∧ s.begun = 2 ∧ s.active = true ∧ s.inFlight = true ∧ s.started.length = 1 ∧
        ∀ read ∈ s.started, read.arrivedInTurn = false := by
  have hdone : (checked plain sampleState twoTurns).map (fun s => (s.begun, s.active, s.started.length)) = some (2, true, 1) := by
    decide
  obtain ⟨s, hchecked, hseen⟩ := Option.map_eq_some_iff.mp hdone
  obtain ⟨hbegun, hactive, hstarted⟩ : s.begun = 2 ∧ s.active = true ∧ s.started.length = 1 := by simpa using hseen
  have hrun := checked_run hchecked
  have hdirect : Transaction.Run (fun s a t => Direct sampleJson String.toLower outside s a ∧ sampleStep s a = some t)
      sampleState twoTurns s := hrun.mono fun u a v h => ⟨(plain_conditions h.1).1, h.2⟩
  have hprompt : Transaction.Run (fun s a t => Prompt s a ∧ sampleStep s a = some t) sampleState twoTurns s :=
    hrun.mono fun u a v h => ⟨(plain_conditions h.1).2, h.2⟩
  obtain ⟨hflag, -, -, harrived⟩ :=
    direct_turns_in_flight sampleJson String.toLower outside "gpt-5" sampleSetup twoTurns s hdirect
  exact ⟨s, hdirect, hbegun, hactive, hflag hactive, hstarted, harrived hprompt⟩

/-- The first turn is steered and ends with a create queued in it. -/
def steeredActions : List Action :=
  upstreamSends accepted :: (clientCreates ++ [.relayClient sampleSetup, upstreamSends steered, upstreamSends steerPending])

/-- Another create comes in the second turn, which is not steered, and is taken after it. -/
def lateActions : List Action := clientCreates ++ [upstreamSends completed, .take sampleSetup fun _ => true]

/-- A turn that begins with a queued create is not in flight, and a create that comes in it begins the turn after it. -/
theorem queued_turn_not_in_flight :
    ∃ s t, Transaction.Run (fun s a t => sampleStep s a = some t) sampleState steeredActions s ∧ s.active = true ∧
      s.inFlight = false ∧ Transaction.Run (fun s a t => sampleStep s a = some t) s lateActions t ∧
        ∃ read ∈ t.started, read.arrivedInTurn = true ∧ read.admittedInTurn = true ∧ read.duringTurn = false := by
  have hdone : ((checked (fun _ _ => true) sampleState steeredActions).bind fun s =>
      (checked (fun _ _ => true) s lateActions).map fun t => (s.active, s.inFlight, t.started.map fun read =>
        (read.arrivedInTurn, read.admittedInTurn, read.duringTurn))) = some (true, false, [(true, true, false)]) := by
    decide
  obtain ⟨s, hsteered, hlate⟩ := Option.bind_eq_some_iff.mp hdone
  obtain ⟨t, hchecked, hseen⟩ := Option.map_eq_some_iff.mp hlate
  obtain ⟨hactive, hflag, hstarted⟩ : s.active = true ∧ s.inFlight = false ∧
      t.started.map (fun read => (read.arrivedInTurn, read.admittedInTurn, read.duringTurn)) = [(true, true, false)] := by
    simpa only [Prod.mk.injEq] using hseen
  have hread : (true, true, false) ∈
      t.started.map fun read => (read.arrivedInTurn, read.admittedInTurn, read.duringTurn) := by
    rw [hstarted]
    exact List.mem_singleton_self _
  obtain ⟨read, hmem, hsame⟩ := List.mem_map.mp hread
  simp only [Prod.mk.injEq] at hsame
  exact ⟨s, t, (checked_run hsteered).mono fun _ _ _ h => h.2, hactive, hflag,
    (checked_run hchecked).mono fun _ _ _ h => h.2, read, hmem, hsame⟩

end Example

end ShareSub.TurnLifecycle

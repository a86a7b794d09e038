import Mathlib
import ShareSub.RelayModel

/-!
# What a relay does with a line

Of the variables of the relay only five decide what the client gets: the client itself, whether the output has started,
whether the client is gone, the pending lines, and whether the relay has panicked. Every line is kept, released with the pending ones, or written; the
other variables only choose between these.
-/
namespace ShareSub.RelayCore

open SseModel RelayModel

structure Core where
  dst : ResponseWriter
  started : Bool
  disconnected : Bool
  pending : Bytes
  panicked : Bool

def core (s : Relay) : Core := ⟨s.dst, s.clientOutputStarted, s.clientDisconnected, s.pending, s.panicked⟩

variable {json : Json} {toLower : String → String} {o : Outside} {src : Response} {pendingLimit : ℤ} {s s' : Relay}
  {line : Bytes}

section Operations

def Core.write (o : Outside) (c : Core) : Option Bytes → Core
  | none => { c with panicked := true }
  | some data =>
    if c.panicked || c.disconnected || data = [] then c
    else { c with dst := c.dst.write data, disconnected := !o.accepts c.dst.writes.length }

def Core.start (json : Json) (toLower : String → String) (o : Outside) (src : Response) (c : Core) : Core :=
  if c.started then c
  else
    { Core.write o { c with started := true, dst := (startHeader src c.dst).writeHeader src.statusCode }
        (sanitizeCapacityShedSSEForClient json toLower c.pending) with pending := [] }

def Core.append (c : Core) (line : Bytes) : Core := { c with pending := c.pending ++ line }

lemma core_writeClient (o : Outside) (s : Relay) (data : Option Bytes) :
    core (s.writeClient o data).1 = (core s).write o data := by
  cases data with
  | none => rfl
  | some data =>
    unfold Relay.writeClient Core.write
    dsimp only
    by_cases hskip : (s.panicked || s.clientDisconnected || decide (data = [])) = true
    · rw [if_pos hskip, if_pos (show ((core s).panicked || (core s).disconnected || decide (data = [])) = true from hskip)]
    · rw [if_neg hskip,
        if_neg (show ¬ ((core s).panicked || (core s).disconnected || decide (data = [])) = true from hskip)]
      have hpresent : s.clientDisconnected = false := by
        simp only [Bool.or_eq_true, not_or, Bool.not_eq_true] at hskip
        exact hskip.1.2
      split_ifs with haccepts
      · simp [core, haccepts, hpresent]
      · simp [core, haccepts]

lemma core_appendPending (s : Relay) (line : Bytes) : core (s.appendPending line) = (core s).append line := rfl

lemma core_startClientOutput (s : Relay) :
    core (s.startClientOutput json toLower o src) = (core s).start json toLower o src := by
  unfold Relay.startClientOutput Core.start
  by_cases hstarted : s.clientOutputStarted = true
  · rw [if_pos hstarted, if_pos (show (core s).started = true from hstarted)]
  · rw [if_neg hstarted, if_neg (show ¬ (core s).started = true from hstarted)]
    have hwrite := core_writeClient o
      { s with clientOutputStarted := true, dst := (startHeader src s.dst).writeHeader src.statusCode }
      (sanitizeCapacityShedSSEForClient json toLower s.pending)
    simp only [core, Core.mk.injEq] at hwrite ⊢
    exact ⟨congrArg Core.dst hwrite, congrArg Core.started hwrite, congrArg Core.disconnected hwrite, trivial,
      congrArg Core.panicked hwrite⟩

end Operations

section Lines

/-- What becomes of a line that does not end the relay. -/
inductive Takes (json : Json) (toLower : String → String) (o : Outside) (src : Response) (line : Bytes) (c : Core) :
    Core → Prop
  | kept (hwaiting : c.started = false) : Takes json toLower o src line c (c.append line)
  | released (hwaiting : c.started = false) :
      Takes json toLower o src line c ((c.append line).start json toLower o src)
  | overflowed (hwaiting : c.started = false) :
      Takes json toLower o src line c
        ((c.start json toLower o src).write o (sanitizeCapacityShedSSELineForClient json toLower line))
  | written (hstarted : c.started = true) :
      Takes json toLower o src line c (c.write o (sanitizeCapacityShedSSELineForClient json toLower line))

lemma started_write (c : Core) (data : Option Bytes) : (c.write o data).started = c.started := by
  unfold Core.write
  split
  · rfl
  · split_ifs <;> rfl

lemma started_start (c : Core) : (c.start json toLower o src).started = true := by
  unfold Core.start
  split_ifs with h
  · exact h
  · rw [started_write]

lemma core_noteUsage (json : Json) (s : Relay) (line : Bytes) : core (s.noteUsage json line) = core s := by
  unfold Relay.noteUsage
  split <;> rfl

lemma core_noteError (s : Relay) (line : Bytes) : core (s.noteError json line) = core s := by
  unfold Relay.noteError
  split <;> rfl

/-- The first part of the loop's body releases the pending lines, if it does anything to the client. -/
lemma core_inspect (s : Relay) (line : Bytes) :
    core (s.inspect json toLower o src pendingLimit line) = core s ∨
      (core s).started = false ∧
        core (s.inspect json toLower o src pendingLimit line) = (core s).start json toLower o src := by
  have hnoted := core_noteUsage json s line
  unfold Relay.inspect
  rw [core_noteError, Relay.overflow]
  split_ifs with hlimit
  · right
    simp only [Bool.and_eq_true, Bool.not_eq_true'] at hlimit
    refine ⟨?_, by rw [core_startClientOutput, hnoted]⟩
    rw [← hnoted]
    exact hlimit.1
  · exact .inl hnoted

lemma core_relay (json : Json) (toLower : String → String) (o : Outside) (src : Response) (s : Relay) (line : Bytes) (terminalEvent : Bool) :
    (core s).started = false ∧
        (core (s.relay json toLower o src line terminalEvent) = (core s).append line ∨
          core (s.relay json toLower o src line terminalEvent) =
            ((core s).append line).start json toLower o src) ∨
      (core s).started = true ∧ core (s.relay json toLower o src line terminalEvent) =
        (core s).write o (sanitizeCapacityShedSSELineForClient json toLower line) := by
  unfold Relay.relay
  cases hstarted : s.clientOutputStarted with
  | false =>
    refine .inl ⟨hstarted, ?_⟩
    simp only [Bool.not_false, if_true]
    split_ifs
    · exact .inr (core_startClientOutput _)
    · exact .inl rfl
  | true =>
    refine .inr ⟨hstarted, ?_⟩
    simp only [Bool.not_true, Bool.false_eq_true, if_false]
    rw [← core_writeClient]
    rfl

/-- The relay of a line after the first part of the body. -/
lemma takes_relay {t : Relay} {terminalEvent : Bool}
    (h : core t = core s ∨ (core s).started = false ∧ core t = (core s).start json toLower o src) :
    Takes json toLower o src line (core s) (core (t.relay json toLower o src line terminalEvent)) := by
  have hrelay := core_relay json toLower o src t line terminalEvent
  rcases h with h | ⟨hwaiting, h⟩
  · rw [h] at hrelay
    rcases hrelay with ⟨hwaiting, heq | heq⟩ | ⟨hstarted, heq⟩
    · rw [heq]
      exact .kept hwaiting
    · rw [heq]
      exact .released hwaiting
    · rw [heq]
      exact .written hstarted
  · rw [h] at hrelay
    rcases hrelay with ⟨hfalse, -⟩ | ⟨-, heq⟩
    · rw [started_start] at hfalse
      cases hfalse
    · rw [heq]
      exact .overflowed hwaiting

/-- The relay after the first part of the body, once the line is known to hold a terminal event. -/
def Relay.seen (s : Relay) : Relay :=
  { s with terminalSeen := true, pendingTerminal := s.pendingTerminal || !s.clientOutputStarted }

/-- As long as the output waits, the first part of the body has not touched the client. -/
lemma core_inspect_waiting (h : (s.inspect json toLower o src pendingLimit line).clientOutputStarted = false) :
    (core s).started = false ∧ core (s.inspect json toLower o src pendingLimit line) = core s := by
  have hinspect : core (s.inspect json toLower o src pendingLimit line) = core s ∨ _ := core_inspect s line
  rcases hinspect with heq | ⟨-, heq⟩
  · refine ⟨?_, heq⟩
    rw [← heq]
    exact h
  · have hstarted : (core (s.inspect json toLower o src pendingLimit line)).started = true := by
      rw [heq, started_start]
    simp only [core, h] at hstarted
    cases hstarted

lemma line_go (h : s.line json toLower o src pendingLimit line = .go s') :
    Takes json toLower o src line (core s) (core s') := by
  have hinspect : core (s.inspect json toLower o src pendingLimit line) = core s ∨ _ := core_inspect s line
  unfold Relay.line at h
  dsimp only at h
  split at h
  · cases h
    exact takes_relay hinspect
  · split_ifs at h with hempty hfailed hretry
    · cases h
      obtain ⟨hwaiting, hsame⟩ := core_inspect_waiting (by simpa using hfailed.2)
      have hreleased : Takes json toLower o src line (core s) _ := .released hwaiting
      rw [core_startClientOutput, core_appendPending]
      rw [← hsame] at hreleased ⊢
      exact hreleased
    · cases h
      have htakes : Takes json toLower o src line (core s) (core
          ((Relay.seen (s.inspect json toLower o src pendingLimit line)).relay json toLower o src line true)) :=
        takes_relay hinspect
      exact htakes

/-- A line that ends the relay hands the pending lines over, with itself at their end. -/
lemma line_done {error : Option CopyError} (h : s.line json toLower o src pendingLimit line = .done s' error) :
    (core s).started = false ∧ core s' = (core s).append line ∧
      ∃ status transient, error = some (.failover ⟨status, (core s').pending, [], transient⟩) := by
  unfold Relay.line at h
  dsimp only at h
  split at h
  · cases h
  · split_ifs at h with hempty hfailed hretry
    · cases h
      obtain ⟨hwaiting, hsame⟩ := core_inspect_waiting (by simpa using hempty.2.1)
      refine ⟨hwaiting, ?_, 502, false, rfl⟩
      rw [core_appendPending, ← hsame]
      rfl
    · cases h
      obtain ⟨hwaiting, hsame⟩ := core_inspect_waiting (by simpa using hfailed.2)
      refine ⟨hwaiting, ?_, _, _, rfl⟩
      rw [core_appendPending, ← hsame]
      rfl

lemma read_go (h : s.read json toLower o src pendingLimit line = .go s') :
    line = [] ∧ s' = s ∨
      line ≠ [] ∧ Takes json toLower o src line (core s) (core s') ∧ (core s').panicked = false := by
  unfold Relay.read at h
  by_cases hempty : line = []
  · rw [if_pos hempty] at h
    cases h
    exact .inl ⟨hempty, rfl⟩
  · rw [if_neg hempty] at h
    right
    cases hline : s.line json toLower o src pendingLimit line with
    | done t error => simp [hline] at h
    | go t =>
      simp only [hline] at h
      split_ifs at h with hpanicked
      cases h
      exact ⟨hempty, line_go hline, by simpa [core] using hpanicked⟩

/-- A read ends the relay by a panic, or it hands the pending lines over. -/
lemma read_done {error : Option CopyError} (h : s.read json toLower o src pendingLimit line = .done s' error) :
    error = some .panicked ∧ Takes json toLower o src line (core s) (core s') ∧ (core s').panicked = true ∨
      (core s).started = false ∧ core s' = (core s).append line ∧
        ∃ status transient, error = some (.failover ⟨status, (core s').pending, [], transient⟩) := by
  unfold Relay.read at h
  by_cases hempty : line = []
  · rw [if_pos hempty] at h
    cases h
  · rw [if_neg hempty] at h
    cases hline : s.line json toLower o src pendingLimit line with
    | done t result =>
      simp only [hline] at h
      cases h
      exact .inr (line_done hline)
    | go t =>
      simp only [hline] at h
      split_ifs at h with hpanicked
      cases h
      exact .inl ⟨rfl, line_go hline, hpanicked⟩

/-- The loop at one read. -/
inductive Reads (json : Json) (toLower : String → String) (o : Outside) (src : Response) (pendingLimit : ℤ)
    (line : Bytes) (error : Option ReadError) (reads : List (Bytes × Option ReadError)) (n : ℕ) (s : Relay) :
    Relay × Option CopyError → Prop
  | late (hwaiting : (core s).started = false) :
      Reads json toLower o src pendingLimit line error reads n s (s, some (.failover ⟨504, s.pending, [], false⟩))
  | handedOver {s' : Relay} {result : Option CopyError}
      (hread : s.read json toLower o src pendingLimit line = .done s' result) :
      Reads json toLower o src pendingLimit line error reads n s (s', result)
  | next {s' : Relay} (herror : error = none) (hread : s.read json toLower o src pendingLimit line = .go s') :
      Reads json toLower o src pendingLimit line error reads n s
        (Relay.loop json toLower o src pendingLimit reads (n + 1) s')
  | ended {s' : Relay} {cause : ReadError} (herror : error = some cause)
      (hread : s.read json toLower o src pendingLimit line = .go s') :
      Reads json toLower o src pendingLimit line error reads n s (s'.finish json toLower o src cause)

lemma loop_reads (line : Bytes) (error : Option ReadError) (reads : List (Bytes × Option ReadError)) (n : ℕ)
    (s : Relay) :
    Reads json toLower o src pendingLimit line error reads n s
      (Relay.loop json toLower o src pendingLimit ((line, error) :: reads) n s) := by
  unfold Relay.loop
  by_cases hlate : (!s.clientOutputStarted && o.late n) = true
  · rw [if_pos hlate]
    simp only [Bool.and_eq_true, Bool.not_eq_true'] at hlate
    exact .late hlate.1
  · rw [if_neg hlate]
    cases hread : s.read json toLower o src pendingLimit line with
    | done s' result => exact .handedOver hread
    | go s' =>
      cases error with
      | none => exact .next rfl hread
      | some cause => exact .ended rfl hread

end Lines

section Endings

variable {error : ReadError}

/-- No terminal event was seen on a stream that began with success. -/
def Relay.cutShort (src : Response) (s : Relay) : Bool := successfulStatus src.statusCode && !s.terminalSeen

/-- The failed event is appended for a client that is still there. -/
def Core.synthesize (o : Outside) (src : Response) (c : Core) (message : String) : Core :=
  if c.panicked || c.disconnected then c
  else { c with dst := writeResponsesFailedSSE c.dst src.header o.seed message }

lemma core_synthesize (s : Relay) (message : String) :
    core (s.synthesize o src message) = (core s).synthesize o src message := by
  unfold Relay.synthesize Core.synthesize
  by_cases hgone : (s.panicked || s.clientDisconnected) = true
  · rw [if_pos hgone, if_pos (show ((core s).panicked || (core s).disconnected) = true from hgone)]
  · rw [if_neg hgone, if_neg (show ¬ ((core s).panicked || (core s).disconnected) = true from hgone)]
    have hdst : (core s).dst = s.dst := rfl
    rw [hdst]
    generalize writeResponsesFailedSSE s.dst src.header o.seed message = written
    rfl

/-- How the relay ends with the error of a read. -/
inductive Ends (json : Json) (toLower : String → String) (o : Outside) (src : Response) (s : Relay)
    (error : ReadError) : Core → Option CopyError → Prop
  | failover (hwaiting : (core s).started = false) (hcut : Relay.cutShort src s = true)
      (herror : s.topLevelError.isSome) (hretry : (retryableTerminalFailure toLower s.terminal).2 = true) :
      Ends json toLower o src s error (core s) (some (s.failover toLower))
  | afterError (hcut : Relay.cutShort src s = true) (herror : s.topLevelError.isSome)
      (hkept : (core s).started = true ∨ (retryableTerminalFailure toLower s.terminal).2 = false) :
      Ends json toLower o src s error ((core s).start json toLower o src) none
  | synthesized (hcut : Relay.cutShort src s = true) (herror : s.topLevelError = none) (message : String)
      (hmessage : message = incompleteMessage ∨ message = "upstream stream read failed") :
      Ends json toLower o src s error (((core s).start json toLower o src).synthesize o src message)
        (some .incompleteStream)
  | completed (hcut : Relay.cutShort src s = false) (heof : error = .eof) :
      Ends json toLower o src s error ((core s).start json toLower o src) none
  | broken (hcut : Relay.cutShort src s = false) (heof : error ≠ .eof) :
      Ends json toLower o src s error (core s) (some .other)

lemma endWithoutTerminal_ends (hcut : Relay.cutShort src s = true) {message : String}
    (hmessage : message = incompleteMessage ∨ message = "upstream stream read failed") :
    Ends json toLower o src s error (core (s.endWithoutTerminal json toLower o src message).1)
      (s.endWithoutTerminal json toLower o src message).2 := by
  unfold Relay.endWithoutTerminal
  by_cases herror : s.topLevelError.isSome = true
  · rw [if_pos herror]
    by_cases hstarted : s.clientOutputStarted = true
    · rw [if_neg (by simp [hstarted])]
      have hends : Ends json toLower o src s error _ none := .afterError hcut herror (.inl hstarted)
      have hstart : (core s).start json toLower o src = core s := if_pos hstarted
      rw [hstart] at hends
      exact hends
    · have hwaiting : s.clientOutputStarted = false := by simpa using hstarted
      rw [if_pos (by simp [hwaiting])]
      by_cases hretry : (retryableTerminalFailure toLower s.terminal).2 = true
      · rw [if_pos hretry]
        exact .failover hwaiting hcut herror hretry
      · rw [if_neg hretry]
        dsimp only
        rw [core_startClientOutput]
        exact .afterError hcut herror (.inr (by simpa using hretry))
  · rw [if_neg herror]
    have hnone : s.topLevelError = none := by simpa using herror
    have hends : Ends json toLower o src s error _ _ := .synthesized hcut hnone message hmessage
    rw [← core_startClientOutput, ← core_synthesize] at hends
    exact hends

lemma conclude_ends (s : Relay) (error : ReadError) :
    Ends json toLower o src s error (core (s.conclude json toLower o src error).1)
      (s.conclude json toLower o src error).2 := by
  unfold Relay.conclude
  split_ifs with heof hcut hcut
  · exact endWithoutTerminal_ends hcut (.inl rfl)
  · rw [core_startClientOutput]
    exact .completed (by simpa [Relay.cutShort] using hcut) heof
  · exact endWithoutTerminal_ends hcut (.inr rfl)
  · exact .broken (by simpa [Relay.cutShort] using hcut) heof

/-- The end of a relay is one of these, or a panic on the way to it. -/
lemma finish_ends (s : Relay) (error : ReadError) :
    ∃ result, Ends json toLower o src s error (core (s.finish json toLower o src error).1) result ∧
      ((core (s.finish json toLower o src error).1).panicked = false ∧ (s.finish json toLower o src error).2 = result ∨
        (core (s.finish json toLower o src error).1).panicked = true ∧
          (s.finish json toLower o src error).2 = some .panicked) := by
  have hends : Ends json toLower o src s error _ _ := conclude_ends s error
  refine ⟨(s.conclude json toLower o src error).2, ?_, ?_⟩
  · unfold Relay.finish
    dsimp only
    split_ifs
    · exact hends
    · exact hends
  · unfold Relay.finish
    dsimp only
    split_ifs with hpanicked
    · exact .inr ⟨hpanicked, rfl⟩
    · exact .inl ⟨by simpa [core] using hpanicked, rfl⟩

end Endings

end ShareSub.RelayCore

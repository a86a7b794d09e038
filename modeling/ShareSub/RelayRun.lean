import Mathlib
import ShareSub.RelayCore

/-!
# A run of the relay

The lines of a body, what a client that accepts every write has received of them after each read, and what decides
whether they still wait. From the step on one line follows how a whole run ends.
-/
namespace ShareSub.RelayRun

open SseModel RelayModel RelayCore

variable {json : Json} {toLower : String → String}

section Lines

/-- A line with its newline. -/
def Complete (line : Bytes) : Prop := ∃ text, line = text ++ [newline] ∧ newline ∉ text

lemma splitAfterNewline_complete {line : Bytes} (h : Complete line) (body : Bytes) :
    splitAfterNewline (line ++ body) = line :: splitAfterNewline body := by
  obtain ⟨text, rfl, htext⟩ := h
  induction text with
  | nil => simp [splitAfterNewline]
  | cons b text ih =>
    simp only [List.mem_cons, not_or] at htext
    have hb : b ≠ newline := fun heq => htext.1 heq.symm
    rw [List.cons_append, List.cons_append, splitAfterNewline, if_neg hb, ih htext.2]

lemma splitAfterNewline_flatten {lines : List Bytes} (h : ∀ line ∈ lines, Complete line) (body : Bytes) :
    splitAfterNewline (lines.flatten ++ body) = lines ++ splitAfterNewline body := by
  induction lines with
  | nil => rfl
  | cons line lines ih =>
    rw [List.flatten_cons, List.append_assoc, splitAfterNewline_complete (h line (by simp)),
      ih fun l hl => h l (by simp [hl]), List.cons_append]

lemma splitAfterNewline_of_not_mem {line : Bytes} (h : newline ∉ line) : splitAfterNewline line = [line] := by
  induction line with
  | nil => rfl
  | cons b line ih =>
    simp only [List.mem_cons, not_or] at h
    rw [splitAfterNewline, if_neg fun heq => h.1 heq.symm, ih h.2]

/-- Every line but the last is complete. -/
lemma splitAfterNewline_init (body : Bytes) :
    ∃ init last, splitAfterNewline body = init ++ [last] ∧ (∀ line ∈ init, Complete line) ∧ newline ∉ last := by
  induction body with
  | nil => exact ⟨[], [], rfl, by simp, by simp⟩
  | cons b body ih =>
    obtain ⟨init, last, hsplit, hinit, hlast⟩ := ih
    unfold splitAfterNewline
    split_ifs with hb
    · refine ⟨[b] :: init, last, by rw [hsplit]; rfl, ?_, hlast⟩
      intro line hline
      rcases List.mem_cons.1 hline with rfl | hline
      · exact ⟨[], by rw [hb]; rfl, by simp⟩
      · exact hinit line hline
    · rw [hsplit]
      cases init with
      | nil =>
        refine ⟨[], b :: last, rfl, by simp, ?_⟩
        simp only [List.mem_cons, not_or]
        exact ⟨fun heq => hb heq.symm, hlast⟩
      | cons line init =>
        refine ⟨(b :: line) :: init, last, rfl, ?_, hlast⟩
        intro l hl
        rcases List.mem_cons.1 hl with rfl | hl
        · obtain ⟨text, rfl, htext⟩ := hinit line (by simp)
          refine ⟨b :: text, rfl, ?_⟩
          simp only [List.mem_cons, not_or]
          exact ⟨fun heq => hb heq.symm, htext⟩
        · exact hinit l (by simp [hl])

lemma flatten_splitAfterNewline (body : Bytes) : (splitAfterNewline body).flatten = body := by
  induction body with
  | nil => rfl
  | cons b body ih =>
    unfold splitAfterNewline
    split_ifs
    · simp [ih]
    · split
      · rename_i heq
        exact absurd heq (splitAfterNewline_ne_nil body)
      · rename_i line lines heq
        rw [heq] at ih
        simpa using ih

end Lines

section Rewriting

/-- Lines rewritten one by one. -/
def rewritten (json : Json) (toLower : String → String) (lines : List Bytes) : Option Bytes :=
  (lines.mapM (sanitizeCapacityShedSSELineForClient json toLower)).map List.flatten

lemma rewritten_cons (line : Bytes) (lines : List Bytes) :
    rewritten json toLower (line :: lines) =
      (sanitizeCapacityShedSSELineForClient json toLower line).bind fun text =>
        (rewritten json toLower lines).map fun rest => text ++ rest := by
  unfold rewritten
  rw [List.mapM_cons]
  cases sanitizeCapacityShedSSELineForClient json toLower line with
  | none => rfl
  | some text => cases lines.mapM (sanitizeCapacityShedSSELineForClient json toLower) <;> rfl

lemma rewritten_append (xs ys : List Bytes) :
    rewritten json toLower (xs ++ ys) =
      (rewritten json toLower xs).bind fun text => (rewritten json toLower ys).map fun rest => text ++ rest := by
  induction xs with
  | nil =>
    rw [List.nil_append, show rewritten json toLower [] = some [] from rfl]
    cases rewritten json toLower ys <;> rfl
  | cons x xs ih =>
    rw [List.cons_append, rewritten_cons, rewritten_cons, ih]
    cases sanitizeCapacityShedSSELineForClient json toLower x with
    | none => rfl
    | some text =>
      cases rewritten json toLower xs with
      | none => rfl
      | some rest => cases rewritten json toLower ys <;> simp

lemma sanitize_nil : sanitizeCapacityShedSSELineForClient json toLower [] = some [] := rfl

lemma rewritten_singleton (line : Bytes) :
    rewritten json toLower [line] = sanitizeCapacityShedSSELineForClient json toLower line := by
  rw [rewritten_cons, show rewritten json toLower [] = some [] from rfl]
  cases sanitizeCapacityShedSSELineForClient json toLower line <;> simp

/-- The pending lines are rewritten as a whole, with the same result as one by one. -/
lemma sanitize_flatten {body : Bytes} {done rest : List Bytes} (h : done ++ rest = splitAfterNewline body) :
    sanitizeCapacityShedSSEForClient json toLower done.flatten = rewritten json toLower done := by
  obtain ⟨init, last, hsplit, hinit, -⟩ := splitAfterNewline_init body
  rcases rest.eq_nil_or_concat with rfl | ⟨rest, final, rfl⟩
  · rw [List.append_nil] at h
    rw [h, flatten_splitAfterNewline]
    rfl
  · -- `done` is a part of the lines before the last one
    have hdone : ∀ line ∈ done, Complete line := by
      intro line hline
      rw [hsplit, List.concat_eq_append, ← List.append_assoc] at h
      have heq := List.append_inj_left' h rfl
      exact hinit line (heq ▸ List.mem_append_left _ hline)
    have hlines := splitAfterNewline_flatten hdone []
    rw [List.append_nil] at hlines
    have hwhole : sanitizeCapacityShedSSEForClient json toLower done.flatten =
        rewritten json toLower (done ++ [[]]) := congrArg (rewritten json toLower) hlines
    rw [hwhole, rewritten_append, rewritten_singleton, sanitize_nil]
    cases rewritten json toLower done <;> simp

/-- The rewriting panics on a `response.failed` event whose response is `null`. -/
def Panics (json : Json) (line : Bytes) : Prop :=
  ∃ payload event, ssePayload line = some payload ∧ json.object payload = some event ∧
    json.string (Object.raw event "type") = some "response.failed" ∧ Object.raw event "response" = bytes "null"

lemma sanitizeEvent_eq_none (event : Object) :
    sanitizeEvent json toLower event = none ↔
      json.string (Object.raw event "type") = some "response.failed" ∧ Object.raw event "response" = bytes "null" := by
  unfold sanitizeEvent
  split
  · rename_i heq
    simp [heq]
  · rename_i heq
    simp [heq]
  · rename_i h _ hne
    simp only [reduceCtorEq, false_iff, not_and]
    exact fun heq => absurd heq (by simpa using hne)

lemma sanitize_eq_none (toLower : String → String) (line : Bytes) :
    sanitizeCapacityShedSSELineForClient json toLower line = none ↔ Panics json line := by
  unfold sanitizeCapacityShedSSELineForClient Panics
  cases hpayload : ssePayload line with
  | none => simp
  | some payload =>
    cases hobject : json.object payload with
    | none => simp [hobject]
    | some event => simp [hobject, sanitizeEvent_eq_none]

lemma dropRunes_length (runes : List Bytes) (fuel : ℕ) (s : Bytes) : (dropRunes runes fuel s).length ≤ s.length := by
  induction fuel generalizing s with
  | zero => exact le_rfl
  | succ fuel ih =>
    unfold dropRunes
    split
    · exact (ih _).trans (by simp)
    · exact le_rfl

lemma trimSpace_length (s : Bytes) : (trimSpace s).length ≤ s.length := by
  unfold trimSpace
  dsimp only
  rw [List.length_reverse]
  refine (dropRunes_length _ _ _).trans ?_
  rw [List.length_reverse]
  exact dropRunes_length _ _ _

lemma ssePayload_length {line payload : Bytes} (h : ssePayload line = some payload) :
    payload.length + 5 ≤ line.length := by
  unfold ssePayload at h
  dsimp only at h
  split_ifs at h with hdata
  cases h
  have hle : (bytes "data:").length ≤ (trimSpace line).length := (List.isPrefixOf_iff_prefix.1 hdata).length_le
  have hfive : (bytes "data:").length = 5 := by decide
  have hdrop := trimSpace_length ((trimSpace line).drop 5)
  have htrim := trimSpace_length line
  rw [List.length_drop] at hdrop
  omega

lemma replaceSSEPayload_ne_nil {line payload : Bytes} (replacement : Bytes) (h : payload.length + 5 ≤ line.length) :
    replaceSSEPayload line payload replacement ≠ [] := by
  unfold replaceSSEPayload
  split
  · rintro rfl
    simp at h
  · rename_i start hstart
    intro hempty
    simp only [List.append_eq_nil_iff, List.take_eq_nil_iff, List.drop_eq_nil_iff] at hempty
    obtain ⟨⟨hstart | hline, -⟩, hdrop⟩ := hempty
    · omega
    · simp [hline] at h

/-- No line is rewritten to nothing. -/
lemma sanitize_ne_nil {line text : Bytes} (h : sanitizeCapacityShedSSELineForClient json toLower line = some text)
    (hne : line ≠ []) : text ≠ [] := by
  unfold sanitizeCapacityShedSSELineForClient at h
  cases hpayload : ssePayload line with
  | none =>
    simp only [hpayload, Option.bind_none, Option.some.injEq] at h
    exact h ▸ hne
  | some payload =>
    cases hobject : json.object payload with
    | none =>
      simp only [hpayload, hobject, Option.bind_some, Option.map_none, Option.some.injEq] at h
      exact h ▸ hne
    | some event =>
      simp only [hpayload, hobject, Option.bind_some, Option.map_some, Option.map_eq_some_iff] at h
      obtain ⟨updated, -, rfl⟩ := h
      split
      · exact hne
      · exact replaceSSEPayload_ne_nil _ (ssePayload_length hpayload)

lemma rewritten_eq_nil {lines : List Bytes} (h : rewritten json toLower lines = some []) : lines.flatten = [] := by
  induction lines with
  | nil => rfl
  | cons line lines ih =>
    rw [rewritten_cons] at h
    simp only [Option.bind_eq_some_iff, Option.map_eq_some_iff, List.append_eq_nil_iff] at h
    obtain ⟨text, htext, rest, hrest, rfl, rfl⟩ := h
    have hline : line = [] := by
      by_contra hne
      exact sanitize_ne_nil htext hne rfl
    rw [List.flatten_cons, hline, ih hrest]
    rfl

lemma rewritten_isSome (toLower : String → String) (lines : List Bytes) :
    (rewritten json toLower lines).isSome ↔ ∀ line ∈ lines, ¬ Panics json line := by
  induction lines with
  | nil => simp [rewritten]
  | cons line lines ih =>
    rw [rewritten_cons, List.forall_mem_cons, ← ih, ← sanitize_eq_none toLower]
    cases sanitizeCapacityShedSSELineForClient json toLower line with
    | none => simp
    | some text => cases rewritten json toLower lines <;> simp

end Rewriting

variable {o : Outside} {src : Response} {pendingLimit : ℤ} {dst : ResponseWriter}

section Client

/-- The client has what the lines read so far are to give it, unless they still wait. -/
structure Relayed (json : Json) (toLower : String → String) (dst : ResponseWriter) (done : List Bytes) (c : Core) :
    Prop where
  present : c.disconnected = false
  sound : c.panicked = false
  waiting : c.started = false → c.dst.received = dst.received ∧ c.pending = done.flatten
  started : c.started = true →
    ∃ text, rewritten json toLower done = some text ∧ c.dst.received = dst.received ++ text

/-- The client has what some of the lines are to give it, the first ones. -/
def Holds (json : Json) (toLower : String → String) (dst : ResponseWriter) (lines : List Bytes) (w : ResponseWriter) :
    Prop :=
  ∃ done rest text, done ++ rest = lines ∧ rewritten json toLower done = some text ∧
    w.received = dst.received ++ text

variable {done rest lines : List Bytes} {line : Bytes} {c c' : Core}

lemma holds_nil (lines : List Bytes) {w : ResponseWriter} (h : w.received = dst.received) :
    Holds json toLower dst lines w := ⟨[], lines, [], rfl, rfl, by rw [h, List.append_nil]⟩

lemma Holds.append {w : ResponseWriter} (h : Holds json toLower dst lines w) (more : List Bytes) :
    Holds json toLower dst (lines ++ more) w := by
  obtain ⟨done, rest, text, rfl, htext, hreceived⟩ := h
  exact ⟨done, rest ++ more, text, by simp, htext, hreceived⟩

lemma Relayed.holds (h : Relayed json toLower dst done c) : Holds json toLower dst done c.dst := by
  cases hstarted : c.started with
  | false => exact holds_nil _ (h.waiting hstarted).1
  | true =>
    obtain ⟨text, htext, hreceived⟩ := h.started hstarted
    exact ⟨done, [], text, List.append_nil _, htext, hreceived⟩

lemma received_write (w : ResponseWriter) (data : Bytes) : (w.write data).received = w.received ++ data := by
  simp [ResponseWriter.write, ResponseWriter.received]

/-- A write that the client accepts. -/
lemma write_accepted (haccepts : ∀ n, o.accepts n = true) (hpresent : c.disconnected = false)
    (hsound : c.panicked = false) (data : Bytes) :
    (c.write o (some data)).disconnected = false ∧ (c.write o (some data)).panicked = false ∧
      (c.write o (some data)).dst.received = c.dst.received ++ data := by
  unfold Core.write
  dsimp only
  split_ifs with hskip
  · have hempty : data = [] := by simpa [hpresent, hsound] using hskip
    exact ⟨hpresent, hsound, by rw [hempty, List.append_nil]⟩
  · exact ⟨by simp [haccepts], hsound, received_write _ _⟩

/-- The pending lines are released, or the rewriting of them panics; a client that gets its output already sees nothing
of it. -/
lemma Relayed.start (haccepts : ∀ n, o.accepts n = true) (h : Relayed json toLower dst done c)
    (hwhole : sanitizeCapacityShedSSEForClient json toLower done.flatten = rewritten json toLower done) :
    Relayed json toLower dst done (c.start json toLower o src) ∨
      rewritten json toLower done = none ∧ (c.start json toLower o src).panicked = true ∧
        (c.start json toLower o src).dst.received = dst.received := by
  unfold Core.start
  split_ifs with hstarted
  · exact .inl h
  · obtain ⟨hreceived, hpending⟩ := h.waiting (by simpa using hstarted)
    rw [hpending, hwhole]
    cases htext : rewritten json toLower done with
    | none => exact .inr ⟨rfl, rfl, hreceived⟩
    | some text =>
      obtain ⟨hpresent, hsound, hwritten⟩ := write_accepted haccepts
        (c := { c with
          started := true, dst := (startHeader src c.dst).writeHeader src.statusCode, pending := done.flatten })
        h.present h.sound text
      refine .inl ⟨hpresent, hsound, fun hfalse => ?_, fun _ => ⟨text, htext, hwritten.trans ?_⟩⟩
      · have htrue : (Core.write o { c with
            started := true, dst := (startHeader src c.dst).writeHeader src.statusCode, pending := done.flatten }
            (some text)).started = true := by rw [started_write]
        exact absurd (htrue.symm.trans hfalse) (by simp)
      · rw [← hreceived]
        rfl

/-- A line is handed to a client that gets its output already, or the rewriting of it panics. -/
lemma Relayed.write (haccepts : ∀ n, o.accepts n = true) (h : Relayed json toLower dst done c)
    (hstarted : c.started = true) :
    Relayed json toLower dst (done ++ [line])
        (c.write o (sanitizeCapacityShedSSELineForClient json toLower line)) ∨
      sanitizeCapacityShedSSELineForClient json toLower line = none ∧
        (c.write o (sanitizeCapacityShedSSELineForClient json toLower line)).panicked = true ∧
        (c.write o (sanitizeCapacityShedSSELineForClient json toLower line)).dst = c.dst := by
  obtain ⟨before, hbefore, hreceived⟩ := h.started hstarted
  cases htext : sanitizeCapacityShedSSELineForClient json toLower line with
  | none => exact .inr ⟨rfl, rfl, rfl⟩
  | some text =>
    obtain ⟨hpresent, hsound, hwritten⟩ := write_accepted haccepts h.present h.sound text
    refine .inl ⟨hpresent, hsound, fun hfalse => ?_, fun _ => ⟨before ++ text, ?_, ?_⟩⟩
    · rw [started_write, hstarted] at hfalse
      cases hfalse
    · rw [rewritten_append, hbefore, rewritten_singleton, htext]
      rfl
    · rw [hwritten, hreceived, List.append_assoc]

lemma Relayed.append (h : Relayed json toLower dst done c) (hwaiting : c.started = false) :
    Relayed json toLower dst (done ++ [line]) (c.append line) := by
  obtain ⟨hreceived, hpending⟩ := h.waiting hwaiting
  refine ⟨h.present, h.sound, fun _ => ⟨hreceived, ?_⟩, fun htrue => ?_⟩
  · simp [Core.append, hpending]
  · exact absurd (htrue.symm.trans hwaiting) (by simp)

/-- The synthesized event is appended, if there is an id for it. -/
lemma received_synthesize (h : Relayed json toLower dst done c) (message : String) :
    (∃ requestID, failedRequestID src.header o.seed = some requestID ∧
        (c.synthesize o src message).dst.received = c.dst.received ++ failedEvent requestID message) ∨
      failedRequestID src.header o.seed = none ∧ (c.synthesize o src message).dst.received = c.dst.received := by
  unfold Core.synthesize
  rw [if_neg (by simp [h.present, h.sound])]
  dsimp only
  unfold writeResponsesFailedSSE
  cases failedRequestID src.header o.seed with
  | none => exact .inr ⟨rfl, rfl⟩
  | some requestID => exact .inl ⟨requestID, rfl, received_write _ _⟩

/-- A panic comes from a line, and leaves the client with the lines before. -/
structure Panicked (json : Json) (toLower : String → String) (dst : ResponseWriter) (lines : List Bytes) (c : Core) :
    Prop where
  panicked : c.panicked = true
  line : rewritten json toLower lines = none
  holds : Holds json toLower dst lines c.dst

/-- The step: a line that does not end the relay is kept, released or written, unless there is a panic. -/
lemma Takes.relayed (haccepts : ∀ n, o.accepts n = true) {body : Bytes}
    (hlines : done ++ line :: rest = splitAfterNewline body) (htakes : Takes json toLower o src line c c')
    (h : Relayed json toLower dst done c) :
    Relayed json toLower dst (done ++ [line]) c' ∨ Panicked json toLower dst (done ++ [line]) c' := by
  have hlines' : (done ++ [line]) ++ rest = splitAfterNewline body := by simpa using hlines
  have hnone (hdone : rewritten json toLower done = none) : rewritten json toLower (done ++ [line]) = none := by
    rw [rewritten_append, hdone]
    rfl
  have hnone' (hline : sanitizeCapacityShedSSELineForClient json toLower line = none) :
      rewritten json toLower (done ++ [line]) = none := by
    rw [rewritten_append, rewritten_singleton, hline]
    cases rewritten json toLower done <;> rfl
  cases htakes with
  | kept hwaiting => exact .inl (h.append hwaiting)
  | released hwaiting =>
    rcases (h.append hwaiting).start haccepts (sanitize_flatten hlines') with hstart | ⟨hpanic, hpanicked, hreceived⟩
    · exact .inl hstart
    · exact .inr ⟨hpanicked, hpanic, holds_nil _ hreceived⟩
  | overflowed hwaiting =>
    rcases h.start haccepts (sanitize_flatten hlines) with hstart | ⟨hpanic, hpanicked, hreceived⟩
    · rcases hstart.write haccepts (started_start _) with hwrite | ⟨hpanic, hpanicked, hsame⟩
      · exact .inl hwrite
      · refine .inr ⟨hpanicked, hnone' hpanic, ?_⟩
        rw [hsame]
        exact hstart.holds.append [line]
    · -- after the panic nothing is written
      have hwrite : ∀ data : Option Bytes, ((c.start json toLower o src).write o data).panicked = true ∧
          ((c.start json toLower o src).write o data).dst = (c.start json toLower o src).dst := by
        intro data
        cases data with
        | none => exact ⟨rfl, rfl⟩
        | some data => simp [Core.write, hpanicked]
      refine .inr ⟨(hwrite _).1, hnone hpanic, holds_nil _ ?_⟩
      rw [(hwrite _).2, hreceived]
  | written hstarted =>
    rcases h.write haccepts hstarted with hwrite | ⟨hpanic, hpanicked, hsame⟩
    · exact .inl hwrite
    · refine .inr ⟨hpanicked, hnone' hpanic, ?_⟩
      rw [hsame]
      exact h.holds.append [line]

end Client

section Waiting

/-- The line releases the pending ones by what it holds. -/
def Starts (json : Json) (toLower : String → String) (line : Bytes) : Prop :=
  isClientOutputEvent json toLower line = true ∨ responseEventType json line = some "response.failed"

/-- The lines that were read are all kept back: none of them starts the output, and they stay below the limit. -/
structure Waits (json : Json) (toLower : String → String) (pendingLimit : ℤ) (lines : List Bytes) : Prop where
  below : lines.flatten = [] ∨ (lines.flatten.length : ℤ) < pendingLimit
  quiet : ∀ line ∈ lines, ¬ Starts json toLower line

variable {s s' : Relay} {line : Bytes}

lemma started_core (s : Relay) : (core s).started = s.clientOutputStarted := rfl

/-- A terminal event other than a failure starts the output. -/
lemma isClientOutputEvent_of_terminal (toLower : String → String) {eventType : String} (htype : responseEventType json line = some eventType)
    (hterminal : isTerminalResponseEvent eventType = true) (hfailed : eventType ≠ "response.failed") :
    isClientOutputEvent json toLower line = true := by
  unfold isClientOutputEvent
  rw [htype]
  simp only [isTerminalResponseEvent, List.mem_cons, List.not_mem_nil, or_false, decide_eq_true_eq] at hterminal
  rcases hterminal with rfl | rfl | rfl | rfl | rfl | rfl
  · rfl
  · rfl
  · exact absurd rfl hfailed
  · rfl
  · rfl
  · rfl

lemma started_inspect (hwaiting : (core s).started = false) :
    (s.inspect json toLower o src pendingLimit line).clientOutputStarted = false ↔
      ((core s).pending.length + line.length : ℤ) < pendingLimit := by
  have hnoted := core_noteUsage json s line
  have hstarted : (s.noteUsage json line).clientOutputStarted = false := by
    rw [← started_core, hnoted]
    exact hwaiting
  have hpending : (s.noteUsage json line).pending = (core s).pending := congrArg Core.pending hnoted
  rw [← started_core, Relay.inspect, core_noteError, Relay.overflow, hstarted, hpending]
  split_ifs with hlimit
  · rw [core_startClientOutput, started_start]
    simp only [Bool.not_false, Bool.true_and, decide_eq_true_eq] at hlimit
    simp only [Bool.true_eq_false, false_iff, not_lt]
    omega
  · rw [started_core, hstarted]
    simp only [Bool.not_false, Bool.true_and, decide_eq_true_eq] at hlimit
    simp only [true_iff]
    omega

lemma started_relay {terminalEvent : Bool} :
    (s.relay json toLower o src line terminalEvent).clientOutputStarted =
      (s.clientOutputStarted || isClientOutputEvent json toLower line) := by
  rw [← started_core]
  unfold Relay.relay
  cases hstarted : s.clientOutputStarted with
  | false =>
    simp only [Bool.not_false, if_true, Bool.false_or]
    split_ifs with hevent
    · rw [core_startClientOutput, started_start, hevent]
    · rw [core_appendPending]
      simpa [Core.append, core, hstarted] using hevent
  | true =>
    simp only [Bool.not_true, Bool.false_eq_true, if_false, Bool.true_or]
    have hwrite : (core (s.writeClient o (sanitizeCapacityShedSSELineForClient json toLower line)).1).started = true := by
      rw [core_writeClient, started_write]
      exact hstarted
    exact hwrite

/-- The output starts with the line exactly when the line starts it or reaches the limit. -/
lemma started_line (h : s.line json toLower o src pendingLimit line = .go s') (hwaiting : (core s).started = false) :
    (core s').started = false ↔
      ((core s).pending.length + line.length : ℤ) < pendingLimit ∧ ¬ Starts json toLower line := by
  have hinspect : (s.inspect json toLower o src pendingLimit line).clientOutputStarted = false ↔ _ :=
    started_inspect hwaiting
  rw [← hinspect]
  unfold Relay.line at h
  dsimp only at h
  split at h
  · rename_i hnone
    cases h
    rw [started_core, started_relay]
    have htype : responseEventType json line ≠ some "response.failed" := by
      intro heq
      rw [heq] at hnone
      exact absurd hnone (by decide)
    simp [Starts, htype]
  · rename_i eventType hsome
    obtain ⟨htype, hterminal⟩ := Option.filter_eq_some_iff.1 hsome
    split_ifs at h with hempty hfailed hretry
    · cases h
      rw [core_startClientOutput, started_start]
      simp [Starts, htype, hfailed.1]
    · cases h
      rw [started_core, started_relay]
      by_cases heq : eventType = "response.failed"
      · have hstarted : (s.inspect json toLower o src pendingLimit line).clientOutputStarted = true := by
          simpa [heq] using hfailed
        simp [hstarted]
      · have hevent := isClientOutputEvent_of_terminal toLower htype hterminal heq
        simp [Starts, hevent]

lemma Takes.started {c c' : Core} (h : Takes json toLower o src line c c') (hc : c.started = true) :
    c'.started = true := by
  cases h with
  | kept hwaiting => exact absurd (hc.symm.trans hwaiting) (by simp)
  | released => exact started_start _
  | overflowed => rw [started_write, started_start]
  | written => rw [started_write, hc]

/-- The line holds a terminal event. -/
def lineTerminal (json : Json) (line : Bytes) : Bool :=
  ((responseEventType json line).filter fun eventType => isTerminalResponseEvent eventType).isSome

/-- The error of an error event. -/
def lineError (json : Json) (line : Bytes) : Option ResponseError :=
  if responseEventType json line = some "error" then parseSSEError json line else none

lemma starts_of_terminal (h : lineTerminal json line = true) : Starts json toLower line := by
  obtain ⟨eventType, hsome⟩ := Option.isSome_iff_exists.1 h
  obtain ⟨htype, hterminal⟩ := Option.filter_eq_some_iff.1 hsome
  by_cases hfailed : eventType = "response.failed"
  · exact .inr (hfailed ▸ htype)
  · exact .inl (isClientOutputEvent_of_terminal toLower htype hterminal hfailed)

/-- What the relay has noted: whether it has seen a terminal event, and the last error event. -/
def notes (s : Relay) : Bool × Option ResponseError := (s.terminalSeen, s.topLevelError)

lemma notes_writeClient (s : Relay) (data : Option Bytes) : notes (s.writeClient o data).1 = notes s := by
  unfold Relay.writeClient
  split
  · rfl
  · split_ifs <;> rfl

lemma notes_startClientOutput (s : Relay) : notes (s.startClientOutput json toLower o src) = notes s := by
  unfold Relay.startClientOutput
  split_ifs
  · rfl
  · exact notes_writeClient _ _

lemma notes_relay (s : Relay) (terminalEvent : Bool) :
    notes (s.relay json toLower o src line terminalEvent) = notes s := by
  unfold Relay.relay
  split_ifs
  · exact notes_startClientOutput _
  · rfl
  · exact notes_writeClient _ _

lemma notes_inspect (s : Relay) :
    notes (s.inspect json toLower o src pendingLimit line) = (s.terminalSeen, (lineError json line).or s.topLevelError) := by
  have hnoted : notes (s.noteUsage json line) = notes s := by
    unfold Relay.noteUsage
    split <;> rfl
  have hoverflow : notes ((s.noteUsage json line).overflow json toLower o src pendingLimit line) = notes s := by
    unfold Relay.overflow
    split_ifs
    · rw [notes_startClientOutput, hnoted]
    · exact hnoted
  obtain ⟨hseen, herror⟩ := Prod.mk.inj hoverflow
  unfold Relay.inspect Relay.noteError
  rw [← hseen, ← herror]
  unfold lineError
  cases (if responseEventType json line = some "error" then parseSSEError json line else none) <;> rfl

lemma notes_line (h : s.line json toLower o src pendingLimit line = .go s') :
    notes s' = (s.terminalSeen || lineTerminal json line, (lineError json line).or s.topLevelError) := by
  have hinspect : notes (s.inspect json toLower o src pendingLimit line) = _ := notes_inspect s
  have herror := (Prod.mk.inj hinspect).2
  unfold Relay.line at h
  dsimp only at h
  unfold lineTerminal
  split at h
  · rename_i hnone
    cases h
    rw [notes_relay, hinspect, hnone, Option.isSome_none, Bool.or_false]
  · rename_i eventType hsome
    rw [hsome, Option.isSome_some, Bool.or_true, ← herror]
    split_ifs at h
    · cases h
      exact notes_startClientOutput _
    · cases h
      exact notes_relay _ _

lemma line_done_terminal {error : Option CopyError} (h : s.line json toLower o src pendingLimit line = .done s' error) :
    lineTerminal json line = true := by
  unfold Relay.line at h
  dsimp only at h
  split at h
  · cases h
  · rename_i eventType hsome
    unfold lineTerminal
    rw [hsome]
    rfl

end Waiting

section Loop

/-- The relay between two reads: what the client has of the lines, and what decided it. -/
structure Traced (json : Json) (toLower : String → String) (o : Outside) (pendingLimit : ℤ) (dst : ResponseWriter)
    (done : List Bytes) (s : Relay) : Prop where
  relayed : Relayed json toLower dst done (core s)
  waits : (core s).started = false ↔ Waits json toLower pendingLimit done
  quiet : s.terminalSeen = false ↔ ∀ line ∈ done, lineTerminal json line = false
  calm : s.topLevelError = none ↔ ∀ line ∈ done, lineError json line = none
  timely : ∀ n < done.length, o.late n = true → ¬ Waits json toLower pendingLimit (done.take n)

variable {s s' : Relay} {line : Bytes} {body : Bytes} {done rest : List Bytes}

lemma traced_initial : Traced json toLower o pendingLimit dst [] (Relay.initial dst) where
  relayed := ⟨rfl, rfl, fun _ => ⟨rfl, rfl⟩, fun h => by cases h⟩
  waits := ⟨fun _ => ⟨.inl rfl, by simp⟩, fun _ => rfl⟩
  quiet := ⟨fun _ => by simp, fun _ => rfl⟩
  calm := ⟨fun _ => by simp, fun _ => rfl⟩
  timely := by simp

/-- A terminal event has started the output. -/
lemma Traced.started (h : Traced json toLower o pendingLimit dst done s) (hseen : s.terminalSeen = true) :
    (core s).started = true := by
  by_contra hwaiting
  have hwaits := h.waits.1 (by simpa using hwaiting)
  have hquiet : s.terminalSeen = false := by
    rw [h.quiet]
    intro line hline
    by_contra hterminal
    exact hwaits.quiet line hline (starts_of_terminal (by simpa using hterminal))
  rw [hseen] at hquiet
  cases hquiet

lemma forall_append_singleton {p : Bytes → Prop} :
    (∀ l ∈ done ++ [line], p l) ↔ (∀ l ∈ done, p l) ∧ p line := by
  simp only [List.mem_append, List.mem_singleton, or_imp, forall_and, forall_eq]

lemma waits_append (hne : line ≠ []) :
    Waits json toLower pendingLimit (done ++ [line]) ↔
      Waits json toLower pendingLimit done ∧ (done.flatten.length + line.length : ℤ) < pendingLimit ∧
        ¬ Starts json toLower line := by
  have hlength : ((done ++ [line]).flatten.length : ℤ) = done.flatten.length + line.length := by simp
  constructor
  · rintro ⟨hbelow, hquiet⟩
    rw [forall_append_singleton] at hquiet
    have hlimit : (done.flatten.length + line.length : ℤ) < pendingLimit := by
      rw [← hlength]
      exact hbelow.resolve_left (by simp [hne])
    exact ⟨⟨.inr (by omega), hquiet.1⟩, hlimit, hquiet.2⟩
  · rintro ⟨⟨-, hquiet⟩, hlimit, hline⟩
    exact ⟨.inr (by rw [hlength]; exact hlimit), forall_append_singleton.2 ⟨hquiet, hline⟩⟩

lemma waits_append_nil : Waits json toLower pendingLimit (done ++ [[]]) ↔ Waits json toLower pendingLimit done := by
  have hquiet : ¬ Starts json toLower [] := by
    rintro (hevent | htype)
    · cases hevent
    · cases htype
  have hflatten : (done ++ [[]]).flatten = done.flatten := by simp
  constructor
  · rintro ⟨hbelow, hall⟩
    rw [hflatten] at hbelow
    exact ⟨hbelow, (forall_append_singleton.1 hall).1⟩
  · rintro ⟨hbelow, hall⟩
    rw [← hflatten] at hbelow
    exact ⟨hbelow, forall_append_singleton.2 ⟨hall, hquiet⟩⟩

/-- The deadline did not pass before the read. -/
lemma timely_append (h : ∀ n < done.length, o.late n = true → ¬ Waits json toLower pendingLimit (done.take n))
    (hlate : o.late done.length = true → ¬ Waits json toLower pendingLimit done) :
    ∀ n < (done ++ [line]).length, o.late n = true → ¬ Waits json toLower pendingLimit ((done ++ [line]).take n) := by
  intro n hn hn'
  rw [List.length_append, List.length_singleton] at hn
  rw [List.take_append_of_le_length (by omega)]
  by_cases heq : n = done.length
  · rw [heq, List.take_length]
    exact hlate (heq ▸ hn')
  · exact h n (by omega) hn'

/-- A read without a line changes nothing. -/
lemma Traced.skip (h : Traced json toLower o pendingLimit dst done s)
    (hlate : o.late done.length = true → ¬ Waits json toLower pendingLimit done) :
    Traced json toLower o pendingLimit dst (done ++ [[]]) s where
  relayed :=
    { present := h.relayed.present
      sound := h.relayed.sound
      waiting := fun hwaiting => by simpa using h.relayed.waiting hwaiting
      started := fun hstarted => by
        obtain ⟨text, htext, hreceived⟩ := h.relayed.started hstarted
        refine ⟨text, ?_, hreceived⟩
        rw [rewritten_append, htext, rewritten_singleton, sanitize_nil]
        simp }
  waits := by rw [h.waits, waits_append_nil]
  quiet := by
    rw [h.quiet, forall_append_singleton, and_iff_left (show lineTerminal json [] = false from rfl)]
  calm := by
    rw [h.calm, forall_append_singleton, and_iff_left (show lineError json [] = none from rfl)]
  timely := timely_append h.timely hlate

/-- The step of the loop. -/
lemma Traced.read (haccepts : ∀ n, o.accepts n = true) (hlines : done ++ line :: rest = splitAfterNewline body)
    (h : Traced json toLower o pendingLimit dst done s)
    (hlate : o.late done.length = true → ¬ Waits json toLower pendingLimit done)
    (hread : s.read json toLower o src pendingLimit line = .go s') :
    Traced json toLower o pendingLimit dst (done ++ [line]) s' := by
  unfold Relay.read at hread
  by_cases hempty : line = []
  · rw [if_pos hempty] at hread
    cases hread
    rw [hempty]
    exact h.skip hlate
  · rw [if_neg hempty] at hread
    cases hline : s.line json toLower o src pendingLimit line with
    | done t error => simp [hline] at hread
    | go t =>
      simp only [hline] at hread
      split_ifs at hread with hpanicked
      cases hread
      have htakes : Takes json toLower o src line (core s) (core s') := line_go hline
      obtain ⟨hseen, herror⟩ := Prod.mk.inj (notes_line hline)
      refine ⟨?_, ?_, ?_, ?_, timely_append h.timely hlate⟩
      · rcases Takes.relayed haccepts hlines htakes h.relayed with hrelayed | hpanic
        · exact hrelayed
        · exact absurd hpanic.panicked hpanicked
      · rw [waits_append hempty, ← h.waits]
        constructor
        · intro hwaiting'
          have hwaiting : (core s).started = false := by
            by_contra hstarted
            exact absurd ((Takes.started htakes (by simpa using hstarted)).symm.trans hwaiting') (by simp)
          obtain ⟨hlimit, hquiet⟩ := (started_line hline hwaiting).1 hwaiting'
          rw [(h.relayed.waiting hwaiting).2] at hlimit
          exact ⟨hwaiting, hlimit, hquiet⟩
        · rintro ⟨hwaiting, hlimit, hquiet⟩
          rw [← (h.relayed.waiting hwaiting).2] at hlimit
          exact (started_line hline hwaiting).2 ⟨hlimit, hquiet⟩
      · rw [hseen, Bool.or_eq_false_iff, h.quiet, forall_append_singleton]
      · rw [herror, Option.or_eq_none_iff, h.calm, forall_append_singleton, and_comm]

variable (json toLower o src pendingLimit) in
/-- The lines that the loop reads before it returns. -/
def heard : List (Bytes × Option ReadError) → ℕ → Relay → List Bytes
  | [], _, _ => []
  | (line, error) :: reads, n, s =>
    if !s.clientOutputStarted && o.late n then []
    else
      line ::
        match s.read json toLower o src pendingLimit line with
        | .done _ _ => []
        | .go s => if error.isNone then heard reads (n + 1) s else []

/-- How a run over the given lines ends, with the lines that it has read. -/
inductive Outcome (json : Json) (toLower : String → String) (o : Outside) (src : Response) (pendingLimit : ℤ)
    (dst : ResponseWriter) (lines : List Bytes) (cause : ReadError) : List Bytes → Relay × Option CopyError → Prop
  | late {done rest : List Bytes} {line : Bytes} {s : Relay} (hlines : done ++ line :: rest = lines)
      (hs : Traced json toLower o pendingLimit dst done s) (hwaiting : (core s).started = false)
      (hlate : o.late done.length = true) :
      Outcome json toLower o src pendingLimit dst lines cause done (s, some (.failover ⟨504, s.pending, [], false⟩))
  | handedOver {done rest : List Bytes} {line : Bytes} {s s' : Relay} {status : ℕ} {transient : Bool}
      (hlines : done ++ line :: rest = lines) (hs : Traced json toLower o pendingLimit dst done s)
      (hwaiting : (core s).started = false) (hcore : core s' = (core s).append line)
      (hterminal : lineTerminal json line = true) :
      Outcome json toLower o src pendingLimit dst lines cause (done ++ [line])
        (s', some (.failover ⟨status, s'.pending, [], transient⟩))
  | panicked {done rest : List Bytes} {s : Relay} (hlines : done ++ rest = lines)
      (hpanic : Panicked json toLower dst done (core s)) :
      Outcome json toLower o src pendingLimit dst lines cause done (s, some .panicked)
  | ended {s : Relay} (hs : Traced json toLower o pendingLimit dst lines s) :
      Outcome json toLower o src pendingLimit dst lines cause lines (s.finish json toLower o src cause)

/-- A read that ends the loop. -/
lemma read_done_outcome (haccepts : ∀ n, o.accepts n = true) {cause : ReadError} {lines : List Bytes}
    (hsplit : lines = splitAfterNewline body) (hlines : done ++ line :: rest = lines)
    (h : Traced json toLower o pendingLimit dst done s) {error : Option CopyError}
    (hread : s.read json toLower o src pendingLimit line = .done s' error) :
    Outcome json toLower o src pendingLimit dst lines cause (done ++ [line]) (s', error) := by
  have hcases := read_done hread
  unfold Relay.read at hread
  by_cases hempty : line = []
  · rw [if_pos hempty] at hread
    cases hread
  · rw [if_neg hempty] at hread
    rcases hcases with ⟨rfl, htakes, hpanicked⟩ | ⟨hwaiting, hcore, status, transient, rfl⟩
    · rcases Takes.relayed haccepts (hlines.trans hsplit) htakes h.relayed with hrelayed | hpanic
      · exact absurd (hpanicked.symm.trans hrelayed.sound) (by simp)
      · have hlines' : (done ++ [line]) ++ rest = lines := by simpa using hlines
        exact .panicked hlines' hpanic
    · cases hline : s.line json toLower o src pendingLimit line with
      | done t result => exact .handedOver hlines h hwaiting hcore (line_done_terminal hline)
      | go t =>
        simp only [hline] at hread
        split_ifs at hread
        cases hread

/-- The run: the lines are read one after the other, and the last one comes with the cause. -/
theorem loop_outcome (haccepts : ∀ n, o.accepts n = true) {cause : ReadError} {lines init : List Bytes} {last : Bytes}
    (hsplit : lines = splitAfterNewline body) (hlines : done ++ (init ++ [last]) = lines)
    (h : Traced json toLower o pendingLimit dst done s) :
    Outcome json toLower o src pendingLimit dst lines cause
      (done ++ heard json toLower o src pendingLimit
        (init.map (fun line => (line, none)) ++ [(last, some cause)]) done.length s)
      (Relay.loop json toLower o src pendingLimit
        (init.map (fun line => (line, none)) ++ [(last, some cause)]) done.length s) := by
  induction init generalizing done s with
  | nil =>
    rw [List.nil_append] at hlines
    simp only [List.map_nil, List.nil_append, heard, Relay.loop]
    by_cases hlate : (!s.clientOutputStarted && o.late done.length) = true
    · rw [if_pos hlate, if_pos hlate, List.append_nil]
      simp only [Bool.and_eq_true, Bool.not_eq_true'] at hlate
      exact .late hlines h hlate.1 hlate.2
    · rw [if_neg hlate, if_neg hlate]
      have hlate' : o.late done.length = true → ¬ Waits json toLower pendingLimit done := by
        intro hpassed hwaits
        have hwaiting : s.clientOutputStarted = false := h.waits.2 hwaits
        simp [hwaiting, hpassed] at hlate
      cases hread : s.read json toLower o src pendingLimit last with
      | done s' error => exact read_done_outcome haccepts hsplit hlines h hread
      | go s' =>
        have hs' := h.read haccepts (hlines.trans hsplit) hlate' hread
        rw [hlines] at hs'
        simp only [Option.isNone_some, Bool.false_eq_true, if_false]
        rw [hlines]
        exact .ended hs'
  | cons line init ih =>
    rw [List.cons_append] at hlines
    simp only [List.map_cons, List.cons_append, heard, Relay.loop]
    by_cases hlate : (!s.clientOutputStarted && o.late done.length) = true
    · rw [if_pos hlate, if_pos hlate, List.append_nil]
      simp only [Bool.and_eq_true, Bool.not_eq_true'] at hlate
      exact .late hlines h hlate.1 hlate.2
    · rw [if_neg hlate, if_neg hlate]
      have hlate' : o.late done.length = true → ¬ Waits json toLower pendingLimit done := by
        intro hpassed hwaits
        have hwaiting : s.clientOutputStarted = false := h.waits.2 hwaits
        simp [hwaiting, hpassed] at hlate
      cases hread : s.read json toLower o src pendingLimit line with
      | done s' error => exact read_done_outcome haccepts hsplit hlines h hread
      | go s' =>
        have hs' := h.read haccepts (hlines.trans hsplit) hlate' hread
        have hnext := ih (by simpa using hlines) hs'
        rw [List.length_append, List.length_singleton, List.append_assoc, List.singleton_append] at hnext
        exact hnext

end Loop

section Reading

/-- What is read of a list of lines: complete lines, then one that comes with an error. -/
lemma readLimitedLines_form (ending : ReadError) (init : List Bytes) (last : Bytes) (hinit : ∀ line ∈ init, Complete line)
    (hlast : newline ∉ last) :
    ∃ init' last' cause, readLimitedLines ending (init ++ [last]) =
        init'.map (fun line => (line, none)) ++ [(last', some cause)] ∧
      (∀ line ∈ init', Complete line) ∧ newline ∉ last' ∧
      ((∀ line ∈ init ++ [last], line.length ≤ maxSSELineBytes) → init' = init ∧ last' = last ∧ cause = ending) := by
  induction init with
  | nil =>
    rw [List.nil_append, readLimitedLines]
    split_ifs with hlong
    · refine ⟨[], [], .tooLarge, rfl, by simp, by simp, fun hfits => ?_⟩
      exact absurd (hfits last (by simp)) (not_le.2 hlong)
    · exact ⟨[], last, ending, rfl, by simp, hlast, fun _ => ⟨rfl, rfl, rfl⟩⟩
  | cons line init ih =>
    obtain ⟨init', last', cause, hreads, hinit', hlast', hfit⟩ := ih fun l hl => hinit l (by simp [hl])
    rw [List.cons_append, readLimitedLines]
    · split_ifs with hlong
      · refine ⟨[], [], .tooLarge, rfl, by simp, by simp, fun hfits => ?_⟩
        exact absurd (hfits line (by simp)) (not_le.2 hlong)
      · refine ⟨line :: init', last', cause, by rw [hreads]; rfl, ?_, hlast', fun hfits => ?_⟩
        · intro l hl
          rcases List.mem_cons.1 hl with rfl | hl
          · exact hinit _ (by simp)
          · exact hinit' l hl
        · obtain ⟨rfl, hrest⟩ := hfit fun l hl => hfits l (by simp [hl])
          exact ⟨rfl, hrest⟩
    · simp

/-- The reads of a response are the lines of a text and the cause that ends it; when all lines fit, this is the body. -/
lemma reads_form (src : Response) :
    ∃ body init last cause, src.reads = init.map (fun line => (line, none)) ++ [(last, some cause)] ∧
      init ++ [last] = splitAfterNewline body ∧
      ((∀ line ∈ splitAfterNewline src.body, line.length ≤ maxSSELineBytes) → body = src.body ∧ cause = src.ending) := by
  obtain ⟨init, last, hsplit, hinit, hlast⟩ := splitAfterNewline_init src.body
  obtain ⟨init', last', cause, hreads, hinit', hlast', hfit⟩ :=
    readLimitedLines_form src.ending init last hinit hlast
  refine ⟨init'.flatten ++ last', init', last', cause, ?_, ?_, fun hfits => ?_⟩
  · rw [Response.reads, hsplit, hreads]
  · rw [splitAfterNewline_flatten hinit', splitAfterNewline_of_not_mem hlast']
  · rw [hsplit] at hfits
    obtain ⟨rfl, rfl, hcause⟩ := hfit hfits
    refine ⟨?_, hcause⟩
    rw [← flatten_splitAfterNewline src.body, hsplit]
    simp

end Reading

end ShareSub.RelayRun

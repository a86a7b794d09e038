import Mathlib
import ShareSub.CapacityShedRelay
import ShareSub.RelayConversion

/-!
# Answers that are written at once

The embedding of `copyBufferedResponse`, `DrainResponse` and `WriteDrainedResponse`, and what the conversion of a stream
leaves of the codes that shed load.
-/
namespace ShareSub.CapacityShedAnswer

open SseModel RelayModel RelayRun RelayConversion PayloadText CapacityShed CapacityShedRelay

section Model

variable (json : Json) (toLower : String → String) (o : Outside) (src : Response)

def maxBufferedResponseBytes : ℕ := 64 * 2 ^ 20

/-- The body of a response that is read as a whole, up to one byte more than the limit; the error is seen only if the
limit is not. -/
def copyBufferedResponse (dst : ResponseWriter) : ResponseWriter × Option CopyError :=
  if maxBufferedResponseBytes < src.body.length then
    (writeProxyJSONError json dst 502 "upstream_error" "upstream response exceeds 67108864 bytes", some .other)
  else if src.ending ≠ .eof then
    (writeProxyJSONError json dst 502 "upstream_error" "upstream response read failed", some .other)
  else
    let header := copyResponseHeaders dst.header src.header
    let header := if header.get "Content-Type" = "" then header.set "Content-Type" "application/json" else header
    writeLast o ({ dst with header := header }.writeHeader src.statusCode) (sanitizeCapacityShedResponseForClient json toLower src.body)

/-- The lines of a stream that fit. -/
def drainLines : Bytes → List (Bytes × Option ReadError) → Bytes
  | body, [] => body
  | body, (line, _) :: reads =>
    drainLines (if body.length + line.length ≤ maxBufferedResponseBytes then body ++ line else body) reads

/-- The body that `DrainResponse` returns. -/
def drainResponse : Bytes :=
  if contains (toLower (src.header.get "Content-Type")) "text/event-stream" then drainLines [] src.reads
  else if maxBufferedResponseBytes < src.body.length then []
  else src.body

def writeDrainedResponse (dst : ResponseWriter) (body : Bytes) : ResponseWriter × Option CopyError :=
  writeLast o ({ dst with header := copyResponseHeaders dst.header src.header }.writeHeader src.statusCode)
    (sanitizeCapacityShedResponseForClient json toLower body)

end Model

section Stream

variable (json : Json) (toLower : String → String) (o : Outside) (src : Response)

/-- What a stream says of its response: the last terminal event with a response, and the error that goes into it if it
has none; the last error event; and the failure that is known in the end. -/
structure Verdict where
  terminal : TerminalResponse
  error : Option ResponseError
  answer : Option (String × Bytes × Option ResponseError)

def Verdict.initial : Verdict := ⟨⟨none, false, false⟩, none, none⟩

def Verdict.next (v : Verdict) (line : Bytes) : Verdict :=
  match (ssePayload line).bind json.event with
  | none => v
  | some (type, response, error) =>
    let v := match if type = "error" then error else none with
      | some e => { v with error := some e, terminal := { v.terminal with error := some e } }
      | none => v
    if isTerminalResponseEvent type ∧ response ≠ [] ∧ response ≠ bytes "null" then
      match parseJSONResponseUsage json response with
      | none => { v with answer := some (type, response, none) }
      | some parsed =>
        match if parsed.error.isNone then v.error else none with
        | none => { v with terminal := parsed, answer := some (type, response, none) }
        | some e => { v with terminal := { parsed with error := some e }, answer := some (type, response, some e) }
    else v

def verdict (lines : List Bytes) : Verdict := lines.foldl (Verdict.next json) Verdict.initial

/-- The response is handed over to another account. -/
def Verdict.handedOver (v : Verdict) (type : String) : Prop :=
  if type = "response.failed" then (retryableTerminalFailure toLower v.terminal).2 = true
  else type ∈ ["response.completed", "response.done"] ∧ v.terminal.emptyCompleted = true

/-- The stream ends in a response with a code that sheds load, and no other account is tried. -/
def Verdict.Leaks (v : Verdict) : Prop :=
  match v.answer with
  | none => ∃ e, v.error = some e ∧ isCapacityShedErrorCode toLower e.code = true ∧
      (retryableTerminalFailure toLower v.terminal).2 = false
  | some (type, response, none) => ¬ v.handedOver toLower type ∧ Shed json toLower response
  | some (type, response, some e) => ¬ v.handedOver toLower type ∧
      (isCapacityShedErrorCode toLower e.code = true ∨
        ∃ object, json.object response = some object ∧ failedShed json toLower object = true)

/-- The stream is read to its end before the deadline. -/
structure Finished : Prop where
  ending : src.ending = .eof
  short : ∀ line ∈ splitAfterNewline src.body, line.length ≤ maxSSELineBytes
  timely : ∀ n < (splitAfterNewline src.body).length, o.late n = true →
    ∃ line ∈ (splitAfterNewline src.body).take n, isClientOutputEvent json toLower line = true

/-- The state of the conversion is what the stream says. -/
structure Follows (v : Verdict) (s : Conversion) : Prop where
  terminal : s.terminal = v.terminal
  error : s.topLevelError = v.error
  empty : v.answer = none → s.finalResponse = []
  raw : ∀ type response, v.answer = some (type, response, none) → s.terminalType = type ∧ s.finalResponse = response ∧ response ≠ []
  filled : ∀ type response e, v.answer = some (type, response, some e) →
    s.terminalType = type ∧ responseJSONWithError json response e = some s.finalResponse

end Stream

section Conversion

variable {json : Json} {toLower : String → String} {o : Outside} {src : Response} {dst : ResponseWriter} {V : Type}
  {value : Bytes → Option V} {v : Verdict} {s : Conversion} {line : Bytes}

/-- An error is put into a response. -/
lemma responseJSONWithError_spec (hjson : Lawful json value) (toLower : String → String) {response : Bytes} {object : Object}
    (hobject : json.object response = some object) (e : ResponseError) :
    ∃ z o', responseJSONWithError json response e = some z ∧ json.object z = some o' ∧ Braced z ∧
      topShed json toLower o' = isCapacityShedErrorCode toLower e.code ∧
      failedShed json toLower o' = failedShed json toLower object := by
  obtain ⟨y, errorObject, hy, hy', hcode⟩ := hjson.marshalError e
  have hmembers : ∀ key raw, (object.insert "error" y).lookup key = some raw → value raw ≠ none := by
    intro key raw hraw
    rw [FiniteMap.lookup_insert] at hraw
    split_ifs at hraw with hkey
    · cases hraw
      exact hjson.object_value y errorObject hy'
    · exact hjson.member_value response object hobject key raw hraw
  obtain ⟨z, o', hz, hz', hbraced, -, hsame⟩ := hjson.marshalObject _ hmembers
  have hkept (key : String) (hkey : key ≠ "error") : value (Object.raw o' key) = value (Object.raw object key) := by
    rw [value_raw (hsame key), raw_insert, if_neg hkey]
  refine ⟨z, o', by simp [responseJSONWithError, hobject, hy, hz], hz', hbraced, ?_, ?_⟩
  · have herror : value (Object.raw o' "error") = value y := by rw [value_raw (hsame "error"), raw_insert, if_pos rfl]
    rw [topShed, shedError_congr hjson herror, shedError, hy', Option.bind_some, hcode, Option.any_some]
  · exact failedShed_congr hjson (hkept "type" (by decide)) (hkept "response" (by decide))

/-- An error event, as the conversion and the verdict take it. -/
lemma follows_error (h : Follows json v s) (e : ResponseError) :
    Follows json { v with error := some e, terminal := { v.terminal with error := some e } }
      { s with topLevelError := some e, terminal := { s.terminal with error := some e } } :=
  ⟨by rw [h.terminal], rfl, h.empty, h.raw, h.filled⟩

lemma follows_seen (h : Follows json v s) (seen : Bool) : Follows json v { s with outputSeen := seen } :=
  ⟨h.terminal, h.error, h.empty, h.raw, h.filled⟩

/-- A response that is taken as it is. -/
lemma follows_raw (h : Follows json v s) {type : String} {response : Bytes} (hresponse : response ≠ []) (terminal : TerminalResponse) :
    Follows json { v with terminal := terminal, answer := some (type, response, none) }
      { s with terminalType := type, finalResponse := response, terminal := terminal } := by
  refine ⟨rfl, h.error, by simp, ?_, by simp⟩
  rintro t r ⟨rfl, rfl⟩
  exact ⟨rfl, rfl, hresponse⟩

/-- The response of an event, if it is a terminal one. -/
lemma follows_response (hjson : Lawful json value) (h : Follows json v s) (type : String) (response : Bytes) :
    ∃ s', (if isTerminalResponseEvent type ∧ response ≠ [] ∧ response ≠ bytes "null" then
        match parseJSONResponseUsage json response with
        | none => some { s with terminalType := type, finalResponse := response }
        | some parsed =>
          match if parsed.error.isNone then s.topLevelError else none with
          | none => some { s with terminalType := type, finalResponse := response, terminal := parsed }
          | some e =>
            (responseJSONWithError json response e).map fun withError =>
              { s with terminalType := type, finalResponse := withError, terminal := { parsed with error := some e } }
      else some s) = some s' ∧
      Follows json (if isTerminalResponseEvent type ∧ response ≠ [] ∧ response ≠ bytes "null" then
        match parseJSONResponseUsage json response with
        | none => { v with answer := some (type, response, none) }
        | some parsed =>
          match if parsed.error.isNone then v.error else none with
          | none => { v with terminal := parsed, answer := some (type, response, none) }
          | some e => { v with terminal := { parsed with error := some e }, answer := some (type, response, some e) }
      else v) s' ∧ s'.outputSeen = s.outputSeen := by
  by_cases hterminal : isTerminalResponseEvent type = true ∧ response ≠ [] ∧ response ≠ bytes "null"
  · rw [if_pos hterminal, if_pos hterminal]
    cases hparsed : parseJSONResponseUsage json response with
    | none =>
      refine ⟨_, rfl, ?_, rfl⟩
      have hraw : Follows json _ { s with terminalType := type, finalResponse := response, terminal := v.terminal } :=
        follows_raw h hterminal.2.1 v.terminal
      rw [← h.terminal] at hraw
      dsimp only
      rw [← h.terminal]
      exact hraw
    | some parsed =>
      dsimp only
      have herror : (if parsed.error.isNone = true then s.topLevelError else none) =
          if parsed.error.isNone = true then v.error else none := by rw [h.error]
      rw [herror]
      cases (if parsed.error.isNone = true then v.error else none) with
      | none => exact ⟨_, rfl, follows_raw h hterminal.2.1 parsed, rfl⟩
      | some e =>
        obtain ⟨object, hobject⟩ : ∃ object, json.object response = some object := by
          unfold parseJSONResponseUsage at hparsed
          obtain ⟨r, hr, -⟩ := Option.map_eq_some_iff.mp hparsed
          exact hjson.response response r hr
        obtain ⟨z, o', hz, -⟩ := responseJSONWithError_spec hjson id hobject e
        dsimp only
        rw [hz]
        refine ⟨_, rfl, ⟨rfl, h.error, by simp, by simp, ?_⟩, rfl⟩
        rintro t r e' ⟨rfl, rfl, rfl⟩
        exact ⟨rfl, hz⟩
  · rw [if_neg hterminal, if_neg hterminal]
    exact ⟨s, rfl, h, rfl⟩

/-- The step: a line of the stream is taken by the conversion as it is by the verdict. -/
lemma follows_line (hjson : Lawful json value) (h : Follows json v s) (line : Bytes) :
    ∃ s', s.line json toLower line = some s' ∧ Follows json (v.next json line) s' ∧
      s'.outputSeen = (s.outputSeen || isClientOutputEvent json toLower line) := by
  unfold Conversion.line Verdict.next
  obtain ⟨s₁, hs₁, hfollows, hseen⟩ : ∃ s₁, (if isClientOutputEvent json toLower line = true then { s with outputSeen := true } else s) = s₁ ∧
      Follows json v s₁ ∧ s₁.outputSeen = (s.outputSeen || isClientOutputEvent json toLower line) := by
    refine ⟨_, rfl, ?_, ?_⟩
    · split_ifs
      · exact follows_seen h true
      · exact h
    · split_ifs with houtput <;> simp [houtput]
  rw [hs₁]
  cases (ssePayload line).bind json.event with
  | none => exact ⟨s₁, rfl, hfollows, hseen⟩
  | some event =>
    obtain ⟨type, response, error⟩ := event
    dsimp only
    -- The error event first, then the response of a terminal one.
    cases (if type = "error" then error else none) with
    | none =>
      obtain ⟨s', hs', hfollows', hseen'⟩ := follows_response hjson hfollows type response
      exact ⟨s', hs', hfollows', hseen'.trans hseen⟩
    | some e =>
      obtain ⟨s', hs', hfollows', hseen'⟩ := follows_response hjson (follows_error hfollows e) type response
      exact ⟨s', hs', hfollows', hseen'.trans hseen⟩

lemma follows_initial : Follows json Verdict.initial Conversion.initial :=
  ⟨rfl, rfl, fun _ => rfl, by simp [Verdict.initial], by simp [Verdict.initial]⟩

/-- How a conversion ends. -/
inductive Converts (json : Json) (toLower : String → String) (o : Outside) (src : Response) (dst : ResponseWriter) (lines : List Bytes)
    (cause : ReadError) : ResponseWriter × Option CopyError → Prop
  | late {n : ℕ} (hn : n < lines.length) (hlate : o.late n = true)
      (hquiet : ∀ line ∈ lines.take n, isClientOutputEvent json toLower line = false) :
      Converts json toLower o src dst lines cause (dst, some (.failover ⟨504, [], [], false⟩))
  | broken (hcause : cause ≠ .eof) :
      Converts json toLower o src dst lines cause
        (writeProxyJSONError json dst 502 "upstream_error" "upstream stream read failed", some .other)
  | answered {s : Conversion} (hcause : cause = .eof) (hs : Follows json (verdict json lines) s)
      (htimely : ∀ n < lines.length, o.late n = true → ∃ line ∈ lines.take n, isClientOutputEvent json toLower line = true) :
      Converts json toLower o src dst lines cause (s.answer json toLower o src dst)

/-- The state after the first lines, which came in time. -/
structure Reached (json : Json) (toLower : String → String) (o : Outside) (lines done : List Bytes) (s : Conversion) : Prop where
  follows : Follows json (verdict json done) s
  seen : s.outputSeen = done.any (isClientOutputEvent json toLower)
  timely : ∀ n < done.length, o.late n = true → ∃ line ∈ lines.take n, isClientOutputEvent json toLower line = true

lemma verdict_append (done : List Bytes) (line : Bytes) : verdict json (done ++ [line]) = (verdict json done).next json line := by
  simp [verdict]

lemma isClientOutputEvent_nil : isClientOutputEvent json toLower [] = false := rfl

lemma loop_converts (hjson : Lawful json value) {lines done init : List Bytes} {last : Bytes} {cause : ReadError}
    (hlines : done ++ (init ++ [last]) = lines) (h : Reached json toLower o lines done s) :
    Converts json toLower o src dst lines cause (Conversion.loop json toLower o src dst
      (init.map (fun line => (line, none)) ++ [(last, some cause)]) done.length s) := by
  -- A line that comes in time is taken.
  have hnext {done rest : List Bytes} {line : Bytes} {s : Conversion} (hlines : done ++ line :: rest = lines)
      (h : Reached json toLower o lines done s) (hlate : ¬ (!s.outputSeen && o.late done.length) = true) :
      ∃ s', (if line = [] then some s else s.line json toLower line) = some s' ∧ Reached json toLower o lines (done ++ [line]) s' := by
    obtain ⟨s', hs', hfollows, hseen⟩ : ∃ s', (if line = [] then some s else s.line json toLower line) = some s' ∧
        Follows json (verdict json (done ++ [line])) s' ∧ s'.outputSeen = (s.outputSeen || isClientOutputEvent json toLower line) := by
      rw [verdict_append]
      by_cases hempty : line = []
      · rw [if_pos hempty, hempty]
        exact ⟨s, rfl, h.follows, by rw [isClientOutputEvent_nil, Bool.or_false]⟩
      · rw [if_neg hempty]
        exact follows_line hjson h.follows line
    refine ⟨s', hs', hfollows, by rw [hseen, h.seen]; simp, ?_⟩
    intro n hn hlate'
    rw [List.length_append, List.length_singleton] at hn
    rcases Nat.lt_or_eq_of_le (Nat.lt_succ_iff.mp hn) with hn | rfl
    · exact h.timely n hn hlate'
    · have hoption : s.outputSeen = true := by
        rw [hlate', Bool.and_true, Bool.not_eq_true', Bool.not_eq_false] at hlate
        exact hlate
      rw [h.seen, List.any_eq_true] at hoption
      obtain ⟨line', hline', houtput⟩ := hoption
      refine ⟨line', ?_, houtput⟩
      rw [← hlines, List.take_left]
      exact hline'
  have hlateness {done rest : List Bytes} {line : Bytes} {s : Conversion} (hlines : done ++ line :: rest = lines)
      (h : Reached json toLower o lines done s) (hlate : (!s.outputSeen && o.late done.length) = true) :
      Converts json toLower o src dst lines cause (dst, some (.failover ⟨504, [], [], false⟩)) := by
    simp only [Bool.and_eq_true, Bool.not_eq_true'] at hlate
    refine .late (n := done.length) (by rw [← hlines]; simp) hlate.2 ?_
    rw [← hlines, List.take_left]
    intro line hline
    have hseen := h.seen
    rw [hlate.1, eq_comm, List.any_eq_false] at hseen
    simpa using hseen line hline
  induction init generalizing done s with
  | nil =>
    rw [List.nil_append] at hlines
    rw [List.map_nil, List.nil_append, Conversion.loop]
    by_cases hlate : (!s.outputSeen && o.late done.length) = true
    · rw [if_pos hlate]
      exact hlateness hlines h hlate
    · rw [if_neg hlate]
      obtain ⟨s', hs', hreached⟩ := hnext hlines h hlate
      rw [hs']
      rw [hlines] at hreached
      cases cause with
      | eof => exact .answered rfl hreached.follows hreached.timely
      | failed => exact .broken (by decide)
      | tooLarge => exact .broken (by decide)
  | cons line init ih =>
    rw [List.cons_append] at hlines
    rw [List.map_cons, List.cons_append, Conversion.loop]
    by_cases hlate : (!s.outputSeen && o.late done.length) = true
    · rw [if_pos hlate]
      exact hlateness hlines h hlate
    · rw [if_neg hlate]
      obtain ⟨s', hs', hreached⟩ := hnext hlines h hlate
      rw [hs']
      have hrest := ih (by simpa using hlines) hreached
      rw [List.length_append, List.length_singleton] at hrest
      exact hrest

end Conversion

section Answers

variable {json : Json} {toLower : String → String} {o : Outside} {src : Response} {dst : ResponseWriter} {V : Type}
  {value : Bytes → Option V} {v : Verdict} {s : Conversion}

lemma received_head (hdst : dst.writes = []) (header : Header) (status : ℕ) (data : Bytes) :
    (({ dst with header := header }.writeHeader status).write data).received = data := by
  simp [ResponseWriter.received, ResponseWriter.write, ResponseWriter.writeHeader, hdst]

lemma received_writeJSON (hdst : dst.writes = []) (status : ℕ) (body : Bytes) : (writeJSON o src dst status body).1.received = body :=
  received_head hdst _ _ _

lemma clean_untouched (hjson : Lawful json value) (hdst : dst.writes = []) : Clean json toLower dst.received := by
  have hempty : dst.received = [] := by simp [ResponseWriter.received, hdst]
  rw [hempty]
  exact clean_nil hjson

/-- An error of the proxy itself. -/
lemma clean_proxyError (hjson : Lawful json value) (hupstream : toLower "upstream_error" = "upstream_error") (hdst : dst.writes = [])
    (status : ℕ) (message : String) :
    Clean json toLower (writeProxyJSONError json dst status "upstream_error" message).received := by
  obtain ⟨object, e, hobject, htype, he, hcode⟩ := hjson.encodeError "upstream_error" message
  rw [writeProxyJSONError, received_head hdst, clean_of_value hjson (hjson.object_value _ _ hobject), shed_iff hobject]
  have hshed : isCapacityShedErrorCode toLower "upstream_error" = false := by
    have htrim : GatewayModel.trimSpace "upstream_error" = "upstream_error" := by decide
    rw [isCapacityShedErrorCode, htrim, hupstream]
    decide
  have htop : topShed json toLower object = false := by simp [topShed, shedError, he, hcode, hshed]
  have hfailed : failedShed json toLower object = false := by
    rw [failedShed, show Object.raw object "type" = [] by rw [Object.raw, htype]; rfl, hjson.string_nil]
    rfl
  simp [htop, hfailed]

/-- The envelope of an error that has no response. -/
lemma envelope_spec (hjson : Lawful json value) (toLower : String → String) (e : ResponseError) : ∃ z,
    ((json.marshalError e).bind fun encoded => json.marshalObject ((∅ : Object).insert "error" encoded)) = some z ∧
      (Clean json toLower z ↔ isCapacityShedErrorCode toLower e.code = false) := by
  obtain ⟨y, errorObject, hy, hy', hcode⟩ := hjson.marshalError e
  have hmembers : ∀ key raw, ((∅ : Object).insert "error" y).lookup key = some raw → value raw ≠ none := by
    intro key raw hraw
    rw [FiniteMap.lookup_insert] at hraw
    split_ifs at hraw
    · cases hraw
      exact hjson.object_value y errorObject hy'
    · cases hraw
  obtain ⟨z, object, hz, hz', -, -, hsame⟩ := hjson.marshalObject _ hmembers
  refine ⟨z, by rw [hy, Option.bind_some, hz], ?_⟩
  have herror : value (Object.raw object "error") = value y := by rw [value_raw (hsame "error"), raw_insert, if_pos rfl]
  have htop : topShed json toLower object = isCapacityShedErrorCode toLower e.code := by
    rw [topShed, shedError_congr hjson herror, shedError, hy', Option.bind_some, hcode, Option.any_some]
  have htype : Object.raw object "type" = [] := by
    have hmissing := hsame "type"
    rw [FiniteMap.lookup_insert, if_neg (by decide), show (∅ : Object).lookup "type" = none from rfl, Option.map_none,
      Option.map_eq_none_iff] at hmissing
    rw [Object.raw, hmissing]
    rfl
  have hfailed : failedShed json toLower object = false := by
    rw [failedShed, htype, hjson.string_nil]
    rfl
  rw [clean_of_value hjson (hjson.object_value z object hz'), shed_iff hz', htop, hfailed]
  simp

/-- The answer of a conversion is clean exactly if the stream does not leak. -/
lemma clean_answer (hjson : Lawful json value) (hupstream : toLower "upstream_error" = "upstream_error") (hdst : dst.writes = [])
    (h : Follows json v s) (hvalue : ∀ type response, v.answer = some (type, response, none) → value response ≠ none)
    (hobject : ∀ type response e, v.answer = some (type, response, some e) → ∃ object, json.object response = some object) :
    Clean json toLower (s.answer json toLower o src dst).1.received ↔ ¬ v.Leaks json toLower := by
  have huntouched : Clean json toLower dst.received := clean_untouched hjson hdst
  -- With a response, the answer is that of the failover or the response.
  have hresponse {type : String} (htype : s.terminalType = type) (hfinal : s.finalResponse ≠ []) :
      Clean json toLower (s.answer json toLower o src dst).1.received ↔
        (v.handedOver toLower type ∨ Clean json toLower s.finalResponse) := by
    unfold Conversion.answer Verdict.handedOver
    dsimp only
    rw [if_neg hfinal, htype, h.terminal]
    by_cases hfailed : type = "response.failed"
    · rw [if_pos hfailed, if_pos hfailed]
      split_ifs with hretry
      · simp [hretry, huntouched]
      · rw [received_writeJSON hdst]
        simp [hretry]
    · rw [if_neg hfailed, if_neg hfailed]
      split_ifs with hcompleted
      · simp [hcompleted, huntouched]
      · rw [received_writeJSON hdst]
        exact (or_iff_right hcompleted).symm
  cases hanswer : v.answer with
  | none =>
    have hfinal := h.empty hanswer
    unfold Conversion.answer Verdict.Leaks
    dsimp only
    rw [if_pos hfinal, hanswer, h.error, h.terminal]
    cases herror : v.error with
    | none =>
      simp only [reduceCtorEq, false_and, exists_false, not_false_eq_true, iff_true]
      exact clean_proxyError hjson hupstream hdst 502 _
    | some e =>
      obtain ⟨z, hz, hclean⟩ := envelope_spec hjson toLower e
      dsimp only
      rw [hz]
      dsimp only
      split_ifs with hretry
      · simp [hretry, huntouched]
      · rw [received_writeJSON hdst, hclean]
        simp [hretry]
  | some answer =>
    obtain ⟨type, response, inserted⟩ := answer
    cases inserted with
    | none =>
      obtain ⟨htype, hfinal, hne⟩ := h.raw type response hanswer
      rw [hresponse htype (by rw [hfinal]; exact hne), hfinal, clean_of_value hjson (hvalue type response hanswer), Verdict.Leaks, hanswer]
      dsimp only
      rw [not_and, or_iff_not_imp_left]
    | some e =>
      obtain ⟨htype, hfinal⟩ := h.filled type response e hanswer
      obtain ⟨object, hobj⟩ := hobject type response e hanswer
      obtain ⟨z, o', hz, hz', hbraced, htop, hfailed⟩ := responseJSONWithError_spec hjson toLower hobj e
      have hfinal' : s.finalResponse = z := Option.some.inj (hfinal.symm.trans hz)
      have hne : s.finalResponse ≠ [] := by
        rw [hfinal']
        rintro rfl
        obtain ⟨rest, hrest⟩ := hbraced.front
        cases hrest
      rw [hresponse htype hne, hfinal', clean_of_value hjson (hjson.object_value z o' hz'), shed_iff hz', htop, hfailed, Verdict.Leaks, hanswer]
      dsimp only
      rw [not_and, or_iff_not_imp_left, hobj]
      simp

/-- The response of a verdict is one that an event has. -/
structure Sourced (json : Json) (value : Bytes → Option V) (v : Verdict) : Prop where
  raw : ∀ type response inserted, v.answer = some (type, response, inserted) → value response ≠ none
  filled : ∀ type response e, v.answer = some (type, response, some e) → ∃ object, json.object response = some object

lemma sourced_next (hjson : Lawful json value) (h : Sourced json value v) (line : Bytes) : Sourced json value (v.next json line) := by
  unfold Verdict.next
  cases hevent : (ssePayload line).bind json.event with
  | none => exact h
  | some event =>
    obtain ⟨type, response, error⟩ := event
    obtain ⟨payload, -, hpayload⟩ := Option.bind_eq_some_iff.mp hevent
    dsimp only
    have hkept : Sourced json value (match if type = "error" then error else none with
        | some e => { v with error := some e, terminal := { v.terminal with error := some e } }
        | none => v) := by
      cases (if type = "error" then error else none) with
      | none => exact h
      | some e => exact ⟨h.raw, h.filled⟩
    by_cases hterminal : isTerminalResponseEvent type = true ∧ response ≠ [] ∧ response ≠ bytes "null"
    · rw [if_pos hterminal]
      have hvalue := hjson.event payload type response error hpayload hterminal.2.1
      have hnone {t : String} {r : Bytes} {i : Option ResponseError} {i' : Option ResponseError}
          (heq : some (type, response, i') = some (t, r, i)) : value r ≠ none := by
        cases heq
        exact hvalue
      cases hparsed : parseJSONResponseUsage json response with
      | none => exact ⟨fun _ _ _ => hnone, fun _ _ _ heq => by cases heq⟩
      | some parsed =>
        dsimp only
        generalize (if parsed.error.isNone = true then _ else none) = e
        cases e with
        | none => exact ⟨fun _ _ _ => hnone, fun _ _ _ heq => by cases heq⟩
        | some e =>
          refine ⟨fun _ _ _ => hnone, ?_⟩
          rintro t r e' heq
          cases heq
          unfold parseJSONResponseUsage at hparsed
          obtain ⟨r, hr, -⟩ := Option.map_eq_some_iff.mp hparsed
          exact hjson.response response r hr
    · rw [if_neg hterminal]
      exact hkept

lemma sourced_verdict (hjson : Lawful json value) (lines : List Bytes) : Sourced json value (verdict json lines) := by
  induction lines using List.reverseRecOn with
  | nil => exact ⟨by simp [verdict, Verdict.initial], by simp [verdict, Verdict.initial]⟩
  | append_singleton lines line ih =>
    rw [verdict_append]
    exact sourced_next hjson ih line

/-- The end of a stream is seen only if every line fits. -/
lemma readLimitedLines_eof {ending : ReadError} {lines : List Bytes} {last : Bytes}
    (h : (readLimitedLines ending lines).getLast? = some (last, some .eof)) :
    (∀ line ∈ lines, line.length ≤ maxSSELineBytes) ∧ ending = .eof := by
  induction lines with
  | nil => cases h
  | cons line lines ih =>
    cases lines with
    | nil =>
      unfold readLimitedLines at h
      split_ifs at h with hlong
      · cases h
      · simp only [List.getLast?_singleton, Option.some.injEq, Prod.mk.injEq] at h
        exact ⟨by simpa using hlong, h.2⟩
    | cons line' lines =>
      unfold readLimitedLines at h
      split_ifs at h with hlong
      · cases h
      · have hne : readLimitedLines ending (line' :: lines) ≠ [] := by
          cases lines <;> unfold readLimitedLines <;> split_ifs <;> simp
        rw [List.getLast?_cons_of_ne_nil hne] at h
        obtain ⟨hshort, hending⟩ := ih h
        exact ⟨List.forall_mem_cons.mpr ⟨by simpa using hlong, hshort⟩, hending⟩

/-- The conversion of a stream to a response is clean exactly if the stream, when it is read to its end, does not leak. -/
lemma copySSEAsJSON_clean (hjson : Lawful json value) (hupstream : toLower "upstream_error" = "upstream_error")
    (hdst : dst.writes = []) : Clean json toLower (copySSEAsJSON json toLower o src dst).1.received ↔
      ¬ (Finished json toLower o src ∧ (verdict json (splitAfterNewline src.body)).Leaks json toLower) := by
  have huntouched : Clean json toLower dst.received := clean_untouched hjson hdst
  obtain ⟨body, init, last, cause, hreads, hsplit, hwhole⟩ := reads_form src
  have hreached : Reached json toLower o (init ++ [last]) [] Conversion.initial := ⟨follows_initial, rfl, by simp⟩
  have hconverts : Converts json toLower o src dst (init ++ [last]) cause (copySSEAsJSON json toLower o src dst) := by
    unfold copySSEAsJSON
    rw [hreads]
    exact loop_converts hjson (List.nil_append _) hreached
  generalize copySSEAsJSON json toLower o src dst = out at hconverts ⊢
  cases hconverts with
  | @late n hn hlate hquiet =>
    refine iff_of_true huntouched ?_
    rintro ⟨hfinished, -⟩
    obtain ⟨rfl, -⟩ := hwhole hfinished.short
    rw [hsplit] at hn hquiet
    obtain ⟨line, hline, houtput⟩ := hfinished.timely n hn hlate
    rw [hquiet line hline] at houtput
    cases houtput
  | broken hcause =>
    refine iff_of_true (clean_proxyError hjson hupstream hdst 502 _) ?_
    rintro ⟨hfinished, -⟩
    obtain ⟨-, hending⟩ := hwhole hfinished.short
    exact hcause (hending.trans hfinished.ending)
  | @answered s hcause hs htimely =>
    have hsourced := sourced_verdict hjson (init ++ [last])
    have hlast : (readLimitedLines src.ending (splitAfterNewline src.body)).getLast? = some (last, some .eof) := by
      rw [← Response.reads, hreads, hcause]
      simp
    obtain ⟨hshort, hending⟩ := readLimitedLines_eof hlast
    obtain ⟨rfl, -⟩ := hwhole hshort
    rw [clean_answer hjson hupstream hdst hs (fun type response => hsourced.raw type response none) hsourced.filled, hsplit]
    rw [hsplit] at htimely
    have hfinished : Finished json toLower o src := ⟨hending, hshort, htimely⟩
    rw [not_and, imp_iff_right hfinished]

end Answers

section Main

variable {json : Json} {toLower : String → String} {V : Type} {value : Bytes → Option V} {dst : ResponseWriter}

lemma copyBufferedResponse_clean (hjson : Lawful json value)
    (hlower : toLower capacityShedRetryableClientCode = capacityShedRetryableClientCode)
    (hupstream : toLower "upstream_error" = "upstream_error") (hdst : dst.writes = []) (o : Outside) (src : Response) :
    Clean json toLower (copyBufferedResponse json toLower o src dst).1.received ↔
      ¬ (src.body.length ≤ maxBufferedResponseBytes ∧ src.ending = .eof ∧ BodyEscapes json toLower src.body) := by
  unfold copyBufferedResponse
  split_ifs with hlong hending
  · refine iff_of_true (clean_proxyError hjson hupstream hdst 502 _) ?_
    rintro ⟨hshort, -⟩
    omega
  · refine iff_of_true (clean_proxyError hjson hupstream hdst 502 _) ?_
    rintro ⟨-, heof, -⟩
    exact hending heof
  · rw [writeLast, received_head hdst, clean_sanitizeResponse hjson hlower]
    simp [not_lt.mp hlong, not_not.mp hending]

lemma writeStreamFailoverError_clean (hjson : Lawful json value)
    (hlower : toLower capacityShedRetryableClientCode = capacityShedRetryableClientCode) (hdst : dst.writes = [])
    (src : Response) (failure : StreamFailoverError) :
    Clean json toLower (writeStreamFailoverError json toLower src dst failure true).received ↔
      (∃ line ∈ splitAfterNewline failure.streamBody, Panics json line) ∨ ¬ Shed json toLower failure.streamBody ∧
        ∀ line ∈ splitAfterNewline failure.streamBody, ¬ LineEscapes json toLower line := by
  have hwrites : ((startHeader src dst).writeHeader src.statusCode).writes = [] := hdst
  have hpanics : (rewritten json toLower (splitAfterNewline failure.streamBody)).isSome ↔ _ :=
    rewritten_isSome toLower (splitAfterNewline failure.streamBody)
  unfold writeStreamFailoverError
  rw [if_pos rfl]
  dsimp only
  rw [show sanitizeCapacityShedSSEForClient json toLower failure.streamBody =
    rewritten json toLower (splitAfterNewline failure.streamBody) from rfl]
  cases htext : rewritten json toLower (splitAfterNewline failure.streamBody) with
  | none =>
    refine iff_of_true (clean_untouched hjson hwrites) (.inl ?_)
    by_contra hnone
    rw [htext] at hpanics
    exact absurd (hpanics.mpr fun line hline hpanic => hnone ⟨line, hline, hpanic⟩) (by simp)
  | some text =>
    have hreceived : (((startHeader src dst).writeHeader src.statusCode).write text).received = text := by
      simp [ResponseWriter.received, ResponseWriter.write, hwrites]
    have hsound : ¬ ∃ line ∈ splitAfterNewline failure.streamBody, Panics json line := by
      rintro ⟨line, hline, hpanic⟩
      rw [htext] at hpanics
      exact hpanics.mp rfl line hline hpanic
    dsimp only
    rw [hreceived, clean_rewritten hjson hlower (List.append_nil _) htext, flatten_splitAfterNewline, or_iff_right hsound]

/-- The rewriting of a stream does nothing the second time. -/
lemma sanitizeSSE_idempotent (hjson : Lawful json value)
    (hlower : toLower capacityShedRetryableClientCode = capacityShedRetryableClientCode) {body out : Bytes}
    (h : sanitizeCapacityShedSSEForClient json toLower body = some out) : sanitizeCapacityShedSSEForClient json toLower out = some out := by
  obtain ⟨outs, hall, rfl⟩ := rewritten_iff.mp (show rewritten json toLower (splitAfterNewline body) = some out from h)
  have hagain : ∀ out ∈ outs, sanitizeCapacityShedSSELineForClient json toLower out = some out := by
    intro out hout
    obtain ⟨i, hi, rfl⟩ := List.getElem_of_mem hout
    obtain ⟨hlength, hget⟩ := List.forall₂_iff_get.mp hall
    exact sanitizeLine_idempotent hjson hlower (hget i (hlength ▸ hi) hi)
  have hlined := lined_rewritten hjson hlower hall (lined_of_split (List.append_nil _))
  refine rewritten_iff.mpr ?_
  rcases split_of_lined hlined with heq | heq
  · exact ⟨outs, by rw [heq]; exact List.forall₂_same.mpr hagain, rfl⟩
  · refine ⟨outs ++ [[]], ?_, by simp⟩
    rw [heq]
    exact List.rel_append (List.forall₂_same.mpr hagain) (.cons rfl .nil)

/-- When no code that sheds load reaches a client, for each of the functions that answer one; and the rewriting changes
nothing but that code, and nothing the second time. -/
theorem shed_codes_reach_clients_only_so (hjson : Lawful json value)
    (hlower : toLower capacityShedRetryableClientCode = capacityShedRetryableClientCode)
    (hupstream : toLower "upstream_error" = "upstream_error") (hdst : dst.writes = []) :
    (∀ o src pendingLimit, StreamKept json toLower src.body →
      Clean json toLower (copySSEWithPendingLimitAndTimeout json toLower o src pendingLimit dst).1.dst.received) ∧
    (∀ o src, Clean json toLower (copySSEAsJSON json toLower o src dst).1.received ↔
      ¬ (Finished json toLower o src ∧ (verdict json (splitAfterNewline src.body)).Leaks json toLower)) ∧
    (∀ o src, Clean json toLower (copyBufferedResponse json toLower o src dst).1.received ↔
      ¬ (src.body.length ≤ maxBufferedResponseBytes ∧ src.ending = .eof ∧ BodyEscapes json toLower src.body)) ∧
    (∀ src failure, Clean json toLower (writeStreamFailoverError json toLower src dst failure true).received ↔
      (∃ line ∈ splitAfterNewline failure.streamBody, Panics json line) ∨ ¬ Shed json toLower failure.streamBody ∧
        ∀ line ∈ splitAfterNewline failure.streamBody, ¬ LineEscapes json toLower line) ∧
    (∀ src failure, Clean json toLower (writeStreamFailoverError json toLower src dst failure false).received ↔
      ¬ BodyEscapes json toLower failure.response) ∧
    (∀ o src body, Clean json toLower (writeDrainedResponse json toLower o src dst body).1.received ↔
      ¬ BodyEscapes json toLower body) ∧
    (∀ body, let out := sanitizeCapacityShedResponseForClient json toLower body
      sanitizeCapacityShedResponseForClient json toLower out = out ∧ (out = body ∨ ErrorChange json value body out)) ∧
    (∀ line out, sanitizeCapacityShedSSELineForClient json toLower line = some out →
      sanitizeCapacityShedSSELineForClient json toLower out = some out ∧ LineChange json value line out) ∧
    ∀ body out, sanitizeCapacityShedSSEForClient json toLower body = some out →
      sanitizeCapacityShedSSEForClient json toLower out = some out := by
  refine ⟨?_, ?_, ?_, ?_, ?_, ?_, ?_, ?_, ?_⟩
  · exact fun o src pendingLimit h => copySSE_clean hjson hlower hupstream hdst h
  · exact fun o src => copySSEAsJSON_clean hjson hupstream hdst
  · exact copyBufferedResponse_clean hjson hlower hupstream hdst
  · exact writeStreamFailoverError_clean hjson hlower hdst
  · intro src failure
    rw [writeStreamFailoverError, if_neg (by decide), received_head hdst, clean_sanitizeResponse hjson hlower]
  · intro o src body
    rw [writeDrainedResponse, writeLast, received_head hdst, clean_sanitizeResponse hjson hlower]
  · intro body out
    refine ⟨sanitizeResponse_idempotent hjson hlower body, ?_⟩
    rcases sanitizeResponse_spec hjson hlower body with ⟨-, hsame⟩ | ⟨_, z, _, -, -, hz, -, -, -, hchange⟩
    · exact .inl hsame
    · exact .inr (by rw [show out = z from hz]; exact hchange)
  · exact fun line out h => ⟨sanitizeLine_idempotent hjson hlower h, sanitizeLine_change hjson hlower h⟩
  · exact fun body out h => sanitizeSSE_idempotent hjson hlower h

end Main

section Sample

/-- The listed values have the listed texts, and every other one a text of its own. -/
noncomputable def coded {α : Type} (table : List (α × Bytes)) (text : α → Bytes) (a : α) : Bytes :=
  open Classical in ((table.find? fun e => e.1 = a).map Prod.snd).getD (text a)

lemma coded_cases {α : Type} (table : List (α × Bytes)) (text : α → Bytes) (a : α) :
    (∃ e ∈ table, e.1 = a ∧ coded table text a = e.2) ∨ coded table text a = text a := by
  classical
  unfold coded
  cases h : table.find? fun e => e.1 = a with
  | none => exact .inr rfl
  | some e => exact .inl ⟨e, List.mem_of_find?_eq_some h, by simpa using List.find?_some h, rfl⟩

lemma coded_injective {α : Type} {table : List (α × Bytes)} {text : α → Bytes} (htext : Function.Injective text)
    (hlisted : ∀ e ∈ table, ∀ a, e.2 ≠ text a) (hdistinct : ∀ e ∈ table, ∀ e' ∈ table, e.2 = e'.2 → e.1 = e'.1) :
    Function.Injective (coded table text) := by
  intro a b hab
  rcases coded_cases table text a with ⟨e, he, rfl, ha⟩ | ha
  · rcases coded_cases table text b with ⟨e', he', rfl, hb⟩ | hb
    · exact hdistinct e he e' he' (by rw [← ha, ← hb, hab])
    · exact absurd (by rw [← ha, ← hb, hab]) (hlisted e he b)
  · rcases coded_cases table text b with ⟨e', he', rfl, hb⟩ | hb
    · exact absurd (by rw [← ha, ← hb, hab]) (hlisted e' he' a)
    · exact htext (by rw [← ha, ← hb, hab])

lemma coded_listed {α : Type} {table : List (α × Bytes)} (text : α → Bytes) {a : α} {x : Bytes}
    (hmem : (a, x) ∈ table) (hdistinct : ∀ e ∈ table, e.1 = a → e.2 = x) : coded table text a = x := by
  classical
  unfold coded
  cases h : table.find? fun e => e.1 = a with
  | none => exact absurd (by simp) (List.find?_eq_none.mp h _ hmem)
  | some e => exact hdistinct e (List.mem_of_find?_eq_some h) (by simpa using List.find?_some h)

lemma countable_string : Countable String := by
  have hchar : Countable Char := (Function.LeftInverse.injective Char.ofNat_toNat).countable
  have hlist : Function.Injective String.toList := fun _ _ h => String.toList_injective h
  exact hlist.countable

lemma countable_object : Countable Object := by
  have hstring := countable_string
  have hentries : Function.Injective (fun o : Object => o.entries) := fun _ _ h => AList.ext h
  exact hentries.countable

/-- A string of its own for each number. -/
def stringText (n : ℕ) : Bytes := 34 :: (List.replicate n 120 ++ [34])

/-- An object of its own for each number. -/
def objectText (n : ℕ) : Bytes := 123 :: 34 :: (List.replicate n 120 ++ [34, 58, 48, 125])

lemma stringText_injective : Function.Injective stringText := by
  intro a b h
  simpa [stringText] using congrArg List.length h

lemma objectText_injective : Function.Injective objectText := by
  intro a b h
  simpa [objectText] using congrArg List.length h

lemma plain_replicate (n : ℕ) : JsonText.Plain (List.replicate n 120) := by
  intro b hb
  rw [List.eq_of_mem_replicate hb]
  decide

lemma valid_stringText (n : ℕ) : JsonText.Valid (stringText n) = true := by
  rw [JsonText.Valid, stringText, JsonText.scan, show JsonText.step JsonText.initial 34 = some ⟨[], .text false⟩ from rfl,
    Option.bind_some, JsonText.scan_append, JsonText.scan_plain (plain_replicate n)]
  rfl

lemma valid_objectText (n : ℕ) : JsonText.Valid (objectText n) = true := by
  rw [JsonText.Valid, objectText, JsonText.scan, show JsonText.step JsonText.initial 123 = some ⟨[.object], .member⟩ from rfl,
    Option.bind_some, JsonText.scan, show JsonText.step ⟨[.object], .member⟩ 34 = some ⟨[.object], .text true⟩ from rfl,
    Option.bind_some, JsonText.scan_append, JsonText.scan_plain (plain_replicate n)]
  rfl

/-- The object with the given members. -/
def objectOf (members : List (String × Bytes)) : Object := members.foldr (fun e o => o.insert e.1 e.2) ∅

def overloadedError : Bytes := bytes "\x7b\"code\":\"slow_down\"\x7d"

def clientError : Bytes := bytes "\x7b\"code\":\"server_error\"\x7d"

def overloadedBody : Bytes := bytes "\x7b\"error\":\x7b\"code\":\"slow_down\"\x7d\x7d"

def clientBody : Bytes := bytes "\x7b\"error\":\x7b\"code\":\"server_error\"\x7d\x7d"

def overloadedEvent : Bytes := bytes "\x7b\"type\":\"error\",\"error\":\x7b\"code\":\"slow_down\"\x7d\x7d"

def blockedError : Bytes := bytes "\x7b\"code\":\"slow_down\",\"message\":\"blocked by policy\"\x7d"

def blockedResponse : Bytes := bytes "\x7b\"error\":\x7b\"code\":\"slow_down\",\"message\":\"blocked by policy\"\x7d\x7d"

def blockedEvent : Bytes :=
  bytes "\x7b\"type\":\"response.failed\",\"response\":\x7b\"error\":\x7b\"code\":\"slow_down\",\"message\":\"blocked by policy\"\x7d\x7d\x7d"

def sampleStrings : List (String × Bytes) :=
  ["slow_down", "server_error", "error", "response.failed", "blocked by policy"].map fun s => (s, bytes "\"" ++ bytes s ++ bytes "\"")

def sampleObjects : List (Object × Bytes) :=
  [(objectOf [("code", bytes "\"slow_down\"")], overloadedError),
    (objectOf [("code", bytes "\"server_error\"")], clientError),
    (objectOf [("error", overloadedError)], overloadedBody),
    (objectOf [("error", clientError)], clientBody),
    (objectOf [("type", bytes "\"error\""), ("error", overloadedError)], overloadedEvent),
    (objectOf [("code", bytes "\"slow_down\""), ("message", bytes "\"blocked by policy\"")], blockedError),
    (objectOf [("error", blockedError)], blockedResponse),
    (objectOf [("type", bytes "\"response.failed\""), ("response", blockedResponse)], blockedEvent)]

noncomputable def encodeString : String → Bytes :=
  haveI := countable_string
  coded sampleStrings fun s => stringText ((exists_injective_nat String).choose s)

noncomputable def encodeObject : Object → Bytes :=
  haveI := countable_object
  coded sampleObjects fun o => objectText ((exists_injective_nat Object).choose o)

lemma encodeString_injective : Function.Injective encodeString := by
  have := countable_string
  refine coded_injective (stringText_injective.comp (exists_injective_nat String).choose_spec) ?_ ?_
  · intro e he s heq
    have hall : sampleStrings.all (fun e => e.2.any fun b => b ≠ 34 && b ≠ 120) = true := by decide
    obtain ⟨b, hb, hne⟩ := List.any_eq_true.mp (List.all_eq_true.mp hall e he)
    rw [heq] at hb
    simp only [stringText, List.mem_cons, List.mem_append, List.mem_replicate, List.not_mem_nil, or_false] at hb
    rcases hb with rfl | ⟨-, rfl⟩ | rfl
    all_goals cases hne
  · decide

/-- The listed texts of objects, on one line and in braces, and what no other text of an object has: a third byte, and a last
one but the brace. -/
structure ListedText (x : Bytes) : Prop where
  valid : JsonText.Valid x = true
  line : newline ∉ x
  front : x.head? = some 123
  back : x.getLast? = some 125
  last : (x.reverse.drop 1).head? ≠ some 48
  third : x.getD 2 0 ≠ 114

lemma sampleObjects_listedText : ∀ e ∈ sampleObjects, ListedText e.2 := by
  have hall : sampleObjects.all (fun e => JsonText.Valid e.2 && decide (newline ∉ e.2) && e.2.head? == some 123 &&
      e.2.getLast? == some 125 && decide ((e.2.reverse.drop 1).head? ≠ some 48) && decide (e.2.getD 2 0 ≠ 114)) = true := by
    unfold sampleObjects overloadedError clientError overloadedBody clientBody overloadedEvent blockedError blockedResponse
      blockedEvent
    repeat rw [bytes_ofList]
    rfl
  intro e he
  have hentry := List.all_eq_true.mp hall e he
  simp only [Bool.and_eq_true, decide_eq_true_eq, beq_iff_eq] at hentry
  obtain ⟨⟨⟨⟨⟨hvalid, hline⟩, hfront⟩, hback⟩, hlast⟩, hthird⟩ := hentry
  exact ⟨hvalid, hline, hfront, hback, hlast, hthird⟩

lemma sampleObjects_nodup : (sampleObjects.map Prod.snd).Nodup := by
  unfold sampleObjects overloadedError clientError overloadedBody clientBody overloadedEvent blockedError blockedResponse
    blockedEvent
  repeat rw [bytes_ofList]
  decide

lemma encodeObject_injective : Function.Injective encodeObject := by
  have := countable_object
  refine coded_injective (objectText_injective.comp (exists_injective_nat Object).choose_spec) ?_ ?_
  · intro e he o heq
    have hne := (sampleObjects_listedText e he).last
    rw [heq] at hne
    simp [objectText] at hne
  · have hnodup := sampleObjects_nodup
    intro e he e' he' heq
    rw [List.inj_on_of_nodup_map hnodup he he' heq]

lemma encodeObject_listed {object : Object} {x : Bytes} (hmem : (object, x) ∈ sampleObjects) : encodeObject object = x := by
  have hnodup : (sampleObjects.map fun e => e.1.entries).Nodup := by decide
  refine coded_listed _ hmem ?_
  intro e he heq
  rw [List.inj_on_of_nodup_map hnodup he hmem (congrArg AList.entries heq)]

lemma encodeString_listed {s : String} {x : Bytes} (hmem : (s, x) ∈ sampleStrings) : encodeString s = x := by
  have hnodup : (sampleStrings.map Prod.fst).Nodup := by decide
  refine coded_listed _ hmem ?_
  intro e he heq
  rw [List.inj_on_of_nodup_map hnodup he hmem heq]

lemma valid_encodeString (s : String) : JsonText.Valid (encodeString s) = true := by
  have := countable_string
  have hall : sampleStrings.all (fun e => JsonText.Valid e.2) = true := by decide
  rcases coded_cases sampleStrings (fun s => stringText ((exists_injective_nat String).choose s)) s with ⟨e, he, -, hs⟩ | hs
  · rw [encodeString, hs]
    exact List.all_eq_true.mp hall e he
  · rw [encodeString, hs]
    exact valid_stringText _

/-- The text of an object is valid, on one line and in braces. -/
lemma encodeObject_text (object : Object) : JsonText.Valid (encodeObject object) = true ∧ newline ∉ encodeObject object ∧
    Braced (encodeObject object) := by
  have := countable_object
  rcases coded_cases sampleObjects (fun o => objectText ((exists_injective_nat Object).choose o)) object with ⟨e, he, -, ho⟩ | ho
  · have hlisted := sampleObjects_listedText e he
    rw [encodeObject, ho]
    exact ⟨hlisted.valid, hlisted.line, List.head?_eq_some_iff.mp hlisted.front, List.getLast?_eq_some_iff.mp hlisted.back⟩
  · rw [encodeObject, ho]
    generalize (exists_injective_nat Object).choose object = n
    refine ⟨valid_objectText n, by simp [objectText, newline], ⟨_, rfl⟩, ?_⟩
    exact ⟨123 :: 34 :: (List.replicate n 120 ++ [34, 58, 48]), by simp [objectText]⟩

/-- The members of the object have texts. -/
def Members (object : Object) : Prop := ∀ key raw, object.lookup key = some raw → JsonText.Valid raw = true

noncomputable def decodeObject (x : Bytes) : Option Object :=
  open Classical in if x = bytes "null" then some ∅
    else if h : ∃ object, Members object ∧ encodeObject object = x then some h.choose else none

noncomputable def decodeString (x : Bytes) : Option String :=
  open Classical in if h : ∃ s, encodeString s = x then some h.choose else none

/-- `encoding/json` as it is on the listed texts. -/
noncomputable def sampleJson : Json where
  eventType x := if x = blockedEvent then some "response.failed" else if x = overloadedEvent then some "error" else none
  typeAndResponse x :=
    if x = blockedEvent then some ("response.failed", blockedResponse) else if x = overloadedEvent then some ("error", []) else none
  typeAndError x :=
    if x = blockedEvent then some ("response.failed", none)
    else if x = overloadedEvent then some ("error", some ⟨"", "slow_down", ""⟩) else none
  event x :=
    if x = blockedEvent then some ("response.failed", blockedResponse, none)
    else if x = overloadedEvent then some ("error", [], some ⟨"", "slow_down", ""⟩) else none
  errorField x :=
    if x = blockedResponse then some (some ⟨"", "slow_down", "blocked by policy"⟩)
    else if x = overloadedEvent ∨ x = overloadedBody then some (some ⟨"", "slow_down", ""⟩)
    else if x = blockedEvent then some none else none
  response x :=
    if x = blockedResponse then some (some ⟨"", "slow_down", "blocked by policy"⟩, 0)
    else if x = overloadedBody then some (some ⟨"", "slow_down", ""⟩, 0) else none
  object := decodeObject
  string := decodeString
  marshalObject object := some (encodeObject object)
  marshalString s := some (encodeString s)
  marshalError e := some (encodeObject (objectOf [("code", encodeString e.code)]))
  encodeError code _ := encodeObject (objectOf [("error", encodeObject (objectOf [("code", encodeString code)]))])

def sampleValue (x : Bytes) : Option Bytes := if JsonText.Valid x then some x else none

lemma sampleValue_ne_none {x : Bytes} : sampleValue x ≠ none ↔ JsonText.Valid x = true := by
  unfold sampleValue
  split_ifs with h
  · simp [h]
  · simp [h]

lemma decodeString_encodeString (s : String) : decodeString (encodeString s) = some s := by
  have h : ∃ s', encodeString s' = encodeString s := ⟨s, rfl⟩
  rw [decodeString, dif_pos h, encodeString_injective h.choose_spec]

lemma decodeString_some {x : Bytes} {s : String} (h : decodeString x = some s) : encodeString s = x := by
  unfold decodeString at h
  split_ifs at h with hex
  cases h
  exact hex.choose_spec

lemma null_ne_encodeObject (object : Object) : encodeObject object ≠ bytes "null" := by
  intro h
  obtain ⟨rest, hrest⟩ := (encodeObject_text object).2.2.front
  rw [h] at hrest
  cases hrest

lemma decodeObject_encodeObject {object : Object} (hmembers : Members object) : decodeObject (encodeObject object) = some object := by
  have h : ∃ object', Members object' ∧ encodeObject object' = encodeObject object := ⟨object, hmembers, rfl⟩
  rw [decodeObject, if_neg (null_ne_encodeObject object), dif_pos h, encodeObject_injective h.choose_spec.2]

lemma decodeObject_some {x : Bytes} {object : Object} (h : decodeObject x = some object) :
    x = bytes "null" ∧ object = ∅ ∨ Members object ∧ encodeObject object = x := by
  unfold decodeObject at h
  split_ifs at h with hnull hex
  · cases h
    exact .inl ⟨hnull, rfl⟩
  · cases h
    exact .inr hex.choose_spec

lemma valid_of_decodeObject {x : Bytes} {object : Object} (h : decodeObject x = some object) : JsonText.Valid x = true := by
  rcases decodeObject_some h with ⟨rfl, -⟩ | ⟨-, rfl⟩
  · decide
  · exact (encodeObject_text object).1

lemma members_objectOf {members : List (String × Bytes)} (h : ∀ e ∈ members, JsonText.Valid e.2 = true) : Members (objectOf members) := by
  induction members with
  | nil =>
    intro key raw hraw
    cases hraw
  | cons e members ih =>
    intro key raw hraw
    rw [objectOf, List.foldr_cons, FiniteMap.lookup_insert] at hraw
    split_ifs at hraw
    · cases hraw
      exact h e (by simp)
    · exact ih (fun e he => h e (List.mem_cons_of_mem _ he)) key raw hraw

lemma decodeObject_listed {members : List (String × Bytes)} {x : Bytes} (hmem : (objectOf members, x) ∈ sampleObjects)
    (h : ∀ e ∈ members, JsonText.Valid e.2 = true) : decodeObject x = some (objectOf members) := by
  rw [← encodeObject_listed hmem]
  exact decodeObject_encodeObject (members_objectOf h)

lemma decodeString_listed {s : String} {x : Bytes} (hmem : (s, x) ∈ sampleStrings) : decodeString x = some s := by
  rw [← encodeString_listed hmem, decodeString_encodeString]

lemma eq_or_invalid {a b : Bytes} (h : sampleValue a = sampleValue b) :
    a = b ∨ JsonText.Valid a = false ∧ JsonText.Valid b = false := by
  unfold sampleValue at h
  split_ifs at h with ha hb hb
  · exact .inl (Option.some.inj h)
  · exact .inr ⟨by simpa using ha, by simpa using hb⟩

lemma decodeString_invalid {x : Bytes} (h : JsonText.Valid x = false) : decodeString x = none := by
  cases hs : decodeString x with
  | none => rfl
  | some s =>
    have hvalid := valid_encodeString s
    rw [decodeString_some hs, h] at hvalid
    cases hvalid

lemma decodeObject_invalid {x : Bytes} (h : JsonText.Valid x = false) : decodeObject x = none := by
  cases ho : decodeObject x with
  | none => rfl
  | some object =>
    rw [valid_of_decodeObject ho] at h
    cases h

/-- The object that holds an error with a code. -/
lemma decodeObject_code (code : String) : decodeObject (encodeObject (objectOf [("code", encodeString code)])) =
    some (objectOf [("code", encodeString code)]) :=
  decodeObject_encodeObject (members_objectOf (by simpa using valid_encodeString code))

lemma decodeObject_failedPayload (requestID message : String) : decodeObject (failedPayload requestID message) = none := by
  have hthird (object : Object) : (encodeObject object).getD 2 0 ≠ 114 := by
    have := countable_object
    rcases coded_cases sampleObjects (fun o => objectText ((exists_injective_nat Object).choose o)) object with ⟨e, he, -, ho⟩ | ho
    · rw [encodeObject, ho]
      exact (sampleObjects_listedText e he).third
    · rw [encodeObject, ho]
      generalize (exists_injective_nat Object).choose object = n
      cases n <;> simp [objectText, List.replicate_succ]
  cases h : decodeObject (failedPayload requestID message) with
  | none => rfl
  | some object =>
    have hbyte : (failedPayload requestID message).getD 2 0 = 114 := by
      rw [failedPayload, bytes_ofList]
      rfl
    rcases decodeObject_some h with ⟨hnull, -⟩ | ⟨-, heq⟩
    · rw [hnull] at hbyte
      exact absurd hbyte (by decide)
    · rw [← heq] at hbyte
      exact absurd hbyte (hthird object)

lemma decode_overloadedError : decodeObject overloadedError = some (objectOf [("code", bytes "\"slow_down\"")]) :=
  decodeObject_listed (by simp [sampleObjects]) (by decide)

lemma decode_overloadedBody : decodeObject overloadedBody = some (objectOf [("error", overloadedError)]) :=
  decodeObject_listed (by simp [sampleObjects]) (by decide)

lemma decode_overloadedEvent :
    decodeObject overloadedEvent = some (objectOf [("type", bytes "\"error\""), ("error", overloadedError)]) :=
  decodeObject_listed (by simp [sampleObjects]) (by decide)

lemma decode_blockedError :
    decodeObject blockedError = some (objectOf [("code", bytes "\"slow_down\""), ("message", bytes "\"blocked by policy\"")]) :=
  decodeObject_listed (by simp [sampleObjects]) (by decide)

lemma decode_blockedResponse : decodeObject blockedResponse = some (objectOf [("error", blockedError)]) :=
  decodeObject_listed (by simp [sampleObjects]) (by decide)

lemma decode_code : decodeString (bytes "\"slow_down\"") = some "slow_down" := decodeString_listed (by decide)

lemma sampleJson_lawful : Lawful sampleJson sampleValue where
  valid x h := sampleValue_ne_none.mp h
  object_value x o h := sampleValue_ne_none.mpr (valid_of_decodeObject h)
  member_value x o h key raw hraw := by
    rcases decodeObject_some h with ⟨-, rfl⟩ | ⟨hmembers, -⟩
    · cases hraw
    · exact sampleValue_ne_none.mpr (hmembers key raw hraw)
  string_nil := decodeString_invalid (by decide)
  object_null := by rw [show sampleJson.object = decodeObject from rfl, decodeObject, if_pos rfl]
  string_congr a b h := by
    rcases eq_or_invalid h with rfl | ⟨ha, hb⟩
    · rfl
    · exact (decodeString_invalid ha).trans (decodeString_invalid hb).symm
  object_congr a b h := by
    have hrefl : ∀ found : Option Object, Option.Rel (fun o o' : Object =>
        ∀ key, (o'.lookup key).map sampleValue = (o.lookup key).map sampleValue) found found := by
      intro found
      cases found with
      | none => exact .none
      | some o => exact .some fun _ => rfl
    rcases eq_or_invalid h with rfl | ⟨ha, hb⟩
    · exact hrefl _
    · rw [show sampleJson.object = decodeObject from rfl, decodeObject_invalid ha, decodeObject_invalid hb]
      exact .none
  braced x o h hne := by
    rcases decodeObject_some h with ⟨-, rfl⟩ | ⟨-, rfl⟩
    · exact absurd rfl hne
    · refine ⟨[], encodeObject o, [], by simp, ?_, ?_, (encodeObject_text o).2.2⟩ <;> simp [JsonText.Blank]
  marshalObject o h := by
    have hmembers : Members o := fun key raw hraw => sampleValue_ne_none.mp (h key raw hraw)
    exact ⟨encodeObject o, o, rfl, decodeObject_encodeObject hmembers, (encodeObject_text o).2.2, (encodeObject_text o).2.1, fun _ => rfl⟩
  marshalString s := ⟨encodeString s, rfl, decodeString_encodeString s, sampleValue_ne_none.mpr (valid_encodeString s)⟩
  marshalError e := ⟨_, _, rfl, decodeObject_code e.code, decodeString_encodeString e.code⟩
  encodeError code message := by
    refine ⟨objectOf [("error", encodeObject (objectOf [("code", encodeString code)]))], objectOf [("code", encodeString code)], ?_,
      rfl, decodeObject_code code, decodeString_encodeString code⟩
    exact decodeObject_encodeObject (members_objectOf (by simpa using (encodeObject_text _).1))
  response x r h := by
    simp only [sampleJson] at h
    split_ifs at h with hblocked hoverloaded
    · rw [hblocked]
      exact ⟨_, decode_blockedResponse⟩
    · rw [hoverloaded]
      exact ⟨_, decode_overloadedBody⟩
  event x type response e h hne := by
    simp only [sampleJson] at h
    split_ifs at h
    · cases h
      exact sampleValue_ne_none.mpr (by decide)
    · cases h
      exact absurd rfl hne
  failed requestID message hmessage hid o h := by
    rw [show sampleJson.object = decodeObject from rfl, decodeObject_failedPayload] at h
    cases h

lemma toLower_ofList (l : List Char) : String.toLower (String.ofList l) = String.ofList (l.map Char.toLower) :=
  String.toList_injective (by rw [String.toLower, String.toList_map, String.toList_ofList, String.toList_ofList])

lemma lower_client : String.toLower capacityShedRetryableClientCode = capacityShedRetryableClientCode := by
  rw [capacityShedRetryableClientCode, toLower_ofList]
  rfl

lemma lower_upstream : String.toLower "upstream_error" = "upstream_error" := by
  rw [toLower_ofList]
  rfl

lemma shed_slowDown : isCapacityShedErrorCode String.toLower "slow_down" = true := by
  have htrim : GatewayModel.trimSpace "slow_down" = "slow_down" := by decide
  rw [isCapacityShedErrorCode, htrim, toLower_ofList]
  decide

def newClient : ResponseWriter := ⟨[], [], []⟩

def reachable : Outside := ⟨fun _ => true, fun _ => false, some [7]⟩

def overloaded : Response := ⟨503, [("Content-Type", "application/json")], overloadedBody, .eof⟩

/-- The code of an overloaded upstream is kept from the client. -/
theorem shed_codes_of_overloaded : Lawful sampleJson sampleValue ∧
    String.toLower capacityShedRetryableClientCode = capacityShedRetryableClientCode ∧
    String.toLower "upstream_error" = "upstream_error" ∧ newClient.writes = [] ∧
    Clean sampleJson String.toLower (copyBufferedResponse sampleJson String.toLower reachable overloaded newClient).1.received := by
  refine ⟨sampleJson_lawful, lower_client, lower_upstream, rfl, ?_⟩
  have hmain := shed_codes_reach_clients_only_so sampleJson_lawful lower_client lower_upstream (show newClient.writes = [] from rfl)
  refine (hmain.2.2.1 reachable overloaded).mpr ?_
  rintro ⟨-, -, ⟨object, hobject, hfailed⟩ | ⟨line, hline, payload, hpayload, -⟩⟩
  · rw [show sampleJson.object overloaded.body = _ from decode_overloadedBody] at hobject
    cases hobject
    have htype : sampleJson.string (Object.raw (objectOf [("error", overloadedError)]) "type") = none :=
      sampleJson_lawful.string_nil
    simp [failedShed, htype] at hfailed
  · have hvalid : JsonText.Valid overloaded.body = true := by decide
    rw [no_data_of_valid hvalid line hline] at hpayload
    cases hpayload

/-- A failure that is not handed over, for a client without streaming. -/
def blocked : Response :=
  ⟨200, [("Content-Type", "text/event-stream")], bytes "data: " ++ blockedEvent ++ [newline], .eof⟩

/-- An error with a stream for its body. -/
def rejected : Response :=
  ⟨429, [("Content-Type", "text/event-stream")], bytes "data: " ++ overloadedEvent ++ [newline], .eof⟩

lemma split_blocked : splitAfterNewline blocked.body = [bytes "data: " ++ blockedEvent ++ [newline], []] := by
  unfold blocked blockedEvent
  repeat rw [bytes_ofList]
  rfl

lemma verdict_blocked : verdict sampleJson (splitAfterNewline blocked.body) =
    ⟨⟨some ⟨"", "slow_down", "blocked by policy"⟩, false, false⟩, none, some ("response.failed", blockedResponse, none)⟩ := by
  have hpayload : ssePayload (bytes "data: " ++ blockedEvent ++ [newline]) = some blockedEvent := by
    unfold blockedEvent ssePayload
    repeat rw [bytes_ofList]
    rfl
  have hevent : sampleJson.event blockedEvent = some ("response.failed", blockedResponse, none) := by
    simp only [sampleJson, if_true]
  have hparsed : parseJSONResponseUsage sampleJson blockedResponse =
      some ⟨some ⟨"", "slow_down", "blocked by policy"⟩, false, false⟩ := by
    have hresponse : sampleJson.response blockedResponse = some (some ⟨"", "slow_down", "blocked by policy"⟩, 0) := by
      simp only [sampleJson, if_true]
    rw [parseJSONResponseUsage, hresponse, show sampleJson.object blockedResponse = _ from decode_blockedResponse]
    rfl
  have hresponse : isTerminalResponseEvent "response.failed" = true ∧ blockedResponse ≠ [] ∧ blockedResponse ≠ bytes "null" := by
    unfold blockedResponse
    repeat rw [bytes_ofList]
    exact ⟨by decide, List.cons_ne_nil _ _, by decide⟩
  have hnext : Verdict.initial.next sampleJson (bytes "data: " ++ blockedEvent ++ [newline]) =
      ⟨⟨some ⟨"", "slow_down", "blocked by policy"⟩, false, false⟩, none, some ("response.failed", blockedResponse, none)⟩ := by
    unfold Verdict.next
    rw [hpayload, Option.bind_some, hevent]
    dsimp only
    rw [if_pos hresponse, hparsed]
    rfl
  rw [split_blocked, verdict, List.foldl_cons, hnext]
  rfl

lemma combined_blocked :
    ResponseError.combined String.toLower ⟨"", "slow_down", "blocked by policy"⟩ = "slow_down blocked by policy" := by
  have htrim : GatewayModel.trimSpace ("" ++ " " ++ "slow_down" ++ " " ++ "blocked by policy") = "slow_down blocked by policy" := by
    decide
  rw [ResponseError.combined, htrim, toLower_ofList]
  rfl

lemma kept_blocked :
    ¬ (retryableTerminalFailure String.toLower ⟨some ⟨"", "slow_down", "blocked by policy"⟩, false, false⟩).2 = true := by
  have hpolicy : ["content_policy", "policy", "safety", "high-risk cyber", "not allowed", "violat"].any
      (contains "slow_down blocked by policy") = true := by decide
  rw [retryableTerminalFailure]
  dsimp only
  rw [combined_blocked, if_pos hpolicy]
  exact Bool.false_ne_true

/-- The conversion writes the code of a failure that is not handed over, and the rest of a stream that was drained is
not rewritten. -/
theorem shed_codes_of_blocked : Lawful sampleJson sampleValue ∧
    ¬ Clean sampleJson String.toLower (copySSEAsJSON sampleJson String.toLower reachable blocked newClient).1.received ∧
    ¬ Clean sampleJson String.toLower (writeDrainedResponse sampleJson String.toLower reachable rejected newClient
      (drainResponse String.toLower rejected)).1.received := by
  refine ⟨sampleJson_lawful, ?_, ?_⟩
  · rw [copySSEAsJSON_clean sampleJson_lawful lower_upstream rfl, not_not]
    refine ⟨⟨rfl, by rw [split_blocked]; decide, by simp [reachable]⟩, ?_⟩
    rw [verdict_blocked, Verdict.Leaks]
    refine ⟨?_, _, decode_blockedResponse, .inl ?_⟩
    · rw [Verdict.handedOver, if_pos rfl]
      exact kept_blocked
    · have herror : sampleJson.object (Object.raw (objectOf [("error", blockedError)]) "error") = _ := decode_blockedError
      have hcode : sampleJson.string (Object.raw (objectOf [("code", bytes "\"slow_down\""), ("message", bytes "\"blocked by policy\"")]) "code") =
        some "slow_down" := decode_code
      rw [topShed, shedError, herror, Option.bind_some, hcode]
      exact shed_slowDown
  · have hstream : String.toLower (rejected.header.get "Content-Type") = "text/event-stream" := by
      rw [show rejected.header.get "Content-Type" = "text/event-stream" from rfl, toLower_ofList]
      rfl
    have hbody : drainResponse String.toLower rejected = bytes "data: " ++ overloadedEvent ++ [newline] := by
      rw [drainResponse, hstream]
      decide
    rw [writeDrainedResponse, writeLast, received_head rfl, clean_sanitizeResponse sampleJson_lawful lower_client, not_not, hbody]
    refine .inr ⟨_, (by decide : bytes "data: " ++ overloadedEvent ++ [newline] ∈ _), overloadedEvent, by decide,
      _, decode_overloadedEvent, .inl ?_⟩
    have herror : sampleJson.object (Object.raw (objectOf [("type", bytes "\"error\""), ("error", overloadedError)]) "error") = _ :=
      decode_overloadedError
    have hcode : sampleJson.string (Object.raw (objectOf [("code", bytes "\"slow_down\"")]) "code") = some "slow_down" := decode_code
    rw [topShed, shedError, herror, Option.bind_some, hcode]
    exact shed_slowDown

end Sample

end ShareSub.CapacityShedAnswer

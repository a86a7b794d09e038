import Mathlib
import ShareSub.UsageModel
import ShareSub.RelayCore
import ShareSub.RelayConversion

/-!
# The usage of a stream on the three ways to read it

`DrainResponse`, the relay and the conversion each keep the usage of the last terminal event that they read. They agree
unless the last terminal event is one that the conversion passes over.
-/
namespace ShareSub.RelayUsage

open SseModel RelayModel RelayConversion UsageModel

section Model

variable (json : Json) (decode : Bytes → Option Terminal) (toLower : String → String) (o : Outside) (src : Response)
  (pendingLimit : ℤ)

/-- The whole terminal response; `decode` is `json.Unmarshal` into its exported fields. -/
def parseJSONResponseUsage (payload : Bytes) : Option Terminal :=
  (decode payload).map fun response =>
    match json.object payload with
    | some fields =>
      { response with hasUsage := "usage" ∈ fields, hasOutput := "output" ∈ fields && 0 < response.output.length }
    | none => response

def parseResponseUsage (line : Bytes) : Option Terminal :=
  (ssePayload line).bind fun payload =>
    match json.typeAndResponse payload with
    | some (type, response) => if isTerminalResponseEvent type then parseJSONResponseUsage json decode response else none
    | none => none

/-- The usage that `DrainResponse` and the relay take from a line. -/
def lineUsage (line : Bytes) : Option UsageMetrics := (parseResponseUsage json decode line).map usageMetrics

/-- The usage that `copySSEAsJSON` takes from a line. -/
def convertedUsage (line : Bytes) : Option UsageMetrics :=
  (ssePayload line).bind fun payload =>
    match json.event payload with
    | some (type, response, _) =>
      if isTerminalResponseEvent type ∧ response ≠ [] ∧ response ≠ bytes "null" then
        (parseJSONResponseUsage json decode response).map usageMetrics
      else none
    | none => none

/-- The loop of `DrainResponse`. -/
def drainLoop : List (Bytes × Option ReadError) → UsageMetrics → UsageMetrics × Option ReadError
  | [], usage => (usage, none)
  | (line, error) :: reads, usage =>
    let usage := if line = [] then usage else (lineUsage json decode line).getD usage
    match error with
    | none => drainLoop reads usage
    | some error => (usage, some error)

def DrainResponse : UsageMetrics × Option ReadError := drainLoop json decode src.reads (usageMetrics Terminal.zero)

/-- The loop of the relay with the usage of its terminal response beside it. -/
def relayLoop : List (Bytes × Option ReadError) → ℕ → Relay → UsageMetrics → UsageMetrics × Option CopyError
  | [], _, _, usage => (usage, none)
  | (line, error) :: reads, n, s, usage =>
    if !s.clientOutputStarted && o.late n then (usage, some (.failover ⟨504, s.pending, [], false⟩))
    else
      let usage := if line = [] then usage else (lineUsage json decode line).getD usage
      match s.read json toLower o src pendingLimit line with
      | .done _ error => (usage, error)
      | .go s =>
        match error with
        | none => relayLoop reads (n + 1) s usage
        | some error => (usage, (s.finish json toLower o src error).2)

def copySSEWithPendingLimitAndTimeout (dst : ResponseWriter) : UsageMetrics × Option CopyError :=
  relayLoop json decode toLower o src pendingLimit src.reads 0 (Relay.initial dst) (usageMetrics Terminal.zero)

/-- The loop of the conversion, likewise. -/
def conversionLoop (dst : ResponseWriter) :
    List (Bytes × Option ReadError) → ℕ → Conversion → UsageMetrics → UsageMetrics × Option CopyError
  | [], _, _, usage => (usage, none)
  | (line, error) :: reads, n, s, usage =>
    if !s.outputSeen && o.late n then (usage, some (.failover ⟨504, [], [], false⟩))
    else
      let usage := if line = [] then usage else (convertedUsage json decode line).getD usage
      match if line = [] then some s else s.line json toLower line with
      | none => (usage, some .other)
      | some s =>
        match error with
        | none => conversionLoop dst reads (n + 1) s usage
        | some .eof => (usage, (s.answer json toLower o src dst).2)
        | some _ => (usage, some .other)

def copySSEAsJSON (dst : ResponseWriter) : UsageMetrics × Option CopyError :=
  conversionLoop json decode toLower o src dst src.reads 0 Conversion.initial (usageMetrics Terminal.zero)

/-- What is used of `encoding/json`. -/
structure Decodes : Prop where
  response : ∀ x, json.response x = (decode x).map fun r => (r.error, r.output.length)
  /-- An empty text is not a value. -/
  missing : decode [] = none
  /-- A further field can only make the decoding fail. -/
  event : ∀ x type response e, json.event x = some (type, response, e) → json.typeAndResponse x = some (type, response)
  /-- What is decoded as a response is decoded as an object, and is encoded again with its error. -/
  object : ∀ x r, json.response x = some r → ∃ fields, json.object x = some fields
  marshalError : ∀ e, ∃ x, json.marshalError e = some x
  marshalObject : ∀ x fields e y, json.object x = some fields → json.marshalError e = some y →
    ∃ z, json.marshalObject (fields.insert "error" y) = some z

end Model

section Latest

variable {ι μ : Type} {read read' : ι → Option μ} {lines before after : List ι} {line : ι} {usage value : μ}

/-- The value of the last of the entries that are read. -/
def latest (read : ι → Option μ) (lines : List ι) (usage : μ) : μ :=
  lines.foldl (fun usage line => (read line).getD usage) usage

lemma latest_none (h : ∀ line ∈ lines, read line = none) : latest read lines usage = usage := by
  induction lines with
  | nil => rfl
  | cons line lines ih =>
    rw [latest, List.foldl_cons, h line (List.mem_cons_self ..), Option.getD_none]
    exact ih fun l hl => h l (List.mem_cons_of_mem line hl)

lemma latest_last (hline : read line = some value) (hafter : ∀ l ∈ after, read l = none) :
    latest read (before ++ line :: after) usage = value := by
  rw [latest, List.foldl_append, List.foldl_cons, hline, Option.getD_some]
  exact latest_none hafter

/-- An entry that is not read changes nothing. -/
lemma latest_skip (hline : read line = none) (hafter : ∀ l ∈ after, read l = none) :
    latest read (before ++ line :: after) usage = latest read before usage := by
  rw [latest, List.foldl_append, List.foldl_cons, hline, Option.getD_none]
  exact latest_none hafter

/-- Nothing is read, or there is a last entry that is. -/
lemma none_or_last (read : ι → Option μ) (lines : List ι) :
    (∀ line ∈ lines, read line = none) ∨ ∃ before line after, lines = before ++ line :: after ∧ read line ≠ none ∧
      ∀ l ∈ after, read l = none := by
  induction lines with
  | nil => exact .inl nofun
  | cons first lines ih =>
    rcases ih with hnone | ⟨before, line, after, rfl, hline, hafter⟩
    · by_cases hfirst : read first = none
      · left
        intro l hl
        rcases List.mem_cons.mp hl with rfl | hl
        · exact hfirst
        · exact hnone l hl
      · exact .inr ⟨[], first, lines, rfl, hfirst, hnone⟩
    · exact .inr ⟨first :: before, line, after, rfl, hline, hafter⟩

/-- Two readings, the second of which reads less, agree unless the last entry that the first reads is one that the
second does not, and it has another value than the entries before. -/
lemma latest_eq_iff (hread : ∀ line value, read' line = some value → read line = some value) (lines : List ι) (usage : μ) :
    latest read' lines usage = latest read lines usage ↔
      ∀ before line after, lines = before ++ line :: after → read line ≠ none → read' line = none →
        (∀ l ∈ after, read l = none) → read line = some (latest read' before usage) := by
  have hless : ∀ l, read l = none → read' l = none := by
    intro l hl
    cases hl' : read' l with
    | none => rfl
    | some value => rw [hread l value hl'] at hl; cases hl
  constructor
  · intro heq before line after hlines hline hskipped hafter
    obtain ⟨value, hvalue⟩ := Option.ne_none_iff_exists'.mp hline
    rw [hlines, latest_last hvalue hafter, latest_skip hskipped fun l hl => hless l (hafter l hl)] at heq
    rw [hvalue, heq]
  · intro hsame
    rcases none_or_last read lines with hnone | ⟨before, line, after, hlines, hline, hafter⟩
    · rw [latest_none hnone, latest_none fun l hl => hless l (hnone l hl)]
    · obtain ⟨value, hvalue⟩ := Option.ne_none_iff_exists'.mp hline
      have hafter' : ∀ l ∈ after, read' l = none := fun l hl => hless l (hafter l hl)
      rw [hlines, latest_last hvalue hafter]
      cases hconverted : read' line with
      | none =>
        have hbefore := hsame before line after hlines hline hconverted hafter
        rw [latest_skip hconverted hafter']
        exact (Option.some.inj (hvalue.symm.trans hbefore)).symm
      | some value' =>
        rw [latest_last hconverted hafter']
        exact Option.some.inj ((hread line value' hconverted).symm.trans hvalue)

end Latest

section Lines

variable {json : Json} {decode : Bytes → Option Terminal} {line : Bytes}

/-- The terminal response that the control of the relay looks at is the same one. -/
lemma parse_core (h : Decodes json decode) (payload : Bytes) :
    SseModel.parseJSONResponseUsage json payload =
      (parseJSONResponseUsage json decode payload).map fun r => ⟨r.error, r.hasUsage, r.hasOutput⟩ := by
  unfold SseModel.parseJSONResponseUsage parseJSONResponseUsage
  rw [h.response]
  cases hdecode : decode payload with
  | none => rfl
  | some r =>
    have hresponse : json.response payload = some (r.error, r.output.length) := by rw [h.response, hdecode]; rfl
    obtain ⟨fields, hfields⟩ := h.object payload _ hresponse
    simp only [Option.map_some, hfields]

lemma lineUsage_eq {payload type response : _} (hpayload : ssePayload line = some payload)
    (hevent : json.typeAndResponse payload = some (type, response)) (htype : isTerminalResponseEvent type = true) :
    lineUsage json decode line = (parseJSONResponseUsage json decode response).map usageMetrics := by
  simp only [lineUsage, parseResponseUsage, hpayload, Option.bind_some, hevent, htype, if_true]

/-- The payload, the type and the response of a line that is read. -/
lemma lineUsage_some {usage : UsageMetrics} (h : lineUsage json decode line = some usage) :
    ∃ payload type response, ssePayload line = some payload ∧ json.typeAndResponse payload = some (type, response) ∧
      isTerminalResponseEvent type = true ∧ (parseJSONResponseUsage json decode response).map usageMetrics = some usage := by
  have hread := h
  unfold lineUsage parseResponseUsage at hread
  obtain ⟨r, hr, -⟩ := Option.map_eq_some_iff.mp hread
  obtain ⟨payload, hpayload, hr⟩ := Option.bind_eq_some_iff.mp hr
  split at hr
  · next type response hevent =>
    split_ifs at hr with htype
    exact ⟨payload, type, response, hpayload, hevent, htype, (lineUsage_eq hpayload hevent htype).symm.trans h⟩
  · cases hr

lemma convertedUsage_some {usage : UsageMetrics} (h : convertedUsage json decode line = some usage) :
    ∃ payload type response e, ssePayload line = some payload ∧ json.event payload = some (type, response, e) ∧
      isTerminalResponseEvent type = true ∧ response ≠ [] ∧ response ≠ bytes "null" ∧
        (parseJSONResponseUsage json decode response).map usageMetrics = some usage := by
  unfold convertedUsage at h
  obtain ⟨payload, hpayload, h⟩ := Option.bind_eq_some_iff.mp h
  split at h
  · next type response e hevent =>
    split_ifs at h with hterminal
    exact ⟨payload, type, response, e, hpayload, hevent, hterminal.1, hterminal.2.1, hterminal.2.2, h⟩
  · cases h

/-- What the conversion reads the others read too. -/
lemma lineUsage_of_converted (h : Decodes json decode) {usage : UsageMetrics}
    (hline : convertedUsage json decode line = some usage) : lineUsage json decode line = some usage := by
  obtain ⟨payload, type, response, e, hpayload, hevent, htype, -, -, husage⟩ := convertedUsage_some hline
  rw [lineUsage_eq hpayload (h.event payload type response e hevent) htype]
  exact husage

variable (json decode) in
/-- A terminal event with a response that can be read, which the conversion passes over: the response is `null`, or the
event has an `error` of another type. -/
def PassedOver (line : Bytes) : Prop :=
  ∃ payload type response, ssePayload line = some payload ∧ json.typeAndResponse payload = some (type, response) ∧
    isTerminalResponseEvent type = true ∧ (∃ r, decode response = some r) ∧
      (json.event payload = none ∨ response = bytes "null")

lemma passedOver_iff (h : Decodes json decode) :
    PassedOver json decode line ↔ lineUsage json decode line ≠ none ∧ convertedUsage json decode line = none := by
  constructor
  · rintro ⟨payload, type, response, hpayload, hevent, htype, ⟨r, hr⟩, hcause⟩
    constructor
    · rw [lineUsage_eq hpayload hevent htype, parseJSONResponseUsage, hr]
      exact Option.some_ne_none _
    · simp only [convertedUsage, hpayload, Option.bind_some]
      rcases hcause with hnone | rfl
      · rw [hnone]
      · cases hfull : json.event payload with
        | none => rfl
        | some event =>
          obtain ⟨type', response', e⟩ := event
          have hsame := (h.event payload type' response' e hfull).symm.trans hevent
          obtain ⟨rfl, rfl⟩ := Prod.mk.inj (Option.some.inj hsame)
          exact if_neg fun hterminal => hterminal.2.2 rfl
  · rintro ⟨hline, hskipped⟩
    obtain ⟨usage, husage⟩ := Option.ne_none_iff_exists'.mp hline
    obtain ⟨payload, type, response, hpayload, hevent, htype, hread⟩ := lineUsage_some husage
    obtain ⟨r, hr, -⟩ := Option.map_eq_some_iff.mp hread
    obtain ⟨r', hr', -⟩ := Option.map_eq_some_iff.mp hr
    refine ⟨payload, type, response, hpayload, hevent, htype, ⟨r', hr'⟩, ?_⟩
    cases hfull : json.event payload with
    | none => exact .inl rfl
    | some event =>
      right
      obtain ⟨type', response', e⟩ := event
      have hsame := (h.event payload type' response' e hfull).symm.trans hevent
      obtain ⟨rfl, rfl⟩ := Prod.mk.inj (Option.some.inj hsame)
      by_contra hnull
      have hpresent : response' ≠ [] := by
        rintro rfl
        rw [h.missing] at hr'
        cases hr'
      simp only [convertedUsage, hpayload, Option.bind_some, hfull, htype, hpresent, hnull, ne_eq, not_false_eq_true,
        and_self, if_true, hread] at hskipped
      cases hskipped

end Lines

section Loops

variable {json : Json} {decode : Bytes → Option Terminal} {toLower : String → String} {o : Outside} {src : Response}
  {pendingLimit : ℤ} {reads : List (Bytes × Option ReadError)} {usage : UsageMetrics}

/-- An error comes with the last read, and only with it. -/
def Ended : List (Bytes × Option ReadError) → Prop
  | [] => False
  | [(_, error)] => error ≠ none
  | (_, error) :: read :: reads => error = none ∧ Ended (read :: reads)

lemma readLimitedLines_ended (ending : ReadError) (lines : List Bytes) (h : lines ≠ []) :
    Ended (readLimitedLines ending lines) := by
  induction lines with
  | nil => exact absurd rfl h
  | cons line lines ih =>
    cases lines with
    | nil =>
      unfold readLimitedLines
      split_ifs
      · exact Option.some_ne_none _
      · exact Option.some_ne_none _
    | cons next lines =>
      have hrest := ih (List.cons_ne_nil next lines)
      rw [readLimitedLines]
      split_ifs
      · exact Option.some_ne_none _
      · cases hreads : readLimitedLines ending (next :: lines) with
        | nil => rw [hreads] at hrest; exact hrest.elim
        | cons read reads => rw [hreads] at hrest; exact ⟨rfl, hrest⟩
      · exact List.cons_ne_nil _ _

lemma reads_ended (src : Response) : Ended src.reads := readLimitedLines_ended _ _ (splitAfterNewline_ne_nil _)

/-- The loop takes the course of the relay. -/
lemma relayLoop_error (n : ℕ) (s : Relay) :
    (relayLoop json decode toLower o src pendingLimit reads n s usage).2 =
      (Relay.loop json toLower o src pendingLimit reads n s).2 := by
  induction reads generalizing usage n s with
  | nil => rfl
  | cons read reads ih =>
    obtain ⟨line, error⟩ := read
    rw [relayLoop, Relay.loop]
    by_cases hlate : (!s.clientOutputStarted && o.late n) = true
    · rw [if_pos hlate, if_pos hlate]
    · rw [if_neg hlate, if_neg hlate]
      cases s.read json toLower o src pendingLimit line with
      | done t result => rfl
      | go t =>
        cases error with
        | none => exact ih (n + 1) t
        | some cause => rfl

/-- The loop takes the course of the conversion. -/
lemma conversionLoop_error (dst : ResponseWriter) (n : ℕ) (s : Conversion) :
    (conversionLoop json decode toLower o src dst reads n s usage).2 =
      (Conversion.loop json toLower o src dst reads n s).2 := by
  induction reads generalizing usage n s with
  | nil => rfl
  | cons read reads ih =>
    obtain ⟨line, error⟩ := read
    rw [conversionLoop, Conversion.loop]
    by_cases hlate : (!s.outputSeen && o.late n) = true
    · rw [if_pos hlate, if_pos hlate]
    · rw [if_neg hlate, if_neg hlate]
      dsimp only
      generalize (if line = [] then some s else s.line json toLower line) = t
      cases t with
      | none => rfl
      | some t =>
        cases error with
        | none => exact ih (n + 1) t
        | some cause => cases cause <;> rfl

lemma lineUsage_nil : lineUsage json decode [] = none := by
  have hpayload : ssePayload [] = none := by decide
  simp only [lineUsage, parseResponseUsage, hpayload, Option.bind_none, Option.map_none]

lemma convertedUsage_nil : convertedUsage json decode [] = none := by
  have hpayload : ssePayload [] = none := by decide
  simp only [convertedUsage, hpayload, Option.bind_none]

/-- A read without a line needs no case of its own. -/
lemma taken {read : Bytes → Option UsageMetrics} (hread : read [] = none) (line : Bytes) (usage : UsageMetrics) :
    (if line = [] then usage else (read line).getD usage) = (read line).getD usage := by
  split_ifs with hempty
  · rw [hempty, hread, Option.getD_none]
  · rfl

lemma drainLoop_usage (h : Ended reads) :
    (drainLoop json decode reads usage).1 = latest (lineUsage json decode) (reads.map Prod.fst) usage := by
  induction reads generalizing usage with
  | nil => exact h.elim
  | cons read reads ih =>
    obtain ⟨line, error⟩ := read
    rw [List.map_cons, latest, List.foldl_cons]
    unfold drainLoop
    simp only [taken lineUsage_nil]
    cases reads with
    | nil =>
      obtain ⟨cause, rfl⟩ := Option.ne_none_iff_exists'.mp h
      rfl
    | cons next reads =>
      obtain ⟨rfl, hrest⟩ := h
      exact ih hrest

/-- The loop has returned with what it read to the end, whatever the error. -/
def Returned (error : Option CopyError) : Prop := error ≠ some .panicked ∧ ∀ e, error ≠ some (.failover e)

lemma relayLoop_usage {n : ℕ} {s : Relay} (h : Ended reads)
    (hreturned : Returned (relayLoop json decode toLower o src pendingLimit reads n s usage).2) :
    (relayLoop json decode toLower o src pendingLimit reads n s usage).1 =
      latest (lineUsage json decode) (reads.map Prod.fst) usage := by
  induction reads generalizing usage n s with
  | nil => exact h.elim
  | cons read reads ih =>
    obtain ⟨line, error⟩ := read
    rw [List.map_cons, latest, List.foldl_cons]
    rw [relayLoop] at hreturned ⊢
    by_cases hlate : (!s.clientOutputStarted && o.late n) = true
    · rw [if_pos hlate] at hreturned
      exact absurd rfl (hreturned.2 _)
    · rw [if_neg hlate] at hreturned ⊢
      cases hread : s.read json toLower o src pendingLimit line with
      | done t result =>
        simp only [hread] at hreturned
        rcases RelayCore.read_done hread with ⟨rfl, -⟩ | ⟨-, -, status, transient, rfl⟩
        · exact absurd rfl hreturned.1
        · exact absurd rfl (hreturned.2 _)
      | go t =>
        simp only [hread, taken lineUsage_nil] at hreturned ⊢
        cases reads with
        | nil =>
          obtain ⟨cause, rfl⟩ := Option.ne_none_iff_exists'.mp h
          rfl
        | cons next reads =>
          obtain ⟨rfl, hrest⟩ := h
          exact ih hrest hreturned

/-- The error always fits into the response. -/
lemma conversion_line (h : Decodes json decode) (s : Conversion) (line : Bytes) : ∃ t, s.line json toLower line = some t := by
  have hencode : ∀ response r e, SseModel.parseJSONResponseUsage json response = some r →
      ∃ x, responseJSONWithError json response e = some x := by
    intro response r e hr
    obtain ⟨raw, hraw, -⟩ := Option.map_eq_some_iff.mp hr
    obtain ⟨fields, hfields⟩ := h.object response raw hraw
    obtain ⟨y, hy⟩ := h.marshalError e
    obtain ⟨z, hz⟩ := h.marshalObject response fields e y hfields hy
    exact ⟨z, by rw [responseJSONWithError, hfields, Option.bind_some, hy, Option.bind_some, hz]⟩
  unfold Conversion.line
  dsimp only
  generalize (if isClientOutputEvent json toLower line = true then { s with outputSeen := true } else s) = s'
  split
  · exact ⟨_, rfl⟩
  · next type response error _ =>
    generalize (if type = "error" then error else none) = found
    by_cases hterminal : isTerminalResponseEvent type = true ∧ response ≠ [] ∧ response ≠ bytes "null"
    · rw [if_pos hterminal]
      cases hparsed : SseModel.parseJSONResponseUsage json response with
      | none => exact ⟨_, rfl⟩
      | some parsed =>
        dsimp only
        split
        · exact ⟨_, rfl⟩
        · next e _ =>
          obtain ⟨x, hx⟩ := hencode response parsed e hparsed
          exact ⟨_, by rw [hx]; rfl⟩
    · rw [if_neg hterminal]
      exact ⟨_, rfl⟩

lemma conversionLoop_usage (hjson : Decodes json decode) {dst : ResponseWriter} {n : ℕ} {s : Conversion} (h : Ended reads)
    (hlate : (conversionLoop json decode toLower o src dst reads n s usage).2 ≠ some (.failover ⟨504, [], [], false⟩)) :
    (conversionLoop json decode toLower o src dst reads n s usage).1 =
      latest (convertedUsage json decode) (reads.map Prod.fst) usage := by
  induction reads generalizing usage n s with
  | nil => exact h.elim
  | cons read reads ih =>
    obtain ⟨line, error⟩ := read
    rw [List.map_cons, latest, List.foldl_cons]
    rw [conversionLoop] at hlate ⊢
    by_cases htimeout : (!s.outputSeen && o.late n) = true
    · rw [if_pos htimeout] at hlate
      exact absurd rfl hlate
    · rw [if_neg htimeout] at hlate ⊢
      obtain ⟨t, ht⟩ : ∃ t, (if line = [] then some s else s.line json toLower line) = some t := by
        split_ifs
        · exact ⟨s, rfl⟩
        · exact conversion_line hjson s line
      simp only [ht, taken convertedUsage_nil] at hlate ⊢
      cases reads with
      | nil =>
        obtain ⟨cause, rfl⟩ := Option.ne_none_iff_exists'.mp h
        cases cause <;> rfl
      | cons next reads =>
        obtain ⟨rfl, hrest⟩ := h
        exact ih hrest hlate

end Loops

section Agreement

variable (json : Json) (decode : Bytes → Option Terminal)

/-- A line that the conversion passes over is followed by one that all three read, or it has the usage that the
conversion has read before it. -/
def Agreeing (lines : List Bytes) : Prop :=
  ∀ before line after, lines = before ++ line :: after → PassedOver json decode line →
    (∀ l ∈ after, lineUsage json decode l = none) →
    lineUsage json decode line = some (latest (convertedUsage json decode) before (usageMetrics Terminal.zero))

end Agreement

section Example

def response : Bytes := bytes "\x7b\"model\":\"gpt-5\",\"usage\":\x7b\"input_tokens\":5\x7d\x7d"

def completed : Bytes := bytes "\x7b\"type\":\"response.completed\",\"response\":" ++ response ++ bytes "\x7d"

def completedNull : Bytes := bytes "\x7b\"type\":\"response.completed\",\"response\":null\x7d"

def terminal : Terminal := ⟨"", "gpt-5", ⟨5, 0, 0, 0, 0, 0, 0⟩, [], none, false, false⟩

def sampleDecode (x : Bytes) : Option Terminal :=
  if x = response then some terminal else if x = bytes "null" then some Terminal.zero else none

def typeLiteral : Bytes := bytes "\"response.completed\""

def sampleObject (x : Bytes) : Option Object :=
  if x = response then
    some (((∅ : Object).insert "usage" (bytes "\x7b\"input_tokens\":5\x7d")).insert "model" (bytes "\"gpt-5\""))
  else if x = bytes "null" then some ∅
  else if x = completed then some (((∅ : Object).insert "response" response).insert "type" typeLiteral)
  else if x = completedNull then some (((∅ : Object).insert "response" (bytes "null")).insert "type" typeLiteral)
  else none

/-- The text of an object whose keys need no escapes. -/
def encodeObject (object : Object) : Bytes :=
  bytes "\x7b" ++ (bytes ",").intercalate (object.entries.map fun e => bytes "\"" ++ bytes e.1 ++ bytes "\":" ++ e.2) ++
    bytes "\x7d"

def sampleEvent (x : Bytes) : Option (String × Bytes) :=
  if x = completed then some ("response.completed", response)
  else if x = completedNull then some ("response.completed", bytes "null")
  else none

/-- `encoding/json` as it is on the texts of the two events. -/
def sampleJson : Json where
  eventType x := (sampleEvent x).map Prod.fst
  typeAndResponse := sampleEvent
  typeAndError x := (sampleEvent x).map fun event => (event.1, none)
  event x := (sampleEvent x).map fun event => (event.1, event.2, none)
  errorField x := (sampleObject x).map fun _ => none
  response x := (sampleDecode x).map fun r => (r.error, r.output.length)
  object := sampleObject
  string x := if x = typeLiteral then some "response.completed" else none
  marshalObject object := some (encodeObject object)
  marshalString s := some (bytes "\"" ++ bytes s ++ bytes "\"")
  marshalError e := some (encodeObject ((∅ : Object).insert "code" (bytes "\"" ++ bytes e.code ++ bytes "\"")))
  encodeError code _ := encodeObject ((∅ : Object).insert "code" (bytes "\"" ++ bytes code ++ bytes "\""))

lemma sampleJson_decodes : Decodes sampleJson sampleDecode where
  response x := rfl
  missing := by decide
  event x type response e h := by
    obtain ⟨event, hevent, heq⟩ := Option.map_eq_some_iff.mp h
    cases heq
    exact hevent
  object x r h := by
    obtain ⟨d, hd, -⟩ := Option.map_eq_some_iff.mp h
    unfold sampleDecode at hd
    split_ifs at hd with hresponse hnull
    · exact ⟨_, if_pos hresponse⟩
    · exact ⟨_, (if_neg hresponse).trans (if_pos hnull)⟩
  marshalError e := ⟨_, rfl⟩
  marshalObject x fields e y _ _ := ⟨_, rfl⟩

def client : ResponseWriter := ⟨[], [], []⟩

def reachable : Outside := ⟨fun _ => true, fun _ => false, none⟩

def eventLine (payload : Bytes) : Bytes := bytes "data: " ++ payload ++ [newline]

def stream (payloads : List Bytes) : Response :=
  ⟨200, [("Content-Type", "text/event-stream")], (payloads.map fun payload => eventLine payload ++ [newline]).flatten, .eof⟩

end Example

end ShareSub.RelayUsage

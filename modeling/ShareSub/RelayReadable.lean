import Mathlib
import ShareSub.EventStream
import ShareSub.JsonText
import ShareSub.RelayConversion
import ShareSub.RelayRun

/-!
# The last event of a stream that was cut

What a client makes of a stream that ended early, if it reads the stream by the standard. The relay appends its own
`response.failed` right after the bytes that it has relayed, without closing the event that they leave open, and it
appends nothing to the lines that a failover hands over. So the client is told of the end exactly when the relay gets to
append its event and the open event has no data yet.
-/
namespace ShareSub.RelayReadable

open SseModel RelayModel RelayCore RelayConversion RelayRun

variable {json : Json} {toLower : String → String} {o : Outside} {src : Response} {pendingLimit : ℤ}
  {dst : ResponseWriter}

section Statement

/-- The type of an event, as a client reads it from its data. -/
def dataType (json : Json) (data : Bytes) : Option String :=
  (json.object data).bind fun event => json.string (Object.raw event "type")

/-- The data is a terminal event. -/
def Terminal (json : Json) (data : Bytes) : Prop :=
  ∃ type, dataType json data = some type ∧ (isTerminalResponseEvent type = true ∨ type = "error")

/-- The last event that a text dispatches is a terminal one. -/
def Readable (json : Json) (text : Bytes) : Prop :=
  ∃ data, (EventStream.events text).getLast? = some data ∧ Terminal json data

instance (data : Bytes) : Decidable (Terminal json data) :=
  decidable_of_iff ((dataType json data).any fun type => isTerminalResponseEvent type || type = "error") (by
    simp [Terminal, Option.any_eq_true])

instance (text : Bytes) : Decidable (Readable json text) :=
  decidable_of_iff ((EventStream.events text).getLast?.any fun data => decide (Terminal json data)) (by
    simp [Readable, Option.any_eq_true])

/-- No line, as it is rewritten for the client, completes a terminal event. -/
def Undelivered (json : Json) (toLower : String → String) (lines : List Bytes) : Prop :=
  ∀ done rest text, done ++ rest = lines → rewritten json toLower done = some text →
    ∀ data ∈ EventStream.events text, ¬ Terminal json data

variable (json toLower o src pendingLimit dst) in
/-- The client after the last attempt: a failover that finds no other account is written out. -/
def deliver : ResponseWriter :=
  match copySSEWithPendingLimitAndTimeout json toLower o src pendingLimit dst with
  | (s, some (.failover e)) => writeStreamFailoverError json toLower src s.dst e true
  | (s, _) => s.dst

/-- The relay gets to append its own event: the deadline does not pass while all lines wait, no line is a terminal event
or an error or makes the rewriting panic, and there is an id. -/
structure Appends (json : Json) (toLower : String → String) (o : Outside) (src : Response) (pendingLimit : ℤ)
    (lines : List Bytes) : Prop where
  timely : ∀ n < lines.length, o.late n = true → ¬ Waits json toLower pendingLimit (lines.take n)
  quiet : ∀ line ∈ lines, lineTerminal json line = false
  calm : ∀ line ∈ lines, lineError json line = none
  clean : ∀ line ∈ lines, ¬ Panics json line
  identified : failedRequestID src.header o.seed ≠ none

/-- The event that is open at the cut has no data, but for space. -/
structure CleanCut (p : EventStream.Reader) : Prop where
  line : ¬ (EventStream.dataName ++ [58]) <+: p.line
  data : ∀ d ∈ p.data, JsonText.Blank d

/-- The reader of a client after the given lines. -/
def readerAfter (json : Json) (toLower : String → String) (lines : List Bytes) : EventStream.Reader :=
  EventStream.initial.run ((rewritten json toLower lines).getD [])

/-- The messages of the event that the relay appends. -/
def failedMessages : List String := [incompleteMessage, "upstream stream read failed"]

/-- What is used of `encoding/json`: only valid texts are decoded, leading space does not matter, and the event that the
relay appends has its type. -/
structure LawfulJson (json : Json) : Prop where
  valid : ∀ x event, json.object x = some event → JsonText.Valid x = true
  leading : ∀ space x, JsonText.Blank space → json.object (space ++ x) = json.object x
  failed : ∀ requestID : String, ∀ message ∈ failedMessages, (∀ c ∈ requestID.toList, isAlphanumeric c = true) →
    dataType json (failedPayload requestID message) = some "response.failed"

end Statement

section Event

variable {requestID message : String}

lemma alphanumeric_hexDigit (n : ℕ) : isAlphanumeric (hexDigit n) = true := by
  have hall : "0123456789abcdef".toList.all isAlphanumeric = true := by
    rw [String.toList_ofList]
    rfl
  unfold hexDigit
  rw [List.getD_eq_getElem?_getD]
  cases hdigit : "0123456789abcdef".toList[n]? with
  | none => rfl
  | some c => exact List.all_eq_true.1 hall c (List.mem_of_getElem? hdigit)

lemma failedRequestID_alphanumeric {header : Header} {seed : Option Bytes}
    (h : failedRequestID header seed = some requestID) : ∀ c ∈ requestID.toList, isAlphanumeric c = true := by
  unfold failedRequestID at h
  dsimp only at h
  generalize (if GatewayModel.trimSpace (header.get "X-Request-Id") = "" then
    GatewayModel.trimSpace (header.get "Openai-Request-Id")
    else GatewayModel.trimSpace (header.get "X-Request-Id")) = received at h
  split_ifs at h
  · obtain ⟨raw, -, rfl⟩ := Option.map_eq_some_iff.1 h
    intro c hc
    rw [hexEncode, String.toList_ofList, List.mem_flatMap] at hc
    obtain ⟨b, -, hc⟩ := hc
    simp only [List.mem_cons, List.not_mem_nil, or_false] at hc
    rcases hc with rfl | rfl
    · exact alphanumeric_hexDigit _
    · exact alphanumeric_hexDigit _
  · cases h
    intro c hc
    rw [String.toList_ofList] at hc
    exact (List.mem_filter.1 hc).2

/-- The byte of a letter or a digit. -/
lemma alphanumeric_toNat {c : Char} (h : isAlphanumeric c = true) :
    48 ≤ (UInt8.ofNat c.toNat).toNat ∧ (UInt8.ofNat c.toNat).toNat ≤ 122 ∧ (UInt8.ofNat c.toNat).toNat ≠ 92 := by
  have hrange : 97 ≤ c.toNat ∧ c.toNat ≤ 122 ∨ 65 ≤ c.toNat ∧ c.toNat ≤ 90 ∨ 48 ≤ c.toNat ∧ c.toNat ≤ 57 := by
    simp only [isAlphanumeric, Bool.or_eq_true, Bool.and_eq_true, decide_eq_true_eq, or_assoc] at h
    exact h
  have hbyte : (UInt8.ofNat c.toNat).toNat = c.toNat := by
    rw [UInt8.toNat_ofNat']
    omega
  omega

/-- The first line of the event. -/
def headLine : Bytes := bytes "event: response.failed"

/-- The payload after its first byte. -/
def payloadRest (requestID message : String) : Bytes :=
  bytes "\"response\":\x7b\"error\":\x7b\"code\":\"upstream_error\",\"message\":\"" ++ bytes message ++
    bytes "\"\x7d,\"id\":\"resp_" ++ bytes requestID ++
    bytes "\",\"object\":\"response\",\"output\":[],\"status\":\"failed\"\x7d,\"type\":\"response.failed\"\x7d"

lemma failedPayload_eq (requestID message : String) : failedPayload requestID message = 123 :: payloadRest requestID message := by
  have hfirst : bytes "\x7b\"response\":\x7b\"error\":\x7b\"code\":\"upstream_error\",\"message\":\"" =
      123 :: bytes "\"response\":\x7b\"error\":\x7b\"code\":\"upstream_error\",\"message\":\"" := by
    rw [bytes_ofList, bytes_ofList]
    rfl
  unfold failedPayload payloadRest
  rw [hfirst]
  rfl

lemma failedEvent_eq (requestID message : String) :
    failedEvent requestID message =
      headLine ++ 10 :: (EventStream.dataName ++ 58 :: 32 :: failedPayload requestID message) ++ [10, 10] := by
  have hfirst : bytes "event: response.failed\ndata: " = headLine ++ 10 :: (EventStream.dataName ++ [58, 32]) := by
    rw [headLine, bytes_ofList, bytes_ofList]
    rfl
  have hlast : bytes "\n\n" = [10, 10] := by
    rw [bytes_ofList]
    rfl
  unfold failedEvent
  rw [hfirst, hlast]
  simp

/-- The parts of the payload that are no constants: bytes that stand for themselves in a string and on a line. -/
lemma plain_requestID (h : ∀ c ∈ requestID.toList, isAlphanumeric c = true) :
    JsonText.Plain (bytes requestID) ∧ EventStream.OneLine (bytes requestID) := by
  have hbyte : ∀ b ∈ bytes requestID, 48 ≤ b.toNat ∧ b.toNat ≤ 122 ∧ b.toNat ≠ 92 := by
    intro b hb
    obtain ⟨c, hc, rfl⟩ := List.mem_map.1 hb
    exact alphanumeric_toNat (h c hc)
  constructor
  · intro b hb
    have := hbyte b hb
    refine ⟨?_, ?_, ?_⟩
    · rintro rfl
      exact absurd this.1 (by decide)
    · rintro rfl
      exact this.2.2 rfl
    · rw [UInt8.le_iff_toNat_le]
      exact le_trans (by decide) this.1
  · intro b hb
    have := hbyte b hb
    constructor
    · rintro rfl
      exact absurd this.1 (by decide)
    · rintro rfl
      exact absurd this.1 (by decide)

lemma plain_of_all {x : Bytes} (h : x.all (fun b => decide (b ≠ 34) && decide (b ≠ 92) && decide (32 ≤ b)) = true) :
    JsonText.Plain x := by
  intro b hb
  simpa [and_assoc] using List.all_eq_true.1 h b hb

lemma oneLine_of_all {x : Bytes} (h : x.all (fun b => decide (b ≠ 10) && decide (b ≠ 13)) = true) :
    EventStream.OneLine x := by
  intro b hb
  simpa using List.all_eq_true.1 h b hb

lemma plain_message (h : message ∈ failedMessages) :
    JsonText.Plain (bytes message) ∧ EventStream.OneLine (bytes message) := by
  simp only [failedMessages, List.mem_cons, List.not_mem_nil, or_false] at h
  rcases h with rfl | rfl
  · rw [incompleteMessage, bytes_ofList]
    exact ⟨plain_of_all rfl, oneLine_of_all rfl⟩
  · rw [bytes_ofList]
    exact ⟨plain_of_all rfl, oneLine_of_all rfl⟩

lemma oneLine_append {x y : Bytes} (hx : EventStream.OneLine x) (hy : EventStream.OneLine y) :
    EventStream.OneLine (x ++ y) := by
  intro b hb
  rcases List.mem_append.1 hb with hb | hb
  · exact hx b hb
  · exact hy b hb

lemma oneLine_failedPayload (hid : ∀ c ∈ requestID.toList, isAlphanumeric c = true) (hmessage : message ∈ failedMessages) :
    EventStream.OneLine (failedPayload requestID message) := by
  unfold failedPayload
  refine oneLine_append (oneLine_append (oneLine_append (oneLine_append ?_ (plain_message hmessage).2) ?_)
    (plain_requestID hid).2) ?_
  · rw [bytes_ofList]
    exact oneLine_of_all rfl
  · rw [bytes_ofList]
    exact oneLine_of_all rfl
  · rw [bytes_ofList]
    exact oneLine_of_all rfl

/-- The payload is an object. -/
lemma closes_payloadRest (hid : ∀ c ∈ requestID.toList, isAlphanumeric c = true) (hmessage : message ∈ failedMessages) :
    JsonText.Closes (payloadRest requestID message) := by
  intro stack
  have hfirst : JsonText.scan ⟨.object :: stack, .member⟩
      (bytes "\"response\":\x7b\"error\":\x7b\"code\":\"upstream_error\",\"message\":\"") =
      some ⟨.object :: .object :: .object :: stack, .text false⟩ := by
    rw [bytes_ofList]
    rfl
  have hsecond : JsonText.scan ⟨.object :: .object :: .object :: stack, .text false⟩ (bytes "\"\x7d,\"id\":\"resp_") =
      some ⟨.object :: .object :: stack, .text false⟩ := by
    rw [bytes_ofList]
    rfl
  have hthird : JsonText.scan ⟨.object :: .object :: stack, .text false⟩
      (bytes "\",\"object\":\"response\",\"output\":[],\"status\":\"failed\"\x7d,\"type\":\"response.failed\"\x7d") =
      some ⟨stack, .finished⟩ := by
    rw [bytes_ofList]
    rfl
  unfold payloadRest
  rw [JsonText.scan_append, JsonText.scan_append, JsonText.scan_append, JsonText.scan_append, hfirst, Option.bind_some,
    JsonText.scan_plain (plain_message hmessage).1, Option.bind_some, hsecond, Option.bind_some,
    JsonText.scan_plain (plain_requestID hid).1, Option.bind_some, hthird]

end Event

section Cut

variable {p : EventStream.Reader} {requestID message : String}

/-- The first line of the event is taken for data when the line that was cut is a data line. -/
lemma lineData_headLine (line : Bytes) :
    ¬ (EventStream.dataName ++ [58]) <+: line ∧ EventStream.lineData (line ++ headLine) = [] ∨
      (EventStream.dataName ++ [58]) <+: line ∧ ∃ d, EventStream.lineData (line ++ headLine) = [d] ∧ ¬ JsonText.Blank d := by
  have hhead : headLine = 101 :: 118 :: bytes "ent: response.failed" := by
    rw [headLine, bytes_ofList, bytes_ofList]
    rfl
  by_cases hdata : (EventStream.dataName ++ [58]) <+: line
  · right
    refine ⟨hdata, ?_⟩
    obtain ⟨rest, rfl⟩ := hdata
    have hline : EventStream.dataName ++ [58] ++ rest ++ headLine = EventStream.dataName ++ 58 :: (rest ++ headLine) := by
      simp
    have hname : EventStream.fieldName (EventStream.dataName ++ 58 :: (rest ++ headLine)) = EventStream.dataName := by
      simp [EventStream.fieldName, EventStream.dataName]
    refine ⟨_, by rw [hline, EventStream.lineData, if_pos hname], ?_⟩
    have hmem : (118 : UInt8) ∈ EventStream.fieldValue (EventStream.dataName ++ 58 :: (rest ++ headLine)) := by
      have htail : (118 : UInt8) ∈ (rest ++ headLine).tail := by
        rw [hhead]
        cases rest <;> simp
      have hvalue : EventStream.fieldValue (EventStream.dataName ++ 58 :: (rest ++ headLine)) =
          if (rest ++ headLine).head? = some 32 then (rest ++ headLine).tail else rest ++ headLine := by
        simp [EventStream.fieldValue, EventStream.dataName]
      rw [hvalue]
      split_ifs
      · exact htail
      · exact List.mem_of_mem_tail htail
    intro hblank
    exact absurd (hblank 118 hmem) (by decide)
  · left
    refine ⟨hdata, if_neg fun hname => hdata ?_⟩
    unfold EventStream.fieldName at hname
    rw [List.takeWhile_append] at hname
    split_ifs at hname with hall
    · have hlength := congrArg List.length hname
      rw [List.length_append, hhead] at hlength
      simp [EventStream.dataName, bytes] at hlength
    · have hsplit := List.takeWhile_append_dropWhile (p := fun b : UInt8 => decide (b ≠ 58)) (l := line)
      rw [hname] at hsplit
      cases hrest : line.dropWhile fun b : UInt8 => decide (b ≠ 58) with
      | nil =>
        rw [hrest, List.append_nil] at hsplit
        rw [hname, hsplit] at hall
        exact absurd rfl hall
      | cons b rest =>
        have hb : b = 58 := by
          have hne : line.dropWhile (fun b : UInt8 => decide (b ≠ 58)) ≠ [] := by
            rw [hrest]
            simp
          have hcolon := List.head_dropWhile_not (fun b : UInt8 => decide (b ≠ 58)) hne
          simp only [hrest, List.head_cons] at hcolon
          simpa using hcolon
        rw [hrest, hb] at hsplit
        exact ⟨rest, by rw [← hsplit]; simp⟩

lemma blank_joined (ds : List Bytes) : JsonText.Blank (EventStream.joined ds) ↔ ∀ d ∈ ds, JsonText.Blank d := by
  induction ds with
  | nil => simp [EventStream.joined, JsonText.Blank]
  | cons d ds ih =>
    cases ds with
    | nil => simp [EventStream.joined]
    | cons e ds =>
      rw [List.forall_mem_cons, ← ih, EventStream.joined]
      constructor
      · exact fun h => ⟨fun b hb => h b (by simp [hb]), fun b hb => h b (by simp [hb])⟩
      · rintro ⟨hd, hds⟩ b hb
        rcases List.mem_append.1 hb with hb | hb
        · exact hd b hb
        · rcases List.mem_cons.1 hb with rfl | hb
          · rfl
          · exact hds b hb
      · simp

/-- The event that is appended is a terminal one, if no data comes before its own. -/
lemma terminal_joined (hjson : LawfulJson json) (hid : ∀ c ∈ requestID.toList, isAlphanumeric c = true)
    (hmessage : message ∈ failedMessages) (ds : List Bytes) :
    Terminal json (EventStream.joined (ds ++ [failedPayload requestID message])) ↔ ∀ d ∈ ds, JsonText.Blank d := by
  have htype : Terminal json (failedPayload requestID message) :=
    ⟨_, hjson.failed requestID message hmessage hid, .inl (by decide)⟩
  by_cases hne : ds = []
  · rw [hne]
    exact iff_of_true htype (by simp)
  · rw [EventStream.joined_append ds hne, ← blank_joined]
    constructor
    · rintro ⟨type, hsome, -⟩
      obtain ⟨event, hobject, -⟩ := Option.bind_eq_some_iff.1 hsome
      have hvalid := hjson.valid _ event hobject
      rw [failedPayload_eq] at hvalid
      exact JsonText.blank_of_valid (closes_payloadRest hid hmessage) hvalid
    · intro hblank
      have hspace : JsonText.Blank (EventStream.joined ds ++ [10]) := by
        intro b hb
        rcases List.mem_append.1 hb with hb | hb
        · exact hblank b hb
        · rw [List.mem_singleton.1 hb]
          rfl
      have hdecoded : dataType json (EventStream.joined ds ++ 10 :: failedPayload requestID message) =
          dataType json (failedPayload requestID message) := by
        have hleading := hjson.leading _ (failedPayload requestID message) hspace
        rw [List.append_assoc, List.singleton_append] at hleading
        exact congrArg (Option.bind · fun event => json.string (Object.raw event "type")) hleading
      obtain ⟨type, hsome, hterminal⟩ := htype
      exact ⟨type, hdecoded.trans hsome, hterminal⟩

/-- The appended event is readable exactly after a clean cut. -/
lemma readable_failedEvent (hjson : LawfulJson json) (hid : ∀ c ∈ requestID.toList, isAlphanumeric c = true)
    (hmessage : message ∈ failedMessages) (text : Bytes) :
    Readable json (text ++ failedEvent requestID message) ↔ CleanCut (EventStream.initial.run text) := by
  have hhead : EventStream.OneLine headLine ∧ headLine ≠ [] := by
    rw [headLine, bytes_ofList]
    exact ⟨oneLine_of_all rfl, List.cons_ne_nil _ _⟩
  have hevents : EventStream.events (text ++ failedEvent requestID message) =
      (EventStream.initial.run text).events ++ [EventStream.joined ((EventStream.initial.run text).data ++
        EventStream.lineData ((EventStream.initial.run text).line ++ headLine) ++ [failedPayload requestID message])] := by
    unfold EventStream.events
    rw [EventStream.run_append, failedEvent_eq,
      EventStream.run_event hhead.1 hhead.2 (oneLine_failedPayload hid hmessage)]
  have hlast : Readable json (text ++ failedEvent requestID message) ↔
      Terminal json (EventStream.joined ((EventStream.initial.run text).data ++
        EventStream.lineData ((EventStream.initial.run text).line ++ headLine) ++ [failedPayload requestID message])) := by
    unfold Readable
    rw [hevents, List.getLast?_concat]
    simp
  rw [hlast, terminal_joined hjson hid hmessage]
  rcases lineData_headLine (EventStream.initial.run text).line with ⟨hline, hnone⟩ | ⟨hline, d, hd, hblank⟩
  · rw [hnone, List.append_nil]
    exact ⟨fun hdata => ⟨hline, hdata⟩, CleanCut.data⟩
  · rw [hd]
    exact iff_of_false (fun hdata => hblank (hdata d (by simp))) fun hcut => hcut.line hline

end Cut

section Delivery

variable {lines done : List Bytes} {cause : ReadError}

/-- What the client has in the end: the lines and the event of the relay, or some of the lines alone. -/
inductive Delivered (json : Json) (toLower : String → String) (o : Outside) (src : Response) (pendingLimit : ℤ)
    (dst : ResponseWriter) (lines read : List Bytes) (w : ResponseWriter) : Prop
  | appended {text : Bytes} {requestID message : String}
      (happends : Appends json toLower o src pendingLimit lines) (htext : rewritten json toLower lines = some text)
      (hid : ∀ c ∈ requestID.toList, isAlphanumeric c = true) (hmessage : message ∈ failedMessages)
      (hreceived : w.received = dst.received ++ (text ++ failedEvent requestID message))
  | relayed (happends : ¬ Appends json toLower o src pendingLimit lines)
      (hholds : Holds json toLower dst read w)

/-- The lines that are handed over are written as they are. -/
lemma holds_writeStreamFailoverError {w : ResponseWriter} {e : StreamFailoverError} {body : Bytes} {rest : List Bytes}
    (hlines : done ++ rest = splitAfterNewline body) (hbody : e.streamBody = done.flatten)
    (hreceived : w.received = dst.received) :
    Holds json toLower dst done (writeStreamFailoverError json toLower src w e true) := by
  unfold writeStreamFailoverError
  rw [if_pos rfl, hbody, sanitize_flatten hlines]
  have hstart : ((startHeader src w).writeHeader src.statusCode).received = dst.received := hreceived
  cases htext : rewritten json toLower done with
  | none => exact holds_nil _ hstart
  | some text =>
    refine ⟨done, [], text, List.append_nil _, htext, ?_⟩
    dsimp only
    rw [received_write, hstart]

/-- The result of a run, with the failover that it may end with written out. -/
def settle (json : Json) (toLower : String → String) (src : Response) (out : Relay × Option CopyError) :
    ResponseWriter :=
  match out with
  | (s, some (.failover e)) => writeStreamFailoverError json toLower src s.dst e true
  | (s, _) => s.dst

lemma settle_failover {out : Relay × Option CopyError} {e : StreamFailoverError} (h : out.2 = some (.failover e)) :
    settle json toLower src out = writeStreamFailoverError json toLower src (core out.1).dst e true := by
  obtain ⟨s, error⟩ := out
  cases h
  rfl

lemma settle_of_kept {out : Relay × Option CopyError} (h : ∀ e, out.2 ≠ some (.failover e)) :
    settle json toLower src out = out.1.dst := by
  obtain ⟨s, error⟩ := out
  unfold settle
  split
  · rename_i heq
    cases heq
    exact absurd rfl (h _)
  · rename_i heq
    cases heq
    rfl

/-- The end of a run that has read all lines. -/
lemma finish_delivered (haccepts : ∀ n, o.accepts n = true) (hstatus : successfulStatus src.statusCode = true)
    {body : Bytes} (hsplit : lines = splitAfterNewline body) {s : Relay}
    (hs : Traced json toLower o pendingLimit dst lines s) :
    Delivered json toLower o src pendingLimit dst lines lines
      (settle json toLower src (s.finish json toLower o src cause)) := by
  have hlines : lines ++ [] = splitAfterNewline body := by rw [List.append_nil, hsplit]
  have hstart : Relayed json toLower dst lines ((core s).start json toLower o src) ∨ _ :=
    hs.relayed.start haccepts (sanitize_flatten hlines)
  have hstartHolds : Holds json toLower dst lines ((core s).start json toLower o src).dst := by
    rcases hstart with hstart | ⟨-, -, hreceived⟩
    · exact hstart.holds
    · exact holds_nil _ hreceived
  have hcalm (herror : s.topLevelError.isSome) : ¬ Appends json toLower o src pendingLimit lines := by
    intro happends
    rw [hs.calm.2 happends.calm] at herror
    cases herror
  have hquiet (hcut : Relay.cutShort src s = false) : ¬ Appends json toLower o src pendingLimit lines := by
    intro happends
    simp [Relay.cutShort, hstatus, hs.quiet.2 happends.quiet] at hcut
  obtain ⟨result, hends, hresult⟩ : ∃ result, Ends json toLower o src s cause _ result ∧ _ := finish_ends s cause
  have hkept (hne : ∀ e, result ≠ some (.failover e)) :
      settle json toLower src (s.finish json toLower o src cause) = (core (s.finish json toLower o src cause).1).dst := by
    apply settle_of_kept
    intro e
    rcases hresult with ⟨-, hresult⟩ | ⟨-, hresult⟩
    · rw [hresult]
      exact hne e
    · rw [hresult]
      simp
  generalize hcore : core (s.finish json toLower o src cause).1 = c at hends hresult hkept
  cases hends with
  | failover hwaiting _ herror =>
    refine .relayed (hcalm herror) ?_
    rcases hresult with ⟨-, hresult⟩ | ⟨hpanicked, -⟩
    · rw [settle_failover hresult, hcore]
      exact holds_writeStreamFailoverError hlines (hs.relayed.waiting hwaiting).2 (hs.relayed.waiting hwaiting).1
    · exact absurd (hpanicked.symm.trans hs.relayed.sound) (by simp)
  | afterError _ herror =>
    rw [hkept (by simp)]
    exact .relayed (hcalm herror) hstartHolds
  | synthesized hcut herror message hmessage =>
    rw [hkept (by simp)]
    have hunseen : s.terminalSeen = false := by simpa [Relay.cutShort, hstatus] using hcut
    rcases hstart with hstart | ⟨hnone, hpanicked, hreceived⟩
    · obtain ⟨text, htext, hreceived⟩ := hstart.started (started_start _)
      have happended : (∃ requestID, failedRequestID src.header o.seed = some requestID ∧ _) ∨ _ :=
        received_synthesize hstart message
      rcases happended with ⟨requestID, hid, hsame⟩ | ⟨hid, hsame⟩
      · have happends : Appends json toLower o src pendingLimit lines :=
          { timely := hs.timely
            quiet := hs.quiet.1 hunseen
            calm := hs.calm.1 herror
            clean := (rewritten_isSome toLower _).1 (Option.isSome_iff_exists.2 ⟨text, htext⟩)
            identified := by simp [hid] }
        have hmessage' : message ∈ failedMessages := by simpa [failedMessages] using hmessage
        refine .appended happends htext (failedRequestID_alphanumeric hid) hmessage' ?_
        rw [hsame, hreceived, List.append_assoc]
      · refine .relayed (fun happends => happends.identified hid) ?_
        exact ⟨lines, [], text, List.append_nil _, htext, by rw [hsame, hreceived]⟩
    · have hsame : (((core s).start json toLower o src).synthesize o src message).dst =
          ((core s).start json toLower o src).dst := by simp [Core.synthesize, hpanicked]
      refine .relayed (fun happends => ?_) (holds_nil _ (by rw [hsame, hreceived]))
      have hsome := (rewritten_isSome toLower _).2 happends.clean
      simp [hnone] at hsome
  | completed hcut =>
    rw [hkept (by simp)]
    exact .relayed (hquiet hcut) hstartHolds
  | broken hcut =>
    rw [hkept (by simp)]
    exact .relayed (hquiet hcut) hs.relayed.holds

lemma outcome_delivered (haccepts : ∀ n, o.accepts n = true) (hstatus : successfulStatus src.statusCode = true)
    {body : Bytes} (hsplit : lines = splitAfterNewline body) {out : Relay × Option CopyError}
    (h : Outcome json toLower o src pendingLimit dst lines cause done out) :
    Delivered json toLower o src pendingLimit dst lines done (settle json toLower src out) := by
  cases h with
  | @late _ rest line s hlines hs hwaiting hlate =>
    obtain ⟨hreceived, hpending⟩ := hs.relayed.waiting hwaiting
    refine .relayed (fun happends => ?_) (holds_writeStreamFailoverError (hlines.trans hsplit) hpending hreceived)
    refine happends.timely done.length (by simp [← hlines]) hlate ?_
    rw [← hlines, List.take_left]
    exact hs.waits.1 hwaiting
  | @handedOver done rest line s s' status transient hlines hs hwaiting hcore hterminal =>
    obtain ⟨hreceived, hpending⟩ := hs.relayed.waiting hwaiting
    have hlines' : (done ++ [line]) ++ rest = splitAfterNewline body := by simpa [← hsplit] using hlines
    refine .relayed (fun happends => ?_) (holds_writeStreamFailoverError hlines' ?_ ?_)
    · rw [happends.quiet line (by simp [← hlines])] at hterminal
      cases hterminal
    · have hpending' : s'.pending = (core s).pending ++ line := congrArg Core.pending hcore
      simp [hpending', hpending]
    · exact (congrArg (fun c => c.dst.received) hcore).trans hreceived
  | @panicked _ rest s hlines hpanic =>
    refine .relayed (fun happends => ?_) hpanic.holds
    have hsome := (rewritten_isSome toLower _).2 fun l hl => happends.clean l (hlines ▸ List.mem_append_left _ hl)
    simp [hpanic.line] at hsome
  | ended hs => exact finish_delivered haccepts hstatus hsplit hs

end Delivery

section Reading

/-- The lines that are read of a response. -/
def linesOf (src : Response) : List Bytes := src.reads.map Prod.fst

variable (json toLower o src pendingLimit dst) in
/-- The lines that a relay reads before it returns. -/
def heardOf : List Bytes := heard json toLower o src pendingLimit src.reads 0 (Relay.initial dst)

lemma deliver_delivered (haccepts : ∀ n, o.accepts n = true) (hstatus : successfulStatus src.statusCode = true) :
    Delivered json toLower o src pendingLimit dst (linesOf src) (heardOf json toLower o src pendingLimit dst)
      (deliver json toLower o src pendingLimit dst) := by
  obtain ⟨body, init, last, cause, hreads, hsplit, -⟩ := reads_form src
  have hlines : linesOf src = splitAfterNewline body := by
    rw [← hsplit, linesOf, hreads]
    simp [Function.comp_def]
  have houtcome : Outcome json toLower o src pendingLimit dst (splitAfterNewline body) cause _ _ :=
    loop_outcome haccepts rfl (show [] ++ (init ++ [last]) = _ from hsplit) traced_initial
  rw [List.length_nil, List.nil_append, ← hreads, ← hlines] at houtcome
  exact outcome_delivered haccepts hstatus hlines houtcome

/-- It is enough to look at the events of all lines. -/
lemma undelivered_of_events {lines : List Bytes} {text : Bytes} (htext : rewritten json toLower lines = some text)
    (h : ∀ data ∈ EventStream.events text, ¬ Terminal json data) : Undelivered json toLower lines := by
  rintro done rest part rfl hpart data hdata
  rw [rewritten_append, hpart, Option.bind_some, Option.map_eq_some_iff] at htext
  obtain ⟨more, -, rfl⟩ := htext
  refine h data ?_
  have hevents := EventStream.events_run (EventStream.initial.run part) more
  rw [← EventStream.run_append] at hevents
  exact hevents.subset hdata

end Reading

section Samples

/-- `encoding/json` on objects whose last member is the type, for the given types. -/
def typedJson (types : List String) : Json :=
  let literal (type : String) : Bytes := bytes "\"" ++ bytes type ++ bytes "\""
  let ending (type : String) : Bytes := bytes "\"type\":" ++ literal type ++ bytes "\x7d"
  { Json.ofTypes types with
    object := fun x =>
      if JsonText.Valid x then
        let text := x.dropWhile JsonText.isSpace
        (types.find? fun type => (ending type).isSuffixOf text).map fun type =>
          let event : Object := (∅ : Object).insert "type" (literal type)
          if (bytes "\x7b\"response\":").isPrefixOf text then
            event.insert "response" ((text.drop 12).take (text.length - 13 - (ending type).length))
          else event
      else none }

def eventJson : Json := typedJson ["response.failed", "response.created", "response.output_text.delta"]

lemma valid_blank {space : Bytes} (h : JsonText.Blank space) (x : Bytes) :
    JsonText.Valid (space ++ x) = JsonText.Valid x := by
  unfold JsonText.Valid JsonText.initial
  rw [JsonText.scan_append, JsonText.scan_blank h, Option.bind_some]

lemma eventJson_failed {requestID message : String} (hmessage : message ∈ failedMessages)
    (hid : ∀ c ∈ requestID.toList, isAlphanumeric c = true) :
    dataType eventJson (failedPayload requestID message) = some "response.failed" := by
  have hvalid : JsonText.Valid (failedPayload requestID message) = true := by
    rw [failedPayload_eq]
    exact JsonText.valid_of_closes (closes_payloadRest hid hmessage) (x := []) (by simp [JsonText.Blank])
  have htext : (failedPayload requestID message).dropWhile JsonText.isSpace = failedPayload requestID message := by
    rw [failedPayload_eq]
    rfl
  have hsuffix : (bytes "\"type\":" ++ (bytes "\"" ++ bytes "response.failed" ++ bytes "\"") ++ bytes "\x7d").isSuffixOf
      (failedPayload requestID message) = true := by
    rw [List.isSuffixOf_iff_suffix]
    have hlast : bytes "\",\"object\":\"response\",\"output\":[],\"status\":\"failed\"\x7d,\"type\":\"response.failed\"\x7d" =
        bytes "\",\"object\":\"response\",\"output\":[],\"status\":\"failed\"\x7d," ++
          (bytes "\"type\":" ++ (bytes "\"" ++ bytes "response.failed" ++ bytes "\"") ++ bytes "\x7d") := by
      repeat rw [bytes_ofList]
      rfl
    unfold failedPayload
    rw [hlast]
    exact (List.suffix_append _ _).trans (List.suffix_append _ _)
  have hopens : (bytes "\x7b\"response\":").isPrefixOf (failedPayload requestID message) = true := by
    rw [List.isPrefixOf_iff_prefix]
    have hfirst : bytes "\x7b\"response\":\x7b\"error\":\x7b\"code\":\"upstream_error\",\"message\":\"" =
        bytes "\x7b\"response\":" ++ bytes "\x7b\"error\":\x7b\"code\":\"upstream_error\",\"message\":\"" := by
      repeat rw [bytes_ofList]
      rfl
    unfold failedPayload
    rw [hfirst]
    simp only [List.append_assoc]
    exact List.prefix_append _ _
  have hfind : ["response.failed", "response.created", "response.output_text.delta"].find? (fun type =>
      (bytes "\"type\":" ++ (bytes "\"" ++ bytes type ++ bytes "\"") ++ bytes "\x7d").isSuffixOf
        (failedPayload requestID message)) = some "response.failed" := List.find?_cons_of_pos hsuffix
  unfold dataType eventJson typedJson
  dsimp only
  rw [if_pos hvalid, htext, hfind, Option.map_some, if_pos hopens, Option.bind_some]
  unfold Object.raw
  rw [FiniteMap.lookup_insert, if_neg (by decide)]
  decide

lemma eventJson_lawful : LawfulJson eventJson where
  valid := by
    intro x event h
    unfold eventJson typedJson at h
    dsimp only at h
    by_contra hvalid
    rw [if_neg hvalid] at h
    cases h
  leading := by
    intro space x hspace
    have hdrop : (space ++ x).dropWhile JsonText.isSpace = x.dropWhile JsonText.isSpace :=
      List.dropWhile_append_of_pos hspace
    unfold eventJson typedJson
    dsimp only
    rw [valid_blank hspace, hdrop]
  failed := fun _ _ hmessage hid => eventJson_failed hmessage hid

/-- Every write is accepted, and no deadline passes. -/
def steady : Outside := ⟨fun _ => true, fun _ => false, some [7]⟩

/-- A stream that breaks off between two events. -/
def brokenOff : Response :=
  ⟨200, [], bytes "data: \x7b\"type\":\"response.created\"\x7d\n\ndata: \x7b\"type\":\"response.output_text.delta\"\x7d\n\n", .failed⟩

/-- A stream that ends within an event, after its data. -/
def unfinished : Response := ⟨200, [], bytes "data: \x7b\"type\":\"response.output_text.delta\"\x7d\n", .eof⟩

end Samples

end ShareSub.RelayReadable

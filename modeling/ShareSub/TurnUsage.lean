import Mathlib
import ShareSub.TurnModel

/-!
# Steering conserves usage

While a turn goes on, all usage of its segments is in the steered usage; a terminal event moves it to the terminal
response together with its own. Every exit adds the two.
-/
namespace ShareSub.TurnUsage

open SseModel UsageModel TurnModel

section Counters

inductive Counter
  | inputTokens
  | outputTokens
  | cachedTokens
  | cacheCreationTokens
  | imageInputTokens
  | imageOutputTokens
  | imageCount
  | webSearchCalls
  deriving DecidableEq, Repr

def counter (m : UsageMetrics) : Counter → Count
  | .inputTokens => m.inputTokens
  | .outputTokens => m.outputTokens
  | .cachedTokens => m.cachedTokens
  | .cacheCreationTokens => m.cacheCreationTokens
  | .imageInputTokens => m.imageInputTokens
  | .imageOutputTokens => m.imageOutputTokens
  | .imageCount => m.imageCount
  | .webSearchCalls => m.webSearchCalls

/-- A counter of a terminal response. -/
def usage (r : Terminal) (c : Counter) : Count := counter (usageMetrics r) c

lemma completedCalls_append (type : String) (a b : List OutputItem) :
    completedCalls type (a ++ b) = completedCalls type a + completedCalls type b := by
  have hstart : ∀ (output : List OutputItem) (n : Count),
      output.foldl (fun count item => if item.type = type ∧ item.status = "completed" then count + 1 else count) n =
        n + completedCalls type output := by
    intro output
    induction output with
    | nil => intro n; exact (add_zero n).symm
    | cons item output ih =>
      intro n
      rw [completedCalls, List.foldl_cons, List.foldl_cons, ih, ih]
      split_ifs
      · rw [zero_add, add_assoc]
      · rw [zero_add]
  rw [completedCalls, List.foldl_append, hstart]
  rfl

lemma usage_zero (c : Counter) : usage Terminal.zero c = 0 := by cases c <;> rfl

lemma usage_merge (a b : Terminal) (c : Counter) :
    usage (mergeResponsesWebSocketTerminal a b) c = usage a c + usage b c := by
  cases c with
  | imageCount => exact completedCalls_append _ _ _
  | webSearchCalls => exact completedCalls_append _ _ _
  | _ => rfl

lemma usage_error (r : Terminal) (e : Option ResponseError) (c : Counter) : usage { r with error := e } c = usage r c := by
  cases c <;> rfl

lemma counter_billing (r : Terminal) (c : Counter) : counter (responsesWebSocketBillingMetrics r) c = usage r c := by
  cases c <;> rfl

/-- The sum of a counter over segments. -/
def total (segments : List UsageMetrics) (c : Counter) : Count := (segments.map fun m => counter m c).sum

lemma total_append (segments : List UsageMetrics) (r : Terminal) (c : Counter) :
    total (segments ++ [responsesWebSocketBillingMetrics r]) c = total segments c + usage r c := by
  rw [total, List.map_append, List.sum_append, List.map_singleton, List.sum_singleton, counter_billing, total]

end Counters

section Books

variable {json : FrameJson} {toLower : String → String} {o : Outside} {s t : Turn} {segments : List UsageMetrics}

/-- The terminal response and the steered usage hold what the segments sum up to. -/
structure Balanced (s : Turn) (segments : List UsageMetrics) : Prop where
  balance : ∀ c, usage s.terminal c + usage s.steeredUsage c = total segments c
  segments : s.result.billingSegments = segments

/-- All of it is in the steered usage. -/
structure Waiting (s : Turn) (segments : List UsageMetrics) : Prop where
  terminal : ∀ c, usage s.terminal c = 0
  steered : ∀ c, usage s.steeredUsage c = total segments c
  segments : s.result.billingSegments = segments

/-- The metrics of a turn that has ended. -/
structure Settled (s : Turn) (segments : List UsageMetrics) : Prop where
  metrics : ∀ c, counter s.result.metrics.toUsageMetrics c = total segments c
  segments : s.result.billingSegments = segments

def Keeps (segments : List UsageMetrics) : Flow → Prop
  | .go s => Waiting s segments
  | .done s _ => Settled s segments

lemma Waiting.balanced (h : Waiting s segments) : Balanced s segments :=
  ⟨fun c => by rw [h.terminal, h.steered, zero_add], h.segments⟩

/-- What the books are kept in. -/
def books (s : Turn) : Terminal × Terminal × List UsageMetrics := (s.terminal, s.steeredUsage, s.result.billingSegments)

lemma Waiting.congr (h : Waiting s segments) (hbooks : books t = books s) : Waiting t segments := by
  obtain ⟨hterminal, hsteered, hsegments⟩ := Prod.mk.inj hbooks |>.imp_right Prod.mk.inj
  exact ⟨hterminal ▸ h.terminal, hsteered ▸ h.steered, hsegments.trans h.segments⟩

lemma Balanced.congr (h : Balanced s segments) (hbooks : books t = books s) : Balanced t segments := by
  obtain ⟨hterminal, hsteered, hsegments⟩ := Prod.mk.inj hbooks |>.imp_right Prod.mk.inj
  exact ⟨hterminal ▸ hsteered ▸ h.balance, hsegments.trans h.segments⟩

lemma Balanced.setError (h : Balanced s segments) (e : Option ResponseError) :
    Balanced { s with terminal := { s.terminal with error := e } } segments :=
  ⟨fun c => by rw [usage_error]; exact h.balance c, h.segments⟩

lemma Balanced.applyPendingError (h : Balanced s segments) : Balanced s.applyPendingError segments := by
  unfold Turn.applyPendingError
  split_ifs
  · exact h.setError s.pendingError
  · exact h

lemma Balanced.applyTerminalFailure (h : Balanced s segments) (eventType : String) :
    Balanced (s.applyTerminalFailure eventType) segments := by
  unfold Turn.applyTerminalFailure
  split_ifs
  · exact h
  · exact h.setError _

lemma Balanced.finishMetrics (toLower : String → String) (h : Balanced s segments) : Settled (s.finishMetrics toLower) segments := by
  have hpending := h.applyPendingError
  constructor
  · intro c
    have hmerged : usage (mergeResponsesWebSocketTerminal s.applyPendingError.terminal s.applyPendingError.steeredUsage) c =
        total segments c := by rw [usage_merge, hpending.balance]
    unfold Turn.finishMetrics
    dsimp only
    split_ifs
    · exact hmerged
    · exact hmerged
  · exact hpending.segments

lemma Balanced.fail (h : Balanced s segments) (error : TurnError) : Keeps segments (s.fail toLower error) := h.finishMetrics toLower

lemma Balanced.complete (h : Balanced s segments) (event : String) : Keeps segments (s.complete toLower event) := by
  have hresult : Balanced { s with result := { s.result with
      terminalEvent := normalizeResponsesWebSocketTerminalEvent event } } segments := ⟨h.balance, h.segments⟩
  have hsettled : Settled _ segments := (hresult.applyPendingError.applyTerminalFailure event).finishMetrics toLower
  unfold Turn.complete
  dsimp only
  split_ifs
  · exact hsettled
  · exact hsettled

end Books

section Steps

variable {json : FrameJson} {toLower : String → String} {o : Outside} {s t : Turn} {segments : List UsageMetrics}

lemma books_flush (o : Outside) (s : Turn) : books (s.flush o).1 = books s := by
  unfold Turn.flush
  split <;> rfl

lemma books_markClientDisconnected (s : Turn) (cause : String) : books (s.markClientDisconnected cause) = books s := by
  unfold Turn.markClientDisconnected
  split_ifs <;> rfl

lemma books_steer (s : Turn) (eventType : String) : books (s.steer eventType) = books s := by
  unfold Turn.steer
  split
  · rfl
  · rfl
  · split_ifs <;> rfl
  · rfl

/-- A control frame leaves the books as they are, also when it ends the turn. -/
lemma control_keeps (h : Waiting s segments) (read : Frame) : Keeps segments (s.control json toLower o read) := by
  unfold Turn.control
  split_ifs with hretry hcancel
  · have hflush : Waiting ({ s with allowUpstreamErrorRetry := false }.flush o).1 segments := h.congr (books_flush o _)
    split
    · next t heq =>
      rw [heq] at hflush
      exact hflush.balanced.fail _
    · next t heq =>
      rw [heq] at hflush
      have hwrite : Waiting (t.writeUpstream o read).1 segments := hflush.congr rfl
      split
      · next u hu =>
        rw [hu] at hwrite
        exact hwrite.balanced.fail _
      · next u hu =>
        rw [hu] at hwrite
        exact hwrite
  · split
    · exact h.balanced.fail _
    · exact h.congr rfl
  · have hwrite : Waiting (s.writeUpstream o read).1 segments := h.congr rfl
    split
    · next t ht =>
      rw [ht] at hwrite
      exact hwrite.balanced.fail _
    · next t ht =>
      rw [ht] at hwrite
      exact hwrite

lemma clientRead_keeps (h : Waiting s segments) (read : String ⊕ Frame) :
    Keeps segments (s.clientRead json toLower o read) := by
  cases read with
  | inl cause => exact h.congr (books_markClientDisconnected s cause)
  | inr read =>
    unfold Turn.clientRead
    dsimp only
    split_ifs
    · exact h.balanced.fail _
    · exact h.congr rfl
    · exact h.balanced.fail _
    · refine control_keeps ?_ read
      exact h.congr rfl
    · split
      · next t heq =>
        have hflush := congrArg Prod.fst heq ▸ books_flush o _
        exact (h.congr hflush).balanced.fail _
      · next t heq =>
        have hflush := congrArg Prod.fst heq ▸ books_flush o _
        exact control_keeps (h.congr hflush) read
    · refine control_keeps ?_ read
      exact h.congr rfl

lemma observe_terminal {frame : Bytes} {eventType responseID : String} {r : Terminal}
    (h : observeResponsesWebSocketEvent json frame = (eventType, responseID, some r)) :
    isTerminalResponseEvent eventType = true := by
  unfold observeResponsesWebSocketEvent at h
  split at h
  · cases h
  · next event _ =>
    dsimp only at h
    by_cases hempty : GatewayModel.trimSpace event.type = ""
    · rw [if_pos hempty] at h
      cases h
    · rw [if_neg hempty] at h
      by_cases hterminal : isTerminalResponseEvent (GatewayModel.trimSpace event.type) = true
      · rw [if_pos hterminal] at h
        cases h
        exact hterminal
      · rw [if_neg hterminal] at h
        cases h

/-- The segments that a terminal response adds. -/
def added (parsed : Option Terminal) : List UsageMetrics := (parsed.map responsesWebSocketBillingMetrics).toList

/-- After a terminal response nothing is lost, and as long as the turn goes on all is in the steered usage. -/
lemma noteTerminal_keeps (frame : Bytes) {eventType : String} {parsed : Option Terminal} (h : Waiting s segments)
    (hparsed : parsed ≠ none → isTerminalResponseEvent eventType = true) :
    Balanced (s.noteTerminal json frame eventType parsed).1 (segments ++ added parsed) ∧
      ((s.noteTerminal json frame eventType parsed).2.1 = false →
        Waiting (s.noteTerminal json frame eventType parsed).1 (segments ++ added parsed)) := by
  cases parsed with
  | none =>
    rw [added, Option.map_none, Option.toList_none, List.append_nil]
    exact ⟨h.balanced, fun _ => h⟩
  | some r =>
    have hsegments : s.result.billingSegments ++ [responsesWebSocketBillingMetrics r] = segments ++ added (some r) := by
      rw [h.segments]
      rfl
    unfold Turn.noteTerminal
    dsimp only
    split_ifs
    · have hwaiting : ∀ c, usage (mergeResponsesWebSocketTerminal s.steeredUsage r) c = total (segments ++ added (some r)) c :=
        fun c => by rw [usage_merge, h.steered]; exact (total_append segments r c).symm
      exact ⟨⟨fun c => by rw [usage_zero, zero_add]; exact hwaiting c, hsegments⟩, fun _ => ⟨usage_zero, hwaiting, hsegments⟩⟩
    · refine ⟨⟨?_, hsegments⟩, ?_⟩
      · intro c
        dsimp only
        rw [usage_merge, usage_zero, add_zero, h.steered, add_comm]
        exact (total_append segments r c).symm
      · intro hgoing
        rw [hparsed (Option.some_ne_none r)] at hgoing
        cases hgoing

lemma books_noteHeld (s : Turn) (eventType : String) (terminalEvent : Bool × String) :
    books (s.noteHeld eventType terminalEvent).1 = books s ∧
      ((s.noteHeld eventType terminalEvent).2.1 = false → terminalEvent.1 = false) := by
  unfold Turn.noteHeld
  split_ifs
  · exact ⟨rfl, nofun⟩
  · exact ⟨rfl, id⟩

/-- A frame that is understood, or that has ended the turn. -/
def Understood (segments : List UsageMetrics) : Except Flow (Turn × Bool × String) → Prop
  | .error flow => Keeps segments flow
  | .ok (s, terminalEvent) => Balanced s segments ∧ (terminalEvent.1 = false → Waiting s segments)

/-- A text frame that is understood adds its segment; one that ends the turn before has none. -/
lemma observe_keeps (json : FrameJson) (toLower : String → String) (h : Waiting s segments) (frame : Bytes)
    {eventType responseID : String} {parsed : Option Terminal}
    (hevent : observeResponsesWebSocketEvent json frame = (eventType, responseID, parsed)) :
    Understood (segments ++ added parsed) (s.observe json toLower frame) := by
  have hparsed : parsed ≠ none → isTerminalResponseEvent eventType = true := by
    intro hsome
    obtain ⟨r, rfl⟩ := Option.ne_none_iff_exists'.mp hsome
    exact observe_terminal hevent
  unfold Turn.observe
  simp only [hevent]
  by_cases hcreated : eventType = "response.created" ∧ s.awaitingSteerContinuation = true ∧ s.result.nextFrame ≠ []
  · have hnone : parsed = none := by
      by_contra hsome
      have hterminal := hparsed hsome
      rw [hcreated.1] at hterminal
      exact absurd hterminal (by decide)
    rw [if_pos hcreated, hnone, added, Option.map_none, Option.toList_none, List.append_nil]
    exact h.balanced.finishMetrics toLower
  · rw [if_neg hcreated]
    have hsteered : Waiting ((s.steer eventType).noteRequest json frame eventType responseID) segments :=
      h.congr (books_steer s eventType)
    obtain ⟨hbalanced, hwaiting⟩ := noteTerminal_keeps frame hsteered hparsed
    generalize ((s.steer eventType).noteRequest json frame eventType responseID).noteTerminal json frame eventType parsed = noted
      at hbalanced hwaiting
    obtain ⟨t, terminalEvent⟩ := noted
    generalize (if eventType = "error" then parseResponsesWebSocketErrorEvent json frame else none) = found
    cases found with
    | none =>
      obtain ⟨hbooks, hgoing⟩ := books_noteHeld t eventType terminalEvent
      exact ⟨hbalanced.congr hbooks, fun hno => (hwaiting (hgoing hno)).congr hbooks⟩
    | some e =>
      have herror : books { t with pendingError := some e } = books t := rfl
      dsimp only
      split_ifs
      · have hsettled := (hbalanced.congr herror).finishMetrics toLower
        exact ⟨hsettled.metrics, hsettled.segments⟩
      · obtain ⟨hbooks, hgoing⟩ := books_noteHeld { t with pendingError := some e } eventType terminalEvent
        exact ⟨hbalanced.congr (hbooks.trans herror), fun hno => (hwaiting (hgoing hno)).congr (hbooks.trans herror)⟩

/-- The books after the delivery of a frame. -/
def Delivered (s : Turn) (segments : List UsageMetrics) : Except Flow Turn → Prop
  | .error flow => Keeps segments flow
  | .ok t => books t = books s

lemma deliver_keeps (toLower : String → String) (o : Outside) (h : Balanced s segments) (frame : Frame) :
    Delivered s segments (s.deliver toLower o frame) := by
  unfold Turn.deliver
  split_ifs
  · rfl
  · cases o.client s.client.attempts with
    | some cause => exact books_markClientDisconnected _ cause
    | none =>
      have hflush := books_flush o { s with
        client := ⟨s.client.written ++ [frame], s.client.attempts + 1⟩, wroteDownstream := true }
      dsimp only
      generalize ({ s with client := ⟨s.client.written ++ [frame], s.client.attempts + 1⟩, wroteDownstream := true } : Turn).flush o =
        flushed at hflush
      obtain ⟨t, ok⟩ := flushed
      cases ok with
      | true => exact hflush
      | false => exact (h.congr hflush).finishMetrics toLower

lemma forward_keeps (h : Balanced s segments) (frame : Frame) (late : Bool) {terminalEvent : Bool × String}
    (hgoing : terminalEvent.1 = false → Waiting s segments) :
    Keeps segments (s.forward toLower o frame late terminalEvent) := by
  have hdeliver := deliver_keeps toLower o h frame
  unfold Turn.forward
  cases hcase : s.deliver toLower o frame with
  | error flow =>
    rw [hcase] at hdeliver
    exact hdeliver
  | ok t =>
    rw [hcase] at hdeliver
    dsimp only
    split_ifs with hterminal hlate
    · exact (h.congr hdeliver).complete _
    · exact (h.congr hdeliver).fail _
    · exact (hgoing (by simpa using hterminal)).congr hdeliver

end Steps

section Runs

variable {json : FrameJson} {toLower : String → String} {o : Outside} {s t : Turn} {segments : List UsageMetrics}

/-- The segments of the terminal events that are received. -/
def received (json : FrameJson) : Happening → List UsageMetrics
  | .upstreamRead (.inr ⟨.text, frame⟩) _ => added (observeResponsesWebSocketEvent json frame).2.2
  | _ => []

lemma upstreamRead_keeps (h : Waiting s segments) (read : String ⊕ Frame) (late : Bool) :
    Keeps (segments ++ received json (.upstreamRead read late)) (s.upstreamRead json toLower o late read) := by
  cases read with
  | inl cause =>
    rw [received, List.append_nil]
    unfold Turn.upstreamRead
    dsimp only
    split
    · exact h.balanced.fail _
    · exact h.balanced.fail _
    · nofun
  | inr read =>
    obtain ⟨messageType, frame⟩ := read
    cases messageType with
    | other => exact (List.append_nil segments).symm ▸ h.balanced.fail _
    | binary => exact (List.append_nil segments).symm ▸ forward_keeps h.balanced _ late fun _ => h
    | text =>
      have hobserve := observe_keeps json toLower h frame rfl
      unfold Turn.upstreamRead
      dsimp only
      cases hcase : s.observe json toLower frame with
      | error flow =>
        rw [hcase] at hobserve
        exact hobserve
      | ok out =>
        rw [hcase] at hobserve
        exact forward_keeps hobserve.1 _ late hobserve.2

/-- Whatever the `select` takes, the books stay right. -/
lemma step_keeps (h : Waiting s segments) (happening : Happening) {flow : Flow}
    (hstep : s.step json toLower o happening = some flow) : Keeps (segments ++ received json happening) flow := by
  cases happening with
  | clientRead read =>
    unfold Turn.step at hstep
    split_ifs at hstep
    cases hstep
    exact (List.append_nil segments).symm ▸ clientRead_keeps h read
  | upstreamRead read late =>
    cases hstep
    exact upstreamRead_keeps h read late
  | readTimeout =>
    unfold Turn.step at hstep
    split_ifs at hstep
    cases hstep
    exact (List.append_nil segments).symm ▸ h.balanced.fail _
  | drainTimeout =>
    obtain ⟨cause, -, rfl⟩ := Option.map_eq_some_iff.mp hstep
    exact (List.append_nil segments).symm ▸ h.balanced.fail _
  | canceled =>
    cases hstep
    rw [received, List.append_nil]
    · split
      · exact h.balanced.fail _
      · exact h.balanced.fail _
    · nofun

lemma run_keeps (h : Waiting s segments) (happenings : List Happening) {flow : Flow}
    (hrun : s.run json toLower o happenings = some flow) : Keeps (segments ++ happenings.flatMap (received json)) flow := by
  induction happenings generalizing s segments with
  | nil =>
    cases hrun
    exact (List.append_nil segments).symm ▸ h
  | cons happening rest ih =>
    rw [List.flatMap_cons, ← List.append_assoc]
    unfold Turn.run at hrun
    split at hrun
    · cases hrun
    · next t hstep => exact ih (step_keeps h happening hstep) hrun
    · next t error hstep =>
      split_ifs at hrun with hlast
      cases hrun
      rw [hlast, List.flatMap_nil, List.append_nil]
      exact step_keeps h happening hstep

/-- At every exit of a turn each counter of its metrics is the sum over its segments, and the segments are those of the
terminal events that the turn has received. -/
theorem steering_conserves_usage (json : FrameJson) (toLower : String → String) (o : Outside) (sessionModel : String)
    (sessionReplaySafe allowUpstreamErrorRetry : Bool) (pending : PendingClientFrames) (client upstream : Connection)
    (happenings : List Happening) (s : Turn) (error : Option TurnError)
    (h : (Turn.start sessionModel sessionReplaySafe allowUpstreamErrorRetry pending client upstream).run json toLower o
      happenings = some (.done s error)) :
    (∀ c, counter s.result.metrics.toUsageMetrics c = total s.result.billingSegments c) ∧
      s.result.billingSegments = happenings.flatMap (received json) := by
  have hstart : Waiting (Turn.start sessionModel sessionReplaySafe allowUpstreamErrorRetry pending client upstream) [] :=
    ⟨usage_zero, usage_zero, rfl⟩
  have hsettled : Settled s ([] ++ happenings.flatMap (received json)) := run_keeps hstart happenings h
  exact ⟨fun c => hsettled.segments ▸ hsettled.metrics c, hsettled.segments⟩

end Runs

section Example

def steered : Bytes :=
  bytes "\x7b\"type\":\"response.incomplete\",\"response\":\x7b\"incomplete_details\":\x7b\"reason\":\"steered\"\x7d,\"usage\":\x7b\"input_tokens\":150000\x7d\x7d\x7d"

def created : Bytes := bytes "\x7b\"type\":\"response.created\"\x7d"

def completed : Bytes := bytes "\x7b\"type\":\"response.completed\",\"response\":\x7b\"usage\":\x7b\"input_tokens\":120000\x7d\x7d\x7d"

def response (inputTokens : Count) : Terminal := { Terminal.zero with usage := { Terminal.zero.usage with inputTokens := inputTokens } }

def sampleEvent (x : Bytes) : Option UpstreamEvent :=
  if x = steered then some ⟨"response.incomplete", "", "", response 150000⟩
  else if x = created then some ⟨"response.created", "", "", Terminal.zero⟩
  else if x = completed then some ⟨"response.completed", "", "", response 120000⟩
  else none

/-- `encoding/json` as it is on the three frames. -/
def sampleJson : FrameJson where
  type x := (sampleEvent x).map UpstreamEvent.type
  sessionModel x := (sampleEvent x).map fun event => (event.type, "")
  session x := (sampleEvent x).map fun event => (event.type, ∅)
  string _ := none
  event := sampleEvent
  error x := (sampleEvent x).map fun _ => none
  incompleteReason x := (sampleEvent x).map fun _ => if x = steered then "steered" else ""
  startsVisibleOutput _ _ := false

def steeredTurn : List Happening :=
  [steered, created, completed].map fun frame => .upstreamRead (.inr ⟨.text, frame⟩) false

def steeredRun : Option Flow :=
  (Turn.start "" true false PendingClientFrames.empty ⟨[], 0⟩ ⟨[], 0⟩).run sampleJson String.toLower
    ⟨fun _ => none, fun _ => true⟩ steeredTurn

/-- The input tokens that a turn which has ended is charged for. -/
def inputTokens? : Option Flow → Option Count
  | some (.done s _) => some s.result.metrics.inputTokens
  | _ => none

/-- A turn that is steered once is charged for both of its segments. -/
theorem steering_conserves_usage_steered :
    ∃ s error, steeredRun = some (.done s error) ∧ s.result.metrics.inputTokens = 270000 ∧
      (∀ c, counter s.result.metrics.toUsageMetrics c = total s.result.billingSegments c) ∧
        s.result.billingSegments = steeredTurn.flatMap (received sampleJson) := by
  have hdone : inputTokens? steeredRun = some 270000 := by decide +kernel
  cases hrun : steeredRun with
  | none =>
    rw [hrun] at hdone
    cases hdone
  | some flow =>
    cases flow with
    | go s =>
      rw [hrun] at hdone
      cases hdone
    | done s error =>
      rw [hrun] at hdone
      exact ⟨s, error, rfl, Option.some.inj hdone, steering_conserves_usage sampleJson String.toLower _ "" true false
        PendingClientFrames.empty _ _ steeredTurn s error hrun⟩

end Example

end ShareSub.TurnUsage

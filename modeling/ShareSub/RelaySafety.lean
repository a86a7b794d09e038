import Mathlib
import ShareSub.RelayConversion
import ShareSub.RelayCore

/-!
# A failover leaves the client untouched

Each relay keeps a flag that says whether it has begun to answer. As long as it has not, nothing was called on the
client, and every failover is returned from such a state.
-/
namespace ShareSub.RelaySafety

open SseModel RelayModel RelayCore RelayConversion

variable {json : Json} {toLower : String → String} {o : Outside} {src : Response} {dst : ResponseWriter}
  {e : StreamFailoverError}

section Stream

variable {pendingLimit : ℤ} {s : Relay}

/-- The client is as it was, unless the output has started. -/
def Untouched (dst : ResponseWriter) (c : Core) : Prop := c.started = false → c.dst = dst

lemma untouched_of_started {c : Core} (h : c.started = true) : Untouched dst c := by
  intro hnot
  rw [h] at hnot
  cases hnot

lemma Takes.untouched {line : Bytes} {c c' : Core} (h : Takes json toLower o src line c c') (hc : Untouched dst c) :
    Untouched dst c' := by
  cases h with
  | kept hwaiting => exact fun _ => hc hwaiting
  | released => exact untouched_of_started (started_start _)
  | overflowed => exact untouched_of_started (by rw [started_write, started_start])
  | written hstarted => exact untouched_of_started (by rw [started_write, hstarted])

lemma Ends.untouched {error : ReadError} {c : Core} (h : Ends json toLower o src s error c (some (.failover e)))
    (hs : Untouched dst (core s)) : c.dst = dst := by
  cases h with
  | failover hwaiting => exact hs hwaiting

lemma loop_untouched (reads : List (Bytes × Option ReadError)) (n : ℕ) (hs : Untouched dst (core s))
    (h : (Relay.loop json toLower o src pendingLimit reads n s).2 = some (.failover e)) :
    (Relay.loop json toLower o src pendingLimit reads n s).1.dst = dst := by
  induction reads generalizing n s with
  | nil => simp [Relay.loop] at h
  | cons read reads ih =>
    obtain ⟨line, error⟩ := read
    have hreads : Reads json toLower o src pendingLimit line error reads n s _ := loop_reads line error reads n s
    generalize Relay.loop json toLower o src pendingLimit ((line, error) :: reads) n s = out at h hreads ⊢
    have hgo : ∀ {s' : Relay}, s.read json toLower o src pendingLimit line = .go s' → Untouched dst (core s') := by
      intro s' hread
      rcases read_go hread with ⟨-, rfl⟩ | ⟨-, htakes, -⟩
      · exact hs
      · exact Takes.untouched htakes hs
    cases hreads with
    | late hwaiting => exact hs hwaiting
    | handedOver hread =>
      rcases read_done hread with ⟨hpanicked, -⟩ | ⟨hwaiting, hcore, -⟩
      · rw [hpanicked] at h
        cases h
      · exact (congrArg Core.dst hcore).trans (hs hwaiting)
    | next _ hread => exact ih (n + 1) (hgo hread) h
    | @ended s' cause _ hread =>
      obtain ⟨result, hends, ⟨-, hresult⟩ | ⟨-, hpanicked⟩⟩ :
          ∃ result, Ends json toLower o src s' cause _ result ∧ _ := finish_ends s' cause
      · rw [← hresult, h] at hends
        exact Ends.untouched hends (hgo hread)
      · rw [hpanicked] at h
        cases h

theorem copySSE_untouched (dst : ResponseWriter)
    (h : (copySSEWithPendingLimitAndTimeout json toLower o src pendingLimit dst).2 = some (.failover e)) :
    (copySSEWithPendingLimitAndTimeout json toLower o src pendingLimit dst).1.dst = dst :=
  loop_untouched _ _ (fun _ => rfl) h

end Stream

section Conversions

variable {images : ImagesJson} {request : ImagesRequest}

/-- A result that is no failover, or that leaves the client as it was. -/
structure Clean (dst : ResponseWriter) (out : ResponseWriter × Option CopyError) : Prop where
  untouched : ∀ e, out.2 = some (.failover e) → out.1 = dst

variable {w : ResponseWriter}

lemma clean_same (dst : ResponseWriter) (error : Option CopyError) : Clean dst (dst, error) := ⟨fun _ _ => rfl⟩

lemma clean_none : Clean dst (w, none) := ⟨fun _ h => by cases h⟩

lemma clean_other : Clean dst (w, some .other) := ⟨fun _ h => by cases h⟩

lemma clean_incomplete : Clean dst (w, some .incompleteStream) := ⟨fun _ h => by cases h⟩

lemma clean_writeJSON (status : ℕ) (body : Bytes) : Clean dst (writeJSON o src w status body) := by
  unfold writeJSON writeLast
  dsimp only
  split_ifs
  · exact clean_none
  · exact clean_other

lemma answer_clean (s : Conversion) (dst : ResponseWriter) : Clean dst (s.answer json toLower o src dst) := by
  unfold Conversion.answer
  dsimp only
  by_cases hempty : s.finalResponse = []
  · rw [if_pos hempty]
    split
    · split
      · exact clean_other
      · split_ifs
        · exact clean_same _ _
        · exact clean_writeJSON _ _
    · exact clean_incomplete
  · rw [if_neg hempty]
    split_ifs
    · exact clean_same _ _
    · exact clean_writeJSON _ _
    · exact clean_same _ _
    · exact clean_writeJSON _ _

lemma conversion_clean (reads : List (Bytes × Option ReadError)) (n : ℕ) (s : Conversion) (dst : ResponseWriter) :
    Clean dst (Conversion.loop json toLower o src dst reads n s) := by
  induction reads generalizing n s with
  | nil => exact clean_same _ _
  | cons read reads ih =>
    obtain ⟨line, error⟩ := read
    unfold Conversion.loop
    by_cases hlate : (!s.outputSeen && o.late n) = true
    · rw [if_pos hlate]
      exact clean_same _ _
    · rw [if_neg hlate]
      cases (if line = [] then some s else s.line json toLower line) with
      | none => exact clean_other
      | some s' =>
        cases error with
        | none => exact ih (n + 1) s'
        | some cause =>
          cases cause with
          | eof => exact answer_clean s' dst
          | failed => exact clean_other
          | tooLarge => exact clean_other

/-- The client is as it was, unless the stream of images has started. -/
def Unstarted (dst : ResponseWriter) (s : ImagesRelay) : Prop := s.streamStarted = false → s.dst = dst

variable {s : ImagesRelay}

lemma clean_of_unstarted (hs : Unstarted dst s) (h : s.streamStarted = false) (error : Option CopyError) :
    Clean dst (s.dst, error) := ⟨fun _ _ => hs h⟩

lemma finishImagesFailure_clean (hs : Unstarted dst s) (response : Bytes) :
    Clean dst (finishImagesFailure json images toLower src request s response) := by
  unfold finishImagesFailure
  dsimp only
  split_ifs with hretry
  · simp only [Bool.and_eq_true, Bool.not_eq_true'] at hretry
    exact clean_of_unstarted hs hretry.1 _
  · exact clean_none
  · exact clean_none
  · exact clean_none

lemma withoutImages_clean (hs : Unstarted dst s) (event : ImagesEvent) :
    Clean dst (s.withoutImages json images toLower src request event) := by
  unfold ImagesRelay.withoutImages
  dsimp only
  by_cases hmessage : GatewayModel.trimSpace s.refusal ≠ ""
  · rw [if_pos hmessage]
    split_ifs
    · exact clean_none
    · apply finishImagesFailure_clean
      exact hs
  · rw [if_neg hmessage]
    split_ifs with hstarted
    · exact clean_of_unstarted hs (by simpa using hstarted) _
    · exact clean_other

lemma withImages_clean (s : ImagesRelay) (event : ImagesEvent) (results : List ImagesResult) :
    Clean dst (s.withImages images o src request event results) := by
  unfold ImagesRelay.withImages
  split_ifs
  · exact clean_none
  · exact clean_none
  · exact clean_none
  · exact clean_writeJSON _ _

lemma images_answer_clean (hs : Unstarted dst s) : Clean dst (s.answer json images toLower o src request) := by
  unfold ImagesRelay.answer
  split
  · split_ifs with hstarted
    · exact clean_of_unstarted hs (by simpa using hstarted) _
    · exact clean_incomplete
  · split_ifs
    · exact withoutImages_clean hs _
    · exact withImages_clean s _ _

lemma partialImage_unstarted (hs : Unstarted dst s) (event : ImagesEvent) :
    Unstarted dst (s.partialImage images o src request event) := by
  unfold ImagesRelay.partialImage
  by_cases hgone : s.clientDisconnected = true
  · simpa [hgone] using hs
  · intro hfalse
    cases hstarted : s.streamStarted <;> simp [hgone, hstarted] at hfalse

/-- The state after an event that does not end the relay, or the result of one that does. -/
def Flows (dst : ResponseWriter) : ImagesFlow → Prop
  | .go s => Unstarted dst s
  | .done w error => Clean dst (w, error)

lemma fail_flows (hs : Unstarted dst s) (terminal : TerminalResponse) (response : Bytes) :
    Flows dst (s.fail json images toLower src request terminal response) := by
  unfold ImagesRelay.fail
  dsimp only
  split_ifs
  · exact clean_none
  · apply finishImagesFailure_clean
    exact hs

lemma event_flows (hs : Unstarted dst s) (event : ImagesEvent) :
    Flows dst (s.event json images toLower o src request event) := by
  unfold ImagesRelay.event
  split
  · exact hs
  · exact hs
  · exact hs
  · split_ifs
    · exact partialImage_unstarted hs event
    · exact hs
  · split_ifs
    · exact hs
    · exact hs
    · exact hs
  · exact hs
  · split
    · exact fail_flows hs _ _
    · exact hs
  · exact fail_flows hs _ _
  · exact fail_flows hs _ _
  · exact hs

lemma images_clean (reads : List (Bytes × Option ReadError)) (hs : Unstarted dst s) :
    Clean dst (ImagesRelay.loop json images toLower o src request reads s) := by
  induction reads generalizing s with
  | nil => exact clean_none
  | cons read reads ih =>
    obtain ⟨line, error⟩ := read
    have hflows : Flows dst (s.line json images toLower o src request line) := by
      unfold ImagesRelay.line
      split
      · exact hs
      · split
        · exact clean_other
        · exact event_flows hs _
    unfold ImagesRelay.loop
    cases hline : s.line json images toLower o src request line with
    | done w error' =>
      rw [hline] at hflows
      exact hflows
    | go s' =>
      rw [hline] at hflows
      have hs' : Unstarted dst s' := hflows
      cases error with
      | none => exact ih hs'
      | some cause =>
        cases cause with
        | eof => exact images_answer_clean hs'
        | failed =>
          dsimp only
          split_ifs with hstarted
          · exact clean_of_unstarted hs' (by simpa using hstarted) _
          · exact clean_other
        | tooLarge =>
          dsimp only
          split_ifs with hstarted
          · exact clean_of_unstarted hs' (by simpa using hstarted) _
          · exact clean_other

end Conversions

section Attempts

variable (json : Json) (images : ImagesJson) (toLower : String → String)

/-- An attempt of a request, with the relay of its response and the outside of it. -/
inductive Attempt
  | stream (o : Outside) (src : Response) (pendingLimit : ℤ)
  | asJSON (o : Outside) (src : Response)
  | images (o : Outside) (src : Response) (request : ImagesRequest)

def Attempt.run (dst : ResponseWriter) : Attempt → ResponseWriter × Option CopyError
  | .stream o src pendingLimit =>
    let out := copySSEWithPendingLimitAndTimeout json toLower o src pendingLimit dst
    (out.1.dst, out.2)
  | .asJSON o src => copySSEAsJSON json toLower o src dst
  | .images o src request => copyImagesResponse json images toLower o src request dst

/-- The attempts of a request, the next one after a failover. -/
def replay (dst : ResponseWriter) : Attempt → List Attempt → ResponseWriter × Option CopyError
  | attempt, [] => attempt.run json images toLower dst
  | attempt, next :: attempts =>
    match attempt.run json images toLower dst with
    | (dst, some (.failover _)) => replay dst next attempts
    | out => out

lemma run_clean (attempt : Attempt) (dst : ResponseWriter) : Clean dst (attempt.run json images toLower dst) := by
  cases attempt with
  | stream o src pendingLimit => exact ⟨fun _ h => copySSE_untouched dst h⟩
  | asJSON o src => exact conversion_clean ..
  | images o src request => exact images_clean _ fun _ => rfl

/-- Whatever the upstream sends and however the stream ends, whichever writes fail and whenever the deadline passes, a
failover is returned only from a client on which nothing was called; and a replay gives the client what the last
attempt alone would have given it. -/
theorem failover_leaves_client_untouched (dst : ResponseWriter) :
    (∀ (attempt : Attempt) e, (attempt.run json images toLower dst).2 = some (.failover e) →
        (attempt.run json images toLower dst).1 = dst) ∧
      ∀ (abandoned : List Attempt) (attempt winner : Attempt),
        (∀ a ∈ attempt :: abandoned, ∃ e, (a.run json images toLower dst).2 = some (.failover e)) →
          replay json images toLower dst attempt (abandoned ++ [winner]) = winner.run json images toLower dst := by
  refine ⟨fun attempt e => (run_clean json images toLower attempt dst).untouched e, ?_⟩
  intro abandoned
  induction abandoned with
  | nil =>
    intro attempt winner h
    obtain ⟨e, he⟩ := h attempt (List.mem_cons_self ..)
    have hsame := (run_clean json images toLower attempt dst).untouched e he
    rw [List.nil_append, replay, show attempt.run json images toLower dst = (dst, some (.failover e)) from
      Prod.ext hsame he]
    rfl
  | cons next abandoned ih =>
    intro attempt winner h
    obtain ⟨e, he⟩ := h attempt (List.mem_cons_self ..)
    have hsame := (run_clean json images toLower attempt dst).untouched e he
    rw [List.cons_append, replay, show attempt.run json images toLower dst = (dst, some (.failover e)) from
      Prod.ext hsame he]
    exact ih next winner fun a ha => h a (List.mem_cons_of_mem _ ha)

/-- An upstream that accepts the request and then fails it, and one that produces text. -/
def overloaded : Response :=
  ⟨200, [], bytes "event: response.failed\ndata: \x7b\"type\":\"response.failed\"\x7d\n\n", .eof⟩

def productive : Response :=
  ⟨200, [], bytes "data: \x7b\"type\":\"response.output_text.delta\"\x7d\n\n", .failed⟩

/-- Every write is accepted, and the deadline passes before the given read. -/
def patient (deadline : ℕ) : Outside := ⟨fun _ => true, fun n => deadline ≤ n, some [7]⟩

def sampleJson : Json := .ofTypes ["response.failed", "response.output_text.delta"]

/-- No image event is read. -/
def noImages : ImagesJson := ⟨fun _ => none, fun _ _ _ _ => none, fun _ _ _ _ => none, fun _ _ => none, fun _ _ _ => []⟩

theorem failover_leaves_client_untouched_overloaded :
    replay sampleJson noImages id ⟨[], [], []⟩ (.stream (patient 9) overloaded 4096)
        ([.stream (patient 0) overloaded 4096] ++ [.stream (patient 9) productive 4096]) =
      (Attempt.stream (patient 9) productive 4096).run sampleJson noImages id ⟨[], [], []⟩ ∧
      ((Attempt.stream (patient 9) productive 4096).run sampleJson noImages id ⟨[], [], []⟩).1.heads = [200] :=
  ⟨(failover_leaves_client_untouched sampleJson noImages id ⟨[], [], []⟩).2 _ _ _ (by
      intro a ha
      simp only [List.mem_cons, List.not_mem_nil, or_false] at ha
      rcases ha with rfl | rfl
      · exact ⟨⟨502, bytes "event: response.failed\ndata: \x7b\"type\":\"response.failed\"\x7d\n", [], false⟩, by
          decide⟩
      · exact ⟨⟨504, [], [], false⟩, by decide⟩), by decide⟩

end Attempts

end ShareSub.RelaySafety

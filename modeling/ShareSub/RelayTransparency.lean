import Mathlib
import ShareSub.RelayRun

/-!
# The relay is transparent

A client that accepts every write receives the lines of the upstream in order, each rewritten on its own, whichever way
the pending lines were released. The one way to lose lines is the error of a read on a response that is not successful:
there nothing releases the lines that still wait.
-/
namespace ShareSub.RelayTransparency

open SseModel RelayModel RelayCore RelayRun

variable {json : Json} {toLower : String → String} {o : Outside} {src : Response} {pendingLimit : ℤ}
  {dst : ResponseWriter}

section Transparency

/-- The client has received the lines of the body, each rewritten, and at most one synthesized event after them. -/
def Transparent (json : Json) (toLower : String → String) (src : Response) (dst w : ResponseWriter) : Prop :=
  ∃ text, rewritten json toLower (splitAfterNewline src.body) = some text ∧
    (w.received = dst.received ++ text ∨
      ∃ requestID message, w.received = dst.received ++ text ++ failedEvent requestID message)

/-- The read of an unsuccessful response fails while all its lines wait. -/
structure Lost (json : Json) (toLower : String → String) (pendingLimit : ℤ) (src : Response) : Prop where
  unsuccessful : successfulStatus src.statusCode = false
  failed : src.ending ≠ .eof
  nonempty : src.body ≠ []
  waits : Waits json toLower pendingLimit (splitAfterNewline src.body)

variable {s : Relay}

lemma Relayed.transparent {c : Core} (h : Relayed json toLower dst (splitAfterNewline src.body) c)
    (hstarted : c.started = true) : Transparent json toLower src dst c.dst := by
  obtain ⟨text, htext, hreceived⟩ := h.started hstarted
  exact ⟨text, htext, .inl hreceived⟩

/-- The synthesized event is appended to what was relayed. -/
lemma Relayed.synthesize {c : Core} (h : Relayed json toLower dst (splitAfterNewline src.body) c)
    (hstarted : c.started = true) (message : String) :
    Transparent json toLower src dst (c.synthesize o src message).dst := by
  obtain ⟨text, htext, hreceived⟩ := h.started hstarted
  have happended : (∃ requestID, failedRequestID src.header o.seed = some requestID ∧ _) ∨ _ :=
    received_synthesize h message
  rcases happended with ⟨requestID, -, hsame⟩ | ⟨-, hsame⟩
  · exact ⟨text, htext, .inr ⟨requestID, message, by rw [hsame, hreceived]⟩⟩
  · exact ⟨text, htext, .inl (by rw [hsame, hreceived])⟩

/-- Nothing of a body that waits has reached the client. -/
lemma not_transparent {w : ResponseWriter} (hreceived : w.received = dst.received) (hbody : src.body ≠ []) :
    ¬ Transparent json toLower src dst w := by
  rintro ⟨text, htext, hsame | ⟨requestID, message, hsame⟩⟩
  · rw [hreceived, List.self_eq_append_right] at hsame
    rw [hsame] at htext
    exact hbody ((flatten_splitAfterNewline _).symm.trans (rewritten_eq_nil htext))
  · rw [hreceived, List.append_assoc, List.self_eq_append_right, List.append_eq_nil_iff] at hsame
    rw [hsame.1] at htext
    exact hbody ((flatten_splitAfterNewline _).symm.trans (rewritten_eq_nil htext))

lemma finish_transparent (haccepts : ∀ n, o.accepts n = true)
    (hclean : ∀ line ∈ splitAfterNewline src.body, ¬ Panics json line)
    (hs : Traced json toLower o pendingLimit dst (splitAfterNewline src.body) s)
    (h : ∀ e, (s.finish json toLower o src src.ending).2 ≠ some (.failover e)) :
    Transparent json toLower src dst (s.finish json toLower o src src.ending).1.dst ↔
      ¬ Lost json toLower pendingLimit src := by
  have hstart : Relayed json toLower dst (splitAfterNewline src.body) ((core s).start json toLower o src) := by
    rcases hs.relayed.start haccepts (sanitize_flatten (List.append_nil _)) with hstart | ⟨hnone, -⟩
    · exact hstart
    · have hsome := (rewritten_isSome toLower _).2 hclean
      simp [hnone] at hsome
  have hstarted : ((core s).start json toLower o src).started = true := started_start _
  obtain ⟨result, hends, hresult⟩ : ∃ result, Ends json toLower o src s src.ending _ result ∧ _ :=
    finish_ends s src.ending
  have hdst : (s.finish json toLower o src src.ending).1.dst = (core (s.finish json toLower o src src.ending).1).dst :=
    rfl
  rw [hdst]
  generalize core (s.finish json toLower o src src.ending).1 = c at hends hresult ⊢
  have hcutShort (hcut : Relay.cutShort src s = true) : ¬ Lost json toLower pendingLimit src := by
    intro hlost
    simp [Relay.cutShort, hlost.unsuccessful] at hcut
  cases hends with
  | failover hwaiting =>
    rcases hresult with ⟨-, hresult⟩ | ⟨hpanicked, -⟩
    · exact absurd hresult (h _)
    · exact absurd (hpanicked.symm.trans hs.relayed.sound) (by simp)
  | afterError hcut => exact iff_of_true (Relayed.transparent hstart hstarted) (hcutShort hcut)
  | synthesized hcut _ message => exact iff_of_true (Relayed.synthesize hstart hstarted message) (hcutShort hcut)
  | completed _ heof => exact iff_of_true (Relayed.transparent hstart hstarted) fun hlost => hlost.failed heof
  | broken hcut heof =>
    by_cases hwaiting : (core s).started = false
    · have hunsuccessful : successfulStatus src.statusCode = false := by
        have hunseen : s.terminalSeen = false := by
          by_contra hseen
          exact absurd ((hs.started (by simpa using hseen)).symm.trans hwaiting) (by simp)
        simpa [Relay.cutShort, hunseen] using hcut
      by_cases hbody : src.body = []
      · refine iff_of_true ⟨[], ?_, .inl ?_⟩ fun hlost => hlost.nonempty hbody
        · rw [hbody]
          rfl
        · rw [List.append_nil]
          exact (hs.relayed.waiting hwaiting).1
      · exact iff_of_false (not_transparent (hs.relayed.waiting hwaiting).1 hbody)
          (not_not_intro ⟨hunsuccessful, heof, hbody, hs.waits.1 hwaiting⟩)
    · exact iff_of_true (Relayed.transparent hs.relayed (by simpa using hwaiting))
        fun hlost => hwaiting (hs.waits.2 hlost.waits)

/-- The lines of a body that fit, whatever the limit, are given to a client that accepts every write as they are, in
order and each rewritten, with at most one synthesized event after them, unless the run hands them over to another
attempt; except when a line panics, or when all of them still wait at the failed read of an unsuccessful response. -/
theorem relay_is_transparent (json : Json) (toLower : String → String) (o : Outside) (src : Response)
    (pendingLimit : ℤ) (dst : ResponseWriter) (haccepts : ∀ n, o.accepts n = true)
    (hfits : ∀ line ∈ splitAfterNewline src.body, line.length ≤ maxSSELineBytes)
    (hkept : ∀ e, (copySSEWithPendingLimitAndTimeout json toLower o src pendingLimit dst).2 ≠ some (.failover e)) :
    (∀ pending rest, pending ++ rest = splitAfterNewline src.body →
        sanitizeCapacityShedSSEForClient json toLower pending.flatten = rewritten json toLower pending) ∧
      (Transparent json toLower src dst
          (copySSEWithPendingLimitAndTimeout json toLower o src pendingLimit dst).1.dst ↔
        (∀ line ∈ splitAfterNewline src.body, ¬ Panics json line) ∧ ¬ Lost json toLower pendingLimit src) := by
  refine ⟨fun pending rest h => sanitize_flatten h, ?_⟩
  by_cases hclean : ∀ line ∈ splitAfterNewline src.body, ¬ Panics json line
  · rw [and_iff_right hclean]
    obtain ⟨body, init, last, cause, hreads, hsplit, hfit⟩ := reads_form src
    obtain ⟨rfl, rfl⟩ := hfit hfits
    unfold copySSEWithPendingLimitAndTimeout at hkept ⊢
    rw [hreads] at hkept ⊢
    have houtcome : Outcome json toLower o src pendingLimit dst (splitAfterNewline src.body) src.ending _ _ :=
      loop_outcome haccepts rfl (show [] ++ (init ++ [last]) = _ from hsplit) traced_initial
    simp only [List.length_nil, List.nil_append] at houtcome
    generalize Relay.loop json toLower o src pendingLimit
      (init.map (fun line => (line, none)) ++ [(last, some src.ending)]) 0 (Relay.initial dst) = out at houtcome hkept ⊢
    generalize heard json toLower o src pendingLimit _ 0 (Relay.initial dst) = done at houtcome
    cases houtcome with
    | late => exact absurd rfl (hkept _)
    | handedOver => exact absurd rfl (hkept _)
    | panicked hlines hpanic =>
      have hsome := (rewritten_isSome toLower _).2 fun l hl =>
        hclean l (hlines ▸ List.mem_append_left _ hl)
      simp [hpanic.line] at hsome
    | ended hs => exact finish_transparent haccepts hclean hs hkept
  · refine iff_of_false ?_ fun h => hclean h.1
    rintro ⟨text, htext, -⟩
    exact hclean ((rewritten_isSome toLower _).1 (Option.isSome_iff_exists.2 ⟨text, htext⟩))

/-- A client that accepts every write, and no deadline. -/
def attentive : Outside := ⟨fun _ => true, fun _ => false, some [7]⟩

/-- A stream that is cut after some output. -/
def cutStream : Response :=
  ⟨200, [], bytes "data: \x7b\"type\":\"response.created\"\x7d\n\ndata: \x7b\"type\":\"response.output_text.delta\"\x7d\nda",
    .failed⟩

def streamJson : Json := .ofTypes ["response.created", "response.output_text.delta"]

theorem relay_is_transparent_cutStream :
    (copySSEWithPendingLimitAndTimeout streamJson id attentive cutStream 4096 ⟨[], [], []⟩).2 = some .incompleteStream ∧
      Transparent streamJson id cutStream ⟨[], [], []⟩
        (copySSEWithPendingLimitAndTimeout streamJson id attentive cutStream 4096 ⟨[], [], []⟩).1.dst := by
  have hresult : (copySSEWithPendingLimitAndTimeout streamJson id attentive cutStream 4096 ⟨[], [], []⟩).2 =
      some .incompleteStream := by decide
  refine ⟨hresult, (relay_is_transparent streamJson id attentive cutStream 4096 ⟨[], [], []⟩ (fun _ => rfl)
    (by decide) (by simp [hresult])).2.2 ⟨?_, fun hlost => ?_⟩⟩
  · have hclean : (rewritten streamJson id (splitAfterNewline cutStream.body)).isSome := by decide
    exact (rewritten_isSome id _).1 hclean
  · exact absurd hlost.unsuccessful (by decide)

/-- A stream of an unsuccessful response whose read fails after its first event. -/
def refusedStream : Response :=
  ⟨400, [("Content-Type", "text/event-stream")], bytes "data: \x7b\"type\":\"response.created\"\x7d\n\n", .failed⟩

/-- The first event is lost. -/
theorem refusedStream_is_lost :
    (∀ line ∈ splitAfterNewline refusedStream.body, line.length ≤ maxSSELineBytes) ∧
      (copySSEWithPendingLimitAndTimeout streamJson id attentive refusedStream 4096 ⟨[], [], []⟩).2 = some .other ∧
      ¬ Transparent streamJson id refusedStream ⟨[], [], []⟩
        (copySSEWithPendingLimitAndTimeout streamJson id attentive refusedStream 4096 ⟨[], [], []⟩).1.dst := by
  refine ⟨by decide, by decide, not_transparent ?_ (by decide)⟩
  decide

end Transparency

end ShareSub.RelayTransparency

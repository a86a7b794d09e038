import Mathlib
import ShareSub.ReplayRepresentation

/-!
# The history over the runs of a session

What holds of the history between any two steps. A turn that continues another has an input that can be replayed, as long
as the items that are resent are decoded as those of the history were.
-/
namespace ShareSub.ReplayInvariant

open SseModel TurnModel TurnControls ReplayModel ReplayBudget ReplaySession ReplayRepresentation

section Condition

variable {Raw X B : Type} [DecidableEq X] [DecidableEq B] (json : ReplayJson Raw) (frameJson : FrameJson)
  (toLower : String → String)

/-- When the input of a turn is judged to begin with the history that it continues, the scan for tool calls takes the items
that are resent as it takes those of the history. -/
def resentAlike (s : Session Raw X B) : Action → Bool
  | .start (some (requestFrame, previousResponseID)) =>
    match responsesWebSocketInputItems json requestFrame with
    | none => true
    | some (current, _, _) =>
      GatewayModel.trimSpace previousResponseID ≠ s.history.responseID ||
        !responsesWebSocketRawPrefix json current s.history.items ||
        (current.take s.history.items.length).map (role json) = s.history.items.map (role json)
  | _ => true

/-- So it is at each step of a run. -/
def runsAlike (s : Session Raw X B) : List Action → Bool
  | [] => true
  | action :: rest => resentAlike json s action && (s.step json frameJson toLower action).all fun t => runsAlike t rest

end Condition

section Steps

variable {Raw X B : Type} [DecidableEq X] [DecidableEq B] [Fintype X] {json : ReplayJson Raw} {frameJson : FrameJson}
  {toLower : String → String} {s : Session Raw X B} {t : ReplayTurn Raw}

/-- The history is what it stands for, and has its bytes. -/
structure Sound (json : ReplayJson Raw) (s : Session Raw X B) : Prop where
  balanced : Balanced s.world.heap
  held : s.world.held .history = s.history.bytes
  represents : s.history.valid = true → Represents json s.history

lemma Sound.release (hs : Sound json s) {x : Holder} (hx : x ≠ .history) : Sound json (s.release x) :=
  ⟨release_balanced hs.balanced x, (release_held hs.balanced x .history).trans ((if_neg hx.symm).trans hs.held), hs.represents⟩

lemma Sound.invalidate (hs : Sound json s) : Sound json s.invalidate :=
  ⟨release_balanced hs.balanced _, (release_held hs.balanced .history .history).trans (if_pos rfl), nofun⟩

lemma Sound.resize (hs : Sound json s) {x : Holder} (hx : x ≠ .history) (next : ℕ) : Sound json (s.resize x next).1 :=
  ⟨call_balanced hs.balanced _, (resize_others hs.balanced next hx.symm).trans hs.held, hs.represents⟩

/-- Only the history holds bytes. -/
def Idle (s : Session Raw X B) : Prop := s.world.held .current = 0 ∧ s.world.held .output = 0

lemma Sound.idle (hs : Sound json s) : Idle ((s.release .current).release .output) := by
  have hcurrent := hs.release (x := .current) (by decide)
  refine ⟨?_, ?_⟩
  · refine (release_held hcurrent.balanced .output .current).trans ?_
    rw [if_neg (by decide)]
    exact (release_held hs.balanced .current .current).trans (if_pos rfl)
  · exact (release_held hcurrent.balanced .output .output).trans (if_pos rfl)

lemma Sound.quit (hs : Sound json s) : Sound json ((s.release .current).release .output) :=
  (hs.release (by decide)).release (by decide)

/-- After the deferred releases nothing is held. -/
lemma Sound.finish (hs : Sound json s) (e : Ending) : Sound json (s.finish e) ∧ ∀ x, (s.finish e).world.held x = 0 := by
  refine ⟨⟨hs.quit.invalidate.balanced, hs.quit.invalidate.held, nofun⟩, fun x => ?_⟩
  refine (release_held hs.quit.balanced .history x).trans ?_
  cases x with
  | history => rfl
  | current => exact hs.idle.1
  | output => exact hs.idle.2

/-- A turn that can be committed has its plan, and one that continues another can be retried only then. -/
structure Ready (json : ReplayJson Raw) (h : ReplayHistory Raw) (t : ReplayTurn Raw) : Prop where
  planned : t.replayCommitSafe = true → Planned json h t.plan t.currentInput
  continued : t.retryFrame = none → t.retrySafe = true → t.replayCommitSafe = true

/-- A frame that binds the relay has stopped the replay of the session, and nothing is left that could be replayed. -/
structure Stopped (frameJson : FrameJson) (s : Session Raw X B) (t : ReplayTurn Raw) (frames : List Frame) : Prop where
  sessionReplaySafe : s.sessionReplaySafe = false
  history : s.history.items = []
  currentInput : t.currentInput = []
  binding : ∃ read ∈ frames, Binding frameJson read

/-- While a turn is relayed it can be retried if the relay may be given up, and it is ready, unless it is stopped. -/
def Relaying (json : ReplayJson Raw) (frameJson : FrameJson) (s : Session Raw X B) (t : ReplayTurn Raw) (relay : Turn) : Prop :=
  ∃ allow client written held frames, Ordered frameJson allow client written held relay frames ∧
    (allow = true → t.retrySafe = true) ∧ (Ready json s.history t ∨ Stopped frameJson s t frames)

/-- What holds in each phase. -/
def InPhase (json : ReplayJson Raw) (frameJson : FrameJson) (s : Session Raw X B) : Phase Raw → Prop
  | .between => Idle s
  | .attempting t => Ready json s.history t
  | .relaying t relay _ _ => Relaying json frameJson s t relay
  | .ended e => (∀ x, s.world.held x = 0) ∧ e ≠ .notSafeToReplay ∧ e ≠ .outOfRange

structure Holds (json : ReplayJson Raw) (frameJson : FrameJson) (s : Session Raw X B) : Prop where
  sound : Sound json s
  phase : InPhase json frameJson s s.phase

lemma holds_finish (hs : Sound json s) {e : Ending} (he : e ≠ .notSafeToReplay ∧ e ≠ .outOfRange) :
    Holds json frameJson (s.finish e) :=
  ⟨(hs.finish e).1, (hs.finish e).2, he⟩

lemma build_complete {input : List Raw} (hcomplete : CompleteRoles (input.map (role json))) (frame : Bytes) :
    buildResponsesWebSocketRetryFrame json frame input ≠ some none := by
  unfold buildResponsesWebSocketRetryFrame
  simp only [if_pos ((toolContextComplete_iff input).2 hcomplete)]
  cases json.frame frame <;> simp

/-- The input of a planned turn can be replayed. -/
lemma build_safe {h : ReplayHistory Raw} (hready : Ready json h t) (hretry : t.retrySafe = true) (hframe : t.retryFrame = none) :
    buildResponsesWebSocketRetryFrame json t.requestFrame (t.plan.input h.items t.currentInput) ≠ some none :=
  build_complete (hready.planned (hready.continued hframe hretry)).complete t.requestFrame

lemma prepareRetry_holds (hs : Sound json s) (hready : Ready json s.history t) (hretry : t.retrySafe = true) :
    Holds json frameJson (s.prepareRetry json t) := by
  unfold Session.prepareRetry
  cases hframe : t.retryFrame with
  | some frame => exact ⟨⟨hs.balanced, hs.held, hs.represents⟩, hready⟩
  | none =>
    dsimp only
    have hsafe := build_safe hready hretry hframe
    cases hbuild : buildResponsesWebSocketRetryFrame json t.requestFrame (t.plan.input s.history.items t.currentInput) with
    | none => exact holds_finish hs ⟨by decide, by decide⟩
    | some rebuilt =>
      rw [hbuild] at hsafe
      cases rebuilt with
      | none => exact absurd rfl hsafe
      | some frame => exact ⟨⟨hs.balanced, hs.held, hs.represents⟩, hready.planned, nofun⟩

/-- What the planning of a turn does: it can only move the bytes of the input, and it fails for the input alone. -/
structure Plans (json : ReplayJson Raw) (s : Session Raw X B) (previousResponseID : String)
    (answer : Session Raw X B × Except Ending (Planning Raw)) : Prop where
  sound : Sound json answer.1
  history : answer.1.history = s.history
  error : ∀ e, answer.2 = .error e → e = .left
  planned : ∀ p, answer.2 = .ok p → (p.replayCommitSafe = true → Planned json s.history p.plan p.currentInput) ∧
    (GatewayModel.trimSpace previousResponseID ≠ "" → p.retrySafe = true → p.replayCommitSafe = true)

omit [DecidableEq X] in
lemma plans_refused {u : Session Raw X B} (hu : Sound json u) (hhistory : u.history = s.history) (previousResponseID : String) :
    Plans json s previousResponseID (u, .ok Planning.refused) :=
  ⟨hu, hhistory, nofun, fun p hp => by cases hp; exact ⟨nofun, fun _ => nofun⟩⟩

lemma plan_plans (hs : Sound json s) {requestFrame : Bytes} {previousResponseID : String}
    (hroles : GatewayModel.trimSpace previousResponseID = s.history.responseID → ∀ current exists? replayable,
      responsesWebSocketInputItems json requestFrame = some (current, exists?, replayable) →
        SameRoles json s.history current) :
    Plans json s previousResponseID (s.plan json requestFrame previousResponseID) := by
  unfold Session.plan
  split_ifs with hlarge
  · exact plans_refused hs rfl previousResponseID
  · have hframe := hs.resize (x := .current) (by decide) requestFrame.length
    have hframeHistory : (s.resize .current requestFrame.length).1.history = s.history := rfl
    rcases hresize : s.resize .current requestFrame.length with ⟨u, _ | _⟩
    · rw [hresize] at hframe hframeHistory
      exact plans_refused hframe hframeHistory previousResponseID
    · rw [hresize] at hframe hframeHistory
      dsimp only
      cases hinput : responsesWebSocketInputItems json requestFrame with
      | none => exact ⟨hframe, hframeHistory, fun e he => by cases he; rfl, nofun⟩
      | some input =>
        obtain ⟨current, currentExists, currentReplayable⟩ := input
        dsimp only
        split_ifs with hlimit
        · exact plans_refused hframe hframeHistory previousResponseID
        · have hitems := hframe.resize (x := .current) (by decide) (rawMessagesBytes json current)
          have hitemsHistory : (u.resize .current (rawMessagesBytes json current)).1.history = s.history := hframeHistory
          rcases hresize' : u.resize .current (rawMessagesBytes json current) with ⟨v, _ | _⟩
          · rw [hresize'] at hitems hitemsHistory
            exact plans_refused hitems hitemsHistory previousResponseID
          · rw [hresize'] at hitems hitemsHistory
            dsimp only
            rw [hitemsHistory]
            obtain ⟨plan, retrySafe, replayCommitSafe, hplan, hplanned⟩ := plan_answers currentExists currentReplayable
              hs.represents fun hid => hroles hid current currentExists currentReplayable hinput
            rw [hplan]
            exact ⟨hitems, hitemsHistory, nofun, fun p hp => by cases hp; exact hplanned⟩

lemma planned_holds (hs : Sound json s) (requestFrame : Bytes) {previousResponseID : String} {p : Planning Raw}
    (hplanned : (p.replayCommitSafe = true → Planned json s.history p.plan p.currentInput) ∧
      (GatewayModel.trimSpace previousResponseID ≠ "" → p.retrySafe = true → p.replayCommitSafe = true)) :
    Holds json frameJson (s.planned requestFrame previousResponseID p) := by
  have hcurrent := hs.release (x := .current) (by decide)
  unfold Session.planned
  dsimp only
  cases hcommit : p.replayCommitSafe with
  | true =>
    rw [hcommit] at hplanned
    simp only [Bool.not_true, Bool.and_false, Bool.false_eq_true, if_false]
    refine ⟨⟨hs.balanced, hs.held, hs.represents⟩, fun _ => hplanned.1 rfl, fun _ _ => rfl⟩
  | false =>
    rw [hcommit] at hplanned
    have hcontinued : (if GatewayModel.trimSpace previousResponseID = "" then some requestFrame else none) = none →
        p.retrySafe = true → false = true := by
      intro hframe hretry
      split_ifs at hframe with hblank
      exact hplanned.2 hblank hretry
    simp only [Bool.not_false, Bool.and_true, if_true]
    by_cases hdropped : (!p.retrySafe) = true
    · simp only [if_pos hdropped]
      exact ⟨⟨hcurrent.invalidate.balanced, hcurrent.invalidate.held, nofun⟩, nofun, hcontinued⟩
    · simp only [if_neg hdropped]
      exact ⟨⟨hs.invalidate.balanced, hs.invalidate.held, nofun⟩, nofun, hcontinued⟩

/-- An item of the output moves no other bytes. -/
lemma collectItem_sound {c : World X B × Collector Raw} (hs : Sound json { s with world := c.1 }) (raw : Raw) :
    Sound json { s with world := (collectItem json c raw).1 } := by
  have hrelease (w : World X B) (hw : Sound json { s with world := w }) : Sound json { s with world := w.release .output } :=
    hw.release (by decide)
  unfold collectItem
  cases hwants : c.2.wants json raw with
  | none => exact hs
  | some wanted =>
    obtain ⟨key, nextBytes⟩ := wanted
    dsimp only
    split_ifs with hlimit
    · exact hrelease c.1 hs
    · have hresize : Sound json { s with world := (c.1.call (.resize (some .output) nextBytes)).1 } :=
        hs.resize (x := .output) (by decide) nextBytes
      rcases hcall : c.1.call (.resize (some .output) nextBytes) with ⟨w, _ | _⟩
      · rw [hcall] at hresize
        exact hrelease w hresize
      · rw [hcall] at hresize
        exact hresize

lemma collect_sound {c : World X B × Collector Raw} (hs : Sound json { s with world := c.1 }) (items : List Raw) :
    Sound json { s with world := (items.foldl (collectItem json) c).1 } := by
  induction items generalizing c with
  | nil => exact hs
  | cons raw items ih => exact ih (collectItem_sound hs raw)

/-- The beginning of a turn. Without a previous response there is no history to be resent. -/
lemma start_holds (hs : Sound json s) {frame : Option (Bytes × String)}
    (hroles : ∀ requestFrame previousResponseID, frame = some (requestFrame, previousResponseID) →
      GatewayModel.trimSpace previousResponseID = s.history.responseID → ∀ current currentExists currentReplayable,
        responsesWebSocketInputItems json requestFrame = some (current, currentExists, currentReplayable) →
          SameRoles json s.history current) :
    Holds json frameJson (s.start json frame) := by
  cases frame with
  | none => exact holds_finish hs.quit ⟨by decide, by decide⟩
  | some request =>
    obtain ⟨requestFrame, previousResponseID⟩ := request
    have hplans : Plans json
        (if GatewayModel.trimSpace previousResponseID = "" then ((s.release .current).release .output).invalidate
          else (s.release .current).release .output) previousResponseID
        ((if GatewayModel.trimSpace previousResponseID = "" then ((s.release .current).release .output).invalidate
          else (s.release .current).release .output).plan json requestFrame previousResponseID) := by
      split_ifs with hblank
      · exact plan_plans hs.quit.invalidate fun _ _ _ _ _ _ => rfl
      · exact plan_plans hs.quit (hroles requestFrame previousResponseID rfl)
    unfold Session.start
    dsimp only
    rcases hanswer : Session.plan json _ requestFrame previousResponseID with ⟨u, e | p⟩
    · rw [hanswer] at hplans
      rw [hplans.error e rfl]
      exact holds_finish hplans.sound ⟨by decide, by decide⟩
    · rw [hanswer] at hplans
      refine planned_holds hplans.sound requestFrame ?_
      have hhistory : u.history = _ := hplans.history
      rw [hhistory]
      exact hplans.planned p rfl

/-- What an event of a relayed turn does to what is kept: the turn stays ready, or the replay of the session is over. -/
structure Notes (json : ReplayJson Raw) (frameJson : FrameJson) (s : Session Raw X B) (t : ReplayTurn Raw) (happening : Happening)
    (noted : Session Raw X B × ReplayTurn Raw × Bool × Collector Raw) : Prop where
  sound : Sound json noted.1
  retrySafe : noted.2.1.retrySafe = t.retrySafe
  phase : noted.1.phase = s.phase
  ready : noted.1.history = s.history ∧ noted.2.1 = t ∧ noted.1.sessionReplaySafe = s.sessionReplaySafe ∨
    Stopped frameJson noted.1 noted.2.1 (controls frameJson happening)

omit [DecidableEq X] in
lemma notes_nothing (hs : Sound json s) (collect : Bool) (collector : Collector Raw) (happening : Happening) :
    Notes json frameJson s t happening (s, t, collect, collector) :=
  ⟨hs, rfl, rfl, .inl ⟨rfl, rfl, rfl⟩⟩

lemma note_notes (hs : Sound json s) (collect : Bool) (collector : Collector Raw) (happening : Happening) :
    Notes json frameJson s t happening (s.note json frameJson t collect collector happening) := by
  unfold Session.note
  split
  · next read =>
    split_ifs with hunsafe hcommit
    all_goals
      have hstopped : Sound json ({ s with sessionReplaySafe := false } : Session Raw X B).invalidate :=
        Sound.invalidate (s := { s with sessionReplaySafe := false }) ⟨hs.balanced, hs.held, hs.represents⟩
    · refine ⟨(hstopped.release (by decide)).release (by decide), rfl, rfl, .inr ⟨rfl, rfl, rfl, read, ?_⟩⟩
      simp only [unsafeControl, Bool.and_eq_true, Bool.not_eq_true'] at hunsafe
      exact ⟨by simp [controls, hunsafe.1], .inr hunsafe.2⟩
    · refine ⟨hstopped.release (by decide), rfl, rfl, .inr ⟨rfl, rfl, rfl, read, ?_⟩⟩
      simp only [unsafeControl, Bool.and_eq_true, Bool.not_eq_true'] at hunsafe
      exact ⟨by simp [controls, hunsafe.1], .inr hunsafe.2⟩
    · exact notes_nothing hs collect collector _
  · next read late =>
    split_ifs
    · exact ⟨collect_sound hs _, rfl, rfl, .inl ⟨rfl, rfl, rfl⟩⟩
    · exact notes_nothing hs collect collector _
  · exact notes_nothing hs collect collector happening

/-- The history after a turn that is committed, or that is rejected. -/
lemma commit_sound (hs : Sound json s) (hready : s.sessionReplaySafe = true → Ready json s.history t) (responseID : String)
    (output : List Raw) (fits : Bool) :
    Sound json (s.commit json t responseID output (t.replayCommitSafe && s.sessionReplaySafe && fits)) ∧
      (s.commit json t responseID output (t.replayCommitSafe && s.sessionReplaySafe && fits)).phase = s.phase := by
  have hreject {u : Session Raw X B} (hu : Sound json u) : Sound json ((u.invalidate.release .current).release .output) :=
    (hu.invalidate.release (by decide)).release (by decide)
  cases hreplayable : t.replayCommitSafe && s.sessionReplaySafe && fits with
  | false => exact ⟨hreject hs, rfl⟩
  | true =>
    rw [Bool.and_eq_true, Bool.and_eq_true] at hreplayable
    have hplanned := (hready hreplayable.1.2).planned hreplayable.1.1
    unfold Session.commit
    dsimp only
    have hinRange : (s.history.commitContexts json responseID t.plan t.currentInput output true).isSome = true :=
      hplanned.commitContexts_isSome responseID true
    cases hcommits : s.history.commitContexts json responseID t.plan t.currentInput output true with
    | none =>
      rw [hcommits] at hinRange
      cases hinRange
    | some judged =>
      cases judged with
      | none => exact ⟨hreject hs, rfl⟩
      | some addedContexts =>
        dsimp only
        rcases hcall : s.world.call (.replaceWith (some .history) (t.plan.totalBytes json output) [some .current, some .output])
          with ⟨w, _ | _⟩
        · have hheld := call_refused hs.balanced (congrArg Prod.snd hcall) .history
          have hbalanced := call_balanced hs.balanced
            (.replaceWith (some .history) (t.plan.totalBytes json output) [some .current, some .output])
          rw [hcall] at hheld hbalanced
          exact ⟨hreject (u := { s with world := w }) ⟨hbalanced, hheld.trans hs.held, hs.represents⟩, rfl⟩
        · have hheld := replaceWith_held hs.balanced (congrArg Prod.snd hcall) .history
          have hbalanced := call_balanced hs.balanced
            (.replaceWith (some .history) (t.plan.totalBytes json output) [some .current, some .output])
          rw [hcall] at hheld hbalanced
          exact ⟨⟨hbalanced, hheld, fun _ => hplanned.represents hs.represents hcommits⟩, rfl⟩

lemma conclude_sound (hs : Sound json s) (hready : s.sessionReplaySafe = true → Ready json s.history t) (relay : Turn)
    (error : Option TurnError) (collector : Collector Raw) :
    Sound json (s.conclude json t relay error collector) ∧ (s.conclude json t relay error collector).phase = s.phase := by
  unfold Session.conclude
  split_ifs
  · exact ⟨hs, rfl⟩
  · exact commit_sound hs hready _ _ _
  · exact ⟨(hs.invalidate.release (by decide)).release (by decide), rfl⟩

/-- The end of a relayed turn: it is tried again, or only the history is left. -/
lemma settle_holds (hs : Sound json s) (relay : Turn) {error : Option TurnError} (collect : Bool) (collector : Collector Raw)
    {t' : ReplayTurn Raw} {relay' : Turn} {collect' : Bool} {collector' : Collector Raw}
    (hphase : s.phase = .relaying t' relay' collect' collector') (hready : s.sessionReplaySafe = true → Ready json s.history t)
    (hretry : ∀ e, error = some (.firstUpstream e) → Ready json s.history t ∧ t.retrySafe = true) :
    Holds json frameJson (s.settle json t relay error collect collector) := by
  unfold Session.settle
  dsimp only
  generalize hrelease : (if (t.replayCommitSafe && !(decide (relay.result.terminalEvent ≠ "") && collect)) = true then
    s.release .output else s) = u
  have hkept : Sound json u ∧ u.history = s.history ∧ u.sessionReplaySafe = s.sessionReplaySafe ∧ u.phase = s.phase := by
    rw [← hrelease]
    split_ifs
    · exact ⟨hs.release (by decide), rfl, rfl, rfl⟩
    · exact ⟨hs, rfl, rfl, rfl⟩
  obtain ⟨hu, hhistory, hsafe, huphase⟩ := hkept
  rw [← hhistory] at hready hretry
  rw [← hsafe] at hready
  obtain ⟨hconcluded, hsame⟩ := conclude_sound hu hready relay error collector
  have hbetween : Holds json frameJson
      { ((u.conclude json t relay error collector).release .current).release .output with phase := .between } :=
    ⟨⟨hconcluded.quit.balanced, hconcluded.quit.held, hconcluded.quit.represents⟩, hconcluded.idle⟩
  have hleft : Holds json frameJson (((u.conclude json t relay error collector).release .current).release .output |>.finish .left) :=
    holds_finish hconcluded.quit ⟨by decide, by decide⟩
  have hserved := hsame.trans (huphase.trans hphase)
  cases error with
  | none =>
    dsimp only
    rw [hserved]
    exact hbetween
  | some e =>
    cases e with
    | firstUpstream upstream => exact prepareRetry_holds hu (hretry upstream rfl).1 (hretry upstream rfl).2
    | terminal event upstream =>
      dsimp only
      rw [hserved]
      exact hbetween
    | close status reason =>
      dsimp only
      rw [hserved]
      exact hleft
    | client cause =>
      dsimp only
      rw [hserved]
      exact hleft

/-- One event of a relayed turn. -/
lemma happen_holds (hs : Sound json s) {relay : Turn} {collect : Bool} {collector : Collector Raw}
    (hphase : s.phase = .relaying t relay collect collector) (hrelaying : Relaying json frameJson s t relay)
    {happening : Happening} {o : Outside} {s' : Session Raw X B}
    (hstep : s.step json frameJson toLower (.happen happening o) = some s') : Holds json frameJson s' := by
  obtain ⟨allow, client, written, held, frames, hordered, hallow, hready⟩ := hrelaying
  unfold Session.step at hstep
  rw [hphase] at hstep
  dsimp only at hstep
  cases hrelay : relay.step frameJson toLower o happening with
  | none =>
    rw [hrelay] at hstep
    cases hstep
  | some flow =>
    rw [hrelay] at hstep
    have hfollows := step_follows hordered happening hrelay
    have hnotes : Notes json frameJson s t happening (s.note json frameJson t collect collector happening) :=
      note_notes hs collect collector happening
    rcases hnoted : s.note json frameJson t collect collector happening with ⟨u, t', collect', collector'⟩
    rw [hnoted] at hstep hnotes
    dsimp only at hstep
    have hretry : t'.retrySafe = t.retrySafe := hnotes.retrySafe
    have hready' : Ready json u.history t' ∨ Stopped frameJson u t' (frames ++ controls frameJson happening) := by
      rcases hnotes.ready with ⟨hhistory, hturn, hsafe⟩ | ⟨hstopped, hitems, hinput, read, hread, hbinding⟩
      · dsimp only at hhistory hturn hsafe
        rw [hhistory, hturn]
        refine hready.imp_right ?_
        rintro ⟨hstopped, hitems, hinput, read, hread, hbinding⟩
        exact ⟨hsafe.trans hstopped, hhistory.symm ▸ hitems, hinput, read, List.mem_append_left _ hread, hbinding⟩
      · exact .inr ⟨hstopped, hitems, hinput, read, List.mem_append_right _ hread, hbinding⟩
    cases flow with
    | go relay' =>
      cases hstep
      refine ⟨⟨hnotes.sound.balanced, hnotes.sound.held, hnotes.sound.represents⟩,
        allow, client, written, held, _, hfollows, fun h => ?_, hready'.imp_right fun hstopped =>
          ⟨hstopped.sessionReplaySafe, hstopped.history, hstopped.currentInput, hstopped.binding⟩⟩
      rw [hretry]
      exact hallow h
    | done relay' error =>
      cases hstep
      refine settle_holds hnotes.sound relay' collect' collector' (hnotes.phase.trans hphase) (fun hsafe => ?_) fun e he => ?_
      · exact hready'.resolve_right fun hstopped => absurd (hsafe.symm.trans hstopped.sessionReplaySafe) (by decide)
      · rw [he] at hfollows
        obtain ⟨hallowed, -, -, -, -, hfree⟩ := hfollows
        refine ⟨hready'.resolve_right ?_, hretry.trans (hallow hallowed)⟩
        rintro ⟨-, -, -, read, hread, hbinding⟩
        exact hfree read hread hbinding

/-- The step. -/
lemma step_holds (hs : Holds json frameJson s) {action : Action} (halike : resentAlike json s action = true)
    {s' : Session Raw X B} (hstep : s.step json frameJson toLower action = some s') : Holds json frameJson s' := by
  have hphase := hs.phase
  cases action with
  | start frame =>
    dsimp only [Session.step] at hstep
    split at hstep
    · cases hstep
      refine start_holds hs.sound fun requestFrame previousResponseID hframe hid current currentExists currentReplayable hinput => ?_
      subst hframe
      dsimp only [resentAlike] at halike
      rw [hinput] at halike
      intro hinitial
      simpa [hid, hinitial] using halike
    · cases hstep
  | leave =>
    dsimp only [Session.step] at hstep
    split at hstep
    · cases hstep
      exact holds_finish hs.sound ⟨by decide, by decide⟩
    · cases hstep
      exact holds_finish hs.sound ⟨by decide, by decide⟩
    · cases hstep
  | redial =>
    dsimp only [Session.step] at hstep
    split at hstep
    · next t heq =>
      split_ifs at hstep with hretry
      cases hstep
      rw [heq] at hphase
      exact prepareRetry_holds hs.sound hphase hretry
    · cases hstep
  | relay setup =>
    dsimp only [Session.step] at hstep
    split at hstep
    · next t heq =>
      cases hstep
      rw [heq] at hphase
      have hreleased := hs.sound.release (x := .output) (by decide)
      refine ⟨⟨hreleased.balanced, hreleased.held, hreleased.represents⟩, _, _, _, _, _, start_ordered .., ?_, .inl hphase⟩
      intro hallow
      exact (Bool.and_eq_true_iff.1 hallow).1
    · cases hstep
  | happen happening o =>
    cases heq : s.phase with
    | relaying t relay collect collector =>
      rw [heq] at hphase
      exact happen_holds hs.sound heq hphase hstep
    | between =>
      dsimp only [Session.step] at hstep
      rw [heq] at hstep
      cases hstep
    | attempting t =>
      dsimp only [Session.step] at hstep
      rw [heq] at hstep
      cases hstep
    | ended e =>
      dsimp only [Session.step] at hstep
      rw [heq] at hstep
      cases hstep
  | control read =>
    dsimp only [Session.step] at hstep
    split at hstep
    · next heq =>
      rw [heq] at hphase
      split_ifs at hstep with hcreate hunsafe
      · cases hstep
        have hstopped : Sound json ({ s with sessionReplaySafe := false } : Session Raw X B).invalidate :=
          Sound.invalidate (s := { s with sessionReplaySafe := false })
            ⟨hs.sound.balanced, hs.sound.held, hs.sound.represents⟩
        refine ⟨hstopped, ?_⟩
        change InPhase json frameJson _ s.phase
        rw [heq]
        refine ⟨(release_held hs.sound.balanced .history .current).trans ?_,
          (release_held hs.sound.balanced .history .output).trans ?_⟩
        · exact (if_neg (by decide)).trans hphase.1
        · exact (if_neg (by decide)).trans hphase.2
      · cases hstep
        exact hs
    · cases hstep

lemma run_holds (hs : Holds json frameJson s) {actions : List Action}
    (halike : runsAlike json frameJson toLower s actions = true) {s' : Session Raw X B}
    (hrun : s.run json frameJson toLower actions = some s') : Holds json frameJson s' := by
  induction actions generalizing s with
  | nil =>
    cases hrun
    exact hs
  | cons action rest ih =>
    obtain ⟨u, hstep, hrest⟩ := Option.bind_eq_some_iff.1 hrun
    rw [runsAlike, Bool.and_eq_true, hstep] at halike
    exact ih (step_holds hs halike.1 hstep) halike.2 hrest

omit [DecidableEq X] in
lemma initial_holds {world : World X B} (hb : Balanced world.heap) (hempty : ∀ x, world.held x = 0) :
    Holds json frameJson (Session.initial world : Session Raw X B) :=
  ⟨⟨hb, hempty .history, nofun⟩, hempty .current, hempty .output⟩

/-- The turn that is served. -/
def Serves (s : Session Raw X B) (t : ReplayTurn Raw) : Prop :=
  s.phase = .attempting t ∨ ∃ relay collect collector, s.phase = .relaying t relay collect collector

omit [DecidableEq X] in
lemma Holds.serves_complete (hs : Holds json frameJson s) (hserves : Serves s t) (hframe : t.retryFrame = none)
    (hretry : t.retrySafe = true) :
    buildResponsesWebSocketRetryFrame json t.requestFrame (t.plan.input s.history.items t.currentInput) ≠ some none := by
  have hphase := hs.phase
  rcases hserves with heq | ⟨relay, collect, collector, heq⟩
  · rw [heq] at hphase
    exact build_safe hphase hretry hframe
  · rw [heq] at hphase
    obtain ⟨_, _, _, _, _, _, _, hready | hstopped⟩ := hphase
    · exact build_safe hready hretry hframe
    · refine build_complete ?_ t.requestFrame
      have hnone : t.plan.input s.history.items t.currentInput = [] := by
        rw [hstopped.history, hstopped.currentInput, input_eq]
        split_ifs <;> rfl
      rw [hnone]
      exact completeRoles_nil

/-- What the code relies on between its steps: the history is what it keeps of it, the turn that continues it can be
rebuilt, no slice is out of range, and outside a turn nothing but the history has bytes. -/
structure Represented (json : ReplayJson Raw) (s : Session Raw X B) : Prop where
  history : s.history.valid = true →
    s.history.bytes = rawMessagesBytes json s.history.items ∧ s.world.held .history = s.history.bytes ∧
      s.history.items.length ≤ 4096 ∧ s.history.bytes ≤ 4 * 2 ^ 20 ∧
        (∀ id, id ∈ s.history.contexts ↔ ∃ raw ∈ s.history.items, ToolCall json raw id) ∧
          responsesWebSocketToolContextComplete json s.history.items = true
  retry : ∀ t, Serves s t → t.retryFrame = none → t.retrySafe = true →
    buildResponsesWebSocketRetryFrame json t.requestFrame (t.plan.input s.history.items t.currentInput) ≠ some none
  reachable : s.phase ≠ .ended .notSafeToReplay ∧ s.phase ≠ .ended .outOfRange
  idle : (s.phase = .between ∨ ∃ e, s.phase = .ended e) → s.world.held .current = 0 ∧ s.world.held .output = 0

omit [DecidableEq X] in
lemma Holds.represented (hs : Holds json frameJson s) : Represented json s := by
  have hphase := hs.phase
  refine ⟨fun hvalid => ?_, fun t => hs.serves_complete, ⟨fun heq => ?_, fun heq => ?_⟩, ?_⟩
  · have hrepresents := hs.sound.represents hvalid
    exact ⟨hrepresents.bytes, hs.sound.held, hrepresents.items_le, hrepresents.bytes_le,
      fun id => (hrepresents.contexts id).trans call_mem_iff, (toolContextComplete_iff _).2 hrepresents.complete⟩
  · rw [heq] at hphase
    exact hphase.2.1 rfl
  · rw [heq] at hphase
    exact hphase.2.2 rfl
  · rintro (heq | ⟨e, heq⟩)
    · rw [heq] at hphase
      exact hphase
    · rw [heq] at hphase
      exact ⟨hphase.1 .current, hphase.1 .output⟩

/-- Whatever the turns, the controls, the budget and the other sessions do: as long as resent items are scanned as those of
the history were, the history is what it keeps of its items, and each turn that can be retried can be rebuilt. -/
theorem history_represented (json : ReplayJson Raw) (frameJson : FrameJson) (toLower : String → String) (world : World X B)
    (hb : Balanced world.heap) (hempty : ∀ x, world.held x = 0) (actions : List Action)
    (halike : runsAlike json frameJson toLower (Session.initial world) actions = true) (s : Session Raw X B)
    (hrun : (Session.initial world).run json frameJson toLower actions = some s) : Represented json s :=
  (run_holds (initial_holds hb hempty) halike hrun).represented

end Steps

section Example

/-- What an upstream can send as an output: a number is out of the range of a float64, and its member comes twice. -/
def doubled : Bytes := bytes "\x7b\"type\":\"shell_call_output\",\"id\":\"sh_1\",\"n\":1e999,\"n\":1\x7d"

/-- What is left of it in a request. -/
def single : Bytes := bytes "\x7b\"id\":\"sh_1\",\"n\":1,\"type\":\"shell_call_output\"\x7d"

def call : Bytes := bytes "\x7b\"type\":\"function_call\",\"id\":\"fc_1\",\"call_id\":\"call_1\"\x7d"

def answer : Bytes := bytes "\x7b\"call_id\":\"call_1\",\"type\":\"function_call_output\"\x7d"

def list (item : Bytes) : Bytes := bytes "[" ++ item ++ bytes "]"

def request : Bytes := bytes "\x7b\"model\":\"gpt-5\",\"type\":\"response.create\"\x7d"

def continued (item : Bytes) : Bytes :=
  bytes "\x7b\"input\":" ++ list item ++
    bytes ",\"model\":\"gpt-5\",\"previous_response_id\":\"resp_1\",\"type\":\"response.create\"\x7d"

def response (item : Bytes) : Bytes := bytes "\x7b\"id\":\"resp_1\",\"output\":" ++ list item ++ bytes "\x7d"

def completed (item : Bytes) : Bytes :=
  bytes "\x7b\"type\":\"response.completed\",\"response\":" ++ response item ++ bytes "\x7d"

def requestMembers : FiniteMap String Bytes :=
  ((∅ : FiniteMap String Bytes).insert "type" (bytes "\"response.create\"")).insert "model" (bytes "\"gpt-5\"")

def continuedMembers (item : Bytes) : FiniteMap String Bytes :=
  (requestMembers.insert "previous_response_id" (bytes "\"resp_1\"")).insert "input" (list item)

def completedMembers (item : Bytes) : FiniteMap String Bytes :=
  ((∅ : FiniteMap String Bytes).insert "type" (bytes "\"response.completed\"")).insert "response" (response item)

def responseMembers (item : Bytes) : FiniteMap String Bytes :=
  ((∅ : FiniteMap String Bytes).insert "id" (bytes "\"resp_1\"")).insert "output" (list item)

/-- `encoding/json` as it is on these texts. -/
def sampleJson : ReplayJson Bytes where
  text := id
  trim := id
  frame x :=
    if x = request then some requestMembers
    else if x = continued single then some (continuedMembers single)
    else if x = continued answer then some (continuedMembers answer)
    else if x = completed doubled then some (completedMembers doubled)
    else if x = completed call then some (completedMembers call)
    else none
  object x :=
    if x = response doubled then some (responseMembers doubled)
    else if x = response call then some (responseMembers call)
    else none
  items x := [doubled, single, call, answer].find? (fun item => list item = x) |>.map fun item => [item]
  string _ := none
  fields x :=
    if x = single then some ("shell_call_output", "")
    else if x = call then some ("function_call", "call_1")
    else if x = answer then some ("function_call_output", "call_1")
    else none
  head x :=
    if x = doubled ∨ x = single then some ("shell_call_output", "sh_1", "")
    else if x = call then some ("function_call", "fc_1", "call_1")
    else if x = answer then some ("function_call_output", "", "call_1")
    else none
  canonical x :=
    if x = doubled ∨ x = single then some single
    else if x = call then
      some (bytes "\x7b\"call_id\":\"call_1\",\"id\":\"fc_1\",\"type\":\"function_call\"\x7d")
    else if x = answer then some answer
    else none
  marshalFrame members := bytes "\x7b" ++
    (bytes ",").intercalate (members.entries.map fun e => bytes ("\"" ++ e.1 ++ "\":") ++ e.2) ++ bytes "\x7d"
  marshalItems items := bytes "[" ++ (bytes ",").intercalate items ++ bytes "]"
  message content :=
    bytes ("\x7b\"content\":\"" ++ content ++ "\",\"role\":\"user\",\"type\":\"message\"\x7d")
  sha256 := id

def sampleType (x : Bytes) : Option String :=
  if x = completed doubled ∨ x = completed call then some "response.completed"
  else if x = limited then some "error"
  else none

def sampleFrameJson : FrameJson where
  type := sampleType
  sessionModel x := (sampleType x).map fun type => (type, "")
  session x := (sampleType x).map fun type => (type, ∅)
  string _ := none
  event x := (sampleType x).map fun type =>
    ⟨type, "", "", if x = limited then UsageModel.Terminal.zero else { UsageModel.Terminal.zero with id := "resp_1" }⟩
  error x := (sampleType x).map fun _ => if x = limited then some ⟨"rate_limit_error", "", ""⟩ else none
  incompleteReason x := (sampleType x).map fun _ => ""
  startsVisibleOutput _ _ := false

/-- The reservations of one session, with the only budget. -/
def sampleWorld : World Empty Unit := ⟨⟨fun _ => some (), fun _ => 0, fun _ => 2 ^ 26, fun _ => 0⟩, []⟩

lemma sampleWorld_balanced : Balanced sampleWorld.heap :=
  balanced_fresh ⟨fun _ => rfl, fun _ => rfl, fun b => by cases b; decide⟩

def setup : Setup := ⟨"gpt-5", true, PendingClientFrames.empty, ⟨[], 0⟩, ⟨[], 0⟩⟩

def receive (frame : Bytes) : Action :=
  .happen (.upstreamRead (.inr ⟨.text, frame⟩) false) outside

/-- A turn with an output, and the next, which continues it and is refused for a rate limit. -/
def sampleRun (output input : Bytes) : List Action :=
  [.start (some (request, "")), .relay setup, receive (completed output), .start (some (continued input, "resp_1")),
    .relay setup, receive limited]

/-- A call, and then its output. -/
theorem history_represented_call : ∃ s, (Session.initial sampleWorld).run sampleJson sampleFrameJson String.toLower
    (sampleRun call answer) = some s ∧ s.history.items = [call] ∧ Represented sampleJson s := by
  have hitems : ((Session.initial sampleWorld).run sampleJson sampleFrameJson String.toLower (sampleRun call answer)).map
      (fun s => s.history.items) = some [call] := by decide +kernel
  obtain ⟨s, hrun, hcall⟩ := Option.map_eq_some_iff.1 hitems
  exact ⟨s, hrun, hcall, history_represented sampleJson sampleFrameJson String.toLower sampleWorld sampleWorld_balanced
    (fun _ => rfl) (sampleRun call answer) (by decide +kernel) s hrun⟩

def failsToReplay : Phase Bytes → Bool
  | .ended .notSafeToReplay => true
  | _ => false

/-- An output that the scan does not understand is kept in the history, and what the client resends for it is the same to the
comparison but not to the scan: the turn can be retried, and fails when it is. -/
theorem doubled_not_represented : Balanced sampleWorld.heap ∧ (∀ x, sampleWorld.held x = 0) ∧
    ∃ s, (Session.initial sampleWorld).run sampleJson sampleFrameJson String.toLower (sampleRun doubled single) = some s ∧
      s.phase = .ended .notSafeToReplay := by
  refine ⟨sampleWorld_balanced, fun _ => rfl, ?_⟩
  have hfails : ((Session.initial sampleWorld).run sampleJson sampleFrameJson String.toLower (sampleRun doubled single)).map
      (fun s => failsToReplay s.phase) = some true := by decide +kernel
  obtain ⟨s, hrun, hphase⟩ := Option.map_eq_some_iff.1 hfails
  refine ⟨s, hrun, ?_⟩
  unfold failsToReplay at hphase
  split at hphase
  · assumption
  · cases hphase

end Example

end ShareSub.ReplayInvariant

import Mathlib

/-!
# The registry of WebSocket sessions and its shutdown

The embedding of `responses_websocket_shutdown.go`, with the part of the handler that registers a session, accepts its
connection and binds it. Handlers and the calls of `shutdown` and `closeNow` are numbered, and any number of them run
between each other. A step is a critical section or an operation on a channel, a context or a connection; it is `none`
where a channel is closed twice. A step that does not apply leaves the state as it is.
-/
namespace ShareSub.WebSocketShutdown

section Model

abbrev Channel := ℕ

inductive Cause | shutdown | canceled
  deriving DecidableEq, Repr

/-- Where the handler of a session is. After `unregister` it keeps the stage in which it ended. -/
inductive Stage
  | arriving
  | rejected
  | registered
  | accepted
  | failed
  | bound
  | refused
  deriving DecidableEq, Repr

/-- `responsesWebSocketActiveSession` with its handler. The first of the causes is that of the session's context, and
`shut` says that a close of the registry has reached the connection. -/
structure Session where
  stage : Stage
  gone : Bool
  causes : List Cause
  client : Bool
  closed : Bool
  shut : Bool
  deriving DecidableEq, Repr

/-- `bindClient` with the connection that was accepted. -/
def Session.bindClient (x : Session) : Session × Bool :=
  if x.closed then (x, false) else ({ x with client := true }, true)

/-- A run of `gracefulClose` or `closeNow` on a session: it has read the client under the lock and closes it after. -/
inductive Closer
  | none
  | start
  | closing (client : Bool)
  | done
  deriving DecidableEq, Repr

inductive Kind | shutdown | closeNow
  deriving DecidableEq, Repr

/-- Where a call is. In its loop it has the sessions that it has still to cancel, and `closeNow` closes the current one
before it goes on; `shutdown` waits in its first or in its second `select`. -/
inductive Phase
  | idle
  | looping (remaining : Finset ℕ) (current : Option ℕ)
  | waiting (second : Bool)
  | drained
  | expired
  | returned

/-- A call of `shutdown` or `closeNow`. `closers true` are those that call `CloseNow`. -/
structure Call where
  kind : Kind
  phase : Phase
  sessions : Finset ℕ
  drained : Channel
  closers : Bool → ℕ → Closer

structure System where
  stopping : Bool
  active : Finset ℕ
  drained : Option Channel
  closed : Channel → Bool
  nextChannel : Channel
  sessions : ℕ → Session
  calls : ℕ → Call

def System.setSession (s : System) (i : ℕ) (x : Session) : System := { s with sessions := Function.update s.sessions i x }

def System.setCall (s : System) (k : ℕ) (c : Call) : System := { s with calls := Function.update s.calls k c }

def System.makeChan (s : System) (shut : Bool) : System × Channel :=
  ({ s with nextChannel := s.nextChannel + 1, closed := Function.update s.closed s.nextChannel shut }, s.nextChannel)

def System.close (s : System) (ch : Channel) : Option System :=
  if s.closed ch then none else some { s with closed := Function.update s.closed ch true }

/-- The session that is made, or `none` when the registry is stopping. -/
def System.register (s : System) (i : ℕ) : Option System :=
  if s.stopping then none else some { s with active := insert i s.active }

def System.unregister (s : System) (i : ℕ) : Option System :=
  let s := { s with active := s.active.erase i }
  match s.drained with
  | some ch => if s.stopping ∧ s.active = ∅ then (s.close ch).map fun s => { s with drained := none } else some s
  | none => some s

/-- The sessions to close and the channel to wait on. -/
def System.beginShutdown (s : System) : System × Finset ℕ × Channel :=
  let s := { s with stopping := true }
  if s.active = ∅ then
    let made := s.makeChan true
    (made.1, ∅, made.2)
  else
    match s.drained with
    | some ch => (s, s.active, ch)
    | none =>
      let made := s.makeChan false
      ({ made.1 with drained := some made.2 }, s.active, made.2)

inductive Event | drained | closeDone | done
  deriving DecidableEq, Repr

inductive Step
  | register (i : ℕ)
  | accept (i : ℕ) (ok : Bool)
  | bindClient (i : ℕ)
  | unregister (i : ℕ)
  | leave (i : ℕ)
  | begin (k : ℕ) (kind : Kind)
  | cancel (k i : ℕ)
  | proceed (k : ℕ)
  | closer (k : ℕ) (force : Bool) (i : ℕ)
  | select (k : ℕ) (event : Event)
  deriving DecidableEq, Repr

/-- A closer takes the lock of the session, or closes the client that it has read there. -/
def closerTurn (x : Session) : Closer → Session × Closer
  | .start => ({ x with closed := true }, .closing x.client)
  | .closing true => ({ x with shut := true }, .done)
  | .closing false => (x, .done)
  | c => (x, c)

def Call.setCloser (c : Call) (force : Bool) (i : ℕ) (x : Closer) : Call :=
  { c with closers := fun f j => if f = force ∧ j = i then x else c.closers f j }

/-- Closers for all sessions of a call. -/
def Call.startClosers (c : Call) (force : Bool) : Call :=
  { c with closers := fun f j => if f = force ∧ j ∈ c.sessions then .start else c.closers f j }

/-- The loop of `closeNow` goes on when the session is closed. -/
def Call.resume (c : Call) (force : Bool) (i : ℕ) : Call :=
  match c.phase with
  | .looping remaining (some j) => if force ∧ j = i ∧ c.closers true i = .done then
      { c with phase := .looping remaining none } else c
  | _ => c

def Call.closedAll (c : Call) : Bool := decide (∀ i ∈ c.sessions, c.closers false i = .done)

def step (s : System) : Step → Option System
  | .register i =>
    if (s.sessions i).stage = .arriving then
      match s.register i with
      | none => some (s.setSession i { s.sessions i with stage := .rejected })
      | some s' => some (s'.setSession i { s.sessions i with stage := .registered })
    else some s
  | .accept i ok =>
    if (s.sessions i).stage = .registered then
      some (s.setSession i { s.sessions i with stage := if ok then .accepted else .failed })
    else some s
  | .bindClient i =>
    if (s.sessions i).stage = .accepted then
      let out := (s.sessions i).bindClient
      some (s.setSession i { out.1 with stage := if out.2 then .bound else .refused })
    else some s
  | .unregister i =>
    if (s.sessions i).gone = false ∧ ((s.sessions i).stage = .failed ∨ (s.sessions i).stage = .bound ∨
        (s.sessions i).stage = .refused) then
      (s.unregister i).map fun s' => s'.setSession i { s.sessions i with gone := true }
    else some s
  | .leave i =>
    -- `cancelSession` runs after `unregister`.
    if (s.sessions i).gone ∨ (s.sessions i).stage = .rejected then
      some (s.setSession i { s.sessions i with causes := (s.sessions i).causes ++ [.canceled] })
    else some s
  | .begin k kind =>
    match (s.calls k).phase with
    | .idle =>
      let out := s.beginShutdown
      some (out.1.setCall k ⟨kind, .looping out.2.1 none, out.2.1, out.2.2, fun _ _ => .none⟩)
    | _ => some s
  | .cancel k i =>
    match (s.calls k).phase with
    | .looping remaining none =>
      if i ∈ remaining then
        let s' := s.setSession i { s.sessions i with causes := (s.sessions i).causes ++ [.shutdown] }
        match (s.calls k).kind with
        | .shutdown => some (s'.setCall k { s.calls k with phase := .looping (remaining.erase i) none })
        | .closeNow =>
          some (s'.setCall k { (s.calls k).setCloser true i .start with phase := .looping (remaining.erase i) (some i) })
      else some s
    | _ => some s
  | .proceed k =>
    match (s.calls k).phase with
    | .looping remaining none =>
      if remaining = ∅ then
        match (s.calls k).kind with
        | .shutdown => some (s.setCall k { (s.calls k).startClosers false with phase := .waiting false })
        | .closeNow => some (s.setCall k { s.calls k with phase := .returned })
      else some s
    | _ => some s
  | .closer k force i =>
    let out := closerTurn (s.sessions i) ((s.calls k).closers force i)
    some ((s.setSession i out.1).setCall k (((s.calls k).setCloser force i out.2).resume force i))
  | .select k event =>
    match (s.calls k).phase, event with
    | .waiting _, .drained =>
      if s.closed (s.calls k).drained then some (s.setCall k { s.calls k with phase := .drained }) else some s
    | .waiting false, .closeDone =>
      if (s.calls k).closedAll then some (s.setCall k { s.calls k with phase := .waiting true }) else some s
    | .waiting _, .done =>
      some (s.setCall k { (s.calls k).startClosers true with phase := .expired })
    | _, _ => some s

lemma step_closer (s : System) (k : ℕ) (force : Bool) (i : ℕ) :
    step s (.closer k force i) =
      some ((s.setSession i (closerTurn (s.sessions i) ((s.calls k).closers force i)).1).setCall k
        (((s.calls k).setCloser force i (closerTurn (s.sessions i) ((s.calls k).closers force i)).2).resume force i)) := by
  rw [step]

def run (s : System) : List Step → Option System
  | [] => some s
  | a :: steps => (step s a).bind fun s => run s steps

def newSession : Session := ⟨.arriving, false, [], false, false, false⟩

def newCall : Call := ⟨.shutdown, .idle, ∅, 0, fun _ _ => .none⟩

/-- `newResponsesWebSocketSessionRegistry`, before anything has happened. -/
def initial : System := ⟨false, ∅, none, fun _ => false, 0, fun _ => newSession, fun _ => newCall⟩

end Model

section Invariants

variable {s s' : System} {x x' : Session} {c c' : Call} {i k : ℕ}

/-- What can become of a session. -/
structure Later (x x' : Session) : Prop where
  causes : x.causes <+: x'.causes
  closed : x.closed = true → x'.closed = true
  client : x.closed = true → x'.client = true → x.client = true
  shut : x.shut = true → x'.shut = true

lemma Later.refl (x : Session) : Later x x := ⟨List.prefix_rfl, id, fun _ h => h, id⟩

lemma Later.trans {x'' : Session} (h : Later x x') (h' : Later x' x'') : Later x x'' :=
  ⟨h.causes.trans h'.causes, fun hc => h'.closed (h.closed hc),
    fun hc hclient => h.client hc (h'.client (h.closed hc) hclient), fun hs => h'.shut (h.shut hs)⟩

/-- A session whose handler has not ended is cancelled by the registry only. -/
structure SessionOK (x : Session) : Prop where
  causes : x.gone = false → x.stage ≠ .rejected → ∀ cause ∈ x.causes, cause = .shutdown
  bound : x.stage = .bound → x.client = true
  arriving : x.stage = .arriving → x.gone = false

/-- A closer that has taken the lock has read the client of the session, if there will ever be one. -/
def CloserOK (x : Session) : Closer → Prop
  | .closing client => x.closed = true ∧ (x.client = true → client = true)
  | .done => x.closed = true ∧ (x.client = true → x.shut = true)
  | _ => True

lemma CloserOK.later {closer : Closer} (h : CloserOK x closer) (hlater : Later x x') : CloserOK x' closer := by
  cases closer with
  | none => trivial
  | start => trivial
  | closing client => exact ⟨hlater.closed h.1, fun hclient => h.2 (hlater.client h.1 hclient)⟩
  | done => exact ⟨hlater.closed h.1, fun hclient => hlater.shut (h.2 (hlater.client h.1 hclient))⟩

/-- The sessions that a call has still to cancel. -/
def Phase.pending : Phase → Finset ℕ
  | .looping remaining _ => remaining
  | _ => ∅

/-- The call has ended its loop. -/
def Phase.pastLoop : Phase → Bool
  | .idle | .looping _ _ => false
  | _ => true

/-- A call has cancelled the sessions that are not pending, and has closers for them. -/
structure CallOK (sessions : ℕ → Session) (c : Call) : Prop where
  cancelled : ∀ i ∈ c.sessions, i ∈ c.phase.pending ∨ .shutdown ∈ (sessions i).causes
  closers : ∀ force i, CloserOK (sessions i) (c.closers force i)
  forced : c.kind = .closeNow → ∀ i ∈ c.sessions, i ∈ c.phase.pending ∨ c.closers true i ≠ .none
  graceful : c.kind = .shutdown → c.phase.pastLoop = true → ∀ i ∈ c.sessions, c.closers false i ≠ .none

lemma CallOK.later {sessions sessions' : ℕ → Session} (h : CallOK sessions c)
    (hlater : ∀ i, Later (sessions i) (sessions' i)) : CallOK sessions' c := by
  refine ⟨?_, fun force i => (h.closers force i).later (hlater i), h.forced, h.graceful⟩
  intro i hi
  exact (h.cancelled i hi).imp_right fun hmem => (hlater i).causes.subset hmem

def Session.Registered (x : Session) : Prop := x.stage ≠ .arriving ∧ x.stage ≠ .rejected

/-- The invariant of the registry. As long as a channel that a call waits on is open it is that of the registry, and it is
closed only when no session is active. -/
structure Sound (s : System) : Prop where
  stopping : ∀ k, (s.calls k).phase ≠ .idle → s.stopping = true
  drained : ∀ ch, s.drained = some ch → s.stopping = true ∧ ch < s.nextChannel ∧ s.closed ch = false ∧ s.active ≠ ∅
  below : ∀ k, (s.calls k).phase ≠ .idle → (s.calls k).drained < s.nextChannel
  shared : ∀ k, (s.calls k).phase ≠ .idle → s.closed (s.calls k).drained = false → s.drained = some (s.calls k).drained
  empty : ∀ k, (s.calls k).phase ≠ .idle → s.closed (s.calls k).drained = true → s.active = ∅
  nilled : ∀ k, (s.calls k).phase = .drained → s.active = ∅
  active : ∀ i ∈ s.active, (s.sessions i).gone = false ∧ (s.sessions i).Registered
  sessions : ∀ i, SessionOK (s.sessions i)
  calls : ∀ k, CallOK s.sessions (s.calls k)

/-- What a step can do to a system. -/
structure Moves (s s' : System) : Prop where
  stopping : s.stopping = true → s'.stopping = true
  active : s.stopping = true → s'.active ⊆ s.active
  registered : s.stopping = true → ∀ i, (s'.sessions i).Registered → (s.sessions i).Registered
  later : ∀ i, Later (s.sessions i) (s'.sessions i)
  calls : ∀ k, (s.calls k).phase ≠ .idle → (s'.calls k).phase ≠ .idle ∧ (s'.calls k).sessions = (s.calls k).sessions ∧
    (s'.calls k).drained = (s.calls k).drained

lemma Moves.refl (s : System) : Moves s s :=
  ⟨id, fun _ => subset_rfl, fun _ _ h => h, fun _ => .refl _, fun _ h => ⟨h, rfl, rfl⟩⟩

lemma Moves.trans {s'' : System} (h : Moves s s') (h' : Moves s' s'') : Moves s s'' := by
  refine ⟨fun hs => h'.stopping (h.stopping hs), fun hs => (h'.active (h.stopping hs)).trans (h.active hs),
    fun hs i hi => h.registered hs i (h'.registered (h.stopping hs) i hi), fun i => (h.later i).trans (h'.later i), ?_⟩
  intro k hk
  obtain ⟨hphase, hsessions, hdrained⟩ := h.calls k hk
  obtain ⟨hphase', hsessions', hdrained'⟩ := h'.calls k hphase
  exact ⟨hphase', hsessions'.trans hsessions, hdrained'.trans hdrained⟩

lemma later_update (hlater : Later (s.sessions i) x') (j : ℕ) :
    Later (s.sessions j) ((s.setSession i x').sessions j) := by
  by_cases hj : j = i
  · subst hj
    simpa [System.setSession] using hlater
  · simpa [System.setSession, hj] using Later.refl (s.sessions j)

/-- A write to one session. -/
lemma Sound.setSession (hs : Sound s) (hlater : Later (s.sessions i) x') (hok : SessionOK x')
    (hactive : i ∈ s.active → x'.gone = false ∧ x'.Registered) : Sound (s.setSession i x') := by
  refine ⟨hs.stopping, hs.drained, hs.below, hs.shared, hs.empty, hs.nilled, ?_, ?_,
    fun k => (hs.calls k).later (later_update hlater)⟩
  · intro j hj
    by_cases hji : j = i
    · subst hji
      simpa [System.setSession] using hactive hj
    · simpa [System.setSession, hji] using hs.active j hj
  · intro j
    by_cases hji : j = i
    · subst hji
      simpa [System.setSession] using hok
    · simpa [System.setSession, hji] using hs.sessions j

lemma moves_setSession (hlater : Later (s.sessions i) x') (hreg : s.stopping = true → x'.Registered →
    (s.sessions i).Registered) : Moves s (s.setSession i x') := by
  refine ⟨id, fun _ => subset_rfl, ?_, later_update hlater, fun _ h => ⟨h, rfl, rfl⟩⟩
  intro hstop j hj
  by_cases hji : j = i
  · subst hji
    exact hreg hstop (by simpa [System.setSession] using hj)
  · simpa [System.setSession, hji] using hj

/-- A write to one call that has begun. -/
lemma Sound.setCall (hs : Sound s) (hbegun : c'.phase ≠ .idle → (s.calls k).phase ≠ .idle) (hdrained : c'.drained = (s.calls k).drained)
    (hnil : c'.phase = .drained → s.active = ∅) (hok : CallOK s.sessions c') : Sound (s.setCall k c') := by
  have hcall : ∀ j, ((s.setCall k c').calls j) = if j = k then c' else s.calls j := by
    intro j
    simp [System.setCall, Function.update_apply]
  have hold : ∀ j, ((s.setCall k c').calls j).phase ≠ .idle →
      (s.calls j).phase ≠ .idle ∧ ((s.setCall k c').calls j).drained = (s.calls j).drained := by
    intro j hj
    rw [hcall] at hj ⊢
    split_ifs at hj ⊢ with hjk
    · subst hjk
      exact ⟨hbegun hj, hdrained⟩
    · exact ⟨hj, rfl⟩
  refine ⟨?_, hs.drained, ?_, ?_, ?_, ?_, hs.active, hs.sessions, ?_⟩
  · exact fun j hj => hs.stopping j (hold j hj).1
  · intro j hj
    rw [(hold j hj).2]
    exact hs.below j (hold j hj).1
  · intro j hj
    rw [(hold j hj).2]
    exact hs.shared j (hold j hj).1
  · intro j hj
    rw [(hold j hj).2]
    exact hs.empty j (hold j hj).1
  · intro j hj
    rw [hcall] at hj
    split_ifs at hj with hjk
    · exact hnil hj
    · exact hs.nilled j hj
  · intro j
    rw [hcall]
    split_ifs with hjk
    · exact hok
    · exact hs.calls j

lemma moves_setCall (hbegun : (s.calls k).phase ≠ .idle → c'.phase ≠ .idle) (hsessions : c'.sessions = (s.calls k).sessions)
    (hdrained : c'.drained = (s.calls k).drained) : Moves s (s.setCall k c') := by
  refine ⟨id, fun _ => subset_rfl, fun _ _ h => h, fun _ => .refl _, ?_⟩
  intro j hj
  by_cases hjk : j = k
  · subst hjk
    simpa [System.setCall] using ⟨hbegun hj, hsessions, hdrained⟩
  · simpa [System.setCall, hjk] using hj

end Invariants

section Handlers

variable {s : System} {i : ℕ}

/-- A step that goes through, keeps the invariant and moves on. -/
def Steps (s : System) (result : Option System) : Prop := ∃ s', result = some s' ∧ Sound s' ∧ Moves s s'

lemma steps_self (hs : Sound s) : Steps s (some s) := ⟨s, rfl, hs, .refl s⟩

lemma steps_setSession (hs : Sound s) {x' : Session} (hlater : Later (s.sessions i) x') (hok : SessionOK x')
    (hactive : i ∈ s.active → x'.gone = false ∧ x'.Registered)
    (hreg : s.stopping = true → x'.Registered → (s.sessions i).Registered) : Steps s (some (s.setSession i x')) :=
  ⟨_, rfl, hs.setSession hlater hok hactive, moves_setSession hlater hreg⟩

lemma register_steps (hs : Sound s) : Steps s (step s (.register i)) := by
  by_cases hstage : (s.sessions i).stage = .arriving
  · have hinactive : i ∉ s.active := fun hi => (hs.active i hi).2.1 hstage
    have hok := hs.sessions i
    cases hstop : s.stopping with
    | true =>
      rw [step, if_pos hstage, System.register, if_pos hstop]
      refine steps_setSession hs ⟨List.prefix_rfl, id, fun _ h => h, id⟩ ⟨?_, ?_, ?_⟩ (fun hi => absurd hi hinactive) ?_
      · exact fun _ hne => absurd rfl hne
      · intro hbound
        cases hbound
      · intro harriving
        cases harriving
      · exact fun _ hreg => absurd rfl hreg.2
    | false =>
      -- No call has begun, so nothing waits for the active sessions.
      have hidle : ∀ k, (s.calls k).phase = .idle := by
        intro k
        by_contra hbegun
        rw [hs.stopping k hbegun] at hstop
        cases hstop
      have hnone : ∀ ch, s.drained ≠ some ch := by
        intro ch hch
        rw [(hs.drained ch hch).1] at hstop
        cases hstop
      rw [step, if_pos hstage, System.register, if_neg (by simp [hstop])]
      have hlater : Later (s.sessions i) { s.sessions i with stage := .registered } := ⟨List.prefix_rfl, id, fun _ h => h, id⟩
      have hnew : SessionOK { s.sessions i with stage := .registered } := by
        refine ⟨?_, ?_, ?_⟩
        · exact fun hgone _ => hok.causes hgone (by simp [hstage])
        · intro hbound
          cases hbound
        · intro harriving
          cases harriving
      refine ⟨_, rfl, ⟨?_, ?_, ?_, ?_, ?_, ?_, ?_, ?_, ?_⟩, ?_⟩
      · exact fun k hk => absurd (hidle k) hk
      · exact fun ch hch => absurd hch (hnone ch)
      · exact fun k hk => absurd (hidle k) hk
      · exact fun k hk => absurd (hidle k) hk
      · exact fun k hk => absurd (hidle k) hk
      · intro k hk
        have hk' : (s.calls k).phase = .drained := hk
        rw [hidle k] at hk'
        cases hk'
      · intro j hj
        by_cases hji : j = i
        · subst hji
          simp [System.setSession, Session.Registered, hok.arriving hstage]
        · have hold : j ∈ s.active := by simpa [System.setSession, hji] using hj
          simpa [System.setSession, hji] using hs.active j hold
      · intro j
        by_cases hji : j = i
        · subst hji
          simpa [System.setSession] using hnew
        · simpa [System.setSession, hji] using hs.sessions j
      · exact fun k => (hs.calls k).later (later_update hlater)
      · refine ⟨id, ?_, ?_, later_update hlater, fun k hk => absurd (hidle k) hk⟩
        · intro h
          rw [hstop] at h
          cases h
        · intro h
          rw [hstop] at h
          cases h
  · rw [step, if_neg hstage]
    exact steps_self hs

lemma accept_steps (hs : Sound s) (ok : Bool) : Steps s (step s (.accept i ok)) := by
  by_cases hstage : (s.sessions i).stage = .registered
  · rw [step, if_pos hstage]
    have hok := hs.sessions i
    refine steps_setSession hs ⟨List.prefix_rfl, id, fun _ h => h, id⟩ ⟨?_, ?_, ?_⟩ ?_ ?_
    · exact fun hgone _ => hok.causes hgone (by simp [hstage])
    · cases ok <;> simp
    · cases ok <;> simp
    · intro hi
      refine ⟨(hs.active i hi).1, ?_⟩
      cases ok <;> simp [Session.Registered]
    · exact fun _ _ => ⟨by simp [hstage], by simp [hstage]⟩
  · rw [step, if_neg hstage]
    exact steps_self hs

lemma bindClient_steps (hs : Sound s) : Steps s (step s (.bindClient i)) := by
  by_cases hstage : (s.sessions i).stage = .accepted
  · rw [step, if_pos hstage]
    have hok := hs.sessions i
    have hreg : (s.sessions i).Registered := ⟨by simp [hstage], by simp [hstage]⟩
    cases hclosed : (s.sessions i).closed with
    | true =>
      have hbind : (s.sessions i).bindClient = (s.sessions i, false) := by simp [Session.bindClient, hclosed]
      rw [hbind]
      refine steps_setSession hs ⟨List.prefix_rfl, id, fun _ h => h, id⟩ ⟨?_, ?_, ?_⟩ ?_ fun _ _ => hreg
      · exact fun hgone _ => hok.causes hgone (by simp [hstage])
      · simp
      · simp
      · exact fun hi => ⟨(hs.active i hi).1, by simp [Session.Registered]⟩
    | false =>
      have hbind : (s.sessions i).bindClient = ({ s.sessions i with client := true }, true) := by
        simp [Session.bindClient, hclosed]
      rw [hbind]
      refine steps_setSession hs ⟨List.prefix_rfl, id, ?_, id⟩ ⟨?_, ?_, ?_⟩ ?_ fun _ _ => hreg
      · intro h
        rw [hclosed] at h
        cases h
      · exact fun hgone _ => hok.causes hgone (by simp [hstage])
      · simp
      · simp
      · exact fun hi => ⟨(hs.active i hi).1, by simp [Session.Registered]⟩
  · rw [step, if_neg hstage]
    exact steps_self hs

lemma leave_steps (hs : Sound s) : Steps s (step s (.leave i)) := by
  by_cases hleft : (s.sessions i).gone = true ∨ (s.sessions i).stage = .rejected
  · rw [step, if_pos hleft]
    have hok := hs.sessions i
    refine steps_setSession hs ⟨List.prefix_append _ _, id, fun _ h => h, id⟩ ⟨?_, hok.bound, hok.arriving⟩ ?_
      fun _ hreg => hreg
    · intro hgone hne
      rcases hleft with hleft | hleft
      · rw [hleft] at hgone
        cases hgone
      · exact absurd hleft hne
    · exact fun hi => hs.active i hi
  · rw [step, if_neg hleft]
    exact steps_self hs

/-- The last active session closes the channel of the registry, which is open. -/
lemma unregister_spec (hs : Sound s) (i : ℕ) :
    ∃ s', s.unregister i = some s' ∧ Sound s' ∧ Moves s s' ∧ s'.active = s.active.erase i ∧ s'.sessions = s.sessions := by
  have hsub : s.active.erase i ⊆ s.active := Finset.erase_subset _ _
  have hmoves : ∀ drained closed, Moves s { s with active := s.active.erase i, drained := drained, closed := closed } :=
    fun _ _ => ⟨id, fun _ => hsub, fun _ _ h => h, fun _ => .refl _, fun _ h => ⟨h, rfl, rfl⟩⟩
  have hshrinks : s.active = ∅ → s.active.erase i = ∅ := fun h => by simp [h]
  cases hdrained : s.drained with
  | none =>
    refine ⟨{ s with active := s.active.erase i }, by simp [System.unregister, hdrained], ?_, hmoves _ _, rfl, rfl⟩
    refine ⟨hs.stopping, ?_, hs.below, hs.shared, fun k hk h => hshrinks (hs.empty k hk h),
      fun k hk => hshrinks (hs.nilled k hk), fun j hj => hs.active j (hsub hj), hs.sessions, hs.calls⟩
    intro ch hch
    rw [hdrained] at hch
    cases hch
  | some ch =>
    obtain ⟨hstop, hlt, hopen, hne⟩ := hs.drained ch hdrained
    by_cases hlast : s.active.erase i = ∅
    · refine ⟨{ s with active := s.active.erase i, drained := none, closed := Function.update s.closed ch true }, ?_, ?_,
        hmoves _ _, rfl, rfl⟩
      · simp [System.unregister, hdrained, hstop, hlast, System.close, hopen]
      · refine ⟨hs.stopping, by simp, hs.below, ?_, fun _ _ _ => hlast, fun _ _ => hlast,
          fun j hj => hs.active j (hsub hj), hs.sessions, hs.calls⟩
        -- A channel that is still open would be the one that was closed.
        intro k hk hstill
        by_cases heq : (s.calls k).drained = ch
        · simp [heq] at hstill
        · have hother : s.closed (s.calls k).drained = false := by simpa [heq] using hstill
          have hshared := hs.shared k hk hother
          rw [hdrained] at hshared
          injection hshared with hshared
          exact absurd hshared.symm heq
    · refine ⟨{ s with active := s.active.erase i }, by simp [System.unregister, hdrained, hlast], ?_, hmoves _ _, rfl, rfl⟩
      refine ⟨hs.stopping, ?_, hs.below, hs.shared, fun k hk h => hshrinks (hs.empty k hk h),
        fun k hk => hshrinks (hs.nilled k hk), fun j hj => hs.active j (hsub hj), hs.sessions, hs.calls⟩
      intro ch' hch'
      have hch'' : s.drained = some ch' := hch'
      rw [hdrained] at hch''
      injection hch'' with heq
      exact heq ▸ ⟨hstop, hlt, hopen, hlast⟩

lemma unregister_steps (hs : Sound s) : Steps s (step s (.unregister i)) := by
  rw [step]
  split_ifs with hends
  · obtain ⟨s', hcall, hs', hmoves, hactive, hsessions⟩ := unregister_spec hs i
    have hlater : Later (s'.sessions i) { s.sessions i with gone := true } := by
      rw [hsessions]
      exact ⟨List.prefix_rfl, id, fun _ h => h, id⟩
    have hstage : (s.sessions i).Registered := by
      rcases hends.2 with h | h | h <;> simp [Session.Registered, h]
    rw [hcall, Option.map_some]
    refine ⟨_, rfl, hs'.setSession hlater ⟨?_, (hs.sessions i).bound, ?_⟩ ?_, hmoves.trans (moves_setSession hlater ?_)⟩
    · intro hgone
      cases hgone
    · exact fun h => absurd h hstage.1
    · intro hi
      simp [hactive] at hi
    · intro _ _
      rw [hsessions]
      exact hstage
  · exact steps_self hs

end Handlers

section Calls

variable {s : System} {i k : ℕ}

/-- What `beginShutdown` leaves behind. Its channel is open as long as a session is active, and then it is that of the
registry. -/
lemma beginShutdown_spec (hs : Sound s) :
    ∃ s' ch, s.beginShutdown = (s', s.active, ch) ∧ Sound s' ∧ Moves s s' ∧ s'.calls = s.calls ∧ s'.active = s.active ∧
      s'.stopping = true ∧ ch < s'.nextChannel ∧ (s'.closed ch = false → s'.drained = some ch) ∧
      (s'.closed ch = true → s'.active = ∅) := by
  -- Channels that calls wait on are older than a new one.
  have hfresh : ∀ k shut, (s.calls k).phase ≠ .idle →
      Function.update s.closed s.nextChannel shut (s.calls k).drained = s.closed (s.calls k).drained :=
    fun k shut hk => Function.update_of_ne (hs.below k hk).ne _ _
  have hmoves : ∀ drained closed nextChannel, Moves s { s with
      stopping := true, drained := drained, closed := closed, nextChannel := nextChannel } :=
    fun _ _ _ => ⟨fun _ => rfl, fun _ => subset_rfl, fun _ _ h => h, fun _ => .refl _, fun _ h => ⟨h, rfl, rfl⟩⟩
  by_cases hempty : s.active = ∅
  · have hnone : s.drained = none := by
      cases hdrained : s.drained with
      | none => rfl
      | some ch => exact absurd hempty (hs.drained ch hdrained).2.2.2
    refine ⟨{ s with stopping := true, closed := Function.update s.closed s.nextChannel true, nextChannel := s.nextChannel + 1 },
      s.nextChannel, ?_, ?_, hmoves _ _ _, rfl, rfl, rfl, Nat.lt_succ_self _, ?_, fun _ => hempty⟩
    · simp [System.beginShutdown, System.makeChan, hempty]
    · refine ⟨fun _ _ => rfl, ?_, fun k hk => (hs.below k hk).trans (Nat.lt_succ_self _), ?_, ?_, hs.nilled, hs.active,
        hs.sessions, hs.calls⟩
      · intro ch hch
        rw [hnone] at hch
        cases hch
      · intro k hk
        dsimp only at hk ⊢
        rw [hfresh k true hk]
        exact hs.shared k hk
      · intro k hk
        dsimp only at hk ⊢
        rw [hfresh k true hk]
        exact hs.empty k hk
    · simp
  · cases hdrained : s.drained with
    | some ch =>
      obtain ⟨-, hlt, hopen, hne⟩ := hs.drained ch hdrained
      refine ⟨{ s with stopping := true }, ch, by simp [System.beginShutdown, hempty, hdrained], ?_, hmoves _ _ _, rfl, rfl,
        rfl, hlt, fun _ => hdrained, ?_⟩
      · refine ⟨fun _ _ => rfl, ?_, hs.below, hs.shared, hs.empty, hs.nilled, hs.active, hs.sessions, hs.calls⟩
        exact fun ch hch => ⟨rfl, (hs.drained ch hch).2⟩
      · intro hclosed
        have : s.closed ch = true := hclosed
        rw [hopen] at this
        cases this
    | none =>
      refine ⟨{ s with
          stopping := true, drained := some s.nextChannel
          closed := Function.update s.closed s.nextChannel false, nextChannel := s.nextChannel + 1 }, s.nextChannel, ?_, ?_,
        hmoves _ _ _, rfl, rfl, rfl, Nat.lt_succ_self _, fun _ => rfl, ?_⟩
      · simp [System.beginShutdown, System.makeChan, hempty, hdrained]
      · refine ⟨fun _ _ => rfl, ?_, fun k hk => (hs.below k hk).trans (Nat.lt_succ_self _), ?_, ?_, hs.nilled, hs.active,
          hs.sessions, hs.calls⟩
        · intro ch hch
          injection hch with hch
          subst hch
          exact ⟨rfl, Nat.lt_succ_self _, by simp, hempty⟩
        · intro k hk hopen
          dsimp only at hk hopen
          rw [hfresh k false hk] at hopen
          have hshared := hs.shared k hk hopen
          rw [hdrained] at hshared
          cases hshared
        · intro k hk
          dsimp only at hk ⊢
          rw [hfresh k false hk]
          exact hs.empty k hk
      · simp

lemma begin_steps (hs : Sound s) (kind : Kind) : Steps s (step s (.begin k kind)) := by
  rw [step]
  split
  next hidle =>
    obtain ⟨s', ch, hcall, hs', hmoves, hcalls, hactive, hstop, hlt, hshared, hempty⟩ := beginShutdown_spec hs
    rw [hcall]
    set c : Call := ⟨kind, .looping s.active none, s.active, ch, fun _ _ => .none⟩ with hc
    have hget : ∀ j, (s'.setCall k c).calls j = if j = k then c else s.calls j := by
      intro j
      simp [System.setCall, Function.update_apply, hcalls]
    have hold : ∀ j, j ≠ k → ((s'.setCall k c).calls j) = s'.calls j := by
      intro j hj
      rw [hget, if_neg hj, hcalls]
    have hnew : (s'.setCall k c).calls k = c := by rw [hget, if_pos rfl]
    refine ⟨_, rfl, ⟨fun _ _ => hstop, hs'.drained, ?_, ?_, ?_, ?_, hs'.active, hs'.sessions, ?_⟩, hmoves.trans ?_⟩
    · intro j hj
      by_cases hjk : j = k
      · subst hjk
        rw [hnew]
        exact hlt
      · rw [hold j hjk] at hj ⊢
        exact hs'.below j hj
    · intro j hj
      by_cases hjk : j = k
      · subst hjk
        rw [hnew]
        exact hshared
      · rw [hold j hjk] at hj ⊢
        exact hs'.shared j hj
    · intro j hj
      by_cases hjk : j = k
      · subst hjk
        rw [hnew]
        exact hempty
      · rw [hold j hjk] at hj ⊢
        exact hs'.empty j hj
    · intro j hj
      by_cases hjk : j = k
      · subst hjk
        rw [hnew] at hj
        cases hj
      · rw [hold j hjk] at hj
        exact hs'.nilled j hj
    · intro j
      by_cases hjk : j = k
      · subst hjk
        rw [hnew]
        exact ⟨fun i hi => .inl hi, fun _ _ => trivial, fun _ i hi => .inl hi, fun _ h => by simp [hc, Phase.pastLoop] at h⟩
      · rw [hold j hjk]
        exact hs'.calls j
    · refine ⟨id, fun _ => subset_rfl, fun _ _ h => h, fun _ => .refl _, ?_⟩
      intro j hj
      have hjk : j ≠ k := by
        rintro rfl
        rw [hcalls] at hj
        exact hj hidle
      rw [hold j hjk]
      exact ⟨hj, rfl, rfl⟩
  next => exact steps_self hs

/-- A write to a call whose phase goes on. -/
lemma steps_setCall (hs : Sound s) (c' : Call) (hbegun : (s.calls k).phase ≠ .idle) (hphase : c'.phase ≠ .idle)
    (hsessions : c'.sessions = (s.calls k).sessions) (hdrained : c'.drained = (s.calls k).drained)
    (hnil : c'.phase = .drained → s.active = ∅) (hok : CallOK s.sessions c') : Steps s (some (s.setCall k c')) :=
  ⟨_, rfl, hs.setCall (fun _ => hbegun) hdrained hnil hok, moves_setCall (fun _ => hphase) hsessions hdrained⟩

lemma cancel_steps (hs : Sound s) : Steps s (step s (.cancel k i)) := by
  rw [step]
  split
  next remaining hphase =>
    split_ifs with hi
    · have hok := hs.calls k
      have hbegun : (s.calls k).phase ≠ .idle := by simp [hphase]
      have hlater : Later (s.sessions i) { s.sessions i with causes := (s.sessions i).causes ++ [.shutdown] } :=
        ⟨List.prefix_append _ _, id, fun _ h => h, id⟩
      set s₁ := s.setSession i { s.sessions i with causes := (s.sessions i).causes ++ [.shutdown] } with hs₁eq
      have hs₁ : Sound s₁ := by
        refine hs.setSession hlater ⟨?_, (hs.sessions i).bound, (hs.sessions i).arriving⟩ (hs.active i)
        intro hgone hne cause hcause
        rcases List.mem_append.mp hcause with hcause | hcause
        · exact (hs.sessions i).causes hgone hne cause hcause
        · simpa using hcause
      have hmoves : Moves s s₁ := moves_setSession hlater fun _ h => h
      have hok₁ : CallOK s₁.sessions (s.calls k) := hok.later (later_update hlater)
      -- The session of the pass is cancelled now, the others are as before.
      have hcancelled : ∀ j ∈ (s.calls k).sessions, j ∈ remaining.erase i ∨ .shutdown ∈ (s₁.sessions j).causes := by
        intro j hj
        by_cases hji : j = i
        · subst hji
          right
          simp [hs₁eq, System.setSession]
        · refine (hok₁.cancelled j hj).imp_left fun hpending => ?_
          rw [hphase] at hpending
          exact Finset.mem_erase.mpr ⟨hji, hpending⟩
      have hsame : s₁.calls k = s.calls k := rfl
      cases hkind : (s.calls k).kind with
      | shutdown =>
        obtain ⟨s', hset, hs', hmoves'⟩ := steps_setCall (k := k) hs₁
          { s.calls k with phase := .looping (remaining.erase i) none } hbegun (by simp) rfl rfl (by simp)
          ⟨hcancelled, hok₁.closers, by simp [hkind], by simp [Phase.pastLoop]⟩
        exact ⟨s', hset, hs', hmoves.trans hmoves'⟩
      | closeNow =>
        obtain ⟨s', hset, hs', hmoves'⟩ := steps_setCall (k := k) hs₁
          { (s.calls k).setCloser true i .start with phase := .looping (remaining.erase i) (some i) } hbegun (by simp)
          rfl rfl (by simp) (by
            refine ⟨hcancelled, ?_, ?_, by simp [Phase.pastLoop]⟩
            · intro force j
              simp only [Call.setCloser]
              split_ifs
              · trivial
              · exact hok₁.closers force j
            · intro _ j hj
              by_cases hji : j = i
              · right
                simp [Call.setCloser, hji]
              · refine (hok₁.forced hkind j hj).imp (fun hpending => ?_) (fun hnone => ?_)
                · rw [hphase] at hpending
                  exact Finset.mem_erase.mpr ⟨hji, hpending⟩
                · simpa [Call.setCloser, hji] using hnone)
        exact ⟨s', hset, hs', hmoves.trans hmoves'⟩
    · exact steps_self hs
  next => exact steps_self hs

/-- The closers that a call starts have not taken a lock. -/
lemma startClosers_closers {sessions : ℕ → Session} {c : Call} (h : ∀ force i, CloserOK (sessions i) (c.closers force i))
    (start : Bool) : ∀ force i, CloserOK (sessions i) ((c.startClosers start).closers force i) := by
  intro force i
  simp only [Call.startClosers]
  split_ifs
  · trivial
  · exact h force i

lemma proceed_steps (hs : Sound s) : Steps s (step s (.proceed k)) := by
  rw [step]
  split
  next remaining hphase =>
    split_ifs with hempty
    · have hok := hs.calls k
      have hbegun : (s.calls k).phase ≠ .idle := by simp [hphase]
      have hcancelled : ∀ j ∈ (s.calls k).sessions, .shutdown ∈ (s.sessions j).causes := by
        intro j hj
        rcases hok.cancelled j hj with hpending | hcause
        · simp [hphase, Phase.pending, hempty] at hpending
        · exact hcause
      cases hkind : (s.calls k).kind with
      | shutdown =>
        refine steps_setCall hs _ hbegun (by simp) rfl rfl (by simp)
          ⟨fun j hj => .inr (hcancelled j hj), startClosers_closers hok.closers false, ?_, ?_⟩
        · simp [Call.startClosers, hkind]
        · intro _ _ j hj
          have hmem : j ∈ (s.calls k).sessions := hj
          simp [Call.startClosers, hmem]
      | closeNow =>
        refine steps_setCall hs _ hbegun (by simp) rfl rfl (by simp)
          ⟨fun j hj => .inr (hcancelled j hj), hok.closers, ?_, by simp [hkind]⟩
        intro _ j hj
        rcases hok.forced hkind j hj with hpending | hnone
        · simp [hphase, Phase.pending, hempty] at hpending
        · exact .inr hnone
    · exact steps_self hs
  next => exact steps_self hs

lemma resume_frame (c : Call) (force : Bool) (i : ℕ) :
    (c.resume force i).kind = c.kind ∧ (c.resume force i).sessions = c.sessions ∧ (c.resume force i).drained = c.drained ∧
      (c.resume force i).closers = c.closers ∧ (c.resume force i).phase.pending = c.phase.pending ∧
      (c.resume force i).phase.pastLoop = c.phase.pastLoop ∧ ((c.resume force i).phase = .idle ↔ c.phase = .idle) ∧
      ((c.resume force i).phase = .drained ↔ c.phase = .drained) := by
  unfold Call.resume
  split
  next remaining j hphase =>
    split_ifs
    · simp [Phase.pending, Phase.pastLoop, hphase]
    · simp
  next => simp

/-- A turn of a closer. -/
lemma closerTurn_spec {x : Session} {closer : Closer} (hok : SessionOK x) (h : CloserOK x closer) :
    Later x (closerTurn x closer).1 ∧ SessionOK (closerTurn x closer).1 ∧ CloserOK (closerTurn x closer).1 (closerTurn x closer).2 ∧
      (closerTurn x closer).1.gone = x.gone ∧ (closerTurn x closer).1.stage = x.stage ∧
      (closer ≠ .none → (closerTurn x closer).2 ≠ .none) := by
  cases closer with
  | none => exact ⟨.refl x, hok, trivial, rfl, rfl, id⟩
  | start => exact ⟨⟨List.prefix_rfl, fun _ => rfl, fun _ h => h, id⟩, ⟨hok.causes, hok.bound, hok.arriving⟩, ⟨rfl, id⟩, rfl, rfl,
      by simp [closerTurn]⟩
  | done => exact ⟨.refl x, hok, h, rfl, rfl, id⟩
  | closing client =>
    cases client with
    | true => exact ⟨⟨List.prefix_rfl, id, fun _ h => h, fun _ => rfl⟩, ⟨hok.causes, hok.bound, hok.arriving⟩,
        ⟨h.1, fun _ => rfl⟩, rfl, rfl, by simp [closerTurn]⟩
    | false => exact ⟨.refl x, hok, ⟨h.1, fun hclient => absurd (h.2 hclient) (by simp)⟩, rfl, rfl, by simp [closerTurn]⟩

lemma closer_steps (hs : Sound s) (force : Bool) : Steps s (step s (.closer k force i)) := by
  have hok := hs.calls k
  obtain ⟨hlater, hsession, hcloser, hgone, hstage, hnone⟩ := closerTurn_spec (hs.sessions i) (hok.closers force i)
  rw [step_closer]
  set out := closerTurn (s.sessions i) ((s.calls k).closers force i) with hout
  have hreg : out.1.Registered ↔ (s.sessions i).Registered := by rw [Session.Registered, Session.Registered, hstage]
  have hs₁ : Sound (s.setSession i out.1) := by
    refine hs.setSession hlater hsession fun hi => ?_
    rw [hgone, hreg]
    exact hs.active i hi
  have hmoves : Moves s (s.setSession i out.1) := moves_setSession hlater fun _ => hreg.mp
  have hok₁ : CallOK (s.setSession i out.1).sessions (s.calls k) := hok.later (later_update hlater)
  obtain ⟨hkind, hsessions, hdrained, hclosers, hpending, hpast, hidle, hnil⟩ :=
    resume_frame ((s.calls k).setCloser force i out.2) force i
  refine ⟨_, rfl, hs₁.setCall ?_ hdrained ?_ ?_, hmoves.trans (moves_setCall ?_ hsessions hdrained)⟩
  · exact fun h hc => h (hidle.mpr hc)
  · exact fun h => hs.nilled k (hnil.mp h)
  · have hkept : ∀ f j, (s.calls k).closers f j ≠ .none → ((s.calls k).setCloser force i out.2).closers f j ≠ .none := by
      intro f j h
      simp only [Call.setCloser]
      split_ifs with heq
      · obtain ⟨rfl, rfl⟩ := heq
        exact hnone h
      · exact h
    refine ⟨?_, ?_, ?_, ?_⟩
    · rw [hsessions, hpending]
      exact hok₁.cancelled
    · intro f j
      rw [hclosers]
      simp only [Call.setCloser]
      split_ifs with heq
      · obtain ⟨rfl, rfl⟩ := heq
        simpa [System.setSession] using hcloser
      · exact hok₁.closers f j
    · rw [hkind, hsessions, hpending, hclosers]
      exact fun h j hj => (hok₁.forced h j hj).imp_right (hkept true j)
    · rw [hkind, hsessions, hpast, hclosers]
      exact fun h hp j hj => hkept false j (hok₁.graceful h hp j hj)
  · exact fun h hc => h (hidle.mp hc)

lemma select_steps (hs : Sound s) (event : Event) : Steps s (step s (.select k event)) := by
  have hok := hs.calls k
  unfold step
  dsimp only
  split
  next second hphase =>
    have hbegun : (s.calls k).phase ≠ .idle := by simp [hphase]
    have hcancelled := hok.cancelled
    have hforced := hok.forced
    have hgraceful := hok.graceful
    rw [hphase] at hcancelled hforced hgraceful
    split_ifs with hclosed
    · exact steps_setCall hs _ hbegun (by simp) rfl rfl (fun _ => hs.empty k hbegun hclosed)
        ⟨hcancelled, hok.closers, hforced, fun h _ => hgraceful h rfl⟩
    · exact steps_self hs
  next hphase =>
    have hbegun : (s.calls k).phase ≠ .idle := by simp [hphase]
    have hcancelled := hok.cancelled
    have hforced := hok.forced
    have hgraceful := hok.graceful
    rw [hphase] at hcancelled hforced hgraceful
    split_ifs
    · exact steps_setCall hs _ hbegun (by simp) rfl rfl (by simp)
        ⟨hcancelled, hok.closers, hforced, fun h _ => hgraceful h rfl⟩
    · exact steps_self hs
  next second hphase =>
    have hbegun : (s.calls k).phase ≠ .idle := by simp [hphase]
    have hcancelled := hok.cancelled
    have hforced := hok.forced
    have hgraceful := hok.graceful
    rw [hphase] at hcancelled hforced hgraceful
    refine steps_setCall hs _ hbegun (by simp) rfl rfl (by simp)
      ⟨hcancelled, startClosers_closers hok.closers true, ?_, ?_⟩
    · intro _ j hj
      have hmem : j ∈ (s.calls k).sessions := hj
      right
      simp [Call.startClosers, hmem]
    · intro h _ j hj
      simpa [Call.startClosers] using hgraceful h rfl j hj
  next => exact steps_self hs

end Calls

section Runs

variable {s s₀ s₁ s₂ : System} {i k : ℕ}

lemma step_sound (hs : Sound s) (a : Step) : Steps s (step s a) := by
  cases a with
  | register i => exact register_steps hs
  | accept i ok => exact accept_steps hs ok
  | bindClient i => exact bindClient_steps hs
  | unregister i => exact unregister_steps hs
  | leave i => exact leave_steps hs
  | begin k kind => exact begin_steps hs kind
  | cancel k i => exact cancel_steps hs
  | proceed k => exact proceed_steps hs
  | closer k force i => exact closer_steps hs force
  | select k event => exact select_steps hs event

lemma run_sound (hs : Sound s) (steps : List Step) : Steps s (run s steps) := by
  induction steps generalizing s with
  | nil => exact steps_self hs
  | cons a steps ih =>
    obtain ⟨s₁, hstep, hs₁, hmoves₁⟩ := step_sound hs a
    obtain ⟨s₂, hrun, hs₂, hmoves₂⟩ := ih hs₁
    exact ⟨s₂, by rw [run, hstep, Option.bind_some, hrun], hs₂, hmoves₁.trans hmoves₂⟩

lemma sound_initial : Sound initial := by
  refine ⟨fun k hk => absurd rfl hk, ?_, fun k hk => absurd rfl hk, fun k hk => absurd rfl hk, fun k hk => absurd rfl hk, ?_,
    ?_, fun i => ⟨?_, ?_, fun _ => rfl⟩, fun k => ⟨?_, fun _ _ => trivial, ?_, ?_⟩⟩
  · intro ch hch
    cases hch
  · intro k hk
    cases hk
  · intro i hi
    simp [initial] at hi
  · intro _ _ cause hcause
    simp [initial, newSession] at hcause
  · intro hbound
    cases hbound
  · intro i hi
    simp [initial, newCall] at hi
  · intro _ i hi
    simp [initial, newCall] at hi
  · intro _ _ i hi
    simp [initial, newCall] at hi

/-- All closers that a call has started have run. -/
def Call.Ran (c : Call) : Prop :=
  c.phase.pastLoop = true ∧ ∀ force i, c.closers force i = .none ∨ c.closers force i = .done

/-- A later state `s₂` of a call that began in `s₀`. -/
structure Stopped (s₀ s₂ : System) (k : ℕ) : Prop where
  /-- No registration has succeeded since. -/
  registered : ∀ i, (s₂.sessions i).Registered → (s₀.sessions i).Registered
  /-- The channel of the call is closed when the last active session has unregistered. -/
  closed_iff : s₂.closed (s₂.calls k).drained = true ↔ s₂.active = ∅
  released : ∀ second, (s₂.calls k).phase = .waiting second → s₂.active = ∅ →
    ∃ s₃, step s₂ (.select k .drained) = some s₃ ∧ (s₃.calls k).phase = .drained
  /-- A call that has returned nil finds no active session, and from then on there is none. -/
  drained : (s₂.calls k).phase = .drained → s₂.active = ∅
  stays : s₂.active = ∅ → ∀ steps, ∃ s₃, run s₂ steps = some s₃ ∧ s₃.active = ∅
  /-- A session that was active is cancelled by the loop of the call. Its context has that cause, unless its handler has
  ended before. -/
  cancelled : ∀ i ∈ s₀.active, i ∈ (s₂.calls k).phase.pending ∨ .shutdown ∈ (s₂.sessions i).causes ∧
    (i ∈ s₂.active → (s₂.sessions i).causes.head? = some .shutdown)
  /-- When the closers have run, the connection of a session that was active is closed or refused. -/
  closed : (s₂.calls k).Ran → ∀ i ∈ s₀.active, ((s₂.sessions i).stage = .bound → (s₂.sessions i).shut = true) ∧
    (s₂.sessions i).bindClient.2 = false

/-- The call right after it has begun. -/
lemma begun_call (hs : Sound s₀) (hidle : (s₀.calls k).phase = .idle) {kind : Kind}
    (h : step s₀ (.begin k kind) = some s₁) :
    (s₁.calls k).phase ≠ .idle ∧ (s₁.calls k).sessions = s₀.active ∧ s₁.active = s₀.active ∧ s₁.sessions = s₀.sessions := by
  obtain ⟨s', ch, hcall, -, hmoves, hcalls, hactive, -, -, -, -⟩ := beginShutdown_spec hs
  have hsessions : s'.sessions = s₀.sessions := by
    have hout := congrArg (fun p => p.1.sessions) hcall
    have hkept : s₀.beginShutdown.1.sessions = s₀.sessions := by
      unfold System.beginShutdown System.makeChan
      dsimp only
      split_ifs
      · rfl
      · cases s₀.drained <;> rfl
    exact hout.symm.trans hkept
  simp only [step, hidle, hcall, Option.some.injEq] at h
  subst h
  simp [System.setCall, hactive, hsessions]

lemma head_of_all {l : List Cause} (hmem : Cause.shutdown ∈ l) (h : ∀ cause ∈ l, cause = .shutdown) :
    l.head? = some .shutdown := by
  cases l with
  | nil => cases hmem
  | cons cause l => rw [List.head?_cons, h cause (by simp)]

lemma stopped_of_moves (hs₂ : Sound s₂) (hmoves : Moves s₁ s₂) (hstop : s₁.stopping = true)
    (hbegun : (s₁.calls k).phase ≠ .idle) (hcall : (s₁.calls k).sessions = s₀.active)
    (hregistered : s₁.sessions = s₀.sessions) : Stopped s₀ s₂ k := by
  obtain ⟨hphase, hsessions, -⟩ := hmoves.calls k hbegun
  rw [hcall] at hsessions
  have hstop₂ := hmoves.stopping hstop
  have hok := hs₂.calls k
  have hcancelled := hok.cancelled
  rw [hsessions] at hcancelled
  have hiff : s₂.closed (s₂.calls k).drained = true ↔ s₂.active = ∅ := by
    constructor
    · exact hs₂.empty k hphase
    · intro hempty
      by_contra hopen
      have hshared := hs₂.shared k hphase (by simpa using hopen)
      exact (hs₂.drained _ hshared).2.2.2 hempty
  refine ⟨?_, hiff, ?_, hs₂.nilled k, ?_, ?_, ?_⟩
  · intro i hi
    rw [← hregistered]
    exact hmoves.registered hstop i hi
  · intro second hwaiting hempty
    refine ⟨s₂.setCall k { s₂.calls k with phase := .drained }, ?_, by simp [System.setCall]⟩
    simp only [step, hwaiting, if_pos (hiff.mpr hempty)]
  · intro hempty steps
    obtain ⟨s₃, hrun, -, hmoves₃⟩ := run_sound hs₂ steps
    have hsub := hmoves₃.active hstop₂
    rw [hempty] at hsub
    exact ⟨s₃, hrun, Finset.subset_empty.mp hsub⟩
  · intro i hi
    refine (hcancelled i hi).imp_right fun hcause => ⟨hcause, fun hactive => ?_⟩
    obtain ⟨hgone, hreg⟩ := hs₂.active i hactive
    exact head_of_all hcause ((hs₂.sessions i).causes hgone hreg.2)
  · rintro ⟨hpast, hran⟩ i hi
    -- One of the two closers of the session has run.
    have hpending : i ∉ (s₂.calls k).phase.pending := by
      cases hp : (s₂.calls k).phase with
      | looping remaining current => simp [hp, Phase.pastLoop] at hpast
      | _ => simp [Phase.pending]
    have hdone : ∃ force, (s₂.calls k).closers force i = .done := by
      cases hkind : (s₂.calls k).kind with
      | shutdown =>
        exact ⟨false, (hran false i).resolve_left (hok.graceful hkind hpast i (hsessions ▸ hi))⟩
      | closeNow =>
        exact ⟨true, (hran true i).resolve_left ((hok.forced hkind i (hsessions ▸ hi)).resolve_left hpending)⟩
    obtain ⟨force, hdone⟩ := hdone
    have hcloser := hok.closers force i
    rw [hdone] at hcloser
    obtain ⟨hclosed, hshut⟩ := hcloser
    exact ⟨fun hbound => hshut ((hs₂.sessions i).bound hbound), by simp [Session.bindClient, hclosed]⟩

end Runs

end ShareSub.WebSocketShutdown

import Mathlib
import ShareSub.TrafficQuiescence

/-!
# Every interleaving of requests and quiescers

The invariants of the controller hold along every run of critical sections, so no run panics, the
counters are those of the requests in flight, and a call of `quiesce` is a barrier.
-/
namespace ShareSub.TrafficSafety

open HistoryModel TrafficModel TrafficWiring TrafficAccounting TrafficQuiescence
open HistorySystem (Tracked pendingMinutes_spec liveHistory_spec acknowledgeMinutes_spec)

section Runs

structure Sound (s : System) : Prop where
  wired : Wired s.controller
  tracked : ∃ R, Tracked s.controller.history R
  counted : Counted s.controller s.requests
  held : Held s.controller s.quiescers

variable {s : System}

lemma sound_initial (instanceID : String) : Sound (initial instanceID) := by
  refine ⟨wired_newController instanceID, ⟨_, (HistorySystem.sound_initial instanceID).tracked⟩, ⟨?_, ?_, ?_⟩, ⟨?_, ?_, ?_⟩⟩
  · intro r hr
    cases hr
  · intro r hr
    cases hr
  · intro o ho
    exact absurd ho (Nat.not_lt_zero o)
  · intro q hq
    cases hq
  · intro o ho
    exact absurd ho (Nat.not_lt_zero o)
  · exact List.nodup_nil

/-- The history moves on by itself. -/
lemma Sound.record (hs : Sound s) {h : History} {R : String → HistoryIntegral.Recorder} (hT : Tracked h R) :
    Sound (s.record h) := by
  have hcalm : Calm s.controller (s.record h).controller := { Calm.refl s.controller with }
  refine ⟨?_, ⟨R, hT⟩, hs.counted.same (.of_heap rfl rfl rfl), hs.held.calm hs.wired hcalm⟩
  exact ⟨hs.wired.states_lt, hs.wired.states_inj, hs.wired.idle_lt, hs.wired.idle_inj, hs.wired.idle_closed,
    hs.wired.changed_lt, hs.wired.changed_open, hs.wired.changed_ne⟩

/-- A call that starts joins the others without a flag. -/
lemma Held.append {c : Controller} {qs : List Quiescer} {q : Quiescer} (hH : Held c qs) (hproper : Proper c q)
    (hmarks : marks q = []) : Held c (qs ++ [q]) := by
  refine ⟨?_, ?_, ?_⟩
  · intro x hx
    rcases List.mem_append.mp hx with hx | hx
    · exact hH.proper x hx
    · rw [List.mem_singleton.mp hx]
      exact hproper
  · intro o ho
    rw [hH.flags o ho]
    constructor
    · rintro ⟨x, hx, hmark⟩
      exact ⟨x, List.mem_append_left _ hx, hmark⟩
    · rintro ⟨x, hx, hmark⟩
      rcases List.mem_append.mp hx with hx | hx
      · exact ⟨x, hx, hmark⟩
      · rw [List.mem_singleton.mp hx, hmarks] at hmark
        cases hmark
  · rw [List.flatMap_append, List.flatMap_singleton, hmarks, List.append_nil]
    exact hH.once

lemma Sound.arrives (hs : Sound s) (account : String) (maxConcurrency rpmLimit now : ℤ) (countRPM : Bool)
    (credential : Option Credential) :
    ∃ c result, TrafficModel.prepareRequest s.controller account maxConcurrency rpmLimit now countRPM credential =
      some (c, result) ∧ Sound (s.arrival c result) := by
  obtain ⟨R, hT⟩ := hs.tracked
  obtain ⟨c, result, R', hcall, hW, hT', hcalm, -, hresult⟩ :=
    prepareRequest_spec hs.wired hT hs.counted account maxConcurrency rpmLimit now countRPM credential
  refine ⟨c, result, hcall, ?_⟩
  have hheld := hs.held.calm hs.wired hcalm
  cases result with
  | error e => exact ⟨hW, ⟨R', hT'⟩, hs.counted.same hresult.1, hheld⟩
  | ok r => exact ⟨hW, ⟨R', hT'⟩, hresult.1, hheld⟩

lemma Sound.commits (hs : Sound s) {i : ℕ} {r : Request} (hget : s.requests[i]? = some r) :
    Sound { s with
      controller := (TrafficModel.commit s.controller r).1
      requests := s.requests.set i (TrafficModel.commit s.controller r).2 } := by
  have hcounted := hs.counted.commit hget
  by_cases hdone : r.committed = true ∨ r.released = true
  · rw [commit_of_done hdone] at hcounted ⊢
    exact ⟨hs.wired, hs.tracked, hcounted, hs.held⟩
  · have hopen : r.committed = false ∧ r.released = false := by simpa using hdone
    rw [commit_of_open hopen.2 hopen.1] at hcounted ⊢
    obtain ⟨hactive, -, hidle, hflag, -⟩ := committedState_frame (s.controller.heap r.state) r
    exact ⟨hs.wired.put hidle hactive, hs.tracked, hcounted, hs.held.calm hs.wired (calm_put hflag hidle hactive)⟩

lemma Sound.leaves (hs : Sound s) {i : ℕ} {r : Request} (hget : s.requests[i]? = some r) (now : ℤ) :
    ∃ c r', TrafficModel.release s.controller r now = some (c, r') ∧
      Sound { s with controller := c, requests := s.requests.set i r' } := by
  cases hheld : r.released with
  | true =>
    refine ⟨s.controller, r, by rw [TrafficModel.release, if_pos hheld], ?_⟩
    rw [set_self hget]
    exact hs
  | false =>
    obtain ⟨R, hT⟩ := hs.tracked
    have hr := List.mem_of_getElem? hget
    have hpos := hs.counted.live_pos hr hheld
    obtain ⟨c, R', hcall, hW, hT', hwrote⟩ := release_spec hs.wired hT (hs.counted.lt r hr) hpos hheld now
    obtain ⟨-, hidle, hflag, -⟩ := leave_activeRequests (s.controller.heap r.state) r
    exact ⟨c, _, hcall, hW, ⟨R', hT'⟩, hs.counted.release hget hheld hwrote,
      hs.held.calm hs.wired (calm_of_wrote hwrote hflag fun _ => ⟨hidle, hpos.ne'⟩)⟩

lemma step_sound (hs : Sound s) (a : Step) : ∃ s', step s a = some s' ∧ Sound s' := by
  obtain ⟨R, hT⟩ := hs.tracked
  cases a with
  | prepareRequest account maxConcurrency rpmLimit now countRPM credential =>
    obtain ⟨c, result, hcall, hs'⟩ := hs.arrives account maxConcurrency rpmLimit now countRPM credential
    exact ⟨_, by rw [step, hcall, Option.map_some], hs'⟩
  | commit i =>
    cases hget : s.requests[i]? with
    | none => exact ⟨s, by rw [step, hget], hs⟩
    | some r => exact ⟨_, by rw [step, hget], hs.commits hget⟩
  | release i now =>
    cases hget : s.requests[i]? with
    | none => exact ⟨s, by rw [step, hget], hs⟩
    | some r =>
      obtain ⟨c, r', hcall, hs'⟩ := hs.leaves hget now
      exact ⟨_, by simp only [step, hget, hcall, Option.map_some], hs'⟩
  | quiesce accountIDs =>
    obtain ⟨hproper, hmarks⟩ := proper_begin s.controller ⟨.accounts, none, [], [], [], .failed⟩ accountIDs (by simp)
    exact ⟨_, rfl, hs.wired, hs.tracked, hs.counted, Held.append hs.held hproper hmarks⟩
  | quiesceBinding planID additional =>
    refine ⟨_, rfl, hs.wired, hs.tracked, hs.counted, Held.append hs.held ⟨?_, ?_, List.Pairwise.nil, ?_⟩ rfl⟩
    · intro x hx
      cases hx
    · intro x hx
      cases hx
    · exact ⟨rfl, planID, additional, rfl⟩
  | turn j event =>
    cases hget : s.quiescers[j]? with
    | none => exact ⟨s, by rw [step, hget], hs⟩
    | some q =>
      obtain ⟨c, q', hturn, hW, hhistory, hsame, hheld, -⟩ := turn_spec hs.wired hs.held hget event
      have hstep : step s (.turn j event) = some { s with controller := c, quiescers := s.quiescers.set j q' } := by
        simp only [step, hget, hturn, Option.map_some]
      exact ⟨_, hstep, hW, ⟨R, hhistory ▸ hT⟩, hs.counted.same hsame, hheld⟩
  | pendingMinutes now =>
    obtain ⟨h, out, hcall, hT', -⟩ := pendingMinutes_spec hT now
    exact ⟨_, by rw [step, hcall, Option.map_some], hs.record hT'⟩
  | liveHistory key now =>
    obtain ⟨h, out, counts, hcall, hT', -⟩ := liveHistory_spec hT key now
    exact ⟨_, by rw [step, hcall, Option.map_some], hs.record hT'⟩
  | acknowledgeMinutes pending =>
    obtain ⟨hT', -⟩ := acknowledgeMinutes_spec hT pending
    exact ⟨_, rfl, hs.record hT'⟩

lemma run_sound (steps : List Step) (hs : Sound s) : ∃ s', run s steps = some s' ∧ Sound s' := by
  induction steps generalizing s with
  | nil => exact ⟨s, rfl, hs⟩
  | cons a steps ih =>
    obtain ⟨s₁, hstep, hs₁⟩ := step_sound hs a
    obtain ⟨s₂, hrun, hs₂⟩ := ih hs₁
    exact ⟨s₂, by rw [run, hstep, Option.bind_some, hrun], hs₂⟩

end Runs

section Accounting

variable {s : System} {account : String}

/-- The requests of an account that were admitted and not released. -/
def inFlight (account : String) (r : Request) : Bool := r.account = account ∧ r.released = false

def inFlightOf (account user : String) (r : Request) : Bool := inFlight account r ∧ r.user = some user

/-- Counted in a minute, and neither committed nor released. -/
def awaiting (account : String) (minute : ℤ) (r : Request) : Bool :=
  inFlight account r ∧ r.countRPM = true ∧ r.committed = false ∧ r.minuteStart = minute

/-- A request in flight is on the state of its account. -/
lemma Sound.liveAt_eq (hs : Sound s) {o : StateRef} (hstate : s.controller.states account = some o) {r : Request}
    (hr : r ∈ s.requests) : liveAt o r = inFlight account r := by
  unfold liveAt inFlight
  cases hheld : r.released with
  | true => simp
  | false =>
    have hmapped := hs.counted.mapped r hr hheld
    have hiff : r.state = o ↔ r.account = account := by
      constructor
      · intro heq
        rw [heq] at hmapped
        exact hs.wired.states_inj r.account account o hmapped hstate
      · intro heq
        rw [heq, hstate] at hmapped
        injection hmapped with hmapped
        exact hmapped.symm
    simp [hiff]

/-- An account without a state has nothing in flight. -/
lemma Sound.inFlight_of_none (hs : Sound s) (hnone : s.controller.states account = none) :
    tally (inFlight account) s.requests = 0 := by
  refine tally_eq_zero ?_
  intro r hr
  cases hheld : r.released with
  | true => simp [inFlight, hheld]
  | false =>
    have hmapped := hs.counted.mapped r hr hheld
    have hne : r.account ≠ account := by
      intro heq
      rw [heq, hnone] at hmapped
      cases hmapped
    simp [inFlight, hne]

/-- The counters of an account. -/
structure Accounts (s : System) (account : String) (state : TrafficState) : Prop where
  active : state.activeRequests = tally (inFlight account) s.requests
  members : ∀ user, state.activeMembers.get user = tally (inFlightOf account user) s.requests
  memberKeys : state.activeMembers.Positive
  pending : ∀ minute, state.pendingMinuteRequests.get minute = tally (awaiting account minute) s.requests
  idle : s.controller.closed state.idle = true ↔ state.activeRequests = 0

lemma Sound.accounts (hs : Sound s) {o : StateRef} (hstate : s.controller.states account = some o) :
    Accounts s account (s.controller.heap o) := by
  have ho := hs.wired.states_lt account o hstate
  have htallied := hs.counted.tallied o ho
  refine ⟨?_, ?_, htallied.memberKeys, ?_, hs.wired.idle_closed o ho⟩
  · rw [htallied.active]
    exact tally_congr fun r hr => hs.liveAt_eq hstate hr
  · intro user
    rw [htallied.members]
    refine tally_congr fun r hr => ?_
    rw [memberAt, inFlightOf, hs.liveAt_eq hstate hr]
  · intro minute
    rw [htallied.pending]
    refine tally_congr fun r hr => ?_
    rw [pendingAt, awaiting, hs.liveAt_eq hstate hr]

/-- Looking up the state of an account, which an arrival does first, leaves everything sound. -/
lemma Sound.looksUp (hs : Sound s) (account : String) (now : ℤ) :
    Sound { s with controller := ((s.controller.cleanup now).findState account).1 } ∧
      ((s.controller.cleanup now).findState account).1.states account =
        some ((s.controller.cleanup now).findState account).2 := by
  obtain ⟨R, hT⟩ := hs.tracked
  obtain ⟨hW, hstate⟩ := (hs.wired.cleanup now).findState account
  have hsame := (sameCounts_cleanup s.controller now).trans hs.wired
    (sameCounts_findState (s.controller.cleanup now) account)
  have hcalm := (calm_cleanup s.controller now).trans hs.wired (calm_findState (s.controller.cleanup now) account)
  exact ⟨⟨hW, ⟨R, by rw [history_found]; exact hT⟩, hs.counted.same hsame, hs.held.calm hs.wired hcalm⟩, hstate⟩

/-- The state that an arrival reads counts the requests of the account. -/
lemma Sound.found_accounts (hs : Sound s) (account : String) (now : ℤ) :
    Accounts { s with controller := ((s.controller.cleanup now).findState account).1 } account
      (found s.controller account now) := by
  obtain ⟨hs', hstate⟩ := hs.looksUp account now
  exact hs'.accounts hstate

/-- A flagged state is still the state of its account when a request arrives. -/
lemma Sound.found_quiescing (hs : Sound s) {o : StateRef} (hstate : s.controller.states account = some o)
    (hflag : (s.controller.heap o).quiescing = true) (now : ℤ) : (found s.controller account now).quiescing = true := by
  have hcalm := (calm_cleanup s.controller now).trans hs.wired (calm_findState (s.controller.cleanup now) account)
  obtain ⟨-, hfound⟩ := (hs.wired.cleanup now).findState account
  have hkept := hcalm.states account o hstate hflag
  rw [hfound] at hkept
  injection hkept with hkept
  rw [found, hkept, hcalm.flags o (hs.wired.states_lt account o hstate)]
  exact hflag

lemma check_below {state : TrafficState} {maxConcurrency rpmLimit now : ℤ} {countRPM : Bool}
    {credential : Option Credential} (h : state.check maxConcurrency rpmLimit now countRPM credential = .ok ())
    (hpos : 0 < maxConcurrency) : state.activeRequests < maxConcurrency := by
  unfold TrafficState.check at h
  split_ifs at h with hfull
  all_goals omega

lemma check_room {state : TrafficState} {maxConcurrency rpmLimit now : ℤ} {credential : Option Credential}
    (h : state.check maxConcurrency rpmLimit now true credential = .ok ()) (hpos : 0 < rpmLimit) :
    state.minuteRequests + state.pendingMinuteRequests.get (truncate now) < rpmLimit := by
  unfold TrafficState.check at h
  split_ifs at h with hfull hrate
  simp only [true_and, not_and, not_le] at hrate
  exact hrate hpos

/-- An admission finds the account below its limit and not quiesced. -/
lemma Sound.admitted (hs : Sound s) {maxConcurrency rpmLimit now : ℤ} {countRPM : Bool}
    {credential : Option Credential} {c : Controller} {r : Request}
    (hcall : prepareRequest s.controller account maxConcurrency rpmLimit now countRPM credential = some (c, .ok r)) :
    (∀ o, s.controller.states account = some o → (s.controller.heap o).quiescing = false) ∧
      (0 < maxConcurrency → tally (inFlight account) s.requests < maxConcurrency) := by
  obtain ⟨R, hT⟩ := hs.tracked
  obtain ⟨c', result, R', hcall', -, -, -, -, hresult⟩ :=
    prepareRequest_spec hs.wired hT hs.counted account maxConcurrency rpmLimit now countRPM credential
  rw [hcall] at hcall'
  injection hcall' with hcall'
  cases hcall'
  obtain ⟨-, hfree, -, hcheck⟩ := hresult
  refine ⟨?_, ?_⟩
  · intro o hold
    by_contra hflag
    rw [hs.found_quiescing hold (by simpa using hflag) now] at hfree
    cases hfree
  · intro hpos
    obtain ⟨hactive, -⟩ := arrive_frame (found s.controller account now) now countRPM
    have hbelow := check_below hcheck hpos
    rw [hactive, (hs.found_accounts account now).active] at hbelow
    exact hbelow

/-- No run of critical sections panics, so no channel is closed twice. In every state it reaches the counters of
an account are those of its requests, its state is in the map as long as a request or a flag is on it, and a request
is only admitted below the limit and while the account is not quiesced. -/
theorem admission_accounting (instanceID : String) (steps : List Step) :
    ∃ s, run (initial instanceID) steps = some s ∧
      (∀ account o, s.controller.states account = some o → Accounts s account (s.controller.heap o)) ∧
      (∀ account, s.controller.states account = none → tally (inFlight account) s.requests = 0) ∧
      (∀ r ∈ s.requests, r.released = false → s.controller.states r.account = some r.state) ∧
      (∀ q ∈ s.quiescers, ∀ x ∈ flagged q, s.controller.states x.1 = some x.2) ∧
      ∀ account maxConcurrency rpmLimit now countRPM credential c r,
        prepareRequest s.controller account maxConcurrency rpmLimit now countRPM credential = some (c, .ok r) →
          (∀ o, s.controller.states account = some o → (s.controller.heap o).quiescing = false) ∧
            (0 < maxConcurrency → tally (inFlight account) s.requests < maxConcurrency) := by
  obtain ⟨s, hrun, hs⟩ := run_sound steps (sound_initial instanceID)
  refine ⟨s, hrun, fun account o hstate => hs.accounts hstate, fun account hnone => hs.inFlight_of_none hnone,
    hs.counted.mapped, fun q hq => (hs.held.proper q hq).mapped, ?_⟩
  intro account maxConcurrency rpmLimit now countRPM credential c r hcall
  exact hs.admitted hcall

end Accounting

section Barrier

variable {s : System} {account : String} {q q' : Quiescer} {i j k : ℕ}

lemma prepareRequest_of_quiescing {c : Controller} {now : ℤ} (h : (found c account now).quiescing = true)
    (maxConcurrency rpmLimit : ℤ) (countRPM : Bool) (credential : Option Credential) :
    prepareRequest c account maxConcurrency rpmLimit now countRPM credential =
      some (((c.cleanup now).findState account).1, .error .accountUnavailable) := by
  unfold found at h
  unfold prepareRequest
  dsimp only
  rw [if_pos h]

/-- A request on a flagged account is refused. -/
lemma Sound.refused (hs : Sound s) {o : StateRef} (hstate : s.controller.states account = some o)
    (hflag : (s.controller.heap o).quiescing = true) (maxConcurrency rpmLimit now : ℤ) (countRPM : Bool)
    (credential : Option Credential) :
    ∃ c, prepareRequest s.controller account maxConcurrency rpmLimit now countRPM credential =
      some (c, .error .accountUnavailable) := by
  exact ⟨_, prepareRequest_of_quiescing (hs.found_quiescing hstate hflag now) maxConcurrency rpmLimit countRPM credential⟩

/-- The accounts that a call has flagged. -/
def flaggedAccounts (q : Quiescer) : List String := (flagged q).map Prod.fst

lemma Sound.flagged_state (hs : Sound s) (hq : q ∈ s.quiescers) (h : account ∈ flaggedAccounts q) :
    ∃ o ∈ marks q, s.controller.states account = some o ∧ (s.controller.heap o).quiescing = true := by
  obtain ⟨x, hx, rfl⟩ := List.mem_map.mp h
  have hmark : x.2 ∈ marks q := List.mem_map_of_mem hx
  exact ⟨x.2, hmark, (hs.held.proper q hq).mapped x hx, hs.held.quiescing hs.wired hq hmark⟩

/-- A flag on an account is the flag of a call. -/
lemma Sound.flag_owner (hs : Sound s) {o : StateRef} (hstate : s.controller.states account = some o)
    (hflag : (s.controller.heap o).quiescing = true) : ∃ q ∈ s.quiescers, account ∈ flaggedAccounts q := by
  obtain ⟨q, hq, hmark⟩ := (hs.held.flags o (hs.wired.states_lt account o hstate)).mp hflag
  obtain ⟨x, hx, rfl⟩ := List.mem_map.mp hmark
  have haccount : x.1 = account := hs.wired.states_inj x.1 account x.2 ((hs.held.proper q hq).mapped x hx) hstate
  exact ⟨q, hq, haccount ▸ List.mem_map_of_mem hx⟩

/-- A call that has locked all of its accounts. -/
lemma Sound.barrier (hs : Sound s) (hq : q ∈ s.quiescers) (hengaged : Engaged q) (hids : q.ids = [])
    (hlisted : account ∈ q.accountIDs) (hne : account ≠ "") :
    account ∈ flaggedAccounts q ∧ tally (inFlight account) s.requests = 0 := by
  have hlist := hengaged.listed
  rw [hids, List.append_nil] at hlist
  have hmem : account ∈ q.locked.map Prod.fst := by
    rw [hlist]
    exact mem_quiesceIDs.mpr ⟨hlisted, hne⟩
  obtain ⟨x, hx, rfl⟩ := List.mem_map.mp hmem
  have hproper := hs.held.proper q hq
  have hflagged : x ∈ flagged q := List.mem_append_left _ hx
  refine ⟨List.mem_map_of_mem hflagged, ?_⟩
  rw [← (hs.accounts (hproper.mapped x hflagged)).active]
  exact hproper.idle x hx

/-- Two calls never have a flag on one account. -/
lemma Sound.exclusive (hs : Sound s) (hij : i ≠ j) (hi : s.quiescers[i]? = some q) (hj : s.quiescers[j]? = some q')
    (h : account ∈ flaggedAccounts q) : account ∉ flaggedAccounts q' := by
  intro h'
  obtain ⟨o, hmark, hstate, -⟩ := hs.flagged_state (List.mem_of_getElem? hi) h
  obtain ⟨o', hmark', hstate', -⟩ := hs.flagged_state (List.mem_of_getElem? hj) h'
  rw [hstate] at hstate'
  injection hstate' with heq
  subst heq
  have hpairwise := (List.nodup_flatMap.mp hs.held.once).2
  rw [List.pairwise_iff_getElem] at hpairwise
  obtain ⟨hlt, rfl⟩ := List.getElem?_eq_some_iff.mp hi
  obtain ⟨hlt', rfl⟩ := List.getElem?_eq_some_iff.mp hj
  rcases lt_or_gt_of_ne hij with hlt₁ | hlt₁
  · exact hpairwise i j hlt hlt' hlt₁ hmark hmark'
  · exact hpairwise j i hlt' hlt hlt₁ hmark' hmark

/-- A call is blocked by another that has a flag on the account it waits for. -/
def WaitsFor (s : System) (i j : ℕ) : Prop :=
  ∃ q q' changed account, s.quiescers[i]? = some q ∧ s.quiescers[j]? = some q' ∧ q.phase = .awaitChanged changed ∧
    s.controller.closed changed = false ∧ q.ids.head? = some account ∧ account ∈ flaggedAccounts q'

/-- A call that waits for a change has flagged only accounts before the one it waits for. -/
lemma flagged_lt {c : Controller} {changed : Channel} {b : String} (hproper : Proper c q)
    (hphase : q.phase = .awaitChanged changed) (hhead : q.ids.head? = some b) (h : account ∈ flaggedAccounts q) :
    account < b := by
  have hunder : underway q = [] := by simp [underway, hphase]
  rw [flaggedAccounts, flagged, hunder, List.append_nil] at h
  exact (List.pairwise_append.mp hproper.sorted).2.2 account h b (List.mem_of_mem_head? hhead)

lemma Sound.blocked (hs : Sound s) (hj : s.quiescers[j]? = some q) {changed : Channel}
    (hphase : q.phase = .awaitChanged changed) (hopen : s.controller.closed changed = false) :
    ∃ i ≠ j, WaitsFor s j i := by
  have hproper := hs.held.proper q (List.mem_of_getElem? hj)
  have hplaced := hproper.placed
  simp only [Placed, hphase] at hplaced
  obtain ⟨-, -, account, rest, hids, hshut | ⟨-, o, hstate, hflag⟩⟩ := hplaced
  · rw [hopen] at hshut
    cases hshut
  · obtain ⟨q', hq', hmem⟩ := hs.flag_owner hstate hflag
    obtain ⟨i, hi⟩ := List.getElem?_of_mem hq'
    have hhead : q.ids.head? = some account := by rw [hids]; rfl
    refine ⟨i, ?_, q, q', changed, account, hj, hi, hphase, hopen, hhead, hmem⟩
    intro heq
    rw [heq, hj] at hi
    cases hi
    exact lt_irrefl account (flagged_lt hproper hphase hhead hmem)

/-- The account that a call waits for. -/
def awaited (s : System) (i : ℕ) : Option String := s.quiescers[i]?.bind fun q => q.ids.head?

lemma WaitsFor.awaited_lt (hs : Sound s) (h : WaitsFor s i j) (h' : WaitsFor s j k) :
    ∃ a b, awaited s i = some a ∧ awaited s j = some b ∧ a < b := by
  obtain ⟨q, q', changed, a, hi, hj, hphase, hopen, hhead, hmem⟩ := h
  obtain ⟨p, p', changed', b, hj', hk, hphase', hopen', hhead', hmem'⟩ := h'
  rw [hj] at hj'
  cases hj'
  refine ⟨a, b, ?_, ?_, ?_⟩
  · rw [awaited, hi, Option.bind_some, hhead]
  · rw [awaited, hj, Option.bind_some, hhead']
  · exact flagged_lt (hs.held.proper q' (List.mem_of_getElem? hj)) hphase' hhead' hmem

/-- Along a chain of blocked calls the accounts grow. -/
lemma Sound.chain (hs : Sound s) (h : Relation.TransGen (WaitsFor s) i j) (hlast : WaitsFor s j k) :
    ∃ a b, awaited s i = some a ∧ awaited s j = some b ∧ a < b := by
  induction h generalizing k with
  | single hstep => exact hstep.awaited_lt hs hlast
  | tail _ hstep ih =>
    obtain ⟨a, b, ha, hb, hlt⟩ := ih hstep
    obtain ⟨b', d, hb', hd, hlt'⟩ := hstep.awaited_lt hs hlast
    rw [hb] at hb'
    cases hb'
    exact ⟨a, d, ha, hd, hlt.trans hlt'⟩

lemma Sound.acyclic (hs : Sound s) (i : ℕ) : ¬ Relation.TransGen (WaitsFor s) i i := by
  intro hcycle
  obtain ⟨k, hfirst, -⟩ := Relation.TransGen.head'_iff.mp hcycle
  obtain ⟨a, b, ha, hb, hlt⟩ := hs.chain hcycle hfirst
  rw [ha] at hb
  cases hb
  exact lt_irrefl a hlt

/-- A state that a call waits to be idle has requests in flight as long as the call is blocked. -/
lemma Sound.blocked_idle (hs : Sound s) (hq : q ∈ s.quiescers) {o : StateRef} {idle : Channel}
    (hphase : q.phase = .awaitIdle o idle) (hopen : s.controller.closed idle = false) :
    ∃ account, q.ids.head? = some account ∧ 0 < tally (inFlight account) s.requests := by
  have hproper := hs.held.proper q hq
  have hplaced := hproper.placed
  simp only [Placed, hphase] at hplaced
  obtain ⟨-, hne, hidle⟩ := hplaced
  obtain ⟨account, rest, hids⟩ := List.exists_cons_of_ne_nil hne
  have hstate : s.controller.states account = some o := by
    refine hproper.mapped (account, o) ?_
    simp [flagged, underway, hphase, hids]
  have haccounts := hs.accounts hstate
  refine ⟨account, by rw [hids]; rfl, ?_⟩
  have hnonneg := tally_nonneg (inFlight account) s.requests
  have hne : (s.controller.heap o).activeRequests ≠ 0 := by
    intro hzero
    have hshut := haccounts.idle.mpr hzero
    rw [hidle, hopen] at hshut
    cases hshut
  rw [haccounts.active] at hne
  omega

/-- A binding is returned only by the read that follows the barrier. -/
lemma returned_of_turn {c c' : Controller} {event : Turn} {current : Binding} (hturn : q.turn c event = some (c', q'))
    (hreturned : q'.phase = .returned (some current)) :
    q.phase = .returned (some current) ∨ q.phase = .rereading ∧ event = .read (some current) := by
  have hunlock : ∀ phase, q.unlock c phase = some (c', q') → q'.phase = phase := by
    intro phase h
    obtain ⟨c₁, -, heq⟩ := Option.map_eq_some_iff.mp h
    cases heq
    rfl
  have hidle : ∀ p : Quiescer, some (c, p) = some (c', q') → q' = p := by
    intro p h
    cases h
    rfl
  cases event with
  | read result =>
    unfold Quiescer.turn at hturn
    dsimp only at hturn
    split at hturn
    · rw [hidle _ hturn] at hreturned
      cases hreturned
    · rw [hidle _ hturn] at hreturned
      cases hreturned
    · next read hphase =>
      rw [hidle _ hturn] at hreturned
      refine Or.inr ⟨hphase, ?_⟩
      simp only [Quiescer.compare] at hreturned
      split at hreturned
      · split_ifs at hreturned
        cases hreturned
        rfl
      · cases hreturned
    · rw [hidle _ hturn] at hreturned
      cases hreturned
    · rw [hidle _ hturn] at hreturned
      exact Or.inl hreturned
  | proceed =>
    unfold Quiescer.turn at hturn
    dsimp only at hturn
    split at hturn
    · unfold Quiescer.acquire at hturn
      split at hturn
      · split at hturn
        · rw [hidle _ hturn] at hreturned
          cases hreturned
        · rw [hidle _ hturn] at hreturned
          cases hreturned
      · dsimp only at hturn
        split_ifs at hturn
        · cases hturn
          cases hreturned
        · obtain ⟨c₁, -, heq⟩ := Option.map_eq_some_iff.mp hturn
          cases heq
          cases hreturned
    · obtain ⟨c₁, -, heq⟩ := Option.map_eq_some_iff.mp hturn
      cases heq
      cases hreturned
    · next retry _ =>
      rw [hunlock _ hturn] at hreturned
      cases retry <;> cases hreturned
    · rw [hunlock _ hturn] at hreturned
      cases hreturned
    · rw [hidle _ hturn] at hreturned
      exact Or.inl hreturned
  | wake =>
    unfold Quiescer.turn at hturn
    dsimp only at hturn
    split at hturn
    · split_ifs at hturn
      · rw [hidle _ hturn] at hreturned
        cases hreturned
      · rw [hidle _ hturn] at hreturned
        exact Or.inl hreturned
    · split_ifs at hturn
      · rw [hidle _ hturn] at hreturned
        cases hreturned
      · rw [hidle _ hturn] at hreturned
        exact Or.inl hreturned
    · rw [hidle _ hturn] at hreturned
      exact Or.inl hreturned
  | cancel =>
    unfold Quiescer.turn at hturn
    dsimp only at hturn
    split at hturn
    · rw [hunlock _ hturn] at hreturned
      cases hreturned
    · rw [hunlock _ hturn] at hreturned
      cases hreturned
    · rw [hidle _ hturn] at hreturned
      exact Or.inl hreturned

/-- A call that has failed or has run its release callback has no flag, and the callback does nothing more. -/
lemma Sound.finished (hs : Sound s) (hq : q ∈ s.quiescers) (hphase : q.phase = .failed ∨ q.phase = .released) :
    flaggedAccounts q = [] ∧ ∀ c, q.turn c .proceed = some (c, q) := by
  have hplaced := (hs.held.proper q hq).placed
  rcases hphase with hphase | hphase
  all_goals
    simp only [Placed, hphase] at hplaced
    refine ⟨by simp [flaggedAccounts, flagged, underway, hphase, hplaced], ?_⟩
    intro c
    simp only [Quiescer.turn, hphase]

/-- In every state of every run: an account that a call has quiesced has nothing in flight and refuses every
request until the release callback has run; flags on an account are those of one call that has not failed; a blocked
call waits for requests in flight or for another call, and never in a cycle; and a binding is returned by a read that was
made behind the barrier and agrees with the binding that was quiesced. -/
theorem quiesce_is_barrier (instanceID : String) (steps : List Step) :
    ∃ s, run (initial instanceID) steps = some s ∧
      (∀ q ∈ s.quiescers, ∀ current, q.phase = .returned current → ∀ account ∈ q.accountIDs, account ≠ "" →
        tally (inFlight account) s.requests = 0 ∧ ∀ maxConcurrency rpmLimit now countRPM credential,
          ∃ c, prepareRequest s.controller account maxConcurrency rpmLimit now countRPM credential =
            some (c, .error .accountUnavailable)) ∧
      (∀ (i j : ℕ) q q', i ≠ j → s.quiescers[i]? = some q → s.quiescers[j]? = some q' → ∀ account ∈ flaggedAccounts q,
        account ∉ flaggedAccounts q') ∧
      (∀ q ∈ s.quiescers, q.phase = .failed ∨ q.phase = .released →
        flaggedAccounts q = [] ∧ ∀ c, q.turn c .proceed = some (c, q)) ∧
      (∀ account o, s.controller.states account = some o → (s.controller.heap o).quiescing = true →
        ∃ q ∈ s.quiescers, account ∈ flaggedAccounts q) ∧
      (∀ (j : ℕ) q changed, s.quiescers[j]? = some q → q.phase = .awaitChanged changed → s.controller.closed changed = false →
        ∃ i ≠ j, WaitsFor s j i) ∧
      (∀ q ∈ s.quiescers, ∀ o idle, q.phase = .awaitIdle o idle → s.controller.closed idle = false →
        ∃ account, q.ids.head? = some account ∧ 0 < tally (inFlight account) s.requests) ∧
      (∀ i, ¬ Relation.TransGen (WaitsFor s) i i) ∧
      (∀ q ∈ s.quiescers, ∀ current, q.phase = .returned (some current) → ∃ planID additional plan,
        q.goal = .binding planID additional ∧ q.plan = some plan ∧ q.accountIDs = plan.accountID :: additional ∧
          current.id = planID ∧ current.accountID = plan.accountID ∧ current.generation = plan.generation) ∧
      ∀ q ∈ s.quiescers, ∀ event c q' current, q.turn s.controller event = some (c, q') →
        q'.phase = .returned (some current) → q.phase ≠ .returned (some current) → event = .read (some current) ∧
          ∀ account ∈ q.accountIDs, account ≠ "" →
            account ∈ flaggedAccounts q ∧ tally (inFlight account) s.requests = 0 := by
  obtain ⟨s, hrun, hs⟩ := run_sound steps (sound_initial instanceID)
  refine ⟨s, hrun, ?_, ?_, ?_, ?_, ?_, ?_, hs.acyclic, ?_, ?_⟩
  · intro q hq current hphase account hlisted hne
    have hplaced := (hs.held.proper q hq).placed
    simp only [Placed, hphase] at hplaced
    obtain ⟨hflagged, hidle⟩ := hs.barrier hq hplaced.1 hplaced.2.1 hlisted hne
    obtain ⟨o, -, hstate, hflag⟩ := hs.flagged_state hq hflagged
    exact ⟨hidle, hs.refused hstate hflag⟩
  · intro i j q q' hij hi hj account h
    exact hs.exclusive hij hi hj h
  · intro q hq hphase
    exact hs.finished hq hphase
  · intro account o hstate hflag
    exact hs.flag_owner hstate hflag
  · intro j q changed hj hphase hopen
    exact hs.blocked hj hphase hopen
  · intro q hq o idle hphase hopen
    exact hs.blocked_idle hq hphase hopen
  · intro q hq current hphase
    have hplaced := (hs.held.proper q hq).placed
    simp only [Placed, hphase] at hplaced
    obtain ⟨hengaged, -, planID, additional, plan, hgoal, hplan, hsame⟩ := hplaced
    obtain ⟨plan', hplan', hids⟩ := hengaged.bound planID additional hgoal
    rw [hplan] at hplan'
    cases hplan'
    exact ⟨planID, additional, plan, hgoal, hplan, hids, hsame⟩
  · intro q hq event c q' current hturn hreturned hbefore
    obtain ⟨hphase, hevent⟩ := (returned_of_turn hturn hreturned).resolve_left hbefore
    have hplaced := (hs.held.proper q hq).placed
    simp only [Placed, hphase] at hplaced
    exact ⟨hevent, fun account hlisted hne => hs.barrier hq hplaced.1 hplaced.2.1 hlisted hne⟩

end Barrier

end ShareSub.TrafficSafety

import Mathlib
import ShareSub.TrafficSafety

/-!
# The requests of an account per natural minute

A state counts the committed requests of one minute only. Pending ones are counted per minute, so the
limit is kept as long as a minute that has committed requests is not opened a second time.
-/
namespace ShareSub.TrafficRate

open HistoryModel TrafficModel TrafficWiring TrafficAccounting TrafficSafety
open Transaction (Run)

section Kinds

/-- Admitted in a minute and not rolled back. -/
def kept (account : String) (minute : ℤ) (r : Request) : Bool :=
  r.account = account ∧ r.countRPM = true ∧ r.minuteStart = minute ∧ (r.committed = true ∨ r.released = false)

def committedIn (account : String) (minute : ℤ) (r : Request) : Bool :=
  r.account = account ∧ r.countRPM = true ∧ r.minuteStart = minute ∧ r.committed = true

lemma tally_split {α : Type} {p q r : α → Bool} {l : List α}
    (h : ∀ x ∈ l, (if p x then 1 else 0 : ℤ) = (if q x then 1 else 0) + if r x then 1 else 0) :
    tally p l = tally q l + tally r l := by
  induction l with
  | nil => rfl
  | cons x l ih =>
    have hx := h x List.mem_cons_self
    have hl := ih fun y hy => h y (List.mem_cons_of_mem x hy)
    unfold tally at *
    simp only [List.countP_cons, Nat.cast_add, Nat.cast_ite, Nat.cast_one, Nat.cast_zero]
    omega

lemma tally_kept (account : String) (minute : ℤ) (l : List Request) :
    tally (kept account minute) l = tally (committedIn account minute) l + tally (awaiting account minute) l := by
  apply tally_split
  intro r _
  unfold kept committedIn awaiting inFlight
  by_cases haccount : r.account = account <;> by_cases hcount : r.countRPM = true <;>
    by_cases hminute : r.minuteStart = minute <;> cases r.committed <;> cases r.released <;>
    simp [haccount, hcount, hminute]

/-- Requests of another account, or that are not counted, are of no kind. -/
lemma not_counted {account : String} {r : Request} (h : r.account ≠ account ∨ r.countRPM = false) (minute : ℤ) :
    kept account minute r = false ∧ committedIn account minute r = false := by
  rcases h with h | h <;> simp [kept, committedIn, h]

end Kinds

section Steps

/-- Every counted request of the account has the same limit. -/
def FixedLimit (account : String) (limit : ℤ) : Step → Prop
  | .prepareRequest a _ rpmLimit _ countRPM _ => a = account → countRPM = true → rpmLimit = limit
  | _ => True

/-- A counted request that opens a window of its minute finds no request of that minute committed. -/
def OpensOnce (account : String) (s : System) : Step → Prop
  | .prepareRequest a _ _ now countRPM _ => a = account → countRPM = true →
      (windowOf (s.controller.cleanup now) account).1 ≠ truncate now ∨ truncate now = zeroTime →
        tally (committedIn account (truncate now)) s.requests = 0
  | _ => True

instance (account : String) (s : System) : ∀ a, Decidable (OpensOnce account s a)
  | .prepareRequest a _ _ now countRPM _ => inferInstanceAs (Decidable (a = account → countRPM = true →
      (windowOf (s.controller.cleanup now) account).1 ≠ truncate now ∨ truncate now = zeroTime →
        tally (committedIn account (truncate now)) s.requests = 0))
  | .commit _ => isTrue trivial
  | .release _ _ => isTrue trivial
  | .quiesce _ => isTrue trivial
  | .quiesceBinding _ _ => isTrue trivial
  | .turn _ _ => isTrue trivial
  | .pendingMinutes _ => isTrue trivial
  | .liveHistory _ _ => isTrue trivial
  | .acknowledgeMinutes _ => isTrue trivial

/-- The window counts what was committed in its minute, and no minute is over its limit. -/
structure Rated (account : String) (limit : ℤ) (s : System) : Prop where
  sound : Sound s
  window : (windowOf s.controller account).1 ≠ zeroTime →
    (windowOf s.controller account).2 = tally (committedIn account (windowOf s.controller account).1) s.requests
  nonneg : 0 ≤ (windowOf s.controller account).2
  bound : ∀ minute, tally (kept account minute) s.requests ≤ limit

variable {account : String} {limit : ℤ} {s s' : System}

lemma windowOf_cleanup (c : Controller) (now : ℤ) (account : String) :
    windowOf (c.cleanup now) account = windowOf c account ∨ windowOf (c.cleanup now) account = (zeroTime, 0) := by
  unfold Controller.cleanup
  split_ifs
  · cases hlookup : c.states account with
    | none =>
      left
      refine windowOf_congr (by simp [hlookup]) fun o ho => ?_
      rw [hlookup] at ho
      cases ho
    | some o =>
      by_cases hstale : (c.heap o).stale now = true
      · right
        simp [windowOf, hlookup, Option.filter, hstale]
      · left
        simp [windowOf, hlookup, Option.filter, hstale]
  · exact Or.inl rfl

/-- The window stays or is forgotten, and the requests of the account stay. -/
lemma Rated.stay (h : Rated account limit s) (hsound : Sound s')
    (hwindow : windowOf s'.controller account = windowOf s.controller account ∨
      windowOf s'.controller account = (zeroTime, 0))
    (hkept : ∀ minute, tally (kept account minute) s'.requests ≤ tally (kept account minute) s.requests)
    (hcommitted : ∀ minute, tally (committedIn account minute) s'.requests = tally (committedIn account minute) s.requests) :
    Rated account limit s' := by
  refine ⟨hsound, ?_, ?_, fun minute => (hkept minute).trans (h.bound minute)⟩
  · rcases hwindow with heq | heq
    · rw [heq, hcommitted]
      exact h.window
    · rw [heq]
      intro hne
      exact absurd rfl hne
  · rcases hwindow with heq | heq
    · rw [heq]
      exact h.nonneg
    · rw [heq]

/-- An arrival that is not counted for the account. -/
lemma Rated.arrival_other (h : Rated account limit s) {a : String} {now : ℤ} {countRPM : Bool} {c : Controller}
    {result : Except TrafficError Request} (hsound : Sound (s.arrival c result)) (hother : a ≠ account ∨ countRPM = false)
    (hwindow : windowOf c account = windowOf (s.controller.cleanup now) account)
    (hresult : ∀ r, result = .ok r → r.account = a ∧ r.countRPM = countRPM) :
    Rated account limit (s.arrival c result) := by
  have hcleanup := windowOf_cleanup s.controller now account
  rw [← hwindow] at hcleanup
  cases result with
  | error e => exact h.stay hsound hcleanup (fun _ => le_rfl) fun _ => rfl
  | ok r =>
    obtain ⟨haccount, hcount⟩ := hresult r rfl
    have hother : r.account ≠ account ∨ r.countRPM = false := by
      rw [haccount, hcount]
      exact hother
    have hnot := not_counted hother
    refine h.stay hsound hcleanup ?_ ?_
    · intro minute
      simp only [System.arrival]
      rw [tally_append, (hnot minute).1]
      simp
    · intro minute
      simp only [System.arrival]
      rw [tally_append, (hnot minute).2]
      simp

/-- An arrival that is counted: its window counts what was committed in the minute, and with the pending ones
there is room for one more. -/
lemma Rated.arrival_counted (h : Rated account limit s) {maxConcurrency rpmLimit now : ℤ}
    {credential : Option Credential} {c : Controller} {result : Except TrafficError Request}
    (hlimit : 0 < limit) (hrpm : rpmLimit = limit)
    (honce : (windowOf (s.controller.cleanup now) account).1 ≠ truncate now ∨ truncate now = zeroTime →
      tally (committedIn account (truncate now)) s.requests = 0)
    (hcall : prepareRequest s.controller account maxConcurrency rpmLimit now true credential = some (c, result)) :
    Rated account limit (s.arrival c result) := by
  obtain ⟨R, hT⟩ := h.sound.tracked
  obtain ⟨c', result', hcall', hsound⟩ := h.sound.arrives account maxConcurrency rpmLimit now true credential
  obtain ⟨c₁, result₁, -, hcall₁, -, -, -, hwindow, hresult⟩ :=
    prepareRequest_spec h.sound.wired hT h.sound.counted account maxConcurrency rpmLimit now true credential
  rw [hcall] at hcall' hcall₁
  cases hcall'
  cases hcall₁
  have hwindow := hwindow account
  have hcleanup := windowOf_cleanup s.controller now account
  have hfound := found_window h.sound.wired account now
  generalize hw : windowOf (s.controller.cleanup now) account = w at *
  -- What the window that the request finds, or opens, has counted.
  have hcounts : (arriveWindow w now true).1 = truncate now ∧ 0 ≤ (arriveWindow w now true).2 ∧
      tally (committedIn account (truncate now)) s.requests ≤ (arriveWindow w now true).2 ∧
      (truncate now ≠ zeroTime →
        (arriveWindow w now true).2 = tally (committedIn account (truncate now)) s.requests) := by
    by_cases hopens : w.1 ≠ truncate now
    · have hzero := honce (Or.inl hopens)
      simp [arriveWindow, hopens, hzero]
    · have hsame : w.1 = truncate now := not_not.mp hopens
      have harrive : arriveWindow w now true = w := by simp [arriveWindow, hsame]
      have hnonneg : 0 ≤ w.2 := by
        rcases hcleanup with heq | heq
        · rw [heq]
          exact h.nonneg
        · rw [heq]
      rw [harrive]
      refine ⟨hsame, hnonneg, ?_⟩
      by_cases hzero : truncate now = zeroTime
      · have := honce (Or.inr hzero)
        exact ⟨by omega, fun hne => absurd hzero hne⟩
      · have hcommitted : w.2 = tally (committedIn account (truncate now)) s.requests := by
          rcases hcleanup with heq | heq
          · have hold := h.window (by rw [← heq, hsame]; exact hzero)
            rw [← heq, hsame] at hold
            exact hold
          · rw [heq] at hsame
            exact absurd hsame.symm hzero
        exact ⟨hcommitted.ge, fun _ => hcommitted⟩
  obtain ⟨hstart, hnonneg, hle, heq⟩ := hcounts
  cases result with
  | error e =>
    by_cases hfree : (found s.controller account now).quiescing = false
    · rw [if_pos ⟨rfl, hfree⟩] at hwindow
      refine ⟨hsound, ?_, ?_, h.bound⟩
      · simp only [System.arrival, hwindow, hstart]
        exact heq
      · simp only [System.arrival, hwindow]
        exact hnonneg
    · rw [if_neg (fun hboth => hfree hboth.2)] at hwindow
      refine h.stay hsound ?_ (fun _ => le_rfl) fun _ => rfl
      simp only [System.arrival, hwindow]
      exact hcleanup
  | ok r =>
    obtain ⟨-, hfree, ⟨o, rfl⟩, hcheck⟩ := hresult
    rw [if_pos ⟨rfl, hfree⟩] at hwindow
    have hroom : tally (kept account (truncate now)) s.requests < limit := by
      have harrived := arrive_window (found s.controller account now) now true
      rw [hfound] at harrived
      obtain ⟨-, -, hpending, -⟩ := arrive_frame (found s.controller account now) now true
      have hrequests : ((found s.controller account now).arrive now true).minuteRequests = (arriveWindow w now true).2 :=
        congrArg Prod.snd harrived
      have hawaiting : (found s.controller account now).pendingMinuteRequests.get (truncate now) =
          tally (awaiting account (truncate now)) s.requests := (h.sound.found_accounts account now).pending _
      have hroom := check_room hcheck (hrpm ▸ hlimit)
      rw [hrequests, hpending, hawaiting, hrpm] at hroom
      rw [tally_kept]
      omega
    have hnone : ∀ minute, committedIn account minute ⟨account, o, truncate now, true, credential, false, false⟩ = false := by
      intro minute
      simp [committedIn]
    refine ⟨hsound, ?_, ?_, ?_⟩
    · simp only [System.arrival, hwindow, hstart]
      rw [tally_append, hnone]
      simpa using heq
    · simp only [System.arrival, hwindow]
      exact hnonneg
    · intro minute
      simp only [System.arrival]
      rw [tally_append]
      by_cases hminute : minute = truncate now
      · subst hminute
        split_ifs <;> omega
      · have hother : kept account minute ⟨account, o, truncate now, true, credential, false, false⟩ = false := by
          simp [kept, Ne.symm hminute]
        have := h.bound minute
        simpa [hother] using this

lemma committedState_window (s : TrafficState) (r : Request) :
    (committedState s r).minuteStart = s.minuteStart ∧ (committedState s r).minuteRequests =
      s.minuteRequests + if r.countRPM = true ∧ s.minuteStart = r.minuteStart then 1 else 0 := by
  obtain ⟨-, -, -, -, hstart, hrequests⟩ := decrementPending_frame s r
  unfold committedState
  dsimp only
  by_cases hcharged : r.countRPM = true ∧ s.minuteStart = r.minuteStart
  · rw [if_pos (hstart.symm ▸ hcharged), if_pos hcharged]
    exact ⟨hstart, congrArg (· + 1) hrequests⟩
  · rw [if_neg (hstart.symm ▸ hcharged), if_neg hcharged, add_zero]
    exact ⟨hstart, hrequests⟩

/-- A commit moves a request of a minute from the pending to the committed ones. -/
lemma Rated.commits (h : Rated account limit s) {i : ℕ} {r : Request} (hget : s.requests[i]? = some r) :
    Rated account limit { s with
      controller := (commit s.controller r).1
      requests := s.requests.set i (commit s.controller r).2 } := by
  have hsound := h.sound.commits hget
  by_cases hdone : r.committed = true ∨ r.released = true
  · rw [commit_of_done hdone, set_self hget] at hsound ⊢
    exact h
  · have hopen : r.committed = false ∧ r.released = false := by simpa using hdone
    have hr := List.mem_of_getElem? hget
    have hstate := h.sound.counted.mapped r hr hopen.2
    rw [commit_of_open hopen.2 hopen.1] at hsound ⊢
    have hstates : (s.controller.put r.state (committedState (s.controller.heap r.state) r)).states =
        s.controller.states := rfl
    have hwindow := windowOf_write h.sound.wired hstate hstates rfl account
    have hkept : ∀ minute, tally (kept account minute) (s.requests.set i { r with committed := true }) =
        tally (kept account minute) s.requests := by
      intro minute
      have hsame : kept account minute { r with committed := true } = kept account minute r := by
        simp [kept, hopen.1, hopen.2]
      rw [tally_set hget, hsame]
      omega
    have hcommitted : ∀ minute, tally (committedIn account minute) (s.requests.set i { r with committed := true }) =
        tally (committedIn account minute) s.requests +
          if r.account = account ∧ r.countRPM = true ∧ r.minuteStart = minute then 1 else 0 := by
      intro minute
      have hbefore : committedIn account minute r = false := by simp [committedIn, hopen.1]
      rw [tally_set hget, hbefore]
      simp [committedIn]
    have hstate' := committedState_window (s.controller.heap r.state) r
    by_cases haccount : account = r.account
    · subst haccount
      rw [if_pos rfl, hstate'.1, hstate'.2] at hwindow
      have hold := windowOf_of_some hstate
      refine ⟨hsound, ?_, ?_, fun minute => (hkept minute).trans_le (h.bound minute)⟩
      · simp only [hwindow, hcommitted, true_and]
        intro hne
        have hcounts := h.window
        rw [hold] at hcounts
        have hcounts := hcounts hne
        simp only at hcounts
        rw [hcounts]
        simp only [eq_comm]
      · simp only [hwindow]
        have hnonneg := h.nonneg
        rw [hold] at hnonneg
        split_ifs <;> simp only at hnonneg <;> omega
    · rw [if_neg haccount] at hwindow
      refine h.stay hsound (Or.inl hwindow) (fun minute => (hkept minute).le) ?_
      intro minute
      rw [hcommitted, if_neg (fun hsame => haccount hsame.1.symm), add_zero]

lemma Rated.leaves (h : Rated account limit s) {i : ℕ} {r : Request} (hget : s.requests[i]? = some r) {now : ℤ}
    {c : Controller} {r' : Request} (hcall : release s.controller r now = some (c, r')) :
    Rated account limit { s with controller := c, requests := s.requests.set i r' } := by
  obtain ⟨c₁, r₁, hcall₁, hsound⟩ := h.sound.leaves hget now
  rw [hcall] at hcall₁
  cases hcall₁
  cases hheld : r.released with
  | true =>
    rw [release, if_pos hheld] at hcall
    cases hcall
    rw [set_self hget]
    exact h
  | false =>
    obtain ⟨R, hT⟩ := h.sound.tracked
    have hr := List.mem_of_getElem? hget
    have hstate := h.sound.counted.mapped r hr hheld
    obtain ⟨c₂, R', hcall₂, -, -, hwrote⟩ := release_spec h.sound.wired hT (h.sound.counted.lt r hr)
      (h.sound.counted.live_pos hr hheld) hheld now
    rw [hcall] at hcall₂
    cases hcall₂
    obtain ⟨-, -, -, hstart, hrequests⟩ := leave_activeRequests (s.controller.heap r.state) r
    refine h.stay hsound (Or.inl ?_) ?_ ?_
    · rw [windowOf_write h.sound.wired hstate hwrote.states hwrote.heap account, hstart, hrequests,
        ← windowOf_of_some hstate]
      split_ifs with heq
      · rw [heq]
      · rfl
    · intro minute
      have hless : kept account minute { r with released := true } = true → kept account minute r = true := by
        simp only [kept, decide_eq_true_eq]
        intro hkept
        exact ⟨hkept.1, hkept.2.1, hkept.2.2.1, Or.inr hheld⟩
      simp only
      rw [tally_set hget]
      split_ifs with hbefore hafter hafter
      · omega
      · omega
      · exact absurd (hless hafter) hbefore
      · omega
    · intro minute
      have hsame : committedIn account minute { r with released := true } = committedIn account minute r := rfl
      simp only
      rw [tally_set hget, hsame]
      omega

lemma rated_initial (instanceID : String) (hlimit : 0 < limit) : Rated account limit (initial instanceID) := by
  refine ⟨sound_initial instanceID, ?_, ?_, ?_⟩
  · intro hne
    exact absurd rfl hne
  · exact le_rfl
  · intro minute
    exact hlimit.le

lemma step_rated (h : Rated account limit s) (hlimit : 0 < limit) {a : Step} (hstep : step s a = some s')
    (hfixed : FixedLimit account limit a) (honce : OpensOnce account s a) : Rated account limit s' := by
  obtain ⟨s₁, hstep₁, hsound⟩ := step_sound h.sound a
  rw [hstep] at hstep₁
  cases hstep₁
  cases a with
  | prepareRequest b maxConcurrency rpmLimit now countRPM credential =>
    obtain ⟨R, hT⟩ := h.sound.tracked
    obtain ⟨c, result, -, hcall, -, -, -, hwindow, hresult⟩ :=
      prepareRequest_spec h.sound.wired hT h.sound.counted b maxConcurrency rpmLimit now countRPM credential
    rw [step, hcall, Option.map_some] at hstep
    cases hstep
    by_cases hcounted : b = account ∧ countRPM = true
    · obtain ⟨rfl, rfl⟩ := hcounted
      exact h.arrival_counted hlimit (hfixed rfl rfl) (honce rfl rfl) hcall
    · have hother : b ≠ account ∨ countRPM = false := by
        rw [not_and_or] at hcounted
        simpa using hcounted
      have hstays : windowOf c account = windowOf (s.controller.cleanup now) account := by
        rw [hwindow account]
        split_ifs with heq
        · have hplain : countRPM = false := hother.resolve_left (not_not.mpr heq.1.symm)
          rw [heq.1, hplain]
          simp [arriveWindow]
        · rfl
      refine h.arrival_other hsound hother hstays ?_
      · intro r hr
        subst hr
        obtain ⟨-, -, ⟨o, rfl⟩, -⟩ := hresult
        exact ⟨rfl, rfl⟩
  | commit i =>
    cases hget : s.requests[i]? with
    | none =>
      rw [step, hget] at hstep
      cases hstep
      exact h
    | some r =>
      rw [step, hget] at hstep
      cases hstep
      exact h.commits hget
  | release i now =>
    cases hget : s.requests[i]? with
    | none =>
      rw [step, hget] at hstep
      cases hstep
      exact h
    | some r =>
      simp only [step, hget, Option.map_eq_some_iff] at hstep
      obtain ⟨⟨c, r'⟩, hcall, rfl⟩ := hstep
      exact h.leaves hget hcall
  | quiesce accountIDs =>
    cases hstep
    exact h.stay hsound (Or.inl rfl) (fun _ => le_rfl) fun _ => rfl
  | quiesceBinding planID additional =>
    cases hstep
    exact h.stay hsound (Or.inl rfl) (fun _ => le_rfl) fun _ => rfl
  | turn j event =>
    cases hget : s.quiescers[j]? with
    | none =>
      rw [step, hget] at hstep
      cases hstep
      exact h
    | some q =>
      obtain ⟨c, q', hturn, -, -, -, -, hwindow⟩ := TrafficQuiescence.turn_spec h.sound.wired h.sound.held hget event
      simp only [step, hget, hturn, Option.map_some] at hstep
      cases hstep
      exact h.stay hsound (Or.inl (hwindow account)) (fun _ => le_rfl) fun _ => rfl
  | pendingMinutes now =>
    simp only [step, Option.map_eq_some_iff] at hstep
    obtain ⟨out, -, rfl⟩ := hstep
    exact h.stay hsound (Or.inl rfl) (fun _ => le_rfl) fun _ => rfl
  | liveHistory key now =>
    simp only [step, Option.map_eq_some_iff] at hstep
    obtain ⟨out, -, rfl⟩ := hstep
    exact h.stay hsound (Or.inl rfl) (fun _ => le_rfl) fun _ => rfl
  | acknowledgeMinutes pending =>
    cases hstep
    exact h.stay hsound (Or.inl rfl) (fun _ => le_rfl) fun _ => rfl

end Steps

section Runs

/-- A run in which the account has one limit and no counted request opens a minute again that has committed
requests. -/
def LimitedRun (instanceID account : String) (limit : ℤ) (steps : List Step) (s : System) : Prop :=
  Run (fun u a v => step u a = some v ∧ FixedLimit account limit a ∧ OpensOnce account u a) (initial instanceID) steps s

theorem minute_limit_kept {instanceID account : String} {limit : ℤ} (hlimit : 0 < limit) {steps : List Step}
    {s : System} (hrun : LimitedRun instanceID account limit steps s) (minute : ℤ) :
    tally (kept account minute) s.requests ≤ limit := by
  have hrated : Rated account limit s := by
    refine hrun.invariant (rated_initial instanceID hlimit) ?_
    intro u a v hu hstep
    exact step_rated hu hlimit hstep.1 hstep.2.1 hstep.2.2
  exact hrated.bound minute

def second : ℤ := 1000000000

def arrivalAt (now : ℤ) : Step := .prepareRequest "A" 0 1 now true none

/-- A request of the next minute arrives before one that has read the clock in the last second of this minute. -/
def straggler : List Step := [arrivalAt (10 * second), .commit 0, arrivalAt (60 * second), arrivalAt (59 * second)]

/-- With a limit of one, two requests of the first minute are admitted and not rolled back. -/
theorem minute_limit_exceeded :
    ∃ s, Run (fun u a v => step u a = some v ∧ FixedLimit "A" 1 a) (initial "x") straggler s ∧
      ¬ tally (kept "A" 0) s.requests ≤ 1 := by
  refine ⟨_, .cons ⟨rfl, fun _ _ => rfl⟩ (.cons ⟨rfl, trivial⟩ (.cons ⟨rfl, fun _ _ => rfl⟩
    (.cons ⟨rfl, fun _ _ => rfl⟩ .nil))), ?_⟩
  decide

/-- The same requests in the order of their readings. -/
theorem minute_limit_kept_in_order :
    ∃ s, LimitedRun "x" "A" 1 [arrivalAt (10 * second), .commit 0, arrivalAt (59 * second), arrivalAt (60 * second)] s ∧
      tally (kept "A" 0) s.requests = 1 ∧ tally (kept "A" 0) s.requests ≤ 1 := by
  have hrun : ∃ s, LimitedRun "x" "A" 1
      [arrivalAt (10 * second), .commit 0, arrivalAt (59 * second), arrivalAt (60 * second)] s ∧
        tally (kept "A" 0) s.requests = 1 := by
    refine ⟨_, .cons ⟨rfl, fun _ _ => rfl, ?_⟩ (.cons ⟨rfl, trivial, trivial⟩ (.cons ⟨rfl, fun _ _ => rfl, ?_⟩
      (.cons ⟨rfl, fun _ _ => rfl, ?_⟩ .nil))), ?_⟩
    · decide
    · decide
    · decide
    · decide
  obtain ⟨s, hrun, hone⟩ := hrun
  exact ⟨s, hrun, hone, minute_limit_kept (by decide) hrun 0⟩

end Runs

end ShareSub.TrafficRate

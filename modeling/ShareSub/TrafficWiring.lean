import Mathlib
import ShareSub.HistorySystem
import ShareSub.TrafficModel

/-!
# States, channels and the history of the controller

What every critical section relies on: an account has at most one state, the idle channel of a state is
closed exactly when nothing is in flight, and the channel of the next change is open. From this no
channel is closed twice.
-/
namespace ShareSub.TrafficWiring

open HistoryModel HistorySystem TrafficModel

section Wiring

variable {c c' : Controller} {o : StateRef} {s : TrafficState}

lemma put_heap (c : Controller) (o : StateRef) (s : TrafficState) (x : StateRef) :
    (c.put o s).heap x = if x = o then s else c.heap x := Function.update_apply ..

structure Wired (c : Controller) : Prop where
  states_lt : ∀ a o, c.states a = some o → o < c.nextState
  states_inj : ∀ a b o, c.states a = some o → c.states b = some o → a = b
  idle_lt : ∀ o < c.nextState, (c.heap o).idle < c.nextChannel
  idle_inj : ∀ o < c.nextState, ∀ o' < c.nextState, (c.heap o).idle = (c.heap o').idle → o = o'
  idle_closed : ∀ o < c.nextState, c.closed (c.heap o).idle = true ↔ (c.heap o).activeRequests = 0
  changed_lt : c.changed < c.nextChannel
  changed_open : c.closed c.changed = false
  changed_ne : ∀ o < c.nextState, (c.heap o).idle ≠ c.changed

lemma wired_newController (instanceID : String) : Wired (newController instanceID) := by
  refine ⟨?_, ?_, ?_, ?_, ?_, Nat.one_pos, rfl, ?_⟩
  · intro a o h
    cases h
  · intro a b o h
    cases h
  · intro o h
    exact absurd h (Nat.not_lt_zero o)
  · intro o h
    exact absurd h (Nat.not_lt_zero o)
  · intro o h
    exact absurd h (Nat.not_lt_zero o)
  · intro o h
    exact absurd h (Nat.not_lt_zero o)

lemma Wired.cleanup (hW : Wired c) (now : ℤ) : Wired (c.cleanup now) := by
  unfold Controller.cleanup
  split_ifs
  · have hsub : ∀ a o, ((c.states a).filter fun o => !(c.heap o).stale now) = some o → c.states a = some o :=
      fun a o h => (Option.filter_eq_some_iff.mp h).1
    exact ⟨fun a o h => hW.states_lt a o (hsub a o h), fun a b o ha hb => hW.states_inj a b o (hsub a o ha) (hsub b o hb),
      hW.idle_lt, hW.idle_inj, hW.idle_closed, hW.changed_lt, hW.changed_open, hW.changed_ne⟩
  · exact hW

/-- A write to a state that leaves its channel, and with it the number in flight. -/
lemma Wired.put (hW : Wired c) (hidle : s.idle = (c.heap o).idle) (hactive : s.activeRequests = (c.heap o).activeRequests) :
    Wired (c.put o s) := by
  have hheap : ∀ x, ((c.put o s).heap x).idle = (c.heap x).idle ∧
      ((c.put o s).heap x).activeRequests = (c.heap x).activeRequests := by
    intro x
    rw [put_heap]
    split_ifs with hx
    · rw [hx]
      exact ⟨hidle, hactive⟩
    · exact ⟨rfl, rfl⟩
  refine ⟨hW.states_lt, hW.states_inj, ?_, ?_, ?_, hW.changed_lt, hW.changed_open, ?_⟩
  · intro x hx
    rw [(hheap x).1]
    exact hW.idle_lt x hx
  · intro x hx y hy
    rw [(hheap x).1, (hheap y).1]
    exact hW.idle_inj x hx y hy
  · intro x hx
    rw [(hheap x).1, (hheap x).2]
    exact hW.idle_closed x hx
  · intro x hx
    rw [(hheap x).1]
    exact hW.changed_ne x hx

/-- The state of an account that had none: nothing is in flight and its channel is closed. -/
lemma Wired.findState (hW : Wired c) (account : String) :
    Wired (c.findState account).1 ∧ (c.findState account).1.states account = some (c.findState account).2 := by
  unfold Controller.findState
  cases hlookup : c.states account with
  | some o => exact ⟨hW, hlookup⟩
  | none =>
    refine ⟨?_, Function.update_self ..⟩
    have hold : ∀ x < c.nextState, x ≠ c.nextState := fun x hx => hx.ne
    have hbelow : ∀ x < c.nextState + 1, x ≠ c.nextState → x < c.nextState :=
      fun x hx hne => lt_of_le_of_ne (Nat.le_of_lt_succ hx) hne
    have hchannel : ∀ ch < c.nextChannel, ch ≠ c.nextChannel := fun ch hch => hch.ne
    refine ⟨?_, ?_, ?_, ?_, ?_, Nat.lt_succ_of_lt hW.changed_lt, ?_, ?_⟩
    all_goals simp only [closedSignal, Controller.makeChan, Controller.put, Function.update_apply]
    · intro a x hx
      split_ifs at hx
      · cases hx
        exact Nat.lt_succ_self _
      · exact Nat.lt_succ_of_lt (hW.states_lt a x hx)
    · intro a b x ha hb
      split_ifs at ha hb with ha' hb' hb'
      · rw [ha', hb']
      · cases ha
        exact absurd rfl (hold _ (hW.states_lt b _ hb))
      · cases hb
        exact absurd rfl (hold _ (hW.states_lt a _ ha))
      · exact hW.states_inj a b x ha hb
    · intro x hx
      split_ifs with heq
      · exact Nat.lt_succ_self _
      · exact Nat.lt_succ_of_lt (hW.idle_lt x (hbelow x hx heq))
    · intro x hx y hy
      split_ifs with hx' hy' hy'
      · intro _
        rw [hx', hy']
      · intro heq
        exact absurd heq.symm (hchannel _ (hW.idle_lt y (hbelow y hy hy')))
      · intro heq
        exact absurd heq (hchannel _ (hW.idle_lt x (hbelow x hx hx')))
      · exact hW.idle_inj x (hbelow x hx hx') y (hbelow y hy hy')
    · intro x hx
      by_cases heq : x = c.nextState
      · simp [heq, newState]
      · have hlt := hbelow x hx heq
        simp only [if_neg heq, if_neg (hchannel _ (hW.idle_lt x hlt))]
        exact hW.idle_closed x hlt
    · rw [if_neg (hchannel _ hW.changed_lt)]
      exact hW.changed_open
    · intro x hx
      split_ifs with heq
      · exact (hchannel _ hW.changed_lt).symm
      · exact hW.changed_ne x (hbelow x hx heq)

lemma findState_of_some {account : String} (h : c.states account = some o) : c.findState account = (c, o) := by
  rw [Controller.findState, h]

/-- The state that is made for an account. -/
lemma findState_of_none {account : String} (h : c.states account = none) :
    (c.findState account).2 = c.nextState ∧ (c.findState account).1.nextState = c.nextState + 1 ∧
      (c.findState account).1.heap = Function.update c.heap c.nextState (newState c.nextChannel) ∧
      (c.findState account).1.states = Function.update c.states account (some c.nextState) ∧
      (c.findState account).1.changed = c.changed ∧
      (c.findState account).1.closed = Function.update c.closed c.nextChannel true ∧
      (c.findState account).1.nextChannel = c.nextChannel + 1 ∧ (c.findState account).1.history = c.history := by
  rw [Controller.findState, h]
  exact ⟨rfl, rfl, rfl, rfl, rfl, rfl, rfl, rfl⟩

/-- What a signal leaves alone. -/
structure Signalled (c c' : Controller) : Prop where
  states : c'.states = c.states
  heap : c'.heap = c.heap
  nextState : c'.nextState = c.nextState
  history : c'.history = c.history
  nextCleanup : c'.nextCleanup = c.nextCleanup
  channels : c.nextChannel ≤ c'.nextChannel
  woken : c'.closed c.changed = true
  others : ∀ ch < c.nextChannel, ch ≠ c.changed → c'.closed ch = c.closed ch

lemma Signalled.shut (h : Signalled c c') {ch : Channel} (hch : ch < c.nextChannel) (hold : c.closed ch = true) :
    c'.closed ch = true := by
  by_cases heq : ch = c.changed
  · rw [heq]
    exact h.woken
  · rw [h.others ch hch heq]
    exact hold

lemma Wired.signal (hW : Wired c) : ∃ c', c.signalChangedLocked = some c' ∧ Wired c' ∧ Signalled c c' := by
  have hfresh : ∀ ch < c.nextChannel, ch ≠ c.nextChannel := fun ch hch => hch.ne
  unfold Controller.signalChangedLocked Controller.close
  rw [hW.changed_open, if_neg Bool.false_ne_true, Option.map_some]
  refine ⟨_, rfl, ⟨hW.states_lt, hW.states_inj, ?_, hW.idle_inj, ?_, Nat.lt_succ_self _, ?_, ?_⟩,
    rfl, rfl, rfl, rfl, rfl, Nat.le_succ _, ?_, ?_⟩
  all_goals simp only [Controller.makeChan, Function.update_apply]
  · intro x hx
    exact Nat.lt_succ_of_lt (hW.idle_lt x hx)
  · intro x hx
    rw [if_neg (hfresh _ (hW.idle_lt x hx)), if_neg (hW.changed_ne x hx)]
    exact hW.idle_closed x hx
  · simp
  · intro x hx
    exact hfresh _ (hW.idle_lt x hx)
  · rw [if_neg (hfresh _ hW.changed_lt), if_pos trivial]
  · intro ch hch hne
    rw [if_neg (hfresh ch hch), if_neg hne]

/-- A write to one state, with the channels that go with it. -/
lemma Wired.replace (hW : Wired c) (ho : o < c.nextState) (hstates : c'.states = c.states)
    (hnext : c'.nextState = c.nextState) (hchanged : c'.changed = c.changed) (hopen : c'.closed c.changed = false)
    (hheap : c'.heap = Function.update c.heap o s) (hchannels : c.nextChannel ≤ c'.nextChannel)
    (hclosed : ∀ ch < c.nextChannel, ch ≠ (c.heap o).idle → c'.closed ch = c.closed ch)
    (hidle : s.idle = (c.heap o).idle ∨ c.nextChannel ≤ s.idle) (hlt : s.idle < c'.nextChannel)
    (hiff : c'.closed s.idle = true ↔ s.activeRequests = 0) : Wired c' := by
  have hother : ∀ x < c.nextState, x ≠ o → (c.heap x).idle ≠ s.idle := by
    intro x hx hne heq
    rcases hidle with hsame | hfresh
    · exact hne (hW.idle_inj x hx o ho (heq.trans hsame))
    · exact absurd (hW.idle_lt x hx) (not_lt.mpr (heq ▸ hfresh))
  refine ⟨?_, ?_, ?_, ?_, ?_, ?_, ?_, ?_⟩
  all_goals simp only [hstates, hnext, hchanged, hheap, Function.update_apply]
  · exact hW.states_lt
  · exact hW.states_inj
  · intro x hx
    split_ifs with heq
    · exact hlt
    · exact (hW.idle_lt x hx).trans_le hchannels
  · intro x hx y hy
    split_ifs with hxo hyo hyo
    · intro _
      rw [hxo, hyo]
    · intro heq
      exact absurd heq.symm (hother y hy hyo)
    · intro heq
      exact absurd heq (hother x hx hxo)
    · exact hW.idle_inj x hx y hy
  · intro x hx
    split_ifs with heq
    · exact hiff
    · rw [hclosed _ (hW.idle_lt x hx) fun hsame => heq (hW.idle_inj x hx o ho hsame)]
      exact hW.idle_closed x hx
  · exact hW.changed_lt.trans_le hchannels
  · exact hopen
  · intro x hx
    split_ifs with heq
    · rcases hidle with hsame | hfresh
      · rw [hsame]
        exact hW.changed_ne o ho
      · exact (hW.changed_lt.trans_le hfresh).ne'
    · exact hW.changed_ne x hx

/-- A critical section that writes one state and signals a change. -/
structure Wrote (c c' : Controller) (o : StateRef) (s : TrafficState) : Prop where
  states : c'.states = c.states
  nextState : c'.nextState = c.nextState
  heap : c'.heap = Function.update c.heap o s
  channels : c.nextChannel ≤ c'.nextChannel
  woken : c'.closed c.changed = true
  shut : ∀ ch < c.nextChannel, c.closed ch = true → c'.closed ch = true

lemma recordHistory_spec {h : History} {R : String → HistoryIntegral.Recorder} (hT : Tracked h R)
    (credential : Option Credential) (delta now : ℤ) :
    ∃ h' R', recordHistory h credential delta now = some h' ∧ Tracked h' R' := by
  cases credential with
  | none => exact ⟨h, R, rfl, hT⟩
  | some credential =>
    obtain ⟨h', hcall, hT', -⟩ := changeHistory_spec hT credential.caller delta now
    exact ⟨h', _, hcall, hT'⟩

variable {R : String → HistoryIntegral.Recorder}

lemma admit_spec (hW : Wired c) (hT : Tracked c.history R) (ho : o < c.nextState) (hpos : 0 ≤ (c.heap o).activeRequests)
    (now : ℤ) (countRPM : Bool) (credential : Option Credential) :
    ∃ c' idle R', c.accept o now countRPM credential = some c' ∧ Wired c' ∧ Tracked c'.history R' ∧
      Wrote c c' o ((c.heap o).enter idle now countRPM credential) := by
  obtain ⟨h, R', hrecord, hT'⟩ := recordHistory_spec hT credential 1 now
  unfold Controller.accept
  rw [hrecord, Option.bind_some]
  by_cases hzero : (c.heap o).activeRequests = 0
  · -- The first request in flight opens a new channel.
    simp only [if_pos hzero]
    have hfresh : ∀ ch < c.nextChannel, ch ≠ c.nextChannel := fun ch hch => hch.ne
    have hW₁ : Wired ({ (c.makeChan false).1 with history := h }.put o
        ((c.heap o).enter (c.makeChan false).2 now countRPM credential)) := by
      refine hW.replace ho rfl rfl rfl ?_ rfl (Nat.le_succ _) ?_ (Or.inr le_rfl) (Nat.lt_succ_self _) ?_
      · simp only [Controller.makeChan, Controller.put, Function.update_of_ne (hfresh _ hW.changed_lt)]
        exact hW.changed_open
      · intro ch hch _
        simp only [Controller.makeChan, Controller.put, Function.update_of_ne (hfresh ch hch)]
      · simp [Controller.makeChan, Controller.put, TrafficState.enter, hzero]
    obtain ⟨c', hsignal, hW', hsig⟩ := hW₁.signal
    refine ⟨c', _, R', hsignal, hW', hsig.history ▸ hT', hsig.states, hsig.nextState, hsig.heap,
      (Nat.le_succ _).trans hsig.channels, hsig.woken, ?_⟩
    intro ch hch hold
    refine hsig.shut (Nat.lt_succ_of_lt hch) ?_
    simp only [Controller.makeChan, Controller.put, Function.update_of_ne (hfresh ch hch)]
    exact hold
  · simp only [if_neg hzero]
    have hopen : c.closed (c.heap o).idle = false := by
      rw [← Bool.not_eq_true, hW.idle_closed o ho]
      exact hzero
    have hW₁ : Wired ({ c with history := h }.put o ((c.heap o).enter (c.heap o).idle now countRPM credential)) := by
      refine hW.replace ho rfl rfl rfl hW.changed_open rfl le_rfl (fun _ _ _ => rfl) (Or.inl rfl) (hW.idle_lt o ho) ?_
      simp only [Controller.put, TrafficState.enter, hopen]
      constructor
      · intro h
        cases h
      · intro h
        omega
    obtain ⟨c', hsignal, hW', hsig⟩ := hW₁.signal
    exact ⟨c', _, R', hsignal, hW', hsig.history ▸ hT', hsig.states, hsig.nextState, hsig.heap, hsig.channels,
      hsig.woken, fun ch hch hold => hsig.shut hch hold⟩

lemma leave_activeRequests (s : TrafficState) (r : Request) :
    (s.leave r).activeRequests = s.activeRequests - 1 ∧ (s.leave r).idle = s.idle ∧
      (s.leave r).quiescing = s.quiescing ∧ (s.leave r).minuteStart = s.minuteStart ∧
      (s.leave r).minuteRequests = s.minuteRequests := by
  unfold TrafficState.leave TrafficState.decrementPending
  split_ifs <;> exact ⟨rfl, rfl, rfl, rfl, rfl⟩

lemma release_spec (hW : Wired c) (hT : Tracked c.history R) {r : Request} (ho : r.state < c.nextState)
    (hpos : 0 < (c.heap r.state).activeRequests) (hheld : r.released = false) (now : ℤ) :
    ∃ c' R', release c r now = some (c', { r with released := true }) ∧ Wired c' ∧ Tracked c'.history R' ∧
      Wrote c c' r.state ((c.heap r.state).leave r) := by
  obtain ⟨h, R', hrecord, hT'⟩ := recordHistory_spec hT r.credential (-1) now
  obtain ⟨hactive, hidle, -⟩ := leave_activeRequests (c.heap r.state) r
  have hopen : c.closed (c.heap r.state).idle = false := by
    rw [← Bool.not_eq_true, hW.idle_closed r.state ho]
    omega
  unfold release
  simp only [hheld, Bool.false_eq_true, if_false, hrecord, Option.bind_some]
  by_cases hzero : ((c.heap r.state).leave r).activeRequests = 0
  · -- The last request in flight closes the channel, which is open.
    have hclose : ({ c with history := h }.put r.state ((c.heap r.state).leave r)).close ((c.heap r.state).leave r).idle =
        some { { c with history := h }.put r.state ((c.heap r.state).leave r) with
          closed := Function.update c.closed (c.heap r.state).idle true } := by
      rw [Controller.close, hidle]
      simp only [Controller.put, hopen, Bool.false_eq_true, if_false]
    rw [if_pos hzero, hclose, Option.bind_some]
    have hW₁ : Wired { { c with history := h }.put r.state ((c.heap r.state).leave r) with
        closed := Function.update c.closed (c.heap r.state).idle true } := by
      refine hW.replace ho rfl rfl rfl ?_ rfl le_rfl ?_ (Or.inl hidle) ?_ ?_
      · simp only [Function.update_of_ne (hW.changed_ne r.state ho).symm]
        exact hW.changed_open
      · intro ch _ hne
        simp only [Function.update_of_ne hne]
      · rw [hidle]
        exact hW.idle_lt r.state ho
      · simp only [hidle, Function.update_self, hzero]
    obtain ⟨c', hsignal, hW', hsig⟩ := hW₁.signal
    rw [hsignal, Option.map_some]
    refine ⟨c', R', rfl, hW', hsig.history ▸ hT', hsig.states, hsig.nextState, hsig.heap, hsig.channels, hsig.woken, ?_⟩
    intro ch hch hold
    refine hsig.shut hch ?_
    simp only [Function.update_apply, hold]
    split_ifs <;> rfl
  · rw [if_neg hzero, Option.bind_some]
    have hW₁ : Wired ({ c with history := h }.put r.state ((c.heap r.state).leave r)) := by
      refine hW.replace ho rfl rfl rfl hW.changed_open rfl le_rfl (fun _ _ _ => rfl) (Or.inl hidle) ?_ ?_
      · rw [hidle]
        exact hW.idle_lt r.state ho
      · simp only [hidle, Controller.put, hopen, hzero, Bool.false_eq_true]
    obtain ⟨c', hsignal, hW', hsig⟩ := hW₁.signal
    rw [hsignal, Option.map_some]
    exact ⟨c', R', rfl, hW', hsig.history ▸ hT', hsig.states, hsig.nextState, hsig.heap, hsig.channels, hsig.woken,
      fun ch hch hold => hsig.shut hch hold⟩

end Wiring

end ShareSub.TrafficWiring

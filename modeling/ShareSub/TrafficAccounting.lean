import Mathlib
import ShareSub.TrafficWiring

/-!
# The counters of a state are the requests that it accounts for

Every counter of a state is the number of the requests of a kind that were admitted on it. A request
that has not been released keeps its state in the map, so its callbacks write to the state that the
next arrival reads.
-/
namespace ShareSub.TrafficAccounting

open HistoryModel HistorySystem TrafficModel TrafficWiring

section Tallies

variable {α : Type} {p : α → Bool} {l : List α} {i : ℕ} {x y : α}

def tally (p : α → Bool) (l : List α) : ℤ := l.countP p

lemma tally_append (p : α → Bool) (l : List α) (x : α) : tally p (l ++ [x]) = tally p l + if p x then 1 else 0 := by
  by_cases h : p x <;> simp [tally, h]

lemma tally_set (h : l[i]? = some x) (p : α → Bool) (y : α) :
    tally p (l.set i y) = tally p l - (if p x then 1 else 0) + if p y then 1 else 0 := by
  obtain ⟨hlt, hget⟩ := List.getElem?_eq_some_iff.mp h
  have hmem : x ∈ l := List.mem_of_getElem? h
  have hpos : p x = true → 0 < l.countP p := fun hx => List.countP_pos_iff.mpr ⟨x, hmem, hx⟩
  rw [tally, tally, List.countP_set hlt, hget]
  by_cases hx : p x
  · have := hpos hx
    by_cases hy : p y <;> simp [hx, hy] <;> omega
  · by_cases hy : p y <;> simp [hx, hy]

lemma set_self (h : l[i]? = some x) : l.set i x = l := by
  obtain ⟨hlt, rfl⟩ := List.getElem?_eq_some_iff.mp h
  exact List.set_getElem_self hlt

lemma tally_pos (hx : x ∈ l) (hp : p x = true) : 0 < tally p l := by
  have := List.countP_pos_iff.mpr ⟨x, hx, hp⟩
  unfold tally
  omega

lemma tally_nonneg (p : α → Bool) (l : List α) : 0 ≤ tally p l := Int.natCast_nonneg _

lemma tally_eq_zero (h : ∀ x ∈ l, p x = false) : tally p l = 0 := by
  have : l.countP p = 0 := List.countP_eq_zero.mpr fun x hx => by simp [h x hx]
  unfold tally
  omega

lemma tally_congr {q : α → Bool} (h : ∀ x ∈ l, p x = q x) : tally p l = tally q l := by
  unfold tally
  rw [List.countP_congr fun x hx => by rw [h x hx]]

/-- What is of one kind is of one of two others. -/
lemma tally_le_add {q r : α → Bool} (h : ∀ x ∈ l, p x = true → q x = true ∨ r x = true) :
    tally p l ≤ tally q l + tally r l := by
  induction l with
  | nil => exact le_refl 0
  | cons x l ih =>
    have hx := h x List.mem_cons_self
    have hl := ih fun y hy => h y (List.mem_cons_of_mem x hy)
    unfold tally at *
    simp only [List.countP_cons, Nat.cast_add, Nat.cast_ite, Nat.cast_one, Nat.cast_zero]
    cases hp : p x
    · simp only [Bool.false_eq_true, if_false]
      split_ifs <;> omega
    · rcases hx hp with hq | hr
      · simp only [hq, if_true]
        split_ifs <;> omega
      · simp only [hr, if_true]
        split_ifs <;> omega

lemma tally_mono {q : α → Bool} (h : ∀ x ∈ l, p x = true → q x = true) : tally p l ≤ tally q l := by
  unfold tally
  exact_mod_cast List.countP_mono_left h

end Tallies

section Kinds

/-- Admitted on a state and not released. -/
def liveAt (o : StateRef) (r : Request) : Bool := r.state = o ∧ r.released = false

def memberAt (o : StateRef) (user : String) (r : Request) : Bool := liveAt o r ∧ r.user = some user

/-- Counted in a minute, and neither committed nor released. -/
def pendingAt (o : StateRef) (minute : ℤ) (r : Request) : Bool :=
  liveAt o r ∧ r.countRPM = true ∧ r.committed = false ∧ r.minuteStart = minute

/-- A state against the requests. -/
structure Tallied (s : TrafficState) (o : StateRef) (requests : List Request) : Prop where
  active : s.activeRequests = tally (liveAt o) requests
  members : ∀ user, s.activeMembers.get user = tally (memberAt o user) requests
  pending : ∀ minute, s.pendingMinuteRequests.get minute = tally (pendingAt o minute) requests
  memberKeys : s.activeMembers.Positive
  pendingKeys : s.pendingMinuteRequests.Positive

structure Counted (c : Controller) (requests : List Request) : Prop where
  lt : ∀ r ∈ requests, r.state < c.nextState
  mapped : ∀ r ∈ requests, r.released = false → c.states r.account = some r.state
  tallied : ∀ o < c.nextState, Tallied (c.heap o) o requests

/-- Nothing is admitted or released, and a state with requests in flight stays in the map. -/
structure SameCounts (c c' : Controller) : Prop where
  next : c.nextState ≤ c'.nextState
  old : ∀ o < c.nextState, (c'.heap o).activeRequests = (c.heap o).activeRequests ∧
    (c'.heap o).activeMembers = (c.heap o).activeMembers ∧
    (c'.heap o).pendingMinuteRequests = (c.heap o).pendingMinuteRequests
  fresh : ∀ o, c.nextState ≤ o → o < c'.nextState → (c'.heap o).activeRequests = 0 ∧ (c'.heap o).activeMembers = ∅ ∧
    (c'.heap o).pendingMinuteRequests = ∅
  states : ∀ a o, c.states a = some o → (c.heap o).activeRequests ≠ 0 → c'.states a = some o

variable {c c' c₁ c₂ c₃ : Controller} {requests : List Request} {o : StateRef} {s : TrafficState}

lemma SameCounts.trans (hW : Wired c₁) (h : SameCounts c₁ c₂) (h' : SameCounts c₂ c₃) : SameCounts c₁ c₃ := by
  refine ⟨h.next.trans h'.next, ?_, ?_, ?_⟩
  · intro o ho
    obtain ⟨ha, hm, hp⟩ := h.old o ho
    obtain ⟨ha', hm', hp'⟩ := h'.old o (ho.trans_le h.next)
    exact ⟨ha'.trans ha, hm'.trans hm, hp'.trans hp⟩
  · intro o hle hlt
    by_cases hmid : o < c₂.nextState
    · obtain ⟨ha, hm, hp⟩ := h.fresh o hle hmid
      obtain ⟨ha', hm', hp'⟩ := h'.old o hmid
      exact ⟨ha'.trans ha, hm'.trans hm, hp'.trans hp⟩
    · exact h'.fresh o (not_lt.mp hmid) hlt
  · intro a o hstate hactive
    refine h'.states a o (h.states a o hstate hactive) ?_
    rw [(h.old o (hW.states_lt a o hstate)).1]
    exact hactive

lemma SameCounts.of_heap (hnext : c'.nextState = c.nextState) (hheap : c'.heap = c.heap) (hstates : c'.states = c.states) :
    SameCounts c c' := by
  refine ⟨hnext.ge, ?_, ?_, ?_⟩
  · intro o _
    rw [hheap]
    exact ⟨rfl, rfl, rfl⟩
  · intro o hle hlt
    rw [hnext] at hlt
    exact absurd hlt (not_lt.mpr hle)
  · intro a o hstate _
    rw [hstates]
    exact hstate

lemma sameCounts_cleanup (c : Controller) (now : ℤ) : SameCounts c (c.cleanup now) := by
  unfold Controller.cleanup
  split_ifs
  · refine ⟨le_rfl, fun _ _ => ⟨rfl, rfl, rfl⟩, fun o hle hlt => absurd hlt (not_lt.mpr hle), ?_⟩
    intro a o hstate hactive
    refine Option.filter_eq_some_iff.mpr ⟨hstate, ?_⟩
    simp [TrafficState.stale, hactive]
  · exact .of_heap rfl rfl rfl

lemma sameCounts_findState (c : Controller) (account : String) : SameCounts c (c.findState account).1 := by
  cases hlookup : c.states account with
  | some o =>
    rw [findState_of_some hlookup]
    exact .of_heap rfl rfl rfl
  | none =>
    obtain ⟨-, hnext, hheap, hstates, -⟩ := findState_of_none hlookup
    refine ⟨hnext ▸ Nat.le_succ _, ?_, ?_, ?_⟩
    · intro o ho
      rw [hheap, Function.update_of_ne ho.ne]
      exact ⟨rfl, rfl, rfl⟩
    · intro o hle hlt
      have heq : o = c.nextState := le_antisymm (Nat.le_of_lt_succ (hnext ▸ hlt : o < c.nextState + 1)) hle
      rw [hheap, heq, Function.update_self]
      exact ⟨rfl, rfl, rfl⟩
    · intro a o hstate _
      have hne : a ≠ account := by
        intro heq
        rw [heq, hlookup] at hstate
        cases hstate
      rw [hstates, Function.update_of_ne hne]
      exact hstate

lemma sameCounts_put (hactive : s.activeRequests = (c.heap o).activeRequests)
    (hmembers : s.activeMembers = (c.heap o).activeMembers)
    (hpending : s.pendingMinuteRequests = (c.heap o).pendingMinuteRequests) : SameCounts c (c.put o s) := by
  refine ⟨le_rfl, ?_, fun x hle hlt => absurd hlt (not_lt.mpr hle), fun _ _ hstate _ => hstate⟩
  intro x _
  rw [put_heap]
  split_ifs with hx
  · rw [hx]
    exact ⟨hactive, hmembers, hpending⟩
  · exact ⟨rfl, rfl, rfl⟩

lemma Tallied.of_eq {s' : TrafficState} (h : Tallied s o requests) (hactive : s'.activeRequests = s.activeRequests)
    (hmembers : s'.activeMembers = s.activeMembers) (hpending : s'.pendingMinuteRequests = s.pendingMinuteRequests) :
    Tallied s' o requests := by
  refine ⟨hactive.trans h.active, ?_, ?_, ?_, ?_⟩
  · rw [hmembers]
    exact h.members
  · rw [hpending]
    exact h.pending
  · rw [hmembers]
    exact h.memberKeys
  · rw [hpending]
    exact h.pendingKeys

/-- A state on which nothing was admitted. -/
lemma tallied_fresh (hfree : ∀ r ∈ requests, r.state ≠ o) (hactive : s.activeRequests = 0) (hmembers : s.activeMembers = ∅)
    (hpending : s.pendingMinuteRequests = ∅) : Tallied s o requests := by
  have hlive : ∀ r ∈ requests, liveAt o r = false := by
    intro r hr
    simp [liveAt, hfree r hr]
  refine ⟨?_, ?_, ?_, ?_, ?_⟩
  · rw [hactive, tally_eq_zero hlive]
  · intro user
    rw [hmembers, Counter.get_empty, tally_eq_zero]
    intro r hr
    simp [memberAt, hlive r hr]
  · intro minute
    rw [hpending, Counter.get_empty, tally_eq_zero]
    intro r hr
    simp [pendingAt, hlive r hr]
  · rw [hmembers]
    exact Counter.positive_empty
  · rw [hpending]
    exact Counter.positive_empty

lemma Counted.live_pos (h : Counted c requests) {r : Request} (hr : r ∈ requests) (hheld : r.released = false) :
    0 < (c.heap r.state).activeRequests := by
  rw [(h.tallied r.state (h.lt r hr)).active]
  exact tally_pos hr (by simp [liveAt, hheld])

lemma Counted.same (h : Counted c requests) (hs : SameCounts c c') : Counted c' requests := by
  refine ⟨fun r hr => (h.lt r hr).trans_le hs.next, ?_, ?_⟩
  · intro r hr hheld
    exact hs.states r.account r.state (h.mapped r hr hheld) (h.live_pos hr hheld).ne'
  · intro o ho
    by_cases hold : o < c.nextState
    · obtain ⟨ha, hm, hp⟩ := hs.old o hold
      exact (h.tallied o hold).of_eq ha hm hp
    · obtain ⟨ha, hm, hp⟩ := hs.fresh o (not_lt.mp hold) ho
      refine tallied_fresh ?_ ha hm hp
      intro r hr heq
      exact hold (heq ▸ h.lt r hr)

end Kinds

section Callbacks

variable {c c' : Controller} {requests : List Request} {r r' : Request} {o x : StateRef} {s : TrafficState} {i : ℕ}

/-- Another state does not see an admission. -/
lemma Tallied.append_of_ne (h : Tallied s x requests) (hne : r.state ≠ x) : Tallied s x (requests ++ [r]) := by
  have hlive : liveAt x r = false := by simp [liveAt, hne]
  refine ⟨?_, ?_, ?_, h.memberKeys, h.pendingKeys⟩
  · rw [tally_append, h.active]
    simp [hlive]
  · intro user
    rw [tally_append, h.members]
    simp [memberAt, hlive]
  · intro minute
    rw [tally_append, h.pending]
    simp [pendingAt, hlive]

lemma Tallied.enter (h : Tallied s o requests) (account : String) (idle : Channel) (now : ℤ) (countRPM : Bool)
    (credential : Option Credential) :
    Tallied (s.enter idle now countRPM credential) o
      (requests ++ [⟨account, o, truncate now, countRPM, credential, false, false⟩]) := by
  have hmembers : ∀ user, 0 ≤ s.activeMembers.get user := by
    intro user
    rw [h.members]
    exact tally_nonneg ..
  have hpending : ∀ minute, 0 ≤ s.pendingMinuteRequests.get minute := by
    intro minute
    rw [h.pending]
    exact tally_nonneg ..
  refine ⟨?_, ?_, ?_, ?_, ?_⟩
  · rw [tally_append, TrafficState.enter, h.active]
    simp [liveAt]
  · intro user
    rw [tally_append, TrafficState.enter]
    cases credential with
    | none =>
      rw [countMember, h.members]
      simp [memberAt, Request.user]
    | some credential =>
      rw [countMember, Counter.get_add, h.members]
      simp [memberAt, liveAt, Request.user, eq_comm]
  · intro minute
    rw [tally_append, TrafficState.enter]
    cases countRPM with
    | false =>
      rw [if_neg Bool.false_ne_true, h.pending]
      simp [pendingAt]
    | true =>
      rw [if_pos rfl, Counter.get_add, h.pending]
      simp [pendingAt, liveAt, eq_comm]
  · cases credential with
    | none => exact h.memberKeys
    | some credential => exact h.memberKeys.add_one _ (hmembers _)
  · cases countRPM with
    | false => exact h.pendingKeys
    | true => exact h.pendingKeys.add_one _ (hpending _)

lemma Counted.enters (h : Counted c requests) {account : String} {idle : Channel} {now : ℤ} {countRPM : Bool}
    {credential : Option Credential} (hstate : c.states account = some o) (ho : o < c.nextState)
    (hw : Wrote c c' o ((c.heap o).enter idle now countRPM credential)) :
    Counted c' (requests ++ [⟨account, o, truncate now, countRPM, credential, false, false⟩]) := by
  refine ⟨?_, ?_, ?_⟩
  · intro r hr
    rw [hw.nextState]
    rcases List.mem_append.mp hr with hr | hr
    · exact h.lt r hr
    · rw [List.mem_singleton.mp hr]
      exact ho
  · intro r hr hheld
    rw [hw.states]
    rcases List.mem_append.mp hr with hr | hr
    · exact h.mapped r hr hheld
    · rw [List.mem_singleton.mp hr]
      exact hstate
  · intro x hx
    rw [hw.nextState] at hx
    rw [hw.heap, Function.update_apply]
    split_ifs with heq
    · subst heq
      exact (h.tallied x hx).enter account idle now countRPM credential
    · exact (h.tallied x hx).append_of_ne (Ne.symm heq)

/-- A callback that leaves the state of its request and changes none of the others. -/
lemma Tallied.set_of_ne (h : Tallied s x requests) (hget : requests[i]? = some r) (hstate : r'.state = r.state)
    (hne : r.state ≠ x) : Tallied s x (requests.set i r') := by
  have hlive : liveAt x r = false := by simp [liveAt, hne]
  have hlive' : liveAt x r' = false := by simp [liveAt, hstate, hne]
  refine ⟨?_, ?_, ?_, h.memberKeys, h.pendingKeys⟩
  · rw [tally_set hget, h.active]
    simp [hlive, hlive']
  · intro user
    rw [tally_set hget, h.members]
    simp [memberAt, hlive, hlive']
  · intro minute
    rw [tally_set hget, h.pending]
    simp [pendingAt, hlive, hlive']

/-- What a callback does to the requests. -/
lemma Counted.set (h : Counted c requests) (hget : requests[i]? = some r) (hstate : r'.state = r.state)
    (haccount : r'.account = r.account) (hreleased : r'.released = false → r.released = false)
    (hstates : c'.states = c.states) (hnext : c'.nextState = c.nextState)
    (hheap : c'.heap = Function.update c.heap r.state s) (htallied : Tallied s r.state (requests.set i r')) :
    Counted c' (requests.set i r') := by
  have hr : r ∈ requests := List.mem_of_getElem? hget
  have hcases : ∀ x ∈ requests.set i r', x ∈ requests ∨ x = r' := fun x hx => List.mem_or_eq_of_mem_set hx
  refine ⟨?_, ?_, ?_⟩
  · intro x hx
    rw [hnext]
    rcases hcases x hx with hx | rfl
    · exact h.lt x hx
    · rw [hstate]
      exact h.lt r hr
  · intro x hx hheld
    rw [hstates]
    rcases hcases x hx with hx | rfl
    · exact h.mapped x hx hheld
    · rw [haccount, hstate]
      exact h.mapped r hr (hreleased hheld)
  · intro x hx
    rw [hnext] at hx
    rw [hheap, Function.update_apply]
    split_ifs with heq
    · rw [heq]
      exact htallied
    · exact (h.tallied x hx).set_of_ne hget hstate (Ne.symm heq)

/-- The pending counter after the request is no longer pending. -/
lemma Tallied.decrementPending (h : Tallied s r.state requests) (r' : Request) (hget : requests[i]? = some r)
    (hheld : r.released = false) (hopen : r.committed = false) (hdone : r'.committed = true ∨ r'.released = true) :
    (∀ minute, (s.decrementPending r).pendingMinuteRequests.get minute =
        tally (pendingAt r.state minute) (requests.set i r')) ∧
      (s.decrementPending r).pendingMinuteRequests.Positive := by
  have hr : r ∈ requests := List.mem_of_getElem? hget
  have hafter : ∀ minute, pendingAt r.state minute r' = false := by
    intro minute
    rcases hdone with hdone | hdone <;> simp [pendingAt, liveAt, hdone]
  have hbefore : ∀ minute, pendingAt r.state minute r = decide (r.countRPM = true ∧ r.minuteStart = minute) := by
    intro minute
    simp [pendingAt, liveAt, hheld, hopen]
  unfold TrafficState.decrementPending
  split_ifs with hcount
  · have hpos : 0 < s.pendingMinuteRequests.get r.minuteStart := by
      rw [h.pending]
      refine tally_pos hr ?_
      rw [hbefore]
      simp [hcount]
    refine ⟨?_, h.pendingKeys.drop_one _ hpos⟩
    intro minute
    rw [Counter.get_prune, Counter.get_add, h.pending, tally_set hget, hafter, hbefore]
    by_cases heq : minute = r.minuteStart
    · simp [heq, hcount]
      omega
    · simp [heq, Ne.symm heq]
  · refine ⟨?_, h.pendingKeys⟩
    intro minute
    rw [h.pending, tally_set hget, hafter, hbefore]
    simp [hcount]

lemma decrementPending_frame (s : TrafficState) (r : Request) :
    (s.decrementPending r).activeRequests = s.activeRequests ∧ (s.decrementPending r).activeMembers = s.activeMembers ∧
      (s.decrementPending r).idle = s.idle ∧ (s.decrementPending r).quiescing = s.quiescing ∧
      (s.decrementPending r).minuteStart = s.minuteStart ∧ (s.decrementPending r).minuteRequests = s.minuteRequests := by
  unfold TrafficState.decrementPending
  split_ifs <;> exact ⟨rfl, rfl, rfl, rfl, rfl, rfl⟩

/-- The state after a commit that has an effect. -/
def committedState (s : TrafficState) (r : Request) : TrafficState :=
  let s := s.decrementPending r
  if r.countRPM ∧ s.minuteStart = r.minuteStart then { s with minuteRequests := s.minuteRequests + 1 } else s

lemma commit_of_open (hheld : r.released = false) (hopen : r.committed = false) (c : Controller) :
    commit c r = (c.put r.state (committedState (c.heap r.state) r), { r with committed := true }) := by
  simp [commit, committedState, hheld, hopen]

lemma commit_of_done (hdone : r.committed = true ∨ r.released = true) (c : Controller) : commit c r = (c, r) := by
  rw [commit, if_pos hdone]

lemma committedState_frame (s : TrafficState) (r : Request) :
    (committedState s r).activeRequests = s.activeRequests ∧ (committedState s r).activeMembers = s.activeMembers ∧
      (committedState s r).idle = s.idle ∧ (committedState s r).quiescing = s.quiescing ∧
      (committedState s r).pendingMinuteRequests = (s.decrementPending r).pendingMinuteRequests := by
  obtain ⟨hactive, hmembers, hidle, hquiescing, -⟩ := decrementPending_frame s r
  unfold committedState
  dsimp only
  split_ifs <;> exact ⟨hactive, hmembers, hidle, hquiescing, rfl⟩

lemma Tallied.commit (h : Tallied s r.state requests) (hget : requests[i]? = some r) (hheld : r.released = false)
    (hopen : r.committed = false) :
    Tallied (committedState s r) r.state (requests.set i { r with committed := true }) := by
  obtain ⟨hactive, hmembers, -, -, hpending⟩ := committedState_frame s r
  obtain ⟨hget', hkeys⟩ := h.decrementPending { r with committed := true } hget hheld hopen (Or.inl rfl)
  have hlive : ∀ x, liveAt x { r with committed := true } = liveAt x r := fun _ => rfl
  refine ⟨?_, ?_, ?_, ?_, ?_⟩
  · rw [hactive, h.active, tally_set hget, hlive]
    omega
  · intro user
    have hmember : memberAt r.state user { r with committed := true } = memberAt r.state user r := rfl
    rw [hmembers, h.members, tally_set hget, hmember]
    omega
  · rw [hpending]
    exact hget'
  · rw [hmembers]
    exact h.memberKeys
  · rw [hpending]
    exact hkeys

lemma Counted.commit (h : Counted c requests) (hget : requests[i]? = some r) :
    Counted (TrafficModel.commit c r).1 (requests.set i (TrafficModel.commit c r).2) := by
  by_cases hdone : r.committed = true ∨ r.released = true
  · rw [commit_of_done hdone, set_self hget]
    exact h
  · have hopen : r.committed = false ∧ r.released = false := by simpa using hdone
    have hr : r ∈ requests := List.mem_of_getElem? hget
    rw [commit_of_open hopen.2 hopen.1]
    exact h.set hget rfl rfl (fun hheld => hheld) rfl rfl rfl
      ((h.tallied r.state (h.lt r hr)).commit hget hopen.2 hopen.1)

lemma Tallied.leave (h : Tallied s r.state requests) (hget : requests[i]? = some r) (hheld : r.released = false) :
    Tallied (s.leave r) r.state (requests.set i { r with released := true }) := by
  have hr : r ∈ requests := List.mem_of_getElem? hget
  obtain ⟨hactive, -⟩ := leave_activeRequests s r
  have hmembers : (s.leave r).activeMembers = dropMember s.activeMembers r.credential := by
    unfold TrafficState.leave
    split_ifs
    · rfl
    · rw [← (decrementPending_frame s r).2.1]
  have hpending : (∀ minute, (s.leave r).pendingMinuteRequests.get minute =
      tally (pendingAt r.state minute) (requests.set i { r with released := true })) ∧
        (s.leave r).pendingMinuteRequests.Positive := by
    unfold TrafficState.leave
    split_ifs with hcommitted
    · refine ⟨?_, h.pendingKeys⟩
      intro minute
      have hbefore : pendingAt r.state minute r = false := by simp [pendingAt, hcommitted]
      have hafter : pendingAt r.state minute { r with released := true } = false := by simp [pendingAt, liveAt]
      rw [h.pending, tally_set hget, hbefore, hafter]
      simp
    · exact h.decrementPending { r with released := true } hget hheld (by simpa using hcommitted) (Or.inr rfl)
  have hlive : liveAt r.state r = true := by simp [liveAt, hheld]
  have hafter : liveAt r.state { r with released := true } = false := by simp [liveAt]
  refine ⟨?_, ?_, hpending.1, ?_, hpending.2⟩
  · rw [hactive, h.active, tally_set hget, hlive, hafter]
    simp
  · intro user
    have hbefore : memberAt r.state user r = decide (r.user = some user) := by simp [memberAt, hlive]
    have hgone : memberAt r.state user { r with released := true } = false := by simp [memberAt, hafter]
    rw [hmembers, tally_set hget, hbefore, hgone]
    unfold dropMember Request.user
    cases r.credential with
    | none => simp [h.members]
    | some credential =>
      dsimp only
      rw [Counter.get_prune, Counter.get_add, h.members]
      by_cases heq : user = credential.caller.userID
      · simp [heq]
        omega
      · simp [heq, Ne.symm heq]
  · rw [hmembers]
    cases hcredential : r.credential with
    | none => exact h.memberKeys
    | some credential =>
      refine h.memberKeys.drop_one _ ?_
      rw [h.members]
      refine tally_pos hr ?_
      simp [memberAt, hlive, Request.user, hcredential]

lemma Counted.release (h : Counted c requests) (hget : requests[i]? = some r) (hheld : r.released = false)
    (hw : Wrote c c' r.state ((c.heap r.state).leave r)) :
    Counted c' (requests.set i { r with released := true }) := by
  have hr : r ∈ requests := List.mem_of_getElem? hget
  exact h.set hget rfl rfl (fun hheld' => by cases hheld') hw.states hw.nextState hw.heap
    ((h.tallied r.state (h.lt r hr)).leave hget hheld)

end Callbacks

section Flags

variable {c c' c₁ c₂ c₃ : Controller} {o : StateRef} {s : TrafficState}

/-- A critical section of a request, as a call of `quiesce` sees it: the flags stay, a flagged state keeps its
channel and gets no request, and the channels it may wait on are only closed. -/
structure Calm (c c' : Controller) : Prop where
  next : c.nextState ≤ c'.nextState
  flags : ∀ o < c.nextState, (c'.heap o).quiescing = (c.heap o).quiescing
  fresh : ∀ o, c.nextState ≤ o → o < c'.nextState → (c'.heap o).quiescing = false
  states : ∀ a o, c.states a = some o → (c.heap o).quiescing = true → c'.states a = some o
  idle : ∀ o < c.nextState, (c.heap o).quiescing = true → (c'.heap o).idle = (c.heap o).idle ∧
    ((c.heap o).activeRequests = 0 → (c'.heap o).activeRequests = 0)
  channels : c.nextChannel ≤ c'.nextChannel
  shut : ∀ ch < c.nextChannel, c.closed ch = true → c'.closed ch = true
  changed : c'.changed = c.changed ∨ c'.closed c.changed = true

lemma Calm.refl (c : Controller) : Calm c c :=
  ⟨le_rfl, fun _ _ => rfl, fun _ hle hlt => absurd hlt (not_lt.mpr hle), fun _ _ h _ => h, fun _ _ _ => ⟨rfl, id⟩, le_rfl,
    fun _ _ h => h, Or.inl rfl⟩

lemma Calm.trans (hW : Wired c₁) (h : Calm c₁ c₂) (h' : Calm c₂ c₃) : Calm c₁ c₃ := by
  refine ⟨h.next.trans h'.next, ?_, ?_, ?_, ?_, h.channels.trans h'.channels, ?_, ?_⟩
  · intro o ho
    rw [h'.flags o (ho.trans_le h.next), h.flags o ho]
  · intro o hle hlt
    by_cases hmid : o < c₂.nextState
    · rw [h'.flags o hmid]
      exact h.fresh o hle hmid
    · exact h'.fresh o (not_lt.mp hmid) hlt
  · intro a o hstate hflag
    refine h'.states a o (h.states a o hstate hflag) ?_
    rw [h.flags o (hW.states_lt a o hstate)]
    exact hflag
  · intro o ho hflag
    obtain ⟨hidle, hactive⟩ := h.idle o ho hflag
    obtain ⟨hidle', hactive'⟩ := h'.idle o (ho.trans_le h.next) (by rw [h.flags o ho]; exact hflag)
    exact ⟨hidle'.trans hidle, fun hzero => hactive' (hactive hzero)⟩
  · intro ch hch hshut
    exact h'.shut ch (hch.trans_le h.channels) (h.shut ch hch hshut)
  · rcases h.changed with heq | hshut
    · rcases h'.changed with heq' | hshut'
      · exact Or.inl (heq'.trans heq)
      · exact Or.inr (heq ▸ hshut')
    · exact Or.inr (h'.shut _ (hW.changed_lt.trans_le h.channels) hshut)

lemma calm_cleanup (c : Controller) (now : ℤ) : Calm c (c.cleanup now) := by
  unfold Controller.cleanup
  split_ifs
  · refine ⟨le_rfl, fun _ _ => rfl, fun _ hle hlt => absurd hlt (not_lt.mpr hle), ?_, fun _ _ _ => ⟨rfl, id⟩, le_rfl,
      fun _ _ h => h, Or.inl rfl⟩
    intro a o hstate hflag
    refine Option.filter_eq_some_iff.mpr ⟨hstate, ?_⟩
    simp [TrafficState.stale, hflag]
  · exact Calm.refl c

lemma calm_findState (c : Controller) (account : String) : Calm c (c.findState account).1 := by
  cases hlookup : c.states account with
  | some o =>
    rw [findState_of_some hlookup]
    exact Calm.refl c
  | none =>
    obtain ⟨-, hnext, hheap, hstates, hchanged, hclosed, hchannels, -⟩ := findState_of_none hlookup
    refine ⟨hnext ▸ Nat.le_succ _, ?_, ?_, ?_, ?_, hchannels ▸ Nat.le_succ _, ?_, Or.inl hchanged⟩
    · intro o ho
      rw [hheap, Function.update_of_ne ho.ne]
    · intro o hle hlt
      have heq : o = c.nextState := le_antisymm (Nat.le_of_lt_succ (hnext ▸ hlt : o < c.nextState + 1)) hle
      rw [hheap, heq, Function.update_self]
      rfl
    · intro a o hstate _
      have hne : a ≠ account := by
        intro heq
        rw [heq, hlookup] at hstate
        cases hstate
      rw [hstates, Function.update_of_ne hne]
      exact hstate
    · intro o ho _
      rw [hheap, Function.update_of_ne ho.ne]
      exact ⟨rfl, id⟩
    · intro ch hch hshut
      rw [hclosed, Function.update_of_ne hch.ne]
      exact hshut

/-- A write to a state that leaves its flag and its channel. -/
lemma calm_put (hflag : s.quiescing = (c.heap o).quiescing) (hidle : s.idle = (c.heap o).idle)
    (hactive : s.activeRequests = (c.heap o).activeRequests) : Calm c (c.put o s) := by
  refine ⟨le_rfl, ?_, fun _ hle hlt => absurd hlt (not_lt.mpr hle), fun _ _ h _ => h, ?_, le_rfl, fun _ _ h => h, Or.inl rfl⟩
  · intro x _
    rw [put_heap]
    split_ifs with hx
    · rw [hx]
      exact hflag
    · rfl
  · intro x _ _
    rw [put_heap]
    split_ifs with hx
    · rw [hx, hactive]
      exact ⟨hidle, id⟩
    · exact ⟨rfl, id⟩

/-- The same with a signal, on a state that is not flagged or has requests in flight. -/
lemma calm_of_wrote (hw : Wrote c c' o s) (hflag : s.quiescing = (c.heap o).quiescing)
    (hfree : (c.heap o).quiescing = true → s.idle = (c.heap o).idle ∧ (c.heap o).activeRequests ≠ 0) : Calm c c' := by
  refine ⟨hw.nextState.ge, ?_, ?_, ?_, ?_, hw.channels, hw.shut, Or.inr hw.woken⟩
  · intro x _
    rw [hw.heap, Function.update_apply]
    split_ifs with hx
    · rw [hx]
      exact hflag
    · rfl
  · intro x hle hlt
    rw [hw.nextState] at hlt
    exact absurd hlt (not_lt.mpr hle)
  · intro a x hstate _
    rw [hw.states]
    exact hstate
  · intro x _ hquiescing
    rw [hw.heap, Function.update_apply]
    split_ifs with hx
    · rw [hx] at hquiescing ⊢
      obtain ⟨hidle, hactive⟩ := hfree hquiescing
      exact ⟨hidle, fun hzero => absurd hzero hactive⟩
    · exact ⟨rfl, id⟩

end Flags

section Windows

variable {c c' : Controller} {account : String}

/-- The minute that an account counts and its committed requests. An account without a state counts none. -/
def windowOf (c : Controller) (account : String) : ℤ × ℤ :=
  ((c.states account).map fun o => ((c.heap o).minuteStart, (c.heap o).minuteRequests)).getD (zeroTime, 0)

lemma windowOf_of_some {o : StateRef} (h : c.states account = some o) :
    windowOf c account = ((c.heap o).minuteStart, (c.heap o).minuteRequests) := by
  rw [windowOf, h]
  rfl

lemma windowOf_congr (hstates : c'.states account = c.states account)
    (hheap : ∀ o, c.states account = some o → (c'.heap o).minuteStart = (c.heap o).minuteStart ∧
      (c'.heap o).minuteRequests = (c.heap o).minuteRequests) : windowOf c' account = windowOf c account := by
  cases hlookup : c.states account with
  | none =>
    rw [windowOf, windowOf, hstates, hlookup]
    rfl
  | some o =>
    obtain ⟨hstart, hrequests⟩ := hheap o hlookup
    rw [windowOf_of_some hlookup, windowOf_of_some (hstates.trans hlookup), hstart, hrequests]

lemma windowOf_findState (hW : Wired c) (a account : String) : windowOf (c.findState a).1 account = windowOf c account := by
  cases hlookup : c.states a with
  | some o => rw [findState_of_some hlookup]
  | none =>
    obtain ⟨-, -, hheap, hstates, -⟩ := findState_of_none hlookup
    by_cases heq : account = a
    · subst heq
      have hnew : (c.findState account).1.states account = some c.nextState := by rw [hstates, Function.update_self]
      rw [windowOf_of_some hnew, hheap, Function.update_self, windowOf, hlookup]
      rfl
    · refine windowOf_congr (by rw [hstates, Function.update_of_ne heq]) ?_
      intro o ho
      rw [hheap, Function.update_of_ne (hW.states_lt account o ho).ne]
      exact ⟨rfl, rfl⟩

/-- A write to the state of an account. -/
lemma windowOf_write (hW : Wired c) {o : StateRef} {s : TrafficState} (hstate : c.states account = some o)
    (hstates : c'.states = c.states) (hheap : c'.heap = Function.update c.heap o s) (a : String) :
    windowOf c' a = if a = account then (s.minuteStart, s.minuteRequests) else windowOf c a := by
  split_ifs with heq
  · subst heq
    rw [windowOf_of_some (hstates ▸ hstate), hheap, Function.update_self]
  · refine windowOf_congr (by rw [hstates]) ?_
    intro x hx
    have hne : x ≠ o := fun h => heq (hW.states_inj a account o (h ▸ hx) hstate)
    rw [hheap, Function.update_of_ne hne]
    exact ⟨rfl, rfl⟩

/-- What an arrival does to the window. -/
def arriveWindow (w : ℤ × ℤ) (now : ℤ) (countRPM : Bool) : ℤ × ℤ :=
  if countRPM ∧ w.1 ≠ truncate now then (truncate now, 0) else w

lemma arrive_window (s : TrafficState) (now : ℤ) (countRPM : Bool) :
    ((s.arrive now countRPM).minuteStart, (s.arrive now countRPM).minuteRequests) =
      arriveWindow (s.minuteStart, s.minuteRequests) now countRPM := by
  unfold TrafficState.arrive arriveWindow
  dsimp only
  split_ifs <;> rfl

end Windows

section Arrivals

variable {c : Controller} {requests : List Request} {R : String → HistoryIntegral.Recorder}

lemma history_found (c : Controller) (account : String) (now : ℤ) :
    ((c.cleanup now).findState account).1.history = c.history := by
  have hcleanup : (c.cleanup now).history = c.history := by
    unfold Controller.cleanup
    split_ifs <;> rfl
  cases hlookup : (c.cleanup now).states account with
  | some o => rw [findState_of_some hlookup, hcleanup]
  | none => rw [(findState_of_none hlookup).2.2.2.2.2.2.2, hcleanup]

lemma arrive_frame (s : TrafficState) (now : ℤ) (countRPM : Bool) :
    (s.arrive now countRPM).activeRequests = s.activeRequests ∧ (s.arrive now countRPM).activeMembers = s.activeMembers ∧
      (s.arrive now countRPM).pendingMinuteRequests = s.pendingMinuteRequests ∧ (s.arrive now countRPM).idle = s.idle ∧
      (s.arrive now countRPM).quiescing = s.quiescing := by
  unfold TrafficState.arrive
  dsimp only
  split_ifs <;> exact ⟨rfl, rfl, rfl, rfl, rfl⟩

/-- The state that an arrival on an account reads. -/
def found (c : Controller) (account : String) (now : ℤ) : TrafficState :=
  ((c.cleanup now).findState account).1.heap ((c.cleanup now).findState account).2

lemma found_window (hW : Wired c) (account : String) (now : ℤ) :
    ((found c account now).minuteStart, (found c account now).minuteRequests) = windowOf (c.cleanup now) account := by
  obtain ⟨-, hstate⟩ := (hW.cleanup now).findState account
  rw [← windowOf_findState (hW.cleanup now) account account, windowOf_of_some hstate]
  rfl

/-- An arrival is refused without a trace in the counters, or admitted after its checks. -/
lemma prepareRequest_spec (hW : Wired c) (hT : Tracked c.history R) (hC : Counted c requests) (account : String)
    (maxConcurrency rpmLimit now : ℤ) (countRPM : Bool) (credential : Option Credential) :
    ∃ c' result R', prepareRequest c account maxConcurrency rpmLimit now countRPM credential = some (c', result) ∧
      Wired c' ∧ Tracked c'.history R' ∧ Calm c c' ∧
      (∀ a, windowOf c' a = if a = account ∧ (found c account now).quiescing = false then
        arriveWindow (windowOf (c.cleanup now) account) now countRPM else windowOf (c.cleanup now) a) ∧
      match result with
      | .error e => SameCounts c c' ∧ ((found c account now).quiescing = true ∧ e = .accountUnavailable ∨
          ((found c account now).arrive now countRPM).check maxConcurrency rpmLimit now countRPM credential = .error e)
      | .ok r => Counted c' (requests ++ [r]) ∧ (found c account now).quiescing = false ∧
          (∃ o, r = ⟨account, o, truncate now, countRPM, credential, false, false⟩) ∧
          ((found c account now).arrive now countRPM).check maxConcurrency rpmLimit now countRPM credential = .ok () := by
  obtain ⟨hW₂, hstate⟩ := (hW.cleanup now).findState account
  have hsame₂ := (sameCounts_cleanup c now).trans hW (sameCounts_findState (c.cleanup now) account)
  have hcalm₂ := (calm_cleanup c now).trans hW (calm_findState (c.cleanup now) account)
  have hT₂ : Tracked ((c.cleanup now).findState account).1.history R := by
    rw [history_found]
    exact hT
  have hwindow₂ : ∀ a, windowOf ((c.cleanup now).findState account).1 a = windowOf (c.cleanup now) a :=
    windowOf_findState (hW.cleanup now) account
  unfold prepareRequest found
  dsimp only
  generalize hc₂ : ((c.cleanup now).findState account).1 = c₂ at *
  generalize ((c.cleanup now).findState account).2 = o at *
  have ho := hW₂.states_lt account o hstate
  by_cases hflag : (c₂.heap o).quiescing = true
  · refine ⟨c₂, .error .accountUnavailable, R, ?_, hW₂, hT₂, hcalm₂, ?_, hsame₂, Or.inl ⟨hflag, rfl⟩⟩
    · rw [if_pos hflag]
    · intro a
      rw [hwindow₂, if_neg]
      simp [hflag]
  · obtain ⟨hactive, hmembers, hpending, hidle, hquiescing⟩ := arrive_frame (c₂.heap o) now countRPM
    have hW₃ := hW₂.put (s := (c₂.heap o).arrive now countRPM) hidle hactive
    have hsame₃ := hsame₂.trans hW (sameCounts_put (c := c₂) (o := o) hactive hmembers hpending)
    have hcalm₃ := hcalm₂.trans hW (calm_put (c := c₂) (o := o) hquiescing hidle hactive)
    have hheap : (c₂.put o ((c₂.heap o).arrive now countRPM)).heap o = (c₂.heap o).arrive now countRPM := by
      rw [put_heap, if_pos rfl]
    have hfree : (c₂.heap o).quiescing = false := by simpa using hflag
    -- What every end of the section has written by now.
    have hwindow₃ : ∀ c' s', c'.states = c₂.states → c'.heap = Function.update c₂.heap o s' →
        (s'.minuteStart, s'.minuteRequests) = ((c₂.heap o).arrive now countRPM |>.minuteStart,
          (c₂.heap o).arrive now countRPM |>.minuteRequests) →
        ∀ a, windowOf c' a = if a = account ∧ (c₂.heap o).quiescing = false then
          arriveWindow (windowOf (c.cleanup now) account) now countRPM else windowOf (c.cleanup now) a := by
      intro c' s' hstates hheap hs' a
      rw [windowOf_write hW₂ hstate hstates hheap a, hs', arrive_window, ← hwindow₂ account, ← hwindow₂ a,
        windowOf_of_some hstate, hfree]
      simp
    rw [if_neg hflag]
    cases hcheck : ((c₂.heap o).arrive now countRPM).check maxConcurrency rpmLimit now countRPM credential with
    | error e =>
      exact ⟨_, .error e, R, rfl, hW₃, hT₂, hcalm₃, hwindow₃ _ _ rfl rfl rfl, hsame₃, Or.inr rfl⟩
    | ok u =>
      have hC₃ := hC.same hsame₃
      have hpos : 0 ≤ ((c₂.put o ((c₂.heap o).arrive now countRPM)).heap o).activeRequests := by
        rw [(hC₃.tallied o ho).active]
        exact tally_nonneg ..
      obtain ⟨c₄, idle, R', hcall, hW₄, hT₄, hwrote⟩ := admit_spec hW₃ hT₂ ho hpos now countRPM credential
      have hheap₄ : c₄.heap = Function.update c₂.heap o
          (((c₂.heap o).arrive now countRPM).enter idle now countRPM credential) := by
        rw [hwrote.heap, hheap]
        exact Function.update_idem ..
      refine ⟨c₄, .ok ⟨account, o, truncate now, countRPM, credential, false, false⟩, R', ?_, hW₄, hT₄, ?_,
        hwindow₃ c₄ _ hwrote.states hheap₄ rfl, hC₃.enters hstate ho hwrote, hfree, ⟨o, rfl⟩, rfl⟩
      · dsimp only
        rw [hcall, Option.map_some]
      · refine hcalm₃.trans hW (calm_of_wrote hwrote rfl ?_)
        intro hset
        rw [hheap, hquiescing] at hset
        exact absurd hset hflag

end Arrivals

end ShareSub.TrafficAccounting

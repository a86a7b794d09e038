import Mathlib
import ShareSub.TrafficAccounting

/-!
# The calls that quiesce accounts

A flag belongs to exactly one call, which has it on the state of one of its accounts, in the order of the
accounts. What a call knows of the controller while it waits is stated per phase and kept by the
critical sections of everyone else.
-/
namespace ShareSub.TrafficQuiescence

open HistoryModel HistorySystem TrafficModel TrafficWiring TrafficAccounting

section Accounts

lemma mem_unique (l ids : List String) (a : String) :
    a ∈ l.foldl (fun ids id => if id = "" ∨ id ∈ ids then ids else ids ++ [id]) ids ↔ a ∈ ids ∨ a ∈ l ∧ a ≠ "" := by
  induction l generalizing ids with
  | nil => simp
  | cons x l ih =>
    rw [List.foldl_cons, ih]
    split_ifs with hskip
    · by_cases heq : a = x
      · subst heq
        have hmem : a ≠ "" → a ∈ ids := hskip.resolve_left
        by_cases ha : a = ""
        · simp [ha]
        · simp [hmem ha]
      · simp [heq]
    · have hx : x ≠ "" := fun h => hskip (Or.inl h)
      by_cases heq : a = x
      · simp [heq, hx]
      · simp [heq]

lemma nodup_unique (l ids : List String) (h : ids.Nodup) :
    (l.foldl (fun ids id => if id = "" ∨ id ∈ ids then ids else ids ++ [id]) ids).Nodup := by
  induction l generalizing ids with
  | nil => exact h
  | cons x l ih =>
    rw [List.foldl_cons]
    split_ifs with hskip
    · exact ih ids h
    · refine ih _ (List.nodup_append.mpr ⟨h, List.nodup_singleton x, ?_⟩)
      intro a ha b hb
      rw [List.mem_singleton.mp hb]
      intro heq
      exact hskip (Or.inr (heq ▸ ha))

/-- Every account that is listed, whatever the duplicates, and no empty one. -/
lemma mem_quiesceIDs {l : List String} {a : String} : a ∈ quiesceIDs l ↔ a ∈ l ∧ a ≠ "" := by
  rw [quiesceIDs, List.mem_mergeSort, mem_unique]
  simp

/-- The accounts are taken in a strict order. -/
lemma sorted_quiesceIDs (l : List String) : (quiesceIDs l).Pairwise (· < ·) := by
  have hsorted : (quiesceIDs l).Pairwise (· ≤ ·) := List.pairwise_mergeSort' (· ≤ ·) _
  have hnodup : (quiesceIDs l).Nodup := by
    rw [quiesceIDs, (List.mergeSort_perm _ _).nodup_iff]
    exact nodup_unique l [] List.nodup_nil
  exact (hsorted.and hnodup).imp fun h => lt_of_le_of_ne h.1 h.2

end Accounts

section Calls

/-- A state that a call has flagged and not locked yet, or is about to give back. -/
def underway (q : Quiescer) : List (String × StateRef) :=
  match q.phase, q.ids with
  | .awaitIdle o _, account :: _ => [(account, o)]
  | .undoing o, account :: _ => [(account, o)]
  | _, _ => []

/-- The accounts and the states that a call has flagged. -/
def flagged (q : Quiescer) : List (String × StateRef) := q.locked ++ underway q

def marks (q : Quiescer) : List StateRef := (flagged q).map Prod.snd

/-- A call works on what it was asked for, and one of `quiesceBinding` was asked for what it has read. -/
structure Engaged (q : Quiescer) : Prop where
  listed : q.locked.map Prod.fst ++ q.ids = quiesceIDs q.accountIDs
  bound : ∀ planID additional, q.goal = .binding planID additional →
    ∃ plan, q.plan = some plan ∧ q.accountIDs = plan.accountID :: additional

/-- The binding that a call returns is the one it has read first. -/
def Confirmed (q : Quiescer) : Option Binding → Prop
  | none => q.goal = .accounts
  | some current => ∃ planID additional plan, q.goal = .binding planID additional ∧ q.plan = some plan ∧
      current.id = planID ∧ current.accountID = plan.accountID ∧ current.generation = plan.generation

/-- A channel of changes that is still open is the current one, and then the account that a call waits for is
flagged. -/
def Awaits (c : Controller) (changed : Channel) (account : String) : Prop :=
  c.closed changed = true ∨ changed = c.changed ∧ ∃ o, c.states account = some o ∧ (c.heap o).quiescing = true

/-- What a call relies on, by phase. -/
def Placed (c : Controller) (q : Quiescer) : Prop :=
  match q.phase with
  | .reading => q.locked = [] ∧ ∃ planID additional, q.goal = .binding planID additional
  | .acquiring => Engaged q
  | .awaitIdle o idle => Engaged q ∧ q.ids ≠ [] ∧ (c.heap o).idle = idle
  | .awaitChanged changed => Engaged q ∧ changed < c.nextChannel ∧ ∃ account rest, q.ids = account :: rest ∧
      Awaits c changed account
  | .undoing _ => q.locked = [] ∧ q.ids ≠ []
  | .rereading => Engaged q ∧ q.ids = [] ∧ ∃ planID additional, q.goal = .binding planID additional
  | .dropping _ => ∃ planID additional, q.goal = .binding planID additional
  | .returned current => Engaged q ∧ q.ids = [] ∧ Confirmed q current
  | .released => q.locked = []
  | .failed => q.locked = []

structure Proper (c : Controller) (q : Quiescer) : Prop where
  mapped : ∀ x ∈ flagged q, c.states x.1 = some x.2
  idle : ∀ x ∈ q.locked, (c.heap x.2).activeRequests = 0
  sorted : (q.locked.map Prod.fst ++ q.ids).Pairwise (· < ·)
  placed : Placed c q

/-- Every flag is that of one call. -/
structure Held (c : Controller) (qs : List Quiescer) : Prop where
  proper : ∀ q ∈ qs, Proper c q
  flags : ∀ o < c.nextState, (c.heap o).quiescing = true ↔ ∃ q ∈ qs, o ∈ marks q
  once : (qs.flatMap marks).Nodup

variable {c c' : Controller} {q q' : Quiescer} {qs : List Quiescer} {j : ℕ}

lemma Proper.lt (hW : Wired c) (h : Proper c q) {o : StateRef} (ho : o ∈ marks q) : o < c.nextState := by
  obtain ⟨x, hx, rfl⟩ := List.mem_map.mp ho
  exact hW.states_lt x.1 x.2 (h.mapped x hx)

lemma Held.quiescing (hW : Wired c) (hH : Held c qs) (hq : q ∈ qs) {o : StateRef} (ho : o ∈ marks q) :
    (c.heap o).quiescing = true :=
  (hH.flags o ((hH.proper q hq).lt hW ho)).mpr ⟨q, hq, ho⟩

lemma mem_marks_of_locked {x : String × StateRef} (hx : x ∈ q.locked) : x.2 ∈ marks q :=
  List.mem_map_of_mem (List.mem_append_left _ hx)

lemma Placed.carry (h : Placed c q) (hidle : ∀ o ∈ marks q, (c'.heap o).idle = (c.heap o).idle)
    (hchannels : c.nextChannel ≤ c'.nextChannel)
    (hawaits : ∀ changed < c.nextChannel, ∀ account, Awaits c changed account → Awaits c' changed account) :
    Placed c' q := by
  cases hphase : q.phase with
  | awaitIdle o idle =>
    simp only [Placed, hphase] at h ⊢
    obtain ⟨hengaged, hids, hch⟩ := h
    obtain ⟨account, rest, hcons⟩ := List.exists_cons_of_ne_nil hids
    have ho : o ∈ marks q := by simp [marks, flagged, underway, hphase, hcons]
    exact ⟨hengaged, hids, (hidle o ho).trans hch⟩
  | awaitChanged changed =>
    simp only [Placed, hphase] at h ⊢
    obtain ⟨hengaged, hlt, account, rest, hcons, hwaits⟩ := h
    exact ⟨hengaged, hlt.trans_le hchannels, account, rest, hcons, hawaits changed hlt account hwaits⟩
  | reading => simpa only [Placed, hphase] using h
  | acquiring => simpa only [Placed, hphase] using h
  | undoing o => simpa only [Placed, hphase] using h
  | rereading => simpa only [Placed, hphase] using h
  | dropping retry => simpa only [Placed, hphase] using h
  | returned current => simpa only [Placed, hphase] using h
  | released => simpa only [Placed, hphase] using h
  | failed => simpa only [Placed, hphase] using h

/-- The critical sections of requests and of the history keep what the calls rely on. -/
lemma Held.calm (hW : Wired c) (hH : Held c qs) (h : Calm c c') : Held c' qs := by
  refine ⟨?_, ?_, hH.once⟩
  · intro q hq
    have hproper := hH.proper q hq
    refine ⟨?_, ?_, hproper.sorted, ?_⟩
    · intro x hx
      exact h.states x.1 x.2 (hproper.mapped x hx) (hH.quiescing hW hq (List.mem_map_of_mem hx))
    · intro x hx
      have ho := mem_marks_of_locked hx
      exact (h.idle x.2 (hproper.lt hW ho) (hH.quiescing hW hq ho)).2 (hproper.idle x hx)
    · refine hproper.placed.carry ?_ h.channels ?_
      · intro o ho
        exact (h.idle o (hproper.lt hW ho) (hH.quiescing hW hq ho)).1
      · intro changed hlt account hwaits
        rcases hwaits with hshut | ⟨rfl, o, hstate, hflag⟩
        · exact Or.inl (h.shut changed hlt hshut)
        · rcases h.changed with heq | hshut
          · refine Or.inr ⟨heq.symm, o, h.states account o hstate hflag, ?_⟩
            rw [h.flags o (hW.states_lt account o hstate)]
            exact hflag
          · exact Or.inl hshut
  · intro o ho
    by_cases hold : o < c.nextState
    · rw [h.flags o hold]
      exact hH.flags o hold
    · rw [h.fresh o (not_lt.mp hold) ho]
      refine iff_of_false Bool.false_ne_true ?_
      rintro ⟨q, hq, hmem⟩
      exact hold ((hH.proper q hq).lt hW hmem)

/-- What is left of a controller when flags change. -/
structure Reflagged (c c' : Controller) : Prop where
  states : c'.states = c.states
  nextState : c'.nextState = c.nextState
  history : c'.history = c.history
  heap : ∀ o, c'.heap o = { c.heap o with quiescing := (c'.heap o).quiescing }
  channels : c.nextChannel ≤ c'.nextChannel
  shut : ∀ ch < c.nextChannel, c.closed ch = true → c'.closed ch = true

lemma Reflagged.refl (c : Controller) : Reflagged c c := ⟨rfl, rfl, rfl, fun _ => rfl, le_rfl, fun _ _ h => h⟩

lemma Reflagged.sameCounts (h : Reflagged c c') : SameCounts c c' := by
  refine ⟨h.nextState.ge, ?_, ?_, ?_⟩
  · intro o _
    rw [h.heap o]
    exact ⟨rfl, rfl, rfl⟩
  · intro o hle hlt
    rw [h.nextState] at hlt
    exact absurd hlt (not_lt.mpr hle)
  · intro a o hstate _
    rw [h.states]
    exact hstate

lemma Reflagged.windowOf (h : Reflagged c c') (account : String) :
    TrafficAccounting.windowOf c' account = TrafficAccounting.windowOf c account := by
  refine windowOf_congr (by rw [h.states]) ?_
  intro o _
  rw [h.heap o]
  exact ⟨rfl, rfl⟩

/-- One call is carried on and its flags change; the others are left with theirs. -/
lemma Held.replace (hW : Wired c) (hH : Held c qs) (hget : qs[j]? = some q) (hr : Reflagged c c')
    (hflags : ∀ o < c.nextState, (c'.heap o).quiescing = true ↔ (c.heap o).quiescing = true ∧ o ∉ marks q ∨ o ∈ marks q')
    (hnew : ∀ o ∈ marks q', o ∈ marks q ∨ (c.heap o).quiescing = false) (hnodup : (marks q').Nodup)
    (hchanged : (c'.changed = c.changed ∧ ∀ o ∈ marks q, o ∈ marks q') ∨ c'.closed c.changed = true)
    (hproper : Proper c' q') : Held c' (qs.set j q') := by
  obtain ⟨hlt, hq⟩ := List.getElem?_eq_some_iff.mp hget
  obtain ⟨before, after, hsplit, hset⟩ : ∃ before after, qs = before ++ q :: after ∧
      qs.set j q' = before ++ q' :: after := by
    refine ⟨qs.take j, qs.drop (j + 1), ?_, List.set_eq_take_append_cons_drop.trans (if_pos hlt)⟩
    rw [← hq, List.getElem_cons_drop, List.take_append_drop]
  have hmem : ∀ x ∈ before ++ after, x ∈ qs := by
    intro x hx
    rw [hsplit]
    rcases List.mem_append.mp hx with hx | hx
    · exact List.mem_append_left _ hx
    · exact List.mem_append_right _ (List.mem_cons_of_mem q hx)
  have hone := hH.once
  rw [hsplit, List.flatMap_append, List.flatMap_cons] at hone
  have hperm : (before.flatMap marks ++ (marks q ++ after.flatMap marks)).Perm
      (marks q ++ (before ++ after).flatMap marks) := by
    rw [List.flatMap_append, ← List.append_assoc, ← List.append_assoc]
    exact List.perm_append_comm.append_right _
  obtain ⟨-, hothers, hdisjoint⟩ := List.nodup_append.mp (hperm.nodup hone)
  -- No other call has a flag of this one, before or after.
  have hapart : ∀ x ∈ before ++ after, ∀ o ∈ marks x, o ∉ marks q ∧ o ∉ marks q' := by
    intro x hx o ho
    have hold : o ∉ marks q := by
      intro hmine
      exact hdisjoint o hmine o (List.mem_flatMap.mpr ⟨x, hx, ho⟩) rfl
    refine ⟨hold, ?_⟩
    intro hnext
    rcases hnew o hnext with hmine | hfree
    · exact hold hmine
    · rw [hH.quiescing hW (hmem x hx) ho] at hfree
      cases hfree
  refine ⟨?_, ?_, ?_⟩
  · intro x hx
    rw [hset] at hx
    have hcases : x = q' ∨ x ∈ before ++ after := by
      rcases List.mem_append.mp hx with hx | hx
      · exact Or.inr (List.mem_append_left _ hx)
      · rcases List.mem_cons.mp hx with hx | hx
        · exact Or.inl hx
        · exact Or.inr (List.mem_append_right _ hx)
    rcases hcases with rfl | hx
    · exact hproper
    · have hprop := hH.proper x (hmem x hx)
      refine ⟨?_, ?_, hprop.sorted, hprop.placed.carry ?_ hr.channels ?_⟩
      · intro y hy
        rw [hr.states]
        exact hprop.mapped y hy
      · intro y hy
        rw [hr.heap]
        exact hprop.idle y hy
      · intro o _
        rw [hr.heap]
      · intro changed hch account hwaits
        rcases hwaits with hshut | ⟨rfl, o, hstate, hflag⟩
        · exact Or.inl (hr.shut changed hch hshut)
        · rcases hchanged with ⟨heq, hkept⟩ | hshut
          · refine Or.inr ⟨heq.symm, o, by rw [hr.states]; exact hstate, ?_⟩
            rw [hflags o (hW.states_lt account o hstate)]
            by_cases hmine : o ∈ marks q
            · exact Or.inr (hkept o hmine)
            · exact Or.inl ⟨hflag, hmine⟩
          · exact Or.inl hshut
  · intro o ho
    rw [hr.nextState] at ho
    rw [hset, hflags o ho, hH.flags o ho]
    constructor
    · rintro (⟨⟨x, hx, hmark⟩, hnot⟩ | hmine)
      · rw [hsplit] at hx
        have hne : x ≠ q := fun heq => hnot (heq ▸ hmark)
        rcases List.mem_append.mp hx with hx | hx
        · exact ⟨x, List.mem_append_left _ hx, hmark⟩
        · exact ⟨x, List.mem_append_right _ (List.mem_cons_of_mem q' ((List.mem_cons.mp hx).resolve_left hne)), hmark⟩
      · exact ⟨q', List.mem_append_right _ List.mem_cons_self, hmine⟩
    · rintro ⟨x, hx, hmark⟩
      rcases List.mem_append.mp hx with hx | hx
      · have hx := List.mem_append_left after hx
        exact Or.inl ⟨⟨x, hmem x hx, hmark⟩, (hapart x hx o hmark).1⟩
      · rcases List.mem_cons.mp hx with rfl | hx
        · exact Or.inr hmark
        · have hx := List.mem_append_right before hx
          exact Or.inl ⟨⟨x, hmem x hx, hmark⟩, (hapart x hx o hmark).1⟩
  · rw [hset, List.flatMap_append, List.flatMap_cons]
    have hperm' : (before.flatMap marks ++ (marks q' ++ after.flatMap marks)).Perm
        (marks q' ++ (before ++ after).flatMap marks) := by
      rw [List.flatMap_append, ← List.append_assoc, ← List.append_assoc]
      exact List.perm_append_comm.append_right _
    refine hperm'.symm.nodup (List.nodup_append.mpr ⟨hnodup, hothers, ?_⟩)
    intro o hmine o' hother heq
    obtain ⟨x, hx, hmark⟩ := List.mem_flatMap.mp hother
    exact (hapart x hx o' hmark).2 (heq ▸ hmine)

end Calls

section Turns

variable {c c' : Controller} {q q' : Quiescer} {qs : List Quiescer} {j : ℕ} {o : StateRef}

lemma Held.nodup_marks (hH : Held c qs) (hq : q ∈ qs) : (marks q).Nodup := (List.nodup_flatMap.mp hH.once).1 q hq

/-- A call goes on with the same flags, and the controller is left as it is. -/
lemma Held.update (hW : Wired c) (hH : Held c qs) (hget : qs[j]? = some q) (hmarks : marks q' = marks q)
    (hproper : Proper c q') : Held c (qs.set j q') := by
  have hq := List.mem_of_getElem? hget
  refine hH.replace hW hget (.refl c) ?_ ?_ ?_ ?_ hproper
  · intro o ho
    rw [hmarks]
    constructor
    · intro hflag
      by_cases hmine : o ∈ marks q
      · exact Or.inr hmine
      · exact Or.inl ⟨hflag, hmine⟩
    · rintro (h | h)
      · exact h.1
      · exact hH.quiescing hW hq h
  · intro o ho
    exact Or.inl (hmarks ▸ ho)
  · rw [hmarks]
    exact hH.nodup_marks hq
  · exact Or.inl ⟨rfl, fun o ho => hmarks ▸ ho⟩

lemma flag_spec (hW : Wired c) (o : StateRef) (b : Bool) :
    ∃ c', (c.flag o b).signalChangedLocked = some c' ∧ Wired c' ∧ Reflagged c c' ∧ c'.closed c.changed = true ∧
      ∀ x, (c'.heap x).quiescing = if x = o then b else (c.heap x).quiescing := by
  have hW₁ : Wired (c.flag o b) := hW.put rfl rfl
  obtain ⟨c', hsignal, hW', hsig⟩ := hW₁.signal
  have hheap : ∀ x, c'.heap x = { c.heap x with quiescing := if x = o then b else (c.heap x).quiescing } := by
    intro x
    rw [hsig.heap, Controller.flag, put_heap]
    split_ifs with hx
    · rw [hx]
    · rfl
  refine ⟨c', hsignal, hW', ⟨hsig.states, hsig.nextState, hsig.history, ?_, hsig.channels, ?_⟩, hsig.woken, ?_⟩
  · intro x
    rw [hheap x]
  · intro ch hch hold
    exact hsig.shut hch hold
  · intro x
    rw [hheap x]

lemma foldl_flag (states : List StateRef) (hW : Wired c) :
    Wired (states.foldl (fun c o => c.flag o false) c) ∧
      (states.foldl (fun c o => c.flag o false) c).changed = c.changed ∧
      Reflagged c (states.foldl (fun c o => c.flag o false) c) ∧
      ∀ x, ((states.foldl (fun c o => c.flag o false) c).heap x).quiescing =
        if x ∈ states then false else (c.heap x).quiescing := by
  induction states generalizing c with
  | nil => exact ⟨hW, rfl, .refl c, fun x => by simp⟩
  | cons o states ih =>
    have hW₁ : Wired (c.flag o false) := hW.put rfl rfl
    have hheap₁ : ∀ x, (c.flag o false).heap x =
        { c.heap x with quiescing := if x = o then false else (c.heap x).quiescing } := by
      intro x
      rw [Controller.flag, put_heap]
      split_ifs with hx
      · rw [hx]
      · rfl
    obtain ⟨hW', hchanged, hr, hflags⟩ := ih hW₁
    rw [List.foldl_cons]
    refine ⟨hW', hchanged, ⟨hr.states, hr.nextState, hr.history, ?_, hr.channels, hr.shut⟩, ?_⟩
    · intro x
      rw [hr.heap x, hheap₁]
    · intro x
      rw [hflags x, hheap₁]
      by_cases hx : x = o
      · simp [hx]
      · simp [hx]

lemma releaseQuiesced_spec (hW : Wired c) (states : List StateRef) :
    ∃ c', c.releaseQuiesced states = some c' ∧ Wired c' ∧ Reflagged c c' ∧ c'.closed c.changed = true ∧
      ∀ x, (c'.heap x).quiescing = if x ∈ states then false else (c.heap x).quiescing := by
  obtain ⟨hW₁, hchanged, hr, hflags⟩ := foldl_flag states hW
  obtain ⟨c', hsignal, hW', hsig⟩ := hW₁.signal
  refine ⟨c', hsignal, hW', ⟨hsig.states.trans hr.states, hsig.nextState.trans hr.nextState,
    hsig.history.trans hr.history, ?_, hr.channels.trans hsig.channels, ?_⟩, hchanged ▸ hsig.woken, ?_⟩
  · intro x
    rw [hsig.heap]
    exact hr.heap x
  · intro ch hch hold
    exact hsig.shut (hch.trans_le hr.channels) (hr.shut ch hch hold)
  · intro x
    rw [hsig.heap]
    exact hflags x

/-- What a turn of a call does. -/
def TurnOk (c : Controller) (qs : List Quiescer) (j : ℕ) (out : Option (Controller × Quiescer)) : Prop :=
  ∃ c' q', out = some (c', q') ∧ Wired c' ∧ c'.history = c.history ∧ SameCounts c c' ∧ Held c' (qs.set j q') ∧
    ∀ account, windowOf c' account = windowOf c account

lemma turnOk_update (hW : Wired c) (hH : Held c qs) (hget : qs[j]? = some q) (hmarks : marks q' = marks q)
    (hproper : Proper c q') : TurnOk c qs j (some (c, q')) :=
  ⟨c, q', rfl, hW, rfl, .of_heap rfl rfl rfl, hH.update hW hget hmarks hproper, fun _ => rfl⟩

lemma turnOk_idle (hW : Wired c) (hH : Held c qs) (hget : qs[j]? = some q) : TurnOk c qs j (some (c, q)) :=
  turnOk_update hW hH hget rfl (hH.proper q (List.mem_of_getElem? hget))

/-- A call gives its locked states back and keeps what is under way. -/
lemma turnOk_unlock (hW : Wired c) (hH : Held c qs) (hget : qs[j]? = some q) (phase : Phase)
    (hunder : underway { q with locked := [], phase := phase } = underway q)
    (hplaced : ∀ c, Placed c { q with locked := [], phase := phase }) : TurnOk c qs j (q.unlock c phase) := by
  have hq := List.mem_of_getElem? hget
  have hproper := hH.proper q hq
  have hmarks : marks { q with locked := [], phase := phase } = (underway q).map Prod.snd := by
    rw [marks, flagged, hunder, List.nil_append]
  have hnodup := hH.nodup_marks hq
  rw [marks, flagged, List.map_append] at hnodup
  obtain ⟨-, hnodup', hdisjoint⟩ := List.nodup_append.mp hnodup
  have hmem : ∀ o, o ∈ marks q ↔ o ∈ q.locked.map Prod.snd ∨ o ∈ (underway q).map Prod.snd := by
    intro o
    rw [marks, flagged, List.map_append, List.mem_append]
  obtain ⟨c', hrelease, hW', hr, hwoken, hflags⟩ := releaseQuiesced_spec hW (q.locked.map Prod.snd)
  refine ⟨c', { q with locked := [], phase := phase }, ?_, hW', hr.history, hr.sameCounts, ?_, hr.windowOf⟩
  · rw [Quiescer.unlock, hrelease, Option.map_some]
  · refine hH.replace hW hget hr ?_ ?_ ?_ (Or.inr hwoken) ⟨?_, ?_, ?_, hplaced c'⟩
    · intro o ho
      rw [hflags, hmarks, hmem]
      by_cases hlocked : o ∈ q.locked.map Prod.snd
      · have hnot : o ∉ (underway q).map Prod.snd := fun h => hdisjoint o hlocked o h rfl
        simp [hlocked, hnot]
      · rw [if_neg hlocked]
        constructor
        · intro hflag
          by_cases hmine : o ∈ (underway q).map Prod.snd
          · exact Or.inr hmine
          · exact Or.inl ⟨hflag, fun h => h.elim hlocked hmine⟩
        · rintro (h | h)
          · exact h.1
          · exact hH.quiescing hW hq ((hmem o).mpr (Or.inr h))
    · intro o ho
      rw [hmarks] at ho
      exact Or.inl ((hmem o).mpr (Or.inr ho))
    · rw [hmarks]
      exact hnodup'
    · intro x hx
      rw [flagged, hunder, List.nil_append] at hx
      rw [hr.states]
      exact hproper.mapped x (List.mem_append_right _ hx)
    · intro x hx
      cases hx
    · exact (List.pairwise_append.mp hproper.sorted).2.1

/-- A call only moves on to another phase. -/
lemma turnOk_phase (hW : Wired c) (hH : Held c qs) (hget : qs[j]? = some q) (phase : Phase)
    (hunder : underway { q with phase := phase } = underway q) (hplaced : Placed c { q with phase := phase }) :
    TurnOk c qs j (some (c, { q with phase := phase })) := by
  have hproper := hH.proper q (List.mem_of_getElem? hget)
  have hflagged : flagged { q with phase := phase } = flagged q := by rw [flagged, hunder, flagged]
  refine turnOk_update hW hH hget (by rw [marks, hflagged, marks]) ⟨?_, hproper.idle, hproper.sorted, hplaced⟩
  rw [hflagged]
  exact hproper.mapped

lemma Engaged.phase (h : Engaged q) (phase : Phase) : Engaged { q with phase := phase } := ⟨h.listed, h.bound⟩

/-- A call that starts has no flags. -/
lemma proper_begin (c : Controller) (q : Quiescer) (accountIDs : List String)
    (hbound : ∀ planID additional, q.goal = .binding planID additional →
      ∃ plan, q.plan = some plan ∧ accountIDs = plan.accountID :: additional) :
    Proper c (q.begin accountIDs) ∧ marks (q.begin accountIDs) = [] := by
  refine ⟨⟨?_, ?_, ?_, ?_⟩, rfl⟩
  · intro x hx
    cases hx
  · intro x hx
    cases hx
  · exact sorted_quiesceIDs accountIDs
  · exact ⟨rfl, hbound⟩

lemma turnOk_flag (hW : Wired c) (hH : Held c qs) (hget : qs[j]? = some q) (hphase : q.phase = .acquiring)
    {account : String} {rest : List String} (hids : q.ids = account :: rest) (hstate : c.states account = some o)
    (hfree : (c.heap o).quiescing = false) :
    TurnOk c qs j ((c.flag o true).signalChangedLocked.map fun c' =>
      (c', { q with phase := .awaitIdle o (c.heap o).idle })) := by
  have hq := List.mem_of_getElem? hget
  have hproper := hH.proper q hq
  have hplaced := hproper.placed
  simp only [Placed, hphase] at hplaced
  have hunder : underway q = [] := by simp [underway, hphase]
  have hmine : marks q = q.locked.map Prod.snd := by rw [marks, flagged, hunder, List.append_nil]
  have hnext : marks { q with phase := .awaitIdle o (c.heap o).idle } = q.locked.map Prod.snd ++ [o] := by
    rw [marks, flagged]
    simp [underway, hids]
  have hnot : o ∉ marks q := by
    intro hmark
    rw [hH.quiescing hW hq hmark] at hfree
    cases hfree
  obtain ⟨c', hsignal, hW', hr, hwoken, hflags⟩ := flag_spec hW o true
  refine ⟨c', { q with phase := .awaitIdle o (c.heap o).idle }, ?_, hW', hr.history, hr.sameCounts, ?_, hr.windowOf⟩
  · rw [hsignal, Option.map_some]
  · refine hH.replace hW hget hr ?_ ?_ ?_ (Or.inr hwoken) ⟨?_, ?_, hproper.sorted, ?_⟩
    · intro x hx
      rw [hflags, hnext, List.mem_append, List.mem_singleton, ← hmine]
      by_cases heq : x = o
      · simp [heq]
      · rw [if_neg heq]
        constructor
        · intro hflag
          by_cases hmark : x ∈ marks q
          · exact Or.inr (Or.inl hmark)
          · exact Or.inl ⟨hflag, hmark⟩
        · rintro (h | h | h)
          · exact h.1
          · exact hH.quiescing hW hq h
          · exact absurd h heq
    · intro x hx
      rw [hnext, List.mem_append, List.mem_singleton, ← hmine] at hx
      rcases hx with hx | rfl
      · exact Or.inl hx
      · exact Or.inr hfree
    · rw [hnext, ← hmine]
      refine List.nodup_append.mpr ⟨hH.nodup_marks hq, List.nodup_singleton o, ?_⟩
      intro x hx y hy heq
      rw [List.mem_singleton.mp hy] at heq
      exact hnot (heq ▸ hx)
    · intro x hx
      rw [hr.states]
      rw [flagged] at hx
      simp only [underway, hids, List.mem_append, List.mem_singleton] at hx
      rcases hx with hx | rfl
      · exact hproper.mapped x (List.mem_append_left _ hx)
      · exact hstate
    · intro x hx
      rw [hr.heap]
      exact hproper.idle x hx
    · refine ⟨hplaced.phase _, ?_, ?_⟩
      · simp [hids]
      · rw [hr.heap]

lemma turnOk_acquire (hW : Wired c) (hH : Held c qs) (hget : qs[j]? = some q) (hphase : q.phase = .acquiring) :
    TurnOk c qs j (q.acquire c) := by
  have hplaced := (hH.proper q (List.mem_of_getElem? hget)).placed
  simp only [Placed, hphase] at hplaced
  have hunder : underway q = [] := by simp [underway, hphase]
  unfold Quiescer.acquire
  split
  · next hids =>
    split
    · next hgoal =>
      exact turnOk_phase hW hH hget (.returned none) (by simp [underway, hphase]) ⟨hplaced.phase _, hids, hgoal⟩
    · next planID additional hgoal =>
      exact turnOk_phase hW hH hget .rereading (by simp [underway, hphase])
        ⟨hplaced.phase _, hids, planID, additional, hgoal⟩
  · next account rest hids =>
    obtain ⟨hW₁, hstate⟩ := hW.findState account
    have hH₁ := hH.calm hW (calm_findState c account)
    have hhistory : (c.findState account).1.history = c.history := by
      cases hlookup : c.states account with
      | some o => rw [findState_of_some hlookup]
      | none => rw [(findState_of_none hlookup).2.2.2.2.2.2.2]
    have hsame := sameCounts_findState c account
    dsimp only
    -- The rest of the section works on the controller that has the state.
    have hlater : ∀ out, TurnOk (c.findState account).1 qs j out → TurnOk c qs j out := by
      rintro out ⟨c', q', hout, hW', hhist, hsame', hH', hwindow⟩
      exact ⟨c', q', hout, hW', hhist.trans hhistory, hsame.trans hW hsame', hH',
        fun a => (hwindow a).trans (windowOf_findState hW account a)⟩
    apply hlater
    split_ifs with hflag
    · refine turnOk_phase hW₁ hH₁ hget (.awaitChanged _) (by simp [underway, hphase]) ?_
      exact ⟨hplaced.phase _, hW₁.changed_lt, account, rest, hids, Or.inr ⟨rfl, _, hstate, hflag⟩⟩
    · exact turnOk_flag hW₁ hH₁ hget hphase hids hstate (by simpa using hflag)

/-- The state that a call waited for is idle, and stays so until the flag is gone. -/
lemma turnOk_lock (hW : Wired c) (hH : Held c qs) (hget : qs[j]? = some q) {idle : Channel}
    (hphase : q.phase = .awaitIdle o idle) (hclosed : c.closed idle = true) : TurnOk c qs j (some (c, q.lock o)) := by
  have hq := List.mem_of_getElem? hget
  have hproper := hH.proper q hq
  have hplaced := hproper.placed
  simp only [Placed, hphase] at hplaced
  obtain ⟨hengaged, hne, hidle⟩ := hplaced
  obtain ⟨account, rest, hids⟩ := List.exists_cons_of_ne_nil hne
  have hlock : q.lock o = { q with ids := rest, locked := q.locked ++ [(account, o)], phase := .acquiring } := by
    simp [Quiescer.lock, hids]
  have hflagged : flagged q = q.locked ++ [(account, o)] := by simp [flagged, underway, hphase, hids]
  have hflagged' : flagged (q.lock o) = flagged q := by
    rw [hlock, hflagged]
    simp [flagged, underway]
  have hmark : o ∈ marks q := by
    rw [marks, hflagged]
    simp
  have hlist : (q.lock o).locked.map Prod.fst ++ (q.lock o).ids = q.locked.map Prod.fst ++ q.ids := by
    rw [hlock, hids]
    simp
  refine turnOk_update hW hH hget (by rw [marks, hflagged', marks]) ⟨?_, ?_, ?_, ?_⟩
  · rw [hflagged']
    exact hproper.mapped
  · intro x hx
    rw [hlock] at hx
    rcases List.mem_append.mp hx with hx | hx
    · exact hproper.idle x hx
    · rw [List.mem_singleton.mp hx]
      exact (hW.idle_closed o (hproper.lt hW hmark)).mp (hidle ▸ hclosed)
  · rw [hlist]
    exact hproper.sorted
  · have hbound : Engaged (q.lock o) := ⟨hlist.trans hengaged.listed, by rw [hlock]; exact hengaged.bound⟩
    rw [hlock] at hbound ⊢
    exact hbound

/-- The second half of a cancellation. -/
lemma turnOk_undo (hW : Wired c) (hH : Held c qs) (hget : qs[j]? = some q) (hphase : q.phase = .undoing o) :
    TurnOk c qs j ((c.flag o false).signalChangedLocked.map fun c => (c, { q with phase := .failed })) := by
  have hq := List.mem_of_getElem? hget
  have hproper := hH.proper q hq
  have hplaced := hproper.placed
  simp only [Placed, hphase] at hplaced
  obtain ⟨hlocked, hne⟩ := hplaced
  obtain ⟨account, rest, hids⟩ := List.exists_cons_of_ne_nil hne
  have hmine : marks q = [o] := by simp [marks, flagged, underway, hphase, hids, hlocked]
  have hnone : marks { q with phase := .failed } = [] := by simp [marks, flagged, underway, hlocked]
  obtain ⟨c', hsignal, hW', hr, hwoken, hflags⟩ := flag_spec hW o false
  refine ⟨c', { q with phase := .failed }, ?_, hW', hr.history, hr.sameCounts, ?_, hr.windowOf⟩
  · rw [hsignal, Option.map_some]
  · refine hH.replace hW hget hr ?_ ?_ ?_ (Or.inr hwoken) ⟨?_, ?_, hproper.sorted, hlocked⟩
    · intro x hx
      rw [hflags, hmine, hnone, List.mem_singleton]
      by_cases heq : x = o <;> simp [heq]
    · intro x hx
      rw [hnone] at hx
      cases hx
    · rw [hnone]
      exact List.nodup_nil
    · intro x hx
      have hempty : flagged { q with phase := .failed } = [] := by simp [flagged, underway, hlocked]
      rw [hempty] at hx
      cases hx
    · intro x hx
      rw [show ({ q with phase := .failed } : Quiescer).locked = q.locked from rfl, hlocked] at hx
      cases hx

lemma turnOk_read (hW : Wired c) (hH : Held c qs) (hget : qs[j]? = some q) (result : Option Binding) :
    TurnOk c qs j (q.turn c (.read result)) := by
  have hplaced := (hH.proper q (List.mem_of_getElem? hget)).placed
  unfold Quiescer.turn
  dsimp only
  split
  · next plan planID additional hphase hgoal =>
    simp only [Placed, hphase] at hplaced
    obtain ⟨hproper, hmarks⟩ := proper_begin c { q with plan := some plan } (plan.accountID :: additional) (by
      intro planID' additional' hgoal'
      rw [hgoal] at hgoal'
      cases hgoal'
      exact ⟨plan, rfl, rfl⟩)
    have hnone : marks q = [] := by simp [marks, flagged, underway, hphase, hplaced.1]
    exact turnOk_update hW hH hget (hmarks.trans hnone.symm) hproper
  · next hphase =>
    simp only [Placed, hphase] at hplaced
    exact turnOk_phase hW hH hget .failed (by simp [underway, hphase]) hplaced.1
  · next current hphase =>
    simp only [Placed, hphase] at hplaced
    obtain ⟨hengaged, hids, planID, additional, hgoal⟩ := hplaced
    obtain ⟨plan, hplan, -⟩ := hengaged.bound planID additional hgoal
    unfold Quiescer.compare
    rw [hgoal, hplan]
    dsimp only
    split_ifs with hsame
    · have hturn := turnOk_phase hW hH hget (.returned (some current)) (by simp [underway, hphase])
        ⟨hengaged.phase _, hids, planID, additional, plan, hgoal, hplan, hsame⟩
      simpa only [hgoal, hplan] using hturn
    · have hturn := turnOk_phase hW hH hget (.dropping true) (by simp [underway, hphase]) ⟨planID, additional, hgoal⟩
      simpa only [hgoal, hplan] using hturn
  · next hphase =>
    simp only [Placed, hphase] at hplaced
    exact turnOk_phase hW hH hget (.dropping false) (by simp [underway, hphase]) hplaced.2.2
  · exact turnOk_idle hW hH hget

lemma turnOk_proceed (hW : Wired c) (hH : Held c qs) (hget : qs[j]? = some q) :
    TurnOk c qs j (q.turn c .proceed) := by
  have hplaced := (hH.proper q (List.mem_of_getElem? hget)).placed
  unfold Quiescer.turn
  dsimp only
  split
  · next hphase => exact turnOk_acquire hW hH hget hphase
  · next o hphase => exact turnOk_undo hW hH hget hphase
  · next retry hphase =>
    simp only [Placed, hphase] at hplaced
    cases retry with
    | true => exact turnOk_unlock hW hH hget .reading (by simp [underway, hphase]) fun _ => ⟨rfl, hplaced⟩
    | false => exact turnOk_unlock hW hH hget .failed (by simp [underway, hphase]) fun _ => rfl
  · next current hphase => exact turnOk_unlock hW hH hget .released (by simp [underway, hphase]) fun _ => rfl
  · exact turnOk_idle hW hH hget

lemma turnOk_wake (hW : Wired c) (hH : Held c qs) (hget : qs[j]? = some q) : TurnOk c qs j (q.turn c .wake) := by
  have hplaced := (hH.proper q (List.mem_of_getElem? hget)).placed
  unfold Quiescer.turn
  dsimp only
  split
  · next o idle hphase =>
    split_ifs with hclosed
    · exact turnOk_lock hW hH hget hphase hclosed
    · exact turnOk_idle hW hH hget
  · next changed hphase =>
    simp only [Placed, hphase] at hplaced
    split_ifs
    · exact turnOk_phase hW hH hget .acquiring (by simp [underway, hphase]) (hplaced.1.phase _)
    · exact turnOk_idle hW hH hget
  · exact turnOk_idle hW hH hget

lemma turnOk_cancel (hW : Wired c) (hH : Held c qs) (hget : qs[j]? = some q) : TurnOk c qs j (q.turn c .cancel) := by
  have hplaced := (hH.proper q (List.mem_of_getElem? hget)).placed
  unfold Quiescer.turn
  dsimp only
  split
  · next o idle hphase =>
    simp only [Placed, hphase] at hplaced
    obtain ⟨account, rest, hids⟩ := List.exists_cons_of_ne_nil hplaced.2.1
    exact turnOk_unlock hW hH hget (.undoing o) (by simp [underway, hphase, hids]) fun _ => ⟨rfl, hplaced.2.1⟩
  · next changed hphase => exact turnOk_unlock hW hH hget .failed (by simp [underway, hphase]) fun _ => rfl
  · exact turnOk_idle hW hH hget

lemma turn_spec (hW : Wired c) (hH : Held c qs) (hget : qs[j]? = some q) (event : Turn) :
    TurnOk c qs j (q.turn c event) := by
  cases event with
  | read result => exact turnOk_read hW hH hget result
  | proceed => exact turnOk_proceed hW hH hget
  | wake => exact turnOk_wake hW hH hget
  | cancel => exact turnOk_cancel hW hH hget

end Turns

end ShareSub.TrafficQuiescence

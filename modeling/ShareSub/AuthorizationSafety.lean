import Mathlib
import ShareSub.AuthorizationModel
import ShareSub.TokenSealing

/-!
# A flow authorizes its own account once

A flow is consumed by one completion, of the user who has started it and for what it was started for, and its code is sent
once. What a completion stores is for an account of the user, or for the one that an admin has named. On the rows of the
accounts the completions do what the token model says, so its theorems hold of them.
-/
namespace ShareSub.AuthorizationSafety

open TokenModel (OAuthToken Account Target Authorization)
open TokenSealing (Owned Kept SealedSystem step_sealed sealed_initial)
open AuthorizationModel

variable {s t : System} {i j : ℕ} {call : Call} {flow flow' : OAuthFlow}

section Turns

/-- What a completion does when its pending call returns. -/
inductive Turn (s : System) (i : ℕ) (call : Call) : System → Prop
  | dropped (hphase : ∀ flow account, call.phase ≠ .exchanging flow account) : Turn s i call (s.goto i call .returned)
  | consumed (now : ℤ) (t : System) (flow : OAuthFlow) (phase : Phase) (hphase : call.phase = .consuming)
      (hflow : s.consumeOAuthFlow call.completion.state now = some (t, flow))
      (hnext : phase = .returned ∨ phase = call.completion.consumed flow) : Turn s i call (t.goto i call phase)
  | read (flow : OAuthFlow) (account : Account) (hphase : call.phase = .reading flow)
      (haccount : s.tokens.store.accounts.lookup flow.targetAccountID = some account)
      (howner : call.completion.requiredOwnerUserID ≠ "" → account.ownerUserID = call.completion.requiredOwnerUserID) :
      Turn s i call (s.goto i call (.exchanging flow (some account)))
  | refused (flow : OAuthFlow) (account : Option Account) (hphase : call.phase = .exchanging flow account) :
      Turn s i call ((s.log ⟨flow, call.completion⟩).goto i call .returned)
  | authorized (flow : OAuthFlow) (account : Option Account) (target : Target) (ownerUserID chatGPTAccountID : String)
      (token : OAuthToken) (tokens : TokenModel.System) (hphase : call.phase = .exchanging flow account)
      (hpair : authorizePair s.tokens target ownerUserID chatGPTAccountID token = some tokens)
      (htarget : (∃ newID, account = none ∧ target = .connect newID ownerUserID chatGPTAccountID ∧
          ownerUserID = call.completion.actorUserID) ∨
        ∃ a, account = some a ∧ target = .reauthorize flow.targetAccountID ∧ ownerUserID = a.ownerUserID ∧
          chatGPTAccountID = a.chatGPTAccountID) :
      Turn s i call (((s.log ⟨flow, call.completion⟩).withTokens tokens).goto i call
        (.storing s.tokens.authorizations.length))
  | stored (k : ℕ) (hphase : call.phase = .storing k) :
      Turn s i call ((s.onTokens (.storeAuthorization k)).goto i call .returned)

lemma authorized_turn {account : Option Account} {target : Target} {ownerUserID chatGPTAccountID : String}
    {token : OAuthToken} (hphase : call.phase = .exchanging flow account)
    (htarget : (∃ newID, account = none ∧ target = .connect newID ownerUserID chatGPTAccountID ∧
        ownerUserID = call.completion.actorUserID) ∨
      ∃ a, account = some a ∧ target = .reauthorize flow.targetAccountID ∧ ownerUserID = a.ownerUserID ∧
        chatGPTAccountID = a.chatGPTAccountID) :
    Turn s i call ((s.log ⟨flow, call.completion⟩).authorized i call target ownerUserID chatGPTAccountID token) := by
  unfold System.authorized
  cases hpair : authorizePair (s.log ⟨flow, call.completion⟩).tokens target ownerUserID chatGPTAccountID token with
  | none => exact .refused flow account hphase
  | some tokens => exact .authorized flow account target ownerUserID chatGPTAccountID token tokens hphase hpair htarget

lemma exchanged_turn {account : Option Account} (hphase : call.phase = .exchanging flow account) (token : OAuthToken)
    (email chatGPTAccountID newID : String) :
    Turn s i call ((s.log ⟨flow, call.completion⟩).exchanged i call flow account token email chatGPTAccountID newID) := by
  unfold System.exchanged
  split_ifs
  · exact .refused flow account hphase
  · cases account with
    | none => exact authorized_turn hphase (.inl ⟨newID, rfl, rfl, rfl⟩)
    | some a =>
      dsimp only
      split_ifs
      · exact .refused flow (some a) hphase
      · exact authorized_turn hphase (.inr ⟨a, rfl, rfl, rfl, rfl⟩)

/-- One case for each phase of the completion. -/
lemma proceed_turn (s : System) (i : ℕ) (outcome : Outcome) :
    s.proceed i outcome = s ∨ ∃ call, s.calls[i]? = some call ∧ Turn s i call (s.proceed i outcome) := by
  unfold System.proceed
  cases hcall : s.calls[i]? with
  | none => exact .inl rfl
  | some call =>
    dsimp only
    cases hphase : call.phase with
    | consuming =>
      cases outcome with
      | done now =>
        refine .inr ⟨call, rfl, ?_⟩
        dsimp only
        cases hflow : s.consumeOAuthFlow call.completion.state now with
        | none => exact .dropped (by simp [hphase])
        | some pair => exact .consumed now pair.1 pair.2 _ hphase hflow (.inr rfl)
      | lost now =>
        refine .inr ⟨call, rfl, ?_⟩
        dsimp only
        cases hflow : s.consumeOAuthFlow call.completion.state now with
        | none => exact .dropped (by simp [hphase])
        | some pair => exact .consumed now pair.1 pair.2 _ hphase hflow (.inl rfl)
      | fail => exact .inr ⟨call, rfl, .dropped (by simp [hphase])⟩
      | token token email chatGPTAccountID newID => exact .inl rfl
    | reading flow =>
      cases outcome with
      | done now =>
        refine .inr ⟨call, rfl, ?_⟩
        dsimp only
        cases haccount : s.tokens.store.accounts.lookup flow.targetAccountID with
        | none => exact .dropped (by simp [hphase])
        | some account =>
          dsimp only
          split_ifs with hother
          · exact .dropped (by simp [hphase])
          · refine .read flow account hphase haccount fun hrequired => ?_
            by_contra howner
            exact hother ⟨hrequired, howner⟩
      | lost now => exact .inl rfl
      | fail => exact .inr ⟨call, rfl, .dropped (by simp [hphase])⟩
      | token token email chatGPTAccountID newID => exact .inl rfl
    | exchanging flow account =>
      cases outcome with
      | done now => exact .inl rfl
      | lost now => exact .inl rfl
      | fail => exact .inr ⟨call, rfl, .refused flow account hphase⟩
      | token token email chatGPTAccountID newID =>
        exact .inr ⟨call, rfl, exchanged_turn hphase token email chatGPTAccountID newID⟩
    | storing k =>
      cases outcome with
      | done now => exact .inr ⟨call, rfl, .stored k hphase⟩
      | lost now => exact .inr ⟨call, rfl, .stored k hphase⟩
      | fail => exact .inr ⟨call, rfl, .dropped (by simp [hphase])⟩
      | token token email chatGPTAccountID newID => exact .inl rfl
    | returned =>
      cases outcome with
      | done now => exact .inl rfl
      | lost now => exact .inl rfl
      | fail => exact .inl rfl
      | token token email chatGPTAccountID newID => exact .inl rfl

end Turns

section Flows

/-- The flow that a completion has consumed and not sent a code for. -/
def heldFlow : Phase → Option OAuthFlow
  | .consuming => none
  | .reading flow => some flow
  | .exchanging flow _ => some flow
  | .storing _ => none
  | .returned => none

def heldAt (calls : List Call) (i : ℕ) : Option (OAuthFlow × Completion) :=
  calls[i]?.bind fun call => (heldFlow call.phase).map fun flow => (flow, call.completion)

/-- The flow was started by the actor for what the completion is for. -/
structure Fits (flow : OAuthFlow) (c : Completion) : Prop where
  user : flow.userID = c.actorUserID
  purpose : flow.purpose = c.purpose
  target : flow.purpose = .reauthorize → flow.targetAccountID = c.accountID

/-- A flow that was consumed in time, and is open no more. -/
structure Consumed (s : System) (flow : OAuthFlow) : Prop where
  drawn : flow.id < s.drawn
  started : { flow with consumedAt := none } ∈ s.started
  inTime : ∃ consumedAt, flow.consumedAt = some consumedAt ∧ consumedAt < flow.expiresAt
  closed : ∀ r ∈ s.flows, r.id = flow.id → r.consumedAt.isSome

/-- A flow of a completion, and no code that was sent for it. -/
structure Held (s : System) (flow : OAuthFlow) (c : Completion) : Prop where
  consumed : Consumed s flow
  fits : Fits flow c
  unsent : ∀ x ∈ s.exchanges, x.flow.id ≠ flow.id

structure FlowsUsed (s : System) : Prop where
  rows : (s.flows.map OAuthFlow.id).Nodup
  drawn : ∀ r ∈ s.flows, r.id < s.drawn
  started : ∀ r ∈ s.flows, { r with consumedAt := none } ∈ s.started
  held : ∀ i x, heldAt s.calls i = some x → Held s x.1 x.2
  apart : ∀ i j x y, heldAt s.calls i = some x → heldAt s.calls j = some y → x.1.id = y.1.id → i = j
  exchanged : ∀ x ∈ s.exchanges, Consumed s x.flow ∧ Fits x.flow x.completion
  once : (s.exchanges.map fun x => x.flow.id).Nodup

variable {calls : List Call} {x : OAuthFlow × Completion}

lemma heldAt_of_getElem? (h : calls[i]? = some call) (hheld : heldFlow call.phase = some flow) :
    heldAt calls i = some (flow, call.completion) := by
  simp [heldAt, h, hheld]

lemma heldAt_set {next : Call} (h : heldAt (calls.set i next) j = some x) :
    (j = i ∧ heldFlow next.phase = some x.1 ∧ next.completion = x.2) ∨ (j ≠ i ∧ heldAt calls j = some x) := by
  unfold heldAt at h ⊢
  rw [List.getElem?_set] at h
  by_cases hij : i = j
  · left
    rw [if_pos hij] at h
    obtain ⟨call, hcall, h⟩ := Option.bind_eq_some_iff.mp h
    split_ifs at hcall
    cases hcall
    obtain ⟨flow, hflow, rfl⟩ := Option.map_eq_some_iff.mp h
    exact ⟨hij.symm, hflow, rfl⟩
  · rw [if_neg hij] at h
    exact .inr ⟨Ne.symm hij, h⟩

lemma Consumed.mono (h : Consumed s flow) (hdrawn : s.drawn ≤ t.drawn) (hstarted : s.started ⊆ t.started)
    (hflows : ∀ r ∈ t.flows, s.drawn ≤ r.id ∨ ∃ r' ∈ s.flows, r'.id = r.id ∧ (r'.consumedAt.isSome → r.consumedAt.isSome)) :
    Consumed t flow := by
  refine ⟨h.drawn.trans_le hdrawn, hstarted h.started, h.inTime, fun r hr hid => ?_⟩
  rcases hflows r hr with hnew | ⟨r', hr', hid', hkept⟩
  · exact absurd (hid ▸ hnew) (not_le.mpr h.drawn)
  · exact hkept (h.closed r' hr' (hid'.trans hid))

/-- A step that neither consumes a flow nor sends a code. -/
lemma FlowsUsed.frame (h : FlowsUsed s) (hrows : (t.flows.map OAuthFlow.id).Nodup) (hdrawn : ∀ r ∈ t.flows, r.id < t.drawn)
    (hstarted : ∀ r ∈ t.flows, { r with consumedAt := none } ∈ t.started) (hle : s.drawn ≤ t.drawn)
    (hsubset : s.started ⊆ t.started)
    (hflows : ∀ r ∈ t.flows, s.drawn ≤ r.id ∨ ∃ r' ∈ s.flows, r'.id = r.id ∧ (r'.consumedAt.isSome → r.consumedAt.isSome))
    (hheld : ∀ i x, heldAt t.calls i = some x → heldAt s.calls i = some x) (hexchanges : t.exchanges = s.exchanges) :
    FlowsUsed t := by
  refine ⟨hrows, hdrawn, hstarted, fun i x hx => ?_, fun i j x y hx hy => ?_, fun x hx => ?_, hexchanges ▸ h.once⟩
  · obtain ⟨hconsumed, hfits, hunsent⟩ := h.held i x (hheld i x hx)
    exact ⟨hconsumed.mono hle hsubset hflows, hfits, hexchanges ▸ hunsent⟩
  · exact h.apart i j x y (hheld i x hx) (hheld j y hy)
  · rw [hexchanges] at hx
    exact ⟨(h.exchanged x hx).1.mono hle hsubset hflows, (h.exchanged x hx).2⟩

/-- A step that leaves the flows alone. -/
lemma FlowsUsed.others (h : FlowsUsed s) (hflows : t.flows = s.flows) (hdrawn : t.drawn = s.drawn)
    (hstarted : t.started = s.started) (hheld : ∀ i x, heldAt t.calls i = some x → heldAt s.calls i = some x)
    (hexchanges : t.exchanges = s.exchanges) : FlowsUsed t := by
  refine h.frame (hflows ▸ h.rows) (hflows ▸ hdrawn ▸ h.drawn) ?_ hdrawn.ge (hstarted ▸ List.Subset.refl _) ?_ hheld hexchanges
  · rw [hflows, hstarted]
    exact h.started
  · rw [hflows]
    exact fun r hr => .inr ⟨r, hr, rfl, fun hsome => hsome⟩

/-- A completion that has sent its code does not hold its flow any more. -/
lemma FlowsUsed.send (h : FlowsUsed s) (hcall : s.calls[i]? = some call) (hheldFlow : heldFlow call.phase = some flow)
    {next : Call} (hnext : heldFlow next.phase = none) (hflows : t.flows = s.flows) (hdrawn : t.drawn = s.drawn)
    (hstarted : t.started = s.started) (hcalls : t.calls = s.calls.set i next)
    (hexchanges : t.exchanges = s.exchanges ++ [⟨flow, call.completion⟩]) : FlowsUsed t := by
  have hi : heldAt s.calls i = some (flow, call.completion) := heldAt_of_getElem? hcall hheldFlow
  have hsent := h.held i _ hi
  have hconsumed : ∀ {f : OAuthFlow}, Consumed s f → Consumed t f := fun hf =>
    hf.mono hdrawn.ge (hstarted ▸ List.Subset.refl _) (hflows ▸ fun r hr => .inr ⟨r, hr, rfl, fun hsome => hsome⟩)
  have hheld : ∀ j x, heldAt t.calls j = some x → j ≠ i ∧ heldAt s.calls j = some x := by
    intro j x hx
    rw [hcalls] at hx
    rcases heldAt_set hx with ⟨-, hflow, -⟩ | hx
    · rw [hnext] at hflow
      cases hflow
    · exact hx
  refine ⟨hflows ▸ h.rows, hflows ▸ hdrawn ▸ h.drawn, ?_, fun j x hx => ?_, fun j k x y hx hy => ?_, fun x hx => ?_, ?_⟩
  · rw [hflows, hstarted]
    exact h.started
  · obtain ⟨hne, hx⟩ := hheld j x hx
    have hother := h.held j x hx
    refine ⟨hconsumed hother.consumed, hother.fits, fun y hy => ?_⟩
    rw [hexchanges] at hy
    rcases List.mem_append.mp hy with hy | hy
    · exact hother.unsent y hy
    · rw [List.mem_singleton.mp hy]
      exact fun hid => hne (h.apart i j _ x hi hx hid).symm
  · exact h.apart j k x y (hheld j x hx).2 (hheld k y hy).2
  · rw [hexchanges] at hx
    rcases List.mem_append.mp hx with hx | hx
    · exact ⟨hconsumed (h.exchanged x hx).1, (h.exchanged x hx).2⟩
    · rw [List.mem_singleton.mp hx]
      exact ⟨hconsumed hsent.consumed, hsent.fits⟩
  · rw [hexchanges, List.map_append, List.nodup_append]
    refine ⟨h.once, List.nodup_singleton _, ?_⟩
    rintro _ hold _ hnew heq
    obtain ⟨y, hy, rfl⟩ := List.mem_map.mp hold
    exact hsent.unsent y hy (heq.trans (List.mem_singleton.mp hnew))

lemma consumed_fits {c : Completion} (h : heldFlow (c.consumed flow) = some flow') : flow' = flow ∧ Fits flow c := by
  unfold Completion.consumed at h
  by_cases huser : flow.userID ≠ c.actorUserID
  · rw [if_pos huser] at h
    cases h
  · rw [if_neg huser] at h
    cases hpurpose : c.purpose with
    | connect =>
      rw [hpurpose] at h
      dsimp only at h
      split_ifs at h with hother
      · cases h
      · simp only [ne_eq, not_or, not_not] at hother huser
        cases h
        refine ⟨rfl, huser, hother.1.trans hpurpose.symm, fun hre => ?_⟩
        rw [hother.1] at hre
        cases hre
    | reauthorize =>
      rw [hpurpose] at h
      dsimp only at h
      split_ifs at h with hother
      · cases h
      · simp only [ne_eq, not_or, not_not] at hother huser
        cases h
        exact ⟨rfl, huser, hother.1.trans hpurpose.symm, fun _ => hother.2.2⟩

lemma consumeOAuthFlow_some {state : ℕ} {now : ℤ} (h : s.consumeOAuthFlow state now = some (t, flow)) :
    ∃ r ∈ s.flows, r.consumedAt = none ∧ now < r.expiresAt ∧ flow = { r with consumedAt := some now } ∧
      t = { s with flows := updateRows (fun f => f.id = r.id) (fun f => { f with consumedAt := some now }) s.flows } := by
  unfold System.consumeOAuthFlow at h
  cases hfind : s.flows.find? fun f => f.state = state ∧ f.consumedAt = none ∧ now < f.expiresAt with
  | none =>
    rw [hfind] at h
    cases h
  | some r =>
    rw [hfind] at h
    cases h
    have hr := List.find?_some hfind
    rw [decide_eq_true_eq] at hr
    exact ⟨r, List.mem_of_find?_eq_some hfind, hr.2.1, hr.2.2, rfl, rfl⟩

lemma Consumed.ne_open (h : Consumed s flow) {r : OAuthFlow} (hr : r ∈ s.flows) (hopen : r.consumedAt = none) :
    flow.id ≠ r.id := by
  intro hid
  have hsome := h.closed r hr hid.symm
  rw [hopen] at hsome
  cases hsome

/-- The flow was open, so no completion holds it and no code was sent for it. -/
lemma FlowsUsed.consume (h : FlowsUsed s) {state : ℕ} {now : ℤ} {phase : Phase}
    (hflow : s.consumeOAuthFlow state now = some (t, flow))
    (hnext : phase = .returned ∨ phase = call.completion.consumed flow) : FlowsUsed (t.goto i call phase) := by
  obtain ⟨r, hr, hopen, htime, rfl, rfl⟩ := consumeOAuthFlow_some hflow
  set rows := updateRows (fun f => f.id = r.id) (fun f => { f with consumedAt := some now }) s.flows with hrows
  have hbefore : ∀ f ∈ rows, ∃ f' ∈ s.flows, f'.id = f.id ∧ { f' with consumedAt := none } = { f with consumedAt := none } ∧
      (f'.consumedAt.isSome → f.consumedAt.isSome) ∧ (f'.id = r.id → f.consumedAt.isSome) := by
    intro f hf
    obtain ⟨f', hf', rfl⟩ := List.mem_map.mp hf
    refine ⟨f', hf', ?_⟩
    split_ifs with hid
    · exact ⟨rfl, rfl, fun _ => rfl, fun _ => rfl⟩
    · exact ⟨rfl, rfl, fun hsome => hsome, fun heq => absurd heq hid⟩
  have hfresh : ∀ {f : OAuthFlow}, Consumed s f → f.id ≠ r.id := fun hf => hf.ne_open hr hopen
  have hids : rows.map OAuthFlow.id = s.flows.map OAuthFlow.id := by
    rw [hrows, updateRows, List.map_map]
    refine List.map_congr_left fun f _ => ?_
    simp only [Function.comp_apply]
    split_ifs <;> rfl
  have hmono : ∀ {f : OAuthFlow}, Consumed s f → Consumed (System.goto { s with flows := rows } i call phase) f := by
    refine fun hf => hf.mono le_rfl (List.Subset.refl _) fun f hf => ?_
    obtain ⟨f', hf', hid, -, hkept, -⟩ := hbefore f hf
    exact .inr ⟨f', hf', hid, hkept⟩
  have hnew : Consumed (System.goto { s with flows := rows } i call phase) { r with consumedAt := some now } := by
    refine ⟨h.drawn r hr, h.started r hr, ⟨now, rfl, htime⟩, fun f hf hid => ?_⟩
    obtain ⟨f', -, hid', -, -, hclosed⟩ := hbefore f hf
    exact hclosed (hid'.trans hid)
  have hheld : ∀ j x, heldAt (s.calls.set i { call with phase := phase }) j = some x →
      (j = i ∧ x.1 = { r with consumedAt := some now } ∧ Fits x.1 x.2) ∨ (j ≠ i ∧ heldAt s.calls j = some x) := by
    intro j x hx
    rcases heldAt_set hx with ⟨hj, hheld, hcompletion⟩ | hx
    · left
      rcases hnext with rfl | rfl
      · cases hheld
      · obtain ⟨hx, hfits⟩ := consumed_fits hheld
        refine ⟨hj, hx, ?_⟩
        rw [hx, ← hcompletion]
        exact hfits
    · exact .inr hx
  refine ⟨hids ▸ h.rows, fun f hf => ?_, fun f hf => ?_, fun j x hx => ?_, fun j k x y hx hy hid => ?_, fun x hx => ?_, h.once⟩
  · obtain ⟨f', hf', hid, -⟩ := hbefore f hf
    exact hid ▸ h.drawn f' hf'
  · obtain ⟨f', hf', -, heq, -⟩ := hbefore f hf
    exact heq ▸ h.started f' hf'
  · rcases hheld j x hx with ⟨-, hflow, hfits⟩ | ⟨-, hx⟩
    · rw [hflow] at hfits ⊢
      exact ⟨hnew, hfits, fun y hy => hfresh (h.exchanged y hy).1⟩
    · obtain ⟨hconsumed, hfits, hunsent⟩ := h.held j x hx
      exact ⟨hmono hconsumed, hfits, hunsent⟩
  · rcases hheld j x hx with ⟨hj, hflow, -⟩ | ⟨-, hx⟩
    · rcases hheld k y hy with ⟨hk, -⟩ | ⟨-, hy⟩
      · exact hj.trans hk.symm
      · rw [hflow] at hid
        exact absurd hid.symm (hfresh (h.held k y hy).consumed)
    · rcases hheld k y hy with ⟨-, hflow, -⟩ | ⟨-, hy⟩
      · rw [hflow] at hid
        exact absurd hid (hfresh (h.held j x hx).consumed)
      · exact h.apart j k x y hx hy hid
  · exact ⟨hmono (h.exchanged x hx).1, (h.exchanged x hx).2⟩

lemma FlowsUsed.turn (h : FlowsUsed s) (hcall : s.calls[i]? = some call) (hturn : Turn s i call t) : FlowsUsed t := by
  have hdrop : ∀ j x, heldAt (s.calls.set i { call with phase := .returned }) j = some x → heldAt s.calls j = some x := by
    intro j x hx
    rcases heldAt_set hx with ⟨-, hheld, -⟩ | ⟨-, hx⟩
    · cases hheld
    · exact hx
  cases hturn with
  | dropped hphase => exact h.others rfl rfl rfl hdrop rfl
  | consumed now t flow phase hphase hflow hnext => exact h.consume hflow hnext
  | read flow account hphase haccount howner =>
    refine h.others rfl rfl rfl (fun j x hx => ?_) rfl
    rcases heldAt_set hx with ⟨hj, hheld, hcompletion⟩ | ⟨-, hx⟩
    · rw [hj, heldAt_of_getElem? hcall (by rw [hphase]; exact hheld)]
      exact congrArg some (Prod.ext rfl hcompletion)
    · exact hx
  | refused flow account hphase => exact h.send hcall (by rw [hphase]; rfl) rfl rfl rfl rfl rfl rfl
  | authorized flow account target ownerUserID chatGPTAccountID token tokens hphase hpair htarget =>
    exact h.send hcall (by rw [hphase]; rfl) rfl rfl rfl rfl rfl rfl
  | stored k hphase => exact h.others rfl rfl rfl hdrop rfl

lemma FlowsUsed.start (h : FlowsUsed s) (userID : String) (purpose : Purpose) (targetAccountID : String) (now : ℤ) :
    FlowsUsed (s.startOpenAIOAuth userID purpose targetAccountID now) := by
  refine h.frame ?_ (fun r hr => ?_) (fun r hr => ?_) (by simp [System.startOpenAIOAuth])
    (List.subset_append_left _ _) (fun r hr => ?_) (fun j x hx => hx) rfl
  · rw [System.startOpenAIOAuth, List.map_append, List.nodup_append]
    refine ⟨h.rows, List.nodup_singleton _, ?_⟩
    rintro _ hold _ hnew heq
    obtain ⟨r, hr, rfl⟩ := List.mem_map.mp hold
    exact (h.drawn r hr).ne (heq.trans (List.mem_singleton.mp hnew))
  · rcases List.mem_append.mp hr with hr | hr
    · exact (h.drawn r hr).trans (by simp [System.startOpenAIOAuth])
    · rw [List.mem_singleton.mp hr]
      exact Nat.lt_add_of_pos_right (by decide)
  · rcases List.mem_append.mp hr with hr | hr
    · exact List.mem_append_left _ (h.started r hr)
    · rw [List.mem_singleton.mp hr]
      exact List.mem_append_right _ (List.mem_singleton_self _)
  · rcases List.mem_append.mp hr with hr | hr
    · exact .inr ⟨r, hr, rfl, fun hsome => hsome⟩
    · rw [List.mem_singleton.mp hr]
      exact .inl le_rfl

lemma FlowsUsed.complete (h : FlowsUsed s) (completion : Completion) : FlowsUsed (s.complete completion) := by
  unfold System.complete
  split_ifs
  · exact h
  · refine h.others rfl rfl rfl (fun j x hx => ?_) rfl
    unfold heldAt at hx ⊢
    rcases lt_trichotomy j s.calls.length with hj | rfl | hj
    · rwa [List.getElem?_append_left hj] at hx
    · simp [heldFlow] at hx
    · rw [List.getElem?_eq_none (by simp; omega)] at hx
      cases hx

lemma FlowsUsed.onTokens (h : FlowsUsed s) (e : TokenModel.Event) : FlowsUsed (s.onTokens e) :=
  h.others rfl rfl rfl (fun _ _ hx => hx) rfl

theorem FlowsUsed.step (h : FlowsUsed s) (e : Event) : FlowsUsed (step s e) := by
  cases e with
  | startConnect userID now => exact h.start userID .connect "" now
  | startReauthorize userID accountID now =>
    change FlowsUsed (s.startOpenAIReauthorize userID accountID now)
    unfold System.startOpenAIReauthorize
    split
    · exact h
    · split_ifs
      · exact h
      · exact h.start userID .reauthorize accountID now
  | adminStartReauthorize adminID isAdmin accountID now =>
    change FlowsUsed (s.adminStartOpenAIReauthorize adminID isAdmin accountID now)
    unfold System.adminStartOpenAIReauthorize
    split_ifs
    · exact h
    · exact h.start adminID .reauthorize accountID now
  | completeConnect userID state code => exact h.complete _
  | completeReauthorize userID accountID state code => exact h.complete _
  | adminCompleteReauthorize adminID isAdmin accountID state code =>
    cases isAdmin with
    | true => exact h.complete _
    | false => exact h
  | proceed i outcome =>
    change FlowsUsed (s.proceed i outcome)
    rcases proceed_turn s i outcome with heq | ⟨call, hcall, hturn⟩
    · rwa [heq]
    · exact h.turn hcall hturn
  | cleanupResources now locked =>
    refine h.frame (h.rows.sublist (List.filter_sublist.map _)) (fun r hr => h.drawn r (List.mem_of_mem_filter hr))
      (fun r hr => h.started r (List.mem_of_mem_filter hr)) le_rfl (List.Subset.refl _) (fun r hr => ?_) (fun j x hx => hx) rfl
    exact .inr ⟨r, List.mem_of_mem_filter hr, rfl, fun hsome => hsome⟩
  | startRefresh accountID holderID account refreshBefore waitForPeer maxAttempts markAccountError now =>
    exact h.onTokens _
  | refresh i outcome => exact h.onTokens _
  | resolve accountID => exact h.onTokens _
  | markRefreshRequired j message => exact h.onTokens _
  | setStatus accountID status => exact h.onTokens _

end Flows

section Grants

/-- What a completion knows of the account that it is for. -/
def CallGranted (s : System) (call : Call) : Prop :=
  match call.phase with
  | .reading _ => call.completion.purpose = .reauthorize
  | .exchanging _ none => call.completion.purpose = .connect
  | .exchanging flow (some account) => call.completion.purpose = .reauthorize ∧
      Owned s.tokens.store flow.targetAccountID account.ownerUserID account.chatGPTAccountID ∧
      (call.completion.requiredOwnerUserID ≠ "" → account.ownerUserID = call.completion.requiredOwnerUserID)
  | _ => True

/-- The pair was exchanged for a flow of its target: an account of the user who has started the flow, or any account for an
admin. -/
def Granted (x : Exchanged) (b : Authorization) : Prop :=
  match b.target with
  | .connect _ ownerUserID _ => x.flow.purpose = .connect ∧ ownerUserID = x.flow.userID ∧ b.ownerUserID = ownerUserID
  | .reauthorize accountID => x.flow.purpose = .reauthorize ∧ accountID = x.flow.targetAccountID ∧
      (b.ownerUserID = x.flow.userID ∨ x.completion.requiredOwnerUserID = "")

structure AllGranted (s : System) : Prop where
  rows : SealedSystem s.tokens
  calls : ∀ call ∈ s.calls, CallGranted s call
  required : ∀ call ∈ s.calls, call.completion.requiredOwnerUserID = "" ∨
    call.completion.requiredOwnerUserID = call.completion.actorUserID
  authorizations : ∀ b ∈ s.tokens.authorizations, ∃ x ∈ s.exchanges, Granted x b

lemma CallGranted.kept (h : CallGranted s call) (hkept : Kept s.tokens.store t.tokens.store) : CallGranted t call := by
  unfold CallGranted at h ⊢
  split at h
  · exact h
  · exact h
  · exact ⟨h.1, hkept _ _ _ h.2.1, h.2.2⟩
  · trivial

lemma callGranted_of_phase {completion : Completion} {phase : Phase} (h : heldFlow phase = none) :
    CallGranted s ⟨completion, phase⟩ := by
  unfold CallGranted
  split
  · next flow hphase =>
    dsimp only at hphase
    rw [hphase] at h
    cases h
  · next flow hphase =>
    dsimp only at hphase
    rw [hphase] at h
    cases h
  · next flow account hphase =>
    dsimp only at hphase
    rw [hphase] at h
    cases h
  · trivial

/-- The pair of a completion is the one that the token model authorizes. -/
lemma authorizePair_eq {tokens tokens' : TokenModel.System} {target : Target}
    {ownerUserID chatGPTAccountID : String} {token : OAuthToken}
    (howner : tokens.store.ownerOf target chatGPTAccountID = some (ownerUserID, chatGPTAccountID))
    (hpair : authorizePair tokens target ownerUserID chatGPTAccountID token = some tokens') :
    tokens' = TokenModel.step tokens (.authorize target token chatGPTAccountID) ∧
      ∀ b ∈ tokens'.authorizations, b ∈ tokens.authorizations ∨ (b.target = target ∧ b.ownerUserID = ownerUserID) := by
  obtain ⟨pair, hencrypt, rfl⟩ := Option.map_eq_some_iff.mp hpair
  constructor
  · simp only [TokenModel.step, TokenModel.System.authorize, howner, hencrypt]
  · intro b hb
    rcases List.mem_append.mp hb with hb | hb
    · exact .inl hb
    · rw [List.mem_singleton.mp hb]
      exact .inr ⟨rfl, rfl⟩

lemma ownerOf_reauthorize {store : TokenModel.Store} {accountID ownerUserID chatGPTAccountID : String}
    (h : Owned store accountID ownerUserID chatGPTAccountID) :
    store.ownerOf (.reauthorize accountID) chatGPTAccountID = some (ownerUserID, chatGPTAccountID) := by
  obtain ⟨a, ha, rfl, rfl⟩ := h
  simp [TokenModel.Store.ownerOf, ha]

/-- What a step of the token model does to the rows and the authorizations. -/
lemma AllGranted.tokens (h : AllGranted s) {tokens : TokenModel.System} {e : TokenModel.Event}
    (hstep : tokens = TokenModel.step s.tokens e) (htokens : t.tokens = tokens) (hexchanges : s.exchanges ⊆ t.exchanges)
    (hcalls : ∀ call ∈ t.calls, call ∈ s.calls ∨ CallGranted t call ∧ (call.completion.requiredOwnerUserID = "" ∨
      call.completion.requiredOwnerUserID = call.completion.actorUserID))
    (hauthorizations : ∀ b ∈ tokens.authorizations, (∃ b' ∈ s.tokens.authorizations, b'.target = b.target ∧
      b'.ownerUserID = b.ownerUserID) ∨ ∃ x ∈ t.exchanges, Granted x b) : AllGranted t := by
  obtain ⟨hrows, hkept⟩ := step_sealed h.rows e
  rw [← hstep, ← htokens] at hrows hkept
  refine ⟨hrows, fun call hcall => ?_, fun call hcall => ?_, fun b hb => ?_⟩
  · rcases hcalls call hcall with hcall | ⟨hgranted, -⟩
    · exact (h.calls call hcall).kept hkept
    · exact hgranted
  · rcases hcalls call hcall with hcall | ⟨-, hrequired⟩
    · exact h.required call hcall
    · exact hrequired
  · rw [htokens] at hb
    rcases hauthorizations b hb with ⟨b', hb', htarget, howner⟩ | hgranted
    · obtain ⟨x, hx, hgranted⟩ := h.authorizations b' hb'
      refine ⟨x, hexchanges hx, ?_⟩
      unfold Granted at hgranted ⊢
      rwa [htarget, howner] at hgranted
    · exact hgranted

/-- A step that leaves the rows and the authorizations alone. -/
lemma AllGranted.others (h : AllGranted s) (htokens : t.tokens = s.tokens) (hexchanges : s.exchanges ⊆ t.exchanges)
    (hcalls : ∀ call ∈ t.calls, call ∈ s.calls ∨ CallGranted t call ∧ (call.completion.requiredOwnerUserID = "" ∨
      call.completion.requiredOwnerUserID = call.completion.actorUserID)) : AllGranted t := by
  refine ⟨htokens ▸ h.rows, fun call hcall => ?_, fun call hcall => ?_, fun b hb => ?_⟩
  · rcases hcalls call hcall with hcall | ⟨hgranted, -⟩
    · exact (h.calls call hcall).kept (htokens ▸ fun _ _ _ hid => hid)
    · exact hgranted
  · rcases hcalls call hcall with hcall | ⟨-, hrequired⟩
    · exact h.required call hcall
    · exact hrequired
  · rw [htokens] at hb
    obtain ⟨x, hx, hgranted⟩ := h.authorizations b hb
    exact ⟨x, hexchanges hx, hgranted⟩

lemma consumed_granted (completion : Completion) (flow : OAuthFlow) :
    CallGranted s ⟨completion, completion.consumed flow⟩ := by
  unfold Completion.consumed
  split
  · exact callGranted_of_phase rfl
  · cases hpurpose : completion.purpose with
    | connect =>
      dsimp only
      split_ifs
      · exact callGranted_of_phase rfl
      · exact hpurpose
    | reauthorize =>
      dsimp only
      split_ifs
      · exact callGranted_of_phase rfl
      · exact hpurpose

lemma mem_setStored {tokens : TokenModel.System} (k : ℕ) :
    ∀ b ∈ (TokenModel.step tokens (.storeAuthorization k)).authorizations,
      ∃ b' ∈ tokens.authorizations, b'.target = b.target ∧ b'.ownerUserID = b.ownerUserID := by
  intro b hb
  simp only [TokenModel.step] at hb
  cases hk : tokens.authorizations[k]? with
  | none =>
    rw [hk] at hb
    exact ⟨b, hb, rfl, rfl⟩
  | some a =>
    rw [hk] at hb
    dsimp only at hb
    split_ifs at hb
    · exact ⟨b, hb, rfl, rfl⟩
    · rcases List.mem_or_eq_of_mem_set hb with hb | rfl
      · exact ⟨b, hb, rfl, rfl⟩
      · exact ⟨a, List.mem_of_getElem? hk, rfl, rfl⟩

/-- A turn of a completion is a step of the token model, or none. -/
def Refines (s t : System) : Prop := t.tokens = s.tokens ∨ ∃ e, t.tokens = TokenModel.step s.tokens e

lemma AllGranted.turn (h : AllGranted s) (hflows : FlowsUsed s) (hcall : s.calls[i]? = some call)
    (hturn : Turn s i call t) : AllGranted t ∧ Refines s t := by
  have hmem := List.mem_of_getElem? hcall
  have hgranted := h.calls call hmem
  have hrequired := h.required call hmem
  have hset : ∀ {phase : Phase} {t : System}, CallGranted t { call with phase := phase } →
      ∀ c ∈ s.calls.set i { call with phase := phase }, c ∈ s.calls ∨ CallGranted t c ∧
        (c.completion.requiredOwnerUserID = "" ∨ c.completion.requiredOwnerUserID = c.completion.actorUserID) := by
    intro phase t hnext c hc
    rcases List.mem_or_eq_of_mem_set hc with hc | rfl
    · exact .inl hc
    · exact .inr ⟨hnext, hrequired⟩
  cases hturn with
  | dropped hphase => exact ⟨h.others rfl (List.Subset.refl _) (hset (callGranted_of_phase rfl)), .inl rfl⟩
  | consumed now t flow phase hphase hflow hnext =>
    obtain ⟨r, hr, hopen, htime, rfl, rfl⟩ := consumeOAuthFlow_some hflow
    refine ⟨h.others rfl (List.Subset.refl _) (hset ?_), .inl rfl⟩
    rcases hnext with rfl | rfl
    · exact callGranted_of_phase rfl
    · exact consumed_granted call.completion _
  | read flow account hphase haccount howner =>
    refine ⟨h.others rfl (List.Subset.refl _) (hset ?_), .inl rfl⟩
    rw [CallGranted, hphase] at hgranted
    exact ⟨hgranted, Owned.of_lookup haccount, howner⟩
  | refused flow account hphase =>
    exact ⟨h.others rfl (List.subset_append_left _ _) (hset (callGranted_of_phase rfl)), .inl rfl⟩
  | stored k hphase =>
    refine ⟨h.tokens (e := .storeAuthorization k) rfl rfl (List.Subset.refl _) (hset (callGranted_of_phase rfl)) fun b hb => ?_,
      .inr ⟨.storeAuthorization k, rfl⟩⟩
    exact .inl (mem_setStored k b hb)
  | authorized flow account target ownerUserID chatGPTAccountID token tokens hphase hpair htarget =>
    have hfits : Fits flow call.completion :=
      (hflows.held i _ (heldAt_of_getElem? hcall (by rw [hphase]; rfl) : heldAt s.calls i = some (flow, _))).fits
    rw [CallGranted, hphase] at hgranted
    have hgrant : ∀ b : Authorization, b.target = target → b.ownerUserID = ownerUserID →
        Granted ⟨flow, call.completion⟩ b := by
      intro b hb howner
      rcases htarget with ⟨newID, rfl, rfl, hactor⟩ | ⟨a, rfl, rfl, howner', -⟩
      · rw [Granted, hb]
        exact ⟨hfits.purpose.trans hgranted, hactor.trans hfits.user.symm, howner⟩
      · rw [Granted, hb]
        refine ⟨hfits.purpose.trans hgranted.1, rfl, ?_⟩
        rcases hrequired with hnone | hactor
        · exact .inr hnone
        · by_cases hnone : call.completion.requiredOwnerUserID = ""
          · exact .inr hnone
          · left
            rw [howner, howner', hgranted.2.2 hnone, hactor, hfits.user]
    have howner : s.tokens.store.ownerOf target chatGPTAccountID = some (ownerUserID, chatGPTAccountID) := by
      rcases htarget with ⟨newID, -, rfl, -⟩ | ⟨a, rfl, rfl, rfl, rfl⟩
      · rfl
      · exact ownerOf_reauthorize hgranted.2.1
    obtain ⟨hstep, hnew⟩ := authorizePair_eq howner hpair
    refine ⟨h.tokens hstep rfl (List.subset_append_left _ _) (hset (callGranted_of_phase rfl)) fun b hb => ?_,
      .inr ⟨_, hstep⟩⟩
    rcases hnew b hb with hb | ⟨htarget, howner⟩
    · exact .inl ⟨b, hb, rfl, rfl⟩
    · exact .inr ⟨_, List.mem_append_right _ (List.mem_singleton_self _), hgrant b htarget howner⟩

/-- A step of the token model that authorizes nothing. -/
lemma AllGranted.onTokens (h : AllGranted s) {e : TokenModel.Event}
    (he : (TokenModel.step s.tokens e).authorizations = s.tokens.authorizations) :
    AllGranted (s.onTokens e) ∧ Refines s (s.onTokens e) := by
  refine ⟨h.tokens rfl rfl (List.Subset.refl _) (fun _ => .inl) fun b hb => .inl ⟨b, ?_, rfl, rfl⟩, .inr ⟨e, rfl⟩⟩
  rw [he] at hb
  exact hb

lemma AllGranted.complete (h : AllGranted s) (completion : Completion)
    (hrequired : completion.requiredOwnerUserID = "" ∨ completion.requiredOwnerUserID = completion.actorUserID) :
    AllGranted (s.complete completion) ∧ Refines s (s.complete completion) := by
  unfold System.complete
  split_ifs
  · exact ⟨h, .inl rfl⟩
  · refine ⟨h.others rfl (List.Subset.refl _) fun c hc => ?_, .inl rfl⟩
    rcases List.mem_append.mp hc with hc | hc
    · exact .inl hc
    · rw [List.mem_singleton.mp hc]
      exact .inr ⟨callGranted_of_phase rfl, hrequired⟩

lemma AllGranted.start (h : AllGranted s) (userID : String) (purpose : Purpose) (targetAccountID : String) (now : ℤ) :
    AllGranted (s.startOpenAIOAuth userID purpose targetAccountID now) ∧
      Refines s (s.startOpenAIOAuth userID purpose targetAccountID now) :=
  ⟨h.others rfl (List.Subset.refl _) fun _ => .inl, .inl rfl⟩

theorem AllGranted.step (h : AllGranted s) (hflows : FlowsUsed s) (e : Event) :
    AllGranted (step s e) ∧ Refines s (AuthorizationModel.step s e) := by
  cases e with
  | startConnect userID now => exact h.start userID .connect "" now
  | startReauthorize userID accountID now =>
    change AllGranted (s.startOpenAIReauthorize userID accountID now) ∧ Refines s (s.startOpenAIReauthorize userID accountID now)
    unfold System.startOpenAIReauthorize
    split
    · exact ⟨h, .inl rfl⟩
    · split_ifs
      · exact ⟨h, .inl rfl⟩
      · exact h.start userID .reauthorize accountID now
  | adminStartReauthorize adminID isAdmin accountID now =>
    change AllGranted (s.adminStartOpenAIReauthorize adminID isAdmin accountID now) ∧
      Refines s (s.adminStartOpenAIReauthorize adminID isAdmin accountID now)
    unfold System.adminStartOpenAIReauthorize
    split_ifs
    · exact ⟨h, .inl rfl⟩
    · exact h.start adminID .reauthorize accountID now
  | completeConnect userID state code => exact h.complete _ (.inl rfl)
  | completeReauthorize userID accountID state code => exact h.complete _ (.inr rfl)
  | adminCompleteReauthorize adminID isAdmin accountID state code =>
    cases isAdmin with
    | true => exact h.complete _ (.inl rfl)
    | false => exact ⟨h, .inl rfl⟩
  | proceed i outcome =>
    change AllGranted (s.proceed i outcome) ∧ Refines s (s.proceed i outcome)
    rcases proceed_turn s i outcome with heq | ⟨call, hcall, hturn⟩
    · rw [heq]
      exact ⟨h, .inl rfl⟩
    · exact h.turn hflows hcall hturn
  | cleanupResources now locked => exact ⟨h.others rfl (List.Subset.refl _) fun _ => .inl, .inl rfl⟩
  | startRefresh accountID holderID account refreshBefore waitForPeer maxAttempts markAccountError now => exact h.onTokens rfl
  | refresh i outcome =>
    refine h.onTokens ?_
    simp only [TokenModel.step]
    split <;> rfl
  | resolve accountID =>
    refine h.onTokens ?_
    simp only [TokenModel.step]
    split <;> rfl
  | markRefreshRequired j message =>
    refine h.onTokens ?_
    simp only [TokenModel.step]
    split <;> rfl
  | setStatus accountID status => exact h.onTokens rfl

lemma flowsUsed_initial : FlowsUsed initial :=
  ⟨.nil, by simp [initial], by simp [initial], by simp [initial, heldAt], by simp [initial, heldAt], by simp [initial], .nil⟩

lemma allGranted_initial : AllGranted initial :=
  ⟨sealed_initial, by simp [initial], by simp [initial], by simp [initial, TokenModel.initial]⟩

/-- A run of the completions is one of the token model. -/
lemma run_granted (events : List Event) (hflows : FlowsUsed s) (h : AllGranted s) :
    FlowsUsed (events.foldl step s) ∧ AllGranted (events.foldl step s) ∧
      ∃ tokenEvents : List TokenModel.Event, (events.foldl step s).tokens = tokenEvents.foldl TokenModel.step s.tokens := by
  induction events generalizing s with
  | nil => exact ⟨hflows, h, [], rfl⟩
  | cons e events ih =>
    obtain ⟨hnext, hrefines⟩ := h.step hflows e
    obtain ⟨hflows', h', tokenEvents, heq⟩ := ih (hflows.step e) hnext
    refine ⟨hflows', h', ?_⟩
    rcases hrefines with hsame | ⟨tokenEvent, hstep⟩
    · refine ⟨tokenEvents, ?_⟩
      rw [List.foldl_cons, heq, hsame]
    · refine ⟨tokenEvent :: tokenEvents, ?_⟩
      rw [List.foldl_cons, heq, hstep, List.foldl_cons]

end Grants

/-- In every run a flow is sent a code for once at most, by the user who has started it, for what it was started for, and
consumed before it expires; and every pair of tokens that is stored or about to be is of such a flow, for an account of that
user, or for the one that an admin has named. -/
theorem flows_authorize_once (events : List Event) :
    ((run events).exchanges.map fun x => x.flow.id).Nodup ∧
      (∀ x ∈ (run events).exchanges, Consumed (run events) x.flow ∧ Fits x.flow x.completion) ∧
      ∀ b ∈ (run events).tokens.authorizations, ∃ x ∈ (run events).exchanges, Granted x b := by
  obtain ⟨hflows, hgranted, -⟩ := run_granted events flowsUsed_initial allGranted_initial
  exact ⟨hflows.once, hflows.exchanged, hgranted.authorizations⟩

/-- What the completions and the refreshers do to the accounts together is a run of the token model, so that what holds of
every such run holds here too. -/
theorem completions_refine_tokens (events : List Event) :
    ∃ tokenEvents : List TokenModel.Event, (run events).tokens = TokenModel.run tokenEvents :=
  (run_granted events flowsUsed_initial allGranted_initial).2.2

end ShareSub.AuthorizationSafety

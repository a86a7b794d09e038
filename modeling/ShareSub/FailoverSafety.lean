import Mathlib
import ShareSub.FailoverModel
import ShareSub.GatewayAttempts
import ShareSub.ProtectionRate

/-!
# What the failover loop spends

Every pass ends the request or spends something: a token refresh or a retry of the account that it is on, or the
account itself. The reservations, the response and the pricing are followed through the same cases.
-/
namespace ShareSub.FailoverSafety

open GatewayModel
open FailoverModel
open GatewayAttempts (filterMap_cons_toList resolveNext_fresh)
open ProtectionModel (Protection)
open ProtectionRate (lookup_dropWhenLarge)
open TrafficModel (zeroTime)

variable {Usage : Type} {toLower : String → String} {g model : String} {l l' : Loop} {r : Round Usage}

section Passes

/-- An attempt that is followed by a new token for its account and by another attempt, and that leaves no record. -/
def tokenRefreshed (r : Round Usage) (l : Loop) : Prop :=
  ∃ response, r.forward = .answered response ∧ response.status = 401 ∧ response.tokenRefreshed ∧
    l.access.accountID ∉ l.authRefreshed

/-- What the search of a pass finds. -/
def found (r : Round Usage) (l : Loop) : List (Event Usage) × Option Access :=
  acquire (l.excludedAccountIDs ++ [l.access.accountID]) r.candidates

/-- What one pass adds to the log, and the loop after it. -/
inductive Moves (toLower : String → String) (r : Round Usage) (blocked : Bool) (l : Loop) :
    List (Event Usage) → Option Loop → Prop
  | skipped {next : Access} (hblocked : blocked = true) (hfound : (found r l).2 = some next) :
      Moves toLower r blocked l (.released l.access.accountID :: (found r l).1) (some (l.moveTo next))
  | unavailable (hfound : (found r l).2 = none) :
      Moves toLower r blocked l (.released l.access.accountID :: (found r l).1 ++ [.responded]) none
  | refused (metric : Metric Usage) (hmetric : metric.access = l.access) :
      Moves toLower r blocked l [.recorded metric, .responded, .released l.access.accountID] none
  | ended (hblocked : blocked = false) (metric : Metric Usage) (hmetric : metric.access = l.access)
      (earlier later : List (Event Usage))
      (hresponse : earlier ++ later = [] ∨ earlier ++ later = [.responded]) :
      Moves toLower r blocked l
        (.forwarded l.access.accountID :: (earlier ++ .recorded metric :: later ++ [.released l.access.accountID])) none
  | refreshed (hblocked : blocked = false) (hrefreshed : tokenRefreshed r l) (hkept : r.blocks toLower blocked = false) :
      Moves toLower r blocked l [.forwarded l.access.accountID]
        (some { l with authRefreshed := l.access.accountID :: l.authRefreshed })
  | retried (hblocked : blocked = false) (metric : Metric Usage) (hmetric : metric.access = l.access)
      (hleft : l.requestScopedRetries l.access.accountID < maxRequestScopedCapacityRetries)
      (hkept : r.blocks toLower blocked = false) :
      Moves toLower r blocked l [.forwarded l.access.accountID, .recorded metric] (some l.retry)
  | switched {next : Access} (hblocked : blocked = false) (metric : Metric Usage) (hmetric : metric.access = l.access)
      (hleft : l.switches < maxUpstreamAccountSwitches) (hfound : (found r l).2 = some next)
      (authRefreshed : List String) (hauth : authRefreshed = l.authRefreshed ∨
        authRefreshed = l.access.accountID :: l.authRefreshed) :
      Moves toLower r blocked l
        (.forwarded l.access.accountID :: .recorded metric :: .released l.access.accountID :: (found r l).1)
        (some { l.moveTo next with switches := l.switches + 1, authRefreshed := authRefreshed })
  | gaveUp (hblocked : blocked = false) (metric : Metric Usage) (hmetric : metric.access = l.access)
      (hfound : (found r l).2 = none) :
      Moves toLower r blocked l
        (.forwarded l.access.accountID :: .recorded metric :: .released l.access.accountID :: (found r l).1 ++
          [.responded]) none

lemma acquire_result (excluded : List String) (cs : List Candidate) :
    (acquire excluded cs : List (Event Usage) × Option Access).2 = resolveGatewayAccess (grantable cs) excluded := by
  induction cs with
  | nil => rfl
  | cons c cs ih =>
    unfold acquire
    have hskip : ∀ h : c.offer ≠ .granted, grantable (c :: cs) = grantable cs := by
      intro h
      simp [grantable, h]
    have hgrant : c.offer = .granted → grantable (c :: cs) = c.access :: grantable cs := by
      intro h
      simp [grantable, h]
    by_cases hmem : c.access.accountID ∈ excluded
    · rw [if_pos hmem, ih]
      by_cases hoffer : c.offer = .granted
      · rw [hgrant hoffer, resolveGatewayAccess, resolveGatewayAccess, List.find?_cons]
        simp [hmem]
      · rw [hskip hoffer]
    · rw [if_neg hmem]
      cases hoffer : c.offer with
      | exhausted => rw [hskip (by simp [hoffer]), ← ih]
      | limited => rw [hskip (by simp [hoffer]), ← ih]
      | unresolved => rw [hskip (by simp [hoffer]), ← ih]
      | granted => simp [hgrant hoffer, resolveGatewayAccess, hmem]

lemma resolveNext_eq_found (r : Round Usage) (l : Loop) :
    resolveNext (grantable r.candidates) l = (found r l).2 := (acquire_result ..).symm

/-- The events of a pass with the search in their place, and the release that the handler defers. -/
def outcome (r : Round Usage) (l : Loop) : List (Event Usage) × Next → List (Event Usage) × Option Loop
  | (events, .again l') => (events.flatMap (searched (found r l).1), some l')
  | (events, .finish held) =>
    (events.flatMap (searched (found r l).1) ++ if held then [.released l.access.accountID] else [], none)

/-- The pass of an attempt is one of the moves. -/
def MovesAs (toLower : String → String) (r : Round Usage) (l : Loop) (step : List (Event Usage) × Next) : Prop :=
  Moves toLower r false l (outcome r l (.forwarded l.access.accountID :: step.1, step.2)).1
    (outcome r l (.forwarded l.access.accountID :: step.1, step.2)).2

lemma ended_moves (metric : Metric Usage) (hmetric : metric.access = l.access) (earlier later : List (Event Usage))
    (hresponse : earlier ++ later = [] ∨ earlier ++ later = [.responded]) :
    MovesAs toLower r l (earlier ++ .recorded metric :: later, .finish true) := by
  have hquiet : ∀ event ∈ earlier ++ later, event = .responded := by
    intro event hevent
    cases hresponse with
    | inl h => simp [h] at hevent
    | inr h => simpa [h] using hevent
  have hsame : ∀ events : List (Event Usage), (∀ event ∈ events, event = .responded) →
      events.flatMap (searched (found r l).1) = events := by
    intro events h
    induction events with
    | nil => rfl
    | cons event events ih =>
      rw [List.flatMap_cons, ih fun x hx => h x (List.mem_cons_of_mem _ hx), h event (List.mem_cons_self ..)]
      rfl
  have hearlier := hsame earlier fun x hx => hquiet x (List.mem_append_left _ hx)
  have hlater := hsame later fun x hx => hquiet x (List.mem_append_right _ hx)
  have hmoves : Moves toLower r false l _ _ := .ended rfl metric hmetric earlier later hresponse
  simpa [MovesAs, outcome, searched, hearlier, hlater] using hmoves

lemma switchAccount_movesAs (metric : Metric Usage) (hmetric : metric.access = l.access) {authRefreshed : List String}
    (hauth : authRefreshed = l.authRefreshed ∨ authRefreshed = l.access.accountID :: l.authRefreshed) :
    MovesAs toLower r l
      (.recorded metric :: (switchAccount (grantable r.candidates) { l with authRefreshed := authRefreshed }).1,
        (switchAccount (grantable r.candidates) { l with authRefreshed := authRefreshed } :
          List (Event Usage) × Next).2) := by
  have hresolve : resolveNext (grantable r.candidates) { l with authRefreshed := authRefreshed } = (found r l).2 :=
    resolveNext_eq_found r l
  unfold switchAccount
  rw [hresolve]
  split_ifs with hleft
  · cases hfound : (found r l).2 with
    | some next =>
      have hmoves : Moves toLower r false l _ _ := .switched rfl metric hmetric hleft hfound authRefreshed hauth
      simpa [MovesAs, outcome, searched, Loop.moveTo] using hmoves
    | none =>
      have hmoves : Moves toLower r false l _ _ := .gaveUp rfl metric hmetric hfound
      simpa [MovesAs, outcome, searched] using hmoves
  · exact ended_moves metric hmetric [] [.responded] (.inr rfl)

lemma rejected_movesAs (metric : Metric Usage) (hmetric : metric.access = l.access) {response : Response Usage}
    (hforward : r.forward = .answered response) :
    MovesAs toLower r l (rejected responsesEndpoint metric response (grantable r.candidates) l) := by
  unfold rejected
  split_ifs with hgone hbad hrefresh hlater
  · exact ended_moves metric hmetric [] [] (.inl rfl)
  · exact ended_moves metric hmetric [] [.responded] (.inr rfl)
  · obtain ⟨h401, hmem, htoken⟩ := hrefresh
    have hkept : r.blocks toLower false = false := by
      unfold Round.blocks
      split
      · next h =>
        rw [hforward] at h
        cases h
        simp [h401]
      · rfl
    have hmoves : Moves toLower r false l _ _ := .refreshed rfl ⟨response, hforward, h401, htoken, hmem⟩ hkept
    simpa [MovesAs, outcome, searched, Loop.markRefreshed, h401] using hmoves
  · exact ended_moves metric hmetric [] [] (.inl rfl)
  · by_cases h401 : response.status = 401
    · have hmark : l.markRefreshed response.status =
          { l with authRefreshed := l.access.accountID :: l.authRefreshed } := if_pos h401
      rw [hmark]
      exact switchAccount_movesAs metric hmetric (.inr rfl)
    · have hmark : l.markRefreshed response.status = { l with authRefreshed := l.authRefreshed } := if_neg h401
      rw [hmark]
      exact switchAccount_movesAs metric hmetric (.inl rfl)

lemma accepted_movesAs (metric : Metric Usage) (hmetric : metric.access = l.access) {response : Response Usage}
    (hforward : r.forward = .answered response) (hstatus : response.status ≠ 400) :
    MovesAs toLower r l (accepted responsesEndpoint metric response (grantable r.candidates) l) := by
  unfold accepted
  split
  · exact ended_moves metric hmetric [.responded] [] (.inr rfl)
  · exact ended_moves metric hmetric [.responded] [] (.inr rfl)
  · split_ifs with hover hretry hwaited hgone
    · have hkept : r.blocks toLower false = false := by
        unfold Round.blocks
        split
        · next h =>
          rw [hforward] at h
          cases h
          simp [hstatus]
        · rfl
      have hmoves : Moves toLower r false l _ _ := .retried rfl metric hmetric hretry.2.2.2 hkept
      simpa [MovesAs, outcome, searched] using hmoves
    · exact ended_moves metric hmetric [] [] (.inl rfl)
    · exact ended_moves metric hmetric [] [.responded] (.inr rfl)
    · exact switchAccount_movesAs metric hmetric (.inl rfl)
    · exact ended_moves metric hmetric [.responded] [] (.inr rfl)

lemma afterForward_movesAs (r : Round Usage) (l : Loop) (attemptRequestID : RequestID) :
    MovesAs toLower r l (afterForward responsesEndpoint attemptRequestID (r.pass false) l) := by
  unfold afterForward
  split
  · exact ended_moves _ rfl [] [.responded] (.inr rfl)
  · exact ended_moves _ rfl [] [] (.inl rfl)
  · exact switchAccount_movesAs _ rfl (.inl rfl)
  · exact ended_moves _ rfl [] [] (.inl rfl)
  · next response hforward =>
    split_ifs with hswitch
    · exact rejected_movesAs _ rfl hforward
    · refine accepted_movesAs _ rfl hforward ?_
      intro h400
      exact hswitch (.inr ⟨rfl, h400⟩)

lemma onePass_moves (toLower : String → String) (g : String) (r : Round Usage) (blocked : Bool) (l : Loop) :
    Moves toLower r blocked l (outcome r l (onePass responsesEndpoint g (r.pass blocked) l)).1
      (outcome r l (onePass responsesEndpoint g (r.pass blocked) l)).2 := by
  unfold onePass
  cases blocked with
  | true =>
    rw [if_pos ⟨rfl, rfl⟩, show resolveNext (r.pass true).next l = (found r l).2 from resolveNext_eq_found r l]
    cases hfound : (found r l).2 with
    | some next => simpa [outcome, searched] using Moves.skipped rfl hfound
    | none => simpa [outcome, searched] using Moves.unavailable hfound
  | false =>
    rw [if_neg (by simp [Round.pass])]
    dsimp only
    split
    · simpa [outcome, searched] using Moves.refused _ rfl
    · exact afterForward_movesAs r l _

lemma round_moves (toLower : String → String) (g model : String) (h : Handler Usage) (r : Round Usage)
    (hloop : h.loop = some l) :
    ∃ new loop', Moves toLower r (r.check toLower model h.protections l).2 l new loop' ∧
      (h.round toLower g model r).log = h.log ++ new ∧ (h.round toLower g model r).loop = loop' := by
  refine ⟨_, _, onePass_moves toLower g r (r.check toLower model h.protections l).2 l, ?_⟩
  unfold Handler.round
  rw [hloop]
  dsimp only
  cases onePass responsesEndpoint g (r.pass (r.check toLower model h.protections l).2) l with
  | mk events next =>
    cases next with
    | again l' => exact ⟨rfl, rfl⟩
    | finish held => exact ⟨List.append_assoc .., rfl⟩

end Passes

section Log

/-- The account of the reservation that is held after an event. There is none after a second reservation, or after a
release of one that is not held. -/
def reserve : Option String → Event Usage → Option (Option String)
  | none, .resolved accountID => some (some accountID)
  | some _, .resolved _ => none
  | none, .released _ => none
  | some held, .released accountID => if held = accountID then some none else none
  | held, _ => some held

/-- The reservation that is held after a log, if at no moment of it more than one was. -/
def reservation (held : Option String) (log : List (Event Usage)) : Option (Option String) := log.foldlM reserve held

def Event.response? : Event Usage → Option Unit
  | .responded => some ()
  | _ => none

def responses (log : List (Event Usage)) : ℕ := (log.filterMap Event.response?).length

def Event.forwarded? : Event Usage → Option String
  | .forwarded accountID => some accountID
  | _ => none

/-- The accounts of the calls of `Forward`, in order. -/
def forwards (log : List (Event Usage)) : List String := log.filterMap Event.forwarded?

lemma reservation_append (held : Option String) (xs ys : List (Event Usage)) :
    reservation held (xs ++ ys) = (reservation held xs).bind fun held' => reservation held' ys :=
  List.foldlM_append ..

@[simp] lemma reservation_nil (held : Option String) : reservation held ([] : List (Event Usage)) = some held := rfl

@[simp] lemma reservation_cons (held : Option String) (event : Event Usage) (log : List (Event Usage)) :
    reservation held (event :: log) = (reserve held event).bind fun held' => reservation held' log := rfl

/-- What held after a whole log held at every moment of it. -/
lemma reservation_of_append {held : Option String} {xs ys : List (Event Usage)}
    (h : (reservation held (xs ++ ys)).isSome) : (reservation held xs).isSome := by
  rw [reservation_append] at h
  cases hxs : reservation held xs with
  | none => simp [hxs] at h
  | some held' => rfl

@[simp] lemma responses_nil : responses ([] : List (Event Usage)) = 0 := rfl

@[simp] lemma responses_cons (event : Event Usage) (log : List (Event Usage)) :
    responses (event :: log) = (Event.response? event).toList.length + responses log := by
  rw [responses, filterMap_cons_toList, List.length_append]
  rfl

@[simp] lemma responses_append (xs ys : List (Event Usage)) : responses (xs ++ ys) = responses xs + responses ys := by
  simp [responses]

@[simp] lemma forwards_nil : forwards ([] : List (Event Usage)) = [] := rfl

@[simp] lemma forwards_cons (event : Event Usage) (log : List (Event Usage)) :
    forwards (event :: log) = (Event.forwarded? event).toList ++ forwards log := filterMap_cons_toList ..

@[simp] lemma forwards_append (xs ys : List (Event Usage)) : forwards (xs ++ ys) = forwards xs ++ forwards ys :=
  List.filterMap_append

lemma acquire_reservation (excluded : List String) (cs : List Candidate) :
    reservation none (acquire excluded cs : List (Event Usage) × Option Access).1 =
      some ((acquire excluded cs : List (Event Usage) × Option Access).2.map Access.accountID) := by
  induction cs with
  | nil => rfl
  | cons c cs ih =>
    unfold acquire
    split_ifs with hmem
    · exact ih
    · cases c.offer with
      | exhausted => exact ih
      | limited => exact ih
      | unresolved => simpa [reserve] using ih
      | granted => rfl

/-- A search only makes reservations and gives them back. -/
lemma acquire_quiet {excluded : List String} {cs : List Candidate} {event : Event Usage}
    (h : event ∈ (acquire excluded cs).1) : ∃ accountID, event = .resolved accountID ∨ event = .released accountID := by
  induction cs with
  | nil => simp [acquire] at h
  | cons c cs ih =>
    unfold acquire at h
    split_ifs at h with hmem
    · exact ih h
    · cases hoffer : c.offer <;> rw [hoffer] at h
      · exact ih h
      · exact ih h
      · rcases List.mem_cons.mp h with rfl | h
        · exact ⟨_, .inl rfl⟩
        · rcases List.mem_cons.mp h with rfl | h
          · exact ⟨_, .inr rfl⟩
          · exact ih h
      · rw [List.mem_singleton.mp h]
        exact ⟨_, .inl rfl⟩

@[simp] lemma responses_acquire (excluded : List String) (cs : List Candidate) :
    responses (acquire excluded cs : List (Event Usage) × Option Access).1 = 0 := by
  rw [responses, List.length_eq_zero_iff, List.filterMap_eq_nil_iff]
  intro event hevent
  obtain ⟨accountID, rfl | rfl⟩ := acquire_quiet hevent
  · rfl
  · rfl

@[simp] lemma forwards_acquire (excluded : List String) (cs : List Candidate) :
    forwards (acquire excluded cs : List (Event Usage) × Option Access).1 = [] := by
  rw [forwards, List.filterMap_eq_nil_iff]
  intro event hevent
  obtain ⟨accountID, rfl | rfl⟩ := acquire_quiet hevent
  · rfl
  · rfl

lemma recorded_notMem_acquire (excluded : List String) (cs : List Candidate) (metric : Metric Usage) :
    .recorded metric ∉ (acquire excluded cs).1 := by
  intro h
  obtain ⟨accountID, h | h⟩ := acquire_quiet h
  · cases h
  · cases h

lemma found_fresh {next : Access} (h : (found r l).2 = some next) :
    next.accountID ∉ l.excludedAccountIDs ++ [l.access.accountID] := by
  rw [← resolveNext_eq_found] at h
  exact resolveNext_fresh h

lemma found_mem {next : Access} (h : (found r l).2 = some next) : ∃ c ∈ r.candidates, c.access = next := by
  rw [← resolveNext_eq_found] at h
  obtain ⟨c, hc, rfl⟩ := List.mem_map.mp (List.mem_of_find?_eq_some h)
  exact ⟨c, List.mem_of_mem_filter hc, rfl⟩

end Log

section Moves

variable {blocked : Bool} {new : List (Event Usage)} {loop' : Option Loop}

lemma reservation_found (r : Round Usage) (l : Loop) :
    reservation none (found r l).1 = some ((found r l).2.map Access.accountID) := acquire_reservation ..

lemma Moves.reservation_eq (h : Moves toLower r blocked l new loop') :
    reservation (some l.access.accountID) new = some (loop'.map fun l' => l'.access.accountID) := by
  have hsearch := reservation_found r l
  cases h with
  | skipped _ hfound => simp [reserve, hsearch, hfound, Loop.moveTo]
  | unavailable hfound => simp [reserve, reservation_append, hsearch, hfound]
  | refused metric _ => simp [reserve]
  | ended _ metric _ earlier later hresponse =>
    rcases hresponse with hresponse | hresponse
    · obtain ⟨rfl, rfl⟩ := List.append_eq_nil_iff.mp hresponse
      simp [reserve]
    · rcases List.append_eq_singleton_iff.mp hresponse with ⟨rfl, rfl⟩ | ⟨rfl, rfl⟩
      · simp [reserve]
      · simp [reserve]
  | refreshed => simp [reserve]
  | retried => simp [reserve, Loop.retry]
  | switched _ metric _ _ hfound => simp [reserve, hsearch, hfound, Loop.moveTo]
  | gaveUp _ metric _ hfound => simp [reserve, reservation_append, hsearch, hfound]

lemma Moves.responses_le (h : Moves toLower r blocked l new loop') :
    responses new ≤ if loop' = none then 1 else 0 := by
  have hsearch : responses (found r l).1 = 0 := responses_acquire ..
  cases h with
  | skipped => simp [Event.response?, hsearch]
  | unavailable => simp [Event.response?, hsearch]
  | refused => simp [Event.response?]
  | ended _ metric _ earlier later hresponse =>
    have hboth : responses earlier + responses later ≤ 1 := by
      rw [← responses_append]
      rcases hresponse with hresponse | hresponse <;> simp [hresponse, Event.response?]
    simpa [Event.response?] using hboth
  | refreshed => simp [Event.response?]
  | retried => simp [Event.response?]
  | switched => simp [Event.response?, hsearch]
  | gaveUp => simp [Event.response?, hsearch]

/-- What is recorded belongs to the account that the pass is on. -/
lemma Moves.recorded_access (h : Moves toLower r blocked l new loop') {metric : Metric Usage}
    (hmem : .recorded metric ∈ new) : metric.access = l.access := by
  have hsearch : .recorded metric ∉ (found r l).1 := recorded_notMem_acquire _ _ _
  cases h with
  | skipped => simp [hsearch] at hmem
  | unavailable => simp [hsearch] at hmem
  | refused metric' h' =>
    have heq : metric = metric' := by simpa using hmem
    rw [heq, h']
  | ended _ metric' h' earlier later hresponse =>
    have hnone : .recorded metric ∉ earlier ++ later := by
      rcases hresponse with hresponse | hresponse <;> simp [hresponse]
    simp only [List.mem_append, not_or] at hnone
    have heq : metric = metric' := by simpa [hnone.1, hnone.2] using hmem
    rw [heq, h']
  | refreshed => simp at hmem
  | retried _ metric' h' =>
    have heq : metric = metric' := by simpa using hmem
    rw [heq, h']
  | switched _ metric' h' =>
    have heq : metric = metric' := by simpa [hsearch] using hmem
    rw [heq, h']
  | gaveUp _ metric' h' =>
    have heq : metric = metric' := by simpa [hsearch] using hmem
    rw [heq, h']

/-- An attempt is recorded, unless a new token follows it. -/
lemma Moves.recorded_or_refreshed (h : Moves toLower r blocked l new loop') {accountID : String}
    (hmem : .forwarded accountID ∈ new) : (∃ metric, .recorded metric ∈ new) ∨ tokenRefreshed r l := by
  have hsearch : .forwarded accountID ∉ (found r l).1 := by
    intro h
    obtain ⟨_, h | h⟩ := acquire_quiet h <;> cases h
  cases h with
  | skipped => simp [hsearch] at hmem
  | unavailable => simp [hsearch] at hmem
  | refused => simp at hmem
  | ended _ metric => exact .inl ⟨metric, by simp⟩
  | refreshed _ hrefreshed => exact .inr hrefreshed
  | retried _ metric => exact .inl ⟨metric, by simp⟩
  | switched _ metric => exact .inl ⟨metric, by simp⟩
  | gaveUp _ metric => exact .inl ⟨metric, by simp⟩

/-- `Forward` is called once at most, and never when the model is blocked. -/
lemma Moves.forwards_eq (h : Moves toLower r blocked l new loop') :
    forwards new = [] ∨ forwards new = [l.access.accountID] ∧ blocked = false := by
  have hsearch : forwards (found r l).1 = [] := forwards_acquire ..
  cases h with
  | skipped => exact .inl (by simp [Event.forwarded?, hsearch])
  | unavailable => exact .inl (by simp [Event.forwarded?, hsearch])
  | refused => exact .inl (by simp [Event.forwarded?])
  | ended hblocked metric _ earlier later hresponse =>
    have hboth : forwards earlier ++ forwards later = [] := by
      rw [← forwards_append]
      rcases hresponse with hresponse | hresponse <;> simp [hresponse, Event.forwarded?]
    obtain ⟨hearlier, hlater⟩ := List.append_eq_nil_iff.mp hboth
    exact .inr ⟨by simp [Event.forwarded?, hearlier, hlater], hblocked⟩
  | refreshed hblocked => exact .inr ⟨by simp [Event.forwarded?], hblocked⟩
  | retried hblocked => exact .inr ⟨by simp [Event.forwarded?], hblocked⟩
  | switched hblocked => exact .inr ⟨by simp [Event.forwarded?, hsearch], hblocked⟩
  | gaveUp hblocked => exact .inr ⟨by simp [Event.forwarded?, hsearch], hblocked⟩

lemma Moves.count_le (h : Moves toLower r blocked l new loop') (accountID : String) :
    (forwards new).count accountID ≤ if accountID = l.access.accountID then 1 else 0 := by
  rcases h.forwards_eq with hnone | ⟨hone, -⟩
  · simp [hnone]
  · rw [hone, List.count_singleton]
    split_ifs <;> simp_all

/-- The attempts that a loop accounts for: the last one before an account was excluded, one before a new token, and
one for each retry. -/
def spent (l : Loop) (accountID : String) : ℕ :=
  min 1 (l.excludedAccountIDs.count accountID) + min 1 (l.authRefreshed.count accountID) +
    l.requestScopedRetries accountID

lemma spent_moveTo (l : Loop) (next : Access) (switches : ℕ) {authRefreshed : List String}
    (hauth : authRefreshed = l.authRefreshed ∨ authRefreshed = l.access.accountID :: l.authRefreshed)
    (hfresh : l.access.accountID ∉ l.excludedAccountIDs) (accountID : String) :
    spent l accountID + (if accountID = l.access.accountID then 1 else 0) ≤
      spent { l.moveTo next with switches := switches, authRefreshed := authRefreshed } accountID := by
  have hauth' : l.authRefreshed.count accountID ≤ authRefreshed.count accountID := by
    rcases hauth with rfl | rfl
    · exact le_rfl
    · exact List.count_le_count_cons
  simp only [spent, Loop.moveTo, List.count_append, List.count_singleton, beq_iff_eq]
  split_ifs with h h'
  · subst h
    rw [List.count_eq_zero.mpr hfresh]
    omega
  · exact absurd h.symm h'
  · omega
  · omega

lemma Moves.spent_le (h : Moves toLower r blocked l new (some l')) (hfresh : l.access.accountID ∉ l.excludedAccountIDs)
    (accountID : String) : spent l accountID + (forwards new).count accountID ≤ spent l' accountID := by
  apply (Nat.add_le_add_left (h.count_le accountID) _).trans
  cases h with
  | skipped => exact spent_moveTo l _ _ (.inl rfl) hfresh accountID
  | refreshed _ hrefreshed =>
    obtain ⟨_, _, _, _, hmem⟩ := hrefreshed
    simp only [spent, List.count_cons, beq_iff_eq]
    split_ifs with h h'
    · subst h
      rw [List.count_eq_zero.mpr hmem]
      omega
    · exact absurd h.symm h'
    · omega
    · omega
  | retried =>
    simp only [spent, Loop.retry]
    split_ifs with h
    · subst h
      rw [Function.update_self]
      omega
    · rw [Function.update_of_ne h]
      omega
  | switched _ _ _ _ _ auth hauth => exact spent_moveTo l _ _ hauth hfresh accountID

lemma Moves.excluded_subset (h : Moves toLower r blocked l new (some l')) :
    l.excludedAccountIDs ⊆ l'.excludedAccountIDs := by
  cases h with
  | skipped => exact List.subset_append_left ..
  | refreshed => exact List.Subset.refl _
  | retried => exact List.Subset.refl _
  | switched => exact List.subset_append_left ..

end Moves

section Invariant

variable {accounts : Finset String} {pricing : Option String} {log new : List (Event Usage)} {blocked : Bool}

/-- At the head of the loop one reservation is held, for an account that is not excluded, the client has no answer
yet, and every call of `Forward` is accounted for. -/
structure Looping (accounts : Finset String) (pricing : Option String) (l : Loop) (log : List (Event Usage)) : Prop where
  fresh : l.access.accountID ∉ l.excludedAccountIDs
  known : l.access.accountID ∈ accounts
  priced : l.access.pricing = pricing
  pinned : pricing.isSome
  switches : l.switches ≤ maxUpstreamAccountSwitches
  retries : ∀ accountID, l.requestScopedRetries accountID ≤ maxRequestScopedCapacityRetries
  held : reservation none log = some (some l.access.accountID)
  silent : responses log = 0
  counted : ∀ accountID, (forwards log).count accountID ≤ spent l accountID
  visited : ∀ accountID ∈ forwards log, accountID ∈ l.excludedAccountIDs ∨ accountID = l.access.accountID

/-- What a pass that goes round again does to the account and to the budgets. -/
lemma Moves.loop_kept (h : Moves toLower r blocked l new (some l'))
    (hcandidates : ∀ c ∈ r.candidates, c.access.accountID ∈ accounts) (hl : Looping accounts pricing l log) :
    l'.access.accountID ∉ l'.excludedAccountIDs ∧ l'.access.accountID ∈ accounts ∧ l'.access.pricing = pricing ∧
      l'.switches ≤ maxUpstreamAccountSwitches ∧
      (∀ accountID, l'.requestScopedRetries accountID ≤ maxRequestScopedCapacityRetries) ∧
      ∀ accountID, accountID ∈ l.excludedAccountIDs ∨ accountID = l.access.accountID →
        accountID ∈ l'.excludedAccountIDs ∨ accountID = l'.access.accountID := by
  have hknown : ∀ next, (found r l).2 = some next → next.accountID ∈ accounts := by
    intro next hfound
    obtain ⟨c, hc, rfl⟩ := found_mem hfound
    exact hcandidates c hc
  cases h with
  | skipped _ hfound =>
    have hfresh := found_fresh hfound
    have hnext := hknown _ hfound
    refine ⟨hfresh, hnext, hl.priced, hl.switches, hl.retries, ?_⟩
    intro accountID ha
    exact .inl (by simpa [Loop.moveTo] using ha)
  | refreshed => exact ⟨hl.fresh, hl.known, hl.priced, hl.switches, hl.retries, fun _ => id⟩
  | retried _ _ _ hleft =>
    refine ⟨hl.fresh, hl.known, hl.priced, hl.switches, ?_, fun _ => id⟩
    intro accountID
    simp only [Loop.retry]
    by_cases h : accountID = l.access.accountID
    · rw [h, Function.update_self]
      exact hleft
    · rw [Function.update_of_ne h]
      exact hl.retries accountID
  | switched _ _ _ hleft hfound =>
    have hfresh := found_fresh hfound
    have hnext := hknown _ hfound
    refine ⟨hfresh, hnext, hl.priced, hleft, hl.retries, ?_⟩
    intro accountID ha
    exact .inl (by simpa [Loop.moveTo] using ha)

lemma Looping.visited_append (hl : Looping accounts pricing l log) {loop' : Option Loop}
    (h : Moves toLower r blocked l new loop') :
    ∀ accountID ∈ forwards (log ++ new), accountID ∈ l.excludedAccountIDs ∨ accountID = l.access.accountID := by
  intro accountID ha
  rw [forwards_append, List.mem_append] at ha
  cases ha with
  | inl ha => exact hl.visited accountID ha
  | inr ha =>
    rcases h.forwards_eq with hnone | ⟨hone, -⟩
    · simp [hnone] at ha
    · rw [hone] at ha
      exact .inr (List.mem_singleton.mp ha)

lemma Looping.moves (hl : Looping accounts pricing l log) (h : Moves toLower r blocked l new (some l'))
    (hcandidates : ∀ c ∈ r.candidates, c.access.accountID ∈ accounts) : Looping accounts pricing l' (log ++ new) := by
  obtain ⟨hfresh, hknown, hpriced, hswitches, hretries, hvisited⟩ := h.loop_kept hcandidates hl
  refine ⟨hfresh, hknown, hpriced, hl.pinned, hswitches, hretries, ?_, ?_, ?_, ?_⟩
  · rw [reservation_append, hl.held, Option.bind_some, h.reservation_eq]
    rfl
  · have hle := h.responses_le
    rw [if_neg (by simp)] at hle
    rw [responses_append, hl.silent]
    omega
  · intro accountID
    have hspent := h.spent_le hl.fresh accountID
    have hcounted := hl.counted accountID
    rw [forwards_append, List.count_append]
    omega
  · intro accountID ha
    exact hvisited accountID (hl.visited_append h accountID ha)

/-- The handler, in its loop or after it. -/
structure Sound (accounts : Finset String) (pricing : Option String) (h : Handler Usage) : Prop where
  looping : ∀ l, h.loop = some l → Looping accounts pricing l h.log
  returned : h.loop = none → reservation none h.log = some none
  responses : responses h.log ≤ 1
  calls : ∀ accountID, (forwards h.log).count accountID ≤ 2 + maxRequestScopedCapacityRetries
  recorded : ∀ metric, .recorded metric ∈ h.log → metric.access.pricing = pricing ∧ pricing.isSome

lemma Looping.spent_le (hl : Looping accounts pricing l log) (accountID : String) :
    spent l accountID ≤ 2 + maxRequestScopedCapacityRetries := by
  have hretries := hl.retries accountID
  unfold spent
  omega

lemma Sound.round {h : Handler Usage} (hs : Sound accounts pricing h)
    (hcandidates : ∀ c ∈ r.candidates, c.access.accountID ∈ accounts) :
    Sound accounts pricing (h.round toLower g model r) := by
  cases hloop : h.loop with
  | none =>
    have hsame : h.round toLower g model r = h := by
      unfold Handler.round
      rw [hloop]
    rw [hsame]
    exact hs
  | some l =>
    have hl := hs.looping l hloop
    obtain ⟨new, loop', hmoves, hlog, hloop'⟩ := round_moves toLower g model h r hloop
    constructor
    · intro l' hl'
      rw [hlog]
      rw [hloop'] at hl'
      subst hl'
      exact hl.moves hmoves hcandidates
    · intro hnone
      rw [hloop'] at hnone
      subst hnone
      rw [hlog, reservation_append, hl.held, Option.bind_some, hmoves.reservation_eq]
      rfl
    · have hle := hmoves.responses_le
      rw [hlog, responses_append, hl.silent]
      split_ifs at hle <;> omega
    · intro accountID
      have hcount := hmoves.count_le accountID
      have hcounted := hl.counted accountID
      rw [hlog, forwards_append, List.count_append]
      split_ifs at hcount with hcur
      · -- the account is not excluded, so its last attempt is still to be accounted for
        have hretries := hl.retries accountID
        have hzero : l.excludedAccountIDs.count accountID = 0 := List.count_eq_zero.mpr (hcur ▸ hl.fresh)
        unfold spent at hcounted
        omega
      · have hspent := hl.spent_le accountID
        omega
    · intro metric hmem
      rw [hlog] at hmem
      cases List.mem_append.mp hmem with
      | inl hmem => exact hs.recorded metric hmem
      | inr hmem =>
        rw [hmoves.recorded_access hmem]
        exact ⟨hl.priced, hl.pinned⟩

/-- A handler that returns before its loop has called `Forward` for no account. -/
lemma sound_of_early {protections : Protection} (hreserved : reservation none log = some none)
    (hresponses : responses log ≤ 1) (hforwards : forwards log = [])
    (hrecorded : ∀ metric, .recorded metric ∈ log → metric.access.pricing = pricing ∧ pricing.isSome) :
    Sound accounts pricing ⟨none, protections, log⟩ where
  looping := by simp
  returned := fun _ => hreserved
  responses := hresponses
  calls := by simp [hforwards]
  recorded := hrecorded

lemma begin_sound (request : Request Usage) (protections : Protection)
    (hcandidates : ∀ c ∈ request.candidates, c.access.accountID ∈ accounts) :
    Sound accounts request.pricing (begin request protections) := by
  unfold begin
  have hreserved : reservation none (acquire [] request.candidates : List (Event Usage) × Option Access).1 = _ :=
    acquire_reservation ..
  have hresponses : responses (acquire [] request.candidates : List (Event Usage) × Option Access).1 = 0 :=
    responses_acquire ..
  have hforwards : forwards (acquire [] request.candidates : List (Event Usage) × Option Access).1 = [] :=
    forwards_acquire ..
  have hrecorded : ∀ metric : Metric Usage, .recorded metric ∉ (acquire [] request.candidates).1 :=
    recorded_notMem_acquire _ _
  have hresult : (acquire [] request.candidates : List (Event Usage) × Option Access).2 = _ := acquire_result ..
  split
  · next search hacquire =>
    rw [hacquire] at hreserved hresponses hforwards hrecorded
    refine sound_of_early ?_ ?_ ?_ ?_
    · simp [reservation_append, hreserved, reserve]
    · simp [hresponses, Event.response?]
    · simp [hforwards, Event.forwarded?]
    · simp [hrecorded]
  · next search access hacquire =>
    rw [hacquire] at hreserved hresponses hforwards hrecorded hresult
    have hknown : access.accountID ∈ accounts := by
      obtain ⟨c, hc, hca⟩ := List.mem_map.mp (List.mem_of_find?_eq_some hresult.symm)
      rw [← hca]
      exact hcandidates c (List.mem_of_mem_filter hc)
    split
    · refine sound_of_early ?_ ?_ ?_ ?_
      · simp [reservation_append, hreserved, reserve]
      · simp [hresponses, Event.response?]
      · simp [hforwards, Event.forwarded?]
      · simp [hrecorded]
    · next version hversion =>
      have hpricing : request.pricing = some version := by
        split_ifs at hversion
        exact hversion
      dsimp only
      split
      · refine sound_of_early ?_ ?_ ?_ ?_
        · simp [reservation_append, hreserved, reserve]
        · simp [hresponses, Event.response?]
        · simp [hforwards, Event.forwarded?]
        · intro metric hmem
          simp only [List.mem_append, hrecorded, false_or, List.mem_cons, Event.recorded.injEq, reduceCtorEq,
            List.not_mem_nil, or_false] at hmem
          rw [hmem, hpricing]
          exact ⟨rfl, rfl⟩
      · constructor
        · intro l hl
          cases hl
          refine ⟨by simp, hknown, hpricing.symm, by simp [hpricing], by simp, by simp, hreserved, hresponses, ?_, ?_⟩
          · simp [hforwards]
          · simp [hforwards]
        · simp
        · simp [hresponses]
        · simp [hforwards]
        · simp [hrecorded]

lemma after_sound (toLower : String → String) (request : Request Usage) (protections : Protection)
    (world : ℕ → Round Usage) (hrequest : ∀ c ∈ request.candidates, c.access.accountID ∈ accounts)
    (hworld : ∀ n, ∀ c ∈ (world n).candidates, c.access.accountID ∈ accounts) (n : ℕ) :
    Sound accounts request.pricing (after toLower request protections world n) := by
  induction n with
  | zero => exact begin_sound request protections hrequest
  | succ n ih => exact ih.round (hworld n)

end Invariant

section Termination

variable {accounts : Finset String} {pricing : Option String} {blocked : Bool} {new log : List (Event Usage)}

/-- The passes that an account has left in it. -/
def passesLeft (l : Loop) (accountID : String) : ℕ :=
  if accountID ∈ l.excludedAccountIDs then 0
  else 1 + (1 - l.authRefreshed.count accountID) + (maxRequestScopedCapacityRetries - l.requestScopedRetries accountID)

def potential (accounts : Finset String) (l : Loop) : ℕ := ∑ accountID ∈ accounts, passesLeft l accountID

lemma passesLeft_le (l : Loop) (accountID : String) : passesLeft l accountID ≤ 5 := by
  unfold passesLeft maxRequestScopedCapacityRetries
  split_ifs <;> omega

lemma passesLeft_moveTo (l : Loop) (next : Access) (switches : ℕ) {authRefreshed : List String}
    (hauth : authRefreshed = l.authRefreshed ∨ authRefreshed = l.access.accountID :: l.authRefreshed)
    (hfresh : l.access.accountID ∉ l.excludedAccountIDs) (accountID : String) :
    passesLeft { l.moveTo next with switches := switches, authRefreshed := authRefreshed } accountID +
      (if accountID = l.access.accountID then 1 else 0) ≤ passesLeft l accountID := by
  have hauth' : l.authRefreshed.count accountID ≤ authRefreshed.count accountID := by
    rcases hauth with rfl | rfl
    · exact le_rfl
    · exact List.count_le_count_cons
  by_cases hcur : accountID = l.access.accountID
  · subst hcur
    simp [passesLeft, Loop.moveTo, hfresh]
    omega
  · by_cases hmem : accountID ∈ l.excludedAccountIDs
    · simp [passesLeft, Loop.moveTo, hmem, hcur]
    · simp only [passesLeft, Loop.moveTo, List.mem_append, List.mem_singleton, hmem, hcur, or_self, if_false]
      omega

/-- Every pass that goes round again takes one from the account that it was on. -/
lemma Moves.passesLeft_lt (h : Moves toLower r blocked l new (some l'))
    (hfresh : l.access.accountID ∉ l.excludedAccountIDs) (accountID : String) :
    passesLeft l' accountID + (if accountID = l.access.accountID then 1 else 0) ≤ passesLeft l accountID := by
  cases h with
  | skipped => exact passesLeft_moveTo l _ _ (.inl rfl) hfresh accountID
  | refreshed _ hrefreshed =>
    obtain ⟨_, _, _, _, hmem⟩ := hrefreshed
    by_cases hcur : accountID = l.access.accountID
    · subst hcur
      simp only [passesLeft, hfresh, List.count_cons_self, List.count_eq_zero.mpr hmem, if_false, if_true]
      omega
    · simp only [passesLeft, List.count_cons_of_ne (Ne.symm hcur), hcur, if_false]
      omega
  | retried _ _ _ hleft =>
    by_cases hcur : accountID = l.access.accountID
    · subst hcur
      simp only [passesLeft, Loop.retry, hfresh, Function.update_self, if_false, if_true]
      omega
    · simp only [passesLeft, Loop.retry, Function.update_of_ne hcur, hcur, if_false]
      omega
  | switched _ _ _ _ _ auth hauth => exact passesLeft_moveTo l _ _ hauth hfresh accountID

lemma Moves.potential_lt (h : Moves toLower r blocked l new (some l')) (hl : Looping accounts pricing l log) :
    potential accounts l' < potential accounts l := by
  apply Finset.sum_lt_sum
  · intro accountID _
    have hle := h.passesLeft_lt hl.fresh accountID
    omega
  · refine ⟨l.access.accountID, hl.known, ?_⟩
    have hle := h.passesLeft_lt hl.fresh l.access.accountID
    rw [if_pos rfl] at hle
    omega

lemma round_returned {h : Handler Usage} (hloop : h.loop = none) : h.round toLower g model r = h := by
  unfold Handler.round
  rw [hloop]

/-- As long as the handler loops, its passes and what it has left add up to no more than at the start. -/
lemma potential_after (toLower : String → String) (request : Request Usage) (protections : Protection)
    (world : ℕ → Round Usage) (hrequest : ∀ c ∈ request.candidates, c.access.accountID ∈ accounts)
    (hworld : ∀ n, ∀ c ∈ (world n).candidates, c.access.accountID ∈ accounts) (n : ℕ)
    (hloop : (after toLower request protections world n).loop = some l) :
    potential accounts l + n ≤ 5 * accounts.card := by
  induction n generalizing l with
  | zero =>
    calc potential accounts l + 0 ≤ ∑ _ ∈ accounts, 5 := Finset.sum_le_sum fun a _ => passesLeft_le l a
      _ = 5 * accounts.card := by rw [Finset.sum_const, smul_eq_mul, Nat.mul_comm]
  | succ n ih =>
    have hsound := after_sound toLower request protections world hrequest hworld n
    cases hbefore : (after toLower request protections world n).loop with
    | none =>
      rw [after, round_returned hbefore, hbefore] at hloop
      cases hloop
    | some l₀ =>
      obtain ⟨new, loop', hmoves, -, hloop'⟩ := round_moves toLower (gatewayRequestID request.headers) request.model
        (after toLower request protections world n) (world n) hbefore
      rw [after, hloop'] at hloop
      subst hloop
      have hlt := hmoves.potential_lt (hsound.looping l₀ hbefore)
      have hle := ih hbefore
      omega

lemma terminates (toLower : String → String) (request : Request Usage) (protections : Protection)
    (world : ℕ → Round Usage) (hrequest : ∀ c ∈ request.candidates, c.access.accountID ∈ accounts)
    (hworld : ∀ n, ∀ c ∈ (world n).candidates, c.access.accountID ∈ accounts) :
    (after toLower request protections world (5 * accounts.card)).loop = none := by
  cases hloop : (after toLower request protections world (5 * accounts.card)).loop with
  | none => rfl
  | some l =>
    have hle := potential_after toLower request protections world hrequest hworld _ hloop
    have hsound := (after_sound toLower request protections world hrequest hworld _).looping l hloop
    -- the account that the loop is on has a pass left
    have hpos : 1 ≤ passesLeft l l.access.accountID := by
      rw [passesLeft, if_neg hsound.fresh]
      omega
    have hsum : passesLeft l l.access.accountID ≤ potential accounts l :=
      Finset.single_le_sum (fun _ _ => Nat.zero_le _) hsound.known
    omega

end Termination

section Exclusion

/-- An excluded account stays excluded and gets no further call. -/
lemma excluded_not_forwarded (toLower : String → String) {accounts : Finset String} (request : Request Usage)
    (protections : Protection) (world : ℕ → Round Usage)
    (hrequest : ∀ c ∈ request.candidates, c.access.accountID ∈ accounts)
    (hworld : ∀ n, ∀ c ∈ (world n).candidates, c.access.accountID ∈ accounts) {n : ℕ} {accountID : String}
    (hloop : (after toLower request protections world n).loop = some l) (hmem : accountID ∈ l.excludedAccountIDs)
    (k : ℕ) :
    (∃ later, (after toLower request protections world (n + k)).log =
        (after toLower request protections world n).log ++ later ∧ accountID ∉ forwards later) ∧
      ∀ l', (after toLower request protections world (n + k)).loop = some l' → accountID ∈ l'.excludedAccountIDs := by
  induction k with
  | zero =>
    refine ⟨⟨[], by simp⟩, ?_⟩
    intro l' hl'
    rw [Nat.add_zero, hloop] at hl'
    cases hl'
    exact hmem
  | succ k ih =>
    obtain ⟨⟨later, hlog, hnone⟩, hkept⟩ := ih
    cases hbefore : (after toLower request protections world (n + k)).loop with
    | none =>
      rw [← Nat.add_assoc, after, round_returned hbefore]
      exact ⟨⟨later, hlog, hnone⟩, hkept⟩
    | some l₀ =>
      have hl₀ := (after_sound toLower request protections world hrequest hworld (n + k)).looping l₀ hbefore
      obtain ⟨new, loop', hmoves, hlog', hloop'⟩ := round_moves toLower (gatewayRequestID request.headers)
        request.model (after toLower request protections world (n + k)) (world (n + k)) hbefore
      have hmem₀ := hkept l₀ hbefore
      rw [← Nat.add_assoc, after]
      constructor
      · refine ⟨later ++ new, ?_, ?_⟩
        · rw [hlog', hlog, List.append_assoc]
        · rw [forwards_append, List.mem_append, not_or]
          refine ⟨hnone, ?_⟩
          rcases hmoves.forwards_eq with hempty | ⟨hone, -⟩
          · simp [hempty]
          · rw [hone, List.mem_singleton]
            intro heq
            exact hl₀.fresh (heq ▸ hmem₀)
      · intro l' hl'
        rw [hloop'] at hl'
        subst hl'
        exact hmoves.excluded_subset hmem₀

end Exclusion

section Blocks

/-- A step of another request that blocks no model. -/
def BlocksNoModel (step : ProtectionModel.Step) : Prop := ∀ key now, step ≠ .blockModel key now

lemma lookup_pruneLocked {p : Protection} {key : String} (h : p.modelBlocks.lookup key = none) (now : ℤ) :
    (p.pruneLocked now).modelBlocks.lookup key = none := by
  cases hlookup : (p.pruneLocked now).modelBlocks.lookup key with
  | none => rfl
  | some until_ =>
    rw [lookup_dropWhenLarge hlookup] at h
    cases h

lemma lookup_erase {m : FiniteMap String ℤ} {key : String} (h : m.lookup key = none) (key' : String) :
    AList.lookup key (m.erase key') = none := by
  by_cases hkey : key = key'
  · subst hkey
    exact AList.lookup_erase key m
  · rw [AList.lookup_erase_ne hkey, h]

lemma lookup_modelBlocked {p : Protection} {key : String} (h : p.modelBlocks.lookup key = none) (key' : String)
    (now : ℤ) : (ProtectionModel.modelBlocked p key' now).1.modelBlocks.lookup key = none := by
  unfold ProtectionModel.modelBlocked
  split_ifs with hle
  · exact lookup_erase h key'
  · exact h

lemma lookup_step {s : ProtectionModel.System} {key : String} (h : s.state.modelBlocks.lookup key = none)
    {step : ProtectionModel.Step} (hstep : BlocksNoModel step) :
    (ProtectionModel.step s step).state.modelBlocks.lookup key = none := by
  cases step with
  | admitAPIKey apiKeyID now =>
    have hpruned := lookup_pruneLocked h now
    simp only [ProtectionModel.step, ProtectionModel.admitAPIKey]
    split_ifs <;> first | exact h | exact hpruned
  | backoffAPIKey apiKeyID retryAfter now =>
    simp only [ProtectionModel.step, ProtectionModel.backoffAPIKey]
    split_ifs
    · exact h
    · exact lookup_pruneLocked h now
    · exact lookup_pruneLocked h now
  | blockModel key' now => exact absurd rfl (hstep key' now)
  | modelBlocked key' now => exact lookup_modelBlocked h key' now
  | clearModel key' => exact lookup_erase h key'

lemma lookup_others {s : ProtectionModel.System} {key : String} (h : s.state.modelBlocks.lookup key = none)
    {others : List ProtectionModel.Step} (hothers : ∀ step ∈ others, BlocksNoModel step) :
    (others.foldl ProtectionModel.step s).state.modelBlocks.lookup key = none := by
  induction others generalizing s with
  | nil => exact h
  | cons step others ih =>
    exact ih (lookup_step h (hothers step (List.mem_cons_self ..))) fun x hx => hothers x (List.mem_cons_of_mem _ hx)

/-- A model that was not blocked is not found blocked, as long as the other requests block none. -/
lemma check_unblocked {protections : Protection}
    (h : protections.modelBlocks.lookup (gatewayModelKey toLower l.access.accountID model) = none)
    (hothers : ∀ step ∈ r.others, BlocksNoModel step) : (r.check toLower model protections l).2 = false := by
  have hlookup := lookup_others (s := ⟨protections, []⟩) h hothers
  unfold Round.check ProtectionModel.modelBlocked
  rw [hlookup, if_pos (by simpa using r.now_valid)]

/-- After a check that passes the model is not blocked. -/
lemma lookup_of_check {protections : Protection} (h : (r.check toLower model protections l).2 = false) :
    (r.check toLower model protections l).1.modelBlocks.lookup (gatewayModelKey toLower l.access.accountID model) =
      none := by
  unfold Round.check ProtectionModel.modelBlocked at h ⊢
  split_ifs with hle
  · exact AList.lookup_erase ..
  · rw [if_neg hle] at h
    cases h

/-- The accounts of the calls so far are paid for by switches, up to the one that the loop is on, and the model is
not blocked on that one once it was called. -/
structure Confined (toLower : String → String) (model : String) (h : Handler Usage) : Prop where
  looping : ∀ l, h.loop = some l →
    (forwards h.log).toFinset.card ≤ l.switches + (if l.access.accountID ∈ forwards h.log then 1 else 0) ∧
      (l.access.accountID ∈ forwards h.log →
        h.protections.modelBlocks.lookup (gatewayModelKey toLower l.access.accountID model) = none)
  total : (forwards h.log).toFinset.card ≤ maxUpstreamAccountSwitches + 1

lemma round_protections {h : Handler Usage} (hloop : h.loop = some l) :
    (h.round toLower g model r).protections =
      if r.blocks toLower (r.check toLower model h.protections l).2 then
        ProtectionModel.blockModel (r.check toLower model h.protections l).1
          (gatewayModelKey toLower l.access.accountID r.policyModel) r.blockedAt
      else (r.check toLower model h.protections l).1 := by
  unfold Handler.round
  rw [hloop]
  dsimp only
  split <;> rfl

lemma card_forwards_cons (log : List (Event Usage)) (accountID : String) :
    (forwards log ++ [accountID]).toFinset.card ≤
      (forwards log).toFinset.card + (if accountID ∈ forwards log then 0 else 1) := by
  rw [List.toFinset_append, List.toFinset_cons, List.toFinset_nil, insert_empty_eq, Finset.union_comm,
    ← Finset.insert_eq]
  split_ifs with hmem
  · rw [Finset.insert_eq_of_mem (List.mem_toFinset.mpr hmem)]
    rfl
  · exact Finset.card_insert_le ..

lemma Confined.round {h : Handler Usage} {accounts : Finset String} {pricing : Option String}
    (hc : Confined toLower model h) (hs : Sound accounts pricing h)
    (hcandidates : ∀ c ∈ r.candidates, c.access.accountID ∈ accounts)
    (hothers : ∀ step ∈ r.others, BlocksNoModel step) : Confined toLower model (h.round toLower g model r) := by
  cases hloop : h.loop with
  | none =>
    rw [round_returned hloop]
    exact hc
  | some l =>
    have hl := hs.looping l hloop
    obtain ⟨hcard, hunblocked⟩ := hc.looping l hloop
    obtain ⟨new, loop', hmoves, hlog, hloop'⟩ := round_moves toLower g model h r hloop
    have hprotections : (h.round toLower g model r).protections = _ := round_protections hloop
    set blocked := (r.check toLower model h.protections l).2 with hblocked
    -- one more account at most, and only if the loop's own was not called before
    have hcard' : (forwards (h.log ++ new)).toFinset.card ≤ l.switches + 1 := by
      rw [forwards_append]
      rcases hmoves.forwards_eq with hnone | ⟨hone, -⟩
      · rw [hnone, List.append_nil]
        split_ifs at hcard <;> omega
      · rw [hone]
        have hcons := card_forwards_cons h.log l.access.accountID
        split_ifs at hcard hcons <;> omega
    have hstays : blocked = false → r.blocks toLower blocked = false →
        (h.round toLower g model r).protections.modelBlocks.lookup
          (gatewayModelKey toLower l.access.accountID model) = none := by
      intro hfalse hkept
      rw [hprotections, if_neg (by simp [hkept])]
      exact lookup_of_check hfalse
    refine ⟨?_, ?_⟩
    · intro l' hl'
      rw [hloop'] at hl'
      subst hl'
      have hfresh := (hl.moves hmoves hcandidates).fresh
      rw [hlog]
      have hmoved : l.access.accountID ∈ l'.excludedAccountIDs → l'.access.accountID ∉ forwards (h.log ++ new) := by
        intro hleft hmem
        rcases hl.visited_append hmoves _ hmem with hexcluded | heq
        · exact hfresh (hmoves.excluded_subset hexcluded)
        · exact hfresh (heq ▸ hleft)
      cases hmoves with
      | skipped htrue hfound =>
        have hnone := hmoved (by simp [Loop.moveTo])
        -- the account was not called: then its model would not be blocked
        have huncalled : l.access.accountID ∉ forwards h.log := by
          intro hmem
          rw [hblocked, check_unblocked (hunblocked hmem) hothers] at htrue
          cases htrue
        have hsearch : forwards (found r l).1 = [] := forwards_acquire ..
        rw [if_neg huncalled] at hcard
        refine ⟨?_, fun hmem => absurd hmem hnone⟩
        rw [if_neg hnone, forwards_append, forwards_cons, hsearch]
        simpa [Event.forwarded?, Loop.moveTo] using hcard
      | refreshed hfalse _ hkept =>
        refine ⟨?_, fun _ => hstays hfalse hkept⟩
        rw [if_pos (by simp [Event.forwarded?])]
        exact hcard'
      | retried hfalse _ _ _ hkept =>
        refine ⟨?_, fun _ => hstays hfalse hkept⟩
        rw [if_pos (by simp [Event.forwarded?, Loop.retry])]
        exact hcard'
      | switched _ _ _ _ hfound =>
        have hnone := hmoved (by simp [Loop.moveTo])
        refine ⟨?_, fun hmem => absurd hmem hnone⟩
        rw [if_neg hnone]
        exact hcard'
    · rw [hlog]
      have hswitches := hl.switches
      omega

end Blocks

section Claims

variable {accounts : Finset String}

lemma begin_confined (toLower : String → String) (request : Request Usage) (protections : Protection) :
    Confined toLower request.model (begin request protections) := by
  have hforwards : forwards (begin request protections).log = [] := by
    have hsearch : forwards (acquire [] request.candidates : List (Event Usage) × Option Access).1 = [] :=
      forwards_acquire ..
    unfold begin
    split
    · next h => simp_all [Event.forwarded?]
    · next h =>
      split
      · simp_all [Event.forwarded?]
      · dsimp only
        split <;> simp_all [Event.forwarded?]
  refine ⟨?_, by simp [hforwards]⟩
  intro l hl
  simp [hforwards]

lemma after_confined (toLower : String → String) (request : Request Usage) (protections : Protection)
    (world : ℕ → Round Usage) (hrequest : ∀ c ∈ request.candidates, c.access.accountID ∈ accounts)
    (hworld : ∀ n, ∀ c ∈ (world n).candidates, c.access.accountID ∈ accounts)
    (hothers : ∀ n, ∀ step ∈ (world n).others, BlocksNoModel step) (n : ℕ) :
    Confined toLower request.model (after toLower request protections world n) := by
  induction n with
  | zero => exact begin_confined toLower request protections
  | succ n ih =>
    exact ih.round (after_sound toLower request protections world hrequest hworld n) (hworld n) (hothers n)

/-- For all answers of the outside over finitely many accounts, the handler returns; and at every pass up to then it
has kept to its budgets, to one reservation, to one response and to the pricing that it began with. An attempt is
recorded unless the account gets a new token for it, in which case it is repeated. -/
theorem failover_keeps_to_budgets (toLower : String → String) (request : Request Usage) (protections : Protection)
    (world : ℕ → Round Usage) (accounts : Finset String)
    (hrequest : ∀ c ∈ request.candidates, c.access.accountID ∈ accounts)
    (hworld : ∀ n, ∀ c ∈ (world n).candidates, c.access.accountID ∈ accounts) :
    let handler := after toLower request protections world
    (handler (5 * accounts.card)).loop = none ∧
      ∀ n,
        (∀ l, (handler n).loop = some l → ∀ accountID ∈ l.excludedAccountIDs, ∀ k, ∃ later,
          (handler (n + k)).log = (handler n).log ++ later ∧ accountID ∉ forwards later) ∧
        (∀ accountID, (forwards (handler n).log).count accountID ≤ 2 + maxRequestScopedCapacityRetries) ∧
        ((∀ k, ∀ step ∈ (world k).others, BlocksNoModel step) →
          (forwards (handler n).log).toFinset.card ≤ maxUpstreamAccountSwitches + 1) ∧
        (∀ earlier, earlier <+: (handler n).log → (reservation none earlier).isSome) ∧
        ((handler n).loop = none → reservation none (handler n).log = some none) ∧
        responses (handler n).log ≤ 1 ∧
        (∀ metric, .recorded metric ∈ (handler n).log →
          metric.access.pricing = request.pricing ∧ request.pricing.isSome) ∧
        ∀ l, (handler n).loop = some l → ∃ new, (handler (n + 1)).log = (handler n).log ++ new ∧
          ∀ accountID, .forwarded accountID ∈ new →
            accountID = l.access.accountID ∧
              ((∃ metric, .recorded metric ∈ new ∧ metric.access = l.access) ∨ tokenRefreshed (world n) l) := by
  intro handler
  refine ⟨terminates toLower request protections world hrequest hworld, ?_⟩
  intro n
  have hsound := after_sound toLower request protections world hrequest hworld n
  refine ⟨?_, hsound.calls, ?_, ?_, hsound.returned, hsound.responses, hsound.recorded, ?_⟩
  · intro l hl accountID hmem k
    exact (excluded_not_forwarded toLower request protections world hrequest hworld hl hmem k).1
  · intro hothers
    exact (after_confined toLower request protections world hrequest hworld hothers n).total
  · rintro earlier ⟨later, hlog⟩
    have hheld : (reservation none (handler n).log).isSome := by
      cases hloop : (handler n).loop with
      | none => rw [hsound.returned hloop]; rfl
      | some l => rw [(hsound.looping l hloop).held]; rfl
    rw [← hlog] at hheld
    exact reservation_of_append hheld
  · intro l hl
    obtain ⟨new, loop', hmoves, hlog, -⟩ := round_moves toLower (gatewayRequestID request.headers) request.model
      (handler n) (world n) hl
    refine ⟨new, hlog, ?_⟩
    intro accountID hmem
    constructor
    · have hforward : accountID ∈ forwards new := List.mem_filterMap.mpr ⟨_, hmem, rfl⟩
      rcases hmoves.forwards_eq with hnone | ⟨hone, -⟩
      · simp [hnone] at hforward
      · rw [hone] at hforward
        exact List.mem_singleton.mp hforward
    · rcases hmoves.recorded_or_refreshed hmem with ⟨metric, hmetric⟩ | hrefreshed
      · exact .inl ⟨metric, hmetric, hmoves.recorded_access hmetric⟩
      · exact .inr hrefreshed

/-- The only candidate of a key. -/
def onlyCandidate : Candidate := ⟨⟨"key", "plan", "member", "account", 1, none⟩, .granted⟩

def plainRequest : Request Unit :=
  ⟨⟨"", "", "drawn"⟩, [onlyCandidate], true, some "pricing", .prepared, "model"⟩

/-- A response with the given status, which brings a new token if it is a 401. -/
def answer (status : ℕ) : Round Unit where
  others := []
  now := 0
  now_valid := by decide
  policy := .applied
  policyModel := "model"
  forward := .answered ⟨status, "", "", (), false, true, .completed, true, false, false⟩
  blockedAt := 0
  candidates := [onlyCandidate]

/-- The first attempt is answered with a 401, and the second is accepted. -/
def renewedToken (n : ℕ) : Round Unit := answer (if n = 0 then 401 else 200)

theorem failover_keeps_to_budgets_renewedToken :
    let handler := after id plainRequest (ProtectionModel.newGatewayProtectionState 300) renewedToken
    (handler 5).loop = none ∧ forwards (handler 5).log = ["account", "account"] ∧
      (forwards (handler 5).log).count "account" ≤ 2 + maxRequestScopedCapacityRetries :=
  have h := failover_keeps_to_budgets id plainRequest (ProtectionModel.newGatewayProtectionState 300) renewedToken
    {"account"} (by decide) fun _ => show ∀ c ∈ [onlyCandidate], c.access.accountID ∈ _ by decide
  ⟨h.1, by decide, (h.2 5).2.1 "account"⟩

/-- An attempt without a record. -/
theorem renewedToken_leaves_no_record :
    let handler := after id plainRequest (ProtectionModel.newGatewayProtectionState 300) renewedToken
    forwards (handler 1).log = ["account"] ∧ (handler 1).log.filterMap Event.metric? = [] ∧
      (handler 2).loop.isNone ∧ forwards (handler 2).log = ["account", "account"] ∧
        ((handler 2).log.filterMap Event.metric?).length = 1 := by
  decide

end Claims

end ShareSub.FailoverSafety

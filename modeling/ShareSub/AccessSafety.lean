import Mathlib
import ShareSub.AccessModel
import ShareSub.TurnEnding

/-!
# The reservations and the pin of a session

What is acquired is held by the turn alone and given back once, on every path. A turn is served on the connection of the
account that it holds, and that account is the pinned one when the next turn begins.
-/
namespace ShareSub.AccessSafety

open TurnModel AccessModel TurnEnding

section Ledger

variable {r : Reservations} {held : Option ℕ} {accountID : String} {failed : List String} {P : Credential → Prop}

/-- The callback of each reservation was called once, except for the one that is held. No reservation is for an account
that had failed. -/
structure Ledger (r : Reservations) (held : Option ℕ) : Prop where
  nodup : r.released.Nodup
  released : ∀ i, i ∈ r.released ↔ i < r.acquired.length ∧ held ≠ some i
  bounded : ∀ i, held = some i → i < r.acquired.length
  fresh : ∀ x ∈ r.acquired, x.accountID ∉ x.failed

lemma ledger_initial : Ledger ⟨[], []⟩ none := by
  refine ⟨List.nodup_nil, fun i => ?_, nofun, nofun⟩
  simp

lemma Ledger.acquire (h : Ledger r none) (hfresh : accountID ∉ failed) :
    Ledger (r.acquire accountID failed) (some r.acquired.length) := by
  refine ⟨h.nodup, fun i => ?_, fun i hi => ?_, fun x hx => ?_⟩
  · have hreleased := h.released i
    simp only [Reservations.acquire, List.length_append, List.length_singleton, ne_eq, Option.some.injEq]
    rw [hreleased]
    simp only [ne_eq, reduceCtorEq, not_false_eq_true, and_true]
    omega
  · cases hi
    simp [Reservations.acquire]
  · rcases List.mem_append.mp hx with hx | hx
    · exact h.fresh x hx
    · rw [List.mem_singleton.mp hx]
      exact hfresh

lemma Ledger.release (h : Ledger r held) : Ledger (r.release held) none := by
  cases held with
  | none => exact h
  | some k =>
    have hk : k ∉ r.released := fun hmem => ((h.released k).mp hmem).2 rfl
    refine ⟨?_, fun i => ?_, fun i hi => absurd hi (Option.some_ne_none i).symm, h.fresh⟩
    · exact List.nodup_append.mpr ⟨h.nodup, List.nodup_singleton k, fun i hi j hj => by
        rw [List.mem_singleton.mp hj]
        rintro rfl
        exact hk hi⟩
    · simp only [Reservations.release, List.mem_append, List.mem_singleton, h.released i]
      constructor
      · rintro (⟨hi, -⟩ | rfl)
        · exact ⟨hi, (Option.some_ne_none i).symm⟩
        · exact ⟨h.bounded i rfl, (Option.some_ne_none i).symm⟩
      · rintro ⟨hi, -⟩
        by_cases hik : i = k
        · exact Or.inr hik
        · exact Or.inl ⟨hi, fun heq => hik (Option.some.inj heq).symm⟩

lemma Ledger.outstanding_none (h : Ledger r none) : r.outstanding = [] := by
  unfold Reservations.outstanding
  rw [List.filter_eq_nil_iff]
  intro i hi
  have hreleased := (h.released i).mpr ⟨List.mem_range.mp hi, nofun⟩
  simpa using hreleased

lemma Ledger.outstanding_some {k : ℕ} (h : Ledger r (some k)) : r.outstanding = [k] := by
  have hnodup : r.outstanding.Nodup := List.nodup_range.filter _
  rw [← List.perm_singleton, List.perm_ext_iff_of_nodup hnodup (List.nodup_singleton k)]
  intro i
  simp only [Reservations.outstanding, List.mem_filter, List.mem_range, decide_eq_true_eq, h.released i, List.mem_singleton]
  constructor
  · rintro ⟨hi, hnot⟩
    by_contra hik
    exact hnot ⟨hi, fun heq => hik (Option.some.inj heq).symm⟩
  · rintro rfl
    exact ⟨h.bounded i rfl, fun hreleased => hreleased.2 rfl⟩

/-- When nothing is held, every reservation was given back exactly once. -/
lemma Ledger.released_once (h : Ledger r none) : r.released.Perm (List.range r.acquired.length) := by
  rw [List.perm_ext_iff_of_nodup h.nodup List.nodup_range]
  intro i
  rw [h.released i, List.mem_range]
  exact and_iff_left nofun

/-- The access has a reservation for its account. -/
def Owns (r : Reservations) (access : GatewayAccess) : Prop :=
  ∃ i x, access.release = some i ∧ r.acquired[i]? = some x ∧ x.accountID = access.credential.accountID

/-- What an attempt to get an access leads to. -/
def Granted (failed : List String) (P : Credential → Prop) : Reservations × Option GatewayAccess → Prop
  | (r, none) => Ledger r none
  | (r, some access) =>
    Ledger r access.release ∧ Owns r access ∧ access.credential.accountID ∉ failed ∧ P access.credential

lemma reserve_granted {c : Candidate} (h : Ledger r none) (hfresh : c.credential.accountID ∉ failed) (hP : P c.credential) :
    Granted failed P (c.reserve failed r) := by
  unfold Candidate.reserve
  cases c.offer with
  | exhausted => exact h
  | limited => exact h
  | unresolved => exact (h.acquire hfresh).release
  | granted accessToken proxyURL =>
    refine ⟨h.acquire hfresh, ⟨r.acquired.length, ⟨c.credential.accountID, failed⟩, rfl, ?_, rfl⟩, hfresh, hP⟩
    exact List.getElem?_concat_length

lemma resolve_granted (excluded : List String) (cs : List Candidate) (h : Ledger r none) :
    Granted excluded (fun _ => True) (resolveGatewayAccess excluded cs r) := by
  induction cs generalizing r with
  | nil => exact h
  | cons c cs ih =>
    unfold resolveGatewayAccess
    split_ifs with hexcluded
    · exact ih h
    · have hreserve : Granted excluded (fun _ => True) (c.reserve excluded r) := reserve_granted h hexcluded trivial
      split
      · next r' access hcase =>
        rw [hcase] at hreserve
        exact hreserve
      · next r' hcase =>
        rw [hcase] at hreserve
        exact ih hreserve

/-- A turn after the first gets the pinned account or none. -/
lemma reacquire_granted {pinned : GatewayAccess} (cs : List Candidate) (h : Ledger r none)
    (hpinned : pinned.credential.accountID ∉ failed) :
    Granted failed (fun c => c.accountID = pinned.credential.accountID) (reacquireGatewayAccess failed pinned cs r) := by
  unfold reacquireGatewayAccess
  split
  · exact h
  · next c hfind =>
    have hsame := List.find?_some hfind
    simp only [sameGatewayAccessBinding, Bool.and_eq_true, decide_eq_true_eq] at hsame
    have haccount : c.credential.accountID = pinned.credential.accountID := hsame.1.2
    exact reserve_granted h (haccount ▸ hpinned) haccount

end Ledger

section Hooks

variable {h : Hooks} {P : Hooks → Prop}

structure Sound (h : Hooks) : Prop where
  ledger : Ledger h.reservations h.turnAccess.release
  switches : h.firstAccountSwitches ≤ maxUpstreamAccountSwitches

/-- No reservation is held. -/
structure Idle (h : Hooks) : Prop extends Sound h where
  nothing : h.turnAccess.release = none

/-- The turn holds a reservation for its account, which has not failed. -/
structure Carries (h : Hooks) : Prop extends Sound h where
  owns : Owns h.reservations h.turnAccess
  unfailed : h.turnAccess.credential.accountID ∉ h.failedFirstAccountIDs

/-- What a hook gives: an error, or the configuration of the access that the turn now has. -/
def Outcome (P : Hooks → Prop) : Hooks × Option DialConfig → Prop
  | (h, none) => Sound h
  | (h, some config) => Carries h ∧ config = dialConfig h.turnAccess ∧ P h

lemma Outcome.mono {Q : Hooks → Prop} {out : Hooks × Option DialConfig} (h : Outcome P out) (hmono : ∀ h, P h → Q h) :
    Outcome Q out := by
  obtain ⟨h', config⟩ := out
  cases config with
  | none => exact h
  | some config => exact ⟨h.1, h.2.1, hmono h' h.2.2⟩

lemma Idle.ledger_none (hidle : Idle h) : Ledger h.reservations none := hidle.nothing ▸ hidle.ledger

lemma release_idle (hs : Sound h) : Idle h.release := ⟨⟨hs.ledger.release, hs.switches⟩, rfl⟩

lemma setTurnAccess_outcome {access : GatewayAccess} {prepared : Bool} (hc : Carries { h with turnAccess := access })
    (hP : P { h with turnAccess := access }) : Outcome P (h.setTurnAccess access prepared) := by
  unfold Hooks.setTurnAccess
  split_ifs
  · exact ⟨hc, rfl, hP⟩
  · exact (release_idle hc.toSound).toSound

/-- An access that was granted is the one of the turn. -/
lemma granted_outcome {access : GatewayAccess} {prepared : Bool} {Q : Credential → Prop}
    (hswitches : h.firstAccountSwitches ≤ maxUpstreamAccountSwitches)
    (hgranted : Granted h.failedFirstAccountIDs Q (h.reservations, some access))
    (hP : Q access.credential → P { h with turnAccess := access }) : Outcome P (h.setTurnAccess access prepared) := by
  obtain ⟨hledger, howns, hunfailed, hQ⟩ := hgranted
  exact setTurnAccess_outcome ⟨⟨hledger, hswitches⟩, howns, hunfailed⟩ (hP hQ)

/-- Before a turn: a turn after the first has the pinned account. -/
def Begun (h : Hooks) (g : Hooks) : Prop :=
  g.pinned = h.pinned ∧ g.firstTurn = h.firstTurn ∧
    (h.firstTurn = false → g.turnAccess.credential.accountID = h.pinned.credential.accountID)

lemma beforeTurn_outcome (hidle : Idle h) (hpinned : h.firstTurn = false → h.pinned.credential.accountID ∉ h.failedFirstAccountIDs)
    (turn : ℕ) (o : Opening) : Outcome (Begun h) (h.beforeTurn turn o) := by
  unfold Hooks.beforeTurn
  dsimp only
  split_ifs with hadmitted hpriced hfirst
  · exact ⟨hidle.ledger, hidle.switches⟩
  · exact ⟨hidle.ledger_none, hidle.switches⟩
  · have hresolve : Granted h.failedFirstAccountIDs (fun _ => True)
        (resolveGatewayAccess h.failedFirstAccountIDs o.candidates h.reservations) := resolve_granted _ _ hidle.ledger_none
    split
    · next r hcase =>
      rw [hcase] at hresolve
      exact ⟨hresolve, hidle.switches⟩
    · next r access hcase =>
      rw [hcase] at hresolve
      exact granted_outcome hidle.switches hresolve fun _ => ⟨rfl, rfl, fun hnot => absurd hfirst (by simp [hnot])⟩
  · have hreacquire := reacquire_granted o.candidates hidle.ledger_none (hpinned (by simpa using hfirst))
    split
    · next r hcase =>
      rw [hcase] at hreacquire
      exact ⟨hreacquire, hidle.switches⟩
    · next r access hcase =>
      rw [hcase] at hreacquire
      exact granted_outcome hidle.switches hreacquire fun haccount => ⟨rfl, rfl, fun _ => haccount⟩

/-- After a switch of the account the turn replaces the pinned access. -/
def Switched (h : Hooks) (g : Hooks) : Prop := g.firstTurn = h.firstTurn ∧ g.replacePinnedAfterTurn = true

lemma retryFirstAccount_outcome (hc : Carries h) (hnamed : h.turnAccess.credential.apiKeyID ≠ "") (candidates : List Candidate)
    (prepared : Bool) : Outcome (Switched h) (h.retryFirstAccount candidates prepared) := by
  have hledger := hc.ledger.release
  unfold Hooks.retryFirstAccount
  dsimp only
  rw [if_neg hnamed]
  split_ifs with hswitches
  · exact ⟨hledger, hc.switches⟩
  · have hless : h.firstAccountSwitches + 1 ≤ maxUpstreamAccountSwitches := by omega
    have hresolve := resolve_granted (h.failedFirstAccountIDs ++ [h.turnAccess.credential.accountID]) candidates hledger
    split
    · next r hcase =>
      rw [hcase] at hresolve
      exact ⟨hresolve, hless⟩
    · next r access hcase =>
      rw [hcase] at hresolve
      exact granted_outcome hless hresolve fun _ => ⟨rfl, rfl⟩

/-- After a refused dial the turn has the same account with another token, or has switched. -/
def Redialed (h : Hooks) (g : Hooks) : Prop :=
  g.firstTurn = h.firstTurn ∧ (g.replacePinnedAfterTurn = h.replacePinnedAfterTurn ∨ g.replacePinnedAfterTurn = true)

lemma refresh_fields (h : Hooks) (refreshed : Option String) :
    ∃ token, (h.refresh refreshed).1 = { h with
      authRefreshed := (h.refresh refreshed).1.authRefreshed
      turnAccess := { h.turnAccess with accessToken := token } } := by
  unfold Hooks.refresh
  split_ifs
  · exact ⟨h.turnAccess.accessToken, rfl⟩
  · cases refreshed with
    | none => exact ⟨h.turnAccess.accessToken, rfl⟩
    | some token => exact ⟨token, rfl⟩

lemma onDialError_outcome (hc : Carries h) (hnamed : h.turnAccess.credential.apiKeyID ≠ "") (status : ℕ) (r : Reaction) :
    Outcome (Redialed h) (h.onDialError status r) := by
  unfold Hooks.onDialError
  split_ifs with hunauthorized hlimited
  · obtain ⟨token, hfields⟩ := refresh_fields h r.refreshed
    have hcarries : Carries (h.refresh r.refreshed).1 := by
      rw [hfields]
      exact ⟨⟨hc.ledger, hc.switches⟩, hc.owns, hc.unfailed⟩
    have hredialed : Redialed h (h.refresh r.refreshed).1 := by
      rw [hfields]
      exact ⟨rfl, Or.inl rfl⟩
    split
    · next g hcase =>
      rw [hcase] at hcarries hredialed
      exact setTurnAccess_outcome hcarries hredialed
    · next g hcase =>
      rw [hcase] at hcarries
      exact hcarries.toSound
  · exact hc.toSound
  · exact (retryFirstAccount_outcome hc hnamed r.candidates r.prepared).mono fun g hg => ⟨hg.1, Or.inr hg.2⟩

lemma afterTurn_idle (hs : Sound h) (turn : ℕ) (handshakeSucceeded terminal : Bool) :
    Idle (h.afterTurn turn handshakeSucceeded terminal) := by
  unfold Hooks.afterTurn
  dsimp only
  split_ifs
  · exact release_idle ⟨hs.ledger, hs.switches⟩
  · exact release_idle ⟨hs.ledger, hs.switches⟩

end Hooks

section Run

variable {json : FrameJson} {toLower : String → String} {s t : Session} {config : DialConfig} {handshakeSucceeded : Bool}

/-- The turn opens its connection: it is the first, or it replaces the pinned account. -/
def Opens (h : Hooks) (turn : ℕ) : Prop :=
  (h.firstTurn = true ∧ turn = 1) ∨ (h.firstTurn = false ∧ h.replacePinnedAfterTurn = true)

/-- The turn keeps the connection of the pinned account. -/
def Keeps (h : Hooks) : Prop := h.firstTurn = false ∧ h.pinned.credential.accountID = h.turnAccess.credential.accountID

def Named (config : DialConfig) : Prop := GatewayModel.trimSpace config.apiKeyID ≠ ""

/-- The open connection is that of the account. -/
def Connected (s : Session) (accountID : String) : Prop :=
  (∃ dial, s.upstream = some dial ∧ dial.internalAccountID = accountID) ∧ Named s.pinnedDial

/-- Between two turns the open connection is that of the pinned account, which has not failed. -/
structure Linked (s : Session) : Prop where
  later : s.hooks.firstTurn = false
  unfailed : s.hooks.pinned.credential.accountID ∉ s.hooks.failedFirstAccountIDs
  connected : Connected s s.hooks.pinned.credential.accountID

/-- A turn with its configuration, before it looks at the connection. -/
structure Connecting (s : Session) (config : DialConfig) : Prop where
  carries : Carries s.hooks
  config_eq : config = dialConfig s.hooks.turnAccess
  course : (s.upstream = none ∧ Opens s.hooks s.turn) ∨ (Connected s s.hooks.turnAccess.credential.accountID ∧ Keeps s.hooks)

structure Dialing (s : Session) (config : DialConfig) : Prop where
  carries : Carries s.hooks
  config_eq : config = dialConfig s.hooks.turnAccess
  opens : Opens s.hooks s.turn
  named : Named config

/-- A turn on its connection. -/
structure Serving (s : Session) (handshakeSucceeded : Bool) : Prop where
  carries : Carries s.hooks
  connected : Connected s s.hooks.turnAccess.credential.accountID
  named : s.hooks.turnAccess.credential.apiKeyID ≠ ""
  opens : handshakeSucceeded = true → Opens s.hooks s.turn
  keeps : handshakeSucceeded = false → Keeps s.hooks

/-- What holds in every phase. -/
def Safe (s : Session) : Prop :=
  match s.phase with
  | .between => Idle s.hooks ∧ ((s.turn = 0 ∧ s.hooks.firstTurn = true ∧ s.upstream = none) ∨ Linked s)
  | .connecting config => Connecting s config
  | .dialing config => Dialing s config
  | .writing handshakeSucceeded => Serving s handshakeSucceeded
  | .relaying handshakeSucceeded relay => Serving s handshakeSucceeded ∧ Holding relay
  | .ended => Idle s.hooks

lemma safe_initial : Safe Session.initial :=
  ⟨⟨⟨ledger_initial, Nat.zero_le _⟩, rfl⟩, Or.inl ⟨rfl, rfl, rfl⟩⟩

lemma finish_safe (hs : Sound s.hooks) : Safe s.finish := release_idle hs

lemma abort_safe (hs : Sound s.hooks) (handshakeSucceeded terminal : Bool) : Safe (s.abort handshakeSucceeded terminal) :=
  finish_safe (afterTurn_idle hs s.turn handshakeSucceeded terminal).toSound

lemma named_of_valid {fingerprinted : Bool} (hvalid : validateResponsesWebSocketDialConfig config fingerprinted = true) :
    Named config := by
  simp only [validateResponsesWebSocketDialConfig, Bool.and_eq_true, decide_eq_true_eq] at hvalid
  exact hvalid.1.1.2

lemma Named.apiKeyID_ne (hnamed : Named config) : config.apiKeyID ≠ "" := by
  intro hempty
  rw [Named, hempty] at hnamed
  exact hnamed rfl

lemma create_safe (hidle : Idle s.hooks) (hlink : (s.turn = 0 ∧ s.hooks.firstTurn = true ∧ s.upstream = none) ∨ Linked s)
    (parsed : Bool) (o : Opening) (normalized : Bool) : Safe (s.create parsed o normalized) := by
  have hpinned : s.hooks.firstTurn = false → s.hooks.pinned.credential.accountID ∉ s.hooks.failedFirstAccountIDs := by
    intro hlater
    rcases hlink with ⟨-, hfirst, -⟩ | hlinked
    · rw [hlater] at hfirst
      cases hfirst
    · exact hlinked.unfailed
  have hbegun := beforeTurn_outcome hidle hpinned (s.turn + 1) o
  unfold Session.create
  dsimp only
  by_cases hparsed : (!parsed) = true
  · rw [if_pos hparsed]
    exact finish_safe hidle.toSound
  · rw [if_neg hparsed]
    split
    · next h hcase =>
      rw [hcase] at hbegun
      exact finish_safe hbegun
    · next h config hcase =>
      rw [hcase] at hbegun
      obtain ⟨hcarries, hconfig, hsame, hfirst, haccount⟩ := hbegun
      split_ifs
      · refine ⟨hcarries, hconfig, ?_⟩
        rcases hlink with ⟨hturn, hstart, hclosed⟩ | hlinked
        · exact Or.inl ⟨hclosed, Or.inl ⟨hfirst.trans hstart, congrArg (· + 1) hturn⟩⟩
        · have hturn := haccount hlinked.later
          refine Or.inr ⟨?_, hfirst.trans hlinked.later, ?_⟩
          · change Connected _ h.turnAccess.credential.accountID
            rw [hturn]
            exact hlinked.connected
          · change h.pinned.credential.accountID = h.turnAccess.credential.accountID
            rw [hturn, hsame]
      · exact abort_safe hcarries.toSound false false

lemma connect_safe (hconnecting : Connecting s config) (fingerprinted : Bool) : Safe (s.connect config fingerprinted) := by
  obtain ⟨hcarries, hconfig, hcourse⟩ := hconnecting
  unfold Session.connect
  split
  · next hclosed =>
    split_ifs with hvalid
    · rcases hcourse with ⟨-, hopens⟩ | ⟨⟨⟨dial, hopen, -⟩, -⟩, -⟩
      · exact ⟨hcarries, hconfig, hopens, named_of_valid hvalid⟩
      · rw [hclosed] at hopen
        cases hopen
    · exact abort_safe hcarries.toSound false false
  · next dial hopen =>
    split_ifs with hverified
    · rcases hcourse with ⟨hclosed, -⟩ | ⟨hconnected, hkeeps⟩
      · rw [hopen] at hclosed
        cases hclosed
      · refine ⟨hcarries, hconnected, ?_, nofun, fun _ => hkeeps⟩
        simp only [verifyPinnedResponsesWebSocketDial, Bool.and_eq_true, decide_eq_true_eq] at hverified
        have hnamed : Named config := hverified.1.1.trans_ne hconnected.2
        rw [hconfig] at hnamed
        exact hnamed.apiKeyID_ne
    · exact abort_safe hcarries.toSound false false

lemma retry_safe {next : DialConfig} {phase : Phase} (hs : Sound s.hooks) (r : Reaction) (unauthorized : Bool)
    (hphase : Named next → Safe { s with phase := phase }) : Safe (s.retry next r unauthorized phase) := by
  unfold Session.retry
  split_ifs with hnormalized hvalid
  · exact abort_safe hs false false
  · exact abort_safe hs false false
  · exact abort_safe hs false false
  · exact hphase (named_of_valid (by simpa using hvalid))

/-- After a refused dial the turn still opens its connection. -/
lemma Opens.redialed {h g : Hooks} {turn : ℕ} (hopens : Opens h turn) (hredialed : Redialed h g) : Opens g turn := by
  obtain ⟨hfirst, hreplace⟩ := hredialed
  rcases hopens with ⟨hstart, hturn⟩ | ⟨hlater, hreplaced⟩
  · exact Or.inl ⟨hfirst.trans hstart, hturn⟩
  · refine Or.inr ⟨hfirst.trans hlater, ?_⟩
    rcases hreplace with hsame | hnew
    · exact hsame.trans hreplaced
    · exact hnew

lemma dial_safe (hdialing : Dialing s config) (headers : Bool) (result : Dialed) : Safe (s.dial config headers result) := by
  obtain ⟨hcarries, hconfig, hopens, hnamed⟩ := hdialing
  have hkey : s.hooks.turnAccess.credential.apiKeyID ≠ "" := by
    rw [hconfig] at hnamed
    exact hnamed.apiKeyID_ne
  unfold Session.dial
  dsimp only
  by_cases hheaders : (!headers) = true
  · rw [if_pos hheaders]
    exact abort_safe hcarries.toSound false false
  · rw [if_neg hheaders]
    cases result with
    | connected => exact ⟨hcarries, ⟨⟨config, rfl, by rw [hconfig]; rfl⟩, hnamed⟩, hkey, fun _ => hopens, nofun⟩
    | missing => exact abort_safe hcarries.toSound true false
    | refused status retrySafe r =>
      have hredialed := onDialError_outcome hcarries hkey status r
      dsimp only
      by_cases hretry : (status = 401 || (status = 429 && retrySafe)) = true
      · rw [if_pos hretry]
        by_cases hrebuilt : (status = 429 && !r.rebuilt) = true
        · rw [if_pos hrebuilt]
          exact abort_safe hcarries.toSound false false
        · rw [if_neg hrebuilt]
          split
          · next h hcase =>
            rw [hcase] at hredialed
            exact finish_safe hredialed
          · next h next hcase =>
            rw [hcase] at hredialed
            obtain ⟨hnext, hnextConfig, hcourse⟩ := hredialed
            exact retry_safe hnext.toSound r _ fun hnamed => ⟨hnext, hnextConfig, hopens.redialed hcourse, hnamed⟩
      · rw [if_neg hretry]
        exact abort_safe hcarries.toSound false false

/-- A turn that ends well leaves its account pinned. -/
lemma afterTurn_linked (hserving : Serving s handshakeSucceeded) :
    Linked { s with hooks := s.hooks.afterTurn s.turn handshakeSucceeded true, phase := .between } := by
  obtain ⟨hcarries, hconnected, -, hopens, hkeeps⟩ := hserving
  have hpins : (handshakeSucceeded && ((s.turn = 1 && s.hooks.firstTurn) || (s.hooks.replacePinnedAfterTurn && true))) =
      handshakeSucceeded := by
    cases handshakeSucceeded with
    | false => rfl
    | true =>
      rcases hopens rfl with ⟨hfirst, hturn⟩ | ⟨-, hreplace⟩
      · simp [hfirst, hturn]
      · simp [hreplace]
  unfold Hooks.afterTurn
  rw [hpins]
  cases handshakeSucceeded with
  | true => exact ⟨rfl, hcarries.unfailed, hconnected⟩
  | false =>
    obtain ⟨hlater, haccount⟩ := hkeeps rfl
    refine ⟨hlater, ?_, ?_⟩
    · exact haccount ▸ hcarries.unfailed
    · exact (congrArg (Connected s) haccount).mpr hconnected

lemma settle_safe {relay : Turn} {error : Option TurnError} (hserving : Serving s handshakeSucceeded)
    (hending : Ending (.done relay error)) (r : Reaction) : Safe (s.settle handshakeSucceeded relay error r) := by
  have hsound := hserving.carries.toSound
  have hbetween (hterminal : relay.result.terminalEvent ≠ "") :
      Safe { s with
        hooks := s.hooks.afterTurn s.turn handshakeSucceeded (decide (relay.result.terminalEvent ≠ "")), phase := .between } := by
    rw [decide_eq_true hterminal]
    exact ⟨afterTurn_idle hsound s.turn handshakeSucceeded true, Or.inr (afterTurn_linked hserving)⟩
  cases error with
  | none => exact hbetween hending
  | some e =>
    cases e with
    | terminal event upstream => exact hbetween hending
    | close status reason => exact abort_safe hsound _ _
    | client cause => exact abort_safe hsound _ _
    | firstUpstream upstream =>
      have hswitched := retryFirstAccount_outcome hserving.carries hserving.named r.candidates r.prepared
      unfold Session.settle Hooks.onUpstreamError
      dsimp only
      by_cases hrebuilt : (!r.rebuilt) = true
      · rw [if_pos hrebuilt]
        exact abort_safe (by exact hsound) _ _
      · rw [if_neg hrebuilt]
        split
        · next h hcase =>
          rw [hcase] at hswitched
          exact finish_safe hswitched
        · next h next hcase =>
          rw [hcase] at hswitched
          obtain ⟨hnext, hnextConfig, hfirst, hreplace⟩ := hswitched
          refine retry_safe hnext.toSound r _ fun _ => ⟨hnext, hnextConfig, Or.inl ⟨rfl, ?_⟩⟩
          cases hstart : s.hooks.firstTurn with
          | false => exact Or.inr ⟨hfirst.trans hstart, hreplace⟩
          | true =>
            refine Or.inl ⟨hfirst.trans hstart, ?_⟩
            cases handshakeSucceeded with
            | true =>
              rcases hserving.opens rfl with ⟨-, hturn⟩ | ⟨hlater, -⟩
              · exact hturn
              · rw [hstart] at hlater
                cases hlater
            | false =>
              have hlater := (hserving.keeps rfl).1
              rw [hstart] at hlater
              cases hlater

lemma step_safe {action : Action} (hs : Safe s) (hstep : s.step json toLower action = some t) : Safe t := by
  unfold Safe at hs
  cases action with
  | create parsed o normalized =>
    unfold Session.step at hstep
    cases hphase : s.phase with
    | between =>
      rw [hphase] at hs hstep
      cases hstep
      exact create_safe hs.1 hs.2 parsed o normalized
    | _ => simp [hphase] at hstep
  | connect fingerprinted =>
    unfold Session.step at hstep
    cases hphase : s.phase with
    | connecting config =>
      rw [hphase] at hs hstep
      cases hstep
      exact connect_safe hs fingerprinted
    | _ => simp [hphase] at hstep
  | dial headers result =>
    unfold Session.step at hstep
    cases hphase : s.phase with
    | dialing config =>
      rw [hphase] at hs hstep
      cases hstep
      exact dial_safe hs headers result
    | _ => simp [hphase] at hstep
  | write accepted setup =>
    unfold Session.step at hstep
    cases hphase : s.phase with
    | writing handshakeSucceeded =>
      rw [hphase] at hs hstep
      dsimp only at hstep
      split_ifs at hstep
      · cases hstep
        exact ⟨⟨hs.carries, hs.connected, hs.named, hs.opens, hs.keeps⟩, holding_start _ _ _ _ _ _⟩
      · cases hstep
        exact abort_safe hs.carries.toSound handshakeSucceeded false
    | _ => simp [hphase] at hstep
  | happen happening o r =>
    unfold Session.step at hstep
    cases hphase : s.phase with
    | relaying handshakeSucceeded relay =>
      rw [hphase] at hs hstep
      obtain ⟨flow, hflow, rfl⟩ := Option.map_eq_some_iff.mp hstep
      have hending := step_ending hs.2 hflow
      have hserving := hs.1
      cases flow with
      | go relay => exact ⟨⟨hserving.carries, hserving.connected, hserving.named, hserving.opens, hserving.keeps⟩, hending⟩
      | done relay error => exact settle_safe hserving hending r
    | _ => simp [hphase] at hstep
  | leave =>
    unfold Session.step at hstep
    cases hphase : s.phase with
    | between =>
      rw [hphase] at hs hstep
      cases hstep
      exact finish_safe hs.1.toSound
    | _ => simp [hphase] at hstep

lemma run_safe {actions : List Action} (hs : Safe s) (hrun : s.run json toLower actions = some t) : Safe t := by
  induction actions generalizing s with
  | nil =>
    cases hrun
    exact hs
  | cons action rest ih =>
    obtain ⟨u, hstep, hrest⟩ := Option.bind_eq_some_iff.mp hrun
    exact ih (step_safe hs hstep) hrest

lemma Safe.sound (hs : Safe s) : Sound s.hooks := by
  unfold Safe at hs
  cases hphase : s.phase with
  | between => exact (hphase ▸ hs).1.toSound
  | connecting config => exact (hphase ▸ hs).carries.toSound
  | dialing config => exact (hphase ▸ hs).carries.toSound
  | writing handshakeSucceeded => exact (hphase ▸ hs).carries.toSound
  | relaying handshakeSucceeded relay => exact (hphase ▸ hs).1.carries.toSound
  | ended => exact (hphase ▸ hs).toSound

/-- The reservations and the pin of a session agree with its connection. -/
structure Consistent (s : Session) : Prop where
  /-- A create is written with one reservation, for the account of the open connection. -/
  writes : ∀ handshakeSucceeded, s.phase = .writing handshakeSucceeded → ∃ i x dial,
    s.hooks.reservations.outstanding = [i] ∧ s.hooks.reservations.acquired[i]? = some x ∧ s.upstream = some dial ∧
      x.accountID = dial.internalAccountID
  between : s.phase = .between → s.hooks.reservations.outstanding = []
  /-- At the end every reservation was given back exactly once. -/
  ended : s.phase = .ended → s.hooks.reservations.released.Perm (List.range s.hooks.reservations.acquired.length)
  /-- A turn after the first begins with the account of the open connection pinned. -/
  pins : s.phase = .between → 0 < s.turn → ∃ dial, s.upstream = some dial ∧
    s.hooks.pinned.credential.accountID = dial.internalAccountID
  switches : s.hooks.firstAccountSwitches ≤ maxUpstreamAccountSwitches
  /-- No reservation is for an account that had failed before. -/
  fresh : ∀ x ∈ s.hooks.reservations.acquired, x.accountID ∉ x.failed

lemma Safe.consistent (hs : Safe s) : Consistent s := by
  have hsound := hs.sound
  unfold Safe at hs
  refine ⟨fun handshakeSucceeded hphase => ?_, fun hphase => ?_, fun hphase => ?_, fun hphase hturn => ?_, hsound.switches,
    hsound.ledger.fresh⟩
  · rw [hphase] at hs
    obtain ⟨i, x, hi, hx, haccount⟩ := hs.carries.owns
    obtain ⟨dial, hopen, hdial⟩ := hs.connected.1
    refine ⟨i, x, dial, ?_, hx, hopen, haccount.trans hdial.symm⟩
    have hledger := hsound.ledger
    rw [hi] at hledger
    exact hledger.outstanding_some
  · rw [hphase] at hs
    exact hs.1.ledger_none.outstanding_none
  · rw [hphase] at hs
    exact hs.ledger_none.released_once
  · rw [hphase] at hs
    rcases hs.2 with ⟨hzero, -⟩ | hlinked
    · omega
    · obtain ⟨dial, hopen, hdial⟩ := hlinked.connected.1
      exact ⟨dial, hopen, hdial.symm⟩

theorem session_consistent {actions : List Action} (hrun : Session.initial.run json toLower actions = some s) :
    Consistent s :=
  (run_safe safe_initial hrun).consistent

def candidate (accountID : String) : Candidate :=
  ⟨⟨"key_1", "plan_1", "member_1", accountID, 1, accountID⟩, .granted "token" ""⟩

def opening : Opening := ⟨true, true, [candidate "acct_1", candidate "acct_2"], true⟩

def reaction : Reaction := ⟨true, none, opening.candidates, true, true, true⟩

/-- Every frame of the upstream completes its response. -/
def completing : FrameJson where
  type _ := some "response.completed"
  sessionModel _ := none
  session _ := none
  string _ := none
  event _ := some ⟨"response.completed", "resp_1", "", UsageModel.Terminal.zero⟩
  error _ := none
  incompleteReason _ := none
  startsVisibleOutput _ _ := false

/-- The first account is limited, the second serves the first turn, and the next turn is about to be written. -/
def switchingRun : List Action :=
  [.create true opening true, .connect true, .dial true (.refused 429 true reaction), .dial true .connected,
    .write true ⟨"gpt-5", true, true, PendingClientFrames.empty, ⟨[], 0⟩, ⟨[], 0⟩⟩,
    .happen (.upstreamRead (.inr ⟨.text, []⟩) false) ⟨fun _ => none, fun _ => true⟩ reaction,
    .create true opening true, .connect true]

theorem session_consistent_switched : ∃ s, Session.initial.run completing id switchingRun = some s ∧
    s.turn = 2 ∧ s.hooks.reservations.outstanding = [2] ∧ s.upstream.map DialConfig.internalAccountID = some "acct_2" ∧
      Consistent s := by
  have hstate : (Session.initial.run completing id switchingRun).map (fun s => (s.turn, s.hooks.reservations.outstanding,
      s.upstream.map DialConfig.internalAccountID)) = some (2, [2], some "acct_2") := by decide
  obtain ⟨s, hrun, hs⟩ := Option.map_eq_some_iff.mp hstate
  simp only [Prod.mk.injEq] at hs
  exact ⟨s, hrun, hs.1, hs.2.1, hs.2.2, session_consistent hrun⟩

end Run

end ShareSub.AccessSafety

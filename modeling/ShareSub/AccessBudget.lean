import Mathlib
import ShareSub.AccessSafety

/-!
# The dials of a session

A session dials again only for a new token of the account that it is on, which happens once for each account, or for
another account, which it looks for three times at most. So the number of its dials does not depend on its turns.
-/
namespace ShareSub.AccessBudget

open TurnModel AccessModel AccessSafety

variable {json : FrameJson} {toLower : String → String} {s t : Session} {h g : Hooks} {config : DialConfig} {n : ℕ}

def dialed : Action → ℕ
  | .dial _ _ => 1
  | _ => 0

/-- The dials of a run. -/
def dials (actions : List Action) : ℕ := (actions.map dialed).sum

/-- The dials that the switches and the refreshes so far account for, beside the first. -/
def paid (h : Hooks) : ℕ := h.firstAccountSwitches + h.authRefreshed.length

/-- Each account of the connection has got a new token once at most; the given one is the last of them. -/
structure Renewed (h : Hooks) (accountID : String) : Prop where
  accounts : h.authRefreshed.length ≤ h.firstAccountSwitches + 1
  current : accountID ∉ h.authRefreshed → h.authRefreshed.length ≤ h.firstAccountSwitches

/-- Within a turn the dials are paid for, up to the given number. -/
structure Active (s : Session) (n spare : ℕ) : Prop where
  begun : 0 < s.turn
  renewed : Renewed s.hooks s.hooks.turnAccess.credential.accountID
  bounded : n ≤ paid s.hooks + spare

/-- The bound on the dials before each phase; an open connection accounts for one. -/
def Spent (s : Session) (n : ℕ) : Prop :=
  match s.phase with
  | .between =>
    (s.turn = 0 ∧ n = 0 ∧ s.hooks.authRefreshed = []) ∨
      (0 < s.turn ∧ Renewed s.hooks s.hooks.pinned.credential.accountID ∧ n ≤ paid s.hooks + 1)
  | .connecting _ => Active s n (if s.upstream.isSome then 1 else 0)
  | .dialing _ => Active s n 0
  | .writing _ => Active s n 1
  | .relaying _ _ => Active s n 1
  | .ended => n ≤ 2 * (maxUpstreamAccountSwitches + 1)

lemma Renewed.le_total {accountID : String} (hr : Renewed h accountID)
    (hswitches : h.firstAccountSwitches ≤ maxUpstreamAccountSwitches) (hn : n ≤ paid h + 1) :
    n ≤ 2 * (maxUpstreamAccountSwitches + 1) := by
  have haccounts := hr.accounts
  unfold paid at hn
  omega

/-- After a switch every account before is one that was left. -/
lemma Renewed.switched {accountID : String} (hr : Renewed h accountID) (hg : g.authRefreshed = h.authRefreshed)
    (hswitches : g.firstAccountSwitches = h.firstAccountSwitches + 1) (next : String) : Renewed g next := by
  have haccounts := hr.accounts
  constructor
  · rw [hg]
    omega
  · intro _
    rw [hg]
    omega

section Hooks

lemma setTurnAccess_some {access : GatewayAccess} {prepared : Bool} (hset : h.setTurnAccess access prepared = (g, some config)) :
    g = { h with turnAccess := access } := by
  unfold Hooks.setTurnAccess at hset
  split_ifs at hset
  · cases hset
    rfl
  · cases hset

lemma beforeTurn_some {turn : ℕ} {o : Opening} (hbefore : h.beforeTurn turn o = (g, some config)) :
    g.firstAccountSwitches = h.firstAccountSwitches ∧ g.authRefreshed = h.authRefreshed := by
  unfold Hooks.beforeTurn at hbefore
  dsimp only at hbefore
  split_ifs at hbefore
  · cases hbefore
  · cases hbefore
  · split at hbefore
    · cases hbefore
    · rw [setTurnAccess_some hbefore]
      exact ⟨rfl, rfl⟩
  · split at hbefore
    · cases hbefore
    · rw [setTurnAccess_some hbefore]
      exact ⟨rfl, rfl⟩

lemma retryFirstAccount_some {candidates : List Candidate} {prepared : Bool}
    (hretry : h.retryFirstAccount candidates prepared = (g, some config)) :
    g.firstAccountSwitches = h.firstAccountSwitches + 1 ∧ g.authRefreshed = h.authRefreshed := by
  unfold Hooks.retryFirstAccount at hretry
  dsimp only at hretry
  split_ifs at hretry
  · cases hretry
  · cases hretry
  · split at hretry
    · cases hretry
    · rw [setTurnAccess_some hretry]
      exact ⟨rfl, rfl⟩

/-- A dial is repeated for a new token of an account that had none before, or for a switch. -/
lemma onDialError_some {status : ℕ} {r : Reaction} (hr : Renewed h h.turnAccess.credential.accountID)
    (hdial : h.onDialError status r = (g, some config)) :
    Renewed g g.turnAccess.credential.accountID ∧ paid g = paid h + 1 := by
  unfold Hooks.onDialError Hooks.refresh at hdial
  dsimp only at hdial
  by_cases hunauthorized : (status = 401 && h.turnAccess.credential.apiKeyID ≠ "") = true
  · rw [if_pos hunauthorized] at hdial
    by_cases hrefreshed : h.turnAccess.credential.accountID ∈ h.authRefreshed
    · rw [if_pos hrefreshed] at hdial
      cases hdial
    · rw [if_neg hrefreshed] at hdial
      cases htoken : r.refreshed with
      | none =>
        rw [htoken] at hdial
        cases hdial
      | some token =>
        rw [htoken] at hdial
        rw [setTurnAccess_some hdial]
        have hcurrent := hr.current hrefreshed
        refine ⟨⟨Nat.succ_le_succ hcurrent, fun hnot => absurd List.mem_cons_self hnot⟩, ?_⟩
        simp only [paid, List.length_cons]
        omega
  · rw [if_neg hunauthorized] at hdial
    split_ifs at hdial
    · cases hdial
    · obtain ⟨hswitches, hsame⟩ := retryFirstAccount_some hdial
      refine ⟨hr.switched hsame hswitches _, ?_⟩
      simp only [paid, hswitches, hsame]
      omega

lemma afterTurn_fields (h : Hooks) (turn : ℕ) (handshakeSucceeded terminal : Bool) :
    (h.afterTurn turn handshakeSucceeded terminal).firstAccountSwitches = h.firstAccountSwitches ∧
      (h.afterTurn turn handshakeSucceeded terminal).authRefreshed = h.authRefreshed := by
  unfold Hooks.afterTurn
  dsimp only
  split_ifs
  · exact ⟨rfl, rfl⟩
  · exact ⟨rfl, rfl⟩

end Hooks

section Run

lemma finish_spent (hn : n ≤ 2 * (maxUpstreamAccountSwitches + 1)) : Spent s.finish n := hn

lemma abort_spent (hn : n ≤ 2 * (maxUpstreamAccountSwitches + 1)) (handshakeSucceeded terminal : Bool) :
    Spent (s.abort handshakeSucceeded terminal) n := hn

lemma retry_spent {next : DialConfig} {r : Reaction} {unauthorized : Bool} {phase : Phase}
    (hn : n ≤ 2 * (maxUpstreamAccountSwitches + 1)) (hphase : Spent { s with phase := phase } n) :
    Spent (s.retry next r unauthorized phase) n := by
  unfold Session.retry
  split_ifs
  · exact abort_spent hn false false
  · exact abort_spent hn false false
  · exact abort_spent hn false false
  · exact hphase

lemma create_spent (hs : Safe s) (hphase : s.phase = .between) (hspent : Spent s n) (parsed : Bool) (o : Opening)
    (normalized : Bool) : Spent (s.create parsed o normalized) n := by
  have hswitches := hs.sound.switches
  unfold Safe at hs
  unfold Spent at hspent
  rw [hphase] at hs hspent
  have hn : n ≤ 2 * (maxUpstreamAccountSwitches + 1) := by
    rcases hspent with ⟨-, rfl, -⟩ | ⟨-, hrenewed, hn⟩
    · exact Nat.zero_le _
    · exact hrenewed.le_total hswitches hn
  unfold Session.create
  dsimp only
  by_cases hparsed : (!parsed) = true
  · rw [if_pos hparsed]
    exact finish_spent hn
  · rw [if_neg hparsed]
    split
    · exact finish_spent hn
    · next g config hbefore =>
      obtain ⟨hsame, hrefreshed⟩ := beforeTurn_some hbefore
      split_ifs
      · rcases hspent with ⟨-, rfl, hnone⟩ | ⟨hturn, hrenewed, hpaid⟩
        · rw [hnone] at hrefreshed
          refine ⟨Nat.succ_pos _, ⟨?_, fun _ => ?_⟩, Nat.zero_le _⟩
          · rw [hrefreshed]
            exact Nat.zero_le _
          · rw [hrefreshed]
            exact Nat.zero_le _
        · rcases hs.2 with ⟨hzero, -⟩ | hlinked
          · omega
          · have hbegun := beforeTurn_outcome hs.1 (fun _ => hlinked.unfailed) (s.turn + 1) o
            rw [hbefore] at hbegun
            obtain ⟨-, -, -, -, haccount⟩ := hbegun
            obtain ⟨⟨dial, hopen, -⟩, -⟩ := hlinked.connected
            refine ⟨Nat.succ_pos _, ⟨?_, ?_⟩, ?_⟩
            · rw [hsame, hrefreshed]
              exact hrenewed.accounts
            · change g.turnAccess.credential.accountID ∉ g.authRefreshed → _
              rw [hsame, hrefreshed, haccount hlinked.later]
              exact hrenewed.current
            · simp only [paid, hsame, hrefreshed, hopen, Option.isSome_some, if_true]
              exact hpaid
      · exact abort_spent hn false false

lemma connect_spent (hs : Safe s) (hphase : s.phase = .connecting config) (hspent : Spent s n) (fingerprinted : Bool) :
    Spent (s.connect config fingerprinted) n := by
  have hswitches := hs.sound.switches
  unfold Spent at hspent
  rw [hphase] at hspent
  obtain ⟨hbegun, hrenewed, hpaid⟩ := hspent
  unfold Session.connect
  split
  · next hclosed =>
    simp only [hclosed, Option.isSome_none, Bool.false_eq_true, if_false, Nat.add_zero] at hpaid
    split_ifs
    · exact ⟨hbegun, hrenewed, hpaid⟩
    · exact abort_spent (hrenewed.le_total hswitches (Nat.le_succ_of_le hpaid)) false false
  · next dial hopen =>
    simp only [hopen, Option.isSome_some, if_true] at hpaid
    split_ifs
    · exact ⟨hbegun, hrenewed, hpaid⟩
    · exact abort_spent (hrenewed.le_total hswitches hpaid) false false

lemma dial_spent (hs : Safe s) (hphase : s.phase = .dialing config) (hspent : Spent s n) (headers : Bool) (result : Dialed) :
    Spent (s.dial config headers result) (n + 1) := by
  have hswitches := hs.sound.switches
  unfold Spent at hspent
  rw [hphase] at hspent
  obtain ⟨hbegun, hrenewed, hpaid⟩ := hspent
  have hn := hrenewed.le_total hswitches (Nat.succ_le_succ hpaid)
  unfold Session.dial
  dsimp only
  by_cases hheaders : (!headers) = true
  · rw [if_pos hheaders]
    exact abort_spent hn false false
  · rw [if_neg hheaders]
    cases result with
    | connected => exact ⟨hbegun, hrenewed, Nat.succ_le_succ hpaid⟩
    | missing => exact abort_spent hn true false
    | refused status retrySafe r =>
      dsimp only
      by_cases hretry : (status = 401 || (status = 429 && retrySafe)) = true
      · rw [if_pos hretry]
        by_cases hrebuilt : (status = 429 && !r.rebuilt) = true
        · rw [if_pos hrebuilt]
          exact abort_spent hn false false
        · rw [if_neg hrebuilt]
          split
          · exact finish_spent hn
          · next g next hcase =>
            obtain ⟨hnext, hone⟩ := onDialError_some hrenewed hcase
            refine retry_spent hn ⟨hbegun, hnext, ?_⟩
            change n + 1 ≤ paid g + 0
            omega
      · rw [if_neg hretry]
        exact abort_spent hn false false

lemma settle_spent {relay : Turn} {handshakeSucceeded : Bool} {error : Option TurnError}
    (hserving : Serving s handshakeSucceeded) (hactive : Active s n 1) (hending : TurnEnding.Ending (.done relay error))
    (r : Reaction) : Spent (s.settle handshakeSucceeded relay error r) n := by
  obtain ⟨hbegun, hrenewed, hpaid⟩ := hactive
  have hn := hrenewed.le_total hserving.carries.switches hpaid
  have hbetween (hterminal : relay.result.terminalEvent ≠ "") :
      Spent { s with
        hooks := s.hooks.afterTurn s.turn handshakeSucceeded (decide (relay.result.terminalEvent ≠ "")), phase := .between } n := by
    rw [decide_eq_true hterminal]
    obtain ⟨hsame, hrefreshed⟩ := afterTurn_fields s.hooks s.turn handshakeSucceeded true
    have hlinked := afterTurn_linked hserving
    obtain ⟨dial, hopen, hdial⟩ := hserving.connected.1
    obtain ⟨dial', hopen', hdial'⟩ := hlinked.connected.1
    rw [hopen] at hopen'
    cases hopen'
    refine Or.inr ⟨hbegun, ⟨?_, ?_⟩, ?_⟩
    · rw [hsame, hrefreshed]
      exact hrenewed.accounts
    · rw [← hdial', hdial, hsame, hrefreshed]
      exact hrenewed.current
    · simp only [paid, hsame, hrefreshed]
      exact hpaid
  cases error with
  | none => exact hbetween hending
  | some e =>
    cases e with
    | terminal event upstream => exact hbetween hending
    | close status reason => exact abort_spent hn _ _
    | client cause => exact abort_spent hn _ _
    | firstUpstream upstream =>
      unfold Session.settle Hooks.onUpstreamError
      dsimp only
      by_cases hrebuilt : (!r.rebuilt) = true
      · rw [if_pos hrebuilt]
        exact abort_spent hn _ _
      · rw [if_neg hrebuilt]
        split
        · exact finish_spent hn
        · next g next hcase =>
          obtain ⟨hswitches, hrefreshed⟩ := retryFirstAccount_some hcase
          refine retry_spent hn ⟨hbegun, hrenewed.switched hrefreshed hswitches _, ?_⟩
          simp only [paid, hswitches, hrefreshed, Option.isSome_none, Bool.false_eq_true, if_false]
          unfold paid at hpaid
          omega

lemma step_spent {action : Action} (hs : Safe s) (hspent : Spent s n) (hstep : s.step json toLower action = some t) :
    Spent t (n + dialed action) := by
  cases action with
  | create parsed o normalized =>
    unfold Session.step at hstep
    cases hphase : s.phase with
    | between =>
      rw [hphase] at hstep
      cases hstep
      exact create_spent hs hphase hspent parsed o normalized
    | _ => simp [hphase] at hstep
  | connect fingerprinted =>
    unfold Session.step at hstep
    cases hphase : s.phase with
    | connecting config =>
      rw [hphase] at hstep
      cases hstep
      exact connect_spent hs hphase hspent fingerprinted
    | _ => simp [hphase] at hstep
  | dial headers result =>
    unfold Session.step at hstep
    cases hphase : s.phase with
    | dialing config =>
      rw [hphase] at hstep
      cases hstep
      exact dial_spent hs hphase hspent headers result
    | _ => simp [hphase] at hstep
  | write accepted setup =>
    have hswitches := hs.sound.switches
    unfold Session.step at hstep
    unfold Spent at hspent
    cases hphase : s.phase with
    | writing handshakeSucceeded =>
      rw [hphase] at hspent hstep
      dsimp only at hstep
      split_ifs at hstep
      · cases hstep
        exact ⟨hspent.begun, hspent.renewed, hspent.bounded⟩
      · cases hstep
        exact abort_spent (hspent.renewed.le_total hswitches hspent.bounded) handshakeSucceeded false
    | _ => simp [hphase] at hstep
  | happen happening o r =>
    unfold Session.step at hstep
    unfold Spent at hspent
    unfold Safe at hs
    cases hphase : s.phase with
    | relaying handshakeSucceeded relay =>
      rw [hphase] at hs hspent hstep
      obtain ⟨flow, hflow, rfl⟩ := Option.map_eq_some_iff.mp hstep
      have hending := TurnEnding.step_ending hs.2 hflow
      cases flow with
      | go relay => exact ⟨hspent.begun, hspent.renewed, hspent.bounded⟩
      | done relay error => exact settle_spent hs.1 hspent hending r
    | _ => simp [hphase] at hstep
  | leave =>
    have hswitches := hs.sound.switches
    unfold Session.step at hstep
    unfold Spent at hspent
    cases hphase : s.phase with
    | between =>
      rw [hphase] at hspent hstep
      cases hstep
      rcases hspent with ⟨-, rfl, -⟩ | ⟨-, hrenewed, hn⟩
      · exact finish_spent (Nat.zero_le _)
      · exact finish_spent (hrenewed.le_total hswitches hn)
    | _ => simp [hphase] at hstep

lemma run_spent {actions : List Action} (hs : Safe s) (hspent : Spent s n) (hrun : s.run json toLower actions = some t) :
    Safe t ∧ Spent t (n + dials actions) := by
  induction actions generalizing s n with
  | nil =>
    cases hrun
    exact ⟨hs, hspent⟩
  | cons action rest ih =>
    obtain ⟨u, hstep, hrest⟩ := Option.bind_eq_some_iff.mp hrun
    have hlater := ih (step_safe hs hstep) (step_spent hs hspent hstep) hrest
    rw [dials, List.map_cons, List.sum_cons, ← Nat.add_assoc]
    exact hlater

lemma Spent.total (hs : Safe s) (hspent : Spent s n) : n ≤ 2 * (maxUpstreamAccountSwitches + 1) := by
  have hswitches := hs.sound.switches
  unfold Spent at hspent
  cases hphase : s.phase with
  | between =>
    rw [hphase] at hspent
    rcases hspent with ⟨-, rfl, -⟩ | ⟨-, hrenewed, hn⟩
    · exact Nat.zero_le _
    · exact hrenewed.le_total hswitches hn
  | connecting config =>
    rw [hphase] at hspent
    refine hspent.renewed.le_total hswitches (hspent.bounded.trans (Nat.add_le_add_left ?_ _))
    split_ifs
    · exact le_rfl
    · exact Nat.zero_le 1
  | dialing config =>
    rw [hphase] at hspent
    exact hspent.renewed.le_total hswitches (Nat.le_succ_of_le hspent.bounded)
  | writing handshakeSucceeded =>
    rw [hphase] at hspent
    exact hspent.renewed.le_total hswitches hspent.bounded
  | relaying handshakeSucceeded relay =>
    rw [hphase] at hspent
    exact hspent.renewed.le_total hswitches hspent.bounded
  | ended =>
    rw [hphase] at hspent
    exact hspent

/-- Whatever the turns of a session ask for and the upstream answers, it is dialed twice for each of four accounts at most. -/
theorem dials_bounded {actions : List Action} (hrun : Session.initial.run json toLower actions = some s) :
    dials actions ≤ 2 * (maxUpstreamAccountSwitches + 1) := by
  have hspent : Spent Session.initial 0 := Or.inl ⟨rfl, rfl, rfl⟩
  obtain ⟨hs, hlast⟩ := run_spent safe_initial hspent hrun
  rw [Nat.zero_add] at hlast
  exact hlast.total hs

/-- An account that is limited and another that gets a new token. -/
def redialingRun : List Action :=
  [.create true opening true, .connect true, .dial true (.refused 429 true reaction),
    .dial true (.refused 401 true { reaction with refreshed := some "renewed" }), .dial true .connected]

theorem dials_bounded_redialing : (Session.initial.run completing id redialingRun).isSome = true ∧ dials redialingRun = 3 ∧
    dials redialingRun ≤ 2 * (maxUpstreamAccountSwitches + 1) := by
  have hsome : (Session.initial.run completing id redialingRun).isSome = true := by decide
  obtain ⟨s, hrun⟩ := Option.isSome_iff_exists.mp hsome
  exact ⟨hsome, rfl, dials_bounded hrun⟩

end Run

end ShareSub.AccessBudget

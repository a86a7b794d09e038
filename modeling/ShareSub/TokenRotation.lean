import Mathlib
import ShareSub.TokenSafety

/-!
# Rotated tokens and error marks

A refresher that was given a pair for the stored refresh token has still to write it back, and the
write-back needs an active account. Whether the pair is kept depends on what happens in between.
-/
namespace ShareSub.TokenRotation

open TokenModel TokenSafety
open Transaction (Run)

section Holding

/-- The pair that a refresher has obtained and not yet written, by its place in the log. -/
def heldOf : Phase → Option (Snapshot × ℕ)
  | .encrypting latest _ response => some (latest, response)
  | .writing latest _ response _ _ => some (latest, response)
  | _ => none

/-- The pair of a refresher if it was obtained for the stored refresh token of an account. -/
def heldFor (s : Store) (id : String) (r : Refresher) : Option ℕ :=
  if r.accountID = id then
    (heldOf r.phase).bind fun x =>
      if refreshAt s id = some x.1.account.refreshTokenCiphertext then some x.2 else none
  else none

def heldPairs (s : System) (id : String) : List ℕ := s.refreshers.filterMap (heldFor s.store id)

/-- No other unwritten pair for the stored refresh token was obtained later. -/
def lastHeld (s : System) (id : String) (latest : Snapshot) (response : ℕ) : Bool :=
  refreshAt s.store id = some latest.account.refreshTokenCiphertext ∧ ∀ k ∈ heldPairs s id, k ≤ response

/-- A pair was returned for the refresh token that was stored at that time. -/
def rotated (s : Store) (id : String) : Bool := ∃ x ∈ s.exchanges, x.account = some id ∧ x.stored = true

def activeAt (s : Store) (id : String) : Bool := (s.accounts.lookup id).map (·.status) = some .active

def keptTurn (s : System) (id : String) (r : Refresher) (outcome : Outcome) : Bool :=
  match r.phase, outcome with
  | .exchanging latest refreshToken _, .response now response =>
    (OAuthToken.ofRefresh refreshToken response now).isSome →
      refreshAt s.store id = some latest.account.refreshTokenCiphertext → activeAt s.store id
  | .marking latest _, .done _ _ =>
    (s.store.unchanged id latest.account.refreshTokenCiphertext).isSome → ¬ rotated s.store id
  | .encrypting latest refreshed response, .done _ _ =>
    lastHeld s id latest response → (s.store.encryptPair latest.account.scope refreshed).isSome
  | .encrypting latest _ response, .fail _ => !lastHeld s id latest response
  | .writing latest _ response _ _, .done _ _ =>
    (s.store.unchanged id latest.account.refreshTokenCiphertext).isSome → lastHeld s id latest response
  | .writing latest _ response _ _, .lost =>
    (s.store.unchanged id latest.account.refreshTokenCiphertext).isSome → lastHeld s id latest response
  | .writing latest _ response _ _, .fail _ => !lastHeld s id latest response
  | _, _ => true

lemma keptTurn_fail {s : System} {id : String} {r : Refresher} {latest : Snapshot} {response : ℕ}
    (hheld : heldOf r.phase = some (latest, response)) (message : String) :
    keptTurn s id r (.fail message) = !lastHeld s id latest response := by
  cases hphase : r.phase with
  | encrypting _ _ _ =>
    rw [hphase] at hheld
    cases hheld
    simp only [keptTurn, hphase]
  | writing _ _ _ _ _ =>
    rw [hphase] at hheld
    cases hheld
    simp only [keptTurn, hphase]
  | _ =>
    rw [hphase] at hheld
    cases hheld

/-- A pair is returned while the account is active; of several unwritten pairs for the stored refresh token the last
one is written, and this does not fail; and once a pair was returned no error mark, re-authorization or change of the
status takes effect. -/
def kept (id : String) (s : System) : Event → Bool
  | .turn i outcome =>
    match s.refreshers[i]? with
    | some r => r.accountID = id → keptTurn s id r outcome
    | none => true
  | .markRefreshRequired j _ =>
    match s.requests[j]? with
    | some q => q.accountID = id →
        (s.store.unchanged id q.credential.account.refreshTokenCiphertext).isSome → ¬ rotated s.store id
    | none => true
  | .storeAuthorization k =>
    rotated s.store id → refreshAt (step s (.storeAuthorization k)).store id = refreshAt s.store id
  | .setStatus accountID _ => accountID = id → ¬ rotated s.store id
  | _ => true

def finished (r : Refresher) : Bool :=
  match r.phase with
  | .returned _ => true
  | _ => false

/-- When all refreshers of the account are done, it is active and stores the pair that was returned last, or one that
was returned after any other. -/
def RotationsKept (id : String) (s : System) : Prop :=
  (∀ r ∈ s.refreshers, r.accountID = id → finished r = true) → ∀ (n : ℕ) (x : Exchange), s.store.exchanges[n]? = some x →
    x.account = some id → x.stored = true → ∃ a, s.store.accounts.lookup id = some a ∧ a.status = .active ∧
      ∃ (m : ℕ) (y : Exchange), n ≤ m ∧ s.store.exchanges[m]? = some y ∧ y.account = some id ∧
        Pair y a.accessTokenCiphertext a.refreshTokenCiphertext

end Holding

section Turns

/-- The tokens in the row are kept, and its status too if a pair was returned for them. -/
def RowKept (s t : Store) (id : String) : Prop :=
  (s.accounts.lookup id = none → t.accounts.lookup id = none) ∧
    ∀ a, s.accounts.lookup id = some a → ∃ b, t.accounts.lookup id = some b ∧
      b.accessTokenCiphertext = a.accessTokenCiphertext ∧ b.refreshTokenCiphertext = a.refreshTokenCiphertext ∧
      (rotated s id = true → b.status = a.status)

lemma rowKept_of_lookup {s t : Store} {id : String} (h : t.accounts.lookup id = s.accounts.lookup id) :
    RowKept s t id := by
  rw [RowKept, h]
  exact ⟨fun hnone => hnone, fun a ha => ⟨a, ha, rfl, rfl, fun _ => rfl⟩⟩

/-- An error mark or a change of the status, before a pair was returned. -/
lemma rowKept_of_insert {s t : Store} {id id' : String} {a b : Account} (ha : s.accounts.lookup id' = some a)
    (haccounts : t.accounts = s.accounts.insert id' b) (haccess : b.accessTokenCiphertext = a.accessTokenCiphertext)
    (hrefresh : b.refreshTokenCiphertext = a.refreshTokenCiphertext) (hrotated : id = id' → rotated s id = false) :
    RowKept s t id := by
  by_cases hid : id = id'
  · subst hid
    rw [RowKept, haccounts, FiniteMap.lookup_insert, if_pos rfl, ha]
    refine ⟨fun h => (by cases h), ?_⟩
    intro a' ha'
    cases ha'
    refine ⟨b, rfl, haccess, hrefresh, ?_⟩
    intro h
    rw [hrotated rfl] at h
    cases h
  · apply rowKept_of_lookup
    rw [haccounts, FiniteMap.lookup_insert, if_neg hid]

variable {s : System} {id : String} {r : Refresher} {outcome : Outcome}

/-- What a turn does to the pair that the refresher holds. -/
inductive HeldTurn (s : System) (id : String) (r : Refresher) (outcome : Outcome) : Prop
  | same (hheld : heldOf (r.turn s.store outcome).2.phase = heldOf r.phase)
      (hlog : (r.turn s.store outcome).1.exchanges = s.store.exchanges)
      (hrow : RowKept s.store (r.turn s.store outcome).1 id)
  | exchanged {latest : Snapshot} {refreshToken : String} {token : OAuthToken} (hbefore : heldOf r.phase = none)
      (hactive : refreshAt s.store id = some latest.account.refreshTokenCiphertext → activeAt s.store id = true)
      (hturn : r.turn s.store outcome = (s.store.logExchange r.accountID latest refreshToken token,
        r.goto (.encrypting latest token s.store.exchanges.length)))
  | dropped {latest : Snapshot} {response : ℕ} (hbefore : heldOf r.phase = some (latest, response))
      (hafter : heldOf (r.turn s.store outcome).2.phase = none)
      (hlog : (r.turn s.store outcome).1.exchanges = s.store.exchanges)
      (hrow : (r.turn s.store outcome).1.accounts = s.store.accounts)
      (hgone : lastHeld s id latest response = false ∨
        s.store.unchanged r.accountID latest.account.refreshTokenCiphertext = none)
  | wrote {latest : Snapshot} {refreshed : OAuthToken} {response : ℕ} {access refresh : Ciphertext} {a : Account}
      {result : Result} (hphase : r.phase = .writing latest refreshed response access refresh)
      (hrow : s.store.unchanged r.accountID latest.account.refreshTokenCiphertext = some a)
      (hlast : lastHeld s id latest response = true)
      (hturn : r.turn s.store outcome = (s.store.writeTokens r.accountID (refreshedRow a refreshed access refresh),
        r.goto (.releasing result)))

lemma heldOf_refreshFailed (r : Refresher) (latest : Snapshot) (message : String) :
    heldOf (r.refreshFailed latest message).phase = none := by
  unfold Refresher.refreshFailed
  split_ifs <;> rfl

lemma heldOf_attemptFailed (r : Refresher) (latest : Snapshot) (refreshToken : String) (attempt : ℤ) (message : String) :
    heldOf (r.attemptFailed latest refreshToken attempt message).phase = none := by
  unfold Refresher.attemptFailed
  split_ifs
  · rfl
  · exact heldOf_refreshFailed r latest message

lemma heldOf_readLatest (r : Refresher) (store : Store) (now : ℤ) : heldOf (r.readLatest store now).phase = none := by
  unfold Refresher.readLatest
  split
  · rfl
  · split_ifs
    · rfl
    · rfl
    · split
      · exact heldOf_refreshFailed r _ _
      · rfl

lemma heldOf_poll (r : Refresher) (store : Store) (now : ℤ) (h : heldOf r.phase = none) :
    heldOf (r.poll store now).phase = none := by
  unfold Refresher.poll
  split
  · rfl
  · split_ifs
    · rfl
    · rfl
    · exact h

lemma heldOf_readCurrent (r : Refresher) (store : Store) : heldOf (r.readCurrent store).phase = none := by
  unfold Refresher.readCurrent
  split
  · rfl
  · split_ifs <;> rfl

/-- The pending call is not the one that the outcome is of. -/
lemma heldTurn_self (h : r.turn s.store outcome = (s.store, r)) : HeldTurn s id r outcome := by
  refine .same ?_ ?_ ?_
  · rw [h]
  · rw [h]
  · rw [h]
    exact rowKept_of_lookup rfl

/-- The phases before a pair is obtained, and after it is gone. -/
lemma heldTurn_none {store : Store} {r' : Refresher} (hturn : r.turn s.store outcome = (store, r'))
    (hbefore : heldOf r.phase = none) (hafter : heldOf r'.phase = none) (hlog : store.exchanges = s.store.exchanges)
    (haccounts : store.accounts = s.store.accounts) : HeldTurn s id r outcome := by
  refine .same ?_ ?_ ?_
  · rw [hturn, hbefore]
    exact hafter
  · rw [hturn]
    exact hlog
  · rw [hturn]
    exact rowKept_of_lookup (by rw [haccounts])

/-- A pair that is not written back. -/
lemma heldTurn_dropped {latest : Snapshot} {response : ℕ} {phase : Phase}
    (hturn : r.turn s.store outcome = (s.store, r.goto phase)) (hbefore : heldOf r.phase = some (latest, response))
    (hafter : heldOf phase = none) (hgone : lastHeld s id latest response = false ∨
      s.store.unchanged r.accountID latest.account.refreshTokenCiphertext = none) : HeldTurn s id r outcome := by
  refine .dropped hbefore ?_ ?_ ?_ hgone
  · rw [hturn]
    exact hafter
  · rw [hturn]
  · rw [hturn]

lemma heldTurn_exchanging {latest : Snapshot} {refreshToken : String} {attempt : ℤ}
    (hphase : r.phase = .exchanging latest refreshToken attempt) (hkept : keptTurn s id r outcome = true) :
    HeldTurn s id r outcome := by
  have hbefore : heldOf r.phase = none := by rw [hphase]; rfl
  cases outcome with
  | done now dbNow => exact heldTurn_self (by simp only [Refresher.turn, hphase])
  | lost => exact heldTurn_self (Refresher.turn_lost _ (by simp [hphase]))
  | fail message =>
    have hturn : r.turn s.store (.fail message) = (s.store, r.attemptFailed latest refreshToken attempt message) := by
      simp only [Refresher.turn, hphase]
    exact heldTurn_none hturn hbefore (heldOf_attemptFailed r _ _ _ _) rfl rfl
  | response now response =>
    simp only [keptTurn, hphase, decide_eq_true_eq] at hkept
    cases htoken : OAuthToken.ofRefresh refreshToken response now with
    | none =>
      have hturn : r.turn s.store (.response now response) = (s.store, r.attemptFailed latest refreshToken attempt
          "OpenAI OAuth response is missing required token fields") := by
        simp only [Refresher.turn, hphase, htoken]
      exact heldTurn_none hturn hbefore (heldOf_attemptFailed r _ _ _ _) rfl rfl
    | some token =>
      refine .exchanged hbefore ?_ (by simp only [Refresher.turn, hphase, htoken]; rfl)
      exact hkept (by rw [htoken]; rfl)

lemma heldTurn_marking {latest : Snapshot} {message : String} (hphase : r.phase = .marking latest message)
    (hid : r.accountID = id) (hkept : keptTurn s id r outcome = true) : HeldTurn s id r outcome := by
  subst hid
  have hbefore : heldOf r.phase = none := by rw [hphase]; rfl
  cases outcome with
  | response now response => exact heldTurn_self (Refresher.turn_response _ _ _ (by simp [hphase]))
  | lost => exact heldTurn_self (Refresher.turn_lost _ (by simp [hphase]))
  | fail message' =>
    have hturn : r.turn s.store (.fail message') = (s.store, r.goto (.releasing (.error (.tokenRefresh message)))) := by
      simp only [Refresher.turn, hphase]
    exact heldTurn_none hturn hbefore rfl rfl rfl
  | done now dbNow =>
    simp only [keptTurn, hphase, decide_eq_true_eq] at hkept
    cases hrow : s.store.unchanged r.accountID latest.account.refreshTokenCiphertext with
    | none =>
      have hturn : r.turn s.store (.done now dbNow) =
          (s.store, r.goto (.releasing (.error (.tokenRefresh message)))) := by
        simp only [Refresher.turn, hphase, mark_none hrow]
      exact heldTurn_none hturn hbefore rfl rfl rfl
    | some a =>
      have hrotated : rotated s.store r.accountID = false := by
        have := hkept (by rw [hrow]; rfl)
        simpa using this
      refine .same ?_ ?_ ?_
      · simp only [Refresher.turn, hphase, mark_some hrow]
        rfl
      · simp only [Refresher.turn, hphase, mark_some hrow]
      · simp only [Refresher.turn, hphase, mark_some hrow]
        exact rowKept_of_insert (unchanged_some hrow).1 rfl rfl rfl fun _ => hrotated

lemma heldTurn_encrypting {latest : Snapshot} {refreshed : OAuthToken} {response : ℕ}
    (hphase : r.phase = .encrypting latest refreshed response) (hkept : keptTurn s id r outcome = true) :
    HeldTurn s id r outcome := by
  have hbefore : heldOf r.phase = some (latest, response) := by rw [hphase]; rfl
  cases outcome with
  | response now response => exact heldTurn_self (Refresher.turn_response _ _ _ (by simp [hphase]))
  | lost => exact heldTurn_self (Refresher.turn_lost _ (by simp [hphase]))
  | fail message =>
    rw [keptTurn_fail hbefore, Bool.not_eq_true'] at hkept
    have hturn : r.turn s.store (.fail message) = (s.store, r.goto (.releasing (.error (.failed message)))) := by
      simp only [Refresher.turn, hphase]
    exact heldTurn_dropped hturn hbefore rfl (Or.inl hkept)
  | done now dbNow =>
    simp only [keptTurn, hphase, decide_eq_true_eq] at hkept
    cases hpair : s.store.encryptPair latest.account.scope refreshed with
    | none =>
      have hturn : r.turn s.store (.done now dbNow) =
          (s.store, r.goto (.releasing (.error (.failed "cannot encrypt an empty credential")))) := by
        simp only [Refresher.turn, hphase, hpair]
      refine heldTurn_dropped hturn hbefore rfl (Or.inl ?_)
      by_contra hlast
      have := hkept (Bool.eq_true_of_not_eq_false hlast)
      rw [hpair] at this
      cases this
    | some out =>
      obtain ⟨store, access, refresh⟩ := out
      have hturn : r.turn s.store (.done now dbNow) =
          (store, r.goto (.writing latest refreshed response access refresh)) := by
        simp only [Refresher.turn, hphase, hpair]
      obtain ⟨rfl, -⟩ := encryptPair_some hpair
      refine .same ?_ ?_ ?_
      · rw [hturn, hbefore]
        rfl
      · rw [hturn]
      · rw [hturn]
        exact rowKept_of_lookup rfl

lemma heldTurn_writing {latest : Snapshot} {refreshed : OAuthToken} {response : ℕ} {access refresh : Ciphertext}
    (hphase : r.phase = .writing latest refreshed response access refresh) (hid : r.accountID = id)
    (hkept : keptTurn s id r outcome = true) : HeldTurn s id r outcome := by
  subst hid
  have hbefore : heldOf r.phase = some (latest, response) := by rw [hphase]; rfl
  cases outcome with
  | response now response => exact heldTurn_self (Refresher.turn_response _ _ _ (by simp [hphase]))
  | fail message =>
    rw [keptTurn_fail hbefore, Bool.not_eq_true'] at hkept
    have hturn : r.turn s.store (.fail message) = (s.store, r.goto (.releasing (.error (.failed message)))) := by
      simp only [Refresher.turn, hphase]
    exact heldTurn_dropped hturn hbefore rfl (Or.inl hkept)
  | done now dbNow =>
    simp only [keptTurn, hphase, decide_eq_true_eq] at hkept
    cases hrow : s.store.unchanged r.accountID latest.account.refreshTokenCiphertext with
    | none =>
      have hturn : r.turn s.store (.done now dbNow) = (s.store, r.goto .rereading) := by
        simp only [Refresher.turn, hphase, update_none hrow]
        rfl
      exact heldTurn_dropped hturn hbefore rfl (Or.inr hrow)
    | some a =>
      have hturn : r.turn s.store (.done now dbNow) = (s.store.writeTokens r.accountID
          (refreshedRow a refreshed access refresh), r.goto (.releasing (.ok (refreshed.accessToken, true)))) := by
        simp only [Refresher.turn, hphase, update_some hrow]
        rfl
      exact .wrote hphase hrow (hkept (by rw [hrow]; rfl)) hturn
  | lost =>
    simp only [keptTurn, hphase, decide_eq_true_eq] at hkept
    cases hrow : s.store.unchanged r.accountID latest.account.refreshTokenCiphertext with
    | none =>
      have hturn : r.turn s.store .lost = (s.store, r.goto (.releasing (.error (.failed "commit")))) := by
        simp only [Refresher.turn, hphase, update_none hrow]
      exact heldTurn_dropped hturn hbefore rfl (Or.inr hrow)
    | some a =>
      have hturn : r.turn s.store .lost = (s.store.writeTokens r.accountID
          (refreshedRow a refreshed access refresh), r.goto (.releasing (.error (.failed "commit")))) := by
        simp only [Refresher.turn, hphase, update_some hrow]
      exact .wrote hphase hrow (hkept (by rw [hrow]; rfl)) hturn

/-- The phases that neither hold a pair nor wait for one, nor mark the account. -/
lemma heldTurn_other (hbefore : heldOf r.phase = none)
    (hexchanging : ∀ latest token attempt, r.phase ≠ .exchanging latest token attempt)
    (hmarking : ∀ latest message, r.phase ≠ .marking latest message) : HeldTurn s id r outcome := by
  have hafter : heldOf (r.turn s.store outcome).2.phase = none ∧
      (r.turn s.store outcome).1.exchanges = s.store.exchanges ∧
      (r.turn s.store outcome).1.accounts = s.store.accounts := by
    unfold Refresher.turn
    split
    · split
      · next hacquired =>
        obtain ⟨haccounts, -, -, hlog⟩ := tryAcquire_frame hacquired
        exact ⟨rfl, hlog, haccounts⟩
      · split_ifs <;> exact ⟨rfl, rfl, rfl⟩
    · exact ⟨rfl, rfl, rfl⟩
    · exact ⟨heldOf_poll r s.store _ hbefore, rfl, rfl⟩
    · exact ⟨rfl, rfl, rfl⟩
    · exact ⟨heldOf_readLatest r s.store _, rfl, rfl⟩
    · exact ⟨rfl, rfl, rfl⟩
    · next hphase => exact absurd hphase (hexchanging _ _ _)
    · next hphase => exact absurd hphase (hexchanging _ _ _)
    · exact ⟨rfl, rfl, rfl⟩
    · exact ⟨rfl, rfl, rfl⟩
    · next hphase => exact absurd hphase (hmarking _ _)
    · next hphase => exact absurd hphase (hmarking _ _)
    · next hphase =>
      rw [hphase] at hbefore
      cases hbefore
    · next hphase =>
      rw [hphase] at hbefore
      cases hbefore
    · next hphase =>
      rw [hphase] at hbefore
      cases hbefore
    · next hphase =>
      rw [hphase] at hbefore
      cases hbefore
    · next hphase =>
      rw [hphase] at hbefore
      cases hbefore
    · exact ⟨heldOf_readCurrent r s.store, rfl, rfl⟩
    · exact ⟨rfl, rfl, rfl⟩
    · obtain ⟨haccounts, -, -, hlog⟩ := releaseLease_frame s.store r.accountID r.holderID
      exact ⟨rfl, hlog, haccounts⟩
    · exact ⟨rfl, rfl, rfl⟩
    · exact ⟨hbefore, rfl, rfl⟩
  exact heldTurn_none rfl hbefore hafter.1 hafter.2.1 hafter.2.2

lemma heldTurn (hid : r.accountID = id) (hkept : keptTurn s id r outcome = true) : HeldTurn s id r outcome := by
  cases hphase : r.phase with
  | exchanging latest refreshToken attempt => exact heldTurn_exchanging hphase hkept
  | marking latest message => exact heldTurn_marking hphase hid hkept
  | encrypting latest refreshed response => exact heldTurn_encrypting hphase hkept
  | writing latest refreshed response access refresh => exact heldTurn_writing hphase hid hkept
  | _ =>
    exact heldTurn_other (by rw [hphase]; rfl) (by rw [hphase]; intro _ _ _ h; cases h)
      (by rw [hphase]; intro _ _ h; cases h)

end Turns

section Invariant

/-- The row of the account is of a pair in the log that was obtained before every unwritten one for its refresh token, and
a pair that was returned for the stored refresh token is not lost. -/
structure Rotating (id : String) (s : System) (a : Account) (m : ℕ) (y : Exchange) : Prop where
  row : s.store.accounts.lookup id = some a
  origin : s.store.exchanges[m]? = some y
  pair : Pair y a.accessTokenCiphertext a.refreshTokenCiphertext
  later : ∀ k ∈ heldPairs s id, m < k
  logged : ∀ k ∈ heldPairs s id, ∃ x, s.store.exchanges[k]? = some x ∧ x.account = some id ∧ x.stored = true
  safe : ∀ (n : ℕ) (x : Exchange), s.store.exchanges[n]? = some x → x.account = some id → x.stored = true →
    a.status = .active ∧ (n ≤ m ∧ y.account = some id ∨ ∃ k ∈ heldPairs s id, n ≤ k)

def Rotation (id : String) (s : System) : Prop :=
  (s.store.accounts.lookup id = none ∧ rotated s.store id = false) ∨ ∃ a m y, Rotating id s a m y

variable {s t : System} {id : String}

lemma rotated_eq_true {store : Store} :
    rotated store id = true ↔ ∃ x ∈ store.exchanges, x.account = some id ∧ x.stored = true := by
  rw [rotated, decide_eq_true_eq]

lemma mem_heldPairs {k : ℕ} : k ∈ heldPairs s id ↔
    ∃ r ∈ s.refreshers, ∃ latest, r.accountID = id ∧ heldOf r.phase = some (latest, k) ∧
      refreshAt s.store id = some latest.account.refreshTokenCiphertext := by
  rw [heldPairs, List.mem_filterMap]
  constructor
  · intro h
    obtain ⟨r, hr, h⟩ := h
    unfold heldFor at h
    split_ifs at h with haccount
    obtain ⟨⟨latest, k'⟩, hheld, h⟩ := Option.bind_eq_some_iff.mp h
    split_ifs at h with hrefresh
    cases h
    exact ⟨r, hr, latest, haccount, hheld, hrefresh⟩
  · intro h
    obtain ⟨r, hr, latest, haccount, hheld, hrefresh⟩ := h
    refine ⟨r, hr, ?_⟩
    rw [heldFor, if_pos haccount, hheld, Option.bind_some, if_pos hrefresh]

lemma latestOf_of_held {phase : Phase} {latest : Snapshot} {k : ℕ} (h : heldOf phase = some (latest, k)) :
    latestOf phase = some latest := by
  cases phase with
  | encrypting latest' refreshed response =>
    cases h
    rfl
  | writing latest' refreshed response access refresh =>
    cases h
    rfl
  | _ => cases h

/-- Nobody holds a pair for a refresh token that was just stored. -/
lemma heldPairs_of_writes (hs : Coherent s) {p : ℕ ⊕ ℕ} {c : Ciphertext} (h : Writes s t id p c) (k : ℕ) :
    k ∉ heldPairs t id := by
  intro hk
  obtain ⟨r, hr, latest, haccount, hheld, hrefresh⟩ := mem_heldPairs.mp hk
  obtain ⟨i, hi⟩ := List.getElem?_of_mem hr
  have hsnap : snapshotAt t (.inl i) = some (id, latest) := by
    rw [snapshotAt_of_refresher hi, latestOf_of_held hheld, haccount]
    rfl
  have hseen : Seen s latest.account.refreshTokenCiphertext.nonce :=
    Or.inr ⟨.inl i, id, latest, h.snapshots _ _ hsnap, rfl⟩
  rw [h.refresh, if_pos rfl] at hrefresh
  cases hrefresh
  exact hs.seen_ne _ p _ hseen h.before rfl

/-- A step after which the last of the pairs is still held, the tokens of the account are the same, and no pair was
returned for its stored refresh token. -/
lemma Rotation.steady (h : Rotation id s) (hheld : ∀ k ∈ heldPairs t id, k ∈ heldPairs s id)
    (hlast : ∀ k ∈ heldPairs s id, ∃ k' ∈ heldPairs t id, k ≤ k') {new : List Exchange}
    (hlog : t.store.exchanges = s.store.exchanges ++ new) (hnew : ∀ x ∈ new, x.account = some id → x.stored = false)
    (hrow : RowKept s.store t.store id) : Rotation id t := by
  have hold : ∀ (n : ℕ) (x : Exchange), t.store.exchanges[n]? = some x → x.account = some id → x.stored = true →
      s.store.exchanges[n]? = some x := by
    intro n x hx haccount hstored
    rw [hlog, List.getElem?_append] at hx
    split_ifs at hx with hlt
    · exact hx
    · rw [hnew x (List.mem_of_getElem? hx) haccount] at hstored
      cases hstored
  have hkept : ∀ {n : ℕ} {x : Exchange}, s.store.exchanges[n]? = some x → t.store.exchanges[n]? = some x := by
    intro n x hx
    rw [hlog, List.getElem?_append_left (List.getElem?_eq_some_iff.mp hx).1]
    exact hx
  rcases h with ⟨hlookup, hrotated⟩ | ⟨a, m, y, h⟩
  · left
    refine ⟨hrow.1 hlookup, ?_⟩
    by_contra hrotated'
    obtain ⟨x, hx, haccount, hstored⟩ := rotated_eq_true.mp (Bool.eq_true_of_not_eq_false hrotated')
    obtain ⟨n, hn⟩ := List.getElem?_of_mem hx
    have hx := hold n x hn haccount hstored
    rw [rotated_eq_true.mpr ⟨x, List.mem_of_getElem? hx, haccount, hstored⟩] at hrotated
    cases hrotated
  · right
    obtain ⟨b, hb, haccess, hrefresh, hstatus⟩ := hrow.2 a h.row
    refine ⟨b, m, y, hb, hkept h.origin, ?_, ?_, ?_, ?_⟩
    · rw [haccess, hrefresh]
      exact h.pair
    · intro k hk
      exact h.later k (hheld k hk)
    · intro k hk
      obtain ⟨x, hx, hrest⟩ := h.logged k (hheld k hk)
      exact ⟨x, hkept hx, hrest⟩
    · intro n x hx haccount hstored
      have hx := hold n x hx haccount hstored
      obtain ⟨hactive, hkeep⟩ := h.safe n x hx haccount hstored
      rw [hstatus (rotated_eq_true.mpr ⟨x, List.mem_of_getElem? hx, haccount, hstored⟩)]
      refine ⟨hactive, ?_⟩
      rcases hkeep with hkeep | ⟨k, hk, hle⟩
      · exact Or.inl hkeep
      · obtain ⟨k', hk', hle'⟩ := hlast k hk
        exact Or.inr ⟨k', hk', hle.trans hle'⟩

/-- Somebody other than the refresher in the slot holds the pair. -/
def HeldByOther (s : System) (id : String) (i k : ℕ) : Prop :=
  ∃ (j : ℕ) (x : Refresher), j ≠ i ∧ s.refreshers[j]? = some x ∧ heldFor s.store id x = some k

lemma heldFor_congr {store store' : Store} (h : refreshAt store' id = refreshAt store id) (r : Refresher) :
    heldFor store' id r = heldFor store id r := by
  rw [heldFor, heldFor, h]

lemma heldPairs_congr (hrefreshers : t.refreshers = s.refreshers)
    (hrefresh : refreshAt t.store id = refreshAt s.store id) : heldPairs t id = heldPairs s id := by
  rw [heldPairs, heldPairs, hrefreshers]
  apply List.filterMap_congr
  intro r _
  exact heldFor_congr hrefresh r

lemma heldFor_of_none {store : Store} {r : Refresher} (h : heldOf r.phase = none) : heldFor store id r = none := by
  rw [heldFor, h]
  split_ifs <;> rfl

lemma heldFor_of_some {store : Store} {r : Refresher} {latest : Snapshot} {k : ℕ} (hid : r.accountID = id)
    (h : heldOf r.phase = some (latest, k)) :
    heldFor store id r = if refreshAt store id = some latest.account.refreshTokenCiphertext then some k else none := by
  rw [heldFor, if_pos hid, h, Option.bind_some]

lemma mem_heldPairs_iff {i : ℕ} {r : Refresher} (hr : s.refreshers[i]? = some r) {k : ℕ} :
    k ∈ heldPairs s id ↔ heldFor s.store id r = some k ∨ HeldByOther s id i k := by
  rw [heldPairs, List.mem_filterMap]
  constructor
  · intro h
    obtain ⟨x, hx, hk⟩ := h
    obtain ⟨j, hj⟩ := List.getElem?_of_mem hx
    by_cases hji : j = i
    · subst hji
      rw [hr] at hj
      cases hj
      exact Or.inl hk
    · exact Or.inr ⟨j, x, hji, hj, hk⟩
  · intro h
    rcases h with hk | ⟨j, x, -, hj, hk⟩
    · exact ⟨r, List.mem_of_getElem? hr, hk⟩
    · exact ⟨x, List.mem_of_getElem? hj, hk⟩

/-- The pairs after a turn that stores no tokens. -/
lemma mem_heldPairs_turn {i : ℕ} {r r' : Refresher} (hr : s.refreshers[i]? = some r)
    (hset : t.refreshers = s.refreshers.set i r') (hrefresh : refreshAt t.store id = refreshAt s.store id) {k : ℕ} :
    k ∈ heldPairs t id ↔ heldFor s.store id r' = some k ∨ HeldByOther s id i k := by
  obtain ⟨hlt, -⟩ := List.getElem?_eq_some_iff.mp hr
  have hr' : t.refreshers[i]? = some r' := by rw [hset, List.getElem?_set_self hlt]
  rw [mem_heldPairs_iff hr', heldFor_congr hrefresh]
  apply or_congr_right
  constructor
  · intro h
    obtain ⟨j, x, hne, hj, hk⟩ := h
    rw [hset, List.getElem?_set_ne (Ne.symm hne)] at hj
    rw [heldFor_congr hrefresh] at hk
    exact ⟨j, x, hne, hj, hk⟩
  · intro h
    obtain ⟨j, x, hne, hj, hk⟩ := h
    refine ⟨j, x, hne, ?_, ?_⟩
    · rw [hset, List.getElem?_set_ne (Ne.symm hne)]
      exact hj
    · rw [heldFor_congr hrefresh]
      exact hk

lemma RowKept.refresh {s t : Store} (h : RowKept s t id) : refreshAt t id = refreshAt s id := by
  rw [refreshAt, refreshAt]
  cases ha : s.accounts.lookup id with
  | none => rw [h.1 ha]
  | some a =>
    obtain ⟨b, hb, -, hrefresh, -⟩ := h.2 a ha
    rw [hb, Option.map_some, Option.map_some, hrefresh]

/-- A pair for the stored refresh token is held, so the account is active. -/
lemma Rotation.active (h : Rotation id s) {k : ℕ} (hk : k ∈ heldPairs s id) :
    ∃ a, s.store.accounts.lookup id = some a ∧ a.status = .active := by
  obtain ⟨r, -, latest, -, -, hrefresh⟩ := mem_heldPairs.mp hk
  rcases h with ⟨hlookup, -⟩ | ⟨a, m, y, h⟩
  · rw [refreshAt, hlookup] at hrefresh
    cases hrefresh
  · obtain ⟨x, hx, haccount, hstored⟩ := h.logged k hk
    exact ⟨a, h.row, (h.safe k x hx haccount hstored).1⟩

end Invariant

section Steps

variable {s : System} {id : String} {i : ℕ} {r : Refresher} {outcome : Outcome}

/-- A turn that keeps the pairs and the tokens. -/
lemma Rotation.turn_steady (h : Rotation id s) (hr : s.refreshers[i]? = some r) {store : Store} {r' : Refresher}
    (hheld : heldFor s.store id r' = heldFor s.store id r) {new : List Exchange}
    (hlog : store.exchanges = s.store.exchanges ++ new) (hnew : ∀ x ∈ new, x.account = some id → x.stored = false)
    (hrow : RowKept s.store store id) :
    Rotation id { s with store := store, refreshers := s.refreshers.set i r' } := by
  have hsame : ∀ k, k ∈ heldPairs { s with store := store, refreshers := s.refreshers.set i r' } id ↔
      k ∈ heldPairs s id := by
    intro k
    rw [mem_heldPairs_turn hr rfl hrow.refresh, mem_heldPairs_iff hr, hheld]
  refine h.steady (fun k hk => (hsame k).mp hk) ?_ hlog hnew hrow
  intro k hk
  exact ⟨k, (hsame k).mpr hk, le_rfl⟩

lemma Rotation.turn_exchanged (h : Rotation id s) (hr : s.refreshers[i]? = some r) (hid : r.accountID = id)
    {latest : Snapshot} (refreshToken : String) (token : OAuthToken) (hbefore : heldOf r.phase = none)
    (hactive : refreshAt s.store id = some latest.account.refreshTokenCiphertext → activeAt s.store id = true) :
    Rotation id { s with
      store := s.store.logExchange r.accountID latest refreshToken token
      refreshers := s.refreshers.set i (r.goto (.encrypting latest token s.store.exchanges.length)) } := by
  subst hid
  have hnew : heldFor s.store r.accountID (r.goto (.encrypting latest token s.store.exchanges.length)) =
      if refreshAt s.store r.accountID = some latest.account.refreshTokenCiphertext then some s.store.exchanges.length
      else none := heldFor_of_some rfl rfl
  by_cases hstored : refreshAt s.store r.accountID = some latest.account.refreshTokenCiphertext
  · -- The new pair is the last of those that are held.
    have hmem : ∀ k, k ∈ heldPairs { s with
        store := s.store.logExchange r.accountID latest refreshToken token
        refreshers := s.refreshers.set i (r.goto (.encrypting latest token s.store.exchanges.length)) } r.accountID ↔
        k = s.store.exchanges.length ∨ k ∈ heldPairs s r.accountID := by
      intro k
      rw [mem_heldPairs_turn hr rfl (by rfl), mem_heldPairs_iff hr, heldFor_of_none hbefore, hnew, if_pos hstored,
        Option.some_inj]
      simp [eq_comm]
    rcases h with ⟨hlookup, -⟩ | ⟨a, m, y, h⟩
    · rw [refreshAt, hlookup] at hstored
      cases hstored
    · have hstatus : a.status = .active := by
        have := hactive hstored
        rw [activeAt, h.row, decide_eq_true_eq, Option.map_some, Option.some_inj] at this
        exact this
      have hm : m < s.store.exchanges.length := (List.getElem?_eq_some_iff.mp h.origin).1
      have hkept : ∀ {n : ℕ} {x : Exchange}, s.store.exchanges[n]? = some x →
          (s.store.logExchange r.accountID latest refreshToken token).exchanges[n]? = some x := by
        intro n x hx
        rw [Store.logExchange, List.getElem?_append_left (List.getElem?_eq_some_iff.mp hx).1]
        exact hx
      refine Or.inr ⟨a, m, y, h.row, hkept h.origin, h.pair, ?_, ?_, ?_⟩
      · intro k hk
        rcases (hmem k).mp hk with rfl | hk
        · exact hm
        · exact h.later k hk
      · intro k hk
        rcases (hmem k).mp hk with rfl | hk
        · refine ⟨_, List.getElem?_concat_length, rfl, ?_⟩
          dsimp only
          rw [decide_eq_true_eq]
          exact hstored
        · obtain ⟨x, hx, hrest⟩ := h.logged k hk
          exact ⟨x, hkept hx, hrest⟩
      · intro n x hx haccount hstored
        refine ⟨hstatus, ?_⟩
        rcases getElem?_append_singleton hx with hx | ⟨rfl, -⟩
        · rcases (h.safe n x hx haccount hstored).2 with hle | ⟨k, hk, hle⟩
          · exact Or.inl hle
          · exact Or.inr ⟨k, (hmem k).mpr (Or.inr hk), hle⟩
        · exact Or.inr ⟨_, (hmem _).mpr (Or.inl rfl), le_rfl⟩
  · apply h.turn_steady hr ?_ (show (s.store.logExchange r.accountID latest refreshToken token).exchanges = _ from rfl)
    · intro x hx _
      rw [List.mem_singleton.mp hx]
      dsimp only
      rw [decide_eq_false_iff_not]
      exact hstored
    · exact rowKept_of_lookup rfl
    · rw [heldFor_of_none hbefore, hnew, if_neg hstored]

lemma Rotation.turn_dropped (h : Rotation id s) (hr : s.refreshers[i]? = some r) (hid : r.accountID = id) {store : Store}
    {r' : Refresher} {latest : Snapshot} {response : ℕ} (hbefore : heldOf r.phase = some (latest, response))
    (hafter : heldOf r'.phase = none) (hlog : store.exchanges = s.store.exchanges)
    (hrow : store.accounts = s.store.accounts)
    (hgone : lastHeld s id latest response = false ∨
      s.store.unchanged r.accountID latest.account.refreshTokenCiphertext = none) :
    Rotation id { s with store := store, refreshers := s.refreshers.set i r' } := by
  have hkept : RowKept s.store store id := rowKept_of_lookup (by rw [hrow])
  have hlog' : store.exchanges = s.store.exchanges ++ [] := by rw [hlog, List.append_nil]
  by_cases hstored : refreshAt s.store id = some latest.account.refreshTokenCiphertext
  · have hheld : heldFor s.store id r = some response := by rw [heldFor_of_some hid hbefore, if_pos hstored]
    have hresponse : response ∈ heldPairs s id := (mem_heldPairs_iff hr).mpr (Or.inl hheld)
    obtain ⟨k', hk', hlt⟩ : ∃ k ∈ heldPairs s id, response < k := by
      rcases hgone with hgone | hgone
      · rw [lastHeld, decide_eq_false_iff_not] at hgone
        by_contra hno
        refine hgone ⟨hstored, ?_⟩
        intro k hk
        by_contra hlt
        exact hno ⟨k, hk, by omega⟩
      · obtain ⟨a, ha, hactive⟩ := h.active hresponse
        rw [refreshAt, ha, Option.map_some, Option.some_inj] at hstored
        rw [hid, Store.unchanged, ha, Option.filter_some] at hgone
        simp [hstored, hactive] at hgone
    have hother : HeldByOther s id i k' := by
      rcases (mem_heldPairs_iff hr).mp hk' with hsame | hother
      · rw [hheld, Option.some_inj] at hsame
        omega
      · exact hother
    refine h.steady ?_ ?_ hlog' (by simp) hkept
    · intro k hk
      rcases (mem_heldPairs_turn hr rfl hkept.refresh).mp hk with hself | hk
      · rw [heldFor_of_none hafter] at hself
        cases hself
      · exact (mem_heldPairs_iff hr).mpr (Or.inr hk)
    · intro k hk
      rcases (mem_heldPairs_iff hr).mp hk with hself | hk
      · rw [hheld, Option.some_inj] at hself
        exact ⟨k', (mem_heldPairs_turn hr rfl hkept.refresh).mpr (Or.inr hother), by omega⟩
      · exact ⟨k, (mem_heldPairs_turn hr rfl hkept.refresh).mpr (Or.inr hk), le_rfl⟩
  · refine h.turn_steady hr ?_ hlog' (by simp) hkept
    rw [heldFor_of_none hafter, heldFor_of_some hid hbefore, if_neg hstored]

lemma Rotation.turn_wrote (hs : Safe s) (h : Rotation id s) (hr : s.refreshers[i]? = some r) (hid : r.accountID = id)
    {latest : Snapshot} {refreshed : OAuthToken} {response : ℕ} {access refresh : Ciphertext} {a : Account}
    (result : Result) (hphase : r.phase = .writing latest refreshed response access refresh)
    (hrow : s.store.unchanged r.accountID latest.account.refreshTokenCiphertext = some a)
    (hlast : lastHeld s id latest response = true) :
    Rotation id { s with
      store := s.store.writeTokens r.accountID (refreshedRow a refreshed access refresh)
      refreshers := s.refreshers.set i (r.goto (.releasing result)) } := by
  subst hid
  have hwrites := writes_of_turn hr hphase a result
  obtain ⟨hlookup, -, hactive⟩ := unchanged_some hrow
  rw [lastHeld, decide_eq_true_eq] at hlast
  have hlogged := hs.logged.phases r (List.mem_of_getElem? hr)
  rw [hphase] at hlogged
  obtain ⟨⟨x, hx, haccount, -, rfl⟩, hpair⟩ := hlogged
  have hresponse : response ∈ heldPairs s r.accountID := by
    have hheld : heldOf r.phase = some (latest, response) := by rw [hphase]; rfl
    rw [mem_heldPairs_iff hr, heldFor_of_some rfl hheld, if_pos hlast.1]
    exact Or.inl rfl
  have hempty := heldPairs_of_writes hs.coherent hwrites
  rcases h with ⟨hnone, -⟩ | ⟨a', m, y, h⟩
  · rw [hlookup] at hnone
    cases hnone
  · refine Or.inr ⟨refreshedRow a x.token access refresh, response, x, ?_, hx, hpair, ?_, ?_, ?_⟩
    · rw [Store.writeTokens, FiniteMap.lookup_insert, if_pos rfl]
    · intro k hk
      exact absurd hk (hempty k)
    · intro k hk
      exact absurd hk (hempty k)
    · intro n x' hx' haccount' hstored'
      refine ⟨hactive, Or.inl ⟨?_, haccount⟩⟩
      rcases (h.safe n x' hx' haccount' hstored').2 with ⟨hle, -⟩ | ⟨k, hk, hle⟩
      · exact hle.trans (h.later response hresponse).le
      · exact hle.trans (hlast.2 k hk)

lemma Rotation.turn (hs : Safe s) (h : Rotation id s) (i : ℕ) (outcome : Outcome)
    (hkept : kept id s (.turn i outcome) = true) : Rotation id (step s (.turn i outcome)) := by
  simp only [step]
  split
  · next r hr =>
    simp only [kept, hr, decide_eq_true_eq] at hkept
    by_cases hid : r.accountID = id
    · have hkeptTurn := hkept hid
      cases heldTurn hid hkeptTurn with
      | same hheld hlog hrow =>
        refine h.turn_steady hr ?_ (hlog.trans (List.append_nil _).symm) (by simp) hrow
        rw [heldFor, heldFor, turn_accountID, hheld]
      | exchanged hbefore hactive hturn =>
        rw [hturn]
        exact h.turn_exchanged hr hid _ _ hbefore hactive
      | dropped hbefore hafter hlog hrow hgone => exact h.turn_dropped hr hid hbefore hafter hlog hrow hgone
      | wrote hphase hrow hlast hturn =>
        rw [hturn]
        exact h.turn_wrote hs hr hid _ hphase hrow hlast
    · -- The turn of a refresher of another account.
      obtain ⟨⟨new, hlog, hnew⟩, -⟩ := turn_logged (hs.logged.phases r (List.mem_of_getElem? hr)) outcome
      refine h.turn_steady hr ?_ hlog ?_ ?_
      · rw [heldFor, heldFor, turn_accountID, if_neg hid, if_neg hid]
      · intro x hx haccount
        rw [hnew x hx, Option.some_inj] at haccount
        exact absurd haccount hid
      · apply rowKept_of_lookup
        rcases turn_cases r s.store outcome with hstill | ⟨_, _, _, -, -, hturn⟩ | ⟨_, _, _, _, _, _, _, -, -, hturn⟩
        · rw [hstill.accounts]
        · rw [hturn, FiniteMap.lookup_insert, if_neg (Ne.symm hid)]
        · rw [hturn, Store.writeTokens, FiniteMap.lookup_insert, if_neg (Ne.symm hid)]
  · exact h

/-- Steps of the other actors that store no tokens of the account. -/
lemma Rotation.others {t : System} (h : Rotation id s) (hrefreshers : t.refreshers = s.refreshers) {new : List Exchange}
    (hlog : t.store.exchanges = s.store.exchanges ++ new) (hnew : ∀ x ∈ new, x.account = some id → x.stored = false)
    (hrow : RowKept s.store t.store id) : Rotation id t := by
  have hsame : heldPairs t id = heldPairs s id := heldPairs_congr hrefreshers hrow.refresh
  refine h.steady ?_ ?_ hlog hnew hrow
  · intro k hk
    rw [hsame] at hk
    exact hk
  · intro k hk
    rw [hsame]
    exact ⟨k, hk, le_rfl⟩

lemma Rotation.storeAuthorization (hs : Safe s) (h : Rotation id s) (k : ℕ)
    (hkept : kept id s (.storeAuthorization k) = true) : Rotation id (step s (.storeAuthorization k)) := by
  simp only [kept, decide_eq_true_eq] at hkept
  have hlog : (step s (.storeAuthorization k)).store.exchanges = s.store.exchanges := by
    simp only [step]
    split
    · split_ifs
      · rfl
      · exact storeAuthorization_exchanges _ _
    · rfl
  have hrefreshers : (step s (.storeAuthorization k)).refreshers = s.refreshers := by
    simp only [step]
    split
    · split_ifs <;> rfl
    · rfl
  have hothers : RowKept s.store (step s (.storeAuthorization k)).store id →
      Rotation id (step s (.storeAuthorization k)) :=
    fun hrow => h.others hrefreshers (hlog.trans (List.append_nil _).symm) (by simp) hrow
  cases step_change hs.coherent (.storeAuthorization k) with
  | still _ haccounts => exact hothers (rowKept_of_lookup (by rw [haccounts]))
  | @marked q _ _ _ _ _ he =>
    cases q with
    | inl i =>
      obtain ⟨_, he⟩ := he
      cases he
    | inr j =>
      obtain ⟨_, he⟩ := he
      cases he
  | restatus _ he => cases he
  | refreshed he => cases he
  | @authorized k' b id' a' he hk hwrites haccess hrefresh hstatus haccounts =>
    by_cases hid : id = id'
    · -- A new pair is stored, so none was returned before.
      subst hid
      have hrotated : rotated s.store id = false := by
        by_contra hrotated
        have hsame := hkept (Bool.eq_true_of_not_eq_false hrotated)
        rw [hwrites.refresh, if_pos rfl] at hsame
        exact hs.coherent.seen_ne _ _ _ (Or.inl ⟨id, _, hsame.symm, rfl⟩) hwrites.before rfl
      obtain ⟨x, hx, hpair⟩ := hs.logged.authorizations b (List.mem_of_getElem? hk)
      obtain ⟨m, hm⟩ := List.getElem?_of_mem hx
      refine Or.inr ⟨a', m, x, ?_, ?_, ?_, ?_, ?_, ?_⟩
      · rw [haccounts, FiniteMap.lookup_insert, if_pos rfl]
      · rw [hlog, hm]
      · rw [haccess, hrefresh]
        exact hpair
      · intro n hn
        exact absurd hn (heldPairs_of_writes hs.coherent hwrites n)
      · intro n hn
        exact absurd hn (heldPairs_of_writes hs.coherent hwrites n)
      · intro n y hy haccount hstored
        rw [hlog] at hy
        rw [rotated_eq_true.mpr ⟨y, List.mem_of_getElem? hy, haccount, hstored⟩] at hrotated
        cases hrotated
    · apply hothers
      apply rowKept_of_lookup
      rw [haccounts, FiniteMap.lookup_insert, if_neg hid]

lemma step_rotation (hs : Safe s) (h : Rotation id s) (e : Event) (hkept : kept id s e = true) :
    Rotation id (step s e) := by
  have hsame : s.store.exchanges = s.store.exchanges ++ [] := (List.append_nil _).symm
  cases e with
  | start accountID holderID account refreshBefore waitForPeer maxAttempts markAccountError now =>
    have hpairs : heldPairs (step s (.start accountID holderID account refreshBefore waitForPeer maxAttempts
        markAccountError now)) id = heldPairs s id := by
      rw [heldPairs, step]
      dsimp only
      rw [List.filterMap_append, heldPairs]
      simp only [List.filterMap_cons, List.filterMap_nil]
      rw [heldFor_of_none (by dsimp only; split_ifs <;> rfl), List.append_nil]
    refine h.steady ?_ ?_ hsame (by simp) (rowKept_of_lookup rfl)
    · intro k hk
      rw [hpairs] at hk
      exact hk
    · intro k hk
      rw [hpairs]
      exact ⟨k, hk, le_rfl⟩
  | turn i outcome => exact h.turn hs i outcome hkept
  | resolve accountID =>
    simp only [step]
    split
    · exact h.others rfl hsame (by simp) (rowKept_of_lookup rfl)
    · exact h
  | markRefreshRequired j message =>
    simp only [step]
    split
    · next q hq =>
      simp only [kept, hq, decide_eq_true_eq] at hkept
      cases hrow : s.store.unchanged q.accountID q.credential.account.refreshTokenCiphertext with
      | none =>
        rw [mark_none hrow]
        exact h
      | some a =>
        rw [mark_some hrow]
        refine h.others rfl hsame (by simp) (rowKept_of_insert (unchanged_some hrow).1 rfl rfl rfl ?_)
        intro hid
        subst hid
        have := hkept rfl (by rw [hrow]; rfl)
        simpa using this
    · exact h
  | authorize target token chatGPTAccountID =>
    simp only [step, System.authorize]
    split
    · exact h
    · split
      · exact h
      · next hpair =>
        obtain ⟨rfl, -⟩ := encryptPair_some hpair
        refine h.others rfl rfl ?_ (rowKept_of_lookup rfl)
        intro x hx haccount
        rw [List.mem_singleton.mp hx] at haccount
        cases haccount
  | storeAuthorization k => exact h.storeAuthorization hs k hkept
  | setStatus accountID status =>
    simp only [kept, decide_eq_true_eq] at hkept
    simp only [step, Store.setStatus]
    split
    · next a ha =>
      refine h.others rfl hsame (by simp) (rowKept_of_insert ha rfl rfl rfl ?_)
      intro hid
      have := hkept hid.symm
      simpa using this
    · exact h

end Steps

section Results

/-- Runs from the empty store in which every step is as `kept` says. -/
def KeptRun (id : String) : List Event → System → Prop :=
  Run (fun u e v => step u e = v ∧ kept id u e = true) initial

variable {id : String} {events : List Event} {s : System}

lemma rotation_initial (id : String) : Rotation id initial := Or.inl ⟨rfl, rfl⟩

lemma KeptRun.rotation (h : KeptRun id events s) : Safe s ∧ Rotation id s := by
  apply Run.invariant h
  · exact ⟨safe_initial, rotation_initial id⟩
  · intro u e v hu hstep
    obtain ⟨rfl, hkept⟩ := hstep
    exact ⟨step_safe hu.1 e, step_rotation hu.1 hu.2 e hkept⟩

lemma Rotation.kept (h : Rotation id s) : RotationsKept id s := by
  intro hfinished n x hx haccount hstored
  rcases h with ⟨-, hrotated⟩ | ⟨a, m, y, h⟩
  · rw [rotated_eq_true.mpr ⟨x, List.mem_of_getElem? hx, haccount, hstored⟩] at hrotated
    cases hrotated
  · obtain ⟨hactive, hkeep⟩ := h.safe n x hx haccount hstored
    refine ⟨a, h.row, hactive, ?_⟩
    rcases hkeep with ⟨hle, hy⟩ | ⟨k, hk, -⟩
    · exact ⟨m, y, hle, h.origin, hy, h.pair⟩
    · -- A refresher that holds a pair is not done.
      obtain ⟨r, hr, latest, hid, hheld, -⟩ := mem_heldPairs.mp hk
      have := hfinished r hr hid
      cases hphase : r.phase with
      | returned result =>
        rw [hphase] at hheld
        cases hheld
      | _ => simp [finished, hphase] at this

/-- In every run in which no error mark takes effect after a pair was returned, and the last pair is written back. -/
theorem rotated_pairs_are_kept (id : String) (events : List Event) (s : System) (h : KeptRun id events s) :
    RotationsKept id s :=
  h.rotation.2.kept

/-- The guard along a list of events. -/
def keptThrough (id : String) : System → List Event → Bool
  | _, [] => true
  | s, e :: events => kept id s e && keptThrough id (step s e) events

lemma run_of_keptThrough (id : String) (s : System) (events : List Event) (h : keptThrough id s events = true) :
    Run (fun u e v => step u e = v ∧ kept id u e = true) s events (events.foldl step s) := by
  induction events generalizing s with
  | nil => exact Run.nil
  | cons e events ih =>
    rw [keptThrough, Bool.and_eq_true] at h
    exact Run.cons ⟨rfl, h.1⟩ (ih (step s e) h.2)

/-- An account is connected, a request is resolved with it, and a refresher is given a pair for its refresh token. -/
def pairReturned : List Event :=
  [.authorize (.connect "A" "o" "c") ⟨"a0", "r0", 0⟩ "c", .storeAuthorization 0, .resolve "A",
    .start "A" "h" ⟨"o", "c", ⟨0, "", ""⟩, ⟨0, "", ""⟩, 0, .active, ""⟩ 0 true 1 true 0,
    .turn 0 (.done 0 0), .turn 0 (.done 0 0), .turn 0 (.response 0 ⟨"a1", "r1", 10⟩)]

/-- The remaining turns of the refresher. -/
def writeBack : List Event := List.replicate 4 (.turn 0 (.done 0 0))

theorem rotated_pairs_are_kept_unmarked :
    rotated (run (pairReturned ++ writeBack)).store "A" = true ∧
      (∀ r ∈ (run (pairReturned ++ writeBack)).refreshers, r.accountID = "A" → finished r = true) ∧
      RotationsKept "A" (run (pairReturned ++ writeBack)) := by
  have hkept : keptThrough "A" initial (pairReturned ++ writeBack) = true := by decide
  refine ⟨by decide, by decide, ?_⟩
  exact rotated_pairs_are_kept "A" (pairReturned ++ writeBack) _ (run_of_keptThrough "A" initial _ hkept)

/-- The request is rejected after the pair was returned and marks the account, and the write-back matches no row. -/
theorem rotated_pair_is_lost :
    (∀ e ∈ (pairReturned ++ .markRefreshRequired 0 "upstream rejected revoked Codex OAuth token" :: writeBack).drop 2,
      (∀ k, e ≠ .storeAuthorization k) ∧ ∀ id status, e ≠ .setStatus id status) ∧
    ¬ RotationsKept "A"
      (run (pairReturned ++ .markRefreshRequired 0 "upstream rejected revoked Codex OAuth token" :: writeBack)) := by
  constructor
  · intro e he
    simp only [pairReturned, writeBack, List.replicate, List.cons_append, List.nil_append, List.drop_succ_cons,
      List.drop_zero, List.mem_cons, List.not_mem_nil, or_false] at he
    constructor
    · rintro k rfl
      simp at he
    · rintro id status rfl
      simp at he
  · intro h
    have hfinished : ∀ r ∈ (run (pairReturned ++ .markRefreshRequired 0
        "upstream rejected revoked Codex OAuth token" :: writeBack)).refreshers, r.accountID = "A" → finished r = true := by
      decide
    have hreturned : (run (pairReturned ++ .markRefreshRequired 0
        "upstream rejected revoked Codex OAuth token" :: writeBack)).store.exchanges[1]? =
        some ⟨some "A", some "r0", ⟨"a1", "r1", 10000000000⟩, true⟩ := by decide
    have hmarked : ((run (pairReturned ++ .markRefreshRequired 0
        "upstream rejected revoked Codex OAuth token" :: writeBack)).store.accounts.lookup "A").map (·.status) =
        some .refreshRequired := by decide
    obtain ⟨a, ha, hactive, -⟩ := h hfinished 1 _ hreturned rfl rfl
    rw [ha, Option.map_some, hactive] at hmarked
    cases hmarked

end Results

end ShareSub.TokenRotation

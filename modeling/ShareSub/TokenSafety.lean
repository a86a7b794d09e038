import Mathlib
import ShareSub.Transaction
import ShareSub.TokenModel

/-!
# Conditional writes of the tokens

A ciphertext is stored once, so an actor that finds the refresh token it has read finds an account whose
tokens nobody has written since.
-/
namespace ShareSub.TokenSafety

open TokenModel
open Transaction (Run)

section Slots

/-- The account as a refresher has read it, as long as it may still write. -/
def latestOf : Phase → Option Snapshot
  | .exchanging latest _ _ => some latest
  | .backingOff latest _ _ => some latest
  | .marking latest _ => some latest
  | .encrypting latest _ _ => some latest
  | .writing latest _ _ _ _ => some latest
  | _ => none

/-- The refresh token that a refresher is about to store. -/
def pendingOf : Phase → Option Ciphertext
  | .writing _ _ _ _ refresh => some refresh
  | _ => none

/-- The snapshots that refreshers and requests hold, with the id of the account. -/
def snapshotAt (s : System) : ℕ ⊕ ℕ → Option (String × Snapshot)
  | .inl i => s.refreshers[i]?.bind fun r => (latestOf r.phase).map fun latest => (r.accountID, latest)
  | .inr j => s.requests[j]?.map fun q => (q.accountID, q.credential)

/-- The refresh tokens that refreshers and authorizations have yet to store. -/
def pendingAt (s : System) : ℕ ⊕ ℕ → Option Ciphertext
  | .inl i => s.refreshers[i]?.bind fun r => pendingOf r.phase
  | .inr k => s.authorizations[k]?.bind fun a => if a.stored then none else some a.refresh

def refreshAt (s : Store) (id : String) : Option Ciphertext := (s.accounts.lookup id).map (·.refreshTokenCiphertext)

/-- A nonce that a row or a snapshot has. -/
def Seen (s : System) (n : ℕ) : Prop :=
  (∃ id c, refreshAt s.store id = some c ∧ c.nonce = n) ∨
    ∃ q id snap, snapshotAt s q = some (id, snap) ∧ snap.account.refreshTokenCiphertext.nonce = n

end Slots

section Coherence

structure Coherent (s : System) : Prop where
  pending_lt : ∀ p c, pendingAt s p = some c → c.nonce < s.store.encryptions
  pending_inj : ∀ p q c d, pendingAt s p = some c → pendingAt s q = some d → c.nonce = d.nonce → p = q
  seen_lt : ∀ n, Seen s n → n < s.store.encryptions
  seen_ne : ∀ n p c, Seen s n → pendingAt s p = some c → c.nonce ≠ n
  snapshots : ∀ q id snap, snapshotAt s q = some (id, snap) → snap.writes ≤ s.store.writes.length ∧
    ∃ c, refreshAt s.store id = some c ∧
      (c = snap.account.refreshTokenCiphertext ↔ id ∉ s.store.writes.drop snap.writes)

variable {s t : System}

/-- Snapshots are kept, dropped or just read. -/
def SnapshotsFrom (s t : System) : Prop :=
  ∀ q x, snapshotAt t q = some x → snapshotAt s q = some x ∨ t.store.read x.1 = some x.2

/-- Pending tokens are kept, dropped or just encrypted. -/
def PendingFrom (s t : System) : Prop :=
  ∀ p c, pendingAt t p = some c → pendingAt s p = some c ∨
    s.store.encryptions ≤ c.nonce ∧ c.nonce < t.store.encryptions ∧
      ∀ q d, pendingAt t q = some d → d.nonce = c.nonce → q = p

/-- A step that stores no tokens. -/
structure Quiet (s t : System) : Prop where
  encryptions : s.store.encryptions ≤ t.store.encryptions
  refresh : ∀ id, refreshAt t.store id = refreshAt s.store id
  writes : t.store.writes = s.store.writes
  snapshots : SnapshotsFrom s t
  pending : PendingFrom s t

/-- A step that stores the pending token of a slot. -/
structure Writes (s t : System) (id : String) (p : ℕ ⊕ ℕ) (c : Ciphertext) : Prop where
  encryptions : t.store.encryptions = s.store.encryptions
  refresh : ∀ id', refreshAt t.store id' = if id' = id then some c else refreshAt s.store id'
  writes : t.store.writes = s.store.writes ++ [id]
  before : pendingAt s p = some c
  after : pendingAt t p = none
  snapshots : ∀ q x, snapshotAt t q = some x → snapshotAt s q = some x
  pending : ∀ q d, pendingAt t q = some d → pendingAt s q = some d

lemma read_refresh {s : Store} {id : String} {snap : Snapshot} (h : s.read id = some snap) :
    snap.writes = s.writes.length ∧ refreshAt s id = some snap.account.refreshTokenCiphertext := by
  obtain ⟨a, hlookup, rfl⟩ := Option.map_eq_some_iff.mp h
  exact ⟨rfl, by rw [refreshAt, hlookup]; rfl⟩

lemma Quiet.seen (h : Quiet s t) {n : ℕ} (hn : Seen t n) : Seen s n := by
  rcases hn with ⟨id, c, hc, hn⟩ | ⟨q, id, snap, hsnap, hn⟩
  · rw [h.refresh] at hc
    exact Or.inl ⟨id, c, hc, hn⟩
  · rcases h.snapshots q _ hsnap with hold | hread
    · exact Or.inr ⟨q, id, snap, hold, hn⟩
    · have hc := (read_refresh hread).2
      rw [h.refresh] at hc
      exact Or.inl ⟨id, _, hc, hn⟩

lemma Coherent.quiet (hs : Coherent s) (h : Quiet s t) : Coherent t := by
  refine ⟨?_, ?_, ?_, ?_, ?_⟩
  · intro p c hc
    rcases h.pending p c hc with hold | ⟨-, hlt, -⟩
    · exact (hs.pending_lt p c hold).trans_le h.encryptions
    · exact hlt
  · intro p q c d hc hd heq
    rcases h.pending p c hc with hold | ⟨-, -, honly⟩
    · rcases h.pending q d hd with hold' | ⟨-, -, honly⟩
      · exact hs.pending_inj p q c d hold hold' heq
      · exact honly p c hc heq
    · exact (honly q d hd heq.symm).symm
  · intro n hn
    exact (hs.seen_lt n (h.seen hn)).trans_le h.encryptions
  · intro n p c hn hc
    rcases h.pending p c hc with hold | ⟨hfresh, -, -⟩
    · exact hs.seen_ne n p c (h.seen hn) hold
    · have := hs.seen_lt n (h.seen hn)
      omega
  · intro q id snap hsnap
    rw [h.writes, h.refresh]
    rcases h.snapshots q _ hsnap with hold | hread
    · exact hs.snapshots q id snap hold
    · obtain ⟨hlength, hrefresh⟩ := read_refresh hread
      rw [h.writes] at hlength
      rw [h.refresh] at hrefresh
      have hlength : snap.writes = s.store.writes.length := hlength
      refine ⟨hlength.le, _, hrefresh, ?_⟩
      rw [hlength, List.drop_length]
      simp

lemma Writes.seen {id : String} {p : ℕ ⊕ ℕ} {c : Ciphertext} (h : Writes s t id p c) {n : ℕ} (hn : Seen t n) :
    Seen s n ∨ n = c.nonce := by
  rcases hn with ⟨id', d, hd, hn⟩ | ⟨q, id', snap, hsnap, hn⟩
  · rw [h.refresh] at hd
    split_ifs at hd with heq
    · cases hd
      exact Or.inr hn.symm
    · exact Or.inl (Or.inl ⟨id', d, hd, hn⟩)
  · exact Or.inl (Or.inr ⟨q, id', snap, h.snapshots q _ hsnap, hn⟩)

lemma Coherent.write (hs : Coherent s) {id : String} {p : ℕ ⊕ ℕ} {c : Ciphertext} (h : Writes s t id p c) :
    Coherent t := by
  have hother : ∀ q d, pendingAt t q = some d → d.nonce ≠ c.nonce := by
    intro q d hd heq
    have hsame := hs.pending_inj q p d c (h.pending q d hd) h.before heq
    rw [hsame, h.after] at hd
    cases hd
  refine ⟨?_, ?_, ?_, ?_, ?_⟩
  · intro q d hd
    rw [h.encryptions]
    exact hs.pending_lt q d (h.pending q d hd)
  · intro q q' d d' hd hd' heq
    exact hs.pending_inj q q' d d' (h.pending q d hd) (h.pending q' d' hd') heq
  · intro n hn
    rw [h.encryptions]
    rcases h.seen hn with hn | hn
    · exact hs.seen_lt n hn
    · rw [hn]
      exact hs.pending_lt p c h.before
  · intro n q d hn hd
    rcases h.seen hn with hn | hn
    · exact hs.seen_ne n q d hn (h.pending q d hd)
    · rw [hn]
      exact hother q d hd
  · intro q id' snap hsnap
    have hold := h.snapshots q _ hsnap
    obtain ⟨hle, d, hd, hiff⟩ := hs.snapshots q id' snap hold
    rw [h.writes, h.refresh, List.length_append, List.drop_append_of_le_length hle]
    refine ⟨by omega, ?_⟩
    by_cases heq : id' = id
    · -- The token that is stored has been seen by no snapshot.
      refine ⟨c, by rw [if_pos heq], ?_⟩
      have hne : c ≠ snap.account.refreshTokenCiphertext := by
        intro hsame
        exact hs.seen_ne _ p c (Or.inr ⟨q, id', snap, hold, rfl⟩) h.before (congrArg Ciphertext.nonce hsame)
      simp [hne, heq]
    · refine ⟨d, by rw [if_neg heq, hd], ?_⟩
      rw [hiff]
      simp [heq]

end Coherence

section Turns

variable {r : Refresher} {s : Store}

/-- A turn that leaves the rows alone. -/
structure StillTurn (r : Refresher) (s s' : Store) (r' : Refresher) : Prop where
  account : r'.accountID = r.accountID
  accounts : s'.accounts = s.accounts
  writes : s'.writes = s.writes
  encryptions : s.encryptions ≤ s'.encryptions
  latest : ∀ snap, latestOf r'.phase = some snap → latestOf r.phase = some snap ∨ s.read r.accountID = some snap
  pending : ∀ c, pendingOf r'.phase = some c →
    pendingOf r.phase = some c ∨ s.encryptions ≤ c.nonce ∧ c.nonce < s'.encryptions

/-- The row after an error mark. -/
def markedRow (a : Account) (message : String) : Account := { a with status := .refreshRequired, lastError := message }

/-- The row after a write-back. -/
def refreshedRow (a : Account) (refreshed : OAuthToken) (access refresh : Ciphertext) : Account :=
  { a with
    accessTokenCiphertext := access
    refreshTokenCiphertext := refresh
    tokenExpiresAt := refreshed.expiresAt
    lastError := "" }

lemma stillTurn_self (r : Refresher) (s : Store) : StillTurn r s s r :=
  ⟨rfl, rfl, rfl, le_rfl, fun _ h => Or.inl h, fun _ h => Or.inl h⟩

/-- To a phase that writes nothing any more. -/
lemma stillTurn_end {phase : Phase} (hlatest : latestOf phase = none) (hpending : pendingOf phase = none) :
    StillTurn r s s (r.goto phase) := by
  refine ⟨rfl, rfl, rfl, le_rfl, ?_, ?_⟩
  · intro snap h
    rw [Refresher.goto, hlatest] at h
    cases h
  · intro c h
    rw [Refresher.goto, hpending] at h
    cases h

/-- To a phase that has the same snapshot and no pending token. -/
lemma stillTurn_hold {phase : Phase} {latest : Snapshot} (hlatest : latestOf phase = some latest)
    (hheld : latestOf r.phase = some latest ∨ s.read r.accountID = some latest) (hpending : pendingOf phase = none) :
    StillTurn r s s (r.goto phase) := by
  refine ⟨rfl, rfl, rfl, le_rfl, ?_, ?_⟩
  · intro snap h
    rw [Refresher.goto, hlatest] at h
    cases h
    exact hheld
  · intro c h
    rw [Refresher.goto, hpending] at h
    cases h

lemma stillTurn_refreshFailed {latest : Snapshot} (message : String)
    (hheld : latestOf r.phase = some latest ∨ s.read r.accountID = some latest) :
    StillTurn r s s (r.refreshFailed latest message) := by
  unfold Refresher.refreshFailed
  split_ifs
  · exact stillTurn_hold rfl hheld rfl
  · exact stillTurn_end rfl rfl

lemma stillTurn_attemptFailed {latest : Snapshot} (refreshToken : String) (attempt : ℤ) (message : String)
    (hheld : latestOf r.phase = some latest) :
    StillTurn r s s (r.attemptFailed latest refreshToken attempt message) := by
  unfold Refresher.attemptFailed
  split_ifs
  · exact stillTurn_hold rfl (Or.inl hheld) rfl
  · exact stillTurn_refreshFailed message (Or.inl hheld)

lemma stillTurn_readLatest (r : Refresher) (s : Store) (now : ℤ) : StillTurn r s s (r.readLatest s now) := by
  unfold Refresher.readLatest
  split
  · exact stillTurn_end rfl rfl
  · next latest hread =>
    split_ifs
    · exact stillTurn_end rfl rfl
    · exact stillTurn_end rfl rfl
    · split
      · exact stillTurn_refreshFailed _ (Or.inr hread)
      · exact stillTurn_hold rfl (Or.inr hread) rfl

lemma stillTurn_poll (r : Refresher) (s : Store) (now : ℤ) : StillTurn r s s (r.poll s now) := by
  unfold Refresher.poll
  split
  · exact stillTurn_end rfl rfl
  · split_ifs
    · exact stillTurn_end rfl rfl
    · exact stillTurn_end rfl rfl
    · exact stillTurn_self r s

lemma stillTurn_readCurrent (r : Refresher) (s : Store) : StillTurn r s s (r.readCurrent s) := by
  unfold Refresher.readCurrent
  split
  · exact stillTurn_end rfl rfl
  · split_ifs
    · exact stillTurn_end rfl rfl
    · exact stillTurn_end rfl rfl

/-- The lease table is of no concern. -/
lemma StillTurn.leases {s' : Store} {r' : Refresher} (h : StillTurn r s s r') (haccounts : s'.accounts = s.accounts)
    (hwrites : s'.writes = s.writes) (hencryptions : s'.encryptions = s.encryptions) : StillTurn r s s' r' := by
  refine ⟨h.account, haccounts, hwrites, hencryptions.ge, h.latest, ?_⟩
  rw [hencryptions]
  exact h.pending

lemma tryAcquire_frame {s s' : Store} {accountID holderID : String} {expiresAt now : ℤ}
    (h : s.tryAcquireAccountRefreshLease accountID holderID expiresAt now = some s') :
    s'.accounts = s.accounts ∧ s'.writes = s.writes ∧ s'.encryptions = s.encryptions ∧ s'.exchanges = s.exchanges := by
  unfold Store.tryAcquireAccountRefreshLease at h
  split at h
  · split_ifs at h
    cases h
    exact ⟨rfl, rfl, rfl, rfl⟩
  · cases h
    exact ⟨rfl, rfl, rfl, rfl⟩

lemma releaseLease_frame (s : Store) (accountID holderID : String) :
    (s.releaseAccountRefreshLease accountID holderID).accounts = s.accounts ∧
      (s.releaseAccountRefreshLease accountID holderID).writes = s.writes ∧
      (s.releaseAccountRefreshLease accountID holderID).encryptions = s.encryptions ∧
      (s.releaseAccountRefreshLease accountID holderID).exchanges = s.exchanges := by
  unfold Store.releaseAccountRefreshLease
  split
  · split_ifs
    · exact ⟨rfl, rfl, rfl, rfl⟩
    · exact ⟨rfl, rfl, rfl, rfl⟩
  · exact ⟨rfl, rfl, rfl, rfl⟩

lemma encryptPair_some {s s' : Store} {scope : String} {token : OAuthToken} {access refresh : Ciphertext}
    (h : s.encryptPair scope token = some (s', access, refresh)) :
    s' = { s with encryptions := s.encryptions + 2 } ∧ refresh.nonce = s.encryptions + 1 ∧
      access.plaintext = token.accessToken ∧ refresh.plaintext = token.refreshToken := by
  obtain ⟨access', haccess, h⟩ := Option.bind_eq_some_iff.mp h
  obtain ⟨refresh', hrefresh, h⟩ := Option.map_eq_some_iff.mp h
  cases h
  unfold encrypt at haccess hrefresh
  split_ifs at haccess hrefresh
  cases haccess
  cases hrefresh
  exact ⟨rfl, rfl, rfl, rfl⟩

lemma mark_some {id : String} {c : Ciphertext} {a : Account} (h : s.unchanged id c = some a) (message : String) :
    (s.markAccountErrorIfRefreshTokenUnchanged id c message).1 =
      { s with accounts := s.accounts.insert id (markedRow a message) } := by
  rw [Store.markAccountErrorIfRefreshTokenUnchanged, h]
  rfl

lemma mark_none {id : String} {c : Ciphertext} (h : s.unchanged id c = none) (message : String) :
    (s.markAccountErrorIfRefreshTokenUnchanged id c message).1 = s := by
  rw [Store.markAccountErrorIfRefreshTokenUnchanged, h]

lemma update_some {id : String} {c access refresh : Ciphertext} {token : OAuthToken} {a : Account}
    (h : s.unchanged id c = some a) :
    s.updateAccountTokensIfRefreshTokenUnchanged id c access refresh token.expiresAt =
      (s.writeTokens id (refreshedRow a token access refresh), true) := by
  rw [Store.updateAccountTokensIfRefreshTokenUnchanged, h]
  rfl

lemma update_none {id : String} {c access refresh : Ciphertext} {expiresAt : ℤ} (h : s.unchanged id c = none) :
    s.updateAccountTokensIfRefreshTokenUnchanged id c access refresh expiresAt = (s, false) := by
  rw [Store.updateAccountTokensIfRefreshTokenUnchanged, h]

/-- What a turn can do: nothing to the rows, an error mark, or a write-back. -/
lemma turn_cases (r : Refresher) (s : Store) (outcome : Outcome) :
    StillTurn r s (r.turn s outcome).1 (r.turn s outcome).2 ∨
    (∃ latest message a, r.phase = .marking latest message ∧
      s.unchanged r.accountID latest.account.refreshTokenCiphertext = some a ∧
      r.turn s outcome = ({ s with accounts := s.accounts.insert r.accountID (markedRow a (refreshErrorText message)) },
        r.goto (.releasing (.error (.tokenRefresh message))))) ∨
    ∃ latest refreshed response access refresh a result, r.phase = .writing latest refreshed response access refresh ∧
      s.unchanged r.accountID latest.account.refreshTokenCiphertext = some a ∧
      r.turn s outcome = (s.writeTokens r.accountID (refreshedRow a refreshed access refresh),
        r.goto (.releasing result)) := by
  unfold Refresher.turn
  split
  · next now dbNow _ =>
    left
    split
    · next s' hacquired =>
      obtain ⟨haccounts, hwrites, hencryptions, -⟩ := tryAcquire_frame hacquired
      exact (stillTurn_end rfl rfl).leases haccounts hwrites hencryptions
    · split_ifs
      · exact stillTurn_end rfl rfl
      · exact stillTurn_end rfl rfl
  · exact Or.inl (stillTurn_end rfl rfl)
  · exact Or.inl (stillTurn_poll r s _)
  · exact Or.inl (stillTurn_end rfl rfl)
  · exact Or.inl (stillTurn_readLatest r s _)
  · exact Or.inl (stillTurn_end rfl rfl)
  · next latest refreshToken attempt now response hphase =>
    left
    have hheld : latestOf r.phase = some latest := by rw [hphase]; rfl
    split
    · exact (stillTurn_hold rfl (Or.inl hheld) rfl).leases rfl rfl rfl
    · exact stillTurn_attemptFailed _ _ _ hheld
  · next hphase => exact Or.inl (stillTurn_attemptFailed _ _ _ (by rw [hphase]; rfl))
  · next hphase => exact Or.inl (stillTurn_hold rfl (Or.inl (by rw [hphase]; rfl)) rfl)
  · exact Or.inl (stillTurn_end rfl rfl)
  · next latest message _ _ hphase =>
    cases hrow : s.unchanged r.accountID latest.account.refreshTokenCiphertext with
    | none =>
      left
      rw [mark_none hrow]
      exact stillTurn_end rfl rfl
    | some a =>
      right
      left
      exact ⟨latest, message, a, hphase, hrow, by rw [mark_some hrow]⟩
  · exact Or.inl (stillTurn_end rfl rfl)
  · next latest refreshed response _ _ hphase =>
    left
    split
    · next s' access refresh hpair =>
      obtain ⟨rfl, hnonce, -, -⟩ := encryptPair_some hpair
      refine ⟨rfl, rfl, rfl, Nat.le_add_right _ _, ?_, ?_⟩
      · intro snap h
        cases h
        exact Or.inl (by rw [hphase]; rfl)
      · intro c h
        cases h
        exact Or.inr ⟨by omega, by dsimp only; omega⟩
    · exact stillTurn_end rfl rfl
  · exact Or.inl (stillTurn_end rfl rfl)
  · next latest refreshed response access refresh _ _ hphase =>
    cases hrow : s.unchanged r.accountID latest.account.refreshTokenCiphertext with
    | none =>
      left
      rw [update_none hrow]
      exact stillTurn_end rfl rfl
    | some a =>
      right
      right
      refine ⟨latest, refreshed, response, access, refresh, a, .ok (refreshed.accessToken, true), hphase, hrow, ?_⟩
      rw [update_some hrow]
      rfl
  · next latest refreshed response access refresh hphase =>
    cases hrow : s.unchanged r.accountID latest.account.refreshTokenCiphertext with
    | none =>
      left
      rw [update_none hrow]
      exact stillTurn_end rfl rfl
    | some a =>
      right
      right
      refine ⟨latest, refreshed, response, access, refresh, a, .error (.failed "commit"), hphase, hrow, ?_⟩
      rw [update_some hrow]
  · exact Or.inl (stillTurn_end rfl rfl)
  · exact Or.inl (stillTurn_readCurrent r s)
  · exact Or.inl (stillTurn_end rfl rfl)
  · left
    obtain ⟨haccounts, hwrites, hencryptions, -⟩ := releaseLease_frame s r.accountID r.holderID
    exact (stillTurn_end rfl rfl).leases haccounts hwrites hencryptions
  · exact Or.inl (stillTurn_end rfl rfl)
  · exact Or.inl (stillTurn_self r s)

lemma turn_accountID (r : Refresher) (s : Store) (outcome : Outcome) :
    (r.turn s outcome).2.accountID = r.accountID := by
  rcases turn_cases r s outcome with h | ⟨_, _, _, _, _, h⟩ | ⟨_, _, _, _, _, _, _, _, _, h⟩
  · exact h.account
  · rw [h]
    rfl
  · rw [h]
    rfl

end Turns

section Changes

variable {s : System} {i j : ℕ} {r r' : Refresher} {store : Store}

lemma snapshotAt_set (h : s.refreshers[i]? = some r) (store : Store) (r' : Refresher) (q : ℕ ⊕ ℕ) :
    snapshotAt { s with store := store, refreshers := s.refreshers.set i r' } q =
      if q = .inl i then (latestOf r'.phase).map fun latest => (r'.accountID, latest) else snapshotAt s q := by
  obtain ⟨hlt, -⟩ := List.getElem?_eq_some_iff.mp h
  cases q with
  | inl k =>
    by_cases hk : k = i
    · subst hk
      simp [snapshotAt, List.getElem?_set_self hlt]
    · simp [snapshotAt, List.getElem?_set_ne (Ne.symm hk), hk]
  | inr k => simp [snapshotAt]

lemma pendingAt_set (h : s.refreshers[i]? = some r) (store : Store) (r' : Refresher) (p : ℕ ⊕ ℕ) :
    pendingAt { s with store := store, refreshers := s.refreshers.set i r' } p =
      if p = .inl i then pendingOf r'.phase else pendingAt s p := by
  obtain ⟨hlt, -⟩ := List.getElem?_eq_some_iff.mp h
  cases p with
  | inl k =>
    by_cases hk : k = i
    · subst hk
      simp [pendingAt, List.getElem?_set_self hlt]
    · simp [pendingAt, List.getElem?_set_ne (Ne.symm hk), hk]
  | inr k => simp [pendingAt]

lemma snapshotAt_of_refresher (h : s.refreshers[i]? = some r) :
    snapshotAt s (.inl i) = (latestOf r.phase).map fun latest => (r.accountID, latest) := by
  rw [snapshotAt, h, Option.bind_some]

lemma pendingAt_of_refresher (h : s.refreshers[i]? = some r) : pendingAt s (.inl i) = pendingOf r.phase := by
  rw [pendingAt, h, Option.bind_some]

lemma refreshAt_insert (s : Store) (id : String) (a : Account) (writes : List String) (id' : String) :
    refreshAt { s with accounts := s.accounts.insert id a, writes := writes } id' =
      if id' = id then some a.refreshTokenCiphertext else refreshAt s id' := by
  rw [refreshAt, FiniteMap.lookup_insert]
  split_ifs
  · rfl
  · rfl

lemma unchanged_some {s : Store} {id : String} {c : Ciphertext} {a : Account} (h : s.unchanged id c = some a) :
    s.accounts.lookup id = some a ∧ a.refreshTokenCiphertext = c ∧ a.status = .active := by
  obtain ⟨hlookup, hcond⟩ := Option.filter_eq_some_iff.mp h
  simp only [decide_eq_true_eq] at hcond
  exact ⟨hlookup, hcond⟩

/-- A row that keeps its refresh token. -/
lemma refreshAt_same {s : Store} {id : String} {a a' : Account} (hlookup : s.accounts.lookup id = some a)
    (hsame : a'.refreshTokenCiphertext = a.refreshTokenCiphertext) (writes : List String) (id' : String) :
    refreshAt { s with accounts := s.accounts.insert id a', writes := writes } id' = refreshAt s id' := by
  rw [refreshAt_insert]
  split_ifs with heq
  · rw [heq, refreshAt, hlookup, hsame]
    rfl
  · rfl

lemma refreshAt_marked {s : Store} {id : String} {c : Ciphertext} {a : Account} (h : s.unchanged id c = some a)
    (message id' : String) :
    refreshAt { s with accounts := s.accounts.insert id (markedRow a message) } id' = refreshAt s id' :=
  refreshAt_same (unchanged_some h).1 (show (markedRow a message).refreshTokenCiphertext = _ from rfl) s.writes id'

/-- The event is a turn of the refresher in the slot, or the error mark of the request in it. -/
def ActsAt (e : Event) : ℕ ⊕ ℕ → Prop
  | .inl i => ∃ outcome, e = .turn i outcome
  | .inr j => ∃ message, e = .markRefreshRequired j message

/-- What a step does to the rows, and who does it. -/
inductive Change (s : System) (e : Event) (t : System) : Prop
  | still (hquiet : Quiet s t) (haccounts : t.store.accounts = s.store.accounts)
  | marked {q : ℕ ⊕ ℕ} {id : String} {snap : Snapshot} {a : Account} {message : String} (hquiet : Quiet s t)
      (he : ActsAt e q) (hsnap : snapshotAt s q = some (id, snap))
      (hrow : s.store.unchanged id snap.account.refreshTokenCiphertext = some a)
      (haccounts : t.store.accounts = s.store.accounts.insert id (markedRow a message))
  | restatus {id : String} {status : AccountStatus} {a a' : Account} (hquiet : Quiet s t) (he : e = .setStatus id status)
      (hrow : s.store.accounts.lookup id = some a) (haccess : a'.accessTokenCiphertext = a.accessTokenCiphertext)
      (hrefresh : a'.refreshTokenCiphertext = a.refreshTokenCiphertext)
      (haccounts : t.store.accounts = s.store.accounts.insert id a')
  | refreshed {i : ℕ} {outcome : Outcome} {r : Refresher} {latest : Snapshot} {refreshed : OAuthToken} {response : ℕ}
      {access refresh : Ciphertext} {a : Account} (he : e = .turn i outcome) (hr : s.refreshers[i]? = some r)
      (hphase : r.phase = .writing latest refreshed response access refresh)
      (hrow : s.store.unchanged r.accountID latest.account.refreshTokenCiphertext = some a)
      (hwrites : Writes s t r.accountID (.inl i) refresh)
      (haccounts : t.store.accounts = s.store.accounts.insert r.accountID (refreshedRow a refreshed access refresh))
  | authorized {k : ℕ} {b : Authorization} {id : String} {a' : Account} (he : e = .storeAuthorization k)
      (hk : s.authorizations[k]? = some b) (hwrites : Writes s t id (.inr k) b.refresh)
      (haccess : a'.accessTokenCiphertext = b.access) (hrefresh : a'.refreshTokenCiphertext = b.refresh)
      (hstatus : a'.status = .active) (haccounts : t.store.accounts = s.store.accounts.insert id a')

/-- A turn that leaves the rows alone, in the system. -/
lemma quiet_of_stillTurn (hs : Coherent s) (hr : s.refreshers[i]? = some r) (h : StillTurn r s.store store r') :
    Quiet s { s with store := store, refreshers := s.refreshers.set i r' } := by
  have hread : store.read r.accountID = s.store.read r.accountID := by
    rw [Store.read, Store.read, h.accounts, h.writes]
  refine ⟨h.encryptions, fun id => by rw [refreshAt, refreshAt, h.accounts], h.writes, ?_, ?_⟩
  · intro q x hx
    rw [snapshotAt_set hr] at hx
    split_ifs at hx with hq
    · obtain ⟨snap, hsnap, rfl⟩ := Option.map_eq_some_iff.mp hx
      rw [h.account]
      rcases h.latest snap hsnap with hold | hnew
      · left
        rw [hq, snapshotAt_of_refresher hr, hold]
        rfl
      · right
        dsimp only
        rw [hread]
        exact hnew
    · exact Or.inl hx
  · intro p c hc
    rw [pendingAt_set hr] at hc
    split_ifs at hc with hp
    · rcases h.pending c hc with hold | ⟨hfresh, hlt⟩
      · left
        rw [hp, pendingAt_of_refresher hr, hold]
      · right
        refine ⟨hfresh, hlt, ?_⟩
        intro q d hd heq
        rw [pendingAt_set hr] at hd
        split_ifs at hd with hq
        · rw [hq, hp]
        · have := hs.pending_lt q d hd
          omega
    · exact Or.inl hc

/-- Quiet steps that change the rows only. -/
lemma quiet_of_store (hencryptions : store.encryptions = s.store.encryptions) (hwrites : store.writes = s.store.writes)
    (hrefresh : ∀ id, refreshAt store id = refreshAt s.store id) : Quiet s { s with store := store } := by
  refine ⟨hencryptions.ge, hrefresh, hwrites, ?_, ?_⟩
  · intro q x hx
    cases q with
    | inl i => exact Or.inl hx
    | inr j => exact Or.inl hx
  · intro p c hc
    cases p with
    | inl i => exact Or.inl hc
    | inr k => exact Or.inl hc

lemma quiet_self (s : System) : Quiet s s := quiet_of_store rfl rfl fun _ => rfl

/-- The write-back of a refresher. -/
lemma writes_of_turn {latest : Snapshot} {refreshed : OAuthToken} {response : ℕ} {access refresh : Ciphertext}
    (hr : s.refreshers[i]? = some r) (hphase : r.phase = .writing latest refreshed response access refresh) (a : Account)
    (result : Result) :
    Writes s { s with
      store := s.store.writeTokens r.accountID (refreshedRow a refreshed access refresh)
      refreshers := s.refreshers.set i (r.goto (.releasing result)) } r.accountID (.inl i) refresh := by
  refine ⟨rfl, refreshAt_insert _ _ _ _, rfl, ?_, ?_, ?_, ?_⟩
  · rw [pendingAt_of_refresher hr, hphase]
    rfl
  · rw [pendingAt_set hr, if_pos rfl]
    rfl
  · intro q x hx
    rw [snapshotAt_set hr] at hx
    split_ifs at hx
    · cases hx
    · exact hx
  · intro q d hd
    rw [pendingAt_set hr] at hd
    split_ifs at hd
    · cases hd
    · exact hd

lemma change_turn (hs : Coherent s) (i : ℕ) (outcome : Outcome) :
    Change s (.turn i outcome) (step s (.turn i outcome)) := by
  simp only [step]
  split
  · next r hr =>
    rcases turn_cases r s.store outcome with hstill | ⟨latest, message, a, hphase, hrow, hturn⟩ |
      ⟨latest, refreshed, response, access, refresh, a, result, hphase, hrow, hturn⟩
    · exact .still (quiet_of_stillTurn hs hr hstill) hstill.accounts
    · rw [hturn]
      have hsnap : snapshotAt s (.inl i) = some (r.accountID, latest) := by
        rw [snapshotAt_of_refresher hr, hphase]
        rfl
      refine .marked ⟨le_rfl, refreshAt_marked hrow _, rfl, ?_, ?_⟩ (show ActsAt _ (.inl i) from ⟨outcome, rfl⟩) hsnap hrow rfl
      · intro q x hx
        rw [snapshotAt_set hr] at hx
        split_ifs at hx
        · cases hx
        · exact Or.inl hx
      · intro p c hc
        rw [pendingAt_set hr] at hc
        split_ifs at hc
        · cases hc
        · exact Or.inl hc
    · rw [hturn]
      exact .refreshed rfl hr hphase hrow (writes_of_turn hr hphase a result) rfl
  · exact .still (quiet_self s) rfl

lemma updateAuthorization_cases (s : Store) (id ownerID : String) (access refresh : Ciphertext) (expiresAt : ℤ) :
    s.updateAccountAuthorization id ownerID access refresh expiresAt = s ∨
      ∃ a', a'.accessTokenCiphertext = access ∧ a'.refreshTokenCiphertext = refresh ∧ a'.status = .active ∧
        s.updateAccountAuthorization id ownerID access refresh expiresAt = s.writeTokens id a' := by
  unfold Store.updateAccountAuthorization
  split
  · exact Or.inr ⟨_, rfl, rfl, rfl, rfl⟩
  · exact Or.inl rfl

lemma storeAuthorization_cases (s : Store) (b : Authorization) :
    s.storeAuthorization b = s ∨
      ∃ id a', a'.accessTokenCiphertext = b.access ∧ a'.refreshTokenCiphertext = b.refresh ∧ a'.status = .active ∧
        s.storeAuthorization b = s.writeTokens id a' := by
  unfold Store.storeAuthorization
  split
  · next accountID _ =>
    rcases updateAuthorization_cases s accountID b.ownerUserID b.access b.refresh b.expiresAt with h | ⟨a', h⟩
    · exact Or.inl h
    · exact Or.inr ⟨accountID, a', h⟩
  · unfold Store.createOrRotateAccountAuthorization
    split
    · next existing _ _ =>
      rcases updateAuthorization_cases s existing _ b.access b.refresh b.expiresAt with h | ⟨a', h⟩
      · exact Or.inl h
      · exact Or.inr ⟨existing, a', h⟩
    · split_ifs
      · exact Or.inr ⟨_, _, rfl, rfl, rfl, rfl⟩
      · exact Or.inl rfl

lemma pendingAt_store (store : Store) {k : ℕ} {b : Authorization} (h : s.authorizations[k]? = some b) (p : ℕ ⊕ ℕ) :
    pendingAt { s with store := store, authorizations := s.authorizations.set k { b with stored := true } } p =
      if p = .inr k then none else pendingAt s p := by
  obtain ⟨hlt, -⟩ := List.getElem?_eq_some_iff.mp h
  cases p with
  | inl i => simp [pendingAt]
  | inr j =>
    by_cases hj : j = k
    · subst hj
      simp [pendingAt, List.getElem?_set_self hlt]
    · simp [pendingAt, List.getElem?_set_ne (Ne.symm hj), hj]

lemma change_store (k : ℕ) : Change s (.storeAuthorization k) (step s (.storeAuthorization k)) := by
  simp only [step]
  split
  · next b hk =>
    split_ifs with hstored
    · exact .still (quiet_self s) rfl
    · have hpending : pendingAt s (.inr k) = some b.refresh := by
        rw [pendingAt, hk, Option.bind_some, if_neg hstored]
      have hsnapshots : ∀ store q, snapshotAt { s with
          store := store, authorizations := s.authorizations.set k { b with stored := true } } q = snapshotAt s q := by
        intro store q
        cases q <;> rfl
      have hkept : ∀ store q d, pendingAt { s with
          store := store, authorizations := s.authorizations.set k { b with stored := true } } q = some d →
            pendingAt s q = some d := by
        intro store q d hd
        rw [pendingAt_store store hk] at hd
        split_ifs at hd
        exact hd
      rcases storeAuthorization_cases s.store b with hnone | ⟨id, a', haccess, hrefresh, hstatus, hwrite⟩
      · rw [hnone]
        refine .still ⟨le_rfl, fun _ => rfl, rfl, ?_, ?_⟩ rfl
        · intro q x hx
          rw [hsnapshots] at hx
          exact Or.inl hx
        · intro q d hd
          exact Or.inl (hkept _ q d hd)
      · rw [hwrite]
        refine .authorized rfl hk ⟨rfl, ?_, rfl, hpending, ?_, ?_, ?_⟩ haccess hrefresh hstatus rfl
        · intro id'
          rw [← hrefresh]
          exact refreshAt_insert s.store id a' _ id'
        · rw [pendingAt_store _ hk, if_pos rfl]
        · intro q x hx
          rw [hsnapshots] at hx
          exact hx
        · intro q d hd
          exact hkept _ q d hd
  · exact .still (quiet_self s) rfl

/-- Slots that are added at the end of a list. -/
lemma getElem?_append_singleton {α : Type} {l : List α} {x y : α} {n : ℕ} (h : (l ++ [x])[n]? = some y) :
    l[n]? = some y ∨ n = l.length ∧ y = x := by
  rw [List.getElem?_append] at h
  split_ifs at h with hlt
  · exact Or.inl h
  · rw [List.getElem?_singleton] at h
    split_ifs at h with hzero
    cases h
    exact Or.inr ⟨by omega, rfl⟩

lemma change_start (accountID holderID : String) (account : Account) (refreshBefore : ℤ) (waitForPeer : Bool)
    (maxAttempts : ℤ) (markAccountError : Bool) (now : ℤ) :
    Change s (.start accountID holderID account refreshBefore waitForPeer maxAttempts markAccountError now)
      (step s (.start accountID holderID account refreshBefore waitForPeer maxAttempts markAccountError now)) := by
  have hphase : ∀ phase, phase = (if now + refreshBefore < account.tokenExpiresAt then Phase.returned (storedAccess account)
      else .acquiring) → latestOf phase = none ∧ pendingOf phase = none := by
    intro phase hphase
    split_ifs at hphase
    · rw [hphase]
      exact ⟨rfl, rfl⟩
    · rw [hphase]
      exact ⟨rfl, rfl⟩
  obtain ⟨hlatest, hpending⟩ := hphase _ rfl
  refine .still ⟨le_rfl, fun _ => rfl, rfl, ?_, ?_⟩ rfl
  · intro q x hx
    left
    cases q with
    | inl i =>
      obtain ⟨r, hr, hx⟩ := Option.bind_eq_some_iff.mp hx
      rcases getElem?_append_singleton hr with hr | ⟨-, rfl⟩
      · rw [snapshotAt, hr, Option.bind_some, hx]
      · rw [hlatest] at hx
        cases hx
    | inr j => exact hx
  · intro p c hc
    left
    cases p with
    | inl i =>
      obtain ⟨r, hr, hc⟩ := Option.bind_eq_some_iff.mp hc
      rcases getElem?_append_singleton hr with hr | ⟨-, rfl⟩
      · rw [pendingAt, hr, Option.bind_some, hc]
      · rw [hpending] at hc
        cases hc
    | inr k => exact hc

lemma change_resolve (accountID : String) : Change s (.resolve accountID) (step s (.resolve accountID)) := by
  simp only [step]
  split
  · next credential hread =>
    obtain ⟨hread, -⟩ := Option.filter_eq_some_iff.mp hread
    refine .still ⟨le_rfl, fun _ => rfl, rfl, ?_, ?_⟩ rfl
    · intro q x hx
      cases q with
      | inl i => exact Or.inl hx
      | inr j =>
        obtain ⟨request, hrequest, rfl⟩ := Option.map_eq_some_iff.mp hx
        rcases getElem?_append_singleton hrequest with hold | ⟨-, rfl⟩
        · left
          rw [snapshotAt, hold]
          rfl
        · exact Or.inr hread
    · intro p c hc
      cases p with
      | inl i => exact Or.inl hc
      | inr k => exact Or.inl hc
  · exact .still (quiet_self s) rfl

lemma change_mark (j : ℕ) (message : String) :
    Change s (.markRefreshRequired j message) (step s (.markRefreshRequired j message)) := by
  simp only [step]
  split
  · next request hj =>
    cases hrow : s.store.unchanged request.accountID request.credential.account.refreshTokenCiphertext with
    | none =>
      rw [mark_none hrow]
      exact .still (quiet_self s) rfl
    | some a =>
      rw [mark_some hrow]
      have hsnap : snapshotAt s (.inr j) = some (request.accountID, request.credential) := by
        rw [snapshotAt, hj]
        rfl
      exact .marked (quiet_of_store rfl rfl (refreshAt_marked hrow message))
        (show ActsAt _ (.inr j) from ⟨message, rfl⟩) hsnap hrow rfl
  · exact .still (quiet_self s) rfl

lemma change_setStatus (accountID : String) (status : AccountStatus) :
    Change s (.setStatus accountID status) (step s (.setStatus accountID status)) := by
  simp only [step, Store.setStatus]
  split
  · next a hlookup =>
    refine .restatus (quiet_of_store rfl rfl ?_) rfl hlookup ?_ ?_ rfl
    · intro id
      exact refreshAt_same hlookup (show Account.refreshTokenCiphertext { a with
        status := status, lastError := if status = .active then "" else a.lastError } = _ from rfl) _ id
    · rfl
    · rfl
  · exact .still (quiet_self s) rfl

lemma change_authorize (hs : Coherent s) (target : Target) (token : OAuthToken) (chatGPTAccountID : String) :
    Change s (.authorize target token chatGPTAccountID) (step s (.authorize target token chatGPTAccountID)) := by
  simp only [step, System.authorize]
  split
  · exact .still (quiet_self s) rfl
  · split
    · exact .still (quiet_self s) rfl
    · next store access refresh hpair =>
      obtain ⟨rfl, hnonce, -, -⟩ := encryptPair_some hpair
      refine .still ⟨Nat.le_add_right _ _, fun _ => rfl, rfl, ?_, ?_⟩ rfl
      · intro q x hx
        cases q with
        | inl i => exact Or.inl hx
        | inr j => exact Or.inl hx
      · intro p c hc
        cases p with
        | inl i => exact Or.inl hc
        | inr k =>
          obtain ⟨b, hb, hc⟩ := Option.bind_eq_some_iff.mp hc
          rcases getElem?_append_singleton hb with hold | ⟨hk, rfl⟩
          · left
            rw [pendingAt, hold, Option.bind_some, hc]
          · right
            cases hc
            dsimp only
            refine ⟨by omega, by omega, ?_⟩
            intro q d hd heq
            cases q with
            | inl i =>
              have := hs.pending_lt (.inl i) d hd
              omega
            | inr j =>
              obtain ⟨b', hb', hd⟩ := Option.bind_eq_some_iff.mp hd
              rcases getElem?_append_singleton hb' with hold' | ⟨hj, -⟩
              · have := hs.pending_lt (.inr j) d (by rw [pendingAt, hold', Option.bind_some, hd])
                omega
              · rw [hk, hj]

/-- What a step can do. -/
lemma step_change (hs : Coherent s) (e : Event) : Change s e (step s e) := by
  cases e with
  | start accountID holderID account refreshBefore waitForPeer maxAttempts markAccountError now =>
    exact change_start accountID holderID account refreshBefore waitForPeer maxAttempts markAccountError now
  | turn i outcome => exact change_turn hs i outcome
  | resolve accountID => exact change_resolve accountID
  | markRefreshRequired j message => exact change_mark j message
  | authorize target token chatGPTAccountID => exact change_authorize hs target token chatGPTAccountID
  | storeAuthorization k => exact change_store k
  | setStatus accountID status => exact change_setStatus accountID status

lemma step_coherent (hs : Coherent s) (e : Event) : Coherent (step s e) := by
  cases step_change hs e with
  | still hquiet _ => exact hs.quiet hquiet
  | marked hquiet _ _ _ _ => exact hs.quiet hquiet
  | restatus hquiet _ _ _ _ _ => exact hs.quiet hquiet
  | refreshed _ _ _ _ hwrites _ => exact hs.write hwrites
  | authorized _ _ hwrites _ _ _ _ => exact hs.write hwrites

end Changes

section Logs

/-- A pair in the log that two ciphertexts are encryptions of. -/
def Pair (x : Exchange) (access refresh : Ciphertext) : Prop :=
  access.plaintext = x.token.accessToken ∧ refresh.plaintext = x.token.refreshToken

/-- The log has the pair that a refresher was given for the refresh token it has read. -/
def Obtained (s : Store) (accountID : String) (latest : Snapshot) (refreshed : OAuthToken) (response : ℕ) : Prop :=
  ∃ x, s.exchanges[response]? = some x ∧ x.account = some accountID ∧
    x.refreshToken = some latest.account.refreshTokenCiphertext.plaintext ∧ x.token = refreshed

def PhaseLogged (s : Store) (accountID : String) : Phase → Prop
  | .exchanging latest refreshToken _ => refreshToken = latest.account.refreshTokenCiphertext.plaintext
  | .backingOff latest refreshToken _ => refreshToken = latest.account.refreshTokenCiphertext.plaintext
  | .encrypting latest refreshed response => Obtained s accountID latest refreshed response
  | .writing latest refreshed response access refresh => Obtained s accountID latest refreshed response ∧
      access.plaintext = refreshed.accessToken ∧ refresh.plaintext = refreshed.refreshToken
  | _ => True

structure Logged (s : System) : Prop where
  rows : ∀ id a, s.store.accounts.lookup id = some a →
    ∃ x ∈ s.store.exchanges, Pair x a.accessTokenCiphertext a.refreshTokenCiphertext
  phases : ∀ r ∈ s.refreshers, PhaseLogged s.store r.accountID r.phase
  authorizations : ∀ b ∈ s.authorizations, ∃ x ∈ s.store.exchanges, Pair x b.access b.refresh

variable {s t : System} {store store' : Store} {r : Refresher}

lemma PhaseLogged.mono {accountID : String} {phase : Phase} {new : List Exchange}
    (h : PhaseLogged store accountID phase) (hlog : store'.exchanges = store.exchanges ++ new) :
    PhaseLogged store' accountID phase := by
  have hobtained : ∀ latest refreshed response, Obtained store accountID latest refreshed response →
      Obtained store' accountID latest refreshed response := by
    intro latest refreshed response hold
    obtain ⟨x, hx, hrest⟩ := hold
    refine ⟨x, ?_, hrest⟩
    rw [hlog, List.getElem?_append_left (List.getElem?_eq_some_iff.mp hx).1]
    exact hx
  cases phase with
  | encrypting latest refreshed response => exact hobtained _ _ _ h
  | writing latest refreshed response access refresh => exact ⟨hobtained _ _ _ h.1, h.2⟩
  | _ => exact h

lemma decrypt_some {c : Ciphertext} {associatedData plaintext : String}
    (h : decrypt c associatedData = some plaintext) : plaintext = c.plaintext := by
  unfold decrypt at h
  split_ifs at h
  cases h
  rfl

lemma logged_refreshFailed (store : Store) (r : Refresher) (latest : Snapshot) (message : String) :
    PhaseLogged store r.accountID (r.refreshFailed latest message).phase := by
  unfold Refresher.refreshFailed
  split_ifs <;> trivial

lemma logged_attemptFailed {latest : Snapshot} {refreshToken : String}
    (h : refreshToken = latest.account.refreshTokenCiphertext.plaintext) (store : Store) (r : Refresher) (attempt : ℤ)
    (message : String) : PhaseLogged store r.accountID (r.attemptFailed latest refreshToken attempt message).phase := by
  unfold Refresher.attemptFailed
  split_ifs
  · exact h
  · exact logged_refreshFailed store r latest message

lemma logged_readLatest (store : Store) (r : Refresher) (now : ℤ) :
    PhaseLogged store r.accountID (r.readLatest store now).phase := by
  unfold Refresher.readLatest
  split
  · trivial
  · split_ifs
    · trivial
    · trivial
    · split
      · exact logged_refreshFailed store r _ _
      · next hdecrypt => exact decrypt_some hdecrypt

lemma logged_poll (store : Store) (r : Refresher) (now : ℤ) (h : PhaseLogged store r.accountID r.phase) :
    PhaseLogged store r.accountID (r.poll store now).phase := by
  unfold Refresher.poll
  split
  · trivial
  · split_ifs
    · trivial
    · trivial
    · exact h

lemma logged_readCurrent (store : Store) (r : Refresher) :
    PhaseLogged store r.accountID (r.readCurrent store).phase := by
  unfold Refresher.readCurrent
  split
  · trivial
  · split_ifs <;> trivial

/-- A turn adds to the log what the client returns to it. -/
lemma turn_logged (h : PhaseLogged store r.accountID r.phase) (outcome : Outcome) :
    (∃ new, (r.turn store outcome).1.exchanges = store.exchanges ++ new ∧ ∀ x ∈ new, x.account = some r.accountID) ∧
      PhaseLogged (r.turn store outcome).1 r.accountID (r.turn store outcome).2.phase := by
  have hsame : ∃ new, store.exchanges = store.exchanges ++ new ∧ ∀ x ∈ new, x.account = some r.accountID :=
    ⟨[], (List.append_nil _).symm, by simp⟩
  unfold Refresher.turn
  split
  · split
    · next hacquired =>
      obtain ⟨-, -, -, hlog⟩ := tryAcquire_frame hacquired
      exact ⟨⟨[], by rw [hlog, List.append_nil], by simp⟩, trivial⟩
    · split_ifs <;> exact ⟨hsame, trivial⟩
  · exact ⟨hsame, trivial⟩
  · exact ⟨hsame, logged_poll store r _ h⟩
  · exact ⟨hsame, trivial⟩
  · exact ⟨hsame, logged_readLatest store r _⟩
  · exact ⟨hsame, trivial⟩
  · next latest refreshToken attempt now response hphase =>
    rw [hphase] at h
    split
    · next token _ =>
      refine ⟨⟨_, rfl, ?_⟩, _, List.getElem?_concat_length, rfl, ?_, rfl⟩
      · intro x hx
        rw [List.mem_singleton.mp hx]
      · exact congrArg some h
    · exact ⟨hsame, logged_attemptFailed h store r _ _⟩
  · next hphase =>
    rw [hphase] at h
    exact ⟨hsame, logged_attemptFailed h store r _ _⟩
  · next hphase =>
    rw [hphase] at h
    exact ⟨hsame, h⟩
  · exact ⟨hsame, trivial⟩
  · next latest message _ _ _ =>
    cases hrow : store.unchanged r.accountID latest.account.refreshTokenCiphertext with
    | none =>
      rw [mark_none hrow]
      exact ⟨hsame, trivial⟩
    | some a =>
      rw [mark_some hrow]
      exact ⟨hsame, trivial⟩
  · exact ⟨hsame, trivial⟩
  · next hphase =>
    rw [hphase] at h
    split
    · next hpair =>
      obtain ⟨rfl, -, haccess, hrefresh⟩ := encryptPair_some hpair
      exact ⟨hsame, h, haccess, hrefresh⟩
    · exact ⟨hsame, trivial⟩
  · exact ⟨hsame, trivial⟩
  · next latest _ _ _ _ _ _ _ =>
    cases hrow : store.unchanged r.accountID latest.account.refreshTokenCiphertext with
    | none =>
      rw [update_none hrow]
      exact ⟨hsame, trivial⟩
    | some a =>
      rw [update_some hrow]
      exact ⟨hsame, trivial⟩
  · next latest _ _ _ _ _ =>
    cases hrow : store.unchanged r.accountID latest.account.refreshTokenCiphertext with
    | none =>
      rw [update_none hrow]
      exact ⟨hsame, trivial⟩
    | some a =>
      rw [update_some hrow]
      exact ⟨hsame, trivial⟩
  · exact ⟨hsame, trivial⟩
  · exact ⟨hsame, logged_readCurrent store r⟩
  · exact ⟨hsame, trivial⟩
  · obtain ⟨-, -, -, hlog⟩ := releaseLease_frame store r.accountID r.holderID
    exact ⟨⟨[], by rw [hlog, List.append_nil], by simp⟩, trivial⟩
  · exact ⟨hsame, trivial⟩
  · exact ⟨hsame, h⟩

/-- The tokens of the rows after a step are those before it, or those of a pending pair. -/
lemma Logged.rows_of (h : Logged s) {e : Event} (hc : Change s e t) {new : List Exchange}
    (hlog : t.store.exchanges = s.store.exchanges ++ new) {id : String} {a : Account}
    (ha : t.store.accounts.lookup id = some a) :
    ∃ x ∈ t.store.exchanges, Pair x a.accessTokenCiphertext a.refreshTokenCiphertext := by
  have hold : ∀ b, s.store.accounts.lookup id = some b →
      ∃ x ∈ t.store.exchanges, Pair x b.accessTokenCiphertext b.refreshTokenCiphertext := by
    intro b hb
    obtain ⟨x, hx, hpair⟩ := h.rows id b hb
    exact ⟨x, hlog ▸ List.mem_append_left new hx, hpair⟩
  cases hc with
  | still _ haccounts =>
    rw [haccounts] at ha
    exact hold a ha
  | marked _ _ _ hrow haccounts =>
    rw [haccounts, FiniteMap.lookup_insert] at ha
    split_ifs at ha with heq
    · cases ha
      rw [heq] at hold
      have hpair := hold _ (unchanged_some hrow).1
      exact hpair
    · exact hold a ha
  | restatus _ _ hrow haccess hrefresh haccounts =>
    rw [haccounts, FiniteMap.lookup_insert] at ha
    split_ifs at ha with heq
    · cases ha
      rw [heq] at hold
      rw [haccess, hrefresh]
      exact hold _ hrow
    · exact hold a ha
  | refreshed _ hr hphase _ _ haccounts =>
    rw [haccounts, FiniteMap.lookup_insert] at ha
    split_ifs at ha
    · cases ha
      have hlogged := h.phases _ (List.mem_of_getElem? hr)
      rw [hphase] at hlogged
      obtain ⟨⟨x, hx, -, -, rfl⟩, haccess, hrefresh⟩ := hlogged
      exact ⟨x, hlog ▸ List.mem_append_left new (List.mem_of_getElem? hx), haccess, hrefresh⟩
    · exact hold a ha
  | authorized _ hk _ haccess hrefresh _ haccounts =>
    rw [haccounts, FiniteMap.lookup_insert] at ha
    split_ifs at ha
    · cases ha
      obtain ⟨x, hx, hpair⟩ := h.authorizations _ (List.mem_of_getElem? hk)
      rw [haccess, hrefresh]
      exact ⟨x, hlog ▸ List.mem_append_left new hx, hpair⟩
    · exact hold a ha

lemma storeAuthorization_exchanges (store : Store) (b : Authorization) :
    (store.storeAuthorization b).exchanges = store.exchanges := by
  rcases storeAuthorization_cases store b with h | ⟨id, a', -, -, -, h⟩
  · rw [h]
  · rw [h]
    rfl

lemma mark_exchanges (store : Store) (id : String) (c : Ciphertext) (message : String) :
    (store.markAccountErrorIfRefreshTokenUnchanged id c message).1.exchanges = store.exchanges := by
  cases h : store.unchanged id c with
  | none => rw [mark_none h]
  | some a => rw [mark_some h]

/-- The lists of actors after a step, and the log. -/
lemma Logged.actors_of (h : Logged s) (e : Event) :
    (∃ new, (step s e).store.exchanges = s.store.exchanges ++ new) ∧
      (∀ r ∈ (step s e).refreshers, PhaseLogged (step s e).store r.accountID r.phase) ∧
      ∀ b ∈ (step s e).authorizations, ∃ x ∈ (step s e).store.exchanges, Pair x b.access b.refresh := by
  have hsame : ∃ new, s.store.exchanges = s.store.exchanges ++ new := ⟨[], (List.append_nil _).symm⟩
  have hphases : ∀ {store : Store}, store.exchanges = s.store.exchanges →
      ∀ r ∈ s.refreshers, PhaseLogged store r.accountID r.phase := by
    intro store hlog r hr
    have hlog : store.exchanges = s.store.exchanges ++ [] := by rw [hlog, List.append_nil]
    exact (h.phases r hr).mono hlog
  cases e with
  | start accountID holderID account refreshBefore waitForPeer maxAttempts markAccountError now =>
    refine ⟨hsame, ?_, h.authorizations⟩
    intro r hr
    rcases List.mem_append.mp hr with hr | hr
    · exact h.phases r hr
    · rw [List.mem_singleton.mp hr]
      dsimp only
      split_ifs <;> trivial
  | turn i outcome =>
    simp only [step]
    split
    · next r hr =>
      obtain ⟨⟨new, hlog, -⟩, hlogged⟩ := turn_logged (h.phases r (List.mem_of_getElem? hr)) outcome
      have haccount : (r.turn s.store outcome).2.accountID = r.accountID := turn_accountID r s.store outcome
      refine ⟨⟨new, hlog⟩, ?_, ?_⟩
      · intro x hx
        rcases List.mem_or_eq_of_mem_set hx with hx | hx
        · exact (h.phases x hx).mono hlog
        · rw [hx, haccount]
          exact hlogged
      · intro b hb
        obtain ⟨x, hx, hpair⟩ := h.authorizations b hb
        exact ⟨x, hlog ▸ List.mem_append_left new hx, hpair⟩
    · exact ⟨hsame, h.phases, h.authorizations⟩
  | resolve accountID =>
    simp only [step]
    split
    · exact ⟨hsame, h.phases, h.authorizations⟩
    · exact ⟨hsame, h.phases, h.authorizations⟩
  | markRefreshRequired j message =>
    simp only [step]
    split
    · dsimp only
      rw [mark_exchanges]
      exact ⟨hsame, hphases (mark_exchanges _ _ _ _), h.authorizations⟩
    · exact ⟨hsame, h.phases, h.authorizations⟩
  | authorize target token chatGPTAccountID =>
    simp only [step, System.authorize]
    split
    · exact ⟨hsame, h.phases, h.authorizations⟩
    · split
      · exact ⟨hsame, h.phases, h.authorizations⟩
      · next hpair =>
        obtain ⟨rfl, -, haccess, hrefresh⟩ := encryptPair_some hpair
        refine ⟨⟨_, rfl⟩, ?_, ?_⟩
        · intro r hr
          exact (h.phases r hr).mono rfl
        · intro b hb
          rcases List.mem_append.mp hb with hb | hb
          · obtain ⟨x, hx, hx'⟩ := h.authorizations b hb
            exact ⟨x, List.mem_append_left _ hx, hx'⟩
          · rw [List.mem_singleton.mp hb]
            exact ⟨_, List.mem_append_right _ (List.mem_singleton_self _), haccess, hrefresh⟩
  | storeAuthorization k =>
    simp only [step]
    split
    · next b hk =>
      split_ifs
      · exact ⟨hsame, h.phases, h.authorizations⟩
      · dsimp only
        rw [storeAuthorization_exchanges]
        refine ⟨hsame, hphases (storeAuthorization_exchanges _ _), ?_⟩
        intro b' hb'
        rcases List.mem_or_eq_of_mem_set hb' with hb' | hb'
        · exact h.authorizations b' hb'
        · rw [hb']
          exact h.authorizations b (List.mem_of_getElem? hk)
    · exact ⟨hsame, h.phases, h.authorizations⟩
  | setStatus accountID status =>
    simp only [step, Store.setStatus]
    split
    · exact ⟨hsame, hphases rfl, h.authorizations⟩
    · exact ⟨hsame, h.phases, h.authorizations⟩

structure Safe (s : System) : Prop where
  coherent : Coherent s
  logged : Logged s

lemma safe_initial : Safe initial := by
  refine ⟨⟨?_, ?_, ?_, ?_, ?_⟩, ⟨?_, ?_, ?_⟩⟩
  · intro p c hc
    cases p <;> cases hc
  · intro p q c d hc
    cases p <;> cases hc
  · intro n hn
    rcases hn with ⟨id, c, hc, -⟩ | ⟨q, id, snap, hsnap, -⟩
    · cases hc
    · cases q <;> cases hsnap
  · intro n p c _ hc
    cases p <;> cases hc
  · intro q id snap hsnap
    cases q <;> cases hsnap
  · intro id a ha
    cases ha
  · intro r hr
    cases hr
  · intro b hb
    cases hb

lemma step_safe (h : Safe s) (e : Event) : Safe (step s e) := by
  obtain ⟨⟨new, hlog⟩, hphases, hauthorizations⟩ := h.logged.actors_of e
  refine ⟨step_coherent h.coherent e, ⟨?_, hphases, hauthorizations⟩⟩
  intro id a ha
  exact h.logged.rows_of (step_change h.coherent e) hlog ha

lemma run_safe (events : List Event) : Safe (run events) := by
  unfold run
  induction events using List.reverseRecOn with
  | nil => exact safe_initial
  | append_singleton events e ih =>
    rw [List.foldl_append]
    exact step_safe ih e

end Logs

section Swaps

variable {s t : System} {e : Event} {id : String} {a a' : Account}

/-- Whoever finds the refresh token of its snapshot finds tokens that nobody has written since. -/
lemma Coherent.unwritten (h : Coherent s) {q : ℕ ⊕ ℕ} {snap : Snapshot} (hsnap : snapshotAt s q = some (id, snap))
    (ha : s.store.accounts.lookup id = some a)
    (hsame : a.refreshTokenCiphertext = snap.account.refreshTokenCiphertext) : id ∉ s.store.writes.drop snap.writes := by
  obtain ⟨-, c, hc, hiff⟩ := h.snapshots q id snap hsnap
  rw [refreshAt, ha, Option.map_some] at hc
  cases hc
  exact hiff.mp hsame

/-- A row whose tokens change is written by a re-authorization, or by a refresher that was given the new pair for
the refresh token in the row. -/
lemma Safe.replaces (h : Safe s) (hc : Change s e t) (ha : s.store.accounts.lookup id = some a)
    (ha' : t.store.accounts.lookup id = some a')
    (hne : a'.accessTokenCiphertext ≠ a.accessTokenCiphertext ∨ a'.refreshTokenCiphertext ≠ a.refreshTokenCiphertext) :
    t.store.writes = s.store.writes ++ [id] ∧
      ((∃ k b, e = .storeAuthorization k ∧ s.authorizations[k]? = some b ∧ a'.accessTokenCiphertext = b.access ∧
          a'.refreshTokenCiphertext = b.refresh) ∨
        ∃ i outcome r latest refreshed response access refresh, e = .turn i outcome ∧ s.refreshers[i]? = some r ∧
          r.accountID = id ∧ r.phase = .writing latest refreshed response access refresh ∧
          latest.account.refreshTokenCiphertext = a.refreshTokenCiphertext ∧ id ∉ s.store.writes.drop latest.writes ∧
          a'.accessTokenCiphertext = access ∧ a'.refreshTokenCiphertext = refresh ∧
          ∃ x ∈ s.store.exchanges, x.refreshToken = some a.refreshTokenCiphertext.plaintext ∧ Pair x access refresh) := by
  have hsame : a' = a → False := by
    intro heq
    rw [heq] at hne
    simp at hne
  cases hc with
  | still _ haccounts =>
    rw [haccounts, ha] at ha'
    cases ha'
    exact absurd rfl hsame
  | marked _ _ _ hrow haccounts =>
    rw [haccounts, FiniteMap.lookup_insert] at ha'
    split_ifs at ha' with heq
    · cases ha'
      rw [heq, (unchanged_some hrow).1] at ha
      cases ha
      simp [markedRow] at hne
    · rw [ha] at ha'
      cases ha'
      exact absurd rfl hsame
  | restatus _ _ hrow haccess hrefresh haccounts =>
    rw [haccounts, FiniteMap.lookup_insert] at ha'
    split_ifs at ha' with heq
    · cases ha'
      rw [heq, hrow] at ha
      cases ha
      simp [haccess, hrefresh] at hne
    · rw [ha] at ha'
      cases ha'
      exact absurd rfl hsame
  | refreshed he hr hphase hrow hwrites haccounts =>
    rw [haccounts, FiniteMap.lookup_insert] at ha'
    split_ifs at ha' with heq
    · cases ha'
      subst heq
      obtain ⟨hlookup, hfound, -⟩ := unchanged_some hrow
      rw [hlookup] at ha
      cases ha
      have hsnap : snapshotAt s _ = some _ := (snapshotAt_of_refresher hr).trans (by rw [hphase]; rfl)
      have hlogged := h.logged.phases _ (List.mem_of_getElem? hr)
      rw [hphase] at hlogged
      obtain ⟨⟨x, hx, -, hused, rfl⟩, hpair⟩ := hlogged
      refine ⟨hwrites.writes, Or.inr ⟨_, _, _, _, _, _, _, _, he, hr, rfl, hphase, hfound.symm,
        h.coherent.unwritten hsnap hlookup hfound, rfl, rfl, x, List.mem_of_getElem? hx, ?_, hpair⟩⟩
      rw [hused, hfound]
    · rw [ha] at ha'
      cases ha'
      exact absurd rfl hsame
  | authorized he hk hwrites haccess hrefresh _ haccounts =>
    rw [haccounts, FiniteMap.lookup_insert] at ha'
    split_ifs at ha' with heq
    · cases ha'
      subst heq
      exact ⟨hwrites.writes, Or.inl ⟨_, _, he, hk, haccess, hrefresh⟩⟩
    · rw [ha] at ha'
      cases ha'
      exact absurd rfl hsame

/-- An account is set to `refresh_required` by an administrator or its owner, or by an actor that has read the
refresh token in the row. -/
lemma Safe.marks (h : Safe s) (hc : Change s e t) (ha : s.store.accounts.lookup id = some a)
    (ha' : t.store.accounts.lookup id = some a') (hbefore : a.status ≠ .refreshRequired)
    (hafter : a'.status = .refreshRequired) :
    (∃ status, e = .setStatus id status) ∨ ∃ q snap, ActsAt e q ∧ snapshotAt s q = some (id, snap) ∧
      snap.account.refreshTokenCiphertext = a.refreshTokenCiphertext ∧ id ∉ s.store.writes.drop snap.writes := by
  have hsame : a' = a → False := by
    intro heq
    rw [heq] at hafter
    exact hbefore hafter
  cases hc with
  | still _ haccounts =>
    rw [haccounts, ha] at ha'
    cases ha'
    exact absurd rfl hsame
  | marked _ he hsnap hrow haccounts =>
    rw [haccounts, FiniteMap.lookup_insert] at ha'
    split_ifs at ha' with heq
    · obtain ⟨hlookup, hfound, -⟩ := unchanged_some hrow
      subst heq
      rw [hlookup] at ha
      cases ha
      exact Or.inr ⟨_, _, he, hsnap, hfound.symm, h.coherent.unwritten hsnap hlookup hfound⟩
    · rw [ha] at ha'
      cases ha'
      exact absurd rfl hsame
  | restatus _ he hrow _ _ haccounts =>
    rw [haccounts, FiniteMap.lookup_insert] at ha'
    split_ifs at ha' with heq
    · subst heq
      exact Or.inl ⟨_, he⟩
    · rw [ha] at ha'
      cases ha'
      exact absurd rfl hsame
  | refreshed _ _ _ hrow _ haccounts =>
    rw [haccounts, FiniteMap.lookup_insert] at ha'
    split_ifs at ha'
    · cases ha'
      rw [refreshedRow, (unchanged_some hrow).2.2] at hafter
      cases hafter
    · rw [ha] at ha'
      cases ha'
      exact absurd rfl hsame
  | authorized _ _ _ _ _ hstatus haccounts =>
    rw [haccounts, FiniteMap.lookup_insert] at ha'
    split_ifs at ha'
    · cases ha'
      rw [hstatus] at hafter
      cases hafter
    · rw [ha] at ha'
      cases ha'
      exact absurd rfl hsame

/-- Whatever refreshers, requests and re-authorizations have done: the tokens of an account are of one pair that the
client returned; a step that replaces them stores a re-authorization, or the pair that was obtained for the very refresh
token in the row by a refresher since whose read the tokens were not written; and an error mark is set only by an
actor since whose read they were not written. -/
theorem token_swaps_are_safe (events : List Event) :
    (∀ id a, (run events).store.accounts.lookup id = some a →
      ∃ x ∈ (run events).store.exchanges, Pair x a.accessTokenCiphertext a.refreshTokenCiphertext) ∧
    ∀ e id a a', (run events).store.accounts.lookup id = some a →
      (step (run events) e).store.accounts.lookup id = some a' →
      (a'.accessTokenCiphertext ≠ a.accessTokenCiphertext ∨ a'.refreshTokenCiphertext ≠ a.refreshTokenCiphertext →
        (step (run events) e).store.writes = (run events).store.writes ++ [id] ∧
        ((∃ k b, e = .storeAuthorization k ∧ (run events).authorizations[k]? = some b ∧
            a'.accessTokenCiphertext = b.access ∧ a'.refreshTokenCiphertext = b.refresh) ∨
          ∃ i outcome r latest refreshed response access refresh, e = .turn i outcome ∧
            (run events).refreshers[i]? = some r ∧ r.accountID = id ∧
            r.phase = .writing latest refreshed response access refresh ∧
            latest.account.refreshTokenCiphertext = a.refreshTokenCiphertext ∧
            id ∉ (run events).store.writes.drop latest.writes ∧
            a'.accessTokenCiphertext = access ∧ a'.refreshTokenCiphertext = refresh ∧
            ∃ x ∈ (run events).store.exchanges, x.refreshToken = some a.refreshTokenCiphertext.plaintext ∧
              Pair x access refresh)) ∧
      (a.status ≠ .refreshRequired → a'.status = .refreshRequired →
        (∃ status, e = .setStatus id status) ∨ ∃ q snap, ActsAt e q ∧ snapshotAt (run events) q = some (id, snap) ∧
          snap.account.refreshTokenCiphertext = a.refreshTokenCiphertext ∧
          id ∉ (run events).store.writes.drop snap.writes) := by
  have h := run_safe events
  refine ⟨h.logged.rows, ?_⟩
  intro e id a a' ha ha'
  have hc := step_change h.coherent e
  exact ⟨h.replaces hc ha ha', h.marks hc ha ha'⟩

end Swaps

end ShareSub.TokenSafety

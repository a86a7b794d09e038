import Mathlib
import ShareSub.TokenSafety

/-!
# The credentials of an account open with its own scope

Each credential is encrypted for the owner and the upstream account of the row that it is stored in, and these two columns
never change. So a read row always decrypts, and no two rows are for one upstream account of an owner.
-/
namespace ShareSub.TokenSealing

open GatewayModel (trimSpace)
open TokenModel TokenSafety

section Rows

/-- What the credentials of a scope are encrypted with. -/
structure Sealed (scope : String) (access refresh : Ciphertext) : Prop where
  accessScope : access.associatedData = scope ++ ":access"
  refreshScope : refresh.associatedData = scope ++ ":refresh"
  accessToken : trimSpace access.plaintext ≠ ""
  refreshToken : trimSpace refresh.plaintext ≠ ""

/-- The row of an id is for this owner and this upstream account. -/
def Owned (s : Store) (id ownerUserID chatGPTAccountID : String) : Prop :=
  ∃ a, s.accounts.lookup id = some a ∧ a.ownerUserID = ownerUserID ∧ a.chatGPTAccountID = chatGPTAccountID

structure SealedRows (s : Store) : Prop where
  rows : ∀ id a, s.accounts.lookup id = some a → Sealed a.scope a.accessTokenCiphertext a.refreshTokenCiphertext
  unique : ∀ id id' ownerUserID chatGPTAccountID, Owned s id ownerUserID chatGPTAccountID →
    Owned s id' ownerUserID chatGPTAccountID → id = id'

/-- The rows of the accounts stay, with their owners and upstream accounts. -/
def Kept (s t : Store) : Prop := ∀ id ownerUserID chatGPTAccountID, Owned s id ownerUserID chatGPTAccountID →
  Owned t id ownerUserID chatGPTAccountID

variable {s t : Store} {id ownerUserID chatGPTAccountID : String} {a a' : Account} {access refresh : Ciphertext}

lemma Owned.of_lookup (h : s.accounts.lookup id = some a) : Owned s id a.ownerUserID a.chatGPTAccountID := ⟨a, h, rfl, rfl⟩

lemma Kept.of_eq (h : t.accounts = s.accounts) : Kept s t := by
  rintro id ownerUserID chatGPTAccountID ⟨a, ha, hrest⟩
  exact ⟨a, h ▸ ha, hrest⟩

lemma SealedRows.of_eq (hs : SealedRows s) (h : t.accounts = s.accounts) : SealedRows t := by
  constructor
  · rw [h]
    exact hs.rows
  · intro id id' ownerUserID chatGPTAccountID hid hid'
    exact hs.unique id id' ownerUserID chatGPTAccountID (Kept.of_eq h.symm _ _ _ hid) (Kept.of_eq h.symm _ _ _ hid')

lemma owned_insert (ha : s.accounts.lookup id = some a) (howner : a'.ownerUserID = a.ownerUserID)
    (hchat : a'.chatGPTAccountID = a.chatGPTAccountID) (ht : t.accounts = s.accounts.insert id a')
    (id' ownerUserID chatGPTAccountID : String) :
    Owned t id' ownerUserID chatGPTAccountID ↔ Owned s id' ownerUserID chatGPTAccountID := by
  unfold Owned
  rw [ht, FiniteMap.lookup_insert]
  split_ifs with hid
  · rw [hid, ha]
    simp [howner, hchat]
  · rfl

/-- A row is rewritten for the same owner and upstream account. -/
lemma SealedRows.insert (hs : SealedRows s) (ha : s.accounts.lookup id = some a)
    (ht : t.accounts = s.accounts.insert id a') (howner : a'.ownerUserID = a.ownerUserID)
    (hchat : a'.chatGPTAccountID = a.chatGPTAccountID)
    (hsealed : Sealed a.scope a'.accessTokenCiphertext a'.refreshTokenCiphertext) : SealedRows t ∧ Kept s t := by
  have howned := owned_insert ha howner hchat ht
  refine ⟨⟨?_, ?_⟩, fun id' ownerUserID chatGPTAccountID => (howned id' ownerUserID chatGPTAccountID).mpr⟩
  · intro id' b hb
    rw [ht, FiniteMap.lookup_insert] at hb
    split_ifs at hb
    · cases hb
      rw [Account.scope, howner, hchat]
      exact hsealed
    · exact hs.rows id' b hb
  · intro id₁ id₂ ownerUserID chatGPTAccountID h₁ h₂
    rw [howned] at h₁ h₂
    exact hs.unique id₁ id₂ ownerUserID chatGPTAccountID h₁ h₂

lemma conflicting_some {existing : String} (h : s.conflicting ownerUserID chatGPTAccountID = some (existing, a)) :
    s.accounts.lookup existing = some a ∧ a.ownerUserID = ownerUserID ∧ a.chatGPTAccountID = chatGPTAccountID := by
  obtain ⟨e, he, heq⟩ := Option.map_eq_some_iff.mp h
  cases heq
  have hmatch := List.find?_some he
  rw [decide_eq_true_eq] at hmatch
  exact ⟨FiniteMap.mem_entries_iff.mp (List.mem_of_find?_eq_some he), hmatch⟩

lemma conflicting_none (h : s.conflicting ownerUserID chatGPTAccountID = none) (id' : String) :
    ¬ Owned s id' ownerUserID chatGPTAccountID := by
  rintro ⟨b, hb, howner, hchat⟩
  have hmem : (⟨id', b⟩ : Sigma fun _ : String => Account) ∈ s.accounts.entries := FiniteMap.mem_entries_iff.mpr hb
  rw [Store.conflicting, Option.map_eq_none_iff, List.find?_eq_none] at h
  exact h _ hmem (decide_eq_true ⟨howner, hchat⟩)

/-- A row for an upstream account that its owner has not connected. -/
lemma SealedRows.insert_new (hs : SealedRows s) (hid : s.accounts.lookup id = none)
    (ht : t.accounts = s.accounts.insert id a) (hnone : s.conflicting a.ownerUserID a.chatGPTAccountID = none)
    (hsealed : Sealed a.scope a.accessTokenCiphertext a.refreshTokenCiphertext) : SealedRows t ∧ Kept s t := by
  have howned : ∀ id' ownerUserID chatGPTAccountID, Owned t id' ownerUserID chatGPTAccountID ↔
      (id' = id ∧ a.ownerUserID = ownerUserID ∧ a.chatGPTAccountID = chatGPTAccountID) ∨
        Owned s id' ownerUserID chatGPTAccountID := by
    intro id' ownerUserID chatGPTAccountID
    unfold Owned
    rw [ht, FiniteMap.lookup_insert]
    split_ifs with hid'
    · rw [hid', hid]
      simp
    · simp [hid']
  refine ⟨⟨?_, ?_⟩, fun id' ownerUserID chatGPTAccountID h => (howned _ _ _).mpr (.inr h)⟩
  · intro id' b hb
    rw [ht, FiniteMap.lookup_insert] at hb
    split_ifs at hb
    · cases hb
      exact hsealed
    · exact hs.rows id' b hb
  · intro id₁ id₂ ownerUserID chatGPTAccountID h₁ h₂
    rw [howned] at h₁ h₂
    rcases h₁ with ⟨rfl, rfl, rfl⟩ | h₁
    · rcases h₂ with ⟨rfl, -, -⟩ | h₂
      · rfl
      · exact absurd h₂ (conflicting_none hnone id₂)
    · rcases h₂ with ⟨rfl, rfl, rfl⟩ | h₂
      · exact absurd h₁ (conflicting_none hnone id₁)
      · exact hs.unique id₁ id₂ ownerUserID chatGPTAccountID h₁ h₂

lemma encrypt_some {nonce : ℕ} {plaintext associatedData : String} {c : Ciphertext}
    (h : encrypt nonce plaintext associatedData = some c) :
    c.associatedData = associatedData ∧ trimSpace c.plaintext ≠ "" := by
  unfold encrypt at h
  split_ifs at h with hblank
  cases h
  exact ⟨rfl, hblank⟩

lemma encryptPair_sealed {scope : String} {token : OAuthToken} (h : s.encryptPair scope token = some (t, access, refresh)) :
    t.accounts = s.accounts ∧ Sealed scope access refresh := by
  obtain ⟨access', haccess, h⟩ := Option.bind_eq_some_iff.mp h
  obtain ⟨refresh', hrefresh, h⟩ := Option.map_eq_some_iff.mp h
  cases h
  exact ⟨rfl, (encrypt_some haccess).1, (encrypt_some hrefresh).1, (encrypt_some haccess).2, (encrypt_some hrefresh).2⟩

lemma updateAccountAuthorization_sealed (hs : SealedRows s) (expiresAt : ℤ)
    (hsealed : ∀ a, s.accounts.lookup id = some a → a.ownerUserID = ownerUserID → Sealed a.scope access refresh) :
    SealedRows (s.updateAccountAuthorization id ownerUserID access refresh expiresAt) ∧
      Kept s (s.updateAccountAuthorization id ownerUserID access refresh expiresAt) := by
  unfold Store.updateAccountAuthorization
  split
  · next a hfound =>
    rw [Option.filter_eq_some_iff, decide_eq_true_eq] at hfound
    exact hs.insert hfound.1 rfl rfl rfl (hsealed a hfound.1 hfound.2)
  · exact ⟨hs, fun _ _ _ h => h⟩

lemma createOrRotateAccountAuthorization_sealed (hs : SealedRows s) (expiresAt : ℤ)
    (hsealed : Sealed (ownerUserID ++ ":" ++ chatGPTAccountID) access refresh) :
    SealedRows (s.createOrRotateAccountAuthorization id ownerUserID chatGPTAccountID access refresh expiresAt) ∧
      Kept s (s.createOrRotateAccountAuthorization id ownerUserID chatGPTAccountID access refresh expiresAt) := by
  unfold Store.createOrRotateAccountAuthorization
  split
  · next existing b hconflict =>
    obtain ⟨hb, howner, hchat⟩ := conflicting_some hconflict
    refine updateAccountAuthorization_sealed hs expiresAt fun a ha _ => ?_
    rw [hb, Option.some_inj] at ha
    rw [← ha, Account.scope, howner, hchat]
    exact hsealed
  · next hconflict =>
    split_ifs with hid
    · exact hs.insert_new hid rfl hconflict hsealed
    · exact ⟨hs, fun _ _ _ h => h⟩

end Rows

section Runs

/-- A pair that is about to be stored is sealed for the row that it was read from. -/
def PhaseSealed : Phase → Prop
  | .writing latest _ _ access refresh => Sealed latest.account.scope access refresh
  | _ => True

/-- What a refresher has read is of the row of its account. -/
def RefresherOwned (s : Store) (r : Refresher) : Prop :=
  ∀ latest, latestOf r.phase = some latest →
    Owned s r.accountID latest.account.ownerUserID latest.account.chatGPTAccountID

def AuthorizationSealed (s : Store) (b : Authorization) : Prop :=
  match b.target with
  | .reauthorize accountID => ∃ chatGPTAccountID, Owned s accountID b.ownerUserID chatGPTAccountID ∧
      Sealed (b.ownerUserID ++ ":" ++ chatGPTAccountID) b.access b.refresh
  | .connect _ ownerUserID chatGPTAccountID => Sealed (ownerUserID ++ ":" ++ chatGPTAccountID) b.access b.refresh

structure SealedSystem (s : System) : Prop where
  rows : SealedRows s.store
  phases : ∀ r ∈ s.refreshers, PhaseSealed r.phase
  refreshers : ∀ r ∈ s.refreshers, RefresherOwned s.store r
  authorizations : ∀ b ∈ s.authorizations, AuthorizationSealed s.store b

variable {s t : Store} {r : Refresher}

lemma RefresherOwned.kept (h : RefresherOwned s r) (hkept : Kept s t) : RefresherOwned t r :=
  fun latest hlatest => hkept _ _ _ (h latest hlatest)

lemma AuthorizationSealed.kept {b : Authorization} (h : AuthorizationSealed s b) (hkept : Kept s t) :
    AuthorizationSealed t b := by
  unfold AuthorizationSealed at h ⊢
  split at h
  · obtain ⟨chatGPTAccountID, howned, hsealed⟩ := h
    exact ⟨chatGPTAccountID, hkept _ _ _ howned, hsealed⟩
  · exact h

lemma phaseSealed_refreshFailed (r : Refresher) (latest : Snapshot) (message : String) :
    PhaseSealed (r.refreshFailed latest message).phase := by
  unfold Refresher.refreshFailed
  split_ifs <;> trivial

lemma phaseSealed_attemptFailed (r : Refresher) (latest : Snapshot) (refreshToken : String) (attempt : ℤ)
    (message : String) : PhaseSealed (r.attemptFailed latest refreshToken attempt message).phase := by
  unfold Refresher.attemptFailed
  split_ifs
  · trivial
  · exact phaseSealed_refreshFailed r latest message

lemma phaseSealed_readLatest (r : Refresher) (s : Store) (now : ℤ) : PhaseSealed (r.readLatest s now).phase := by
  unfold Refresher.readLatest
  split
  · trivial
  · split_ifs
    · trivial
    · trivial
    · split
      · exact phaseSealed_refreshFailed r _ _
      · trivial

lemma phaseSealed_poll (r : Refresher) (s : Store) (now : ℤ) (h : PhaseSealed r.phase) :
    PhaseSealed (r.poll s now).phase := by
  unfold Refresher.poll
  split
  · trivial
  · split_ifs
    · trivial
    · trivial
    · exact h

lemma phaseSealed_readCurrent (r : Refresher) (s : Store) : PhaseSealed (r.readCurrent s).phase := by
  unfold Refresher.readCurrent
  split
  · trivial
  · split_ifs <;> trivial

/-- A refresher seals the pair that it was given for the row that it has read. -/
lemma phaseSealed_turn (h : PhaseSealed r.phase) (outcome : Outcome) : PhaseSealed (r.turn s outcome).2.phase := by
  unfold Refresher.turn
  split
  · split
    · trivial
    · split_ifs <;> trivial
  · trivial
  · exact phaseSealed_poll r s _ h
  · trivial
  · exact phaseSealed_readLatest r s _
  · trivial
  · split
    · trivial
    · exact phaseSealed_attemptFailed r _ _ _ _
  · exact phaseSealed_attemptFailed r _ _ _ _
  · trivial
  · trivial
  · trivial
  · trivial
  · split
    · next hpair => exact (encryptPair_sealed hpair).2
    · trivial
  · trivial
  · dsimp only
    split_ifs <;> trivial
  · trivial
  · trivial
  · exact phaseSealed_readCurrent r s
  · trivial
  · trivial
  · trivial
  · exact h

lemma unchanged_lookup {id : String} {c : Ciphertext} {a : Account} (h : s.unchanged id c = some a) :
    s.accounts.lookup id = some a := (Option.filter_eq_some_iff.mp h).1

/-- The row of a refresher is the one that its snapshot is of. -/
lemma RefresherOwned.scope (h : RefresherOwned s r) {latest : Snapshot} (hlatest : latestOf r.phase = some latest)
    {a : Account} (ha : s.accounts.lookup r.accountID = some a) : a.scope = latest.account.scope := by
  obtain ⟨b, hb, howner, hchat⟩ := h latest hlatest
  rw [ha, Option.some_inj] at hb
  rw [Account.scope, Account.scope, hb, howner, hchat]

/-- What a turn keeps of the rows, and what it knows of the row that it has read. -/
lemma sealed_turn (hs : SealedRows s) (hphase : PhaseSealed r.phase) (howned : RefresherOwned s r) (outcome : Outcome) :
    SealedRows (r.turn s outcome).1 ∧ Kept s (r.turn s outcome).1 ∧
      RefresherOwned (r.turn s outcome).1 (r.turn s outcome).2 := by
  rcases turn_cases r s outcome with hstill | ⟨latest, message, a, hmarking, hrow, hturn⟩ |
    ⟨latest, refreshed, response, access, refresh, a, result, hwriting, hrow, hturn⟩
  · refine ⟨hs.of_eq hstill.accounts, Kept.of_eq hstill.accounts, fun latest hlatest => ?_⟩
    refine Kept.of_eq hstill.accounts _ _ _ ?_
    rw [hstill.account]
    rcases hstill.latest latest hlatest with hbefore | hread
    · exact howned latest hbefore
    · obtain ⟨a, ha, rfl⟩ := Option.map_eq_some_iff.mp hread
      exact Owned.of_lookup ha
  · rw [hturn]
    have ha := unchanged_lookup hrow
    obtain ⟨hrows, hkept⟩ := hs.insert
      (t := { s with accounts := s.accounts.insert r.accountID (markedRow a (refreshErrorText message)) }) ha rfl rfl rfl
      (hs.rows _ a ha)
    exact ⟨hrows, hkept, fun _ hnone => by cases hnone⟩
  · rw [hturn]
    have ha := unchanged_lookup hrow
    have hscope : a.scope = latest.account.scope := howned.scope (by rw [hwriting]; rfl) ha
    rw [hwriting] at hphase
    have hsealed : Sealed a.scope access refresh := hscope ▸ hphase
    obtain ⟨hrows, hkept⟩ :=
      hs.insert (t := s.writeTokens r.accountID (refreshedRow a refreshed access refresh)) ha rfl rfl rfl hsealed
    exact ⟨hrows, hkept, fun _ hnone => by cases hnone⟩

lemma storeAuthorization_sealed (hs : SealedRows s) {b : Authorization} (hb : AuthorizationSealed s b) :
    SealedRows (s.storeAuthorization b) ∧ Kept s (s.storeAuthorization b) := by
  cases htarget : b.target with
  | reauthorize accountID =>
    simp only [AuthorizationSealed, htarget] at hb
    simp only [Store.storeAuthorization, htarget]
    obtain ⟨chatGPTAccountID, ⟨c, hc, howner, hchat⟩, hsealed⟩ := hb
    refine updateAccountAuthorization_sealed hs b.expiresAt fun a ha _ => ?_
    rw [hc, Option.some_inj] at ha
    rw [← ha, Account.scope, howner, hchat]
    exact hsealed
  | connect accountID ownerUserID chatGPTAccountID =>
    simp only [AuthorizationSealed, htarget] at hb
    simp only [Store.storeAuthorization, htarget]
    exact createOrRotateAccountAuthorization_sealed hs b.expiresAt hb

lemma setStatus_sealed (hs : SealedRows s) (id : String) (status : AccountStatus) :
    SealedRows (s.setStatus id status) ∧ Kept s (s.setStatus id status) := by
  unfold Store.setStatus
  split
  · next a ha => exact hs.insert ha rfl rfl rfl (hs.rows id a ha)
  · exact ⟨hs, fun _ _ _ h => h⟩

lemma markAccountError_sealed (hs : SealedRows s) (id : String) (c : Ciphertext) (message : String) :
    SealedRows (s.markAccountErrorIfRefreshTokenUnchanged id c message).1 ∧
      Kept s (s.markAccountErrorIfRefreshTokenUnchanged id c message).1 := by
  unfold Store.markAccountErrorIfRefreshTokenUnchanged
  split
  · next a hrow => exact hs.insert (unchanged_lookup hrow) rfl rfl rfl (hs.rows id a (unchanged_lookup hrow))
  · exact ⟨hs, fun _ _ _ h => h⟩

variable {x y : System}

/-- The actors of a system whose rows are kept. -/
lemma SealedSystem.kept (h : SealedSystem x) (hrows : SealedRows y.store) (hkept : Kept x.store y.store)
    (hrefreshers : y.refreshers = x.refreshers) (hauthorizations : ∀ b ∈ y.authorizations, b ∈ x.authorizations ∨
      AuthorizationSealed y.store b) : SealedSystem y := by
  refine ⟨hrows, hrefreshers ▸ h.phases, fun r hr => ?_, fun b hb => ?_⟩
  · rw [hrefreshers] at hr
    exact (h.refreshers r hr).kept hkept
  · rcases hauthorizations b hb with hb | hb
    · exact (h.authorizations b hb).kept hkept
    · exact hb

lemma ownerOf_sealed {target : Target} {owner chat chatGPTAccountID : String} {access refresh : Ciphertext} {expiresAt : ℤ}
    (h : s.ownerOf target chatGPTAccountID = some (owner, chat)) (hsealed : Sealed (owner ++ ":" ++ chat) access refresh) :
    AuthorizationSealed s ⟨target, owner, access, refresh, expiresAt, false⟩ := by
  unfold Store.ownerOf at h
  split at h
  · next accountID =>
    obtain ⟨a, ha, heq⟩ := Option.map_eq_some_iff.mp h
    cases heq
    exact ⟨a.chatGPTAccountID, Owned.of_lookup (Option.filter_eq_some_iff.mp ha).1, hsealed⟩
  · cases h
    exact hsealed

lemma authorize_sealed (h : SealedSystem x) (target : Target) (token : OAuthToken) (chatGPTAccountID : String) :
    SealedSystem (x.authorize target token chatGPTAccountID) ∧
      Kept x.store (x.authorize target token chatGPTAccountID).store := by
  unfold System.authorize
  cases howner : x.store.ownerOf target chatGPTAccountID with
  | none => exact ⟨h, fun _ _ _ hid => hid⟩
  | some owner =>
    dsimp only
    cases hpair : x.store.encryptPair (owner.1 ++ ":" ++ owner.2) token with
    | none => exact ⟨h, fun _ _ _ hid => hid⟩
    | some pair =>
      obtain ⟨haccounts, hsealed⟩ := encryptPair_sealed hpair
      have hkept : Kept x.store { pair.1 with exchanges := pair.1.exchanges ++ [⟨none, none, token, false⟩] } :=
        Kept.of_eq haccounts
      refine ⟨h.kept (h.rows.of_eq haccounts) hkept rfl fun b hb => ?_, hkept⟩
      rcases List.mem_append.mp hb with hb | hb
      · exact .inl hb
      · rw [List.mem_singleton.mp hb]
        exact .inr ((ownerOf_sealed howner hsealed).kept hkept)

/-- Every step keeps the rows sealed and with their owners. -/
theorem step_sealed (h : SealedSystem x) (e : Event) : SealedSystem (step x e) ∧ Kept x.store (step x e).store := by
  cases e with
  | start accountID holderID account refreshBefore waitForPeer maxAttempts markAccountError now =>
    refine ⟨⟨h.rows, fun r hr => ?_, fun r hr => ?_, h.authorizations⟩, fun _ _ _ hid => hid⟩
    · rcases List.mem_append.mp hr with hr | hr
      · exact h.phases r hr
      · rw [List.mem_singleton.mp hr]
        dsimp only
        split_ifs <;> trivial
    · rcases List.mem_append.mp hr with hr | hr
      · exact h.refreshers r hr
      · rw [List.mem_singleton.mp hr]
        intro latest hlatest
        dsimp only at hlatest
        split_ifs at hlatest <;> cases hlatest
  | turn i outcome =>
    simp only [step]
    cases hr : x.refreshers[i]? with
    | none => exact ⟨h, fun _ _ _ hid => hid⟩
    | some r =>
      have hmem := List.mem_of_getElem? hr
      obtain ⟨hrows, hkept, howned⟩ := sealed_turn h.rows (h.phases r hmem) (h.refreshers r hmem) outcome
      refine ⟨⟨hrows, fun r' hr' => ?_, fun r' hr' => ?_, fun b hb => (h.authorizations b hb).kept hkept⟩, hkept⟩
      · rcases List.mem_or_eq_of_mem_set hr' with hr' | rfl
        · exact h.phases r' hr'
        · exact phaseSealed_turn (h.phases r hmem) outcome
      · rcases List.mem_or_eq_of_mem_set hr' with hr' | rfl
        · exact (h.refreshers r' hr').kept hkept
        · exact howned
  | resolve accountID =>
    simp only [step]
    split
    · exact ⟨h.kept h.rows (fun _ _ _ hid => hid) rfl fun b => .inl, fun _ _ _ hid => hid⟩
    · exact ⟨h, fun _ _ _ hid => hid⟩
  | markRefreshRequired j message =>
    simp only [step]
    split
    · next q hq =>
      obtain ⟨hrows, hkept⟩ :=
        markAccountError_sealed h.rows q.accountID q.credential.account.refreshTokenCiphertext message
      exact ⟨h.kept hrows hkept rfl fun b => .inl, hkept⟩
    · exact ⟨h, fun _ _ _ hid => hid⟩
  | authorize target token chatGPTAccountID => exact authorize_sealed h target token chatGPTAccountID
  | storeAuthorization k =>
    simp only [step]
    split
    · next b hb =>
      split_ifs
      · exact ⟨h, fun _ _ _ hid => hid⟩
      · have hsealed := h.authorizations b (List.mem_of_getElem? hb)
        obtain ⟨hrows, hkept⟩ := storeAuthorization_sealed h.rows hsealed
        refine ⟨h.kept hrows hkept rfl fun b' hb' => ?_, hkept⟩
        rcases List.mem_or_eq_of_mem_set hb' with hb' | rfl
        · exact .inl hb'
        · exact .inr (AuthorizationSealed.kept (b := { b with stored := true }) hsealed hkept)
    · exact ⟨h, fun _ _ _ hid => hid⟩
  | setStatus accountID status =>
    obtain ⟨hrows, hkept⟩ := setStatus_sealed h.rows accountID status
    exact ⟨h.kept hrows hkept rfl fun b => .inl, hkept⟩

lemma sealed_initial : SealedSystem initial := by
  refine ⟨⟨?_, ?_⟩, by simp [initial], by simp [initial], by simp [initial]⟩
  · simp [initial]
  · simp [initial, Owned]

lemma sealed_run (h : SealedSystem x) (events : List Event) :
    SealedSystem (events.foldl step x) ∧ Kept x.store (events.foldl step x).store := by
  induction events generalizing x with
  | nil => exact ⟨h, fun _ _ _ hid => hid⟩
  | cons e events ih =>
    obtain ⟨hnext, hkept⟩ := step_sealed h e
    obtain ⟨hlast, hrest⟩ := ih hnext
    exact ⟨hlast, fun id ownerUserID chatGPTAccountID hid => hrest _ _ _ (hkept _ _ _ hid)⟩

/-- In every run the credentials of each account decrypt with the scope of its own row to tokens that are not blank, no
other row is for the same upstream account of the same owner, and the row stays with both of them. -/
theorem credentials_stay_sealed (before after : List Event) (id : String) (a : Account)
    (ha : (run before).store.accounts.lookup id = some a) :
    (∃ accessToken, decryptAccountAccessToken a = .ok accessToken ∧ trimSpace accessToken ≠ "") ∧
      (∃ refreshToken, decrypt a.refreshTokenCiphertext (a.scope ++ ":refresh") = some refreshToken ∧
        trimSpace refreshToken ≠ "") ∧
      (∀ id' a', (run before).store.accounts.lookup id' = some a' → a'.ownerUserID = a.ownerUserID →
        a'.chatGPTAccountID = a.chatGPTAccountID → id' = id) ∧
      ∃ a', (run (before ++ after)).store.accounts.lookup id = some a' ∧ a'.ownerUserID = a.ownerUserID ∧
        a'.chatGPTAccountID = a.chatGPTAccountID := by
  have hbefore : SealedSystem (run before) := (sealed_run sealed_initial before).1
  obtain ⟨haccess, hrefresh, haccessToken, hrefreshToken⟩ := hbefore.rows.rows id a ha
  refine ⟨⟨_, ?_, haccessToken⟩, ⟨_, ?_, hrefreshToken⟩, fun id' a' ha' howner hchat => ?_, ?_⟩
  · rw [decryptAccountAccessToken, decrypt, if_pos haccess]
  · rw [decrypt, if_pos hrefresh]
  · exact hbefore.rows.unique id' id _ _ ⟨a', ha', howner, hchat⟩ (Owned.of_lookup ha)
  · rw [run, List.foldl_append]
    exact (sealed_run hbefore after).2 id _ _ (Owned.of_lookup ha)

/-- An account that was connected, and that is connected again under another id. -/
theorem credentials_stay_sealed_connected :
    ∃ a', (run ([.authorize (.connect "a" "ann" "team") ⟨"at", "rt", 100⟩ "team", .storeAuthorization 0] ++
        [.authorize (.connect "b" "ann" "team") ⟨"at2", "rt2", 200⟩ "team", .storeAuthorization 1])).store.accounts.lookup
          "a" = some a' ∧ a'.ownerUserID = "ann" ∧ a'.chatGPTAccountID = "team" :=
  (credentials_stay_sealed _ _ "a"
    ⟨"ann", "team", ⟨0, "ann:team:access", "at"⟩, ⟨1, "ann:team:refresh", "rt"⟩, 100, .active, ""⟩
    (by decide)).2.2.2

end Runs

end ShareSub.TokenSealing

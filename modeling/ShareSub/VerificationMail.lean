import Mathlib
import ShareSub.IdentitySteps
import ShareSub.RateLog

/-!
# The rate of the verification mails

The tokens of a user are counted when a resend adds one, and every mail is sent for a token that was added. A token
leaves the table when its mail was refused, or when the cleanup finds it too old to count. So the mails of a user keep the
rate, whatever the calls do between their statements.
-/
namespace ShareSub.VerificationMail

open IdentityModel IdentitySteps

variable {p : Primitives} {c : Config} {s t : System} {log : List Mail} {calls : List Call} {v w : EmailVerificationToken}
  {i j : ℕ} {e : Event}

section Calls

/-- The token that a call has not mailed. -/
def unsentToken : Call → Option EmailVerificationToken
  | .creatingToken v => some v
  | .sending v _ => some v
  | .discarding v => some v
  | .superseding _ => none
  | .abandoned _ => none
  | .openingSession _ => none
  | .updatingPassword _ _ _ => none
  | .returned => none

def unsentAt (calls : List Call) (i : ℕ) : Option EmailVerificationToken := calls[i]?.bind unsentToken

lemma unsentAt_of_getElem? {call : Call} (h : calls[i]? = some call) : unsentAt calls i = unsentToken call := by
  simp [unsentAt, h]

lemma unsentAt_set_iff {next : Call} :
    unsentAt (calls.set i next) j = some v ↔
      (j = i ∧ i < calls.length ∧ unsentToken next = some v) ∨ (j ≠ i ∧ unsentAt calls j = some v) := by
  unfold unsentAt
  rw [List.getElem?_set]
  by_cases hj : i = j
  · subst hj
    by_cases hi : i < calls.length <;> simp [hi]
  · simp [hj, Ne.symm hj]

lemma unsentAt_of_set {next : Call} (hnext : unsentToken next = none) (h : unsentAt (calls.set i next) j = some v) :
    j ≠ i ∧ unsentAt calls j = some v := by
  rcases unsentAt_set_iff.mp h with ⟨-, -, hv⟩ | h
  · rw [hnext] at hv
    cases hv
  · exact h

lemma unsentAt_append {call : Call} (h : unsentAt (calls ++ [call]) j = some v) :
    unsentAt calls j = some v ∨ (j = calls.length ∧ unsentToken call = some v) := by
  unfold unsentAt at h ⊢
  rcases lt_trichotomy j calls.length with hj | rfl | hj
  · rw [List.getElem?_append_left hj] at h
    exact .inl h
  · right
    simpa using h
  · rw [List.getElem?_eq_none (by simp; omega)] at h
    cases h

lemma unsentAt_of_append {call : Call} (hcall : unsentToken call = none) (h : unsentAt (calls ++ [call]) j = some v) :
    unsentAt calls j = some v := by
  rcases unsentAt_append h with h | ⟨-, hv⟩
  · exact h
  · rw [hcall] at hv
    cases hv

lemma unsentAt_lt (h : unsentAt calls i = some v) : i < calls.length := by
  by_contra hi
  rw [unsentAt, List.getElem?_eq_none (not_lt.mp hi)] at h
  cases h

/-- A token of a call that is its alone and was not mailed. -/
structure Unsent (c : Config) (s : System) (v : EmailVerificationToken) : Prop where
  user : v.userID < s.drawn
  id : v.id < s.drawn
  expires : v.expiresAt = v.createdAt + c.emailVerificationTTL
  unmailed : ∀ m ∈ s.mails, m.verificationID ≠ v.id

/-- The tokens of the calls are new ones, and each verification is mailed once. -/
structure Drafted (c : Config) (s : System) : Prop where
  users : ∀ id, (s.store.users.lookup id).isSome → id < s.drawn
  mails : ∀ m ∈ s.mails, m.verificationID < s.drawn
  once : (s.mails.map Mail.verificationID).Nodup
  expires : ∀ r ∈ s.store.tokens, r.expiresAt = r.createdAt + c.emailVerificationTTL
  calls : ∀ i v, unsentAt s.calls i = some v → Unsent c s v
  apart : ∀ i j v w, unsentAt s.calls i = some v → unsentAt s.calls j = some w → v.id = w.id → i = j

lemma Drafted.initial : Drafted c System.initial :=
  ⟨by simp [System.initial], by simp [System.initial], .nil, by simp [System.initial], by simp [System.initial, unsentAt],
    by simp [System.initial, unsentAt]⟩

/-- What a step that mails nothing and has no new token keeps. -/
lemma Drafted.frame (h : Drafted c s) (hdrawn : s.drawn ≤ t.drawn)
    (husers : ∀ id, (t.store.users.lookup id).isSome → (s.store.users.lookup id).isSome ∨ id < t.drawn)
    (hmails : t.mails = s.mails)
    (htokens : ∀ r ∈ t.store.tokens, ∃ r' ∈ s.store.tokens, r'.createdAt = r.createdAt ∧ r'.expiresAt = r.expiresAt)
    (hcalls : ∀ i v, unsentAt t.calls i = some v → unsentAt s.calls i = some v) : Drafted c t := by
  constructor
  · intro id hid
    rcases husers id hid with hid | hid
    · exact (h.users id hid).trans_le hdrawn
    · exact hid
  · rw [hmails]
    exact fun m hm => (h.mails m hm).trans_le hdrawn
  · rw [hmails]
    exact h.once
  · intro r hr
    obtain ⟨r', hr', hcreated, hexpires⟩ := htokens r hr
    rw [← hcreated, ← hexpires]
    exact h.expires r' hr'
  · intro i v hv
    obtain ⟨huser, hid, hexpires, hunmailed⟩ := h.calls i v (hcalls i v hv)
    exact ⟨huser.trans_le hdrawn, hid.trans_le hdrawn, hexpires, hmails ▸ hunmailed⟩
  · exact fun i j v w hv hw => h.apart i j v w (hcalls i v hv) (hcalls j w hw)

/-- A call with a token that it has just drawn. -/
lemma Drafted.draft (h : Drafted c s) (userID : ℕ) (now : ℤ) {call : Call}
    (hcall : unsentToken call = some (newEmailVerification c s userID now)) (huser : userID < t.drawn)
    (hdrawn : s.drawn < t.drawn)
    (husers : ∀ id, (t.store.users.lookup id).isSome → (s.store.users.lookup id).isSome ∨ id < t.drawn)
    (hmails : t.mails = s.mails)
    (htokens : ∀ r ∈ t.store.tokens, r ∈ s.store.tokens ∨ r = newEmailVerification c s userID now)
    (hcalls : t.calls = s.calls ++ [call]) : Drafted c t := by
  have hunsent : ∀ i v, unsentAt t.calls i = some v →
      unsentAt s.calls i = some v ∨ (i = s.calls.length ∧ v = newEmailVerification c s userID now) := by
    intro i v hv
    rw [hcalls] at hv
    rcases unsentAt_append hv with hv | ⟨hi, hv⟩
    · exact .inl hv
    · exact .inr ⟨hi, Option.some_inj.mp (hv.symm.trans hcall)⟩
  constructor
  · intro id hid
    rcases husers id hid with hid | hid
    · exact (h.users id hid).trans hdrawn
    · exact hid
  · rw [hmails]
    exact fun m hm => (h.mails m hm).trans hdrawn
  · rw [hmails]
    exact h.once
  · intro r hr
    rcases htokens r hr with hr | rfl
    · exact h.expires r hr
    · rfl
  · intro i v hv
    rcases hunsent i v hv with hv | ⟨-, rfl⟩
    · obtain ⟨huser, hid, hexpires, hunmailed⟩ := h.calls i v hv
      exact ⟨huser.trans hdrawn, hid.trans hdrawn, hexpires, hmails ▸ hunmailed⟩
    · exact ⟨huser, hdrawn, rfl, hmails ▸ fun m hm => (h.mails m hm).ne⟩
  · intro i j v w hv hw hid
    rcases hunsent i v hv with hv | ⟨rfl, rfl⟩
    · rcases hunsent j w hw with hw | ⟨rfl, rfl⟩
      · exact h.apart i j v w hv hw hid
      · exact absurd hid (h.calls i v hv).id.ne
    · rcases hunsent j w hw with hw | ⟨rfl, -⟩
      · exact absurd hid.symm (h.calls j w hw).id.ne
      · rfl

lemma isSome_of_insert {userID : ℕ} {user user' : User} (huser : s.store.users.lookup userID = some user) (id : ℕ)
    (hid : ((s.store.users.insert userID user').lookup id).isSome) : (s.store.users.lookup id).isSome := by
  rw [FiniteMap.lookup_insert] at hid
  split_ifs at hid with heq
  · rw [heq, huser]
    rfl
  · exact hid

lemma isSome_of_insert_new {userID : ℕ} {user : User} (id : ℕ)
    (hid : ((s.store.users.insert userID user).lookup id).isSome) : (s.store.users.lookup id).isSome ∨ id = userID := by
  rw [FiniteMap.lookup_insert] at hid
  split_ifs at hid with heq
  · exact .inr heq
  · exact .inl hid

lemma exists_of_updateRows {q : EmailVerificationToken → Prop} [DecidablePred q] {now : ℤ}
    {rows : List EmailVerificationToken} :
    ∀ r ∈ updateRows q (fun r => { r with consumedAt := some now }) rows,
      ∃ r' ∈ rows, r'.createdAt = r.createdAt ∧ r'.expiresAt = r.expiresAt := by
  intro r hr
  obtain ⟨r', hr', rfl⟩ := List.mem_map.mp hr
  refine ⟨r', hr', ?_⟩
  split_ifs <;> exact ⟨rfl, rfl⟩

theorem Drafted.move (h : Drafted c s) (hmove : Move c s e t) : Drafted c t := by
  have htokens : ∀ r ∈ s.store.tokens,
      ∃ r' ∈ s.store.tokens, r'.createdAt = r.createdAt ∧ r'.expiresAt = r.expiresAt := fun r hr => ⟨r, hr, rfl, rfl⟩
  cases hmove with
  | rested keep k i next hnext =>
    refine h.frame (Nat.le_add_right _ _) (fun id => .inl) rfl htokens fun j v hv => (unsentAt_of_set ?_ hv).2
    rcases hnext with rfl | ⟨w, rfl⟩ <;> rfl
  | registered user now hverified hrole =>
    refine h.draft (s.drawn + 2) now rfl (Nat.lt_succ_self _) (by simp) ?_ rfl ?_ rfl
    · intro id hid
      rcases isSome_of_insert_new id hid with hid | rfl
      · exact .inl hid
      · exact .inr (Nat.lt_succ_self _)
    · intro r hr
      simpa using hr
  | drafted userID user now huser =>
    have hlt : userID < s.drawn := h.users userID (huser ▸ rfl)
    exact h.draft userID now rfl (hlt.trans (by simp)) (by simp) (fun id => .inl) rfl (fun r => .inl) rfl
  | created i v user now hevent hcall huser hverified hlast hroom =>
    have hv : unsentAt s.calls i = some v := unsentAt_of_getElem? hcall
    have hcalls : ∀ j w, unsentAt (s.calls.set i (.sending v true)) j = some w → unsentAt s.calls j = some w := by
      intro j w hw
      rcases unsentAt_set_iff.mp hw with ⟨rfl, -, hnext⟩ | hw
      · exact hv.trans hnext
      · exact hw.2
    refine ⟨h.users, h.mails, h.once, ?_, fun j w hw => ?_, fun j k w x hw hx => ?_⟩
    · intro r hr
      rcases List.mem_append.mp hr with hr | hr
      · exact h.expires r hr
      · rw [List.mem_singleton.mp hr]
        exact (h.calls i v hv).expires
    · exact ⟨(h.calls j w (hcalls j w hw)).user, (h.calls j w (hcalls j w hw)).id, (h.calls j w (hcalls j w hw)).expires,
        (h.calls j w (hcalls j w hw)).unmailed⟩
    · exact h.apart j k w x (hcalls j w hw) (hcalls k x hx)
  | sent i v resend hcall =>
    have hv : unsentAt s.calls i = some v := unsentAt_of_getElem? hcall
    have hnext : unsentToken (if resend then .superseding v else .returned) = none := by
      cases resend <;> rfl
    obtain ⟨huser, hid, hexpires, hunmailed⟩ := h.calls i v hv
    refine ⟨h.users, ?_, ?_, h.expires, fun j w hw => ?_, fun j k w x hw hx => ?_⟩
    · intro m hm
      rcases List.mem_append.mp hm with hm | hm
      · exact h.mails m hm
      · rw [List.mem_singleton.mp hm]
        exact hid
    · rw [List.map_append, List.nodup_append]
      refine ⟨h.once, List.nodup_singleton _, ?_⟩
      rintro _ hsent _ hnew heq
      obtain ⟨m, hm, rfl⟩ := List.mem_map.mp hsent
      exact hunmailed m hm (heq.trans (List.mem_singleton.mp hnew))
    · obtain ⟨hne, hw⟩ := unsentAt_of_set hnext hw
      have hunsent := h.calls j w hw
      refine ⟨hunsent.user, hunsent.id, hunsent.expires, fun m hm => ?_⟩
      rcases List.mem_append.mp hm with hm | hm
      · exact hunsent.unmailed m hm
      · rw [List.mem_singleton.mp hm]
        exact fun heq => hne (h.apart i j v w hv hw heq).symm
    · exact h.apart j k w x (unsentAt_of_set hnext hw).2 (unsentAt_of_set hnext hx).2
  | unsent i v hcall =>
    refine h.frame le_rfl (fun id => .inl) rfl htokens fun j w hw => ?_
    rcases unsentAt_set_iff.mp hw with ⟨rfl, -, hnext⟩ | hw
    · exact (unsentAt_of_getElem? hcall).trans hnext
    · exact hw.2
  | discarded i v hcall =>
    refine h.frame le_rfl (fun id => .inl) rfl (fun r hr => ⟨r, List.mem_of_mem_filter hr, rfl, rfl⟩) fun j w hw => ?_
    exact (unsentAt_of_set rfl hw).2
  | superseded i v =>
    exact h.frame le_rfl (fun id => .inl) rfl exists_of_updateRows fun j w hw => (unsentAt_of_set rfl hw).2
  | verified v user now htoken hlive hexpires huser =>
    exact h.frame le_rfl (fun id hid => .inl (isSome_of_insert huser id hid)) rfl exists_of_updateRows fun j w hw =>
      unsentAt_of_append rfl hw
  | admitted userID user huser hverified =>
    exact h.frame le_rfl (fun id => .inl) rfl htokens fun j w hw => unsentAt_of_append rfl hw
  | opened i userID now hcall =>
    exact h.frame (by simp) (fun id => .inl) rfl htokens fun j w hw => (unsentAt_of_set rfl hw).2
  | changing userID user passwordHash token huser =>
    exact h.frame (by simp) (fun id => .inl) rfl htokens fun j w hw => unsentAt_of_append rfl hw
  | wrote userID user user' keep k i huser hwrite =>
    exact h.frame (Nat.le_add_right _ _) (fun id hid => .inl (isSome_of_insert huser id hid)) rfl htokens fun j w hw =>
      (unsentAt_of_set rfl hw).2
  | seeded user hrole =>
    refine h.frame (by simp) (fun id hid => ?_) rfl htokens fun j w hw => hw
    rcases isSome_of_insert_new id hid with hid | rfl
    · exact .inl hid
    · exact .inr (Nat.lt_succ_self _)
  | cleaned now locked =>
    exact h.frame le_rfl (fun id => .inl) rfl (fun r hr => ⟨r, List.mem_of_mem_filter hr, rfl, rfl⟩) fun j w hw => hw

end Calls

section Ledger

/-- A token is not added long after its time was read, if a cleanup has come between. -/
def timely (c : Config) (s : System) : Event → Bool
  | .proceed i (.done _) =>
    match s.calls[i]? with
    | some (.creatingToken v) =>
      s.cleanups.all fun n => n ≤ v.createdAt + max 0 (c.emailVerificationTTL - emailVerificationLimitWindow)
    | _ => true
  | _ => true

/-- A run whose tokens are all added in time. -/
def timelyRun (p : Primitives) (c : Config) : System → List Event → Bool
  | _, [] => true
  | s, e :: events => timely c s e && timelyRun p c (s.step p c e) events

def spacing (c : Config) : ℤ := min c.emailResendCooldown emailVerificationLimitWindow

lemma spacing_pos : 0 < spacing c := lt_min c.cooldown_pos (by decide)

/-- The mails that were sent are among the tokens that were added and not taken back. -/
structure Ledger (c : Config) (s : System) (log : List Mail) : Prop where
  rate : RateLog Mail.userID Mail.createdAt (spacing c) emailVerificationLimitWindow emailVerificationLimit log
  users : ∀ m ∈ log, m.userID < s.drawn
  kept : ∀ r ∈ s.store.tokens, r.mail ∈ log
  cleaned : ∀ m ∈ log, (∃ r ∈ s.store.tokens, r.mail = m) ∨
    ∃ n ∈ s.cleanups, m.createdAt + max c.emailVerificationTTL emailVerificationLimitWindow < n
  mailed : ∀ m ∈ s.mails, m ∈ log
  sending : ∀ (i : ℕ) v resend, s.calls[i]? = some (.sending v resend) → v.mail ∈ log

lemma Ledger.initial : Ledger c System.initial [] :=
  ⟨.nil, by simp, by simp [System.initial], by simp, by simp [System.initial], by simp [System.initial]⟩

lemma Ledger.nodup (h : Ledger c s log) : log.Nodup :=
  h.rate.spaced.imp fun hspaced heq => by
    have hle := hspaced (heq ▸ rfl)
    have hpos := spacing_pos (c := c)
    rw [heq] at hle
    omega

/-- What a step that neither adds nor takes back a token keeps. -/
lemma Ledger.frame (h : Ledger c s log) (hdrawn : s.drawn ≤ t.drawn)
    (htokens : t.store.tokens.map EmailVerificationToken.mail = s.store.tokens.map EmailVerificationToken.mail)
    (hmails : ∀ m ∈ t.mails, m ∈ log) (hcleanups : t.cleanups = s.cleanups)
    (hcalls : ∀ (i : ℕ) v resend, t.calls[i]? = some (.sending v resend) → s.calls[i]? = some (.sending v resend)) :
    Ledger c t log := by
  have hmem : ∀ m, (∃ r ∈ s.store.tokens, r.mail = m) ↔ ∃ r ∈ t.store.tokens, r.mail = m := by
    intro m
    rw [← List.mem_map, ← List.mem_map, htokens]
  refine ⟨h.rate, fun m hm => (h.users m hm).trans_le hdrawn, ?_, ?_, hmails,
    fun i v resend hcall => h.sending i v resend (hcalls i v resend hcall)⟩
  · intro r hr
    obtain ⟨r', hr', heq⟩ := (hmem r.mail).mpr ⟨r, hr, rfl⟩
    rw [← heq]
    exact h.kept r' hr'
  · intro m hm
    rw [← hmem, hcleanups]
    exact h.cleaned m hm

/-- The tokens of a user that count when one is added are still in the table. -/
lemma Ledger.counted (h : Ledger c s log)
    (htimely : ∀ n ∈ s.cleanups, n ≤ v.createdAt + max 0 (c.emailVerificationTTL - emailVerificationLimitWindow))
    {m : Mail} (hm : m ∈ log) :
    (∃ r ∈ s.store.tokens, r.mail = m) ∨ m.createdAt + emailVerificationLimitWindow ≤ v.createdAt := by
  rcases h.cleaned m hm with hkept | ⟨n, hn, hlt⟩
  · exact .inl hkept
  · have hle := htimely n hn
    right
    omega

lemma Ledger.room (h : Ledger c s log)
    (htimely : ∀ n ∈ s.cleanups, n ≤ v.createdAt + max 0 (c.emailVerificationTTL - emailVerificationLimitWindow)) :
    countWithin Mail.userID Mail.createdAt v.userID (v.createdAt - emailVerificationLimitWindow) v.createdAt log ≤
      s.store.tokens.countP fun r => r.userID = v.userID ∧ v.createdAt - emailVerificationLimitWindow < r.createdAt := by
  let within (m : Mail) : Bool :=
    m.userID = v.userID ∧ v.createdAt - emailVerificationLimitWindow < m.createdAt ∧ m.createdAt ≤ v.createdAt
  have hsubset : log.filter within ⊆ (s.store.tokens.map EmailVerificationToken.mail).filter within := by
    intro m hm
    obtain ⟨hm, hwithin⟩ := List.mem_filter.mp hm
    refine List.mem_filter.mpr ⟨?_, hwithin⟩
    rcases h.counted htimely hm with hkept | hold
    · exact List.mem_map.mpr hkept
    · simp only [within, decide_eq_true_eq] at hwithin
      omega
  calc countWithin Mail.userID Mail.createdAt v.userID (v.createdAt - emailVerificationLimitWindow) v.createdAt log
      = (log.filter within).length := List.countP_eq_length_filter
    _ ≤ ((s.store.tokens.map EmailVerificationToken.mail).filter within).length :=
        ((h.nodup.filter _).subperm hsubset).length_le
    _ = s.store.tokens.countP (within ∘ EmailVerificationToken.mail) := by
        rw [← List.countP_eq_length_filter, List.countP_map]
    _ ≤ _ := by
        refine List.countP_mono_left fun r _ hr => ?_
        obtain ⟨huser, hstart, -⟩ := of_decide_eq_true (show within r.mail = true from hr)
        exact decide_eq_true ⟨huser, hstart⟩

lemma Ledger.later (h : Ledger c s log)
    (htimely : ∀ n ∈ s.cleanups, n ≤ v.createdAt + max 0 (c.emailVerificationTTL - emailVerificationLimitWindow))
    (hlast : ∀ r ∈ s.store.tokens, r.userID = v.userID → r.createdAt + c.emailResendCooldown ≤ v.createdAt) {m : Mail}
    (hm : m ∈ log) (huser : m.userID = v.userID) : m.createdAt + spacing c ≤ v.createdAt := by
  unfold spacing
  rcases h.counted htimely hm with ⟨r, hr, rfl⟩ | hold
  · have hle := hlast r hr huser
    simp only [EmailVerificationToken.mail]
    omega
  · omega

lemma map_mail_updateRows {q : EmailVerificationToken → Prop} [DecidablePred q] {now : ℤ}
    {rows : List EmailVerificationToken} :
    (updateRows q (fun r => { r with consumedAt := some now }) rows).map EmailVerificationToken.mail =
      rows.map EmailVerificationToken.mail := by
  rw [updateRows, List.map_map]
  refine List.map_congr_left fun r _ => ?_
  simp only [Function.comp_apply]
  split_ifs <;> rfl

/-- The log of a token that is added, for a new user or within the rate of its user. -/
lemma Ledger.add (h : Ledger c s log)
    (hrate : RateLog Mail.userID Mail.createdAt (spacing c) emailVerificationLimitWindow emailVerificationLimit
      (log ++ [v.mail]))
    (hdrawn : s.drawn ≤ t.drawn) (huser : v.userID < t.drawn) (htokens : t.store.tokens = s.store.tokens ++ [v])
    (hmails : t.mails = s.mails) (hcleanups : t.cleanups = s.cleanups)
    (hcalls : ∀ (i : ℕ) w resend, t.calls[i]? = some (.sending w resend) →
      s.calls[i]? = some (.sending w resend) ∨ w = v) : Ledger c t (log ++ [v.mail]) := by
  refine ⟨hrate, ?_, ?_, ?_, ?_, ?_⟩
  · intro m hm
    rcases List.mem_append.mp hm with hm | hm
    · exact (h.users m hm).trans_le hdrawn
    · rw [List.mem_singleton.mp hm]
      exact huser
  · intro r hr
    rw [htokens] at hr
    rcases List.mem_append.mp hr with hr | hr
    · exact List.mem_append_left _ (h.kept r hr)
    · rw [List.mem_singleton.mp hr]
      exact List.mem_append_right _ (List.mem_singleton_self _)
  · intro m hm
    rw [htokens, hcleanups]
    rcases List.mem_append.mp hm with hm | hm
    · rcases h.cleaned m hm with ⟨r, hr, heq⟩ | hold
      · exact .inl ⟨r, List.mem_append_left _ hr, heq⟩
      · exact .inr hold
    · exact .inl ⟨v, List.mem_append_right _ (List.mem_singleton_self _), (List.mem_singleton.mp hm).symm⟩
  · rw [hmails]
    exact fun m hm => List.mem_append_left _ (h.mailed m hm)
  · intro i w resend hcall
    rcases hcalls i w resend hcall with hcall | rfl
    · exact List.mem_append_left _ (h.sending i w resend hcall)
    · exact List.mem_append_right _ (List.mem_singleton_self _)

/-- The log without a token whose mail was refused. -/
lemma Ledger.discard (h : Ledger c s log) (hdrafted : Drafted c s) (hcall : s.calls[i]? = some (.discarding v)) :
    Ledger c
      { s with
        store := s.store.deleteEmailVerificationToken v.id v.userID
        calls := s.calls.set i .returned }
      (log.filter fun m => ¬ (m.verificationID = v.id ∧ m.userID = v.userID)) := by
  have hv : unsentAt s.calls i = some v := unsentAt_of_getElem? hcall
  refine ⟨h.rate.sublist List.filter_sublist, fun m hm => h.users m (List.mem_of_mem_filter hm), ?_, ?_, ?_, ?_⟩
  · intro r hr
    obtain ⟨hr, hother⟩ := List.mem_filter.mp hr
    exact List.mem_filter.mpr ⟨h.kept r hr, hother⟩
  · intro m hm
    obtain ⟨hm, hother⟩ := List.mem_filter.mp hm
    rcases h.cleaned m hm with ⟨r, hr, rfl⟩ | hold
    · exact .inl ⟨r, List.mem_filter.mpr ⟨hr, hother⟩, rfl⟩
    · exact .inr hold
  · intro m hm
    refine List.mem_filter.mpr ⟨h.mailed m hm, ?_⟩
    simp [(hdrafted.calls i v hv).unmailed m hm]
  · intro j w resend hw
    have hsending : s.calls[j]? = some (.sending w resend) := call_of_set (by simp) hw
    refine List.mem_filter.mpr ⟨h.sending j w resend hsending, ?_⟩
    have hne : w.id ≠ v.id := by
      intro hid
      have hij : j = i := hdrafted.apart j i w v (unsentAt_of_getElem? hsending) hv hid
      rw [hij, hcall] at hsending
      cases hsending
    simp [EmailVerificationToken.mail, hne]

/-- The cleanup takes the tokens that are too old to count. -/
lemma Ledger.clean (h : Ledger c s log) (hdrafted : Drafted c s) (now : ℤ) (locked : List ℕ) :
    Ledger c { s with store := s.store.cleanupResources now locked, cleanups := s.cleanups ++ [now] } log := by
  refine ⟨h.rate, h.users, fun r hr => h.kept r (List.mem_of_mem_filter hr), ?_, h.mailed, h.sending⟩
  intro m hm
  rcases h.cleaned m hm with ⟨r, hr, rfl⟩ | ⟨n, hn, hold⟩
  · by_cases hdeleted : r.expiresAt < now ∧ r.createdAt < now - emailVerificationLimitWindow ∧ r.id ∉ locked
    · refine .inr ⟨now, List.mem_append_right _ (List.mem_singleton_self _), ?_⟩
      have hexpires := hdrafted.expires r hr
      simp only [EmailVerificationToken.mail]
      omega
    · exact .inl ⟨r, List.mem_filter.mpr ⟨hr, decide_eq_true hdeleted⟩, rfl⟩
  · exact .inr ⟨n, List.mem_append_left _ hn, hold⟩

theorem Ledger.move (h : Ledger c s log) (hdrafted : Drafted c s) (htimely : timely c s e) (hmove : Move c s e t) :
    ∃ log', Ledger c t log' := by
  cases hmove with
  | rested keep k i next hnext =>
    refine ⟨log, h.frame (Nat.le_add_right _ _) rfl h.mailed rfl fun j w resend => call_of_set ?_⟩
    rcases hnext with rfl | ⟨x, rfl⟩ <;> simp
  | registered user now hverified hrole =>
    have hrate := h.rate.append_new (a := (newEmailVerification c s (s.drawn + 2) now).mail) spacing_pos (by decide)
      fun m hm => ((h.users m hm).trans (Nat.lt_add_of_pos_right (by decide) : s.drawn < s.drawn + 2)).ne
    refine ⟨_, h.add hrate (by simp) (Nat.lt_succ_self _) rfl rfl rfl fun j w resend hcall => ?_⟩
    rcases call_of_append hcall with hcall | ⟨-, hnew⟩
    · exact .inl hcall
    · cases hnew
      exact .inr rfl
  | drafted userID user now huser =>
    exact ⟨log, h.frame (by simp) rfl h.mailed rfl fun j w resend => call_of_append_ne (by simp)⟩
  | created i v user now hevent hcall huser hverified hlast hroom =>
    have htime : ∀ n ∈ s.cleanups, n ≤ v.createdAt + max 0 (c.emailVerificationTTL - emailVerificationLimitWindow) := by
      intro n hn
      rw [hevent, timely, hcall] at htimely
      exact of_decide_eq_true (List.all_eq_true.mp htimely n hn)
    have hrate := h.rate.append (a := v.mail) spacing_pos (fun m hm => h.later htime hlast hm)
      ((h.room htime).trans_lt hroom)
    refine ⟨_, h.add hrate le_rfl (hdrafted.calls i v (unsentAt_of_getElem? hcall)).user rfl rfl rfl fun j w resend hw => ?_⟩
    rw [List.getElem?_set] at hw
    split_ifs at hw with hij
    · cases hw
      exact .inr rfl
    · exact .inl hw
  | sent i v resend hcall =>
    have hv := h.sending i v resend hcall
    refine ⟨log, h.frame le_rfl rfl ?_ rfl fun j w resend' => call_of_set ?_⟩
    · intro m hm
      rcases List.mem_append.mp hm with hm | hm
      · exact h.mailed m hm
      · rwa [List.mem_singleton.mp hm]
    · cases resend <;> simp
  | unsent i v hcall => exact ⟨log, h.frame le_rfl rfl h.mailed rfl fun j w resend => call_of_set (by simp)⟩
  | discarded i v hcall => exact ⟨_, h.discard hdrafted hcall⟩
  | superseded i v =>
    exact ⟨log, h.frame le_rfl map_mail_updateRows h.mailed rfl fun j w resend => call_of_set (by simp)⟩
  | verified v user now htoken hlive hexpires huser =>
    exact ⟨log, h.frame le_rfl map_mail_updateRows h.mailed rfl fun j w resend => call_of_append_ne (by simp)⟩
  | admitted userID user huser hverified =>
    exact ⟨log, h.frame le_rfl rfl h.mailed rfl fun j w resend => call_of_append_ne (by simp)⟩
  | opened i userID now hcall =>
    exact ⟨log, h.frame (by simp) rfl h.mailed rfl fun j w resend => call_of_set (by simp)⟩
  | changing userID user passwordHash token huser =>
    exact ⟨log, h.frame (by simp) rfl h.mailed rfl fun j w resend => call_of_append_ne (by simp)⟩
  | wrote userID user user' keep k i huser hwrite =>
    exact ⟨log, h.frame (Nat.le_add_right _ _) rfl h.mailed rfl fun j w resend => call_of_set (by simp)⟩
  | seeded user hrole => exact ⟨log, h.frame (by simp) rfl h.mailed rfl fun j w resend => id⟩
  | cleaned now locked => exact ⟨log, h.clean hdrafted now locked⟩

lemma exists_ledger (events : List Event) (hdrafted : Drafted c s) (hledger : Ledger c s log)
    (htimely : timelyRun p c s events) :
    ∃ log', Drafted c (run p c s events) ∧ Ledger c (run p c s events) log' := by
  induction events generalizing s log with
  | nil => exact ⟨log, hdrafted, hledger⟩
  | cons e events ih =>
    rw [timelyRun, Bool.and_eq_true] at htimely
    obtain ⟨log', hnext⟩ := hledger.move hdrafted htimely.1 (step_move (p := p))
    exact ih (hdrafted.move step_move) hnext htimely.2

end Ledger

/-- No verification is mailed twice, two mails to a user are apart by the cooldown, or by the window if that is shorter,
and no window has more of them than the limit. -/
theorem mails_within_rate (p : Primitives) (c : Config) (events : List Event)
    (htimely : timelyRun p c System.initial events) :
    ((run p c System.initial events).mails.map Mail.verificationID).Nodup ∧
      (∀ a ∈ (run p c System.initial events).mails, ∀ b ∈ (run p c System.initial events).mails, a.userID = b.userID →
        a ≠ b → spacing c ≤ |a.createdAt - b.createdAt|) ∧
      ∀ userID start, countWithin Mail.userID Mail.createdAt userID start (start + emailVerificationLimitWindow)
        (run p c System.initial events).mails ≤ emailVerificationLimit := by
  obtain ⟨log, hdrafted, hledger⟩ := exists_ledger events Drafted.initial Ledger.initial htimely
  refine ⟨hdrafted.once, fun a ha b hb huser hne => ?_, fun userID start => ?_⟩
  · exact hledger.rate.apart (hledger.mailed a ha) (hledger.mailed b hb) hne huser
  · have hmails : (run p c System.initial events).mails.Subperm log := (List.Nodup.of_map _ hdrafted.once).subperm hledger.mailed
    exact (countWithin_mono hmails le_rfl le_rfl).trans (hledger.rate.countWithin_le userID start)

section Resent

def plain : Primitives := ⟨id, fun _ => true, fun _ => true, fun _ password => some password, fun hash password => hash = password⟩

/-- A day for a verification, a minute between the mails and an hour for a session. -/
def daily : Config := ⟨24 * 60 * 60 * 1000000000, 60 * 1000000000, 60 * 60 * 1000000000, by decide⟩

/-- A registration, a resend a minute later, and a cleanup while the resend runs. -/
def resent : List Event :=
  [.register "ann" "a@b.c" "0123456789" ⟨true, "2026-08-17", "2026-08-17", "2026-08-05"⟩ 0, .proceed 0 (.done 0),
    .resendEmailVerification "a@b.c" (60 * 1000000000), .cleanupResources (61 * 1000000000) [], .proceed 1 (.done 0),
    .proceed 1 (.done 0), .proceed 1 (.done 0)]

theorem mails_within_rate_resent :
    (run plain daily System.initial resent).mails = [⟨2, 0, 0⟩, ⟨2, 3, 60 * 1000000000⟩] ∧
      ∀ userID start, countWithin Mail.userID Mail.createdAt userID start (start + emailVerificationLimitWindow)
        (run plain daily System.initial resent).mails ≤ emailVerificationLimit :=
  ⟨by decide, (mails_within_rate plain daily resent (by decide)).2.2⟩

end Resent

end ShareSub.VerificationMail

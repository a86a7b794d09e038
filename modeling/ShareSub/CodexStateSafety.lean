import Mathlib
import ShareSub.CodexStateModel

/-!
# What a returned ticket has gone through

The invariants of the store, the workers and the readers along every run: a ticket in a row was captured and validated
by probes of the row's scope, a rejected version never comes back, and a lease belongs to one worker.
-/
namespace ShareSub.CodexStateSafety

open CodexStateModel

section Evidence

variable {probes probes' : List ProbeRecord} {accountID model value : String} {scope : Scope} {captured : ℤ}

/-- A probe that returned a value, not sent before a time. -/
structure Captures (p : ProbeRecord) (accountID model : String) (scope : Scope) (value : String) (captured : ℤ) : Prop where
  accountID : p.accountID = accountID
  model : p.model = model
  scope : p.scope = scope
  state : p.state = none
  result : p.result = .ok value
  sentAt : captured ≤ p.sentAt

/-- A probe that carried a value and did not return a state of 312 bytes. -/
structure Confirms (p : ProbeRecord) (accountID model : String) (scope : Scope) (value : String) : Prop where
  accountID : p.accountID = accountID
  model : p.model = model
  scope : p.scope = scope
  state : p.state = some value
  result : ∃ returned, p.result = .ok returned ∧ validCodexState returned 312 = false

def Captured (probes : List ProbeRecord) (accountID model : String) (scope : Scope) (value : String) (captured : ℤ) : Prop :=
  ∃ p ∈ probes, Captures p accountID model scope value captured

/-- The value was captured and then confirmed. -/
def Validated (probes : List ProbeRecord) (accountID model : String) (scope : Scope) (value : String) (captured : ℤ) : Prop :=
  ∃ (i j : ℕ) (p q : ProbeRecord), i < j ∧ probes[i]? = some p ∧ probes[j]? = some q ∧ Captures p accountID model scope value captured ∧
    Confirms q accountID model scope value

lemma Captured.mono (h : Captured probes accountID model scope value captured) (hprobes : probes <+: probes') :
    Captured probes' accountID model scope value captured := by
  obtain ⟨p, hp, hcaptures⟩ := h
  exact ⟨p, hprobes.subset hp, hcaptures⟩

lemma Validated.mono (h : Validated probes accountID model scope value captured) (hprobes : probes <+: probes') :
    Validated probes' accountID model scope value captured := by
  obtain ⟨i, j, p, q, hij, hi, hj, hcaptures, hconfirms⟩ := h
  obtain ⟨rest, rfl⟩ := hprobes
  refine ⟨i, j, p, q, hij, ?_, ?_, hcaptures, hconfirms⟩
  · rw [List.getElem?_append_left (List.getElem?_eq_some_iff.mp hi).1, hi]
  · rw [List.getElem?_append_left (List.getElem?_eq_some_iff.mp hj).1, hj]

/-- The probe that confirms is the last one. -/
lemma Captured.validated (h : Captured probes accountID model scope value captured) {q : ProbeRecord}
    (hq : Confirms q accountID model scope value) : Validated (probes ++ [q]) accountID model scope value captured := by
  obtain ⟨p, hp, hcaptures⟩ := h
  obtain ⟨i, hi⟩ := List.getElem?_of_mem hp
  have hlt := (List.getElem?_eq_some_iff.mp hi).1
  refine ⟨i, probes.length, p, q, hlt, ?_, by simp, hcaptures, hq⟩
  rw [List.getElem?_append_left hlt, hi]

/-- The ticket of a row or of a finished job. -/
def TicketOK (probes : List ProbeRecord) (j : Job) : Prop :=
  ∃ value captured, j.ciphertext = some ⟨value, stateAAD j⟩ ∧ j.expiresAt = some (captured + hour) ∧
    Validated probes j.accountID j.model j.fingerprint.scope value captured

lemma TicketOK.mono {j : Job} (h : TicketOK probes j) (hprobes : probes <+: probes') : TicketOK probes' j := by
  obtain ⟨value, captured, hcipher, hexpires, hvalidated⟩ := h
  exact ⟨value, captured, hcipher, hexpires, hvalidated.mono hprobes⟩

end Evidence

section Workers

variable {toLower : String → String} {decrypt : List UInt8 → String → Option String} {probes probes' : List ProbeRecord}
  {now now' : ℤ} {w : Worker}

/-- The identity of a probe belongs to the job. -/
structure IdentityOK (j : Job) (identity : Identity) : Prop where
  scope : codexStateAccountScope j.accountID identity.account = j.fingerprint.scope
  model : identity.probe.model = j.model

/-- What a worker has seen when it is in a phase. -/
def PhaseOK (now : ℤ) (probes : List ProbeRecord) (j : Job) : Phase → Prop
  | .begin | .ended => True
  | .identify => j.result ≠ .ready
  | .check identity => j.result ≠ .ready ∧ IdentityOK j identity
  | .send identity captured => j.result ≠ .ready ∧ IdentityOK j identity ∧ captured ≤ now
  | .identifyAgain value captured => j.result ≠ .ready ∧
      Captured probes j.accountID j.model j.fingerprint.scope value captured
  | .checkAgain identity value captured | .sendAgain identity value captured => j.result ≠ .ready ∧ IdentityOK j identity ∧
      Captured probes j.accountID j.model j.fingerprint.scope value captured
  | .identifyLast value captured | .encrypt value captured => j.result ≠ .ready ∧
      Validated probes j.accountID j.model j.fingerprint.scope value captured
  | .finish => j.result = .ready → j.version ≠ "" ∧ TicketOK probes j

lemma PhaseOK.mono {phase : Phase} {j : Job} (h : PhaseOK now probes j phase) (hnow : now ≤ now')
    (hprobes : probes <+: probes') : PhaseOK now' probes' j phase := by
  cases phase with
  | begin => trivial
  | ended => trivial
  | identify => exact h
  | check identity => exact h
  | send identity captured => exact ⟨h.1, h.2.1, h.2.2.trans hnow⟩
  | identifyAgain value captured => exact ⟨h.1, h.2.mono hprobes⟩
  | checkAgain identity value captured => exact ⟨h.1, h.2.1, h.2.2.mono hprobes⟩
  | sendAgain identity value captured => exact ⟨h.1, h.2.1, h.2.2.mono hprobes⟩
  | identifyLast value captured => exact ⟨h.1, h.2.mono hprobes⟩
  | encrypt value captured => exact ⟨h.1, h.2.mono hprobes⟩
  | finish => exact fun hready => ⟨(h hready).1, (h hready).2.mono hprobes⟩

lemma probeIdentity_ok {egress : String} {account : Option Account} {j : Job} {identity : Identity}
    (h : probeIdentity toLower decrypt egress now account j = some identity) : IdentityOK j identity := by
  unfold probeIdentity at h
  split at h
  · cases h
  · split at h
    · cases h
    · split at h
      next hcheck =>
        dsimp only at h
        split at h
        · cases h
        · split at h
          · cases h
          · injection h with h
            subst h
            exact ⟨by rw [← hcheck.2.2.1]; rfl, rfl⟩
      next => cases h

lemma stateProbeReason_ne_ready (reason : String) : stateProbeReason reason ≠ .ready := by
  unfold stateProbeReason
  split <;> simp

/-- A worker that has a ticket to store. -/
def Pending (w : Worker) : Prop := w.phase = .finish ∧ w.job.result = .ready

lemma fails_ok {result : Result} (h : result ≠ .ready) (w : Worker) : PhaseOK now probes (w.fails result).job (w.fails result).phase :=
  fun hready => absurd hready h

lemma fails_not_pending {result : Result} (h : result ≠ .ready) (w : Worker) : ¬ Pending (w.fails result) :=
  fun hp => h hp.2

/-- What a turn of a worker keeps: the job that it was given, what it knows, and that a new ticket has a new version. -/
structure TurnOK (now : ℤ) (probes : List ProbeRecord) (used : List String) (w : Worker) (out : Worker × Option ProbeRecord) :
    Prop where
  key : out.1.job.key = w.job.key
  lease : out.1.job.lease = w.job.lease
  phase : PhaseOK now (probes ++ out.2.toList) out.1.job out.1.phase
  pending : Pending out.1 → out.1 = w ∨ out.1.job.version ∉ used ∧ madeID w out.1 = [out.1.job.version]

lemma turnOK_fails {used : List String} {result : Result} (h : result ≠ .ready) (record : Option ProbeRecord) :
    TurnOK now probes used w (w.fails result, record) :=
  ⟨rfl, rfl, fails_ok h w, fun hp => absurd hp (fails_not_pending h w)⟩

lemma turnOK_self {used : List String} (h : PhaseOK now probes w.job w.phase) : TurnOK now probes used w (w, none) :=
  ⟨rfl, rfl, by simpa using h, fun _ => .inl rfl⟩

/-- A turn that only changes the phase, to one before the end. -/
lemma turnOK_phase {used : List String} {phase : Phase} {record : Option ProbeRecord} (hphase : phase ≠ .finish)
    (h : PhaseOK now (probes ++ record.toList) w.job phase) : TurnOK now probes used w ({ w with phase := phase }, record) :=
  ⟨rfl, rfl, h, fun hp => absurd hp.1 hphase⟩

lemma turn_ok (used : List String) (account : Option Account) (h : PhaseOK now probes w.job w.phase) (turn : Turn) :
    TurnOK now probes used w (w.turn toLower decrypt now account used turn) := by
  obtain ⟨egress, j, phase⟩ := w
  cases turn with
  | proceed =>
    cases phase with
    | begin => exact ⟨rfl, rfl, by simp [Worker.turn, PhaseOK], fun hp => by simp [Worker.turn, Pending] at hp⟩
    | identify =>
      simp only [Worker.turn]
      cases hid : probeIdentity toLower decrypt egress now account j with
      | none => exact turnOK_fails (by simp) none
      | some identity => exact turnOK_phase (by simp) ⟨h, probeIdentity_ok hid⟩
    | check identity =>
      simp only [Worker.turn]
      split_ifs
      · exact turnOK_phase (by simp) ⟨h.1, h.2, le_rfl⟩
      · exact turnOK_fails (by simp) none
    | identifyAgain value captured =>
      simp only [Worker.turn]
      cases hid : probeIdentity toLower decrypt egress now account j with
      | none => exact turnOK_fails (by simp) none
      | some identity => exact turnOK_phase (by simp) ⟨h.1, probeIdentity_ok hid, by simpa using h.2⟩
    | checkAgain identity value captured =>
      simp only [Worker.turn]
      split_ifs
      · exact turnOK_phase (by simp) ⟨h.1, h.2.1, by simpa using h.2.2⟩
      · exact turnOK_fails (by simp) none
    | identifyLast value captured =>
      simp only [Worker.turn]
      cases hid : probeIdentity toLower decrypt egress now account j with
      | none => exact turnOK_fails (by simp) none
      | some identity => exact turnOK_phase (by simp) ⟨h.1, by simpa using h.2⟩
    | send identity captured => exact turnOK_self h
    | sendAgain identity value captured => exact turnOK_self h
    | encrypt value captured => exact turnOK_self h
    | finish => exact turnOK_self h
    | ended => exact turnOK_self h
  | fail =>
    cases phase with
    | identify => exact turnOK_fails (by simp) none
    | check identity => exact turnOK_fails (by simp) none
    | identifyAgain value captured => exact turnOK_fails (by simp) none
    | checkAgain identity value captured => exact turnOK_fails (by simp) none
    | identifyLast value captured => exact turnOK_fails (by simp) none
    | encrypt value captured =>
      exact ⟨rfl, rfl, fun hready => absurd hready h.1, fun hp => absurd hp.2 h.1⟩
    | finish => exact turnOK_phase (by simp) trivial
    | begin => exact turnOK_self h
    | send identity captured => exact turnOK_self h
    | sendAgain identity value captured => exact turnOK_self h
    | ended => exact turnOK_self h
  | busy =>
    cases phase with
    | send identity captured => exact turnOK_fails (by simp) none
    | sendAgain identity value captured => exact turnOK_fails (by simp) none
    | _ => exact turnOK_self h
  | probed result =>
    cases phase with
    | send identity captured =>
      cases result with
      | error reason => exact turnOK_fails (stateProbeReason_ne_ready reason) _
      | ok value =>
        simp only [Worker.turn]
        split_ifs
        · refine turnOK_phase (by simp) ⟨h.1, identity.sent j none (.ok value) now, by simp, ?_⟩
          exact ⟨rfl, h.2.1.model, h.2.1.scope, rfl, rfl, h.2.2⟩
        · exact turnOK_fails (by simp) _
    | sendAgain identity value captured =>
      cases result with
      | error reason => exact turnOK_fails (stateProbeReason_ne_ready reason) _
      | ok returned =>
        simp only [Worker.turn]
        split_ifs with hvalid
        · exact turnOK_fails (by simp) _
        · refine turnOK_phase (by simp) ⟨h.1, h.2.2.validated ?_⟩
          exact ⟨rfl, h.2.1.model, h.2.1.scope, rfl, returned, rfl, by simpa using hvalid⟩
    | _ => exact turnOK_self h
  | newID version =>
    cases phase with
    | encrypt value captured =>
      simp only [Worker.turn]
      split_ifs with hnew
      · refine ⟨rfl, rfl, fun _ => ⟨hnew.1, value, captured, rfl, rfl, by simpa using h.2⟩, fun _ => .inr ⟨hnew.2, rfl⟩⟩
      · exact turnOK_self h
    | _ => exact turnOK_self h
  | abandon => exact turnOK_phase (by simp) trivial

end Workers

section Rows

variable {rows rows' rows'' : List Job} {now : ℤ}

/-- The same job with the same ticket. -/
structure SameTicket (j j' : Job) : Prop where
  accountID : j'.accountID = j.accountID
  model : j'.model = j.model
  fingerprint : j'.fingerprint = j.fingerprint
  version : j'.version = j.version
  ciphertext : j'.ciphertext = j.ciphertext
  expiresAt : j'.expiresAt = j.expiresAt

lemma SameTicket.ticketOK {probes : List ProbeRecord} {j j' : Job} (h : SameTicket j j') (hok : TicketOK probes j) :
    TicketOK probes j' := by
  obtain ⟨value, captured, hcipher, hexpires, hvalidated⟩ := hok
  have haad : stateAAD j' = stateAAD j := by rw [stateAAD, stateAAD, h.accountID, h.model, h.fingerprint, h.version]
  refine ⟨value, captured, by rw [h.ciphertext, haad, hcipher], by rw [h.expiresAt, hexpires], ?_⟩
  rw [h.accountID, h.model, h.fingerprint]
  exact hvalidated

/-- No row is new, and none has a new ticket. -/
structure Kept (rows rows' : List Job) : Prop where
  keys : (rows'.map Job.key).Sublist (rows.map Job.key)
  tickets : ∀ j' ∈ rows', j'.version = "" ∨ ∃ j ∈ rows, SameTicket j j'

lemma Kept.refl (rows : List Job) : Kept rows rows :=
  ⟨List.Sublist.refl _, fun j hj => .inr ⟨j, hj, rfl, rfl, rfl, rfl, rfl, rfl⟩⟩

lemma kept_filter (p : Job → Bool) : Kept rows (rows.filter p) :=
  ⟨(List.filter_sublist).map _, fun j hj => .inr ⟨j, (List.mem_filter.mp hj).1, rfl, rfl, rfl, rfl, rfl, rfl⟩⟩

lemma map_key_updateRows (p : Job → Prop) [DecidablePred p] (f : Job → Job) (hkey : ∀ j, (f j).key = j.key) :
    (updateRows p f rows).map Job.key = rows.map Job.key := by
  rw [updateRows, List.map_map]
  apply List.map_congr_left
  intro j _
  simp only [Function.comp_apply]
  split_ifs
  · exact hkey j
  · rfl

lemma kept_updateRows (p : Job → Prop) [DecidablePred p] (f : Job → Job) (hkey : ∀ j, (f j).key = j.key)
    (hticket : ∀ j, (f j).version = "" ∨ SameTicket j (f j)) : Kept rows (updateRows p f rows) := by
  refine ⟨by rw [map_key_updateRows p f hkey], ?_⟩
  intro j' hj'
  obtain ⟨j, hj, rfl⟩ := List.mem_map.mp hj'
  split_ifs
  · exact (hticket j).imp_right fun h => ⟨j, hj, h⟩
  · exact .inr ⟨j, hj, rfl, rfl, rfl, rfl, rfl, rfl⟩

lemma kept_configure (accountID : String) (old new : Option Account) : Kept rows (configureRows accountID old new rows) := by
  unfold configureRows
  dsimp only
  split
  · exact kept_filter _
  · split_ifs
    · exact kept_filter _
    · exact Kept.refl rows
  · exact Kept.refl rows

lemma kept_refresh (accountID : String) : Kept rows (refreshStateJobs now accountID rows) :=
  kept_updateRows _ _ (fun _ => rfl) fun _ => .inr ⟨rfl, rfl, rfl, rfl, rfl, rfl⟩

lemma kept_claim (lease : String) (selected : List (String × String)) :
    Kept rows (claimStateJobs now lease selected rows).1 :=
  kept_updateRows _ _ (fun _ => rfl) fun _ => .inr ⟨rfl, rfl, rfl, rfl, rfl, rfl⟩

lemma kept_reject (r : Receipt) (reason : Result) : Kept rows (rejectStateTicket now r reason rows) :=
  kept_updateRows _ _ (fun _ => rfl) fun _ => .inl rfl

/-- No account has more than eight rows, and a key has one. -/
structure Bounded (rows : List Job) : Prop where
  keys : (rows.map Job.key).Nodup
  eight : ∀ accountID, rows.countP (fun j => j.accountID = accountID) ≤ 8

lemma countP_key (accountID : String) (rows : List Job) :
    rows.countP (fun j => j.accountID = accountID) = (rows.map Job.key).countP fun k => k.1 = accountID := by
  rw [List.countP_map]
  rfl

lemma Bounded.kept (h : Bounded rows) (hkept : Kept rows rows') : Bounded rows' := by
  refine ⟨hkept.keys.nodup h.keys, fun accountID => ?_⟩
  have height := h.eight accountID
  rw [countP_key] at height ⊢
  exact hkept.keys.countP_le.trans height

/-- A row is inserted for a new key when there are less than eight. -/
lemma Bounded.insert (h : Bounded rows) {j : Job} (hcount : rows.countP (fun x => x.accountID = j.accountID) < 8)
    (hnew : j.key ∉ rows.map Job.key) : Bounded (rows ++ [j]) := by
  refine ⟨?_, fun accountID => ?_⟩
  · rw [List.map_append, List.map_singleton]
    exact List.nodup_append.mpr ⟨h.keys, List.nodup_singleton _, fun a ha b hb => by
      rw [List.mem_singleton.mp hb]
      exact fun heq => hnew (heq ▸ ha)⟩
  · rw [List.countP_append]
    by_cases heq : j.accountID = accountID
    · subst heq
      have hone : List.countP (fun x => decide (x.accountID = j.accountID)) [j] = 1 := by simp
      omega
    · have hzero : List.countP (fun x => decide (x.accountID = accountID)) [j] = 0 := by simp [heq]
      have := h.eight accountID
      omega

/-- `EnsureStateJob` keeps the tickets and the bound. -/
lemma ensure_spec (now : ℤ) (account : Option Account) (accountID model : String) (fingerprint : Fingerprint) (scope : Scope)
    (h : Bounded rows) : Bounded (ensureStateJob now account accountID model fingerprint scope rows) ∧
      ∀ j' ∈ ensureStateJob now account accountID model fingerprint scope rows,
        j'.version = "" ∨ ∃ j ∈ rows, SameTicket j j' := by
  have hself : Bounded rows ∧ ∀ j' ∈ rows, j'.version = "" ∨ ∃ j ∈ rows, SameTicket j j' := ⟨h, (Kept.refl rows).tickets⟩
  unfold ensureStateJob
  split
  · exact hself
  · split_ifs
    · unfold ensureRow
      dsimp only
      generalize hp : (fun j : Job => decide ¬ (j.accountID = accountID ∧ (j.lastUsedAt < dayBefore now ∨
        (j.model = model ∧ j.fingerprint ≠ fingerprint)))) = p
      have hkept : Kept rows (rows.filter p) := kept_filter p
      have hbounded := h.kept hkept
      have htouch : ∀ l : List Job, Kept l (updateRows (fun j => j.key = (accountID, model))
          (fun j => { j with lastUsedAt := now }) l) :=
        fun l => kept_updateRows _ _ (fun _ => rfl) fun _ => .inr ⟨rfl, rfl, rfl, rfl, rfl, rfl⟩
      -- What the update touches has the tickets of the rows before it.
      have hthrough : ∀ l : List Job, Bounded l → (∀ j' ∈ l, j'.version = "" ∨ ∃ j ∈ rows, SameTicket j j') →
          Bounded (updateRows (fun j => j.key = (accountID, model)) (fun j => { j with lastUsedAt := now }) l) ∧
            ∀ j' ∈ updateRows (fun j => j.key = (accountID, model)) (fun j => { j with lastUsedAt := now }) l,
              j'.version = "" ∨ ∃ j ∈ rows, SameTicket j j' := by
        intro l hl htickets
        refine ⟨hl.kept (htouch l), fun j' hj' => ?_⟩
        rcases (htouch l).tickets j' hj' with hempty | ⟨x, hx, hsame⟩
        · exact .inl hempty
        · rcases htickets x hx with hempty | ⟨j, hj, hsame'⟩
          · exact .inl (hsame.version.trans hempty)
          · exact .inr ⟨j, hj, hsame.accountID.trans hsame'.accountID, hsame.model.trans hsame'.model,
              hsame.fingerprint.trans hsame'.fingerprint, hsame.version.trans hsame'.version,
              hsame.ciphertext.trans hsame'.ciphertext, hsame.expiresAt.trans hsame'.expiresAt⟩
      by_cases hinsert : (rows.filter p).countP (fun j => j.accountID = accountID) < 8 ∧
          (accountID, model) ∉ (rows.filter p).map Job.key
      · rw [if_pos hinsert]
        split_ifs
        · refine hthrough _ (hbounded.insert hinsert.1 hinsert.2) fun j' hj' => ?_
          rcases List.mem_append.mp hj' with hj' | hj'
          · exact hkept.tickets j' hj'
          · exact .inl (by rw [List.mem_singleton.mp hj']; rfl)
        · exact hself
      · rw [if_neg hinsert]
        split_ifs
        · exact hthrough _ hbounded hkept.tickets
        · exact hself
    · exact hself

end Rows

section Invariant

variable {toLower : String → String} {decrypt : List UInt8 → String → Option String} {s : System}

/-- What a returned ticket has gone through: it was captured and confirmed under the caller's scope, less than an hour
before the row was checked, and its version was not rejected when the row was read. -/
structure Issued (probes : List ProbeRecord) (r : Reader) (value : String) (receipt : Receipt) (readAt checkedAt : ℤ)
    (rejected : List Receipt) : Prop where
  accountID : receipt.accountID = r.accountID
  model : receipt.model = r.model
  captured : ∃ captured, Validated probes r.accountID r.model r.scope value captured ∧ checkedAt < captured + hour
  checked : readAt ≤ checkedAt
  version : ∀ x ∈ rejected, x.version ≠ receipt.version

/-- The ticket of a row as a reader or the store finds it. -/
structure RowOK (probes : List ProbeRecord) (stored rejected : List Receipt) (j : Job) : Prop where
  ticket : TicketOK probes j
  stored : ⟨j.accountID, j.model, j.version⟩ ∈ stored
  version : ∀ x ∈ rejected, x.version ≠ j.version

lemma RowOK.mono {probes probes' : List ProbeRecord} {stored stored' rejected : List Receipt} {j : Job}
    (h : RowOK probes stored rejected j) (hprobes : probes <+: probes') (hstored : stored ⊆ stored') :
    RowOK probes' stored' rejected j := ⟨h.ticket.mono hprobes, hstored h.stored, h.version⟩

/-- What a call of `PrepareState` has read. -/
def ReaderOK (now : ℤ) (probes : List ProbeRecord) (stored : List Receipt) (r : Reader) : Prop :=
  match r.phase with
  | .account | .empty => True
  | .jobs a => r.scope = codexStateAccountScope r.accountID a
  | .found a j readAt rejected => r.scope = codexStateAccountScope r.accountID a ∧ j.accountID = r.accountID ∧
      j.model = r.model ∧ j.fingerprint = fingerprint r.egress r.accountID a ∧ readAt ≤ now ∧
      (j.version ≠ "" → RowOK probes stored rejected j)
  | .returned value receipt readAt checkedAt rejected =>
      receipt ∈ stored ∧ Issued probes r value receipt readAt checkedAt rejected

lemma ReaderOK.mono {now now' : ℤ} {probes probes' : List ProbeRecord} {stored stored' : List Receipt} {r : Reader}
    (h : ReaderOK now probes stored r) (hnow : now ≤ now') (hprobes : probes <+: probes') (hstored : stored ⊆ stored') :
    ReaderOK now' probes' stored' r := by
  unfold ReaderOK at h ⊢
  split at h
  · trivial
  · trivial
  · exact h
  · obtain ⟨hscope, haccount, hmodel, hprint, hread, hrow⟩ := h
    exact ⟨hscope, haccount, hmodel, hprint, hread.trans hnow, fun hv => (hrow hv).mono hprobes hstored⟩
  · obtain ⟨hmem, haccount, hmodel, ⟨captured, hvalidated, hlt⟩, hchecked, hversion⟩ := h
    exact ⟨hstored hmem, haccount, hmodel, ⟨captured, hvalidated.mono hprobes, hlt⟩, hchecked, hversion⟩

structure Sound (s : System) : Prop where
  bounded : Bounded s.rows
  rows : ∀ j ∈ s.rows, j.version ≠ "" → RowOK s.probes s.stored s.rejected j
  workers : ∀ w ∈ s.workers, PhaseOK s.now s.probes w.job w.phase
  used : ∀ w ∈ s.workers, w.job.lease ∈ s.used
  fresh : ∀ w ∈ s.workers, Pending w → w.job.version ∈ s.used ∧ ∀ r ∈ s.stored, r.version ≠ w.job.version
  pending : ∀ (i j : ℕ) w w', s.workers[i]? = some w → s.workers[j]? = some w' → Pending w → Pending w' →
    w.job.version = w'.job.version → i = j
  leases : ∀ (i j : ℕ) w w', s.workers[i]? = some w → s.workers[j]? = some w' → w.job.lease = w'.job.lease →
    w.job.key = w'.job.key → i = j
  readers : ∀ r ∈ s.readers, ReaderOK s.now s.probes s.stored r
  rejected : ∀ r ∈ s.rejected, r ∈ s.stored
  stored : ∀ r ∈ s.stored, r.version ∈ s.used
  unique : ∀ r ∈ s.stored, ∀ r' ∈ s.stored, r.version = r'.version → r = r'

lemma sound_initial (now : ℤ) : Sound (initial now) :=
  ⟨⟨List.nodup_nil, fun _ => Nat.zero_le 8⟩, by simp [initial], by simp [initial], by simp [initial], by simp [initial],
    by simp [initial], by simp [initial], by simp [initial], by simp [initial], by simp [initial], by simp [initial]⟩

/-- A statement that stores no ticket. -/
lemma Sound.write (hs : Sound s) {rows : List Job} (hbounded : Bounded rows)
    (htickets : ∀ j' ∈ rows, j'.version = "" ∨ ∃ j ∈ s.rows, SameTicket j j') : Sound { s with rows := rows } := by
  refine { hs with bounded := hbounded, rows := ?_ }
  intro j' hj' hversion
  rcases htickets j' hj' with hempty | ⟨j, hj, hsame⟩
  · exact absurd hempty hversion
  · have hrow := hs.rows j hj (hsame.version ▸ hversion)
    refine ⟨hsame.ticketOK hrow.ticket, ?_, ?_⟩
    · rw [hsame.accountID, hsame.model, hsame.version]
      exact hrow.stored
    · rw [hsame.version]
      exact hrow.version

lemma Sound.kept (hs : Sound s) {rows : List Job} (h : Kept s.rows rows) : Sound { s with rows := rows } :=
  hs.write (hs.bounded.kept h) h.tickets

lemma Sound.tick (hs : Sound s) (d : ℕ) : Sound { s with now := s.now + d } := by
  have hnow : s.now ≤ s.now + d := by omega
  exact { hs with
    workers := fun w hw => (hs.workers w hw).mono hnow List.prefix_rfl
    readers := fun r hr => (hs.readers r hr).mono hnow List.prefix_rfl (List.Subset.refl _) }

/-- The rows that a claim returns have different keys. -/
lemma claimed_keys (hs : Sound s) (lease : String) (selected : List (String × String)) :
    ((claimStateJobs s.now lease selected s.rows).2.map Job.key).Nodup := by
  have hkeys : (claimStateJobs s.now lease selected s.rows).2.map Job.key =
      (s.rows.filter (claimable s.now selected)).map Job.key := by
    rw [claimStateJobs, List.map_map]
    rfl
  rw [hkeys]
  exact ((List.filter_sublist).map _).nodup hs.bounded.keys

lemma Sound.claim (hs : Sound s) {lease : String} (hfresh : lease ∉ s.used) (egress : String)
    (selected : List (String × String)) :
    Sound { s with
      rows := (claimStateJobs s.now lease selected s.rows).1
      workers := s.workers ++ (claimStateJobs s.now lease selected s.rows).2.map fun j => ⟨egress, j, .begin⟩
      used := s.used ++ [lease] } := by
  have hrows : Sound { s with rows := (claimStateJobs s.now lease selected s.rows).1 } := hs.kept (kept_claim lease selected)
  have hkeys := claimed_keys hs lease selected
  have hleases : ∀ j ∈ (claimStateJobs s.now lease selected s.rows).2, j.lease = lease := by
    intro j hj
    obtain ⟨x, -, rfl⟩ := List.mem_map.mp hj
    rfl
  set claimed := (claimStateJobs s.now lease selected s.rows).2
  have hnew : ∀ w ∈ claimed.map fun j => (⟨egress, j, .begin⟩ : Worker), w.phase = .begin ∧ w.job.lease = lease := by
    intro w hw
    obtain ⟨j, hj, rfl⟩ := List.mem_map.mp hw
    exact ⟨rfl, hleases j hj⟩
  have hidle : ∀ w ∈ claimed.map fun j => (⟨egress, j, .begin⟩ : Worker), ¬ Pending w := by
    rintro w hw ⟨hphase, -⟩
    rw [(hnew w hw).1] at hphase
    cases hphase
  -- A worker of the list is an old one or one of the new ones.
  have hsplit : ∀ (i : ℕ) w, (s.workers ++ claimed.map fun j => (⟨egress, j, .begin⟩ : Worker))[i]? = some w →
      s.workers[i]? = some w ∨ s.workers.length ≤ i ∧
        (claimed.map fun j => (⟨egress, j, .begin⟩ : Worker))[i - s.workers.length]? = some w := by
    intro i w hget
    by_cases hlt : i < s.workers.length
    · rw [List.getElem?_append_left hlt] at hget
      exact .inl hget
    · rw [List.getElem?_append_right (not_lt.mp hlt)] at hget
      exact .inr ⟨not_lt.mp hlt, hget⟩
  refine { hs with
    bounded := hrows.bounded, rows := hrows.rows, workers := ?_, used := ?_, fresh := ?_, pending := ?_, leases := ?_
    stored := ?_ }
  · intro w hw
    rcases List.mem_append.mp hw with hw | hw
    · exact hs.workers w hw
    · rw [(hnew w hw).1]
      trivial
  · intro w hw
    rcases List.mem_append.mp hw with hw | hw
    · exact List.mem_append_left _ (hs.used w hw)
    · rw [(hnew w hw).2]
      simp
  · intro w hw hp
    rcases List.mem_append.mp hw with hw | hw
    · exact ⟨List.mem_append_left _ (hs.fresh w hw hp).1, (hs.fresh w hw hp).2⟩
    · exact absurd hp (hidle w hw)
  · intro i j w w' hi hj hp hp' hversion
    rcases hsplit i w hi with hi | ⟨-, hi⟩
    · rcases hsplit j w' hj with hj | ⟨-, hj⟩
      · exact hs.pending i j w w' hi hj hp hp' hversion
      · exact absurd hp' (hidle w' (List.mem_of_getElem? hj))
    · exact absurd hp (hidle w (List.mem_of_getElem? hi))
  · -- The new lease is different from the old ones, and its jobs are different rows.
    intro i j w w' hi hj hlease hkey
    rcases hsplit i w hi with hi | ⟨hlei, hi⟩ <;> rcases hsplit j w' hj with hj | ⟨hlej, hj⟩
    · exact hs.leases i j w w' hi hj hlease hkey
    · rw [(hnew w' (List.mem_of_getElem? hj)).2] at hlease
      exact absurd (hlease ▸ hs.used w (List.mem_of_getElem? hi)) hfresh
    · rw [(hnew w (List.mem_of_getElem? hi)).2] at hlease
      exact absurd (hlease ▸ hs.used w' (List.mem_of_getElem? hj)) hfresh
    · rw [List.getElem?_map, Option.map_eq_some_iff] at hi hj
      obtain ⟨x, hx, rfl⟩ := hi
      obtain ⟨y, hy, rfl⟩ := hj
      have hkeyx : (claimed.map Job.key)[i - s.workers.length]? = some x.key := by rw [List.getElem?_map, hx]; rfl
      have hkeyy : (claimed.map Job.key)[j - s.workers.length]? = some y.key := by rw [List.getElem?_map, hy]; rfl
      have hsame : i - s.workers.length = j - s.workers.length :=
        (List.getElem?_inj (List.getElem?_eq_some_iff.mp hkeyx).1 hkeys).mp (hkeyx.trans (hkey ▸ hkeyy.symm))
      omega
  · exact fun r hr => List.mem_append_left _ (hs.stored r hr)

lemma getElem?_set_cases {α : Type} {l : List α} {i j : ℕ} {x y : α} (h : (l.set i x)[j]? = some y) :
    j = i ∧ y = x ∨ j ≠ i ∧ l[j]? = some y := by
  by_cases hji : j = i
  · subst hji
    have hlt : j < l.length := by simpa using (List.getElem?_eq_some_iff.mp h).1
    rw [List.getElem?_set_self hlt] at h
    injection h with h
    exact .inl ⟨rfl, h.symm⟩
  · rw [List.getElem?_set_ne (Ne.symm hji)] at h
    exact .inr ⟨hji, h⟩

/-- A worker goes on before it finishes. -/
lemma Sound.work (hs : Sound s) {i : ℕ} {w : Worker} (hget : s.workers[i]? = some w) {out : Worker × Option ProbeRecord}
    (h : TurnOK s.now s.probes s.used w out) :
    Sound { s with
      workers := s.workers.set i out.1
      probes := s.probes ++ out.2.toList
      used := s.used ++ madeID w out.1 } := by
  have hw := List.mem_of_getElem? hget
  have hprobes : s.probes <+: s.probes ++ out.2.toList := List.prefix_append _ _
  -- A version that is new is in no row and with no other worker.
  have hversion : Pending out.1 → out.1.job.version ∈ s.used ++ madeID w out.1 ∧
      ∀ r ∈ s.stored, r.version ≠ out.1.job.version := by
    intro hp
    rcases h.pending hp with heq | ⟨hnew, hmade⟩
    · rw [heq] at hp ⊢
      exact ⟨List.mem_append_left _ (hs.fresh w hw hp).1, (hs.fresh w hw hp).2⟩
    · refine ⟨by rw [hmade]; simp, fun r hr heq => hnew ?_⟩
      rw [← heq]
      exact hs.stored r hr
  have hother : ∀ (j : ℕ) w', j ≠ i → s.workers[j]? = some w' → Pending out.1 → Pending w' →
      out.1.job.version ≠ w'.job.version := by
    intro j w' hji hj hp hp' heq
    rcases h.pending hp with hsame | ⟨hnew, -⟩
    · rw [hsame] at hp heq
      exact hji (hs.pending j i w' w hj hget hp' hp heq.symm)
    · exact hnew (heq ▸ (hs.fresh w' (List.mem_of_getElem? hj) hp').1)
  refine ⟨hs.bounded, fun j hj hv => (hs.rows j hj hv).mono hprobes (List.Subset.refl _), ?_, ?_, ?_, ?_, ?_,
    fun r hr => (hs.readers r hr).mono le_rfl hprobes (List.Subset.refl _), hs.rejected,
    fun r hr => List.mem_append_left _ (hs.stored r hr), hs.unique⟩
  · intro x hx
    rcases List.mem_or_eq_of_mem_set hx with hx | rfl
    · exact (hs.workers x hx).mono le_rfl hprobes
    · exact h.phase
  · intro x hx
    rcases List.mem_or_eq_of_mem_set hx with hx | rfl
    · exact List.mem_append_left _ (hs.used x hx)
    · rw [h.lease]
      exact List.mem_append_left _ (hs.used w hw)
  · intro x hx hp
    rcases List.mem_or_eq_of_mem_set hx with hx | rfl
    · exact ⟨List.mem_append_left _ (hs.fresh x hx hp).1, (hs.fresh x hx hp).2⟩
    · exact hversion hp
  · intro j k x y hj hk hpx hpy heq
    rcases getElem?_set_cases hj with ⟨rfl, rfl⟩ | ⟨hji, hj'⟩ <;> rcases getElem?_set_cases hk with ⟨rfl, rfl⟩ | ⟨hki, hk'⟩
    · rfl
    · exact absurd heq (hother k y hki hk' hpx hpy)
    · exact absurd heq.symm (hother j x hji hj' hpy hpx)
    · exact hs.pending j k x y hj' hk' hpx hpy heq
  · intro j k x y hj hk hlease hkey
    rcases getElem?_set_cases hj with ⟨rfl, rfl⟩ | ⟨hji, hj'⟩ <;> rcases getElem?_set_cases hk with ⟨rfl, rfl⟩ | ⟨hki, hk'⟩
    · rfl
    · rw [h.lease] at hlease
      rw [h.key] at hkey
      exact hs.leases j k w y hget hk' hlease hkey
    · rw [h.lease] at hlease
      rw [h.key] at hkey
      exact hs.leases j k x w hj' hget hlease hkey
    · exact hs.leases j k x y hj' hk' hlease hkey

/-- A row that a ready job has finished has the ticket of the job. -/
lemma finishedRow_ticket {probes : List ProbeRecord} {j row : Job} {now : ℤ} (hmatch : finishes now j row = true)
    (hready : j.result = .ready) (h : TicketOK probes j) : TicketOK probes (finishedRow j row) := by
  obtain ⟨haccount, hmodel, hprint, -, -⟩ : row.accountID = j.accountID ∧ row.model = j.model ∧
      row.fingerprint = j.fingerprint ∧ row.lease = j.lease ∧ leaseHeld row now = true := by
    simpa [finishes] using hmatch
  obtain ⟨value, captured, hcipher, hexpires, hvalidated⟩ := h
  refine ⟨value, captured, ?_, by simp [finishedRow, hready, hexpires], ?_⟩
  · simp [finishedRow, hready, hcipher, stateAAD, haccount, hmodel, hprint]
  · simpa [finishedRow, haccount, hmodel, hprint] using hvalidated

lemma Sound.finish (hs : Sound s) {i : ℕ} {w : Worker} (hget : s.workers[i]? = some w) (hphase : w.phase = .finish) :
    Sound { s with
      rows := finishStateJob s.now w.job s.rows
      workers := s.workers.set i { w with phase := .ended }
      stored := s.stored ++ storedBy s.now w.job s.rows } := by
  have hw := List.mem_of_getElem? hget
  have hok := hs.workers w hw
  rw [hphase] at hok
  have hstored : s.stored ⊆ s.stored ++ storedBy s.now w.job s.rows := List.subset_append_left _ _
  -- The receipt that is stored, if any, is that of the job, and the job was pending.
  have hnew : ∀ r ∈ storedBy s.now w.job s.rows, r = ⟨w.job.accountID, w.job.model, w.job.version⟩ ∧ Pending w := by
    intro r hr
    unfold storedBy at hr
    split_ifs at hr with hready
    · exact ⟨by simpa using hr, hphase, hready.1⟩
    · cases hr
  have hended : ¬ Pending { w with phase := .ended } := fun hp => by cases hp.1
  have hbounded : Bounded (finishStateJob s.now w.job s.rows) := by
    refine ⟨?_, fun accountID => ?_⟩
    · rw [finishStateJob, map_key_updateRows _ (finishedRow w.job) fun _ => rfl]
      exact hs.bounded.keys
    · rw [countP_key, finishStateJob, map_key_updateRows _ (finishedRow w.job) fun _ => rfl, ← countP_key]
      exact hs.bounded.eight accountID
  refine ⟨hbounded, ?_, ?_, ?_, ?_, ?_, ?_, fun r hr => (hs.readers r hr).mono le_rfl List.prefix_rfl hstored,
    fun r hr => hstored (hs.rejected r hr), ?_, ?_⟩
  · intro x hx hv
    obtain ⟨row, hrow, rfl⟩ := List.mem_map.mp hx
    by_cases hmatch : finishes s.now w.job row = true
    · rw [if_pos hmatch] at hv ⊢
      by_cases hready : w.job.result = .ready
      · have hpending : Pending w := ⟨hphase, hready⟩
        obtain ⟨haccount, hmodel, -⟩ : row.accountID = w.job.accountID ∧ row.model = w.job.model ∧
            row.fingerprint = w.job.fingerprint ∧ row.lease = w.job.lease ∧ leaseHeld row s.now = true := by
          simpa [finishes] using hmatch
        refine ⟨finishedRow_ticket hmatch hready (hok hready).2, List.mem_append_right _ ?_, ?_⟩
        · have hany : s.rows.any (finishes s.now w.job) = true := List.any_eq_true.mpr ⟨row, hrow, hmatch⟩
          rw [storedBy, if_pos ⟨hready, hany⟩]
          simp [finishedRow, hready, haccount, hmodel]
        · intro r hr
          simpa [finishedRow, hready] using (hs.fresh w hw hpending).2 r (hs.rejected r hr)
      · have hversion : (finishedRow w.job row).version = row.version := by simp [finishedRow, hready]
        have hsame : SameTicket row (finishedRow w.job row) :=
          ⟨rfl, rfl, rfl, hversion, by simp [finishedRow, hready], by simp [finishedRow, hready]⟩
        have hold := hs.rows row hrow (hversion ▸ hv)
        refine ⟨hsame.ticketOK hold.ticket, hstored ?_, ?_⟩
        · rw [hversion]
          exact hold.stored
        · rw [hversion]
          exact hold.version
    · rw [if_neg hmatch] at hv ⊢
      exact (hs.rows row hrow hv).mono List.prefix_rfl hstored
  · intro x hx
    rcases List.mem_or_eq_of_mem_set hx with hx | rfl
    · exact hs.workers x hx
    · trivial
  · intro x hx
    rcases List.mem_or_eq_of_mem_set hx with hx | rfl
    · exact hs.used x hx
    · exact hs.used w hw
  · intro x hx hp
    obtain ⟨j, hj⟩ := List.getElem?_of_mem hx
    rcases getElem?_set_cases hj with ⟨-, rfl⟩ | ⟨hji, hj⟩
    · exact absurd hp hended
    · refine ⟨(hs.fresh x (List.mem_of_getElem? hj) hp).1, fun r hr heq => ?_⟩
      rcases List.mem_append.mp hr with hr | hr
      · exact (hs.fresh x (List.mem_of_getElem? hj) hp).2 r hr heq
      · obtain ⟨rfl, hpw⟩ := hnew r hr
        exact hji (hs.pending j i x w hj hget hp hpw heq.symm)
  · intro j k x y hj hk hpx hpy heq
    rcases getElem?_set_cases hj with ⟨rfl, rfl⟩ | ⟨hji, hj⟩
    · exact absurd hpx hended
    · rcases getElem?_set_cases hk with ⟨rfl, rfl⟩ | ⟨hki, hk⟩
      · exact absurd hpy hended
      · exact hs.pending j k x y hj hk hpx hpy heq
  · intro j k x y hj hk hlease hkey
    rcases getElem?_set_cases hj with ⟨rfl, rfl⟩ | ⟨hji, hj'⟩ <;> rcases getElem?_set_cases hk with ⟨rfl, rfl⟩ | ⟨hki, hk'⟩
    · rfl
    · exact hs.leases j k w y hget hk' hlease hkey
    · exact hs.leases j k x w hj' hget hlease hkey
    · exact hs.leases j k x y hj' hk' hlease hkey
  · intro r hr
    rcases List.mem_append.mp hr with hr | hr
    · exact hs.stored r hr
    · obtain ⟨rfl, hpw⟩ := hnew r hr
      exact (hs.fresh w hw hpw).1
  · intro r hr r' hr' heq
    rcases List.mem_append.mp hr with hr | hr <;> rcases List.mem_append.mp hr' with hr' | hr'
    · exact hs.unique r hr r' hr' heq
    · obtain ⟨rfl, hpw⟩ := hnew r' hr'
      exact absurd heq ((hs.fresh w hw hpw).2 r hr)
    · obtain ⟨rfl, hpw⟩ := hnew r hr
      exact absurd heq.symm ((hs.fresh w hw hpw).2 r' hr')
    · rw [(hnew r hr).1, (hnew r' hr').1]

/-- A call of `PrepareState` goes on. -/
lemma reader_ok (hs : Sound s) {r : Reader} (h : ReaderOK s.now s.probes s.stored r) (account : Option Account) (ok : Bool) :
    ReaderOK s.now s.probes s.stored (r.turn toLower s.now account s.rows s.rejected ok) := by
  obtain ⟨egress, accountID, model, scope, phase⟩ := r
  cases phase with
  | account =>
    simp only [Reader.turn]
    split
    · split_ifs with hscope
      · exact hscope.2
      · trivial
    · trivial
  | jobs a =>
    simp only [Reader.turn]
    split
    next j hfind =>
      cases ok with
      | false => simp at hfind
      | true =>
        have hj := List.mem_of_find?_eq_some hfind
        have hmatch := List.find?_some hfind
        obtain ⟨haccount, hmodel, hprint⟩ : j.accountID = accountID ∧ j.model = model ∧
            j.fingerprint = fingerprint egress accountID a := by simpa using hmatch
        exact ⟨h, haccount, hmodel, hprint, le_rfl, hs.rows j hj⟩
    next => trivial
  | found a j readAt rejected =>
    obtain ⟨hscope, haccount, hmodel, hprint, hread, hrow⟩ := h
    simp only [Reader.turn]
    split
    next expiresAt value plan hexpires hvalue hplan =>
      split_ifs with hcheck
      · -- The ciphertext of the row opens to the value that was validated.
        obtain ⟨⟨value', captured, hcipher, hexpires', hvalidated⟩, hstored, hversion⟩ := hrow hcheck.1
        simp only at haccount hmodel hprint hscope
        have heq : value' = value := by simpa [hcipher, Ciphertext.decrypt] using hvalue
        have hends : expiresAt = captured + hour := by
          rw [hexpires] at hexpires'
          injection hexpires'
        have hsame : j.fingerprint.scope = scope := by rw [hprint, hscope]; rfl
        rw [haccount, hmodel] at hstored hvalidated
        rw [heq, hsame] at hvalidated
        exact ⟨hstored, rfl, rfl, ⟨captured, hvalidated, hends ▸ hcheck.2.1⟩, hread, hversion⟩
      · trivial
    next => trivial
  | returned value receipt readAt checkedAt rejected => exact h
  | empty => trivial

lemma Sound.readersSet (hs : Sound s) {i : ℕ} {r' : Reader} (h : ReaderOK s.now s.probes s.stored r') :
    Sound { s with readers := s.readers.set i r' } := by
  refine { hs with readers := ?_ }
  intro r hr
  rcases List.mem_or_eq_of_mem_set hr with hr | rfl
  · exact hs.readers r hr
  · exact h

/-- A stored ticket is rejected; no other row has its version. -/
lemma Sound.reject (hs : Sound s) {receipt : Receipt} (hstored : receipt ∈ s.stored) (reason : Result) :
    Sound { s with rows := rejectStateTicket s.now receipt reason s.rows, rejected := s.rejected ++ [receipt] } := by
  have hkept : Kept s.rows (rejectStateTicket s.now receipt reason s.rows) := kept_reject receipt reason
  refine { hs with bounded := hs.bounded.kept hkept, rows := ?_, rejected := ?_ }
  · intro x hx hv
    obtain ⟨row, hrow, rfl⟩ := List.mem_map.mp hx
    split_ifs at hv ⊢ with hmatch
    · exact absurd rfl hv
    · have hold := hs.rows row hrow hv
      refine ⟨hold.ticket, hold.stored, fun r hr => ?_⟩
      rcases List.mem_append.mp hr with hr | hr
      · exact hold.version r hr
      · rw [List.mem_singleton.mp hr]
        intro heq
        have hsame := hs.unique receipt hstored _ hold.stored heq
        exact hmatch ⟨by rw [hsame], by rw [hsame], heq.symm, hv⟩
  · intro r hr
    rcases List.mem_append.mp hr with hr | hr
    · exact hs.rejected r hr
    · rw [List.mem_singleton.mp hr]
      exact hstored

lemma step_sound (hs : Sound s) (a : Step) : Sound (step toLower decrypt s a) := by
  cases a with
  | tick d => exact hs.tick d
  | configure accountID account =>
    have h := hs.kept (kept_configure accountID (s.accounts accountID) account)
    exact { h with }
  | ensure egress accountID model scope =>
    obtain ⟨hbounded, htickets⟩ :=
      ensure_spec s.now (s.accounts accountID) accountID model ⟨scope, egress⟩ scope hs.bounded
    exact hs.write hbounded htickets
  | deleteUnused => exact hs.kept (kept_filter _)
  | claim egress lease selected =>
    simp only [step]
    split_ifs with hfresh
    · exact hs.claim hfresh.2 egress selected
    · exact hs
  | work i turn =>
    simp only [step]
    split
    · exact hs
    next w hget =>
      split_ifs with hfinish
      · exact hs.finish hget hfinish.1
      · exact hs.work hget (turn_ok s.used (s.accounts w.job.accountID) (hs.workers w (List.mem_of_getElem? hget)) turn)
  | prepare egress accountID model scope =>
    refine { hs with readers := ?_ }
    intro r hr
    rcases List.mem_append.mp hr with hr | hr
    · exact hs.readers r hr
    · rw [List.mem_singleton.mp hr]
      unfold ReaderOK
      dsimp only
      split_ifs <;> trivial
  | read i ok =>
    simp only [step]
    split
    · exact hs
    next r hget => exact hs.readersSet (reader_ok hs (hs.readers r (List.mem_of_getElem? hget)) _ ok)
  | reject i reason =>
    simp only [step]
    split
    next egress accountID model scope value receipt readAt checkedAt rejected hget =>
      split_ifs
      · exact hs.reject (hs.readers _ (List.mem_of_getElem? hget)).1 reason
      · exact hs
    next => exact hs
  | refresh accountID => exact hs.kept (kept_refresh accountID)

lemma run_sound (hs : Sound s) (steps : List Step) : Sound (run toLower decrypt s steps) := by
  induction steps generalizing s with
  | nil => exact hs
  | cons a steps ih => exact ih (step_sound hs a)

/-- A worker holds the lease of a row. -/
def Holds (now : ℤ) (row : Job) (w : Worker) : Prop :=
  row.key = w.job.key ∧ row.lease = w.job.lease ∧ leaseHeld row now = true

/-- A finish whose lease or fingerprint is not that of its row changes nothing. -/
lemma finishStateJob_eq_self {now : ℤ} {j : Job} {rows : List Job}
    (h : ∀ row ∈ rows, row.key = j.key → row.fingerprint ≠ j.fingerprint ∨ row.lease ≠ j.lease ∨ leaseHeld row now = false) :
    finishStateJob now j rows = rows := by
  refine updateRows_eq_self fun row hrow hmatch => ?_
  obtain ⟨haccount, hmodel, hprint, hlease, hheld⟩ : row.accountID = j.accountID ∧ row.model = j.model ∧
      row.fingerprint = j.fingerprint ∧ row.lease = j.lease ∧ leaseHeld row now = true := by
    simpa [finishes] using hmatch
  rcases h row hrow (Prod.ext haccount hmodel) with hne | hne | hexpired
  · exact hne hprint
  · exact hne hlease
  · rw [hheld] at hexpired
    cases hexpired

/-- In every run of workers, readers and configuration changes, a ticket that `PrepareState` returns was captured and
confirmed for the caller's scope in the last hour and not rejected; an account has at most eight jobs; a lease has one
holder; and a finish without its lease changes nothing. -/
theorem returned_tickets_are_validated (toLower : String → String) (decrypt : List UInt8 → String → Option String) (now : ℤ)
    (steps : List Step) :
    (∀ r ∈ (run toLower decrypt (initial now) steps).readers, ∀ value receipt readAt checkedAt rejected,
        r.phase = .returned value receipt readAt checkedAt rejected →
          Issued (run toLower decrypt (initial now) steps).probes r value receipt readAt checkedAt rejected) ∧
      (∀ accountID, (run toLower decrypt (initial now) steps).rows.countP (fun j => j.accountID = accountID) ≤ 8) ∧
      (∀ row ∈ (run toLower decrypt (initial now) steps).rows, ∀ (i j : ℕ) w w',
        (run toLower decrypt (initial now) steps).workers[i]? = some w →
          (run toLower decrypt (initial now) steps).workers[j]? = some w' →
            Holds (run toLower decrypt (initial now) steps).now row w →
              Holds (run toLower decrypt (initial now) steps).now row w' → i = j) ∧
      ∀ job, (∀ row ∈ (run toLower decrypt (initial now) steps).rows, row.key = job.key →
          row.fingerprint ≠ job.fingerprint ∨ row.lease ≠ job.lease ∨
            leaseHeld row (run toLower decrypt (initial now) steps).now = false) →
        finishStateJob (run toLower decrypt (initial now) steps).now job (run toLower decrypt (initial now) steps).rows =
          (run toLower decrypt (initial now) steps).rows := by
  have hs : Sound (run toLower decrypt (initial now) steps) := run_sound (sound_initial now) steps
  refine ⟨?_, hs.bounded.eight, ?_, fun job => finishStateJob_eq_self⟩
  · intro r hr value receipt readAt checkedAt rejected hphase
    have hok := hs.readers r hr
    unfold ReaderOK at hok
    rw [hphase] at hok
    exact hok.2
  · rintro row - i j w w' hi hj ⟨hkey, hlease, -⟩ ⟨hkey', hlease', -⟩
    exact hs.leases i j w w' hi hj (hlease.symm.trans hlease') (hkey.symm.trans hkey')

end Invariant

end ShareSub.CodexStateSafety

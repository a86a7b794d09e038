import Mathlib
import ShareSub.Table
import ShareSub.GatewayModel

/-!
# Codex state tickets

The embedding of `codex_state.go` in the application and in the store, with the trigger of the table. Workers of any
number of API instances collect tickets, callers of `PrepareState` read them, and accounts are configured meanwhile. A
step is one SQL statement or transaction, one probe or one read of the clock. Hashes and authenticated encryption are
ideal: a digest is what it is made of, and a ciphertext opens under its own associated data only. `strings.ToLower` and
the decryption of credentials are parameters.
-/
namespace ShareSub.CodexStateModel

open GatewayModel (trimSpace)

section Values

def minute : ℤ := 60 * 1000000000

def hour : ℤ := 60 * minute

structure Account where
  ownerUserID : String
  chatGPTAccountID : String
  planType : String
  refreshTokenCiphertext : List UInt8
  proxyURLCiphertext : List UInt8
  accessTokenCiphertext : List UInt8
  fingerprintMode : String
  stateEnabled : Bool
  status : String
  tokenExpiresAt : ℤ
  deriving DecidableEq, Repr

def Account.active (a : Account) : Bool := a.status = "active"

/-- The digest of `CodexStateAccountScope`. -/
structure Scope where
  accountID : String
  chatGPTAccountID : String
  planType : String
  refreshTokenCiphertext : List UInt8
  proxyURLCiphertext : List UInt8
  fingerprintMode : String
  deriving DecidableEq, Repr

def codexStateAccountScope (accountID : String) (a : Account) : Scope :=
  ⟨accountID, a.chatGPTAccountID, a.planType, a.refreshTokenCiphertext, a.proxyURLCiphertext, a.fingerprintMode⟩

structure Fingerprint where
  scope : Scope
  egress : String
  deriving DecidableEq, Repr

/-- `fingerprint` of an API instance with the given egress. -/
def fingerprint (egress accountID : String) (a : Account) : Fingerprint := ⟨codexStateAccountScope accountID a, egress⟩

/-- `stateAAD`. -/
structure StateAAD where
  accountID : String
  model : String
  fingerprint : Fingerprint
  version : String
  deriving DecidableEq, Repr

structure Ciphertext where
  value : String
  aad : StateAAD
  deriving DecidableEq, Repr

def Ciphertext.decrypt (c : Ciphertext) (aad : StateAAD) : Option String := if c.aad = aad then some c.value else none

inductive Result
  | pending
  | ready
  | probeFailed
  | identityUnavailable
  | unexpectedState
  | validationRejected
  | identityChanged
  | accountBusy
  | unauthorized
  | forbidden
  | rateLimited
  | modelMismatch
  | incompleteResponse
  | transportFailed
  | upstreamRejected
  | state312
  deriving DecidableEq, Repr

/-- `stateProbeReason`, for the reason of the error. -/
def stateProbeReason (reason : String) : Result :=
  match reason with
  | "identity_changed" => .identityChanged
  | "account_busy" => .accountBusy
  | "unauthorized" => .unauthorized
  | "forbidden" => .forbidden
  | "rate_limited" => .rateLimited
  | "model_mismatch" => .modelMismatch
  | "incomplete_response" => .incompleteResponse
  | "transport_failed" => .transportFailed
  | "upstream_rejected" => .upstreamRejected
  | _ => .probeFailed

/-- A row of `codex_state_jobs`; the time `-infinity` and the empty ciphertext are `none`. -/
structure Job where
  accountID : String
  model : String
  fingerprint : Fingerprint
  lease : String
  leaseUntil : Option ℤ
  version : String
  ciphertext : Option Ciphertext
  expiresAt : Option ℤ
  nextAttemptAt : ℤ
  result : Result
  attempts : ℕ
  lastUsedAt : ℤ
  deriving DecidableEq, Repr

def Job.key (j : Job) : String × String := (j.accountID, j.model)

def stateAAD (j : Job) : StateAAD := ⟨j.accountID, j.model, j.fingerprint, j.version⟩

/-- `domain.CodexStateReceipt`. -/
structure Receipt where
  accountID : String
  model : String
  version : String
  deriving DecidableEq, Repr

end Values

section Checks

variable (toLower : String → String)

inductive Plan | pro | team
  deriving DecidableEq, Repr

def statePlan (value : String) : Option Plan :=
  match toLower (trimSpace value) with
  | "pro" | "chatgptpro" => some .pro
  | "team" | "business" | "chatgptteam" | "chatgptbusiness" => some .team
  | _ => none

def codexStateLength : Plan → ℕ
  | .pro => 292
  | .team => 332

def stateChar (c : Char) : Bool :=
  ('a' ≤ c ∧ c ≤ 'z') ∨ ('A' ≤ c ∧ c ≤ 'Z') ∨ ('0' ≤ c ∧ c ≤ '9') ∨ c = '_' ∨ c = '-' ∨ c = '='

def validCodexState (value : String) (length : ℕ) : Bool :=
  0 < length ∧ value.utf8ByteSize = length ∧ value.startsWith "gAAAAA" ∧ value.toList.all stateChar

def alphanumeric (c : Char) : Bool := ('A' ≤ c ∧ c ≤ 'Z') ∨ ('a' ≤ c ∧ c ≤ 'z') ∨ ('0' ≤ c ∧ c ≤ '9')

/-- `stateModelPattern`. -/
def validStateModel (model : String) : Bool :=
  match model.toList with
  | [] => false
  | c :: cs => alphanumeric c && decide (cs.length ≤ 127) && cs.all fun c => alphanumeric c || c = '.' || c = '_' || c = '-'

/-- The account has state tickets. -/
def eligible (a : Account) : Bool := a.stateEnabled && a.active && (statePlan toLower a.planType).isSome

end Checks

section Store

/-- `now() - interval '24 hours'`. -/
def dayBefore (now : ℤ) : ℤ := now - 24 * hour

/-- A lease that ended before a time. -/
def leaseFree (j : Job) (now : ℤ) : Bool := j.leaseUntil.all fun t => t < now

/-- A lease that is still held. -/
def leaseHeld (j : Job) (now : ℤ) : Bool := j.leaseUntil.any fun t => now < t

def newJob (now : ℤ) (accountID model : String) (fingerprint : Fingerprint) : Job :=
  ⟨accountID, model, fingerprint, "", none, "", none, none, now, .pending, 0, now⟩

/-- The statements of `EnsureStateJob` after the account was checked; without a row at the end it rolls back. -/
def ensureRow (now : ℤ) (accountID model : String) (fingerprint : Fingerprint) (rows : List Job) : List Job :=
  let kept := rows.filter fun j =>
    ¬ (j.accountID = accountID ∧ (j.lastUsedAt < dayBefore now ∨ (j.model = model ∧ j.fingerprint ≠ fingerprint)))
  let inserted :=
    if kept.countP (fun j => j.accountID = accountID) < 8 ∧ (accountID, model) ∉ kept.map Job.key then
      kept ++ [newJob now accountID model fingerprint]
    else kept
  if (accountID, model) ∈ inserted.map Job.key then
    updateRows (fun j => j.key = (accountID, model)) (fun j => { j with lastUsedAt := now }) inserted
  else rows

def ensureStateJob (now : ℤ) (account : Option Account) (accountID model : String) (fingerprint : Fingerprint)
    (scope : Scope) (rows : List Job) : List Job :=
  match account with
  | none => rows
  | some a =>
    if a.stateEnabled ∧ a.active ∧ scope = codexStateAccountScope accountID a then
      ensureRow now accountID model fingerprint rows
    else rows

/-- The first statement of `ClaimStateJobs`. -/
def deleteUnused (now : ℤ) (rows : List Job) : List Job := rows.filter fun j => ¬ j.lastUsedAt < dayBefore now

/-- A row that can be claimed and that the subquery has selected. -/
def claimable (now : ℤ) (selected : List (String × String)) (j : Job) : Bool :=
  j.nextAttemptAt ≤ now ∧ leaseFree j now ∧ j.key ∈ selected.take 2

def lend (now : ℤ) (lease : String) (j : Job) : Job := { j with lease := lease, leaseUntil := some (now + 3 * minute) }

/-- The second statement of `ClaimStateJobs`: the rows that it leaves and those that it returns. Which of the rows are
selected depends on their order and on the locks of others. -/
def claimStateJobs (now : ℤ) (lease : String) (selected : List (String × String)) (rows : List Job) : List Job × List Job :=
  (updateRows (fun j => claimable now selected j) (lend now lease) rows,
    (rows.filter (claimable now selected)).map (lend now lease))

/-- The `WHERE` clause of `FinishStateJob`. -/
def finishes (now : ℤ) (j row : Job) : Bool :=
  row.accountID = j.accountID ∧ row.model = j.model ∧ row.fingerprint = j.fingerprint ∧ row.lease = j.lease ∧
    leaseHeld row now

def finishedRow (j row : Job) : Job :=
  { row with
    lease := ""
    leaseUntil := none
    version := if j.result = .ready then j.version else row.version
    ciphertext := if j.result = .ready then j.ciphertext else row.ciphertext
    expiresAt := if j.result = .ready then j.expiresAt else row.expiresAt
    nextAttemptAt := j.nextAttemptAt
    result := j.result
    attempts := j.attempts }

def finishStateJob (now : ℤ) (j : Job) (rows : List Job) : List Job :=
  updateRows (fun row => finishes now j row) (finishedRow j) rows

def rejectStateTicket (now : ℤ) (r : Receipt) (reason : Result) (rows : List Job) : List Job :=
  updateRows (fun row => row.accountID = r.accountID ∧ row.model = r.model ∧ row.version = r.version ∧ row.version ≠ "")
    (fun row => { row with
      version := "", ciphertext := none, expiresAt := none, result := reason, nextAttemptAt := now + 5 * minute }) rows

def refreshStateJobs (now : ℤ) (accountID : String) (rows : List Job) : List Job :=
  updateRows (fun row => row.accountID = accountID ∧ row.result = .ready ∧ now < row.nextAttemptAt ∧ leaseFree row now)
    (fun row => { row with nextAttemptAt := now }) rows

/-- What `revoke_account_codex_state` compares. -/
def revokes (old new : Account) : Bool :=
  old.stateEnabled ≠ new.stateEnabled ∨ old.status ≠ new.status ∨ old.proxyURLCiphertext ≠ new.proxyURLCiphertext ∨
    old.refreshTokenCiphertext ≠ new.refreshTokenCiphertext ∨ old.chatGPTAccountID ≠ new.chatGPTAccountID ∨
    old.planType ≠ new.planType ∨ old.fingerprintMode ≠ new.fingerprintMode

/-- The rows after an account was written; a deleted account takes its rows with it. -/
def configureRows (accountID : String) (old new : Option Account) (rows : List Job) : List Job :=
  let dropped := rows.filter fun j => j.accountID ≠ accountID
  match old, new with
  | some _, none => dropped
  | some old, some new => if revokes old new then dropped else rows
  | none, _ => rows

end Store

section Workers

variable (toLower : String → String) (decrypt : List UInt8 → String → Option String)

/-- `CodexStateProbe`. -/
structure Probe where
  accessToken : String
  chatGPTAccountID : String
  proxyURL : String
  model : String
  state : Option String
  deriving DecidableEq, Repr

/-- What `probeIdentity` returns, with the account that it has read. -/
structure Identity where
  account : Account
  probe : Probe
  plan : Plan
  deriving DecidableEq, Repr

def probeIdentity (egress : String) (now : ℤ) (account : Option Account) (j : Job) : Option Identity :=
  match account with
  | none => none
  | some a =>
    match statePlan toLower a.planType with
    | none => none
    | some plan =>
      if a.stateEnabled ∧ a.active ∧ fingerprint egress j.accountID a = j.fingerprint ∧
          now + 2 * minute < a.tokenExpiresAt then
        let scope := a.ownerUserID ++ ":" ++ a.chatGPTAccountID
        match decrypt a.accessTokenCiphertext (scope ++ ":access") with
        | none => none
        | some token =>
          match if a.proxyURLCiphertext = [] then some "" else decrypt a.proxyURLCiphertext (scope ++ ":proxy") with
          | none => none
          | some proxy => some ⟨a, ⟨token, a.chatGPTAccountID, proxy, j.model, none⟩, plan⟩
      else none

/-- The check of `probe` before it is sent. -/
def probeChecks (egress : String) (account : Option Account) (j : Job) : Bool :=
  match account with
  | none => false
  | some a => a.stateEnabled ∧ a.active ∧ fingerprint egress j.accountID a = j.fingerprint

/-- Where `collect` is. -/
inductive Phase
  | begin
  | identify
  | check (identity : Identity)
  | send (identity : Identity) (captured : ℤ)
  | identifyAgain (value : String) (captured : ℤ)
  | checkAgain (identity : Identity) (value : String) (captured : ℤ)
  | sendAgain (identity : Identity) (value : String) (captured : ℤ)
  | identifyLast (value : String) (captured : ℤ)
  | encrypt (value : String) (captured : ℤ)
  | finish
  | ended
  deriving DecidableEq, Repr

/-- A run of `collect` on an API instance, with its variable `j`. -/
structure Worker where
  egress : String
  job : Job
  phase : Phase
  deriving DecidableEq, Repr

/-- A probe that was sent: what it was sent with and what came back. -/
structure ProbeRecord where
  accountID : String
  model : String
  scope : Scope
  state : Option String
  result : Except String String
  sentAt : ℤ

/-- What lets a worker go on: its next read or write goes through or fails, admission refuses the account, a probe
returns, or a new id is made. `abandon` is the end of its context. -/
inductive Turn
  | proceed
  | fail
  | busy
  | probed (result : Except String String)
  | newID (version : String)
  | abandon

def Worker.fails (w : Worker) (result : Result) : Worker :=
  { w with job := { w.job with result := result }, phase := .finish }

/-- The record of a probe of an identity. -/
def Identity.sent (identity : Identity) (j : Job) (state : Option String) (result : Except String String) (now : ℤ) :
    ProbeRecord :=
  ⟨j.accountID, identity.probe.model, codexStateAccountScope j.accountID identity.account, state, result, now⟩

/-- A turn of a worker before it finishes. `used` are the ids that were made before. -/
def Worker.turn (w : Worker) (now : ℤ) (account : Option Account) (used : List String) :
    Turn → Worker × Option ProbeRecord
  | .proceed =>
    match w.phase with
    | .begin =>
      ({ w with
        job := { w.job with attempts := w.job.attempts + 1, result := .probeFailed, nextAttemptAt := now + 5 * minute }
        phase := .identify }, none)
    | .identify =>
      match probeIdentity toLower decrypt w.egress now account w.job with
      | some identity => ({ w with phase := .check identity }, none)
      | none => (w.fails .identityUnavailable, none)
    | .check identity =>
      if probeChecks w.egress account w.job then ({ w with phase := .send identity now }, none)
      else (w.fails .identityChanged, none)
    | .identifyAgain value captured =>
      match probeIdentity toLower decrypt w.egress now account w.job with
      | some identity => ({ w with phase := .checkAgain identity value captured }, none)
      | none => (w.fails .identityChanged, none)
    | .checkAgain identity value captured =>
      if probeChecks w.egress account w.job then ({ w with phase := .sendAgain identity value captured }, none)
      else (w.fails .identityChanged, none)
    | .identifyLast value captured =>
      match probeIdentity toLower decrypt w.egress now account w.job with
      | some _ => ({ w with phase := .encrypt value captured }, none)
      | none => (w.fails .identityChanged, none)
    | _ => (w, none)
  | .fail =>
    match w.phase with
    | .identify => (w.fails .identityUnavailable, none)
    | .check _ | .identifyAgain _ _ | .checkAgain _ _ _ | .identifyLast _ _ => (w.fails .identityChanged, none)
    | .encrypt _ _ => ({ w with phase := .finish }, none)
    | .finish => ({ w with phase := .ended }, none)
    | _ => (w, none)
  | .busy =>
    match w.phase with
    | .send _ _ | .sendAgain _ _ _ => (w.fails .accountBusy, none)
    | _ => (w, none)
  | .probed result =>
    match w.phase with
    | .send identity captured =>
      let record := identity.sent w.job none result now
      match result with
      | .error reason => (w.fails (stateProbeReason reason), some record)
      | .ok value =>
        if validCodexState value (codexStateLength identity.plan) then
          ({ w with phase := .identifyAgain value captured }, some record)
        else (w.fails .unexpectedState, some record)
    | .sendAgain identity value captured =>
      let record := identity.sent w.job (some value) result now
      match result with
      | .error reason => (w.fails (stateProbeReason reason), some record)
      | .ok returned =>
        if validCodexState returned 312 then (w.fails .validationRejected, some record)
        else ({ w with phase := .identifyLast value captured }, some record)
    | _ => (w, none)
  | .newID version =>
    match w.phase with
    | .encrypt value captured =>
      if version ≠ "" ∧ version ∉ used then
        let j := { w.job with version := version }
        ({ w with
          job := { j with
            ciphertext := some ⟨value, stateAAD j⟩
            expiresAt := some (captured + hour)
            nextAttemptAt := captured + hour - 10 * minute
            result := .ready }
          phase := .finish }, none)
      else (w, none)
    | _ => (w, none)
  | .abandon => ({ w with phase := .ended }, none)

end Workers

section Runs

variable (toLower : String → String) (decrypt : List UInt8 → String → Option String)

/-- Where `PrepareState` is. It keeps the row that it has read, with the time and the tickets that were rejected by
then. -/
inductive ReadPhase
  | account
  | jobs (a : Account)
  | found (a : Account) (row : Job) (readAt : ℤ) (rejected : List Receipt)
  | returned (value : String) (receipt : Receipt) (readAt checkedAt : ℤ) (rejected : List Receipt)
  | empty
  deriving DecidableEq, Repr

/-- A call of `PrepareState` on an API instance. -/
structure Reader where
  egress : String
  accountID : String
  model : String
  scope : Scope
  phase : ReadPhase
  deriving DecidableEq, Repr

/-- The next step of the call; `ok` is false when a read of the store fails. -/
def Reader.turn (r : Reader) (now : ℤ) (account : Option Account) (rows : List Job) (rejected : List Receipt) (ok : Bool) :
    Reader :=
  match r.phase with
  | .account =>
    match if ok then account else none with
    | some a =>
      if eligible toLower a ∧ r.scope = codexStateAccountScope r.accountID a then { r with phase := .jobs a }
      else { r with phase := .empty }
    | none => { r with phase := .empty }
  | .jobs a =>
    match if ok then rows.find? fun j => j.accountID = r.accountID ∧ j.model = r.model ∧
        j.fingerprint = fingerprint r.egress r.accountID a else none with
    | some j => { r with phase := .found a j now rejected }
    | none => { r with phase := .empty }
  | .found a j readAt rejected =>
    match j.expiresAt, j.ciphertext.bind fun c => c.decrypt (stateAAD j), statePlan toLower a.planType with
    | some expiresAt, some value, some plan =>
      if j.version ≠ "" ∧ now < expiresAt ∧ validCodexState value (codexStateLength plan) then
        { r with phase := .returned value ⟨r.accountID, r.model, j.version⟩ readAt now rejected }
      else { r with phase := .empty }
    | _, _, _ => { r with phase := .empty }
  | _ => r

/-- The store, the processes and what has happened: the probes, the rejected tickets, the ids that were made and the
tickets that were ever stored. -/
structure System where
  now : ℤ
  accounts : String → Option Account
  rows : List Job
  workers : List Worker
  readers : List Reader
  probes : List ProbeRecord
  rejected : List Receipt
  used : List String
  stored : List Receipt

inductive Step
  | tick (d : ℕ)
  | configure (accountID : String) (account : Option Account)
  | ensure (egress accountID model : String) (scope : Scope)
  | deleteUnused
  | claim (egress lease : String) (selected : List (String × String))
  | work (i : ℕ) (turn : Turn)
  | prepare (egress accountID model : String) (scope : Scope)
  | read (i : ℕ) (ok : Bool)
  | reject (i : ℕ) (reason : Result)
  | refresh (accountID : String)

/-- The receipt of a ticket that a finished job has stored. -/
def storedBy (now : ℤ) (j : Job) (rows : List Job) : List Receipt :=
  if j.result = .ready ∧ rows.any (finishes now j) then [⟨j.accountID, j.model, j.version⟩] else []

/-- The id that a turn makes. -/
def madeID (w w' : Worker) : List String :=
  match w.phase, w'.phase with
  | .encrypt _ _, .finish => [w'.job.version]
  | _, _ => []

def step (s : System) : Step → System
  | .tick d => { s with now := s.now + d }
  | .configure accountID account =>
    { s with
      accounts := Function.update s.accounts accountID account
      rows := configureRows accountID (s.accounts accountID) account s.rows }
  | .ensure egress accountID model scope =>
    -- `ConfirmState` has compared the scope with the account of the fingerprint.
    { s with rows := ensureStateJob s.now (s.accounts accountID) accountID model ⟨scope, egress⟩ scope s.rows }
  | .deleteUnused => { s with rows := CodexStateModel.deleteUnused s.now s.rows }
  | .claim egress lease selected =>
    if lease ≠ "" ∧ lease ∉ s.used then
      let claimed := claimStateJobs s.now lease selected s.rows
      { s with
        rows := claimed.1
        workers := s.workers ++ claimed.2.map fun j => ⟨egress, j, .begin⟩
        used := s.used ++ [lease] }
    else s
  | .work i turn =>
    match s.workers[i]? with
    | none => s
    | some w =>
      if w.phase = .finish ∧ turn matches .proceed then
        { s with
          rows := finishStateJob s.now w.job s.rows
          workers := s.workers.set i { w with phase := .ended }
          stored := s.stored ++ storedBy s.now w.job s.rows }
      else
        let out := w.turn toLower decrypt s.now (s.accounts w.job.accountID) s.used turn
        { s with
          workers := s.workers.set i out.1
          probes := s.probes ++ out.2.toList
          used := s.used ++ madeID w out.1 }
  | .prepare egress accountID model scope =>
    { s with readers := s.readers ++
        [⟨egress, accountID, model, scope, if validStateModel model then .account else .empty⟩] }
  | .read i ok =>
    match s.readers[i]? with
    | none => s
    | some r => { s with readers := s.readers.set i (r.turn toLower s.now (s.accounts r.accountID) s.rows s.rejected ok) }
  | .reject i reason =>
    match s.readers[i]? with
    | some ⟨_, _, _, _, .returned _ receipt _ _ _⟩ =>
      if reason = .state312 ∨ reason = .modelMismatch then
        { s with rows := rejectStateTicket s.now receipt reason s.rows, rejected := s.rejected ++ [receipt] }
      else s
    | _ => s
  | .refresh accountID => { s with rows := refreshStateJobs s.now accountID s.rows }

def run (s : System) (steps : List Step) : System := steps.foldl (step toLower decrypt) s

def initial (now : ℤ) : System := ⟨now, fun _ => none, [], [], [], [], [], [], []⟩

end Runs

end ShareSub.CodexStateModel

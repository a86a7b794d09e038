import Mathlib
import ShareSub.Transaction
import ShareSub.HistoryModel

/-!
# The admission controller of the accounts

The embedding of `account_traffic.go`. The states of the accounts are objects that callbacks and
waiting calls refer to, so they stand in a heap, and a channel is a number with a flag. An operation
returns `none` where the source would panic, that is when a channel is closed a second time or the
history collector panics. The operations are the critical sections of the mutex. A map that the source has
not made yet is empty, and the key of a minute is its start.
-/
namespace ShareSub.TrafficModel

open HistoryModel

section Values

/-- The zero value of `time.Time`. -/
def zeroTime : ℤ := -62135596800 * 1000000000

/-- `accountTrafficStateTTL`. -/
def stateTTL : ℤ := 30 * minute

/-- `accountTrafficCleanupPeriod`. -/
def cleanupPeriod : ℤ := 10 * minute

abbrev Channel := ℕ

/-- A pointer to a state. -/
abbrev StateRef := ℕ

structure TrafficState where
  activeRequests : ℤ
  activeMembers : Counter String
  quiescing : Bool
  idle : Channel
  minuteStart : ℤ
  minuteRequests : ℤ
  pendingMinuteRequests : Counter ℤ
  lastSeen : ℤ

structure Controller where
  changed : Channel
  states : String → Option StateRef
  nextCleanup : ℤ
  history : History
  heap : StateRef → TrafficState
  nextState : StateRef
  closed : Channel → Bool
  nextChannel : Channel

/-- `domain.MemberConcurrencyLimit`. -/
structure MemberLimit where
  userID : String
  baseLimit : ℤ
  maxConcurrency : ℤ
  deriving DecidableEq, Repr

/-- `domain.ConcurrencyPolicy`. -/
structure ConcurrencyPolicy where
  enabled : Bool
  members : List MemberLimit
  deriving DecidableEq, Repr

/-- The parts of `domain.GatewayCredential` that the controller reads; the two limits are those of its account. -/
structure Credential where
  caller : Caller
  maxConcurrency : ℤ
  rpmLimit : ℤ
  policy : ConcurrencyPolicy
  deriving DecidableEq, Repr

inductive TrafficError
  | accountUnavailable
  | accountConcurrency
  | accountRateLimited
  | memberConcurrency
  | concurrencyConfiguration
  deriving DecidableEq, Repr

/-- What the two callbacks of an admission share. -/
structure Request where
  account : String
  state : StateRef
  minuteStart : ℤ
  countRPM : Bool
  credential : Option Credential
  committed : Bool
  released : Bool
  deriving DecidableEq, Repr

/-- The user that an admission counts for. -/
def Request.user (r : Request) : Option String := r.credential.map fun c => c.caller.userID

end Values

section Channels

def Controller.makeChan (c : Controller) (shut : Bool) : Controller × Channel :=
  ({ c with nextChannel := c.nextChannel + 1, closed := Function.update c.closed c.nextChannel shut }, c.nextChannel)

def Controller.close (c : Controller) (ch : Channel) : Option Controller :=
  if c.closed ch then none else some { c with closed := Function.update c.closed ch true }

def Controller.signalChangedLocked (c : Controller) : Option Controller :=
  (c.close c.changed).map fun c => { (c.makeChan false).1 with changed := (c.makeChan false).2 }

def closedSignal (c : Controller) : Controller × Channel := c.makeChan true

def Controller.put (c : Controller) (o : StateRef) (s : TrafficState) : Controller :=
  { c with heap := Function.update c.heap o s }

end Channels

section Policy

/-- `bases`, as the loop over the members leaves it. -/
def bases (members : List MemberLimit) : String → ℤ :=
  members.foldl (fun bases m => Function.update bases m.userID m.baseLimit) fun _ => 0

def reserved (members : List MemberLimit) : ℤ := (members.map MemberLimit.baseLimit).sum

/-- `own` and `found`. -/
def own (user : String) (members : List MemberLimit) : Option MemberLimit :=
  members.foldl (fun own m => if m.userID = user then some m else own) none

def sharedUsed (bases : String → ℤ) (active : Counter String) : ℤ := active.sumBy fun user n => max 0 (n - bases user)

def admitMemberConcurrency (active : Counter String) (credential : Credential) : Except TrafficError Unit :=
  let members := credential.policy.members
  if credential.policy.enabled then
    match own credential.caller.userID members with
    | none => .error .accountUnavailable
    | some own =>
      if credential.maxConcurrency ≤ 0 ∨ credential.maxConcurrency < reserved members then
        .error .concurrencyConfiguration
      else
        let current := active.get own.userID
        if 0 < own.maxConcurrency ∧ own.maxConcurrency ≤ current then .error .memberConcurrency
        else if current < own.baseLimit then .ok ()
        else if credential.maxConcurrency - reserved members ≤ sharedUsed (bases members) active then
          .error .memberConcurrency
        else .ok ()
  else .ok ()

end Policy

section Requests

def TrafficState.stale (s : TrafficState) (now : ℤ) : Bool :=
  !s.quiescing && s.activeRequests = 0 && decide (stateTTL ≤ now - s.lastSeen)

/-- The pass over the states that an admission makes when it is due. -/
def Controller.cleanup (c : Controller) (now : ℤ) : Controller :=
  if c.nextCleanup = zeroTime ∨ c.nextCleanup ≤ now then
    { c with
      states := fun id => (c.states id).filter fun o => !(c.heap o).stale now
      nextCleanup := now + cleanupPeriod }
  else c

def newState (idle : Channel) : TrafficState where
  activeRequests := 0
  activeMembers := ∅
  quiescing := false
  idle := idle
  minuteStart := zeroTime
  minuteRequests := 0
  pendingMinuteRequests := ∅
  lastSeen := zeroTime

/-- The state of an account, which is made if it is missing. -/
def Controller.findState (c : Controller) (account : String) : Controller × StateRef :=
  match c.states account with
  | some o => (c, o)
  | none =>
    let made := closedSignal c
    ({ made.1.put c.nextState (newState made.2) with
        states := Function.update c.states account (some c.nextState)
        nextState := c.nextState + 1 }, c.nextState)

/-- What an arrival writes before it is checked. -/
def TrafficState.arrive (s : TrafficState) (now : ℤ) (countRPM : Bool) : TrafficState :=
  let s := { s with lastSeen := now }
  if countRPM ∧ s.minuteStart ≠ truncate now then { s with minuteStart := truncate now, minuteRequests := 0 } else s

/-- The checks of an arrival, in the order of the source. -/
def TrafficState.check (s : TrafficState) (maxConcurrency rpmLimit now : ℤ) (countRPM : Bool)
    (credential : Option Credential) : Except TrafficError Unit :=
  if 0 < maxConcurrency ∧ maxConcurrency ≤ s.activeRequests then .error .accountConcurrency
  else if countRPM ∧ 0 < rpmLimit ∧ rpmLimit ≤ s.minuteRequests + s.pendingMinuteRequests.get (truncate now) then
    .error .accountRateLimited
  else
    match credential with
    | some credential => admitMemberConcurrency s.activeMembers credential
    | none => .ok ()

def recordHistory (h : History) (credential : Option Credential) (delta now : ℤ) : Option History :=
  match credential with
  | some credential => changeHistory h credential.caller delta now
  | none => some h

def countMember (active : Counter String) (credential : Option Credential) : Counter String :=
  match credential with
  | some credential => active.add credential.caller.userID 1
  | none => active

def TrafficState.enter (s : TrafficState) (idle : Channel) (now : ℤ) (countRPM : Bool)
    (credential : Option Credential) : TrafficState :=
  { s with
    activeMembers := countMember s.activeMembers credential
    idle := idle
    activeRequests := s.activeRequests + 1
    pendingMinuteRequests :=
      if countRPM then s.pendingMinuteRequests.add (truncate now) 1 else s.pendingMinuteRequests }

/-- The writes of an admission. -/
def Controller.accept (c : Controller) (o : StateRef) (now : ℤ) (countRPM : Bool) (credential : Option Credential) :
    Option Controller :=
  (recordHistory c.history credential 1 now).bind fun h =>
    let s := c.heap o
    let opened := if s.activeRequests = 0 then c.makeChan false else (c, s.idle)
    ({ opened.1 with history := h }.put o (s.enter opened.2 now countRPM credential)).signalChangedLocked

def prepareRequest (c : Controller) (account : String) (maxConcurrency rpmLimit now : ℤ) (countRPM : Bool)
    (credential : Option Credential) : Option (Controller × Except TrafficError Request) :=
  let found := (c.cleanup now).findState account
  let c := found.1
  let o := found.2
  if (c.heap o).quiescing then some (c, .error .accountUnavailable)
  else
    let s := (c.heap o).arrive now countRPM
    let c := c.put o s
    match s.check maxConcurrency rpmLimit now countRPM credential with
    | .error e => some (c, .error e)
    | .ok _ =>
      (c.accept o now countRPM credential).map fun c =>
        (c, .ok ⟨account, o, truncate now, countRPM, credential, false, false⟩)

/-- `reserve`. -/
def reserve (c : Controller) (account : String) (now : ℤ) : Option (Controller × Except TrafficError Request) :=
  prepareRequest c account 0 0 now false none

def prepareGateway (c : Controller) (credential : Credential) (now : ℤ) :
    Option (Controller × Except TrafficError Request) :=
  prepareRequest c credential.caller.key.account credential.maxConcurrency credential.rpmLimit now true (some credential)

def TrafficState.decrementPending (s : TrafficState) (r : Request) : TrafficState :=
  if r.countRPM then
    { s with pendingMinuteRequests := (s.pendingMinuteRequests.add r.minuteStart (-1)).prune r.minuteStart }
  else s

/-- The callback `commit`. -/
def commit (c : Controller) (r : Request) : Controller × Request :=
  if r.committed ∨ r.released then (c, r)
  else
    let s := (c.heap r.state).decrementPending r
    -- A request of an earlier minute is not charged to the current one.
    let s := if r.countRPM ∧ s.minuteStart = r.minuteStart then { s with minuteRequests := s.minuteRequests + 1 } else s
    (c.put r.state s, { r with committed := true })

def dropMember (active : Counter String) (credential : Option Credential) : Counter String :=
  match credential with
  | some credential => (active.add credential.caller.userID (-1)).prune credential.caller.userID
  | none => active

def TrafficState.leave (s : TrafficState) (r : Request) : TrafficState :=
  let s := if r.committed then s else s.decrementPending r
  { s with activeRequests := s.activeRequests - 1, activeMembers := dropMember s.activeMembers r.credential }

/-- The callback `release`; `now` is what `c.now()` returns. -/
def release (c : Controller) (r : Request) (now : ℤ) : Option (Controller × Request) :=
  if r.released then some (c, r)
  else
    let s := (c.heap r.state).leave r
    (recordHistory c.history r.credential (-1) now).bind fun h =>
      let c := { c with history := h }.put r.state s
      (if s.activeRequests = 0 then c.close s.idle else some c).bind fun c =>
        c.signalChangedLocked.map fun c => (c, { r with released := true })

end Requests

section Quiescence

/-- The accounts that `quiesce` takes, in the order in which it does. -/
def quiesceIDs (accountIDs : List String) : List String :=
  (accountIDs.foldl (fun ids id => if id = "" ∨ id ∈ ids then ids else ids ++ [id]) []).mergeSort fun a b => a ≤ b

/-- The parts of `domain.Plan` that `quiesceBinding` reads. -/
structure Binding where
  id : String
  accountID : String
  generation : ℤ
  deriving DecidableEq, Repr

/-- A call of `quiesce` on its own, or one of `quiesceBinding`. -/
inductive Goal
  | accounts
  | binding (planID : String) (additional : List String)
  deriving DecidableEq, Repr

/-- Where a call is. It waits on the channel that it has read, and `undoing` is the second half of a
cancellation. `returned` has the binding of a call of `quiesceBinding`, and its release callback has not run. -/
inductive Phase
  | reading
  | acquiring
  | awaitIdle (state : StateRef) (idle : Channel)
  | awaitChanged (changed : Channel)
  | undoing (state : StateRef)
  | rereading
  | dropping (retry : Bool)
  | returned (current : Option Binding)
  | released
  | failed
  deriving DecidableEq, Repr

/-- A call of `quiesce`, with the accounts that it has still to take. -/
structure Quiescer where
  goal : Goal
  plan : Option Binding
  accountIDs : List String
  ids : List String
  locked : List (String × StateRef)
  phase : Phase
  deriving DecidableEq, Repr

def Controller.flag (c : Controller) (o : StateRef) (quiescing : Bool) : Controller :=
  c.put o { c.heap o with quiescing := quiescing }

def Controller.releaseQuiesced (c : Controller) (states : List StateRef) : Option Controller :=
  (states.foldl (fun c o => c.flag o false) c).signalChangedLocked

def Quiescer.begin (q : Quiescer) (accountIDs : List String) : Quiescer :=
  { q with accountIDs := accountIDs, ids := quiesceIDs accountIDs, locked := [], phase := .acquiring }

/-- One pass of the loop up to its `select`, or the end of the loop. -/
def Quiescer.acquire (q : Quiescer) (c : Controller) : Option (Controller × Quiescer) :=
  match q.ids with
  | [] =>
    match q.goal with
    | .accounts => some (c, { q with phase := .returned none })
    | .binding _ _ => some (c, { q with phase := .rereading })
  | account :: _ =>
    let found := c.findState account
    let s := found.1.heap found.2
    if s.quiescing then some (found.1, { q with phase := .awaitChanged found.1.changed })
    else
      (found.1.flag found.2 true).signalChangedLocked.map fun c =>
        (c, { q with phase := .awaitIdle found.2 s.idle })

/-- The account of the pass is idle. -/
def Quiescer.lock (q : Quiescer) (o : StateRef) : Quiescer :=
  { q with ids := q.ids.tail, locked := q.locked ++ (q.ids.head?.map fun account => (account, o)).toList, phase := .acquiring }

/-- The states that a call has locked are released. -/
def Quiescer.unlock (q : Quiescer) (c : Controller) (phase : Phase) : Option (Controller × Quiescer) :=
  (c.releaseQuiesced (q.locked.map Prod.snd)).map fun c => (c, { q with locked := [], phase := phase })

/-- What a call of `quiesceBinding` does with a binding that it has read again. -/
def Quiescer.compare (q : Quiescer) (current : Binding) : Phase :=
  match q.goal, q.plan with
  | .binding planID _, some plan =>
    if current.id = planID ∧ current.accountID = plan.accountID ∧ current.generation = plan.generation then
      .returned (some current)
    else .dropping true
  | _, _ => .dropping true

/-- What lets a call go on: the result of the function `binding`, which is `none` when it fails; its turn on the
mutex; a channel that is closed; or the end of its context. -/
inductive Turn
  | read (result : Option Binding)
  | proceed
  | wake
  | cancel
  deriving DecidableEq, Repr

/-- A turn that does not apply to the phase of a call leaves it as it is. -/
def Quiescer.turn (q : Quiescer) (c : Controller) : Turn → Option (Controller × Quiescer)
  | .read result =>
    match q.phase, result, q.goal with
    | .reading, some plan, .binding _ additional =>
      some (c, { q with plan := some plan }.begin (plan.accountID :: additional))
    | .reading, none, _ => some (c, { q with phase := .failed })
    | .rereading, some current, _ => some (c, { q with phase := q.compare current })
    | .rereading, none, _ => some (c, { q with phase := .dropping false })
    | _, _, _ => some (c, q)
  | .proceed =>
    match q.phase with
    | .acquiring => q.acquire c
    | .undoing o => (c.flag o false).signalChangedLocked.map fun c => (c, { q with phase := .failed })
    | .dropping retry => q.unlock c (if retry then .reading else .failed)
    | .returned _ => q.unlock c .released
    | _ => some (c, q)
  | .wake =>
    match q.phase with
    | .awaitIdle o idle => if c.closed idle then some (c, q.lock o) else some (c, q)
    | .awaitChanged changed => if c.closed changed then some (c, { q with phase := .acquiring }) else some (c, q)
    | _ => some (c, q)
  | .cancel =>
    match q.phase with
    | .awaitIdle o _ => q.unlock c (.undoing o)
    | .awaitChanged _ => q.unlock c .failed
    | _ => some (c, q)

end Quiescence

section Runs

/-- The controller, the callbacks of the admitted requests and the calls of `quiesce`. -/
structure System where
  controller : Controller
  requests : List Request
  quiescers : List Quiescer

inductive Step
  | prepareRequest (account : String) (maxConcurrency rpmLimit now : ℤ) (countRPM : Bool)
      (credential : Option Credential)
  | commit (i : ℕ)
  | release (i : ℕ) (now : ℤ)
  | quiesce (accountIDs : List String)
  | quiesceBinding (planID : String) (additional : List String)
  | turn (j : ℕ) (event : Turn)
  | pendingMinutes (now : ℤ)
  | liveHistory (key : SeriesKey) (now : ℤ)
  | acknowledgeMinutes (pending : List PendingMinute)

def System.record (s : System) (h : History) : System := { s with controller := { s.controller with history := h } }

/-- A request that is refused leaves no callbacks. -/
def System.arrival (s : System) (c : Controller) : Except TrafficError Request → System
  | .error _ => { s with controller := c }
  | .ok r => { s with controller := c, requests := s.requests ++ [r] }

/-- One critical section; `none` when it panics. -/
def step (s : System) : Step → Option System
  | .prepareRequest account maxConcurrency rpmLimit now countRPM credential =>
    (prepareRequest s.controller account maxConcurrency rpmLimit now countRPM credential).map fun p =>
      s.arrival p.1 p.2
  | .commit i =>
    match s.requests[i]? with
    | some r =>
      let out := commit s.controller r
      some { s with controller := out.1, requests := s.requests.set i out.2 }
    | none => some s
  | .release i now =>
    match s.requests[i]? with
    | some r =>
      (release s.controller r now).map fun out =>
        { s with controller := out.1, requests := s.requests.set i out.2 }
    | none => some s
  | .quiesce accountIDs =>
    some { s with quiescers := s.quiescers ++ [Quiescer.begin ⟨.accounts, none, [], [], [], .failed⟩ accountIDs] }
  | .quiesceBinding planID additional =>
    some { s with quiescers := s.quiescers ++ [⟨.binding planID additional, none, [], [], [], .reading⟩] }
  | .turn j event =>
    match s.quiescers[j]? with
    | some q =>
      (q.turn s.controller event).map fun out =>
        { s with controller := out.1, quiescers := s.quiescers.set j out.2 }
    | none => some s
  | .pendingMinutes now => (pendingMinutes s.controller.history now).map fun out => s.record out.1
  | .liveHistory key now => (liveHistory s.controller.history key now).map fun out => s.record out.1
  | .acknowledgeMinutes pending => some (s.record (acknowledgeMinutes s.controller.history pending))

def run (s : System) : List Step → Option System
  | [] => some s
  | a :: steps => (step s a).bind fun s => run s steps

/-- `newAccountTrafficController`. -/
def newController (instanceID : String) : Controller where
  changed := 0
  states := fun _ => none
  nextCleanup := zeroTime
  history := ⟨instanceID, 0, ∅⟩
  heap := fun _ => newState 0
  nextState := 0
  closed := fun _ => false
  nextChannel := 1

def initial (instanceID : String) : System := ⟨newController instanceID, [], []⟩

end Runs

end ShareSub.TrafficModel

import Mathlib
import ShareSub.Counter
import ShareSub.FiniteMap

/-!
# The concurrency history collector

The embedding of `concurrency_history.go` and of `SaveConcurrencyMinutes`. Instants and
durations are nanosecond counts, also where the source keeps a duration as seconds. An
operation returns `none` where the source would panic on a write to a nil map. A map whose order
the source leaves open is read in the order of its entries.
-/
namespace ShareSub.HistoryModel

section Values

def minute : ℤ := 60 * 1000000000

/-- `Truncate(time.Minute)`. -/
def truncate (t : ℤ) : ℤ := t - t % minute

/-- `25*time.Hour`. -/
def retention : ℤ := 25 * 60 * minute

def cutoff (now : ℤ) : ℤ := truncate (now - retention)

structure SeriesKey where
  account : String
  plan : String
  generation : ℤ
  deriving DecidableEq, Repr

/-- `domain.ConcurrencyMemberSample`. -/
structure MemberSample where
  userID : String
  username : String
  requestSeconds : ℤ
  deriving DecidableEq, Repr

/-- `domain.ConcurrencyMinute`. -/
structure ConcurrencyMinute where
  instanceID : String
  accountID : String
  planID : String
  generation : ℤ
  bucketStart : ℤ
  observedSeconds : ℤ
  peak : ℤ
  members : List MemberSample
  deriving DecidableEq, Repr

def ConcurrencyMinute.key (m : ConcurrencyMinute) : SeriesKey := ⟨m.accountID, m.planID, m.generation⟩

/-- A dropped map of seconds is `none`, and so is a snapshot before the first one is taken. -/
structure Bucket where
  minute : ConcurrencyMinute
  seconds : Option (Counter String)
  revision : ℕ
  saved : ℕ
  snapshot : Option ConcurrencyMinute
  snapshotRevision : ℕ

structure Series where
  instanceID : String
  key : SeriesKey
  last : ℤ
  lastUsed : ℤ
  counts : Counter String
  names : String → String
  buckets : FiniteMap ℤ Bucket

/-- The part of the traffic controller that the collector uses. -/
structure History where
  instanceID : String
  nextSeries : ℕ
  series : FiniteMap SeriesKey Series

end Values

section Integration

def newSeries (h : History) (key : SeriesKey) (now : ℤ) : Series where
  instanceID := h.instanceID ++ "-" ++ toString (h.nextSeries + 1)
  key := key
  last := now
  lastUsed := now
  counts := ∅
  names := fun _ => ""
  buckets := ∅

/-- `series`: the series of a key and the history that has it. -/
def findSeries (h : History) (key : SeriesKey) (now : ℤ) : History × Series :=
  match h.series.lookup key with
  | some v => (h, v)
  | none =>
    let v := newSeries h key now
    ({ h with nextSeries := h.nextSeries + 1, series := h.series.insert key v }, v)

def newBucket (v : Series) (start : ℤ) : Bucket where
  minute := ⟨v.instanceID, v.key.account, v.key.plan, v.key.generation, start, 0, 0, []⟩
  seconds := some ∅
  revision := 0
  saved := 0
  snapshot := none
  snapshotRevision := 0

/-- `bucket`. What is written to the result is put back by `Series.put`. -/
def Series.bucket (v : Series) (instant : ℤ) : Bucket :=
  (v.buckets.lookup (truncate instant)).getD (newBucket v (truncate instant))

def Series.put (v : Series) (instant : ℤ) (b : Bucket) : Series :=
  { v with buckets := v.buckets.insert (truncate instant) b }

/-- `for user, n := range v.counts { if n > 0 { b.seconds[user] += float64(n) * seconds } }`. -/
def addSeconds (elapsed : ℤ) :
    List (Sigma fun _ : String => ℤ) → Option (Counter String) → Option (Option (Counter String))
  | [], seconds => some seconds
  | ⟨user, n⟩ :: rest, seconds =>
    if 0 < n then
      match seconds with
      | some seconds => addSeconds elapsed rest (some (seconds.add user (n * elapsed)))
      | none => none
    else addSeconds elapsed rest seconds

/-- The writes of one pass of the loop of `advance`, up to `stop`. -/
def Series.accrue (v : Series) (stop : ℤ) (seconds : Option (Counter String)) : Series :=
  let b := v.bucket v.last
  { v.put v.last { b with
      minute := { b.minute with
        observedSeconds := b.minute.observedSeconds + (stop - v.last)
        peak := max b.minute.peak v.counts.total }
      seconds := seconds
      revision := b.revision + 1 } with
    last := stop }

/-- One pass of the loop of `advance`. -/
def advanceOnce (v : Series) (now : ℤ) : Option Series :=
  let stop := min (truncate v.last + minute) now
  (addSeconds (stop - v.last) v.counts.entries (v.bucket v.last).seconds).map (v.accrue stop)

def advanceLoop (now : ℤ) : ℕ → Series → Option Series
  | 0, v => some v
  | passes + 1, v => if v.last < now then (advanceOnce v now).bind (advanceLoop now passes) else some v

def Series.skip (v : Series) (now : ℤ) : Series :=
  if v.last < cutoff now then { v with last := cutoff now } else v

/-- `advance`; the number of passes is that of the minutes up to `now`. -/
def advance (v : Series) (now : ℤ) : Option Series :=
  advanceLoop now (((now - truncate (v.skip now).last) / minute).toNat + 1) (v.skip now)

/-- The parts of `domain.GatewayCredential` that `changeHistory` reads. -/
structure Caller where
  key : SeriesKey
  userID : String
  username : String
  deriving DecidableEq, Repr

def Series.count (v : Series) (caller : Caller) (delta now : ℤ) : Series :=
  { v with
    lastUsed := now
    names := Function.update v.names caller.userID caller.username
    counts := (v.counts.add caller.userID delta).prune caller.userID }

/-- The last lines of `changeHistory`. -/
def Series.mark (v : Series) (now : ℤ) : Series :=
  let b := v.bucket now
  v.put now { b with
    minute := { b.minute with peak := max b.minute.peak v.counts.total }
    revision := b.revision + 1 }

def History.write (h : History) (v : Series) : History := { h with series := h.series.insert v.key v }

def changeHistory (h : History) (caller : Caller) (delta now : ℤ) : Option History :=
  let found := findSeries h caller.key now
  let now := max now found.2.last
  (advance found.2 now).map fun v => found.1.write ((v.count caller delta now).mark now)

end Integration

section Reading

/-- `copyMinute`: the bucket that is left and the snapshot. -/
def copyMinute (v : Series) (b : Bucket) : Bucket × ConcurrencyMinute :=
  let out : ConcurrencyMinute :=
    { b.minute with
      members := (b.seconds.getD ∅).entries.map fun e => ⟨e.1, v.names e.1, e.2⟩ }
  match b.snapshot with
  | some snapshot => if b.snapshotRevision = b.revision then (b, snapshot) else (renewed v b out, out)
  | none => (renewed v b out, out)
where
  renewed (v : Series) (b : Bucket) (out : ConcurrencyMinute) : Bucket :=
    { b with
      snapshot := some out
      snapshotRevision := b.revision
      seconds := if b.minute.bucketStart + HistoryModel.minute ≤ v.last then none else b.seconds }

structure PendingMinute where
  value : ConcurrencyMinute
  revision : ℕ
  deriving DecidableEq, Repr

def Bucket.unsaved (b : Bucket) : Bool := b.revision ≠ b.saved

def pendingOf (v : Series) (b : Bucket) : Option PendingMinute :=
  if b.unsaved then some ⟨(copyMinute v b).2, b.revision⟩ else none

/-- The body of the loop of `pendingMinutes` over the series. -/
def Series.pendingMinutes (v : Series) (now : ℤ) : Option (Series × List PendingMinute) :=
  (advance { v with buckets := v.buckets.keep fun start _ => cutoff now ≤ start } now).map fun v =>
    ({ v with buckets := v.buckets.mapValues fun b => if b.unsaved then (copyMinute v b).1 else b },
      v.buckets.entries.filterMap fun e => pendingOf v e.2)

def pendingLoop (now : ℤ) : List (Sigma fun _ : SeriesKey => Series) → History →
    Option (History × List PendingMinute)
  | [], h => some (h, [])
  | ⟨_, v⟩ :: rest, h =>
    (v.pendingMinutes now).bind fun (v, out) =>
      (pendingLoop now rest (h.write v)).map fun (h, later) => (h, out ++ later)

def pendingMinutes (h : History) (now : ℤ) : Option (History × List PendingMinute) :=
  pendingLoop now h.series.entries h

def liveHistory (h : History) (key : SeriesKey) (now : ℤ) :
    Option (History × List ConcurrencyMinute × Counter String) :=
  let found := findSeries h key now
  (advance { found.2 with lastUsed := now } now).map fun v =>
    (found.1.write { v with buckets := v.buckets.mapValues fun b => (copyMinute v b).1 },
      v.buckets.entries.map fun e => (copyMinute v e.2).2, v.counts)

end Reading

section Acknowledgement

/-- The bucket that an acknowledgement names, if it is of the same incarnation. -/
def acknowledged (h : History) (p : PendingMinute) : Option (Series × Bucket) :=
  (h.series.lookup p.value.key).bind fun v =>
    (v.buckets.lookup p.value.bucketStart).bind fun b =>
      if b.minute.instanceID = p.value.instanceID then some (v, b) else none

def acknowledge (h : History) (p : PendingMinute) : History :=
  match acknowledged h p with
  | some (v, b) =>
    h.write { v with buckets := v.buckets.insert p.value.bucketStart { b with saved := max b.saved p.revision } }
  | none => h

/-- Whether a touched series is deleted. -/
def Series.disposable (v : Series) : Bool :=
  v.counts.entries.isEmpty && decide (retention < v.last - v.lastUsed) &&
    v.buckets.entries.all fun e => e.2.saved = e.2.revision

def acknowledgeMinutes (h : History) (pending : List PendingMinute) : History :=
  let touched := (pending.filter fun p => (acknowledged h p).isSome).map fun p => p.value.key
  let marked := pending.foldl acknowledge h
  { marked with series := marked.series.keep fun key v => !(decide (key ∈ touched) && v.disposable) }

end Acknowledgement

section Persistence

/-- The primary key of `account_concurrency_minutes`. -/
structure MinuteKey where
  instanceID : String
  series : SeriesKey
  bucketStart : ℤ
  deriving DecidableEq, Repr

def ConcurrencyMinute.row (m : ConcurrencyMinute) : MinuteKey := ⟨m.instanceID, m.key, m.bucketStart⟩

/-- The tables that the statements of the history read and write. -/
structure Database where
  accounts : List String
  plans : List String
  minutes : MinuteKey → Option ConcurrencyMinute

def Database.has (db : Database) (key : SeriesKey) : Bool := key.account ∈ db.accounts ∧ key.plan ∈ db.plans

/-- `INSERT … SELECT … FROM openai_accounts a, shared_plans p … ON CONFLICT … DO UPDATE`. The columns that a
conflict does not update are those of the key. -/
def Database.upsert (db : Database) (m : ConcurrencyMinute) : Database :=
  if db.has m.key then { db with minutes := Function.update db.minutes m.row (some m) } else db

/-- `SaveConcurrencyMinutes`, when its transaction commits. -/
def saveConcurrencyMinutes (db : Database) (values : List ConcurrencyMinute) : Database := values.foldl Database.upsert db

/-- The last statement of `DeletePlan`, with the rows that go with the plan. -/
def Database.deletePlan (db : Database) (planID : String) : Database :=
  { db with
    plans := db.plans.filter (· ≠ planID)
    minutes := fun row => if row.series.plan = planID then none else db.minutes row }

end Persistence

end ShareSub.HistoryModel

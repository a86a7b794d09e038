import Mathlib
import ShareSub.FiniteMap
import ShareSub.QuotaModel
import ShareSub.Table

/-!
# Daily roll-ups of gateway metrics

The embedding of the metric part of `CleanupResources`, of the insert of `RecordGatewayMetric`, and of the queries of
`MemberQuotaExhausted`, `memberUsageRanking` and `memberBindingUsageRanking`. Instants are microseconds, as the
database keeps them, and a UTC day is the quotient by the length of a day. A batch is one statement, so it is one
step; a run of `CleanupResources` is a sequence of batches with one instant, and an interruption only ends the
sequence.
-/
namespace ShareSub.RollupModel

open QuotaModel (WindowType Snapshot Baseline QuotaDB sameQuotaWindow)

section Rows

def dayMicros : ℤ := 24 * 60 * 60 * 1000000

/-- `(t AT TIME ZONE 'UTC')::date`. -/
def usageDay (t : ℤ) : ℤ := t / dayMicros

/-- The columns that a roll-up adds up. -/
inductive Column
  | requestCount | successCount | inputTokens | outputTokens | cachedTokens | cacheCreationTokens
  | imageInputTokens | imageOutputTokens | imageCount | webSearchCalls | estimatedCostMicros
  deriving DecidableEq, Repr

abbrev Totals := Column → ℤ

/-- A row of `gateway_request_metrics`. -/
structure GatewayMetric where
  id : ℕ
  requestID : String
  apiKeyID : String
  planID : String
  accountID : String
  memberID : String
  generation : ℕ
  statusCode : ℤ
  createdAt : ℤ
  inputTokens : ℤ
  outputTokens : ℤ
  cachedTokens : ℤ
  cacheCreationTokens : ℤ
  imageInputTokens : ℤ
  imageOutputTokens : ℤ
  imageCount : ℤ
  webSearchCalls : ℤ
  estimatedCostMicros : ℤ
  deriving DecidableEq, Repr

/-- What one metric adds to each column. -/
def GatewayMetric.totals (g : GatewayMetric) : Totals
  | .requestCount => 1
  | .successCount => if 200 ≤ g.statusCode ∧ g.statusCode ≤ 299 then 1 else 0
  | .inputTokens => g.inputTokens
  | .outputTokens => g.outputTokens
  | .cachedTokens => g.cachedTokens
  | .cacheCreationTokens => g.cacheCreationTokens
  | .imageInputTokens => g.imageInputTokens
  | .imageOutputTokens => g.imageOutputTokens
  | .imageCount => g.imageCount
  | .webSearchCalls => g.webSearchCalls
  | .estimatedCostMicros => g.estimatedCostMicros

/-- The unique index of `gateway_request_metrics`. -/
def GatewayMetric.requestKey (g : GatewayMetric) : String × String × String × String × ℕ :=
  (g.requestID, g.apiKeyID, g.planID, g.accountID, g.generation)

structure PlanMember where
  planID : String
  userID : String
  usdLimitMicros : Option ℤ
  deriving DecidableEq, Repr

/-- The primary key of `gateway_metric_daily_rollups`. -/
structure RollupKey where
  usageDay : ℤ
  userID : String
  planID : String
  accountID : String
  memberID : String
  generation : ℕ
  deriving DecidableEq, Repr

abbrev Members := FiniteMap String PlanMember

/-- The roll-up row of a metric; a metric without a member has none, as the join drops it. -/
def rollupKey (members : Members) (g : GatewayMetric) : Option RollupKey :=
  (members.lookup g.memberID).map fun m =>
    { usageDay := usageDay g.createdAt
      userID := m.userID
      planID := g.planID
      accountID := g.accountID
      memberID := g.memberID
      generation := g.generation }

end Rows

section Store

structure Store where
  clock : ℤ
  nextID : ℕ
  members : Members
  raw : List GatewayMetric
  rollups : FiniteMap RollupKey Totals
  /-- Every metric that was ever inserted; no statement reads it. -/
  recorded : List GatewayMetric

def minimumGatewayMetricRetention : ℤ := 7 * dayMicros

/-- The retention that `config.Load` lets through. -/
structure RetentionPolicy where
  gatewayMetrics : ℤ
  minimum_le : minimumGatewayMetricRetention ≤ gatewayMetrics

def cleanupBatchSize : ℕ := 10000

def gatewayMetricCutoff (now : ℤ) (policy : RetentionPolicy) : ℤ :=
  (now - policy.gatewayMetrics) / dayMicros * dayMicros

/-- The insert of `RecordGatewayMetric`; the sequence gives the row its id. -/
def Store.recordGatewayMetric (s : Store) (metric : GatewayMetric) : Store :=
  if metric.requestKey ∈ s.raw.map GatewayMetric.requestKey then s
  else
    let row := { metric with id := s.nextID }
    { s with
      nextID := s.nextID + 1
      raw := s.raw ++ [row]
      recorded := s.recorded ++ [row] }

/-- A member row is inserted, or written to; it keeps its plan and its user. -/
def Store.writeMember (s : Store) (id : String) (member : PlanMember) : Store :=
  match s.members.lookup id with
  | none => { s with members := s.members.insert id member }
  | some old => { s with members := s.members.insert id { old with usdLimitMicros := member.usdLimitMicros } }

/-- `candidates`: the rows that other transactions hold are skipped before the limit counts. -/
def Store.candidates (s : Store) (cutoff : ℤ) (locked : ℕ → Bool) : List GatewayMetric :=
  ((s.raw.filter fun g => g.createdAt < cutoff && (rollupKey s.members g).isSome && !locked g.id).insertionSort
    fun g g' => g.id ≤ g'.id).take cleanupBatchSize

/-- The rows of a group, added up. -/
def groupTotals (members : Members) (rows : List GatewayMetric) (key : RollupKey) : Totals :=
  fun column => sumWhere (fun g => rollupKey members g = some key) (fun g => g.totals column) rows

/-- `ON CONFLICT DO UPDATE`: a present row is added to. -/
def upsert (rollups : FiniteMap RollupKey Totals) (key : RollupKey) (totals : Totals) : FiniteMap RollupKey Totals :=
  rollups.insert key fun column => ((rollups.lookup key).elim 0 fun old => old column) + totals column

/-- `GROUP BY`, one upsert for each group. -/
def rollup (members : Members) (rows : List GatewayMetric) (rollups : FiniteMap RollupKey Totals) :
    FiniteMap RollupKey Totals :=
  ((rows.filterMap (rollupKey members)).dedup).foldl
    (fun table key => upsert table key (groupTotals members rows key)) rollups

/-- One batch of the metric loop of `CleanupResources`. -/
def Store.cleanupBatch (s : Store) (now : ℤ) (policy : RetentionPolicy) (locked : ℕ → Bool) : Store :=
  let candidates := s.candidates (gatewayMetricCutoff now policy) locked
  { s with
    raw := s.raw.filter fun g => g.id ∉ candidates.map GatewayMetric.id
    rollups := rollup s.members candidates s.rollups }

inductive Event
  | elapse (time : ℕ)
  | record (metric : GatewayMetric)
  | writeMember (id : String) (member : PlanMember)
  | cleanupBatch (now : ℤ) (policy : RetentionPolicy) (locked : ℕ → Bool)

/-- A cleanup works with the instant at which it began, which lies in the past of each of its batches. -/
def step (s : Store) : Event → Store
  | .elapse time => { s with clock := s.clock + time }
  | .record metric => s.recordGatewayMetric metric
  | .writeMember id member => s.writeMember id member
  | .cleanupBatch now policy locked => if now ≤ s.clock then s.cleanupBatch now policy locked else s

def initial (clock : ℤ) : Store := ⟨clock, 0, ∅, [], ∅, []⟩

def run (s : Store) (events : List Event) : Store := events.foldl step s

end Store

section Queries

/-- A row of the union that the rankings aggregate. -/
structure UsageRow where
  memberID : String
  totals : Totals

structure MemberUsageRank where
  memberID : String
  username : String
  totals : Totals

/-- `ORDER BY` of the rankings. -/
def rankBefore (a b : MemberUsageRank) : Bool :=
  let tokens (rank : MemberUsageRank) := rank.totals .inputTokens + rank.totals .outputTokens
  if tokens a ≠ tokens b then tokens b < tokens a
  else if a.totals .requestCount ≠ b.totals .requestCount then b.totals .requestCount < a.totals .requestCount
  else a.username ≤ b.username

/-- The joins, the grouping and the order of both ranking queries. -/
def ranking (members : Members) (usernames : String → Option String) (usage : List UsageRow) : List MemberUsageRank :=
  (members.entries.filterMap fun e =>
    if usage.any fun row => row.memberID = e.1 then
      (usernames e.2.userID).map fun username =>
        { memberID := e.1
          username := username
          totals := fun column => sumWhere (fun row => row.memberID = e.1) (fun row => row.totals column) usage }
    else none).insertionSort fun a b => rankBefore a b

def GatewayMetric.usageRow (g : GatewayMetric) : UsageRow := ⟨g.memberID, g.totals⟩

/-- The roll-up half of the union: whole days, both ends included. -/
def rollupUsage (rollups : FiniteMap RollupKey Totals) (select : RollupKey → Bool) (windowStart windowEnd : ℤ) :
    List UsageRow :=
  (rollups.entries.filter fun e =>
    select e.1 && usageDay windowStart ≤ e.1.usageDay && e.1.usageDay ≤ usageDay windowEnd).map fun e =>
      ⟨e.1.memberID, e.2⟩

/-- The raw half of the union: the window is half open. -/
def rawUsage (metrics : List GatewayMetric) (select : GatewayMetric → Bool) (windowStart windowEnd : ℤ) :
    List UsageRow :=
  (metrics.filter fun g => select g && windowStart ≤ g.createdAt && g.createdAt < windowEnd).map
    GatewayMetric.usageRow

def memberUsageRanking (s : Store) (usernames : String → Option String) (planID : String) (windowStart windowEnd : ℤ) :
    List MemberUsageRank :=
  ranking s.members usernames
    (rawUsage s.raw (fun g => g.planID = planID) windowStart windowEnd ++
      rollupUsage s.rollups (fun key => key.planID = planID) windowStart windowEnd)

def memberBindingUsageRanking (s : Store) (usernames : String → Option String) (planID accountID : String)
    (generation : ℕ) (windowStart windowEnd : ℤ) : List MemberUsageRank :=
  ranking s.members usernames
    (rawUsage s.raw (fun g => g.planID = planID && g.accountID = accountID && g.generation = generation)
        windowStart windowEnd ++
      rollupUsage s.rollups
        (fun key => key.planID = planID && key.accountID = accountID && key.generation = generation)
        windowStart windowEnd)

/-- A row of either metric query of `MemberQuotaExhausted`. -/
def inQuotaWindow (planID accountID : String) (generation : ℕ) (q : Snapshot) (b : Baseline) (now : ℤ)
    (g : GatewayMetric) : Bool :=
  g.planID = planID && g.accountID = accountID && g.generation = generation &&
    max q.windowStart b.accountingStartedAt ≤ g.createdAt && g.createdAt < min now q.resetAt

def totalCostMicros (metrics : List GatewayMetric) (planID accountID : String) (generation : ℕ) (q : Snapshot)
    (b : Baseline) (now : ℤ) : ℤ :=
  sumWhere (fun g => inQuotaWindow planID accountID generation q b now g) GatewayMetric.estimatedCostMicros metrics

def memberCostMicros (metrics : List GatewayMetric) (memberID planID accountID : String) (generation : ℕ)
    (q : Snapshot) (b : Baseline) (now : ℤ) : ℤ :=
  sumWhere (fun g => g.memberID = memberID ∧ inQuotaWindow planID accountID generation q b now g)
    GatewayMetric.estimatedCostMicros metrics

/-- The snapshot of a live window and the baseline of the binding in it. -/
def liveWindow (db : QuotaDB) (planID accountID : String) (generation : ℕ) (now : ℤ) (window : WindowType) :
    Option (Snapshot × Baseline) :=
  match db.snapshots (accountID, window), db.baselines (planID, generation, window) with
  | some q, some b =>
    if now < q.resetAt ∧ b.accountID = accountID ∧ sameQuotaWindow b.resetAt q.resetAt then some (q, b) else none
  | _, _ => none

def shareExhausted (metrics : List GatewayMetric) (memberID planID accountID : String) (generation : ℕ) (now limit : ℤ)
    (w : Snapshot × Baseline) : Bool :=
  let total := totalCostMicros metrics planID accountID generation w.1 w.2 now
  0 < total &&
    limit ≤ memberCostMicros metrics memberID planID accountID generation w.1 w.2 now *
      max (w.1.usedMicros - w.2.baselineUsedMicros) 0 / total

def memberQuotaExhausted (metrics : List GatewayMetric) (db : QuotaDB) (members : Members)
    (memberID planID accountID : String) (generation : ℕ) (shareBPS now : ℤ) : Bool :=
  if shareBPS = 0 then true
  else
    match members.lookup memberID with
    | none => false
    | some m =>
      m.planID = planID &&
        ([WindowType.window5H, .window7D].any (fun window =>
            (liveWindow db planID accountID generation now window).any
              (shareExhausted metrics memberID planID accountID generation now (shareBPS * 10000))) ||
          (liveWindow db planID accountID generation now .window7D).any fun w =>
            m.usdLimitMicros.any fun limit =>
              limit ≤ memberCostMicros metrics memberID planID accountID generation w.1 w.2 now)

end Queries

end ShareSub.RollupModel

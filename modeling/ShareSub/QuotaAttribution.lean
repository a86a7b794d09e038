import ShareSub.QuotaModel
import ShareSub.Apportion

/-!
# Attributing an account's usage to the members of a plan

The queries of `ResolveGatewayRoutes`, `MemberQuotaExhausted`, `AccountQuotaExhausted` and
`planInsights` over one database state, with the decision of `gatewayCredentialQuotaExhausted`.
Sums are unbounded and the numeric quotient under `floor` is taken exactly.
-/
namespace ShareSub.QuotaAttribution
open PlanModel QuotaModel

/-- A row of `gateway_request_metrics`, with the columns that attribution reads. -/
structure Metric where
  planID : String
  accountID : String
  memberID : String
  generation : ℕ
  createdAt : ℤ
  estimatedCostMicros : ℤ
  deriving DecidableEq, Repr

structure PlanRow where
  id : String
  accountID : Option String
  generation : ℕ
  status : PlanStatus
  allocationMode : AllocationMode
  createdAt : ℤ
  deriving DecidableEq, Repr

structure MemberRow where
  id : String
  planID : String
  userID : String
  status : MemberStatus
  shareBasisPoints : ℤ
  usdLimitMicros : Option ℤ
  deriving DecidableEq, Repr

/-- A row of `api_key_plans`. -/
structure Route where
  apiKeyID : String
  planID : String
  priority : ℤ
  enabled : Bool
  deriving DecidableEq, Repr

/-- The tables that the queries read, within the constraints of their columns. -/
structure UsageDB where
  plans : List PlanRow
  members : List MemberRow
  routes : List Route
  activeUsers : List String
  activeAccounts : List String
  snapshots : String × WindowType → Option Snapshot
  baselines : String × ℕ × WindowType → Option Baseline
  metrics : List Metric
  members_nodup : (members.map MemberRow.id).Nodup
  snapshots_range : ∀ key q, snapshots key = some q → usageInRange q.usedMicros
  baselines_range : ∀ key b, baselines key = some b → usageInRange b.baselineUsedMicros
  costs_nonneg : ∀ g ∈ metrics, 0 ≤ g.estimatedCostMicros

section Windows

/-- A window of the join of snapshots and baselines. -/
structure CoveredWindow where
  windowType : WindowType
  snapshot : Snapshot
  baseline : Baseline

/-- `q.reset_at > now` joined to the baseline of the binding within two minutes. -/
def coveredWindow (db : UsageDB) (planID accountID : String) (generation : ℕ) (now : ℤ) (w : WindowType) :
    Option CoveredWindow :=
  match db.snapshots (accountID, w), db.baselines (planID, generation, w) with
  | some q, some b =>
    if now < q.resetAt ∧ b.accountID = accountID ∧ q.resetAt - quotaWindowResetTolerance ≤ b.resetAt ∧
        b.resetAt ≤ q.resetAt + quotaWindowResetTolerance then some ⟨w, q, b⟩
    else none
  | _, _ => none

def coveredWindows (db : UsageDB) (planID accountID : String) (generation : ℕ) (now : ℤ) :
    List CoveredWindow :=
  [WindowType.window5H, WindowType.window7D].filterMap (coveredWindow db planID accountID generation now)

/-- The metrics of a binding that a window accounts for. -/
def windowMetrics (db : UsageDB) (planID accountID : String) (generation : ℕ) (now : ℤ)
    (x : CoveredWindow) : List Metric :=
  db.metrics.filter fun g =>
    g.planID = planID ∧ g.accountID = accountID ∧ g.generation = generation ∧
      max x.snapshot.windowStart x.baseline.accountingStartedAt ≤ g.createdAt ∧
      g.createdAt < min now x.snapshot.resetAt

def totalCost (metrics : List Metric) : ℤ := (metrics.map Metric.estimatedCostMicros).sum

def memberCost (memberID : String) (metrics : List Metric) : ℤ :=
  ((metrics.filter fun g => g.memberID = memberID).map Metric.estimatedCostMicros).sum

/-- `GREATEST(q.used_micros-b.baseline_used_micros,0)`. -/
def CoveredWindow.attributable (x : CoveredWindow) : ℤ :=
  max (x.snapshot.usedMicros - x.baseline.baselineUsedMicros) 0

end Windows

section Queries

structure GatewayCredential where
  plan : PlanRow
  member : MemberRow
  accountID : String
  routePriority : ℤ
  usageMicros : ℤ
  accountUsageMicros : ℤ

/-- The attributed usage with its `CASE` for a window without cost. -/
def windowUsage (db : UsageDB) (planID accountID : String) (generation : ℕ) (now : ℤ) (memberID : String)
    (x : CoveredWindow) : ℤ :=
  let metrics := windowMetrics db planID accountID generation now x
  if totalCost metrics = 0 then 0
  else Apportion.part x.attributable (totalCost metrics) (memberCost memberID metrics)

/-- The candidates of `ResolveGatewayRoutes` for an active key of a user, before their ordering. -/
def routeCandidates (db : UsageDB) (apiKeyID userID : String) (now : ℤ) : List GatewayCredential :=
  (db.routes.filter fun r => r.apiKeyID = apiKeyID ∧ r.enabled).flatMap fun r =>
    (db.plans.filter fun p => p.id = r.planID ∧ p.status = .active).flatMap fun p =>
      (db.members.filter fun m => m.planID = p.id ∧ m.userID = userID ∧ m.status = .active ∧
        m.userID ∈ db.activeUsers).flatMap fun m =>
        (db.activeAccounts.filter fun a => p.accountID = some a).map fun a =>
          { plan := p
            member := m
            accountID := a
            routePriority := r.priority
            usageMicros := Apportion.largest ((coveredWindows db p.id a p.generation now).map
              (windowUsage db p.id a p.generation now m.id))
            accountUsageMicros := Apportion.largest
              (([WindowType.window5H, WindowType.window7D].filterMap fun w =>
                (db.snapshots (a, w)).filter fun q => now < q.resetAt).map Snapshot.usedMicros) }

/-- `ORDER BY r.priority,p.created_at`. -/
def resolveGatewayRoutes (db : UsageDB) (apiKeyID userID : String) (now : ℤ) : List GatewayCredential :=
  (routeCandidates db apiKeyID userID now).mergeSort fun x y =>
    x.routePriority < y.routePriority ∨
      (x.routePriority = y.routePriority ∧ x.plan.createdAt ≤ y.plan.createdAt)

structure QuotaWindow where
  windowType : WindowType
  usedMicros : ℤ
  accountUsedMicros : ℤ
  resetAt : ℤ

structure MemberQuota where
  memberID : String
  windows : List QuotaWindow

/-- The `MemberQuotas` of `planInsights` for the active members of a plan. -/
def planInsights (db : UsageDB) (planID accountID : String) (generation : ℕ) (now : ℤ) : List MemberQuota :=
  let members := db.members.filter fun m => m.planID = planID ∧ m.status = .active
  let rows := members.flatMap fun m =>
    (coveredWindows db planID accountID generation now).map fun x =>
      (m.id, (⟨x.windowType, windowUsage db planID accountID generation now m.id x,
        x.snapshot.usedMicros, x.snapshot.resetAt⟩ : QuotaWindow))
  members.map fun m => ⟨m.id, (rows.filter fun row => row.1 = m.id).map Prod.snd⟩

/-- The first `EXISTS` of `MemberQuotaExhausted`. -/
def percentageExhausted (db : UsageDB) (memberID planID accountID : String) (generation : ℕ) (limit now : ℤ) :
    Prop :=
  ∃ m ∈ db.members, m.id = memberID ∧ m.planID = planID ∧
    ∃ x ∈ coveredWindows db planID accountID generation now,
      0 < totalCost (windowMetrics db planID accountID generation now x) ∧
      limit ≤ Apportion.part x.attributable (totalCost (windowMetrics db planID accountID generation now x))
        (memberCost m.id (windowMetrics db planID accountID generation now x))

/-- The second `EXISTS`: the member's own cost in the weekly window against his limit. -/
def usdExhausted (db : UsageDB) (memberID planID accountID : String) (generation : ℕ) (now : ℤ) : Prop :=
  ∃ m ∈ db.members, m.id = memberID ∧ m.planID = planID ∧
    ∃ x ∈ coveredWindows db planID accountID generation now, x.windowType = .window7D ∧
      ∃ limit ∈ m.usdLimitMicros,
        limit ≤ memberCost m.id (windowMetrics db planID accountID generation now x)

def memberQuotaExhausted (db : UsageDB) (memberID planID accountID : String) (generation : ℕ) (shareBPS now : ℤ) :
    Prop :=
  shareBPS = 0 ∨ percentageExhausted db memberID planID accountID generation (shareBPS * 10000) now ∨
    usdExhausted db memberID planID accountID generation now

def accountQuotaExhausted (db : UsageDB) (accountID : String) (now : ℤ) : Prop :=
  ∃ w ∈ [WindowType.window5H, WindowType.window7D], ∃ q ∈ db.snapshots (accountID, w),
    now < q.resetAt ∧ maxShareBPS * 10000 ≤ q.usedMicros

/-- The decision before a request is admitted. -/
def gatewayCredentialQuotaExhausted (db : UsageDB) (c : GatewayCredential) (now : ℤ) : Prop :=
  accountQuotaExhausted db c.accountID now ∨
    if c.plan.allocationMode = .shared then
      c.member.usdLimitMicros ≠ none ∧
        memberQuotaExhausted db c.member.id c.plan.id c.accountID c.plan.generation maxShareBPS now
    else
      c.member.shareBasisPoints = 0 ∨
        memberQuotaExhausted db c.member.id c.plan.id c.accountID c.plan.generation
          c.member.shareBasisPoints now

instance (db : UsageDB) (memberID planID accountID : String) (generation : ℕ) (limit now : ℤ) :
    Decidable (percentageExhausted db memberID planID accountID generation limit now) := by
  unfold percentageExhausted
  infer_instance

instance (db : UsageDB) (memberID planID accountID : String) (generation : ℕ) (now : ℤ) :
    Decidable (usdExhausted db memberID planID accountID generation now) := by
  unfold usdExhausted
  infer_instance

instance (db : UsageDB) (memberID planID accountID : String) (generation : ℕ) (shareBPS now : ℤ) :
    Decidable (memberQuotaExhausted db memberID planID accountID generation shareBPS now) := by
  unfold memberQuotaExhausted
  infer_instance

instance (db : UsageDB) (accountID : String) (now : ℤ) : Decidable (accountQuotaExhausted db accountID now) := by
  unfold accountQuotaExhausted
  infer_instance

instance (db : UsageDB) (c : GatewayCredential) (now : ℤ) :
    Decidable (gatewayCredentialQuotaExhausted db c now) := by
  unfold gatewayCredentialQuotaExhausted
  infer_instance

end Queries

section Costs

variable {db : UsageDB} {planID accountID : String} {generation : ℕ} {now : ℤ} {x : CoveredWindow}

lemma windowMetrics_cost_nonneg {g : Metric} (hg : g ∈ windowMetrics db planID accountID generation now x) :
    0 ≤ g.estimatedCostMicros :=
  db.costs_nonneg g (List.mem_filter.mp hg).1

lemma totalCost_nonneg : 0 ≤ totalCost (windowMetrics db planID accountID generation now x) := by
  apply List.sum_nonneg
  intro cost hcost
  obtain ⟨g, hg, rfl⟩ := List.mem_map.mp hcost
  exact windowMetrics_cost_nonneg hg

lemma memberCosts_le_total (s : Finset String) :
    ∑ m ∈ s, memberCost m (windowMetrics db planID accountID generation now x) ≤
      totalCost (windowMetrics db planID accountID generation now x) :=
  Apportion.sum_groups_le s Metric.memberID Metric.estimatedCostMicros _ fun _ hg =>
    windowMetrics_cost_nonneg hg

lemma memberCost_le_total (memberID : String) :
    memberCost memberID (windowMetrics db planID accountID generation now x) ≤
      totalCost (windowMetrics db planID accountID generation now x) := by
  simpa using memberCosts_le_total {memberID}

/-- The attributions of distinct members stay within what the window attributes. -/
lemma sum_windowUsage_le (s : Finset String) :
    ∑ m ∈ s, windowUsage db planID accountID generation now m x ≤ x.attributable := by
  have hwhole : 0 ≤ x.attributable := le_max_right _ _
  by_cases hzero : totalCost (windowMetrics db planID accountID generation now x) = 0
  · simpa [windowUsage, hzero] using hwhole
  · have hpos : 0 < totalCost (windowMetrics db planID accountID generation now x) :=
      lt_of_le_of_ne totalCost_nonneg (Ne.symm hzero)
    simp only [windowUsage, hzero, if_false]
    exact Apportion.sum_part_le s _ hwhole hpos (memberCosts_le_total s)

end Costs

section Agreement

variable {db : UsageDB} {planID accountID : String} {generation : ℕ} {now : ℤ}

lemma mem_resolveGatewayRoutes {apiKeyID userID : String} {c : GatewayCredential}
    (h : c ∈ resolveGatewayRoutes db apiKeyID userID now) :
    c.member ∈ db.members ∧ c.member.planID = c.plan.id ∧ c.member.status = .active ∧
      c.usageMicros = Apportion.largest ((coveredWindows db c.plan.id c.accountID c.plan.generation now).map
        (windowUsage db c.plan.id c.accountID c.plan.generation now c.member.id)) := by
  rw [resolveGatewayRoutes, List.mem_mergeSort, routeCandidates] at h
  obtain ⟨r, -, h⟩ := List.mem_flatMap.mp h
  obtain ⟨p, -, h⟩ := List.mem_flatMap.mp h
  obtain ⟨m, hm, h⟩ := List.mem_flatMap.mp h
  obtain ⟨a, -, rfl⟩ := List.mem_map.mp h
  obtain ⟨hmem, hsel⟩ := List.mem_filter.mp hm
  obtain ⟨hplan, -, hactive, -⟩ := of_decide_eq_true hsel
  exact ⟨hmem, hplan, hactive, rfl⟩

/-- Existence of an exhausted window and comparison with the largest usage are the same test. -/
lemma percentageExhausted_iff {m : MemberRow} (hm : m ∈ db.members) (hplan : m.planID = planID) {limit : ℤ}
    (hlimit : 0 < limit) :
    percentageExhausted db m.id planID accountID generation limit now ↔
      limit ≤ Apportion.largest ((coveredWindows db planID accountID generation now).map
        (windowUsage db planID accountID generation now m.id)) := by
  rw [Apportion.le_largest_iff hlimit]
  constructor
  · rintro ⟨m', hm', hid, -, x, hx, hpos, hle⟩
    obtain rfl : m' = m := eq_of_key_eq db.members_nodup hm' hm hid
    refine ⟨_, List.mem_map_of_mem hx, ?_⟩
    rwa [windowUsage, if_neg hpos.ne']
  · rintro ⟨v, hv, hle⟩
    obtain ⟨x, hx, rfl⟩ := List.mem_map.mp hv
    have hne : totalCost (windowMetrics db planID accountID generation now x) ≠ 0 := by
      intro hzero
      rw [windowUsage, if_pos hzero] at hle
      omega
    rw [windowUsage, if_neg hne] at hle
    exact ⟨m, hm, rfl, hplan, x, hx, lt_of_le_of_ne totalCost_nonneg hne.symm, hle⟩

/-- Rows grouped back by the key they were made under. -/
lemma filter_flatMap_of_key {ρ β κ : Type} [DecidableEq κ] {key : ρ → κ} {rows : List ρ}
    (hn : (rows.map key).Nodup) {f : ρ → List β} {r : ρ} (hr : r ∈ rows) :
    ((rows.flatMap fun x => (f x).map fun y => (key x, y)).filter fun e => e.1 = key r).map Prod.snd = f r := by
  induction rows with
  | nil => simp at hr
  | cons x rows ih =>
    obtain ⟨hx, hn'⟩ := List.nodup_cons.mp hn
    rw [List.flatMap_cons, List.filter_append, List.map_append]
    have hnone : ∀ y, y ∉ rows.map key →
        (rows.flatMap fun x => (f x).map fun z => (key x, z)).filter (fun e => e.1 = y) = [] := by
      intro y hy
      rw [List.filter_eq_nil_iff]
      intro e he hey
      obtain ⟨z, hz, hez⟩ := List.mem_flatMap.mp he
      obtain ⟨v, -, rfl⟩ := List.mem_map.mp hez
      have hzy : key z = y := of_decide_eq_true hey
      exact hy (hzy ▸ List.mem_map_of_mem hz)
    by_cases hkey : key x = key r
    · have hxr : x = r := by
        rcases List.mem_cons.mp hr with rfl | hr'
        · rfl
        · exact absurd (hkey ▸ List.mem_map_of_mem hr') hx
      subst hxr
      rw [hnone _ hx]
      simp [List.filter_map, Function.comp_def]
    · have hr' : r ∈ rows := by
        rcases List.mem_cons.mp hr with rfl | hr'
        · exact absurd rfl hkey
        · exact hr'
      rw [ih hn' hr']
      simp [List.filter_map, Function.comp_def, hkey]

lemma exists_planInsights (accountID : String) (generation : ℕ) (now : ℤ) {m : MemberRow} (hm : m ∈ db.members) (hplan : m.planID = planID)
    (hactive : m.status = .active) :
    ∃ quota ∈ planInsights db planID accountID generation now, quota.memberID = m.id ∧
      quota.windows.map QuotaWindow.usedMicros =
        (coveredWindows db planID accountID generation now).map
          (windowUsage db planID accountID generation now m.id) := by
  have hmem : m ∈ db.members.filter fun m => m.planID = planID ∧ m.status = .active := by
    simp [hm, hplan, hactive]
  have hnodup : ((db.members.filter fun m => m.planID = planID ∧ m.status = .active).map MemberRow.id).Nodup :=
    db.members_nodup.sublist (List.filter_sublist.map _)
  refine ⟨_, List.mem_map_of_mem hmem, rfl, ?_⟩
  have hrows := filter_flatMap_of_key hnodup (f := fun m =>
    (coveredWindows db planID accountID generation now).map fun x =>
      (⟨x.windowType, windowUsage db planID accountID generation now m.id x,
        x.snapshot.usedMicros, x.snapshot.resetAt⟩ : QuotaWindow)) hmem
  simp only [List.map_map, Function.comp_def] at hrows
  rw [hrows, List.map_map]
  rfl

lemma coveredWindow_spec {w : WindowType} {x : CoveredWindow}
    (h : coveredWindow db planID accountID generation now w = some x) :
    x.windowType = w ∧ db.snapshots (accountID, w) = some x.snapshot ∧
      db.baselines (planID, generation, w) = some x.baseline ∧ now < x.snapshot.resetAt := by
  unfold coveredWindow at h
  split at h
  · next q b hq hb =>
    split_ifs at h with hlive
    obtain rfl := Option.some.inj h
    exact ⟨rfl, hq, hb, hlive.1⟩
  · cases h

/-- A member who is attributed a whole account needs an exhausted account. -/
lemma accountExhausted_of_percentage {memberID : String}
    (h : percentageExhausted db memberID planID accountID generation (maxShareBPS * 10000) now) :
    accountQuotaExhausted db accountID now := by
  obtain ⟨m, -, -, -, x, hx, hpos, hle⟩ := h
  obtain ⟨w, hw, hxw⟩ := List.mem_filterMap.mp hx
  obtain ⟨-, hq, hb, hlive⟩ := coveredWindow_spec hxw
  have hwhole : 0 ≤ x.attributable := le_max_right _ _
  have hpart := Apportion.part_le_whole hwhole hpos (memberCost_le_total m.id)
  have hbase := (db.baselines_range _ _ hb).1
  have hused : maxShareBPS * 10000 ≤ x.snapshot.usedMicros := by
    have hreached := hle.trans hpart
    have hmax : 0 < maxShareBPS * 10000 := by decide
    simp only [CoveredWindow.attributable] at hreached
    omega
  exact ⟨w, hw, x.snapshot, hq, hlive, hused⟩

lemma accountQuotaExhausted_iff :
    accountQuotaExhausted db accountID now ↔
      ∃ w q, db.snapshots (accountID, w) = some q ∧ now < q.resetAt ∧ q.usedMicros = 100000000 := by
  constructor
  · rintro ⟨w, -, q, hq, hlive, hused⟩
    have hrange := (db.snapshots_range _ _ hq).2
    have hlimit : maxShareBPS * 10000 = 100000000 := by decide
    exact ⟨w, q, hq, hlive, by omega⟩
  · rintro ⟨w, q, hq, hlive, hused⟩
    refine ⟨w, ?_, q, hq, hlive, ?_⟩
    · cases w <;> simp
    · rw [hused]
      decide

lemma usdExhausted_iff {m : MemberRow} (hm : m ∈ db.members) (hplan : m.planID = planID) {limit : ℤ}
    (hlimit : m.usdLimitMicros = some limit) :
    usdExhausted db m.id planID accountID generation now ↔
      ∃ x ∈ coveredWindows db planID accountID generation now, x.windowType = .window7D ∧
        limit ≤ memberCost m.id (windowMetrics db planID accountID generation now x) := by
  constructor
  · rintro ⟨m', hm', hid, -, x, hx, hw, l, hl, hle⟩
    obtain rfl : m' = m := eq_of_key_eq db.members_nodup hm' hm hid
    obtain rfl : l = limit := Option.some.inj ((show m'.usdLimitMicros = some l from hl).symm.trans hlimit)
    exact ⟨x, hx, hw, hle⟩
  · rintro ⟨x, hx, hw, hle⟩
    exact ⟨m, hm, rfl, hplan, x, hx, hw, limit, hlimit, hle⟩

/-- In a shared plan the share test can only repeat the account test. -/
lemma sharedExhausted_iff {c : GatewayCredential} (hm : c.member ∈ db.members)
    (hplan : c.member.planID = c.plan.id) (hshared : c.plan.allocationMode = .shared) {limit : ℤ}
    (hlimit : c.member.usdLimitMicros = some limit) :
    gatewayCredentialQuotaExhausted db c now ↔
      (∃ w q, db.snapshots (c.accountID, w) = some q ∧ now < q.resetAt ∧ q.usedMicros = 100000000) ∨
      ∃ x ∈ coveredWindows db c.plan.id c.accountID c.plan.generation now, x.windowType = .window7D ∧
        limit ≤ memberCost c.member.id
          (windowMetrics db c.plan.id c.accountID c.plan.generation now x) := by
  rw [← accountQuotaExhausted_iff, ← usdExhausted_iff hm hplan hlimit, gatewayCredentialQuotaExhausted,
    if_pos hshared, memberQuotaExhausted]
  constructor
  · rintro (haccount | ⟨-, hzero | hpercent | husd⟩)
    · exact Or.inl haccount
    · exact absurd hzero (by decide)
    · exact Or.inl (accountExhausted_of_percentage hpercent)
    · exact Or.inr husd
  · rintro (haccount | husd)
    · exact Or.inl haccount
    · exact Or.inr ⟨by simp [hlimit], Or.inr (Or.inr husd)⟩

end Agreement

/-- The route query, the admission test and the plan page attribute the same usage; no window
attributes more than it used; and a shared member is stopped by the account or by his own limit. -/
theorem quota_attributions_agree (db : UsageDB) (apiKeyID userID : String) (now : ℤ) :
    (∀ c ∈ resolveGatewayRoutes db apiKeyID userID now,
      c.plan.allocationMode = .fixed → 0 < c.member.shareBasisPoints →
      (percentageExhausted db c.member.id c.plan.id c.accountID c.plan.generation
          (c.member.shareBasisPoints * 10000) now ↔
        c.member.shareBasisPoints * 10000 ≤ c.usageMicros) ∧
      ∃ quota ∈ planInsights db c.plan.id c.accountID c.plan.generation now,
        quota.memberID = c.member.id ∧
        c.usageMicros = Apportion.largest (quota.windows.map QuotaWindow.usedMicros)) ∧
    (∀ (planID accountID : String) (generation : ℕ),
      ∀ x ∈ coveredWindows db planID accountID generation now, ∀ s : Finset String,
        ∑ m ∈ s, windowUsage db planID accountID generation now m x ≤
          max (x.snapshot.usedMicros - x.baseline.baselineUsedMicros) 0) ∧
    (∀ c ∈ resolveGatewayRoutes db apiKeyID userID now, c.plan.allocationMode = .shared →
      ∀ limit, c.member.usdLimitMicros = some limit →
      (gatewayCredentialQuotaExhausted db c now ↔
        (∃ w q, db.snapshots (c.accountID, w) = some q ∧ now < q.resetAt ∧ q.usedMicros = 100000000) ∨
        ∃ x ∈ coveredWindows db c.plan.id c.accountID c.plan.generation now, x.windowType = .window7D ∧
          limit ≤ memberCost c.member.id
            (windowMetrics db c.plan.id c.accountID c.plan.generation now x))) := by
  refine ⟨?_, ?_, ?_⟩
  · intro c hc _ hshare
    obtain ⟨hm, hplan, hactive, husage⟩ := mem_resolveGatewayRoutes hc
    obtain ⟨quota, hquota, hid, hwindows⟩ := exists_planInsights c.accountID c.plan.generation now
      hm hplan hactive
    rw [husage]
    exact ⟨percentageExhausted_iff hm hplan (by omega), quota, hquota, hid, by rw [hwindows]⟩
  · intro planID accountID generation x _ s
    exact sum_windowUsage_le s
  · intro c hc hshared limit hlimit
    obtain ⟨hm, hplan, -, -⟩ := mem_resolveGatewayRoutes hc
    exact sharedExhausted_iff hm hplan hshared hlimit

/-- One member with half of an account that is used to sixty per cent. -/
def overHalf : UsageDB where
  plans := [⟨"plan", some "account", 1, .active, .fixed, 0⟩]
  members := [⟨"m1", "plan", "user", .active, 5000, none⟩]
  routes := [⟨"key", "plan", 0, true⟩]
  activeUsers := ["user"]
  activeAccounts := ["account"]
  snapshots := fun key =>
    if key = ("account", .window7D) then some ⟨0, 604800000000, 60000000, 5, true, some 5⟩ else none
  baselines := fun key =>
    if key = ("plan", 1, .window7D) then some ⟨"account", 0, 604800000000, 0, 0, 0⟩ else none
  metrics := [⟨"plan", "account", "m1", 1, 5, 100⟩]
  members_nodup := by decide
  snapshots_range := by
    intro key q h
    split_ifs at h
    obtain rfl := Option.some.inj h
    decide
  baselines_range := by
    intro key b h
    split_ifs at h
    obtain rfl := Option.some.inj h
    decide
  costs_nonneg := by decide

theorem quota_attributions_agree_overHalf :
    ∃ c ∈ resolveGatewayRoutes overHalf "key" "user" 10, c.usageMicros = 60000000 ∧
      percentageExhausted overHalf c.member.id c.plan.id c.accountID c.plan.generation
        (c.member.shareBasisPoints * 10000) 10 := by
  obtain ⟨c, hc, hmode, hshare, husage⟩ : ∃ c ∈ routeCandidates overHalf "key" "user" 10,
      c.plan.allocationMode = .fixed ∧ c.member.shareBasisPoints = 5000 ∧ c.usageMicros = 60000000 :=
    ⟨_, List.mem_singleton_self _, rfl, rfl, rfl⟩
  have hroute : c ∈ resolveGatewayRoutes overHalf "key" "user" 10 := List.mem_mergeSort.mpr hc
  refine ⟨c, hroute, husage, ?_⟩
  rw [((quota_attributions_agree overHalf "key" "user" 10).1 c hroute hmode (by omega)).1]
  omega

end ShareSub.QuotaAttribution

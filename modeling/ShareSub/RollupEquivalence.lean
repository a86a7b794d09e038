import Mathlib
import ShareSub.RollupModel

/-!
# Roll-ups change no answer

The metrics that were ever recorded are the raw rows and the rows that were rolled up, and a roll-up row is the sum of
its group of the latter. A rolled up metric is of an earlier day than the week before the clock, so no window of a
week reaches it; a window that begins with the binding reaches all of them, and whole days then lose nothing.
-/
namespace ShareSub.RollupEquivalence

open RollupModel
open QuotaModel (WindowType Snapshot Baseline QuotaDB)

variable {members : Members} {rollups : FiniteMap RollupKey Totals} {rows rolled : List GatewayMetric}

section Groups

lemma lookup_upsert (rollups : FiniteMap RollupKey Totals) (key key' : RollupKey) (totals : Totals) :
    (upsert rollups key totals).lookup key' =
      if key' = key then some fun column => ((rollups.lookup key).elim 0 fun old => old column) + totals column
      else rollups.lookup key' := FiniteMap.lookup_insert ..

/-- Every group is written to once. -/
lemma lookup_foldl_upsert (totals : RollupKey → Totals) {keys : List RollupKey} (hn : keys.Nodup)
    (rollups : FiniteMap RollupKey Totals) (key : RollupKey) :
    (keys.foldl (fun table key => upsert table key (totals key)) rollups).lookup key =
      if key ∈ keys then some fun column => ((rollups.lookup key).elim 0 fun old => old column) + totals key column
      else rollups.lookup key := by
  induction keys generalizing rollups with
  | nil => simp
  | cons k keys ih =>
    obtain ⟨hk, hn⟩ := List.nodup_cons.mp hn
    rw [List.foldl_cons, ih hn]
    by_cases h : key = k
    · subst h
      simp [hk, lookup_upsert]
    · simp [h, lookup_upsert]

lemma groupTotals_append (members : Members) (xs ys : List GatewayMetric) (key : RollupKey) (column : Column) :
    groupTotals members (xs ++ ys) key column = groupTotals members xs key column + groupTotals members ys key column :=
  sumWhere_append ..

lemma groupTotals_eq_zero {key : RollupKey} (h : key ∉ rows.filterMap (rollupKey members)) (column : Column) :
    groupTotals members rows key column = 0 := by
  apply sumWhere_eq_zero
  intro g hg hkey
  exact h (List.mem_filterMap.mpr ⟨g, hg, hkey⟩)

/-- What the roll-up table adds to a key. -/
def rolledTotals (rollups : FiniteMap RollupKey Totals) (key : RollupKey) : Totals :=
  fun column => (rollups.lookup key).elim 0 fun totals => totals column

lemma rolledTotals_rollup (members : Members) (rows : List GatewayMetric) (rollups : FiniteMap RollupKey Totals)
    (key : RollupKey) (column : Column) :
    rolledTotals (rollup members rows rollups) key column =
      rolledTotals rollups key column + groupTotals members rows key column := by
  rw [rolledTotals, rollup, lookup_foldl_upsert _ (List.nodup_dedup _)]
  split_ifs with h
  · rfl
  · rw [groupTotals_eq_zero (fun hmem => h (List.mem_dedup.mpr hmem)), add_zero]
    rfl

/-- The table holds the sums of the groups of the rolled up rows, and a row for no other group. -/
structure RollsUp (members : Members) (rolled : List GatewayMetric) (rollups : FiniteMap RollupKey Totals) : Prop where
  keyed : ∀ g ∈ rolled, (rollupKey members g).isSome
  present : ∀ key, (rollups.lookup key).isSome ↔ key ∈ rolled.filterMap (rollupKey members)
  sums : ∀ key column, rolledTotals rollups key column = groupTotals members rolled key column

lemma RollsUp.rollup (h : RollsUp members rolled rollups) (hkeyed : ∀ g ∈ rows, (rollupKey members g).isSome) :
    RollsUp members (rolled ++ rows) (rollup members rows rollups) where
  keyed := by
    intro g hg
    cases List.mem_append.mp hg with
    | inl hg => exact h.keyed g hg
    | inr hg => exact hkeyed g hg
  present := by
    intro key
    rw [RollupModel.rollup, lookup_foldl_upsert _ (List.nodup_dedup _), List.filterMap_append, List.mem_append,
      ← h.present]
    split_ifs with hmem
    · simp [List.mem_dedup.mp hmem]
    · simp only [List.mem_dedup] at hmem
      simp [hmem]
  sums := by
    intro key column
    rw [rolledTotals_rollup, groupTotals_append, h.sums]

/-- A write to a member row keeps its user, and with it every key. -/
lemma RollsUp.grow {members' : Members} (h : RollsUp members rolled rollups)
    (hkeep : ∀ g ∈ rolled, rollupKey members' g = rollupKey members g) : RollsUp members' rolled rollups where
  keyed := by
    intro g hg
    rw [hkeep g hg]
    exact h.keyed g hg
  present := by
    intro key
    rw [h.present, List.mem_filterMap, List.mem_filterMap]
    constructor
    · rintro ⟨g, hg, hkey⟩
      exact ⟨g, hg, hkeep g hg ▸ hkey⟩
    · rintro ⟨g, hg, hkey⟩
      exact ⟨g, hg, hkeep g hg ▸ hkey⟩
  sums := by
    intro key column
    rw [h.sums]
    apply sumWhere_congr
    intro g hg
    simp only [hkeep g hg]

end Groups

section Batch

variable {s : Store}

lemma mem_candidates {cutoff : ℤ} {locked : ℕ → Bool} {g : GatewayMetric} (h : g ∈ s.candidates cutoff locked) :
    g ∈ s.raw ∧ g.createdAt < cutoff ∧ (rollupKey s.members g).isSome := by
  have hsort := List.mem_of_mem_take h
  rw [List.mem_insertionSort, List.mem_filter] at hsort
  simp only [Bool.and_eq_true, decide_eq_true_eq] at hsort
  exact ⟨hsort.1, hsort.2.1.1, hsort.2.1.2⟩

lemma nodup_candidates (hn : (s.raw.map GatewayMetric.id).Nodup) (cutoff : ℤ) (locked : ℕ → Bool) :
    (s.candidates cutoff locked).Nodup := by
  apply List.Nodup.sublist (List.take_sublist ..)
  rw [(List.perm_insertionSort ..).nodup_iff]
  exact hn.of_map.filter _

/-- A batch deletes the rows that it read, and no other. -/
lemma raw_perm (hn : (s.raw.map GatewayMetric.id).Nodup) (now : ℤ) (policy : RetentionPolicy) (locked : ℕ → Bool) :
    s.raw.Perm ((s.cleanupBatch now policy locked).raw ++ s.candidates (gatewayMetricCutoff now policy) locked) := by
  set candidates := s.candidates (gatewayMetricCutoff now policy) locked
  have hread : (s.raw.filter fun g => g.id ∈ candidates.map GatewayMetric.id).Perm candidates := by
    rw [List.perm_ext_iff_of_nodup (hn.of_map.filter _) (nodup_candidates hn ..)]
    intro g
    rw [List.mem_filter, decide_eq_true_eq, List.mem_map]
    constructor
    · rintro ⟨hg, g', hg', hid⟩
      rwa [← eq_of_key_eq hn (mem_candidates hg').1 hg hid]
    · intro hg
      exact ⟨(mem_candidates hg).1, g, hg, rfl⟩
  have hsplit := List.filter_append_perm (fun g => g.id ∈ candidates.map GatewayMetric.id) s.raw
  have hrest : (s.cleanupBatch now policy locked).raw =
      s.raw.filter fun g => !decide (g.id ∈ candidates.map GatewayMetric.id) := by
    simp only [Store.cleanupBatch, candidates, decide_not]
  rw [hrest]
  exact hsplit.symm.trans ((List.perm_append_comm).trans (hread.append_left _))

/-- What both tables hold for a key. -/
def keyTotals (s : Store) (key : RollupKey) : Totals :=
  fun column => groupTotals s.members s.raw key column + rolledTotals s.rollups key column

lemma keyTotals_cleanupBatch (hn : (s.raw.map GatewayMetric.id).Nodup) (now : ℤ) (policy : RetentionPolicy)
    (locked : ℕ → Bool) (key : RollupKey) : keyTotals (s.cleanupBatch now policy locked) key = keyTotals s key := by
  set candidates := s.candidates (gatewayMetricCutoff now policy) locked with hcandidates
  funext column
  have hraw : groupTotals s.members s.raw key column =
      groupTotals s.members (s.cleanupBatch now policy locked).raw key column +
        groupTotals s.members candidates key column :=
    (sumWhere_perm (raw_perm hn now policy locked)).trans (sumWhere_append ..)
  have hrolled := rolledTotals_rollup s.members candidates s.rollups key column
  change groupTotals s.members (s.cleanupBatch now policy locked).raw key column +
    rolledTotals (rollup s.members candidates s.rollups) key column =
      groupTotals s.members s.raw key column + rolledTotals s.rollups key column
  omega

end Batch

section Invariant

variable {s : Store}

/-- What is recorded is split between the raw rows and the rolled up ones, and the latter are of days before the week
that ends with the clock. -/
structure Accounted (s : Store) : Prop where
  ids : (s.raw.map GatewayMetric.id).Nodup
  fresh : ∀ g ∈ s.raw, g.id < s.nextID
  split : ∃ rolled, s.recorded.Perm (s.raw ++ rolled) ∧
    (∀ g ∈ rolled, usageDay g.createdAt < usageDay (s.clock - minimumGatewayMetricRetention)) ∧
      RollsUp s.members rolled s.rollups

lemma initial_accounted (clock : ℤ) : Accounted (initial clock) where
  ids := List.nodup_nil
  fresh := by simp [initial]
  split := by
    refine ⟨[], List.Perm.refl _, by simp, by simp, ?_, fun _ _ => rfl⟩
    intro key
    simp [initial]

lemma usageDay_mono {t t' : ℤ} (h : t ≤ t') : usageDay t ≤ usageDay t' :=
  Int.ediv_le_ediv (by decide) h

/-- The cutoff is the beginning of a day, a week or more ago. -/
lemma usageDay_of_lt_cutoff {t now clock : ℤ} {policy : RetentionPolicy} (hnow : now ≤ clock)
    (h : t < gatewayMetricCutoff now policy) : usageDay t < usageDay (clock - minimumGatewayMetricRetention) := by
  have hp := policy.minimum_le
  have hday : usageDay t < usageDay (now - policy.gatewayMetrics) :=
    Int.ediv_lt_of_lt_mul (by decide) h
  have hmono : usageDay (now - policy.gatewayMetrics) ≤ usageDay (clock - minimumGatewayMetricRetention) :=
    usageDay_mono (by omega)
  exact hday.trans_le hmono

lemma Accounted.elapse (h : Accounted s) (time : ℕ) : Accounted { s with clock := s.clock + time } where
  ids := h.ids
  fresh := h.fresh
  split := by
    obtain ⟨rolled, hperm, hold, hrolls⟩ := h.split
    refine ⟨rolled, hperm, ?_, hrolls⟩
    intro g hg
    have hmono : usageDay (s.clock - minimumGatewayMetricRetention) ≤
        usageDay (s.clock + time - minimumGatewayMetricRetention) := usageDay_mono (by omega)
    exact (hold g hg).trans_le hmono

lemma Accounted.record (h : Accounted s) (metric : GatewayMetric) : Accounted (s.recordGatewayMetric metric) := by
  unfold Store.recordGatewayMetric
  split
  · exact h
  · constructor
    · dsimp only
      rw [List.map_append, List.nodup_append]
      refine ⟨h.ids, by simp, ?_⟩
      intro id hid id' hid' heq
      obtain ⟨g, hg, rfl⟩ := List.mem_map.mp hid
      have hlt := h.fresh g hg
      simp only [List.map_cons, List.map_nil, List.mem_singleton] at hid'
      omega
    · intro g hg
      dsimp only at hg ⊢
      rcases List.mem_append.mp hg with hg | hg
      · exact (h.fresh g hg).trans (Nat.lt_succ_self _)
      · rw [List.mem_singleton.mp hg]
        exact Nat.lt_succ_self _
    · obtain ⟨rolled, hperm, hold, hrolls⟩ := h.split
      refine ⟨rolled, ?_, hold, hrolls⟩
      have hnew := hperm.append_right [{ metric with id := s.nextID }]
      rw [List.append_assoc] at hnew
      dsimp only
      rw [List.append_assoc]
      exact hnew.trans (List.perm_append_comm.append_left _)

lemma rollupKey_writeMember (s : Store) (id : String) (member : PlanMember) {g : GatewayMetric}
    (h : (rollupKey s.members g).isSome) :
    rollupKey (s.writeMember id member).members g = rollupKey s.members g := by
  unfold rollupKey at h ⊢
  rw [Option.isSome_map] at h
  unfold Store.writeMember
  by_cases hid : g.memberID = id
  · subst hid
    split
    · next hnone => simp [hnone] at h
    · next old hold => simp [hold]
  · split <;> simp [AList.lookup_insert_ne hid]

lemma Accounted.writeMember (h : Accounted s) (id : String) (member : PlanMember) :
    Accounted (s.writeMember id member) := by
  obtain ⟨rolled, hperm, hold, hrolls⟩ := h.split
  have hgrow := hrolls.grow fun g hg => rollupKey_writeMember s id member (hrolls.keyed g hg)
  unfold Store.writeMember at hgrow ⊢
  split at hgrow
  · exact ⟨h.ids, h.fresh, rolled, hperm, hold, hgrow⟩
  · exact ⟨h.ids, h.fresh, rolled, hperm, hold, hgrow⟩

lemma Accounted.cleanupBatch (h : Accounted s) {now : ℤ} (hnow : now ≤ s.clock) (policy : RetentionPolicy)
    (locked : ℕ → Bool) : Accounted (s.cleanupBatch now policy locked) where
  ids := h.ids.sublist (List.filter_sublist.map _)
  fresh := fun g hg => h.fresh g (List.mem_of_mem_filter hg)
  split := by
    obtain ⟨rolled, hperm, hold, hrolls⟩ := h.split
    refine ⟨rolled ++ s.candidates (gatewayMetricCutoff now policy) locked, ?_, ?_,
      hrolls.rollup fun g hg => (mem_candidates hg).2.2⟩
    · have hraw := (raw_perm h.ids now policy locked).append_right rolled
      rw [List.append_assoc] at hraw
      exact hperm.trans (hraw.trans (List.perm_append_comm.append_left _))
    · intro g hg
      cases List.mem_append.mp hg with
      | inl hg => exact hold g hg
      | inr hg => exact usageDay_of_lt_cutoff hnow (mem_candidates hg).2.1

lemma step_accounted (h : Accounted s) (event : Event) : Accounted (step s event) := by
  cases event with
  | elapse time => exact h.elapse time
  | record metric => exact h.record metric
  | writeMember id member => exact h.writeMember id member
  | cleanupBatch now policy locked =>
    simp only [step]
    split_ifs with hnow
    · exact h.cleanupBatch hnow policy locked
    · exact h

lemma run_accounted (clock : ℤ) (events : List Event) : Accounted (run (initial clock) events) := by
  induction events using List.reverseRecOn with
  | nil => exact initial_accounted clock
  | append_singleton events event ih =>
    rw [run, List.foldl_append]
    exact step_accounted ih event

end Invariant

section Rankings

variable {s : Store} {usage usage' : List UsageRow}

/-- The usage rows agree in all that a ranking reads of them. -/
structure SameUsage (usage usage' : List UsageRow) : Prop where
  present : ∀ member, (∃ row ∈ usage, row.memberID = member) ↔ ∃ row ∈ usage', row.memberID = member
  sums : ∀ member column, sumWhere (fun row => row.memberID = member) (fun row => row.totals column) usage =
    sumWhere (fun row => row.memberID = member) (fun row => row.totals column) usage'

lemma SameUsage.of_perm (h : usage.Perm usage') : SameUsage usage usage' where
  present := by
    intro member
    simp only [h.mem_iff]
  sums := fun _ _ => sumWhere_perm h

lemma SameUsage.trans {usage'' : List UsageRow} (h : SameUsage usage usage') (h' : SameUsage usage' usage'') :
    SameUsage usage usage'' where
  present := fun member => (h.present member).trans (h'.present member)
  sums := fun member column => (h.sums member column).trans (h'.sums member column)

lemma SameUsage.append_left (h : SameUsage usage usage') (rows : List UsageRow) :
    SameUsage (rows ++ usage) (rows ++ usage') where
  present := by
    intro member
    simp only [List.mem_append, or_and_right, exists_or, h.present member]
  sums := by
    intro member column
    rw [sumWhere_append, sumWhere_append, h.sums]

lemma ranking_congr (h : SameUsage usage usage') (members : Members) (usernames : String → Option String) :
    ranking members usernames usage = ranking members usernames usage' := by
  have hany : ∀ member : String, (usage.any fun row => row.memberID = member) =
      usage'.any fun row => row.memberID = member := by
    intro member
    rw [Bool.eq_iff_iff]
    simpa only [List.any_eq_true, decide_eq_true_eq] using h.present member
  unfold ranking
  simp only [hany, h.sums]

lemma rawUsage_append (xs ys : List GatewayMetric) (select : GatewayMetric → Bool) (windowStart windowEnd : ℤ) :
    rawUsage (xs ++ ys) select windowStart windowEnd =
      rawUsage xs select windowStart windowEnd ++ rawUsage ys select windowStart windowEnd := by
  simp [rawUsage]

lemma rawUsage_perm {xs ys : List GatewayMetric} (h : xs.Perm ys) (select : GatewayMetric → Bool)
    (windowStart windowEnd : ℤ) :
    (rawUsage xs select windowStart windowEnd).Perm (rawUsage ys select windowStart windowEnd) :=
  (h.filter _).map _

/-- The usage of all that was recorded, with the rolled up metrics one by one in place of their days. -/
lemma sameUsage_recorded {rollupRows : List UsageRow} (hperm : s.recorded.Perm (s.raw ++ rolled))
    {select : GatewayMetric → Bool} {windowStart windowEnd : ℤ}
    (h : SameUsage rollupRows (rawUsage rolled select windowStart windowEnd)) :
    SameUsage (rawUsage s.raw select windowStart windowEnd ++ rollupRows)
      (rawUsage s.recorded select windowStart windowEnd) := by
  have hrecorded := rawUsage_perm hperm select windowStart windowEnd
  rw [rawUsage_append] at hrecorded
  exact (h.append_left _).trans (SameUsage.of_perm hrecorded.symm)

/-- Neither the days nor the metrics themselves reach into a window that begins after them. -/
lemma sameUsage_of_before (hrolls : RollsUp members rolled rollups) (select : GatewayMetric → Bool)
    (selectKey : RollupKey → Bool) {windowStart windowEnd : ℤ}
    (hold : ∀ g ∈ rolled, usageDay g.createdAt < usageDay windowStart) :
    SameUsage (rollupUsage rollups selectKey windowStart windowEnd)
      (rawUsage rolled select windowStart windowEnd) := by
  have hrollups : rollupUsage rollups selectKey windowStart windowEnd = [] := by
    rw [rollupUsage, List.map_eq_nil_iff, List.filter_eq_nil_iff]
    intro e he hsel
    simp only [Bool.and_eq_true, decide_eq_true_eq] at hsel
    have hpresent := (hrolls.present e.1).mp (by rw [FiniteMap.mem_entries_iff.mp he]; rfl)
    obtain ⟨g, hg, hkey⟩ := List.mem_filterMap.mp hpresent
    obtain ⟨m, -, hm⟩ := Option.map_eq_some_iff.mp hkey
    have hday : usageDay g.createdAt = e.1.usageDay := by rw [← hm]
    have hlt := hold g hg
    omega
  have hraw : rawUsage rolled select windowStart windowEnd = [] := by
    rw [rawUsage, List.map_eq_nil_iff, List.filter_eq_nil_iff]
    intro g hg hsel
    simp only [Bool.and_eq_true, decide_eq_true_eq] at hsel
    have hlt := hold g hg
    have hle := usageDay_mono hsel.1.2
    omega
  rw [hrollups, hraw]
  exact SameUsage.of_perm (List.Perm.refl _)

/-- The days of a selection of keys add up to the rolled up metrics of these keys. -/
lemma sum_entries (hrolls : RollsUp members rolled rollups) (selectKey : RollupKey → Bool) (column : Column) :
    sumWhere (fun e : Sigma fun _ => Totals => selectKey e.1) (fun e => e.2 column) rollups.entries =
      sumWhere (fun g => (rollupKey members g).any selectKey) (fun g => g.totals column) rolled := by
  have htotals : ((rollups.entries.filter fun e => selectKey e.1).map fun e => e.2 column) =
      ((rollups.entries.filter fun e => selectKey e.1).map Sigma.fst).map fun key =>
        groupTotals members rolled key column := by
    rw [List.map_map]
    apply List.map_congr_left
    intro e he
    have hlookup := FiniteMap.mem_entries_iff.mp (List.mem_of_mem_filter he)
    rw [Function.comp_apply, ← hrolls.sums, rolledTotals, hlookup]
    rfl
  have hn : ((rollups.entries.filter fun e => selectKey e.1).map Sigma.fst).Nodup :=
    rollups.nodupKeys.sublist List.filter_sublist
  have hleft : sumWhere (fun e : Sigma fun _ => Totals => selectKey e.1) (fun e => e.2 column) rollups.entries =
      (((rollups.entries.filter fun e => selectKey e.1).map Sigma.fst).map fun key =>
        groupTotals members rolled key column).sum := by
    rw [← htotals, sumWhere]
    simp only [Bool.decide_eq_true]
  rw [hleft]
  refine (sumWhere_groups (rollupKey members) (fun g => g.totals column) rolled hn).trans (sumWhere_congr ?_)
  intro g hg
  congr 1
  rw [eq_iff_iff, Option.any_eq_true]
  constructor
  · rintro ⟨key, hmem, hkey⟩
    obtain ⟨e, he, rfl⟩ := List.mem_map.mp hmem
    exact ⟨e.1, hkey, (List.mem_filter.mp he).2⟩
  · rintro ⟨key, hkey, hsel⟩
    obtain ⟨totals, hlookup⟩ := Option.isSome_iff_exists.mp
      ((hrolls.present key).mpr (List.mem_filterMap.mpr ⟨g, hg, hkey⟩))
    have hentry : (⟨key, totals⟩ : Sigma fun _ => Totals) ∈ rollups.entries := FiniteMap.mem_entries_iff.mpr hlookup
    exact ⟨key, List.mem_map.mpr ⟨_, List.mem_filter.mpr ⟨hentry, hsel⟩, rfl⟩, hkey⟩

/-- A window that reaches all of the selected metrics reaches all of their days, and a day is no more than them. -/
lemma sameUsage_of_within (hrolls : RollsUp members rolled rollups) {select : GatewayMetric → Bool}
    {selectKey : RollupKey → Bool} {windowStart windowEnd : ℤ}
    (hselect : ∀ g key, rollupKey members g = some key → selectKey key = select g)
    (hin : ∀ g ∈ rolled, select g → windowStart ≤ g.createdAt ∧ g.createdAt < windowEnd) :
    SameUsage (rollupUsage rollups selectKey windowStart windowEnd)
      (rawUsage rolled select windowStart windowEnd) := by
  -- a group is in the window as a whole, or none of its metrics is selected
  have hgroup : ∀ g ∈ rolled, ∀ key, rollupKey members g = some key →
      ((selectKey key && usageDay windowStart ≤ key.usageDay && key.usageDay ≤ usageDay windowEnd) =
        (select g && windowStart ≤ g.createdAt && g.createdAt < windowEnd)) := by
    intro g hg key hkey
    rw [hselect g key hkey]
    obtain ⟨m, -, rfl⟩ := Option.map_eq_some_iff.mp hkey
    cases hs : select g with
    | false => rfl
    | true =>
      obtain ⟨hstart, hend⟩ := hin g hg hs
      simp [hstart, hend, usageDay_mono hstart, usageDay_mono hend.le]
  have hmember : ∀ g key, rollupKey members g = some key → key.memberID = g.memberID := by
    intro g key hkey
    obtain ⟨m, -, rfl⟩ := Option.map_eq_some_iff.mp hkey
    rfl
  constructor
  · intro member
    simp only [rollupUsage, rawUsage, List.mem_map, List.mem_filter]
    constructor
    · rintro ⟨_, ⟨e, ⟨he, hsel⟩, rfl⟩, hm⟩
      have hpresent := (hrolls.present e.1).mp (by rw [FiniteMap.mem_entries_iff.mp he]; rfl)
      obtain ⟨g, hg, hkey⟩ := List.mem_filterMap.mp hpresent
      rw [hgroup g hg _ hkey] at hsel
      exact ⟨g.usageRow, ⟨g, ⟨hg, hsel⟩, rfl⟩, (hmember g _ hkey).symm.trans hm⟩
    · rintro ⟨_, ⟨g, ⟨hg, hsel⟩, rfl⟩, hm⟩
      obtain ⟨key, hkey⟩ := Option.isSome_iff_exists.mp (hrolls.keyed g hg)
      have hpresent := (hrolls.present key).mpr (List.mem_filterMap.mpr ⟨g, hg, hkey⟩)
      obtain ⟨totals, htotals⟩ := Option.isSome_iff_exists.mp hpresent
      rw [← hgroup g hg key hkey] at hsel
      exact ⟨⟨key.memberID, totals⟩, ⟨⟨key, totals⟩, ⟨FiniteMap.mem_entries_iff.mpr htotals, hsel⟩, rfl⟩,
        (hmember g key hkey).trans hm⟩
  · intro member column
    have hdays := sum_entries hrolls (fun key => key.memberID = member &&
      (selectKey key && usageDay windowStart ≤ key.usageDay && key.usageDay ≤ usageDay windowEnd)) column
    rw [rollupUsage, rawUsage, sumWhere_map_filter, sumWhere_map_filter]
    simp only [Bool.and_eq_true (decide _), decide_eq_true_eq] at hdays
    rw [hdays]
    apply sumWhere_congr
    intro g hg
    obtain ⟨key, hkey⟩ := Option.isSome_iff_exists.mp (hrolls.keyed g hg)
    simp only [hkey, Option.any_some, Bool.and_eq_true (decide _), decide_eq_true_eq, hgroup g hg key hkey,
      hmember g key hkey, GatewayMetric.usageRow]
    congr

end Rankings

section Queries

variable {s : Store} {now : ℤ}

lemma usageDay_lt_of_week {g : GatewayMetric} {windowStart : ℤ} (hnow : s.clock ≤ now)
    (hstart : now - minimumGatewayMetricRetention ≤ windowStart)
    (hold : usageDay g.createdAt < usageDay (s.clock - minimumGatewayMetricRetention)) :
    usageDay g.createdAt < usageDay windowStart :=
  hold.trans_le (usageDay_mono (by omega))

lemma memberUsageRanking_recorded (h : Accounted s) (usernames : String → Option String) (planID : String)
    {windowStart windowEnd : ℤ} (hnow : s.clock ≤ now) (hstart : now - minimumGatewayMetricRetention ≤ windowStart) :
    memberUsageRanking s usernames planID windowStart windowEnd =
      ranking s.members usernames (rawUsage s.recorded (fun g => g.planID = planID) windowStart windowEnd) := by
  obtain ⟨rolled, hperm, hold, hrolls⟩ := h.split
  apply ranking_congr
  apply sameUsage_recorded hperm
  exact sameUsage_of_before hrolls _ _ fun g hg => usageDay_lt_of_week hnow hstart (hold g hg)

lemma memberBindingUsageRanking_recorded (h : Accounted s) (usernames : String → Option String)
    (planID accountID : String) (generation : ℕ) {accountBoundAt : ℤ} (hnow : s.clock ≤ now)
    (hbound : ∀ g ∈ s.recorded, g.planID = planID → g.accountID = accountID → g.generation = generation →
      accountBoundAt ≤ g.createdAt) :
    memberBindingUsageRanking s usernames planID accountID generation accountBoundAt now =
      ranking s.members usernames (rawUsage s.recorded
        (fun g => g.planID = planID && g.accountID = accountID && g.generation = generation) accountBoundAt now) := by
  obtain ⟨rolled, hperm, hold, hrolls⟩ := h.split
  apply ranking_congr
  apply sameUsage_recorded hperm
  apply sameUsage_of_within hrolls
  · intro g key hkey
    obtain ⟨m, -, rfl⟩ := Option.map_eq_some_iff.mp hkey
    rfl
  · intro g hg hsel
    simp only [Bool.and_eq_true, decide_eq_true_eq] at hsel
    have hrecorded : g ∈ s.recorded := hperm.mem_iff.mpr (List.mem_append_right _ hg)
    refine ⟨hbound g hrecorded hsel.1.1 hsel.1.2 hsel.2, ?_⟩
    have hlt : g.createdAt < now - minimumGatewayMetricRetention := by
      by_contra hle
      have hday := usageDay_lt_of_week hnow (not_lt.mp hle) (hold g hg)
      omega
    have hpos : 0 < minimumGatewayMetricRetention := by decide
    omega

/-- No rolled up metric is in a window that begins within the week. -/
lemma sumWhere_recorded (h : Accounted s) (f : GatewayMetric → ℤ) {p : GatewayMetric → Prop} [DecidablePred p]
    (hnow : s.clock ≤ now) (hp : ∀ g, p g → now - minimumGatewayMetricRetention ≤ g.createdAt) :
    sumWhere p f s.raw = sumWhere p f s.recorded := by
  obtain ⟨rolled, hperm, hold, -⟩ := h.split
  rw [sumWhere_perm hperm, sumWhere_append]
  have hnone : sumWhere p f rolled = 0 := by
    apply sumWhere_eq_zero
    intro g hg hpg
    have hday := usageDay_lt_of_week hnow (hp g hpg) (hold g hg)
    omega
  rw [hnone, add_zero]

lemma createdAt_of_inQuotaWindow {planID accountID : String} {generation : ℕ} {q : Snapshot} {b : Baseline}
    {g : GatewayMetric} (hlive : now < q.resetAt) (hweek : q.resetAt - q.windowStart ≤ 7 * dayMicros)
    (h : inQuotaWindow planID accountID generation q b now g) :
    now - minimumGatewayMetricRetention ≤ g.createdAt := by
  simp only [inQuotaWindow, Bool.and_eq_true, decide_eq_true_eq] at h
  have hstart := (le_max_left q.windowStart b.accountingStartedAt).trans h.1.2
  have hret : minimumGatewayMetricRetention = 7 * dayMicros := rfl
  omega

lemma totalCostMicros_recorded (h : Accounted s) (planID accountID : String) (generation : ℕ) {q : Snapshot}
    (b : Baseline) (hnow : s.clock ≤ now) (hlive : now < q.resetAt)
    (hweek : q.resetAt - q.windowStart ≤ 7 * dayMicros) :
    totalCostMicros s.raw planID accountID generation q b now =
      totalCostMicros s.recorded planID accountID generation q b now :=
  sumWhere_recorded h _ hnow fun _ hg => createdAt_of_inQuotaWindow hlive hweek hg

lemma memberCostMicros_recorded (h : Accounted s) (memberID planID accountID : String) (generation : ℕ)
    {q : Snapshot} (b : Baseline) (hnow : s.clock ≤ now) (hlive : now < q.resetAt)
    (hweek : q.resetAt - q.windowStart ≤ 7 * dayMicros) :
    memberCostMicros s.raw memberID planID accountID generation q b now =
      memberCostMicros s.recorded memberID planID accountID generation q b now :=
  sumWhere_recorded h _ hnow fun _ hg => createdAt_of_inQuotaWindow hlive hweek hg.2

lemma liveWindow_live {db : QuotaDB} {planID accountID : String} {generation : ℕ} {window : WindowType}
    {w : Snapshot × Baseline} (h : liveWindow db planID accountID generation now window = some w) :
    db.snapshots (accountID, window) = some w.1 ∧ now < w.1.resetAt := by
  unfold liveWindow at h
  split at h
  · next q b hq hb =>
    split_ifs at h with hlive
    cases h
    exact ⟨hq, hlive.1⟩
  · cases h

/-- The windows are all that the decision reads of the metrics. -/
lemma memberQuotaExhausted_recorded (h : Accounted s) (db : QuotaDB) (memberID planID accountID : String)
    (generation : ℕ) (shareBPS : ℤ) (hnow : s.clock ≤ now)
    (hweek : ∀ window q, db.snapshots (accountID, window) = some q → now < q.resetAt →
      q.resetAt - q.windowStart ≤ 7 * dayMicros) :
    memberQuotaExhausted s.raw db s.members memberID planID accountID generation shareBPS now =
      memberQuotaExhausted s.recorded db s.members memberID planID accountID generation shareBPS now := by
  have hany : ∀ (window : WindowType) (f f' : Snapshot × Baseline → Bool),
      (∀ w, now < w.1.resetAt → w.1.resetAt - w.1.windowStart ≤ 7 * dayMicros → f w = f' w) →
        (liveWindow db planID accountID generation now window).any f =
          (liveWindow db planID accountID generation now window).any f' := by
    intro window f f' hf
    cases hw : liveWindow db planID accountID generation now window with
    | none => rfl
    | some w =>
      obtain ⟨hq, hlive⟩ := liveWindow_live hw
      exact hf w hlive (hweek window w.1 hq hlive)
  have hshare : ∀ window, (liveWindow db planID accountID generation now window).any
      (shareExhausted s.raw memberID planID accountID generation now (shareBPS * 10000)) =
        (liveWindow db planID accountID generation now window).any
          (shareExhausted s.recorded memberID planID accountID generation now (shareBPS * 10000)) := by
    intro window
    apply hany
    intro w hlive hlength
    simp only [shareExhausted, totalCostMicros_recorded h planID accountID generation w.2 hnow hlive hlength,
      memberCostMicros_recorded h memberID planID accountID generation w.2 hnow hlive hlength]
  unfold memberQuotaExhausted
  simp only [hshare]
  split_ifs with hzero
  · rfl
  · split
    · rfl
    · next m hm =>
      congr 2
      apply hany
      intro w hlive hlength
      rw [memberCostMicros_recorded h memberID planID accountID generation w.2 hnow hlive hlength]

/-- Whatever metrics were recorded and however the cleanups were scheduled, a batch moves totals from the raw rows to
the roll-ups and keeps them, and no later answer tells that it ran. -/
theorem rollups_are_invisible (clock : ℤ) (events : List Event) :
    let s := run (initial clock) events
    (∀ now policy locked key, keyTotals (step s (.cleanupBatch now policy locked)) key = keyTotals s key) ∧
      ∀ now, s.clock ≤ now →
        (∀ memberID planID accountID generation (q : Snapshot) (b : Baseline),
          now < q.resetAt → q.resetAt - q.windowStart ≤ 7 * dayMicros →
            totalCostMicros s.raw planID accountID generation q b now =
                totalCostMicros s.recorded planID accountID generation q b now ∧
              memberCostMicros s.raw memberID planID accountID generation q b now =
                memberCostMicros s.recorded memberID planID accountID generation q b now) ∧
        (∀ (db : QuotaDB) memberID planID accountID generation shareBPS,
          (∀ window q, db.snapshots (accountID, window) = some q → now < q.resetAt →
            q.resetAt - q.windowStart ≤ 7 * dayMicros) →
            memberQuotaExhausted s.raw db s.members memberID planID accountID generation shareBPS now =
              memberQuotaExhausted s.recorded db s.members memberID planID accountID generation shareBPS now) ∧
        (∀ usernames planID windowStart, now - 7 * dayMicros ≤ windowStart →
          memberUsageRanking s usernames planID windowStart now =
            ranking s.members usernames (rawUsage s.recorded (fun g => g.planID = planID) windowStart now)) ∧
        ∀ usernames planID accountID generation accountBoundAt,
          (∀ g ∈ s.recorded, g.planID = planID → g.accountID = accountID → g.generation = generation →
            accountBoundAt ≤ g.createdAt) →
            memberBindingUsageRanking s usernames planID accountID generation accountBoundAt now =
              ranking s.members usernames (rawUsage s.recorded
                (fun g => g.planID = planID && g.accountID = accountID && g.generation = generation)
                accountBoundAt now) := by
  intro s
  have h : Accounted s := run_accounted clock events
  refine ⟨?_, fun now hnow => ⟨?_, ?_, ?_, ?_⟩⟩
  · intro now policy locked key
    simp only [step]
    split_ifs with hle
    · exact keyTotals_cleanupBatch h.ids now policy locked key
    · rfl
  · intro memberID planID accountID generation q b hlive hweek
    exact ⟨totalCostMicros_recorded h planID accountID generation b hnow hlive hweek,
      memberCostMicros_recorded h memberID planID accountID generation b hnow hlive hweek⟩
  · intro db memberID planID accountID generation shareBPS hweek
    exact memberQuotaExhausted_recorded h db memberID planID accountID generation shareBPS hnow hweek
  · intro usernames planID windowStart hstart
    exact memberUsageRanking_recorded h usernames planID hnow hstart
  · intro usernames planID accountID generation accountBoundAt hbound
    exact memberBindingUsageRanking_recorded h usernames planID accountID generation hnow hbound

/-- A metric with some tokens; its id comes from the sequence. -/
def metricAt (requestID : String) (createdAt inputTokens : ℤ) : GatewayMetric :=
  ⟨0, requestID, "key", "plan", "account", "member", 1, 200, createdAt, inputTokens, 0, 0, 0, 0, 0, 0, 0, inputTokens⟩

/-- Two metrics of the first day are rolled up, and a third is recorded on the ninth. -/
def ninthDay : List Event :=
  [.writeMember "member" ⟨"plan", "user", none⟩, .record (metricAt "a" 5 3), .record (metricAt "b" 7 4),
    .elapse (8 * 86400000000), .cleanupBatch (8 * dayMicros) ⟨7 * dayMicros, le_rfl⟩ fun _ => false,
    .record (metricAt "c" (8 * dayMicros - 1) 10)]

theorem rollups_are_invisible_ninthDay :
    let s := run (initial 0) ninthDay
    s.raw.length = 1 ∧ s.rollups.keys.length = 1 ∧ s.recorded.length = 3 ∧
      (memberBindingUsageRanking s some "plan" "account" 1 5 (8 * dayMicros)).map
        (fun rank => rank.totals .inputTokens) = [17] ∧
      memberBindingUsageRanking s some "plan" "account" 1 5 (8 * dayMicros) =
        ranking s.members some (rawUsage s.recorded
          (fun g => g.planID = "plan" && g.accountID = "account" && g.generation = 1) 5 (8 * dayMicros)) :=
  ⟨by decide, by decide, by decide, by decide,
    ((rollups_are_invisible 0 ninthDay).2 (8 * dayMicros) (by decide)).2.2.2 some "plan" "account" 1 5
      (by decide)⟩

end Queries

end ShareSub.RollupEquivalence

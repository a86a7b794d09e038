import Mathlib
import ShareSub.HistorySystem

/-!
# The history reaches the database

`FlushConcurrencyHistory` takes the changed minutes, writes them without holding the collector and
acknowledges what it wrote. Its three parts are separate steps, and any other call may come between
them; the lock of the flush lets only one be under way.
-/
namespace ShareSub.HistoryPersistence

open HistoryModel HistoryIntegral HistorySystem

section Flushes

/-- How `SaveConcurrencyMinutes` ends. The reply to a commit may be lost. -/
inductive Outcome
  | committed
  | failed
  | unanswered
  deriving DecidableEq, Repr

/-- A flush under way, with the collector as its first part left it. -/
structure Flight where
  seen : History
  pending : List PendingMinute
  written : Bool

/-- The collector and the table. The last three fields record what has happened: the revisions that were
written, the collectors that the successful flushes have read, and the series as they were deleted. -/
structure Service where
  history : History
  database : Database
  flight : Option Flight
  written : List PendingMinute
  flushed : List History
  retired : List Series

/-- The series that an acknowledgement deletes. -/
def deleted (h : History) (pending : List PendingMinute) : List Series :=
  let touched := (pending.filter fun p => (acknowledged h p).isSome).map fun p => p.value.key
  ((pending.foldl acknowledge h).series.entries.filter fun e => decide (e.1 ∈ touched) && e.2.disposable).map
    fun e => e.2

inductive Step
  | changeHistory (caller : Caller) (delta now : ℤ)
  | liveHistory (key : SeriesKey) (now : ℤ)
  | pendingMinutes (now : ℤ)
  | save (outcome : Outcome)
  | acknowledge
  | deletePlan (planID : String)

/-- The first part of a flush. One without changed minutes is done. -/
def Service.take (s : Service) (h : History) (out : List PendingMinute) : Service :=
  if out.isEmpty then { s with history := h, flushed := s.flushed ++ [h] }
  else { s with history := h, flight := some ⟨h, out, false⟩ }

/-- A committed write. -/
def Service.commit (s : Service) (pending : List PendingMinute) : Service :=
  { s with
    database := saveConcurrencyMinutes s.database (pending.map PendingMinute.value)
    written := s.written ++ pending.filter fun p => s.database.has p.value.key }

def Service.save (s : Service) (f : Flight) : Outcome → Service
  | .committed => { s.commit f.pending with flight := some { f with written := true } }
  | .failed => { s with flight := none }
  | .unanswered => { s.commit f.pending with flight := none }

/-- The last part of a successful flush. -/
def Service.finish (s : Service) (f : Flight) : Service :=
  { s with
    history := acknowledgeMinutes s.history f.pending
    flight := none
    flushed := s.flushed ++ [f.seen]
    retired := s.retired ++ deleted s.history f.pending }

/-- `none` when a call panics. A step of a flush that is not at that point does nothing. -/
def step (s : Service) : Step → Option Service
  | .changeHistory caller delta now =>
    (changeHistory s.history caller delta now).map fun h => { s with history := h }
  | .liveHistory key now => (liveHistory s.history key now).map fun (h, _) => { s with history := h }
  | .pendingMinutes now =>
    match s.flight with
    | none => (pendingMinutes s.history now).map fun (h, out) => s.take h out
    | some _ => some s
  | .save outcome =>
    match s.flight with
    | some f => if f.written then some s else some (s.save f outcome)
    | none => some s
  | .acknowledge =>
    match s.flight with
    | some f => if f.written then some (s.finish f) else some s
    | none => some s
  | .deletePlan planID => some { s with database := s.database.deletePlan planID }

def run (s : Service) : List Step → Option Service
  | [] => some s
  | a :: steps => (step s a).bind fun s => run s steps

/-- A new process on a database. -/
def initial (instanceID : String) (db : Database) : Service := ⟨⟨instanceID, 0, ∅⟩, db, none, [], [], []⟩

end Flushes

section Marks

variable {h h' f : History} {db db' : Database} {written written' pending : List PendingMinute} {R : String → Recorder}

/-- The row of a minute of a series. -/
def rowOf (v : Series) (start : ℤ) : MinuteKey := ⟨v.instanceID, v.key, start⟩

/-- The snapshot of a bucket is current and stands in the table. -/
def StoredIn (db : Database) (v : Series) (start : ℤ) (b : Bucket) : Prop :=
  ∃ m, Current b m ∧ db.minutes (rowOf v start) = some m

/-- What the mark of a bucket says. -/
structure Marks (db : Database) (written : List PendingMinute) (v : Series) (start : ℤ) (b : Bucket) : Prop where
  revision : 0 < b.revision
  saved : b.saved ≤ b.revision
  written : db.has v.key → b.saved ≠ 0 → ∃ p ∈ written, p.value.row = rowOf v start ∧ p.revision = b.saved
  stored : db.has v.key → b.saved = b.revision → StoredIn db v start b

def Marked (h : History) (db : Database) (written : List PendingMinute) : Prop :=
  ∀ key v start b, h.series.lookup key = some v → v.buckets.lookup start = some b → Marks db written v start b

/-- The series that has an id now is the one that had it. -/
lemma moves_of_id {rel : Series → Series → Prop} (hT : Tracked f R) (hm : Moves rel f h)
    (hsame : ∀ v v', rel v v' → SameSeries v v') {k₀ k : SeriesKey} {v₀ v : Series}
    (hv₀ : f.series.lookup k₀ = some v₀) (hv : h.series.lookup k = some v) (hid : v.instanceID = v₀.instanceID) :
    rel v₀ v := by
  rcases hm.series k v hv with ⟨u, hu, hrel⟩ | ⟨n, u, hlt, -, hname, -, hrel⟩
  · have heq : k = k₀ := hT.apart k u k₀ v₀ hu hv₀ ((hsame u v hrel).1.symm.trans hid)
    subst heq
    rw [hu] at hv₀
    cases hv₀
    exact hrel
  · obtain ⟨n', hn', hname'⟩ := hT.name k₀ v₀ hv₀
    have heq := hname.symm.trans ((hsame u v hrel).1.symm.trans (hid.trans hname'))
    have := seriesName_injective _ heq
    omega

/-- Calls other than an acknowledgement carry the mark of a bucket on, and a new bucket has none. -/
lemma Moves.bucket (hm : Moves Quiet h h') {key : SeriesKey} {v' : Series} {start : ℤ} {b' : Bucket}
    (hv' : h'.series.lookup key = some v') (hb' : v'.buckets.lookup start = some b') :
    (∃ v b, h.series.lookup key = some v ∧ v.buckets.lookup start = some b ∧ SameSeries v v' ∧ Carries b b' ∧
      b'.saved = b.saved) ∨ b'.saved = 0 ∧ 0 < b'.revision := by
  have hnew : ∀ v : Series, Quiet v v' → v.buckets.lookup start = none → b'.saved = 0 ∧ 0 < b'.revision := by
    intro v hquiet hnone
    have hsaved := hquiet.saved start b' hb'
    rw [savedOf, hnone] at hsaved
    rcases hquiet.buckets start b' hb' with ⟨b, hb, -⟩ | ⟨-, -, hrevision⟩
    · rw [hnone] at hb
      cases hb
    · exact ⟨hsaved, hrevision⟩
  rcases hm.series key v' hv' with ⟨v, hv, hquiet⟩ | ⟨n, v, -, -, -, hblank, hquiet⟩
  · cases hb : v.buckets.lookup start with
    | none => exact Or.inr (hnew v hquiet hb)
    | some b =>
      rcases hquiet.buckets start b' hb' with ⟨b₁, hb₁, hcarries⟩ | ⟨hnone, -⟩
      · rw [hb] at hb₁
        cases hb₁
        have hsaved := hquiet.saved start b' hb'
        rw [savedOf, hb] at hsaved
        exact Or.inl ⟨v, b, hv, hb, hquiet.same, hcarries, hsaved⟩
      · rw [hb] at hnone
        cases hnone
  · refine Or.inr (hnew v hquiet ?_)
    rw [hblank]
    exact AList.lookup_empty start

lemma Marked.quiet (hM : Marked h db written) (hm : Moves Quiet h h') : Marked h' db written := by
  intro key v' start b' hv' hb'
  rcases Moves.bucket hm hv' hb' with ⟨v, b, hv, hb, hsame, hcarries, hsaved⟩ | ⟨hzero, hrevision⟩
  · have hmarks := hM key v start b hv hb
    have hle := hmarks.saved
    have hmono := hcarries.revision
    have hpositive := hmarks.revision
    refine ⟨by omega, by omega, ?_, ?_⟩
    · rw [rowOf, hsame.1, hsame.2, hsaved]
      exact hmarks.written
    · intro hhas heq
      obtain ⟨m, hm, hrow⟩ := hmarks.stored (hsame.2 ▸ hhas) (by omega)
      refine ⟨m, hcarries.current (by omega) m hm, ?_⟩
      rw [rowOf, hsame.1, hsame.2]
      exact hrow
  · refine ⟨hrevision, by omega, ?_, ?_⟩
    · intro _ hne
      exact absurd hzero hne
    · intro _ heq
      omega

/-- A change of the tables that leaves the rows of the saved minutes. -/
lemma Marked.database (hM : Marked h db written) (hhas : ∀ key, db'.has key → db.has key)
    (hrows : ∀ key v start b, h.series.lookup key = some v → v.buckets.lookup start = some b → b.saved = b.revision →
      db'.has v.key → db'.minutes (rowOf v start) = db.minutes (rowOf v start))
    (hwritten : ∀ p ∈ written, p ∈ written') : Marked h db' written' := by
  intro key v start b hv hb
  have hmarks := hM key v start b hv hb
  refine ⟨hmarks.revision, hmarks.saved, ?_, ?_⟩
  · intro hkey hne
    obtain ⟨p, hp, hrow, hrevision⟩ := hmarks.written (hhas _ hkey) hne
    exact ⟨p, hwritten p hp, hrow, hrevision⟩
  · intro hkey heq
    obtain ⟨m, hm, hrow⟩ := hmarks.stored (hhas _ hkey) heq
    exact ⟨m, hm, (hrows key v start b hv hb heq hkey).trans hrow⟩

end Marks

section Acknowledgements

variable {h : History} {R : String → Recorder} {pending later : List PendingMinute} {v v' v'' : Series}

/-- A bucket before and after the acknowledgement of some minutes. -/
structure Raises (pending : List PendingMinute) (row : MinuteKey) (b b' : Bucket) : Prop where
  revision : b'.revision = b.revision
  current : ∀ m, Current b m → Current b' m
  mono : b.saved ≤ b'.saved
  source : b'.saved = b.saved ∨ ∃ p ∈ pending, p.value.row = row ∧ b'.saved = p.revision
  reached : ∀ p ∈ pending, p.value.row = row → p.revision ≤ b'.saved

structure Acknowledges (pending : List PendingMinute) (v v' : Series) : Prop where
  same : SameSeries v v'
  buckets : ∀ start b', v'.buckets.lookup start = some b' →
    ∃ b, v.buckets.lookup start = some b ∧ Raises pending (rowOf v start) b b'

lemma Raises.trans {row : MinuteKey} {b₁ b₂ b₃ : Bucket} (h : Raises pending row b₁ b₂) (h' : Raises later row b₂ b₃) :
    Raises (pending ++ later) row b₁ b₃ := by
  refine ⟨h'.revision.trans h.revision, fun m hm => h'.current m (h.current m hm), h.mono.trans h'.mono, ?_, ?_⟩
  · rcases h'.source with heq | ⟨p, hp, hrow, hsaved⟩
    · rcases h.source with heq₁ | ⟨p, hp, hrow, hsaved⟩
      · exact Or.inl (heq.trans heq₁)
      · exact Or.inr ⟨p, List.mem_append_left _ hp, hrow, heq.trans hsaved⟩
    · exact Or.inr ⟨p, List.mem_append_right _ hp, hrow, hsaved⟩
  · intro p hp hrow
    rcases List.mem_append.mp hp with hp | hp
    · exact (h.reached p hp hrow).trans h'.mono
    · exact h'.reached p hp hrow

lemma Acknowledges.trans (h : Acknowledges pending v v') (h' : Acknowledges later v' v'') :
    Acknowledges (pending ++ later) v v'' := by
  refine ⟨⟨h'.same.1.trans h.same.1, h'.same.2.trans h.same.2⟩, ?_⟩
  intro start b'' hb''
  obtain ⟨b', hb', hraises'⟩ := h'.buckets start b'' hb''
  obtain ⟨b, hb, hraises⟩ := h.buckets start b' hb'
  rw [rowOf, h.same.1, h.same.2] at hraises'
  exact ⟨b, hb, hraises.trans hraises'⟩

/-- Nothing happens to a bucket that no acknowledgement names. -/
lemma Raises.refl {row : MinuteKey} (hnone : ∀ p ∈ pending, p.value.row ≠ row) (b : Bucket) : Raises pending row b b :=
  ⟨rfl, fun _ hm => hm, le_rfl, Or.inl rfl, fun p hp hrow => absurd hrow (hnone p hp)⟩

lemma acknowledge_series (hT : Tracked h R) (p : PendingMinute) {key : SeriesKey}
    (hv' : (acknowledge h p).series.lookup key = some v') :
    ∃ v, h.series.lookup key = some v ∧ Acknowledges [p] v v' := by
  unfold acknowledge at hv'
  split at hv'
  · next u b hfound =>
    obtain ⟨hu, hb, hid⟩ := acknowledged_spec hfound
    have hkey := hT.key _ u hu
    have hlookup := lookup_write (v := { u with
      buckets := u.buckets.insert p.value.bucketStart { b with saved := max b.saved p.revision } }) hkey h key
    rw [hlookup] at hv'
    split_ifs at hv' with heq
    · subst heq
      cases hv'
      refine ⟨u, hu, ⟨rfl, rfl⟩, ?_⟩
      intro start b' hb'
      simp only [FiniteMap.lookup_insert] at hb'
      split_ifs at hb' with hstart
      · cases hb'
        subst hstart
        refine ⟨b, hb, rfl, fun m hm => hm, le_max_left _ _, ?_, ?_⟩
        · rcases max_cases b.saved p.revision with ⟨hmax, -⟩ | ⟨hmax, -⟩
          · exact Or.inl hmax
          · have hnamed := ((hT.represents _ u hu).fits _ b hb).named
            have hrow : p.value.row = rowOf u p.value.bucketStart := by
              rw [ConcurrencyMinute.row, rowOf, hkey, ← hid, hnamed.1]
            exact Or.inr ⟨p, List.mem_singleton.mpr rfl, hrow, hmax⟩
        · intro q hq _
          rw [List.mem_singleton.mp hq]
          exact le_max_right _ _
      · refine ⟨b', hb', Raises.refl ?_ b'⟩
        intro q hq hrow
        rw [List.mem_singleton.mp hq] at hrow
        exact hstart (congrArg MinuteKey.bucketStart hrow).symm
    · refine ⟨v', hv', ⟨rfl, rfl⟩, fun start b' hb' => ⟨b', hb', Raises.refl ?_ b'⟩⟩
      intro q hq hrow
      rw [List.mem_singleton.mp hq] at hrow
      have hsame : p.value.key = v'.key := congrArg MinuteKey.series hrow
      exact heq (hsame.trans (hT.key key v' hv')).symm
  · next hnone =>
    refine ⟨v', hv', ⟨rfl, rfl⟩, fun start b' hb' => ⟨b', hb', Raises.refl ?_ b'⟩⟩
    intro q hq hrow
    rw [List.mem_singleton.mp hq] at hrow
    -- A bucket of that row would have been found.
    have hsame : p.value.key = key := (congrArg MinuteKey.series hrow).trans (hT.key key v' hv')
    have hstart : p.value.bucketStart = start := congrArg MinuteKey.bucketStart hrow
    have hid : p.value.instanceID = v'.instanceID := congrArg MinuteKey.instanceID hrow
    have hnamed := ((hT.represents key v' hv').fits start b' hb').named
    rw [acknowledged, hsame, hv', Option.bind_some, hstart, hb', Option.bind_some,
      if_pos (hnamed.1.trans hid.symm)] at hnone
    cases hnone

lemma foldl_acknowledge_series (pending : List PendingMinute) (hT : Tracked h R) {key : SeriesKey}
    (hv' : (pending.foldl acknowledge h).series.lookup key = some v') :
    ∃ v, h.series.lookup key = some v ∧ Acknowledges pending v v' := by
  induction pending generalizing h with
  | nil =>
    refine ⟨v', hv', ⟨rfl, rfl⟩, fun start b' hb' => ⟨b', hb', Raises.refl ?_ b'⟩⟩
    intro p hp
    cases hp
  | cons p pending ih =>
    obtain ⟨hT₁, -⟩ := acknowledge_spec hT p
    obtain ⟨v₁, hv₁, hrest⟩ := ih hT₁ hv'
    obtain ⟨v, hv, hfirst⟩ := acknowledge_series hT p hv₁
    exact ⟨v, hv, hfirst.trans hrest⟩

end Acknowledgements

section Tables

variable {values : List ConcurrencyMinute} {db : Database}

lemma has_save (values : List ConcurrencyMinute) (db : Database) (key : SeriesKey) :
    (saveConcurrencyMinutes db values).has key = db.has key := by
  induction values generalizing db with
  | nil => rfl
  | cons m values ih =>
    have hhead : (db.upsert m).has key = db.has key := by
      unfold Database.upsert
      split_ifs <;> rfl
    exact (ih (db.upsert m)).trans hhead

lemma minutes_upsert_of_ne {m : ConcurrencyMinute} {row : MinuteKey} (h : m.row ≠ row) (db : Database) :
    (db.upsert m).minutes row = db.minutes row := by
  unfold Database.upsert
  split_ifs
  · exact Function.update_of_ne h.symm _ _
  · rfl

lemma minutes_save_of_notMem {row : MinuteKey} (h : ∀ m ∈ values, m.row ≠ row) (db : Database) :
    (saveConcurrencyMinutes db values).minutes row = db.minutes row := by
  induction values generalizing db with
  | nil => rfl
  | cons m values ih =>
    have hrest := ih (fun x hx => h x (List.mem_cons_of_mem m hx)) (db.upsert m)
    exact hrest.trans (minutes_upsert_of_ne (h m List.mem_cons_self) db)

/-- All the values of one row are the same, so the last one written is any of them. -/
lemma minutes_save_of_mem {m : ConcurrencyMinute} (hm : m ∈ values) (hsame : ∀ x ∈ values, x.row = m.row → x = m)
    (db : Database) (hhas : db.has m.key) : (saveConcurrencyMinutes db values).minutes m.row = some m := by
  induction values generalizing db with
  | nil => cases hm
  | cons x values ih =>
    have hhas' : (db.upsert x).has m.key := (has_save [x] db m.key).trans hhas
    by_cases hlater : m ∈ values
    · exact ih hlater (fun y hy => hsame y (List.mem_cons_of_mem x hy)) (db.upsert x) hhas'
    · have hx : x = m := ((List.mem_cons.mp hm).resolve_right hlater).symm
      subst hx
      have hrest : (saveConcurrencyMinutes (db.upsert x) values).minutes x.row = (db.upsert x).minutes x.row := by
        apply minutes_save_of_notMem
        intro y hy hrow
        exact hlater (hsame y (List.mem_cons_of_mem x hy) hrow ▸ hy)
      refine hrest.trans ?_
      rw [Database.upsert, if_pos hhas]
      exact Function.update_self ..

lemma has_deletePlan {planID : String} {key : SeriesKey} (h : (db.deletePlan planID).has key) :
    db.has key ∧ key.plan ≠ planID := by
  simp only [Database.has, Database.deletePlan, List.mem_filter, decide_eq_true_eq, ne_eq] at h ⊢
  exact ⟨⟨h.1, h.2.1⟩, h.2.2⟩

lemma minutes_deletePlan {planID : String} {row : MinuteKey} (h : row.series.plan ≠ planID) :
    (db.deletePlan planID).minutes row = db.minutes row := by
  rw [Database.deletePlan]
  exact if_neg h

end Tables

section Flights

variable {s : Service} {f : Flight} {h h' g : History}

/-- A flush under way: the collector it has read, what it took of that, and what it has written. -/
structure Flying (s : Service) (f : Flight) : Prop where
  tracked : ∃ R, Tracked f.seen R
  quiet : Moves Quiet f.seen s.history
  taken : TakenFrom f.seen f.seen.series.keys f.pending
  bounds : ∀ key v start b, f.seen.series.lookup key = some v → v.buckets.lookup start = some b → b.saved ≤ b.revision
  apart : ∀ v ∈ s.retired, ∀ key u, f.seen.series.lookup key = some u → u.instanceID ≠ v.instanceID
  written : f.written → ∀ p ∈ f.pending, s.database.has p.value.key →
    p ∈ s.written ∧ s.database.minutes p.value.row = some p.value

/-- The series and the bucket that a pending minute was taken from. -/
lemma Flying.source (hF : Flying s f) {p : PendingMinute} (hp : p ∈ f.pending) :
    ∃ key v b, f.seen.series.lookup key = some v ∧ v.buckets.lookup p.value.bucketStart = some b ∧
      p.value.row = rowOf v p.value.bucketStart ∧ Current b p.value ∧ p.revision = b.revision ∧ b.saved < p.revision := by
  obtain ⟨key, v, b, hv, ⟨hb, hnamed, hcurrent⟩, hrevision, hunsaved⟩ := hF.taken.shown p hp
  have hbound := hF.bounds key v _ b hv hb
  refine ⟨key, v, b, hv, hb, ?_, hcurrent, hrevision, by omega⟩
  rw [ConcurrencyMinute.row, rowOf, hnamed.1, hnamed.2.1]

/-- Two pending minutes of one row are the same snapshot. -/
lemma Flying.unique (hF : Flying s f) {p q : PendingMinute} (hp : p ∈ f.pending) (hq : q ∈ f.pending)
    (hrow : p.value.row = q.value.row) : p.value = q.value := by
  obtain ⟨R, hT⟩ := hF.tracked
  obtain ⟨k, v, b, hv, hb, hrow₁, hcurrent, -⟩ := hF.source hp
  obtain ⟨k', v', b', hv', hb', hrow₂, hcurrent', -⟩ := hF.source hq
  have hid : v.instanceID = v'.instanceID := congrArg MinuteKey.instanceID (hrow₁.symm.trans (hrow.trans hrow₂))
  have hstart : p.value.bucketStart = q.value.bucketStart := congrArg MinuteKey.bucketStart hrow
  obtain rfl := hT.apart k v k' v' hv hv' hid
  rw [hv] at hv'
  cases hv'
  rw [hstart, hb'] at hb
  cases hb
  exact current_unique hcurrent hcurrent'

/-- A bucket that a flush has taken has not been acknowledged since, and without a new revision it still has the
snapshot that was taken. -/
lemma Flying.bucket (hF : Flying s f) {p : PendingMinute} (hp : p ∈ f.pending) {key : SeriesKey} {v : Series}
    {start : ℤ} {b : Bucket} (hv : s.history.series.lookup key = some v) (hb : v.buckets.lookup start = some b)
    (hrow : p.value.row = rowOf v start) :
    b.saved < p.revision ∧ p.revision ≤ b.revision ∧ (b.revision = p.revision → Current b p.value) := by
  obtain ⟨R, hT⟩ := hF.tracked
  obtain ⟨k₀, v₀, b₀, hv₀, hb₀, hrow₀, hcurrent, hrevision, hunsaved⟩ := hF.source hp
  have hid : v.instanceID = v₀.instanceID := congrArg MinuteKey.instanceID (hrow.symm.trans hrow₀)
  have hstart : p.value.bucketStart = start := congrArg MinuteKey.bucketStart hrow
  rw [hstart] at hb₀
  have hquiet := moves_of_id hT hF.quiet (fun _ _ h => h.same) hv₀ hv hid
  have hsaved := hquiet.saved start b hb
  rw [savedOf, hb₀, Option.map_some, Option.getD_some] at hsaved
  rcases hquiet.buckets start b hb with ⟨b₁, hb₁, hcarries⟩ | ⟨hnone, -⟩
  · rw [hb₀] at hb₁
    cases hb₁
    have hmono := hcarries.revision
    exact ⟨by omega, by omega, fun heq => hcarries.current (by omega) _ hcurrent⟩
  · rw [hb₀] at hnone
    cases hnone

/-- A collector that a successful flush has read: what it had then is saved, whatever happened since. -/
structure Flushed (h g : History) : Prop where
  tracked : ∃ R, Tracked g R
  settles : Moves Settles g h
  saved : ∀ k₀ v₀ start b₀, g.series.lookup k₀ = some v₀ → v₀.buckets.lookup start = some b₀ →
    ∀ k v b, h.series.lookup k = some v → v.buckets.lookup start = some b → v.instanceID = v₀.instanceID →
      b₀.revision ≤ b.saved

lemma Flushed.move (hF : Flushed h g) (hm : Moves Settles h h')
    (hsaved : ∀ key v v' start b b', h.series.lookup key = some v → h'.series.lookup key = some v' →
      v'.instanceID = v.instanceID → v.buckets.lookup start = some b → v'.buckets.lookup start = some b' →
        b.saved ≤ b'.saved) : Flushed h' g := by
  refine ⟨hF.tracked, hF.settles.trans (fun _ _ _ => Settles.trans) hm, ?_⟩
  obtain ⟨R, hT⟩ := hF.tracked
  intro k₀ v₀ start b₀ hv₀ hb₀ k v' b' hv' hb' hid
  rcases hm.series k v' hv' with ⟨v, hv, hsettles⟩ | ⟨n, v, hlt, -, hname, -, hsettles⟩
  · have hidv : v.instanceID = v₀.instanceID := hsettles.same.1.symm.trans hid
    have hsettles₀ := moves_of_id hT hF.settles (fun _ _ h => h.same) hv₀ hv hidv
    rcases hsettles.buckets start b' hb' with ⟨b, hb, -⟩ | ⟨hnone, halive, -⟩
    · have hold := hF.saved k₀ v₀ start b₀ hv₀ hb₀ k v b hv hb hidv
      exact hold.trans (hsaved k v v' start b b' hv hv' hsettles.same.1 hb hb')
    · have hover := hsettles₀.kept start b₀ hb₀ hnone
      omega
  · obtain ⟨n', hn', hname'⟩ := hT.name k₀ v₀ hv₀
    have heq := hname.symm.trans (hsettles.same.1.symm.trans (hid.trans hname'))
    rw [hF.settles.same] at heq
    have := seriesName_injective _ heq
    have := hF.settles.next
    omega

lemma Flushed.quiet {R : String → Recorder} (hF : Flushed h g) (hT : Tracked h R) (hm : Moves Quiet h h') :
    Flushed h' g := by
  refine hF.move (Moves.settles hm) ?_
  intro key v v' start b b' hv hv' hid hb hb'
  have hquiet := moves_of_id hT hm (fun _ _ h => h.same) hv hv' hid
  have hsaved := hquiet.saved start b' hb'
  rw [savedOf, hb] at hsaved
  exact hsaved.ge

/-- A series that has been deleted, and its rows. -/
structure Retired (h : History) (db : Database) (v : Series) : Prop where
  name : ∃ n ≤ h.nextSeries, v.instanceID = seriesName h.instanceID n
  gone : ∀ key u, h.series.lookup key = some u → u.instanceID ≠ v.instanceID
  idle : v.counts.entries = []
  saved : ∀ start b, v.buckets.lookup start = some b → b.saved = b.revision
  stored : db.has v.key → ∀ start b, v.buckets.lookup start = some b → StoredIn db v start b

/-- A later collector has no series of an earlier name that has gone. -/
lemma Retired.move {db : Database} {v : Series} {rel : Series → Series → Prop} (hR : Retired h db v)
    (hm : Moves rel h h') (hsame : ∀ u u', rel u u' → SameSeries u u') : Retired h' db v := by
  obtain ⟨n, hn, hname⟩ := hR.name
  refine ⟨⟨n, hn.trans hm.next, hm.same ▸ hname⟩, ?_, hR.idle, hR.saved, hR.stored⟩
  intro key u' hu' hid
  rcases hm.series key u' hu' with ⟨u, hu, hrel⟩ | ⟨n', u, hlt, -, hname', -, hrel⟩
  · exact hR.gone key u hu ((hsame u u' hrel).1.symm.trans hid)
  · have heq := hname'.symm.trans ((hsame u u' hrel).1.symm.trans (hid.trans hname))
    have := seriesName_injective _ heq
    omega

/-- A series is there or has been deleted. -/
def Accounted (h : History) (retired : List Series) (id : String) : Prop :=
  (∃ key v, h.series.lookup key = some v ∧ v.instanceID = id) ∨ ∃ v ∈ retired, v.instanceID = id

lemma Accounted.grows {retired : List Series} {id : String} (hg : Grows h h') (hA : Accounted h retired id) :
    Accounted h' retired id := by
  rcases hA with ⟨key, v, hv, hid⟩ | hgone
  · obtain ⟨v', hv', hid'⟩ := hg.old key v hv
    exact Or.inl ⟨key, v', hv', hid'.trans hid⟩
  · exact Or.inr hgone

/-- The invariant of every run. -/
structure Kept (s : Service) : Prop where
  tracked : ∃ R, Tracked s.history R
  marked : Marked s.history s.database s.written
  flight : ∀ f, s.flight = some f → Flying s f
  flushed : ∀ g ∈ s.flushed, Flushed s.history g
  retired : ∀ v ∈ s.retired, Retired s.history s.database v
  ids : (s.retired.map Series.instanceID).Nodup
  opened : ∀ n, 0 < n → n ≤ s.history.nextSeries → Accounted s.history s.retired (seriesName s.history.instanceID n)

lemma kept_initial (instanceID : String) (db : Database) : Kept (initial instanceID db) := by
  refine ⟨⟨fun _ => Recorder.start 0, ?_⟩, ?_, ?_, ?_, ?_, List.nodup_nil, fun n hpos hle => by simp [initial] at hle; omega⟩
  · exact (sound_initial instanceID).tracked
  · intro key v start b hv
    cases hv
  · intro f hf
    cases hf
  · intro g hg
    cases hg
  · intro v hv
    cases hv

/-- A call that acknowledges nothing. -/
lemma Kept.quiet (hK : Kept s) {R : String → Recorder} (hT : Tracked h' R) (hm : Moves Quiet s.history h')
    (hg : Grows s.history h') : Kept { s with history := h' } := by
  obtain ⟨R₀, hT₀⟩ := hK.tracked
  refine ⟨⟨R, hT⟩, hK.marked.quiet hm, ?_, ?_, ?_, hK.ids, ?_⟩
  · intro f hf
    have hF := hK.flight f hf
    exact ⟨hF.tracked, hF.quiet.trans (fun _ _ _ => Quiet.trans) hm, hF.taken, hF.bounds, hF.apart, hF.written⟩
  · intro g hg
    exact (hK.flushed g hg).quiet hT₀ hm
  · intro v hv
    exact (hK.retired v hv).move hm fun _ _ h => h.same
  · intro n hpos hle
    simp only [hg.same]
    by_cases hold : n ≤ s.history.nextSeries
    · exact (hK.opened n hpos hold).grows hg
    · exact Or.inl (hg.opened n (not_le.mp hold) hle)

/-- A change of the tables that leaves the rows that are needed. -/
lemma Kept.database (hK : Kept s) {db : Database} (hhas : ∀ key, db.has key → s.database.has key)
    (hrows : ∀ key, db.has key → ∀ id start, db.minutes ⟨id, key, start⟩ = s.database.minutes ⟨id, key, start⟩) :
    Kept { s with database := db } := by
  refine ⟨hK.tracked, ?_, ?_, hK.flushed, ?_, hK.ids, hK.opened⟩
  · exact hK.marked.database hhas (fun _ v start _ _ _ _ hkey => hrows v.key hkey _ start) fun p hp => hp
  · intro f hf
    have hF := hK.flight f hf
    refine ⟨hF.tracked, hF.quiet, hF.taken, hF.bounds, hF.apart, ?_⟩
    intro hwritten p hp hkey
    obtain ⟨hmem, hrow⟩ := hF.written hwritten p hp (hhas _ hkey)
    exact ⟨hmem, (hrows _ hkey _ _).trans hrow⟩
  · intro v hv
    have hR := hK.retired v hv
    refine ⟨hR.name, hR.gone, hR.idle, hR.saved, ?_⟩
    intro hkey start b hb
    obtain ⟨m, hm, hrow⟩ := hR.stored (hhas _ hkey) start b hb
    exact ⟨m, hm, (hrows _ hkey _ _).trans hrow⟩

end Flights

section Steps

variable {s : Service} {f : Flight} {h : History} {R : String → Recorder} {out : List PendingMinute}

/-- A flush that found nothing to write has read a collector that is saved. -/
lemma flushed_of_nothing (hT : Tracked h R) (htaken : TakenFrom h h.series.keys []) : Flushed h h := by
  refine ⟨⟨R, hT⟩, Moves.refl (fun v => (Quiet.refl v).toSettles) h, ?_⟩
  intro k₀ v₀ start b₀ hv₀ hb₀ k v b hv hb hid
  obtain rfl := hT.apart k v k₀ v₀ hv hv₀ hid
  rw [hv] at hv₀
  cases hv₀
  rw [hb] at hb₀
  cases hb₀
  by_contra hlt
  have hmem : k ∈ h.series.keys := by
    have hsome : (h.series.lookup k).isSome := by rw [hv]; rfl
    exact AList.mem_keys.mp (AList.lookup_isSome.mp hsome)
  obtain ⟨p, hp, -⟩ := htaken.complete k hmem v₀ hv start b₀ hb (by omega)
  cases hp

lemma Kept.take (hK : Kept s) (hfree : s.flight = none) (hT : Tracked h R) (hm : Moves Quiet s.history h)
    (hg : Grows s.history h) (htaken : TakenFrom h h.series.keys out) : Kept (s.take h out) := by
  have hK' := hK.quiet hT hm hg
  unfold Service.take
  split_ifs with hempty
  · rw [List.isEmpty_iff] at hempty
    subst hempty
    refine ⟨hK'.tracked, hK'.marked, ?_, ?_, hK'.retired, hK'.ids, hK'.opened⟩
    · intro f hf
      rw [hfree] at hf
      cases hf
    · intro g hg
      rcases List.mem_append.mp hg with hg | hg
      · exact hK'.flushed g hg
      · rw [List.mem_singleton.mp hg]
        exact flushed_of_nothing hT htaken
  · refine ⟨hK'.tracked, hK'.marked, ?_, hK'.flushed, hK'.retired, hK'.ids, hK'.opened⟩
    intro f hf
    cases hf
    refine ⟨⟨R, hT⟩, Moves.refl Quiet.refl h, htaken, ?_, ?_, ?_⟩
    · intro key v start b hv hb
      exact (hK'.marked key v start b hv hb).saved
    · intro v hv
      exact (hK'.retired v hv).gone
    · intro hwritten
      cases hwritten

/-- What a flush writes: only rows of minutes that are not saved, and of no deleted series. -/
lemma Kept.commit (hK : Kept s) (hF : Flying s f) : Kept { s.commit f.pending with flight := none } := by
  have hhas : ∀ key, (saveConcurrencyMinutes s.database (f.pending.map PendingMinute.value)).has key =
      s.database.has key := has_save _ _
  have hrows : ∀ row, (∀ p ∈ f.pending, p.value.row ≠ row) →
      (saveConcurrencyMinutes s.database (f.pending.map PendingMinute.value)).minutes row = s.database.minutes row := by
    intro row hne
    apply minutes_save_of_notMem
    intro m hm
    obtain ⟨p, hp, rfl⟩ := List.mem_map.mp hm
    exact hne p hp
  refine ⟨hK.tracked, ?_, ?_, hK.flushed, ?_, hK.ids, hK.opened⟩
  · refine hK.marked.database (fun key hkey => (hhas key).symm.trans hkey) ?_ fun p hp => List.mem_append_left _ hp
    intro key v start b hv hb hsaved _
    refine hrows _ ?_
    intro p hp hrow
    obtain ⟨hunsaved, hle, -⟩ := hF.bucket hp hv hb hrow
    omega
  · intro g hg
    cases hg
  · intro v hv
    have hR := hK.retired v hv
    refine ⟨hR.name, hR.gone, hR.idle, hR.saved, ?_⟩
    intro hkey start b hb
    obtain ⟨m, hm, hrow⟩ := hR.stored ((hhas v.key).symm.trans hkey) start b hb
    refine ⟨m, hm, (hrows _ ?_).trans hrow⟩
    intro p hp hrow'
    obtain ⟨k, u, -, hu, -, hrowp, -⟩ := hF.source hp
    exact hF.apart v hv k u hu (congrArg MinuteKey.instanceID (hrowp.symm.trans hrow'))

lemma Flying.committed (hF : Flying s f) :
    Flying { s.commit f.pending with flight := some { f with written := true } } { f with written := true } := by
  refine ⟨hF.tracked, hF.quiet, hF.taken, hF.bounds, hF.apart, ?_⟩
  intro _ p hp hkey
  have hhas : s.database.has p.value.key := (has_save _ _ _).symm.trans hkey
  refine ⟨List.mem_append_right _ (List.mem_filter.mpr ⟨hp, hhas⟩), ?_⟩
  apply minutes_save_of_mem (List.mem_map_of_mem hp) _ _ hhas
  intro m hm hrow
  obtain ⟨q, hq, rfl⟩ := List.mem_map.mp hm
  exact hF.unique hq hp hrow

lemma Kept.save (hK : Kept s) (hF : Flying s f) (outcome : Outcome) : Kept (s.save f outcome) := by
  cases outcome with
  | committed =>
    have hK' := hK.commit hF
    refine ⟨hK'.tracked, hK'.marked, ?_, hK'.flushed, hK'.retired, hK'.ids, hK'.opened⟩
    intro g hg
    cases hg
    exact hF.committed
  | failed =>
    refine ⟨hK.tracked, hK.marked, ?_, hK.flushed, hK.retired, hK.ids, hK.opened⟩
    intro g hg
    cases hg
  | unanswered => exact hK.commit hF

/-- The marks after an acknowledgement of what has been written. -/
lemma Kept.acknowledged (hK : Kept s) (hF : Flying s f) (hwritten : f.written) :
    Marked (f.pending.foldl acknowledge s.history) s.database s.written := by
  obtain ⟨R, hT⟩ := hK.tracked
  intro key v' start b' hv' hb'
  obtain ⟨v, hv, hack⟩ := foldl_acknowledge_series f.pending hT hv'
  obtain ⟨b, hb, hraises⟩ := hack.buckets start b' hb'
  have hmarks := hK.marked key v start b hv hb
  have hrowOf : rowOf v' start = rowOf v start := by rw [rowOf, hack.same.1, hack.same.2, rowOf]
  have hpositive := hmarks.revision
  have hrevision := hraises.revision
  rcases hraises.source with heq | ⟨p, hp, hrow, heq⟩
  · have hle := hmarks.saved
    refine ⟨by omega, by omega, ?_, ?_⟩
    · rw [hrowOf, hack.same.2, heq]
      exact hmarks.written
    · intro hkey hsaved
      obtain ⟨m, hm, hrow⟩ := hmarks.stored (hack.same.2 ▸ hkey) (by omega)
      exact ⟨m, hraises.current m hm, by rw [hrowOf]; exact hrow⟩
  · obtain ⟨-, hle, hcurrent⟩ := hF.bucket hp hv hb hrow
    have hpkey : p.value.key = v'.key := (congrArg MinuteKey.series hrow).trans hack.same.2.symm
    refine ⟨by omega, by omega, ?_, ?_⟩
    · intro hkey _
      obtain ⟨hmem, -⟩ := hF.written hwritten p hp (hpkey ▸ hkey)
      exact ⟨p, hmem, by rw [hrowOf]; exact hrow, heq.symm⟩
    · intro hkey hsaved
      obtain ⟨-, hstored⟩ := hF.written hwritten p hp (hpkey ▸ hkey)
      refine ⟨p.value, hraises.current _ (hcurrent (by omega)), ?_⟩
      rw [hrowOf, ← hrow]
      exact hstored

/-- After its acknowledgement a flush has saved all that it has read. -/
lemma flushed_seen (hF : Flying s f) (hmoves : Moves Settles s.history h)
    (hraises : ∀ key v' start b', h.series.lookup key = some v' → v'.buckets.lookup start = some b' →
      ∃ v b, s.history.series.lookup key = some v ∧ v.buckets.lookup start = some b ∧ SameSeries v v' ∧
        Raises f.pending (rowOf v start) b b') : Flushed h f.seen := by
  obtain ⟨R₀, hT₀⟩ := hF.tracked
  refine ⟨⟨R₀, hT₀⟩, (Moves.settles hF.quiet).trans (fun _ _ _ => Settles.trans) hmoves, ?_⟩
  intro k₀ v₀ start b₀ hv₀ hb₀ k v' b' hv' hb' hid
  obtain ⟨v, b, hv, hb, hsame, hraise⟩ := hraises k v' start b' hv' hb'
  have hidv : v.instanceID = v₀.instanceID := hsame.1.symm.trans hid
  have hquiet := moves_of_id hT₀ hF.quiet (fun _ _ h => h.same) hv₀ hv hidv
  by_cases hsaved : b₀.revision = b₀.saved
  · have heq := hquiet.saved start b hb
    rw [savedOf, hb₀, Option.map_some, Option.getD_some] at heq
    have := hraise.mono
    omega
  · have hsome : (f.seen.series.lookup k₀).isSome := by rw [hv₀]; rfl
    have hmem : k₀ ∈ f.seen.series.keys := AList.mem_keys.mp (AList.lookup_isSome.mp hsome)
    obtain ⟨p, hp, hstart, hpid, hrevision⟩ := hF.taken.complete k₀ hmem v₀ hv₀ start b₀ hb₀ hsaved
    obtain ⟨k₁, v₁, b₁, hv₁, -, hrow, -⟩ := hF.source hp
    have hid₁ : v₁.instanceID = v₀.instanceID := (congrArg MinuteKey.instanceID hrow).symm.trans hpid
    obtain rfl := hT₀.apart k₁ v₁ k₀ v₀ hv₁ hv₀ hid₁
    rw [hv₁] at hv₀
    cases hv₀
    have hrow' : p.value.row = rowOf v start := by
      rw [hrow, hstart, rowOf, rowOf, hquiet.same.1, hquiet.same.2]
    have := hraise.reached p hp hrow'
    omega

lemma deleted_spec {pending : List PendingMinute} {v : Series} (hv : v ∈ deleted h pending) :
    ∃ key, (pending.foldl acknowledge h).series.lookup key = some v ∧ v.disposable ∧
      (acknowledgeMinutes h pending).series.lookup key = none := by
  unfold deleted at hv
  obtain ⟨⟨key, u⟩, hu, rfl⟩ := List.mem_map.mp hv
  obtain ⟨hmem, hgone⟩ := List.mem_filter.mp hu
  have hlookup := FiniteMap.mem_entries_iff.mp hmem
  refine ⟨key, hlookup, ((Bool.and_eq_true_iff).mp hgone).2, ?_⟩
  unfold acknowledgeMinutes
  dsimp only
  rw [FiniteMap.lookup_keep, hlookup]
  simp only [Option.filter, hgone, Bool.not_true]
  rfl

/-- An acknowledgement deletes nothing else. -/
lemma kept_or_deleted {pending : List PendingMinute} {key : SeriesKey} {v : Series}
    (hv : (pending.foldl acknowledge h).series.lookup key = some v) :
    (acknowledgeMinutes h pending).series.lookup key = some v ∨ v ∈ deleted h pending := by
  by_cases hgone : (decide (key ∈ (pending.filter fun p => (acknowledged h p).isSome).map fun p => p.value.key) &&
      v.disposable) = true
  · refine Or.inr (List.mem_map.mpr ⟨⟨key, v⟩, List.mem_filter.mpr ⟨FiniteMap.mem_entries_iff.mpr hv, hgone⟩, rfl⟩)
  · refine Or.inl (FiniteMap.lookup_keep_eq_some.mpr ⟨hv, ?_⟩)
    rw [Bool.not_eq_true] at hgone
    rw [hgone]
    rfl

lemma acknowledgeMinutes_sub {pending : List PendingMinute} {key : SeriesKey} {v : Series}
    (hv : (acknowledgeMinutes h pending).series.lookup key = some v) :
    (pending.foldl acknowledge h).series.lookup key = some v :=
  (FiniteMap.lookup_keep_eq_some.mp hv).1

lemma nextSeries_acknowledge (h : History) (pending : List PendingMinute) :
    (acknowledgeMinutes h pending).nextSeries = h.nextSeries := by
  have hone : ∀ h p, (acknowledge h p).nextSeries = h.nextSeries := by
    intro h p
    unfold acknowledge
    split <;> rfl
  have hfold : (pending.foldl acknowledge h).nextSeries = h.nextSeries := by
    induction pending generalizing h with
    | nil => rfl
    | cons p pending ih => exact (ih (acknowledge h p)).trans (hone h p)
  exact hfold

lemma nodup_deleted (hT : Tracked h R) (pending : List PendingMinute) :
    ((deleted h pending).map Series.instanceID).Nodup := by
  obtain ⟨hT', -⟩ := foldl_acknowledge_spec pending hT
  unfold deleted
  dsimp only
  rw [List.map_map]
  refine List.pairwise_map.mpr (List.Pairwise.filter _ ?_)
  have hkeys : (pending.foldl acknowledge h).series.entries.Pairwise fun e e' => e.1 ≠ e'.1 :=
    List.pairwise_map.mp (pending.foldl acknowledge h).series.nodupKeys
  refine hkeys.imp_of_mem ?_
  intro e e' he he' hne hid
  exact hne (hT'.apart e.1 e.2 e'.1 e'.2 (FiniteMap.mem_entries_iff.mp he) (FiniteMap.mem_entries_iff.mp he') hid)

/-- A deleted series has nothing in flight, and all of it is saved. -/
lemma Series.disposable_spec {v : Series} (h : v.disposable) :
    v.counts.entries = [] ∧ ∀ start b, v.buckets.lookup start = some b → b.saved = b.revision := by
  simp only [Series.disposable, Bool.and_eq_true_iff, List.isEmpty_iff, List.all_eq_true, decide_eq_true_eq] at h
  exact ⟨h.1.1, fun start b hb => h.2 ⟨start, b⟩ (FiniteMap.mem_entries_iff.mpr hb)⟩

lemma Kept.finish (hK : Kept s) (hF : Flying s f) (hwritten : f.written) : Kept (s.finish f) := by
  obtain ⟨R, hT⟩ := hK.tracked
  have hmarked := hK.acknowledged hF hwritten
  obtain ⟨hT₁, -, hgrows⟩ := foldl_acknowledge_spec f.pending hT
  obtain ⟨hT₂, hmoves⟩ := acknowledgeMinutes_spec hT f.pending
  -- The buckets that are left carry the marks of the acknowledged ones.
  have hraises : ∀ key v' start b', (acknowledgeMinutes s.history f.pending).series.lookup key = some v' →
      v'.buckets.lookup start = some b' → ∃ v b, s.history.series.lookup key = some v ∧
        v.buckets.lookup start = some b ∧ SameSeries v v' ∧ Raises f.pending (rowOf v start) b b' := by
    intro key v' start b' hv' hb'
    obtain ⟨v, hv, hack⟩ := foldl_acknowledge_series f.pending hT (acknowledgeMinutes_sub hv')
    obtain ⟨b, hb, hraises⟩ := hack.buckets start b' hb'
    exact ⟨v, b, hv, hb, hack.same, hraises⟩
  refine ⟨⟨R, hT₂⟩, ?_, ?_, ?_, ?_, ?_, ?_⟩
  · intro key v start b hv hb
    exact hmarked key v start b (acknowledgeMinutes_sub hv) hb
  · intro g hg
    cases hg
  · intro g hg
    rcases List.mem_append.mp hg with hg | hg
    · refine (hK.flushed g hg).move hmoves ?_
      intro key v v' start b b' hv hv' _ hb hb'
      obtain ⟨u, b₁, hu, hb₁, -, hraise⟩ := hraises key v' start b' hv' hb'
      rw [hv] at hu
      cases hu
      rw [hb] at hb₁
      cases hb₁
      exact hraise.mono
    · rw [List.mem_singleton.mp hg]
      exact flushed_seen hF hmoves hraises
  · intro v hv
    rcases List.mem_append.mp hv with hv | hv
    · exact (hK.retired v hv).move hmoves fun _ _ h => h.same
    · obtain ⟨key, hlookup, hdisposable, hnone⟩ := deleted_spec hv
      obtain ⟨hidle, hsaved⟩ := Series.disposable_spec hdisposable
      obtain ⟨n, hn, hname⟩ := hT₁.name key v hlookup
      refine ⟨?_, ?_, hidle, hsaved, ?_⟩
      · exact ⟨n, hn, hname⟩
      · intro key' u hu hid
        have heq := hT₁.apart key' u key v (acknowledgeMinutes_sub hu) hlookup hid
        rw [heq] at hu
        have hu : (acknowledgeMinutes s.history f.pending).series.lookup key = some u := hu
        rw [hnone] at hu
        cases hu
      · intro hkey start b hb
        exact (hmarked key v start b hlookup hb).stored hkey (hsaved start b hb)
  · have hids : ((s.retired ++ deleted s.history f.pending).map Series.instanceID).Nodup := by
      rw [List.map_append, List.nodup_append]
      refine ⟨hK.ids, nodup_deleted hT f.pending, ?_⟩
      intro x hx y hy
      obtain ⟨v, hv, rfl⟩ := List.mem_map.mp hx
      obtain ⟨u, hu, rfl⟩ := List.mem_map.mp hy
      obtain ⟨key, hlookup, -⟩ := deleted_spec hu
      obtain ⟨w, hw, hack⟩ := foldl_acknowledge_series f.pending hT hlookup
      have hne := (hK.retired v hv).gone key w hw
      rw [hack.same.1]
      exact hne.symm
    exact hids
  · intro n hpos hle
    have hnext : (acknowledgeMinutes s.history f.pending).nextSeries = s.history.nextSeries := nextSeries_acknowledge _ _
    have hold := (hK.opened n hpos (hnext ▸ hle)).grows hgrows
    have hsame : (acknowledgeMinutes s.history f.pending).instanceID = s.history.instanceID := hmoves.same
    show Accounted (acknowledgeMinutes s.history f.pending) (s.retired ++ deleted s.history f.pending)
      (seriesName (acknowledgeMinutes s.history f.pending).instanceID n)
    rw [hsame]
    rcases hold with ⟨key, v, hv, hid⟩ | ⟨v, hv, hid⟩
    · rcases kept_or_deleted hv with hv | hv
      · exact Or.inl ⟨key, v, hv, hid⟩
      · exact Or.inr ⟨v, List.mem_append_right _ hv, hid⟩
    · exact Or.inr ⟨v, List.mem_append_left _ hv, hid⟩

lemma step_kept (hK : Kept s) (a : Step) : ∃ s', step s a = some s' ∧ Kept s' := by
  obtain ⟨R, hT⟩ := hK.tracked
  cases a with
  | changeHistory caller delta now =>
    obtain ⟨h', hcall, hT', hm, hg⟩ := changeHistory_spec hT caller delta now
    exact ⟨_, by rw [step, hcall, Option.map_some], hK.quiet hT' hm hg⟩
  | liveHistory key now =>
    obtain ⟨h', out, counts, hcall, hT', hm, hg, -⟩ := liveHistory_spec hT key now
    exact ⟨_, by rw [step, hcall, Option.map_some], hK.quiet hT' hm hg⟩
  | pendingMinutes now =>
    cases hflight : s.flight with
    | some f => exact ⟨s, by rw [step, hflight], hK⟩
    | none =>
      obtain ⟨h', out, hcall, hT', hm, hg, -, htaken⟩ := pendingMinutes_spec hT now
      exact ⟨_, by rw [step, hflight, hcall, Option.map_some], hK.take hflight hT' hm hg htaken⟩
  | save outcome =>
    cases hflight : s.flight with
    | none => exact ⟨s, by rw [step, hflight], hK⟩
    | some f =>
      by_cases hwritten : f.written
      · exact ⟨s, by simp only [step, hflight, if_pos hwritten], hK⟩
      · exact ⟨_, by simp only [step, hflight, if_neg hwritten], hK.save (hK.flight f hflight) outcome⟩
  | acknowledge =>
    cases hflight : s.flight with
    | none => exact ⟨s, by rw [step, hflight], hK⟩
    | some f =>
      by_cases hwritten : f.written
      · exact ⟨_, by simp only [step, hflight, if_pos hwritten], hK.finish (hK.flight f hflight) hwritten⟩
      · exact ⟨s, by simp only [step, hflight, if_neg hwritten], hK⟩
  | deletePlan planID =>
    refine ⟨_, rfl, hK.database (fun key hkey => (has_deletePlan hkey).1) ?_⟩
    intro key hkey id start
    exact minutes_deletePlan (has_deletePlan hkey).2

lemma run_kept (steps : List Step) (hK : Kept s) : ∃ s', run s steps = some s' ∧ Kept s' := by
  induction steps generalizing s with
  | nil => exact ⟨s, rfl, hK⟩
  | cons a steps ih =>
    obtain ⟨s₁, hstep, hK₁⟩ := step_kept hK a
    obtain ⟨s₂, hrun, hK₂⟩ := ih hK₁
    exact ⟨s₂, by rw [run, hstep, Option.bind_some, hrun], hK₂⟩

lemma StoredIn.minutes {db : Database} {v : Series} {start : ℤ} {b : Bucket} (h : StoredIn db v start b) :
    db.minutes (rowOf v start) = some (copyMinute v b).2 := by
  obtain ⟨m, hm, hrow⟩ := h
  rw [copyMinute_of_current hm]
  exact hrow

end Steps

end ShareSub.HistoryPersistence

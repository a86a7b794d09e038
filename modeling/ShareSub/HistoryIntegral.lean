import Mathlib
import ShareSub.Timeline
import ShareSub.HistoryModel

/-!
# A series of the collector integrates its load

What a series is for is a recording: who had how many requests in flight at every observed
instant. The buckets of the series are shown to be the integrals of the recording over their
minutes, through every operation that writes to them.
-/
namespace ShareSub.HistoryIntegral

open HistoryModel Timeline

section Time

lemma truncate_le (t : ℤ) : truncate t ≤ t := by
  have := Int.emod_nonneg t (show minute ≠ 0 by decide)
  unfold truncate
  omega

lemma lt_truncate_add (t : ℤ) : t < truncate t + minute := by
  have := Int.emod_lt_of_pos t (show 0 < minute by decide)
  unfold truncate
  omega

/-- The start of a minute. -/
def Aligned (start : ℤ) : Prop := truncate start = start

lemma aligned_truncate (t : ℤ) : Aligned (truncate t) := by
  unfold Aligned truncate minute
  omega

lemma truncate_eq_iff {t start : ℤ} (h : Aligned start) : truncate t = start ↔ start ≤ t ∧ t < start + minute := by
  unfold Aligned truncate minute at *
  omega

lemma add_minute_le_of_lt {s t : ℤ} (hs : Aligned s) (ht : Aligned t) (h : s < t) : s + minute ≤ t := by
  unfold Aligned truncate minute at *
  omega

lemma aligned_add_minute {s : ℤ} (hs : Aligned s) : Aligned (s + minute) := by
  unfold Aligned truncate minute at *
  omega

lemma cutoff_le (now : ℤ) : cutoff now ≤ now := by
  have := truncate_le (now - retention)
  have hretention : 0 ≤ retention := by decide
  unfold cutoff
  omega

lemma cutoff_mono {s t : ℤ} (h : s ≤ t) : cutoff s ≤ cutoff t := by
  unfold cutoff truncate minute
  omega

end Time

section Load

/-- The requests in flight, of every user and together. -/
structure Load where
  count : String → ℤ
  total : ℤ

def Load.change (l : Load) (user : String) (delta : ℤ) : Load :=
  ⟨Function.update l.count user (l.count user + delta), l.total + delta⟩

/-- What a user has in flight; more releases than admissions leave none. -/
def Load.inFlight (user : String) (l : Load) : ℤ := max 0 (l.count user)

/-- The purpose of a series: the load and the record of it. -/
structure Recorder where
  load : Load
  recording : Recording Load

def Recorder.start (now : ℤ) : Recorder := ⟨⟨fun _ => 0, 0⟩, Recording.start now⟩

/-- The load is observed until `now`, but for no more than 25 hours. -/
def Recorder.observeUntil (r : Recorder) (now : ℤ) : Recorder :=
  { r with recording := (r.recording.skipTo (cutoff now)).observe r.load now }

/-- A change happens at the time of the clock when `now` is earlier. -/
def Recorder.change (r : Recorder) (user : String) (delta now : ℤ) : Recorder :=
  let now := max now r.recording.clock
  let load := r.load.change user delta
  ⟨load, (r.observeUntil now).recording.mark now load⟩

end Load

section Seconds

lemma addSeconds_list (elapsed : ℤ) (l : List (Sigma fun _ : String => ℤ)) (s : Counter String) :
    ∃ s' : Counter String, addSeconds elapsed l (some s) = some (some s') ∧
      ∀ u, s'.get u = s.get u + (l.map fun e => if e.1 = u then max 0 e.2 else 0).sum * elapsed := by
  induction l generalizing s with
  | nil => exact ⟨s, rfl, by simp⟩
  | cons e l ih =>
    obtain ⟨user, n⟩ := e
    by_cases hn : 0 < n
    · obtain ⟨s', hs', hget⟩ := ih (s.add user (n * elapsed))
      refine ⟨s', by simp [addSeconds, hn, hs'], ?_⟩
      intro u
      rw [hget, Counter.get_add, List.map_cons, List.sum_cons]
      by_cases hu : u = user
      · subst hu
        simp only [if_true, max_eq_right hn.le]
        ring
      · simp only [if_neg hu, if_neg (Ne.symm hu)]
        ring
    · obtain ⟨s', hs', hget⟩ := ih s
      refine ⟨s', by simp [addSeconds, hn, hs'], ?_⟩
      intro u
      rw [hget, List.map_cons, List.sum_cons]
      simp [max_eq_left (not_lt.mp hn)]

/-- The loop over the counts adds, for every user, what was in flight for the elapsed time. -/
lemma addSeconds_spec (elapsed : ℤ) (c s : Counter String) :
    ∃ s' : Counter String, addSeconds elapsed c.entries (some s) = some (some s') ∧
      ∀ u, s'.get u = s.get u + max 0 (c.get u) * elapsed := by
  obtain ⟨s', hs', hget⟩ := addSeconds_list elapsed c.entries s
  refine ⟨s', hs', ?_⟩
  intro u
  have hsum := Counter.sumBy_single (g := fun n => max 0 n) (by simp) c u
  rw [hget, ← hsum]
  rfl

end Seconds

section Buckets

/-- A snapshot is the integral of a recording over its minute. -/
structure Exact (rec : Recording Load) (m : ConcurrencyMinute) : Prop where
  observed : m.observedSeconds = rec.integral (fun _ => 1) m.bucketStart (m.bucketStart + minute)
  peak : IsGreatest (insert 0 (rec.values Load.total m.bucketStart (m.bucketStart + minute))) m.peak
  users : (m.members.map MemberSample.userID).Nodup
  members : ∀ sample ∈ m.members, sample.requestSeconds =
    rec.integral (Load.inFlight sample.userID) m.bucketStart (m.bucketStart + minute)
  absent : ∀ user, user ∉ m.members.map MemberSample.userID →
    rec.integral (Load.inFlight user) m.bucketStart (m.bucketStart + minute) = 0

/-- The identity of the minutes of a series. -/
def Named (v : Series) (start : ℤ) (m : ConcurrencyMinute) : Prop :=
  m.instanceID = v.instanceID ∧ m.key = v.key ∧ m.bucketStart = start

/-- A bucket against the recording of its series. A dropped map is never needed again: the minute
is over and the snapshot current. -/
structure Fits (v : Series) (rec : Recording Load) (start : ℤ) (b : Bucket) : Prop where
  aligned : Aligned start
  named : Named v start b.minute
  observed : b.minute.observedSeconds = rec.integral (fun _ => 1) start (start + minute)
  peak : IsGreatest (insert 0 (rec.values Load.total start (start + minute))) b.minute.peak
  seconds : ∀ s, b.seconds = some s → ∀ user, s.get user = rec.integral (Load.inFlight user) start (start + minute)
  dropped : b.seconds = none → start + minute ≤ rec.clock ∧ b.snapshot ≠ none ∧ b.snapshotRevision = b.revision
  revision : b.snapshotRevision ≤ b.revision
  snapshot : ∀ m, b.snapshot = some m → b.snapshotRevision = b.revision → Named v start m ∧ Exact rec m

/-- A minute that a recording has not come to. -/
structure Untouched (rec : Recording Load) (start : ℤ) : Prop where
  integral : ∀ w, rec.integral w start (start + minute) = 0
  values : rec.values Load.total start (start + minute) = ∅

/-- A series against its recorder. -/
structure Represents (v : Series) (r : Recorder) : Prop where
  bounded : r.recording.Bounded
  clock : r.recording.clock = v.last
  count : ∀ user, r.load.count user = v.counts.get user
  total : r.load.total = v.counts.total
  fits : ∀ start b, v.buckets.lookup start = some b → Fits v r.recording start b
  fresh : ∀ start, Aligned start → v.last < start + minute → v.buckets.lookup start = none →
    Untouched r.recording start

/-- The snapshot of a bucket is current. -/
def Current (b : Bucket) (m : ConcurrencyMinute) : Prop := b.snapshot = some m ∧ b.snapshotRevision = b.revision

/-- What is written to a series leaves its identity. -/
def SameSeries (v v' : Series) : Prop := v'.instanceID = v.instanceID ∧ v'.key = v.key

variable {v v' : Series} {r r' : Recorder} {rec rec' : Recording Load} {start : ℤ} {b : Bucket}

/-- What a bucket says is kept when the recording changes outside of its minute. -/
lemma Fits.of_same (h : Fits v rec start b) (hv : SameSeries v v') (hclock : rec.clock ≤ rec'.clock)
    (hintegral : ∀ w, rec'.integral w start (start + minute) = rec.integral w start (start + minute))
    (hvalues : rec'.values Load.total start (start + minute) = rec.values Load.total start (start + minute)) :
    Fits v' rec' start b := by
  have hnamed : ∀ m, Named v start m → Named v' start m := by
    intro m hm
    rw [Named, hv.1, hv.2]
    exact hm
  refine ⟨h.aligned, hnamed _ h.named, ?_, ?_, ?_, ?_, h.revision, ?_⟩
  · rw [hintegral]
    exact h.observed
  · rw [hvalues]
    exact h.peak
  · intro s hs user
    rw [hintegral]
    exact h.seconds s hs user
  · intro hnone
    obtain ⟨hover, hcurrent⟩ := h.dropped hnone
    exact ⟨hover.trans hclock, hcurrent⟩
  · intro m hm hrevision
    obtain ⟨hname, hexact⟩ := h.snapshot m hm hrevision
    have hstart := hname.2.2
    refine ⟨hnamed m hname, ?_, ?_, hexact.users, ?_, ?_⟩
    · rw [hstart, hintegral, ← hstart]
      exact hexact.observed
    · rw [hstart, hvalues, ← hstart]
      exact hexact.peak
    · intro sample hsample
      rw [hstart, hintegral, ← hstart]
      exact hexact.members sample hsample
    · intro user huser
      rw [hstart, hintegral, ← hstart]
      exact hexact.absent user huser

lemma Untouched.of_same (h : Untouched rec start)
    (hintegral : ∀ w, rec'.integral w start (start + minute) = rec.integral w start (start + minute))
    (hvalues : rec'.values Load.total start (start + minute) = rec.values Load.total start (start + minute)) :
    Untouched rec' start := by
  refine ⟨?_, ?_⟩
  · intro w
    rw [hintegral]
    exact h.integral w
  · rw [hvalues]
    exact h.values

/-- The bucket of the minute of the clock, which is made if it is missing, has its map. -/
lemma Represents.current (h : Represents v r) {t : ℤ} (ht : v.last ≤ t) :
    Fits v r.recording (truncate t) (v.bucket t) ∧ ∃ s, (v.bucket t).seconds = some s := by
  have halive : v.last < truncate t + minute := ht.trans_lt (lt_truncate_add t)
  cases hlookup : v.buckets.lookup (truncate t) with
  | some b =>
    have hfits := h.fits _ b hlookup
    have hbucket : v.bucket t = b := by rw [Series.bucket, hlookup]; rfl
    rw [hbucket]
    refine ⟨hfits, ?_⟩
    cases hseconds : b.seconds with
    | some s => exact ⟨s, rfl⟩
    | none =>
      have hover := (hfits.dropped hseconds).1
      rw [h.clock] at hover
      omega
  | none =>
    have huntouched := h.fresh _ (aligned_truncate t) halive hlookup
    have hbucket : v.bucket t = newBucket v (truncate t) := by rw [Series.bucket, hlookup]; rfl
    rw [hbucket]
    refine ⟨⟨aligned_truncate t, ⟨rfl, rfl, rfl⟩, ?_, ?_, ?_, ?_, le_rfl, ?_⟩, ∅, rfl⟩
    · rw [huntouched.integral]
      rfl
    · rw [huntouched.values]
      simp [newBucket]
    · intro s hs user
      cases hs
      rw [huntouched.integral, Counter.get_empty]
    · intro hnone
      cases hnone
    · intro m hm
      cases hm

/-- A write to the bucket of one minute, while the recording changes in that minute only. -/
lemma Represents.write (h : Represents v r) {t : ℤ} (hv : SameSeries v v')
    (hbuckets : v'.buckets = v.buckets.insert (truncate t) b) (hlast : v.last ≤ v'.last)
    (hbounded : r'.recording.Bounded) (hclock : r'.recording.clock = v'.last)
    (hcount : ∀ user, r'.load.count user = v'.counts.get user) (htotal : r'.load.total = v'.counts.total)
    (hfits : Fits v' r'.recording (truncate t) b)
    (hintegral : ∀ start, Aligned start → start ≠ truncate t → ∀ w,
      r'.recording.integral w start (start + minute) = r.recording.integral w start (start + minute))
    (hvalues : ∀ start, Aligned start → start ≠ truncate t →
      r'.recording.values Load.total start (start + minute) = r.recording.values Load.total start (start + minute)) :
    Represents v' r' := by
  refine ⟨hbounded, hclock, hcount, htotal, ?_, ?_⟩
  · intro start b' hlookup
    rw [hbuckets, FiniteMap.lookup_insert] at hlookup
    split_ifs at hlookup with hstart
    · cases hlookup
      rw [hstart]
      exact hfits
    · have hold := h.fits start b' hlookup
      refine hold.of_same hv ?_ (hintegral start hold.aligned hstart) (hvalues start hold.aligned hstart)
      rw [h.clock, hclock]
      exact hlast
  · intro start haligned halive hlookup
    rw [hbuckets, FiniteMap.lookup_insert] at hlookup
    split_ifs at hlookup with hstart
    exact (h.fresh start haligned (hlast.trans_lt halive) hlookup).of_same (hintegral start haligned hstart)
      (hvalues start haligned hstart)

lemma IsGreatest.raise {p x : ℤ} {s : Set ℤ} (h : IsGreatest (insert 0 s) p) :
    IsGreatest (insert 0 (insert x s)) (max p x) := by
  rw [Set.insert_comm, max_comm]
  exact h.insert x

end Buckets

section Advance

variable {v v' : Series} {r : Recorder} {now : ℤ}

/-- A later state of a bucket: without a new revision its snapshot stays current. -/
structure Carries (b b' : Bucket) : Prop where
  revision : b.revision ≤ b'.revision
  current : b'.revision = b.revision → ∀ m, Current b m → Current b' m

lemma Carries.refl (b : Bucket) : Carries b b := ⟨le_rfl, fun _ _ h => h⟩

lemma Carries.trans {b₁ b₂ b₃ : Bucket} (h : Carries b₁ b₂) (h' : Carries b₂ b₃) : Carries b₁ b₃ := by
  refine ⟨h.revision.trans h'.revision, ?_⟩
  intro heq m hm
  have hle := h.revision
  have hle' := h'.revision
  exact h'.current (by omega) m (h.current (by omega) m hm)

/-- A later state of a series: buckets are carried on or new, those of minutes that are over have no
new revision, and only those are deleted. -/
structure Settles (v v' : Series) : Prop where
  same : SameSeries v v'
  last : v.last ≤ v'.last
  buckets : ∀ start b', v'.buckets.lookup start = some b' →
    (∃ b, v.buckets.lookup start = some b ∧ Carries b b') ∨
      (v.buckets.lookup start = none ∧ v.last < start + minute ∧ 0 < b'.revision)
  ended : ∀ start b b', start + minute ≤ v.last → v.buckets.lookup start = some b →
    v'.buckets.lookup start = some b' → b'.revision = b.revision
  kept : ∀ start b, v.buckets.lookup start = some b → v'.buckets.lookup start = none → start + minute ≤ v'.last

lemma Settles.trans {v₁ v₂ v₃ : Series} (h : Settles v₁ v₂) (h' : Settles v₂ v₃) : Settles v₁ v₃ := by
  refine ⟨⟨h'.same.1.trans h.same.1, h'.same.2.trans h.same.2⟩, h.last.trans h'.last, ?_, ?_, ?_⟩
  · intro start b₃ hb₃
    rcases h'.buckets start b₃ hb₃ with ⟨b₂, hb₂, hcarries⟩ | ⟨hnone, halive, hrevision⟩
    · rcases h.buckets start b₂ hb₂ with ⟨b₁, hb₁, hcarries₁⟩ | ⟨hnone, halive, hrevision⟩
      · exact Or.inl ⟨b₁, hb₁, hcarries₁.trans hcarries⟩
      · exact Or.inr ⟨hnone, halive, hrevision.trans_le hcarries.revision⟩
    · refine Or.inr ⟨?_, h.last.trans_lt halive, hrevision⟩
      cases hb₁ : v₁.buckets.lookup start with
      | none => rfl
      | some b₁ =>
        have := h.kept start b₁ hb₁ hnone
        omega
  · intro start b₁ b₃ hover hb₁ hb₃
    rcases h'.buckets start b₃ hb₃ with ⟨b₂, hb₂, -⟩ | ⟨-, halive, -⟩
    · rw [h'.ended start b₂ b₃ (hover.trans h.last) hb₂ hb₃, h.ended start b₁ b₂ hover hb₁ hb₂]
    · have := h.last
      omega
  · intro start b₁ hb₁ hnone
    cases hb₂ : v₂.buckets.lookup start with
    | none => exact (h.kept start b₁ hb₁ hb₂).trans h'.last
    | some b₂ => exact h'.kept start b₂ hb₂ hnone

/-- The snapshot of a minute that is over stays. -/
lemma Settles.current (h : Settles v v') {start : ℤ} {b b' : Bucket} {m : ConcurrencyMinute}
    (hover : start + minute ≤ v.last) (hb : v.buckets.lookup start = some b) (hm : Current b m)
    (hb' : v'.buckets.lookup start = some b') : Current b' m := by
  have hrevision := h.ended start b b' hover hb hb'
  rcases h.buckets start b' hb' with ⟨b₁, hb₁, hcarries⟩ | ⟨-, halive, -⟩
  · rw [hb] at hb₁
    cases hb₁
    exact hcarries.current hrevision m hm
  · omega

def savedOf (v : Series) (start : ℤ) : ℕ := ((v.buckets.lookup start).map Bucket.saved).getD 0

/-- A later state in which nothing more has been acknowledged. -/
structure Quiet (v v' : Series) : Prop extends Settles v v' where
  saved : ∀ start b', v'.buckets.lookup start = some b' → b'.saved = savedOf v start

lemma Quiet.of_buckets (hv : SameSeries v v') (hlast : v.last ≤ v'.last) (hbuckets : v'.buckets = v.buckets) :
    Quiet v v' := by
  refine ⟨⟨hv, hlast, ?_, ?_, ?_⟩, ?_⟩
  · intro start b' hb'
    exact Or.inl ⟨b', hbuckets ▸ hb', Carries.refl b'⟩
  · intro start b b' _ hb hb'
    rw [hbuckets, hb] at hb'
    cases hb'
    rfl
  · intro start b hb hnone
    rw [hbuckets, hb] at hnone
    cases hnone
  · intro start b' hb'
    rw [savedOf, ← hbuckets, hb']
    rfl

lemma Quiet.refl (v : Series) : Quiet v v := .of_buckets ⟨rfl, rfl⟩ le_rfl rfl

lemma Quiet.trans {v₁ v₂ v₃ : Series} (h : Quiet v₁ v₂) (h' : Quiet v₂ v₃) : Quiet v₁ v₃ := by
  refine ⟨h.toSettles.trans h'.toSettles, ?_⟩
  intro start b₃ hb₃
  rw [h'.saved start b₃ hb₃, savedOf]
  cases hb₂ : v₂.buckets.lookup start with
  | some b₂ => exact h.saved start b₂ hb₂
  | none =>
    rcases h'.buckets start b₃ hb₃ with ⟨b₂, hsome, -⟩ | ⟨-, halive, -⟩
    · rw [hb₂] at hsome
      cases hsome
    · cases hb₁ : v₁.buckets.lookup start with
      | none => simp [savedOf, hb₁]
      | some b₁ =>
        have := h.kept start b₁ hb₁ hb₂
        omega

/-- A new revision of the bucket at the clock or later. -/
lemma Quiet.of_insert (hv : SameSeries v v') {t : ℤ} {b : Bucket} (ht : v.last ≤ t) (hlast : v.last ≤ v'.last)
    (hbuckets : v'.buckets = v.buckets.insert (truncate t) b) (hrevision : b.revision = (v.bucket t).revision + 1)
    (hsaved : b.saved = (v.bucket t).saved) : Quiet v v' := by
  have habove := lt_truncate_add t
  refine ⟨⟨hv, hlast, ?_, ?_, ?_⟩, ?_⟩
  · intro start b' hb'
    rw [hbuckets, FiniteMap.lookup_insert] at hb'
    split_ifs at hb' with hstart
    · cases hb'
      subst hstart
      cases hold : v.buckets.lookup (truncate t) with
      | none => exact Or.inr ⟨rfl, by omega, by omega⟩
      | some b₀ =>
        have hbucket : v.bucket t = b₀ := by rw [Series.bucket, hold]; rfl
        rw [hbucket] at hrevision
        exact Or.inl ⟨b₀, rfl, by omega, fun heq => by omega⟩
    · exact Or.inl ⟨b', hb', Carries.refl b'⟩
  · intro start b₁ b' hover hb₁ hb'
    have hne : start ≠ truncate t := by omega
    rw [hbuckets, FiniteMap.lookup_insert, if_neg hne, hb₁] at hb'
    cases hb'
    rfl
  · intro start b₁ hb₁ hnone
    rw [hbuckets, FiniteMap.lookup_insert] at hnone
    split_ifs at hnone
    rw [hb₁] at hnone
    cases hnone
  · intro start b' hb'
    rw [hbuckets, FiniteMap.lookup_insert] at hb'
    split_ifs at hb' with hstart
    · cases hb'
      rw [hsaved, hstart, savedOf, Series.bucket]
      cases v.buckets.lookup (truncate t) <;> rfl
    · rw [savedOf, hb']
      rfl

/-- What the integration leaves alone. -/
structure Frame (v v' : Series) : Prop where
  quiet : Quiet v v'
  lastUsed : v'.lastUsed = v.lastUsed
  counts : v'.counts = v.counts
  names : v'.names = v.names

lemma Frame.refl (v : Series) : Frame v v := ⟨.refl v, rfl, rfl, rfl⟩

lemma Frame.trans {v₁ v₂ v₃ : Series} (h : Frame v₁ v₂) (h' : Frame v₂ v₃) : Frame v₁ v₃ :=
  ⟨h.quiet.trans h'.quiet, h'.lastUsed.trans h.lastUsed, h'.counts.trans h.counts, h'.names.trans h.names⟩

def Recorder.observe (r : Recorder) (now : ℤ) : Recorder := { r with recording := r.recording.observe r.load now }

/-- A pass that stays within the minute of the clock. -/
lemma Represents.accrue (h : Represents v r) {stop : ℤ} (hlast : v.last < stop)
    (hstop : stop ≤ truncate v.last + minute) {s : Counter String}
    (hs : ∀ user, s.get user = r.recording.integral (Load.inFlight user) (truncate v.last) (truncate v.last + minute) +
      max 0 (v.counts.get user) * (stop - v.last)) :
    Represents (v.accrue stop (some s)) (r.observe stop) := by
  obtain ⟨hfits, -⟩ := h.current (le_refl v.last)
  have hbelow := truncate_le v.last
  have hclock : r.recording.clock ≤ stop := h.clock ▸ hlast.le
  have hwithin : truncate v.last ≤ r.recording.clock := h.clock ▸ hbelow
  have hintegral : ∀ w, (r.recording.observe r.load stop).integral w (truncate v.last) (truncate v.last + minute) =
      r.recording.integral w (truncate v.last) (truncate v.last + minute) + w r.load * (stop - v.last) := by
    intro w
    rw [Recording.integral_observe_of_within h.bounded hwithin hclock hstop, h.clock]
  have hvalues : (r.recording.observe r.load stop).values Load.total (truncate v.last) (truncate v.last + minute) =
      insert r.load.total (r.recording.values Load.total (truncate v.last) (truncate v.last + minute)) :=
    Recording.values_observe_of_within h.bounded hwithin (h.clock ▸ hlast) hstop
  have hdisjoint : ∀ start, Aligned start → start ≠ truncate v.last →
      start + minute ≤ r.recording.clock ∨ stop ≤ start := by
    intro start haligned hne
    rw [h.clock]
    rcases lt_or_gt_of_ne hne with hlt | hgt
    · have := add_minute_le_of_lt haligned (aligned_truncate v.last) hlt
      omega
    · have := add_minute_le_of_lt (aligned_truncate v.last) haligned hgt
      omega
  refine h.write ⟨rfl, rfl⟩ rfl hlast.le (h.bounded.observe _ _) (Recording.observe_clock_of_le hclock) h.count
    h.total ?_ ?_ ?_
  · refine ⟨hfits.aligned, hfits.named, ?_, ?_, ?_, ?_, ?_, ?_⟩
    · rw [Recorder.observe, hintegral, ← hfits.observed, one_mul]
    · rw [Recorder.observe, hvalues, h.total]
      exact IsGreatest.raise hfits.peak
    · intro s' hs' user
      cases hs'
      rw [Recorder.observe, hintegral, hs, Load.inFlight, h.count]
    · intro hnone
      cases hnone
    · exact hfits.revision.trans (Nat.le_succ _)
    · intro m hm hrevision
      have := hfits.revision
      simp only at hrevision
      omega
  · intro start haligned hne w
    exact Recording.integral_observe_of_disjoint (hdisjoint start haligned hne)
  · intro start haligned hne
    exact Recording.values_observe_of_disjoint (hdisjoint start haligned hne)

lemma advanceOnce_spec (h : Represents v r) (hlast : v.last < now) :
    ∃ v', advanceOnce v now = some v' ∧ Represents v' (r.observe v'.last) ∧ Frame v v' ∧
      v'.last = min (truncate v.last + minute) now := by
  obtain ⟨hfits, s, hs⟩ := h.current (le_refl v.last)
  have habove := lt_truncate_add v.last
  generalize hstop : min (truncate v.last + minute) now = stop
  obtain ⟨s', hadd, hget⟩ := addSeconds_spec (stop - v.last) v.counts s
  have hframe : Frame v (v.accrue stop (some s')) :=
    ⟨.of_insert ⟨rfl, rfl⟩ le_rfl (show v.last ≤ stop by omega) rfl rfl rfl, rfl, rfl, rfl⟩
  refine ⟨v.accrue stop (some s'), ?_, ?_, hframe, rfl⟩
  · simp only [advanceOnce, hstop, hs, hadd, Option.map_some]
  · refine h.accrue (by omega) (by omega) ?_
    intro user
    rw [hget, hfits.seconds s hs user]

lemma advanceLoop_spec (now : ℤ) (passes : ℕ) (h : Represents v r)
    (hpasses : v.last < now → now - truncate v.last ≤ passes * minute) :
    ∃ v', advanceLoop now passes v = some v' ∧ Represents v' (r.observe now) ∧ Frame v v' ∧
      v'.last = max v.last now := by
  induction passes generalizing v r with
  | zero =>
    have hlast : now ≤ v.last := by
      by_contra hlt
      have := hpasses (by omega)
      have := truncate_le v.last
      omega
    refine ⟨v, rfl, ?_, Frame.refl v, (max_eq_left hlast).symm⟩
    rw [Recorder.observe, Recording.observe_of_le (h.clock ▸ hlast)]
    exact h
  | succ passes ih =>
    by_cases hlast : v.last < now
    · obtain ⟨v₁, honce, hrep, hframe, hstop⟩ := advanceOnce_spec h hlast
      have hfuel : v₁.last < now → now - truncate v₁.last ≤ passes * minute := by
        intro hlt
        have hnext : v₁.last = truncate v.last + minute := by omega
        have haligned := aligned_add_minute (aligned_truncate v.last)
        have hfuel := hpasses hlast
        rw [hnext, haligned]
        push_cast at hfuel
        linarith
      obtain ⟨v₂, hloop, hrep₂, hframe₂, hlast₂⟩ := ih hrep hfuel
      have hbetween : v.last ≤ v₁.last ∧ v₁.last ≤ now := by
        have := lt_truncate_add v.last
        omega
      refine ⟨v₂, ?_, ?_, hframe.trans hframe₂, ?_⟩
      · simp only [advanceLoop, if_pos hlast, honce, Option.bind_some, hloop]
      · have hjoin : (r.observe v₁.last).observe now = r.observe now := by
          simp only [Recorder.observe]
          rw [Recording.observe_observe (h.clock ▸ hbetween.1) hbetween.2]
        rw [← hjoin]
        exact hrep₂
      · omega
    · refine ⟨v, by simp only [advanceLoop, if_neg hlast], ?_, Frame.refl v, (max_eq_left (not_lt.mp hlast)).symm⟩
      rw [Recorder.observe, Recording.observe_of_le (h.clock ▸ not_lt.mp hlast)]
      exact h

lemma Represents.skip (h : Represents v r) (now : ℤ) :
    Represents (v.skip now) { r with recording := r.recording.skipTo (cutoff now) } ∧ Frame v (v.skip now) ∧
      (v.skip now).last = max v.last (cutoff now) := by
  unfold Series.skip
  split_ifs with hold
  · refine ⟨⟨h.bounded.skipTo _, ?_, h.count, h.total, ?_, ?_⟩, ⟨?_, rfl, rfl, rfl⟩, by simp only; omega⟩
    · rw [Recording.skipTo, h.clock, max_eq_right hold.le]
    · intro start b hlookup
      exact (h.fits start b hlookup).of_same ⟨rfl, rfl⟩ (le_max_left _ _) (fun _ => rfl) rfl
    · intro start haligned halive hlookup
      exact (h.fresh start haligned (hold.trans halive) hlookup).of_same (fun _ => rfl) rfl
    · exact .of_buckets ⟨rfl, rfl⟩ hold.le rfl
  · have hclock : r.recording.skipTo (cutoff now) = r.recording := by
      rw [Recording.skipTo, h.clock, max_eq_left (not_lt.mp hold), ← h.clock]
    rw [hclock]
    exact ⟨h, .refl v, (max_eq_left (not_lt.mp hold)).symm⟩

/-- The buckets that a flush deletes lie before the clock. -/
lemma Represents.keep (h : Represents v r) (hlast : cutoff now ≤ v.last) :
    Represents { v with buckets := v.buckets.keep fun start _ => cutoff now ≤ start } r ∧
      Frame v { v with buckets := v.buckets.keep fun start _ => cutoff now ≤ start } := by
  have hdeleted : ∀ start b, v.buckets.lookup start = some b →
      (v.buckets.keep fun start _ => cutoff now ≤ start).lookup start = none → start + minute ≤ v.last := by
    intro start b hb hnone
    have hlt : start < cutoff now := by
      by_contra hkept
      have hsome := FiniteMap.lookup_keep_eq_some (p := fun start _ => decide (cutoff now ≤ start)).mpr
        ⟨hb, decide_eq_true (not_lt.mp hkept)⟩
      rw [hsome] at hnone
      cases hnone
    exact (add_minute_le_of_lt (h.fits start b hb).aligned (aligned_truncate (now - retention)) hlt).trans hlast
  refine ⟨⟨h.bounded, h.clock, h.count, h.total, ?_, ?_⟩, ⟨⟨⟨⟨rfl, rfl⟩, le_rfl, ?_, ?_, hdeleted⟩, ?_⟩, rfl, rfl, rfl⟩⟩
  · intro start b hlookup
    exact (h.fits start b (FiniteMap.lookup_keep_eq_some.mp hlookup).1).of_same ⟨rfl, rfl⟩ le_rfl (fun _ => rfl) rfl
  · intro start haligned halive hlookup
    refine h.fresh start haligned halive ?_
    cases hb : v.buckets.lookup start with
    | none => rfl
    | some b =>
      have hbefore := hdeleted start b hb hlookup
      simp only at halive
      omega
  · intro start b hb
    exact Or.inl ⟨b, (FiniteMap.lookup_keep_eq_some.mp hb).1, Carries.refl b⟩
  · intro start b b' _ hb hb'
    rw [(FiniteMap.lookup_keep_eq_some.mp hb').1] at hb
    cases hb
    rfl
  · intro start b hb
    rw [savedOf, (FiniteMap.lookup_keep_eq_some.mp hb).1]
    rfl

/-- The loop of `advance` from a clock that has been moved to the cutoff. -/
lemma advance_of_skip {u : Series} (hu : u.skip now = v)
    (h : Represents v { r with recording := r.recording.skipTo (cutoff now) }) :
    ∃ v', advance u now = some v' ∧ Represents v' (r.observeUntil now) ∧ Frame v v' ∧ v'.last = max v.last now := by
  have hfuel : v.last < now → now - truncate v.last ≤ (((now - truncate v.last) / minute).toNat + 1 : ℕ) * minute := by
    intro hlt
    have := truncate_le v.last
    unfold minute
    omega
  obtain ⟨v', hloop, hrep, hframe, hlast⟩ := advanceLoop_spec now _ h hfuel
  refine ⟨v', ?_, hrep, hframe, hlast⟩
  rw [advance, hu]
  exact hloop

lemma advance_spec (h : Represents v r) (now : ℤ) :
    ∃ v', advance v now = some v' ∧ Represents v' (r.observeUntil now) ∧ Frame v v' ∧ v'.last = max v.last now := by
  obtain ⟨hskip, hframe, hlast⟩ := h.skip now
  obtain ⟨v', hadvance, hrep, hframe', hlast'⟩ := advance_of_skip rfl hskip
  have := cutoff_le now
  exact ⟨v', hadvance, hrep, hframe.trans hframe', by omega⟩

/-- The same after the deletion of the buckets before the cutoff. -/
lemma advance_kept_spec (h : Represents v r) (now : ℤ) :
    ∃ v', advance { v with buckets := v.buckets.keep fun start _ => cutoff now ≤ start } now = some v' ∧
      Represents v' (r.observeUntil now) ∧ Frame v v' ∧ v'.last = max v.last now := by
  obtain ⟨hskip, hframe, hlast⟩ := h.skip now
  have hcutoff : cutoff now ≤ (v.skip now).last := by omega
  obtain ⟨hkeep, hframe₁⟩ := hskip.keep hcutoff
  have hcommute : Series.skip { v with buckets := v.buckets.keep fun start _ => cutoff now ≤ start } now =
      { v.skip now with buckets := (v.skip now).buckets.keep fun start _ => cutoff now ≤ start } := by
    unfold Series.skip
    split_ifs <;> rfl
  obtain ⟨v', hadvance, hrep, hframe₂, hlast'⟩ := advance_of_skip hcommute hkeep
  have := cutoff_le now
  exact ⟨v', hadvance, hrep, hframe.trans (hframe₁.trans hframe₂), by simp only at hlast'; omega⟩

end Advance

section Changes

variable {v v' : Series} {r : Recorder} {now : ℤ}

/-- A change of the counts at the clock, with the mark in the bucket of the minute. -/
lemma Represents.change (h : Represents v r) (caller : Caller) (delta : ℤ) :
    Represents ((v.count caller delta v.last).mark v.last)
        ⟨r.load.change caller.userID delta, r.recording.mark v.last (r.load.change caller.userID delta)⟩ ∧
      Quiet v ((v.count caller delta v.last).mark v.last) := by
  have hbucket : (v.count caller delta v.last).bucket v.last = v.bucket v.last := rfl
  obtain ⟨hfits, s, hs⟩ := h.current (le_refl v.last)
  have hbelow := truncate_le v.last
  have habove := lt_truncate_add v.last
  have htotal : (v.count caller delta v.last).counts.total = v.counts.total + delta := by
    rw [Series.count, Counter.total_prune, Counter.total_add]
  refine ⟨h.write ⟨rfl, rfl⟩ rfl le_rfl (h.bounded.mark _ _) h.clock ?_ ?_ ?_ ?_ ?_, ?_⟩
  · intro user
    simp only [Series.mark, Series.put, Series.count, Load.change, Counter.get_prune, Counter.get_add]
    by_cases huser : user = caller.userID
    · subst huser
      simp [h.count]
    · simp [huser, h.count]
  · simp only [Series.mark, Series.put, htotal, Load.change, h.total]
  · have hvalues : (r.recording.mark v.last (r.load.change caller.userID delta)).values Load.total (truncate v.last)
        (truncate v.last + minute) = insert (v.counts.total + delta)
          (r.recording.values Load.total (truncate v.last) (truncate v.last + minute)) := by
      rw [Recording.values_mark_of_mem hbelow habove, Load.change, h.total]
    refine ⟨hfits.aligned, hfits.named, hfits.observed, ?_, hfits.seconds, ?_, ?_, ?_⟩
    · rw [hvalues, ← htotal]
      exact IsGreatest.raise hfits.peak
    · intro hnone
      rw [hbucket, hs] at hnone
      cases hnone
    · exact hfits.revision.trans (Nat.le_succ _)
    · intro m hm hrevision
      have := hfits.revision
      simp only [hbucket] at hrevision
      omega
  · intro start haligned hne w
    rfl
  · intro start haligned hne
    refine Recording.values_mark_of_notMem ?_
    by_contra hin
    have heq := (truncate_eq_iff (t := v.last) haligned).mpr (by omega)
    exact hne heq.symm
  · exact .of_insert ⟨rfl, rfl⟩ le_rfl le_rfl rfl rfl rfl

end Changes

section Reading

variable {v : Series} {r : Recorder} {rec : Recording Load} {start : ℤ} {b : Bucket}

lemma copyMinute_of_current {m : ConcurrencyMinute} (h : Current b m) : copyMinute v b = (b, m) := by
  unfold copyMinute
  simp only [h.1, if_pos h.2]

lemma copyMinute_of_stale (h : ∀ m, ¬ Current b m) :
    copyMinute v b =
      (copyMinute.renewed v b { b.minute with
        members := (b.seconds.getD ∅).entries.map fun e => ⟨e.1, v.names e.1, e.2⟩ },
      { b.minute with members := (b.seconds.getD ∅).entries.map fun e => ⟨e.1, v.names e.1, e.2⟩ }) := by
  unfold copyMinute
  cases hsnapshot : b.snapshot with
  | none => rfl
  | some m => simp only [if_neg fun hrevision => h m ⟨hsnapshot, hrevision⟩]

/-- A new snapshot of a bucket that has its map. -/
lemma Fits.exact_members (h : Fits v rec start b) {s : Counter String} (hs : b.seconds = some s) :
    Exact rec { b.minute with members := s.entries.map fun e => ⟨e.1, v.names e.1, e.2⟩ } := by
  have hstart : b.minute.bucketStart = start := h.named.2.2
  have husers : (s.entries.map fun e => (⟨e.1, v.names e.1, e.2⟩ : MemberSample)).map MemberSample.userID = s.keys := by
    rw [List.map_map]
    rfl
  refine ⟨?_, ?_, ?_, ?_, ?_⟩
  · rw [hstart]
    exact h.observed
  · rw [hstart]
    exact h.peak
  · rw [husers]
    exact s.keys_nodup
  · intro sample hsample
    obtain ⟨e, he, rfl⟩ := List.mem_map.mp hsample
    rw [hstart, ← h.seconds s hs e.1]
    exact (Counter.get_of_mem_entries he).symm
  · intro user huser
    rw [husers] at huser
    rw [hstart, ← h.seconds s hs user]
    exact Counter.get_of_notMem huser

/-- Publishing a bucket: its snapshot is exact and stays with it. -/
lemma copyMinute_spec (h : Fits v rec start b) (hclock : rec.clock = v.last) :
    Fits v rec start (copyMinute v b).1 ∧ Named v start (copyMinute v b).2 ∧ Exact rec (copyMinute v b).2 ∧
      Current (copyMinute v b).1 (copyMinute v b).2 := by
  by_cases hcurrent : ∃ m, Current b m
  · obtain ⟨m, hm⟩ := hcurrent
    obtain ⟨hnamed, hexact⟩ := h.snapshot m hm.1 hm.2
    rw [copyMinute_of_current hm]
    exact ⟨h, hnamed, hexact, hm⟩
  · have hstale := not_exists.mp hcurrent
    obtain ⟨s, hs⟩ : ∃ s, b.seconds = some s := by
      cases hseconds : b.seconds with
      | some s => exact ⟨s, rfl⟩
      | none =>
        obtain ⟨-, hsome, hrevision⟩ := h.dropped hseconds
        obtain ⟨m, hm⟩ := Option.ne_none_iff_exists'.mp hsome
        exact absurd ⟨hm, hrevision⟩ (hstale m)
    have hexact := h.exact_members hs
    rw [copyMinute_of_stale hstale, hs, Option.getD_some]
    refine ⟨⟨h.aligned, h.named, h.observed, h.peak, ?_, ?_, le_rfl, ?_⟩, h.named, hexact, rfl, rfl⟩
    · intro s' hs' user
      simp only [copyMinute.renewed] at hs'
      split_ifs at hs'
      exact h.seconds s' hs' user
    · intro hnone
      simp only [copyMinute.renewed] at hnone
      split_ifs at hnone with hover
      · rw [h.named.2.2] at hover
        exact ⟨hclock ▸ hover, by simp [copyMinute.renewed], rfl⟩
      · rw [hs] at hnone
        cases hnone
    · intro m hm _
      cases hm
      exact ⟨h.named, hexact⟩

/-- Buckets are rewritten all together, without a new revision. -/
lemma Represents.mapValues (h : Represents v r) {f : Bucket → Bucket}
    (hf : ∀ start b, Fits v r.recording start b → Fits v r.recording start (f b))
    (hrevision : ∀ b, (f b).revision = b.revision) (hsaved : ∀ b, (f b).saved = b.saved)
    (hcurrent : ∀ b m, Current b m → Current (f b) m) :
    Represents { v with buckets := v.buckets.mapValues f } r ∧
      Quiet v { v with buckets := v.buckets.mapValues f } := by
  have hlookup : ∀ start b, (v.buckets.mapValues f).lookup start = some b →
      ∃ b', v.buckets.lookup start = some b' ∧ f b' = b := by
    intro start b hb
    rw [FiniteMap.lookup_mapValues] at hb
    exact Option.map_eq_some_iff.mp hb
  refine ⟨⟨h.bounded, h.clock, h.count, h.total, ?_, ?_⟩, ⟨⟨⟨rfl, rfl⟩, le_rfl, ?_, ?_, ?_⟩, ?_⟩⟩
  · intro start b hb
    obtain ⟨b', hb', rfl⟩ := hlookup start b hb
    exact (hf start b' (h.fits start b' hb')).of_same ⟨rfl, rfl⟩ le_rfl (fun _ => rfl) rfl
  · intro start haligned halive hnone
    rw [FiniteMap.lookup_mapValues, Option.map_eq_none_iff] at hnone
    exact h.fresh start haligned halive hnone
  · intro start b hb
    obtain ⟨b', hb', rfl⟩ := hlookup start b hb
    exact Or.inl ⟨b', hb', (hrevision b').ge, fun _ m hm => hcurrent b' m hm⟩
  · intro start b₁ b hover hb₁ hb
    obtain ⟨b', hb', rfl⟩ := hlookup start b hb
    rw [hb₁] at hb'
    cases hb'
    exact hrevision b₁
  · intro start b hb hnone
    rw [FiniteMap.lookup_mapValues, hb] at hnone
    cases hnone
  · intro start b hb
    obtain ⟨b', hb', rfl⟩ := hlookup start b hb
    rw [hsaved, savedOf, hb']
    rfl

lemma copyMinute_revision (v : Series) (b : Bucket) :
    (copyMinute v b).1.revision = b.revision ∧ (copyMinute v b).1.saved = b.saved := by
  by_cases hcurrent : ∃ m, Current b m
  · obtain ⟨m, hm⟩ := hcurrent
    rw [copyMinute_of_current hm]
    exact ⟨rfl, rfl⟩
  · rw [copyMinute_of_stale (not_exists.mp hcurrent)]
    exact ⟨rfl, rfl⟩

lemma copied_current {m : ConcurrencyMinute} (h : Current b m) : Current (copyMinute v b).1 m := by
  rw [copyMinute_of_current h]
  exact h

/-- A snapshot that stands in a bucket of a series. -/
def Shows (v : Series) (b : Bucket) (m : ConcurrencyMinute) : Prop :=
  v.buckets.lookup m.bucketStart = some b ∧ Named v m.bucketStart m ∧ Current b m

/-- A read that takes the snapshots of some of the buckets. -/
lemma Represents.copied (h : Represents v r) (p : Bucket → Bool) :
    Represents { v with buckets := v.buckets.mapValues fun b => if p b then (copyMinute v b).1 else b } r ∧
      Quiet v { v with buckets := v.buckets.mapValues fun b => if p b then (copyMinute v b).1 else b } ∧
      ∀ start b, v.buckets.lookup start = some b → p b → (copyMinute v b).2.bucketStart = start ∧
        Exact r.recording (copyMinute v b).2 ∧
        Shows { v with buckets := v.buckets.mapValues fun b => if p b then (copyMinute v b).1 else b }
          (copyMinute v b).1 (copyMinute v b).2 := by
  have hfits : ∀ start b, Fits v r.recording start b →
      Fits v r.recording start (if p b then (copyMinute v b).1 else b) := by
    intro start b hb
    split_ifs
    · exact (copyMinute_spec hb h.clock).1
    · exact hb
  have hmarks : ∀ b, (if p b then (copyMinute v b).1 else b).revision = b.revision ∧
      (if p b then (copyMinute v b).1 else b).saved = b.saved := by
    intro b
    split_ifs
    · exact copyMinute_revision v b
    · exact ⟨rfl, rfl⟩
  have hcurrent : ∀ b m, Current b m → Current (if p b then (copyMinute v b).1 else b) m := by
    intro b m hm
    split_ifs
    · exact copied_current hm
    · exact hm
  obtain ⟨hrep, hquiet⟩ := h.mapValues hfits (fun b => (hmarks b).1) (fun b => (hmarks b).2) hcurrent
  refine ⟨hrep, hquiet, ?_⟩
  intro start b hb hp
  obtain ⟨-, hnamed, hexact, hcopy⟩ := copyMinute_spec (h.fits start b hb) h.clock
  have hstart := hnamed.2.2
  refine ⟨hstart, hexact, ?_, ?_, hcopy⟩
  · rw [hstart, FiniteMap.lookup_mapValues, hb, Option.map_some, if_pos hp]
  · rw [hstart]
    exact hnamed

/-- What a flush takes from a series: the snapshots of the buckets that have an unsaved revision. -/
lemma pendingMinutes_series (h : Represents v r) (now : ℤ) :
    ∃ v' out, v.pendingMinutes now = some (v', out) ∧ Represents v' (r.observeUntil now) ∧ Quiet v v' ∧
      (∀ p ∈ out, ∃ b, Shows v' b p.value ∧ Exact (r.observeUntil now).recording p.value ∧ p.revision = b.revision ∧
        b.saved ≠ b.revision) ∧
      ∀ start b, v'.buckets.lookup start = some b → b.revision ≠ b.saved →
        ∃ p ∈ out, p.value.bucketStart = start ∧ p.revision = b.revision := by
  obtain ⟨v₁, hadvance, hrep, hframe, -⟩ := advance_kept_spec h now
  obtain ⟨hrep', hquiet, hcopied⟩ := hrep.copied Bucket.unsaved
  refine ⟨_, _, by rw [Series.pendingMinutes, hadvance]; rfl, hrep', hframe.quiet.trans hquiet, ?_, ?_⟩
  · intro p hp
    obtain ⟨e, he, hpending⟩ := List.mem_filterMap.mp hp
    have hb := FiniteMap.mem_entries_iff.mp he
    unfold pendingOf at hpending
    split_ifs at hpending with hunsaved
    cases hpending
    obtain ⟨-, hexact, hshows⟩ := hcopied e.1 e.2 hb hunsaved
    obtain ⟨hrevision, hsaved⟩ := copyMinute_revision v₁ e.2
    refine ⟨_, hshows, hexact, hrevision.symm, ?_⟩
    rw [hrevision, hsaved]
    exact (of_decide_eq_true hunsaved).symm
  · intro start b hb hunsaved
    rw [FiniteMap.lookup_mapValues] at hb
    obtain ⟨b₁, hb₁, rfl⟩ := Option.map_eq_some_iff.mp hb
    obtain ⟨hrevision, hsaved⟩ := copyMinute_revision v₁ b₁
    have hp : b₁.unsaved = true := by
      by_contra hp
      rw [if_neg hp] at hunsaved
      exact hp (decide_eq_true hunsaved)
    obtain ⟨hstart, -, -⟩ := hcopied start b₁ hb₁ hp
    refine ⟨⟨(copyMinute v₁ b₁).2, b₁.revision⟩, ?_, hstart, ?_⟩
    · refine List.mem_filterMap.mpr ⟨⟨start, b₁⟩, FiniteMap.mem_entries_iff.mpr hb₁, ?_⟩
      rw [pendingOf, if_pos hp]
    · rw [if_pos hp, hrevision]

/-- What a reader is shown of a series: every bucket. -/
lemma liveMinutes_series (h : Represents v r) (now : ℤ) :
    ∃ v', advance { v with lastUsed := now } now = some v' ∧
      Represents { v' with buckets := v'.buckets.mapValues fun b => (copyMinute v' b).1 } (r.observeUntil now) ∧
      Quiet v { v' with buckets := v'.buckets.mapValues fun b => (copyMinute v' b).1 } ∧
      ∀ m ∈ v'.buckets.entries.map (fun e => (copyMinute v' e.2).2), Exact (r.observeUntil now).recording m ∧
        ∃ b, Shows { v' with buckets := v'.buckets.mapValues fun b => (copyMinute v' b).1 } b m := by
  have hused : Represents { v with lastUsed := now } r :=
    ⟨h.bounded, h.clock, h.count, h.total, fun start b hb =>
      (h.fits start b hb).of_same ⟨rfl, rfl⟩ le_rfl (fun _ => rfl) rfl, h.fresh⟩
  obtain ⟨v', hadvance, hrep, hframe, -⟩ := advance_spec hused now
  obtain ⟨hrep', hquiet, hcopied⟩ := hrep.copied fun _ => true
  simp only [if_true] at hrep' hquiet hcopied
  have hfirst : Quiet v { v with lastUsed := now } := .of_buckets ⟨rfl, rfl⟩ le_rfl rfl
  refine ⟨v', hadvance, hrep', hfirst.trans (hframe.quiet.trans hquiet), ?_⟩
  intro m hm
  obtain ⟨e, he, rfl⟩ := List.mem_map.mp hm
  obtain ⟨-, hexact, hshows⟩ := hcopied e.1 e.2 (FiniteMap.mem_entries_iff.mp he) trivial
  exact ⟨hexact, _, hshows⟩

end Reading

end ShareSub.HistoryIntegral

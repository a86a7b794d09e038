import Mathlib
import ShareSub.Numeral
import ShareSub.HistoryIntegral

/-!
# The collector over whole histories of calls

Every series has a recorder of its own, found under the id of its incarnation. The operations of the
collector keep the two in step, whatever the order of the calls and of their clock values.
-/
namespace ShareSub.HistorySystem

open HistoryModel HistoryIntegral Timeline

section Names

/-- The id of the n-th series of a process. -/
def seriesName (instanceID : String) (n : ℕ) : String := instanceID ++ "-" ++ toString n

lemma seriesName_injective (instanceID : String) : Function.Injective (seriesName instanceID) := by
  intro m n h
  have hlists : (instanceID ++ "-" ++ toString m).toList = (instanceID ++ "-" ++ toString n).toList :=
    congrArg String.toList h
  simp only [String.toList_append] at hlists
  exact Nat.repr_injective (String.toList_injective (List.append_cancel_left hlists))

end Names

section Tracking

/-- The observed time reaches back to the creation of the series, or for 25 hours. -/
def Covers (rec : Recording Load) : Prop :=
  ∀ t, rec.created ≤ t → t < rec.clock → cutoff rec.clock ≤ t → rec.held t ≠ none

lemma covers_start (now : ℤ) : Covers (Recorder.start now).recording := by
  intro t hcreated hclock
  simp only [Recorder.start, Recording.start] at hcreated hclock
  omega

lemma Covers.observeUntil {r : Recorder} (h : Covers r.recording) (now : ℤ) : Covers (r.observeUntil now).recording := by
  have hcutoff := cutoff_le now
  intro t hcreated hclock hnew
  have hend : (r.observeUntil now).recording.clock = max (max r.recording.clock (cutoff now)) now := rfl
  rw [hend] at hclock hnew
  by_cases hobserved : max r.recording.clock (cutoff now) ≤ t ∧ t < now
  · have hheld : (r.observeUntil now).recording.held t = some r.load :=
      Recording.held_observe_of_mem hobserved.1 hobserved.2
    rw [hheld]
    exact Option.some_ne_none _
  · by_cases hlt : t < r.recording.clock
    · have hheld : (r.observeUntil now).recording.held t = r.recording.held t :=
        Recording.held_observe_of_notMem (Or.inl (hlt.trans_le (le_max_left _ _)))
      rw [hheld]
      refine h t hcreated hlt ((cutoff_mono ?_).trans hnew)
      omega
    · -- Past the old clock, the instant is observed now or lies before the cutoff.
      have hlast : max (max r.recording.clock (cutoff now)) now = now := by omega
      rw [hlast] at hnew
      omega

lemma Covers.mark {rec : Recording Load} (h : Covers rec) (t : ℤ) (l : Load) : Covers (rec.mark t l) := h

/-- The series of a collector and their recorders. -/
structure Tracked (h : History) (R : String → Recorder) : Prop where
  key : ∀ key v, h.series.lookup key = some v → v.key = key
  name : ∀ key v, h.series.lookup key = some v → ∃ n ≤ h.nextSeries, v.instanceID = seriesName h.instanceID n
  apart : ∀ key v key' v', h.series.lookup key = some v → h.series.lookup key' = some v' →
    v.instanceID = v'.instanceID → key = key'
  represents : ∀ key v, h.series.lookup key = some v → Represents v (R v.instanceID)
  covers : ∀ key v, h.series.lookup key = some v → Covers (R v.instanceID).recording

/-- A later state of the collector: each series is carried on, or is new under a new name. -/
structure Moves (rel : Series → Series → Prop) (h h' : History) : Prop where
  same : h'.instanceID = h.instanceID
  next : h.nextSeries ≤ h'.nextSeries
  series : ∀ key v', h'.series.lookup key = some v' →
    (∃ v, h.series.lookup key = some v ∧ rel v v') ∨
      ∃ n v, h.nextSeries < n ∧ n ≤ h'.nextSeries ∧ v.instanceID = seriesName h.instanceID n ∧ v.buckets = ∅ ∧ rel v v'

variable {h h₁ h₂ h₃ h' : History} {R R' : String → Recorder} {rel rel' : Series → Series → Prop}

lemma Moves.mono (hle : ∀ v v', rel v v' → rel' v v') (hm : Moves rel h h') : Moves rel' h h' := by
  refine ⟨hm.same, hm.next, ?_⟩
  intro key v' hv'
  rcases hm.series key v' hv' with ⟨v, hv, hrel⟩ | ⟨n, v, hlt, hle', hname, hblank, hrel⟩
  · exact Or.inl ⟨v, hv, hle v v' hrel⟩
  · exact Or.inr ⟨n, v, hlt, hle', hname, hblank, hle v v' hrel⟩

lemma Moves.trans (htrans : ∀ u v w, rel u v → rel v w → rel u w) (hm : Moves rel h₁ h₂) (hm' : Moves rel h₂ h₃) :
    Moves rel h₁ h₃ := by
  refine ⟨hm'.same.trans hm.same, hm.next.trans hm'.next, ?_⟩
  intro key v₃ hv₃
  rcases hm'.series key v₃ hv₃ with ⟨v₂, hv₂, hrel⟩ | ⟨n, v, hlt, hle, hname, hblank, hrel⟩
  · rcases hm.series key v₂ hv₂ with ⟨v₁, hv₁, hrel₁⟩ | ⟨n, v, hlt, hle, hname, hblank, hrel₁⟩
    · exact Or.inl ⟨v₁, hv₁, htrans _ _ _ hrel₁ hrel⟩
    · exact Or.inr ⟨n, v, hlt, hle.trans hm'.next, hname, hblank, htrans _ _ _ hrel₁ hrel⟩
  · exact Or.inr ⟨n, v, hm.next.trans_lt hlt, hle, hm.same ▸ hname, hblank, hrel⟩

lemma Moves.refl (hrefl : ∀ v, rel v v) (h : History) : Moves rel h h :=
  ⟨rfl, le_rfl, fun _ v' hv' => Or.inl ⟨v', hv', hrefl v'⟩⟩

/-- No series is deleted, and every new name has its series. -/
structure Grows (h h' : History) : Prop where
  same : h'.instanceID = h.instanceID
  old : ∀ key v, h.series.lookup key = some v → ∃ v', h'.series.lookup key = some v' ∧ v'.instanceID = v.instanceID
  opened : ∀ n, h.nextSeries < n → n ≤ h'.nextSeries →
    ∃ key v', h'.series.lookup key = some v' ∧ v'.instanceID = seriesName h.instanceID n

lemma Grows.refl (h : History) : Grows h h := ⟨rfl, fun _ v hv => ⟨v, hv, rfl⟩, fun n hlt hle => by omega⟩

lemma Grows.trans (hg : Grows h₁ h₂) (hg' : Grows h₂ h₃) : Grows h₁ h₃ := by
  refine ⟨hg'.same.trans hg.same, ?_, ?_⟩
  · intro key v hv
    obtain ⟨v₂, hv₂, hid⟩ := hg.old key v hv
    obtain ⟨v₃, hv₃, hid₃⟩ := hg'.old key v₂ hv₂
    exact ⟨v₃, hv₃, hid₃.trans hid⟩
  · intro n hlt hle
    by_cases hfirst : n ≤ h₂.nextSeries
    · obtain ⟨key, v₂, hv₂, hid⟩ := hg.opened n hlt hfirst
      obtain ⟨v₃, hv₃, hid₃⟩ := hg'.old key v₂ hv₂
      exact ⟨key, v₃, hv₃, hid₃.trans hid⟩
    · obtain ⟨key, v₃, hv₃, hid⟩ := hg'.opened n (by omega) hle
      exact ⟨key, v₃, hv₃, hg.same ▸ hid⟩

lemma lookup_write {v : Series} {key : SeriesKey} (hkey : v.key = key) (h : History) (key' : SeriesKey) :
    (h.write v).series.lookup key' = if key' = key then some v else h.series.lookup key' := by
  rw [History.write, hkey]
  exact FiniteMap.lookup_insert ..

/-- One series is written, and its recorder with it. -/
lemma Tracked.write (hT : Tracked h R) {key : SeriesKey} {v v' : Series} {r' : Recorder}
    (hv : h.series.lookup key = some v) (hsame : SameSeries v v') (hrep : Represents v' r')
    (hcovers : Covers r'.recording) :
    Tracked (h.write v') (Function.update R v.instanceID r') := by
  have hkey : v'.key = key := hsame.2.trans (hT.key key v hv)
  have hlookup := lookup_write hkey h
  -- Every series of the new state has the id of the old one under its key.
  have hold : ∀ key' w, (h.write v').series.lookup key' = some w →
      ∃ w₀, h.series.lookup key' = some w₀ ∧ w.instanceID = w₀.instanceID ∧ (key' = key ∧ w = v' ∨ key' ≠ key ∧ w = w₀) := by
    intro key' w hw
    rw [hlookup] at hw
    split_ifs at hw with heq
    · cases hw
      exact ⟨v, heq ▸ hv, hsame.1, Or.inl ⟨heq, rfl⟩⟩
    · exact ⟨w, hw, rfl, Or.inr ⟨heq, rfl⟩⟩
  have hrecorder : ∀ key' w, (h.write v').series.lookup key' = some w →
      Represents w (Function.update R v.instanceID r' w.instanceID) ∧
        Covers (Function.update R v.instanceID r' w.instanceID).recording := by
    intro key' w hw
    obtain ⟨w₀, hw₀, hid, ⟨rfl, rfl⟩ | ⟨hne, rfl⟩⟩ := hold key' w hw
    · rw [hsame.1, Function.update_self]
      exact ⟨hrep, hcovers⟩
    · have hother : w.instanceID ≠ v.instanceID := fun heq => hne (hT.apart key' w key v hw₀ hv heq)
      rw [Function.update_of_ne hother]
      exact ⟨hT.represents key' w hw₀, hT.covers key' w hw₀⟩
  refine ⟨?_, ?_, ?_, fun key' w hw => (hrecorder key' w hw).1, fun key' w hw => (hrecorder key' w hw).2⟩
  · intro key' w hw
    obtain ⟨w₀, hw₀, -, ⟨rfl, rfl⟩ | ⟨-, rfl⟩⟩ := hold key' w hw
    · exact hkey
    · exact hT.key key' w hw₀
  · intro key' w hw
    obtain ⟨w₀, hw₀, hid, -⟩ := hold key' w hw
    rw [hid]
    exact hT.name key' w₀ hw₀
  · intro key₁ w₁ key₂ w₂ hw₁ hw₂ heq
    obtain ⟨u₁, hu₁, hid₁, -⟩ := hold key₁ w₁ hw₁
    obtain ⟨u₂, hu₂, hid₂, -⟩ := hold key₂ w₂ hw₂
    exact hT.apart key₁ u₁ key₂ u₂ hu₁ hu₂ (hid₁ ▸ hid₂ ▸ heq)

lemma Moves.write {key : SeriesKey} {v v' : Series} (hrefl : ∀ v, rel v v) (hkey : v'.key = key)
    (hv : h.series.lookup key = some v) (hrel : rel v v') : Moves rel h (h.write v') := by
  refine ⟨rfl, le_rfl, ?_⟩
  intro key' w hw
  rw [lookup_write hkey] at hw
  split_ifs at hw with heq
  · cases hw
    exact Or.inl ⟨v, heq ▸ hv, hrel⟩
  · exact Or.inl ⟨w, hw, hrefl w⟩

lemma Grows.write {key : SeriesKey} {v v' : Series} (hkey : v'.key = key) (hv : h.series.lookup key = some v)
    (hid : v'.instanceID = v.instanceID) : Grows h (h.write v') := by
  refine ⟨rfl, ?_, fun n hlt hle => absurd hle (not_le.mpr hlt)⟩
  intro key' w hw
  by_cases heq : key' = key
  · subst heq
    rw [hv] at hw
    cases hw
    exact ⟨v', by rw [lookup_write hkey, if_pos rfl], hid⟩
  · exact ⟨w, by rw [lookup_write hkey, if_neg heq]; exact hw, rfl⟩

/-- The recorders once the series of a key exists. -/
def opened (h : History) (R : String → Recorder) (key : SeriesKey) (now : ℤ) : String → Recorder :=
  match h.series.lookup key with
  | some _ => R
  | none => Function.update R (newSeries h key now).instanceID (Recorder.start now)

lemma represents_new (h : History) (key : SeriesKey) (now : ℤ) :
    Represents (newSeries h key now) (Recorder.start now) := by
  refine ⟨Recording.bounded_start now, rfl, fun _ => rfl, rfl, ?_, ?_⟩
  · intro start b hb
    cases hb
  · intro start _ halive _
    refine ⟨?_, ?_⟩
    · intro w
      exact Finset.sum_eq_zero fun _ _ => rfl
    · simp [Recorder.start, Recording.start, Recording.values]

/-- `series` opens a series under a name that no other has. -/
lemma findSeries_spec (hT : Tracked h R) (key : SeriesKey) (now : ℤ) :
    Tracked (findSeries h key now).1 (opened h R key now) ∧ Moves Quiet h (findSeries h key now).1 ∧
      Grows h (findSeries h key now).1 ∧
      (findSeries h key now).1.series.lookup key = some (findSeries h key now).2 := by
  unfold findSeries opened
  cases hlookup : h.series.lookup key with
  | some v => exact ⟨hT, Moves.refl Quiet.refl h, Grows.refl h, hlookup⟩
  | none =>
    have hname : (newSeries h key now).instanceID = seriesName h.instanceID (h.nextSeries + 1) := rfl
    have hfresh : ∀ key' w, h.series.lookup key' = some w → w.instanceID ≠ (newSeries h key now).instanceID := by
      intro key' w hw heq
      obtain ⟨n, hn, hid⟩ := hT.name key' w hw
      have := seriesName_injective _ (hid.symm.trans (heq.trans hname))
      omega
    have hcases : ∀ key' w, (h.series.insert key (newSeries h key now)).lookup key' = some w →
        key' = key ∧ w = newSeries h key now ∨ key' ≠ key ∧ h.series.lookup key' = some w := by
      intro key' w hw
      rw [FiniteMap.lookup_insert] at hw
      split_ifs at hw with heq
      · cases hw
        exact Or.inl ⟨heq, rfl⟩
      · exact Or.inr ⟨heq, hw⟩
    refine ⟨⟨?_, ?_, ?_, ?_, ?_⟩, ⟨rfl, Nat.le_succ _, ?_⟩, ⟨rfl, ?_, ?_⟩, AList.lookup_insert _⟩
    · intro key' w hw
      rcases hcases key' w hw with ⟨rfl, rfl⟩ | ⟨-, hw⟩
      · rfl
      · exact hT.key key' w hw
    · intro key' w hw
      rcases hcases key' w hw with ⟨rfl, rfl⟩ | ⟨-, hw⟩
      · exact ⟨h.nextSeries + 1, le_rfl, hname⟩
      · obtain ⟨n, hn, hid⟩ := hT.name key' w hw
        exact ⟨n, Nat.le_succ_of_le hn, hid⟩
    · intro key₁ w₁ key₂ w₂ hw₁ hw₂ heq
      rcases hcases key₁ w₁ hw₁ with ⟨rfl, rfl⟩ | ⟨-, hold₁⟩
      · rcases hcases key₂ w₂ hw₂ with ⟨rfl, -⟩ | ⟨-, hold₂⟩
        · rfl
        · exact absurd heq.symm (hfresh key₂ w₂ hold₂)
      · rcases hcases key₂ w₂ hw₂ with ⟨rfl, rfl⟩ | ⟨-, hold₂⟩
        · exact absurd heq (hfresh key₁ w₁ hold₁)
        · exact hT.apart key₁ w₁ key₂ w₂ hold₁ hold₂ heq
    · intro key' w hw
      rcases hcases key' w hw with ⟨rfl, rfl⟩ | ⟨-, hw⟩
      · simp only [Function.update_self]
        exact represents_new ..
      · simp only [Function.update_of_ne (hfresh key' w hw)]
        exact hT.represents key' w hw
    · intro key' w hw
      rcases hcases key' w hw with ⟨rfl, rfl⟩ | ⟨-, hw⟩
      · simp only [Function.update_self]
        exact covers_start now
      · simp only [Function.update_of_ne (hfresh key' w hw)]
        exact hT.covers key' w hw
    · intro key' w hw
      rcases hcases key' w hw with ⟨rfl, rfl⟩ | ⟨-, hw⟩
      · exact Or.inr ⟨h.nextSeries + 1, _, Nat.lt_succ_self _, le_rfl, hname, rfl, Quiet.refl _⟩
      · exact Or.inl ⟨w, hw, Quiet.refl w⟩
    · intro key' w hw
      have hne : key' ≠ key := by
        intro heq
        rw [heq, hlookup] at hw
        cases hw
      exact ⟨w, by rw [FiniteMap.lookup_insert, if_neg hne]; exact hw, rfl⟩
    · intro n hlt hle
      simp only at hle
      have hn : n = h.nextSeries + 1 := by omega
      subst hn
      exact ⟨key, newSeries h key now, AList.lookup_insert _, hname⟩

end Tracking

section Calls

variable {h : History} {R : String → Recorder}

/-- A snapshot that the collector has, and that is exact. -/
def Shown (h : History) (R : String → Recorder) (m : ConcurrencyMinute) : Prop :=
  ∃ key v b, h.series.lookup key = some v ∧ Shows v b m ∧ Exact (R v.instanceID).recording m

/-- The recorders after a change. -/
def changed (h : History) (R : String → Recorder) (caller : Caller) (delta now : ℤ) : String → Recorder :=
  let id := (findSeries h caller.key now).2.instanceID
  let R := opened h R caller.key now
  Function.update R id ((R id).change caller.userID delta now)

lemma changeHistory_spec (hT : Tracked h R) (caller : Caller) (delta now : ℤ) :
    ∃ h', changeHistory h caller delta now = some h' ∧ Tracked h' (changed h R caller delta now) ∧
      Moves Quiet h h' ∧ Grows h h' := by
  obtain ⟨hT₁, hmoves, hgrows, hv⟩ := findSeries_spec hT caller.key now
  unfold changeHistory changed
  generalize findSeries h caller.key now = found at hT₁ hmoves hgrows hv ⊢
  generalize opened h R caller.key now = R₁ at hT₁ ⊢
  obtain ⟨h₁, v⟩ := found
  have hrep := hT₁.represents _ v hv
  obtain ⟨v₁, hadvance, hrep₁, hframe, hlast⟩ := advance_spec hrep (max now v.last)
  have hclock : v₁.last = max now v.last := by omega
  obtain ⟨hrep₂, hquiet⟩ := hrep₁.change caller delta
  have hsame := (hframe.quiet.trans hquiet).same
  have hchange : (⟨(R₁ v.instanceID).load.change caller.userID delta,
      ((R₁ v.instanceID).observeUntil (max now v.last)).recording.mark v₁.last
        ((R₁ v.instanceID).load.change caller.userID delta)⟩ : Recorder) =
      (R₁ v.instanceID).change caller.userID delta now := by
    rw [Recorder.change, hrep.clock, hclock]
  have hkey := hsame.2.trans (hT₁.key _ v hv)
  refine ⟨h₁.write ((v₁.count caller delta v₁.last).mark v₁.last), ?_, ?_, ?_, ?_⟩
  · simp only [hadvance, Option.map_some, hclock]
  · dsimp only
    rw [← hchange]
    exact hT₁.write hv hsame hrep₂ ((hT₁.covers _ v hv).observeUntil _)
  · exact hmoves.trans (fun _ _ _ => Quiet.trans)
      (Moves.write Quiet.refl hkey hv (hframe.quiet.trans hquiet))
  · exact hgrows.trans (Grows.write hkey hv hsame.1)

/-- The recorders after a read. -/
def read (h : History) (R : String → Recorder) (key : SeriesKey) (now : ℤ) : String → Recorder :=
  let id := (findSeries h key now).2.instanceID
  let R := opened h R key now
  Function.update R id ((R id).observeUntil now)

lemma liveHistory_spec (hT : Tracked h R) (key : SeriesKey) (now : ℤ) :
    ∃ h' out counts, liveHistory h key now = some (h', out, counts) ∧ Tracked h' (read h R key now) ∧
      Moves Quiet h h' ∧ Grows h h' ∧ ∀ m ∈ out, Shown h' (read h R key now) m := by
  obtain ⟨hT₁, hmoves, hgrows, hv⟩ := findSeries_spec hT key now
  unfold liveHistory read
  generalize findSeries h key now = found at hT₁ hmoves hgrows hv ⊢
  generalize opened h R key now = R₁ at hT₁ ⊢
  obtain ⟨h₁, v⟩ := found
  obtain ⟨v', hadvance, hrep, hquiet, hout⟩ := liveMinutes_series (hT₁.represents _ v hv) now
  have hkey := hquiet.same.2.trans (hT₁.key _ v hv)
  simp only [hadvance, Option.map_some]
  refine ⟨_, _, _, rfl, ?_, ?_, ?_, ?_⟩
  · exact hT₁.write hv hquiet.same hrep ((hT₁.covers _ v hv).observeUntil _)
  · exact hmoves.trans (fun _ _ _ => Quiet.trans) (Moves.write Quiet.refl hkey hv hquiet)
  · exact hgrows.trans (Grows.write hkey hv hquiet.same.1)
  · intro m hm
    obtain ⟨hexact, b, hshows⟩ := hout m hm
    refine ⟨key, _, b, by rw [lookup_write hkey, if_pos rfl], hshows, ?_⟩
    rw [hquiet.same.1, Function.update_self]
    exact hexact

/-- The recorders after a flush has gone through some of the series. -/
def observedAll (now : ℤ) : List (Sigma fun _ : SeriesKey => Series) → (String → Recorder) → String → Recorder
  | [], R => R
  | e :: rest, R =>
    observedAll now rest (Function.update R e.2.instanceID ((R e.2.instanceID).observeUntil now))

lemma observedAll_of_notMem {now : ℤ} {id : String} {l : List (Sigma fun _ : SeriesKey => Series)}
    (hid : ∀ e ∈ l, e.2.instanceID ≠ id) (R : String → Recorder) : observedAll now l R id = R id := by
  induction l generalizing R with
  | nil => rfl
  | cons e l ih =>
    have hhead : id ≠ e.2.instanceID := (hid e List.mem_cons_self).symm
    rw [observedAll, ih fun x hx => hid x (List.mem_cons_of_mem e hx), Function.update_of_ne hhead]

/-- What a flush takes of a collector is shown by it, with the revision, and nothing unsaved is left out. -/
structure TakenFrom (h : History) (keys : List SeriesKey) (out : List PendingMinute) : Prop where
  shown : ∀ p ∈ out, ∃ key v b, h.series.lookup key = some v ∧ Shows v b p.value ∧ p.revision = b.revision ∧
    b.saved ≠ b.revision
  complete : ∀ key ∈ keys, ∀ v, h.series.lookup key = some v → ∀ start b, v.buckets.lookup start = some b →
    b.revision ≠ b.saved → ∃ p ∈ out, p.value.bucketStart = start ∧ p.value.instanceID = v.instanceID ∧
      p.revision = b.revision

lemma pendingLoop_spec (now : ℤ) (l : List (Sigma fun _ : SeriesKey => Series)) (hT : Tracked h R)
    (hl : ∀ e ∈ l, h.series.lookup e.1 = some e.2) (hnodup : l.NodupKeys) :
    ∃ h' out, pendingLoop now l h = some (h', out) ∧ Tracked h' (observedAll now l R) ∧ Moves Quiet h h' ∧
      Grows h h' ∧ (∀ key ∉ l.keys, h'.series.lookup key = h.series.lookup key) ∧
      (∀ p ∈ out, Shown h' (observedAll now l R) p.value) ∧ TakenFrom h' l.keys out := by
  induction l generalizing h R with
  | nil =>
    refine ⟨h, [], rfl, hT, Moves.refl Quiet.refl h, Grows.refl h, fun _ _ => rfl, by simp, by simp, ?_⟩
    intro key hkey
    cases hkey
  | cons e l ih =>
    obtain ⟨key, v⟩ := e
    have hv : h.series.lookup key = some v := hl ⟨key, v⟩ List.mem_cons_self
    obtain ⟨hfirst, hrest⟩ := List.nodupKeys_cons.mp hnodup
    obtain ⟨v', out, hseries, hrep, hquiet, hout, hcomplete⟩ := pendingMinutes_series (hT.represents key v hv) now
    have hkey : v'.key = key := hquiet.same.2.trans (hT.key key v hv)
    have hT₁ := hT.write hv hquiet.same hrep ((hT.covers key v hv).observeUntil now)
    have hother : ∀ e ∈ l, e.1 ≠ key := by
      intro e he heq
      have hmem : e.1 ∈ l.keys := List.mem_map_of_mem he
      exact hfirst (heq ▸ hmem)
    have hl₁ : ∀ e ∈ l, (h.write v').series.lookup e.1 = some e.2 := by
      intro e he
      rw [lookup_write hkey, if_neg (hother e he)]
      exact hl e (List.mem_cons_of_mem _ he)
    obtain ⟨h', later, hloop, hT', hmoves, hgrows, hframe, hshown, htaken⟩ := ih hT₁ hl₁ hrest
    have hwritten : h'.series.lookup key = some v' := by
      rw [hframe key hfirst, lookup_write hkey, if_pos rfl]
    have hrecorder : observedAll now l (Function.update R v.instanceID ((R v.instanceID).observeUntil now))
        v'.instanceID = (R v.instanceID).observeUntil now := by
      rw [observedAll_of_notMem, hquiet.same.1, Function.update_self]
      intro e he heq
      refine hother e he (hT₁.apart e.1 e.2 key v' (hl₁ e he) ?_ heq)
      rw [lookup_write hkey, if_pos rfl]
    refine ⟨h', out ++ later, ?_, hT', ?_, (Grows.write hkey hv hquiet.same.1).trans hgrows, ?_, ?_, ?_, ?_⟩
    · simp only [pendingLoop, hseries, Option.bind_some, hloop, Option.map_some]
    · exact (Moves.write Quiet.refl hkey hv hquiet).trans (fun _ _ _ => Quiet.trans) hmoves
    · intro key' hkey'
      have hnot : key' ≠ key ∧ key' ∉ l.keys := by simpa using hkey'
      rw [hframe key' hnot.2, lookup_write hkey, if_neg hnot.1]
    · intro p hp
      rcases List.mem_append.mp hp with hp | hp
      · obtain ⟨b, hshows, hexact, -⟩ := hout p hp
        exact ⟨key, v', b, hwritten, hshows, by rw [observedAll, hrecorder]; exact hexact⟩
      · exact hshown p hp
    · intro p hp
      rcases List.mem_append.mp hp with hp | hp
      · obtain ⟨b, hshows, -, hmarks⟩ := hout p hp
        exact ⟨key, v', b, hwritten, hshows, hmarks⟩
      · exact htaken.shown p hp
    · intro key' hkey' w hw start b hb hunsaved
      by_cases heq : key' = key
      · subst heq
        rw [hwritten] at hw
        cases hw
        obtain ⟨p, hp, hstart, hrevision⟩ := hcomplete start b hb hunsaved
        obtain ⟨b', hshows, -⟩ := hout p hp
        exact ⟨p, List.mem_append_left _ hp, hstart, hshows.2.1.1, hrevision⟩
      · have hmem : key' ∈ l.keys := (List.mem_cons.mp hkey').resolve_left heq
        obtain ⟨p, hp, hfacts⟩ := htaken.complete key' hmem w hw start b hb hunsaved
        exact ⟨p, List.mem_append_right _ hp, hfacts⟩

lemma pendingMinutes_spec (hT : Tracked h R) (now : ℤ) :
    ∃ h' out, pendingMinutes h now = some (h', out) ∧ Tracked h' (observedAll now h.series.entries R) ∧
      Moves Quiet h h' ∧ Grows h h' ∧ (∀ p ∈ out, Shown h' (observedAll now h.series.entries R) p.value) ∧
      TakenFrom h' h'.series.keys out := by
  obtain ⟨h', out, hloop, hT', hmoves, hgrows, hframe, hshown, htaken⟩ := pendingLoop_spec now h.series.entries hT
    (fun e he => FiniteMap.mem_entries_iff.mp he) h.series.nodupKeys
  refine ⟨h', out, hloop, hT', hmoves, hgrows, hshown, htaken.shown, ?_⟩
  intro key hkey
  by_cases hold : key ∈ h.series.keys
  · exact htaken.complete key hold
  · have hnone : h'.series.lookup key = none := by
      rw [hframe key hold]
      exact AList.lookup_eq_none.mpr hold
    exact absurd hkey (AList.lookup_eq_none.mp hnone)

end Calls

section Acknowledgement

variable {h : History} {R : String → Recorder}

/-- An acknowledgement writes to the mark of one bucket. -/
lemma represents_saved {v : Series} {r : Recorder} (h : Represents v r) {start : ℤ} {b : Bucket}
    (hb : v.buckets.lookup start = some b) (saved : ℕ) :
    Represents { v with buckets := v.buckets.insert start { b with saved := saved } } r ∧
      Settles v { v with buckets := v.buckets.insert start { b with saved := saved } } := by
  have hcases : ∀ start' b', (v.buckets.insert start { b with saved := saved }).lookup start' = some b' →
      ∃ b₀, v.buckets.lookup start' = some b₀ ∧ (b' = b₀ ∨ b' = { b₀ with saved := saved }) := by
    intro start' b' hb'
    rw [FiniteMap.lookup_insert] at hb'
    split_ifs at hb' with heq
    · cases hb'
      exact ⟨b, heq ▸ hb, Or.inr rfl⟩
    · exact ⟨b', hb', Or.inl rfl⟩
  have hnone : ∀ start', (v.buckets.insert start { b with saved := saved }).lookup start' = none →
      v.buckets.lookup start' = none := by
    intro start' hnone
    rw [FiniteMap.lookup_insert] at hnone
    split_ifs at hnone
    exact hnone
  refine ⟨⟨h.bounded, h.clock, h.count, h.total, ?_, ?_⟩, ⟨⟨rfl, rfl⟩, le_rfl, ?_, ?_, ?_⟩⟩
  · intro start' b' hb'
    obtain ⟨b₀, hb₀, rfl | rfl⟩ := hcases start' b' hb'
    · exact (h.fits start' b' hb₀).of_same ⟨rfl, rfl⟩ le_rfl (fun _ => rfl) rfl
    · have hfits := h.fits start' b₀ hb₀
      exact ⟨hfits.aligned, hfits.named, hfits.observed, hfits.peak, hfits.seconds, hfits.dropped, hfits.revision,
        hfits.snapshot⟩
  · intro start' haligned halive hmissing
    exact h.fresh start' haligned halive (hnone start' hmissing)
  · intro start' b' hb'
    obtain ⟨b₀, hb₀, rfl | rfl⟩ := hcases start' b' hb'
    · exact Or.inl ⟨b', hb₀, Carries.refl b'⟩
    · exact Or.inl ⟨b₀, hb₀, le_rfl, fun _ m hm => hm⟩
  · intro start' b₁ b' _ hb₁ hb'
    obtain ⟨b₀, hb₀, rfl | rfl⟩ := hcases start' b' hb'
    · rw [hb₁] at hb₀
      cases hb₀
      rfl
    · rw [hb₁] at hb₀
      cases hb₀
      rfl
  · intro start' b₁ hb₁ hmissing
    rw [hnone start' hmissing] at hb₁
    cases hb₁

lemma acknowledged_spec {p : PendingMinute} {v : Series} {b : Bucket} (h' : acknowledged h p = some (v, b)) :
    h.series.lookup p.value.key = some v ∧ v.buckets.lookup p.value.bucketStart = some b ∧
      b.minute.instanceID = p.value.instanceID := by
  unfold acknowledged at h'
  obtain ⟨v', hv, h'⟩ := Option.bind_eq_some_iff.mp h'
  obtain ⟨b', hb, h'⟩ := Option.bind_eq_some_iff.mp h'
  split_ifs at h' with hid
  cases h'
  exact ⟨hv, hb, hid⟩

lemma acknowledge_spec (hT : Tracked h R) (p : PendingMinute) :
    Tracked (acknowledge h p) R ∧ Moves Settles h (acknowledge h p) ∧ Grows h (acknowledge h p) := by
  unfold acknowledge
  split
  · next v b hfound =>
    obtain ⟨hv, hb, -⟩ := acknowledged_spec hfound
    obtain ⟨hrep, hsettles⟩ := represents_saved (hT.represents _ v hv) hb (max b.saved p.revision)
    have hT' := hT.write hv hsettles.same hrep (hT.covers _ v hv)
    rw [Function.update_eq_self] at hT'
    exact ⟨hT', Moves.write (fun v => (Quiet.refl v).toSettles) (hT.key _ v hv) hv hsettles,
      Grows.write (hT.key _ v hv) hv rfl⟩
  · exact ⟨hT, Moves.refl (fun v => (Quiet.refl v).toSettles) h, Grows.refl h⟩

lemma foldl_acknowledge_spec (pending : List PendingMinute) (hT : Tracked h R) :
    Tracked (pending.foldl acknowledge h) R ∧ Moves Settles h (pending.foldl acknowledge h) ∧
      Grows h (pending.foldl acknowledge h) := by
  induction pending generalizing h with
  | nil => exact ⟨hT, Moves.refl (fun v => (Quiet.refl v).toSettles) h, Grows.refl h⟩
  | cons p pending ih =>
    obtain ⟨hT₁, hmoves, hgrows⟩ := acknowledge_spec hT p
    obtain ⟨hT₂, hmoves₂, hgrows₂⟩ := ih hT₁
    exact ⟨hT₂, hmoves.trans (fun _ _ _ => Settles.trans) hmoves₂, hgrows.trans hgrows₂⟩

/-- Deleting series leaves the others as they are. -/
lemma Tracked.keep (hT : Tracked h R) (p : SeriesKey → Series → Bool) :
    Tracked { h with series := h.series.keep p } R ∧ Moves Settles h { h with series := h.series.keep p } := by
  have hsub : ∀ key v, (h.series.keep p).lookup key = some v → h.series.lookup key = some v :=
    fun key v hv => (FiniteMap.lookup_keep_eq_some.mp hv).1
  refine ⟨⟨fun key v hv => hT.key key v (hsub key v hv), fun key v hv => hT.name key v (hsub key v hv), ?_,
    fun key v hv => hT.represents key v (hsub key v hv), fun key v hv => hT.covers key v (hsub key v hv)⟩,
    rfl, le_rfl, ?_⟩
  · intro key v key' v' hv hv'
    exact hT.apart key v key' v' (hsub key v hv) (hsub key' v' hv')
  · intro key v hv
    exact Or.inl ⟨v, hsub key v hv, (Quiet.refl v).toSettles⟩

lemma acknowledgeMinutes_spec (hT : Tracked h R) (pending : List PendingMinute) :
    Tracked (acknowledgeMinutes h pending) R ∧ Moves Settles h (acknowledgeMinutes h pending) := by
  obtain ⟨hT₁, hmoves, -⟩ := foldl_acknowledge_spec pending hT
  obtain ⟨hT₂, hmoves₂⟩ := hT₁.keep fun key v =>
    !(decide (key ∈ (pending.filter fun p => (acknowledged h p).isSome).map fun p => p.value.key) && v.disposable)
  exact ⟨hT₂, hmoves.trans (fun _ _ _ => Settles.trans) hmoves₂⟩

end Acknowledgement

section Runs

/-- A call of the collector. -/
inductive Call
  | changeHistory (caller : Caller) (delta now : ℤ)
  | pendingMinutes (now : ℤ)
  | liveHistory (key : SeriesKey) (now : ℤ)
  | acknowledgeMinutes (pending : List PendingMinute)

/-- A snapshot that was handed out, with the recording of its series at that moment. -/
structure Publication where
  value : ConcurrencyMinute
  recording : Recording Load

/-- The minute was over when the snapshot was handed out. -/
def Publication.Completed (p : Publication) : Prop := p.value.bucketStart + minute ≤ p.recording.clock

structure System where
  history : History
  recorders : String → Recorder
  published : List Publication

def System.publish (s : System) (h : History) (R : String → Recorder) (out : List ConcurrencyMinute) : System :=
  ⟨h, R, s.published ++ out.map fun m => ⟨m, (R m.instanceID).recording⟩⟩

def step (s : System) : Call → Option System
  | .changeHistory caller delta now =>
    (changeHistory s.history caller delta now).map fun h => s.publish h (changed s.history s.recorders caller delta now) []
  | .pendingMinutes now =>
    (pendingMinutes s.history now).map fun (h, out) =>
      s.publish h (observedAll now s.history.series.entries s.recorders) (out.map PendingMinute.value)
  | .liveHistory key now =>
    (liveHistory s.history key now).map fun (h, out, _) => s.publish h (read s.history s.recorders key now) out
  | .acknowledgeMinutes pending => some (s.publish (acknowledgeMinutes s.history pending) s.recorders [])

/-- `none` when a call panics. -/
def run (s : System) : List Call → Option System
  | [] => some s
  | call :: calls => (step s call).bind fun s => run s calls

/-- A new controller. -/
def initial (instanceID : String) : System := ⟨⟨instanceID, 0, ∅⟩, fun _ => Recorder.start 0, []⟩

/-- The invariant of every run. -/
structure Sound (s : System) : Prop where
  tracked : Tracked s.history s.recorders
  named : ∀ p ∈ s.published, ∃ n ≤ s.history.nextSeries, p.value.instanceID = seriesName s.history.instanceID n
  exact : ∀ p ∈ s.published, Exact p.recording p.value
  covers : ∀ p ∈ s.published, p.recording.Bounded ∧ Covers p.recording
  settled : ∀ p ∈ s.published, p.Completed → ∀ key v, s.history.series.lookup key = some v →
    v.instanceID = p.value.instanceID → p.value.bucketStart + minute ≤ v.last ∧
      ∀ b, v.buckets.lookup p.value.bucketStart = some b → Current b p.value
  unchanged : s.published.Pairwise fun p q => p.Completed → q.value.instanceID = p.value.instanceID →
    q.value.bucketStart = p.value.bucketStart → q.value = p.value

lemma sound_initial (instanceID : String) : Sound (initial instanceID) := by
  refine ⟨⟨?_, ?_, ?_, ?_, ?_⟩, ?_, ?_, ?_, ?_, List.Pairwise.nil⟩ <;> simp [initial]

lemma current_unique {b : Bucket} {m m' : ConcurrencyMinute} (h : Current b m) (h' : Current b m') : m = m' := by
  have heq := h.1.symm.trans h'.1
  injection heq

/-- A snapshot of an earlier incarnation or of the same series: the series that has its id now was
there when it was published. -/
lemma Sound.old_series {s : System} (hs : Sound s) {h : History} (hmoves : Moves Settles s.history h) {p : Publication}
    (hp : p ∈ s.published) {key : SeriesKey} {v' : Series} (hv' : h.series.lookup key = some v')
    (hid : v'.instanceID = p.value.instanceID) :
    ∃ v, s.history.series.lookup key = some v ∧ Settles v v' ∧ v.instanceID = p.value.instanceID := by
  rcases hmoves.series key v' hv' with ⟨v, hv, hsettles⟩ | ⟨n, v, hlt, -, hname, -, hsettles⟩
  · exact ⟨v, hv, hsettles, hsettles.same.1.symm.trans hid⟩
  · obtain ⟨k, hk, hname'⟩ := hs.named p hp
    have heq := hname.symm.trans (hsettles.same.1.symm.trans (hid.trans hname'))
    have := seriesName_injective _ heq
    omega

lemma Sound.still_settled {s : System} (hs : Sound s) {h : History} (hmoves : Moves Settles s.history h)
    {p : Publication} (hp : p ∈ s.published) (hdone : p.Completed) {key : SeriesKey} {v' : Series}
    (hv' : h.series.lookup key = some v') (hid : v'.instanceID = p.value.instanceID) :
    p.value.bucketStart + minute ≤ v'.last ∧
      ∀ b, v'.buckets.lookup p.value.bucketStart = some b → Current b p.value := by
  obtain ⟨v, hv, hsettles, hidv⟩ := hs.old_series hmoves hp hv' hid
  obtain ⟨hover, hcurrent⟩ := hs.settled p hp hdone key v hv hidv
  refine ⟨hover.trans hsettles.last, ?_⟩
  intro b' hb'
  rcases hsettles.buckets _ b' hb' with ⟨b, hb, -⟩ | ⟨-, halive, -⟩
  · exact hsettles.current hover hb (hcurrent b hb) hb'
  · omega

lemma Sound.publish {s : System} (hs : Sound s) {h : History} {R : String → Recorder} (hT : Tracked h R)
    (hmoves : Moves Settles s.history h) {out : List ConcurrencyMinute} (hshown : ∀ m ∈ out, Shown h R m) :
    Sound (s.publish h R out) := by
  have hnew : ∀ p ∈ out.map (fun m => (⟨m, (R m.instanceID).recording⟩ : Publication)),
      ∃ key v b, h.series.lookup key = some v ∧ Shows v b p.value ∧ Exact p.recording p.value ∧
        p.recording = (R v.instanceID).recording := by
    intro p hp
    obtain ⟨m, hm, rfl⟩ := List.mem_map.mp hp
    obtain ⟨key, v, b, hv, hshows, hexact⟩ := hshown m hm
    have hid : m.instanceID = v.instanceID := hshows.2.1.1
    exact ⟨key, v, b, hv, hshows, hid ▸ hexact, by rw [hid]⟩
  -- Two snapshots of one minute that a state shows are the same.
  have hsame : ∀ p ∈ out.map (fun m => (⟨m, (R m.instanceID).recording⟩ : Publication)), ∀ key v,
      h.series.lookup key = some v → v.instanceID = p.value.instanceID →
        ∀ b, v.buckets.lookup p.value.bucketStart = some b → Current b p.value := by
    intro p hp key v hv hid b hb
    obtain ⟨key', v', b', hv', ⟨hb', hnamed, hcurrent⟩, -, -⟩ := hnew p hp
    obtain rfl := hT.apart key v key' v' hv hv' (hid.trans hnamed.1)
    rw [hv] at hv'
    cases hv'
    rw [hb] at hb'
    cases hb'
    exact hcurrent
  refine ⟨hT, ?_, ?_, ?_, ?_, ?_⟩
  · intro p hp
    rcases List.mem_append.mp hp with hp | hp
    · obtain ⟨n, hn, hname⟩ := hs.named p hp
      exact ⟨n, hn.trans hmoves.next, hmoves.same ▸ hname⟩
    · obtain ⟨key, v, b, hv, hshows, -, -⟩ := hnew p hp
      obtain ⟨n, hn, hname⟩ := hT.name key v hv
      exact ⟨n, hn, hshows.2.1.1.trans hname⟩
  · intro p hp
    rcases List.mem_append.mp hp with hp | hp
    · exact hs.exact p hp
    · obtain ⟨-, -, -, -, -, hexact, -⟩ := hnew p hp
      exact hexact
  · intro p hp
    rcases List.mem_append.mp hp with hp | hp
    · exact hs.covers p hp
    · obtain ⟨key, v, -, hv, -, -, hrec⟩ := hnew p hp
      rw [hrec]
      exact ⟨(hT.represents key v hv).bounded, hT.covers key v hv⟩
  · intro p hp hdone key v hv hid
    rcases List.mem_append.mp hp with hp | hp
    · exact hs.still_settled hmoves hp hdone hv hid
    · refine ⟨?_, hsame p hp key v hv hid⟩
      have hv : h.series.lookup key = some v := hv
      obtain ⟨key', v', b', hv', ⟨-, hnamed, -⟩, -, hrec⟩ := hnew p hp
      obtain rfl := hT.apart key v key' v' hv hv' (hid.trans hnamed.1)
      rw [hv] at hv'
      cases hv'
      rw [Publication.Completed, hrec, (hT.represents key v hv).clock] at hdone
      exact hdone
  · refine List.pairwise_append.mpr ⟨hs.unchanged, ?_, ?_⟩
    · refine List.Pairwise.imp_of_mem (R := fun _ _ => True) ?_ (List.pairwise_of_forall fun _ _ => trivial)
      intro p q hp hq _ _ hid hstart
      obtain ⟨key, v, b, hv, ⟨hb, hnamed, hcurrent⟩, -, -⟩ := hnew q hq
      exact current_unique hcurrent (hsame p hp key v hv (hnamed.1.symm.trans hid) b (hstart ▸ hb))
    · intro p hp q hq hdone hid hstart
      obtain ⟨key, v, b, hv, ⟨hb, hnamed, hcurrent⟩, -, -⟩ := hnew q hq
      have hsettled := hs.still_settled hmoves hp hdone hv (hnamed.1.symm.trans hid)
      exact current_unique hcurrent (hsettled.2 b (hstart ▸ hb))

lemma Moves.settles {h h' : History} (hm : Moves Quiet h h') : Moves Settles h h' :=
  hm.mono fun _ _ => Quiet.toSettles

lemma step_sound {s : System} (hs : Sound s) (call : Call) : ∃ s', step s call = some s' ∧ Sound s' := by
  cases call with
  | changeHistory caller delta now =>
    obtain ⟨h', hcall, hT, hmoves, -⟩ := changeHistory_spec hs.tracked caller delta now
    have hstep : step s (.changeHistory caller delta now) =
        some (s.publish h' (changed s.history s.recorders caller delta now) []) := by
      simp only [step, hcall, Option.map_some]
    exact ⟨_, hstep, hs.publish hT hmoves.settles (by simp)⟩
  | pendingMinutes now =>
    obtain ⟨h', out, hcall, hT, hmoves, -, hshown, -⟩ := pendingMinutes_spec hs.tracked now
    have hstep : step s (.pendingMinutes now) = some (s.publish h'
        (observedAll now s.history.series.entries s.recorders) (out.map PendingMinute.value)) := by
      simp only [step, hcall, Option.map_some]
    refine ⟨_, hstep, hs.publish hT hmoves.settles ?_⟩
    intro m hm
    obtain ⟨p, hp, rfl⟩ := List.mem_map.mp hm
    exact hshown p hp
  | liveHistory key now =>
    obtain ⟨h', out, counts, hcall, hT, hmoves, -, hshown⟩ := liveHistory_spec hs.tracked key now
    have hstep : step s (.liveHistory key now) = some (s.publish h' (read s.history s.recorders key now) out) := by
      simp only [step, hcall, Option.map_some]
    exact ⟨_, hstep, hs.publish hT hmoves.settles hshown⟩
  | acknowledgeMinutes pending =>
    obtain ⟨hT, hmoves⟩ := acknowledgeMinutes_spec hs.tracked pending
    exact ⟨_, rfl, hs.publish hT hmoves (by simp)⟩

lemma run_sound (calls : List Call) {s : System} (hs : Sound s) : ∃ s', run s calls = some s' ∧ Sound s' := by
  induction calls generalizing s with
  | nil => exact ⟨s, rfl, hs⟩
  | cons call calls ih =>
    obtain ⟨s₁, hstep, hs₁⟩ := step_sound hs call
    obtain ⟨s₂, hrun, hs₂⟩ := ih hs₁
    exact ⟨s₂, by rw [run, hstep, Option.bind_some, hrun], hs₂⟩

/-- No call panics, every snapshot is the integral over its minute at the time it is handed out, that of a
completed minute never changes, and a dropped map is never needed again. The observed part of a minute newer than
25 hours is what lies between the creation of the series and its clock. -/
theorem history_is_integral (instanceID : String) (calls : List Call) :
    ∃ s, run (initial instanceID) calls = some s ∧
      (∀ p ∈ s.published, Exact p.recording p.value ∧ p.value.observedSeconds ≤ minute ∧
        (cutoff p.recording.clock ≤ p.value.bucketStart → ∀ t, p.value.bucketStart ≤ t →
          t < p.value.bucketStart + minute →
            (p.recording.held t ≠ none ↔ p.recording.created ≤ t ∧ t < p.recording.clock))) ∧
      (s.published.Pairwise fun p q => p.Completed → q.value.instanceID = p.value.instanceID →
        q.value.bucketStart = p.value.bucketStart → q.value = p.value) ∧
      ∀ key v, s.history.series.lookup key = some v → ∀ start b, v.buckets.lookup start = some b →
        b.seconds = none → start + minute ≤ v.last ∧ b.snapshot ≠ none ∧ b.snapshotRevision = b.revision := by
  obtain ⟨s, hrun, hs⟩ := run_sound calls (sound_initial instanceID)
  refine ⟨s, hrun, ?_, hs.unchanged, ?_⟩
  · intro p hp
    have hexact := hs.exact p hp
    obtain ⟨hbounded, hcovers⟩ := hs.covers p hp
    refine ⟨hexact, ?_, ?_⟩
    · have hlength : 0 ≤ minute := by decide
      have hle := p.recording.integral_one_le (s := p.value.bucketStart) (e := p.value.bucketStart + minute) (by omega)
      rw [hexact.observed]
      omega
    · intro hrecent t hstart _
      exact ⟨hbounded.held t, fun ht => hcovers t ht.1 ht.2 (hrecent.trans hstart)⟩
  · intro key v hv start b hb hnone
    have hrep := hs.tracked.represents key v hv
    have hdropped := (hrep.fits start b hb).dropped hnone
    rw [hrep.clock] at hdropped
    exact hdropped

end Runs

end ShareSub.HistorySystem

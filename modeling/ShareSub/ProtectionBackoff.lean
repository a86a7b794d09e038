import Mathlib
import ShareSub.ProtectionRate

/-!
# The back-offs of an API key

A back-off is written over an earlier one that ends before it, and it can be dropped once it has passed. So the end
that a call leaves is determined by the delay that it takes from the header.
-/
namespace ShareSub.ProtectionBackoff

open TrafficModel (zeroTime)
open GatewayModel (trimSpace)
open ProtectionModel ProtectionRate

section Kinds

/-- The header asks for a number of seconds whose product in nanoseconds, taken modulo `2^64`, is below a second or has
the sign bit set. -/
def WrapsShort (retryAfter : String) : Prop :=
  ∃ seconds, atoi (trimSpace retryAfter) = some seconds ∧ 0 < seconds ∧
    (seconds * second % 2 ^ 64 < second ∨ 2 ^ 63 ≤ seconds * second % 2 ^ 64)

/-- The readings of the clock that a step uses are before the given one. -/
def ReadsBefore (bound : ℤ) : Step → Prop
  | .admitAPIKey _ now => now < bound
  | .backoffAPIKey _ _ now => now < bound
  | .blockModel _ now => now < bound
  | .modelBlocked _ now => now < bound
  | .clearModel _ => True

/-- What a call of `backoffAPIKey` at `now` promises. The key is refused until a second has passed, whatever else is
called with readings up to then. -/
structure BacksOff (s : System) (apiKeyID retryAfter : String) (now : ℤ) : Prop where
  least : now + second ≤ (backoffAPIKey s.state apiKeyID retryAfter now).backoff apiKeyID
  most : (backoffAPIKey s.state apiKeyID retryAfter now).backoff apiKeyID ≤
    max (s.state.backoff apiKeyID) (now + maximumTransientBackoff)
  monotone : s.state.backoff apiKeyID ≤ (backoffAPIKey s.state apiKeyID retryAfter now).backoff apiKeyID ∨
    s.state.backoff apiKeyID ≤ now ∧ (backoffAPIKey s.state apiKeyID retryAfter now).keyBackoffs.lookup apiKeyID = none
  refused : ∀ later : List Step, (∀ a ∈ later, ReadsBefore (now + second) a) → ∀ instant, now ≤ instant →
    instant < now + second →
      (admitAPIKey (later.foldl step (step s (.backoffAPIKey apiKeyID retryAfter now))).state apiKeyID instant).2.1 = false

end Kinds

section Delays

variable {retryAfter : String}

lemma transientDelay_le (retryAfter : String) : transientDelay retryAfter ≤ maximumTransientBackoff := min_le_right _ _

/-- The signed product is at least a second exactly when the unsigned one is, without its sign bit. -/
lemma second_le_bmod_iff (n : ℤ) :
    second ≤ Int.bmod n (2 ^ 64) ↔ ¬ (n % 2 ^ 64 < second ∨ 2 ^ 63 ≤ n % 2 ^ 64) := by
  have hlow : (0 : ℤ) ≤ n % 2 ^ 64 := Int.emod_nonneg _ (by norm_num)
  have hhigh : n % 2 ^ 64 < 2 ^ 64 := Int.emod_lt_of_pos _ (by norm_num)
  rw [Int.bmod_def]
  unfold second
  norm_num at hlow hhigh ⊢
  split_ifs with h <;> omega

lemma second_le_transientDelay_iff : second ≤ transientDelay retryAfter ↔ ¬ WrapsShort retryAfter := by
  have hmax : second ≤ maximumTransientBackoff := by decide
  unfold transientDelay
  rw [le_min_iff, and_iff_left hmax]
  cases hatoi : atoi (trimSpace retryAfter) with
  | none => simp [WrapsShort, hatoi, defaultTransientBackoff]
  | some seconds =>
    dsimp only
    split_ifs with hpos
    · rw [second_le_bmod_iff]
      simp only [WrapsShort, hatoi, Option.some.injEq, exists_eq_left', hpos, true_and]
    · have hnot : ¬ WrapsShort retryAfter := by
        rintro ⟨n, hn, hpos', -⟩
        rw [hatoi, Option.some.injEq] at hn
        exact hpos (hn ▸ hpos')
      exact iff_of_true le_rfl hnot

end Delays

section Ends

variable {s : Protection} {key apiKeyID retryAfter : String} {now bound : ℤ}

/-- Pruning drops nothing but ends that have passed. -/
lemma lookup_pruneLocked (s : Protection) (key : String) (now : ℤ) :
    (s.pruneLocked now).keyBackoffs.lookup key = s.keyBackoffs.lookup key ∨
      (s.pruneLocked now).keyBackoffs.lookup key = none ∧ ∃ until_ ≤ now, s.keyBackoffs.lookup key = some until_ := by
  unfold Protection.pruneLocked dropWhenLarge
  dsimp only
  split_ifs with hlarge
  · rw [FiniteMap.lookup_keep]
    cases hlookup : s.keyBackoffs.lookup key with
    | none => exact Or.inl rfl
    | some until_ =>
      by_cases hpast : until_ ≤ now
      · exact Or.inr ⟨by simp [Option.filter, hpast], until_, hpast, rfl⟩
      · exact Or.inl (by simp [Option.filter, hpast])
  · exact Or.inl rfl

lemma backoff_pruneLocked (s : Protection) (key : String) (now : ℤ) :
    (s.pruneLocked now).backoff key = s.backoff key ∨
      (s.pruneLocked now).keyBackoffs.lookup key = none ∧ s.backoff key ≤ now := by
  unfold Protection.backoff
  rcases lookup_pruneLocked s key now with h | ⟨hnone, until_, hpast, h⟩
  · exact Or.inl (by rw [h])
  · exact Or.inr ⟨hnone, by rwa [h, Option.getD_some]⟩

lemma le_backoff_pruneLocked (h : bound ≤ s.backoff key) (hnow : now < bound) :
    bound ≤ (s.pruneLocked now).backoff key := by
  rcases backoff_pruneLocked s key now with heq | ⟨-, hpast⟩
  · rwa [heq]
  · omega

/-- The write of `backoffAPIKey`, before it prunes. -/
def written (s : Protection) (apiKeyID retryAfter : String) (now : ℤ) : Protection :=
  if s.backoff apiKeyID < now + transientDelay retryAfter then
    { s with keyBackoffs := s.keyBackoffs.insert apiKeyID (now + transientDelay retryAfter) }
  else s

lemma backoffAPIKey_eq (hkey : trimSpace apiKeyID ≠ "") :
    backoffAPIKey s apiKeyID retryAfter now = (written s apiKeyID retryAfter now).pruneLocked now := by
  rw [backoffAPIKey, if_neg hkey]
  rfl

lemma backoff_written (s : Protection) (apiKeyID retryAfter : String) (now : ℤ) :
    (written s apiKeyID retryAfter now).backoff apiKeyID =
      max (s.backoff apiKeyID) (now + transientDelay retryAfter) := by
  unfold written
  split_ifs with h
  · rw [max_eq_right h.le]
    unfold Protection.backoff
    rw [FiniteMap.lookup_insert, if_pos rfl, Option.getD_some]
  · rw [max_eq_left (not_lt.mp h)]

lemma le_backoff_written (h : bound ≤ s.backoff key) : bound ≤ (written s apiKeyID retryAfter now).backoff key := by
  by_cases hsame : key = apiKeyID
  · subst hsame
    rw [backoff_written]
    exact le_max_of_le_left h
  · unfold written
    split_ifs with hlt
    · unfold Protection.backoff
      rw [FiniteMap.lookup_insert, if_neg hsame]
      exact h
    · exact h

lemma admitAPIKey_backoff (h : bound ≤ s.backoff key) (hnow : now < bound) :
    bound ≤ (admitAPIKey s apiKeyID now).1.backoff key := by
  have hprune := le_backoff_pruneLocked h hnow
  unfold admitAPIKey
  dsimp only
  split_ifs
  · exact h
  all_goals exact hprune

lemma backoffAPIKey_backoff (h : bound ≤ s.backoff key) (hnow : now < bound) :
    bound ≤ (backoffAPIKey s apiKeyID retryAfter now).backoff key := by
  by_cases hkey : trimSpace apiKeyID = ""
  · rwa [backoffAPIKey, if_pos hkey]
  · rw [backoffAPIKey_eq hkey]
    exact le_backoff_pruneLocked (le_backoff_written h) hnow

lemma blockModel_backoff {model : String} (h : bound ≤ s.backoff key) (hnow : now < bound) :
    bound ≤ (blockModel s model now).backoff key := by
  unfold blockModel
  split_ifs
  · exact h
  · exact le_backoff_pruneLocked h hnow

lemma modelBlocked_backoff (model : String) : (modelBlocked s model now).1.backoff key = s.backoff key := by
  unfold modelBlocked
  split_ifs <;> rfl

/-- An end that has not passed is kept or moved on. -/
lemma step_backoff {s : System} {a : Step} (h : bound ≤ s.state.backoff key) (ha : ReadsBefore bound a) :
    bound ≤ (step s a).state.backoff key := by
  cases a with
  | admitAPIKey apiKeyID now => exact admitAPIKey_backoff h ha
  | backoffAPIKey apiKeyID retryAfter now => exact backoffAPIKey_backoff h ha
  | blockModel model now => exact blockModel_backoff h ha
  | modelBlocked model now => exact (modelBlocked_backoff model).symm ▸ h
  | clearModel model => exact h

lemma run_backoff (later : List Step) {s : System} (h : bound ≤ s.state.backoff key)
    (hlater : ∀ a ∈ later, ReadsBefore bound a) : bound ≤ (later.foldl step s).state.backoff key := by
  induction later generalizing s with
  | nil => exact h
  | cons a later ih =>
    exact ih (step_backoff h (hlater a (List.mem_cons_self ..))) fun b hb => hlater b (List.mem_cons_of_mem a hb)

lemma refused_of_backoff (hrpm : 0 < s.apiKeyRPM) (hkey : trimSpace key ≠ "") (h : bound ≤ s.backoff key)
    (hnow : now < bound) : (admitAPIKey s key now).2.1 = false := by
  have hprune := le_backoff_pruneLocked h hnow
  rcases admitAPIKey_cases hrpm hkey now with ⟨-, hcall⟩ | ⟨hpast, -⟩ | ⟨hpast, -⟩
  · rw [hcall]
  · omega
  · omega

end Ends

section Runs

/-- The limit is positive, and an end was written over the zero time. -/
structure Started (s : Protection) : Prop where
  rpm : 0 < s.apiKeyRPM
  ends : ∀ key until_, s.keyBackoffs.lookup key = some until_ → zeroTime < until_

variable {s : Protection} {apiKeyID retryAfter : String} {now : ℤ}

lemma Started.pruneLocked (h : Started s) (now : ℤ) : Started (s.pruneLocked now) :=
  ⟨h.rpm, fun key until_ hlookup => h.ends key until_ (lookup_dropWhenLarge hlookup)⟩

lemma Started.zeroTime_le (h : Started s) (key : String) : zeroTime ≤ s.backoff key := by
  unfold Protection.backoff
  cases hlookup : s.keyBackoffs.lookup key with
  | none => exact le_rfl
  | some until_ => exact (h.ends key until_ hlookup).le

lemma Started.written (h : Started s) : Started (written s apiKeyID retryAfter now) := by
  unfold ProtectionBackoff.written
  split_ifs with hlt
  · refine ⟨h.rpm, ?_⟩
    intro key until_ hlookup
    rw [FiniteMap.lookup_insert] at hlookup
    split_ifs at hlookup with hsame
    · cases hlookup
      exact (h.zeroTime_le apiKeyID).trans_lt hlt
    · exact h.ends key until_ hlookup
  · exact h

lemma Started.step {s : System} (h : Started s.state) (a : Step) : Started (step s a).state := by
  refine ⟨step_apiKeyRPM s a ▸ h.rpm, ?_⟩
  have hprune := fun now => (h.pruneLocked now).ends
  cases a with
  | admitAPIKey apiKeyID now =>
    simp only [ProtectionModel.step, admitAPIKey]
    split_ifs
    · exact h.ends
    all_goals exact hprune now
  | backoffAPIKey apiKeyID retryAfter now =>
    by_cases hkey : trimSpace apiKeyID = ""
    · simpa only [ProtectionModel.step, backoffAPIKey, if_pos hkey] using h.ends
    · simpa only [ProtectionModel.step, backoffAPIKey_eq hkey] using (h.written.pruneLocked now).ends
  | blockModel model now =>
    simp only [ProtectionModel.step, blockModel]
    split_ifs
    · exact h.ends
    · exact hprune now
  | modelBlocked model now =>
    simp only [ProtectionModel.step, modelBlocked]
    split_ifs
    all_goals exact h.ends
  | clearModel model => exact h.ends

lemma Started.foldl (steps : List Step) {s : System} (h : Started s.state) : Started (steps.foldl ProtectionModel.step s).state := by
  induction steps generalizing s with
  | nil => exact h
  | cons a steps ih => exact ih (h.step a)

lemma started_initial (apiKeyRPM : ℤ) : Started (initial apiKeyRPM).state := by
  refine ⟨(limited_initial apiKeyRPM "").rpm, ?_⟩
  intro key until_ hlookup
  cases hlookup

/-- A long enough delay, or an end that is far enough already, gives all that the call promises. -/
lemma backsOff_of_le {s : System} (hs : Started s.state) (hkey : trimSpace apiKeyID ≠ "")
    (h : now + second ≤ max (s.state.backoff apiKeyID) (now + transientDelay retryAfter)) :
    BacksOff s apiKeyID retryAfter now := by
  have hpos : (0 : ℤ) < second := by decide
  have hdelay := transientDelay_le retryAfter
  have hwritten := backoff_written s.state apiKeyID retryAfter now
  -- What is written ends after the reading, so the call does not drop it.
  have hend : (backoffAPIKey s.state apiKeyID retryAfter now).backoff apiKeyID =
      max (s.state.backoff apiKeyID) (now + transientDelay retryAfter) := by
    rw [backoffAPIKey_eq hkey, ← hwritten]
    rcases backoff_pruneLocked (written s.state apiKeyID retryAfter now) apiKeyID now with heq | ⟨-, hpast⟩
    · exact heq
    · omega
  refine ⟨hend ▸ h, ?_, Or.inl (hend ▸ le_max_left _ _), ?_⟩
  · rw [hend]
    exact max_le_max le_rfl (by omega)
  · intro later hlater instant _ hbefore
    have hnext : now + second ≤ (step s (.backoffAPIKey apiKeyID retryAfter now)).state.backoff apiKeyID := hend ▸ h
    have hrpm := (Started.foldl later (hs.step (.backoffAPIKey apiKeyID retryAfter now))).rpm
    exact refused_of_backoff hrpm hkey (run_backoff later hnext hlater) hbefore

/-- A delay below a second leaves an end within the second, unless there was a later one. -/
lemma backoff_lt {s : Protection} (hs : Started s) (hkey : trimSpace apiKeyID ≠ "")
    (h : max (s.backoff apiKeyID) (now + transientDelay retryAfter) < now + second) :
    (backoffAPIKey s apiKeyID retryAfter now).backoff apiKeyID < now + second := by
  have hwritten := backoff_written s apiKeyID retryAfter now
  rw [backoffAPIKey_eq hkey]
  rcases backoff_pruneLocked (written s apiKeyID retryAfter now) apiKeyID now with heq | ⟨hnone, -⟩
  · rw [heq, hwritten]
    exact h
  · -- A dropped end reads as the zero time, which every end is after.
    have hstarted : Started (written s apiKeyID retryAfter now) := hs.written
    have hzero := hstarted.zeroTime_le apiKeyID
    have hdropped : ((written s apiKeyID retryAfter now).pruneLocked now).backoff apiKeyID = zeroTime := by
      unfold Protection.backoff
      rw [hnone, Option.getD_none]
    rw [hdropped]
    exact (hzero.trans_eq hwritten).trans_lt h

/-- In every state that is reached, a call keeps its promise exactly when the seconds of its header do not wrap around
to less than one, or the end before the call was far enough. -/
theorem backoff_kept_iff {apiKeyID : String} (hkey : trimSpace apiKeyID ≠ "") (apiKeyRPM : ℤ) (steps : List Step)
    (retryAfter : String) (now : ℤ) :
    BacksOff (steps.foldl step (initial apiKeyRPM)) apiKeyID retryAfter now ↔
      (¬ WrapsShort retryAfter ∨ now + second ≤ (steps.foldl step (initial apiKeyRPM)).state.backoff apiKeyID) := by
  have hs := Started.foldl steps (started_initial apiKeyRPM)
  have hcond : now + second ≤ max ((steps.foldl step (initial apiKeyRPM)).state.backoff apiKeyID)
      (now + transientDelay retryAfter) ↔
        (¬ WrapsShort retryAfter ∨ now + second ≤ (steps.foldl step (initial apiKeyRPM)).state.backoff apiKeyID) := by
    rw [le_max_iff, ← second_le_transientDelay_iff, add_le_add_iff_left, or_comm]
  rw [← hcond]
  constructor
  · intro h
    by_contra hlt
    exact absurd h.least (not_le.mpr (backoff_lt hs hkey (not_le.mp hlt)))
  · exact backsOff_of_le hs hkey

end Runs

section Sample

/-- The number of seconds is above `2^63 / 10^9`, so the product is negative. -/
theorem backoff_of_large_header : ¬ BacksOff (initial 300) "key" "9223372037" 0 := by
  intro h
  have hleast := h.least
  revert hleast
  decide

theorem backoff_kept_of_header : BacksOff (initial 300) "key" "2" 0 := by
  have hshort : ¬ WrapsShort "2" := by
    rw [← second_le_transientDelay_iff]
    decide
  exact (backoff_kept_iff (by decide) 300 [] "2" 0).mpr (Or.inl hshort)

end Sample

end ShareSub.ProtectionBackoff

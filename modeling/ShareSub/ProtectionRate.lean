import Mathlib
import ShareSub.TrafficAccounting
import ShareSub.ProtectionModel

/-!
# The requests of an API key per minute

The windows of a key start at readings of the clock. As long as they start at least a minute apart, an
interval of a minute meets two of them at most.
-/
namespace ShareSub.ProtectionRate

open HistoryModel (minute)
open TrafficModel (zeroTime)
open GatewayModel (trimSpace)
open TrafficAccounting ProtectionModel
open Transaction (Run)

section Kinds

def admittedOf (key : String) (call : Call) : Bool := call.key = key ∧ call.admitted = true

/-- Admitted with a reading in `[start, stop)`. -/
def admittedIn (key : String) (start stop : ℤ) (call : Call) : Bool :=
  admittedOf key call ∧ start ≤ call.reading ∧ call.reading < stop

def admittedFrom (key : String) (start : ℤ) (call : Call) : Bool := admittedOf key call ∧ start ≤ call.reading

/-- A call of the key that starts a window is read at least a minute after those that started the earlier ones, and a
back-off that a call meets is at most a minute ahead of its reading. -/
def Timely (key : String) (s : System) : Step → Prop
  | .admitAPIKey apiKeyID now => apiKeyID = key →
      s.foundBackoff key now ≤ now + minute ∧
        (s.foundBackoff key now ≤ now → (s.found key now).expired now = true →
          ∀ call ∈ s.calls, call.key = key → call.opened = true → call.reading + minute ≤ now)
  | _ => True

instance (key : String) (s : System) : ∀ a, Decidable (Timely key s a)
  | .admitAPIKey apiKeyID now => inferInstanceAs (Decidable (apiKeyID = key →
      s.foundBackoff key now ≤ now + minute ∧
        (s.foundBackoff key now ≤ now → (s.found key now).expired now = true →
          ∀ call ∈ s.calls, call.key = key → call.opened = true → call.reading + minute ≤ now)))
  | .backoffAPIKey _ _ _ => isTrue trivial
  | .blockModel _ _ => isTrue trivial
  | .modelBlocked _ _ => isTrue trivial
  | .clearModel _ => isTrue trivial

end Kinds

section Functions

variable {s : Protection} {key apiKeyID : String} {now : ℤ}

lemma lookup_dropWhenLarge {β : Type} {gone : β → Bool} {m : FiniteMap String β} {b : β}
    (h : (dropWhenLarge gone m).lookup key = some b) : m.lookup key = some b := by
  unfold dropWhenLarge at h
  split_ifs at h
  · exact (FiniteMap.lookup_keep_eq_some.mp h).1
  · exact h

/-- The limit stays, and the window of a key stays or is dropped. -/
def Keeps (key : String) (s s' : Protection) : Prop :=
  s'.apiKeyRPM = s.apiKeyRPM ∧
    ∀ window, s'.apiKeyWindows.lookup key = some window → s.apiKeyWindows.lookup key = some window

lemma keeps_pruneLocked (key : String) (s : Protection) (now : ℤ) : Keeps key s (s.pruneLocked now) :=
  ⟨rfl, fun _ h => lookup_dropWhenLarge h⟩

lemma keeps_backoffAPIKey (key : String) (s : Protection) (apiKeyID retryAfter : String) (now : ℤ) :
    Keeps key s (backoffAPIKey s apiKeyID retryAfter now) := by
  unfold backoffAPIKey
  dsimp only
  split_ifs
  · exact ⟨rfl, fun _ h => h⟩
  · exact keeps_pruneLocked key _ now
  · exact keeps_pruneLocked key s now

lemma keeps_blockModel (key : String) (s : Protection) (model : String) (now : ℤ) :
    Keeps key s (blockModel s model now) := by
  unfold blockModel
  split_ifs
  · exact ⟨rfl, fun _ h => h⟩
  · exact keeps_pruneLocked key _ now

lemma keeps_modelBlocked (key : String) (s : Protection) (model : String) (now : ℤ) :
    Keeps key s (modelBlocked s model now).1 := by
  unfold modelBlocked
  split_ifs
  · exact ⟨rfl, fun _ h => h⟩
  · exact ⟨rfl, fun _ h => h⟩

/-- A call of another key writes to its own window only. -/
lemma keeps_admitAPIKey (s : Protection) (hne : apiKeyID ≠ key) (now : ℤ) :
    Keeps key s (admitAPIKey s apiKeyID now).1 := by
  have hprune := keeps_pruneLocked key s now
  unfold admitAPIKey
  dsimp only
  split_ifs
  all_goals try exact hprune
  · exact ⟨rfl, fun _ h => h⟩
  all_goals
    refine ⟨rfl, ?_⟩
    intro window hwindow
    rw [FiniteMap.lookup_insert, if_neg (Ne.symm hne)] at hwindow
    exact hprune.2 window hwindow

/-- The cases of `admitAPIKey`, with what the call finds after pruning. -/
lemma admitAPIKey_cases (hrpm : 0 < s.apiKeyRPM) (hkey : trimSpace apiKeyID ≠ "") (now : ℤ) :
    let p := s.pruneLocked now
    let w := if (p.window apiKeyID).expired now then ⟨now, 0⟩ else p.window apiKeyID
    (now < p.backoff apiKeyID ∧ admitAPIKey s apiKeyID now = (p, false, p.backoff apiKeyID - now)) ∨
    (p.backoff apiKeyID ≤ now ∧ p.apiKeyRPM ≤ w.count ∧
      admitAPIKey s apiKeyID now = (p, false, minute - (now - w.started))) ∨
    (p.backoff apiKeyID ≤ now ∧ w.count < p.apiKeyRPM ∧ admitAPIKey s apiKeyID now =
      ({ p with apiKeyWindows := p.apiKeyWindows.insert apiKeyID { w with count := w.count + 1 } }, true, 0)) := by
  intro p w
  have hopen : ¬ (s.apiKeyRPM ≤ 0 ∨ trimSpace apiKeyID = "") := by
    intro h
    rcases h with h | h
    · omega
    · exact hkey h
  by_cases hbackoff : now < p.backoff apiKeyID
  · left
    refine ⟨hbackoff, ?_⟩
    rw [admitAPIKey, if_neg hopen]
    exact if_pos hbackoff
  · right
    have hrest : admitAPIKey s apiKeyID now = if p.apiKeyRPM ≤ w.count then (p, false, minute - (now - w.started)) else
        ({ p with apiKeyWindows := p.apiKeyWindows.insert apiKeyID { w with count := w.count + 1 } }, true, 0) := by
      rw [admitAPIKey, if_neg hopen]
      exact if_neg hbackoff
    by_cases hfull : p.apiKeyRPM ≤ w.count
    · left
      rw [hrest, if_pos hfull]
      exact ⟨not_lt.mp hbackoff, hfull, rfl⟩
    · right
      rw [hrest, if_neg hfull]
      exact ⟨not_lt.mp hbackoff, not_le.mp hfull, rfl⟩

end Functions

section Steps

/-- The last window of a key started at `w`, all readings are before its end, and the map has it or nothing. -/
structure Metered (key : String) (s : System) (w : ℤ) : Prop where
  start : ∃ call ∈ s.calls, call.key = key ∧ call.opened = true ∧ call.reading = w
  below : ∀ call ∈ s.calls, admittedOf key call = true → call.reading < w + minute
  current : tally (admittedFrom key w) s.calls ≤ s.state.apiKeyRPM
  previous : tally (admittedIn key (w - minute) w) s.calls ≤ s.state.apiKeyRPM
  stored : ∀ window, s.state.apiKeyWindows.lookup key = some window → window = ⟨w, tally (admittedFrom key w) s.calls⟩

/-- No call of the key has been admitted yet. -/
def Untouched (key : String) (s : System) : Prop :=
  (∀ call ∈ s.calls, admittedOf key call = false) ∧ s.state.apiKeyWindows.lookup key = none

structure Limited (key : String) (s : System) : Prop where
  rpm : 0 < s.state.apiKeyRPM
  windows : Untouched key s ∨ ∃ w, Metered key s w
  bound : ∀ start, tally (admittedIn key start (start + minute)) s.calls ≤ 2 * s.state.apiKeyRPM
  delays : ∀ call ∈ s.calls, call.key = key → call.admitted = false → 0 < call.delay ∧ call.delay ≤ minute

variable {key : String} {s s' : System} {w now : ℤ}

/-- A step that admits no call of the key: the window may only be dropped, and a call that it adds is refused with a
proper delay or is of another key. -/
structure Idle (key : String) (s s' : System) : Prop where
  rpm : s'.state.apiKeyRPM = s.state.apiKeyRPM
  windows : ∀ window, s'.state.apiKeyWindows.lookup key = some window → s.state.apiKeyWindows.lookup key = some window
  calls : s'.calls = s.calls ∨ ∃ call, s'.calls = s.calls ++ [call] ∧ admittedOf key call = false ∧
    (call.key = key → 0 < call.delay ∧ call.delay ≤ minute)

lemma Idle.tally_eq (h : Idle key s s') {p : Call → Bool} (hp : ∀ call, p call = true → admittedOf key call = true) :
    tally p s'.calls = tally p s.calls := by
  rcases h.calls with heq | ⟨call, heq, hnot, -⟩
  · rw [heq]
  · have hcall : p call = false := by
      by_contra hcall
      rw [hp call (by simpa using hcall)] at hnot
      cases hnot
    rw [heq, tally_append, hcall]
    simp

lemma Idle.mem (h : Idle key s s') {call : Call} (hcall : call ∈ s'.calls) :
    call ∈ s.calls ∨ admittedOf key call = false ∧ (call.key = key → 0 < call.delay ∧ call.delay ≤ minute) := by
  rcases h.calls with heq | ⟨x, heq, hx⟩
  · exact Or.inl (heq ▸ hcall)
  · rw [heq] at hcall
    rcases List.mem_append.mp hcall with hcall | hcall
    · exact Or.inl hcall
    · rw [List.mem_singleton.mp hcall]
      exact Or.inr hx

lemma Idle.mem_of_mem (h : Idle key s s') {call : Call} (hcall : call ∈ s.calls) : call ∈ s'.calls := by
  rcases h.calls with heq | ⟨x, heq, -⟩
  · rw [heq]
    exact hcall
  · rw [heq]
    exact List.mem_append_left _ hcall

lemma admittedFrom_imp {start : ℤ} (call : Call) (h : admittedFrom key start call = true) :
    admittedOf key call = true := by
  simp only [admittedFrom, decide_eq_true_eq] at h
  exact h.1

lemma admittedIn_imp {start stop : ℤ} (call : Call) (h : admittedIn key start stop call = true) :
    admittedOf key call = true := by
  simp only [admittedIn, decide_eq_true_eq] at h
  exact h.1

lemma Limited.idle (h : Limited key s) (hidle : Idle key s s') : Limited key s' := by
  refine ⟨hidle.rpm ▸ h.rpm, ?_, ?_, ?_⟩
  · rcases h.windows with ⟨hnone, hlookup⟩ | ⟨w, hw⟩
    · left
      constructor
      · intro call hcall
        rcases hidle.mem hcall with hcall | hcall
        · exact hnone call hcall
        · exact hcall.1
      · cases hnow : s'.state.apiKeyWindows.lookup key with
        | none => rfl
        | some window =>
          rw [hidle.windows window hnow] at hlookup
          cases hlookup
    · right
      refine ⟨w, ?_, ?_, ?_, ?_, ?_⟩
      · obtain ⟨call, hcall, hstart⟩ := hw.start
        exact ⟨call, hidle.mem_of_mem hcall, hstart⟩
      · intro call hcall hadmitted
        rcases hidle.mem hcall with hcall | hcall
        · exact hw.below call hcall hadmitted
        · rw [hcall.1] at hadmitted
          cases hadmitted
      · rw [hidle.tally_eq admittedFrom_imp, hidle.rpm]
        exact hw.current
      · rw [hidle.tally_eq admittedIn_imp, hidle.rpm]
        exact hw.previous
      · intro window hwindow
        rw [hidle.tally_eq admittedFrom_imp]
        exact hw.stored window (hidle.windows window hwindow)
  · intro start
    rw [hidle.tally_eq admittedIn_imp, hidle.rpm]
    exact h.bound start
  · intro call hcall hkey hrefused
    rcases hidle.mem hcall with hcall | hcall
    · exact h.delays call hcall hkey hrefused
    · exact hcall.2 hkey

/-- A window that has not expired is in the map and has begun. -/
lemma found_of_not_expired (h : (s.found key now).expired now = false) :
    s.state.apiKeyWindows.lookup key = some (s.found key now) ∧ (s.found key now).started ≤ now ∧
      now < (s.found key now).started + minute := by
  simp only [RateWindow.expired, decide_eq_false_iff_not, not_or, not_le, not_lt] at h
  obtain ⟨hzero, hlate, hearly⟩ := h
  refine ⟨?_, hearly, by omega⟩
  unfold System.found Protection.window at hzero ⊢
  cases hlookup : (s.state.pruneLocked now).apiKeyWindows.lookup key with
  | none =>
    rw [hlookup] at hzero
    exact absurd rfl hzero
  | some window =>
    rw [Option.getD_some]
    exact lookup_dropWhenLarge hlookup

/-- An interval that meets the last window meets at most the minute before it as well. -/
lemma Limited.bound_append (h : Limited key s) {call : Call} (hfrom : w ≤ call.reading)
    (hcalls : s'.calls = s.calls ++ [call]) (hcurrent : tally (admittedFrom key w) s'.calls ≤ s.state.apiKeyRPM)
    (hprevious : tally (admittedIn key (w - minute) w) s'.calls ≤ s.state.apiKeyRPM) (start : ℤ) :
    tally (admittedIn key start (start + minute)) s'.calls ≤ 2 * s.state.apiKeyRPM := by
  by_cases hmeets : start ≤ call.reading ∧ call.reading < start + minute
  · have hsplit : tally (admittedIn key start (start + minute)) s'.calls ≤
        tally (admittedFrom key w) s'.calls + tally (admittedIn key (w - minute) w) s'.calls := by
      apply tally_le_add
      intro x _ hx
      simp only [admittedIn, admittedFrom, decide_eq_true_eq] at hx ⊢
      by_cases hx' : w ≤ x.reading
      · exact Or.inl ⟨hx.1, hx'⟩
      · exact Or.inr ⟨hx.1, by omega, by omega⟩
    omega
  · have hout : admittedIn key start (start + minute) call = false := by
      simp only [admittedIn, decide_eq_false_iff_not]
      exact fun hin => hmeets hin.2
    rw [hcalls, tally_append, hout]
    simpa using h.bound start

/-- A call of the key that is admitted into the last window. -/
lemma Metered.joins (h : Limited key s) (hw : Metered key s w) (s' : System) (hfrom : w ≤ now) (hbefore : now < w + minute)
    (hroom : tally (admittedFrom key w) s.calls < s.state.apiKeyRPM) {call : Call} (hcall : admittedOf key call = true)
    (hreading : call.reading = now) (hcalls : s'.calls = s.calls ++ [call])
    (hrpm : s'.state.apiKeyRPM = s.state.apiKeyRPM)
    (hstored : s'.state.apiKeyWindows.lookup key = some ⟨w, tally (admittedFrom key w) s.calls + 1⟩) :
    Metered key s' w ∧
      ∀ start, tally (admittedIn key start (start + minute)) s'.calls ≤ 2 * s'.state.apiKeyRPM := by
  have hfromCall : tally (admittedFrom key w) s'.calls = tally (admittedFrom key w) s.calls + 1 := by
    rw [hcalls, tally_append]
    simp [admittedFrom, hcall, hreading, hfrom]
  have hprevious : tally (admittedIn key (w - minute) w) s'.calls = tally (admittedIn key (w - minute) w) s.calls := by
    rw [hcalls, tally_append]
    have : ¬ now < w := not_lt.mpr hfrom
    simp [admittedIn, hreading, this]
  refine ⟨⟨?_, ?_, ?_, ?_, ?_⟩, ?_⟩
  · obtain ⟨x, hx, hstart⟩ := hw.start
    exact ⟨x, hcalls ▸ List.mem_append_left _ hx, hstart⟩
  · intro x hx hadmitted
    rw [hcalls] at hx
    rcases List.mem_append.mp hx with hx | hx
    · exact hw.below x hx hadmitted
    · rw [List.mem_singleton.mp hx, hreading]
      exact hbefore
  · omega
  · rw [hprevious, hrpm]
    exact hw.previous
  · intro window hwindow
    rw [hstored] at hwindow
    cases hwindow
    rw [hfromCall]
  · intro start
    rw [hrpm]
    refine h.bound_append (hreading ▸ hfrom) hcalls (by omega) ?_ start
    rw [hprevious]
    exact hw.previous

/-- A call of the key that starts a window a minute or more after the last one. -/
lemma Limited.opens (h : Limited key s) (s' : System)
    (hlate : ∀ call ∈ s.calls, call.key = key → call.opened = true → call.reading + minute ≤ now) {call : Call}
    (hcall : admittedOf key call = true) (hopened : call.opened = true) (hreading : call.reading = now)
    (hcalls : s'.calls = s.calls ++ [call]) (hrpm : s'.state.apiKeyRPM = s.state.apiKeyRPM)
    (hstored : s'.state.apiKeyWindows.lookup key = some ⟨now, 1⟩) :
    Metered key s' now ∧
      ∀ start, tally (admittedIn key start (start + minute)) s'.calls ≤ 2 * s'.state.apiKeyRPM := by
  have hkey : call.key = key := by
    simp only [admittedOf, decide_eq_true_eq] at hcall
    exact hcall.1
  -- What was admitted before is before the window, and in the minute before it there is one window at most.
  have hbefore : (∀ x ∈ s.calls, admittedOf key x = true → x.reading < now) ∧
      tally (admittedFrom key (now - minute)) s.calls ≤ s.state.apiKeyRPM := by
    rcases h.windows with ⟨hnone, -⟩ | ⟨w, hw⟩
    · constructor
      · intro x hx hadmitted
        rw [hnone x hx] at hadmitted
        cases hadmitted
      · have hzero : tally (admittedFrom key (now - minute)) s.calls = 0 := by
          refine tally_eq_zero fun x hx => ?_
          simp [admittedFrom, hnone x hx]
        have := h.rpm
        omega
    · obtain ⟨x, hx, hkey, hopen, hstart⟩ := hw.start
      have hgap := hlate x hx hkey hopen
      rw [hstart] at hgap
      constructor
      · intro y hy hadmitted
        exact (hw.below y hy hadmitted).trans_le hgap
      · refine le_trans (tally_mono ?_) hw.current
        intro y _ hy
        simp only [admittedFrom, decide_eq_true_eq] at hy ⊢
        exact ⟨hy.1, by omega⟩
  obtain ⟨hearlier, hminute⟩ := hbefore
  have hnone : tally (admittedFrom key now) s.calls = 0 := by
    refine tally_eq_zero fun x hx => ?_
    simp only [admittedFrom, decide_eq_false_iff_not, not_and, not_le]
    exact hearlier x hx
  have hone : tally (admittedFrom key now) s'.calls = 1 := by
    rw [hcalls, tally_append, hnone]
    simp [admittedFrom, hcall, hreading]
  have hprevious : tally (admittedIn key (now - minute) now) s'.calls ≤ s.state.apiKeyRPM := by
    have hout : admittedIn key (now - minute) now call = false := by simp [admittedIn, hreading]
    rw [hcalls, tally_append, hout]
    refine le_trans ?_ hminute
    simp only [Bool.false_eq_true, if_false, add_zero]
    apply tally_mono
    intro x _ hx
    simp only [admittedIn, admittedFrom, decide_eq_true_eq] at hx ⊢
    exact ⟨hx.1, hx.2.1⟩
  have hpos := h.rpm
  have hminutePos : (0 : ℤ) < minute := by decide
  refine ⟨⟨⟨call, hcalls ▸ List.mem_append_right _ (List.mem_singleton_self call), hkey, hopened, hreading⟩,
    ?_, ?_, ?_, ?_⟩, ?_⟩
  · intro x hx hadmitted
    rw [hcalls] at hx
    rcases List.mem_append.mp hx with hx | hx
    · have := hearlier x hx hadmitted
      omega
    · rw [List.mem_singleton.mp hx, hreading]
      omega
  · omega
  · rw [hrpm]
    exact hprevious
  · intro window hwindow
    rw [hstored] at hwindow
    cases hwindow
    rw [hone]
  · intro start
    rw [hrpm]
    exact h.bound_append hreading.ge hcalls (by omega) hprevious start

lemma idle_of_keeps {p : Protection} (h : Keeps key s.state p) : Idle key s { s with state := p } :=
  ⟨h.1, h.2, Or.inl rfl⟩

/-- A call of the key itself. -/
lemma Limited.admits (h : Limited key s) (hkey : trimSpace key ≠ "") (ha : Timely key s (.admitAPIKey key now)) :
    Limited key (step s (.admitAPIKey key now)) := by
  obtain ⟨hnear, hlate⟩ := ha rfl
  have hprune := keeps_pruneLocked key s.state now
  simp only [step]
  rcases admitAPIKey_cases h.rpm hkey now with ⟨hahead, hcall⟩ | ⟨hpast, hfull, hcall⟩ | ⟨hpast, hroom, hcall⟩
  · have hdelay : 0 < (s.state.pruneLocked now).backoff key - now ∧
        (s.state.pruneLocked now).backoff key - now ≤ minute := by
      unfold System.foundBackoff at hnear
      omega
    rw [hcall]
    exact h.idle ⟨hprune.1, hprune.2, Or.inr ⟨_, rfl, by simp [admittedOf], fun _ => hdelay⟩⟩
  · -- A window that was just started has counted nothing, so this one is not.
    have hlive : (s.found key now).expired now = false := by
      by_contra hexpired
      have hexpired : ((s.state.pruneLocked now).window key).expired now = true := Bool.eq_true_of_not_eq_false hexpired
      rw [if_pos hexpired, hprune.1] at hfull
      have := h.rpm
      simp only at hfull
      omega
    obtain ⟨-, hfrom, hbefore⟩ := found_of_not_expired hlive
    have hwindow : ¬ ((s.state.pruneLocked now).window key).expired now = true := by
      rw [← System.found, hlive]
      exact Bool.false_ne_true
    rw [hcall, if_neg hwindow]
    refine h.idle ⟨hprune.1, hprune.2, Or.inr ⟨_, rfl, by simp [admittedOf], fun _ => ?_⟩⟩
    dsimp only
    rw [← System.found]
    omega
  · rw [hcall]
    have hadmitted : ∀ opened, admittedOf key ⟨key, now, true, 0, opened⟩ = true := by simp [admittedOf]
    have hdelays : ∀ opened, ∀ call ∈ s.calls ++ [⟨key, now, true, 0, opened⟩], call.key = key → call.admitted = false →
        0 < call.delay ∧ call.delay ≤ minute := by
      intro opened call hmem hof hrefused
      rcases List.mem_append.mp hmem with hmem | hmem
      · exact h.delays call hmem hof hrefused
      · rw [List.mem_singleton.mp hmem] at hrefused
        cases hrefused
    cases hexpired : (s.found key now).expired now with
    | true =>
      have hexpired' : ((s.state.pruneLocked now).window key).expired now = true := hexpired
      rw [if_pos hexpired']
      obtain ⟨hmetered, hbound⟩ := h.opens ⟨{ s.state.pruneLocked now with
        apiKeyWindows := (s.state.pruneLocked now).apiKeyWindows.insert key ⟨now, 0 + 1⟩ },
        s.calls ++ [⟨key, now, true, 0, true⟩]⟩ (hlate hpast hexpired) (hadmitted true) rfl rfl rfl hprune.1
        (by rw [FiniteMap.lookup_insert, if_pos rfl]; rfl)
      exact ⟨hprune.1 ▸ h.rpm, Or.inr ⟨now, hmetered⟩, hbound, hdelays true⟩
    | false =>
      have hexpired' : ¬ ((s.state.pruneLocked now).window key).expired now = true := by
        rw [← System.found, hexpired]
        exact Bool.false_ne_true
      obtain ⟨hlookup, hfrom, hbefore⟩ := found_of_not_expired hexpired
      rw [if_neg hexpired', hprune.1] at hroom
      rw [if_neg hexpired']
      rcases h.windows with ⟨-, hnone⟩ | ⟨w, hw⟩
      · rw [hnone] at hlookup
        cases hlookup
      · have hstored := hw.stored _ hlookup
        have hwindow : (s.state.pruneLocked now).window key = ⟨w, tally (admittedFrom key w) s.calls⟩ := hstored
        rw [hstored] at hfrom hbefore
        rw [hwindow] at hroom ⊢
        obtain ⟨hmetered, hbound⟩ := hw.joins h ⟨{ s.state.pruneLocked now with
          apiKeyWindows := (s.state.pruneLocked now).apiKeyWindows.insert key
            ⟨w, tally (admittedFrom key w) s.calls + 1⟩ }, s.calls ++ [⟨key, now, true, 0, false⟩]⟩
          hfrom hbefore hroom (hadmitted false) rfl rfl hprune.1 (by rw [FiniteMap.lookup_insert, if_pos rfl])
        exact ⟨hprune.1 ▸ h.rpm, Or.inr ⟨w, hmetered⟩, hbound, hdelays false⟩

lemma step_limited (hkey : trimSpace key ≠ "") (h : Limited key s) {a : Step} (ha : Timely key s a) :
    Limited key (step s a) := by
  cases a with
  | backoffAPIKey apiKeyID retryAfter now =>
    exact h.idle (idle_of_keeps (keeps_backoffAPIKey key s.state apiKeyID retryAfter now))
  | blockModel model now => exact h.idle (idle_of_keeps (keeps_blockModel key s.state model now))
  | modelBlocked model now => exact h.idle (idle_of_keeps (keeps_modelBlocked key s.state model now))
  | clearModel model => exact h.idle (idle_of_keeps ⟨rfl, fun _ hwindow => hwindow⟩)
  | admitAPIKey apiKeyID now =>
    by_cases hsame : apiKeyID = key
    · subst hsame
      exact h.admits hkey ha
    · obtain ⟨hrpm, hwindows⟩ := keeps_admitAPIKey s.state hsame now
      refine h.idle ⟨hrpm, hwindows, Or.inr ⟨_, rfl, ?_, ?_⟩⟩
      · simp [admittedOf, hsame]
      · intro heq
        exact absurd heq hsame

end Steps

section Runs

lemma limited_initial (apiKeyRPM : ℤ) (key : String) : Limited key (initial apiKeyRPM) := by
  have hrpm : 0 < (initial apiKeyRPM).state.apiKeyRPM := by
    simp only [initial, newGatewayProtectionState, defaultGatewayAPIKeyRPM]
    split_ifs <;> omega
  refine ⟨hrpm, Or.inl ⟨?_, rfl⟩, ?_, ?_⟩
  · intro call hcall
    cases hcall
  · intro start
    have hzero : tally (admittedIn key start (start + minute)) (initial apiKeyRPM).calls = 0 := rfl
    omega
  · intro call hcall
    cases hcall

lemma step_apiKeyRPM (s : System) (a : Step) : (step s a).state.apiKeyRPM = s.state.apiKeyRPM := by
  cases a with
  | admitAPIKey apiKeyID now =>
    simp only [step, admitAPIKey]
    split_ifs <;> rfl
  | backoffAPIKey apiKeyID retryAfter now => exact (keeps_backoffAPIKey "" s.state apiKeyID retryAfter now).1
  | blockModel model now => exact (keeps_blockModel "" s.state model now).1
  | modelBlocked model now => exact (keeps_modelBlocked "" s.state model now).1
  | clearModel model => rfl

/-- A run whose calls of the key are all timely. -/
def TimelyRun (apiKeyRPM : ℤ) (key : String) (steps : List Step) (s : System) : Prop :=
  Run (fun u a v => step u a = v ∧ Timely key u a) (initial apiKeyRPM) steps s

/-- In every such run an interval of a minute has at most twice the limit of admitted calls, and a refusal
returns a delay of at most a minute. -/
theorem api_key_rate_kept {apiKeyRPM : ℤ} {key : String} (hkey : trimSpace key ≠ "") {steps : List Step} {s : System}
    (hrun : TimelyRun apiKeyRPM key steps s) :
    (∀ start, tally (admittedIn key start (start + minute)) s.calls ≤
        2 * (newGatewayProtectionState apiKeyRPM).apiKeyRPM) ∧
      ∀ call ∈ s.calls, call.key = key → call.admitted = false → 0 < call.delay ∧ call.delay ≤ minute := by
  have hlimited : Limited key s := by
    refine hrun.invariant (limited_initial apiKeyRPM key) ?_
    intro u a v hu hstep
    rw [← hstep.1]
    exact step_limited hkey hu hstep.2
  have hrpm : s.state.apiKeyRPM = (newGatewayProtectionState apiKeyRPM).apiKeyRPM := by
    refine hrun.invariant (I := fun u => u.state.apiKeyRPM = (newGatewayProtectionState apiKeyRPM).apiKeyRPM) rfl ?_
    intro u a v hu hstep
    rw [← hstep.1, step_apiKeyRPM]
    exact hu
  rw [← hrpm]
  exact ⟨hlimited.bound, hlimited.delays⟩

def callAt (seconds : ℤ) : Step := .admitAPIKey "k" (seconds * second)

/-- The calls have the mutex in the opposite order of their readings. -/
def stragglers : List Step := [callAt 12, callAt 11, callAt 10]

/-- A call reads the clock, and a minute and a half passes before it has the mutex. -/
def sleeper : List Step := [.backoffAPIKey "k" "" (100 * second), callAt 10]

/-- With a limit of one, three calls of ten seconds are admitted, and a refusal returns a delay of 91 seconds. -/
theorem api_key_rate_exceeded :
    (∃ s, Run (fun u a v => step u a = v) (initial 1) stragglers s ∧
      ¬ tally (admittedIn "k" 0 (0 + minute)) s.calls ≤ 2 * (newGatewayProtectionState 1).apiKeyRPM) ∧
    ∃ s, Run (fun u a v => step u a = v) (initial 1) sleeper s ∧
      ¬ ∀ call ∈ s.calls, call.key = "k" → call.admitted = false → 0 < call.delay ∧ call.delay ≤ minute := by
  constructor
  · refine ⟨_, .cons rfl (.cons rfl (.cons rfl .nil)), ?_⟩
    decide
  · refine ⟨_, .cons rfl (.cons rfl .nil), ?_⟩
    decide

/-- The same calls in the order of their readings. -/
theorem api_key_rate_kept_in_order :
    ∃ s, TimelyRun 1 "k" [callAt 10, callAt 11, callAt 12] s ∧ tally (admittedIn "k" 0 (0 + minute)) s.calls = 1 ∧
      tally (admittedIn "k" 0 (0 + minute)) s.calls ≤ 2 * (newGatewayProtectionState 1).apiKeyRPM := by
  have hrun : ∃ s, TimelyRun 1 "k" [callAt 10, callAt 11, callAt 12] s ∧
      tally (admittedIn "k" 0 (0 + minute)) s.calls = 1 := by
    refine ⟨_, .cons ⟨rfl, ?_⟩ (.cons ⟨rfl, ?_⟩ (.cons ⟨rfl, ?_⟩ .nil)), ?_⟩
    · decide
    · decide
    · decide
    · decide
  obtain ⟨s, hrun, hone⟩ := hrun
  exact ⟨s, hrun, hone, (api_key_rate_kept (by decide) hrun).1 0⟩

end Runs

end ShareSub.ProtectionRate

import Mathlib

/-!
# The replay budget

The embedding of `responses_websocket_replay_budget.go`. Reservations and budgets are references; a call is atomic, since
it holds the lock of its budget. The integers are exact, and every call also gives the values of the expressions that it
evaluates, so that they can be compared with the range of the code's integers.
-/
namespace ShareSub.ReplayBudget

open scoped BigOperators

section Model

variable {R B : Type}

def maxInt64 : ℤ := 2 ^ 63 - 1

def Int64Range (x : ℤ) : Prop := -2 ^ 63 ≤ x ∧ x ≤ maxInt64

/-- The reservations and the budgets. A reservation keeps its budget for good. -/
structure Heap (R B : Type) where
  owner : R → Option B
  bytes : R → ℤ
  limit : B → ℤ
  used : B → ℤ

/-- The result of a call, and the values of the expressions on the way to it. -/
structure Answer (R B : Type) where
  ok : Bool
  heap : Heap R B
  evaluated : List ℤ

variable [DecidableEq R] [DecidableEq B]

/-- The loop over the sources: those that are nil are skipped, and those that were seen; one that is the target itself or
has another budget ends the call. -/
def uniqueSources (owner : R → Option B) (r : R) : List (Option R) → List R → Option (List R)
  | [], seen => some seen
  | none :: sources, seen => uniqueSources owner r sources seen
  | some source :: sources, seen =>
    if source = r ∨ owner source ≠ owner r then none
    else if source ∈ seen then uniqueSources owner r sources seen
    else uniqueSources owner r sources (seen ++ [source])

/-- The sum of the bytes that are released, unless one is negative or the sum is out of range. -/
def releasedBytes (bytes : R → ℤ) : List R → ℤ → List ℤ → Option ℤ × List ℤ
  | [], released, evaluated => (some released, evaluated)
  | source :: sources, released, evaluated =>
    if bytes source < 0 then (none, evaluated)
    else if maxInt64 - bytes source < released then (none, evaluated ++ [maxInt64 - bytes source])
    else
      releasedBytes bytes sources (released + bytes source)
        (evaluated ++ [maxInt64 - bytes source, released + bytes source])

/-- The target gets its size, and the sources are empty. -/
def moved (bytes : R → ℤ) (r : R) (next : ℤ) (sources : List R) (x : R) : ℤ :=
  if x ∈ sources then 0 else if x = r then next else bytes x

def replaceWith (h : Heap R B) (target : Option R) (next : ℤ) (sources : List (Option R)) : Answer R B :=
  match target with
  | none => ⟨false, h, []⟩
  | some r =>
    if next < 0 then ⟨false, h, []⟩
    else
      match uniqueSources h.owner r sources [] with
      | none => ⟨false, h, []⟩
      | some unique =>
        match h.owner r with
        | none =>
          if h.bytes r < 0 ∨ ∃ source ∈ unique, h.bytes source < 0 then ⟨false, h, []⟩
          else ⟨true, { h with bytes := moved h.bytes r next unique }, []⟩
        | some b =>
          if h.limit b < 0 ∨ h.used b < 0 ∨ h.limit b < h.used b ∨ h.bytes r < 0 then ⟨false, h, []⟩
          else
            match releasedBytes h.bytes unique (h.bytes r) [] with
            | (none, evaluated) => ⟨false, h, evaluated⟩
            | (some released, evaluated) =>
              if h.used b < released then ⟨false, h, evaluated⟩
              else
                let retained := h.used b - released
                if h.limit b - retained < next then ⟨false, h, evaluated ++ [retained, h.limit b - retained]⟩
                else
                  ⟨true,
                    { h with
                      used := Function.update h.used b (retained + next)
                      bytes := moved h.bytes r next unique },
                    evaluated ++ [retained, h.limit b - retained, retained + next]⟩

def resize (h : Heap R B) (target : Option R) (next : ℤ) : Answer R B := replaceWith h target next []

/-- `release`, with the result of the call that it drops. -/
def release (h : Heap R B) (target : Option R) : Answer R B :=
  match target with
  | some r => resize h (some r) 0
  | none => ⟨true, h, []⟩

inductive Call (R : Type)
  | resize (target : Option R) (next : ℤ)
  | replaceWith (target : Option R) (next : ℤ) (sources : List (Option R))
  | release (target : Option R)

def Call.run (h : Heap R B) : Call R → Answer R B
  | .resize target next => ReplayBudget.resize h target next
  | .replaceWith target next sources => ReplayBudget.replaceWith h target next sources
  | .release target => ReplayBudget.release h target

def runCalls (h : Heap R B) (calls : List (Call R)) : Heap R B := calls.foldl (fun h call => (call.run h).heap) h

end Model

section Sources

variable {R B : Type} {owner : R → Option B} {r : R} {sources : List (Option R)} {seen unique : List R}

/-- The sources that are left: each one once, with the budget of the target and not the target itself. -/
structure Unique (owner : R → Option B) (r : R) (unique : List R) : Prop where
  nodup : unique.Nodup
  other : ∀ x ∈ unique, x ≠ r ∧ owner x = owner r

lemma unique_nil : Unique owner r [] := ⟨List.nodup_nil, by simp⟩

variable [DecidableEq R] [DecidableEq B]

lemma uniqueSources_unique (h : uniqueSources owner r sources seen = some unique) (hseen : Unique owner r seen) :
    Unique owner r unique ∧ (∀ x ∈ seen, x ∈ unique) ∧ ∀ x, some x ∈ sources → x ∈ unique := by
  induction sources generalizing seen with
  | nil =>
    cases h
    exact ⟨hseen, fun _ hx => hx, by simp⟩
  | cons source sources ih =>
    cases source with
    | none =>
      obtain ⟨hunique, hold, hnew⟩ := ih h hseen
      exact ⟨hunique, hold, fun x hx => hnew x (by simpa using hx)⟩
    | some source =>
      unfold uniqueSources at h
      split_ifs at h with hforeign hdup
      · obtain ⟨hunique, hold, hnew⟩ := ih h hseen
        refine ⟨hunique, hold, fun x hx => ?_⟩
        rcases List.mem_cons.1 hx with heq | hx
        · cases heq
          exact hold source hdup
        · exact hnew x hx
      · rw [not_or, not_not] at hforeign
        have happend : Unique owner r (seen ++ [source]) := by
          refine ⟨List.nodup_append_comm.1 (by simpa using ⟨hdup, hseen.nodup⟩), fun x hx => ?_⟩
          rcases List.mem_append.1 hx with hx | hx
          · exact hseen.other x hx
          · rw [List.mem_singleton.1 hx]
            exact hforeign
        obtain ⟨hunique, hold, hnew⟩ := ih h happend
        refine ⟨hunique, fun x hx => hold x (by simp [hx]), fun x hx => ?_⟩
        rcases List.mem_cons.1 hx with heq | hx
        · cases heq
          exact hold source (by simp)
        · exact hnew x hx

lemma mem_of_uniqueSources (h : uniqueSources owner r sources seen = some unique) :
    ∀ x ∈ unique, x ∈ seen ∨ some x ∈ sources := by
  induction sources generalizing seen with
  | nil =>
    cases h
    exact fun x hx => .inl hx
  | cons source sources ih =>
    cases source with
    | none => exact fun x hx => (ih h x hx).imp_right fun hmem => by simpa using hmem
    | some source =>
      unfold uniqueSources at h
      split_ifs at h
      · exact fun x hx => (ih h x hx).imp_right (List.mem_cons_of_mem _)
      · intro x hx
        rcases ih h x hx with hseen | hmem
        · rcases List.mem_append.1 hseen with hseen | hlast
          · exact .inl hseen
          · exact .inr (by simp [List.mem_singleton.1 hlast])
        · exact .inr (List.mem_cons_of_mem _ hmem)

/-- A reservation that a call is not about keeps its bytes. -/
lemma replaceWith_frame (h : Heap R B) {target : Option R} (next : ℤ) {x : R} (htarget : target ≠ some x)
    (hsources : some x ∉ sources) : (replaceWith h target next sources).heap.bytes x = h.bytes x := by
  have hmoved {r : R} {unique : List R} (hr : target = some r) (hunique : uniqueSources h.owner r sources [] = some unique) :
      moved h.bytes r next unique x = h.bytes x := by
    have hne : x ≠ r := fun heq => htarget (heq ▸ hr)
    have hnot : x ∉ unique := fun hx => (mem_of_uniqueSources hunique x hx).elim (by simp) hsources
    rw [moved, if_neg hnot, if_neg hne]
  unfold replaceWith
  cases target with
  | none => rfl
  | some r =>
    dsimp only
    split_ifs
    · rfl
    · cases hunique : uniqueSources h.owner r sources [] with
      | none => rfl
      | some unique =>
        dsimp only
        cases h.owner r with
        | none =>
          dsimp only
          split_ifs
          · rfl
          · exact hmoved rfl hunique
        | some b =>
          dsimp only
          split_ifs
          · rfl
          · cases releasedBytes h.bytes unique (h.bytes r) [] with
            | mk released evaluated =>
              cases released with
              | none => rfl
              | some released =>
                dsimp only
                split_ifs
                · rfl
                · rfl
                · exact hmoved rfl hunique

end Sources

section Invariant

variable {R B : Type} {r : R} {b : B}

/-- As long as the sum is in range, the loop over the sources sums all of them and evaluates nothing out of range. -/
lemma releasedBytes_sum {bytes : R → ℤ} (hnonneg : ∀ x, 0 ≤ bytes x) (sources : List R) (released : ℤ)
    (evaluated : List ℤ) (hreleased : 0 ≤ released) (hle : released + (sources.map bytes).sum ≤ maxInt64)
    (hrange : ∀ x ∈ evaluated, Int64Range x) :
    ∃ evaluated', releasedBytes bytes sources released evaluated = (some (released + (sources.map bytes).sum), evaluated') ∧
      ∀ x ∈ evaluated', Int64Range x := by
  induction sources generalizing released evaluated with
  | nil => exact ⟨evaluated, by simp [releasedBytes], hrange⟩
  | cons source sources ih =>
    have hsource := hnonneg source
    have hrest : 0 ≤ (sources.map bytes).sum := List.sum_nonneg (by simpa using fun x _ => hnonneg x)
    rw [List.map_cons, List.sum_cons] at hle
    have hmax : maxInt64 = 2 ^ 63 - 1 := rfl
    have hrange' : ∀ x ∈ evaluated ++ [maxInt64 - bytes source, released + bytes source], Int64Range x := by
      intro x hx
      simp only [List.mem_append, List.mem_cons, List.not_mem_nil, or_false] at hx
      rcases hx with hx | rfl | rfl
      · exact hrange x hx
      · exact ⟨by omega, by omega⟩
      · exact ⟨by omega, by omega⟩
    obtain ⟨evaluated', heq, hall⟩ := ih (released + bytes source) _ (by omega) (by omega) hrange'
    refine ⟨evaluated', ?_, hall⟩
    rw [releasedBytes, if_neg (by omega), if_neg (by omega), heq, List.map_cons, List.sum_cons, add_assoc]

section Moving

variable [DecidableEq R] {h : Heap R B}

/-- The bytes that a call takes back before it gives the target its new size. -/
def released (h : Heap R B) (r : R) (unique : List R) : ℤ := h.bytes r + (unique.map h.bytes).sum

lemma released_eq_sum {unique : List R} (hunique : Unique h.owner r unique) :
    released h r unique = ∑ x ∈ insert r unique.toFinset, h.bytes x := by
  have hnot : r ∉ unique.toFinset := fun hr => (hunique.other r (List.mem_toFinset.1 hr)).1 rfl
  rw [Finset.sum_insert hnot, List.sum_toFinset _ hunique.nodup]
  rfl

lemma moved_nonneg {bytes : R → ℤ} (hbytes : ∀ x, 0 ≤ bytes x) {next : ℤ} (hnext : 0 ≤ next) (r : R) (unique : List R)
    (x : R) : 0 ≤ moved bytes r next unique x := by
  unfold moved
  split_ifs
  · exact le_rfl
  · exact hnext
  · exact hbytes x

/-- Bytes that move between reservations of one budget leave the others alone. -/
lemma moved_of_owner_ne {unique : List R} (hunique : Unique h.owner r unique) (next : ℤ) {x : R}
    (hx : h.owner x ≠ h.owner r) : moved h.bytes r next unique x = h.bytes x := by
  have hnot : x ∉ unique := fun hmem => hx (hunique.other x hmem).2
  have hne : x ≠ r := fun heq => hx (heq ▸ rfl)
  simp [moved, hnot, hne]

/-- Moving bytes changes a sum that has all the reservations concerned by what was taken and given. -/
lemma sum_moved {unique : List R} (hunique : Unique h.owner r unique) (next : ℤ) {s : Finset R}
    (hs : insert r unique.toFinset ⊆ s) :
    ∑ x ∈ s, moved h.bytes r next unique x = ∑ x ∈ s, h.bytes x - released h r unique + next := by
  have hnot : r ∉ unique := fun hr => (hunique.other r hr).1 rfl
  have hsame : ∑ x ∈ s \ insert r unique.toFinset, moved h.bytes r next unique x =
      ∑ x ∈ s \ insert r unique.toFinset, h.bytes x := by
    refine Finset.sum_congr rfl fun x hx => ?_
    simp only [Finset.mem_sdiff, Finset.mem_insert, List.mem_toFinset, not_or] at hx
    simp [moved, hx.2.1, hx.2.2]
  have hconcerned : ∑ x ∈ insert r unique.toFinset, moved h.bytes r next unique x = next := by
    rw [Finset.sum_insert (by simpa using hnot)]
    have hzero : ∑ x ∈ unique.toFinset, moved h.bytes r next unique x = 0 :=
      Finset.sum_eq_zero fun x hx => if_pos (List.mem_toFinset.1 hx)
    rw [hzero, moved, if_neg hnot, if_pos rfl, add_zero]
  rw [← Finset.sum_sdiff hs, ← Finset.sum_sdiff (f := h.bytes) hs, hsame, hconcerned, released_eq_sum hunique]
  ring

end Moving

variable [DecidableEq B] [Fintype R] {h : Heap R B}

/-- The reservations of a budget. -/
def holders (h : Heap R B) (b : B) : Finset R := Finset.univ.filter fun r => h.owner r = some b

structure Balanced (h : Heap R B) : Prop where
  nonneg : ∀ r, 0 ≤ h.bytes r
  sum : ∀ b, h.used b = ∑ r ∈ holders h b, h.bytes r
  le : ∀ b, h.used b ≤ h.limit b
  range : ∀ b, 0 < h.limit b ∧ h.limit b ≤ maxInt64

lemma Balanced.used_nonneg (hb : Balanced h) (b : B) : 0 ≤ h.used b := by
  rw [hb.sum]
  exact Finset.sum_nonneg fun r _ => hb.nonneg r

/-- What some reservations of a budget hold is within what the budget has given. -/
lemma Balanced.sum_le (hb : Balanced h) {s : Finset R} (hs : s ⊆ holders h b) : ∑ x ∈ s, h.bytes x ≤ h.used b := by
  rw [hb.sum]
  exact Finset.sum_le_sum_of_subset_of_nonneg hs fun x _ _ => hb.nonneg x

variable [DecidableEq R]

lemma holders_of_unique {unique : List R} (hunique : Unique h.owner r unique) (hr : h.owner r = some b) :
    insert r unique.toFinset ⊆ holders h b := by
  intro x hx
  rw [holders, Finset.mem_filter]
  rcases Finset.mem_insert.1 hx with rfl | hx
  · exact ⟨Finset.mem_univ _, hr⟩
  · exact ⟨Finset.mem_univ _, (hunique.other x (List.mem_toFinset.1 hx)).2.trans hr⟩

/-- What a call can do to a balanced heap. -/
inductive Replaced (h : Heap R B) (target : Option R) (next : ℤ) (sources : List (Option R)) : Answer R B → Prop
  | refused {evaluated : List ℤ} (hrange : ∀ x ∈ evaluated, Int64Range x) :
      Replaced h target next sources ⟨false, h, evaluated⟩
  | unlimited {r : R} {unique : List R} (htarget : target = some r) (hnext : 0 ≤ next)
      (hunique : Unique h.owner r unique) (hsources : ∀ x, some x ∈ sources → x ∈ unique) (hr : h.owner r = none) :
      Replaced h target next sources ⟨true, { h with bytes := moved h.bytes r next unique }, []⟩
  | limited {r : R} {unique : List R} {b : B} {evaluated : List ℤ} (htarget : target = some r) (hnext : 0 ≤ next)
      (hunique : Unique h.owner r unique) (hsources : ∀ x, some x ∈ sources → x ∈ unique) (hr : h.owner r = some b)
      (hfits : h.used b - released h r unique + next ≤ h.limit b) (hrange : ∀ x ∈ evaluated, Int64Range x) :
      Replaced h target next sources
        ⟨true,
          { h with
            used := Function.update h.used b (h.used b - released h r unique + next)
            bytes := moved h.bytes r next unique },
          evaluated⟩

lemma replaceWith_replaced (hb : Balanced h) (target : Option R) (next : ℤ)
    (sources : List (Option R)) : Replaced h target next sources (replaceWith h target next sources) := by
  unfold replaceWith
  cases target with
  | none => exact .refused (by simp)
  | some r =>
    dsimp only
    by_cases hneg : next < 0
    · rw [if_pos hneg]
      exact .refused (by simp)
    · rw [if_neg hneg]
      cases huniq : uniqueSources h.owner r sources [] with
      | none => exact .refused (by simp)
      | some unique =>
        obtain ⟨hunique, -, hsources⟩ := uniqueSources_unique huniq unique_nil
        dsimp only
        cases hr : h.owner r with
        | none =>
          dsimp only
          split_ifs
          · exact .refused (by simp)
          · exact .unlimited rfl (by omega) hunique hsources hr
        | some b =>
          have hmax : maxInt64 = 2 ^ 63 - 1 := rfl
          have hlimit := hb.range b
          have hle := hb.le b
          have hused := hb.used_nonneg b
          have hreleased : released h r unique ≤ h.used b := by
            rw [released_eq_sum hunique]
            exact hb.sum_le (holders_of_unique hunique hr)
          have hreleased' : 0 ≤ released h r unique := by
            rw [released_eq_sum hunique]
            exact Finset.sum_nonneg fun x _ => hb.nonneg x
          dsimp only
          rw [if_neg (by have := hb.nonneg r; omega)]
          obtain ⟨evaluated, hsum, hrange⟩ := releasedBytes_sum hb.nonneg unique (h.bytes r) [] (hb.nonneg r)
            (by unfold released at hreleased; omega) (by simp)
          rw [hsum]
          dsimp only
          rw [show h.bytes r + (unique.map h.bytes).sum = released h r unique from rfl, if_neg (by omega)]
          have hretained : Int64Range (h.used b - released h r unique) := ⟨by omega, by omega⟩
          have hroom : Int64Range (h.limit b - (h.used b - released h r unique)) := ⟨by omega, by omega⟩
          split_ifs with hfull
          · refine .refused fun x hx => ?_
            simp only [List.mem_append, List.mem_cons, List.not_mem_nil, or_false] at hx
            rcases hx with hx | rfl | rfl
            · exact hrange x hx
            · exact hretained
            · exact hroom
          · refine .limited rfl (by omega) hunique hsources hr (by omega) fun x hx => ?_
            simp only [List.mem_append, List.mem_cons, List.not_mem_nil, or_false] at hx
            rcases hx with hx | rfl | rfl | rfl
            · exact hrange x hx
            · exact hretained
            · exact hroom
            · exact ⟨by omega, by omega⟩

/-- The step. -/
lemma Replaced.balanced {target : Option R} {next : ℤ} {sources : List (Option R)} {a : Answer R B}
    (hb : Balanced h) (ha : Replaced h target next sources a) : Balanced a.heap := by
  cases ha with
  | refused => exact hb
  | @unlimited r unique _ hnext hunique _ hr =>
    refine ⟨moved_nonneg hb.nonneg hnext r unique, fun c => (hb.sum c).trans ?_, hb.le, hb.range⟩
    refine Finset.sum_congr rfl fun x hx => (moved_of_owner_ne hunique next ?_).symm
    rw [(Finset.mem_filter.1 hx).2, hr]
    simp
  | @limited r unique b _ _ hnext hunique _ hr hfits =>
    refine ⟨moved_nonneg hb.nonneg hnext r unique, fun c => ?_, fun c => ?_, hb.range⟩
    · by_cases hc : c = b
      · subst hc
        have hsum := sum_moved hunique next (holders_of_unique hunique hr)
        rw [← hb.sum] at hsum
        exact (Function.update_self ..).trans hsum.symm
      · have hother : ∑ x ∈ holders h c, moved h.bytes r next unique x = ∑ x ∈ holders h c, h.bytes x := by
          refine Finset.sum_congr rfl fun x hx => moved_of_owner_ne hunique next ?_
          rw [(Finset.mem_filter.1 hx).2, hr]
          simpa using hc
        simp only [Function.update_of_ne hc]
        exact (hb.sum c).trans hother.symm
    · by_cases hc : c = b
      · subst hc
        simpa using hfits
      · simpa [Function.update_of_ne hc] using hb.le c

omit [Fintype R] in
/-- The target of a successful call has its size, and the sources are empty. -/
lemma Replaced.moved {target : Option R} {next : ℤ} {sources : List (Option R)} {a : Answer R B}
    (ha : Replaced h target next sources a) (hok : a.ok = true) :
    (∀ r, target = some r → a.heap.bytes r = next) ∧ ∀ x, some x ∈ sources → a.heap.bytes x = 0 := by
  cases ha with
  | refused => cases hok
  | @unlimited r unique htarget _ hunique hsources _ =>
    refine ⟨fun r' hr' => ?_, fun x hx => if_pos (hsources x hx)⟩
    cases htarget.symm.trans hr'
    have hnot : r ∉ unique := fun hr => (hunique.other r hr).1 rfl
    simp [ReplayBudget.moved, hnot]
  | @limited r unique _ _ htarget _ hunique hsources _ _ _ =>
    refine ⟨fun r' hr' => ?_, fun x hx => if_pos (hsources x hx)⟩
    cases htarget.symm.trans hr'
    have hnot : r ∉ unique := fun hr => (hunique.other r hr).1 rfl
    simp [ReplayBudget.moved, hnot]

/-- A release succeeds: it asks for no bytes. -/
lemma release_eq (hb : Balanced h) (r : R) :
    (release h (some r)).ok = true ∧ (release h (some r)).heap =
      { h with
        bytes := moved h.bytes r 0 []
        used := match h.owner r with
          | none => h.used
          | some b => Function.update h.used b (h.used b - h.bytes r + 0) } := by
  unfold release resize replaceWith
  simp only [lt_irrefl, if_false, uniqueSources, releasedBytes]
  have hbytes := hb.nonneg r
  cases hr : h.owner r with
  | none =>
    dsimp only
    rw [if_neg (by simpa using hbytes)]
    exact ⟨rfl, rfl⟩
  | some b =>
    have hmax : maxInt64 = 2 ^ 63 - 1 := rfl
    have hlimit := hb.range b
    have hle := hb.le b
    have hused := hb.used_nonneg b
    have hreleased : h.bytes r ≤ h.used b := by
      simpa using hb.sum_le (holders_of_unique (unique_nil (r := r)) hr)
    dsimp only
    rw [if_neg (by omega), if_neg (by omega), if_neg (by omega)]
    exact ⟨rfl, rfl⟩

/-- An empty reservation has nothing to release. -/
lemma release_of_empty (hb : Balanced h) {r : R} (hempty : h.bytes r = 0) : (release h (some r)).heap = h := by
  rw [(release_eq hb r).2]
  have hbytes : moved h.bytes r 0 [] = h.bytes := by
    funext x
    by_cases hx : x = r
    · simp [moved, hx, hempty]
    · simp [moved, hx]
  rw [hbytes, hempty]
  cases h.owner r with
  | none => rfl
  | some b => simp

end Invariant

section Runs

variable {R B : Type} [DecidableEq R] [DecidableEq B] [Fintype R] {h : Heap R B}

/-- A call as a replacement. A release of nil is none. -/
lemma run_replaced (hb : Balanced h) (call : Call R) :
    (∃ target next sources, Replaced h target next sources (call.run h)) ∨ call.run h = ⟨true, h, []⟩ := by
  cases call with
  | resize target next => exact .inl ⟨target, next, [], replaceWith_replaced hb ..⟩
  | replaceWith target next sources => exact .inl ⟨target, next, sources, replaceWith_replaced hb ..⟩
  | release target =>
    cases target with
    | none => exact .inr rfl
    | some r => exact .inl ⟨some r, 0, [], replaceWith_replaced hb ..⟩

lemma run_balanced (hb : Balanced h) (call : Call R) : Balanced (call.run h).heap := by
  rcases run_replaced hb call with ⟨target, next, sources, hrun⟩ | hrun
  · exact hrun.balanced hb
  · rw [hrun]
    exact hb

lemma runCalls_balanced (hb : Balanced h) (calls : List (Call R)) : Balanced (runCalls h calls) := by
  induction calls generalizing h with
  | nil => exact hb
  | cons call calls ih => exact ih (run_balanced hb call)

lemma run_refused (hb : Balanced h) (call : Call R) (hrefused : (call.run h).ok = false) : (call.run h).heap = h := by
  rcases run_replaced hb call with ⟨target, next, sources, hrun⟩ | hrun
  · generalize call.run h = a at hrun hrefused
    cases hrun with
    | refused => rfl
    | unlimited => cases hrefused
    | limited => cases hrefused
  · rw [hrun]

lemma run_evaluated (hb : Balanced h) (call : Call R) : ∀ x ∈ (call.run h).evaluated, Int64Range x := by
  rcases run_replaced hb call with ⟨target, next, sources, hrun⟩ | hrun
  · generalize call.run h = a at hrun
    cases hrun with
    | refused hrange => exact hrange
    | unlimited => simp
    | limited _ _ _ _ _ _ hrange => exact hrange
  · rw [hrun]
    simp

lemma release_ok (hb : Balanced h) (target : Option R) : (release h target).ok = true := by
  cases target with
  | none => rfl
  | some r => exact (release_eq hb r).1

/-- A second release finds nothing to release. -/
lemma release_release (hb : Balanced h) (target : Option R) :
    (release (release h target).heap target).heap = (release h target).heap := by
  cases target with
  | none => rfl
  | some r =>
    have hfirst : Replaced h (some r) 0 [] (release h (some r)) := replaceWith_replaced hb ..
    exact release_of_empty (hfirst.balanced hb) ((hfirst.moved (release_ok hb (some r))).1 r rfl)

/-- Nothing is reserved, and the limits are positive integers of the code. -/
structure Fresh (h : Heap R B) : Prop where
  bytes : ∀ r, h.bytes r = 0
  used : ∀ b, h.used b = 0
  limit : ∀ b, 0 < h.limit b ∧ h.limit b ≤ maxInt64

omit [DecidableEq R] in
lemma balanced_fresh (h0 : Fresh h) : Balanced h where
  nonneg := fun r => (h0.bytes r).ge
  sum := fun b => by rw [h0.used, Finset.sum_eq_zero fun r _ => h0.bytes r]
  le := fun b => by rw [h0.used]; exact (h0.limit b).1.le
  range := h0.limit

/-- Whatever calls are made on reservations of any budgets, in any order, a budget has given out what its reservations
hold, and no more than its limit. A call that fails changes nothing; one that succeeds gives the target its size and
empties the sources; a release succeeds, and a second one changes nothing; and no expression leaves the range of the
code's integers. -/
theorem replay_budget_is_conserved (h : Heap R B) (h0 : Fresh h) (calls : List (Call R)) :
    (∀ b, (runCalls h calls).used b = ∑ r ∈ holders (runCalls h calls) b, (runCalls h calls).bytes r ∧
        0 ≤ (runCalls h calls).used b ∧ (runCalls h calls).used b ≤ (runCalls h calls).limit b) ∧
      (∀ r, 0 ≤ (runCalls h calls).bytes r) ∧
      (∀ call : Call R, ((call.run (runCalls h calls)).ok = false → (call.run (runCalls h calls)).heap = runCalls h calls) ∧
        ∀ x ∈ (call.run (runCalls h calls)).evaluated, Int64Range x) ∧
      (∀ target next sources, (replaceWith (runCalls h calls) target next sources).ok = true →
        (∀ r, target = some r → (replaceWith (runCalls h calls) target next sources).heap.bytes r = next) ∧
          ∀ x, some x ∈ sources → (replaceWith (runCalls h calls) target next sources).heap.bytes x = 0) ∧
      ∀ target, (release (runCalls h calls) target).ok = true ∧
        (release (release (runCalls h calls) target).heap target).heap = (release (runCalls h calls) target).heap := by
  have hb : Balanced (runCalls h calls) := runCalls_balanced (balanced_fresh h0) calls
  refine ⟨fun b => ⟨hb.sum b, hb.used_nonneg b, hb.le b⟩, hb.nonneg,
    fun call => ⟨run_refused hb call, run_evaluated hb call⟩, ?_, fun target => ⟨release_ok hb target, release_release hb target⟩⟩
  intro target next sources hok
  have hreplaced : Replaced _ target next sources _ := replaceWith_replaced hb target next sources
  exact hreplaced.moved hok

/-- Two budgets, with two reservations of the first and one of the second. -/
def sampleHeap : Heap (Fin 3) Bool := ⟨![some true, some true, some false], fun _ => 0, fun _ => 100, fun _ => 0⟩

theorem replay_budget_is_conserved_sampleHeap :
    (runCalls sampleHeap [.resize (some 0) 60, .resize (some 1) 50, .resize (some 1) 40,
        .replaceWith (some 0) 90 [some 1, none, some 1], .replaceWith (some 2) 5 [some 0]]).used true = 90 ∧
      (runCalls sampleHeap [.resize (some 0) 60, .resize (some 1) 50, .resize (some 1) 40,
        .replaceWith (some 0) 90 [some 1, none, some 1], .replaceWith (some 2) 5 [some 0]]).used true ≤ 100 :=
  ⟨by decide, ((replay_budget_is_conserved sampleHeap ⟨fun _ => rfl, fun _ => rfl, fun b => by cases b <;> decide⟩ _).1 true).2.2⟩

end Runs

end ShareSub.ReplayBudget

import Mathlib

/-!
# Idle timeouts of upstream bodies

Every read of an upstream body races with a timer that closes the body. A compare-and-swap decides the race; the body's
caller may close it at any time too.
-/
namespace ShareSub.BodyTimeout

variable {ε : Type}

/-- The atomic word of a read. -/
inductive ReadState
  | reading
  | completed
  | timedOut
  deriving DecidableEq

/-- The goroutine of the timer. -/
inductive Timer
  | armed
  | fired
  | closing
  | over
  | stopped
  deriving DecidableEq

inductive Failure (ε : Type)
  | upstream (e : ε)
  | idleTimeout
  deriving DecidableEq

/-- How far the reading goroutine is. -/
inductive Reader (ε : Type)
  | blocked
  | returned (n : ℕ) (err : Option ε)
  | decided (n : ℕ) (err : Option ε) (completed : Bool)
  | leaving (n : ℕ) (err : Option ε) (completed : Bool)
  | reported (n : ℕ) (result : Option (Failure ε))
  deriving DecidableEq

structure Read (ε : Type) where
  state : ReadState
  timer : Timer
  reader : Reader ε

structure IdleTimeoutBody (ε : Type) where
  reads : List (Read ε)
  closeOnce : Bool
  closes : ℕ
  closeAsked : Bool

inductive Step (ε : Type)
  | read
  | expire (i : ℕ)
  | timerSwap (i : ℕ)
  | timerClose (i : ℕ)
  | bodyRead (i : ℕ) (n : ℕ) (err : Option ε)
  | readerSwap (i : ℕ)
  | stopTimer (i : ℕ)
  | report (i : ℕ)
  | close

def opened : IdleTimeoutBody ε := ⟨[], false, 0, false⟩

def IdleTimeoutBody.close (b : IdleTimeoutBody ε) : IdleTimeoutBody ε :=
  if b.closeOnce then b else { b with closeOnce := true, closes := b.closes + 1 }

def Read.expire (r : Read ε) : Read ε := if r.timer = .armed then { r with timer := .fired } else r

/-- The timer's swap of 0 for 2. -/
def Read.timerSwap (r : Read ε) : Read ε :=
  if r.timer = .fired then
    if r.state = .reading then { r with state := .timedOut, timer := .closing } else { r with timer := .over }
  else r

def Read.bodyRead (n : ℕ) (err : Option ε) (r : Read ε) : Read ε :=
  match r.reader with
  | .blocked => { r with reader := .returned n err }
  | _ => r

/-- The reader's swap of 0 for 1. -/
def Read.readerSwap (r : Read ε) : Read ε :=
  match r.reader with
  | .returned n err =>
    if r.state = .reading then { r with state := .completed, reader := .decided n err true }
    else { r with reader := .decided n err false }
  | _ => r

def Read.stopTimer (r : Read ε) : Read ε :=
  match r.reader with
  | .decided n err completed =>
    { r with timer := if r.timer = .armed then .stopped else r.timer, reader := .leaving n err completed }
  | _ => r

def Read.report (r : Read ε) : Read ε :=
  match r.reader with
  | .leaving n err completed =>
    { r with reader := .reported n (if completed then err.map .upstream else some .idleTimeout) }
  | _ => r

def IdleTimeoutBody.at (b : IdleTimeoutBody ε) (i : ℕ) (f : Read ε → Read ε) : IdleTimeoutBody ε :=
  { b with reads := b.reads.modify i f }

def step (b : IdleTimeoutBody ε) : Step ε → IdleTimeoutBody ε
  | .read => { b with reads := b.reads ++ [⟨.reading, .armed, .blocked⟩] }
  | .expire i => b.at i Read.expire
  | .timerSwap i => b.at i Read.timerSwap
  | .timerClose i =>
    if (b.reads[i]?.map Read.timer) = some .closing then b.close.at i fun r => { r with timer := .over } else b
  | .bodyRead i n err => b.at i (Read.bodyRead n err)
  | .readerSwap i => b.at i Read.readerSwap
  | .stopTimer i => b.at i Read.stopTimer
  | .report i => b.at i Read.report
  | .close => { b.close with closeAsked := true }

def run (steps : List (Step ε)) : IdleTimeoutBody ε := steps.foldl step opened

section Race

variable {b : IdleTimeoutBody ε} {r : Read ε} {once : Bool} {i : ℕ}

/-- Who the reader takes for the winner, once it knows. -/
def Reader.won : Reader ε → Option Bool
  | .blocked => none
  | .returned _ _ => none
  | .decided _ _ completed => some completed
  | .leaving _ _ completed => some completed
  | .reported _ result =>
    match result with
    | some .idleTimeout => some false
    | _ => some true

@[simp] lemma Reader.won_returned (n : ℕ) (err : Option ε) : (returned n err).won = none := rfl

@[simp] lemma Reader.won_decided (n : ℕ) (err : Option ε) (completed : Bool) :
    (decided n err completed).won = some completed := rfl

@[simp] lemma Reader.won_leaving (n : ℕ) (err : Option ε) (completed : Bool) :
    (leaving n err completed).won = some completed := rfl

structure ReadOK (once : Bool) (r : Read ε) : Prop where
  undecided : r.state = .reading → r.reader.won = none ∧ (r.timer = .armed ∨ r.timer = .fired)
  kept : r.state = .completed → r.reader.won = some true ∧ r.timer ≠ .closing
  lost : r.state = .timedOut → r.reader.won ≠ some true ∧ (r.timer = .closing ∨ r.timer = .over ∧ once = true)

lemma ReadOK.closed (h : ReadOK once r) : ReadOK true r :=
  ⟨h.undecided, h.kept, fun hs => (h.lost hs).imp_right (Or.imp_right fun ht => ⟨ht.1, rfl⟩)⟩

lemma ReadOK.expire (h : ReadOK once r) : ReadOK once r.expire := by
  obtain ⟨state, timer, reader⟩ := r
  obtain ⟨hu, hk, hl⟩ := h
  unfold Read.expire
  split_ifs with harmed
  · constructor <;> grind
  · exact ⟨hu, hk, hl⟩

lemma ReadOK.timerSwap (h : ReadOK once r) : ReadOK once r.timerSwap := by
  obtain ⟨state, timer, reader⟩ := r
  obtain ⟨hu, hk, hl⟩ := h
  unfold Read.timerSwap
  split_ifs with hfired hreading
  · constructor <;> grind
  · constructor <;> grind
  · exact ⟨hu, hk, hl⟩

lemma ReadOK.bodyRead (h : ReadOK once r) (n : ℕ) (err : Option ε) : ReadOK once (r.bodyRead n err) := by
  obtain ⟨state, timer, reader⟩ := r
  cases reader with
  | blocked => exact ⟨h.undecided, h.kept, h.lost⟩
  | _ => exact h

lemma ReadOK.readerSwap (h : ReadOK once r) : ReadOK once r.readerSwap := by
  obtain ⟨state, timer, reader⟩ := r
  cases reader with
  | returned n err =>
    obtain ⟨hu, hk, hl⟩ := h
    cases state with
    | reading =>
      have htimer := (hu rfl).2
      refine ⟨fun hs => (by cases hs), fun _ => ⟨rfl, ?_⟩, fun hs => (by cases hs)⟩
      rcases htimer with harmed | hfired
      · exact harmed ▸ by decide
      · exact hfired ▸ by decide
    | completed => exact absurd (hk rfl).1 (by simp)
    | timedOut =>
      change ReadOK once ⟨.timedOut, timer, .decided n err false⟩
      exact ⟨fun hs => (by cases hs), fun hs => (by cases hs), fun _ => ⟨by simp, (hl rfl).2⟩⟩
  | _ => exact h

lemma ReadOK.stopTimer (h : ReadOK once r) : ReadOK once r.stopTimer := by
  obtain ⟨state, timer, reader⟩ := r
  cases reader with
  | decided n err completed =>
    obtain ⟨hu, hk, hl⟩ := h
    change ReadOK once ⟨state, if timer = .armed then .stopped else timer, .leaving n err completed⟩
    refine ⟨fun hs => absurd (hu hs).1 (by simp), fun hs => ⟨(hk hs).1, ?_⟩, fun hs => ⟨(hl hs).1, ?_⟩⟩
    · have htimer := (hk hs).2
      dsimp only at htimer ⊢
      split_ifs
      · decide
      · exact htimer
    · have htimer := (hl hs).2
      dsimp only at htimer ⊢
      rwa [if_neg]
      rintro rfl
      simp at htimer
  | _ => exact h

lemma ReadOK.report (h : ReadOK once r) : ReadOK once r.report := by
  obtain ⟨state, timer, reader⟩ := r
  cases reader with
  | leaving n err completed =>
    have hwon : (Read.report ⟨state, timer, .leaving n err completed⟩ : Read ε).reader.won = some completed := by
      cases completed with
      | true => cases err <;> rfl
      | false => rfl
    obtain ⟨hu, hk, hl⟩ := h
    exact ⟨fun hs => absurd (hu hs).1 (by simp), fun hs => ⟨hwon.trans (hk hs).1, (hk hs).2⟩,
      fun hs => ⟨fun hwin => (hl hs).1 (hwon.symm.trans hwin), (hl hs).2⟩⟩
  | _ => exact h

/-- A move of one read that keeps what is settled. -/
structure Moves (once : Bool) (r r' : Read ε) : Prop where
  ok : ReadOK once r → ReadOK once r'
  settled : r.state = .timedOut → r'.state = .timedOut

lemma moves_expire (r : Read ε) : Moves once r r.expire := by
  refine ⟨ReadOK.expire, fun h => ?_⟩
  unfold Read.expire
  split_ifs <;> exact h

lemma moves_timerSwap (r : Read ε) : Moves once r r.timerSwap := by
  refine ⟨ReadOK.timerSwap, fun h => ?_⟩
  unfold Read.timerSwap
  split_ifs <;> first | rfl | exact h

lemma moves_bodyRead (r : Read ε) (n : ℕ) (err : Option ε) : Moves once r (r.bodyRead n err) := by
  refine ⟨fun h => h.bodyRead n err, fun h => ?_⟩
  obtain ⟨state, timer, reader⟩ := r
  cases reader <;> exact h

lemma moves_readerSwap (r : Read ε) : Moves once r r.readerSwap := by
  refine ⟨ReadOK.readerSwap, fun h => ?_⟩
  obtain ⟨state, timer, reader⟩ := r
  cases (show state = .timedOut from h)
  cases reader <;> rfl

lemma moves_stopTimer (r : Read ε) : Moves once r r.stopTimer := by
  refine ⟨ReadOK.stopTimer, fun h => ?_⟩
  obtain ⟨state, timer, reader⟩ := r
  cases reader <;> exact h

lemma moves_report (r : Read ε) : Moves once r r.report := by
  refine ⟨ReadOK.report, fun h => ?_⟩
  obtain ⟨state, timer, reader⟩ := r
  cases reader <;> exact h

lemma timedOut_of_closing (h : ReadOK once r) (ht : r.timer = .closing) : r.state = .timedOut := by
  cases hs : r.state with
  | reading =>
    rcases (h.undecided hs).2 with harmed | hfired
    · rw [ht] at harmed
      cases harmed
    · rw [ht] at hfired
      cases hfired
  | completed => exact absurd ht (h.kept hs).2
  | timedOut => rfl

structure Sound (b : IdleTimeoutBody ε) : Prop where
  reads : ∀ r ∈ b.reads, ReadOK b.closeOnce r
  count : b.closes = if b.closeOnce then 1 else 0
  cause : b.closeOnce = true → b.closeAsked = true ∨ ∃ r ∈ b.reads, r.state = .timedOut

lemma Sound.at (h : Sound b) {f : Read ε → Read ε}
    (hf : ∀ r, b.reads[i]? = some r → Moves b.closeOnce r (f r)) : Sound (b.at i f) := by
  have hentry : ∀ (j : ℕ) (r : Read ε), b.reads[j]? = some r →
      ∃ r', (b.at i f).reads[j]? = some r' ∧ Moves b.closeOnce r r' := by
    intro j r hj
    by_cases hij : i = j
    · subst hij
      exact ⟨f r, by simp [IdleTimeoutBody.at, hj], hf r hj⟩
    · exact ⟨r, by simp [IdleTimeoutBody.at, hij, hj], id, id⟩
  refine ⟨?_, h.count, fun honce => (h.cause honce).imp_right ?_⟩
  · intro r' hr'
    obtain ⟨j, hj⟩ := List.mem_iff_getElem?.mp hr'
    have hlt : j < b.reads.length := by
      obtain ⟨hlt, -⟩ := List.getElem?_eq_some_iff.mp hj
      simpa [IdleTimeoutBody.at] using hlt
    obtain ⟨r'', hr'', hmoves⟩ := hentry j b.reads[j] (List.getElem?_eq_getElem hlt)
    obtain rfl := Option.some.inj (hr''.symm.trans hj)
    exact hmoves.ok (h.reads _ (List.getElem_mem hlt))
  · rintro ⟨r, hr, hs⟩
    obtain ⟨j, hj⟩ := List.mem_iff_getElem?.mp hr
    obtain ⟨r', hr', hmoves⟩ := hentry j r hj
    exact ⟨r', List.mem_of_getElem? hr', hmoves.settled hs⟩

lemma Sound.close (h : Sound b) (hcause : b.closeAsked = true ∨ ∃ r ∈ b.reads, r.state = .timedOut) :
    Sound b.close ∧ b.close.closeOnce = true ∧ b.close.reads = b.reads := by
  unfold IdleTimeoutBody.close
  split_ifs with honce
  · exact ⟨h, honce, rfl⟩
  · have hcount := h.count
    rw [if_neg honce] at hcount
    exact ⟨⟨fun r hr => (h.reads r hr).closed, by simp [hcount], fun _ => hcause⟩, rfl, rfl⟩

lemma step_sound (h : Sound b) (s : Step ε) : Sound (step b s) := by
  cases s with
  | read =>
    refine ⟨?_, h.count, fun honce => (h.cause honce).imp_right fun ⟨r, hr, hs⟩ => ⟨r, List.mem_append_left _ hr, hs⟩⟩
    intro r hr
    rcases List.mem_append.mp hr with hr | hr
    · exact h.reads r hr
    · obtain rfl := List.mem_singleton.mp hr
      exact ⟨fun _ => ⟨rfl, .inl rfl⟩, fun hs => (by cases hs), fun hs => (by cases hs)⟩
  | expire i => exact h.at fun r _ => moves_expire r
  | timerSwap i => exact h.at fun r _ => moves_timerSwap r
  | timerClose i =>
    simp only [step]
    split_ifs with hclosing
    · obtain ⟨r, hr, htimer⟩ := Option.map_eq_some_iff.mp hclosing
      have hmem := List.mem_of_getElem? hr
      have hstate := timedOut_of_closing (h.reads r hmem) htimer
      obtain ⟨hsound, honce, hreads⟩ := h.close (.inr ⟨r, hmem, hstate⟩)
      refine hsound.at fun r' hr' => ⟨fun hok => ?_, id⟩
      rw [hreads, hr] at hr'
      obtain rfl := Option.some.inj hr'
      refine ⟨fun hs => ?_, fun hs => ?_, fun hs => ⟨(hok.lost hs).1, .inr ⟨rfl, honce⟩⟩⟩
      · rw [hstate] at hs
        cases hs
      · rw [hstate] at hs
        cases hs
    · exact h
  | bodyRead i n err => exact h.at fun r _ => moves_bodyRead r n err
  | readerSwap i => exact h.at fun r _ => moves_readerSwap r
  | stopTimer i => exact h.at fun r _ => moves_stopTimer r
  | report i => exact h.at fun r _ => moves_report r
  | close =>
    have hasked : Sound { b with closeAsked := true } := ⟨h.reads, h.count, fun _ => .inl rfl⟩
    have hclose := (hasked.close (.inl rfl)).1
    have hsame : step b .close = IdleTimeoutBody.close { b with closeAsked := true } := by
      simp only [step, IdleTimeoutBody.close]
      split_ifs <;> rfl
    rwa [hsame]

lemma run_sound (steps : List (Step ε)) : Sound (run steps) := by
  induction steps using List.reverseRecOn with
  | nil => exact ⟨fun r hr => (by cases hr), rfl, fun h => (by cases h)⟩
  | append_singleton steps s ih =>
    unfold run at ih ⊢
    rw [List.foldl_concat]
    exact step_sound ih s

/-- However reads, their timers and the caller race, the upstream body is closed at most once, and only if the caller asks
for it or a read has timed out. A read reports the idle timeout if and only if its timer has won; the timer has then closed
the body or is about to, and a timer that has lost closes nothing. -/
theorem body_closed_once (steps : List (Step ε)) :
    (run steps).closes ≤ 1 ∧
      ((run steps).closes = 1 → (run steps).closeAsked = true ∨ ∃ r ∈ (run steps).reads, r.state = .timedOut) ∧
      (∀ r ∈ (run steps).reads, r.timer = .closing → r.state = .timedOut) ∧
      (∀ r ∈ (run steps).reads, r.state = .timedOut → r.timer = .closing ∨ (run steps).closes = 1) ∧
      ∀ r ∈ (run steps).reads, ∀ n result, r.reader = .reported n result →
        (result = some .idleTimeout ↔ r.state = .timedOut) := by
  have hrun := run_sound steps
  refine ⟨?_, fun hcloses => hrun.cause ?_, fun r hr => timedOut_of_closing (hrun.reads r hr), ?_, ?_⟩
  · rw [hrun.count]
    split_ifs <;> omega
  · by_contra honce
    rw [hrun.count, if_neg honce] at hcloses
    omega
  · intro r hr hs
    refine ((hrun.reads r hr).lost hs).2.imp_right fun ⟨_, honce⟩ => ?_
    rw [hrun.count, if_pos honce]
  · intro r hr n result hreader
    have hok := hrun.reads r hr
    cases hs : r.state with
    | reading =>
      have hnone := (hok.undecided hs).1
      rw [hreader] at hnone
      cases result with
      | none => cases hnone
      | some failure => cases failure <;> cases hnone
    | completed =>
      have hwon := (hok.kept hs).1
      rw [hreader] at hwon
      refine iff_of_false ?_ (by decide)
      rintro rfl
      cases hwon
    | timedOut =>
      have hwon := (hok.lost hs).1
      rw [hreader] at hwon
      refine iff_of_true ?_ rfl
      cases result with
      | none => exact absurd rfl hwon
      | some failure =>
        cases failure with
        | upstream e => exact absurd rfl hwon
        | idleTimeout => rfl

end Race

end ShareSub.BodyTimeout

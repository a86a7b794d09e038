import ShareSub.GatewayModel
import ShareSub.Numeral

/-!
# The ids of the attempts of one exchange

A request or a connection never records two attempts for one account under the same id of its
own: an HTTP loop counts the attempts on an account and never returns to one it left, and a
connection counts its turns and the failed tries of a turn.
-/
namespace ShareSub.GatewayAttempts
open GatewayModel

section Texts

/-- What stands before the number that ends the text of a mark. -/
def markStem : Mark → List Char
  | .first => []
  | .retry _ => "-request-scope".toList ++ ['d'] ++ "-attempt-".toList
  | .turn _ => "-ws-".toList
  | .turnAttempt number _ => "-ws-".toList ++ Nat.toDigits 10 number ++ "-attempt-".toList

lemma stem_retry (attempt : ℕ) :
    markStem (.retry attempt) = "-request-scope".toList ++ ['d'] ++ "-attempt-".toList := rfl

lemma stem_turn (number : ℕ) : markStem (.turn number) = "-ws-".toList := rfl

lemma stem_turnAttempt (number attempt : ℕ) :
    markStem (.turnAttempt number attempt) = "-ws-".toList ++ Nat.toDigits 10 number ++ "-attempt-".toList := rfl

def markNumber : Mark → ℕ
  | .first => 0
  | .retry attempt => attempt
  | .turn number => number
  | .turnAttempt _ attempt => attempt

lemma text_eq_stem {m : Mark} (hm : m ≠ .first) : m.text.toList = markStem m ++ Nat.toDigits 10 (markNumber m) := by
  cases m with
  | first => exact absurd rfl hm
  | retry attempt =>
    have hstem : "-request-scoped-attempt-".toList = "-request-scope".toList ++ ['d'] ++ "-attempt-".toList := by
      decide
    rw [text_retry, String.toList_append, Nat.toString_eq_repr, Nat.toList_repr, hstem]
    rfl
  | turn number =>
    rw [text_turn, String.toList_append, Nat.toString_eq_repr, Nat.toList_repr]
    rfl
  | turnAttempt number attempt =>
    simp only [text_turnAttempt, String.toList_append, Nat.toString_eq_repr, Nat.toList_repr]
    rfl

lemma noDigitLast_append {w v : List Char} (h : v.getLast? = some '-') : NoDigitLast (w ++ v) := by
  intro c hc
  have hne : v ≠ [] := by
    rintro rfl
    cases h
  rw [List.getLast?_append_of_ne_nil w hne, h] at hc
  obtain rfl : '-' = c := Option.some.inj hc
  rfl

lemma stem_getLast? {m : Mark} (hm : m ≠ .first) : (markStem m).getLast? = some '-' := by
  cases m with
  | first => exact absurd rfl hm
  | retry attempt =>
    rw [stem_retry]
    decide
  | turn number =>
    rw [stem_turn]
    decide
  | turnAttempt number attempt =>
    rw [stem_turnAttempt, List.getLast?_append_of_ne_nil _ (by decide)]
    decide

/-- The stem of no mark ends in that of another. -/
lemma stem_suffix {m₁ m₂ : Mark} {w : List Char} (h₁ : m₁ ≠ .first) (h₂ : m₂ ≠ .first)
    (h : w ++ markStem m₁ = markStem m₂) (hnumber : markNumber m₁ = markNumber m₂) : w = [] ∧ m₁ = m₂ := by
  have hws : "-ws-".toList.length = 4 := by decide
  have hattempt : "-attempt-".toList.length = 9 := by decide
  cases m₁ with
  | first => exact absurd rfl h₁
  | retry attempt =>
    cases m₂ with
    | first => exact absurd rfl h₂
    | retry attempt' => exact ⟨List.append_left_eq_self.mp h, congrArg Mark.retry hnumber⟩
    | turn number =>
      have hlength := congrArg List.length h
      simp only [stem_retry, stem_turn, List.length_append] at hlength
      omega
    | turnAttempt number attempt' =>
      -- both end in `-attempt-`, after a letter here and after a digit there
      simp only [stem_retry, stem_turnAttempt, ← List.append_assoc] at h
      exact absurd (List.append_cancel_right h).symm (numeral_suffix_ne rfl)
  | turn number =>
    cases m₂ with
    | first => exact absurd rfl h₂
    | retry attempt =>
      have hsuffix : "-ws-".toList <:+ "-request-scope".toList ++ ['d'] ++ "-attempt-".toList := ⟨w, h⟩
      exact absurd hsuffix (by decide)
    | turn number' => exact ⟨List.append_left_eq_self.mp h, congrArg Mark.turn hnumber⟩
    | turnAttempt number' attempt =>
      have hsuffix : "-ws-".toList <:+ "-attempt-".toList :=
        List.suffix_of_suffix_length_le ⟨w, h⟩ (List.suffix_append _ _) (by decide)
      exact absurd hsuffix (by decide)
  | turnAttempt number attempt =>
    cases m₂ with
    | first => exact absurd rfl h₂
    | retry attempt' =>
      simp only [stem_retry, stem_turnAttempt, ← List.append_assoc] at h
      exact absurd (List.append_cancel_right h) (numeral_suffix_ne rfl)
    | turn number' =>
      have hlength := congrArg List.length h
      simp only [stem_turn, stem_turnAttempt, List.length_append] at hlength
      omega
    | turnAttempt number' attempt' =>
      simp only [stem_turnAttempt, ← List.append_assoc] at h
      obtain ⟨hw, rfl⟩ := numeral_suffix_inj (noDigitLast_append (by decide))
        (noDigitLast_append (w := []) (by decide)) (List.append_cancel_right h)
      exact ⟨List.append_left_eq_self.mp hw, congrArg (Mark.turnAttempt number) hnumber⟩

lemma text_suffix {m₁ m₂ : Mark} {w : List Char} (h₁ : m₁ ≠ .first)
    (h : w ++ m₁.text.toList = m₂.text.toList) : w = [] ∧ m₁ = m₂ := by
  rw [text_eq_stem h₁, ← List.append_assoc] at h
  by_cases h₂ : m₂ = .first
  · subst h₂
    have hnil := List.append_eq_nil_iff.mp h
    exact absurd hnil.2 Nat.toDigits_ne_nil
  · rw [text_eq_stem h₂] at h
    obtain ⟨hstem, hnumber⟩ := numeral_suffix_inj (noDigitLast_append (stem_getLast? h₁))
      (noDigitLast_append (w := []) (stem_getLast? h₂)) h
    exact stem_suffix h₁ h₂ hstem hnumber

/-- Two ids of the gateway's own agree when the requests and the marks do, or when one request is
named like an attempt of the other. -/
theorem fallback_text_eq_iff {g₁ g₂ : String} {m₁ m₂ : Mark} :
    (RequestID.fallback g₁ m₁).text = (RequestID.fallback g₂ m₂).text ↔
      g₁ = g₂ ∧ m₁ = m₂ ∨ m₁ = .first ∧ g₁ = g₂ ++ m₂.text ∨ m₂ = .first ∧ g₂ = g₁ ++ m₁.text := by
  constructor
  · intro h
    have hchars : g₁.toList ++ m₁.text.toList = g₂.toList ++ m₂.text.toList := by
      simpa only [RequestID.text, String.toList_append] using congrArg String.toList h
    rcases List.append_eq_append_iff.mp hchars with ⟨w, hg, hm⟩ | ⟨w, hg, hm⟩
    · by_cases hfirst : m₂ = .first
      · subst hfirst
        exact Or.inr (Or.inr ⟨rfl, by simpa [RequestID.text, text_first] using h.symm⟩)
      · obtain ⟨rfl, rfl⟩ := text_suffix hfirst hm.symm
        exact Or.inl ⟨String.toList_injective (by simpa using hg.symm), rfl⟩
    · by_cases hfirst : m₁ = .first
      · subst hfirst
        exact Or.inr (Or.inl ⟨rfl, by simpa [RequestID.text, text_first] using h⟩)
      · obtain ⟨rfl, rfl⟩ := text_suffix hfirst hm.symm
        exact Or.inl ⟨String.toList_injective (by simpa using hg), rfl⟩
  · rintro (⟨rfl, rfl⟩ | ⟨rfl, rfl⟩ | ⟨rfl, rfl⟩)
    · rfl
    · simp [RequestID.text, text_first]
    · simp [RequestID.text, text_first]

end Texts

variable {Usage : Type}

/-- The account and the mark of an attempt that the upstream did not name. -/
def slot? (m : Metric Usage) : Option (String × Mark) :=
  match m.requestID with
  | .upstream _ => none
  | .fallback _ mark => some (m.access.accountID, mark)

/-- Every id of the gateway's own starts with the id of the exchange. -/
def NamedBy (gatewayRequestID : String) (m : Metric Usage) : Prop :=
  ∀ g mark, m.requestID = .fallback g mark → g = gatewayRequestID

/-- The id that the upstream gave an attempt. -/
def upstreamID? (m : Metric Usage) : Option String :=
  match m.requestID with
  | .upstream u => some u
  | .fallback _ _ => none

lemma filterMap_cons_toList {α β : Type} (f : α → Option β) (a : α) (l : List α) :
    (a :: l).filterMap f = (f a).toList ++ l.filterMap f := by
  cases h : f a <;> simp [h]

section Given

/-- The id among the headers of an upstream response. -/
def headerID (xRequestID openaiRequestID : String) : Option String :=
  if xRequestID ≠ "" then some xRequestID
  else if openaiRequestID ≠ "" then some openaiRequestID
  else none

def Pass.givenID (p : Pass Usage) : Option String :=
  match p.forward with
  | .answered r => headerID r.xRequestID r.openaiRequestID
  | _ => none

def Try.givenID : Try Usage → Option String
  | .afterTurn responseID _ _ _ => if trimSpace responseID ≠ "" then some (trimSpace responseID) else none
  | _ => none

/-- The ids that the upstream gives in the course of an exchange, one for each response that has one. -/
def givenIDs : Exchange Usage → List String
  | .responses request | .images request | .alphaSearch request => request.passes.filterMap Pass.givenID
  | .webSocket request => request.turns.flatMap fun t => t.tries.filterMap Try.givenID

end Given

section HTTP

/-- The mark of an HTTP attempt after a number of retries on its account. -/
def attemptMark (completedRetries : ℕ) : Mark :=
  if completedRetries = 0 then .first else .retry (completedRetries + 1)

lemma requestScopedAttemptRequestID_eq (g : String) (n : ℕ) :
    requestScopedAttemptRequestID g n = .fallback g (attemptMark n) := by
  unfold requestScopedAttemptRequestID attemptMark
  split_ifs <;> rfl

lemma attemptMark_injective : Function.Injective attemptMark := by
  intro m n h
  unfold attemptMark at h
  split_ifs at h with hm hn hn
  · omega
  · injection h
    omega

/-- One pass records at most one attempt, on the account that the loop is on. -/
def Emits (g : String) (given : Option String) (l : Loop) (metrics : List (Metric Usage)) : Prop :=
  metrics = [] ∨ ∃ id usage, metrics = [⟨id, l.access, usage⟩] ∧
    (id = requestScopedAttemptRequestID g (l.requestScopedRetries l.access.accountID) ∨
      ∃ u, given = some u ∧ id = .upstream u)

/-- What one pass can do: end the request, leave the account for good, count a retry on it, or try
it again with a new token and without a record. -/
inductive PassMove (g : String) (given : Option String) (l : Loop) : List (Metric Usage) → Next → Prop
  | ended {metrics : List (Metric Usage)} {held : Bool} (hemits : Emits g given l metrics) :
      PassMove g given l metrics (.finish held)
  | moved {metrics : List (Metric Usage)} {l' : Loop} (hemits : Emits g given l metrics)
      (hfresh : l'.access.accountID ∉ l'.excludedAccountIDs)
      (hexcluded : l'.excludedAccountIDs = l.excludedAccountIDs ++ [l.access.accountID])
      (hretries : l'.requestScopedRetries = l.requestScopedRetries) : PassMove g given l metrics (.again l')
  | retried {metrics : List (Metric Usage)} (hemits : Emits g given l metrics) :
      PassMove g given l metrics (.again l.retry)
  | refreshed {l' : Loop} (haccess : l'.access = l.access)
      (hexcluded : l'.excludedAccountIDs = l.excludedAccountIDs)
      (hretries : l'.requestScopedRetries = l.requestScopedRetries) : PassMove g given l [] (.again l')

variable {e : Endpoint} {g : String} {given : Option String} {p : Pass Usage} {l l' : Loop} {next : List Access}
  {metric : Metric Usage}

lemma resolveNext_fresh {access : Access} (h : resolveNext next l = some access) :
    access.accountID ∉ l.excludedAccountIDs ++ [l.access.accountID] := by
  simpa using List.find?_some h

def recordedIn (events : List (Event Usage)) : List (Metric Usage) := events.filterMap Event.metric?

@[simp] lemma recordedIn_nil : recordedIn ([] : List (Event Usage)) = [] := rfl

@[simp] lemma recordedIn_recorded (m : Metric Usage) (events : List (Event Usage)) :
    recordedIn (.recorded m :: events) = m :: recordedIn events := rfl

@[simp] lemma recordedIn_responded (events : List (Event Usage)) :
    recordedIn (.responded :: events) = recordedIn events := rfl

@[simp] lemma recordedIn_released (accountID : String) (events : List (Event Usage)) :
    recordedIn (.released accountID :: events) = recordedIn events := rfl

@[simp] lemma recordedIn_resolved (accountID : String) (events : List (Event Usage)) :
    recordedIn (.resolved accountID :: events) = recordedIn events := rfl

@[simp] lemma recordedIn_forwarded (accountID : String) (events : List (Event Usage)) :
    recordedIn (.forwarded accountID :: events) = recordedIn events := rfl

@[simp] lemma recordedIn_append (xs ys : List (Event Usage)) :
    recordedIn (xs ++ ys) = recordedIn xs ++ recordedIn ys := List.filterMap_append

lemma recordedIn_deferred (held : Bool) (accountID : String) :
    recordedIn (if held then [Event.released accountID] else ([] : List (Event Usage))) = [] := by
  split_ifs <;> rfl

/-- A switch after an attempt; the loop may have marked its account in between. -/
lemma switchAccount_moves (next : List Access) {metrics : List (Metric Usage)} (hemits : Emits g given l metrics)
    (haccess : l'.access = l.access) (hexcluded : l'.excludedAccountIDs = l.excludedAccountIDs)
    (hretries : l'.requestScopedRetries = l.requestScopedRetries) :
    recordedIn (switchAccount next l' : List (Event Usage) × Next).1 = [] ∧
      PassMove g given l metrics (switchAccount next l' : List (Event Usage) × Next).2 := by
  unfold switchAccount
  split_ifs with hleft
  · split
    · next access hresolve =>
      have hfresh := resolveNext_fresh hresolve
      refine ⟨by simp, PassMove.moved hemits hfresh ?_ hretries⟩
      rw [Loop.moveTo, haccess, hexcluded]
    · exact ⟨by simp, PassMove.ended hemits⟩
  · exact ⟨by simp, PassMove.ended hemits⟩

lemma markRefreshed_keeps (l : Loop) (status : ℕ) :
    (l.markRefreshed status).access = l.access ∧
      (l.markRefreshed status).excludedAccountIDs = l.excludedAccountIDs ∧
      (l.markRefreshed status).requestScopedRetries = l.requestScopedRetries := by
  unfold Loop.markRefreshed
  split_ifs <;> exact ⟨rfl, rfl, rfl⟩

lemma rejected_moves (r : Response Usage) (hemits : Emits g given l [metric]) :
    PassMove g given l (recordedIn (rejected e metric r next l).1) (rejected e metric r next l).2 := by
  obtain ⟨haccess, hexcluded, hretries⟩ := markRefreshed_keeps l r.status
  unfold rejected
  split_ifs
  · exact PassMove.ended hemits
  · exact PassMove.ended hemits
  · exact PassMove.refreshed haccess hexcluded hretries
  · exact PassMove.ended hemits
  · obtain ⟨hnone, hmove⟩ := switchAccount_moves next hemits haccess hexcluded hretries
    simp only [recordedIn_recorded, hnone]
    exact hmove

lemma accepted_moves (r : Response Usage) (hemits : Emits g given l [metric]) :
    PassMove g given l (recordedIn (accepted e metric r next l).1) (accepted e metric r next l).2 := by
  unfold accepted
  split
  · exact PassMove.ended hemits
  · exact PassMove.ended hemits
  · split_ifs
    · exact PassMove.retried hemits
    · exact PassMove.ended hemits
    · exact PassMove.ended hemits
    · obtain ⟨hnone, hmove⟩ := switchAccount_moves next hemits rfl rfl rfl
      simp only [recordedIn_recorded, hnone]
      exact hmove
    · exact PassMove.ended hemits

lemma upstreamRequestID_cases (x y : String) (id : RequestID) :
    upstreamRequestID x y id = id ∨ ∃ u, headerID x y = some u ∧ upstreamRequestID x y id = .upstream u := by
  unfold upstreamRequestID headerID
  split_ifs
  · exact Or.inr ⟨x, rfl, rfl⟩
  · exact Or.inr ⟨y, rfl, rfl⟩
  · exact Or.inl rfl

lemma emits_attempt (g : String) (l : Loop) (usage : Usage) :
    Emits g given l [⟨requestScopedAttemptRequestID g (l.requestScopedRetries l.access.accountID), l.access, usage⟩] :=
  Or.inr ⟨_, usage, rfl, Or.inl rfl⟩

lemma afterForward_moves (e : Endpoint) (g : String) (p : Pass Usage) (l : Loop) :
    PassMove g (Pass.givenID p) l
      (recordedIn (afterForward e
        (requestScopedAttemptRequestID g (l.requestScopedRetries l.access.accountID)) p l).1)
      (afterForward e (requestScopedAttemptRequestID g (l.requestScopedRetries l.access.accountID)) p l).2 := by
  unfold afterForward
  split
  · exact PassMove.ended (emits_attempt g l _)
  · exact PassMove.ended (emits_attempt g l _)
  · next usage _ =>
    obtain ⟨hnone, hmove⟩ := switchAccount_moves p.next (emits_attempt g l usage) rfl rfl rfl
    simp only [recordedIn_recorded, hnone]
    exact hmove
  · exact PassMove.ended (emits_attempt g l _)
  · next r hanswered =>
    have hgiven : Pass.givenID p = headerID r.xRequestID r.openaiRequestID := by
      rw [Pass.givenID, hanswered]
    have hemits : Emits g (Pass.givenID p) l [(⟨upstreamRequestID r.xRequestID r.openaiRequestID
        (requestScopedAttemptRequestID g (l.requestScopedRetries l.access.accountID)), l.access, r.usage⟩ :
        Metric Usage)] := by
      rw [hgiven]
      exact Or.inr ⟨_, r.usage, rfl, upstreamRequestID_cases ..⟩
    split_ifs
    · exact rejected_moves r hemits
    · exact accepted_moves r hemits

lemma pass_moves (e : Endpoint) (g : String) (p : Pass Usage) (l : Loop) :
    PassMove g (Pass.givenID p) l (recordedIn (onePass e g p l).1) (onePass e g p l).2 := by
  unfold onePass
  by_cases hblocked : e.checksModel ∧ p.modelBlocked
  · rw [if_pos hblocked]
    split
    · next access hresolve =>
      have hfresh := resolveNext_fresh hresolve
      exact PassMove.moved (Or.inl rfl) hfresh rfl rfl
    · exact PassMove.ended (Or.inl rfl)
  · rw [if_neg hblocked]
    dsimp only
    generalize (if e.appliesPolicy then p.policy else .applied) = policy
    cases policy with
    | refused usage => exact PassMove.ended (emits_attempt g l usage)
    | applied => exact afterForward_moves e g p l

/-- The attempts that a loop records from some point on: none is on an account that was left, each is
numbered from the retries already counted, and no account gets a number twice. -/
structure Numbered (g : String) (l : Loop) (metrics : List (Metric Usage)) : Prop where
  bounded : ∀ slot ∈ metrics.filterMap slot?, slot.1 ∉ l.excludedAccountIDs ∧
    ∃ n, slot.2 = attemptMark n ∧ l.requestScopedRetries slot.1 ≤ n
  nodup : (metrics.filterMap slot?).Nodup
  named : ∀ m ∈ metrics, NamedBy g m

/-- The slot that the current attempt takes if the upstream does not name it. -/
def currentSlot (l : Loop) : String × Mark :=
  (l.access.accountID, attemptMark (l.requestScopedRetries l.access.accountID))

lemma emits_slots {metrics : List (Metric Usage)} (h : Emits g given l metrics) :
    (metrics.filterMap slot? = [] ∨ metrics.filterMap slot? = [currentSlot l]) ∧ ∀ m ∈ metrics, NamedBy g m := by
  rcases h with rfl | ⟨id, usage, rfl, rfl | ⟨u, -, rfl⟩⟩
  · exact ⟨Or.inl rfl, by simp⟩
  · rw [requestScopedAttemptRequestID_eq]
    refine ⟨Or.inr rfl, ?_⟩
    intro m hm g' mark hid
    obtain rfl := List.mem_singleton.mp hm
    injection hid with hg
    exact hg.symm
  · refine ⟨Or.inl rfl, ?_⟩
    intro m hm g' mark hid
    obtain rfl := List.mem_singleton.mp hm
    cases hid

/-- The attempts of one pass come before those of the later ones. -/
lemma Numbered.cons {earlier later : List (Metric Usage)} (hl : l.access.accountID ∉ l.excludedAccountIDs)
    (hemits : Emits g given l earlier) (hlater : Numbered g l later)
    (hnew : currentSlot l ∉ later.filterMap slot?) : Numbered g l (earlier ++ later) := by
  obtain ⟨hslots, hnamed⟩ := emits_slots hemits
  have hown : ∀ slot ∈ earlier.filterMap slot?, slot = currentSlot l := by
    intro slot hslot
    rcases hslots with hnone | hone
    · simp [hnone] at hslot
    · rw [hone] at hslot
      exact List.mem_singleton.mp hslot
  refine ⟨?_, ?_, ?_⟩
  · intro slot hslot
    rw [List.filterMap_append] at hslot
    rcases List.mem_append.mp hslot with hslot | hslot
    · obtain rfl := hown slot hslot
      exact ⟨hl, _, rfl, le_rfl⟩
    · exact hlater.bounded slot hslot
  · rw [List.filterMap_append]
    refine List.nodup_append.mpr ⟨?_, hlater.nodup, ?_⟩
    · rcases hslots with hnone | hone
      · simp [hnone]
      · simp [hone]
    · intro slot hslot other hother heq
      obtain rfl := hown slot hslot
      exact hnew (heq ▸ hother)
  · intro m hm
    rcases List.mem_append.mp hm with hm | hm
    · exact hnamed m hm
    · exact hlater.named m hm

lemma numbered_nil (g : String) (l : Loop) : Numbered g l ([] : List (Metric Usage)) :=
  ⟨by simp, by simp, by simp⟩

/-- After a switch every attempt is on another account. -/
lemma Numbered.of_moved {later : List (Metric Usage)} (h : Numbered g l' later)
    (hexcluded : l'.excludedAccountIDs = l.excludedAccountIDs ++ [l.access.accountID])
    (hretries : l'.requestScopedRetries = l.requestScopedRetries) :
    Numbered g l later ∧ currentSlot l ∉ later.filterMap slot? := by
  refine ⟨⟨?_, h.nodup, h.named⟩, ?_⟩
  · intro slot hslot
    obtain ⟨hout, n, hmark, hle⟩ := h.bounded slot hslot
    rw [hexcluded] at hout
    exact ⟨fun hin => hout (List.mem_append_left _ hin), n, hmark, hretries ▸ hle⟩
  · intro hin
    have hout := (h.bounded _ hin).1
    rw [hexcluded] at hout
    exact hout (List.mem_append_right _ (List.mem_singleton_self _))

/-- After a retry every attempt on the account has a higher number. -/
lemma Numbered.of_retried {later : List (Metric Usage)} (h : Numbered g l.retry later) :
    Numbered g l later ∧ currentSlot l ∉ later.filterMap slot? := by
  refine ⟨⟨?_, h.nodup, h.named⟩, ?_⟩
  · intro slot hslot
    obtain ⟨hout, n, hmark, hle⟩ := h.bounded slot hslot
    refine ⟨hout, n, hmark, ?_⟩
    by_cases hsame : slot.1 = l.access.accountID
    · simp only [Loop.retry, hsame, Function.update_self] at hle
      rw [hsame]
      omega
    · simp only [Loop.retry, Function.update_of_ne hsame] at hle
      exact hle
  · intro hin
    obtain ⟨-, n, hmark, hle⟩ := h.bounded _ hin
    have hn : l.requestScopedRetries l.access.accountID = n := attemptMark_injective hmark
    simp only [currentSlot, Loop.retry, Function.update_self] at hle
    omega

lemma runPasses_numbered (e : Endpoint) (g : String) (ps : List (Pass Usage)) (l : Loop)
    (hl : l.access.accountID ∉ l.excludedAccountIDs) : Numbered g l (recordedIn (runPasses e g ps l)) := by
  induction ps generalizing l with
  | nil => exact numbered_nil g l
  | cons p ps ih =>
    have hmove := pass_moves e g p l
    rw [runPasses]
    generalize onePass e g p l = result at hmove ⊢
    obtain ⟨events, next⟩ := result
    simp only at hmove
    generalize hearlier : recordedIn events = earlier at hmove
    cases hmove with
    | @ended _ held hemits =>
      simp only [recordedIn_append, hearlier, recordedIn_deferred]
      exact Numbered.cons hl hemits (numbered_nil g l) (by simp)
    | @moved _ l' hemits hfresh hexcluded hretries =>
      simp only [recordedIn_append, hearlier]
      obtain ⟨hlater, hnew⟩ := (ih l' hfresh).of_moved hexcluded hretries
      exact Numbered.cons hl hemits hlater hnew
    | retried hemits =>
      simp only [recordedIn_append, hearlier]
      obtain ⟨hlater, hnew⟩ := (ih l.retry hl).of_retried
      exact Numbered.cons hl hemits hlater hnew
    | @refreshed l' haccess hexcluded hretries =>
      simp only [recordedIn_append, hearlier, List.nil_append]
      have hsame := ih l' (by rw [haccess, hexcluded]; exact hl)
      refine ⟨?_, hsame.nodup, hsame.named⟩
      rw [← hexcluded, ← hretries]
      exact hsame.bounded

lemma emits_given {metrics : List (Metric Usage)} (h : Emits g given l metrics) :
    (metrics.filterMap upstreamID?).Sublist given.toList := by
  rcases h with rfl | ⟨id, usage, rfl, rfl | ⟨u, rfl, rfl⟩⟩
  · exact List.nil_sublist _
  · rw [requestScopedAttemptRequestID_eq]
    exact List.nil_sublist _
  · exact List.Sublist.refl _

lemma PassMove.given_sublist {metrics : List (Metric Usage)} {next : Next} (h : PassMove g given l metrics next) :
    (metrics.filterMap upstreamID?).Sublist given.toList := by
  cases h with
  | ended hemits => exact emits_given hemits
  | moved hemits => exact emits_given hemits
  | retried hemits => exact emits_given hemits
  | refreshed => exact List.nil_sublist _

/-- No response of the upstream is recorded twice. -/
lemma runPasses_given (e : Endpoint) (g : String) (ps : List (Pass Usage)) (l : Loop) :
    ((recordedIn (runPasses e g ps l)).filterMap upstreamID?).Sublist (ps.filterMap Pass.givenID) := by
  induction ps generalizing l with
  | nil => exact List.nil_sublist _
  | cons p ps ih =>
    have hgiven := (pass_moves e g p l).given_sublist
    rw [runPasses, filterMap_cons_toList]
    generalize onePass e g p l = result at hgiven ⊢
    obtain ⟨events, next⟩ := result
    cases next with
    | again l' =>
      simp only [recordedIn_append, List.filterMap_append]
      exact hgiven.append (ih l')
    | finish held =>
      simp only [recordedIn_append, recordedIn_deferred, List.append_nil]
      exact hgiven.trans (List.sublist_append_left ..)

/-- What holds of the recorded attempts of every exchange. -/
structure Distinct (g : String) (metrics : List (Metric Usage)) : Prop where
  slots : (metrics.filterMap slot?).Nodup
  named : ∀ m ∈ metrics, NamedBy g m

lemma Numbered.distinct {metrics : List (Metric Usage)} (h : Numbered g l metrics) : Distinct g metrics :=
  ⟨h.nodup, h.named⟩

lemma handle_distinct (e : Endpoint) (r : HTTPRequest Usage) :
    Distinct (gatewayRequestID r.headers) (recordedIn (handle e r)) := by
  unfold handle
  split
  · exact ⟨by simp, by simp⟩
  · split
    · exact ⟨by simp, by simp⟩
    · split
      · refine ⟨by simp [slot?], ?_⟩
        intro m hm g mark hid
        simp only [recordedIn_resolved, recordedIn_recorded, recordedIn_responded, recordedIn_released,
          recordedIn_nil, List.mem_singleton] at hm
        subst hm
        injection hid with hg
        exact hg.symm
      · simp only [recordedIn_resolved]
        exact (runPasses_numbered e _ r.passes _ (by exact List.not_mem_nil)).distinct

lemma handle_given (e : Endpoint) (r : HTTPRequest Usage) :
    ((recordedIn (handle e r)).filterMap upstreamID?).Sublist (r.passes.filterMap Pass.givenID) := by
  unfold handle
  split
  · exact List.nil_sublist _
  · split
    · exact List.nil_sublist _
    · split
      · exact List.nil_sublist _
      · exact runPasses_given ..

end HTTP

section WebSocket

/-- Attempts of one connection, all with marks from a set and no two with the same. -/
structure Marked (g : String) (P : Mark → Prop) (metrics : List (Metric Usage)) : Prop where
  within : ∀ slot ∈ metrics.filterMap slot?, P slot.2
  nodup : ((metrics.filterMap slot?).map Prod.snd).Nodup
  named : ∀ m ∈ metrics, NamedBy g m

variable {g : String} {P Q R : Mark → Prop} {turn attempt : ℕ}

lemma marked_nil (g : String) (P : Mark → Prop) : Marked g P ([] : List (Metric Usage)) :=
  ⟨by simp, by simp, by simp⟩

lemma marked_fallback {mark : Mark} (h : P mark) (access : Access) (usage : Usage) :
    Marked g P [⟨.fallback g mark, access, usage⟩] := by
  refine ⟨?_, by simp [slot?], ?_⟩
  · intro slot hslot
    obtain rfl : slot = (access.accountID, mark) := by simpa [slot?] using hslot
    exact h
  · intro m hm g' mark' hid
    obtain rfl := List.mem_singleton.mp hm
    injection hid with hg
    exact hg.symm

lemma marked_upstream (g : String) (P : Mark → Prop) (u : String) (access : Access) (usage : Usage) :
    Marked g P [⟨.upstream u, access, usage⟩] := by
  refine ⟨fun slot hslot => absurd hslot List.not_mem_nil, List.nodup_nil, ?_⟩
  intro m hm g' mark hid
  obtain rfl := List.mem_singleton.mp hm
  cases hid

lemma Marked.append {xs ys : List (Metric Usage)} (hx : Marked g P xs) (hy : Marked g Q ys)
    (hapart : ∀ mark, P mark → ¬ Q mark) (hP : ∀ mark, P mark → R mark) (hQ : ∀ mark, Q mark → R mark) :
    Marked g R (xs ++ ys) := by
  refine ⟨?_, ?_, ?_⟩
  · intro slot hslot
    rw [List.filterMap_append] at hslot
    rcases List.mem_append.mp hslot with hslot | hslot
    · exact hP _ (hx.within slot hslot)
    · exact hQ _ (hy.within slot hslot)
  · rw [List.filterMap_append, List.map_append]
    refine List.nodup_append.mpr ⟨hx.nodup, hy.nodup, ?_⟩
    intro mark hmark other hother heq
    obtain ⟨slot, hslot, rfl⟩ := List.mem_map.mp hmark
    obtain ⟨slot', hslot', rfl⟩ := List.mem_map.mp hother
    refine hapart _ (hx.within slot hslot) ?_
    rw [heq]
    exact hy.within slot' hslot'
  · intro m hm
    rcases List.mem_append.mp hm with hm | hm
    · exact hx.named m hm
    · exact hy.named m hm

/-- The marks that a turn can still use from one of its attempts on. -/
def OfTurn (turn attempt : ℕ) (mark : Mark) : Prop :=
  mark = .turn turn ∨ ∃ j, attempt ≤ j ∧ mark = .turnAttempt turn j

/-- The marks of the turns from one on. -/
def FromTurn (turn : ℕ) (mark : Mark) : Prop :=
  ∃ n, turn ≤ n ∧ OfTurn n 1 mark

lemma policyMetrics_marked (g : String) (turn attempt : ℕ) (access : Access) (policy : TurnPolicy Usage) :
    Marked g (OfTurn turn attempt) (policyMetrics g turn access policy) := by
  cases policy with
  | applied => exact marked_nil g _
  | malformed => exact marked_nil g _
  | refused usage => exact marked_fallback (Or.inl rfl) access usage

lemma policyMetrics_of_passes {policy : TurnPolicy Usage} (h : policy.passes) (access : Access) :
    policyMetrics g turn access policy = [] := by
  cases policy with
  | applied => rfl
  | malformed => rfl
  | refused usage => simp [TurnPolicy.passes] at h

lemma policyMetrics_given (access : Access) (policy : TurnPolicy Usage) :
    (policyMetrics g turn access policy).filterMap upstreamID? = [] := by
  cases policy <;> rfl

/-- A failed attempt of a turn, before what the turn records from the next attempt on. -/
lemma Marked.attempt_cons {later : List (Metric Usage)} (h : Marked g (OfTurn turn (attempt + 1)) later)
    (access : Access) (usage : Usage) :
    Marked g (OfTurn turn attempt) (⟨.fallback g (.turnAttempt turn attempt), access, usage⟩ :: later) := by
  have hfailed : Marked g (· = .turnAttempt turn attempt)
      [(⟨.fallback g (.turnAttempt turn attempt), access, usage⟩ : Metric Usage)] := by
    apply marked_fallback
    rfl
  refine hfailed.append h ?_ ?_ ?_
  · rintro mark rfl (hturn | ⟨j, hj, heq⟩)
    · cases hturn
    · injection heq with _ hattempt
      omega
  · rintro mark rfl
    exact Or.inr ⟨attempt, le_rfl, rfl⟩
  · rintro mark (hturn | ⟨j, hj, heq⟩)
    · exact Or.inl hturn
    · exact Or.inr ⟨j, by omega, heq⟩

lemma runTries_marked (g : String) (turn : ℕ) (tries : List (Try Usage)) (attempt : ℕ) (access : Access)
    (replace : Bool) (c : Connection) :
    Marked g (OfTurn turn attempt) (runTries g turn tries attempt access replace c).1 := by
  induction tries generalizing attempt access replace c with
  | nil => exact marked_nil g _
  | cons attempted rest ih =>
    cases attempted with
    | unauthorized usage tokenRefreshed policy =>
      rw [runTries]
      split_ifs with hrefreshed hpasses
      · simp only [policyMetrics_of_passes hpasses, List.nil_append]
        exact ih ..
      · exact policyMetrics_marked ..
      · exact marked_fallback (Or.inr ⟨attempt, le_rfl, rfl⟩) access usage
    | rateLimited usage next policy =>
      rw [runTries]
      split
      · exact (marked_nil g _).attempt_cons access usage
      · split
        · exact (marked_nil g _).attempt_cons access usage
        · next found _ =>
          split_ifs with hpasses
          · simp only [policyMetrics_of_passes hpasses, List.cons_append, List.nil_append]
            exact (ih ..).attempt_cons access usage
          · exact (policyMetrics_marked ..).attempt_cons access usage
    | afterTurn responseID usage handshakeSucceeded terminal =>
      rw [runTries, turnRequestID]
      split_ifs
      · exact marked_upstream ..
      · exact marked_fallback (Or.inl rfl) access usage

lemma runTries_given (g : String) (turn : ℕ) (tries : List (Try Usage)) (attempt : ℕ) (access : Access)
    (replace : Bool) (c : Connection) :
    ((runTries g turn tries attempt access replace c).1.filterMap upstreamID?).Sublist
      (tries.filterMap Try.givenID) := by
  induction tries generalizing attempt access replace c with
  | nil => exact List.nil_sublist _
  | cons attempted rest ih =>
    cases attempted with
    | unauthorized usage tokenRefreshed policy =>
      rw [runTries]
      split_ifs
      · simp only [List.filterMap_append, policyMetrics_given, List.nil_append]
        exact ih ..
      · rw [policyMetrics_given]
        exact List.nil_sublist _
      · exact List.nil_sublist _
    | rateLimited usage next policy =>
      rw [runTries]
      split
      · exact List.nil_sublist _
      · split
        · exact List.nil_sublist _
        · split_ifs
          · simp only [List.cons_append, List.filterMap_cons, List.filterMap_append, upstreamID?,
              policyMetrics_given, List.nil_append]
            exact ih ..
          · simp only [List.filterMap_cons, upstreamID?, policyMetrics_given]
            exact List.nil_sublist _
    | afterTurn responseID usage handshakeSucceeded terminal =>
      rw [runTries, turnRequestID, filterMap_cons_toList Try.givenID, Try.givenID]
      split_ifs
      · exact List.sublist_append_left ..
      · exact List.nil_sublist _

lemma runTurns_marked (g : String) (ts : List (TurnScript Usage)) (turn : ℕ) (c : Connection) :
    Marked g (FromTurn turn) (runTurns g ts turn c) := by
  induction ts generalizing turn c with
  | nil => exact marked_nil g _
  | cons t ts ih =>
    have hown : ∀ mark, OfTurn turn 1 mark → FromTurn turn mark := fun mark h => ⟨turn, le_rfl, h⟩
    have hlater : ∀ mark, FromTurn (turn + 1) mark → FromTurn turn mark :=
      fun mark ⟨n, hn, h⟩ => ⟨n, by omega, h⟩
    have hapart : ∀ mark, OfTurn turn 1 mark → ¬ FromTurn (turn + 1) mark := by
      rintro mark (rfl | ⟨j, -, rfl⟩) ⟨n, hn, hturn | ⟨j', -, hattempt⟩⟩
      · injection hturn
        omega
      · cases hattempt
      · cases hturn
      · injection hattempt
        omega
    have halone {metrics : List (Metric Usage)} (h : Marked g (OfTurn turn 1) metrics) :
        Marked g (FromTurn turn) (metrics ++ []) :=
      h.append (marked_nil g (FromTurn (turn + 1))) hapart hown hlater
    rw [runTurns]
    split
    · exact marked_nil g _
    · split
      · next pricing access _ _ =>
        split_ifs with hpasses
        · have htries := runTries_marked g turn t.tries 1 { access with pricing := some pricing } false c
          dsimp only
          split
          · exact htries.append (ih ..) hapart hown hlater
          · exact halone htries
        · rw [← List.append_nil (policyMetrics ..)]
          exact halone (policyMetrics_marked ..)
      · exact marked_nil g _

lemma runTurns_given (g : String) (ts : List (TurnScript Usage)) (turn : ℕ) (c : Connection) :
    ((runTurns g ts turn c).filterMap upstreamID?).Sublist
      (ts.flatMap fun t => t.tries.filterMap Try.givenID) := by
  induction ts generalizing turn c with
  | nil => exact List.nil_sublist _
  | cons t ts ih =>
    rw [runTurns, List.flatMap_cons]
    split
    · exact List.nil_sublist _
    · split
      · next pricing access _ _ =>
        split_ifs
        · have htries := runTries_given g turn t.tries 1 { access with pricing := some pricing } false c
          dsimp only
          rw [List.filterMap_append]
          split
          · exact htries.append (ih ..)
          · exact htries.append (List.nil_sublist _)
        · rw [policyMetrics_given]
          exact List.nil_sublist _
      · exact List.nil_sublist _

lemma responsesWebSocket_distinct (w : WebSocketRequest Usage) :
    Distinct (gatewayRequestID w.headers) (responsesWebSocket w) := by
  have hmarked := runTurns_marked (gatewayRequestID w.headers) w.turns 1 ⟨none, true, [], 0, []⟩
  exact ⟨hmarked.nodup.of_map, hmarked.named⟩

end WebSocket

/-- Every id of the upstream in a record is the id of one response of its own. -/
theorem recorded_given (x : Exchange Usage) : (x.recorded.filterMap upstreamID?).Sublist (givenIDs x) := by
  cases x with
  | responses request => exact handle_given _ request
  | images request => exact handle_given _ request
  | alphaSearch request => exact handle_given _ request
  | webSocket request => exact runTurns_given ..

/-- The id that the gateway has for an exchange. -/
def exchangeID : Exchange Usage → String
  | .responses request | .images request | .alphaSearch request => gatewayRequestID request.headers
  | .webSocket request => gatewayRequestID request.headers

/-- Within one exchange no two attempts that the upstream did not name share the account and the
mark. -/
theorem recorded_distinct (x : Exchange Usage) : Distinct (exchangeID x) x.recorded := by
  cases x with
  | responses request => exact handle_distinct _ request
  | images request => exact handle_distinct _ request
  | alphaSearch request => exact handle_distinct _ request
  | webSocket request => exact responsesWebSocket_distinct request

end ShareSub.GatewayAttempts

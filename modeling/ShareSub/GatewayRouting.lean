import Mathlib
import ShareSub.TrafficSafety

/-!
# Routing a request to an account

The embedding of `ResolveGatewayAccess` and `ReacquireGatewayAccess` from `gateway_access.go`, over the admission
controller. A call reserves a request for a candidate, opens its credential and commits or releases the request, and
other calls and callbacks run on the controller in between. The answers of the store are drawn in advance, and
decryption is a parameter.
-/
namespace ShareSub.GatewayRouting

open HistoryModel TrafficModel TrafficAccounting TrafficSafety

section Values

/-- `domain.MaxShareBPS`. -/
def maxShareBPS : ℤ := 10000

/-- The parts of `domain.GatewayCredential` that routing reads. The account, the plan, the binding generation and the
user are in `traffic`, with the limits of the account. -/
structure GatewayCredential where
  traffic : Credential
  apiKeyID : String
  memberID : String
  routePriority : ℤ
  usageMicros : ℤ
  accountUsageMicros : ℤ
  shareBasisPoints : ℤ
  usdLimitMicros : Option ℤ
  /-- The allocation mode of the plan is `AllocationShared`. -/
  shared : Bool
  ownerUserID : String
  chatGPTAccountID : String
  accessTokenCiphertext : List UInt8
  proxyURLCiphertext : List UInt8
  tokenExpiresAt : ℤ
  deriving DecidableEq, Repr

def GatewayCredential.accountID (c : GatewayCredential) : String := c.traffic.caller.key.account

inductive Strategy | priority | balanced
  deriving DecidableEq, Repr

/-- `domain.GatewayRouteSet`. -/
structure RouteSet where
  apiKeyID : String
  strategy : Strategy
  candidates : List GatewayCredential

inductive StoreError
  | membershipRequired
  | other (message : String)
  deriving DecidableEq, Repr

inductive RouteError
  | unauthorized
  | noRouteAvailable
  | quotaExhausted
  | traffic (e : TrafficError)
  | store (e : StoreError)
  deriving DecidableEq, Repr

/-- `GatewayAccess`; `release` is the request whose callback it carries. -/
structure GatewayAccess where
  credential : GatewayCredential
  accessToken : String
  proxyURL : String
  release : ℕ
  deriving DecidableEq, Repr

end Values

section Candidates

/-- What the store answers about the quota of a candidate. -/
structure QuotaAnswers where
  account : Except StoreError Bool
  member : Except StoreError Bool

def gatewayCredentialQuotaExhausted (credential : GatewayCredential) (answers : QuotaAnswers) : Except StoreError Bool :=
  match answers.account with
  | .error e => .error e
  | .ok true => .ok true
  | .ok false =>
    if credential.shared ∧ credential.usdLimitMicros = none then .ok false
    else if (if credential.shared then maxShareBPS else credential.shareBasisPoints) = 0 then .ok true
    else answers.member

/-- The candidates that are neither excluded nor exhausted; the first failure of the store ends the loop. -/
def available (excluded : List String) (quota : ℕ → QuotaAnswers) :
    ℕ → List GatewayCredential → Except StoreError (List GatewayCredential)
  | _, [] => .ok []
  | k, c :: cs =>
    if c.accountID ∈ excluded then available excluded quota (k + 1) cs
    else
      match gatewayCredentialQuotaExhausted c (quota k) with
      | .error e => .error e
      | .ok exhausted =>
        (available excluded quota (k + 1) cs).map fun rest => if exhausted then rest else c :: rest

def eligibleCount (excluded : List String) (candidates : List GatewayCredential) : ℕ :=
  candidates.countP fun c => c.accountID ∉ excluded

def credentialQuotaLoad (c : GatewayCredential) : ℤ × ℤ :=
  if c.shared then (c.accountUsageMicros, maxShareBPS) else (c.usageMicros, c.shareBasisPoints)

/-- The comparison of the balanced strategy. -/
def less (a b : GatewayCredential) : Bool :=
  let left := (credentialQuotaLoad a).1 * (credentialQuotaLoad b).2
  let right := (credentialQuotaLoad b).1 * (credentialQuotaLoad a).2
  if left = right then decide (a.routePriority < b.routePriority) else decide (left < right)

/-- The order in which the candidates are tried; `sort.SliceStable` keeps the order of those that are not less. -/
def routingOrder (strategy : Strategy) (credentials : List GatewayCredential) : List GatewayCredential :=
  match strategy with
  | .priority => credentials
  | .balanced => credentials.insertionSort fun a b => less b a = false

end Candidates

section Reservations

/-- `Decrypt` of the security manager, with the associated data. -/
abbrev Decrypt := List UInt8 → String → Option String

/-- What opening a credential meets: the clock, the refreshed token and whether the API key was touched. -/
structure Opening where
  now : ℤ
  refreshed : Option String
  touched : Bool

def resolveCredential (decrypt : Decrypt) (credential : GatewayCredential) (o : Opening) : Option GatewayAccess :=
  let scope := credential.ownerUserID ++ ":" ++ credential.chatGPTAccountID
  match decrypt credential.accessTokenCiphertext (scope ++ ":access") with
  | none => none
  | some accessToken =>
    match if credential.proxyURLCiphertext = [] then some "" else
        decrypt credential.proxyURLCiphertext (scope ++ ":proxy") with
    | none => none
    | some proxyURL =>
      match if o.now + 2 * minute < credential.tokenExpiresAt then some accessToken else o.refreshed with
      | none => none
      | some accessToken => if o.touched then some ⟨credential, accessToken, proxyURL, 0⟩ else none

/-- A step that uses none of the callbacks that a call holds. -/
def foreign (mine : List ℕ) : Step → Bool
  | .commit i => i ∉ mine
  | .release i _ => i ∉ mine
  | _ => true

/-- What other calls and callbacks do on the controller meanwhile. -/
def others (mine : List ℕ) (steps : List Step) (s : System) : Option System := run s (steps.filter (foreign mine))

/-- One candidate: the clock at its admission and at its release, and the steps of others before the admission and
before the callback. -/
structure Attempt where
  before : List Step
  now : ℤ
  meanwhile : List Step
  opening : Opening
  releasedAt : ℤ

inductive Verdict
  | refused (e : TrafficError)
  | unopened
  | accepted
  deriving DecidableEq, Repr

/-- The state of the loop: the controller with the requests, those that this call has made, the candidates that were
tried, and its two error variables. -/
structure Search where
  system : System
  mine : List ℕ
  tried : List (GatewayCredential × Verdict)
  limitErr : Option TrafficError
  accountErr : Bool

def Search.start (s : System) : Search := ⟨s, [], [], none, false⟩

/-- One pass of the loop; `none` if a critical section panics. -/
def tryCandidate (decrypt : Decrypt) (a : Attempt) (c : GatewayCredential) (search : Search) :
    Option (Search × Option GatewayAccess) :=
  (others search.mine a.before search.system).bind fun s =>
    (prepareGateway s.controller c.traffic a.now).bind fun p =>
      match p.2 with
      | .error e =>
        some ({ search with
          system := s.arrival p.1 (.error e)
          tried := search.tried ++ [(c, .refused e)]
          limitErr := some e }, none)
      | .ok r =>
        let i := s.requests.length
        let mine := search.mine ++ [i]
        (others mine a.meanwhile (s.arrival p.1 (.ok r))).bind fun s =>
          match resolveCredential decrypt c a.opening with
          | none =>
            (step s (.release i a.releasedAt)).map fun s =>
              ({ search with system := s, mine := mine, tried := search.tried ++ [(c, .unopened)], accountErr := true }, none)
          | some access =>
            (step s (.commit i)).map fun s =>
              ({ search with system := s, mine := mine, tried := search.tried ++ [(c, .accepted)] },
                some { access with release := i })

/-- The loop over the candidates in their order. -/
def tryCandidates (decrypt : Decrypt) (world : ℕ → Attempt) :
    List GatewayCredential → Search → Option (Search × Option GatewayAccess)
  | [], search => some (search, none)
  | c :: cs, search =>
    (tryCandidate decrypt (world search.tried.length) c search).bind fun p =>
      match p.2 with
      | some access => some (p.1, some access)
      | none => tryCandidates decrypt world cs p.1

end Reservations

section Calls

/-- What a call leaves behind and what it returns. -/
structure Outcome where
  search : Search
  result : Except RouteError GatewayAccess

/-- A call that returns before it has reserved anything. -/
def fails (s : System) (e : RouteError) : Option Outcome := some ⟨.start s, .error e⟩

def keyMarker : String := "sk-sharesub-"

def resolveGatewayAccess (decrypt : Decrypt) (apiKey : String) (excludedAccountIDs : List String)
    (routes : Except StoreError RouteSet) (quota : ℕ → QuotaAnswers) (world : ℕ → Attempt) (s : System) : Option Outcome :=
  if ¬ apiKey.startsWith keyMarker then fails s .unauthorized
  else
    match routes with
    | .error .membershipRequired => fails s (.store .membershipRequired)
    | .error (.other _) => fails s .unauthorized
    | .ok routes =>
      match available excludedAccountIDs quota 0 routes.candidates with
      | .error e => fails s (.store e)
      | .ok credentials =>
        if routes.candidates = [] then fails s .noRouteAvailable
        else if eligibleCount excludedAccountIDs routes.candidates = 0 then fails s .noRouteAvailable
        else if credentials = [] then fails s .quotaExhausted
        else
          (tryCandidates decrypt world (routingOrder routes.strategy credentials) (.start s)).map fun p =>
            match p.2 with
            | some access => ⟨p.1, .ok access⟩
            | none =>
              match p.1.limitErr with
              | some e => ⟨p.1, .error (.traffic e)⟩
              | none =>
                if p.1.accountErr then ⟨p.1, .error (.traffic .accountUnavailable)⟩ else ⟨p.1, .error .noRouteAvailable⟩

def sameGatewayAccessBinding (candidate pinned : GatewayCredential) : Bool :=
  candidate.apiKeyID = pinned.apiKeyID ∧ candidate.traffic.caller.key.plan = pinned.traffic.caller.key.plan ∧
    candidate.memberID = pinned.memberID ∧ candidate.accountID = pinned.accountID ∧
    candidate.traffic.caller.key.generation = pinned.traffic.caller.key.generation

def reacquireGatewayAccess (decrypt : Decrypt) (apiKey : String) (pinned : GatewayCredential)
    (routes : Except StoreError RouteSet) (quota : QuotaAnswers) (attempt : Attempt) (s : System) : Option Outcome :=
  if ¬ apiKey.startsWith keyMarker then fails s .unauthorized
  else
    match routes with
    | .error .membershipRequired => fails s (.store .membershipRequired)
    | .error (.other _) => fails s .unauthorized
    | .ok routes =>
      if routes.apiKeyID ≠ pinned.apiKeyID then fails s .unauthorized
      else
        match routes.candidates.find? fun c => sameGatewayAccessBinding c pinned with
        | none => fails s (.traffic .accountUnavailable)
        | some credential =>
          match gatewayCredentialQuotaExhausted credential quota with
          | .error e => fails s (.store e)
          | .ok true => fails s .quotaExhausted
          | .ok false =>
            (tryCandidate decrypt attempt credential (.start s)).map fun p =>
              match p.2 with
              | some access => ⟨p.1, .ok access⟩
              | none =>
                match p.1.limitErr with
                | some e => ⟨p.1, .error (.traffic e)⟩
                | none => ⟨p.1, .error (.traffic .accountUnavailable)⟩

end Calls

section Frames

variable {s s' : System} {mine : List ℕ} {i : ℕ}

/-- A request keeps its place, and only its own callbacks write to it. -/
lemma step_foreign {a : Step} (h : step s a = some s') (hi : i < s.requests.length) (hmine : i ∈ mine)
    (hforeign : foreign mine a = true) : s.requests.length ≤ s'.requests.length ∧ s'.requests[i]? = s.requests[i]? := by
  cases a with
  | prepareRequest account maxConcurrency rpmLimit now countRPM credential =>
    simp only [step, Option.map_eq_some_iff] at h
    obtain ⟨⟨c, result⟩, -, rfl⟩ := h
    cases result with
    | error e => exact ⟨le_rfl, rfl⟩
    | ok r => exact ⟨by simp [System.arrival], by simp only [System.arrival]; rw [List.getElem?_append_left hi]⟩
  | commit k =>
    have hne : k ≠ i := by
      rintro rfl
      simp [foreign, hmine] at hforeign
    cases hget : s.requests[k]? with
    | none =>
      simp only [step, hget, Option.some.injEq] at h
      exact h ▸ ⟨le_rfl, rfl⟩
    | some r =>
      simp only [step, hget, Option.some.injEq] at h
      exact h ▸ ⟨by simp, by simp [List.getElem?_set_ne hne]⟩
  | release k now =>
    have hne : k ≠ i := by
      rintro rfl
      simp [foreign, hmine] at hforeign
    cases hget : s.requests[k]? with
    | none =>
      simp only [step, hget, Option.some.injEq] at h
      exact h ▸ ⟨le_rfl, rfl⟩
    | some r =>
      simp only [step, hget, Option.map_eq_some_iff] at h
      obtain ⟨out, -, rfl⟩ := h
      exact ⟨by simp, by simp [List.getElem?_set_ne hne]⟩
  | quiesce accountIDs =>
    simp only [step, Option.some.injEq] at h
    exact h ▸ ⟨le_rfl, rfl⟩
  | quiesceBinding planID additional =>
    simp only [step, Option.some.injEq] at h
    exact h ▸ ⟨le_rfl, rfl⟩
  | turn j event =>
    cases hget : s.quiescers[j]? with
    | none =>
      simp only [step, hget, Option.some.injEq] at h
      exact h ▸ ⟨le_rfl, rfl⟩
    | some q =>
      simp only [step, hget, Option.map_eq_some_iff] at h
      obtain ⟨out, -, rfl⟩ := h
      exact ⟨le_rfl, rfl⟩
  | pendingMinutes now =>
    simp only [step, Option.map_eq_some_iff] at h
    obtain ⟨out, -, rfl⟩ := h
    exact ⟨le_rfl, rfl⟩
  | liveHistory key now =>
    simp only [step, Option.map_eq_some_iff] at h
    obtain ⟨out, -, rfl⟩ := h
    exact ⟨le_rfl, rfl⟩
  | acknowledgeMinutes pending =>
    simp only [step, Option.some.injEq] at h
    exact h ▸ ⟨le_rfl, rfl⟩

/-- The steps of others leave the requests of a call as they are. -/
lemma run_foreign {steps : List Step} (hforeign : ∀ a ∈ steps, foreign mine a = true) (h : run s steps = some s')
    (hi : i < s.requests.length) (hmine : i ∈ mine) : s'.requests[i]? = s.requests[i]? := by
  induction steps generalizing s with
  | nil =>
    simp only [run, Option.some.injEq] at h
    rw [h]
  | cons a steps ih =>
    simp only [run, Option.bind_eq_some_iff] at h
    obtain ⟨s₁, hstep, hrun⟩ := h
    obtain ⟨hlength, hkept⟩ := step_foreign hstep hi hmine (hforeign a (by simp))
    rw [ih (fun a ha => hforeign a (List.mem_cons_of_mem _ ha)) hrun (hi.trans_le hlength), hkept]

lemma others_spec (hs : Sound s) (mine : List ℕ) (steps : List Step) :
    ∃ s', others mine steps s = some s' ∧ Sound s' ∧
      (∀ i ∈ mine, ∀ r, s.requests[i]? = some r → s'.requests[i]? = some r) ∧ (steps = [] → s' = s) := by
  obtain ⟨s', hrun, hs'⟩ := run_sound (steps.filter (foreign mine)) hs
  refine ⟨s', hrun, hs', ?_, ?_⟩
  · intro i hi r hget
    rw [run_foreign (fun a ha => (List.mem_filter.mp ha).2) hrun (List.getElem?_eq_some_iff.mp hget).1 hi, hget]
  · rintro rfl
    simpa [run] using hrun.symm

end Frames

section Bystanders

variable {s : System} {mine : List ℕ} {k i : ℕ} {l : List Request} {r r' : Request}

/-- A list of requests, numbered from `k`, without those of a call. -/
def without (mine : List ℕ) : ℕ → List Request → List Request
  | _, [] => []
  | k, r :: rs => if k ∈ mine then without mine (k + 1) rs else r :: without mine (k + 1) rs

lemma without_append (mine : List ℕ) (k : ℕ) (l : List Request) (r : Request) :
    without (mine ++ [k + l.length]) k (l ++ [r]) = without mine k l := by
  induction l generalizing k with
  | nil => simp [without]
  | cons x l ih =>
    have hrest := ih (k + 1)
    rw [show k + 1 + l.length = k + (x :: l).length by simp; omega] at hrest
    have hne : k ≠ k + (x :: l).length := by simp
    simp only [List.cons_append, without, List.mem_append, List.mem_singleton, hne, or_false, hrest]

lemma without_set (hmine : k + i ∈ mine) : without mine k (l.set i r) = without mine k l := by
  induction l generalizing k i with
  | nil => rfl
  | cons x l ih =>
    cases i with
    | zero => simp [without, show k ∈ mine by simpa using hmine]
    | succ i =>
      have hrest := ih (k := k + 1) (i := i) (by rwa [show k + 1 + i = k + (i + 1) by omega])
      simp only [List.set_cons_succ, without, hrest]

lemma tally_without {p : Request → Bool} (h : ∀ i, k + i ∈ mine → ∀ r, l[i]? = some r → p r = false) :
    tally p (without mine k l) = tally p l := by
  induction l generalizing k with
  | nil => rfl
  | cons x l ih =>
    have hrest := ih (k := k + 1) fun i hi r hr => h (i + 1) (by rwa [show k + (i + 1) = k + 1 + i by omega]) r hr
    by_cases hk : k ∈ mine
    · have hx := h 0 hk x rfl
      rw [without, if_pos hk, hrest]
      simp [tally, hx]
    · simp only [without, if_neg hk]
      simp only [tally, List.countP_cons] at hrest ⊢
      push_cast
      rw [hrest]

/-- The requests of others. -/
def bystanders (s : System) (mine : List ℕ) : List Request := without mine 0 s.requests

/-- A call that has released its requests counts for nothing. -/
lemma tally_bystanders {p : Request → Bool} (hp : ∀ r : Request, r.released = true → p r = false)
    (h : ∀ i ∈ mine, ∃ r, s.requests[i]? = some r ∧ r.released = true) :
    tally p (bystanders s mine) = tally p s.requests := by
  refine tally_without fun i hi r hr => ?_
  obtain ⟨r', hr', hreleased⟩ := h i (by simpa using hi)
  rw [hr'] at hr
  cases hr
  exact hp r hreleased

/-- A call that holds one request counts for that. -/
lemma tally_bystanders_held {p : Request → Bool} (hp : ∀ r : Request, r.released = true → p r = false) (hi : i ∈ mine)
    (hget : s.requests[i]? = some r) (h : ∀ j ∈ mine, j ≠ i → ∃ r, s.requests[j]? = some r ∧ r.released = true) :
    tally p s.requests = tally p (bystanders s mine) + if p r then 1 else 0 := by
  -- The held request is replaced by a released one.
  have hfree : p { r with released := true } = false := hp _ rfl
  have hset := tally_set hget p { r with released := true }
  have hbystanders : tally p (bystanders s mine) = tally p (s.requests.set i { r with released := true }) := by
    rw [bystanders, ← without_set (i := i) (r := { r with released := true }) (by simpa using hi)]
    refine tally_without fun j hj x hx => ?_
    by_cases heq : j = i
    · subst heq
      rw [List.getElem?_set_self (List.getElem?_eq_some_iff.mp hget).1] at hx
      cases hx
      exact hfree
    · rw [List.getElem?_set_ne (Ne.symm heq)] at hx
      obtain ⟨r', hr', hreleased⟩ := h j (by simpa using hj) heq
      rw [hr'] at hx
      cases hx
      exact hp x hreleased
  rw [hbystanders, hset, hfree]
  simp

end Bystanders

section Passes

variable {decrypt : Decrypt} {c : GatewayCredential} {search : Search} {access : GatewayAccess}

/-- A search that holds nothing. -/
structure Clean (search : Search) : Prop where
  sound : Sound search.system
  released : ∀ i ∈ search.mine, ∃ r, search.system.requests[i]? = some r ∧ r.released = true

/-- A search that holds the committed request of an access and no other. -/
structure Holds (search : Search) (access : GatewayAccess) : Prop where
  sound : Sound search.system
  mine : access.release ∈ search.mine
  request : ∃ r, search.system.requests[access.release]? = some r ∧ r.committed = true ∧ r.released = false ∧
    r.account = access.credential.accountID ∧ r.credential = some access.credential.traffic
  released : ∀ i ∈ search.mine, i ≠ access.release → ∃ r, search.system.requests[i]? = some r ∧ r.released = true

/-- What a search is after a pass or a loop. -/
def Ends (search : Search) : Option GatewayAccess → Prop
  | none => Clean search
  | some access => Holds search access

lemma resolveCredential_credential {o : Opening} (h : resolveCredential decrypt c o = some access) :
    access.credential = c := by
  simp only [resolveCredential] at h
  split at h
  · cases h
  · split at h
    · cases h
    · split at h
      · cases h
      · split_ifs at h
        cases h
        rfl

/-- The request that a release leaves behind. -/
lemma release_spec_of {s : System} {i : ℕ} {r : Request} (hs : Sound s) (hget : s.requests[i]? = some r) (now : ℤ) :
    ∃ s', step s (.release i now) = some s' ∧ Sound s' ∧
      ∃ r', s'.requests = s.requests.set i r' ∧ r'.released = true := by
  obtain ⟨s', hstep, hs'⟩ := step_sound hs (.release i now)
  have hcall := hstep
  simp only [step, hget, Option.map_eq_some_iff] at hcall
  obtain ⟨⟨controller, r'⟩, hrelease, rfl⟩ := hcall
  refine ⟨_, hstep, hs', r', rfl, ?_⟩
  unfold TrafficModel.release at hrelease
  split_ifs at hrelease with hdone
  · cases hrelease
    exact hdone
  all_goals
    simp only [Option.bind_eq_some_iff, Option.map_eq_some_iff] at hrelease
    obtain ⟨_, -, _, -, _, -, heq⟩ := hrelease
    cases heq
    rfl

/-- A pass refuses the candidate and holds nothing, or it holds the committed request of the candidate. -/
lemma tryCandidate_spec (decrypt : Decrypt) (a : Attempt) (c : GatewayCredential) (hclean : Clean search) :
    ∃ search' found verdict, tryCandidate decrypt a c search = some (search', found) ∧ Ends search' found ∧
      (∀ access, found = some access → access.credential = c) ∧ search'.tried = search.tried ++ [(c, verdict)] ∧
      (verdict = .accepted ↔ found ≠ none) ∧
      (a.before = [] → a.meanwhile = [] →
        bystanders search'.system search'.mine = bystanders search.system search.mine) := by
  obtain ⟨s₁, hothers, hs₁, hkept, hquiet⟩ := others_spec hclean.sound search.mine a.before
  have hreleased₁ : ∀ i ∈ search.mine, ∃ r, s₁.requests[i]? = some r ∧ r.released = true := by
    intro i hi
    obtain ⟨r, hget, hr⟩ := hclean.released i hi
    exact ⟨r, hkept i hi r hget, hr⟩
  obtain ⟨R, hT⟩ := hs₁.tracked
  obtain ⟨controller, result, hcall, hs₂⟩ := hs₁.arrives c.accountID c.traffic.maxConcurrency c.traffic.rpmLimit a.now true
    (some c.traffic)
  have hprepare : prepareGateway s₁.controller c.traffic a.now = some (controller, result) := hcall
  cases result with
  | error e =>
    refine ⟨_, none, .refused e, by simp only [tryCandidate, hothers, Option.bind_some, hprepare]; rfl,
      ⟨hs₂, hreleased₁⟩, by simp, rfl, by simp, fun hbefore _ => ?_⟩
    rw [hquiet hbefore]
    rfl
  | ok r =>
    obtain ⟨o, rfl⟩ : ∃ o, r = ⟨c.accountID, o, truncate a.now, true, some c.traffic, false, false⟩ := by
      obtain ⟨c', result', R', hcall', -, -, -, -, hresult⟩ := prepareRequest_spec hs₁.wired hT hs₁.counted c.accountID
        c.traffic.maxConcurrency c.traffic.rpmLimit a.now true (some c.traffic)
      rw [hcall] at hcall'
      cases hcall'
      exact hresult.2.2.1
    set r : Request := ⟨c.accountID, o, truncate a.now, true, some c.traffic, false, false⟩ with hr
    set i := s₁.requests.length with hi
    set mine := search.mine ++ [i] with hmine
    obtain ⟨s₃, hothers₃, hs₃, hkept₃, hquiet₃⟩ := others_spec hs₂ mine a.meanwhile
    have hown : s₃.requests[i]? = some r := hkept₃ i (by simp [hmine]) r (by simp [System.arrival, hi])
    -- The earlier requests of the search, which come before the new one.
    have hreleased₃ : ∀ j ∈ mine, j ≠ i → ∃ r, s₃.requests[j]? = some r ∧ r.released = true := by
      intro j hj hne
      have hold : j ∈ search.mine := by simpa [hmine, hne] using hj
      obtain ⟨x, hget, hx⟩ := hreleased₁ j hold
      refine ⟨x, hkept₃ j hj x ?_, hx⟩
      rw [System.arrival, List.getElem?_append_left (List.getElem?_eq_some_iff.mp hget).1]
      exact hget
    have hbystanders : ∀ s' x, s'.requests = s₃.requests.set i x → a.before = [] → a.meanwhile = [] →
        bystanders s' mine = bystanders search.system search.mine := by
      intro s' x hset hbefore hmeanwhile
      rw [bystanders, hset, without_set (by simp [hmine]), hquiet₃ hmeanwhile, ← hquiet hbefore]
      have happend := without_append search.mine 0 s₁.requests r
      rw [Nat.zero_add] at happend
      exact happend
    cases hopen : resolveCredential decrypt c a.opening with
    | none =>
      obtain ⟨s₄, hstep, hs₄, r', hset, hr'⟩ := release_spec_of hs₃ hown a.releasedAt
      refine ⟨{ search with
          system := s₄, mine := mine, tried := search.tried ++ [(c, .unopened)], accountErr := true }, none, .unopened, ?_,
        ⟨hs₄, ?_⟩, by simp, rfl, by simp, hbystanders s₄ r' hset⟩
      · simp only [tryCandidate, hothers, Option.bind_some, hprepare, ← hi, ← hmine, hothers₃, hopen, hstep, Option.map_some]
      · intro j hj
        by_cases hne : j = i
        · exact ⟨r', by rw [hne, hset, List.getElem?_set_self (List.getElem?_eq_some_iff.mp hown).1], hr'⟩
        · obtain ⟨x, hget, hx⟩ := hreleased₃ j hj hne
          exact ⟨x, by rw [hset, List.getElem?_set_ne (Ne.symm hne), hget], hx⟩
    | some access =>
      have hcredential := resolveCredential_credential hopen
      have hcommits := hs₃.commits hown
      rw [commit_of_open rfl rfl] at hcommits
      refine ⟨{ search with
          system := _, mine := mine, tried := search.tried ++ [(c, .accepted)] }, some { access with release := i },
        .accepted, ?_, ⟨hcommits, ?_, ?_, ?_⟩, by simpa using hcredential, rfl, by simp, hbystanders _ _ rfl⟩
      · simp only [tryCandidate, hothers, Option.bind_some, hprepare, ← hi, ← hmine, hothers₃, hopen, step, hown,
          Option.map_some, commit_of_open (r := r) rfl rfl]
      · simp [hmine]
      · refine ⟨{ r with committed := true }, ?_, rfl, rfl, by rw [hcredential], by rw [hcredential]⟩
        exact List.getElem?_set_self (List.getElem?_eq_some_iff.mp hown).1
      · intro j hj hne
        obtain ⟨x, hget, hx⟩ := hreleased₃ j hj hne
        exact ⟨x, by rw [List.getElem?_set_ne (Ne.symm hne), hget], hx⟩

/-- Nothing else runs on the controller meanwhile. -/
def Quiet (world : ℕ → Attempt) : Prop := ∀ n, (world n).before = [] ∧ (world n).meanwhile = []

/-- The candidates that were tried in their order, up to the first that was accepted. -/
def FirstAccepted (order : List GatewayCredential) (tried : List (GatewayCredential × Verdict)) :
    Option GatewayAccess → Prop
  | none => tried.map Prod.fst = order ∧ ∀ x ∈ tried, x.2 ≠ .accepted
  | some access => ∃ earlier later, order = earlier.map Prod.fst ++ access.credential :: later ∧
      tried = earlier ++ [(access.credential, .accepted)] ∧ ∀ x ∈ earlier, x.2 ≠ .accepted

lemma tryCandidates_spec (decrypt : Decrypt) (world : ℕ → Attempt) (order : List GatewayCredential)
    (hclean : Clean search) :
    ∃ search' found tried, tryCandidates decrypt world order search = some (search', found) ∧ Ends search' found ∧
      search'.tried = search.tried ++ tried ∧ FirstAccepted order tried found ∧
      (Quiet world → bystanders search'.system search'.mine = bystanders search.system search.mine) := by
  induction order generalizing search with
  | nil => exact ⟨search, none, [], rfl, hclean, by simp, ⟨rfl, by simp⟩, fun _ => rfl⟩
  | cons c cs ih =>
    obtain ⟨search₁, found, verdict, hpass, hends, hcredential, htried, hverdict, hquiet⟩ :=
      tryCandidate_spec decrypt (world search.tried.length) c hclean
    have hquiet₁ : Quiet world → bystanders search₁.system search₁.mine = bystanders search.system search.mine :=
      fun hq => hquiet (hq _).1 (hq _).2
    cases found with
    | some access =>
      have hc := hcredential access rfl
      have haccepted : verdict = .accepted := hverdict.mpr (by simp)
      refine ⟨search₁, some access, [(c, verdict)], ?_, hends, htried, ⟨[], cs, by simp [hc], by simp [hc, haccepted], by simp⟩,
        hquiet₁⟩
      simp only [tryCandidates, hpass, Option.bind_some]
    | none =>
      obtain ⟨search₂, found, tried, hrest, hends₂, htried₂, hfirst, hquiet₂⟩ := ih hends
      have hrefused : verdict ≠ .accepted := fun h => hverdict.mp h rfl
      refine ⟨search₂, found, (c, verdict) :: tried, ?_, hends₂, by rw [htried₂, htried, List.append_assoc]; rfl, ?_,
        fun hq => (hquiet₂ hq).trans (hquiet₁ hq)⟩
      · simp only [tryCandidates, hpass, Option.bind_some, hrest]
      · cases found with
        | none =>
          obtain ⟨hall, hnone⟩ := hfirst
          exact ⟨by simp [hall], by simpa [hrefused] using hnone⟩
        | some access =>
          obtain ⟨earlier, later, horder, hlog, hnone⟩ := hfirst
          exact ⟨(c, verdict) :: earlier, later, by simp [horder], by simp [hlog], by simpa [hrefused] using hnone⟩

end Passes

section Counts

variable {s : System} {search : Search}

/-- The counters of an account; those of an account without a state are zero. -/
def activeOf (c : Controller) (account : String) : ℤ := ((c.states account).map fun o => (c.heap o).activeRequests).getD 0

def membersOf (c : Controller) (account user : String) : ℤ :=
  ((c.states account).map fun o => (c.heap o).activeMembers.get user).getD 0

def pendingOf (c : Controller) (account : String) (minute : ℤ) : ℤ :=
  ((c.states account).map fun o => (c.heap o).pendingMinuteRequests.get minute).getD 0

/-- The counters of a system count its requests. -/
lemma Sound.counts (hs : Sound s) (account : String) :
    activeOf s.controller account = tally (inFlight account) s.requests ∧
      (∀ user, membersOf s.controller account user = tally (inFlightOf account user) s.requests) ∧
      ∀ minute, pendingOf s.controller account minute = tally (awaiting account minute) s.requests := by
  cases hstate : s.controller.states account with
  | some o =>
    have hcounters := hs.accounts hstate
    simp only [activeOf, membersOf, pendingOf, hstate, Option.map_some, Option.getD_some]
    exact ⟨hcounters.active, hcounters.members, hcounters.pending⟩
  | none =>
    have hnone := hs.inFlight_of_none hstate
    have hzero : ∀ p : Request → Bool, (∀ r, p r = true → inFlight account r = true) → tally p s.requests = 0 := by
      intro p hp
      have hle := tally_mono (l := s.requests) fun r _ => hp r
      have hnonneg := tally_nonneg p s.requests
      omega
    simp only [activeOf, membersOf, pendingOf, hstate, Option.map_none, Option.getD_none]
    refine ⟨hnone.symm, fun user => (hzero _ ?_).symm, fun minute => (hzero _ ?_).symm⟩
    · intro r hr
      simp only [inFlightOf, decide_eq_true_eq] at hr
      exact hr.1
    · intro r hr
      simp only [awaiting, decide_eq_true_eq] at hr
      exact hr.1

/-- One if an access of the kind was returned. -/
def returned (kind : GatewayAccess → Bool) : Except RouteError GatewayAccess → ℤ
  | .ok access => if kind access then 1 else 0
  | .error _ => 0

/-- What a call leaves in the controller: the requests of others, and the committed request of the access that it has
returned. If nothing else runs meanwhile, these are the counts before the call and that request. -/
structure Settled (s : System) (quiet : Prop) (out : Outcome) : Prop where
  active : ∀ account, activeOf out.search.system.controller account =
    tally (inFlight account) (bystanders out.search.system out.search.mine) +
      returned (fun access => access.credential.accountID = account) out.result
  members : ∀ account user, membersOf out.search.system.controller account user =
    tally (inFlightOf account user) (bystanders out.search.system out.search.mine) +
      returned (fun access => access.credential.accountID = account ∧ access.credential.traffic.caller.userID = user)
        out.result
  pending : ∀ account minute, pendingOf out.search.system.controller account minute =
    tally (awaiting account minute) (bystanders out.search.system out.search.mine)
  request : ∀ access, out.result = .ok access →
    ∃ r, out.search.system.requests[access.release]? = some r ∧ r.committed = true ∧ r.released = false ∧
      r.account = access.credential.accountID ∧ r.credential = some access.credential.traffic
  quiet_active : quiet → ∀ account, activeOf out.search.system.controller account = activeOf s.controller account +
    returned (fun access => access.credential.accountID = account) out.result
  quiet_members : quiet → ∀ account user, membersOf out.search.system.controller account user =
    membersOf s.controller account user +
      returned (fun access => access.credential.accountID = account ∧ access.credential.traffic.caller.userID = user)
        out.result
  quiet_pending : quiet → ∀ account minute, pendingOf out.search.system.controller account minute =
    pendingOf s.controller account minute

lemma inFlight_of_released (account : String) (r : Request) (h : r.released = true) : inFlight account r = false := by
  simp [inFlight, h]

lemma inFlightOf_of_released (account user : String) (r : Request) (h : r.released = true) :
    inFlightOf account user r = false := by
  simp [inFlightOf, inFlight, h]

lemma awaiting_of_released (account : String) (minute : ℤ) (r : Request) (h : r.released = true) :
    awaiting account minute r = false := by
  simp [awaiting, inFlight, h]

/-- The three counts of a call that has ended. -/
lemma settled_of_ends (hs : Sound s) {quiet : Prop} {found : Option GatewayAccess}
    {result : Except RouteError GatewayAccess} (hends : Ends search found)
    (hresult : ∀ access, result = .ok access ↔ found = some access)
    (hquiet : quiet → bystanders search.system search.mine = s.requests) : Settled s quiet ⟨search, result⟩ := by
  -- All but the last three fields, from which these follow.
  suffices hcounts : (∀ account, activeOf search.system.controller account =
        tally (inFlight account) (bystanders search.system search.mine) +
          returned (fun access => access.credential.accountID = account) result) ∧
      (∀ account user, membersOf search.system.controller account user =
        tally (inFlightOf account user) (bystanders search.system search.mine) +
          returned (fun access => access.credential.accountID = account ∧
            access.credential.traffic.caller.userID = user) result) ∧
      ∀ account minute, pendingOf search.system.controller account minute =
        tally (awaiting account minute) (bystanders search.system search.mine) by
    obtain ⟨hactive, hmembers, hpending⟩ := hcounts
    refine ⟨hactive, hmembers, hpending, ?_, ?_, ?_, ?_⟩
    · intro access haccess
      have hholds : Ends search (some access) := (hresult access).mp haccess ▸ hends
      exact hholds.request
    · intro hq account
      rw [hactive, hquiet hq, (Sound.counts hs account).1]
    · intro hq account user
      rw [hmembers, hquiet hq, (Sound.counts hs account).2.1 user]
    · intro hq account minute
      rw [hpending, hquiet hq, (Sound.counts hs account).2.2 minute]
  cases found with
  | none =>
    have hclean : Clean search := hends
    have hcounts := Sound.counts hclean.sound
    have hzero : ∀ kind, returned kind result = 0 := by
      intro kind
      cases result with
      | error e => rfl
      | ok access => cases (hresult access).mp rfl
    refine ⟨?_, ?_, ?_⟩
    · intro account
      rw [(hcounts account).1, hzero, add_zero,
        tally_bystanders (inFlight_of_released account) hclean.released]
    · intro account user
      rw [(hcounts account).2.1, hzero, add_zero,
        tally_bystanders (inFlightOf_of_released account user) hclean.released]
    · intro account minute
      rw [(hcounts account).2.2, tally_bystanders (awaiting_of_released account minute) hclean.released]
  | some access =>
    have hholds : Holds search access := hends
    have hcounts := Sound.counts hholds.sound
    obtain ⟨r, hget, hcommitted, hheld, haccount, hcredential⟩ := hholds.request
    obtain rfl : result = .ok access := (hresult access).mpr rfl
    have huser : r.user = some access.credential.traffic.caller.userID := by rw [Request.user, hcredential]; rfl
    refine ⟨?_, ?_, ?_⟩
    · intro account
      rw [(hcounts account).1, tally_bystanders_held (inFlight_of_released account) hholds.mine hget hholds.released]
      congr 1
      simp [returned, inFlight, haccount, hheld]
    · intro account user
      rw [(hcounts account).2.1, tally_bystanders_held (inFlightOf_of_released account user) hholds.mine hget hholds.released]
      congr 1
      simp [returned, inFlightOf, inFlight, haccount, hheld, huser]
    · intro account minute
      have hdone : awaiting account minute r = false := by simp [awaiting, hcommitted]
      rw [(hcounts account).2.2, tally_bystanders_held (awaiting_of_released account minute) hholds.mine hget
        hholds.released, hdone]
      simp

end Counts

section Routing

variable {s : System}

/-- What is available is a candidate that is not excluded and whose quota was not reported as exhausted. -/
lemma available_mem {excluded : List String} {quota : ℕ → QuotaAnswers} {candidates credentials : List GatewayCredential}
    {k : ℕ} {c : GatewayCredential} (h : available excluded quota k candidates = .ok credentials) (hc : c ∈ credentials) :
    ∃ i, candidates[i]? = some c ∧ c.accountID ∉ excluded ∧
      gatewayCredentialQuotaExhausted c (quota (k + i)) = .ok false := by
  induction candidates generalizing k credentials with
  | nil =>
    cases h
    cases hc
  | cons x candidates ih =>
    -- A candidate of the rest, under the numbers of the whole list.
    have hrest : ∀ {rest}, available excluded quota (k + 1) candidates = .ok rest → c ∈ rest →
        ∃ i, (x :: candidates)[i]? = some c ∧ c.accountID ∉ excluded ∧
          gatewayCredentialQuotaExhausted c (quota (k + i)) = .ok false := by
      intro rest hrest hmem
      obtain ⟨i, hget, hfree, hquota⟩ := ih hrest hmem
      exact ⟨i + 1, hget, hfree, by rwa [show k + (i + 1) = k + 1 + i by omega]⟩
    unfold available at h
    split_ifs at h with hexcluded
    · exact hrest h hc
    · cases hquota : gatewayCredentialQuotaExhausted x (quota k) with
      | error e => simp [hquota] at h
      | ok exhausted =>
        cases hall : available excluded quota (k + 1) candidates with
        | error e => simp [hquota, hall, Except.map] at h
        | ok rest =>
          simp only [hquota, hall, Except.map, Except.ok.injEq] at h
          cases exhausted with
          | true =>
            subst h
            exact hrest hall hc
          | false =>
            subst h
            rcases List.mem_cons.mp hc with rfl | hc
            · exact ⟨0, rfl, hexcluded, hquota⟩
            · exact hrest hall hc

lemma mem_routingOrder (strategy : Strategy) {credentials : List GatewayCredential} {c : GatewayCredential} :
    c ∈ routingOrder strategy credentials ↔ c ∈ credentials := by
  cases strategy with
  | priority => rfl
  | balanced => exact (List.perm_insertionSort _ _).mem_iff

lemma clean_start (hs : Sound s) : Clean (.start s) := ⟨hs, by simp [Search.start]⟩

lemma bystanders_start (s : System) : bystanders (Search.start s).system (Search.start s).mine = s.requests := by
  have hall : ∀ k l, without [] k l = l := by
    intro k l
    induction l generalizing k with
    | nil => rfl
    | cons r l ih => simp [without, ih]
  exact hall 0 s.requests

/-- A call that fails before it has reserved anything. -/
lemma settled_fails (hs : Sound s) (quiet : Prop) (e : RouteError) : Settled s quiet ⟨.start s, .error e⟩ :=
  settled_of_ends hs (show Ends (.start s) none from clean_start hs) (by simp) fun _ => bystanders_start s

/-- The access of a successful call of `ResolveGatewayAccess`: the first candidate, in the order of the strategy, that
admission and opening accept. -/
structure Chosen (excluded : List String) (routes : RouteSet) (quota : ℕ → QuotaAnswers) (out : Outcome)
    (access : GatewayAccess) : Prop where
  candidate : ∃ i, routes.candidates[i]? = some access.credential ∧ access.credential.accountID ∉ excluded ∧
    gatewayCredentialQuotaExhausted access.credential (quota i) = .ok false
  first : ∃ credentials, available excluded quota 0 routes.candidates = .ok credentials ∧
    FirstAccepted (routingOrder routes.strategy credentials) out.search.tried (some access)

lemma resolveGatewayAccess_spec (hs : Sound s) (decrypt : Decrypt) (apiKey : String) (excluded : List String)
    (routes : Except StoreError RouteSet) (quota : ℕ → QuotaAnswers) (world : ℕ → Attempt) :
    ∃ out, resolveGatewayAccess decrypt apiKey excluded routes quota world s = some out ∧ Settled s (Quiet world) out ∧
      ∀ access, out.result = .ok access → ∃ set, routes = .ok set ∧ Chosen excluded set quota out access := by
  have hfails : ∀ e, ∃ out, fails s e = some out ∧ Settled s (Quiet world) out ∧
      ∀ access, out.result = .ok access → ∃ set, routes = .ok set ∧ Chosen excluded set quota out access :=
    fun e => ⟨_, rfl, settled_fails hs _ e, by simp⟩
  unfold resolveGatewayAccess
  by_cases hkey : ¬ apiKey.startsWith keyMarker
  · rw [if_pos hkey]
    exact hfails _
  · rw [if_neg hkey]
    cases routes with
    | error e => cases e <;> exact hfails _
    | ok set =>
      cases havailable : available excluded quota 0 set.candidates with
      | error e =>
        simp only [havailable]
        exact hfails _
      | ok credentials =>
        simp only [havailable]
        split_ifs with hempty heligible hexhausted
        · exact hfails _
        · exact hfails _
        · exact hfails _
        · obtain ⟨search, found, tried, hloop, hends, htried, hfirst, hquiet⟩ := tryCandidates_spec decrypt world
            (routingOrder set.strategy credentials) (clean_start hs)
          have hbystanders : Quiet world → bystanders search.system search.mine = s.requests :=
            fun hq => (hquiet hq).trans (bystanders_start s)
          have hlog : search.tried = tried := by simpa [Search.start] using htried
          rw [hloop, Option.map_some]
          refine ⟨_, rfl, ?_⟩
          cases found with
          | none =>
            have hsettled : ∀ e, Settled s (Quiet world) ⟨search, .error e⟩ :=
              fun e => settled_of_ends hs hends (by simp) hbystanders
            dsimp only
            split
            · exact ⟨hsettled _, by simp⟩
            · split_ifs
              · exact ⟨hsettled _, by simp⟩
              · exact ⟨hsettled _, by simp⟩
          | some access =>
            refine ⟨settled_of_ends hs hends (by simp) hbystanders, ?_⟩
            rintro access' ⟨⟩
            have hfirst' := hfirst
            obtain ⟨earlier, later, horder, -, -⟩ := hfirst'
            have hmem : access.credential ∈ credentials := by
              rw [← mem_routingOrder set.strategy, horder]
              simp
            obtain ⟨i, hget, hfree, hquota⟩ := available_mem havailable hmem
            rw [Nat.zero_add] at hquota
            exact ⟨set, rfl, ⟨i, hget, hfree, hquota⟩, credentials, havailable, hlog ▸ hfirst⟩

lemma reacquireGatewayAccess_spec (hs : Sound s) (decrypt : Decrypt) (apiKey : String) (pinned : GatewayCredential)
    (routes : Except StoreError RouteSet) (quota : QuotaAnswers) (attempt : Attempt) :
    ∃ out, reacquireGatewayAccess decrypt apiKey pinned routes quota attempt s = some out ∧
      Settled s (attempt.before = [] ∧ attempt.meanwhile = []) out ∧
      ∀ access, out.result = .ok access → sameGatewayAccessBinding access.credential pinned = true ∧
        ∃ set, routes = .ok set ∧ set.apiKeyID = pinned.apiKeyID ∧ access.credential ∈ set.candidates ∧
          gatewayCredentialQuotaExhausted access.credential quota = .ok false := by
  have hfails : ∀ e, ∃ out, fails s e = some out ∧ Settled s (attempt.before = [] ∧ attempt.meanwhile = []) out ∧
      ∀ access, out.result = .ok access → sameGatewayAccessBinding access.credential pinned = true ∧
        ∃ set, routes = .ok set ∧ set.apiKeyID = pinned.apiKeyID ∧ access.credential ∈ set.candidates ∧
          gatewayCredentialQuotaExhausted access.credential quota = .ok false :=
    fun e => ⟨_, rfl, settled_fails hs _ e, by simp⟩
  unfold reacquireGatewayAccess
  by_cases hkey : ¬ apiKey.startsWith keyMarker
  · rw [if_pos hkey]
    exact hfails _
  · rw [if_neg hkey]
    cases routes with
    | error e => cases e <;> exact hfails _
    | ok set =>
      dsimp only
      split_ifs with hid
      · exact hfails _
      · cases hfind : set.candidates.find? fun c => sameGatewayAccessBinding c pinned with
        | none => exact hfails _
        | some credential =>
          cases hquota : gatewayCredentialQuotaExhausted credential quota with
          | error e =>
            simp only [hquota]
            exact hfails _
          | ok exhausted =>
            cases exhausted with
            | true =>
              simp only [hquota]
              exact hfails _
            | false =>
              obtain ⟨search, found, verdict, hpass, hends, hcredential, -, -, hquiet⟩ :=
                tryCandidate_spec decrypt attempt credential (clean_start hs)
              have hbystanders : attempt.before = [] ∧ attempt.meanwhile = [] →
                  bystanders search.system search.mine = s.requests :=
                fun hq => (hquiet hq.1 hq.2).trans (bystanders_start s)
              simp only [hquota, hpass, Option.map_some]
              refine ⟨_, rfl, ?_⟩
              cases found with
              | none =>
                dsimp only
                split
                · exact ⟨settled_of_ends hs hends (by simp) hbystanders, by simp⟩
                · exact ⟨settled_of_ends hs hends (by simp) hbystanders, by simp⟩
              | some access =>
                refine ⟨settled_of_ends hs hends (by simp) hbystanders, ?_⟩
                rintro access' ⟨⟩
                rw [hcredential access rfl]
                exact ⟨by simpa using List.find?_some hfind, set, rfl, by simpa using hid, List.mem_of_find?_eq_some hfind,
                  hquota⟩

end Routing

end ShareSub.GatewayRouting

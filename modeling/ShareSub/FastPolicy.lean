import Mathlib
import ShareSub.GatewayModel
import ShareSub.JsonValue

/-!
# The fast policy of an account

The embedding of `fast_policy.go`, with the billing metadata that is read from a request. The rules of the account and of
the API key can filter, block or force the service tier of a request; the account judges last. `strings.ToLower` is a
parameter.
-/
namespace ShareSub.FastPolicy

open JsonValue
open GatewayModel (isSpace trimSpace)

section Model

structure RequestBilling where
  model : String
  serviceTier : String
  promptCacheKey : String
  stream : Bool
  deriving DecidableEq, Repr

/-- `payload[key]`, which has to be a string if it is there. -/
def stringField (subject : String) (payload : Members) (key : String) : Except String String :=
  match payload.get key with
  | none => .ok ""
  | some (.string s) => .ok (trimSpace s)
  | some _ => .error (subject ++ " " ++ key ++ " must be a string")

/-- `payload["stream"]`, which has to be a boolean if it is there. -/
def streamField (subject : String) (payload : Members) (missing : Bool) : Except String Bool :=
  match payload.get "stream" with
  | none => .ok missing
  | some (.bool b) => .ok b
  | some _ => .error (subject ++ " stream must be a boolean")

def requestModel (payload : Members) : Except String String :=
  match payload.get "model" with
  | some (.string s) => if trimSpace s = "" then .error "Codex request model is required" else .ok (trimSpace s)
  | _ => .error "Codex request model is required"

def parseRequestBilling (payload : Members) : Except String RequestBilling := do
  let model ← requestModel payload
  let serviceTier ← stringField "Codex request" payload "service_tier"
  let promptCacheKey ← stringField "Codex request" payload "prompt_cache_key"
  let stream ← streamField "Codex request" payload false
  return ⟨model, serviceTier, promptCacheKey, stream⟩

def webSocketModel (payload : Members) (turn : ℕ) : Except String String :=
  match payload.get "model" with
  | some (.string s) =>
    if trimSpace s = "" then .error "response.create model must be a non-empty string" else .ok (trimSpace s)
  | some _ => .error "response.create model must be a non-empty string"
  | none => if turn = 1 then .error "response.create model is required" else .ok ""

/-- The metadata of a frame, and the id of the response that it continues. -/
def responsesWebSocketBilling (payload : Members) (turn : ℕ) : Except String (RequestBilling × String) := do
  let model ← webSocketModel payload turn
  let serviceTier ← stringField "response.create" payload "service_tier"
  let promptCacheKey ← stringField "response.create" payload "prompt_cache_key"
  let stream ← streamField "response.create" payload true
  let previousResponseID ← stringField "response.create" payload "previous_response_id"
  return (⟨model, serviceTier, promptCacheKey, stream⟩, previousResponseID)

/-- The metadata was produced from the body, of a request or of a frame. -/
inductive BillingOf (body : Members) (metadata : RequestBilling) : Prop
  | request (h : parseRequestBilling body = .ok metadata)
  | frame (turn : ℕ) (previousResponseID : String)
      (h : responsesWebSocketBilling body turn = .ok (metadata, previousResponseID))

inductive Action
  | pass
  | filter
  | block
  | forcePriority
  | other (name : String)
  deriving DecidableEq, Repr

structure FastPolicyRule where
  serviceTier : String
  action : Action
  userIDs : List String
  errorMessage : String
  modelWhitelist : List String
  fallbackAction : Action
  fallbackErrorMessage : String
  deriving DecidableEq, Repr

def fastPolicyUserMatches (userIDs : List String) (userID : String) : Bool := userIDs.isEmpty || userID ∈ userIDs

/-- A pattern that ends in a star matches what begins with the rest of it. -/
def fastPolicyModelMatches (patterns : List String) (model : String) : Bool :=
  patterns.isEmpty || patterns.any fun pattern =>
    pattern = model || (pattern.toList.getLast? = some '*' && pattern.toList.dropLast.isPrefixOf model.toList)

def fastPolicyModelAction (rule : FastPolicyRule) (model : String) : Action × String :=
  if fastPolicyModelMatches rule.modelWhitelist model then (rule.action, rule.errorMessage)
  else (rule.fallbackAction, rule.fallbackErrorMessage)

/-- What a rule says about a tier, if it says anything. For a request without a tier only a forced one counts. -/
def ruleAction (rule : FastPolicyRule) (model tier : String) : Option (Action × String) :=
  if tier = "" then
    if rule.serviceTier ≠ "all" ∧ rule.serviceTier ≠ "priority" then none
    else if (fastPolicyModelAction rule model).1 = .forcePriority then some (fastPolicyModelAction rule model)
    else none
  else if rule.serviceTier ≠ "all" ∧ rule.serviceTier ≠ tier then none
  else some (fastPolicyModelAction rule model)

/-- The rules for given users come first. -/
def resolveFastPolicy (rules : List FastPolicyRule) (userID model tier : String) : Action × String :=
  let applicable (userScoped : Bool) := rules.filter fun rule =>
    decide ((!rule.userIDs.isEmpty) = userScoped) && fastPolicyUserMatches rule.userIDs userID
  ((applicable true ++ applicable false).findSome? fun rule => ruleAction rule model tier).getD (.pass, "")

/-- `FastPolicyBlockedError`, or another error. -/
inductive PolicyError
  | blocked (message : String)
  | invalid (message : String)
  deriving DecidableEq, Repr

def fastPolicyBlockError (resolved : Action × String) (tier model : String) : Option PolicyError :=
  if resolved.1 = .block then
    some (.blocked (if resolved.2 = "" then
      "OpenAI service_tier=" ++ tier ++ " is not allowed for model " ++ model else resolved.2))
  else none

/-- The request while the rules are applied to it. -/
structure Request where
  payload : Members
  metadata : RequestBilling
  rawTier : String
  changed : Bool

def applyFastPolicyAction (r : Request) : Action → Request
  | .filter =>
    { r with
      payload := if r.rawTier ≠ "" then r.payload.delete "service_tier" else r.payload
      metadata := { r.metadata with serviceTier := "" }
      rawTier := ""
      changed := r.changed || r.rawTier ≠ "" }
  | .forcePriority =>
    { r with
      payload := r.payload.set "service_tier" (.string "priority")
      metadata := { r.metadata with serviceTier := "priority" }
      rawTier := "priority"
      changed := r.changed || r.rawTier ≠ "priority" }
  | _ => r

def tierOf (rawTier : String) : String := if rawTier = "fast" then "priority" else rawTier

variable (toLower : String → String) (float64 : ℚ → Option ℚ)

/-- A judgement of some rules over the request. -/
def judge (rules : List FastPolicyRule) (userID : String) (r : Request) : Except PolicyError Request :=
  let resolved := resolveFastPolicy rules userID r.metadata.model (tierOf r.rawTier)
  match fastPolicyBlockError resolved (tierOf r.rawTier) r.metadata.model with
  | some e => .error e
  | none => .ok (applyFastPolicyAction r resolved.1)

/-- The account judges the request, or the key does and the account after it. -/
def judgeAll (accountRules keyRules : List FastPolicyRule) (userID : String) (r : Request) : Except PolicyError Request :=
  if (resolveFastPolicy accountRules userID r.metadata.model (tierOf r.rawTier)).1 ≠ .pass then
    judge accountRules userID r
  else do
    let r ← judge keyRules userID r
    judge accountRules userID r

/-- The tier that a request asks for. -/
def rawTierOf (payload : Members) : Except PolicyError String :=
  match payload.get "service_tier" with
  | none => .ok ""
  | some (.string s) => .ok (toLower (trimSpace s))
  | some _ => .error (.invalid "apply OpenAI Fast/Flex policy: service_tier must be a string")

/-- `ApplyFastPolicy`. The numbers of the body are decoded as floats, and encoded again if the policy changes
anything. -/
def applyFastPolicy (body : Members) (metadata : RequestBilling) (accountRules keyRules : List FastPolicyRule)
    (userID : String) : Except PolicyError (Members × RequestBilling) :=
  match body.decodeFloats float64 with
  | none => .error (.invalid "apply OpenAI Fast/Flex policy: number out of range")
  | some payload => do
    let rawTier ← rawTierOf toLower payload
    let tier := tierOf rawTier
    if tier ≠ "" ∧ tier ≠ "priority" ∧ tier ≠ "flex" then return (body, metadata)
    let r ← judgeAll accountRules keyRules userID ⟨payload, metadata, rawTier, false⟩
    return if r.changed then (r.payload, r.metadata) else (body, r.metadata)

end Model

section Tiers

variable {toLower : String → String} {float64 : ℚ → Option ℚ}

/-- The tier that a text denotes. -/
def effectiveTier (toLower : String → String) (s : String) : String := tierOf (toLower (trimSpace s))

/-- The tier that a body denotes. -/
def bodyTier (toLower : String → String) (body : Members) : String :=
  match body.get "service_tier" with
  | some (.string s) => effectiveTier toLower s
  | _ => ""

/-- The tier at which the account judges last. -/
def judgedTier (accountRules keyRules : List FastPolicyRule) (userID model tier : String) : String :=
  if (resolveFastPolicy accountRules userID model tier).1 ≠ .pass then tier
  else
    match (resolveFastPolicy keyRules userID model tier).1 with
    | .filter => ""
    | .forcePriority => "priority"
    | _ => tier

/-- Lower-case letters stay as they are. -/
def KeepsLower (toLower : String → String) : Prop :=
  ∀ s : String, (s.toList.all fun c => 'a' ≤ c && c ≤ 'z') = true → toLower s = s

lemma dropWhile_trimmed (p : Char → Bool) (l : List Char) :
    ((l.dropWhile p).reverse.dropWhile p).reverse.dropWhile p = ((l.dropWhile p).reverse.dropWhile p).reverse := by
  cases htrim : ((l.dropWhile p).reverse.dropWhile p).reverse with
  | nil => rfl
  | cons c rest =>
    -- the first character is the first one that was not dropped at the front
    have hpart : ((l.dropWhile p).reverse.dropWhile p).reverse <+: l.dropWhile p := by
      have hsuffix := List.dropWhile_suffix p (l := (l.dropWhile p).reverse)
      simpa using List.reverse_prefix.2 hsuffix
    rw [htrim] at hpart
    obtain ⟨more, hmore⟩ := hpart
    have hne : l.dropWhile p ≠ [] := by simp [← hmore]
    have hhead := List.head_dropWhile_not p hne
    have hc : p c = false := by simpa [← hmore] using hhead
    rw [List.dropWhile_cons_of_neg (by simp [hc])]

lemma trimSpace_trimSpace (s : String) : trimSpace (trimSpace s) = trimSpace s := by
  have hfront := dropWhile_trimmed isSpace s.toList
  have hback := List.dropWhile_idempotent (p := isSpace) (l := (s.toList.dropWhile isSpace).reverse)
  unfold trimSpace
  rw [String.toList_ofList, hfront, List.reverse_reverse, hback]

lemma effectiveTier_trimSpace (s : String) : effectiveTier toLower (trimSpace s) = effectiveTier toLower s := by
  unfold effectiveTier
  rw [trimSpace_trimSpace]

lemma effectiveTier_priority (hlower : KeepsLower toLower) : effectiveTier toLower "priority" = "priority" := by
  have htrim : trimSpace "priority" = "priority" := by decide
  rw [effectiveTier, htrim, hlower _ (by decide)]
  rfl

lemma effectiveTier_empty (hlower : KeepsLower toLower) : effectiveTier toLower "" = "" := by
  have htrim : trimSpace "" = "" := by decide
  rw [effectiveTier, htrim, hlower _ (by decide)]
  rfl

/-- The request, its metadata and the tier at hand agree. -/
structure Consistent (toLower : String → String) (body : Members) (model : String) (r : Request) : Prop where
  model : r.metadata.model = model
  payload : bodyTier toLower r.payload = tierOf r.rawTier
  metadata : effectiveTier toLower r.metadata.serviceTier = tierOf r.rawTier
  unchanged : r.changed = false → bodyTier toLower body = tierOf r.rawTier

variable {body : Members} {model userID : String} {r r' : Request} {rules : List FastPolicyRule}

lemma bodyTier_set (hlower : KeepsLower toLower) (m : Members) :
    bodyTier toLower (m.set "service_tier" (.string "priority")) = "priority" := by
  unfold bodyTier
  rw [Members.get_set, if_pos rfl]
  exact effectiveTier_priority hlower

lemma bodyTier_delete (m : Members) : bodyTier toLower (m.delete "service_tier") = "" := by
  unfold bodyTier
  rw [Members.get_delete, if_pos rfl]

lemma tierOf_eq_empty {raw : String} : tierOf raw = "" ↔ raw = "" := by
  unfold tierOf
  split_ifs with h
  · simp [h]
  · rfl

/-- The step: an action keeps the agreement. -/
lemma applyFastPolicyAction_consistent (hlower : KeepsLower toLower) (h : Consistent toLower body model r)
    (action : Action) : Consistent toLower body model (applyFastPolicyAction r action) := by
  cases action with
  | filter =>
    refine ⟨h.model, ?_, effectiveTier_empty hlower, fun hchanged => ?_⟩
    · simp only [applyFastPolicyAction]
      split_ifs with hraw
      · exact bodyTier_delete _
      · rw [h.payload, tierOf_eq_empty.2 (by simpa using hraw)]
        rfl
    · simp only [applyFastPolicyAction, Bool.or_eq_false_iff, decide_eq_false_iff_not, not_not] at hchanged
      rw [h.unchanged hchanged.1, hchanged.2]
      rfl
  | forcePriority =>
    refine ⟨h.model, bodyTier_set hlower _, effectiveTier_priority hlower, fun hchanged => ?_⟩
    simp only [applyFastPolicyAction, Bool.or_eq_false_iff, decide_eq_false_iff_not, not_not] at hchanged
    rw [h.unchanged hchanged.1, hchanged.2]
    rfl
  | pass => exact h
  | block => exact h
  | other name => exact h

/-- The tier after an action. -/
lemma tierOf_applyFastPolicyAction (r : Request) (action : Action) :
    tierOf (applyFastPolicyAction r action).rawTier =
      match action with
      | .filter => ""
      | .forcePriority => "priority"
      | _ => tierOf r.rawTier := by
  cases action <;> rfl

lemma judge_ok (h : judge rules userID r = .ok r') :
    (resolveFastPolicy rules userID r.metadata.model (tierOf r.rawTier)).1 ≠ .block ∧
      r' = applyFastPolicyAction r (resolveFastPolicy rules userID r.metadata.model (tierOf r.rawTier)).1 := by
  unfold judge fastPolicyBlockError at h
  dsimp only at h
  split_ifs at h with hblock
  cases h
  exact ⟨hblock, rfl⟩

/-- The account has judged last, and its action is done. -/
lemma judge_account (h : judge rules userID r = .ok r') (hr : r.metadata.model = model) :
    let action := (resolveFastPolicy rules userID model (tierOf r.rawTier)).1
    action ≠ .block ∧ (action = .filter ∧ tierOf r'.rawTier = "" ∨ action = .forcePriority ∧ tierOf r'.rawTier = "priority" ∨
      action ≠ .filter ∧ tierOf r'.rawTier = tierOf r.rawTier) := by
  obtain ⟨hblock, rfl⟩ := judge_ok h
  rw [hr] at hblock ⊢
  rw [tierOf_applyFastPolicyAction]
  refine ⟨hblock, ?_⟩
  cases (resolveFastPolicy rules userID model (tierOf r.rawTier)).1 with
  | filter => exact .inl ⟨rfl, rfl⟩
  | forcePriority => exact .inr (.inl ⟨rfl, rfl⟩)
  | pass => exact .inr (.inr ⟨by simp, rfl⟩)
  | block => exact .inr (.inr ⟨by simp, rfl⟩)
  | other name => exact .inr (.inr ⟨by simp, rfl⟩)

lemma bind_eq_ok {ε α β : Type} {x : Except ε α} {f : α → Except ε β} {b : β} (h : x >>= f = .ok b) :
    ∃ a, x = .ok a ∧ f a = .ok b := by
  cases x with
  | error e => cases h
  | ok a => exact ⟨a, rfl, h⟩

lemma stringField_ok {subject key text : String} (h : stringField subject body key = .ok text) :
    body.get key = none ∧ text = "" ∨ ∃ s, body.get key = some (.string s) ∧ text = trimSpace s := by
  unfold stringField at h
  split at h
  · rename_i hnone
    cases h
    exact .inl ⟨hnone, rfl⟩
  · rename_i s hsome
    cases h
    exact .inr ⟨s, hsome, rfl⟩
  · cases h

/-- The metadata has the text of the tier. -/
lemma BillingOf.tier {metadata : RequestBilling} (h : BillingOf body metadata) :
    body.get "service_tier" = none ∧ metadata.serviceTier = "" ∨
      ∃ s, body.get "service_tier" = some (.string s) ∧ metadata.serviceTier = trimSpace s := by
  cases h with
  | request h =>
    obtain ⟨model, -, h⟩ := bind_eq_ok h
    obtain ⟨tier, htier, h⟩ := bind_eq_ok h
    obtain ⟨key, -, h⟩ := bind_eq_ok h
    obtain ⟨stream, -, h⟩ := bind_eq_ok h
    cases h
    exact stringField_ok htier
  | frame turn previousResponseID h =>
    obtain ⟨model, -, h⟩ := bind_eq_ok h
    obtain ⟨tier, htier, h⟩ := bind_eq_ok h
    obtain ⟨key, -, h⟩ := bind_eq_ok h
    obtain ⟨stream, -, h⟩ := bind_eq_ok h
    obtain ⟨previous, -, h⟩ := bind_eq_ok h
    cases h
    exact stringField_ok htier

/-- The request before any rule is applied to it. -/
lemma initial_consistent {payload : Members} {metadata : RequestBilling} {rawTier : String}
    (hpayload : body.decodeFloats float64 = some payload) (hbilling : BillingOf body metadata)
    (hraw : rawTierOf toLower payload = .ok rawTier) (hlower : KeepsLower toLower) :
    Consistent toLower body metadata.model ⟨payload, metadata, rawTier, false⟩ := by
  obtain ⟨hget, -⟩ := Members.get_decodeFloats hpayload "service_tier"
  unfold rawTierOf at hraw
  rcases hbilling.tier with ⟨hnone, htier⟩ | ⟨s, hsome, htier⟩
  · rw [hnone, Option.bind_none] at hget
    rw [hget] at hraw
    cases hraw
    refine ⟨rfl, ?_, ?_, fun _ => ?_⟩
    · simp [bodyTier, hget, tierOf]
    · rw [htier, effectiveTier_empty hlower]
      rfl
    · simp [bodyTier, hnone, tierOf]
  · rw [hsome, Option.bind_some, Value.decodeFloats] at hget
    rw [hget] at hraw
    cases hraw
    refine ⟨rfl, ?_, ?_, fun _ => ?_⟩
    · simp [bodyTier, hget, effectiveTier]
    · rw [htier, effectiveTier_trimSpace]
      rfl
    · simp [bodyTier, hsome, effectiveTier]

variable {accountRules keyRules : List FastPolicyRule}

/-- What the account says about the tier that it judges last, and what becomes of the tier. -/
structure Judged (accountRules keyRules : List FastPolicyRule) (userID model tier tier' : String) : Prop where
  allowed : (resolveFastPolicy accountRules userID model (judgedTier accountRules keyRules userID model tier)).1 ≠ .block
  result :
    let action := (resolveFastPolicy accountRules userID model (judgedTier accountRules keyRules userID model tier)).1
    action = .filter ∧ tier' = "" ∨ action = .forcePriority ∧ tier' = "priority" ∨
      action ≠ .filter ∧ tier' = judgedTier accountRules keyRules userID model tier

lemma judgeAll_ok (hlower : KeepsLower toLower) (hr : Consistent toLower body model r)
    (h : judgeAll accountRules keyRules userID r = .ok r') :
    Consistent toLower body model r' ∧
      Judged accountRules keyRules userID model (tierOf r.rawTier) (tierOf r'.rawTier) := by
  unfold judgeAll at h
  rw [hr.model] at h
  split_ifs at h with hpass
  · have hjudged : judgedTier accountRules keyRules userID model (tierOf r.rawTier) = tierOf r.rawTier := if_pos hpass
    obtain ⟨-, heq⟩ := judge_ok h
    obtain ⟨hallowed, hresult⟩ := judge_account h hr.model
    refine ⟨heq ▸ applyFastPolicyAction_consistent hlower hr _, ?_, ?_⟩
    · rw [hjudged]
      exact hallowed
    · rw [hjudged]
      exact hresult
  · cases hkey : judge keyRules userID r with
    | error e => simp [hkey, bind, Except.bind] at h
    | ok r₁ =>
      simp only [hkey, bind, Except.bind] at h
      obtain ⟨-, heq₁⟩ := judge_ok hkey
      have hr₁ : Consistent toLower body model r₁ := heq₁ ▸ applyFastPolicyAction_consistent hlower hr _
      have hjudged : judgedTier accountRules keyRules userID model (tierOf r.rawTier) = tierOf r₁.rawTier := by
        rw [judgedTier, if_neg hpass, heq₁, tierOf_applyFastPolicyAction, hr.model]
      obtain ⟨-, heq⟩ := judge_ok h
      obtain ⟨hallowed, hresult⟩ := judge_account h hr₁.model
      refine ⟨heq ▸ applyFastPolicyAction_consistent hlower hr₁ _, ?_, ?_⟩
      · rw [hjudged]
        exact hallowed
      · rw [hjudged]
        exact hresult

/-- A request that goes through, with the tier that it has in the end. -/
lemma applyFastPolicy_ok (hlower : KeepsLower toLower) {metadata metadata' : RequestBilling} {body' : Members}
    (hbilling : BillingOf body metadata)
    (h : applyFastPolicy toLower float64 body metadata accountRules keyRules userID = .ok (body', metadata')) :
    effectiveTier toLower metadata'.serviceTier = bodyTier toLower body' ∧
      (bodyTier toLower body' = "priority" ∨ bodyTier toLower body' = "flex" →
        Judged accountRules keyRules userID metadata.model (bodyTier toLower body) (bodyTier toLower body')) := by
  unfold applyFastPolicy at h
  cases hpayload : body.decodeFloats float64 with
  | none => simp [hpayload] at h
  | some payload =>
    cases hraw : rawTierOf toLower payload with
    | error e => simp [hpayload, hraw, bind, Except.bind] at h
    | ok rawTier =>
      have hinitial : Consistent toLower body metadata.model ⟨payload, metadata, rawTier, false⟩ :=
        initial_consistent hpayload hbilling hraw hlower
      have htier : bodyTier toLower body = tierOf rawTier := hinitial.unchanged rfl
      simp only [hpayload, hraw, bind, Except.bind, pure, Except.pure] at h
      by_cases hother : tierOf rawTier ≠ "" ∧ tierOf rawTier ≠ "priority" ∧ tierOf rawTier ≠ "flex"
      · -- another tier is not judged at all
        rw [if_pos hother] at h
        cases h
        refine ⟨by rw [hinitial.metadata, htier], fun hjudged => ?_⟩
        rw [htier] at hjudged
        tauto
      · rw [if_neg hother] at h
        cases hall : judgeAll accountRules keyRules userID ⟨payload, metadata, rawTier, false⟩ with
        | error e => simp [hall] at h
        | ok r =>
          simp only [hall, Except.ok.injEq] at h
          obtain ⟨hr, hjudged⟩ := judgeAll_ok hlower hinitial hall
          have hbody' : bodyTier toLower body' = tierOf r.rawTier ∧ metadata' = r.metadata := by
            split_ifs at h with hchanged
            · cases h
              exact ⟨hr.payload, rfl⟩
            · cases h
              exact ⟨hr.unchanged (by simpa using hchanged), rfl⟩
          rw [hbody'.1, hbody'.2, htier]
          exact ⟨hr.metadata, fun _ => hjudged⟩

/-- A request that goes through with the priority or the flex tier has a tier that the account's rules neither block nor
filter, unless these rules themselves have forced the priority tier; and its metadata and its body have the same
tier. -/
theorem account_policy_has_last_word (toLower : String → String) (float64 : ℚ → Option ℚ) (hlower : KeepsLower toLower)
    (body body' : Members) (metadata metadata' : RequestBilling) (accountRules keyRules : List FastPolicyRule)
    (userID : String) (hbilling : BillingOf body metadata)
    (h : applyFastPolicy toLower float64 body metadata accountRules keyRules userID = .ok (body', metadata')) :
    (bodyTier toLower body' = "priority" ∨ bodyTier toLower body' = "flex" →
        ((resolveFastPolicy accountRules userID metadata.model (bodyTier toLower body')).1 ≠ .block ∧
          (resolveFastPolicy accountRules userID metadata.model (bodyTier toLower body')).1 ≠ .filter) ∨
        bodyTier toLower body' = "priority" ∧
          (resolveFastPolicy accountRules userID metadata.model
            (judgedTier accountRules keyRules userID metadata.model (bodyTier toLower body))).1 = .forcePriority) ∧
      effectiveTier toLower metadata'.serviceTier = bodyTier toLower body' := by
  obtain ⟨hsame, hjudged⟩ := applyFastPolicy_ok hlower hbilling h
  refine ⟨fun htier => ?_, hsame⟩
  obtain ⟨hallowed, ⟨-, hempty⟩ | ⟨hforced, hpriority⟩ | ⟨hkept, heq⟩⟩ := hjudged htier
  · rw [hempty] at htier
    simp at htier
  · exact .inr ⟨hpriority, hforced⟩
  · rw [← heq] at hallowed hkept
    exact .inl ⟨hallowed, hkept⟩

/-- A rule for a tier, for all users and models. -/
def ruleFor (tier : String) (action : Action) : FastPolicyRule := ⟨tier, action, [], "", [], .pass, ""⟩

/-- A request for the given tier. -/
def tierRequest (tier : String) : Members := [("model", .string "gpt-5.4"), ("service_tier", .string tier)]

theorem account_policy_has_last_word_flex :
    (resolveFastPolicy [ruleFor "priority" .filter] "u1" "gpt-5.4" (bodyTier id (tierRequest "flex"))).1 ≠ .filter ∧
      effectiveTier id "flex" = bodyTier id (tierRequest "flex") := by
  have hrun : applyFastPolicy id some (tierRequest "flex") ⟨"gpt-5.4", "flex", "", false⟩ [ruleFor "priority" .filter] []
      "u1" = .ok (tierRequest "flex", ⟨"gpt-5.4", "flex", "", false⟩) := by rfl
  have hlast := account_policy_has_last_word id some (fun _ _ => rfl) (tierRequest "flex") (tierRequest "flex")
    ⟨"gpt-5.4", "flex", "", false⟩ ⟨"gpt-5.4", "flex", "", false⟩ [ruleFor "priority" .filter] [] "u1" (.request rfl) hrun
  have htier : bodyTier id (tierRequest "flex") = "flex" := by decide
  rcases hlast.1 (.inr htier) with hallowed | ⟨hpriority, -⟩
  · exact ⟨hallowed.2, hlast.2⟩
  · exact absurd (htier.symm.trans hpriority) (by decide)

/-- The account forces the priority tier on flex requests and blocks requests for the priority tier: a flex request goes
through with the tier that is blocked. -/
theorem forced_tier_is_blocked :
    ∃ body' metadata',
      applyFastPolicy id some (tierRequest "flex") ⟨"gpt-5.4", "flex", "", false⟩
          [ruleFor "flex" .forcePriority, ruleFor "priority" .block] [] "u1" = .ok (body', metadata') ∧
        BillingOf (tierRequest "flex") ⟨"gpt-5.4", "flex", "", false⟩ ∧
        bodyTier id body' = "priority" ∧
        (resolveFastPolicy [ruleFor "flex" .forcePriority, ruleFor "priority" .block] "u1" "gpt-5.4"
          (bodyTier id body')).1 = .block :=
  ⟨[("service_tier", .string "priority"), ("model", .string "gpt-5.4")], ⟨"gpt-5.4", "priority", "", false⟩, rfl, .request rfl,
    by decide, by decide⟩

end Tiers

end ShareSub.FastPolicy

import Mathlib
import ShareSub.FiniteMap
import ShareSub.GatewayModel
import ShareSub.PlanModel

/-!
# Versions of the prices

The embedding of both `PublishPricing`, of `ValidateConfig`, of `CurrentPricing` with its cache, and of the part of
`RecordGatewayMetric` that bills. A publication is a program with a phase for each call that it waits for, so that any
number of them interleave with requests. Two parameters stand for what is outside: `strings.ToLower`, and
`VersionedCost`, which computes with floating point numbers and is a function of a configuration and the metered
segments.
-/
namespace ShareSub.PricingModel

open GatewayModel (isSpace trimSpace)
open PlanModel (DomainError)

section Configs

structure TokenPrices where
  input : ℤ
  output : ℤ
  cacheRead : ℤ
  cacheWrite : ℤ
  imageInput : ℤ
  imageOutput : ℤ
  deriving DecidableEq, Repr

structure ModelPrice where
  model : String
  standard : TokenPrices
  longContextTokens : ℤ
  longInputBPS : ℤ
  longOutputBPS : ℤ
  deriving DecidableEq, Repr

structure PricingConfig where
  models : List ModelPrice
  fastMultiplierBPS : ℤ
  flexMultiplierBPS : ℤ
  webSearchMicros : ℤ
  image1KMicros : ℤ
  image2KMicros : ℤ
  image4KMicros : ℤ
  deriving DecidableEq, Repr

def PricingConfig.modelNames (config : PricingConfig) : List String := config.models.map ModelPrice.model

/-- `strings.ReplaceAll`, for a text that is not empty; `fuel` bounds the length. -/
def replaceAll (old new : List Char) : ℕ → List Char → List Char
  | 0, s => s
  | _, [] => []
  | fuel + 1, c :: s =>
    if old.isPrefixOf (c :: s) then new ++ replaceAll old new fuel ((c :: s).drop old.length)
    else c :: replaceAll old new fuel s

lemma replaceAll_cons (old new : List Char) (fuel : ℕ) (c : Char) (s : List Char) :
    replaceAll old new (fuel + 1) (c :: s) =
      if old.isPrefixOf (c :: s) then new ++ replaceAll old new fuel ((c :: s).drop old.length)
      else c :: replaceAll old new fuel s := rfl

def replaceAllIn (old new : String) (s : List Char) : List Char := replaceAll old.toList new.toList s.length s

/-- `strings.Join(strings.Fields(s), "-")`. -/
def joinFields (s : List Char) : List Char :=
  ['-'].intercalate ((s.splitOnP isSpace).filter fun field => field ≠ [])

/-- The loop that shortens runs of dashes. -/
def collapseDashes : ℕ → List Char → List Char
  | 0, s => s
  | fuel + 1, s =>
    if s.tails.any fun t => ['-', '-'].isPrefixOf t then collapseDashes fuel (replaceAllIn "--" "-" s) else s

lemma collapseDashes_succ (fuel : ℕ) (s : List Char) : collapseDashes (fuel + 1) s =
    if s.tails.any fun t => ['-', '-'].isPrefixOf t then collapseDashes fuel (replaceAllIn "--" "-" s) else s := rfl

variable (toLower : String → String)

def canonicalModel (model : String) : String :=
  let s := (toLower (trimSpace model)).toList
  let s := if '/' ∈ s then (s.reverse.takeWhile fun c => c ≠ '/').reverse else s
  let s := joinFields (replaceAllIn "_" "-" s)
  let s := collapseDashes s.length s
  let s := if "gpt5".toList.isPrefixOf s then "gpt-5".toList ++ s.drop 4 else s
  let s := replaceAllIn "gpt-5.4mini" "gpt-5.4-mini" s
  let s := replaceAllIn "gpt-5.4nano" "gpt-5.4-nano" s
  let s := replaceAllIn "gpt-5.3-codexspark" "gpt-5.3-codex-spark" s
  let s := replaceAllIn "gpt-5.3codexspark" "gpt-5.3-codex-spark" s
  let s := replaceAllIn "gpt-5.3codex" "gpt-5.3-codex" s
  String.ofList s

def priceInRange (value : ℤ) : Bool := 0 ≤ value && value ≤ 1000000000000

def unitInRange (value : ℤ) : Bool := 0 ≤ value && value ≤ 1000000000

def ModelPrice.inRange (m : ModelPrice) : Bool :=
  m.model ≠ "" && m.model.utf8ByteSize ≤ 100 && canonicalModel toLower m.model = m.model &&
  0 ≤ m.longContextTokens && m.longContextTokens ≤ 10000000 &&
  10000 ≤ m.longInputBPS && m.longInputBPS ≤ 1000000 && 10000 ≤ m.longOutputBPS && m.longOutputBPS ≤ 1000000 &&
  [m.standard.input, m.standard.output, m.standard.cacheRead, m.standard.cacheWrite, m.standard.imageInput,
    m.standard.imageOutput].all priceInRange

/-- The loop over the models, with the names that it has `seen`. -/
def validateModels : List ModelPrice → List String → Bool
  | [], _ => true
  | m :: rest, seen => m.inRange toLower && m.model ∉ seen && validateModels rest (m.model :: seen)

def validateConfig (config : PricingConfig) : Bool :=
  0 < config.models.length && config.models.length ≤ 500 && validateModels toLower config.models [] &&
  [config.webSearchMicros, config.image1KMicros, config.image2KMicros, config.image4KMicros].all unitInRange &&
  10000 ≤ config.fastMultiplierBPS && config.fastMultiplierBPS ≤ 1000000 &&
  0 ≤ config.flexMultiplierBPS && config.flexMultiplierBPS ≤ 1000000

/-- The comparison of the models with those of the base version. -/
def sameModels (base config : PricingConfig) : Bool :=
  base.models.length = config.models.length && config.models.all fun m => m.model ∈ base.modelNames

end Configs

section Store

structure PricingVersion where
  id : ℤ
  publishedBy : String
  reason : String
  config : PricingConfig
  deriving DecidableEq, Repr

/-- A version with the `base_version_id` of its audit event, which the seed does not have. -/
structure Published where
  version : PricingVersion
  base : Option ℤ
  deriving DecidableEq, Repr

/-- The committed rows of `pricing_versions`, those before the first one apart; the row of `current_pricing`; and the next
value of the identity column. -/
structure Store where
  older : List PricingVersion
  versions : List Published
  current : ℤ
  nextID : ℤ

def Store.pricingVersion (s : Store) (id : ℤ) : Option PricingVersion :=
  (s.older ++ s.versions.map Published.version).find? fun v => v.id = id

end Store

section Publishing

structure PublishPricingInput where
  baseVersionID : ℤ
  reason : String
  config : PricingConfig
  deriving DecidableEq, Repr

/-- The call that a publication waits for. From `inserting` on it holds the lock on the row of `current_pricing`. -/
inductive PublishPhase
  | reading
  | locking
  | inserting
  | committing (version : PricingVersion)
  | returned (result : Except DomainError PricingVersion)

structure Publisher where
  actorID : String
  input : PublishPricingInput
  phase : PublishPhase

def Publisher.holdsLock (p : Publisher) : Bool :=
  match p.phase with
  | .inserting => true
  | .committing _ => true
  | _ => false

/-- What the pending call returns. A commit may also take effect although it returns an error. -/
inductive PublishOutcome
  | done
  | fail
  | lost

def Publisher.finish (p : Publisher) (result : Except DomainError PricingVersion) : Publisher :=
  { p with phase := .returned result }

/-- `Service.PublishPricing` up to its first read. -/
def publishPricing (toLower : String → String) (actorID : String) (isAdmin : Bool) (input : PublishPricingInput) :
    Publisher :=
  let input := { input with reason := trimSpace input.reason }
  let p : Publisher := ⟨actorID, input, .reading⟩
  if !isAdmin then p.finish (.error .forbidden)
  else if input.baseVersionID ≤ 0 ∨ input.reason = "" ∨ 500 < input.reason.length then p.finish (.error .invalidInput)
  else if !validateConfig toLower input.config then p.finish (.error .invalidInput)
  else p

/-- A statement that meets the lock of another publication waits. -/
def Publisher.turn (p : Publisher) (s : Store) (locked : Bool) : PublishOutcome → Store × Publisher
  | .done =>
    match p.phase with
    | .reading =>
      match s.pricingVersion p.input.baseVersionID with
      | none => (s, p.finish (.error .notFound))
      | some base =>
        if sameModels base.config p.input.config then (s, { p with phase := .locking })
        else (s, p.finish (.error .invalidInput))
    | .locking =>
      if locked then (s, p)
      else if s.current ≠ p.input.baseVersionID then (s, p.finish (.error .conflict))
      else (s, { p with phase := .inserting })
    | .inserting =>
      ({ s with nextID := s.nextID + 1 },
        { p with phase := .committing ⟨s.nextID, p.actorID, p.input.reason, p.input.config⟩ })
    | .committing version =>
      ({ s with versions := s.versions ++ [⟨version, some p.input.baseVersionID⟩], current := version.id },
        p.finish (.ok version))
    | .returned _ => (s, p)
  | .lost =>
    match p.phase with
    | .committing version =>
      ({ s with versions := s.versions ++ [⟨version, some p.input.baseVersionID⟩], current := version.id },
        p.finish (.error .database))
    | _ => (s, p)
  | .fail =>
    match p.phase with
    | .returned _ => (s, p)
    | _ => (s, p.finish (.error .database))

end Publishing

section Billing

variable {Segment Cost : Type}

/-- The parts of a metric that its cost depends on; `whole` has its token usage, searches and image size. -/
structure Metric (Segment : Type) where
  billingModel : String
  serviceTier : String
  billingSegments : List Segment
  whole : Segment

/-- A request with the account that serves it. `currentID` is what `CurrentPricingID` has returned. -/
structure GatewayRequest where
  accountID : String
  currentID : Option ℤ
  pricing : Option PricingVersion

structure BilledMetric (Segment Cost : Type) where
  request : ℕ
  pricingVersionID : ℤ
  metric : Metric Segment
  cost : Cost

variable (versionedCost : PricingConfig → String → String → List Segment → Option Cost)

def metricSegments (metric : Metric Segment) : List Segment :=
  match metric.billingSegments with
  | [] => [metric.whole]
  | segments => segments

/-- `RecordGatewayMetric`; a request without a pinned version and a cost that overflows are errors. -/
def recordGatewayMetric (j : ℕ) (r : GatewayRequest) (metric : Metric Segment) : Option (BilledMetric Segment Cost) :=
  r.pricing.bind fun version =>
    (versionedCost version.config metric.billingModel metric.serviceTier (metricSegments metric)).map fun cost =>
      ⟨j, version.id, metric, cost⟩

end Billing

section Systems

variable {Segment Cost : Type} (toLower : String → String)
  (versionedCost : PricingConfig → String → String → List Segment → Option Cost)

structure System (Segment Cost : Type) where
  store : Store
  publishers : List Publisher
  requests : List GatewayRequest
  pricingCache : FiniteMap ℤ PricingVersion
  metrics : List (BilledMetric Segment Cost)

inductive Event (Segment : Type)
  | publish (actorID : String) (isAdmin : Bool) (input : PublishPricingInput)
  | turn (i : ℕ) (outcome : PublishOutcome)
  | resolve (accountID : String)
  | readCurrent (j : ℕ)
  | loadVersion (j : ℕ)
  | switchAccount (j : ℕ) (accountID : String)
  | record (j : ℕ) (metric : Metric Segment)

/-- The second half of `CurrentPricing`: the version that the cache or the store has. -/
def System.pricingOf (s : System Segment Cost) (id : ℤ) : Option (FiniteMap ℤ PricingVersion × PricingVersion) :=
  match s.pricingCache.lookup id with
  | some version => some (s.pricingCache, version)
  | none =>
    match s.store.pricingVersion id with
    | some version =>
      if validateConfig toLower version.config then some (s.pricingCache.insert id version, version) else none
    | none => none

/-- The version is pinned once; the account that a request switches to is given it. -/
def step (s : System Segment Cost) : Event Segment → System Segment Cost
  | .publish actorID isAdmin input =>
    { s with publishers := s.publishers ++ [publishPricing toLower actorID isAdmin input] }
  | .turn i outcome =>
    match s.publishers[i]? with
    | some p =>
      let out := p.turn s.store (s.publishers.any Publisher.holdsLock) outcome
      { s with store := out.1, publishers := s.publishers.set i out.2 }
    | none => s
  | .resolve accountID => { s with requests := s.requests ++ [⟨accountID, none, none⟩] }
  | .readCurrent j =>
    match s.requests[j]? with
    | some r =>
      if r.pricing = none then { s with requests := s.requests.set j { r with currentID := some s.store.current } } else s
    | none => s
  | .loadVersion j =>
    match s.requests[j]? with
    | some ⟨accountID, some id, none⟩ =>
      match s.pricingOf toLower id with
      | some (cache, version) =>
        { s with pricingCache := cache, requests := s.requests.set j ⟨accountID, some id, some version⟩ }
      | none => s
    | _ => s
  | .switchAccount j accountID =>
    match s.requests[j]? with
    | some r => { s with requests := s.requests.set j { r with accountID := accountID } }
    | none => s
  | .record j metric =>
    match s.requests[j]?.bind fun r => recordGatewayMetric versionedCost j r metric with
    | some billed => { s with metrics := s.metrics ++ [billed] }
    | none => s

def initial (older : List PricingVersion) (first : PricingVersion) (nextID : ℤ) : System Segment Cost :=
  ⟨⟨older, [⟨first, none⟩], first.id, nextID⟩, [], [], ∅, []⟩

def run (s : System Segment Cost) (events : List (Event Segment)) : System Segment Cost :=
  events.foldl (step toLower versionedCost) s

end Systems

end ShareSub.PricingModel

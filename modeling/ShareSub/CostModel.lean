import Mathlib
import ShareSub.FloatRounding
import ShareSub.PricingModel
import ShareSub.ProtectionModel

/-!
# The cost of metered segments

The embedding of `VersionedCost`. The products are of floating point numbers, each of them rounded. `strings.ToLower`
is a parameter, as for the versions of the prices.
-/
namespace ShareSub.CostModel

open FloatRounding PricingModel
open GatewayModel (isSpace trimSpace)
open ProtectionModel (atoi)

section Values

structure TokenUsage where
  inputTokens : ℤ
  outputTokens : ℤ
  cachedTokens : ℤ
  cacheCreationTokens : ℤ
  imageInputTokens : ℤ
  imageOutputTokens : ℤ
  imageCount : ℤ
  deriving DecidableEq, Repr

structure GatewayBillingSegment where
  tokenUsage : TokenUsage
  webSearchCalls : ℤ
  imageSize : String
  deriving DecidableEq, Repr

/-- A value for each component of a cost, in the order of the sum. -/
structure Components (α : Type) where
  input : α
  output : α
  cacheCreation : α
  cacheRead : α
  imageInput : α
  imageOutput : α
  webSearch : α
  deriving DecidableEq, Repr

def Components.toList {α : Type} (c : Components α) : List α :=
  [c.input, c.output, c.cacheCreation, c.cacheRead, c.imageInput, c.imageOutput, c.webSearch]

def Components.map {α β : Type} (f : α → β) (c : Components α) : Components β :=
  ⟨f c.input, f c.output, f c.cacheCreation, f c.cacheRead, f c.imageInput, f c.imageOutput, f c.webSearch⟩

/-- `domain.CostBreakdown`. -/
structure CostBreakdown where
  micros : Components ℤ
  totalMicros : ℤ
  deriving DecidableEq, Repr

end Values

section Models

variable (toLower : String → String)

def contains (s sub : String) : Bool := s.toList.tails.any fun t => sub.toList.isPrefixOf t

def isGPT61SolSuffix (suffix : String) : Bool :=
  suffix ∈ ["none", "minimal", "low", "medium", "high", "xhigh", "max", "openai-compact"]

/-- The families that a part of the name decides, in the order of the cases. -/
def familyParts : List (String × String) :=
  [("gpt-6-astra", "gpt-6-astra"), ("gpt-5.6-terra", "gpt-5.6-terra"), ("gpt-5.6-luna", "gpt-5.6-luna"),
    ("gpt-5.6", "gpt-5.6-sol"), ("gpt-5.5", "gpt-5.5"), ("gpt-5.4-mini", "gpt-5.4-mini"),
    ("gpt-5.4-nano", "gpt-5.4-nano"), ("gpt-5.4", "gpt-5.4"), ("gpt-5.3-codex-spark", "gpt-5.3-codex-spark"),
    ("gpt-5.3-codex", "gpt-5.3-codex"), ("gpt-5.3", "gpt-5.3-codex"), ("gpt-5.2-codex", "gpt-5.2-codex"),
    ("gpt-5.2", "gpt-5.2"), ("gpt-5.1-codex-mini", "gpt-5.1-codex-mini"), ("gpt-5.1-codex-max", "gpt-5.1-codex-max"),
    ("gpt-5.1-codex", "gpt-5.1-codex"), ("gpt-5-codex", "gpt-5-codex"), ("codex", "gpt-5.3-codex"),
    ("gpt-5", "gpt-5.4")]

def knownCodexFamily (model : String) : String :=
  if model = "gpt-6.1-sol" then "gpt-6.1-sol"
  else if "gpt-6.1-sol-".toList.isPrefixOf model.toList ∧ isGPT61SolSuffix (String.ofList (model.toList.drop 12)) then
    "gpt-6.1-sol"
  else if model = "gpt-6-sol" ∨ "gpt-6-sol-".toList.isPrefixOf model.toList then "gpt-6-sol"
  else if model = "gpt-6-luna" ∨ "gpt-6-luna-".toList.isPrefixOf model.toList then "gpt-6-luna"
  else ((familyParts.find? fun family => contains model family.1).map Prod.snd).getD ""

def modelCandidates (model : String) : List String :=
  let normalized := canonicalModel toLower model
  if normalized = "" then []
  else if knownCodexFamily normalized ≠ "" ∧ knownCodexFamily normalized ≠ normalized then
    [normalized, knownCodexFamily normalized]
  else [normalized]

def TokenPrices.priced (prices : TokenPrices) : Bool :=
  prices.input ≠ 0 || prices.output ≠ 0 || prices.cacheRead ≠ 0 || prices.cacheWrite ≠ 0

def configModel (config : PricingConfig) (model : String) : Option ModelPrice :=
  (modelCandidates toLower model).findSome? fun candidate =>
    config.models.find? fun price => price.model = candidate && TokenPrices.priced price.standard

/-- What `%d` reads: the number and the rest of the text. -/
def scanInt (s : List Char) : Option (ℤ × List Char) :=
  let s := s.dropWhile fun c => isSpace c && c ≠ '\n'
  let sign := match s with
    | '+' :: _ => ['+']
    | '-' :: _ => ['-']
    | _ => []
  let digits := (s.drop sign.length).takeWhile Char.isDigit
  (atoi (String.ofList (sign ++ digits))).map fun n => (n, s.drop (sign.length + digits.length))

/-- `fmt.Sscanf(normalized, "%dx%d", &width, &height)`. -/
def scanSize (normalized : String) : Option (ℤ × ℤ) :=
  match scanInt normalized.toList with
  | some (width, 'x' :: rest) => (scanInt rest).map fun height => (width, height.1)
  | _ => none

def imageBillingTier (size : String) : String :=
  let normalized := toLower (trimSpace size)
  if normalized = "1k" then "1K"
  else if normalized ∈ ["2k", "2048x2048", "2048x1152"] then "2K"
  else if normalized ∈ ["4k", "3840x2160", "2160x3840"] then "4K"
  else
    match scanSize normalized with
    | none => "2K"
    | some (width, height) =>
      if width ≤ 0 ∨ height ≤ 0 then "2K"
      else if max width height ≤ 1024 then "1K"
      else if max width height ≤ 2048 then "2K"
      else "4K"

end Models

section Charges

/-- A call of `calculate` or of `calculateMicros`; `free` where the component stays zero. -/
inductive Charge
  | free
  | tokens (count price factor divisor : ℤ)
  | micros (count unit : ℤ)
  deriving DecidableEq, Repr

/-- The number that the guard compares with the bound. -/
def Charge.amount : Charge → ℚ
  | .free => 0
  | .tokens count price factor divisor =>
    let base := round53 (round53 (round53 count * round53 price) / 1000000000000)
    roundAway (round53 (round53 (round53 (base * round53 factor) / round53 divisor) * 1000000))
  | .micros count unit => round53 (round53 count * round53 unit)

/-- The result, with the error that the call sets. `float64(math.MaxInt64)` is `2^63`. -/
def Charge.calculate (charge : Charge) : ℤ × Option String :=
  match charge with
  | .free => (0, none)
  | .tokens count _ _ _ =>
    if count < 0 then (0, some "negative pricing token count")
    else if charge.amount < 0 ∨ 2 ^ 63 < charge.amount then (0, some "pricing cost overflow")
    else (toInt64 charge.amount, none)
  | .micros _ _ =>
    if charge.amount < 0 ∨ 2 ^ 63 < charge.amount then (0, some "pricing cost overflow")
    else (toInt64 (roundAway charge.amount), none)

end Charges

section Costs

variable (toLower : String → String)

def isInt64 (n : ℤ) : Bool := -2 ^ 63 ≤ n && n < 2 ^ 63

def TokenUsage.used (usage : TokenUsage) : Bool :=
  usage.inputTokens ≠ 0 || usage.outputTokens ≠ 0 || usage.cachedTokens ≠ 0 || usage.cacheCreationTokens ≠ 0 ||
    usage.imageInputTokens ≠ 0 || usage.imageOutputTokens ≠ 0

def tierMultiplier (config : PricingConfig) (serviceTier : String) : ℤ :=
  let tier := toLower (trimSpace serviceTier)
  if tier ∈ ["priority", "fast"] then config.fastMultiplierBPS
  else if tier = "flex" then config.flexMultiplierBPS
  else 10000

/-- `factor*tierMultiplier/10_000` in the machine word. -/
def scaleFactor (factor multiplier : ℤ) : ℤ := (Int.bmod (factor * multiplier) (2 ^ 64)).tdiv 10000

def tokenCharges (pricing : ModelPrice) (multiplier : ℤ) (usage : TokenUsage) (web : Charge) : Components Charge :=
  let prices := pricing.standard
  let imageInput := if prices.imageInput = 0 then prices.input else prices.imageInput
  let imageOutput := if prices.imageOutput = 0 then prices.output else prices.imageOutput
  let long := 0 < pricing.longContextTokens ∧ pricing.longContextTokens < usage.inputTokens
  let inputFactor := if long then pricing.longInputBPS else 10000
  let outputFactor := if long then pricing.longOutputBPS else 10000
  { input := .tokens
      (max 0 (usage.inputTokens - usage.cachedTokens - usage.cacheCreationTokens - usage.imageInputTokens))
      prices.input (scaleFactor inputFactor multiplier) 10000
    output := .tokens (max 0 (usage.outputTokens - usage.imageOutputTokens)) prices.output
      (scaleFactor outputFactor multiplier) 10000
    cacheRead := .tokens usage.cachedTokens prices.cacheRead (scaleFactor inputFactor multiplier) 10000
    cacheCreation := .tokens usage.cacheCreationTokens prices.cacheWrite (scaleFactor inputFactor multiplier) 10000
    imageInput := .tokens usage.imageInputTokens imageInput multiplier 10000
    imageOutput := .tokens usage.imageOutputTokens imageOutput multiplier 10000
    webSearch := web }

def imageUnit (config : PricingConfig) (imageSize : String) : ℤ :=
  let tier := imageBillingTier toLower imageSize
  if tier = "1K" then config.image1KMicros else if tier = "4K" then config.image4KMicros else config.image2KMicros

/-- The calls that a segment makes. -/
def segmentCharges (config : PricingConfig) (model serviceTier : String) (segment : GatewayBillingSegment) :
    Except String (Components Charge) :=
  let usage := segment.tokenUsage
  let web := Charge.micros segment.webSearchCalls config.webSearchMicros
  if 0 < usage.imageCount then
    .ok ⟨.free, .free, .free, .free, .free, .micros usage.imageCount (imageUnit toLower config segment.imageSize), web⟩
  else if usage.used then
    match configModel toLower config model with
    | none => .error ("no configured pricing for model " ++ model.quote)
    | some pricing => .ok (tokenCharges pricing (tierMultiplier toLower config serviceTier) usage web)
  else .ok ⟨.free, .free, .free, .free, .free, .free, web⟩

def countInRange (count : ℤ) : Bool := 0 ≤ count && count ≤ 1000000000000

def segmentCounts (segment : GatewayBillingSegment) : List ℤ :=
  [segment.tokenUsage.inputTokens, segment.tokenUsage.outputTokens, segment.tokenUsage.cachedTokens,
    segment.tokenUsage.cacheCreationTokens, segment.tokenUsage.imageInputTokens,
    segment.tokenUsage.imageOutputTokens, segment.tokenUsage.imageCount, segment.webSearchCalls]

/-- The values in the order of the calls. -/
def Components.callOrder {α : Type} (c : Components α) : List α :=
  [c.webSearch, c.input, c.output, c.cacheRead, c.cacheCreation, c.imageInput, c.imageOutput]

/-- The sum of the components and the last error that a call has set. -/
def finishCost (values : Components (ℤ × Option String)) : Except String CostBreakdown :=
  let micros := values.map Prod.fst
  if !isInt64 micros.toList.sum then .error "pricing cost overflow"
  else
    match (values.callOrder.filterMap Prod.snd).getLast? with
    | some calculationErr => .error calculationErr
    | none => .ok ⟨micros, micros.toList.sum⟩

def versionedSegmentCost (config : PricingConfig) (model serviceTier : String) (segment : GatewayBillingSegment) :
    Except String CostBreakdown :=
  if (segmentCounts segment).all countInRange then
    match segmentCharges toLower config model serviceTier segment with
    | .error e => .error e
    | .ok charges => finishCost (charges.map Charge.calculate)
  else .error "pricing usage count outside supported range"

/-- The sum of two costs. -/
def CostBreakdown.add (total cost : CostBreakdown) : CostBreakdown where
  micros := ⟨total.micros.input + cost.micros.input, total.micros.output + cost.micros.output,
    total.micros.cacheCreation + cost.micros.cacheCreation, total.micros.cacheRead + cost.micros.cacheRead,
    total.micros.imageInput + cost.micros.imageInput, total.micros.imageOutput + cost.micros.imageOutput,
    total.micros.webSearch + cost.micros.webSearch⟩
  totalMicros := total.totalMicros + cost.totalMicros

def CostBreakdown.inInt64 (cost : CostBreakdown) : Bool := cost.micros.toList.all isInt64 && isInt64 cost.totalMicros

/-- The loop over the segments. -/
def costFrom (config : PricingConfig) (model serviceTier : String) :
    CostBreakdown → List GatewayBillingSegment → Except String CostBreakdown
  | total, [] => .ok total
  | total, segment :: rest =>
    match versionedSegmentCost toLower config model serviceTier segment with
    | .error e => .error e
    | .ok cost =>
      if (total.add cost).inInt64 then costFrom config model serviceTier (total.add cost) rest
      else .error "pricing cost overflow"

def zeroCost : CostBreakdown := ⟨⟨0, 0, 0, 0, 0, 0, 0⟩, 0⟩

def versionedCost (config : PricingConfig) (model serviceTier : String) (segments : List GatewayBillingSegment) :
    Except String CostBreakdown :=
  costFrom toLower config model serviceTier zeroCost segments

end Costs

end ShareSub.CostModel

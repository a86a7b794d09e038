import Mathlib
import ShareSub.SseModel

/-!
# The usage of a terminal response

The embedding of the terminal response of `response_protocol.go` with its usage, and of what `proxyMetrics` and the
billing of a segment read of it. The counters are 64-bit integers that wrap around.
-/
namespace ShareSub.UsageModel

open SseModel

abbrev Count := BitVec 64

structure ResponseUsage where
  inputTokens : Count
  outputTokens : Count
  images : Count
  cachedTokens : Count
  cacheWriteTokens : Count
  inputImageTokens : Count
  outputImageTokens : Count
  deriving DecidableEq, Repr

structure OutputItem where
  type : String
  status : String
  deriving DecidableEq, Repr

/-- `terminalResponse`. -/
structure Terminal where
  id : String
  model : String
  usage : ResponseUsage
  output : List OutputItem
  error : Option ResponseError
  hasUsage : Bool
  hasOutput : Bool
  deriving DecidableEq, Repr

/-- `terminalResponse{}`. -/
def Terminal.zero : Terminal := ⟨"", "", ⟨0, 0, 0, 0, 0, 0, 0⟩, [], none, false, false⟩

/-- The calls of a type that were completed. -/
def completedCalls (type : String) (output : List OutputItem) : Count :=
  output.foldl (fun count item => if item.type = type ∧ item.status = "completed" then count + 1 else count) 0

def Terminal.imageCount (r : Terminal) : Count := completedCalls "image_generation_call" r.output

def Terminal.webSearchCalls (r : Terminal) : Count := completedCalls "web_search_call" r.output

/-- The fields of `ProxyMetrics` that a member is charged by. -/
structure UsageMetrics where
  inputTokens : Count
  outputTokens : Count
  cachedTokens : Count
  cacheCreationTokens : Count
  imageInputTokens : Count
  imageOutputTokens : Count
  imageCount : Count
  webSearchCalls : Count
  upstreamModel : String
  deriving DecidableEq, Repr

/-- The usage that `proxyMetrics` takes from a terminal response. -/
def usageMetrics (r : Terminal) : UsageMetrics where
  inputTokens := r.usage.inputTokens
  outputTokens := r.usage.outputTokens
  cachedTokens := r.usage.cachedTokens
  cacheCreationTokens := r.usage.cacheWriteTokens
  imageInputTokens := r.usage.inputImageTokens
  imageOutputTokens := r.usage.outputImageTokens
  imageCount := r.imageCount
  webSearchCalls := r.webSearchCalls
  upstreamModel := r.model

end ShareSub.UsageModel

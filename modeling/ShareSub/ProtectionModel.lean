import Mathlib
import ShareSub.FiniteMap
import ShareSub.GatewayModel
import ShareSub.TrafficModel

/-!
# The protections of the gateway

The embedding of the rate windows, the back-offs and the model blocks of `gateway_protection.go`. Every
function reads the clock before it takes the mutex, so the reading is an argument and the readings of
a run are in no particular order. A model is given by the key that `gatewayModelKey` makes of it.
-/
namespace ShareSub.ProtectionModel

open HistoryModel (minute)
open TrafficModel (zeroTime)
open GatewayModel (trimSpace)

section Values

def second : ℤ := 1000000000

def defaultGatewayAPIKeyRPM : ℤ := 300

def defaultModelCooldown : ℤ := 30 * minute

def defaultTransientBackoff : ℤ := second

def maximumTransientBackoff : ℤ := 5 * second

def maximumGatewayProtectionKeys : ℕ := 8192

/-- `gatewayRateWindow`. -/
structure RateWindow where
  started : ℤ
  count : ℤ
  deriving DecidableEq, Repr

/-- `gatewayProtectionState`. -/
structure Protection where
  apiKeyRPM : ℤ
  apiKeyWindows : FiniteMap String RateWindow
  modelBlocks : FiniteMap String ℤ
  keyBackoffs : FiniteMap String ℤ

def newGatewayProtectionState (apiKeyRPM : ℤ) : Protection where
  apiKeyRPM := if apiKeyRPM ≤ 0 then defaultGatewayAPIKeyRPM else apiKeyRPM
  apiKeyWindows := ∅
  modelBlocks := ∅
  keyBackoffs := ∅

/-- `s.apiKeyWindows[key]`. -/
def Protection.window (s : Protection) (key : String) : RateWindow := (s.apiKeyWindows.lookup key).getD ⟨zeroTime, 0⟩

/-- `s.keyBackoffs[key]`. -/
def Protection.backoff (s : Protection) (key : String) : ℤ := (s.keyBackoffs.lookup key).getD zeroTime

end Values

section Functions

/-- `strconv.Atoi`, with the range of a 64-bit `int`. -/
def atoi (s : String) : Option ℤ :=
  let digits := match s.toList with
    | '+' :: digits => digits
    | '-' :: digits => digits
    | digits => digits
  if digits ≠ [] ∧ digits.all Char.isDigit then
    let n : ℤ := digits.foldl (fun n d => 10 * n + (d.toNat - 48 : ℤ)) 0
    let n := if s.toList.head? = some '-' then -n else n
    if -2 ^ 63 ≤ n ∧ n < 2 ^ 63 then some n else none
  else none

/-- The loop that drops entries of a map that has grown too large. -/
def dropWhenLarge {β : Type} (gone : β → Bool) (s : FiniteMap String β) : FiniteMap String β :=
  if maximumGatewayProtectionKeys < s.entries.length then s.keep fun _ b => !gone b else s

def Protection.pruneLocked (s : Protection) (now : ℤ) : Protection :=
  { s with
    apiKeyWindows := dropWhenLarge (fun window => minute ≤ now - window.started) s.apiKeyWindows
    modelBlocks := dropWhenLarge (fun until_ => until_ ≤ now) s.modelBlocks
    keyBackoffs := dropWhenLarge (fun until_ => until_ ≤ now) s.keyBackoffs }

/-- The window does not count for a reading of the clock. -/
def RateWindow.expired (window : RateWindow) (now : ℤ) : Bool :=
  window.started = zeroTime ∨ minute ≤ now - window.started ∨ now < window.started

/-- Whether the call is admitted, and the delay that it returns. -/
def admitAPIKey (s : Protection) (apiKeyID : String) (now : ℤ) : Protection × Bool × ℤ :=
  if s.apiKeyRPM ≤ 0 ∨ trimSpace apiKeyID = "" then (s, true, 0)
  else
    let s := s.pruneLocked now
    if now < s.backoff apiKeyID then (s, false, s.backoff apiKeyID - now)
    else
      let window := if (s.window apiKeyID).expired now then ⟨now, 0⟩ else s.window apiKeyID
      if s.apiKeyRPM ≤ window.count then (s, false, minute - (now - window.started))
      else
        ({ s with apiKeyWindows := s.apiKeyWindows.insert apiKeyID { window with count := window.count + 1 } }, true, 0)

/-- The delay that a `Retry-After` header asks for; the product of a large number of seconds wraps around. -/
def transientDelay (retryAfter : String) : ℤ :=
  let delay := match atoi (trimSpace retryAfter) with
    | some seconds => if 0 < seconds then Int.bmod (seconds * second) (2 ^ 64) else defaultTransientBackoff
    | none => defaultTransientBackoff
  min delay maximumTransientBackoff

def backoffAPIKey (s : Protection) (apiKeyID retryAfter : String) (now : ℤ) : Protection :=
  if trimSpace apiKeyID = "" then s
  else
    let until_ := now + transientDelay retryAfter
    let s := if s.backoff apiKeyID < until_ then { s with keyBackoffs := s.keyBackoffs.insert apiKeyID until_ } else s
    s.pruneLocked now

def blockModel (s : Protection) (key : String) (now : ℤ) : Protection :=
  if key = "\x00" then s
  else { s with modelBlocks := s.modelBlocks.insert key (now + defaultModelCooldown) }.pruneLocked now

def modelBlocked (s : Protection) (key : String) (now : ℤ) : Protection × Bool :=
  if (s.modelBlocks.lookup key).getD zeroTime ≤ now then ({ s with modelBlocks := s.modelBlocks.erase key }, false)
  else (s, true)

def clearModel (s : Protection) (key : String) : Protection := { s with modelBlocks := s.modelBlocks.erase key }

end Functions

section Runs

/-- A call of `admitAPIKey` that has returned; `opened` when it has started a window. -/
structure Call where
  key : String
  reading : ℤ
  admitted : Bool
  delay : ℤ
  opened : Bool
  deriving DecidableEq, Repr

/-- The state and the calls in the order in which they had the mutex. -/
structure System where
  state : Protection
  calls : List Call

inductive Step
  | admitAPIKey (apiKeyID : String) (now : ℤ)
  | backoffAPIKey (apiKeyID retryAfter : String) (now : ℤ)
  | blockModel (key : String) (now : ℤ)
  | modelBlocked (key : String) (now : ℤ)
  | clearModel (key : String)
  deriving DecidableEq, Repr

/-- The window that a call finds, which may have been dropped just before. -/
def System.found (s : System) (apiKeyID : String) (now : ℤ) : RateWindow := (s.state.pruneLocked now).window apiKeyID

/-- The back-off that a call finds. -/
def System.foundBackoff (s : System) (apiKeyID : String) (now : ℤ) : ℤ := (s.state.pruneLocked now).backoff apiKeyID

def step (s : System) : Step → System
  | .admitAPIKey apiKeyID now =>
    let out := admitAPIKey s.state apiKeyID now
    ⟨out.1, s.calls ++ [⟨apiKeyID, now, out.2.1, out.2.2, out.2.1 && (s.found apiKeyID now).expired now⟩]⟩
  | .backoffAPIKey apiKeyID retryAfter now => { s with state := backoffAPIKey s.state apiKeyID retryAfter now }
  | .blockModel key now => { s with state := blockModel s.state key now }
  | .modelBlocked key now => { s with state := (modelBlocked s.state key now).1 }
  | .clearModel key => { s with state := clearModel s.state key }

def initial (apiKeyRPM : ℤ) : System := ⟨newGatewayProtectionState apiKeyRPM, []⟩

end Runs

end ShareSub.ProtectionModel

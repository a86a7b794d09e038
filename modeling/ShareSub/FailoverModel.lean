import Mathlib
import ShareSub.GatewayModel
import ShareSub.ProtectionModel

/-!
# The failover loop with what it shares

The loop of `Server.responses` goes round with every answer of the outside drawn in advance. A pass itself is that of
`GatewayModel`; added here are the loop of `ResolveGatewayAccess` over the candidates with the reservations that it
makes and gives back, and the model blocks, which other requests write to at any moment. `strings.ToLower` is a
parameter.
-/
namespace ShareSub.FailoverModel

open GatewayModel
open ProtectionModel (Protection)
open TrafficModel (zeroTime)

variable {Usage : Type}

section Resolve

/-- What becomes of a candidate: its quota is exhausted, its account is at a limit, its credential cannot be opened
after the reservation was made, or it is returned. -/
inductive Offer | exhausted | limited | unresolved | granted
  deriving DecidableEq, Repr

/-- A candidate in routing order. -/
structure Candidate where
  access : Access
  offer : Offer
  deriving DecidableEq, Repr

/-- `ResolveGatewayAccess`: the reservations and releases on the way, and the access that is returned. -/
def acquire (excludedAccountIDs : List String) : List Candidate → List (Event Usage) × Option Access
  | [] => ([], none)
  | c :: cs =>
    if c.access.accountID ∈ excludedAccountIDs then acquire excludedAccountIDs cs
    else
      match c.offer with
      | .exhausted | .limited => acquire excludedAccountIDs cs
      | .unresolved =>
        let rest := acquire excludedAccountIDs cs
        (.resolved c.access.accountID :: .released c.access.accountID :: rest.1, rest.2)
      | .granted => ([.resolved c.access.accountID], some c.access)

def grantable (candidates : List Candidate) : List Access :=
  (candidates.filter fun c => c.offer = .granted).map Candidate.access

end Resolve

section Rounds

variable (toLower : String → String)

def gatewayModelKey (accountID model : String) : String :=
  trimSpace accountID ++ "\x00" ++ toLower (trimSpace model)

def shouldBlockPlanGatedModel (model : String) : Bool :=
  !(toLower (trimSpace model)).startsWith "gpt-image-"

/-- The answers to one pass, with what other requests have done to the protections before it. -/
structure Round (Usage : Type) where
  others : List ProtectionModel.Step
  now : ℤ
  now_valid : zeroTime ≤ now
  policy : Policy Usage
  /-- The model of the request that the policy lets through. -/
  policyModel : String
  forward : Forward Usage
  blockedAt : ℤ
  candidates : List Candidate

def Round.pass (r : Round Usage) (modelBlocked : Bool) : Pass Usage :=
  ⟨modelBlocked, r.policy, r.forward, grantable r.candidates⟩

/-- `blockModel` is called: a rejection for the plan of the account was read for a client that is still there. -/
def Round.blocks (r : Round Usage) (modelBlocked : Bool) : Bool :=
  match modelBlocked, r.policy, r.forward with
  | false, .applied, .answered response =>
    response.status = 400 && response.planGated && !response.clientGone && shouldBlockPlanGatedModel toLower r.policyModel
  | _, _, _ => false

/-- The handler: its loop until it returns, the shared protections, and all that it has done. -/
structure Handler (Usage : Type) where
  loop : Option Loop
  protections : Protection
  log : List (Event Usage)

def responsesEndpoint : Endpoint := ⟨true, true, true, true, true, true⟩

/-- A pass gives the route back only to look for the next one, so the reservations of the search follow the release. -/
def searched (search : List (Event Usage)) : Event Usage → List (Event Usage)
  | .released accountID => .released accountID :: search
  | .resolved _ => []
  | event => [event]

/-- The protections as the check of a pass finds and leaves them. -/
def Round.check (r : Round Usage) (model : String) (protections : Protection) (l : Loop) : Protection × Bool :=
  ProtectionModel.modelBlocked (r.others.foldl ProtectionModel.step ⟨protections, []⟩).state
    (gatewayModelKey toLower l.access.accountID model) r.now

def Handler.round (gatewayRequestID model : String) (h : Handler Usage) (r : Round Usage) : Handler Usage :=
  match h.loop with
  | none => h
  | some l =>
    let check := r.check toLower model h.protections l
    let protections :=
      if r.blocks toLower check.2 then
        ProtectionModel.blockModel check.1 (gatewayModelKey toLower l.access.accountID r.policyModel) r.blockedAt
      else check.1
    let search := (acquire (l.excludedAccountIDs ++ [l.access.accountID]) r.candidates).1
    match onePass responsesEndpoint gatewayRequestID (r.pass check.2) l with
    | (events, .again l') => ⟨some l', protections, h.log ++ events.flatMap (searched search)⟩
    | (events, .finish held) =>
      ⟨none, protections, h.log ++ events.flatMap (searched search) ++
        if held then [.released l.access.accountID] else []⟩

structure Request (Usage : Type) where
  headers : ClientHeaders
  candidates : List Candidate
  admitted : Bool
  pricing : Option String
  body : Body Usage
  model : String

/-- `Server.responses` up to its loop. -/
def begin (r : Request Usage) (protections : Protection) : Handler Usage :=
  match acquire [] r.candidates with
  | (search, none) => ⟨none, protections, search ++ [.responded]⟩
  | (search, some access) =>
    match if r.admitted then r.pricing else none with
    | none => ⟨none, protections, search ++ [.responded, .released access.accountID]⟩
    | some pricing =>
      let access := { access with pricing := some pricing }
      match r.body with
      | .refused usage =>
        ⟨none, protections, search ++ [.recorded ⟨.fallback (gatewayRequestID r.headers) .first, access, usage⟩,
          .responded, .released access.accountID]⟩
      | .prepared => ⟨some ⟨access, 0, [], [], fun _ => 0⟩, protections, search⟩

/-- The handler after the given number of passes. -/
def after (r : Request Usage) (protections : Protection) (world : ℕ → Round Usage) : ℕ → Handler Usage
  | 0 => begin r protections
  | n + 1 => (after r protections world n).round toLower (gatewayRequestID r.headers) r.model (world n)

end Rounds

end ShareSub.FailoverModel

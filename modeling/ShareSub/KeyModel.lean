import ShareSub.PlanDirectory

/-!
# API keys and the plans they route to

The embedding of the statements of `key_metrics.go` and `admin.go` on `api_keys` and `api_key_plans`, over the plans and
accounts of the directory. `CreateAPIKey` and `UpdateAPIKey` run under read committed: each route is a statement that reads
the plans of its own instant, and what the transaction wrote is seen once it commits. Until then it holds the row of the
key that it updates, and the rows of the plans that its routes refer to. Names, prefixes, secrets and policies of a key,
and the quota columns of a route, are left out: no statement here decides by them.
-/
namespace ShareSub.KeyModel

open PlanModel PlanSystem PlanDirectory Transaction

section Data

/-- `waiting` stands for a statement that waits for a row lock. -/
inductive KeyError
  | domain (e : DirectoryError)
  | notFound | forbidden | conflict | invalidInput | database
  | membershipRequired
  | waiting
  deriving DecidableEq, Repr

inductive Strategy | priority | balanced
  deriving DecidableEq, Repr

inductive KeyStatus | active | revoked
  deriving DecidableEq, Repr

/-- A row of `api_keys`. -/
structure APIKey where
  id : String
  userID : String
  keyHash : String
  strategy : Strategy
  status : KeyStatus
  updatedAt : ℤ
  deriving DecidableEq, Repr

/-- `domain.APIKeyRoute`. -/
structure APIKeyRoute where
  planID : String
  priority : ℤ
  enabled : Bool
  deriving DecidableEq, Repr

/-- A row of `api_key_plans`. -/
structure KeyPlan where
  apiKeyID : String
  route : APIKeyRoute
  deriving DecidableEq, Repr

def keyHashOf (k : APIKey) : Option String := some k.keyHash

def routeKey (r : KeyPlan) : String × String := (r.apiKeyID, r.route.planID)

def noIndex (_ : KeyPlan) : Option String := none

abbrev KeyTable := Table APIKey.id keyHashOf
abbrev RouteTable := Table routeKey noIndex

/-- A `CreateAPIKey` or an `UpdateAPIKey` before its commit. -/
structure KeyEdit where
  key : APIKey
  isNew : Bool
  existingRoutePlanIDs : List String
  written : List APIKeyRoute
  remaining : List APIKeyRoute
  deriving DecidableEq, Repr

/-- The users are mapped to whether their status is `active`. -/
structure Keyring where
  directory : Directory
  users : FiniteMap String Bool
  keys : KeyTable
  routes : RouteTable
  edits : List KeyEdit

/-- A transaction has updated the row and is not over. -/
def Keyring.Locked (k : Keyring) (keyID : String) : Prop := ∃ e ∈ k.edits, e.isNew = false ∧ e.key.id = keyID

instance (k : Keyring) (keyID : String) : Decidable (k.Locked keyID) :=
  inferInstanceAs (Decidable (∃ e ∈ k.edits, e.isNew = false ∧ e.key.id = keyID))

end Data

section Edits

/-- The loop of `validRoutes`. -/
def validRoutesFrom (seen : List String) : List APIKeyRoute → Bool
  | [] => true
  | route :: rest =>
    if route.planID = "" ∨ route.priority < 1 ∨ 10000 < route.priority then false
    else if route.planID ∈ seen then false
    else validRoutesFrom (route.planID :: seen) rest

def validRoutes (routes : List APIKeyRoute) : Bool :=
  if routes = [] then false else validRoutesFrom [] routes

/-- `Service.CreateAPIKey` up to the `INSERT`; a row of the same id or hash that another transaction inserts is waited
for. -/
def Keyring.createAPIKey (k : Keyring) (keyID userID keyHash : String) (strategy : Strategy)
    (routes : List APIKeyRoute) : Except KeyError Keyring := do
  ensure (validRoutes routes) .invalidInput
  ensure (k.users.lookup userID ≠ none) .database
  ensure (∀ e ∈ k.edits, e.isNew = true → e.key.id ≠ keyID ∧ e.key.keyHash ≠ keyHash) .waiting
  ensure (∀ x ∈ k.keys.rows, x.id ≠ keyID ∧ x.keyHash ≠ keyHash) .conflict
  pure { k with edits :=
    k.edits ++ [⟨⟨keyID, userID, keyHash, strategy, .active, k.directory.clock⟩, true, [], [], routes⟩] }

/-- `Service.UpdateAPIKey` up to the `DELETE`: the plans of the old routes are read under the lock of the key. -/
def Keyring.updateAPIKey (k : Keyring) (userID keyID : String) (strategy : Strategy) (routes : List APIKeyRoute) :
    Except KeyError Keyring := do
  ensure (validRoutes routes) .invalidInput
  ensure (¬ k.Locked keyID) .waiting
  let key ← orFail (k.keys.rows.find? fun x => x.id = keyID ∧ x.userID = userID) .notFound
  let existing := (k.routes.rows.filter fun r => r.apiKeyID = keyID).map fun r => r.route.planID
  pure { k with edits :=
    k.edits ++ [⟨{ key with strategy := strategy, updatedAt := k.directory.clock }, false, existing, [], routes⟩] }

/-- The plan and member that the `SELECT` of `insertAPIKeyRoutes` finds. -/
def Keyring.routeAllowed (k : Keyring) (userID : String) (existed : Bool) (route : APIKeyRoute) : Prop :=
  ∃ h ∈ k.directory.plans.lookup route.planID, (h.plan.status = .active ∨ existed = true) ∧ h.plan.accountID ≠ none ∧
    ∃ m ∈ h.plan.members.rows, m.userID = userID ∧ m.status = .active

instance (k : Keyring) (userID : String) (existed : Bool) (route : APIKeyRoute) :
    Decidable (k.routeAllowed userID existed route) :=
  decidable_of_iff ((k.directory.plans.lookup route.planID).any fun h =>
      (h.plan.status = .active ∨ existed = true) ∧ h.plan.accountID ≠ none ∧
        ∃ m ∈ h.plan.members.rows, m.userID = userID ∧ m.status = .active) (by
    rw [Option.any_eq_true]
    exact exists_congr fun h => and_congr Iff.rfl decide_eq_true_iff)

def Keyring.rollbackKey (k : Keyring) (i : ℕ) : Keyring := { k with edits := k.edits.eraseIdx i }

/-- The next turn of the loop in `insertAPIKeyRoutes`; a route that is not allowed ends the transaction. -/
def Keyring.insertRoute (k : Keyring) (i : ℕ) : Except KeyError Keyring := do
  let e ← orFail k.edits[i]? .notFound
  match e.remaining with
  | [] => .error .conflict
  | route :: rest =>
    if k.routeAllowed e.key.userID (route.planID ∈ e.existingRoutePlanIDs) route then
      pure { k with edits := k.edits.set i { e with written := e.written ++ [route], remaining := rest } }
    else pure (k.rollbackKey i)

/-- The keys once an edit is committed: an update leaves every column but two. -/
def KeyEdit.commit (e : KeyEdit) (keys : KeyTable) : Option KeyTable :=
  if e.isNew = true then keys.insert? e.key
  else keys.update? (fun x => x.id = e.key.id) fun x => { x with strategy := e.key.strategy, updatedAt := e.key.updatedAt }

def Keyring.commitKey (k : Keyring) (i : ℕ) : Except KeyError Keyring := do
  let e ← orFail k.edits[i]? .notFound
  ensure (e.remaining = []) .conflict
  let keys ← orFail (e.commit k.keys) .conflict
  let routes ← orFail (Table.ofRows? ((k.routes.delete fun r => r.apiKeyID = e.key.id).rows ++
    e.written.map fun route => ⟨e.key.id, route⟩)) .conflict
  pure { k with keys := keys, routes := routes, edits := k.edits.eraseIdx i }

end Edits

section Keys

/-- `Store.RevokeAPIKey`, of a key that is revoked already too. -/
def Keyring.revokeAPIKey (k : Keyring) (userID keyID : String) : Except KeyError Keyring := do
  ensure (¬ k.Locked keyID) .waiting
  ensure (∃ x ∈ k.keys.rows, x.id = keyID ∧ x.userID = userID) .notFound
  let keys ← orFail (k.keys.update? (fun x => x.id = keyID ∧ x.userID = userID) fun x =>
    { x with status := .revoked, updatedAt := k.directory.clock }) .database
  pure { k with keys := keys }

/-- `Store.AdminRevokeAPIKey`. -/
def Keyring.adminRevokeAPIKey (k : Keyring) (keyID : String) : Except KeyError Keyring := do
  ensure (¬ k.Locked keyID) .waiting
  ensure (∃ x ∈ k.keys.rows, x.id = keyID ∧ x.status = .active) .notFound
  let keys ← orFail (k.keys.update? (fun x => x.id = keyID ∧ x.status = .active) fun x =>
    { x with status := .revoked, updatedAt := k.directory.clock }) .database
  pure { k with keys := keys }

/-- `Store.TouchAPIKey`. -/
def Keyring.touchAPIKey (k : Keyring) (keyID : String) : Except KeyError Keyring := do
  ensure (¬ k.Locked keyID) .waiting
  let keys ← orFail (k.keys.update? (fun x => x.id = keyID) fun x => { x with updatedAt := k.directory.clock }) .database
  pure { k with keys := keys }

/-- A key that `CleanupResources` deletes; `metered` are the keys that a metric refers to. -/
def Keyring.Disposable (k : Keyring) (cutoff : ℤ) (metered : List String) (x : APIKey) : Prop :=
  x.status = .revoked ∧ x.updatedAt < cutoff ∧ x.id ∉ metered ∧ ¬ k.Locked x.id

instance (k : Keyring) (cutoff : ℤ) (metered : List String) : DecidablePred (k.Disposable cutoff metered) := fun x =>
  inferInstanceAs (Decidable (x.status = .revoked ∧ x.updatedAt < cutoff ∧ x.id ∉ metered ∧ ¬ k.Locked x.id))

/-- The deletion of keys in `CleanupResources`, with the routes that go with them. -/
def Keyring.cleanupKeys (k : Keyring) (cutoff : ℤ) (metered : List String) : Keyring :=
  { k with
    keys := k.keys.delete (k.Disposable cutoff metered)
    routes := k.routes.delete fun r => ∃ x ∈ k.keys.rows, k.Disposable cutoff metered x ∧ x.id = r.apiKeyID }

end Keys

section Routing

/-- A row of the query in `ResolveGatewayRoutes`. -/
structure RouteCandidate where
  priority : ℤ
  planCreatedAt : ℤ
  planID : String
  memberID : String
  userID : String
  accountID : String
  accountBindingGeneration : ℤ
  deriving DecidableEq, Repr

/-- The rows that the joins give for one route. -/
def Keyring.routeCandidates (k : Keyring) (key : APIKey) (r : KeyPlan) : List RouteCandidate :=
  match k.directory.plans.lookup r.route.planID with
  | none => []
  | some h =>
    match h.plan.accountID with
    | none => []
    | some accountID =>
      match k.directory.accounts.lookup accountID with
      | none => []
      | some a =>
        if h.plan.status = .active ∧ k.users.lookup key.userID = some true ∧ a.active = true then
          (h.plan.members.rows.filter fun m => m.userID = key.userID ∧ m.status = .active).map fun m =>
            ⟨r.route.priority, h.plan.createdAt, r.route.planID, m.id, m.userID, accountID,
              h.plan.accountBindingGeneration⟩
        else []

/-- `ORDER BY r.priority,p.created_at`. -/
def routesFirst (c c' : RouteCandidate) : Bool :=
  c.priority < c'.priority ∨ c.priority = c'.priority ∧ c.planCreatedAt ≤ c'.planCreatedAt

/-- `Store.ResolveGatewayRoutes`; `billed` tells that billing has started and the user has no membership. -/
def Keyring.resolveGatewayRoutes (k : Keyring) (billed : String → Bool) (keyHash : String) :
    Except KeyError (APIKey × List RouteCandidate) := do
  let key ← orFail (k.keys.rows.find? fun x => x.keyHash = keyHash ∧ x.status = .active) .notFound
  ensure (billed key.userID = false) .membershipRequired
  let rows := (k.routes.rows.filter fun r => r.apiKeyID = key.id ∧ r.route.enabled = true).flatMap (k.routeCandidates key)
  pure (key, rows.mergeSort routesFirst)

end Routing

section Steps

inductive KeyOp
  | directory (op : DirectoryOp)
  | createUser (userID : String)
  | updateUserStatus (userID : String) (active : Bool)
  | updateAccountStatus (accountID : String) (active : Bool)
  | createAPIKey (keyID userID keyHash : String) (strategy : Strategy) (routes : List APIKeyRoute)
  | updateAPIKey (userID keyID : String) (strategy : Strategy) (routes : List APIKeyRoute)
  | insertRoute (i : ℕ)
  | commitKey (i : ℕ)
  | rollbackKey (i : ℕ)
  | revokeAPIKey (userID keyID : String)
  | adminRevokeAPIKey (keyID : String)
  | touchAPIKey (keyID : String)
  | cleanupKeys (cutoff : ℤ) (metered : List String)

/-- A plan that is deleted takes its routes along, and waits for the transactions that refer to it. The operations that
lock the row of a plan wait as well; here they go on, so that there are more interleavings. -/
def Keyring.directoryOp (k : Keyring) (op : DirectoryOp) : Except KeyError Keyring := do
  let d ← (directoryStep k.directory op).mapError .domain
  match op with
  | .deletePlan planID _ =>
    ensure (∀ e ∈ k.edits, ∀ route ∈ e.written, route.planID ≠ planID) .waiting
    pure { k with directory := d, routes := k.routes.delete fun r => r.route.planID = planID }
  | _ => pure { k with directory := d }

def Keyring.createUser (k : Keyring) (userID : String) : Except KeyError Keyring := do
  ensure (k.users.lookup userID = none) .conflict
  pure { k with users := k.users.insert userID true }

/-- `Store.AdminUpdateUserStatus`, as far as it concerns the routes. -/
def Keyring.updateUserStatus (k : Keyring) (userID : String) (active : Bool) : Except KeyError Keyring := do
  ensure (k.users.lookup userID ≠ none) .notFound
  pure { k with users := k.users.insert userID active }

/-- `Store.AdminUpdateAccountStatus`, and the other statements that write only the status of an account. -/
def Keyring.updateAccountStatus (k : Keyring) (accountID : String) (active : Bool) : Except KeyError Keyring := do
  ensure (¬ k.directory.Locked accountID) .waiting
  let a ← orFail (k.directory.accounts.lookup accountID) .notFound
  pure { k with directory :=
    { k.directory with accounts := k.directory.accounts.insert accountID { a with active := active } } }

def keyStep (k : Keyring) : KeyOp → Except KeyError Keyring
  | .directory op => k.directoryOp op
  | .createUser userID => k.createUser userID
  | .updateUserStatus userID active => k.updateUserStatus userID active
  | .updateAccountStatus accountID active => k.updateAccountStatus accountID active
  | .createAPIKey keyID userID keyHash strategy routes => k.createAPIKey keyID userID keyHash strategy routes
  | .updateAPIKey userID keyID strategy routes => k.updateAPIKey userID keyID strategy routes
  | .insertRoute i => k.insertRoute i
  | .commitKey i => k.commitKey i
  | .rollbackKey i => .ok (k.rollbackKey i)
  | .revokeAPIKey userID keyID => k.revokeAPIKey userID keyID
  | .adminRevokeAPIKey keyID => k.adminRevokeAPIKey keyID
  | .touchAPIKey keyID => k.touchAPIKey keyID
  | .cleanupKeys cutoff metered => .ok (k.cleanupKeys cutoff metered)

def emptyKeyring (clock : ℤ) : Keyring := ⟨emptyDirectory clock, ∅, Table.empty, Table.empty, []⟩

/-- The states that committed steps lead to. -/
def KeyRun (clock : ℤ) : List KeyOp → Keyring → Prop :=
  Run (fun k op k' => keyStep k op = .ok k') (emptyKeyring clock)

end Steps

end ShareSub.KeyModel

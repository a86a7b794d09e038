import ShareSub.KeyModel
import ShareSub.PlanBinding
import ShareSub.PlanDecisions
import ShareSub.PlanOwnership

/-!
# What an API key lets through

Every candidate that a key is routed to is a plan its user is a member of, once for each plan and account; a revoked key
is not found again, and a member who is out of a plan has no way into it but an invite or an application.
-/
namespace ShareSub.KeySafety

open PlanModel PlanSystem PlanDirectory PlanBinding KeyModel Evolution Transaction

section Changes

/-- What a transaction does to the row of a key. -/
structure KeyMove (x x' : APIKey) : Prop where
  id : x'.id = x.id
  userID : x'.userID = x.userID
  keyHash : x'.keyHash = x.keyHash
  revoked : x.status = .revoked → x'.status = .revoked

lemma KeyMove.refl (x : APIKey) : KeyMove x x := ⟨rfl, rfl, rfl, fun h => h⟩

def creates (keyHash : String) (op : KeyOp) : Prop :=
  ∃ keyID userID strategy routes, op = .createAPIKey keyID userID keyHash strategy routes

/-- A new row that neither a committed row nor a pending one is in the way of. -/
structure FreshKey (k : Keyring) (x : APIKey) : Prop where
  edits : ∀ e ∈ k.edits, e.isNew = true → e.key.id ≠ x.id ∧ e.key.keyHash ≠ x.keyHash
  keys : ∀ y ∈ k.keys.rows, y.id ≠ x.id ∧ y.keyHash ≠ x.keyHash

inductive KeyChange (op : KeyOp) (k k' : Keyring) : Prop
  | elsewhere (hplans : ∀ id, k.directory.plans.lookup id ≠ none → k'.directory.plans.lookup id ≠ none)
      (hkeys : k'.keys = k.keys) (hroutes : k'.routes = k.routes) (hedits : k'.edits = k.edits)
  | planDeleted {planID : String}
      (hplans : ∀ id, id ≠ planID → k.directory.plans.lookup id ≠ none → k'.directory.plans.lookup id ≠ none)
      (hfree : ∀ e ∈ k.edits, ∀ route ∈ e.written, route.planID ≠ planID)
      (hkeys : k'.keys = k.keys) (hroutes : k'.routes = k.routes.delete fun r => r.route.planID = planID)
      (hedits : k'.edits = k.edits)
  | started {e : KeyEdit} (hplans : k'.directory.plans = k.directory.plans) (hwritten : e.written = [])
      (hvalid : validRoutes e.remaining = true) (hnew : e.isNew = true → creates e.key.keyHash op ∧ FreshKey k e.key)
      (hheld : e.isNew = false → ∃ x ∈ k.keys.rows, x.id = e.key.id) (hkeys : k'.keys = k.keys)
      (hroutes : k'.routes = k.routes) (hedits : k'.edits = k.edits ++ [e])
  | routed {i : ℕ} {e : KeyEdit} {route : APIKeyRoute} {rest : List APIKeyRoute}
      (hplans : k'.directory.plans = k.directory.plans) (he : k.edits[i]? = some e)
      (hrest : e.remaining = route :: rest) (hplan : k.directory.plans.lookup route.planID ≠ none)
      (hkeys : k'.keys = k.keys) (hroutes : k'.routes = k.routes)
      (hedits : k'.edits = k.edits.set i { e with written := e.written ++ [route], remaining := rest })
  | ended {i : ℕ} (hplans : k'.directory.plans = k.directory.plans) (hkeys : k'.keys = k.keys)
      (hroutes : k'.routes = k.routes) (hedits : k'.edits = k.edits.eraseIdx i)
  | committed {i : ℕ} {e : KeyEdit} (hplans : k'.directory.plans = k.directory.plans) (he : k.edits[i]? = some e)
      (hdone : e.remaining = []) (hkeys : e.commit k.keys = some k'.keys)
      (hroutes : k'.routes.rows = (k.routes.rows.filter fun r => ¬ r.apiKeyID = e.key.id) ++
        e.written.map fun route => ⟨e.key.id, route⟩) (hedits : k'.edits = k.edits.eraseIdx i)
  | marked (hplans : k'.directory.plans = k.directory.plans)
      (hkeys : Evolves KeyMove (fun _ => False) (fun _ => False) k.keys.rows k'.keys.rows)
      (hroutes : k'.routes = k.routes) (hedits : k'.edits = k.edits)
  | cleaned {cutoff : ℤ} {metered : List String} (hnew : k' = k.cleanupKeys cutoff metered)

variable {k k' : Keyring} {op : KeyOp}

lemma evolves_mark {q : APIKey → Prop} [DecidablePred q] {g : APIKey → APIKey} {keys keys' : KeyTable}
    (h : keys.update? q g = some keys') (hg : ∀ x, KeyMove x (g x)) :
    Evolves KeyMove (fun _ => False) (fun _ => False) keys.rows keys'.rows := by
  rw [Table.rows_of_update? h]
  exact evolves_update KeyMove.refl fun x _ _ => hg x

lemma directoryOp_change {dop : DirectoryOp} (h : k.directoryOp dop = .ok k') :
    KeyChange (.directory dop) k k' ∧ directoryStep k.directory dop = .ok k'.directory := by
  unfold Keyring.directoryOp at h
  obtain ⟨d, hd, h⟩ := bind_eq_ok.mp h
  have hstep := mapError_eq_ok.mp hd
  split at h
  · simp only [check_bind_eq_ok, ensure_eq_ok, commit_eq_ok] at h
    obtain ⟨hfree, rfl⟩ := h
    refine ⟨.planDeleted (fun id hne hold => plan_stays hstep ?_ hold) hfree rfl rfl rfl, hstep⟩
    intro ownerID heq
    cases heq
    exact hne rfl
  · next hother =>
    simp only [commit_eq_ok] at h
    subst h
    refine ⟨.elsewhere (fun id hold => plan_stays hstep ?_ hold) rfl rfl rfl, hstep⟩
    intro ownerID heq
    exact hother id ownerID heq

lemma insertRoute_change {i : ℕ} (h : k.insertRoute i = .ok k') : KeyChange (.insertRoute i) k k' := by
  simp only [Keyring.insertRoute, orFail_bind_eq_ok] at h
  obtain ⟨e, he, h⟩ := h
  split at h
  · cases h
  · next route rest hrest =>
    split at h
    · next hallowed =>
      simp only [commit_eq_ok] at h
      subst h
      obtain ⟨p, hp, -⟩ := hallowed
      exact .routed rfl he hrest (by simp [Option.mem_def.mp hp]) rfl rfl rfl
    · simp only [commit_eq_ok] at h
      subst h
      exact .ended rfl rfl rfl rfl

lemma commitKey_change {i : ℕ} (h : k.commitKey i = .ok k') : KeyChange (.commitKey i) k k' := by
  simp only [Keyring.commitKey, orFail_bind_eq_ok, check_bind_eq_ok, ensure_eq_ok, commit_eq_ok] at h
  obtain ⟨e, he, hdone, keys, hkeys, routes, hroutes, rfl⟩ := h
  exact .committed rfl he hdone hkeys (Table.rows_of_ofRows? hroutes) rfl

/-- What a committed statement does to the keys, their routes and the transactions. -/
lemma keyStep_change (h : keyStep k op = .ok k') : KeyChange op k k' := by
  cases op with
  | directory dop => exact (directoryOp_change h).1
  | createUser userID =>
    simp only [keyStep, Keyring.createUser, check_bind_eq_ok, commit_eq_ok] at h
    obtain ⟨-, rfl⟩ := h
    exact .elsewhere (fun _ hold => hold) rfl rfl rfl
  | updateUserStatus userID active =>
    simp only [keyStep, Keyring.updateUserStatus, check_bind_eq_ok, commit_eq_ok] at h
    obtain ⟨-, rfl⟩ := h
    exact .elsewhere (fun _ hold => hold) rfl rfl rfl
  | updateAccountStatus accountID active =>
    simp only [keyStep, Keyring.updateAccountStatus, check_bind_eq_ok, orFail_bind_eq_ok, commit_eq_ok] at h
    obtain ⟨-, a, -, rfl⟩ := h
    exact .elsewhere (fun _ hold => hold) rfl rfl rfl
  | createAPIKey keyID userID keyHash strategy routes =>
    simp only [keyStep, Keyring.createAPIKey, check_bind_eq_ok, ensure_eq_ok, commit_eq_ok] at h
    obtain ⟨hvalid, -, hwait, hconflict, rfl⟩ := h
    exact .started rfl rfl hvalid (fun _ => ⟨⟨keyID, userID, strategy, routes, rfl⟩, hwait, hconflict⟩) (fun hold => by cases hold)
      rfl rfl rfl
  | updateAPIKey userID keyID strategy routes =>
    simp only [keyStep, Keyring.updateAPIKey, check_bind_eq_ok, ensure_eq_ok, orFail_bind_eq_ok, commit_eq_ok] at h
    obtain ⟨hvalid, -, key, hfind, rfl⟩ := h
    exact .started rfl rfl hvalid (fun hnew => by cases hnew) (fun _ => ⟨key, List.mem_of_find?_eq_some hfind, rfl⟩) rfl rfl rfl
  | insertRoute => exact insertRoute_change h
  | commitKey => exact commitKey_change h
  | rollbackKey i =>
    cases h
    exact .ended rfl rfl rfl rfl
  | revokeAPIKey userID keyID =>
    simp only [keyStep, Keyring.revokeAPIKey, check_bind_eq_ok, orFail_bind_eq_ok, commit_eq_ok] at h
    obtain ⟨-, -, keys, hupdate, rfl⟩ := h
    exact .marked rfl (evolves_mark hupdate fun x => ⟨rfl, rfl, rfl, fun _ => rfl⟩) rfl rfl
  | adminRevokeAPIKey keyID =>
    simp only [keyStep, Keyring.adminRevokeAPIKey, check_bind_eq_ok, orFail_bind_eq_ok, commit_eq_ok] at h
    obtain ⟨-, -, keys, hupdate, rfl⟩ := h
    exact .marked rfl (evolves_mark hupdate fun x => ⟨rfl, rfl, rfl, fun _ => rfl⟩) rfl rfl
  | touchAPIKey keyID =>
    simp only [keyStep, Keyring.touchAPIKey, check_bind_eq_ok, orFail_bind_eq_ok, commit_eq_ok] at h
    obtain ⟨-, keys, hupdate, rfl⟩ := h
    exact .marked rfl (evolves_mark hupdate fun x => ⟨rfl, rfl, rfl, fun hrevoked => hrevoked⟩) rfl rfl
  | cleanupKeys cutoff metered =>
    cases h
    exact .cleaned rfl

/-- Only an operation of the directory changes the plans. -/
lemma keyStep_plans (h : keyStep k op = .ok k') :
    k'.directory.plans = k.directory.plans ∨
      ∃ dop, op = .directory dop ∧ directoryStep k.directory dop = .ok k'.directory := by
  cases op with
  | directory dop => exact Or.inr ⟨dop, rfl, (directoryOp_change h).2⟩
  | createUser userID =>
    simp only [keyStep, Keyring.createUser, check_bind_eq_ok, commit_eq_ok] at h
    obtain ⟨-, rfl⟩ := h
    exact Or.inl rfl
  | updateUserStatus userID active =>
    simp only [keyStep, Keyring.updateUserStatus, check_bind_eq_ok, commit_eq_ok] at h
    obtain ⟨-, rfl⟩ := h
    exact Or.inl rfl
  | updateAccountStatus accountID active =>
    simp only [keyStep, Keyring.updateAccountStatus, check_bind_eq_ok, orFail_bind_eq_ok, commit_eq_ok] at h
    obtain ⟨-, a, -, rfl⟩ := h
    exact Or.inl rfl
  | createAPIKey keyID userID keyHash strategy routes =>
    simp only [keyStep, Keyring.createAPIKey, check_bind_eq_ok, commit_eq_ok] at h
    obtain ⟨-, -, -, -, rfl⟩ := h
    exact Or.inl rfl
  | updateAPIKey userID keyID strategy routes =>
    simp only [keyStep, Keyring.updateAPIKey, check_bind_eq_ok, orFail_bind_eq_ok, commit_eq_ok] at h
    obtain ⟨-, -, key, -, rfl⟩ := h
    exact Or.inl rfl
  | insertRoute i =>
    simp only [keyStep, Keyring.insertRoute, orFail_bind_eq_ok] at h
    obtain ⟨e, -, h⟩ := h
    split at h
    · cases h
    · split at h
      · cases h
        exact Or.inl rfl
      · cases h
        exact Or.inl rfl
  | commitKey i =>
    simp only [keyStep, Keyring.commitKey, orFail_bind_eq_ok, check_bind_eq_ok, commit_eq_ok] at h
    obtain ⟨e, -, -, keys, -, routes, -, rfl⟩ := h
    exact Or.inl rfl
  | rollbackKey i =>
    cases h
    exact Or.inl rfl
  | revokeAPIKey userID keyID =>
    simp only [keyStep, Keyring.revokeAPIKey, check_bind_eq_ok, orFail_bind_eq_ok, commit_eq_ok] at h
    obtain ⟨-, -, keys, -, rfl⟩ := h
    exact Or.inl rfl
  | adminRevokeAPIKey keyID =>
    simp only [keyStep, Keyring.adminRevokeAPIKey, check_bind_eq_ok, orFail_bind_eq_ok, commit_eq_ok] at h
    obtain ⟨-, -, keys, -, rfl⟩ := h
    exact Or.inl rfl
  | touchAPIKey keyID =>
    simp only [keyStep, Keyring.touchAPIKey, check_bind_eq_ok, orFail_bind_eq_ok, commit_eq_ok] at h
    obtain ⟨-, keys, -, rfl⟩ := h
    exact Or.inl rfl
  | cleanupKeys cutoff metered =>
    cases h
    exact Or.inl rfl

end Changes

section Integrity

variable {k k' : Keyring} {op : KeyOp}

def KeyEdit.head (e : KeyEdit) : Bool × APIKey := (e.isNew, e.key)

def Apart (a b : Bool × APIKey) : Prop := a.1 = true → b.1 = true → a.2.id ≠ b.2.id ∧ a.2.keyHash ≠ b.2.keyHash

lemma Apart.symm {a b : Bool × APIKey} (h : Apart a b) : Apart b a := fun hb ha => ⟨(h ha hb).1.symm, (h ha hb).2.symm⟩

/-- A key that is being inserted differs from all others. -/
structure EditsApart (k : Keyring) : Prop where
  fresh : ∀ e ∈ k.edits, e.isNew = true → ∀ x ∈ k.keys.rows, x.id ≠ e.key.id ∧ x.keyHash ≠ e.key.keyHash
  apart : (k.edits.map KeyEdit.head).Pairwise Apart

lemma mem_of_mem_set {α : Type*} {xs : List α} {i : ℕ} {x y : α} (h : x ∈ xs.set i y) : x ∈ xs ∨ x = y :=
  List.mem_or_eq_of_mem_set h

lemma head_set {edits : List KeyEdit} {i : ℕ} {e : KeyEdit} (e' : KeyEdit) (he : edits[i]? = some e)
    (hhead : KeyEdit.head e' = KeyEdit.head e) : (edits.set i e').map KeyEdit.head = edits.map KeyEdit.head := by
  apply List.ext_getElem?
  intro j
  rw [List.getElem?_map, List.getElem?_map, List.getElem?_set]
  by_cases hij : i = j
  · subst hij
    obtain ⟨hi, rfl⟩ := List.getElem?_eq_some_iff.mp he
    simp [hi, hhead]
  · simp [hij]

/-- The other transactions differ from the one that is taken out. -/
lemma apart_eraseIdx {edits : List KeyEdit} {i : ℕ} {e e' : KeyEdit} (h : (edits.map KeyEdit.head).Pairwise Apart)
    (he : edits[i]? = some e) (he' : e' ∈ edits.eraseIdx i) : Apart (KeyEdit.head e) (KeyEdit.head e') := by
  obtain ⟨hi, rfl⟩ := List.getElem?_eq_some_iff.mp he
  have hperm : (edits[i] :: edits.eraseIdx i).Perm edits := List.getElem_cons_eraseIdx_perm hi
  have hall := (hperm.map KeyEdit.head).pairwise_iff (fun {a b} => Apart.symm) |>.mpr h
  exact (List.pairwise_cons.mp hall).1 _ (List.mem_map_of_mem he')

lemma commit_keys {e : KeyEdit} {keys keys' : KeyTable} (h : e.commit keys = some keys') :
    (e.isNew = true ∧ keys'.rows = keys.rows ++ [e.key]) ∨
      e.isNew = false ∧ Evolves KeyMove (fun _ => False) (fun _ => False) keys.rows keys'.rows := by
  unfold KeyEdit.commit at h
  split at h
  · next hnew => exact Or.inl ⟨hnew, Table.rows_of_insert? h⟩
  · next hold => exact Or.inr ⟨by simpa using hold, evolves_mark h fun x => ⟨rfl, rfl, rfl, fun hrevoked => hrevoked⟩⟩

/-- A row that has moved still differs from a key that is being inserted. -/
lemma apart_of_moves {keys keys' : List APIKey} {y : APIKey}
    (h : Evolves KeyMove (fun _ => False) (fun _ => False) keys keys')
    (hy : ∀ x ∈ keys, x.id ≠ y.id ∧ x.keyHash ≠ y.keyHash) : ∀ x ∈ keys', x.id ≠ y.id ∧ x.keyHash ≠ y.keyHash := by
  refine h.forall_rows hy ?_ fun _ hf => hf.elim
  intro x x' hx hmove
  rw [hmove.id, hmove.keyHash]
  exact hx

lemma KeyChange.apart (h : KeyChange op k k') (hk : EditsApart k) : EditsApart k' := by
  cases h with
  | elsewhere _ hkeys _ hedits => exact ⟨by rw [hkeys, hedits]; exact hk.fresh, by rw [hedits]; exact hk.apart⟩
  | planDeleted _ _ hkeys _ hedits => exact ⟨by rw [hkeys, hedits]; exact hk.fresh, by rw [hedits]; exact hk.apart⟩
  | @started e _ _ _ hnew _ hkeys _ hedits =>
    constructor
    · rw [hkeys, hedits]
      intro e' he' hisNew
      rcases List.mem_append.mp he' with hold | hlast
      · exact hk.fresh e' hold hisNew
      · rw [List.mem_singleton.mp hlast] at hisNew ⊢
        exact (hnew hisNew).2.keys
    · rw [hedits, List.map_append, List.pairwise_append]
      refine ⟨hk.apart, by simp, ?_⟩
      intro a ha b hb
      obtain ⟨e', he', rfl⟩ := List.mem_map.mp ha
      obtain rfl : b = KeyEdit.head e := by simpa using hb
      intro hisNew' hisNew
      exact (hnew hisNew).2.edits e' he' hisNew'
  | @routed i e _ _ _ he _ _ hkeys _ hedits =>
    constructor
    · rw [hkeys, hedits]
      intro e' he' hisNew
      rcases mem_of_mem_set he' with hold | rfl
      · exact hk.fresh e' hold hisNew
      · exact hk.fresh e (List.mem_of_getElem? he) hisNew
    · rw [(congrArg (List.map KeyEdit.head) hedits).trans (head_set _ he rfl)]
      exact hk.apart
  | @ended i _ hkeys _ hedits =>
    constructor
    · rw [hkeys, hedits]
      exact fun e' he' => hk.fresh e' (List.eraseIdx_subset he')
    · rw [hedits]
      exact hk.apart.sublist ((List.eraseIdx_sublist _ _).map _)
  | @committed i e _ he _ hkeys _ hedits =>
    constructor
    · rw [hedits]
      intro e' he' hisNew
      have hold := hk.fresh e' (List.eraseIdx_subset he') hisNew
      rcases commit_keys hkeys with ⟨hnew, hrows⟩ | ⟨-, hmoves⟩
      · rw [hrows]
        intro x hx
        rcases List.mem_append.mp hx with hx | hx
        · exact hold x hx
        · rw [List.mem_singleton.mp hx]
          exact apart_eraseIdx hk.apart he he' hnew hisNew
      · exact apart_of_moves hmoves hold
    · rw [hedits]
      exact hk.apart.sublist ((List.eraseIdx_sublist _ _).map _)
  | marked _ hkeys _ hedits =>
    constructor
    · rw [hedits]
      exact fun e' he' hisNew => apart_of_moves hkeys (hk.fresh e' he' hisNew)
    · rw [hedits]
      exact hk.apart
  | cleaned hnew =>
    subst hnew
    exact ⟨fun e he hisNew x hx => hk.fresh e he hisNew x (List.mem_filter.mp hx).1, hk.apart⟩

def routeInRange (route : APIKeyRoute) : Prop := 1 ≤ route.priority ∧ route.priority ≤ 10000

lemma validRoutesFrom_range {seen : List String} {routes : List APIKeyRoute} (h : validRoutesFrom seen routes = true) :
    ∀ route ∈ routes, routeInRange route := by
  induction routes generalizing seen with
  | nil => simp
  | cons route rest ih =>
    unfold validRoutesFrom at h
    split_ifs at h with hbad hseen
    intro route' hroute'
    rcases List.mem_cons.mp hroute' with rfl | hrest
    · simp only [not_or, not_lt] at hbad
      exact hbad.2
    · exact ih h route' hrest

lemma validRoutes_range {routes : List APIKeyRoute} (h : validRoutes routes = true) :
    ∀ route ∈ routes, routeInRange route := by
  unfold validRoutes at h
  split_ifs at h
  exact validRoutesFrom_range h

/-- No route, written or committed, refers to a key or a plan that is missing. -/
structure RoutesPlaced (k : Keyring) : Prop where
  held : ∀ e ∈ k.edits, e.isNew = false → ∃ x ∈ k.keys.rows, x.id = e.key.id
  pending : ∀ e ∈ k.edits, ∀ route ∈ e.written ++ e.remaining, routeInRange route
  written : ∀ e ∈ k.edits, ∀ route ∈ e.written, k.directory.plans.lookup route.planID ≠ none
  ranges : ∀ r ∈ k.routes.rows, routeInRange r.route
  owned : ∀ r ∈ k.routes.rows, ∃ x ∈ k.keys.rows, x.id = r.apiKeyID
  placed : ∀ r ∈ k.routes.rows, k.directory.plans.lookup r.route.planID ≠ none

lemma id_of_moves {keys keys' : List APIKey} {id : String}
    (h : Evolves KeyMove (fun _ => False) (fun _ => False) keys keys') (hid : ∃ x ∈ keys, x.id = id) :
    ∃ x ∈ keys', x.id = id := by
  obtain ⟨x, hx, rfl⟩ := hid
  rcases h.fate x hx with ⟨x', hx', hmove⟩ | hfalse
  · exact ⟨x', hx', hmove.id⟩
  · exact hfalse.elim

lemma id_of_commit {e : KeyEdit} {keys keys' : KeyTable} {id : String} (h : e.commit keys = some keys')
    (hid : (∃ x ∈ keys.rows, x.id = id) ∨ e.isNew = true ∧ e.key.id = id) : ∃ x ∈ keys'.rows, x.id = id := by
  rcases commit_keys h with ⟨hnew, hrows⟩ | ⟨hold, hmoves⟩
  · rw [hrows]
    rcases hid with ⟨x, hx, hxid⟩ | ⟨-, rfl⟩
    · exact ⟨x, List.mem_append_left _ hx, hxid⟩
    · exact ⟨e.key, by simp, rfl⟩
  · rcases hid with hid | ⟨hnew, -⟩
    · exact id_of_moves hmoves hid
    · rw [hold] at hnew
      cases hnew

lemma KeyChange.placed (h : KeyChange op k k') (hk : RoutesPlaced k) : RoutesPlaced k' := by
  cases h with
  | elsewhere hplans hkeys hroutes hedits =>
    constructor
    · rw [hkeys, hedits]; exact hk.held
    · rw [hedits]; exact hk.pending
    · rw [hedits]; exact fun e he route hroute => hplans _ (hk.written e he route hroute)
    · rw [hroutes]; exact hk.ranges
    · rw [hkeys, hroutes]; exact hk.owned
    · rw [hroutes]; exact fun r hr => hplans _ (hk.placed r hr)
  | @planDeleted planID hplans hfree hkeys hroutes hedits =>
    have hsub : ∀ r ∈ k'.routes.rows, r ∈ k.routes.rows ∧ r.route.planID ≠ planID := by
      intro r hr
      rw [hroutes] at hr
      simpa using hr
    constructor
    · rw [hkeys, hedits]; exact hk.held
    · rw [hedits]; exact hk.pending
    · rw [hedits]; exact fun e he route hroute => hplans _ (hfree e he route hroute) (hk.written e he route hroute)
    · exact fun r hr => hk.ranges r (hsub r hr).1
    · rw [hkeys]; exact fun r hr => hk.owned r (hsub r hr).1
    · exact fun r hr => hplans _ (hsub r hr).2 (hk.placed r (hsub r hr).1)
  | @started e hplans hwritten hvalid _ hheld hkeys hroutes hedits =>
    have hmem : ∀ e' ∈ k'.edits, e' ∈ k.edits ∨ e' = e := by
      intro e' he'
      rw [hedits] at he'
      simpa using he'
    constructor
    · rw [hkeys]
      intro e' he'
      rcases hmem e' he' with hold | rfl
      · exact hk.held e' hold
      · exact hheld
    · intro e' he'
      rcases hmem e' he' with hold | rfl
      · exact hk.pending e' hold
      · rw [hwritten, List.nil_append]
        exact validRoutes_range hvalid
    · rw [hplans]
      intro e' he'
      rcases hmem e' he' with hold | rfl
      · exact hk.written e' hold
      · simp [hwritten]
    · rw [hroutes]; exact hk.ranges
    · rw [hkeys, hroutes]; exact hk.owned
    · rw [hplans, hroutes]; exact hk.placed
  | @routed i e route rest hplans he hrest hplan hkeys hroutes hedits =>
    have hold := List.mem_of_getElem? he
    constructor
    · rw [hkeys, hedits]
      intro e' he'
      rcases mem_of_mem_set he' with he' | rfl
      · exact hk.held e' he'
      · exact hk.held e hold
    · rw [hedits]
      intro e' he'
      rcases mem_of_mem_set he' with he' | rfl
      · exact hk.pending e' he'
      · have hpending := hk.pending e hold
        rw [hrest] at hpending
        simpa using hpending
    · rw [hplans, hedits]
      intro e' he' route' hroute'
      rcases mem_of_mem_set he' with he' | rfl
      · exact hk.written e' he' route' hroute'
      · rcases List.mem_append.mp hroute' with hroute' | hroute'
        · exact hk.written e hold route' hroute'
        · rw [List.mem_singleton.mp hroute']
          exact hplan
    · rw [hroutes]; exact hk.ranges
    · rw [hkeys, hroutes]; exact hk.owned
    · rw [hplans, hroutes]; exact hk.placed
  | ended hplans hkeys hroutes hedits =>
    constructor
    · rw [hkeys, hedits]; exact fun e he => hk.held e (List.eraseIdx_subset he)
    · rw [hedits]; exact fun e he => hk.pending e (List.eraseIdx_subset he)
    · rw [hplans, hedits]; exact fun e he => hk.written e (List.eraseIdx_subset he)
    · rw [hroutes]; exact hk.ranges
    · rw [hkeys, hroutes]; exact hk.owned
    · rw [hplans, hroutes]; exact hk.placed
  | @committed i e hplans he hdone hkeys hroutes hedits =>
    have hold := List.mem_of_getElem? he
    have hmem : ∀ r ∈ k'.routes.rows, r ∈ k.routes.rows ∨ ∃ route ∈ e.written, r = ⟨e.key.id, route⟩ := by
      intro r hr
      rw [hroutes] at hr
      rcases List.mem_append.mp hr with hr | hr
      · exact Or.inl (List.mem_filter.mp hr).1
      · obtain ⟨route, hroute, rfl⟩ := List.mem_map.mp hr
        exact Or.inr ⟨route, hroute, rfl⟩
    constructor
    · rw [hedits]
      exact fun e' he' hisNew => id_of_commit hkeys (Or.inl (hk.held e' (List.eraseIdx_subset he') hisNew))
    · rw [hedits]; exact fun e he => hk.pending e (List.eraseIdx_subset he)
    · rw [hplans, hedits]; exact fun e he => hk.written e (List.eraseIdx_subset he)
    · intro r hr
      rcases hmem r hr with hr | ⟨route, hroute, rfl⟩
      · exact hk.ranges r hr
      · exact hk.pending e hold route (List.mem_append_left _ hroute)
    · intro r hr
      rcases hmem r hr with hr | ⟨route, hroute, rfl⟩
      · exact id_of_commit hkeys (Or.inl (hk.owned r hr))
      · cases hisNew : e.isNew with
        | true => exact id_of_commit hkeys (Or.inr ⟨hisNew, rfl⟩)
        | false => exact id_of_commit hkeys (Or.inl (hk.held e hold hisNew))
    · rw [hplans]
      intro r hr
      rcases hmem r hr with hr | ⟨route, hroute, rfl⟩
      · exact hk.placed r hr
      · exact hk.written e hold route hroute
  | marked hplans hkeys hroutes hedits =>
    constructor
    · rw [hedits]; exact fun e he hisNew => id_of_moves hkeys (hk.held e he hisNew)
    · rw [hedits]; exact hk.pending
    · rw [hplans, hedits]; exact hk.written
    · rw [hroutes]; exact hk.ranges
    · rw [hroutes]; exact fun r hr => id_of_moves hkeys (hk.owned r hr)
    · rw [hplans, hroutes]; exact hk.placed
  | @cleaned cutoff metered hnew =>
    subst hnew
    -- A key that a transaction has locked is not disposable.
    refine ⟨?_, hk.pending, hk.written, fun r hr => hk.ranges r (List.mem_filter.mp hr).1, ?_,
      fun r hr => hk.placed r (List.mem_filter.mp hr).1⟩
    · intro e he hisNew
      obtain ⟨x, hx, hid⟩ := hk.held e he hisNew
      refine ⟨x, List.mem_filter.mpr ⟨hx, ?_⟩, hid⟩
      have hlocked : k.Locked x.id := ⟨e, he, hisNew, hid.symm⟩
      simp [Keyring.Disposable, hlocked]
    · intro r hr
      obtain ⟨hr, hkept⟩ := List.mem_filter.mp hr
      obtain ⟨x, hx, hid⟩ := hk.owned r hr
      refine ⟨x, List.mem_filter.mpr ⟨hx, ?_⟩, hid⟩
      have hkept := of_decide_eq_true hkept
      exact decide_eq_true fun hgone => hkept ⟨x, hx, hgone, hid⟩

variable {clock : ℤ} {ops : List KeyOp}

lemma run_apart (hrun : KeyRun clock ops k) : EditsApart k := by
  refine Run.invariant hrun ⟨by simp [emptyKeyring], by simp [emptyKeyring]⟩ ?_
  exact fun u op v hu hstep => (keyStep_change hstep).apart hu

lemma run_placed (hrun : KeyRun clock ops k) : RoutesPlaced k := by
  refine Run.invariant hrun ?_ fun u op v hu hstep => (keyStep_change hstep).placed hu
  constructor <;> simp [emptyKeyring]

end Integrity

section Routing

variable {k k' : Keyring} {clock : ℤ} {ops : List KeyOp} {key : APIKey} {r : KeyPlan} {c : RouteCandidate}

lemma boundOnce_of_plans {d d' : Directory} (h : d'.plans = d.plans) (hd : BoundOnce d) : BoundOnce d' := by
  constructor
  · rw [h]
    exact hd.unique
  · rw [h]
    exact hd.generation

lemma run_bound (hrun : KeyRun clock ops k) : BoundOnce k.directory := by
  refine Run.invariant (I := fun u => BoundOnce u.directory) hrun ?_ ?_
  · constructor
    · intro id id' h h' accountID hlookup
      cases hlookup
    · intro id h hlookup
      cases hlookup
  · intro u op v hu hstep
    rcases keyStep_plans hstep with hplans | ⟨dop, -, hdirectory⟩
    · exact boundOnce_of_plans hplans hu
    · exact hu.step hdirectory

/-- The user of a key may send requests to the account of a candidate. -/
def Entitled (k : Keyring) (key : APIKey) (c : RouteCandidate) : Prop :=
  k.users.lookup key.userID = some true ∧ ∃ h, k.directory.plans.lookup c.planID = some h ∧ h.plan.status = .active ∧
    h.plan.accountID = some c.accountID ∧ h.plan.accountBindingGeneration = c.accountBindingGeneration ∧
    (∃ a, k.directory.accounts.lookup c.accountID = some a ∧ a.active = true) ∧
    ∃ m ∈ h.plan.members.rows, m.id = c.memberID ∧ m.userID = key.userID ∧ m.status = .active

lemma mem_routeCandidates (hc : c ∈ k.routeCandidates key r) :
    c.planID = r.route.planID ∧ c.priority = r.route.priority ∧ Entitled k key c := by
  unfold Keyring.routeCandidates at hc
  split at hc
  · simp at hc
  · next h hplan =>
    split at hc
    · simp at hc
    · next accountID haccount =>
      split at hc
      · simp at hc
      · next a ha =>
        split_ifs at hc with hopen
        · obtain ⟨hactive, huser, haactive⟩ := hopen
          obtain ⟨m, hm, rfl⟩ := List.mem_map.mp hc
          obtain ⟨hm, hmember⟩ := List.mem_filter.mp hm
          obtain ⟨hmuser, hmactive⟩ := of_decide_eq_true hmember
          exact ⟨rfl, rfl, huser, h, hplan, hactive, haccount, rfl, ⟨a, ha, haactive⟩, m, hm, rfl, hmuser, hmactive⟩
        · simp at hc

/-- A user has one row in a plan. -/
lemma routeCandidates_pairwise (k : Keyring) (key : APIKey) (r : KeyPlan) :
    (k.routeCandidates key r).Pairwise fun c c' => c.planID ≠ c'.planID := by
  unfold Keyring.routeCandidates
  split
  · exact List.Pairwise.nil
  · next h _ =>
    split
    · exact List.Pairwise.nil
    · split
      · exact List.Pairwise.nil
      · split_ifs
        · rw [List.pairwise_map]
          have husers : h.plan.members.rows.Pairwise fun m m' => m.userID ≠ m'.userID := by
            refine (List.pairwise_filterMap.mp h.plan.members.index_nodup).imp ?_
            intro m m' hne heq
            exact hne m.userID rfl m.userID (by rw [memberUser, heq]) rfl
          refine (husers.sublist List.filter_sublist).imp_of_mem ?_
          intro m m' hm hm' hne
          obtain ⟨huser, -⟩ := of_decide_eq_true (List.mem_filter.mp hm).2
          obtain ⟨huser', -⟩ := of_decide_eq_true (List.mem_filter.mp hm').2
          exact absurd (huser.trans huser'.symm) hne
        · exact List.Pairwise.nil

lemma candidates_pairwise (k : Keyring) (key : APIKey) :
    ((k.routes.rows.filter fun r => r.apiKeyID = key.id ∧ r.route.enabled = true).flatMap
      (k.routeCandidates key)).Pairwise fun c c' => c.planID ≠ c'.planID := by
  rw [List.pairwise_flatMap]
  refine ⟨fun r _ => routeCandidates_pairwise k key r, ?_⟩
  have hkeys : k.routes.rows.Pairwise fun r r' => routeKey r ≠ routeKey r' := List.pairwise_map.mp k.routes.keys_nodup
  refine (hkeys.sublist List.filter_sublist).imp_of_mem ?_
  intro r r' hr hr' hne c hc c' hc' heq
  obtain ⟨hid, -⟩ := of_decide_eq_true (List.mem_filter.mp hr).2
  obtain ⟨hid', -⟩ := of_decide_eq_true (List.mem_filter.mp hr').2
  have hplan := (mem_routeCandidates hc).1
  have hplan' := (mem_routeCandidates hc').1
  apply hne
  rw [routeKey, routeKey, hid, hid', ← hplan, ← hplan', heq]

lemma mem_resolved {billed : String → Bool} {keyHash : String} {cs : List RouteCandidate}
    (hres : k.resolveGatewayRoutes billed keyHash = .ok (key, cs)) (hc : c ∈ cs) :
    ∃ r ∈ k.routes.rows, c ∈ k.routeCandidates key r := by
  simp only [Keyring.resolveGatewayRoutes, orFail_bind_eq_ok, check_bind_eq_ok, commit_eq_ok] at hres
  obtain ⟨key', -, -, hres⟩ := hres
  cases hres
  obtain ⟨r, hr, hc⟩ := List.mem_flatMap.mp (List.mem_mergeSort.mp hc)
  exact ⟨r, (List.mem_filter.mp hr).1, hc⟩

lemma routesFirst_trans (a b c : RouteCandidate) (hab : routesFirst a b = true) (hbc : routesFirst b c = true) :
    routesFirst a c = true := by
  simp only [routesFirst, decide_eq_true_eq] at hab hbc ⊢
  omega

lemma routesFirst_total (a b : RouteCandidate) : (routesFirst a b || routesFirst b a) = true := by
  simp only [routesFirst, Bool.or_eq_true, decide_eq_true_eq]
  omega

/-- What a key is routed to: active plans of its user, one candidate for each plan and each account, in the order of
their priorities. -/
theorem gateway_routes_sound (hrun : KeyRun clock ops k) {billed : String → Bool} {keyHash : String}
    {cs : List RouteCandidate} (hres : k.resolveGatewayRoutes billed keyHash = .ok (key, cs)) :
    (key ∈ k.keys.rows ∧ key.keyHash = keyHash ∧ key.status = .active ∧ billed key.userID = false) ∧
      (∀ c ∈ cs, 1 ≤ c.priority ∧ c.priority ≤ 10000 ∧ Entitled k key c) ∧
      (cs.map RouteCandidate.planID).Nodup ∧ (cs.map RouteCandidate.accountID).Nodup ∧
      cs.Pairwise fun c c' =>
        c.priority < c'.priority ∨ c.priority = c'.priority ∧ c.planCreatedAt ≤ c'.planCreatedAt := by
  have hmem : ∀ c ∈ cs, ∃ r ∈ k.routes.rows, c ∈ k.routeCandidates key r := fun c hc => mem_resolved hres hc
  simp only [Keyring.resolveGatewayRoutes, orFail_bind_eq_ok, check_bind_eq_ok, ensure_eq_ok, commit_eq_ok] at hres
  obtain ⟨key', hfind, hbilled, hres⟩ := hres
  cases hres
  obtain ⟨hhash, hactive⟩ : key.keyHash = keyHash ∧ key.status = .active := by simpa using List.find?_some hfind
  have hperm := List.mergeSort_perm ((k.routes.rows.filter fun r => r.apiKeyID = key.id ∧ r.route.enabled = true).flatMap
      (k.routeCandidates key)) routesFirst
  have hplans := (hperm.pairwise_iff (fun {a b} => Ne.symm)).mpr (candidates_pairwise k key)
  refine ⟨⟨List.mem_of_find?_eq_some hfind, hhash, hactive, hbilled⟩, ?_, List.pairwise_map.mpr hplans, ?_, ?_⟩
  · intro c hc
    obtain ⟨r, hr, hc⟩ := hmem c hc
    obtain ⟨-, hpriority, hentitled⟩ := mem_routeCandidates hc
    rw [hpriority]
    exact ⟨((run_placed hrun).ranges r hr).1, ((run_placed hrun).ranges r hr).2, hentitled⟩
  · refine List.pairwise_map.mpr (hplans.imp_of_mem ?_)
    intro c c' hc hc' hne heq
    -- An account is bound to one plan.
    obtain ⟨r, -, hc⟩ := hmem c hc
    obtain ⟨r', -, hc'⟩ := hmem c' hc'
    obtain ⟨-, h, hlookup, -, haccount, -⟩ := (mem_routeCandidates hc).2.2
    obtain ⟨-, h', hlookup', -, haccount', -⟩ := (mem_routeCandidates hc').2.2
    rw [← heq] at haccount'
    exact hne ((run_bound hrun).unique hlookup hlookup' haccount haccount')
  · refine (List.pairwise_mergeSort routesFirst_trans routesFirst_total _).imp ?_
    intro c c' hle
    simpa [routesFirst] using hle

lemma resolved_of_toOption {ε α : Type} {x : Except ε α} {r : α} (h : x.toOption = some r) : x = .ok r := by
  cases x with
  | ok a => exact congrArg Except.ok (Option.some_inj.mp h)
  | error e => cases h

/-- A key that its user, a member by invite, has routed to a plan. -/
def keyRouted : List KeyOp :=
  [.createUser "alice",
    .directory (.createOrRotateAccountAuthorization "a1" ⟨"owner", "upstream", true, 10⟩),
    .directory (.createPlan (.ok ()) "p1" "owner" "m0" (some "a1") .fixed 0),
    .directory (.planOp "p1" (.createInvite (.ok ()) "owner" "i1" "token" 300)),
    .directory (.planOp "p1" (.acceptInvite (.ok ()) "token" "alice" "m1")),
    .createAPIKey "k1" "alice" "hash" .priority [⟨"p1", 5, true⟩],
    .insertRoute 0,
    .commitKey 0]

theorem gateway_routes_sound_routed : ∃ k key cs, KeyRun 0 keyRouted k ∧
    k.resolveGatewayRoutes (fun _ => false) "hash" = .ok (key, cs) ∧
      (key ∈ k.keys.rows ∧ key.keyHash = "hash" ∧ key.status = .active ∧ (fun _ => false) key.userID = false) ∧
      (∀ c ∈ cs, 1 ≤ c.priority ∧ c.priority ≤ 10000 ∧ Entitled k key c) ∧
      (cs.map RouteCandidate.planID).Nodup ∧ (cs.map RouteCandidate.accountID).Nodup ∧
      cs.Pairwise fun c c' =>
        c.priority < c'.priority ∨ c.priority = c'.priority ∧ c.planCreatedAt ≤ c'.planCreatedAt := by
  have hend : ((executeWhen (fun _ _ => True) keyStep (emptyKeyring 0) keyRouted).bind fun k =>
      (k.resolveGatewayRoutes (fun _ => false) "hash").toOption).isSome := by decide
  obtain ⟨r, hr⟩ := Option.isSome_iff_exists.mp hend
  obtain ⟨k, hk, hres⟩ := Option.bind_eq_some_iff.mp hr
  have hrun : KeyRun 0 keyRouted k := (run_of_executeWhen hk).mono fun _ _ _ => And.left
  obtain ⟨key, cs⟩ := r
  have hok : k.resolveGatewayRoutes (fun _ => false) "hash" = .ok (key, cs) := resolved_of_toOption hres
  exact ⟨k, key, cs, hrun, hok, gateway_routes_sound hrun hok⟩

/-- Every route refers to a key and a plan that exist, whatever else was going on when it was written. -/
theorem routes_refer (hrun : KeyRun clock ops k) : ∀ r ∈ k.routes.rows,
    (1 ≤ r.route.priority ∧ r.route.priority ≤ 10000) ∧ (∃ x ∈ k.keys.rows, x.id = r.apiKeyID) ∧
      k.directory.plans.lookup r.route.planID ≠ none := by
  have hplaced := run_placed hrun
  exact fun r hr => ⟨hplaced.ranges r hr, hplaced.owned r hr, hplaced.placed r hr⟩

theorem routes_refer_routed : ∃ k, KeyRun 0 keyRouted k ∧ ∀ r ∈ k.routes.rows,
    (1 ≤ r.route.priority ∧ r.route.priority ≤ 10000) ∧ (∃ x ∈ k.keys.rows, x.id = r.apiKeyID) ∧
      k.directory.plans.lookup r.route.planID ≠ none := by
  have hend : (executeWhen (fun _ _ => True) keyStep (emptyKeyring 0) keyRouted).isSome := by decide
  obtain ⟨k, hk⟩ := Option.isSome_iff_exists.mp hend
  have hrun : KeyRun 0 keyRouted k := (run_of_executeWhen hk).mono fun _ _ _ => And.left
  exact ⟨k, hrun, routes_refer hrun⟩

end Routing

section Revocation

variable {k k' k₀ : Keyring} {clock : ℤ} {ops ops₀ : List KeyOp} {op : KeyOp} {keyHash : String}

/-- No active key has the hash, and none is being inserted. -/
structure Dead (keyHash : String) (k : Keyring) : Prop where
  keys : ∀ x ∈ k.keys.rows, x.keyHash = keyHash → x.status = .revoked
  edits : ∀ e ∈ k.edits, e.isNew = true → e.key.keyHash ≠ keyHash

lemma dead_of_moves {keys keys' : List APIKey} (h : Evolves KeyMove (fun _ => False) (fun _ => False) keys keys')
    (hdead : ∀ x ∈ keys, x.keyHash = keyHash → x.status = .revoked) :
    ∀ x ∈ keys', x.keyHash = keyHash → x.status = .revoked := by
  refine h.forall_rows hdead ?_ fun _ hf => hf.elim
  intro x x' hx hmove hhash
  exact hmove.revoked (hx (hmove.keyHash.symm.trans hhash))

lemma KeyChange.dead (h : KeyChange op k k') (hop : ¬ creates keyHash op) (hk : Dead keyHash k) : Dead keyHash k' := by
  cases h with
  | elsewhere _ hkeys _ hedits => exact ⟨by rw [hkeys]; exact hk.keys, by rw [hedits]; exact hk.edits⟩
  | planDeleted _ _ hkeys _ hedits => exact ⟨by rw [hkeys]; exact hk.keys, by rw [hedits]; exact hk.edits⟩
  | @started e _ _ _ hnew _ hkeys _ hedits =>
    constructor
    · rw [hkeys]
      exact hk.keys
    · rw [hedits]
      intro e' he' hisNew
      rcases List.mem_append.mp he' with hold | hlast
      · exact hk.edits e' hold hisNew
      · rw [List.mem_singleton.mp hlast] at hisNew ⊢
        rintro rfl
        exact hop (hnew hisNew).1
  | @routed i e _ _ _ he _ _ hkeys _ hedits =>
    constructor
    · rw [hkeys]
      exact hk.keys
    · rw [hedits]
      intro e' he' hisNew
      rcases mem_of_mem_set he' with hold | rfl
      · exact hk.edits e' hold hisNew
      · exact hk.edits e (List.mem_of_getElem? he) hisNew
  | ended _ hkeys _ hedits =>
    constructor
    · rw [hkeys]
      exact hk.keys
    · rw [hedits]
      exact fun e he => hk.edits e (List.eraseIdx_subset he)
  | @committed i e _ he _ hkeys _ hedits =>
    constructor
    · rcases commit_keys hkeys with ⟨hnew, hrows⟩ | ⟨-, hmoves⟩
      · rw [hrows]
        intro x hx hhash
        rcases List.mem_append.mp hx with hx | hx
        · exact hk.keys x hx hhash
        · rw [List.mem_singleton.mp hx] at hhash
          exact absurd hhash (hk.edits e (List.mem_of_getElem? he) hnew)
      · exact dead_of_moves hmoves hk.keys
    · rw [hedits]
      exact fun e he => hk.edits e (List.eraseIdx_subset he)
  | marked _ hkeys _ hedits => exact ⟨dead_of_moves hkeys hk.keys, by rw [hedits]; exact hk.edits⟩
  | cleaned hnew =>
    subst hnew
    exact ⟨fun x hx => hk.keys x (List.mem_filter.mp hx).1, hk.edits⟩

lemma dead_of_revoked (hk : EditsApart k) {x : APIKey} (hx : x ∈ k.keys.rows) (hrevoked : x.status = .revoked) :
    Dead x.keyHash k := by
  constructor
  · intro y hy hhash
    rw [k.keys.eq_of_index_eq hy hx (show keyHashOf y = some x.keyHash by rw [keyHashOf, hhash]) rfl]
    exact hrevoked
  · intro e he hisNew hhash
    exact (hk.fresh e he hisNew x hx).2 hhash.symm

/-- A key that was revoked is never found again, whatever its user, an administrator or the cleanup does to it. -/
theorem revoked_key_stays_dead (hstart : KeyRun clock ops₀ k₀) {x : APIKey} (hx : x ∈ k₀.keys.rows)
    (hrevoked : x.status = .revoked) (hrun : Run (fun k op k' => keyStep k op = .ok k') k₀ ops k)
    (hfresh : ∀ op ∈ ops, ¬ creates x.keyHash op) (billed : String → Bool) :
    k.resolveGatewayRoutes billed x.keyHash = .error .notFound := by
  have hdead : Dead x.keyHash k := by
    induction hrun with
    | nil => exact dead_of_revoked (run_apart hstart) hx hrevoked
    | @snoc ops op u v _ last ih =>
      refine (keyStep_change last).dead (hfresh op (by simp)) (ih fun op' hop' => hfresh op' ?_)
      exact List.mem_append_left _ hop'
  have hnone : (k.keys.rows.find? fun y => y.keyHash = x.keyHash ∧ y.status = .active) = none := by
    rw [List.find?_eq_none]
    intro y hy
    rw [decide_eq_true_eq]
    rintro ⟨hhash, hactive⟩
    rw [hdead.keys y hy hhash] at hactive
    cases hactive
  rw [Keyring.resolveGatewayRoutes, hnone]
  rfl

def keyRevoked : List KeyOp := keyRouted ++ [.revokeAPIKey "alice" "k1"]

def editedAfterwards : List KeyOp :=
  [.updateAPIKey "alice" "k1" .balanced [⟨"p1", 1, true⟩], .insertRoute 0, .commitKey 0, .touchAPIKey "k1"]

theorem revoked_key_stays_dead_edited : ∃ k₀ k, ∃ x ∈ k₀.keys.rows, KeyRun 0 keyRevoked k₀ ∧ x.status = .revoked ∧
    Run (fun k op k' => keyStep k op = .ok k') k₀ editedAfterwards k ∧
      k.resolveGatewayRoutes (fun _ => false) x.keyHash = .error .notFound := by
  have hend : ((executeWhen (fun _ _ => True) keyStep (emptyKeyring 0) keyRevoked).bind fun k₀ =>
      (executeWhen (fun _ _ => True) keyStep k₀ editedAfterwards).bind fun _ =>
        k₀.keys.rows.find? fun x => x.status = .revoked).isSome := by decide
  obtain ⟨x, hall⟩ := Option.isSome_iff_exists.mp hend
  obtain ⟨k₀, hk₀, hall⟩ := Option.bind_eq_some_iff.mp hall
  obtain ⟨k, hk, hfind⟩ := Option.bind_eq_some_iff.mp hall
  have hstart : KeyRun 0 keyRevoked k₀ := (run_of_executeWhen hk₀).mono fun _ _ _ => And.left
  have hrun : Run (fun k op k' => keyStep k op = .ok k') k₀ editedAfterwards k :=
    (run_of_executeWhen hk).mono fun _ _ _ => And.left
  have hx := List.mem_of_find?_eq_some hfind
  have hrevoked : x.status = .revoked := by simpa using List.find?_some hfind
  refine ⟨k₀, k, x, hx, hstart, hrevoked, hrun, ?_⟩
  exact revoked_key_stays_dead hstart hx hrevoked hrun (by simp [editedAfterwards, creates]) fun _ => false

end Revocation

end ShareSub.KeySafety

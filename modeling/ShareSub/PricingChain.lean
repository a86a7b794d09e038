import Mathlib
import ShareSub.PricingModel

/-!
# The history of the prices

A publication that holds the lock on `current_pricing` has found its base version there, so the committed versions are a
chain. Versions are never changed, so what a request has pinned is what it is billed with.
-/
namespace ShareSub.PricingChain

open PricingModel
open PlanModel (DomainError)

section Models

variable {toLower : String → String}

lemma validateModels_nodup {models : List ModelPrice} {seen : List String} (h : validateModels toLower models seen = true) :
    (models.map ModelPrice.model).Nodup ∧ ∀ m ∈ models, m.model ∉ seen := by
  induction models generalizing seen with
  | nil => simp
  | cons m rest ih =>
    simp only [validateModels, Bool.and_eq_true, decide_eq_true_eq] at h
    obtain ⟨⟨-, hseen⟩, hrest⟩ := h
    obtain ⟨hnodup, hall⟩ := ih hrest
    constructor
    · rw [List.map_cons, List.nodup_cons]
      refine ⟨?_, hnodup⟩
      intro hm
      obtain ⟨x, hx, heq⟩ := List.mem_map.mp hm
      exact hall x hx (by simp [heq])
    · intro x hx
      rcases List.mem_cons.mp hx with rfl | hx
      · exact hseen
      · intro hmem
        exact hall x hx (List.mem_cons_of_mem _ hmem)

lemma validateConfig_nodup {config : PricingConfig} (h : validateConfig toLower config = true) :
    config.modelNames.Nodup := by
  simp only [validateConfig, Bool.and_eq_true] at h
  exact (validateModels_nodup h.1.1.1.1.1.2).1

/-- A valid configuration with as many models as the base, all among those of the base, has the same models. -/
lemma sameModels_iff {base config : PricingConfig} (hvalid : validateConfig toLower config = true)
    (h : sameModels base config = true) (model : String) : model ∈ config.modelNames ↔ model ∈ base.modelNames := by
  simp only [sameModels, Bool.and_eq_true, decide_eq_true_eq, List.all_eq_true] at h
  obtain ⟨hlength, hall⟩ := h
  have hsub : config.modelNames.Subperm base.modelNames := by
    apply (validateConfig_nodup hvalid).subperm
    intro name hname
    obtain ⟨m, hm, rfl⟩ := List.mem_map.mp hname
    exact hall m hm
  have hle : base.modelNames.length ≤ config.modelNames.length := by
    rw [PricingConfig.modelNames, PricingConfig.modelNames, List.length_map, List.length_map, hlength]
  exact (hsub.perm_of_length_le hle).mem_iff

end Models

section Publications

variable {p : Publisher} {s : Store} {locked : Bool} {outcome : PublishOutcome}

/-- What a turn of a publication does. -/
inductive PublishTurn (p : Publisher) (s : Store) (locked : Bool) (out : Store × Publisher) : Prop
  | idle (hout : out = (s, p))
  | ended {result : Except DomainError PricingVersion} (hout : out = (s, p.finish result))
  | read {base : PricingVersion} (hphase : p.phase = .reading) (hbase : s.pricingVersion p.input.baseVersionID = some base)
      (hsame : sameModels base.config p.input.config = true) (hout : out = (s, { p with phase := .locking }))
  | locks (hphase : p.phase = .locking) (hfree : locked = false) (hcurrent : s.current = p.input.baseVersionID)
      (hout : out = (s, { p with phase := .inserting }))
  | inserted (hphase : p.phase = .inserting) (hout : out = ({ s with nextID := s.nextID + 1 },
      { p with phase := .committing ⟨s.nextID, p.actorID, p.input.reason, p.input.config⟩ }))
  | committed {version : PricingVersion} {result : Except DomainError PricingVersion} (hphase : p.phase = .committing version)
      (hout : out = ({ s with
        versions := s.versions ++ [⟨version, some p.input.baseVersionID⟩], current := version.id }, p.finish result))

lemma turn_cases (p : Publisher) (s : Store) (locked : Bool) (outcome : PublishOutcome) :
    PublishTurn p s locked (p.turn s locked outcome) := by
  cases outcome with
  | done =>
    simp only [Publisher.turn]
    split
    · next hphase =>
      split
      · exact .ended rfl
      · next hbase =>
        split_ifs with hsame
        · exact .read hphase hbase hsame rfl
        · exact .ended rfl
    · next hphase =>
      split_ifs with hlocked hcurrent
      · exact .idle rfl
      · exact .ended rfl
      · exact .locks hphase (Bool.eq_false_of_not_eq_true hlocked) (not_not.mp hcurrent) rfl
    · next hphase => exact .inserted hphase rfl
    · next hphase => exact .committed hphase rfl
    · exact .idle rfl
  | fail =>
    simp only [Publisher.turn]
    split
    · exact .idle rfl
    · exact .ended rfl
  | lost =>
    simp only [Publisher.turn]
    split
    · next hphase => exact .committed hphase rfl
    · exact .idle rfl

/-- What a publication has found out so far. -/
def Checked (toLower : String → String) (s : Store) (p : Publisher) : Prop :=
  match p.phase with
  | .reading => validateConfig toLower p.input.config = true
  | .locking => validateConfig toLower p.input.config = true ∧
      ∃ base, s.pricingVersion p.input.baseVersionID = some base ∧ sameModels base.config p.input.config = true
  | .inserting => validateConfig toLower p.input.config = true ∧ s.current = p.input.baseVersionID ∧
      ∃ base, s.pricingVersion p.input.baseVersionID = some base ∧ sameModels base.config p.input.config = true
  | .committing version => validateConfig toLower p.input.config = true ∧ s.current = p.input.baseVersionID ∧
      (∃ base, s.pricingVersion p.input.baseVersionID = some base ∧ sameModels base.config p.input.config = true) ∧
      version.config = p.input.config ∧ s.current < version.id ∧ version.id < s.nextID
  | .returned _ => True

/-- The next version of the chain. -/
def Follows (a b : Published) : Prop := b.base = some a.version.id ∧ a.version.id < b.version.id

structure Chained (toLower : String → String) (first : PricingVersion) (s : Store) : Prop where
  older : ∀ v ∈ s.older, v.id < first.id
  head : s.versions.head? = some ⟨first, none⟩
  chain : s.versions.IsChain Follows
  current : ∃ a, s.versions.getLast? = some a ∧ a.version.id = s.current
  lt : ∀ a ∈ s.versions, first.id ≤ a.version.id ∧ a.version.id < s.nextID
  valid : ∀ a ∈ s.versions, validateConfig toLower a.version.config = true ∧
    ∀ model, model ∈ a.version.config.modelNames ↔ model ∈ first.config.modelNames

variable {toLower : String → String} {first : PricingVersion}

lemma pricingVersion_some {id : ℤ} {v : PricingVersion} (h : s.pricingVersion id = some v) :
    v.id = id ∧ (v ∈ s.older ∨ ∃ a ∈ s.versions, a.version = v) := by
  have hid : v.id = id := by simpa using List.find?_some h
  refine ⟨hid, ?_⟩
  rcases List.mem_append.mp (List.mem_of_find?_eq_some h) with hv | hv
  · exact Or.inl hv
  · exact Or.inr (List.mem_map.mp hv)

/-- A version that a lookup finds stays found. -/
lemma pricingVersion_append {id : ℤ} {v : PricingVersion} (h : s.pricingVersion id = some v) (new : List Published)
    (current nextID : ℤ) :
    Store.pricingVersion ⟨s.older, s.versions ++ new, current, nextID⟩ id = some v := by
  rw [Store.pricingVersion, List.map_append, ← List.append_assoc, List.find?_append]
  have h : List.find? (fun v => decide (v.id = id)) (s.older ++ s.versions.map Published.version) = some v := h
  rw [h]
  rfl

/-- A version that is found under the id of a published one is published. -/
lemma Chained.published (hs : Chained toLower first s) {id : ℤ} {v : PricingVersion}
    (h : s.pricingVersion id = some v) (hid : ∃ a ∈ s.versions, a.version.id = id) : ∃ a ∈ s.versions, a.version = v := by
  obtain ⟨hv, hold | hnew⟩ := pricingVersion_some h
  · obtain ⟨a, ha, haid⟩ := hid
    have hlt := hs.older v hold
    have hle := (hs.lt a ha).1
    omega
  · exact hnew

lemma Chained.current_mem (hs : Chained toLower first s) : ∃ a ∈ s.versions, a.version.id = s.current := by
  obtain ⟨a, hlast, hid⟩ := hs.current
  exact ⟨a, List.mem_of_getLast? hlast, hid⟩

lemma Chained.commit (hs : Chained toLower first s) {version : PricingVersion} (hphase : p.phase = .committing version)
    (hp : Checked toLower s p) :
    Chained toLower first { s with
      versions := s.versions ++ [⟨version, some p.input.baseVersionID⟩], current := version.id } := by
  rw [Checked, hphase] at hp
  obtain ⟨hvalid, hcurrent, ⟨base, hbase, hsame⟩, hconfig, hlow, hhigh⟩ := hp
  obtain ⟨a, hlast, haid⟩ := hs.current
  have ha : a ∈ s.versions := List.mem_of_getLast? hlast
  refine ⟨hs.older, ?_, ?_, ⟨_, List.getLast?_concat, rfl⟩, ?_, ?_⟩
  · rw [List.head?_append, hs.head]
    rfl
  · rw [List.isChain_append]
    refine ⟨hs.chain, List.isChain_singleton _, ?_⟩
    intro x hx y hy
    rw [hlast, Option.mem_some_iff] at hx
    rw [List.head?_cons, Option.mem_some_iff] at hy
    subst hx
    subst hy
    exact ⟨by rw [haid, hcurrent], by rw [haid]; exact hlow⟩
  · intro x hx
    rcases List.mem_append.mp hx with hx | hx
    · exact hs.lt x hx
    · rw [List.mem_singleton.mp hx]
      have := (hs.lt a ha).1
      exact ⟨by dsimp only; omega, hhigh⟩
  · intro x hx
    rcases List.mem_append.mp hx with hx | hx
    · exact hs.valid x hx
    · rw [List.mem_singleton.mp hx]
      dsimp only
      rw [hconfig]
      refine ⟨hvalid, ?_⟩
      intro model
      obtain ⟨b, hb, rfl⟩ := hs.published hbase ⟨a, ha, haid.trans hcurrent⟩
      rw [sameModels_iff hvalid hsame]
      exact (hs.valid b hb).2 model

lemma checked_finish (toLower : String → String) (s : Store) (p : Publisher) (result : Except DomainError PricingVersion) :
    Checked toLower s (p.finish result) := trivial

lemma holdsLock_finish (p : Publisher) (result : Except DomainError PricingVersion) :
    (p.finish result).holdsLock = false := rfl

/-- Publications that do not hold the lock only look at versions. -/
lemma Checked.append (hp : Checked toLower s p) (hlock : p.holdsLock = false) (new : List Published)
    (current nextID : ℤ) : Checked toLower ⟨s.older, s.versions ++ new, current, nextID⟩ p := by
  unfold Checked at hp ⊢
  cases hphase : p.phase with
  | reading =>
    rw [hphase] at hp
    exact hp
  | locking =>
    rw [hphase] at hp
    obtain ⟨hvalid, base, hbase, hsame⟩ := hp
    exact ⟨hvalid, base, pricingVersion_append hbase new current nextID, hsame⟩
  | inserting => simp [Publisher.holdsLock, hphase] at hlock
  | committing version => simp [Publisher.holdsLock, hphase] at hlock
  | returned result => trivial

/-- An identity value that is drawn changes nothing for the others. -/
lemma Checked.draw (hp : Checked toLower s p) : Checked toLower { s with nextID := s.nextID + 1 } p := by
  unfold Checked at hp ⊢
  cases hphase : p.phase with
  | committing version =>
    rw [hphase] at hp
    obtain ⟨hvalid, hcurrent, hbase, hconfig, hlow, hhigh⟩ := hp
    exact ⟨hvalid, hcurrent, hbase, hconfig, hlow, by dsimp only; omega⟩
  | _ =>
    rw [hphase] at hp
    exact hp

end Publications

section Systems

variable {Segment Cost : Type} {toLower : String → String} {first : PricingVersion}
  {versionedCost : PricingConfig → String → String → List Segment → Option Cost}
  {s : System Segment Cost} {e : Event Segment}

structure PublishersCoherent (toLower : String → String) (first : PricingVersion) (store : Store)
    (publishers : List Publisher) : Prop where
  chained : Chained toLower first store
  checked : ∀ p ∈ publishers, Checked toLower store p
  locks : ∀ (i j : ℕ) (p q : Publisher), publishers[i]? = some p → publishers[j]? = some q →
    p.holdsLock = true → q.holdsLock = true → i = j

/-- The publisher in a slot is replaced, and the others still have what they checked. -/
lemma PublishersCoherent.set {store store' : Store} {publishers : List Publisher} {i : ℕ} {p p' : Publisher}
    (h : PublishersCoherent toLower first store publishers) (hp : publishers[i]? = some p)
    (hchained : Chained toLower first store') (hchecked : Checked toLower store' p')
    (hothers : ∀ (j : ℕ) (q : Publisher), j ≠ i → publishers[j]? = some q → Checked toLower store' q)
    (hlock : p'.holdsLock = true → p.holdsLock = true ∨ publishers.any Publisher.holdsLock = false) :
    PublishersCoherent toLower first store' (publishers.set i p') := by
  have hget : ∀ (j : ℕ) (q : Publisher), (publishers.set i p')[j]? = some q →
      j = i ∧ q = p' ∨ j ≠ i ∧ publishers[j]? = some q := by
    intro j q hq
    by_cases hj : j = i
    · subst hj
      rw [List.getElem?_set_self (List.getElem?_eq_some_iff.mp hp).1, Option.some_inj] at hq
      exact Or.inl ⟨rfl, hq.symm⟩
    · rw [List.getElem?_set_ne (Ne.symm hj)] at hq
      exact Or.inr ⟨hj, hq⟩
  have hnone : ∀ (j : ℕ) (q : Publisher), j ≠ i → publishers[j]? = some q → p'.holdsLock = true →
      q.holdsLock = false := by
    intro j q hj hq hholds
    rcases hlock hholds with hold | hfree
    · by_contra hq'
      exact hj (h.locks j i q p hq hp (Bool.eq_true_of_not_eq_false hq') hold)
    · rw [List.any_eq_false] at hfree
      exact Bool.eq_false_of_not_eq_true (hfree q (List.mem_of_getElem? hq))
  refine ⟨hchained, ?_, ?_⟩
  · intro q hq
    obtain ⟨j, hj⟩ := List.getElem?_of_mem hq
    rcases hget j q hj with ⟨-, rfl⟩ | ⟨hne, hold⟩
    · exact hchecked
    · exact hothers j q hne hold
  · intro j k q q' hq hq' hholds hholds'
    rcases hget j q hq with ⟨rfl, rfl⟩ | ⟨hj, hold⟩
    · rcases hget k q' hq' with ⟨rfl, -⟩ | ⟨hk, hold'⟩
      · rfl
      · rw [hnone k q' hk hold' hholds] at hholds'
        cases hholds'
    · rcases hget k q' hq' with ⟨rfl, rfl⟩ | ⟨hk, hold'⟩
      · rw [hnone j q hj hold hholds'] at hholds
        cases hholds
      · exact h.locks j k q q' hold hold' hholds hholds'

/-- What a turn of a publication leaves. -/
lemma PublishersCoherent.turn {store : Store} {publishers : List Publisher} {i : ℕ} {p : Publisher}
    (h : PublishersCoherent toLower first store publishers) (hp : publishers[i]? = some p) (outcome : PublishOutcome) :
    PublishersCoherent toLower first (p.turn store (publishers.any Publisher.holdsLock) outcome).1
      (publishers.set i (p.turn store (publishers.any Publisher.holdsLock) outcome).2) := by
  have hchecked := h.checked p (List.mem_of_getElem? hp)
  have hothers : ∀ (j : ℕ) (q : Publisher), j ≠ i → publishers[j]? = some q → Checked toLower store q :=
    fun j q _ hq => h.checked q (List.mem_of_getElem? hq)
  cases turn_cases p store (publishers.any Publisher.holdsLock) outcome with
  | idle hout =>
    rw [hout]
    exact h.set hp h.chained hchecked hothers Or.inl
  | ended hout =>
    rw [hout]
    refine h.set hp h.chained (checked_finish _ _ _ _) hothers ?_
    intro hholds
    rw [holdsLock_finish] at hholds
    cases hholds
  | @read base hphase hbase hsame hout =>
    rw [hout]
    rw [Checked, hphase] at hchecked
    refine h.set hp h.chained ⟨hchecked, base, hbase, hsame⟩ hothers ?_
    intro hholds
    cases hholds
  | locks hphase hfree hcurrent hout =>
    rw [hout]
    rw [Checked, hphase] at hchecked
    exact h.set hp h.chained ⟨hchecked.1, hcurrent, hchecked.2⟩ hothers fun _ => Or.inr hfree
  | inserted hphase hout =>
    rw [hout]
    rw [Checked, hphase] at hchecked
    obtain ⟨a, ha, hid⟩ := h.chained.current_mem
    have hlt : store.current < store.nextID := by
      rw [← hid]
      exact (h.chained.lt a ha).2
    have hchained : Chained toLower first { store with nextID := store.nextID + 1 } := by
      refine ⟨h.chained.older, h.chained.head, h.chained.chain, h.chained.current, ?_, h.chained.valid⟩
      intro b hb
      have := h.chained.lt b hb
      exact ⟨this.1, by dsimp only; omega⟩
    refine h.set hp hchained ⟨hchecked.1, hchecked.2.1, hchecked.2.2, rfl, hlt, ?_⟩ ?_ ?_
    · dsimp only
      omega
    · intro j q hj hq
      exact (hothers j q hj hq).draw
    · intro _
      left
      rw [Publisher.holdsLock, hphase]
  | @committed version _ hphase hout =>
    rw [hout]
    refine h.set hp (h.chained.commit hphase hchecked) (checked_finish _ _ _ _) ?_ ?_
    · intro j q hj hq
      have hlock : q.holdsLock = false := by
        by_contra hholds
        refine hj (h.locks j i q p hq hp (Bool.eq_true_of_not_eq_false hholds) ?_)
        rw [Publisher.holdsLock, hphase]
      exact (hothers j q hj hq).append hlock [⟨version, some p.input.baseVersionID⟩] version.id store.nextID
    · intro hholds
      rw [holdsLock_finish] at hholds
      cases hholds

/-- A version that has been published. -/
def Listed (store : Store) (v : PricingVersion) : Prop := ∃ a ∈ store.versions, a.version = v

structure Coherent (toLower : String → String)
    (versionedCost : PricingConfig → String → String → List Segment → Option Cost) (first : PricingVersion)
    (s : System Segment Cost) : Prop where
  publishers : PublishersCoherent toLower first s.store s.publishers
  cache : ∀ id v, s.pricingCache.lookup id = some v → Listed s.store v
  read : ∀ r ∈ s.requests, ∀ id ∈ r.currentID, ∃ a ∈ s.store.versions, a.version.id = id
  pinned : ∀ r ∈ s.requests, ∀ v ∈ r.pricing, Listed s.store v
  metrics : ∀ b ∈ s.metrics, ∃ r v, s.requests[b.request]? = some r ∧ r.pricing = some v ∧ b.pricingVersionID = v.id ∧
    versionedCost v.config b.metric.billingModel b.metric.serviceTier (metricSegments b.metric) = some b.cost

/-- The versions are only appended to. -/
lemma step_versions (toLower : String → String)
    (versionedCost : PricingConfig → String → String → List Segment → Option Cost) (s : System Segment Cost)
    (e : Event Segment) :
    ∃ new, (step toLower versionedCost s e).store.versions = s.store.versions ++ new := by
  have hsame : ∃ new, s.store.versions = s.store.versions ++ new := ⟨[], (List.append_nil _).symm⟩
  cases e with
  | turn i outcome =>
    simp only [step]
    split
    · next p _ =>
      cases turn_cases p s.store (s.publishers.any Publisher.holdsLock) outcome with
      | committed _ hout =>
        rw [hout]
        exact ⟨_, rfl⟩
      | idle hout =>
        rw [hout]
        exact hsame
      | ended hout =>
        rw [hout]
        exact hsame
      | read _ _ _ hout =>
        rw [hout]
        exact hsame
      | locks _ _ _ hout =>
        rw [hout]
        exact hsame
      | inserted _ hout =>
        rw [hout]
        exact hsame
    · exact hsame
  | publish actorID isAdmin input => exact hsame
  | resolve accountID => exact hsame
  | readCurrent j =>
    simp only [step]
    split
    · split_ifs
      · exact hsame
      · exact hsame
    · exact hsame
  | loadVersion j =>
    simp only [step]
    split
    · split
      · exact hsame
      · exact hsame
    · exact hsame
  | switchAccount j accountID =>
    simp only [step]
    split
    · exact hsame
    · exact hsame
  | record j metric =>
    simp only [step]
    split
    · exact hsame
    · exact hsame

/-- A request keeps the version that it has pinned. -/
lemma step_pinned (toLower : String → String)
    (versionedCost : PricingConfig → String → String → List Segment → Option Cost) (e : Event Segment) {j : ℕ} {r : GatewayRequest}
    {v : PricingVersion} (hr : s.requests[j]? = some r) (hv : r.pricing = some v) :
    ∃ r', (step toLower versionedCost s e).requests[j]? = some r' ∧ r'.pricing = some v := by
  have hset : ∀ (k : ℕ) (x x' : GatewayRequest), s.requests[k]? = some x → (x.pricing = some v → x'.pricing = some v) →
      ∃ r', (s.requests.set k x')[j]? = some r' ∧ r'.pricing = some v := by
    intro k x x' hx hkeep
    by_cases hk : k = j
    · subst hk
      rw [hr] at hx
      cases hx
      exact ⟨x', List.getElem?_set_self (List.getElem?_eq_some_iff.mp hr).1, hkeep hv⟩
    · exact ⟨r, by rw [List.getElem?_set_ne hk, hr], hv⟩
  cases e with
  | publish actorID isAdmin input => exact ⟨r, hr, hv⟩
  | turn i outcome =>
    simp only [step]
    split
    · exact ⟨r, hr, hv⟩
    · exact ⟨r, hr, hv⟩
  | resolve accountID =>
    refine ⟨r, ?_, hv⟩
    simp only [step]
    rw [List.getElem?_append_left (List.getElem?_eq_some_iff.mp hr).1, hr]
  | readCurrent k =>
    simp only [step]
    split
    · next x hx =>
      split_ifs
      · exact hset k x _ hx id
      · exact ⟨r, hr, hv⟩
    · exact ⟨r, hr, hv⟩
  | loadVersion k =>
    simp only [step]
    split
    · next hx =>
      split
      · refine hset k _ _ hx ?_
        intro hnone
        cases hnone
      · exact ⟨r, hr, hv⟩
    · exact ⟨r, hr, hv⟩
  | switchAccount k accountID =>
    simp only [step]
    split
    · next x hx => exact hset k x _ hx id
    · exact ⟨r, hr, hv⟩
  | record k metric =>
    simp only [step]
    split
    · exact ⟨r, hr, hv⟩
    · exact ⟨r, hr, hv⟩

lemma Listed.append {store store' : Store} {v : PricingVersion} (h : Listed store v) {new : List Published}
    (hversions : store'.versions = store.versions ++ new) : Listed store' v := by
  obtain ⟨a, ha, hv⟩ := h
  exact ⟨a, hversions ▸ List.mem_append_left new ha, hv⟩

/-- The requests after a step, and the cache. -/
lemma Coherent.pins (h : Coherent toLower versionedCost first s) (e : Event Segment) :
    (∀ id v, (step toLower versionedCost s e).pricingCache.lookup id = some v → Listed s.store v) ∧
    ∀ r ∈ (step toLower versionedCost s e).requests, (∀ id ∈ r.currentID, ∃ a ∈ s.store.versions, a.version.id = id) ∧
      ∀ v ∈ r.pricing, Listed s.store v := by
  have hsame : ∀ r ∈ s.requests, (∀ id ∈ r.currentID, ∃ a ∈ s.store.versions, a.version.id = id) ∧
      ∀ v ∈ r.pricing, Listed s.store v := fun r hr => ⟨h.read r hr, h.pinned r hr⟩
  cases e with
  | publish actorID isAdmin input => exact ⟨h.cache, hsame⟩
  | turn i outcome =>
    simp only [step]
    split
    · exact ⟨h.cache, hsame⟩
    · exact ⟨h.cache, hsame⟩
  | resolve accountID =>
    refine ⟨h.cache, ?_⟩
    intro r hr
    rcases List.mem_append.mp hr with hr | hr
    · exact hsame r hr
    · rw [List.mem_singleton.mp hr]
      exact ⟨by simp, by simp⟩
  | readCurrent j =>
    simp only [step]
    split
    · next x hx =>
      split_ifs with hnone
      · refine ⟨h.cache, ?_⟩
        intro r hr
        rcases List.mem_or_eq_of_mem_set hr with hr | rfl
        · exact hsame r hr
        · refine ⟨?_, ?_⟩
          · intro id hid
            cases hid
            exact h.publishers.chained.current_mem
          · intro v hv
            rw [hnone] at hv
            cases hv
      · exact ⟨h.cache, hsame⟩
    · exact ⟨h.cache, hsame⟩
  | loadVersion j =>
    simp only [step]
    split
    · next accountID id hx =>
      have hid := h.read _ (List.mem_of_getElem? hx) id rfl
      split
      · next cache version hpricing =>
        -- The version is in the cache, or it is read from the store under the id of a published one.
        have hboth : (∀ id v, cache.lookup id = some v → Listed s.store v) ∧ Listed s.store version := by
          unfold System.pricingOf at hpricing
          split at hpricing
          · next hcached =>
            cases hpricing
            exact ⟨h.cache, h.cache id version hcached⟩
          · split at hpricing
            · next hstored =>
              split_ifs at hpricing
              cases hpricing
              have hlisted : Listed s.store version := h.publishers.chained.published hstored hid
              refine ⟨?_, hlisted⟩
              intro id' v hv
              rw [FiniteMap.lookup_insert] at hv
              split_ifs at hv
              · cases hv
                exact hlisted
              · exact h.cache id' v hv
            · cases hpricing
        refine ⟨hboth.1, ?_⟩
        intro r hr
        rcases List.mem_or_eq_of_mem_set hr with hr | rfl
        · exact hsame r hr
        · refine ⟨?_, ?_⟩
          · intro id' hid'
            cases hid'
            exact hid
          · intro v hv
            cases hv
            exact hboth.2
      · exact ⟨h.cache, hsame⟩
    · exact ⟨h.cache, hsame⟩
  | switchAccount j accountID =>
    simp only [step]
    split
    · next x hx =>
      refine ⟨h.cache, ?_⟩
      intro r hr
      rcases List.mem_or_eq_of_mem_set hr with hr | rfl
      · exact hsame r hr
      · exact hsame x (List.mem_of_getElem? hx)
    · exact ⟨h.cache, hsame⟩
  | record j metric =>
    simp only [step]
    split
    · exact ⟨h.cache, hsame⟩
    · exact ⟨h.cache, hsame⟩

lemma publishPricing_spec (toLower : String → String) (store : Store) (actorID : String) (isAdmin : Bool) (input : PublishPricingInput) :
    Checked toLower store (publishPricing toLower actorID isAdmin input) ∧
      (publishPricing toLower actorID isAdmin input).holdsLock = false := by
  unfold publishPricing
  dsimp only
  split_ifs with hadmin hinput hvalid
  · exact ⟨checked_finish _ _ _ _, rfl⟩
  · exact ⟨checked_finish _ _ _ _, rfl⟩
  · exact ⟨checked_finish _ _ _ _, rfl⟩
  · refine ⟨?_, rfl⟩
    simpa [Checked] using hvalid

lemma Coherent.publishers_step (h : Coherent toLower versionedCost first s) (e : Event Segment) :
    PublishersCoherent toLower first (step toLower versionedCost s e).store
      (step toLower versionedCost s e).publishers := by
  cases e with
  | publish actorID isAdmin input =>
    obtain ⟨hchecked, hlock⟩ := publishPricing_spec toLower s.store actorID isAdmin input
    refine ⟨h.publishers.chained, ?_, ?_⟩
    · intro p hp
      rcases List.mem_append.mp hp with hp | hp
      · exact h.publishers.checked p hp
      · rw [List.mem_singleton.mp hp]
        exact hchecked
    · have hold : ∀ (i : ℕ) (p : Publisher), (s.publishers ++ [publishPricing toLower actorID isAdmin input])[i]? = some p →
          p.holdsLock = true → s.publishers[i]? = some p := by
        intro i p hp hholds
        rw [List.getElem?_append] at hp
        split_ifs at hp
        · exact hp
        · rw [List.mem_singleton.mp (List.mem_of_getElem? hp), hlock] at hholds
          cases hholds
      intro i j p q hp hq hholds hholds'
      exact h.publishers.locks i j p q (hold i p hp hholds) (hold j q hq hholds') hholds hholds'
  | turn i outcome =>
    simp only [step]
    split
    · next hp => exact h.publishers.turn hp outcome
    · exact h.publishers
  | resolve accountID => exact h.publishers
  | readCurrent j =>
    simp only [step]
    split
    · split_ifs <;> exact h.publishers
    · exact h.publishers
  | loadVersion j =>
    simp only [step]
    split
    · split <;> exact h.publishers
    · exact h.publishers
  | switchAccount j accountID =>
    simp only [step]
    split <;> exact h.publishers
  | record j metric =>
    simp only [step]
    split <;> exact h.publishers

lemma Coherent.metrics_step (h : Coherent toLower versionedCost first s) (e : Event Segment) :
    ∀ b ∈ (step toLower versionedCost s e).metrics, ∃ r v, s.requests[b.request]? = some r ∧ r.pricing = some v ∧
      b.pricingVersionID = v.id ∧
      versionedCost v.config b.metric.billingModel b.metric.serviceTier (metricSegments b.metric) = some b.cost := by
  cases e with
  | record j metric =>
    simp only [step]
    split
    · next billed hbilled =>
      intro b hb
      rcases List.mem_append.mp hb with hb | hb
      · exact h.metrics b hb
      · rw [List.mem_singleton.mp hb]
        obtain ⟨r, hr, hbilled⟩ := Option.bind_eq_some_iff.mp hbilled
        obtain ⟨v, hv, hbilled⟩ := Option.bind_eq_some_iff.mp hbilled
        obtain ⟨cost, hcost, rfl⟩ := Option.map_eq_some_iff.mp hbilled
        exact ⟨r, v, hr, hv, rfl, hcost⟩
    · exact h.metrics
  | publish actorID isAdmin input => exact h.metrics
  | turn i outcome =>
    simp only [step]
    split <;> exact h.metrics
  | resolve accountID => exact h.metrics
  | readCurrent j =>
    simp only [step]
    split
    · split_ifs <;> exact h.metrics
    · exact h.metrics
  | loadVersion j =>
    simp only [step]
    split
    · split <;> exact h.metrics
    · exact h.metrics
  | switchAccount j accountID =>
    simp only [step]
    split <;> exact h.metrics

lemma step_coherent (h : Coherent toLower versionedCost first s) (e : Event Segment) :
    Coherent toLower versionedCost first (step toLower versionedCost s e) := by
  obtain ⟨new, hversions⟩ := step_versions toLower versionedCost s e
  obtain ⟨hcache, hrequests⟩ := h.pins e
  refine ⟨h.publishers_step e, ?_, ?_, ?_, ?_⟩
  · intro id v hv
    exact (hcache id v hv).append hversions
  · intro r hr id hid
    obtain ⟨a, ha, haid⟩ := (hrequests r hr).1 id hid
    exact ⟨a, hversions ▸ List.mem_append_left new ha, haid⟩
  · intro r hr v hv
    exact ((hrequests r hr).2 v hv).append hversions
  · intro b hb
    obtain ⟨r, v, hr, hv, hbill⟩ := h.metrics_step e b hb
    obtain ⟨r', hr', hv'⟩ := step_pinned toLower versionedCost e hr hv
    exact ⟨r', v, hr', hv', hbill⟩

lemma run_coherent (h : Coherent toLower versionedCost first s) (events : List (Event Segment)) :
    Coherent toLower versionedCost first (run toLower versionedCost s events) := by
  unfold run
  induction events generalizing s with
  | nil => exact h
  | cons e events ih => exact ih (step_coherent h e)

lemma run_pinned (toLower : String → String)
    (versionedCost : PricingConfig → String → String → List Segment → Option Cost) (events : List (Event Segment)) {j : ℕ}
    {r : GatewayRequest} {v : PricingVersion} (hr : s.requests[j]? = some r) (hv : r.pricing = some v) :
    ∃ r', (run toLower versionedCost s events).requests[j]? = some r' ∧ r'.pricing = some v := by
  unfold run
  induction events generalizing s r with
  | nil => exact ⟨r, hr, hv⟩
  | cons e events ih =>
    obtain ⟨r', hr', hv'⟩ := step_pinned toLower versionedCost e hr hv
    exact ih hr' hv'

/-- The store before the calls: the version that is current was inserted last, and it is valid. -/
structure Seeded (toLower : String → String) (older : List PricingVersion) (first : PricingVersion) (nextID : ℤ) :
    Prop where
  older : ∀ v ∈ older, v.id < first.id
  next : first.id < nextID
  valid : validateConfig toLower first.config = true

lemma coherent_initial {older : List PricingVersion} {nextID : ℤ} (h : Seeded toLower older first nextID) :
    Coherent toLower versionedCost first (initial older first nextID) := by
  refine ⟨⟨⟨h.older, rfl, List.isChain_singleton _, ⟨_, rfl, rfl⟩, ?_, ?_⟩, ?_, ?_⟩, ?_, ?_, ?_, ?_⟩
  · intro a ha
    rw [List.mem_singleton.mp ha]
    exact ⟨le_rfl, h.next⟩
  · intro a ha
    rw [List.mem_singleton.mp ha]
    exact ⟨h.valid, fun _ => Iff.rfl⟩
  · intro p hp
    cases hp
  · intro i j p q hp
    cases hp
  · intro id v hv
    cases hv
  · intro r hr
    cases hr
  · intro r hr
    cases hr
  · intro b hb
    cases hb

/-- Whatever publications and requests have done: the committed versions are a chain from the first one to the current
one, each published against the one before it; all are valid and have the models of the first one; and a request that
has pinned a version keeps it, and is billed with the prices of that version, whatever is published later. -/
theorem pricing_history_is_linear (toLower : String → String)
    (versionedCost : PricingConfig → String → String → List Segment → Option Cost) (older : List PricingVersion)
    (first : PricingVersion) (nextID : ℤ) (hseed : Seeded toLower older first nextID) (events : List (Event Segment)) :
    let s : System Segment Cost := run toLower versionedCost (initial older first nextID) events
    s.store.versions.head? = some ⟨first, none⟩ ∧ s.store.versions.IsChain Follows ∧
    (∃ a, s.store.versions.getLast? = some a ∧ a.version.id = s.store.current) ∧
    (∀ a ∈ s.store.versions, validateConfig toLower a.version.config = true ∧
      ∀ model, model ∈ a.version.config.modelNames ↔ model ∈ first.config.modelNames) ∧
    ∀ (j : ℕ) (r : GatewayRequest) (v : PricingVersion), s.requests[j]? = some r → r.pricing = some v →
      ∀ later : List (Event Segment), let t := run toLower versionedCost s later
        (∃ r', t.requests[j]? = some r' ∧ r'.pricing = some v) ∧ (∃ a ∈ t.store.versions, a.version = v) ∧
        ∀ b ∈ t.metrics, b.request = j → b.pricingVersionID = v.id ∧
          versionedCost v.config b.metric.billingModel b.metric.serviceTier (metricSegments b.metric) = some b.cost := by
  intro s
  have h : Coherent toLower versionedCost first s := run_coherent (coherent_initial hseed) events
  have hchained := h.publishers.chained
  refine ⟨hchained.head, hchained.chain, hchained.current, hchained.valid, ?_⟩
  intro j r v hr hv later t
  have ht : Coherent toLower versionedCost first t := run_coherent h later
  obtain ⟨r', hr', hv'⟩ := run_pinned toLower versionedCost later hr hv
  refine ⟨⟨r', hr', hv'⟩, ht.pinned r' (List.mem_of_getElem? hr') v hv', ?_⟩
  intro b hb hrequest
  obtain ⟨r₁, v₁, hr₁, hv₁, hid, hcost⟩ := ht.metrics b hb
  rw [hrequest, hr'] at hr₁
  cases hr₁
  rw [hv'] at hv₁
  cases hv₁
  exact ⟨hid, hcost⟩

/-- Two publications against the same version. -/
def twoPublications (config config' : PricingConfig) : List (Event ℤ) :=
  [.resolve "account", .readCurrent 0, .loadVersion 0,
    .publish "admin" true ⟨1, "new prices", config⟩, .publish "other" true ⟨1, "others", config'⟩,
    .turn 0 .done, .turn 1 .done, .turn 1 .done, .turn 0 .done, .turn 1 .done, .turn 1 .done, .turn 0 .done,
    .record 0 ⟨"gpt-6", "", [], 5⟩]

def oneModel (price : ℤ) : PricingConfig :=
  ⟨[⟨"gpt-6", ⟨price, price, price, price, price, price⟩, 0, 10000, 10000⟩], 20000, 5000, 0, 0, 0, 0⟩

/-- The cost of input tokens with the prices of one model, for prices that are whole micros for each token. -/
def inputCost (config : PricingConfig) (_ _ : String) (tokens : List ℤ) : Option ℤ :=
  config.models.head?.map fun m => m.standard.input * tokens.sum / 1000000

theorem pricing_history_is_linear_twoPublications :
    (∀ a ∈ (run id inputCost (initial [] ⟨1, "system", "seed", oneModel 3000000⟩ 2)
      (twoPublications (oneModel 4000000) (oneModel 5000000))).store.versions,
        a.version.config.modelNames = ["gpt-6"]) ∧
    (run id inputCost (initial [] ⟨1, "system", "seed", oneModel 3000000⟩ 2)
      (twoPublications (oneModel 4000000) (oneModel 5000000))).store.versions.IsChain Follows ∧
    (run id inputCost (initial [] ⟨1, "system", "seed", oneModel 3000000⟩ 2)
      (twoPublications (oneModel 4000000) (oneModel 5000000))).store.versions.length = 2 := by
  have hseed : Seeded id [] ⟨1, "system", "seed", oneModel 3000000⟩ 2 := ⟨by simp, by decide, by decide⟩
  refine ⟨by decide, ?_, by decide⟩
  exact (pricing_history_is_linear id inputCost [] ⟨1, "system", "seed", oneModel 3000000⟩ 2 hseed
    (twoPublications (oneModel 4000000) (oneModel 5000000))).2.1

end Systems

end ShareSub.PricingChain

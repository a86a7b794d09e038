import ShareSub.Table

/-!
# Caches of clients by recency

A cache keeps one client for a key and the time it was last used. What it drops it closes. Keys are listed in any order,
and of the entries that were used longest ago the first in that order is evicted.
-/
namespace ShareSub.RecencyCache

structure Entry (κ : Type) where
  key : κ
  client : ℕ
  lastUsed : ℤ

/-- The entries, the keys of the clients ever created, by their number, and the clients closed. -/
structure Cache (κ : Type) where
  entries : List (Entry κ)
  created : List κ
  closed : List ℕ

def empty {κ : Type} : Cache κ := ⟨[], [], []⟩

variable {κ : Type} [DecidableEq κ]

def find? (c : Cache κ) (key : κ) : Option (Entry κ) := c.entries.find? fun e => e.key = key

def touch (c : Cache κ) (key : κ) (now : ℤ) : Cache κ :=
  { c with entries := updateRows (fun e => e.key = key) (fun e => { e with lastUsed := now }) c.entries }

def drop (c : Cache κ) (p : Entry κ → Prop) [DecidablePred p] : Cache κ :=
  { c with
    entries := c.entries.filter fun e => ¬ p e
    closed := c.closed ++ (c.entries.filter fun e => p e).map Entry.client }

def put (c : Cache κ) (key : κ) (now : ℤ) : Cache κ :=
  { c with
    entries := (c.entries.filter fun e => e.key ≠ key) ++ [⟨key, c.created.length, now⟩]
    created := c.created ++ [key] }

def listed (order : List κ) (entries : List (Entry κ)) : List (Entry κ) :=
  order.filterMap (fun key => entries.find? fun e => e.key = key) ++ entries.filter fun e => e.key ∉ order

def older (best : Option (Entry κ)) (e : Entry κ) : Option (Entry κ) :=
  match best with
  | none => some e
  | some b => if e.lastUsed < b.lastUsed then some e else some b

def evictOldest (order : List κ) (c : Cache κ) : Cache κ :=
  match (listed order c.entries).foldl older none with
  | some oldest => drop c fun e => e.key = oldest.key
  | none => c

/-- Every client is cached under its own key or closed, once. -/
structure Sound (c : Cache κ) : Prop where
  keys : (c.entries.map Entry.key).Nodup
  owned : ∀ e ∈ c.entries, c.created[e.client]? = some e.key
  accounted : (c.entries.map Entry.client ++ c.closed).Perm (List.range c.created.length)

section Entries

variable {c : Cache κ} {e : Entry κ} {key : κ} {now : ℤ} {p : Entry κ → Prop} [DecidablePred p] {order : List κ}

lemma mem_of_find? (h : find? c key = some e) : e ∈ c.entries ∧ e.key = key :=
  ⟨List.mem_of_find?_eq_some h, by simpa using List.find?_some h⟩

lemma find?_eq_none : find? c key = none ↔ ∀ e ∈ c.entries, e.key ≠ key := by
  simp [find?]

lemma Sound.find? (h : Sound c) (he : e ∈ c.entries) : find? c e.key = some e := by
  cases hfind : RecencyCache.find? c e.key with
  | none => exact absurd rfl (find?_eq_none.mp hfind e he)
  | some e' =>
    obtain ⟨he', hkey⟩ := mem_of_find? hfind
    rw [eq_of_key_eq h.keys he' he hkey]

lemma mem_touch {e' : Entry κ} (h : e' ∈ (touch c key now).entries) :
    ∃ e ∈ c.entries, e'.key = e.key ∧ e'.client = e.client ∧
      (e.key = key ∧ e'.lastUsed = now ∨ e.key ≠ key ∧ e'.lastUsed = e.lastUsed) := by
  obtain ⟨e, he, rfl⟩ := List.mem_map.mp h
  refine ⟨e, he, ?_⟩
  split_ifs with hkey
  · exact ⟨rfl, rfl, .inl ⟨hkey, rfl⟩⟩
  · exact ⟨rfl, rfl, .inr ⟨hkey, rfl⟩⟩

lemma touch_mem (he : e ∈ c.entries) (key : κ) (now : ℤ) :
    ∃ e' ∈ (touch c key now).entries, e'.key = e.key ∧ e'.client = e.client ∧
      (e.key = key ∧ e'.lastUsed = now ∨ e.key ≠ key ∧ e'.lastUsed = e.lastUsed) := by
  refine ⟨_, List.mem_map_of_mem he, ?_⟩
  split_ifs with hkey
  · exact ⟨rfl, rfl, .inl ⟨hkey, rfl⟩⟩
  · exact ⟨rfl, rfl, .inr ⟨hkey, rfl⟩⟩

omit [DecidableEq κ] in
lemma mem_drop : e ∈ (drop c p).entries ↔ e ∈ c.entries ∧ ¬ p e := by
  simp [drop]

lemma mem_put : e ∈ (put c key now).entries ↔
    e ∈ c.entries ∧ e.key ≠ key ∨ e = ⟨key, c.created.length, now⟩ := by
  simp [put]

lemma mem_listed (h : (c.entries.map Entry.key).Nodup) : e ∈ listed order c.entries ↔ e ∈ c.entries := by
  rw [listed, List.mem_append, List.mem_filterMap, List.mem_filter]
  constructor
  · rintro (⟨key, -, hfind⟩ | ⟨he, -⟩)
    · exact List.mem_of_find?_eq_some hfind
    · exact he
  · intro he
    by_cases hkey : e.key ∈ order
    · refine .inl ⟨e.key, hkey, ?_⟩
      cases hfind : c.entries.find? fun x => x.key = e.key with
      | none => exact absurd (List.find?_eq_none.mp hfind e he) (by simp)
      | some e' =>
        have hsame : e'.key = e.key := by simpa using List.find?_some hfind
        rw [eq_of_key_eq h (List.mem_of_find?_eq_some hfind) he hsame]
    · exact .inr ⟨he, decide_eq_true hkey⟩

end Entries

section Sound

variable {c : Cache κ} {e : Entry κ} {key : κ} {now : ℤ} {order : List κ}

omit [DecidableEq κ] in
lemma sound_empty : Sound (empty : Cache κ) := ⟨List.nodup_nil, fun e he => (by cases he), List.Perm.refl _⟩

omit [DecidableEq κ] in
/-- What is cached is not closed. -/
lemma Sound.not_closed (h : Sound c) (he : e ∈ c.entries) : e.client ∉ c.closed := by
  have hnodup := h.accounted.nodup_iff.mpr List.nodup_range
  exact fun hclosed => (List.nodup_append.mp hnodup).2.2 _ (List.mem_map_of_mem he) _ hclosed rfl

lemma Sound.touch (h : Sound c) (key : κ) (now : ℤ) : Sound (touch c key now) := by
  have hmap : ∀ {β : Type} (f : Entry κ → β), (∀ e : Entry κ, f { e with lastUsed := now } = f e) →
      (RecencyCache.touch c key now).entries.map f = c.entries.map f := by
    intro β f hf
    simp only [RecencyCache.touch, updateRows, List.map_map]
    refine List.map_congr_left fun e _ => ?_
    rw [Function.comp_apply]
    split_ifs
    · exact hf e
    · rfl
  refine ⟨?_, ?_, ?_⟩
  · rw [hmap Entry.key fun _ => rfl]
    exact h.keys
  · intro e' he'
    obtain ⟨e, he, hkey, hclient, -⟩ := mem_touch he'
    rw [hkey, hclient]
    exact h.owned e he
  · rw [hmap Entry.client fun _ => rfl]
    exact h.accounted

omit [DecidableEq κ] in
lemma Sound.drop (h : Sound c) (p : Entry κ → Prop) [DecidablePred p] : Sound (drop c p) where
  keys := h.keys.sublist (List.filter_sublist.map _)
  owned := fun e he => h.owned e (mem_drop.mp he).1
  accounted := by
    have hsplit : (c.entries.filter (fun e => ¬ p e) ++ c.entries.filter fun e => p e).Perm c.entries := by
      simpa using (List.perm_append_comm.trans (List.filter_append_perm (fun e => decide (p e)) c.entries))
    have hclients := hsplit.map Entry.client
    rw [List.map_append] at hclients
    refine List.Perm.trans ?_ h.accounted
    simp only [RecencyCache.drop]
    refine (List.Perm.append_left _ List.perm_append_comm).trans ?_
    rw [← List.append_assoc]
    exact hclients.append_right _

lemma Sound.put (h : Sound c) (hnew : RecencyCache.find? c key = none) (now : ℤ) : Sound (put c key now) := by
  have hfresh := find?_eq_none.mp hnew
  have hkept : (c.entries.filter fun e => e.key ≠ key) = c.entries :=
    List.filter_eq_self.mpr fun e he => decide_eq_true (hfresh e he)
  refine ⟨?_, ?_, ?_⟩
  · simp only [RecencyCache.put, hkept, List.map_append, List.map_cons, List.map_nil]
    refine List.nodup_append.mpr ⟨h.keys, List.nodup_singleton key, ?_⟩
    intro k hk k' hk' heq
    obtain ⟨e, he, rfl⟩ := List.mem_map.mp hk
    exact hfresh e he (heq.trans (List.mem_singleton.mp hk'))
  · intro e he
    rcases mem_put.mp he with ⟨he, -⟩ | rfl
    · have hold := h.owned e he
      obtain ⟨hlt, -⟩ := List.getElem?_eq_some_iff.mp hold
      rw [RecencyCache.put, List.getElem?_append_left hlt]
      exact hold
    · exact List.getElem?_concat_length
  · simp only [RecencyCache.put, hkept, List.map_append, List.map_cons, List.map_nil, List.length_append,
      List.length_singleton, List.range_succ, List.append_assoc, List.singleton_append]
    exact (List.perm_middle.trans (h.accounted.cons _)).trans (List.perm_append_singleton _ _).symm

omit [DecidableEq κ] in
lemma older_from (es : List (Entry κ)) (best : Entry κ) :
    ∃ oldest, es.foldl older (some best) = some oldest ∧ oldest ∈ best :: es ∧
      ∀ e ∈ best :: es, oldest.lastUsed ≤ e.lastUsed := by
  induction es generalizing best with
  | nil => exact ⟨best, rfl, List.mem_singleton.mpr rfl, fun e he => by rw [List.mem_singleton.mp he]⟩
  | cons e es ih =>
    simp only [List.foldl_cons, older]
    split_ifs with holder
    · obtain ⟨oldest, hfold, hmem, hleast⟩ := ih e
      refine ⟨oldest, hfold, List.mem_cons_of_mem best hmem, fun x hx => ?_⟩
      rcases List.mem_cons.mp hx with rfl | hx
      · exact (hleast e List.mem_cons_self).trans holder.le
      · exact hleast x hx
    · obtain ⟨oldest, hfold, hmem, hleast⟩ := ih best
      refine ⟨oldest, hfold, ?_, fun x hx => ?_⟩
      · rcases List.mem_cons.mp hmem with rfl | hmem
        · exact List.mem_cons_self
        · exact List.mem_cons_of_mem _ (List.mem_cons_of_mem _ hmem)
      · rcases List.mem_cons.mp hx with rfl | hx
        · exact hleast x List.mem_cons_self
        rcases List.mem_cons.mp hx with rfl | hx
        · exact (hleast best List.mem_cons_self).trans (not_lt.mp holder)
        · exact hleast x (List.mem_cons_of_mem _ hx)

lemma evictOldest_cases (h : Sound c) (order : List κ) :
    c.entries = [] ∧ evictOldest order c = c ∨
      ∃ oldest ∈ c.entries, (∀ e ∈ c.entries, oldest.lastUsed ≤ e.lastUsed) ∧
        evictOldest order c = RecencyCache.drop c fun e => e.key = oldest.key := by
  unfold evictOldest
  cases hlisted : listed order c.entries with
  | nil =>
    refine .inl ⟨List.eq_nil_iff_forall_not_mem.mpr fun e he => ?_, rfl⟩
    exact List.not_mem_nil (hlisted ▸ (mem_listed h.keys).mpr he)
  | cons first rest =>
    obtain ⟨oldest, hfold, hmem, hleast⟩ := older_from rest first
    rw [← hlisted] at hmem hleast
    refine .inr ⟨oldest, (mem_listed h.keys).mp hmem, fun e he => hleast e ((mem_listed h.keys).mpr he), ?_⟩
    have hall : (first :: rest).foldl older none = some oldest := hfold
    rw [hall]

lemma Sound.evictOldest (h : Sound c) (order : List κ) : Sound (evictOldest order c) := by
  rcases evictOldest_cases h order with ⟨-, heq⟩ | ⟨oldest, -, -, heq⟩
  · rwa [heq]
  · rw [heq]
    exact h.drop _

lemma evictOldest_created (order : List κ) (c : Cache κ) : (RecencyCache.evictOldest order c).created = c.created := by
  unfold RecencyCache.evictOldest
  split <;> rfl

lemma mem_of_mem_evictOldest (h : Sound c) (he : e ∈ (RecencyCache.evictOldest order c).entries) : e ∈ c.entries := by
  rcases evictOldest_cases h order with ⟨-, heq⟩ | ⟨oldest, -, -, heq⟩
  · rwa [heq] at he
  · rw [heq] at he
    exact (mem_drop.mp he).1

lemma length_evictOldest (h : Sound c) (order : List κ) (hne : c.entries ≠ []) :
    (RecencyCache.evictOldest order c).entries.length < c.entries.length := by
  rcases evictOldest_cases h order with ⟨hnil, -⟩ | ⟨oldest, hmem, -, heq⟩
  · exact absurd hnil hne
  · rw [heq]
    exact List.length_filter_lt_length_iff_exists.mpr ⟨oldest, hmem, by simp⟩

/-- An entry survives as long as too few others are as recent to fill the cache. -/
lemma recent_kept (h : Sound c) (he : e ∈ c.entries) (others : Finset κ)
    (hothers : ∀ e' ∈ c.entries, e.lastUsed ≤ e'.lastUsed → e'.key = e.key ∨ e'.key ∈ others)
    (hroom : others.card + 1 < c.entries.length) : e ∈ (RecencyCache.evictOldest order c).entries := by
  rcases evictOldest_cases h order with ⟨-, heq⟩ | ⟨oldest, hmem, hleast, heq⟩
  · rwa [heq]
  rw [heq]
  refine mem_drop.mpr ⟨he, fun hkey => ?_⟩
  obtain rfl := eq_of_key_eq h.keys he hmem hkey
  -- all entries would be as recent as the one evicted
  have hsub : (c.entries.map Entry.key).toFinset ⊆ insert e.key others := by
    intro key hkey
    obtain ⟨e', he', rfl⟩ := List.mem_map.mp (List.mem_toFinset.mp hkey)
    exact Finset.mem_insert.mpr (hothers e' he' (hleast e' he'))
  have hcard := (Finset.card_le_card hsub).trans (Finset.card_insert_le _ _)
  rw [List.toFinset_card_of_nodup h.keys, List.length_map] at hcard
  omega

end Sound

end ShareSub.RecencyCache

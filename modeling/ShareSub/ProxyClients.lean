import ShareSub.GatewayModel
import ShareSub.RecencyCache

/-!
# HTTP clients for outbound proxies

Accounts reach the upstream through proxies of their own. The gateway and the WebSocket dialer each keep the clients they
have built, one for a proxy, and close the idle connections of those they let go.
-/
namespace ShareSub.ProxyClients

open RecencyCache
open GatewayModel (trimSpace)

def maxProxyClients : ℕ := 16

/-- Thirty minutes, in nanoseconds. -/
def proxyClientTTL : ℤ := 30 * 60 * 10 ^ 9

def wsProxyClientCacheLimit : ℕ := 256

def wsProxyClientCacheTTL : ℤ := 15 * 60 * 10 ^ 9

inductive Answer
  | direct
  | client (id : ℕ)
  | invalidURL
  | closed
  deriving DecidableEq

section Gateway

variable (parses : String → Bool)

def pruneProxyClients (c : Cache String) (now : ℤ) : Cache String := drop c fun e => ¬ now - e.lastUsed < proxyClientTTL

/-- The cache is iterated in the given order, first the keys listed. -/
def clientForProxy (c : Cache String) (now : ℤ) (order : List String) (rawURL : String) : Cache String × Answer :=
  if rawURL = "" then (c, .direct)
  else
    match find? (pruneProxyClients c now) rawURL with
    | some entry => (touch (pruneProxyClients c now) rawURL now, .client entry.client)
    | none =>
      if ¬ parses rawURL then (pruneProxyClients c now, .invalidURL)
      else if maxProxyClients ≤ (pruneProxyClients c now).entries.length then
        (put (evictOldest order (pruneProxyClients c now)) rawURL now, .client c.created.length)
      else (put (pruneProxyClients c now) rawURL now, .client c.created.length)

inductive Step
  | ask (url : String) (now : ℤ) (order : List String)
  | close

def step (c : Cache String) : Step → Cache String
  | .ask url now order => (clientForProxy parses c now order url).1
  | .close => drop c fun _ => True

def run (steps : List Step) : Cache String := steps.foldl (step parses) empty

end Gateway

section Accounts

variable {parses : String → Bool} {c : Cache String} {now : ℤ} {order : List String} {url : String} {id : ℕ}

structure Bounded (c : Cache String) : Prop extends Sound c where
  room : c.entries.length ≤ maxProxyClients

lemma Bounded.prune (h : Bounded c) (now : ℤ) : Bounded (pruneProxyClients c now) :=
  ⟨h.toSound.drop _, (List.length_filter_le _ _).trans h.room⟩

/-- What a call for a proxy does to the pruned cache. -/
inductive Asked (c c' : Cache String) (now : ℤ) (url : String) : Answer → Prop
  | direct (hurl : url = "") (heq : c' = c) : Asked c c' now url .direct
  | found {entry : Entry String} (hfind : find? (pruneProxyClients c now) url = some entry)
      (heq : c' = touch (pruneProxyClients c now) url now) : Asked c c' now url (.client entry.client)
  | invalid (hurl : url ≠ "") (heq : c' = pruneProxyClients c now) : Asked c c' now url .invalidURL
  | created {kept : Cache String} (hfind : find? (pruneProxyClients c now) url = none)
      (hkept : kept = pruneProxyClients c now ∧ kept.entries.length < maxProxyClients ∨
        ∃ order, kept = evictOldest order (pruneProxyClients c now) ∧
          maxProxyClients ≤ (pruneProxyClients c now).entries.length)
      (heq : c' = put kept url now) : Asked c c' now url (.client c.created.length)

lemma clientForProxy_asked (parses : String → Bool) (c : Cache String) (now : ℤ) (order : List String) (url : String) :
    Asked c (clientForProxy parses c now order url).1 now url (clientForProxy parses c now order url).2 := by
  unfold clientForProxy
  by_cases hurl : url = ""
  · rw [if_pos hurl]
    exact .direct hurl rfl
  rw [if_neg hurl]
  cases hfind : find? (pruneProxyClients c now) url with
  | some entry => exact .found hfind rfl
  | none =>
    dsimp only
    split_ifs with hparses hfull
    · exact .created hfind (.inr ⟨order, rfl, hfull⟩) rfl
    · exact .created hfind (.inl ⟨rfl, not_le.mp hfull⟩) rfl
    · exact .invalid hurl rfl

lemma Bounded.asked {answer : Answer} {c' : Cache String} (h : Bounded c) (hask : Asked c c' now url answer) :
    Bounded c' := by
  have hprune := h.prune now
  cases hask with
  | direct hurl heq => rwa [heq]
  | found hfind heq =>
    rw [heq]
    refine ⟨hprune.toSound.touch url now, ?_⟩
    rw [touch, updateRows, List.length_map]
    exact hprune.room
  | invalid hurl heq => rwa [heq]
  | @created kept hfind hkept heq =>
    have habsent := find?_eq_none.mp hfind
    obtain ⟨hsound, hnew, hroom⟩ : Sound kept ∧ find? kept url = none ∧ kept.entries.length < maxProxyClients := by
      rcases hkept with ⟨rfl, hroom⟩ | ⟨order, rfl, hfull⟩
      · exact ⟨hprune.toSound, hfind, hroom⟩
      · refine ⟨hprune.toSound.evictOldest order, find?_eq_none.mpr fun e he => ?_, ?_⟩
        · exact habsent e (mem_of_mem_evictOldest hprune.toSound he)
        · refine (length_evictOldest hprune.toSound order fun hnil => ?_).trans_le hprune.room
          rw [hnil] at hfull
          exact absurd hfull (by decide)
    rw [heq]
    refine ⟨hsound.put hnew now, ?_⟩
    have hlength := List.length_filter_le (fun e => decide (e.key ≠ url)) kept.entries
    rw [put, List.length_append, List.length_singleton]
    omega

/-- The client of an answer is cached for the proxy asked for. -/
lemma cached_of_asked {c' : Cache String} (hask : Asked c c' now url (.client id)) :
    ∃ e ∈ c'.entries, e.key = url ∧ e.client = id ∧ e.lastUsed = now := by
  cases hask with
  | found hfind heq =>
    obtain ⟨hmem, hkey⟩ := mem_of_find? hfind
    obtain ⟨e, he, hsame, hclient, hused⟩ := touch_mem hmem url now
    rw [heq]
    exact ⟨e, he, hsame.trans hkey, hclient, (hused.resolve_right fun hne => hne.1 hkey).2⟩
  | @created kept hfind hkept heq =>
    have hcreated : kept.created = c.created := by
      rcases hkept with ⟨rfl, -⟩ | ⟨order, rfl, -⟩
      · rfl
      · exact evictOldest_created order _
    rw [heq]
    exact ⟨_, mem_put.mpr (.inr rfl), rfl, congrArg List.length hcreated, rfl⟩

lemma Bounded.step (h : Bounded c) (s : Step) : Bounded (step parses c s) := by
  cases s with
  | ask url now order => exact h.asked (clientForProxy_asked parses c now order url)
  | close => exact ⟨h.toSound.drop _, (List.length_filter_le _ _).trans h.room⟩

lemma run_bounded (parses : String → Bool) (steps : List Step) : Bounded (run parses steps) := by
  induction steps using List.reverseRecOn with
  | nil => exact ⟨sound_empty, Nat.zero_le _⟩
  | append_singleton steps s ih =>
    unfold run at ih ⊢
    rw [List.foldl_concat]
    exact ih.step s

/-- At any time at most sixteen clients of proxies may hold idle connections, every other client ever built has been
closed, once, and a call gets a client that was built for its proxy and is not closed. -/
theorem proxy_clients_accounted (parses : String → Bool) (steps : List Step) :
    Sound (run parses steps) ∧ (run parses steps).entries.length ≤ maxProxyClients ∧
      ∀ now order url id, (clientForProxy parses (run parses steps) now order url).2 = .client id →
        (clientForProxy parses (run parses steps) now order url).1.created[id]? = some url ∧
          id ∉ (clientForProxy parses (run parses steps) now order url).1.closed := by
  have hrun := run_bounded parses steps
  refine ⟨hrun.toSound, hrun.room, fun now order url id hid => ?_⟩
  have hask := clientForProxy_asked parses (run parses steps) now order url
  rw [hid] at hask
  have hnext := (hrun.asked hask).toSound
  obtain ⟨e, he, rfl, rfl, -⟩ := cached_of_asked hask
  exact ⟨hnext.owned e he, hnext.not_closed he⟩

end Accounts

section Reuse

variable {parses : String → Bool} {c : Cache String} {now t : ℤ} {order : List String} {url u : String} {id : ℕ}
  {steps : List Step}

/-- The proxies asked for at a time or after it. -/
def askedSince (t : ℤ) : List Step → Finset String
  | [] => ∅
  | .ask url now _ :: steps => if t ≤ now then insert url (askedSince t steps) else askedSince t steps
  | .close :: steps => askedSince t steps

lemma askedSince_append (steps steps' : List Step) :
    askedSince t (steps ++ steps') = askedSince t steps ∪ askedSince t steps' := by
  induction steps with
  | nil => simp [askedSince]
  | cons s steps ih =>
    cases s with
    | ask url now order =>
      simp only [List.cons_append, askedSince, ih]
      split_ifs
      · rw [Finset.insert_union]
      · rfl
    | close => exact ih

/-- Whatever was used since has been asked for since. -/
def Stamped (t : ℤ) (steps : List Step) (c : Cache String) : Prop :=
  ∀ e ∈ c.entries, t ≤ e.lastUsed → e.key ∈ askedSince t steps

lemma Stamped.ask {c' : Cache String} {answer : Answer} (h : Stamped t steps c) (hc : Bounded c)
    (hask : Asked c c' now u answer) (order : List String) : Stamped t (steps ++ [.ask u now order]) c' := by
  have hnow : t ≤ now → u ∈ askedSince t (steps ++ [.ask u now order]) := by
    intro hle
    rw [askedSince_append, askedSince, if_pos hle]
    exact Finset.mem_union_right _ (Finset.mem_insert_self _ _)
  have hold : ∀ e ∈ c.entries, t ≤ e.lastUsed → e.key ∈ askedSince t (steps ++ [.ask u now order]) := by
    intro e he hle
    rw [askedSince_append]
    exact Finset.mem_union_left _ (h e he hle)
  have hprune : ∀ e ∈ (pruneProxyClients c now).entries, e ∈ c.entries := fun e he => (mem_drop.mp he).1
  cases hask with
  | direct hurl heq => rwa [heq]
  | found hfind heq =>
    rw [heq]
    intro e he hle
    obtain ⟨e₀, he₀, hkey, -, ⟨hu, hused⟩ | ⟨-, hused⟩⟩ := mem_touch he
    · rw [hkey, hu]
      exact hnow (hused ▸ hle)
    · rw [hkey]
      exact hold e₀ (hprune e₀ he₀) (hused ▸ hle)
  | invalid hurl heq =>
    rw [heq]
    exact fun e he => hold e (hprune e he)
  | @created kept hfind hkept heq =>
    rw [heq]
    intro e he hle
    rcases mem_put.mp he with ⟨he, -⟩ | rfl
    · refine hold e (hprune e ?_) hle
      rcases hkept with ⟨rfl, -⟩ | ⟨order, rfl, -⟩
      · exact he
      · exact mem_of_mem_evictOldest (hc.prune now).toSound he
    · exact hnow hle

lemma run_stamped (t : ℤ) (steps : List Step) : Stamped t steps (run parses steps) := by
  induction steps using List.reverseRecOn with
  | nil => exact fun e he => by cases he
  | append_singleton steps s ih =>
    have hbounded := run_bounded parses steps
    have hlast : run parses (steps ++ [s]) = step parses (run parses steps) s := List.foldl_concat ..
    rw [hlast]
    cases s with
    | ask u now order => exact ih.ask hbounded (clientForProxy_asked parses _ now order u) order
    | close => exact fun e he => absurd trivial (mem_drop.mp he).2

/-- The client is cached for the proxy and has been used since. -/
def Held (t : ℤ) (url : String) (id : ℕ) (c : Cache String) : Prop :=
  ∃ e ∈ c.entries, e.key = url ∧ e.client = id ∧ t ≤ e.lastUsed

lemma Held.prune (h : Held t url id c) (hnow : now - t < proxyClientTTL) :
    Held t url id (pruneProxyClients c now) := by
  obtain ⟨e, he, hkey, hclient, hused⟩ := h
  exact ⟨e, mem_drop.mpr ⟨he, not_not.mpr (by omega)⟩, hkey, hclient, hused⟩

lemma Held.ask {c' : Cache String} {answer : Answer} (h : Held t url id c) (hc : Bounded c)
    (hstamped : Stamped t steps c) (hask : Asked c c' now u answer) (ht : t ≤ now) (hnow : now - t < proxyClientTTL)
    (hfew : ((insert u (askedSince t steps)).erase url).card < maxProxyClients) : Held t url id c' := by
  obtain ⟨e, he, rfl, rfl, hused⟩ := h.prune hnow
  have hsound := (hc.prune now).toSound
  cases hask with
  | direct hurl heq => rwa [heq]
  | found hfind heq =>
    obtain ⟨e', he', hkey, hclient, hcase⟩ := touch_mem he u now
    rw [heq]
    refine ⟨e', he', hkey, hclient, ?_⟩
    rcases hcase with ⟨-, hnew⟩ | ⟨-, hsame⟩
    · rwa [hnew]
    · rwa [hsame]
  | invalid hurl heq =>
    rw [heq]
    exact ⟨e, he, rfl, rfl, hused⟩
  | @created kept hfind hkept heq =>
    have habsent := find?_eq_none.mp hfind
    have hne : u ≠ e.key := fun hu => habsent e he hu.symm
    have hmem : u ∈ (insert u (askedSince t steps)).erase e.key :=
      Finset.mem_erase.mpr ⟨hne, Finset.mem_insert_self _ _⟩
    have hcard := Finset.card_erase_add_one hmem
    rw [heq]
    refine ⟨e, mem_put.mpr (.inl ⟨?_, hne.symm⟩), rfl, rfl, hused⟩
    rcases hkept with ⟨rfl, -⟩ | ⟨order, rfl, hfull⟩
    · exact he
    · refine recent_kept hsound he (((insert u (askedSince t steps)).erase e.key).erase u) ?_ (by omega)
      intro e' he' hle
      by_cases hkey : e'.key = e.key
      · exact .inl hkey
      · have hasked := hstamped e' (mem_drop.mp he').1 (hused.trans hle)
        exact .inr (Finset.mem_erase.mpr ⟨habsent e' he', Finset.mem_erase.mpr ⟨hkey, Finset.mem_insert_of_mem hasked⟩⟩)

/-- A call before the time to live has passed. -/
def Within (t : ℤ) : Step → Prop
  | .ask _ now _ => t ≤ now ∧ now - t < proxyClientTTL
  | .close => False

lemma run_held {before later : List Step} (order : List String)
    (hserved : (clientForProxy parses (run parses before) t order url).2 = .client id)
    (hlater : ∀ s ∈ later, Within t s) (hfew : ((askedSince t (before ++ later)).erase url).card < maxProxyClients) :
    Held t url id (run parses (before ++ [.ask url t order] ++ later)) := by
  induction later using List.reverseRecOn with
  | nil =>
    have hask := clientForProxy_asked parses (run parses before) t order url
    rw [hserved] at hask
    obtain ⟨e, he, hkey, hclient, hused⟩ := cached_of_asked hask
    have hlast : run parses (before ++ [.ask url t order]) = (clientForProxy parses (run parses before) t order url).1 :=
      List.foldl_concat ..
    rw [List.append_nil, hlast]
    exact ⟨e, he, hkey, hclient, hused.ge⟩
  | append_singleton later s ih =>
    have hmore : askedSince t (before ++ later) ⊆ askedSince t (before ++ (later ++ [s])) := by
      rw [← List.append_assoc, askedSince_append (before ++ later)]
      exact Finset.subset_union_left
    have hheld := ih (fun s hs => hlater s (List.mem_append_left _ hs))
      ((Finset.card_le_card (Finset.erase_subset_erase _ hmore)).trans_lt hfew)
    have hlast : run parses (before ++ [.ask url t order] ++ (later ++ [s])) =
        step parses (run parses (before ++ [.ask url t order] ++ later)) s := by
      rw [← List.append_assoc]
      exact List.foldl_concat ..
    rw [hlast]
    have hwithin := hlater s (List.mem_append_right _ (List.mem_singleton.mpr rfl))
    cases s with
    | ask u now o =>
      refine hheld.ask (run_bounded parses _) (run_stamped t _) (clientForProxy_asked ..) hwithin.1 hwithin.2 ?_
      refine lt_of_le_of_lt (Finset.card_le_card ?_) hfew
      -- the proxy itself is not counted
      intro v hv
      obtain ⟨hne, hv⟩ := Finset.mem_erase.mp hv
      refine Finset.mem_erase.mpr ⟨hne, ?_⟩
      simp only [askedSince_append, askedSince, if_pos hwithin.1, if_pos (le_refl t), Finset.mem_insert,
        Finset.mem_union, Finset.notMem_empty, or_false] at hv ⊢
      tauto
    | close => exact hwithin.elim

/-- A proxy that is asked for again within the time to live gets the client it got, unless sixteen other proxies have been
asked for in the meantime or at that very time. -/
theorem recent_client_reused (parses : String → Bool) (before later : List Step) (url : String) (t t' : ℤ)
    (order order' : List String) (id : ℕ)
    (hserved : (clientForProxy parses (run parses before) t order url).2 = .client id)
    (hlater : ∀ s ∈ later, Within t s) (ht' : t' - t < proxyClientTTL)
    (hfew : ((askedSince t (before ++ later)).erase url).card < maxProxyClients) :
    (clientForProxy parses (run parses (before ++ [.ask url t order] ++ later)) t' order' url).2 = .client id := by
  obtain ⟨e, he, rfl, rfl, -⟩ := (run_held order hserved hlater hfew).prune ht'
  have hurl : e.key ≠ "" := by
    intro hempty
    rw [clientForProxy, if_pos hempty] at hserved
    cases hserved
  have hfind := ((run_bounded parses (before ++ [.ask e.key t order] ++ later)).prune t').toSound.find? he
  rw [clientForProxy, if_neg hurl, hfind]

theorem recent_client_reused_twoProxies :
    (clientForProxy (fun _ => true)
      (run (fun _ => true) ([.close] ++ [.ask "http://a" 5 []] ++ [.ask "http://b" 7 [], .ask "http://b" 9 []])) 11 []
        "http://a").2 = .client 0 :=
  recent_client_reused (fun _ => true) [.close] [.ask "http://b" 7 [], .ask "http://b" 9 []] "http://a" 5 11 [] [] 0
    (by decide) (by simp [Within, proxyClientTTL]) (by decide) (by decide)

end Reuse

section Dialer

structure Dialer where
  cache : Cache String
  closed : Bool

def pruneProxyClientsLocked (c : Cache String) (now : ℤ) : Cache String :=
  drop c fun e => wsProxyClientCacheTTL < now - e.lastUsed

/-- Evicts while there are too many entries; every round lists the cache in an order of its own. -/
def enforceProxyClientCapacityLocked (orders : ℕ → List String) : ℕ → Cache String → Cache String
  | 0, c => c
  | rounds + 1, c =>
    if wsProxyClientCacheLimit < c.entries.length then
      enforceProxyClientCapacityLocked orders rounds (evictOldest (orders rounds) c)
    else c

def proxyURL (outbound account : String) : String := if trimSpace account = "" then trimSpace outbound else trimSpace account

def proxyHTTPClient (parses : String → Bool) (outbound : String) (d : Dialer) (now : ℤ) (orders : ℕ → List String)
    (account : String) : Dialer × Answer :=
  if proxyURL outbound account = "" then (d, .direct)
  else if ¬ parses (proxyURL outbound account) then (d, .invalidURL)
  else if d.closed then (d, .closed)
  else
    match find? d.cache (proxyURL outbound account) with
    | some entry => ({ d with cache := touch d.cache (proxyURL outbound account) now }, .client entry.client)
    | none =>
      let c := put (pruneProxyClientsLocked d.cache now) (proxyURL outbound account) now
      ({ d with cache := enforceProxyClientCapacityLocked orders c.entries.length c }, .client d.cache.created.length)

def Dialer.close (d : Dialer) : Dialer := if d.closed then d else ⟨drop d.cache fun _ => True, true⟩

inductive DialStep
  | dial (account : String) (now : ℤ) (orders : ℕ → List String)
  | close

def dialStep (parses : String → Bool) (outbound : String) (d : Dialer) : DialStep → Dialer
  | .dial account now orders => (proxyHTTPClient parses outbound d now orders account).1
  | .close => d.close

def dials (parses : String → Bool) (outbound : String) (steps : List DialStep) : Dialer :=
  steps.foldl (dialStep parses outbound) ⟨empty, false⟩

variable {parses : String → Bool} {outbound account : String} {d : Dialer} {now : ℤ} {orders : ℕ → List String}
  {c : Cache String} {id : ℕ}

lemma enforce_sound (h : Sound c) (rounds : ℕ) : Sound (enforceProxyClientCapacityLocked orders rounds c) := by
  induction rounds generalizing c with
  | zero => exact h
  | succ rounds ih =>
    unfold enforceProxyClientCapacityLocked
    split_ifs
    · exact ih (h.evictOldest _)
    · exact h

/-- As many rounds as there are entries are enough. -/
lemma enforce_room (h : Sound c) {rounds : ℕ} (hrounds : c.entries.length ≤ rounds + wsProxyClientCacheLimit) :
    (enforceProxyClientCapacityLocked orders rounds c).entries.length ≤ wsProxyClientCacheLimit := by
  induction rounds generalizing c with
  | zero => simpa [enforceProxyClientCapacityLocked] using hrounds
  | succ rounds ih =>
    unfold enforceProxyClientCapacityLocked
    split_ifs with hfull
    · refine ih (h.evictOldest _) ?_
      have hshorter := length_evictOldest h (orders rounds) (List.ne_nil_of_length_pos (by omega))
      omega
    · exact not_lt.mp hfull

lemma enforce_created (rounds : ℕ) (c : Cache String) :
    (enforceProxyClientCapacityLocked orders rounds c).created = c.created := by
  induction rounds generalizing c with
  | zero => rfl
  | succ rounds ih =>
    unfold enforceProxyClientCapacityLocked
    split_ifs
    · rw [ih, evictOldest_created]
    · rfl

structure DialerSound (d : Dialer) : Prop extends Sound d.cache where
  room : d.cache.entries.length ≤ wsProxyClientCacheLimit
  ended : d.closed = true → d.cache.entries = []

lemma proxyHTTPClient_spec (h : DialerSound d) (parses : String → Bool) (outbound : String) (now : ℤ)
    (orders : ℕ → List String) (account : String) :
    DialerSound (proxyHTTPClient parses outbound d now orders account).1 ∧
      (proxyHTTPClient parses outbound d now orders account).1.closed = d.closed ∧
      ∀ id, (proxyHTTPClient parses outbound d now orders account).2 = .client id →
        d.closed = false ∧ (proxyHTTPClient parses outbound d now orders account).1.cache.created[id]? =
          some (proxyURL outbound account) := by
  unfold proxyHTTPClient
  by_cases hurl : proxyURL outbound account = ""
  · rw [if_pos hurl]
    exact ⟨h, rfl, fun id hid => by cases hid⟩
  rw [if_neg hurl]
  by_cases hparses : parses (proxyURL outbound account) = true
  swap
  · rw [if_pos hparses]
    exact ⟨h, rfl, fun id hid => by cases hid⟩
  rw [if_neg (not_not.mpr hparses)]
  by_cases hclosed : d.closed = true
  · rw [if_pos hclosed]
    exact ⟨h, rfl, fun id hid => by cases hid⟩
  rw [if_neg hclosed]
  have hopen : d.closed = false := by simpa using hclosed
  cases hfind : find? d.cache (proxyURL outbound account) with
  | some entry =>
    obtain ⟨hmem, hkey⟩ := mem_of_find? hfind
    refine ⟨⟨h.toSound.touch _ now, ?_, fun hc => absurd hc hclosed⟩, rfl, fun id hid => ⟨hopen, ?_⟩⟩
    · rw [touch, updateRows, List.length_map]
      exact h.room
    · obtain rfl : entry.client = id := by simpa using hid
      exact hkey ▸ h.owned entry hmem
  | none =>
    have habsent : find? (pruneProxyClientsLocked d.cache now) (proxyURL outbound account) = none :=
      find?_eq_none.mpr fun e he => find?_eq_none.mp hfind e (mem_drop.mp he).1
    have hput := (h.toSound.drop fun e => wsProxyClientCacheTTL < now - e.lastUsed).put habsent now
    refine ⟨⟨enforce_sound hput _, enforce_room hput (Nat.le_add_right _ _), fun hc => absurd hc hclosed⟩, rfl,
      fun id hid => ⟨hopen, ?_⟩⟩
    obtain rfl : d.cache.created.length = id := by simpa using hid
    rw [enforce_created]
    exact List.getElem?_concat_length

lemma Dialer.close_spec (h : DialerSound d) : DialerSound d.close ∧ d.close.closed = true := by
  unfold Dialer.close
  split_ifs with hclosed
  · exact ⟨h, hclosed⟩
  · have hnone : (drop d.cache fun _ => True).entries = [] := by simp [drop]
    exact ⟨⟨h.toSound.drop _, by rw [hnone]; exact Nat.zero_le _, fun _ => hnone⟩, rfl⟩

lemma dials_sound (parses : String → Bool) (outbound : String) (steps : List DialStep) :
    DialerSound (dials parses outbound steps) ∧
      (.close ∈ steps → (dials parses outbound steps).closed = true) := by
  induction steps using List.reverseRecOn with
  | nil => exact ⟨⟨sound_empty, Nat.zero_le _, fun _ => rfl⟩, fun h => by cases h⟩
  | append_singleton steps s ih =>
    obtain ⟨hsound, hclosed⟩ := ih
    have hlast : dials parses outbound (steps ++ [s]) = dialStep parses outbound (dials parses outbound steps) s :=
      List.foldl_concat ..
    rw [hlast]
    cases s with
    | dial account now orders =>
      obtain ⟨hnext, hsame, -⟩ := proxyHTTPClient_spec hsound parses outbound now orders account
      simp only [dialStep]
      refine ⟨hnext, fun h => hsame.trans (hclosed ?_)⟩
      simpa using h
    | close =>
      simp only [dialStep]
      exact ⟨(Dialer.close_spec hsound).1, fun _ => (Dialer.close_spec hsound).2⟩

/-- The dialer accounts for the clients it has built as the gateway does; once it has been closed none of them is cached
and none is ever handed out again. -/
theorem dialer_clients_accounted (parses : String → Bool) (outbound : String) (steps : List DialStep) :
    Sound (dials parses outbound steps).cache ∧
      (dials parses outbound steps).cache.entries.length ≤ wsProxyClientCacheLimit ∧
      (∀ now orders account id,
        (proxyHTTPClient parses outbound (dials parses outbound steps) now orders account).2 = .client id →
        .close ∉ steps ∧
          (proxyHTTPClient parses outbound (dials parses outbound steps) now orders account).1.cache.created[id]? =
            some (proxyURL outbound account)) ∧
      (.close ∈ steps → (dials parses outbound steps).cache.closed.Perm
        (List.range (dials parses outbound steps).cache.created.length)) := by
  obtain ⟨hsound, hclosed⟩ := dials_sound parses outbound steps
  refine ⟨hsound.toSound, hsound.room, fun now orders account id hid => ?_, fun hclose => ?_⟩
  · obtain ⟨-, -, hanswer⟩ := proxyHTTPClient_spec hsound parses outbound now orders account
    obtain ⟨hopen, hcreated⟩ := hanswer id hid
    refine ⟨fun hclose => ?_, hcreated⟩
    rw [hclosed hclose] at hopen
    cases hopen
  · have haccounted := hsound.accounted
    rwa [hsound.ended (hclosed hclose), List.map_nil, List.nil_append] at haccounted

end Dialer

end ShareSub.ProxyClients

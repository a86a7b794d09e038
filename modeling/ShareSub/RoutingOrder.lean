import Mathlib
import ShareSub.GatewayRouting

/-!
# The order of the balanced strategy

Candidates are compared by the part of their capacity that is used. The quota filter leaves positive capacities only, so
the cross products order them as the fractions do.
-/
namespace ShareSub.RoutingOrder

open GatewayRouting

section Sorting

variable {α κ : Type} [LinearOrder κ] {key : α → κ} {l : List α}

lemma pairwise_insertionSort_key (key : α → κ) (l : List α) :
    (l.insertionSort fun a b => key a ≤ key b).Pairwise fun a b => key a ≤ key b := by
  have htotal : Std.Total fun a b => key a ≤ key b := ⟨fun a b => le_total (key a) (key b)⟩
  have htrans : IsTrans α fun a b => key a ≤ key b := ⟨fun _ _ _ => le_trans⟩
  exact List.pairwise_insertionSort _ l

/-- Sorting by a key keeps the order of the elements that have one key. -/
lemma filter_insertionSort_key (key : α → κ) (l : List α) (k : κ) :
    (l.insertionSort fun a b => key a ≤ key b).filter (fun a => key a = k) = l.filter fun a => key a = k := by
  have hequal : (l.filter fun a => key a = k).Pairwise fun a b => key a ≤ key b := by
    refine List.pairwise_of_forall_mem_list ?_
    intro a ha b hb
    rw [List.mem_filter, decide_eq_true_eq] at ha hb
    rw [ha.2, hb.2]
  have hsublist := (List.sublist_insertionSort hequal List.filter_sublist).filter fun a => key a = k
  rw [List.filter_filter] at hsublist
  simp only [Bool.and_self] at hsublist
  refine (hsublist.eq_of_length ?_).symm
  exact ((List.perm_insertionSort _ l).filter _).length_eq.symm

end Sorting

section Loads

/-- The part of the capacity that is used: of the account in a shared plan, of the member's share in a fixed one. -/
def load (c : GatewayCredential) : ℚ :=
  if c.shared then c.accountUsageMicros / 10000 else c.usageMicros / c.shareBasisPoints

/-- The load, then the priority of the route. -/
def routingKey (c : GatewayCredential) : ℚ ×ₗ ℤ := toLex (load c, c.routePriority)

/-- The usages are millionths of a percentage, and the share passes the check of its column. -/
structure InBounds (c : GatewayCredential) : Prop where
  usage : 0 ≤ c.usageMicros ∧ c.usageMicros ≤ 100000000
  accountUsage : 0 ≤ c.accountUsageMicros ∧ c.accountUsageMicros ≤ 100000000
  share : 0 ≤ c.shareBasisPoints ∧ c.shareBasisPoints ≤ 10000

variable {c a b : GatewayCredential}

/-- The capacity is positive. -/
def Capable (c : GatewayCredential) : Prop := 0 < (credentialQuotaLoad c).2

lemma load_eq (c : GatewayCredential) : load c = (credentialQuotaLoad c).1 / (credentialQuotaLoad c).2 := by
  unfold load credentialQuotaLoad
  split_ifs
  · simp [maxShareBPS]
  · rfl

lemma less_iff (ha : Capable a) (hb : Capable b) : less a b = true ↔ routingKey a < routingKey b := by
  have ha' : (0 : ℚ) < (credentialQuotaLoad a).2 := by exact_mod_cast ha
  have hb' : (0 : ℚ) < (credentialQuotaLoad b).2 := by exact_mod_cast hb
  have hlt : (credentialQuotaLoad a).1 * (credentialQuotaLoad b).2 < (credentialQuotaLoad b).1 * (credentialQuotaLoad a).2 ↔
      load a < load b := by
    rw [load_eq, load_eq, div_lt_div_iff₀ ha' hb']
    exact_mod_cast Iff.rfl
  have heq : (credentialQuotaLoad a).1 * (credentialQuotaLoad b).2 = (credentialQuotaLoad b).1 * (credentialQuotaLoad a).2 ↔
      load a = load b := by
    rw [load_eq, load_eq, div_eq_div_iff ha'.ne' hb'.ne']
    exact_mod_cast Iff.rfl
  unfold less routingKey
  rw [Prod.Lex.toLex_lt_toLex]
  dsimp only
  split_ifs with h
  · have hload := heq.mp h
    simp [hload]
  · have hload : load a ≠ load b := fun hload => h (heq.mpr hload)
    simp [hload, hlt]

lemma credentialQuotaLoad_bounds (h : InBounds c) :
    (0 ≤ (credentialQuotaLoad c).1 ∧ (credentialQuotaLoad c).1 ≤ 100000000) ∧
      0 ≤ (credentialQuotaLoad c).2 ∧ (credentialQuotaLoad c).2 ≤ 10000 := by
  unfold credentialQuotaLoad
  split_ifs
  · exact ⟨h.accountUsage, by norm_num [maxShareBPS], by norm_num [maxShareBPS]⟩
  · exact ⟨h.usage, h.share⟩

/-- The products of the comparison fit the machine word. -/
lemma product_exact (ha : InBounds a) (hb : InBounds b) :
    Int.bmod ((credentialQuotaLoad a).1 * (credentialQuotaLoad b).2) (2 ^ 64) =
      (credentialQuotaLoad a).1 * (credentialQuotaLoad b).2 := by
  obtain ⟨⟨hlow, hhigh⟩, -⟩ := credentialQuotaLoad_bounds ha
  obtain ⟨-, hlow', hhigh'⟩ := credentialQuotaLoad_bounds hb
  have hnonneg := mul_nonneg hlow hlow'
  have hle := mul_le_mul hhigh hhigh' hlow' (by norm_num)
  exact Int.bmod_eq_of_le (by norm_num; omega) (by norm_num; omega)

end Loads

section Filter

variable {excluded : List String} {quota : ℕ → QuotaAnswers} {k : ℕ} {candidates credentials : List GatewayCredential}
  {c : GatewayCredential}

/-- The available candidates are some of the candidates, and none of them is exhausted. -/
lemma available_spec (h : available excluded quota k candidates = .ok credentials) :
    List.Sublist credentials candidates ∧
      ∀ c ∈ credentials, ∃ i, gatewayCredentialQuotaExhausted c (quota i) = .ok false := by
  induction candidates generalizing k credentials with
  | nil =>
    cases h
    exact ⟨List.Sublist.refl _, fun c hc => by cases hc⟩
  | cons c candidates ih =>
    rw [available] at h
    split_ifs at h with hexcluded
    · obtain ⟨hsub, hquota⟩ := ih h
      exact ⟨hsub.cons c, hquota⟩
    · split at h
      · cases h
      · next exhausted hexhausted =>
        cases hrest : available excluded quota (k + 1) candidates with
        | error e =>
          rw [hrest] at h
          cases h
        | ok rest =>
          rw [hrest] at h
          obtain ⟨hsub, hquota⟩ := ih hrest
          cases exhausted with
          | true =>
            cases h
            exact ⟨hsub.cons c, hquota⟩
          | false =>
            cases h
            refine ⟨hsub.cons_cons c, ?_⟩
            intro d hd
            rcases List.mem_cons.mp hd with rfl | hd
            · exact ⟨k, hexhausted⟩
            · exact hquota d hd

/-- A candidate with no capacity counts as exhausted. -/
lemma capable_of_not_exhausted {answers : QuotaAnswers} (h : gatewayCredentialQuotaExhausted c answers = .ok false)
    (hbounds : InBounds c) : Capable c := by
  have hmax : 0 < maxShareBPS := by decide
  unfold gatewayCredentialQuotaExhausted at h
  unfold Capable credentialQuotaLoad
  split at h
  · cases h
  · cases h
  · by_cases hshared : c.shared = true
    · rwa [if_pos hshared]
    · have hmode : ¬ (c.shared = true ∧ c.usdLimitMicros = none) := fun hmode => hshared hmode.1
      have hpos := hbounds.share.1
      rw [if_neg hmode, if_neg hshared] at h
      rw [if_neg hshared]
      split_ifs at h with hzero
      · cases h
      · dsimp only
        omega

end Filter

section Order

variable {excluded : List String} {quota : ℕ → QuotaAnswers} {candidates credentials : List GatewayCredential}

/-- A strict weak order on the members of a list. -/
structure StrictWeakOrderOn {α : Type} (l : List α) (lt : α → α → Bool) : Prop where
  irrefl : ∀ a ∈ l, lt a a = false
  trans : ∀ a ∈ l, ∀ b ∈ l, ∀ c ∈ l, lt a b = true → lt b c = true → lt a c = true
  incomparable : ∀ a ∈ l, ∀ b ∈ l, ∀ c ∈ l, lt a b = false → lt b a = false → lt b c = false → lt c b = false →
    lt a c = false ∧ lt c a = false

/-- A comparison that is the order of a key is a strict weak order. -/
lemma strictWeakOrderOn_of_key {α κ : Type} [LinearOrder κ] {l : List α} {lt : α → α → Bool} (key : α → κ)
    (h : ∀ a ∈ l, ∀ b ∈ l, lt a b = true ↔ key a < key b) : StrictWeakOrderOn l lt := by
  have hfalse : ∀ a ∈ l, ∀ b ∈ l, lt a b = false ↔ key b ≤ key a := by
    intro a ha b hb
    rw [← not_lt, ← h a ha b hb, Bool.not_eq_true]
  refine ⟨?_, ?_, ?_⟩
  · intro a ha
    exact (hfalse a ha a ha).mpr le_rfl
  · intro a ha b hb c hc hab hbc
    exact (h a ha c hc).mpr (((h a ha b hb).mp hab).trans ((h b hb c hc).mp hbc))
  · intro a ha b hb c hc hab hba hbc hcb
    rw [hfalse a ha c hc, hfalse c hc a ha]
    rw [hfalse a ha b hb] at hab
    rw [hfalse b hb a ha] at hba
    rw [hfalse b hb c hc] at hbc
    rw [hfalse c hc b hb] at hcb
    exact ⟨hbc.trans hab, hba.trans hcb⟩

/-- The order that is tried: a permutation of the available candidates by load, then by priority, then as they came. -/
structure Balanced (credentials order : List GatewayCredential) : Prop where
  perm : order.Perm credentials
  sorted : order.Pairwise fun a b => load a < load b ∨ load a = load b ∧ a.routePriority ≤ b.routePriority
  stable : ∀ (q : ℚ) (priority : ℤ), (order.filter fun c => load c = q ∧ c.routePriority = priority) =
    credentials.filter fun c => load c = q ∧ c.routePriority = priority

lemma routingOrder_eq (h : ∀ a ∈ credentials, Capable a) :
    routingOrder .balanced credentials = credentials.insertionSort fun a b => routingKey a ≤ routingKey b := by
  have hagree : ∀ a ∈ credentials, ∀ b ∈ credentials, less b a = false ↔ routingKey (id a) ≤ routingKey (id b) := by
    intro a ha b hb
    rw [id, id, ← not_lt, ← less_iff (h b hb) (h a ha), Bool.not_eq_true]
  have hsort := List.map_insertionSort (fun a b => less b a = false) (fun a b => routingKey a ≤ routingKey b) id
    credentials hagree
  rwa [List.map_id, List.map_id] at hsort

/-- Among the candidates that are available the comparison is a strict weak order with exact products, and it sorts
them by their loads. -/
theorem balanced_order_exact (h : available excluded quota 0 candidates = .ok credentials)
    (hbounds : ∀ c ∈ candidates, InBounds c) :
    StrictWeakOrderOn credentials less ∧
      (∀ a ∈ credentials, ∀ b ∈ credentials,
        Int.bmod ((credentialQuotaLoad a).1 * (credentialQuotaLoad b).2) (2 ^ 64) =
          (credentialQuotaLoad a).1 * (credentialQuotaLoad b).2) ∧
      Balanced credentials (routingOrder .balanced credentials) := by
  obtain ⟨hsub, hquota⟩ := available_spec h
  have hin : ∀ c ∈ credentials, InBounds c := fun c hc => hbounds c (hsub.subset hc)
  have hcapable : ∀ c ∈ credentials, Capable c := by
    intro c hc
    obtain ⟨i, hi⟩ := hquota c hc
    exact capable_of_not_exhausted hi (hin c hc)
  refine ⟨?_, fun a ha b hb => product_exact (hin a ha) (hin b hb), ?_⟩
  · exact strictWeakOrderOn_of_key routingKey fun a ha b hb => less_iff (hcapable a ha) (hcapable b hb)
  · rw [routingOrder_eq hcapable]
    refine ⟨List.perm_insertionSort _ _, ?_, ?_⟩
    · refine (pairwise_insertionSort_key routingKey credentials).imp ?_
      intro a b hab
      exact Prod.Lex.toLex_le_toLex.mp hab
    · intro q priority
      have hkey : ∀ c : GatewayCredential, (load c = q ∧ c.routePriority = priority) ↔
          routingKey c = toLex (q, priority) := by
        intro c
        rw [routingKey, toLex_inj, Prod.mk.injEq]
      simpa only [hkey] using filter_insertionSort_key routingKey credentials (toLex (q, priority))

end Order

section Sample

/-- The samples differ in their accounts, their plans and their usage. -/
def sampleCredential (account : String) (usageMicros accountUsageMicros shareBasisPoints : ℤ) (shared : Bool) :
    GatewayCredential where
  traffic := ⟨⟨⟨account, "plan", 0⟩, "user", "name"⟩, 0, 0, ⟨false, []⟩⟩
  apiKeyID := "key"
  memberID := "member"
  routePriority := 0
  usageMicros := usageMicros
  accountUsageMicros := accountUsageMicros
  shareBasisPoints := shareBasisPoints
  usdLimitMicros := none
  shared := shared
  ownerUserID := "owner"
  chatGPTAccountID := account
  accessTokenCiphertext := []
  proxyURLCiphertext := []
  tokenExpiresAt := 0

def sampleFixed : GatewayCredential := sampleCredential "fixed" 30000000 90000000 5000 false

def sampleEmpty : GatewayCredential := sampleCredential "empty" 0 0 0 false

def sampleShared : GatewayCredential := sampleCredential "shared" 90000000 50000000 1 true

/-- A member without a share is left out; the member of the fixed plan has used more of its share than the others have
of the shared account. -/
theorem balanced_order_exact_sample :
    Balanced [sampleFixed, sampleShared] (routingOrder .balanced [sampleFixed, sampleShared]) ∧
      routingOrder .balanced [sampleFixed, sampleShared] = [sampleShared, sampleFixed] := by
  have havailable : available [] (fun _ => ⟨.ok false, .ok false⟩) 0 [sampleFixed, sampleEmpty, sampleShared] =
      .ok [sampleFixed, sampleShared] := by rfl
  have hbounds : ∀ c ∈ [sampleFixed, sampleEmpty, sampleShared], InBounds c := by
    intro c hc
    simp only [List.mem_cons, List.not_mem_nil, or_false] at hc
    rcases hc with rfl | rfl | rfl <;> exact ⟨by decide, by decide, by decide⟩
  exact ⟨(balanced_order_exact havailable hbounds).2.2, by decide⟩

end Sample

end ShareSub.RoutingOrder

import Mathlib
import ShareSub.GatewayAttempts

/-!
# One row for each recorded attempt

The rows that `RecordGatewayMetric` keeps of a history of exchanges, whose records reach the
store in any order. Within one exchange no two attempts share a conflict key; between
exchanges they do when the ids that the clients sent agree.
-/
namespace ShareSub.GatewayAccounting

open GatewayModel GatewayAttempts

variable {Usage : Type} (versionedCost : String → Usage → Option ℤ)

section Insertion

/-- The rows that the records, in the order of their arrival, leave in the table. -/
def keptRows (arrivals : List (Metric Usage)) : List MetricRow :=
  arrivals.foldl (recordGatewayMetric versionedCost) []

/-- The rows that the service sends to the store. -/
def sentRows (arrivals : List (Metric Usage)) : List MetricRow :=
  arrivals.filterMap (Metric.row? versionedCost)

/-- The cost of an attempt under the pricing that it was pinned to. -/
def attemptCost (m : Metric Usage) : Option ℤ :=
  m.access.pricing.bind fun pricing => versionedCost pricing m.usage

variable {versionedCost}

lemma foldl_insertMetric {rows added : List MetricRow}
    (hnodup : ((rows ++ added).map MetricRow.conflictKey).Nodup) : added.foldl insertMetric rows = rows ++ added := by
  induction added generalizing rows with
  | nil => simp
  | cons row added ih =>
    have hnew : row.conflictKey ∉ rows.map MetricRow.conflictKey := by
      intro hin
      rw [List.map_append, List.map_cons] at hnodup
      exact (List.nodup_append.mp hnodup).2.2 _ hin _ List.mem_cons_self rfl
    rw [List.append_cons] at hnodup ⊢
    rw [List.foldl_cons, insertMetric, if_neg hnew]
    exact ih hnodup

lemma foldl_recordGatewayMetric (arrivals : List (Metric Usage)) (rows : List MetricRow) :
    arrivals.foldl (recordGatewayMetric versionedCost) rows =
      (sentRows versionedCost arrivals).foldl insertMetric rows := by
  induction arrivals generalizing rows with
  | nil => rfl
  | cons m arrivals ih =>
    rw [List.foldl_cons, ih, recordGatewayMetric]
    cases hrow : m.row? versionedCost with
    | none => simp only [sentRows, List.filterMap_cons_none hrow]
    | some row => simp only [sentRows, List.filterMap_cons_some hrow, List.foldl_cons]

lemma keptRows_of_nodup {arrivals : List (Metric Usage)}
    (hnodup : ((sentRows versionedCost arrivals).map MetricRow.conflictKey).Nodup) :
    keptRows versionedCost arrivals = sentRows versionedCost arrivals := by
  rw [keptRows, foldl_recordGatewayMetric]
  exact foldl_insertMetric hnodup

lemma row?_cost (m : Metric Usage) :
    (m.row? versionedCost).map MetricRow.estimatedCostMicros = attemptCost versionedCost m := by
  unfold Metric.row? attemptCost
  cases m.access.pricing with
  | none => rfl
  | some pricing => cases hcost : versionedCost pricing m.usage <;> simp [hcost]

lemma sentRows_cost (arrivals : List (Metric Usage)) :
    (sentRows versionedCost arrivals).map MetricRow.estimatedCostMicros =
      arrivals.filterMap (attemptCost versionedCost) := by
  rw [sentRows, List.map_filterMap]
  exact List.filterMap_congr fun m _ => row?_cost m

end Insertion

section Keys

/-- The columns of the conflict key besides `request_id`. -/
def SameRoute (a b : Metric Usage) : Prop :=
  a.access.apiKeyID = b.access.apiKeyID ∧ a.access.planID = b.access.planID ∧
    a.access.accountID = b.access.accountID ∧ a.access.generation = b.access.generation

variable {versionedCost} {a b : Metric Usage} {r s : MetricRow}

lemma row?_key (h : a.row? versionedCost = some r) :
    r.conflictKey = (a.requestID.text, a.access.apiKeyID, a.access.planID, a.access.accountID, a.access.generation) := by
  unfold Metric.row? at h
  obtain ⟨pricing, -, h⟩ := Option.bind_eq_some_iff.mp h
  obtain ⟨cost, -, rfl⟩ := Option.map_eq_some_iff.mp h
  rfl

lemma conflictKey_eq_iff (ha : a.row? versionedCost = some r) (hb : b.row? versionedCost = some s) :
    r.conflictKey = s.conflictKey ↔ SameRoute a b ∧ a.requestID.text = b.requestID.text := by
  rw [row?_key ha, row?_key hb, SameRoute]
  simp only [Prod.mk.injEq]
  tauto

/-- Two attempts that the store would keep one row of. -/
def Collide (versionedCost : String → Usage → Option ℤ) (a b : Metric Usage) : Prop :=
  (a.row? versionedCost).isSome ∧ (b.row? versionedCost).isSome ∧ SameRoute a b ∧
    a.requestID.text = b.requestID.text

lemma nodup_keys_iff (metrics : List (Metric Usage)) :
    ((sentRows versionedCost metrics).map MetricRow.conflictKey).Nodup ↔
      metrics.Pairwise fun a b => ¬ Collide versionedCost a b := by
  rw [sentRows, List.Nodup, List.pairwise_map, List.pairwise_filterMap]
  apply List.Pairwise.iff
  intro a b
  constructor
  · rintro h ⟨ha, hb, hsame⟩
    obtain ⟨r, hr⟩ := Option.isSome_iff_exists.mp ha
    obtain ⟨s, hs⟩ := Option.isSome_iff_exists.mp hb
    exact h r hr s hs ((conflictKey_eq_iff hr hs).mpr hsame)
  · intro h r hr s hs hkey
    refine h ⟨?_, ?_, (conflictKey_eq_iff hr hs).mp hkey⟩
    · rw [hr]; rfl
    · rw [hs]; rfl

end Keys

section Names

def mark? (m : Metric Usage) : Option Mark :=
  match m.requestID with
  | .upstream _ => none
  | .fallback _ mark => some mark

/-- The ids of two attempts that the upstream did not name agree: the exchanges have one id and the
attempts one mark, or a client named a request like an attempt of the other exchange. -/
def SameName (g₁ : String) (m₁ : Mark) (g₂ : String) (m₂ : Mark) : Prop :=
  g₁ = g₂ ∧ m₁ = m₂ ∨ m₁ = .first ∧ g₁ = g₂ ++ m₂.text ∨ m₂ = .first ∧ g₂ = g₁ ++ m₁.text

variable {x y : Exchange Usage} {a b : Metric Usage}

lemma requestID_of_mark? {mark : Mark} (ha : a ∈ x.recorded) (h : mark? a = some mark) :
    a.requestID = .fallback (exchangeID x) mark := by
  unfold mark? at h
  split at h
  · cases h
  · next g mark' hid =>
    injection h with hmark
    rw [hid, (recorded_distinct x).named a ha g mark' hid, hmark]

lemma requestID_of_upstreamID? {u : String} (h : upstreamID? a = some u) : a.requestID = .upstream u := by
  unfold upstreamID? at h
  split at h
  · next u' hid =>
    injection h with hu
    rw [hid, hu]
  · cases h

lemma named_or_marked (m : Metric Usage) : (∃ u, upstreamID? m = some u) ∨ ∃ mark, mark? m = some mark := by
  unfold upstreamID? mark?
  cases m.requestID with
  | upstream u => exact Or.inl ⟨u, rfl⟩
  | fallback g mark => exact Or.inr ⟨mark, rfl⟩

lemma text_of_marks {m₁ m₂ : Mark} (ha : a ∈ x.recorded) (hb : b ∈ y.recorded) (h₁ : mark? a = some m₁)
    (h₂ : mark? b = some m₂) :
    a.requestID.text = b.requestID.text ↔ SameName (exchangeID x) m₁ (exchangeID y) m₂ := by
  rw [requestID_of_mark? ha h₁, requestID_of_mark? hb h₂]
  exact fallback_text_eq_iff

lemma text_of_mixed {mark : Mark} {u : String} (ha : a ∈ x.recorded) (hmark : mark? a = some mark)
    (hu : upstreamID? b = some u) :
    a.requestID.text = b.requestID.text ↔ u = exchangeID x ++ mark.text := by
  rw [requestID_of_mark? ha hmark, requestID_of_upstreamID? hu]
  exact eq_comm

lemma slot?_of_mark? {mark : Mark} (h : mark? a = some mark) : slot? a = some (a.access.accountID, mark) := by
  cases hid : a.requestID with
  | upstream u =>
    simp only [mark?, hid] at h
    cases h
  | fallback g mark' =>
    simp only [mark?, hid, Option.some.injEq] at h
    simp only [slot?, hid, h]

/-- Within an exchange two marks that give the same name are the same. -/
lemma sameName_self {g : String} {m₁ m₂ : Mark} (h : SameName g m₁ g m₂) : m₁ = m₂ := by
  have hempty : ∀ {mark : Mark}, g = g ++ mark.text → mark = .first := by
    intro mark heq
    have hsuffix : [] ++ mark.text.toList = Mark.first.text.toList := by
      have hnil : mark.text = "" := by simpa using heq.symm
      rw [hnil, text_first, List.nil_append]
    by_contra hne
    exact hne (text_suffix hne hsuffix).2
  rcases h with ⟨-, rfl⟩ | ⟨rfl, heq⟩ | ⟨rfl, heq⟩
  · rfl
  · exact (hempty heq).symm
  · exact hempty heq

end Names

section Histories

variable {versionedCost} {history : List (Exchange Usage)}

lemma history_given (history : List (Exchange Usage)) :
    ((history.flatMap Exchange.recorded).filterMap upstreamID?).Sublist (history.flatMap givenIDs) := by
  induction history with
  | nil => exact List.nil_sublist _
  | cons x history ih =>
    rw [List.flatMap_cons, List.flatMap_cons, List.filterMap_append]
    exact (recorded_given x).append ih

/-- Ids of the upstream that are all different never name two attempts. -/
lemma upstreamID?_pairwise (hgiven : (history.flatMap givenIDs).Nodup) :
    (history.flatMap Exchange.recorded).Pairwise fun a b =>
      ∀ u, upstreamID? a = some u → ∀ v, upstreamID? b = some v → u ≠ v :=
  List.pairwise_filterMap.mp (hgiven.sublist (history_given history))

lemma Collide.symm {a b : Metric Usage} (h : Collide versionedCost a b) : Collide versionedCost b a := by
  obtain ⟨ha, hb, ⟨hkey, hplan, haccount, hgeneration⟩, htext⟩ := h
  exact ⟨hb, ha, ⟨hkey.symm, hplan.symm, haccount.symm, hgeneration.symm⟩, htext.symm⟩

/-- The attempts of an exchange that get a row. -/
def billed (versionedCost : String → Usage → Option ℤ) (x : Exchange Usage) : List (Metric Usage) :=
  x.recorded.filter fun m => (m.row? versionedCost).isSome

/-- The attempts on one route that the upstream did not name keep apart, by the ids of their
exchanges and their marks, from those of the other exchanges and from the ids of the upstream. -/
structure Separate (versionedCost : String → Usage → Option ℤ) (history : List (Exchange Usage)) : Prop where
  unnamed : history.Pairwise fun x y => ∀ a ∈ billed versionedCost x, ∀ b ∈ billed versionedCost y,
    SameRoute a b → ∀ m₁, mark? a = some m₁ → ∀ m₂, mark? b = some m₂ →
      ¬ SameName (exchangeID x) m₁ (exchangeID y) m₂
  named : ∀ x ∈ history, ∀ y ∈ history, ∀ a ∈ billed versionedCost x, ∀ b ∈ billed versionedCost y,
    SameRoute a b → ∀ mark, mark? a = some mark → ∀ u, upstreamID? b = some u → u ≠ exchangeID x ++ mark.text

lemma mem_billed {x : Exchange Usage} {a : Metric Usage} :
    a ∈ billed versionedCost x ↔ a ∈ x.recorded ∧ (a.row? versionedCost).isSome := by
  rw [billed, List.mem_filter]

/-- A collision needs two attempts that the upstream did not name. -/
lemma Separate.marks_of_collide (h : Separate versionedCost history) {x y : Exchange Usage} (hx : x ∈ history)
    (hy : y ∈ history) {a b : Metric Usage} (ha : a ∈ x.recorded) (hb : b ∈ y.recorded)
    (hapart : ∀ u, upstreamID? a = some u → ∀ v, upstreamID? b = some v → u ≠ v)
    (hcollide : Collide versionedCost a b) :
    ∃ m₁ m₂, mark? a = some m₁ ∧ mark? b = some m₂ ∧ SameName (exchangeID x) m₁ (exchangeID y) m₂ := by
  have hback := hcollide.symm
  obtain ⟨hrow₁, hrow₂, hroute, htext⟩ := hcollide
  have hbilled₁ := mem_billed.mpr ⟨ha, hrow₁⟩
  have hbilled₂ := mem_billed.mpr ⟨hb, hrow₂⟩
  rcases named_or_marked a with ⟨u, hu⟩ | ⟨m₁, hm₁⟩
  · rcases named_or_marked b with ⟨v, hv⟩ | ⟨m₂, hm₂⟩
    · rw [requestID_of_upstreamID? hu, requestID_of_upstreamID? hv] at htext
      exact absurd htext (hapart u hu v hv)
    · exact absurd ((text_of_mixed hb hm₂ hu).mp htext.symm)
        (h.named y hy x hx b hbilled₂ a hbilled₁ hback.2.2.1 m₂ hm₂ u hu)
  · rcases named_or_marked b with ⟨v, hv⟩ | ⟨m₂, hm₂⟩
    · exact absurd ((text_of_mixed ha hm₁ hv).mp htext)
        (h.named x hx y hy a hbilled₁ b hbilled₂ hroute m₁ hm₁ v hv)
    · exact ⟨m₁, m₂, hm₁, hm₂, (text_of_marks ha hb hm₁ hm₂).mp htext⟩

/-- Within an exchange the accounts and the marks tell the attempts apart. -/
lemma Separate.within (h : Separate versionedCost history) {x : Exchange Usage} (hx : x ∈ history)
    (hapart : x.recorded.Pairwise fun a b => ∀ u, upstreamID? a = some u → ∀ v, upstreamID? b = some v → u ≠ v) :
    x.recorded.Pairwise fun a b => ¬ Collide versionedCost a b := by
  have hslots := List.pairwise_filterMap.mp (recorded_distinct x).slots
  refine (hapart.and hslots).imp_of_mem ?_
  rintro a b ha hb ⟨hup, hslot⟩ hcollide
  obtain ⟨m₁, m₂, hm₁, hm₂, hname⟩ := h.marks_of_collide hx hx ha hb hup hcollide
  obtain rfl := sameName_self hname
  refine hslot _ (slot?_of_mark? hm₁) _ (slot?_of_mark? hm₂) ?_
  rw [hcollide.2.2.1.2.2.1]

lemma Separate.apart (h : Separate versionedCost history) (hgiven : (history.flatMap givenIDs).Nodup) :
    (history.flatMap Exchange.recorded).Pairwise fun a b => ¬ Collide versionedCost a b := by
  obtain ⟨hwithin, hacross⟩ := List.pairwise_flatMap.mp (upstreamID?_pairwise hgiven)
  refine List.pairwise_flatMap.mpr ⟨fun x hx => h.within hx (hwithin x hx), ?_⟩
  refine (h.unnamed.and hacross).imp_of_mem ?_
  rintro x y hx hy ⟨hunnamed, hup⟩ a ha b hb hcollide
  obtain ⟨m₁, m₂, hm₁, hm₂, hname⟩ := h.marks_of_collide hx hy ha hb (hup a ha b hb) hcollide
  exact hunnamed a (mem_billed.mpr ⟨ha, hcollide.1⟩) b (mem_billed.mpr ⟨hb, hcollide.2.1⟩) hcollide.2.2.1
    m₁ hm₁ m₂ hm₂ hname

lemma separate_of_apart
    (h : (history.flatMap Exchange.recorded).Pairwise fun a b => ¬ Collide versionedCost a b) :
    Separate versionedCost history := by
  constructor
  · refine (List.pairwise_flatMap.mp h).2.imp ?_
    intro x y hxy a ha b hb hroute m₁ hm₁ m₂ hm₂ hname
    obtain ⟨ha, hrow₁⟩ := mem_billed.mp ha
    obtain ⟨hb, hrow₂⟩ := mem_billed.mp hb
    exact hxy a ha b hb ⟨hrow₁, hrow₂, hroute, (text_of_marks ha hb hm₁ hm₂).mpr hname⟩
  · intro x hx y hy a ha b hb hroute mark hmark u hu hname
    obtain ⟨ha, hrow₁⟩ := mem_billed.mp ha
    obtain ⟨hb, hrow₂⟩ := mem_billed.mp hb
    have hne : a ≠ b := by
      rintro rfl
      have hid := requestID_of_mark? ha hmark
      rw [requestID_of_upstreamID? hu] at hid
      cases hid
    have : Std.Symm fun a b => ¬ Collide versionedCost a b := ⟨fun a b hab hba => hab hba.symm⟩
    exact h.forall (List.mem_flatMap.mpr ⟨x, hx, ha⟩) (List.mem_flatMap.mpr ⟨y, hy, hb⟩) hne
      ⟨hrow₁, hrow₂, hroute, (text_of_mixed ha hmark hu).mpr hname⟩

/-- One row is kept for each attempt, under a key of its own, and the stored cost is that of the
attempts. -/
structure ExactlyOnce (versionedCost : String → Usage → Option ℤ) (arrivals : List (Metric Usage)) : Prop where
  keys : ((sentRows versionedCost arrivals).map MetricRow.conflictKey).Nodup
  rows : keptRows versionedCost arrivals = sentRows versionedCost arrivals
  cost : ((keptRows versionedCost arrivals).map MetricRow.estimatedCostMicros).sum =
    (arrivals.filterMap (attemptCost versionedCost)).sum

/-- The cost of web searches at 10000 micros each. -/
def searchCost (_ : String) (searches : ℤ) : Option ℤ := some (10000 * searches)

/-- A request with one web search, which the upstream answers with the given headers. -/
def searchRequest (xRequestID upstreamXRequestID : String) : Exchange ℤ :=
  .responses
    { headers := ⟨xRequestID, "", "b7f8"⟩
      candidates := [⟨"key-1", "plan-1", "member-1", "account-1", 1, none⟩]
      admitted := true
      pricing := some "pricing-1"
      body := .prepared
      passes := [⟨false, .applied, .answered ⟨200, upstreamXRequestID, "", 1, false, false, .completed, false, false,
        false⟩, []⟩] }

end Histories

end ShareSub.GatewayAccounting

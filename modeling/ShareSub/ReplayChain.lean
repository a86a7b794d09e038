import Mathlib
import ShareSub.ReplayRepresentation

/-!
# The conversation that a chain of turns leaves

A chain of turns, each of which continues the one before it and is committed. Its history is compared with the conversation:
the inputs without what they resend, each with the outputs that the upstream has delivered for it.
-/
namespace ShareSub.ReplayChain

open SseModel ReplayModel ReplayRepresentation
open scoped List

section Values

variable {Raw : Type} {json : ReplayJson Raw}

/-- What the code relies on: `bytes.TrimSpace` has nothing left to trim, a message is decoded by its text, and `sha256.Sum256`
has no collisions. -/
structure Lawful (json : ReplayJson Raw) : Prop where
  trim_trim : ∀ raw, json.trim (json.trim raw) = json.trim raw
  canonical_text : ∀ a b, json.text a = json.text b → json.canonical a = json.canonical b
  collision_free : Function.Injective json.sha256

/-- An item as a JSON value: its canonical form, in which a number has its own digits, or its text if it has none. -/
inductive ItemValue
  | text (bytes : Bytes)
  | canonical (bytes : Bytes)
  deriving DecidableEq, Repr

def value (json : ReplayJson Raw) (raw : Raw) : ItemValue :=
  match json.canonical (json.trim raw) with
  | none => .text (json.text (json.trim raw))
  | some canonical => .canonical canonical

lemma Lawful.value_of_text (hl : Lawful json) {a b : Raw} (htext : json.text (json.trim a) = json.text (json.trim b)) :
    value json a = value json b := by
  unfold value
  rw [hl.canonical_text _ _ htext, htext]

lemma Lawful.value_trim (hl : Lawful json) (raw : Raw) : value json (json.trim raw) = value json raw := by
  unfold value
  rw [hl.trim_trim]

/-- The comparison of two items is that of their values. -/
lemma Lawful.sameItem_iff (hl : Lawful json) (a b : Raw) : sameItem json a b = true ↔ value json a = value json b := by
  unfold sameItem
  rw [Bool.or_eq_true, Bool.and_eq_true, decide_eq_true_eq, decide_eq_true_eq]
  constructor
  · rintro (htext | ⟨hsome, hcanonical⟩)
    · exact hl.value_of_text htext
    · obtain ⟨canonical, heq⟩ := Option.isSome_iff_exists.1 hsome
      unfold value
      rw [← hcanonical, heq]
  · intro hvalue
    unfold value at hvalue
    cases ha : json.canonical (json.trim a) with
    | none =>
      cases hb : json.canonical (json.trim b) with
      | none =>
        rw [ha, hb] at hvalue
        exact .inl (ItemValue.text.inj hvalue)
      | some canonical =>
        rw [ha, hb] at hvalue
        cases hvalue
    | some canonical =>
      cases hb : json.canonical (json.trim b) with
      | none =>
        rw [ha, hb] at hvalue
        cases hvalue
      | some canonical' =>
        rw [ha, hb] at hvalue
        exact .inr ⟨rfl, congrArg some (ItemValue.canonical.inj hvalue)⟩

lemma Lawful.rawPrefix_iff (hl : Lawful json) (items candidates : List Raw) :
    responsesWebSocketRawPrefix json items candidates = true ↔
      candidates.map (value json) <+: items.map (value json) := by
  induction candidates generalizing items with
  | nil => simp [responsesWebSocketRawPrefix]
  | cons candidate rest ih =>
    cases items with
    | nil => simp [responsesWebSocketRawPrefix]
    | cons item items =>
      rw [responsesWebSocketRawPrefix, Bool.and_eq_true, hl.sameItem_iff, ih, List.map_cons, List.map_cons,
        List.cons_prefix_cons, eq_comm]

end Values

section Firsts

variable {α : Type} [DecidableEq α]

/-- A list without what has been seen before. -/
def firsts : List α → List α → List α
  | _, [] => []
  | seen, v :: vs => if v ∈ seen then firsts seen vs else v :: firsts (seen ++ [v]) vs

lemma mem_firsts {seen vs : List α} {v : α} : v ∈ firsts seen vs ↔ v ∈ vs ∧ v ∉ seen := by
  induction vs generalizing seen with
  | nil => simp [firsts]
  | cons w vs ih =>
    unfold firsts
    split_ifs with hw
    · rw [ih, List.mem_cons]
      constructor
      · rintro ⟨hmem, hnot⟩
        exact ⟨.inr hmem, hnot⟩
      · rintro ⟨rfl | hmem, hnot⟩
        · exact absurd hw hnot
        · exact ⟨hmem, hnot⟩
    · rw [List.mem_cons, ih, List.mem_cons, List.mem_append, List.mem_singleton, not_or]
      constructor
      · rintro (rfl | ⟨hmem, hnot, -⟩)
        · exact ⟨.inl rfl, hw⟩
        · exact ⟨.inr hmem, hnot⟩
      · rintro ⟨rfl | hmem, hnot⟩
        · exact .inl rfl
        · by_cases heq : v = w
          · exact .inl heq
          · exact .inr ⟨hmem, hnot, heq⟩

lemma firsts_nodup (seen vs : List α) : (firsts seen vs).Nodup := by
  induction vs generalizing seen with
  | nil => exact List.nodup_nil
  | cons w vs ih =>
    unfold firsts
    split_ifs with hw
    · exact ih seen
    · refine List.nodup_cons.2 ⟨fun hmem => ?_, ih _⟩
      exact (mem_firsts.1 hmem).2 (by simp)

omit [DecidableEq α] in
lemma pair_sublist_asymm {list : List α} (hnodup : list.Nodup) {v w : α} (hvw : [v, w] <+ list) : ¬ [w, v] <+ list := by
  induction list with
  | nil => cases hvw
  | cons a list ih =>
    obtain ⟨hnot, hnodup⟩ := List.nodup_cons.1 hnodup
    intro hwv
    have hmem {x y : α} (h : [x, y] <+ a :: list) : y ∈ list := by
      cases h with
      | cons _ h => exact h.subset (by simp)
      | cons_cons _ h => exact h.subset (by simp)
    cases hvw with
    | cons _ hvw =>
      cases hwv with
      | cons _ hwv => exact ih hnodup hvw hwv
      | cons_cons _ _ => exact hnot (hvw.subset (by simp))
    | cons_cons _ _ => exact hnot (hmem hwv)

/-- What comes first in the order of a list, and is all of it, is the list. -/
lemma firsts_eq {vs list : List α} (hnodup : list.Nodup) (hmem : ∀ v, v ∈ list ↔ v ∈ vs)
    (horder : (firsts [] vs).Pairwise fun v w => [v, w] <+ list) : firsts [] vs = list := by
  have hperm : (firsts [] vs).Perm list := by
    rw [List.perm_ext_iff_of_nodup (firsts_nodup [] vs) hnodup]
    intro v
    rw [mem_firsts, hmem]
    simp
  exact List.Perm.eq_of_pairwise (fun v w _ _ hvw hwv => absurd hwv (pair_sublist_asymm hnodup hvw)) horder
    (List.pairwise_iff_forall_sublist.2 fun h => h) hperm

end Firsts

section Collected

variable {Raw : Type} {json : ReplayJson Raw}

/-- `addItem` when the reservation grants what it asks for. -/
def addItem (json : ReplayJson Raw) (c : Collector Raw) (raw : Raw) : Collector Raw :=
  match c.wants json raw with
  | none => c
  | some (key, nextBytes) =>
    if responsesWebSocketReplayLimitExceeded (c.items.length + 1) nextBytes then c.markExceededLimit
    else c.add json raw key nextBytes

/-- What a turn that may be committed collects. -/
def collect (json : ReplayJson Raw) (items : List Raw) : Collector Raw := items.foldl (addItem json) (Collector.fresh false)

/-- The id or the call id of an item, trimmed; empty if it has neither. -/
def itemID (json : ReplayJson Raw) (raw : Raw) : String :=
  match json.head (json.trim raw) with
  | none => ""
  | some head => GatewayModel.trimSpace (if GatewayModel.trimSpace head.2.1 = "" then head.2.2 else head.2.1)

/-- The items are told apart: each is collected, those of one value have one id, and one text if they have none, and those
of different values have different ids. -/
structure ToldApart (json : ReplayJson Raw) (items : List Raw) : Prop where
  collected : ∀ a ∈ items, (collectKey json a).isSome = true
  alike : ∀ a ∈ items, ∀ b ∈ items, value json a = value json b →
    itemID json a = itemID json b ∧ (itemID json a = "" → json.text (json.trim a) = json.text (json.trim b))
  apart : ∀ a ∈ items, ∀ b ∈ items, itemID json a = itemID json b → itemID json a ≠ "" → value json a = value json b

lemma collectKey_eq {raw : Raw} {key : ItemKey} (hkey : collectKey json raw = some key) :
    key = if itemID json raw = "" then .raw (json.sha256 (json.text (json.trim raw))) else .id (itemID json raw) := by
  unfold collectKey at hkey
  unfold itemID
  split_ifs at hkey
  cases hhead : json.head (json.trim raw) with
  | none =>
    rw [hhead] at hkey
    cases hkey
  | some head =>
    rw [hhead] at hkey
    dsimp only at hkey ⊢
    split_ifs at hkey
    rw [← Option.some.inj hkey]
    rfl

/-- Then the keys are those of the values. -/
lemma ToldApart.key_iff {items : List Raw} (h : ToldApart json items) (hl : Lawful json) {a b : Raw} (ha : a ∈ items)
    (hb : b ∈ items) {key : ItemKey} (hkey : collectKey json a = some key) :
    collectKey json b = some key ↔ value json b = value json a := by
  obtain ⟨key', hkey'⟩ := Option.isSome_iff_exists.1 (h.collected b hb)
  rw [hkey', Option.some.injEq, collectKey_eq hkey, collectKey_eq hkey']
  constructor
  · intro heq
    split_ifs at heq with hbID haID haID
    · exact hl.value_of_text (hl.collision_free (ItemKey.raw.inj heq))
    · exact h.apart b hb a ha (ItemKey.id.inj heq) hbID
  · intro hvalue
    obtain ⟨hid, htext⟩ := h.alike b hb a ha hvalue
    rw [hid] at htext ⊢
    split_ifs with hblank
    · rw [htext hblank]
    · rfl

/-- A collector that is disabled stays as it is. -/
lemma foldl_disabled {c : Collector Raw} (hc : c.disabled = true) (items : List Raw) : items.foldl (addItem json) c = c := by
  induction items with
  | nil => rfl
  | cons raw items ih =>
    have hadd : addItem json c raw = c := by
      unfold addItem Collector.wants
      rw [if_pos hc]
    rw [List.foldl_cons, hadd, ih]

/-- The collector after some items, with those that it has kept. -/
structure Kept (json : ReplayJson Raw) (all : List Raw) (c : Collector Raw) (kept : List Raw) : Prop where
  enabled : c.disabled = false
  items : c.items = kept.map json.trim
  seen : ∀ raw ∈ all, ∀ key, collectKey json raw = some key → (key ∈ c.seen ↔ value json raw ∈ kept.map (value json))

lemma Kept.foldl {all : List Raw} (hl : Lawful json) (h : ToldApart json all) {c : Collector Raw} {kept : List Raw}
    (hc : Kept json all c kept) {items : List Raw} (hitems : ∀ raw ∈ items, raw ∈ all)
    (hfits : (items.foldl (addItem json) c).exceedsLimit = false) :
    (items.foldl (addItem json) c).items.map (value json) =
      kept.map (value json) ++ firsts (kept.map (value json)) (items.map (value json)) := by
  induction items generalizing c kept with
  | nil =>
    rw [List.foldl_nil, hc.items, List.map_map]
    simp [firsts, Function.comp_def, hl.value_trim]
  | cons raw items ih =>
    have hraw : raw ∈ all := hitems raw (by simp)
    have hrest : ∀ r ∈ items, r ∈ all := fun r hr => hitems r (List.mem_cons_of_mem _ hr)
    obtain ⟨key, hkey⟩ := Option.isSome_iff_exists.1 (h.collected raw hraw)
    have hseen := hc.seen raw hraw key hkey
    rw [List.foldl_cons] at hfits ⊢
    rw [List.map_cons, firsts]
    by_cases hold : key ∈ c.seen
    · have hadd : addItem json c raw = c := by
        simp [addItem, Collector.wants, hc.enabled, hkey, hold]
      rw [hadd] at hfits ⊢
      rw [if_pos (hseen.1 hold)]
      exact ih hc hrest hfits
    · have hadd : addItem json c raw =
          if responsesWebSocketReplayLimitExceeded (c.items.length + 1) (c.bytes + length json (json.trim raw)) then
            c.markExceededLimit
          else c.add json raw key (c.bytes + length json (json.trim raw)) := by
        simp [addItem, Collector.wants, hc.enabled, hkey, hold]
      rw [hadd] at hfits ⊢
      rw [if_neg (hold ∘ hseen.2)]
      split_ifs at hfits ⊢ with hlimit
      · rw [foldl_disabled rfl] at hfits
        cases hfits
      · have hnext : Kept json all (c.add json raw key (c.bytes + length json (json.trim raw))) (kept ++ [raw]) := by
          refine ⟨hc.enabled, ?_, fun r hr k hk => ?_⟩
          · rw [List.map_append, ← hc.items]
            rfl
          · rw [Collector.add, List.mem_append, List.mem_singleton, hc.seen r hr k hk, List.map_append, List.mem_append,
              List.map_singleton, List.mem_singleton, ← h.key_iff hl hraw hr hkey, hk, Option.some.injEq]
        rw [ih hnext hrest hfits, List.map_append, List.append_assoc]
        rfl

/-- Items that are told apart are kept where they come first. -/
lemma collect_values {items : List Raw} (hl : Lawful json) (h : ToldApart json items)
    (hfits : (collect json items).exceedsLimit = false) :
    (collect json items).items.map (value json) = firsts [] (items.map (value json)) := by
  have hfresh : Kept json items (Collector.fresh false) [] := ⟨rfl, rfl, fun _ _ _ _ => by simp [Collector.fresh]⟩
  exact hfresh.foldl hl h (fun _ hraw => hraw) hfits

end Collected

section Chains

variable {Raw : Type} (json : ReplayJson Raw)

/-- A turn: its normalized frame with the response that it continues, its own response, the events of the upstream, each with
its type, and the items that the upstream has meant to be its output. -/
structure ChainTurn (Raw : Type) where
  frame : Bytes
  previousResponseID : String
  responseID : String
  events : List (String × Bytes)
  output : List Raw

def ChainTurn.delivered (turn : ChainTurn Raw) : List Raw := turn.events.flatMap fun e => eventItems json e.1 e.2

/-- The items that were delivered one by one. -/
def ChainTurn.itemsDone (turn : ChainTurn Raw) : List Raw :=
  (turn.events.filter fun e => GatewayModel.trimSpace e.1 = "response.output_item.done").flatMap fun e => eventItems json e.1 e.2

def ChainTurn.input (turn : ChainTurn Raw) : List Raw :=
  match responsesWebSocketInputItems json turn.frame with
  | none => []
  | some (current, _, _) => current

/-- The history at the start of the planning of a turn. -/
def opened (h : ReplayHistory Raw) (turn : ChainTurn Raw) : ReplayHistory Raw :=
  if GatewayModel.trimSpace turn.previousResponseID = "" then ReplayHistory.empty else h

/-- The plan of a turn, and whether it can be retried and committed. -/
def planOf (h : ReplayHistory Raw) (turn : ChainTurn Raw) : Option (ReplayPlan × Bool × Bool) :=
  (responsesWebSocketInputItems json turn.frame).bind fun (current, currentExists, currentReplayable) =>
    (opened h turn).plan json turn.previousResponseID current currentExists currentReplayable

/-- The history after a turn; absent unless the turn is committed. -/
def serve (h : ReplayHistory Raw) (turn : ChainTurn Raw) : Option (ReplayHistory Raw) :=
  match planOf json h turn with
  | some (plan, _, true) =>
    if (collect json (turn.delivered json)).exceedsLimit then none
    else
      match (opened h turn).commitContexts json turn.responseID plan (turn.input json) (collect json (turn.delivered json)).items true with
      | some (some addedContexts) =>
        some ((opened h turn).extend json turn.responseID plan (turn.input json) (collect json (turn.delivered json)).items
          addedContexts)
      | _ => none
  | _ => none

def chain (turns : List (ChainTurn Raw)) : Option (ReplayHistory Raw) := turns.foldlM (serve json) ReplayHistory.empty

/-- What an input adds: what is left of it when it begins with all that was before. -/
def newValues (before values : List ItemValue) : List ItemValue :=
  if before <+: values then values.drop before.length else values

/-- The inputs and the outputs, one turn after the other. -/
def conversation (turns : List (ChainTurn Raw)) : List ItemValue :=
  turns.foldl (fun before turn =>
    before ++ newValues before ((turn.input json).map (value json)) ++ turn.output.map (value json)) []

/-- The upstream delivers the output: its items are different, those that come one by one come in its order, nothing else
comes, and each of them comes in some way. -/
structure Delivers (turn : ChainTurn Raw) : Prop where
  different : (turn.output.map (value json)).Nodup
  inOrder : (turn.itemsDone json).map (value json) <+ turn.output.map (value json)
  only : ∀ raw ∈ turn.delivered json, value json raw ∈ turn.output.map (value json)
  all : ∀ raw ∈ turn.output, value json raw ∈ (turn.delivered json).map (value json)

/-- The items come first in the order of the output, and are told apart. -/
structure Plain (turn : ChainTurn Raw) : Prop where
  apart : ToldApart json (turn.delivered json)
  firstInOrder : (firsts [] ((turn.delivered json).map (value json))).Pairwise fun v w =>
    [v, w] <+ turn.output.map (value json)

variable {json} {h : ReplayHistory Raw} {plan : ReplayPlan} {current : List Raw}

lemma Plain.collected {turn : ChainTurn Raw} (hplain : Plain json turn) (hl : Lawful json) (hdelivers : Delivers json turn)
    (hfits : (collect json (turn.delivered json)).exceedsLimit = false) :
    (collect json (turn.delivered json)).items.map (value json) = turn.output.map (value json) := by
  rw [collect_values hl hplain.apart hfits]
  refine firsts_eq hdelivers.different (fun v => ⟨fun hv => ?_, fun hv => ?_⟩) hplain.firstInOrder
  · obtain ⟨raw, hraw, rfl⟩ := List.mem_map.1 hv
    exact hdelivers.all raw hraw
  · obtain ⟨raw, hraw, rfl⟩ := List.mem_map.1 hv
    exact hdelivers.only raw hraw

/-- An input that has items exists. -/
lemma inputItems_exists {frame : Bytes} {currentExists currentReplayable : Bool}
    (hinput : responsesWebSocketInputItems json frame = some (current, currentExists, currentReplayable))
    (hcurrent : current ≠ []) : currentExists = true := by
  unfold responsesWebSocketInputItems at hinput
  cases hframe : json.frame frame with
  | none =>
    rw [hframe] at hinput
    cases hinput
  | some payload =>
    rw [hframe] at hinput
    dsimp only at hinput
    cases hlookup : payload.lookup "input" with
    | none =>
      rw [hlookup] at hinput
      cases hinput
      exact absurd rfl hcurrent
    | some raw =>
      rw [hlookup] at hinput
      dsimp only at hinput
      split at hinput
      · cases hinput
        rfl
      · split_ifs at hinput
        · cases hinput
          rfl
        · obtain ⟨items, -, heq⟩ := Option.map_eq_some_iff.1 hinput
          cases heq
          rfl
        · cases hinput
          rfl
        · obtain ⟨content, -, heq⟩ := Option.map_eq_some_iff.1 hinput
          cases heq
          rfl
        · cases hinput
          rfl

lemma newValues_nil (values : List ItemValue) : newValues [] values = values := if_pos (List.nil_prefix)

lemma newValues_of_nil (before : List ItemValue) : newValues before [] = [] := by
  unfold newValues
  split_ifs
  · exact List.drop_nil
  · rfl

lemma append_newValues {before values : List ItemValue} (hinitial : before <+: values) :
    before ++ newValues before values = values := by
  unfold newValues
  rw [if_pos hinitial]
  obtain ⟨rest, rfl⟩ := hinitial
  rw [List.drop_left]

/-- The input of a plan that can be retried or committed is the history with what the input of the turn adds. -/
lemma plan_values (hl : Lawful json) {previousResponseID : String} {currentExists currentReplayable retrySafe replayCommitSafe : Bool}
    (hexists : current ≠ [] → currentExists = true)
    (hopened : GatewayModel.trimSpace previousResponseID = "" → h.items = [])
    (hplan : h.plan json previousResponseID current currentExists currentReplayable =
      some (plan, retrySafe, replayCommitSafe)) (hsafe : retrySafe = true ∨ replayCommitSafe = true) :
    (plan.input h.items current).map (value json) =
      h.items.map (value json) ++ newValues (h.items.map (value json)) (current.map (value json)) := by
  unfold ReplayHistory.plan at hplan
  dsimp only at hplan
  by_cases hblank : GatewayModel.trimSpace previousResponseID = ""
  · rw [if_pos hblank] at hplan
    cases hplan
    rw [hopened hblank, List.map_nil, List.nil_append, newValues_nil]
    rfl
  · rw [if_neg hblank] at hplan
    split_ifs at hplan with hrefused hresent hlimit hlimit'
    · cases hplan
      simp at hsafe
    · have hinitial := (hl.rawPrefix_iff current h.items).1 (Bool.and_eq_true_iff.1 hresent).2
      split at hplan
      · cases hplan
      · cases hplan
        simp at hsafe
    · have hinitial := (hl.rawPrefix_iff current h.items).1 (Bool.and_eq_true_iff.1 hresent).2
      split at hplan
      · cases hplan
      · split_ifs at hplan
        · cases hplan
          simp at hsafe
        · cases hplan
          exact (append_newValues hinitial).symm
    · cases hplan
      simp at hsafe
    · dsimp only at hplan
      split_ifs at hplan
      · cases hplan
        simp at hsafe
      · cases hplan
        rw [input_append, List.map_append]
        congr 1
        cases current with
        | nil => exact (newValues_of_nil _).symm
        | cons raw rest =>
          rw [hexists (by simp)] at hresent
          exact (if_neg fun hinitial => hresent (by simpa using (hl.rawPrefix_iff _ _).2 hinitial)).symm

lemma planOf_values (hl : Lawful json) {turn : ChainTurn Raw} {retrySafe replayCommitSafe : Bool}
    (hplan : planOf json h turn = some (plan, retrySafe, replayCommitSafe)) (hsafe : retrySafe = true ∨ replayCommitSafe = true) :
    (plan.input (opened h turn).items (turn.input json)).map (value json) =
      (opened h turn).items.map (value json) ++
        newValues ((opened h turn).items.map (value json)) ((turn.input json).map (value json)) := by
  obtain ⟨⟨current, currentExists, currentReplayable⟩, hinput, hplan⟩ := Option.bind_eq_some_iff.1 hplan
  have hcurrent : turn.input json = current := by
    unfold ChainTurn.input
    rw [hinput]
  rw [hcurrent]
  refine plan_values hl (inputItems_exists hinput) (fun hblank => ?_) hplan hsafe
  unfold opened
  rw [if_pos hblank]
  rfl

/-- The step. -/
lemma serve_values (hl : Lawful json) {turn : ChainTurn Raw} (hdelivers : Delivers json turn) (hplain : Plain json turn)
    {h' : ReplayHistory Raw} (hserve : serve json h turn = some h') :
    h'.items.map (value json) = (opened h turn).items.map (value json) ++
      newValues ((opened h turn).items.map (value json)) ((turn.input json).map (value json)) ++
        turn.output.map (value json) := by
  unfold serve at hserve
  split at hserve
  · next plan retrySafe hplan =>
    split_ifs at hserve with hlimit
    split at hserve
    · next addedContexts hcommits =>
      cases hserve
      rw [extend_items, List.map_append, planOf_values hl hplan (.inr rfl), hplain.collected hl hdelivers (by simpa using hlimit)]
    · cases hserve
  · cases hserve

lemma opened_continued {turn : ChainTurn Raw} (hturn : GatewayModel.trimSpace turn.previousResponseID ≠ "") :
    opened h turn = h := if_neg hturn

/-- The turns after the first. -/
lemma foldlM_values (hl : Lawful json) {turns : List (ChainTurn Raw)} {h' : ReplayHistory Raw}
    (hcontinues : ∀ turn ∈ turns, GatewayModel.trimSpace turn.previousResponseID ≠ "")
    (hdelivers : ∀ turn ∈ turns, Delivers json turn) (hplain : ∀ turn ∈ turns, Plain json turn)
    (hserved : turns.foldlM (serve json) h = some h') :
    h'.items.map (value json) = turns.foldl (fun before turn =>
      before ++ newValues before ((turn.input json).map (value json)) ++ turn.output.map (value json))
        (h.items.map (value json)) := by
  induction turns generalizing h with
  | nil =>
    cases hserved
    rfl
  | cons turn turns ih =>
    rw [List.foldlM_cons] at hserved
    obtain ⟨u, hserve, hrest⟩ := Option.bind_eq_some_iff.1 hserved
    have hvalues := serve_values hl (hdelivers turn (by simp)) (hplain turn (by simp)) hserve
    rw [opened_continued (hcontinues turn (by simp))] at hvalues
    rw [List.foldl_cons, ← hvalues]
    exact ih (fun t ht => hcontinues t (List.mem_cons_of_mem _ ht)) (fun t ht => hdelivers t (List.mem_cons_of_mem _ ht))
      (fun t ht => hplain t (List.mem_cons_of_mem _ ht)) hrest

lemma chain_values (hl : Lawful json) {turns : List (ChainTurn Raw)}
    (hcontinues : ∀ turn ∈ turns.tail, GatewayModel.trimSpace turn.previousResponseID ≠ "")
    (hdelivers : ∀ turn ∈ turns, Delivers json turn) (hplain : ∀ turn ∈ turns, Plain json turn)
    (hchain : chain json turns = some h) : h.items.map (value json) = conversation json turns := by
  cases turns with
  | nil =>
    cases hchain
    rfl
  | cons turn turns =>
    unfold chain at hchain
    rw [List.foldlM_cons] at hchain
    obtain ⟨u, hserve, hrest⟩ := Option.bind_eq_some_iff.1 hchain
    have hvalues := serve_values hl (hdelivers turn (by simp)) (hplain turn (by simp)) hserve
    have hempty : opened (ReplayHistory.empty : ReplayHistory Raw) turn = ReplayHistory.empty := by
      unfold opened
      split_ifs <;> rfl
    rw [hempty] at hvalues
    rw [foldlM_values hl hcontinues (fun t ht => hdelivers t (List.mem_cons_of_mem _ ht))
      (fun t ht => hplain t (List.mem_cons_of_mem _ ht)) hrest, hvalues]
    rfl

/-- What the frame for a retry is: the frame with another input, and without the response that it continues. -/
lemma build_members {frame rebuilt : Bytes} {input : List Raw}
    (hbuild : buildResponsesWebSocketRetryFrame json frame input = some (some rebuilt)) :
    ∃ members retry, json.frame frame = some members ∧ rebuilt = json.marshalFrame retry ∧
      retry.lookup "input" = some (json.marshalItems input) ∧ retry.lookup "previous_response_id" = none ∧
        ∀ key, key ≠ "input" → key ≠ "previous_response_id" → retry.lookup key = members.lookup key := by
  obtain ⟨members, hmembers, hretry⟩ := Option.map_eq_some_iff.1 hbuild
  split_ifs at hretry with hcomplete
  refine ⟨members, _, hmembers, (Option.some.inj hretry).symm, ?_, ?_, fun key hinput hprevious => ?_⟩
  · rw [AList.lookup_erase_ne (by decide), AList.lookup_insert]
  · exact AList.lookup_erase _ _
  · rw [AList.lookup_erase_ne hprevious, AList.lookup_insert_ne hinput]

/-- As long as the items that the upstream delivers are told apart and come first in the order of its output, the history
after a chain of committed turns is the conversation, and so is the input of the frame with which the next turn is tried
again, with what that turn adds. -/
theorem history_is_conversation (json : ReplayJson Raw) (hl : Lawful json) (turns : List (ChainTurn Raw))
    (hcontinues : ∀ turn ∈ turns.tail, GatewayModel.trimSpace turn.previousResponseID ≠ "")
    (hdelivers : ∀ turn ∈ turns, Delivers json turn) (hplain : ∀ turn ∈ turns, Plain json turn) (h : ReplayHistory Raw)
    (hchain : chain json turns = some h) :
    h.items.map (value json) = conversation json turns ∧
      ∀ (next : ChainTurn Raw) (plan : ReplayPlan) (replayCommitSafe : Bool) (rebuilt : Bytes),
        GatewayModel.trimSpace next.previousResponseID ≠ "" → planOf json h next = some (plan, true, replayCommitSafe) →
          buildResponsesWebSocketRetryFrame json next.frame (plan.input h.items (next.input json)) = some (some rebuilt) →
            ∃ members retry input, json.frame next.frame = some members ∧ rebuilt = json.marshalFrame retry ∧
              retry.lookup "input" = some (json.marshalItems input) ∧ retry.lookup "previous_response_id" = none ∧
                (∀ key, key ≠ "input" → key ≠ "previous_response_id" → retry.lookup key = members.lookup key) ∧
                  input.map (value json) = conversation json turns ++
                    newValues (conversation json turns) ((next.input json).map (value json)) := by
  have hvalues := chain_values hl hcontinues hdelivers hplain hchain
  refine ⟨hvalues, fun next plan replayCommitSafe rebuilt hnext hplan hbuild => ?_⟩
  obtain ⟨members, retry, hmembers, hrebuilt, hinput, hprevious, hothers⟩ := build_members hbuild
  refine ⟨members, retry, _, hmembers, hrebuilt, hinput, hprevious, hothers, ?_⟩
  have hplanned := planOf_values hl hplan (.inl rfl)
  rw [opened_continued hnext, hvalues] at hplanned
  exact hplanned

end Chains

section Example

def quoted (s : String) : Bytes := bytes ("\"" ++ s ++ "\"")

def arrayText (items : List Bytes) : Bytes := bytes "[" ++ (bytes ",").intercalate items ++ bytes "]"

def objectText (members : List (String × Bytes)) : Bytes :=
  bytes "\x7b" ++ (bytes ",").intercalate (members.map fun e => quoted e.1 ++ bytes ":" ++ e.2) ++ bytes "\x7d"

/-- An item whose members are strings. -/
abbrev Item := List (String × String)

def Item.text (item : Item) : Bytes := objectText (item.map fun e => (e.1, quoted e.2))

def Item.get (item : Item) (key : String) : String := ((item.find? fun e => e.1 = key).map Prod.snd).getD ""

/-- With its members in order. -/
def Item.sorted (item : Item) : Item := ["call_id", "id", "type"].filterMap fun key => item.find? fun e => e.1 = key

def message (id : String) : Item := [("type", "message"), ("id", id)]

def shellCall : Item := [("type", "local_shell_call"), ("call_id", "call_1")]

def shellOutput : Item := [("type", "local_shell_call_output"), ("call_id", "call_1")]

def items : List Item :=
  [message "msg_1", message "msg_2", (message "msg_1").sorted, (message "msg_2").sorted, (message "msg_3").sorted,
    message "msg_4", shellCall, shellOutput]

def doneFrame (item : Item) : List (String × Bytes) := [("type", quoted "response.output_item.done"), ("item", item.text)]

def outputObject (id : String) (output : List Item) : List (String × Bytes) :=
  [("id", quoted id), ("output", arrayText (output.map Item.text))]

def completedFrame (id : String) (output : List Item) : List (String × Bytes) :=
  [("type", quoted "response.completed"), ("response", objectText (outputObject id output))]

def requestFrame : List (String × Bytes) := [("model", quoted "gpt-5"), ("type", quoted "response.create")]

/-- The history is resent, with another message. -/
def resent : List Item := [(message "msg_1").sorted, (message "msg_2").sorted, (message "msg_3").sorted]

def resentFrame : List (String × Bytes) :=
  [("input", arrayText (resent.map Item.text)), ("model", quoted "gpt-5"), ("previous_response_id", quoted "resp_1"),
    ("type", quoted "response.create")]

def arrays : List (List Item) := [[message "msg_1", message "msg_2"], resent, [message "msg_4"], []]

def objects : List (List (String × Bytes)) :=
  [requestFrame, resentFrame, doneFrame (message "msg_1"), doneFrame shellCall, doneFrame shellOutput,
    completedFrame "resp_1" [message "msg_1", message "msg_2"], outputObject "resp_1" [message "msg_1", message "msg_2"],
    completedFrame "resp_1" [], outputObject "resp_1" [], completedFrame "resp_2" [message "msg_4"],
    outputObject "resp_2" [message "msg_4"]]

def members (object : List (String × Bytes)) : FiniteMap String Bytes :=
  object.foldr (fun e map => map.insert e.1 e.2) ∅

def sampleObject (x : Bytes) : Option (FiniteMap String Bytes) := (objects.find? fun object => objectText object = x).map members

def sampleItem (x : Bytes) : Option Item := items.find? fun item => item.text = x

/-- `encoding/json` as it is on these texts; no item is looked up by its hash. -/
def sampleJson : ReplayJson Bytes where
  text := id
  trim := id
  frame := sampleObject
  object := sampleObject
  items x := (arrays.find? fun array => arrayText (array.map Item.text) = x).map fun array => array.map Item.text
  string _ := none
  fields x := (sampleItem x).map fun item => (item.get "type", item.get "call_id")
  head x := (sampleItem x).map fun item => (item.get "type", item.get "id", item.get "call_id")
  canonical x := (sampleItem x).map fun item => item.sorted.text
  marshalFrame map := objectText (map.entries.map fun e => (e.1, e.2))
  marshalItems := arrayText
  message content := objectText [("content", quoted content), ("role", quoted "user"), ("type", quoted "message")]
  sha256 := id

lemma sampleJson_lawful : Lawful sampleJson := ⟨fun _ => rfl, fun _ _ h => congrArg sampleJson.canonical h, fun _ _ h => h⟩

/-- A message that comes twice, and one that comes at the end. -/
def firstTurn : ChainTurn Bytes :=
  ⟨objectText requestFrame, "", "resp_1",
    [("response.output_item.done", objectText (doneFrame (message "msg_1"))),
      ("response.completed", objectText (completedFrame "resp_1" [message "msg_1", message "msg_2"]))],
    [(message "msg_1").text, (message "msg_2").text]⟩

def secondTurn : ChainTurn Bytes :=
  ⟨objectText resentFrame, "resp_1", "resp_2",
    [("response.completed", objectText (completedFrame "resp_2" [message "msg_4"]))], [(message "msg_4").text]⟩

lemma turns_served : (Delivers sampleJson firstTurn ∧ Plain sampleJson firstTurn) ∧
    Delivers sampleJson secondTurn ∧ Plain sampleJson secondTurn := by
  refine ⟨⟨⟨?_, ?_, ?_, ?_⟩, ⟨?_, ?_, ?_⟩, ?_⟩, ⟨?_, ?_, ?_, ?_⟩, ⟨?_, ?_, ?_⟩, ?_⟩
  all_goals decide +kernel

lemma firstTurn_delivers : Delivers sampleJson firstTurn := turns_served.1.1

lemma firstTurn_plain : Plain sampleJson firstTurn := turns_served.1.2

lemma secondTurn_delivers : Delivers sampleJson secondTurn := turns_served.2.1

lemma secondTurn_plain : Plain sampleJson secondTurn := turns_served.2.2

def messageValue (id : String) : ItemValue := .canonical (message id).sorted.text

/-- The history of both turns, and the input with which the second is tried again. -/
theorem history_is_conversation_resent :
    (∃ h, chain sampleJson [firstTurn, secondTurn] = some h ∧
      h.items.map (value sampleJson) = [messageValue "msg_1", messageValue "msg_2", messageValue "msg_3", messageValue "msg_4"]) ∧
    ∃ rebuilt retry input, rebuilt = sampleJson.marshalFrame retry ∧
      retry.lookup "input" = some (sampleJson.marshalItems input) ∧
        input.map (value sampleJson) = [messageValue "msg_1", messageValue "msg_2", messageValue "msg_3"] := by
  constructor
  · have hchain : (chain sampleJson [firstTurn, secondTurn]).isSome = true := by decide +kernel
    obtain ⟨h, hserved⟩ := Option.isSome_iff_exists.1 hchain
    refine ⟨h, hserved, (history_is_conversation sampleJson sampleJson_lawful [firstTurn, secondTurn] ?_ ?_ ?_ h hserved).1.trans
      (by decide +kernel)⟩
    · simpa using by decide
    · simpa using ⟨firstTurn_delivers, secondTurn_delivers⟩
    · simpa using ⟨firstTurn_plain, secondTurn_plain⟩
  · have hplanned : ((chain sampleJson [firstTurn]).bind fun h => (planOf sampleJson h secondTurn).bind fun p =>
        if p.2.1 then (buildResponsesWebSocketRetryFrame sampleJson secondTurn.frame
          (p.1.input h.items (secondTurn.input sampleJson))).bind id else none).isSome = true := by decide +kernel
    obtain ⟨rebuilt, hrebuilt⟩ := Option.isSome_iff_exists.1 hplanned
    obtain ⟨h, hserved, hrebuilt⟩ := Option.bind_eq_some_iff.1 hrebuilt
    obtain ⟨⟨plan, retrySafe, replayCommitSafe⟩, hplan, hrebuilt⟩ := Option.bind_eq_some_iff.1 hrebuilt
    split_ifs at hrebuilt with hsafe
    obtain ⟨built, hbuild, hsome⟩ := Option.bind_eq_some_iff.1 hrebuilt
    rw [show built = some rebuilt from hsome] at hbuild
    rw [show retrySafe = true from hsafe] at hplan
    obtain ⟨members, retry, input, -, heq, hinput, -, -, hvalues⟩ :=
      (history_is_conversation sampleJson sampleJson_lawful [firstTurn] (by simp) (by simpa using firstTurn_delivers)
        (by simpa using firstTurn_plain) h hserved).2 secondTurn plan replayCommitSafe rebuilt (by decide) hplan hbuild
    exact ⟨rebuilt, retry, input, heq, hinput, hvalues.trans (by decide +kernel)⟩

/-- A call and its output, which have no id. -/
def shellTurn : ChainTurn Bytes :=
  ⟨objectText requestFrame, "", "resp_1",
    [("response.output_item.done", objectText (doneFrame shellCall)),
      ("response.output_item.done", objectText (doneFrame shellOutput)),
      ("response.completed", objectText (completedFrame "resp_1" []))],
    [shellCall.text, shellOutput.text]⟩

/-- The output is taken for the call, since its call id is the key of both. -/
theorem shellOutput_is_lost : Lawful sampleJson ∧ Delivers sampleJson shellTurn ∧
    ∃ h, chain sampleJson [shellTurn] = some h ∧ h.items = [shellCall.text] ∧
      h.items.map (value sampleJson) ≠ conversation sampleJson [shellTurn] := by
  refine ⟨sampleJson_lawful, ⟨by decide, by decide, by decide, by decide⟩, ?_⟩
  have hitems : (chain sampleJson [shellTurn]).map (fun h => h.items) = some [shellCall.text] := by decide
  obtain ⟨h, hserved, hkept⟩ := Option.map_eq_some_iff.1 hitems
  refine ⟨h, hserved, hkept, ?_⟩
  rw [hkept]
  decide

end Example

end ShareSub.ReplayChain

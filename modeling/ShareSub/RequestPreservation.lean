import Mathlib
import ShareSub.RequestModel

/-!
# What becomes of a request outside of its rewritten fields

What a request says outside of the fields that are rewritten is read off it as an object. The functions of the gateway keep
that object, except that numbers are decoded as floats where a frame is prepared and where a policy writes a tier.
-/
namespace ShareSub.RequestPreservation

open JsonValue FastPolicy RequestModel
open GatewayModel (trimSpace)

section Outside

/-- The identities in the metadata of a client. -/
def identityFields : List String := CodexIdentity.codexIdentityFields.map Prod.fst ++ ["x-codex-turn-metadata"]

/-- The fields that are removed or written as a whole; the model is written only if a frame has none. -/
def rewrittenFields : List String :=
  chatGPTUnsupportedFields ++
    ["model", "type", "store", "stream", "background", "service_tier", "include", "prompt_cache_key"]

/-- A member up to what is rewritten in it: the form of the input, null types of tool parameters, the effort for one model
and the identities of the client. -/
def plainMember (astra : Bool) (key : String) (v : Value) : Value :=
  if key = "input" then normalizeItems (wrapInput v)
  else if key = "tools" then normalizeTools (maxCodexNestedToolDepth + 1) v
  else if key = "reasoning" then (if astra then Value.without ["effort"] v else v)
  else if key = "client_metadata" then Value.without identityFields v
  else v

/-- What a request says outside of the rewritten fields. -/
def outside (astra : Bool) (m : Members) : Members := (m.erase rewrittenFields).mapValues (plainMember astra)

/-- The result says the same as the request, and names its model if that names one. -/
structure Preserved (astra : Bool) (request result : Members) : Prop where
  same : outside astra result = outside astra request
  model : ∀ v, request.get "model" = some v → result.get "model" = some v

/-- The number is decoded as itself. -/
def Exact (float64 : ℚ → Option ℚ) (m : Members) : Prop := ∀ q ∈ Value.numbers.memberNumbers m, float64 q = some q

lemma exact_iff {float64 : ℚ → Option ℚ} {m : Members} : m.decodeFloats float64 = some m ↔ Exact float64 m :=
  decodeMembers_eq_self float64 m

end Outside

section Steps

variable {float64 : ℚ → Option ℚ} {astra : Bool} {m m₁ m₂ : Members} {key : String} {f : Value → Value}

/-- The step changes rewritten fields only. -/
structure Kept (astra : Bool) (m m' : Members) : Prop where
  same : outside astra m' = outside astra m
  model : ∀ s, m.get "model" = some (.string s) → m'.get "model" = some (.string s)

/-- The step decodes numbers as floats besides. -/
structure Floated (float64 : ℚ → Option ℚ) (astra : Bool) (m m' : Members) : Prop where
  decoded : (outside astra m).decodeFloats float64 = some (outside astra m')
  model : ∀ s, m.get "model" = some (.string s) → m'.get "model" = some (.string s)

lemma Kept.refl (m : Members) : Kept astra m m := ⟨rfl, fun _ h => h⟩

lemma Kept.trans (h : Kept astra m m₁) (h₁ : Kept astra m₁ m₂) : Kept astra m m₂ :=
  ⟨h₁.same.trans h.same, fun s hs => h₁.model s (h.model s hs)⟩

lemma Kept.floated (h : Kept astra m m₁) (h₁ : Floated float64 astra m₁ m₂) : Floated float64 astra m m₂ :=
  ⟨h.same ▸ h₁.decoded, fun s hs => h₁.model s (h.model s hs)⟩

lemma Floated.kept (h : Floated float64 astra m m₁) (h₁ : Kept astra m₁ m₂) : Floated float64 astra m m₂ :=
  ⟨h₁.same ▸ h.decoded, fun s hs => h₁.model s (h.model s hs)⟩

/-- A second decoding changes nothing. -/
lemma Floated.again (hround : ∀ q r, float64 q = some r → float64 r = some r) (h : Floated float64 astra m m₁)
    (h₁ : Floated float64 astra m₁ m₂) : Floated float64 astra m m₂ := by
  have hsame := decodeMembers_again hround _ _ h.decoded
  have heq : outside astra m₁ = outside astra m₂ := Option.some.inj (hsame.symm.trans h₁.decoded)
  exact ⟨heq ▸ h.decoded, fun s hs => h₁.model s (h.model s hs)⟩

/-- The numbers that are decoded come back as they were if each of them does. -/
lemma Floated.same_iff (h : Floated float64 astra m m₁) :
    outside astra m₁ = outside astra m ↔ Exact float64 (outside astra m) := by
  rw [← exact_iff, h.decoded, Option.some.injEq]

lemma outside_erase {keys : List String} (h : keys ⊆ rewrittenFields) : outside astra (m.erase keys) = outside astra m := by
  unfold outside
  rw [Members.erase_erase m h]

lemma Kept.erase {keys : List String} (h : keys ⊆ rewrittenFields) (hmodel : "model" ∉ keys) : Kept astra m (m.erase keys) := by
  refine ⟨outside_erase h, fun s hs => ?_⟩
  rw [Members.get_erase, if_neg hmodel, hs]

lemma Kept.delete (h : key ∈ rewrittenFields) (hmodel : "model" ≠ key) : Kept astra m (m.delete key) := by
  rw [Members.delete_eq_erase]
  exact Kept.erase (by simpa using h) (by simpa using hmodel)

lemma Kept.set (h : key ∈ rewrittenFields) (hmodel : "model" ≠ key) (v : Value) : Kept astra m (m.set key v) := by
  refine ⟨?_, fun s hs => ?_⟩
  · unfold outside
    rw [Members.erase_set m h]
  · rw [Members.get_set, if_neg hmodel, hs]

lemma Kept.replace {v : Value} (hmodel : "model" ≠ key)
    (h : key ∈ rewrittenFields ∨ ∀ w, m.get key = some w → plainMember astra key v = plainMember astra key w) :
    Kept astra m (m.replace key v) :=
  ⟨Members.mapValues_erase_replace h, fun s hs => by rw [Members.get_replace_of_ne m v hmodel, hs]⟩

/-- A field that is changed in place is a rewritten one, or is the same up to what is rewritten in it. -/
lemma Kept.update (hmodel : "model" ≠ key) (h : key ∈ rewrittenFields ∨ ∀ v, plainMember astra key (f v) = plainMember astra key v) :
    Kept astra m (m.update key f) := by
  refine ⟨?_, fun s hs => ?_⟩
  · unfold outside
    rcases h with h | h
    · rw [Members.erase_update m h]
    · rw [Members.update, Members.erase_mapValues, Members.mapValues_mapValues]
      congr 1
      funext k v
      split_ifs with hk
      · rw [hk, h]
      · rfl
  · rw [Members.get_update, if_neg hmodel, hs]

end Steps

section Repeated

lemma wrapInput_again (v : Value) : wrapInput (wrapInput v) = wrapInput v := by
  cases v with
  | string s =>
    simp only [wrapInput]
    split_ifs <;> rfl
  | _ => rfl

lemma repairType_again (v : Value) : repairType (repairType v) = repairType v := by
  cases v <;> rfl

lemma repairParameters_again (v : Value) : repairParameters (repairParameters v) = repairParameters v := by
  unfold repairParameters
  rw [Value.inMember_same]
  congr 1
  funext w
  rw [Value.inMember_same]
  congr 1
  funext t
  exact repairType_again t

lemma normalizeTools_succ (depth : ℕ) : normalizeTools (depth + 1) = Value.inItems fun tool =>
    Value.inMember "tools" (normalizeTools depth) (Value.inMember "function" repairParameters (repairParameters tool)) := rfl

/-- A repaired list of tools is not changed again. The three members that are repaired in a tool are different ones. -/
lemma normalizeTools_again (depth : ℕ) (v : Value) : normalizeTools depth (normalizeTools depth v) = normalizeTools depth v := by
  induction depth generalizing v with
  | zero => rfl
  | succ depth ih =>
    rw [normalizeTools_succ, Value.inItems_inItems]
    congr 1
    funext tool
    have htools : (fun w => normalizeTools depth (normalizeTools depth w)) = normalizeTools depth := funext ih
    have hparameters : (fun w => repairParameters (repairParameters w)) = repairParameters := funext repairParameters_again
    have hapart (w : Value) (g : Value → Value) : repairParameters (Value.inMember "function" g w) =
        Value.inMember "function" g (repairParameters w) := Value.inMember_comm (by decide) w
    have hnested (w : Value) (g : Value → Value) : repairParameters (Value.inMember "tools" g w) =
        Value.inMember "tools" g (repairParameters w) := Value.inMember_comm (by decide) w
    have hfunction (w : Value) (f g : Value → Value) : Value.inMember "function" f (Value.inMember "tools" g w) =
        Value.inMember "tools" g (Value.inMember "function" f w) := Value.inMember_comm (by decide) w
    rw [hnested, hapart, hfunction, Value.inMember_same, Value.inMember_same, repairParameters_again, htools, hparameters]

lemma normalizeItems_again (v : Value) : normalizeItems (normalizeItems v) = normalizeItems v := by
  unfold normalizeItems
  rw [Value.inItems_inItems]
  congr 1
  funext item
  rw [Value.inMember_same]
  congr 1
  funext w
  exact normalizeTools_again _ w

lemma normalizeItems_wrapInput_normalizeItems (v : Value) :
    normalizeItems (wrapInput (normalizeItems v)) = normalizeItems (wrapInput v) := by
  cases v with
  | array items => exact normalizeItems_again (.array items)
  | _ => rfl

variable {float64 : ℚ → Option ℚ}

lemma commutes_wrapInput : Commutes float64 wrapInput := by
  intro v w h
  cases v with
  | string s =>
    cases h
    simp only [wrapInput]
    split_ifs <;> rfl
  | object item =>
    obtain ⟨item', hitem, rfl⟩ := Option.map_eq_some_iff.1 h
    have hobject : (Value.object item).decodeFloats float64 = some (.object item') := by
      rw [Value.decodeFloats, hitem]
      rfl
    rw [wrapInput, Value.decodeFloats, Value.decodeFloats.decodeItems, hobject]
    rfl
  | array items =>
    obtain ⟨items', hitems, rfl⟩ := Option.map_eq_some_iff.1 h
    exact h
  | number q =>
    obtain ⟨r, hr, rfl⟩ := Option.map_eq_some_iff.1 h
    exact h
  | null =>
    cases h
    rfl
  | bool b =>
    cases h
    rfl

lemma commutes_repairType : Commutes float64 repairType := by
  intro v w h
  cases v with
  | null =>
    cases h
    rfl
  | object members =>
    obtain ⟨members', hmembers, rfl⟩ := Option.map_eq_some_iff.1 h
    exact h
  | array items =>
    obtain ⟨items', hitems, rfl⟩ := Option.map_eq_some_iff.1 h
    exact h
  | number q =>
    obtain ⟨r, hr, rfl⟩ := Option.map_eq_some_iff.1 h
    exact h
  | string s =>
    cases h
    rfl
  | bool b =>
    cases h
    rfl

lemma commutes_repairParameters : Commutes float64 repairParameters :=
  Commutes.inMember (Commutes.inMember commutes_repairType "type") "parameters"

lemma commutes_normalizeTools (depth : ℕ) : Commutes float64 (normalizeTools depth) := by
  induction depth with
  | zero => exact Commutes.id
  | succ depth ih =>
    rw [normalizeTools_succ]
    refine Commutes.inItems (Commutes.comp (Commutes.inMember ih "tools") ?_)
    exact Commutes.comp (Commutes.inMember commutes_repairParameters "function") commutes_repairParameters

lemma commutes_plainMember (astra : Bool) (key : String) : Commutes float64 (plainMember astra key) := by
  unfold plainMember
  split_ifs
  · exact Commutes.comp (Commutes.inItems (Commutes.inMember (commutes_normalizeTools _) "tools")) commutes_wrapInput
  · exact commutes_normalizeTools _
  · exact Commutes.without _
  · exact Commutes.id
  · exact Commutes.without _
  · exact Commutes.id

lemma outside_decodeFloats {astra : Bool} {m m' : Members} (h : m.decodeFloats float64 = some m') :
    (outside astra m).decodeFloats float64 = some (outside astra m') :=
  Members.decodeFloats_mapValues (commutes_plainMember astra) (Members.decodeFloats_erase rewrittenFields h)

lemma floated_decodeFloats {astra : Bool} {m m' : Members} (h : m.decodeFloats float64 = some m') :
    Floated float64 astra m m' := by
  refine ⟨outside_decodeFloats h, fun s hs => ?_⟩
  rw [(Members.get_decodeFloats h "model").1, hs]
  rfl

end Repeated

section Normalizing

variable {toLower quote : String → String} {model : String} {m m' : Members} {metadata : RequestBilling}

lemma kept_normalizeGPT6AstraRequest :
    Kept (isAstra toLower model) m (normalizeGPT6AstraRequest toLower m model) := by
  unfold normalizeGPT6AstraRequest
  split_ifs with hastra
  · have heffort (v : Value) :
        plainMember (isAstra toLower model) "reasoning" (Value.inMember "effort" (raiseEffort toLower) v) =
          plainMember (isAstra toLower model) "reasoning" v := by
      simp only [plainMember, hastra]
      exact Value.without_inMember (by simp) v
    exact (Kept.update (by decide) (.inr heffort)).trans (Kept.update (by decide) (.inl (by decide)))
  · exact Kept.refl m

lemma kept_normalizeCodexInput {astra : Bool} : Kept astra m (normalizeCodexInput m) := by
  have hinput (v : Value) : plainMember astra "input" (wrapInput v) = plainMember astra "input" v :=
    congrArg normalizeItems (wrapInput_again v)
  exact Kept.update (by decide) (.inr hinput)

lemma kept_normalizeCodexToolParameterTypes {astra : Bool} : Kept astra m (normalizeCodexToolParameterTypes m) := by
  have htools (v : Value) : plainMember astra "tools" (normalizeTools (maxCodexNestedToolDepth + 1) v) =
      plainMember astra "tools" v := normalizeTools_again _ v
  have hinput (v : Value) : plainMember astra "input" (normalizeItems v) = plainMember astra "input" v :=
    normalizeItems_wrapInput_normalizeItems v
  exact (Kept.update (by decide) (.inr htools)).trans (Kept.update (by decide) (.inr hinput))

lemma kept_ensureCodexReasoningInclude {astra : Bool} : Kept astra m (ensureCodexReasoningInclude m) := by
  have hset (v : Value) : Kept astra m (m.set "include" v) := Kept.set (by decide) (by decide) v
  unfold ensureCodexReasoningInclude
  split
  · split
    · exact hset _
    · exact hset _
    · split_ifs
      · exact Kept.refl m
      · exact hset _
    · exact Kept.refl m
  · exact Kept.refl m

lemma get_ensureCodexReasoningInclude {key : String} (h : key ≠ "include") :
    (ensureCodexReasoningInclude m).get key = m.get key := by
  have hset (v : Value) : (m.set "include" v).get key = m.get key := by rw [Members.get_set, if_neg h]
  unfold ensureCodexReasoningInclude
  split
  · split
    · exact hset _
    · exact hset _
    · split_ifs
      · rfl
      · exact hset _
    · rfl
  · rfl

lemma get_normalizeGPT6AstraRequest {key : String} (hreasoning : key ≠ "reasoning") (hinclude : key ≠ "include") :
    (normalizeGPT6AstraRequest toLower m model).get key = m.get key := by
  unfold normalizeGPT6AstraRequest
  split_ifs
  · rw [Members.get_update, if_neg hinclude, Members.get_update, if_neg hreasoning]
  · rfl

lemma requestModel_ok {name : String} (h : requestModel m = .ok name) :
    ∃ s, m.get "model" = some (.string s) ∧ name = trimSpace s := by
  unfold requestModel at h
  split at h
  · rename_i s hget
    split_ifs at h
    cases h
    exact ⟨s, hget, rfl⟩
  · cases h

lemma parseRequestBilling_model (h : parseRequestBilling m = .ok metadata) :
    ∃ s, m.get "model" = some (.string s) ∧ metadata.model = trimSpace s := by
  obtain ⟨name, hname, h⟩ := bind_eq_ok h
  obtain ⟨tier, -, h⟩ := bind_eq_ok h
  obtain ⟨key, -, h⟩ := bind_eq_ok h
  obtain ⟨stream, -, h⟩ := bind_eq_ok h
  cases h
  exact requestModel_ok hname

lemma unsupported_rewritten : chatGPTUnsupportedFields ⊆ rewrittenFields := List.subset_append_left _ _

lemma kept_unsupported {astra : Bool} : Kept astra m (m.erase chatGPTUnsupportedFields) :=
  Kept.erase unsupported_rewritten (by decide)

/-- A request on the regular endpoint keeps what it says. -/
lemma prepareRequest_ok (h : prepareRequest toLower quote m false true = .ok (m', metadata)) :
    parseRequestBilling m = .ok metadata ∧ Kept (isAstra toLower metadata.model) m m' ∧
      m'.get "service_tier" = m.get "service_tier" := by
  obtain ⟨billing, hbilling, h⟩ := bind_eq_ok h
  obtain ⟨-, -, h⟩ := bind_eq_ok h
  obtain ⟨-, -, h⟩ := bind_eq_ok h
  cases h
  refine ⟨hbilling, ?_, ?_⟩
  · have hwritten (p : Members) : Kept (isAstra toLower metadata.model) p ((p.set "store" (.bool false)).set "stream" (.bool true)) :=
      (Kept.set (by decide) (by decide) _).trans (Kept.set (by decide) (by decide) _)
    exact kept_unsupported.trans (kept_normalizeGPT6AstraRequest.trans (kept_normalizeCodexInput.trans
      (kept_normalizeCodexToolParameterTypes.trans ((hwritten _).trans kept_ensureCodexReasoningInclude))))
  · have hunsupported : "service_tier" ∉ chatGPTUnsupportedFields := by decide
    rw [get_ensureCodexReasoningInclude (by decide), Members.get_set, if_neg (by decide), Members.get_set,
      if_neg (by decide), normalizeCodexToolParameterTypes, Members.get_update, if_neg (by decide), Members.get_update,
      if_neg (by decide), normalizeCodexInput, Members.get_update, if_neg (by decide),
      get_normalizeGPT6AstraRequest (by decide) (by decide), Members.get_erase, if_neg hunsupported]

end Normalizing

section Frames

variable {toLower quote : String → String} {float64 : ℚ → Option ℚ} {frame m m' : Members} {turn : ℕ}
  {inherited previous : String} {metadata : RequestBilling}

/-- The model that a request names or inherits. -/
def modelName (m : Members) (inherited : String) : String :=
  match m.get "model" with
  | some (.string s) => trimSpace s
  | some _ => ""
  | none => trimSpace inherited

lemma violation_ok {α : Type} {x : Except String α} {a : α} (h : violation x = .ok a) : x = .ok a := by
  cases x with
  | ok b =>
    cases h
    rfl
  | error e => cases h

lemma typedFrame_ok (astra : Bool) (h : typedFrame m = .ok m') : Kept astra m m' ∧ m'.get "model" = m.get "model" := by
  unfold typedFrame at h
  split at h
  · cases h
    exact ⟨Kept.set (by decide) (by decide) _, by rw [Members.get_set, if_neg (by decide)]⟩
  · split_ifs at h
    cases h
    exact ⟨Kept.refl m, rfl⟩
  · cases h

lemma modelledFrame_ok (astra : Bool) (h : modelledFrame m turn inherited = .ok m') :
    Kept astra m m' ∧ (m' = m ∧ m.get "model" ≠ none ∨ m.get "model" = none ∧ m'.get "model" = some (.string inherited)) := by
  unfold modelledFrame at h
  split_ifs at h
  · split at h
    · rename_i s hget
      split_ifs at h
      cases h
      exact ⟨Kept.refl m, .inl ⟨rfl, by simp [hget]⟩⟩
    · cases h
  · split at h
    · rename_i hnone
      cases h
      refine ⟨⟨?_, fun s hs => ?_⟩, .inr ⟨hnone, by rw [Members.get_set, if_pos rfl]⟩⟩
      · unfold outside
        rw [Members.erase_set m (by decide)]
      · rw [hnone] at hs
        cases hs
    · rename_i v hget
      cases h
      exact ⟨Kept.refl m, .inl ⟨rfl, by simp [hget]⟩⟩

lemma webSocketModel_ok {name : String} (h : webSocketModel m turn = .ok name) (hmodel : m.get "model" ≠ none) :
    ∃ s, m.get "model" = some (.string s) ∧ name = trimSpace s := by
  unfold webSocketModel at h
  split at h
  · rename_i s hget
    split_ifs at h
    cases h
    exact ⟨s, hget, rfl⟩
  · cases h
  · rename_i hnone
    exact absurd hnone hmodel

lemma responsesWebSocketBilling_model (h : responsesWebSocketBilling m turn = .ok (metadata, previous))
    (hmodel : m.get "model" ≠ none) : ∃ s, m.get "model" = some (.string s) ∧ metadata.model = trimSpace s := by
  obtain ⟨name, hname, h⟩ := bind_eq_ok h
  obtain ⟨tier, -, h⟩ := bind_eq_ok h
  obtain ⟨key, -, h⟩ := bind_eq_ok h
  obtain ⟨stream, -, h⟩ := bind_eq_ok h
  obtain ⟨id, -, h⟩ := bind_eq_ok h
  cases h
  exact webSocketModel_ok hname hmodel

/-- The frame has its model as a text, with the name that the metadata have; it is the client's unless that names none. -/
structure Named (frame : Members) (inherited : String) (m : Members) (metadata : RequestBilling) (s : String) : Prop where
  model : m.get "model" = some (.string s)
  name : metadata.model = trimSpace s
  source : frame.get "model" = some (.string s) ∨ frame.get "model" = none ∧ s = inherited

lemma Named.modelName_eq {s : String} (h : Named frame inherited m metadata s) : modelName frame inherited = metadata.model := by
  unfold modelName
  rcases h.source with hsome | ⟨hnone, rfl⟩
  · rw [hsome, h.name]
  · rw [hnone, h.name]

/-- A frame that is accepted keeps what it says. -/
lemma parseResponsesWebSocketFrame_ok (astra : Bool)
    (h : parseResponsesWebSocketFrame frame turn inherited = .ok (m, metadata, previous)) :
    Kept astra frame m ∧ ∃ s, Named frame inherited m metadata s := by
  obtain ⟨typed, htyped, h⟩ := bind_eq_ok h
  obtain ⟨modelled, hmodelled, h⟩ := bind_eq_ok h
  obtain ⟨-, -, h⟩ := bind_eq_ok h
  obtain ⟨⟨billing, id⟩, hbilling, h⟩ := bind_eq_ok h
  cases h
  obtain ⟨hkept, hsame⟩ := typedFrame_ok astra htyped
  obtain ⟨hkept', hcases⟩ := modelledFrame_ok astra hmodelled
  refine ⟨hkept.trans hkept', ?_⟩
  rcases hcases with ⟨rfl, hmodel⟩ | ⟨hnone, hmodel⟩
  · obtain ⟨s, hget, hname⟩ := responsesWebSocketBilling_model (violation_ok hbilling) hmodel
    exact ⟨s, hget, hname, .inl (hsame ▸ hget)⟩
  · obtain ⟨s, hget, hname⟩ := responsesWebSocketBilling_model (violation_ok hbilling) (by simp [hmodel])
    obtain rfl : inherited = s := by simpa using hmodel.symm.trans hget
    exact ⟨inherited, hget, hname, .inr ⟨hsame ▸ hnone, rfl⟩⟩

/-- A frame that is prepared keeps what it says, with its numbers as floats. -/
lemma prepareResponsesWebSocketFrame_ok
    (h : prepareResponsesWebSocketFrame toLower quote float64 frame turn inherited = .ok (m, metadata, previous)) :
    Floated float64 (isAstra toLower metadata.model) frame m ∧
      ∃ p s, Named frame inherited p metadata s ∧ m.get "model" = some (.string s) := by
  obtain ⟨⟨parsed, billing, id⟩, hparsed, h⟩ := bind_eq_ok h
  dsimp only at h
  split at h
  · cases h
  · rename_i payload hpayload
    obtain ⟨-, -, h⟩ := bind_eq_ok h
    cases h
    obtain ⟨hkept, s, hnamed⟩ := parseResponsesWebSocketFrame_ok (isAstra toLower metadata.model) hparsed
    have hstream (p : Members) : Kept (isAstra toLower metadata.model) p
        (if (p.get "stream").isSome then p else p.set "stream" (.bool true)) := by
      split_ifs
      · exact Kept.refl p
      · exact Kept.set (by decide) (by decide) _
    have hwritten (p : Members) : Kept (isAstra toLower metadata.model) p
        (((p.delete "background").set "type" (.string "response.create")).set "store" (.bool false)) :=
      (Kept.delete (by decide) (by decide)).trans
        ((Kept.set (by decide) (by decide) _).trans (Kept.set (by decide) (by decide) _))
    have hdecoded : Floated float64 (isAstra toLower metadata.model) parsed payload := floated_decodeFloats hpayload
    have hwhole : Kept (isAstra toLower metadata.model) payload _ := kept_unsupported.trans (kept_normalizeGPT6AstraRequest.trans ((hwritten _).trans ((hstream _).trans
      (kept_normalizeCodexInput.trans kept_ensureCodexReasoningInclude))))
    exact ⟨(hkept.floated hdecoded).kept hwhole, parsed, s, hnamed, hwhole.model s (hdecoded.model s hnamed.model)⟩

end Frames

section Policy

variable {toLower : String → String} {float64 : ℚ → Option ℚ} {astra : Bool} {r r' : Request} {action : Action}
  {accountRules keyRules rules : List FastPolicyRule} {userID : String} {body body' : Members}
  {metadata metadata' : RequestBilling}

/-- The action writes the tier. -/
def actionRewrites (rawTier : String) : Action → Bool
  | .filter => rawTier ≠ ""
  | .forcePriority => rawTier ≠ "priority"
  | _ => false

def tierAfter (rawTier : String) : Action → String
  | .filter => ""
  | .forcePriority => "priority"
  | _ => rawTier

/-- The tier that a request asks for. -/
def requestedTier (toLower : String → String) (m : Members) : String :=
  match m.get "service_tier" with
  | some (.string s) => toLower (trimSpace s)
  | _ => ""

def judgedAction (rules : List FastPolicyRule) (userID model rawTier : String) : Action :=
  (resolveFastPolicy rules userID model (tierOf rawTier)).1

def judgementRewrites (accountRules keyRules : List FastPolicyRule) (userID model rawTier : String) : Bool :=
  if judgedAction accountRules userID model rawTier ≠ .pass then
    actionRewrites rawTier (judgedAction accountRules userID model rawTier)
  else
    let key := judgedAction keyRules userID model rawTier
    actionRewrites rawTier key ||
      actionRewrites (tierAfter rawTier key) (judgedAction accountRules userID model (tierAfter rawTier key))

/-- The rules write the tier of a request that asks for the given one. -/
def policyRewrites (accountRules keyRules : List FastPolicyRule) (userID model rawTier : String) : Bool :=
  if tierOf rawTier ≠ "" ∧ tierOf rawTier ≠ "priority" ∧ tierOf rawTier ≠ "flex" then false
  else judgementRewrites accountRules keyRules userID model rawTier

variable (astra) in
lemma applyFastPolicyAction_spec (r : Request) (action : Action) :
    Kept astra r.payload (applyFastPolicyAction r action).payload ∧
      (applyFastPolicyAction r action).changed = (r.changed || actionRewrites r.rawTier action) ∧
      (applyFastPolicyAction r action).rawTier = tierAfter r.rawTier action ∧
      (applyFastPolicyAction r action).metadata.model = r.metadata.model := by
  cases action with
  | filter =>
    refine ⟨?_, rfl, rfl, rfl⟩
    simp only [applyFastPolicyAction]
    split_ifs
    · exact Kept.delete (by decide) (by decide)
    · exact Kept.refl _
  | forcePriority => exact ⟨Kept.set (by decide) (by decide) _, rfl, rfl, rfl⟩
  | pass => exact ⟨Kept.refl _, (Bool.or_false _).symm, rfl, rfl⟩
  | block => exact ⟨Kept.refl _, (Bool.or_false _).symm, rfl, rfl⟩
  | other name => exact ⟨Kept.refl _, (Bool.or_false _).symm, rfl, rfl⟩

variable (astra) in
lemma judgeAll_rewrites (h : judgeAll accountRules keyRules userID r = .ok r') :
    Kept astra r.payload r'.payload ∧
      r'.changed = (r.changed || judgementRewrites accountRules keyRules userID r.metadata.model r.rawTier) := by
  unfold judgeAll at h
  split_ifs at h with hpass
  · obtain ⟨-, rfl⟩ := judge_ok h
    obtain ⟨hkept, hchanged, -, -⟩ := applyFastPolicyAction_spec astra r
      (judgedAction accountRules userID r.metadata.model r.rawTier)
    have hjudged : judgedAction accountRules userID r.metadata.model r.rawTier ≠ .pass := hpass
    refine ⟨hkept, hchanged.trans ?_⟩
    rw [judgementRewrites, if_pos hjudged]
  · obtain ⟨r₁, hkey, hlast⟩ := bind_eq_ok h
    obtain ⟨-, hr₁⟩ := judge_ok hkey
    obtain ⟨hkept, hchanged, hraw, hmodel⟩ := applyFastPolicyAction_spec astra r
      (judgedAction keyRules userID r.metadata.model r.rawTier)
    have heq : r₁ = applyFastPolicyAction r (judgedAction keyRules userID r.metadata.model r.rawTier) := hr₁
    rw [← heq] at hkept hchanged hraw hmodel
    obtain ⟨-, rfl⟩ := judge_ok hlast
    obtain ⟨hkept', hchanged', -, -⟩ := applyFastPolicyAction_spec astra r₁
      (judgedAction accountRules userID r₁.metadata.model r₁.rawTier)
    have hpassed : ¬ judgedAction accountRules userID r.metadata.model r.rawTier ≠ .pass := hpass
    refine ⟨hkept.trans hkept', hchanged'.trans ?_⟩
    rw [judgementRewrites, if_neg hpassed, hchanged, hraw, hmodel, Bool.or_assoc]

lemma decodeFloats_string {v : Value} {text : String} (h : v.decodeFloats float64 = some (.string text)) :
    v = .string text := by
  cases v with
  | number q =>
    obtain ⟨r, -, hr⟩ := Option.map_eq_some_iff.1 h
    cases hr
  | array items =>
    obtain ⟨items', -, hitems⟩ := Option.map_eq_some_iff.1 h
    cases hitems
  | object members =>
    obtain ⟨members', -, hmembers⟩ := Option.map_eq_some_iff.1 h
    cases hmembers
  | _ =>
    cases h
    try rfl

lemma rawTierOf_decoded {payload : Members} {rawTier : String} (hpayload : body.decodeFloats float64 = some payload)
    (h : rawTierOf toLower payload = .ok rawTier) : rawTier = requestedTier toLower body := by
  obtain ⟨hget, hsome⟩ := Members.get_decodeFloats hpayload "service_tier"
  unfold rawTierOf at h
  unfold requestedTier
  split at h
  · rename_i hnone
    cases h
    rw [hnone, Option.isSome_none] at hsome
    have hmissing : body.get "service_tier" = none := Option.isSome_eq_false_iff.1 hsome.symm |> Option.isNone_iff_eq_none.1
    rw [hmissing]
  · rename_i text htext
    cases h
    obtain ⟨v, hv, hdecoded⟩ := Option.bind_eq_some_iff.1 (hget.symm.trans htext)
    rw [hv, decodeFloats_string hdecoded]
  · cases h

variable (astra) in
/-- A request that the rules let through is the same, or has its tier written and its numbers decoded as floats. -/
lemma applyFastPolicy_floated
    (h : applyFastPolicy toLower float64 body metadata accountRules keyRules userID = .ok (body', metadata')) :
    if policyRewrites accountRules keyRules userID metadata.model (requestedTier toLower body) = true then
      Floated float64 astra body body'
    else body' = body := by
  unfold applyFastPolicy at h
  cases hpayload : body.decodeFloats float64 with
  | none => simp [hpayload] at h
  | some payload =>
    simp only [hpayload] at h
    obtain ⟨rawTier, hraw, h⟩ := bind_eq_ok h
    obtain rfl := rawTierOf_decoded hpayload hraw
    unfold policyRewrites
    by_cases hother : tierOf (requestedTier toLower body) ≠ "" ∧ tierOf (requestedTier toLower body) ≠ "priority" ∧
        tierOf (requestedTier toLower body) ≠ "flex"
    · -- another tier is not judged at all
      rw [if_pos hother] at h ⊢
      cases h
      rfl
    · rw [if_neg hother] at h ⊢
      obtain ⟨r, hall, h⟩ := bind_eq_ok h
      obtain ⟨hkept, hchanged⟩ := judgeAll_rewrites astra hall
      rw [Bool.false_or] at hchanged
      dsimp only at hchanged
      rw [← hchanged]
      split_ifs at h ⊢
      · cases h
        exact (floated_decodeFloats hpayload).kept hkept
      · cases h
        rfl

end Policy

section Identities

variable {identity : Identity} {astra : Bool} {m m' : Members} {clientSessionID session : String} {fingerprint : Option String}

/-- Without the identities the metadata are the client's. -/
lemma erase_fields (values : Members) : (identity.fields values).erase identityFields = values.erase identityFields := by
  have hfold (fields : List (String × String)) (hfields : ∀ field ∈ fields, field.1 ∈ identityFields) (values : Members) :
      (fields.foldl (fun values field => Members.update values field.1 (identity.scopeValue field.2)) values).erase
        identityFields = values.erase identityFields := by
    induction fields generalizing values with
    | nil => rfl
    | cons field fields ih =>
      rw [List.foldl_cons, ih (fun e he => hfields e (List.mem_cons_of_mem _ he)),
        Members.erase_update _ (hfields field List.mem_cons_self)]
  exact hfold _ (by decide) values

lemma erase_metadata {metadata metadata' : Members} (h : identity.metadata metadata = .ok metadata') :
    metadata'.erase identityFields = metadata.erase identityFields := by
  unfold Identity.metadata at h
  split at h
  · split_ifs at h
    · cases h
      exact erase_fields metadata
    · obtain ⟨renamed, -, h⟩ := bind_eq_ok h
      cases h
      rw [Members.erase_replace _ (by decide), erase_fields]
  · cases h
    exact erase_fields metadata

lemma scopeMetadata_ok (h : identity.scopeMetadata m = .ok (m', session)) : Kept astra m m' := by
  unfold Identity.scopeMetadata at h
  split at h
  · cases h
    exact Kept.refl m
  · cases h
    exact Kept.refl m
  · rename_i metadata hmetadata
    obtain ⟨renamed, hrenamed, h⟩ := bind_eq_ok h
    cases h
    refine Kept.replace (by decide) (.inr fun w hw => ?_)
    obtain rfl : Value.object metadata = w := Option.some.inj (hmetadata.symm.trans hw)
    exact congrArg Value.object (erase_metadata hrenamed)
  · cases h

lemma kept_scopeCacheKey : Kept astra m (identity.scopeCacheKey m session clientSessionID fingerprint) := by
  unfold Identity.scopeCacheKey
  split
  · split_ifs
    · exact Kept.refl m
    · exact Kept.replace (by decide) (.inl (by decide))
  · exact Kept.refl m

/-- The identities are all that the account's identity rewrites. -/
lemma body_kept (h : identity.body m clientSessionID fingerprint = .ok m') : Kept astra m m' := by
  unfold Identity.body at h
  split_ifs at h
  · cases h
    exact Kept.refl m
  · obtain ⟨⟨payload, session⟩, hmetadata, h⟩ := bind_eq_ok h
    cases h
    exact (scopeMetadata_ok hmetadata).trans kept_scopeCacheKey

end Identities

section Routes

variable {toLower quote : String → String} {float64 : ℚ → Option ℚ} {astra : Bool} {request result : Members}

lemma Kept.preserved (h : Kept astra request result) (hmodel : ∀ v, request.get "model" = some v → ∃ s, v = .string s) :
    Preserved astra request result := by
  refine ⟨h.same, fun v hv => ?_⟩
  obtain ⟨s, rfl⟩ := hmodel v hv
  exact h.model s hv

lemma Floated.preserved_iff (h : Floated float64 astra request result)
    (hmodel : ∀ v, request.get "model" = some v → ∃ s, v = .string s) :
    Preserved astra request result ↔ Exact float64 (outside astra request) := by
  constructor
  · intro hpreserved
    exact h.same_iff.1 hpreserved.same
  · intro hexact
    refine ⟨h.same_iff.2 hexact, fun v hv => ?_⟩
    obtain ⟨s, rfl⟩ := hmodel v hv
    exact h.model s hv

variable {accountRules keyRules : List FastPolicyRule} {userID : String} {body body' : Members}
  {metadata metadata' : RequestBilling}

/-- The policy decodes the numbers as floats, or leaves the request as it is. -/
lemma applyFastPolicy_cases
    (h : applyFastPolicy toLower float64 body metadata accountRules keyRules userID = .ok (body', metadata')) :
    Floated float64 astra body body' ∨ body' = body := by
  have hfloated := applyFastPolicy_floated astra h
  split_ifs at hfloated
  · exact .inl hfloated
  · exact .inr hfloated

variable {frame prepared judged renamed : Members} {identity : Identity} {clientSessionID inherited previous : String}
  {fingerprint : Option String} {turn : ℕ}

lemma Named.string {m : Members} {s : String} (h : Named frame inherited m metadata s) (v : Value)
    (hv : frame.get "model" = some v) : ∃ t, v = .string t := by
  rcases h.source with hsome | ⟨hnone, -⟩
  · exact ⟨s, Option.some.inj (hv.symm.trans hsome)⟩
  · rw [hnone] at hv
    cases hv

lemma request_preserved_iff (hprepare : prepareRequest toLower quote request false true = .ok (prepared, metadata))
    (hpolicy : applyFastPolicy toLower float64 prepared metadata accountRules keyRules userID = .ok (judged, metadata'))
    (hbody : identity.body judged clientSessionID fingerprint = .ok result) :
    Preserved (isAstra toLower (modelName request "")) request result ↔
      (policyRewrites accountRules keyRules userID (modelName request "") (requestedTier toLower request) = true →
        Exact float64 (outside (isAstra toLower (modelName request "")) request)) := by
  obtain ⟨hbilling, hkept, htier⟩ := prepareRequest_ok hprepare
  obtain ⟨s, hget, hname⟩ := parseRequestBilling_model hbilling
  have hmodel (v : Value) (hv : request.get "model" = some v) : ∃ t, v = .string t :=
    ⟨s, Option.some.inj (hv.symm.trans hget)⟩
  have hsame : modelName request "" = metadata.model := by
    rw [hname, modelName, hget]
  have hasked : requestedTier toLower prepared = requestedTier toLower request := by
    unfold requestedTier
    rw [htier]
  have hjudged := applyFastPolicy_floated (isAstra toLower metadata.model) hpolicy
  rw [hasked] at hjudged
  rw [hsame]
  split_ifs at hjudged with hrewrites
  · rw [((hkept.floated hjudged).kept (body_kept hbody)).preserved_iff hmodel]
    exact ⟨fun h _ => h, fun h => h hrewrites⟩
  · subst hjudged
    exact ⟨fun _ h => absurd h hrewrites, fun _ => (hkept.trans (body_kept hbody)).preserved hmodel⟩

/-- A frame on its way through a session: it is parsed before the policy, and prepared after the identity. -/
lemma frame_preserved_iff (hround : ∀ q r, float64 q = some r → float64 r = some r) {turn' : ℕ} {inherited' previous' : String}
    {metadata'' : RequestBilling} {parsed : Members}
    (hparse : parseResponsesWebSocketFrame frame turn inherited = .ok (parsed, metadata, previous))
    (hpolicy : applyFastPolicy toLower float64 parsed metadata accountRules keyRules userID = .ok (judged, metadata'))
    (hbody : identity.body judged clientSessionID fingerprint = .ok renamed)
    (hprepare : prepareResponsesWebSocketFrame toLower quote float64 renamed turn' inherited' = .ok (result, metadata'', previous')) :
    Preserved (isAstra toLower (modelName frame inherited)) frame result ↔
      Exact float64 (outside (isAstra toLower (modelName frame inherited)) frame) := by
  obtain ⟨hkept, s, hnamed⟩ := parseResponsesWebSocketFrame_ok (isAstra toLower metadata.model) hparse
  obtain ⟨hlast, p, t, hrenamed, -⟩ := prepareResponsesWebSocketFrame_ok hprepare
  rw [hnamed.modelName_eq]
  have hbody' : Kept (isAstra toLower metadata.model) judged renamed := body_kept hbody
  have hjudged : Floated float64 (isAstra toLower metadata.model) parsed judged ∨ judged = parsed := applyFastPolicy_cases hpolicy
  -- the model is the same when the frame is parsed again
  have hmodel : judged.get "model" = some (.string s) := by
    rcases hjudged with hfloated | rfl
    · exact hfloated.model s hnamed.model
    · exact hnamed.model
  have hsame : metadata''.model = metadata.model := by
    have hget := hbody'.model s hmodel
    rcases hrenamed.source with hsome | ⟨hnone, -⟩
    · obtain rfl : s = t := by simpa using hget.symm.trans hsome
      rw [hrenamed.name, hnamed.name]
    · rw [hnone] at hget
      cases hget
  rw [hsame] at hlast
  rcases hjudged with hfloated | rfl
  · exact (((hkept.floated hfloated).kept hbody').again hround hlast).preserved_iff hnamed.string
  · exact ((hkept.trans hbody').floated hlast).preserved_iff hnamed.string

/-- A frame that is prepared first. -/
lemma prepared_preserved_iff (hround : ∀ q r, float64 q = some r → float64 r = some r)
    (hprepare : prepareResponsesWebSocketFrame toLower quote float64 frame turn inherited = .ok (prepared, metadata, previous))
    (hpolicy : applyFastPolicy toLower float64 prepared metadata accountRules keyRules userID = .ok (judged, metadata'))
    (hbody : identity.body judged clientSessionID fingerprint = .ok result) :
    Preserved (isAstra toLower (modelName frame inherited)) frame result ↔
      Exact float64 (outside (isAstra toLower (modelName frame inherited)) frame) := by
  obtain ⟨hfirst, p, s, hnamed, -⟩ := prepareResponsesWebSocketFrame_ok hprepare
  rw [hnamed.modelName_eq]
  have hbody' : Kept (isAstra toLower metadata.model) judged result := body_kept hbody
  have hjudged : Floated float64 (isAstra toLower metadata.model) prepared judged ∨ judged = prepared :=
    applyFastPolicy_cases hpolicy
  rcases hjudged with hfloated | rfl
  · exact ((hfirst.again hround hfloated).kept hbody').preserved_iff hnamed.string
  · exact (hfirst.kept hbody').preserved_iff hnamed.string

/-- A request on the regular endpoint is preserved outside of the rewritten fields unless the policy writes its tier and a
number of it is not exact as a float; and a frame, whether it is prepared last or first, if and only if its numbers are
exact. -/
theorem preserved_iff_numbers_exact (toLower quote : String → String) (float64 : ℚ → Option ℚ)
    (hround : ∀ q r, float64 q = some r → float64 r = some r) (identity : Identity)
    (accountRules keyRules : List FastPolicyRule) (userID clientSessionID : String) (fingerprint : Option String)
    (metadata metadata' metadata'' : RequestBilling) (request parsed prepared judged renamed result : Members)
    (turn turn' : ℕ) (inherited inherited' previous previous' : String) :
    (prepareRequest toLower quote request false true = .ok (prepared, metadata) →
      applyFastPolicy toLower float64 prepared metadata accountRules keyRules userID = .ok (judged, metadata') →
      identity.body judged clientSessionID fingerprint = .ok result →
        (Preserved (isAstra toLower (modelName request "")) request result ↔
          (policyRewrites accountRules keyRules userID (modelName request "") (requestedTier toLower request) = true →
            Exact float64 (outside (isAstra toLower (modelName request "")) request)))) ∧
    (parseResponsesWebSocketFrame request turn inherited = .ok (parsed, metadata, previous) →
      applyFastPolicy toLower float64 parsed metadata accountRules keyRules userID = .ok (judged, metadata') →
      identity.body judged clientSessionID fingerprint = .ok renamed →
      prepareResponsesWebSocketFrame toLower quote float64 renamed turn' inherited' = .ok (result, metadata'', previous') →
        (Preserved (isAstra toLower (modelName request inherited)) request result ↔
          Exact float64 (outside (isAstra toLower (modelName request inherited)) request))) ∧
    (prepareResponsesWebSocketFrame toLower quote float64 request turn inherited = .ok (prepared, metadata, previous) →
      applyFastPolicy toLower float64 prepared metadata accountRules keyRules userID = .ok (judged, metadata') →
      identity.body judged clientSessionID fingerprint = .ok result →
        (Preserved (isAstra toLower (modelName request inherited)) request result ↔
          Exact float64 (outside (isAstra toLower (modelName request inherited)) request))) :=
  ⟨request_preserved_iff, frame_preserved_iff hround, prepared_preserved_iff hround⟩

end Routes

section Samples

/-- The nearest double, for the integers of the samples. -/
def sampleFloat64 (q : ℚ) : Option ℚ := some (if q = 9007199254740993 then 9007199254740992 else q)

/-- A tool with a parameter up to a bound. -/
def sampleRequest (bound : ℚ) : Members :=
  [("model", .string "gpt-5.4"), ("input", .string "hello"),
    ("tools", .array [.object [("type", .string "function"), ("name", .string "pick"),
      ("parameters", .object [("type", .null), ("maximum", .number bound)])]])]

def sampleIdentity : Identity := ⟨"account-1", fun kind raw => kind ++ "-" ++ raw, fun _ => none, fun _ => ""⟩

lemma sampleFloat64_again (q r : ℚ) (h : sampleFloat64 q = some r) : sampleFloat64 r = some r := by
  unfold sampleFloat64 at h ⊢
  split_ifs at h with hq
  · cases h
    norm_num
  · cases h
    rw [if_neg hq]

/-- Without rules for its tier a request keeps an integer that no double is. -/
theorem preserved_iff_numbers_exact_request :
    ∃ prepared metadata judged metadata' result,
      prepareRequest id id (sampleRequest 9007199254740993) false true = .ok (prepared, metadata) ∧
        applyFastPolicy id sampleFloat64 prepared metadata [] [] "user-1" = .ok (judged, metadata') ∧
        sampleIdentity.body judged "" none = .ok result ∧
        Preserved (isAstra id (modelName (sampleRequest 9007199254740993) "")) (sampleRequest 9007199254740993) result := by
  have hrun : ∃ prepared metadata judged metadata' result,
      prepareRequest id id (sampleRequest 9007199254740993) false true = .ok (prepared, metadata) ∧
        applyFastPolicy id sampleFloat64 prepared metadata [] [] "user-1" = .ok (judged, metadata') ∧
        sampleIdentity.body judged "" none = .ok result := ⟨_, _, _, _, _, rfl, rfl, rfl⟩
  obtain ⟨prepared, metadata, judged, metadata', result, hprepare, hpolicy, hbody⟩ := hrun
  have hroutes := preserved_iff_numbers_exact id id sampleFloat64 sampleFloat64_again sampleIdentity [] [] "user-1" "" none
    metadata metadata' metadata (sampleRequest 9007199254740993) [] prepared judged [] result 1 1 "" "" "" ""
  have hpreserved := (hroutes.1 hprepare hpolicy hbody).2 fun hrewrites => absurd hrewrites (by decide)
  exact ⟨prepared, metadata, judged, metadata', result, hprepare, hpolicy, hbody, hpreserved⟩

/-- A frame with the same integer is sent with another one. -/
theorem frame_loses_integer :
    ∃ parsed metadata judged metadata' renamed result metadata'' previous',
      parseResponsesWebSocketFrame (sampleRequest 9007199254740993) 1 "" = .ok (parsed, metadata, "") ∧
        applyFastPolicy id sampleFloat64 parsed metadata [] [] "user-1" = .ok (judged, metadata') ∧
        sampleIdentity.body judged "" none = .ok renamed ∧
        prepareResponsesWebSocketFrame id id sampleFloat64 renamed 1 "" = .ok (result, metadata'', previous') ∧
        result.get "tools" = (sampleRequest 9007199254740992).get "tools" ∧
        ¬ Preserved (isAstra id (modelName (sampleRequest 9007199254740993) "")) (sampleRequest 9007199254740993) result := by
  have hrun : ∃ parsed metadata judged metadata' renamed result metadata'' previous',
      parseResponsesWebSocketFrame (sampleRequest 9007199254740993) 1 "" = .ok (parsed, metadata, "") ∧
        applyFastPolicy id sampleFloat64 parsed metadata [] [] "user-1" = .ok (judged, metadata') ∧
        sampleIdentity.body judged "" none = .ok renamed ∧
        prepareResponsesWebSocketFrame id id sampleFloat64 renamed 1 "" = .ok (result, metadata'', previous') ∧
        result.get "tools" = (sampleRequest 9007199254740992).get "tools" :=
    ⟨_, _, _, _, _, _, _, _, rfl, rfl, rfl, rfl, rfl⟩
  obtain ⟨parsed, metadata, judged, metadata', renamed, result, metadata'', previous', hparse, hpolicy, hbody, hprepare,
    htools⟩ := hrun
  refine ⟨parsed, metadata, judged, metadata', renamed, result, metadata'', previous', hparse, hpolicy, hbody, hprepare,
    htools, fun hpreserved => ?_⟩
  have hexact := (frame_preserved_iff sampleFloat64_again hparse hpolicy hbody hprepare).1 hpreserved
  have hchanged := hexact 9007199254740993 (by decide)
  exact absurd hchanged (by decide)

end Samples

end ShareSub.RequestPreservation

import Mathlib
import ShareSub.PayloadText
import ShareSub.RelayReadable

/-!
# Codes that no client is to see

What it means that a text holds one of the codes with which the upstream sheds its load, and what the rewriting for the
client makes of them, in a body and in a line of a stream.
-/
namespace ShareSub.CapacityShed

open SseModel RelayModel RelayRun PayloadText

section Statement

variable (json : Json) (toLower : String → String)

/-- The text of an error has a code that sheds load. -/
def shedError (payload : Bytes) : Bool :=
  ((json.object payload).bind fun e => json.string (Object.raw e "code")).any (isCapacityShedErrorCode toLower)

def topShed (o : Object) : Bool := shedError json toLower (Object.raw o "error")

def failedShed (o : Object) : Bool :=
  json.string (Object.raw o "type") = some "response.failed" &&
    (json.object (Object.raw o "response")).any (topShed json toLower)

/-- The text is an object with such a code, at the top or in the response of a failed event. -/
def Shed (text : Bytes) : Prop := ∃ o, json.object text = some o ∧ (topShed json toLower o = true ∨ failedShed json toLower o = true)

/-- Neither the whole text nor the payload of one of its data lines has such a code. -/
structure Clean (text : Bytes) : Prop where
  body : ¬ Shed json toLower text
  lines : ∀ line ∈ splitAfterNewline text, ∀ payload, ssePayload line = some payload → ¬ Shed json toLower payload

/-- A data line with a code at the top, where only events of the type `error` are rewritten. -/
def LineEscapes (line : Bytes) : Prop :=
  ∃ payload o, ssePayload line = some payload ∧ json.object payload = some o ∧ topShed json toLower o = true ∧
    json.string (Object.raw o "type") ≠ some "error"

/-- A body with a code where none is rewritten: in the response of a failed event, or in a data line. -/
def BodyEscapes (text : Bytes) : Prop :=
  (∃ o, json.object text = some o ∧ failedShed json toLower o = true) ∨
    ∃ line ∈ splitAfterNewline text, ∃ payload, ssePayload line = some payload ∧ Shed json toLower payload

variable {V : Type} (value : Bytes → Option V)

/-- The members have the same values, except for one. -/
def SameBut (key : String) (o o' : Object) : Prop := ∀ k, k ≠ key → (o'.lookup k).map value = (o.lookup k).map value

/-- Nothing but the code of an error has changed. -/
def CodeChange (a b : Bytes) : Prop :=
  ∃ e e', json.object a = some e ∧ json.object b = some e' ∧ SameBut value "code" e e' ∧
    json.string (Object.raw e' "code") = some capacityShedRetryableClientCode

/-- Nothing but the code of the error of an object has changed. -/
def ErrorChange (a b : Bytes) : Prop :=
  ∃ o o', json.object a = some o ∧ json.object b = some o' ∧ SameBut value "error" o o' ∧
    CodeChange json value (Object.raw o "error") (Object.raw o' "error")

/-- Nothing but the code of the error of an event has changed. -/
def EventChange (a b : Bytes) : Prop :=
  ErrorChange json value a b ∨
    ∃ o o', json.object a = some o ∧ json.object b = some o' ∧ SameBut value "response" o o' ∧
      ErrorChange json value (Object.raw o "response") (Object.raw o' "response")

/-- A line whose payload alone has changed. -/
def LineChange (line line' : Bytes) : Prop :=
  line' = line ∨ ∃ x y z payload payload', Around line payload x y z ∧ Around line' payload' x y z ∧
    EventChange json value payload payload'

/-- What is used of `encoding/json`, with the value that a text denotes. -/
structure Lawful : Prop where
  /-- Only valid texts have a value, and only they are decoded. -/
  valid : ∀ x, value x ≠ none → JsonText.Valid x = true
  object_value : ∀ x o, json.object x = some o → value x ≠ none
  /-- The members of an object have values. -/
  member_value : ∀ x o, json.object x = some o → ∀ key raw, o.lookup key = some raw → value raw ≠ none
  string_nil : json.string [] = none
  /-- A `null` is decoded as an object without members. -/
  object_null : json.object (bytes "null") = some ∅
  /-- What is decoded depends on the value only. -/
  string_congr : ∀ a b, value a = value b → json.string a = json.string b
  object_congr : ∀ a b, value a = value b →
    Option.Rel (fun o o' => ∀ key, (o'.lookup key).map value = (o.lookup key).map value) (json.object a) (json.object b)
  /-- An object with members is in braces. -/
  braced : ∀ x o, json.object x = some o → o ≠ ∅ →
    ∃ before m after, x = before ++ m ++ after ∧ JsonText.Blank before ∧ JsonText.Blank after ∧ Braced m
  /-- What is encoded has the members again. -/
  marshalObject : ∀ o : Object, (∀ key raw, o.lookup key = some raw → value raw ≠ none) →
    ∃ y o', json.marshalObject o = some y ∧ json.object y = some o' ∧ Braced y ∧ newline ∉ y ∧
      ∀ key, (o'.lookup key).map value = (o.lookup key).map value
  marshalString : ∀ s, ∃ y, json.marshalString s = some y ∧ json.string y = some s ∧ value y ≠ none
  marshalError : ∀ e, ∃ y o, json.marshalError e = some y ∧ json.object y = some o ∧
    json.string (Object.raw o "code") = some e.code
  encodeError : ∀ code message, ∃ o e, json.object (json.encodeError code message) = some o ∧ o.lookup "type" = none ∧
    json.object (Object.raw o "error") = some e ∧ json.string (Object.raw e "code") = some code
  /-- What is decoded as a response is decoded as an object. -/
  response : ∀ x r, json.response x = some r → ∃ o, json.object x = some o
  /-- The response of an event is a part of its text. -/
  event : ∀ x type response e, json.event x = some (type, response, e) → response ≠ [] → value response ≠ none
  /-- The event that the relay appends has an error of its own, in its response. -/
  failed : ∀ requestID : String, ∀ message ∈ RelayReadable.failedMessages, (∀ c ∈ requestID.toList, isAlphanumeric c = true) →
    ∀ o, json.object (failedPayload requestID message) = some o → o.lookup "error" = none ∧
      ∀ r, json.object (Object.raw o "response") = some r → ∃ e, json.object (Object.raw r "error") = some e ∧
        json.string (Object.raw e "code") = some "upstream_error"

end Statement

section Members

variable {json : Json} {toLower : String → String} {V : Type} {value : Bytes → Option V}

lemma value_raw {o o' : Object} {key : String} (h : (o'.lookup key).map value = (o.lookup key).map value) :
    value (Object.raw o' key) = value (Object.raw o key) := by
  unfold Object.raw
  cases ho : o.lookup key with
  | none =>
    rw [ho, Option.map_none, Option.map_eq_none_iff] at h
    rw [h]
  | some raw =>
    rw [ho, Option.map_some, Option.map_eq_some_iff] at h
    obtain ⟨raw', hraw', heq⟩ := h
    rw [hraw', Option.getD_some, Option.getD_some, heq]

lemma raw_insert (o : Object) (key : String) (text : Bytes) (key' : String) :
    Object.raw (o.insert key text) key' = if key' = key then text else Object.raw o key' := by
  unfold Object.raw
  rw [FiniteMap.lookup_insert]
  split_ifs <;> rfl

/-- The code of an error depends on its value only. -/
lemma shedError_congr (hjson : Lawful json value) {a b : Bytes} (h : value a = value b) :
    shedError json toLower a = shedError json toLower b := by
  unfold shedError
  have hrel := hjson.object_congr a b h
  generalize json.object a = oa at hrel
  generalize json.object b = ob at hrel
  cases hrel with
  | none => rfl
  | some hsame =>
    rw [Option.bind_some, Option.bind_some, hjson.string_congr _ _ (value_raw (hsame "code"))]

lemma object_congr (hjson : Lawful json value) {a b : Bytes} (h : value a = value b) {o : Object} (ha : json.object a = some o) :
    ∃ o', json.object b = some o' ∧ ∀ key, (o'.lookup key).map value = (o.lookup key).map value := by
  have hrel := hjson.object_congr a b h
  rw [ha] at hrel
  generalize json.object b = found at hrel
  cases hrel with
  | some hsame => exact ⟨_, rfl, hsame⟩

lemma CodeChange.congr (hjson : Lawful json value) {a b b' : Bytes} (h : CodeChange json value a b) (hb : value b = value b') :
    CodeChange json value a b' := by
  obtain ⟨e, e', he, he', hcode, hnew⟩ := h
  obtain ⟨e₂, he₂, hsame⟩ := object_congr hjson hb he'
  refine ⟨e, e₂, he, he₂, ?_, ?_⟩
  · intro key hkey
    rw [hsame key, hcode key hkey]
  · rw [hjson.string_congr _ _ (value_raw (hsame "code")), hnew]

lemma ErrorChange.congr (hjson : Lawful json value) {a b b' : Bytes} (h : ErrorChange json value a b) (hb : value b = value b') :
    ErrorChange json value a b' := by
  obtain ⟨o, o', ho, ho', hsame, hcode⟩ := h
  obtain ⟨o₂, ho₂, hsame₂⟩ := object_congr hjson hb ho'
  refine ⟨o, o₂, ho, ho₂, ?_, hcode.congr hjson (value_raw (hsame₂ "error")).symm⟩
  intro key hkey
  rw [hsame₂ key, hsame key hkey]

lemma topShed_congr (hjson : Lawful json value) {o o' : Object} (h : value (Object.raw o' "error") = value (Object.raw o "error")) :
    topShed json toLower o' = topShed json toLower o := shedError_congr hjson h

lemma failedShed_congr (hjson : Lawful json value) {o o' : Object}
    (htype : value (Object.raw o' "type") = value (Object.raw o "type"))
    (hresponse : value (Object.raw o' "response") = value (Object.raw o "response")) :
    failedShed json toLower o' = failedShed json toLower o := by
  unfold failedShed
  rw [hjson.string_congr _ _ htype]
  congr 1
  have hrel := hjson.object_congr _ _ hresponse
  generalize json.object (Object.raw o' "response") = a at hrel
  generalize json.object (Object.raw o "response") = b at hrel
  cases hrel with
  | none => rfl
  | some hsame =>
    rw [Option.any_some, Option.any_some]
    exact (topShed_congr hjson (value_raw (hsame "error"))).symm

end Members

section Sanitizers

variable {json : Json} {toLower : String → String} {V : Type} {value : Bytes → Option V}

lemma not_shed_client (hlower : toLower capacityShedRetryableClientCode = capacityShedRetryableClientCode) :
    isCapacityShedErrorCode toLower capacityShedRetryableClientCode = false := by
  have htrim : GatewayModel.trimSpace capacityShedRetryableClientCode = capacityShedRetryableClientCode := by decide
  rw [isCapacityShedErrorCode, htrim, hlower]
  decide

/-- The rewriting of an error leaves no code that sheds load, and every other member. -/
lemma sanitizeError_spec (hjson : Lawful json value)
    (hlower : toLower capacityShedRetryableClientCode = capacityShedRetryableClientCode) (payload : Bytes) :
    (shedError json toLower payload = false ∧ sanitizeCapacityShedErrorForClient json toLower payload = none) ∨
      (shedError json toLower payload = true ∧ ∃ y, sanitizeCapacityShedErrorForClient json toLower payload = some y ∧
        shedError json toLower y = false ∧ value y ≠ none ∧ CodeChange json value payload y) := by
  unfold sanitizeCapacityShedErrorForClient
  cases hobject : json.object payload with
  | none => exact .inl ⟨by simp [shedError, hobject], rfl⟩
  | some e =>
    dsimp only
    cases hstring : json.string (Object.raw e "code") with
    | none => exact .inl ⟨by simp [shedError, hobject, hstring], rfl⟩
    | some code =>
      dsimp only
      have hshed : shedError json toLower payload = isCapacityShedErrorCode toLower code := by
        simp [shedError, hobject, hstring]
      cases hcode : isCapacityShedErrorCode toLower code with
      | false => exact .inl ⟨hshed.trans hcode, by simp⟩
      | true =>
        obtain ⟨c, hc, hcstring, hcvalue⟩ := hjson.marshalString capacityShedRetryableClientCode
        have hmembers : ∀ key raw, (e.insert "code" c).lookup key = some raw → value raw ≠ none := by
          intro key raw hraw
          rw [FiniteMap.lookup_insert] at hraw
          split_ifs at hraw with hkey
          · cases hraw
            exact hcvalue
          · exact hjson.member_value payload e hobject key raw hraw
        obtain ⟨y, e', hy, hy', -, -, hsame⟩ := hjson.marshalObject _ hmembers
        have hnew : json.string (Object.raw e' "code") = some capacityShedRetryableClientCode := by
          rw [hjson.string_congr _ _ (value_raw (hsame "code")), raw_insert, if_pos rfl, hcstring]
        refine .inr ⟨hshed.trans hcode, y, by simp [hc, hy], ?_, hjson.object_value y e' hy', e, e', hobject, hy', ?_, hnew⟩
        · simp [shedError, hy', hnew, not_shed_client hlower]
        · intro key hkey
          rw [hsame key, FiniteMap.lookup_insert, if_neg hkey]

/-- An object whose error is rewritten, and encoded again. -/
lemma marshal_error (hjson : Lawful json value) {x y : Bytes} {o : Object} (hobject : json.object x = some o)
    (hclean : shedError json toLower y = false) (hvalue : value y ≠ none)
    (hchange : CodeChange json value (Object.raw o "error") y) :
    ∃ z o', json.marshalObject (o.insert "error" y) = some z ∧ json.object z = some o' ∧ Braced z ∧ newline ∉ z ∧
      SameBut value "error" o o' ∧ topShed json toLower o' = false ∧ ErrorChange json value x z := by
  have hmembers : ∀ key raw, (o.insert "error" y).lookup key = some raw → value raw ≠ none := by
    intro key raw hraw
    rw [FiniteMap.lookup_insert] at hraw
    split_ifs at hraw with hkey
    · cases hraw
      exact hvalue
    · exact hjson.member_value x o hobject key raw hraw
  obtain ⟨z, o', hz, hz', hbraced, hline, hsame⟩ := hjson.marshalObject _ hmembers
  have hbut : SameBut value "error" o o' := by
    intro key hkey
    rw [hsame key, FiniteMap.lookup_insert, if_neg hkey]
  have herror : value (Object.raw o' "error") = value y := by
    rw [value_raw (hsame "error"), raw_insert, if_pos rfl]
  refine ⟨z, o', hz, hz', hbraced, hline, hbut, ?_, o, o', hobject, hz', hbut, ?_⟩
  · rw [topShed, shedError_congr hjson herror, hclean]
  · exact hchange.congr hjson herror.symm

/-- What the rewriting of a body does. -/
lemma sanitizeResponse_spec (hjson : Lawful json value)
    (hlower : toLower capacityShedRetryableClientCode = capacityShedRetryableClientCode) (body : Bytes) :
    ((∀ o, json.object body = some o → topShed json toLower o = false) ∧
        sanitizeCapacityShedResponseForClient json toLower body = body) ∨
      ∃ o z o', json.object body = some o ∧ topShed json toLower o = true ∧
        sanitizeCapacityShedResponseForClient json toLower body = z ∧ json.object z = some o' ∧
        SameBut value "error" o o' ∧ topShed json toLower o' = false ∧ ErrorChange json value body z := by
  unfold sanitizeCapacityShedResponseForClient
  cases hobject : json.object body with
  | none => exact .inl ⟨by simp, rfl⟩
  | some o =>
    dsimp only
    rcases sanitizeError_spec hjson hlower (Object.raw o "error") with ⟨hclean, hnone⟩ | ⟨hshed, y, hy, hclean, hvalue, hchange⟩
    · refine .inl ⟨?_, by rw [hnone]⟩
      rintro o' ho'
      cases ho'
      exact hclean
    · obtain ⟨z, o', hz, hz', -, -, hsame, htop, herror⟩ := marshal_error hjson hobject hclean hvalue hchange
      refine .inr ⟨o, z, o', rfl, hshed, ?_, hz', hsame, htop, herror⟩
      rw [hy]
      dsimp only
      rw [hz, Option.getD_some]

lemma sanitizeResponse_idempotent (hjson : Lawful json value)
    (hlower : toLower capacityShedRetryableClientCode = capacityShedRetryableClientCode) (body : Bytes) :
    sanitizeCapacityShedResponseForClient json toLower (sanitizeCapacityShedResponseForClient json toLower body) =
      sanitizeCapacityShedResponseForClient json toLower body := by
  rcases sanitizeResponse_spec hjson hlower body with ⟨-, hsame⟩ | ⟨o, z, o', -, -, hz, hz', -, htop, -⟩
  · rw [hsame, hsame]
  · rw [hz]
    rcases sanitizeResponse_spec hjson hlower z with ⟨-, hsame⟩ | ⟨o₂, _, _, hobject, hshed, -⟩
    · exact hsame
    · rw [hz'] at hobject
      cases hobject
      rw [htop] at hshed
      cases hshed

end Sanitizers

section Lines

variable {json : Json} {toLower : String → String} {V : Type} {value : Bytes → Option V} {line out : Bytes}

lemma ne_empty_of_type (hjson : Lawful json value) {o : Object} {type : String}
    (h : json.string (Object.raw o "type") = some type) : o ≠ ∅ := by
  rintro rfl
  rw [show Object.raw (∅ : Object) "type" = [] from rfl, hjson.string_nil] at h
  cases h

/-- The payload of an event is in braces. -/
lemma braced_of_type (hjson : Lawful json value) {payload : Bytes} {o : Object} {type : String}
    (hpayload : ssePayload line = some payload) (hobject : json.object payload = some o)
    (htype : json.string (Object.raw o "type") = some type) : Braced payload := by
  obtain ⟨before, m, after, heq, hbefore, hafter, hm⟩ :=
    hjson.braced payload o hobject (ne_empty_of_type hjson htype)
  exact braced_payload hpayload heq hbefore hafter hm

/-- An event that is rewritten. -/
structure Rewrites (json : Json) (toLower : String → String) (value : Bytes → Option V) (payload z : Bytes) (o : Object) : Prop where
  change : EventChange json value payload z
  braced : Braced z
  oneLine : newline ∉ z
  shed : Shed json toLower z ↔ topShed json toLower o = true ∧ json.string (Object.raw o "type") ≠ some "error"
  again : ∃ o', json.object z = some o' ∧ sanitizeEvent json toLower o' = some none

/-- An event of the type `error`. -/
lemma rewrites_error (hjson : Lawful json value)
    (hlower : toLower capacityShedRetryableClientCode = capacityShedRetryableClientCode) {payload : Bytes} {o : Object}
    (hobject : json.object payload = some o) (htype : json.string (Object.raw o "type") = some "error") :
    (sanitizeEvent json toLower o = some none ∧ topShed json toLower o = false) ∨
      ∃ updated z, sanitizeEvent json toLower o = some (some updated) ∧ json.marshalObject updated = some z ∧
        Rewrites json toLower value payload z o := by
  have hevent : sanitizeEvent json toLower o = some ((sanitizeCapacityShedErrorForClient json toLower
      (Object.raw o "error")).map fun updatedError => o.insert "error" updatedError) := by
    simp [sanitizeEvent, htype]
  rcases sanitizeError_spec hjson hlower (Object.raw o "error") with ⟨hclean, hnone⟩ | ⟨-, y, hy, hclean, hvalue, hchange⟩
  · exact .inl ⟨by rw [hevent, hnone]; rfl, hclean⟩
  · obtain ⟨z, o', hz, hz', hbraced, hoff, hsame, htop, herror⟩ := marshal_error hjson hobject hclean hvalue hchange
    have htype' : json.string (Object.raw o' "type") = some "error" := by
      rw [hjson.string_congr _ _ (value_raw (hsame "type" (by decide))), htype]
    refine .inr ⟨o.insert "error" y, z, by rw [hevent, hy]; rfl, hz, .inl herror, hbraced, hoff, ?_, o', hz', ?_⟩
    · constructor
      · rintro ⟨o₂, ho₂, hshed⟩
        rw [hz'] at ho₂
        cases ho₂
        simp [htop, failedShed, htype'] at hshed
      · rintro ⟨-, hnot⟩
        exact absurd htype hnot
    · rcases sanitizeError_spec hjson hlower (Object.raw o' "error") with ⟨-, hnone⟩ | ⟨hshed, -⟩
      · simp [sanitizeEvent, htype', hnone]
      · rw [← topShed, htop] at hshed
        cases hshed

/-- An event of the type `response.failed`. -/
lemma rewrites_failed (hjson : Lawful json value)
    (hlower : toLower capacityShedRetryableClientCode = capacityShedRetryableClientCode) {payload : Bytes} {o : Object}
    (hobject : json.object payload = some o) (htype : json.string (Object.raw o "type") = some "response.failed")
    (hnull : Object.raw o "response" ≠ bytes "null") :
    (sanitizeEvent json toLower o = some none ∧ failedShed json toLower o = false) ∨
      ∃ updated z, sanitizeEvent json toLower o = some (some updated) ∧ json.marshalObject updated = some z ∧
        Rewrites json toLower value payload z o := by
  have hevent : sanitizeEvent json toLower o = some ((json.object (Object.raw o "response")).bind fun response =>
      (sanitizeCapacityShedErrorForClient json toLower (Object.raw response "error")).bind fun updatedError =>
        (json.marshalObject (response.insert "error" updatedError)).map fun updatedResponse =>
          o.insert "response" updatedResponse) := by
    simp [sanitizeEvent, htype, hnull]
  cases hresponse : json.object (Object.raw o "response") with
  | none => exact .inl ⟨by rw [hevent, hresponse]; rfl, by simp [failedShed, hresponse]⟩
  | some r =>
    rcases sanitizeError_spec hjson hlower (Object.raw r "error") with ⟨hclean, hnone⟩ | ⟨-, y, hy, hclean, hvalue, hchange⟩
    · exact .inl ⟨by rw [hevent, hresponse, Option.bind_some, hnone]; rfl, by simp [failedShed, hresponse, topShed, hclean]⟩
    · obtain ⟨z₁, r', hz₁, hz₁', -, -, -, htop, herror⟩ := marshal_error hjson hresponse hclean hvalue hchange
      -- The event takes the rewritten response.
      have hmembers : ∀ key raw, (o.insert "response" z₁).lookup key = some raw → value raw ≠ none := by
        intro key raw hraw
        rw [FiniteMap.lookup_insert] at hraw
        split_ifs at hraw with hkey
        · cases hraw
          exact hjson.object_value z₁ r' hz₁'
        · exact hjson.member_value payload o hobject key raw hraw
      obtain ⟨z, o', hz, hz', hbraced, hoff, hsame⟩ := hjson.marshalObject _ hmembers
      have hbut : SameBut value "response" o o' := by
        intro key hkey
        rw [hsame key, FiniteMap.lookup_insert, if_neg hkey]
      have hvalue' : value (Object.raw o' "response") = value z₁ := by
        rw [value_raw (hsame "response"), raw_insert, if_pos rfl]
      have htype' : json.string (Object.raw o' "type") = some "response.failed" := by
        rw [hjson.string_congr _ _ (value_raw (hbut "type" (by decide))), htype]
      have htop' : topShed json toLower o' = topShed json toLower o :=
        topShed_congr hjson (value_raw (hbut "error" (by decide)))
      -- The response of the new event has the members of the rewritten one.
      obtain ⟨r₂, hr₂, hr₂same⟩ := object_congr hjson hvalue'.symm hz₁'
      have htop₂ : topShed json toLower r₂ = false := by
        rw [topShed_congr hjson (value_raw (hr₂same "error")), htop]
      refine .inr ⟨o.insert "response" z₁, z, ?_, hz, ?_, hbraced, hoff, ?_, o', hz', ?_⟩
      · rw [hevent, hresponse, Option.bind_some, hy, Option.bind_some, hz₁]
        rfl
      · exact .inr ⟨o, o', hobject, hz', hbut, herror.congr hjson hvalue'.symm⟩
      · constructor
        · rintro ⟨o₂, ho₂, hshed⟩
          rw [hz'] at ho₂
          cases ho₂
          have hfailed : failedShed json toLower o' = false := by simp [failedShed, hr₂, htop₂]
          rw [hfailed, htop'] at hshed
          exact ⟨by simpa using hshed, by rw [htype]; decide⟩
        · rintro ⟨hshed, -⟩
          exact ⟨o', hz', .inl (htop'.trans hshed)⟩
      · have hnull' : Object.raw o' "response" ≠ bytes "null" := by
          intro heq
          rw [heq, hjson.object_null] at hr₂
          cases hr₂
          obtain ⟨r₀, r₁, -, hr₁, -, e, e', -, he', -⟩ := herror
          rw [hz₁'] at hr₁
          cases hr₁
          have hmissing := hr₂same "error"
          rw [show (∅ : Object).lookup "error" = none from rfl, Option.map_none, eq_comm, Option.map_eq_none_iff] at hmissing
          rw [Object.raw, hmissing, Option.getD_none] at he'
          exact absurd (hjson.valid [] (hjson.object_value [] e' he')) (by decide)
        rcases sanitizeError_spec hjson hlower (Object.raw r₂ "error") with ⟨-, hnone⟩ | ⟨hshed, -⟩
        · simp [sanitizeEvent, htype', hnull', hr₂, hnone]
        · rw [← topShed, htop₂] at hshed
          cases hshed

/-- A data line, with the event in it. -/
lemma sanitizeLine_event {payload : Bytes} {o : Object} (hpayload : ssePayload line = some payload)
    (hobject : json.object payload = some o) : sanitizeCapacityShedSSELineForClient json toLower line =
      (sanitizeEvent json toLower o).map fun updated =>
        match updated.bind json.marshalObject with
        | none => line
        | some updatedPayload => replaceSSEPayload line payload updatedPayload := by
  have hbind : ((ssePayload line).bind fun payload => (json.object payload).map fun event => (payload, event)) =
      some (payload, o) := by
    rw [hpayload, Option.bind_some, hobject, Option.map_some]
  unfold sanitizeCapacityShedSSELineForClient
  split
  · rename_i hnone
    rw [hbind] at hnone
    cases hnone
  · rename_i hsome
    rw [hbind] at hsome
    cases hsome
    rfl

lemma shed_iff {payload : Bytes} {o : Object} (hobject : json.object payload = some o) :
    Shed json toLower payload ↔ topShed json toLower o = true ∨ failedShed json toLower o = true := by
  constructor
  · rintro ⟨o', ho', hshed⟩
    rw [hobject] at ho'
    cases ho'
    exact hshed
  · exact fun hshed => ⟨o, hobject, hshed⟩

lemma lineEscapes_iff {payload : Bytes} {o : Object} (hpayload : ssePayload line = some payload)
    (hobject : json.object payload = some o) : LineEscapes json toLower line ↔
      topShed json toLower o = true ∧ json.string (Object.raw o "type") ≠ some "error" := by
  constructor
  · rintro ⟨payload', o', hpayload', ho', hshed, htype⟩
    rw [hpayload] at hpayload'
    cases hpayload'
    rw [hobject] at ho'
    cases ho'
    exact ⟨hshed, htype⟩
  · exact fun ⟨hshed, htype⟩ => ⟨payload, o, hpayload, hobject, hshed, htype⟩

/-- What the rewriting of a line does. -/
lemma sanitizeLine_cases (hjson : Lawful json value)
    (hlower : toLower capacityShedRetryableClientCode = capacityShedRetryableClientCode)
    (h : sanitizeCapacityShedSSELineForClient json toLower line = some out) :
    (out = line ∧ ∀ payload, ssePayload line = some payload → (Shed json toLower payload ↔ LineEscapes json toLower line)) ∨
      ∃ payload z o x y w, ssePayload line = some payload ∧ json.object payload = some o ∧ Braced payload ∧
        Around line payload x y w ∧ out = replaceSSEPayload line payload z ∧ Rewrites json toLower value payload z o := by
  cases hpayload : ssePayload line with
  | none =>
    simp only [sanitizeCapacityShedSSELineForClient, hpayload, Option.bind_none, Option.some.injEq] at h
    exact .inl ⟨h.symm, by simp⟩
  | some payload =>
    cases hobject : json.object payload with
    | none =>
      simp only [sanitizeCapacityShedSSELineForClient, hpayload, hobject, Option.bind_some, Option.map_none,
        Option.some.injEq] at h
      refine .inl ⟨h.symm, ?_⟩
      rintro p hp
      cases hp
      constructor
      · rintro ⟨o, ho, -⟩
        rw [hobject] at ho
        cases ho
      · rintro ⟨p, o, hp, ho, -⟩
        rw [hpayload] at hp
        cases hp
        rw [hobject] at ho
        cases ho
    | some o =>
      obtain ⟨x, y, w, haround⟩ := ssePayload_around hpayload
      rw [sanitizeLine_event hpayload hobject] at h
      -- Where nothing is rewritten, only what stands in the wrong place escapes.
      have hkept (hnone : sanitizeEvent json toLower o = some none)
          (hiff : topShed json toLower o = true ∨ failedShed json toLower o = true ↔
            topShed json toLower o = true ∧ json.string (Object.raw o "type") ≠ some "error") :
          out = line ∧ ∀ p, some payload = some p → (Shed json toLower p ↔ LineEscapes json toLower line) := by
        rw [hnone] at h
        refine ⟨(Option.some.inj h).symm, ?_⟩
        rintro p hp
        cases hp
        rw [shed_iff hobject, lineEscapes_iff hpayload hobject]
        exact hiff
      have hchanged {updated : Object} {z : Bytes} {type : String} (hevent : sanitizeEvent json toLower o = some (some updated))
          (hz : json.marshalObject updated = some z) (htype : json.string (Object.raw o "type") = some type) :
          Braced payload ∧ out = replaceSSEPayload line payload z := by
        rw [hevent, Option.map_some, Option.bind_some, hz] at h
        exact ⟨braced_of_type hjson hpayload hobject htype, (Option.some.inj h).symm⟩
      by_cases herror : json.string (Object.raw o "type") = some "error"
      · rcases rewrites_error hjson hlower hobject herror with ⟨hnone, hclean⟩ | ⟨updated, z, hevent, hz, hrewrites⟩
        · exact .inl (hkept hnone (by simp [hclean, failedShed, herror]))
        · obtain ⟨hbraced, hout⟩ := hchanged hevent hz herror
          exact .inr ⟨payload, z, o, x, y, w, rfl, hobject, hbraced, haround, hout, hrewrites⟩
      · by_cases hfailed : json.string (Object.raw o "type") = some "response.failed"
        · have hnull : Object.raw o "response" ≠ bytes "null" := by
            intro hnull
            rw [(sanitizeEvent_eq_none o).mpr ⟨hfailed, hnull⟩] at h
            cases h
          rcases rewrites_failed hjson hlower hobject hfailed hnull with ⟨hnone, hclean⟩ | ⟨updated, z, hevent, hz, hrewrites⟩
          · exact .inl (hkept hnone (by simp [hclean, herror]))
          · obtain ⟨hbraced, hout⟩ := hchanged hevent hz hfailed
            exact .inr ⟨payload, z, o, x, y, w, rfl, hobject, hbraced, haround, hout, hrewrites⟩
        · have hnone : sanitizeEvent json toLower o = some none := by
            unfold sanitizeEvent
            split
            · next heq => exact absurd heq herror
            · next heq => exact absurd heq hfailed
            · rfl
          exact .inl (hkept hnone (by simp [herror, failedShed, hfailed]))

variable (hjson : Lawful json value) (hlower : toLower capacityShedRetryableClientCode = capacityShedRetryableClientCode)
include hjson hlower

lemma sanitizeLine_change (h : sanitizeCapacityShedSSELineForClient json toLower line = some out) :
    LineChange json value line out := by
  rcases sanitizeLine_cases hjson hlower h with ⟨rfl, -⟩ | ⟨payload, z, o, x, y, w, -, -, hbraced, haround, rfl, hrewrites⟩
  · exact .inl rfl
  · exact .inr ⟨x, y, w, payload, z, haround, ⟨haround.front, haround.middle, haround.back, haround.replace hbraced z⟩,
      hrewrites.change⟩

lemma sanitizeLine_idempotent (h : sanitizeCapacityShedSSELineForClient json toLower line = some out) :
    sanitizeCapacityShedSSELineForClient json toLower out = some out := by
  rcases sanitizeLine_cases hjson hlower h with ⟨rfl, -⟩ | ⟨payload, z, o, x, y, w, -, -, hbraced, haround, rfl, hrewrites⟩
  · exact h
  · obtain ⟨o', ho', hagain⟩ := hrewrites.again
    rw [sanitizeLine_event (haround.ssePayload_replace hbraced hrewrites.braced) ho', hagain]
    rfl

/-- A rewritten line has a code that sheds load exactly if the line has one where none is rewritten. -/
lemma sanitizeLine_shed (h : sanitizeCapacityShedSSELineForClient json toLower line = some out) :
    (∃ payload, ssePayload out = some payload ∧ Shed json toLower payload) ↔ LineEscapes json toLower line := by
  rcases sanitizeLine_cases hjson hlower h with ⟨rfl, hiff⟩ |
    ⟨payload, z, o, x, y, w, hpayload, hobject, hbraced, haround, rfl, hrewrites⟩
  · constructor
    · rintro ⟨payload, hpayload, hshed⟩
      exact (hiff payload hpayload).mp hshed
    · intro hescapes
      obtain ⟨payload, hpayload⟩ : ∃ payload, ssePayload out = some payload := by
        obtain ⟨payload, o, hpayload, -⟩ := hescapes
        exact ⟨payload, hpayload⟩
      exact ⟨payload, hpayload, (hiff payload hpayload).mpr hescapes⟩
  · rw [lineEscapes_iff hpayload hobject, ← hrewrites.shed, haround.ssePayload_replace hbraced hrewrites.braced]
    simp

lemma sanitizeLine_complete (h : sanitizeCapacityShedSSELineForClient json toLower line = some out) :
    (Complete line → Complete out) ∧ (newline ∉ line → newline ∉ out) := by
  rcases sanitizeLine_cases hjson hlower h with ⟨rfl, -⟩ | ⟨payload, z, o, x, y, w, -, -, hbraced, haround, rfl, hrewrites⟩
  · exact ⟨id, id⟩
  · exact ⟨haround.complete_replace hbraced hrewrites.oneLine, haround.not_mem_replace hbraced hrewrites.oneLine⟩

/-- A line that is changed is a data line, before and after. -/
lemma sanitizeLine_data (h : sanitizeCapacityShedSSELineForClient json toLower line = some out) (hdata : ssePayload out = none) :
    out = line := by
  rcases sanitizeLine_cases hjson hlower h with ⟨rfl, -⟩ | ⟨payload, z, o, x, y, w, -, -, hbraced, haround, rfl, hrewrites⟩
  · rfl
  · rw [haround.ssePayload_replace hbraced hrewrites.braced] at hdata
    cases hdata

end Lines

end ShareSub.CapacityShed

import Mathlib
import ShareSub.CapacityShed
import ShareSub.RelaySafety

/-!
# What the relays write of the codes that shed load

The five functions that answer a client, and when no code that sheds load is in what they write: as a whole body, or in
a data line.
-/
namespace ShareSub.CapacityShedRelay

open SseModel RelayModel RelayCore RelayRun PayloadText CapacityShed

section Texts

variable {json : Json} {toLower : String → String} {V : Type} {value : Bytes → Option V}

/-- The lines before one of the lines of a text. -/
lemma split_at_line {text line : Bytes} (h : line ∈ splitAfterNewline text) :
    ∃ before after, text = before ++ line ++ after ∧ (before = [] ∨ ∃ z, before = z ++ [10]) := by
  obtain ⟨init, last, hsplit, hinit, -⟩ := splitAfterNewline_init text
  have htext := flatten_splitAfterNewline text
  obtain ⟨front, back, hlines⟩ := List.append_of_mem h
  refine ⟨front.flatten, back.flatten, by rw [← htext, hlines]; simp, ?_⟩
  rcases front.eq_nil_or_concat with rfl | ⟨front, final, rfl⟩
  · exact .inl rfl
  · -- The line before is not the last one, so it is complete.
    have hmem : final ∈ init := by
      rw [hsplit] at hlines
      rcases back.eq_nil_or_concat with rfl | ⟨back, tail, rfl⟩
      · have heq := List.append_inj_left' hlines rfl
        rw [heq]
        simp
      · have heq : init ++ [last] = (front.concat final ++ line :: back) ++ [tail] := by simpa using hlines
        rw [List.append_inj_left' heq rfl]
        simp
    obtain ⟨z, hz, -⟩ := hinit final hmem
    refine .inr ⟨front.flatten ++ z, ?_⟩
    rw [List.concat_eq_append, List.flatten_append, List.flatten_singleton, hz, List.append_assoc]
    rfl

lemma startless_made {x : Bytes} (hx : Made spaces x) : ∀ c ∈ x, JsonText.startless c = true := by
  have hall : spaces.all (fun rune => rune.all JsonText.startless) = true := by decide
  obtain ⟨parts, hparts, rfl⟩ := hx
  intro c hc
  obtain ⟨rune, hrune, hmem⟩ := List.mem_flatten.mp hc
  exact List.all_eq_true.mp (List.all_eq_true.mp hall rune (hparts rune hrune)) c hmem

/-- No line of a valid text is a data line. -/
lemma no_data_of_valid {text : Bytes} (h : JsonText.Valid text = true) : ∀ line ∈ splitAfterNewline text, ssePayload line = none := by
  intro line hline
  cases hpayload : ssePayload line with
  | none => rfl
  | some payload =>
    obtain ⟨x, y, z, haround⟩ := ssePayload_around hpayload
    obtain ⟨before, after, htext, hbefore⟩ := split_at_line hline
    have hdata : text = before ++ (x ++ 100 :: (bytes "ata:" ++ y ++ payload ++ z ++ after)) := by
      rw [htext, haround.eq, show bytes "data:" = 100 :: bytes "ata:" from rfl]
      simp
    rw [hdata, JsonText.not_valid_line (startless_made haround.front) (by decide) (by decide) hbefore] at h
    cases h

/-- A text that has a value is clean if it has no code itself. -/
lemma clean_of_value (hjson : Lawful json value) {text : Bytes} (hvalue : value text ≠ none) :
    Clean json toLower text ↔ ¬ Shed json toLower text := by
  constructor
  · exact fun h => h.body
  · intro hbody
    refine ⟨hbody, ?_⟩
    intro line hline payload hpayload
    rw [no_data_of_valid (hjson.valid text hvalue) line hline] at hpayload
    cases hpayload

lemma valid_of_shed (hjson : Lawful json value) {text : Bytes} (h : Shed json toLower text) : JsonText.Valid text = true := by
  obtain ⟨o, hobject, -⟩ := h
  exact hjson.valid text (hjson.object_value text o hobject)

lemma not_shed_of_invalid (hjson : Lawful json value) {text : Bytes} (h : JsonText.Valid text = false) : ¬ Shed json toLower text := by
  intro hshed
  rw [valid_of_shed hjson hshed] at h
  cases h

lemma clean_nil (hjson : Lawful json value) : Clean json toLower [] := by
  refine ⟨not_shed_of_invalid hjson (by decide), ?_⟩
  intro line hline payload hpayload
  cases List.mem_singleton.mp hline
  cases hpayload

/-- A rewritten body is clean exactly if it has no code where none is rewritten. -/
lemma clean_sanitizeResponse (hjson : Lawful json value)
    (hlower : toLower capacityShedRetryableClientCode = capacityShedRetryableClientCode) (body : Bytes) :
    Clean json toLower (sanitizeCapacityShedResponseForClient json toLower body) ↔ ¬ BodyEscapes json toLower body := by
  rcases sanitizeResponse_spec hjson hlower body with ⟨htop, hsame⟩ | ⟨o, z, o', hobject, -, hz, hz', hsame, htop', -⟩
  · rw [hsame]
    constructor
    · rintro hclean (⟨o, hobject, hfailed⟩ | ⟨line, hline, payload, hpayload, hshed⟩)
      · exact hclean.body ⟨o, hobject, .inr hfailed⟩
      · exact hclean.lines line hline payload hpayload hshed
    · intro hnot
      refine ⟨?_, fun line hline payload hpayload hshed => hnot (.inr ⟨line, hline, payload, hpayload, hshed⟩)⟩
      rintro ⟨o, hobject, hshed | hfailed⟩
      · rw [htop o hobject] at hshed
        cases hshed
      · exact hnot (.inl ⟨o, hobject, hfailed⟩)
  · have hfailed : failedShed json toLower o' = failedShed json toLower o :=
      failedShed_congr hjson (value_raw (hsame "type" (by decide))) (value_raw (hsame "response" (by decide)))
    rw [hz, clean_of_value hjson (hjson.object_value z o' hz'), shed_iff hz', htop', hfailed]
    refine not_congr ⟨?_, ?_⟩
    · intro hshed
      exact .inl ⟨o, hobject, by simpa using hshed⟩
    · rintro (⟨o₂, ho₂, hshed⟩ | ⟨line, hline, payload, hpayload, -⟩)
      · rw [hobject] at ho₂
        cases ho₂
        exact .inr hshed
      · rw [no_data_of_valid (hjson.valid body (hjson.object_value body o hobject)) line hline] at hpayload
        cases hpayload

end Texts

section Streams

variable {json : Json} {toLower : String → String} {V : Type} {value : Bytes → Option V} {done rest outs : List Bytes} {body text : Bytes}

/-- Lines that are each complete, but for the last one. -/
inductive Lined : List Bytes → Prop
  | complete {lines : List Bytes} (h : ∀ line ∈ lines, Complete line) : Lined lines
  | cut {lines : List Bytes} {last : Bytes} (h : ∀ line ∈ lines, Complete line) (hlast : newline ∉ last) : Lined (lines ++ [last])

lemma lined_of_split (h : done ++ rest = splitAfterNewline body) : Lined done := by
  obtain ⟨init, last, hsplit, hinit, hlast⟩ := splitAfterNewline_init body
  rw [hsplit] at h
  rcases rest.eq_nil_or_concat with rfl | ⟨rest, final, rfl⟩
  · rw [List.append_nil] at h
    rw [h]
    exact .cut hinit hlast
  · rw [List.concat_eq_append, ← List.append_assoc] at h
    have heq := List.append_inj_left' h rfl
    exact .complete fun line hline => hinit line (heq ▸ List.mem_append_left _ hline)

/-- The lines of a text that is made of lines. -/
lemma split_of_lined (h : Lined outs) : splitAfterNewline outs.flatten = outs ∨ splitAfterNewline outs.flatten = outs ++ [[]] := by
  cases h with
  | complete h =>
    have hsplit := splitAfterNewline_flatten h []
    rw [List.append_nil] at hsplit
    exact .inr hsplit
  | cut h hlast =>
    rw [List.flatten_append, List.flatten_singleton]
    exact .inl (by rw [splitAfterNewline_flatten h, splitAfterNewline_of_not_mem hlast])

lemma rewritten_iff {done : List Bytes} {text : Bytes} : rewritten json toLower done = some text ↔
    ∃ outs, List.Forall₂ (fun line out => sanitizeCapacityShedSSELineForClient json toLower line = some out) done outs ∧
      text = outs.flatten := by
  induction done generalizing text with
  | nil =>
    constructor
    · intro h
      cases h
      exact ⟨[], .nil, rfl⟩
    · rintro ⟨outs, hall, rfl⟩
      cases hall
      rfl
  | cons line done ih =>
    rw [rewritten_cons]
    constructor
    · intro h
      obtain ⟨out, hout, h⟩ := Option.bind_eq_some_iff.mp h
      obtain ⟨tail, htail, rfl⟩ := Option.map_eq_some_iff.mp h
      obtain ⟨outs, hall, rfl⟩ := ih.mp htail
      exact ⟨out :: outs, .cons hout hall, rfl⟩
    · rintro ⟨outs, hall, rfl⟩
      cases hall with
      | cons hout hall =>
        rw [hout, Option.bind_some, ih.mpr ⟨_, hall, rfl⟩]
        rfl

variable (hjson : Lawful json value) (hlower : toLower capacityShedRetryableClientCode = capacityShedRetryableClientCode)
include hjson hlower

lemma lined_rewritten
    (hall : List.Forall₂ (fun line out => sanitizeCapacityShedSSELineForClient json toLower line = some out) done outs)
    (h : Lined done) : Lined outs := by
  have hcomplete {done outs : List Bytes}
      (hall : List.Forall₂ (fun line out => sanitizeCapacityShedSSELineForClient json toLower line = some out) done outs)
      (h : ∀ line ∈ done, Complete line) : ∀ out ∈ outs, Complete out := by
    induction hall with
    | nil => simp
    | cons hout hall ih =>
      intro out hmem
      rcases List.mem_cons.mp hmem with rfl | hmem
      · exact (sanitizeLine_complete hjson hlower hout).1 (h _ (by simp))
      · exact ih (fun line hline => h line (List.mem_cons_of_mem _ hline)) out hmem
  cases h with
  | complete h => exact .complete (hcomplete hall h)
  | @cut lines last h hlast =>
    obtain ⟨front, back, hfront, hback, rfl⟩ : ∃ front back, List.Forall₂ (fun line out =>
        sanitizeCapacityShedSSELineForClient json toLower line = some out) lines front ∧ List.Forall₂ (fun line out =>
        sanitizeCapacityShedSSELineForClient json toLower line = some out) [last] back ∧ outs = front ++ back := by
      refine ⟨outs.take lines.length, outs.drop lines.length, ?_, ?_, by simp⟩
      · have htake := List.forall₂_take lines.length hall
        rwa [List.take_left] at htake
      · have hdrop := List.forall₂_drop lines.length hall
        rwa [List.drop_left] at hdrop
    cases hback with
    | cons hout hnil =>
      cases hnil
      exact .cut (hcomplete hfront h) ((sanitizeLine_complete hjson hlower hout).2 hlast)

/-- The lines of a valid text are not rewritten, and no other lines are rewritten to those of a valid text. -/
lemma rewritten_eq_of_valid
    (hall : List.Forall₂ (fun line out => sanitizeCapacityShedSSELineForClient json toLower line = some out) done outs)
    (h : Lined done) (hvalid : JsonText.Valid done.flatten = true ∨ JsonText.Valid outs.flatten = true) : outs = done := by
  have hnone {lines : List Bytes} (hlined : Lined lines) (hvalid : JsonText.Valid lines.flatten = true) :
      ∀ line ∈ lines, ssePayload line = none := by
    intro line hline
    refine no_data_of_valid hvalid line ?_
    rcases split_of_lined hlined with heq | heq
    · rw [heq]
      exact hline
    · rw [heq]
      exact List.mem_append_left _ hline
  have hsame : ∀ line out, sanitizeCapacityShedSSELineForClient json toLower line = some out →
      ssePayload line = none ∨ ssePayload out = none → out = line := by
    rintro line out hout (hline | hdata)
    · simp only [sanitizeCapacityShedSSELineForClient, hline, Option.bind_none, Option.some.injEq] at hout
      exact hout.symm
    · exact sanitizeLine_data hjson hlower hout hdata
  have hpairs : ∀ lines texts : List Bytes, List.Forall₂ (fun line out =>
      sanitizeCapacityShedSSELineForClient json toLower line = some out) lines texts →
      ((∀ line ∈ lines, ssePayload line = none) ∨ ∀ out ∈ texts, ssePayload out = none) → texts = lines := by
    intro lines texts hpairs
    induction hpairs with
    | nil => exact fun _ => rfl
    | cons hout hpairs ih =>
      rintro (hlines | htexts)
      · rw [hsame _ _ hout (.inl (hlines _ (by simp))), ih (.inl fun l hl => hlines l (List.mem_cons_of_mem _ hl))]
      · rw [hsame _ _ hout (.inr (htexts _ (by simp))), ih (.inr fun l hl => htexts l (List.mem_cons_of_mem _ hl))]
  rcases hvalid with hvalid | hvalid
  · exact hpairs done outs hall (.inl (hnone h hvalid))
  · exact hpairs done outs hall (.inr (hnone (lined_rewritten hjson hlower hall h) hvalid))

/-- Lines that are rewritten are clean exactly if none of them has a code where none is rewritten; and as a whole they
are not the body of an object with one. -/
lemma clean_rewritten (hsplit : done ++ rest = splitAfterNewline body) (h : rewritten json toLower done = some text) :
    Clean json toLower text ↔ ¬ Shed json toLower done.flatten ∧ ∀ line ∈ done, ¬ LineEscapes json toLower line := by
  obtain ⟨outs, hall, rfl⟩ := rewritten_iff.mp h
  have hmem : ∀ out, out ∈ splitAfterNewline outs.flatten ↔ out ∈ outs ∨ out = [] ∧ [] ∈ splitAfterNewline outs.flatten := by
    intro out
    rcases split_of_lined (lined_rewritten hjson hlower hall (lined_of_split hsplit)) with heq | heq
    · rw [heq]
      constructor
      · exact .inl
      · rintro (hout | ⟨rfl, hout⟩)
        · exact hout
        · exact hout
    · rw [heq]
      simp
  have hlines : (∀ line ∈ splitAfterNewline outs.flatten, ∀ payload, ssePayload line = some payload →
      ¬ Shed json toLower payload) ↔ ∀ line ∈ done, ¬ LineEscapes json toLower line := by
    constructor
    · intro hclean line hline hescapes
      obtain ⟨out, hout, hsanitize⟩ : ∃ out ∈ outs, sanitizeCapacityShedSSELineForClient json toLower line = some out := by
        obtain ⟨i, hi, rfl⟩ := List.getElem_of_mem hline
        obtain ⟨hlength, hget⟩ := List.forall₂_iff_get.mp hall
        exact ⟨outs.get ⟨i, hlength ▸ hi⟩, List.get_mem _ _, hget i hi (hlength ▸ hi)⟩
      obtain ⟨payload, hpayload, hshed⟩ := (sanitizeLine_shed hjson hlower hsanitize).mpr hescapes
      exact hclean out ((hmem out).mpr (.inl hout)) payload hpayload hshed
    · intro hescapes out hout payload hpayload hshed
      rcases (hmem out).mp hout with hout | ⟨rfl, -⟩
      · obtain ⟨i, hi, rfl⟩ := List.getElem_of_mem hout
        obtain ⟨hlength, hget⟩ := List.forall₂_iff_get.mp hall
        have hsanitize := hget i (hlength ▸ hi) hi
        exact hescapes _ (List.get_mem done ⟨i, hlength ▸ hi⟩) ((sanitizeLine_shed hjson hlower hsanitize).mp ⟨payload, hpayload, hshed⟩)
      · cases hpayload
  have hbody : Shed json toLower outs.flatten ↔ Shed json toLower done.flatten := by
    constructor
    · intro hshed
      rwa [rewritten_eq_of_valid hjson hlower hall (lined_of_split hsplit) (.inr (valid_of_shed hjson hshed))] at hshed
    · intro hshed
      rwa [rewritten_eq_of_valid hjson hlower hall (lined_of_split hsplit) (.inl (valid_of_shed hjson hshed))]
  constructor
  · exact fun hclean => ⟨fun hshed => hclean.body (hbody.mpr hshed), hlines.mp hclean.lines⟩
  · exact fun ⟨hshed, hescapes⟩ => ⟨fun hout => hshed (hbody.mp hout), hlines.mpr hescapes⟩

end Streams

section Failed

variable {json : Json} {toLower : String → String} {V : Type} {value : Bytes → Option V} {requestID message : String}

open RelayReadable (failedMessages headLine failedEvent_eq failedPayload_eq)

/-- The payload of a line that ends in a `d` is no object. -/
lemma not_valid_payload {w payload : Bytes} (h : ssePayload (w ++ [100] ++ [10]) = some payload) : JsonText.Valid payload = false := by
  obtain ⟨x, y, z, haround⟩ := ssePayload_around h
  rcases payload.eq_nil_or_concat with rfl | ⟨q, b, rfl⟩
  · decide
  rw [List.concat_eq_append] at haround ⊢
  rcases z.eq_nil_or_concat with rfl | ⟨z, c, rfl⟩
  · -- The payload would end in the newline.
    have heq : w ++ [100] ++ [10] = x ++ (bytes "data:" ++ y ++ q) ++ [b] := by simpa using haround.eq
    have hb : b = 10 := by simpa using (List.append_inj_right' heq rfl).symm
    unfold ssePayload at h
    dsimp only at h
    split_ifs at h
    injection h with h
    have hblank : JsonText.Blank [b] := by
      intro c hc
      rw [List.mem_singleton.mp hc, hb]
      rfl
    have hnil : trimSpace (List.drop 5 (trimSpace (w ++ [100] ++ [10]))) = [] ++ q ++ [b] := by
      rw [h, List.concat_eq_append]
      rfl
    exact absurd (trimSpace_blank hnil (by simp [JsonText.Blank]) hblank).2 (by simp)
  · rw [List.concat_eq_append] at haround
    have heq : w ++ [100] ++ [10] = x ++ (bytes "data:" ++ y ++ (q ++ [b])) ++ z ++ [c] := by
      rw [haround.eq]
      simp
    have hrest : w ++ [100] = x ++ (bytes "data:" ++ y ++ (q ++ [b])) ++ z := List.append_inj_left' heq rfl
    have hfree : (100 : UInt8) ∉ z := fun hmem => not_mem_made (by decide) haround.back (List.mem_append_left _ hmem)
    rcases z.eq_nil_or_concat with rfl | ⟨z, d, rfl⟩
    · have hlast : w ++ [100] = x ++ (bytes "data:" ++ y ++ q) ++ [b] := by simpa using hrest
      have hb : b = 100 := by simpa using (List.append_inj_right' hlast rfl).symm
      rw [hb]
      exact JsonText.not_valid_concat q
    · have hlast : w ++ [100] = x ++ (bytes "data:" ++ y ++ (q ++ [b])) ++ z ++ [d] := by simpa using hrest
      have hd : d = 100 := by simpa using (List.append_inj_right' hlast rfl).symm
      exact absurd (by simp [hd]) hfree

/-- The event that is appended has a code of its own. -/
lemma not_shed_failedPayload (hjson : Lawful json value) (hupstream : toLower "upstream_error" = "upstream_error")
    (hid : ∀ c ∈ requestID.toList, isAlphanumeric c = true) (hmessage : message ∈ failedMessages) :
    ¬ Shed json toLower (failedPayload requestID message) := by
  have hcode : isCapacityShedErrorCode toLower "upstream_error" = false := by
    have htrim : GatewayModel.trimSpace "upstream_error" = "upstream_error" := by decide
    rw [isCapacityShedErrorCode, htrim, hupstream]
    decide
  rintro ⟨o, hobject, hshed⟩
  obtain ⟨hmissing, hresponse⟩ := hjson.failed requestID message hmessage hid o hobject
  have htop : topShed json toLower o = false := by
    have hnil : json.object [] = none := by
      cases hnil : json.object [] with
      | none => rfl
      | some o' => exact absurd (hjson.valid [] (hjson.object_value [] o' hnil)) (by decide)
    rw [topShed, Object.raw, hmissing, Option.getD_none, shedError, hnil]
    rfl
  have hfailed : failedShed json toLower o = false := by
    unfold failedShed
    cases hr : json.object (Object.raw o "response") with
    | none => simp
    | some r =>
      obtain ⟨e, he, hstring⟩ := hresponse r hr
      simp [topShed, shedError, he, hstring, hcode]
  rw [htop, hfailed] at hshed
  simp at hshed

lemma braced_failedPayload (requestID message : String) : Braced (failedPayload requestID message) := by
  refine ⟨⟨_, failedPayload_eq requestID message⟩, ?_⟩
  have hlast : bytes "\",\"object\":\"response\",\"output\":[],\"status\":\"failed\"\x7d,\"type\":\"response.failed\"\x7d" =
      bytes "\",\"object\":\"response\",\"output\":[],\"status\":\"failed\"\x7d,\"type\":\"response.failed\"" ++ [125] := by
    decide
  unfold failedPayload
  rw [hlast, ← List.append_assoc]
  exact ⟨_, rfl⟩

/-- The lines of a text with the event behind it. -/
lemma split_failedEvent (hid : ∀ c ∈ requestID.toList, isAlphanumeric c = true) (hmessage : message ∈ failedMessages)
    {front : List Bytes} {last : Bytes} (hfront : ∀ line ∈ front, Complete line) (hlast : newline ∉ last) :
    splitAfterNewline (front.flatten ++ last ++ failedEvent requestID message) =
      front ++ [last ++ headLine ++ [10], bytes "data:" ++ [32] ++ failedPayload requestID message ++ [10], [10], []] := by
  have hhead : Complete (last ++ headLine ++ [10]) := by
    refine ⟨last ++ headLine, rfl, ?_⟩
    simp only [List.mem_append, not_or]
    exact ⟨hlast, by decide⟩
  have hdata : Complete (bytes "data:" ++ [32] ++ failedPayload requestID message ++ [10]) := by
    refine ⟨_, rfl, ?_⟩
    simp only [List.mem_append, not_or]
    exact ⟨⟨by decide, by decide⟩, fun hmem => (RelayReadable.oneLine_failedPayload hid hmessage _ hmem).1 rfl⟩
  have hblank : Complete [10] := ⟨[], rfl, by simp⟩
  have htext : front.flatten ++ last ++ failedEvent requestID message = front.flatten ++ ((last ++ headLine ++ [10]) ++
      ((bytes "data:" ++ [32] ++ failedPayload requestID message ++ [10]) ++ ([10] ++ []))) := by
    rw [failedEvent_eq, show EventStream.dataName = bytes "data" by decide, show bytes "data:" = bytes "data" ++ [58] by decide]
    simp
  rw [htext, splitAfterNewline_flatten hfront, splitAfterNewline_complete hhead, splitAfterNewline_complete hdata,
    splitAfterNewline_complete hblank]
  rfl

/-- Rewritten lines with the event behind them. -/
lemma clean_failedEvent (hjson : Lawful json value)
    (hlower : toLower capacityShedRetryableClientCode = capacityShedRetryableClientCode)
    (hupstream : toLower "upstream_error" = "upstream_error") (hid : ∀ c ∈ requestID.toList, isAlphanumeric c = true)
    (hmessage : message ∈ failedMessages) {done rest : List Bytes} {body text : Bytes}
    (hsplit : done ++ rest = splitAfterNewline body) (h : rewritten json toLower done = some text)
    (hescapes : ∀ line ∈ done, ¬ LineEscapes json toLower line) :
    Clean json toLower (text ++ failedEvent requestID message) := by
  obtain ⟨outs, hall, rfl⟩ := rewritten_iff.mp h
  have hclean : ∀ out ∈ outs, ∀ payload, ssePayload out = some payload → ¬ Shed json toLower payload := by
    intro out hout payload hpayload hshed
    obtain ⟨i, hi, rfl⟩ := List.getElem_of_mem hout
    obtain ⟨hlength, hget⟩ := List.forall₂_iff_get.mp hall
    have hsanitize := hget i (hlength ▸ hi) hi
    exact hescapes _ (List.get_mem done ⟨i, hlength ▸ hi⟩) ((sanitizeLine_shed hjson hlower hsanitize).mp ⟨payload, hpayload, hshed⟩)
  -- What stands behind the last newline goes on in the first line of the event.
  obtain ⟨front, last, hflat, hfront, hlast, hsub⟩ : ∃ (front : List Bytes) (last : Bytes), outs.flatten = front.flatten ++ last ∧
      (∀ line ∈ front, Complete line) ∧ newline ∉ last ∧ ∀ line ∈ front, line ∈ outs := by
    cases lined_rewritten hjson hlower hall (lined_of_split hsplit) with
    | complete hcomplete => exact ⟨outs, [], by simp, hcomplete, by simp, fun _ h => h⟩
    | @cut lines last hcomplete hcut =>
      exact ⟨lines, last, by simp, hcomplete, hcut, fun _ h => List.mem_append_left _ h⟩
  rw [hflat]
  constructor
  · -- The text is not valid.
    refine not_shed_of_invalid hjson ?_
    have hevent : failedEvent requestID message = (101 :: 118 :: bytes "ent: response.failed" ++ [10]) ++
        (EventStream.dataName ++ 58 :: 32 :: failedPayload requestID message ++ [10, 10]) := by
      rw [failedEvent_eq, show headLine = 101 :: 118 :: bytes "ent: response.failed" by decide]
      simp
    have hplain : JsonText.Plain (bytes "ent: response.failed") := by
      unfold JsonText.Plain
      decide +kernel
    rw [JsonText.Valid, hevent, JsonText.scan_append]
    cases JsonText.scan JsonText.initial (front.flatten ++ last) with
    | none => rfl
    | some s =>
      rw [Option.bind_some, JsonText.scan_append, JsonText.scan_event s hplain]
      rfl
  · rw [split_failedEvent hid hmessage hfront hlast]
    intro line hline payload hpayload
    simp only [List.mem_append, List.mem_cons, List.not_mem_nil, or_false] at hline
    rcases hline with hline | rfl | rfl | rfl | rfl
    · exact hclean line (hsub line hline) payload hpayload
    · rw [show headLine = bytes "event: response.faile" ++ [100] by decide, ← List.append_assoc] at hpayload
      exact not_shed_of_invalid hjson (not_valid_payload hpayload)
    · have hspace : Made spaces [32] := ⟨[[32]], by decide, rfl⟩
      have hnewline : Made spaces [10] := ⟨[[10]], by decide, rfl⟩
      have hdata := ssePayload_data (made_nil spaces) hspace hnewline (braced_failedPayload requestID message).core
      rw [List.nil_append] at hdata
      rw [hdata] at hpayload
      cases hpayload
      exact not_shed_failedPayload hjson hupstream hid hmessage
    · have hnone : ssePayload [10] = none := by decide
      rw [hnone] at hpayload
      cases hpayload
    · cases hpayload

end Failed

section Relay

variable {json : Json} {toLower : String → String} {o : Outside} {src : Response} {pendingLimit : ℤ} {dst : ResponseWriter}
  {done rest lines : List Bytes} {line body : Bytes} {c c' : Core} {s : Relay}

/-- The client has what the first lines give it, and all of them unless it is gone. -/
structure Sent (json : Json) (toLower : String → String) (dst : ResponseWriter) (done : List Bytes) (c : Core) : Prop where
  waiting : c.started = false → c.dst.received = dst.received ∧ c.pending = done.flatten
  started : c.started = true → ∃ front back text, front ++ back = done ∧ rewritten json toLower front = some text ∧
    c.dst.received = dst.received ++ text ∧ (c.disconnected = false → c.panicked = false → back = [])

lemma Sent.append (h : Sent json toLower dst done c) (hwaiting : c.started = false) :
    Sent json toLower dst (done ++ [line]) (c.append line) := by
  obtain ⟨hreceived, hpending⟩ := h.waiting hwaiting
  refine ⟨fun _ => ⟨hreceived, by simp [Core.append, hpending]⟩, fun htrue => ?_⟩
  exact absurd (htrue.symm.trans hwaiting) (by simp)

lemma Sent.start (h : Sent json toLower dst done c)
    (hwhole : sanitizeCapacityShedSSEForClient json toLower done.flatten = rewritten json toLower done) :
    Sent json toLower dst done (c.start json toLower o src) := by
  unfold Core.start
  split_ifs with hstarted
  · exact h
  · obtain ⟨hreceived, hpending⟩ := h.waiting (by simpa using hstarted)
    have hhead : ((startHeader src c.dst).writeHeader src.statusCode).received = dst.received := hreceived
    rw [hpending, hwhole]
    refine ⟨fun hfalse => ?_, fun _ => ?_⟩
    · dsimp only at hfalse
      rw [started_write] at hfalse
      cases hfalse
    · cases htext : rewritten json toLower done with
      | none => exact ⟨[], done, [], rfl, rfl, by simpa [Core.write] using hhead, fun _ hsound => by cases hsound⟩
      | some text =>
        unfold Core.write
        dsimp only
        split_ifs with hskip
        · by_cases hempty : text = []
          · refine ⟨done, [], text, by simp, htext, ?_, fun _ _ => rfl⟩
            rw [hempty, List.append_nil]
            exact hhead
          · refine ⟨[], done, [], rfl, rfl, by simpa using hhead, fun hpresent hsound => ?_⟩
            simp only [hempty, decide_false, Bool.or_false, Bool.or_eq_true] at hskip
            rcases hskip with hskip | hskip
            · exact absurd (hskip.symm.trans hsound) (by simp)
            · exact absurd (hskip.symm.trans hpresent) (by simp)
        · refine ⟨done, [], text, by simp, htext, ?_, fun _ _ => rfl⟩
          rw [received_write, hhead]

lemma Sent.write (h : Sent json toLower dst done c) (hstarted : c.started = true) :
    Sent json toLower dst (done ++ [line]) (c.write o (sanitizeCapacityShedSSELineForClient json toLower line)) := by
  obtain ⟨front, back, text, hsplit, htext, hreceived, hall⟩ := h.started hstarted
  refine ⟨fun hfalse => ?_, fun _ => ?_⟩
  · rw [started_write, hstarted] at hfalse
    cases hfalse
  cases hline : sanitizeCapacityShedSSELineForClient json toLower line with
  | none =>
    refine ⟨front, back ++ [line], text, by rw [← hsplit]; simp, htext, hreceived, fun _ hsound => ?_⟩
    cases hsound
  | some out =>
    unfold Core.write
    dsimp only
    -- A client that is there and that nothing has panicked for has had all lines so far.
    have hnext (hpresent : c.disconnected = false) (hsound : c.panicked = false) :
        rewritten json toLower (done ++ [line]) = some (text ++ out) := by
      have hback := hall hpresent hsound
      rw [hback, List.append_nil] at hsplit
      rw [rewritten_append, ← hsplit, htext, rewritten_singleton, hline]
      rfl
    split_ifs with hskip
    · by_cases hgone : c.disconnected = false ∧ c.panicked = false
      · have hempty : out = [] := by simpa [hgone.1, hgone.2] using hskip
        refine ⟨done ++ [line], [], text ++ out, by simp, hnext hgone.1 hgone.2, ?_, fun _ _ => rfl⟩
        rw [hempty, List.append_nil, hreceived]
      · refine ⟨front, back ++ [line], text, by rw [← hsplit]; simp, htext, hreceived, fun hpresent hsound => ?_⟩
        exact absurd ⟨hpresent, hsound⟩ hgone
    · simp only [Bool.or_eq_true, not_or, Bool.not_eq_true] at hskip
      refine ⟨done ++ [line], [], text ++ out, by simp, hnext hskip.1.2 hskip.1.1, ?_, fun _ _ => rfl⟩
      rw [received_write, hreceived, List.append_assoc]

/-- The step. -/
lemma Takes.sent (hlines : done ++ line :: rest = splitAfterNewline body) (htakes : Takes json toLower o src line c c')
    (h : Sent json toLower dst done c) : Sent json toLower dst (done ++ [line]) c' := by
  have hlines' : (done ++ [line]) ++ rest = splitAfterNewline body := by simpa using hlines
  cases htakes with
  | kept hwaiting => exact h.append hwaiting
  | released hwaiting => exact (h.append hwaiting).start (sanitize_flatten hlines')
  | overflowed hwaiting => exact (h.start (sanitize_flatten hlines)).write (started_start _)
  | written hstarted => exact h.write hstarted

/-- What the client has when the relay has returned. -/
def Answered (json : Json) (toLower : String → String) (dst : ResponseWriter) (lines : List Bytes) (w : ResponseWriter) : Prop :=
  ∃ front back text, front ++ back = lines ∧ rewritten json toLower front = some text ∧
    (w.received = dst.received ++ text ∨ ∃ requestID, ∃ message ∈ RelayReadable.failedMessages,
      (∀ ch ∈ requestID.toList, isAlphanumeric ch = true) ∧ w.received = dst.received ++ (text ++ failedEvent requestID message))

lemma Sent.answered (h : Sent json toLower dst done c) (hlines : done ++ rest = lines) : Answered json toLower dst lines c.dst := by
  cases hstarted : c.started with
  | false => exact ⟨[], lines, [], rfl, rfl, .inl (by rw [(h.waiting hstarted).1, List.append_nil])⟩
  | true =>
    obtain ⟨front, back, text, rfl, htext, hreceived, -⟩ := h.started hstarted
    exact ⟨front, back ++ rest, text, by rw [← hlines]; simp, htext, .inl hreceived⟩

lemma Sent.synthesized (h : Sent json toLower dst lines c) (hstarted : c.started = true) {message : String}
    (hmessage : message ∈ RelayReadable.failedMessages) : Answered json toLower dst lines (c.synthesize o src message).dst := by
  unfold Core.synthesize
  split_ifs
  · exact h.answered (List.append_nil _)
  · dsimp only
    unfold writeResponsesFailedSSE
    cases hid : failedRequestID src.header o.seed with
    | none => exact h.answered (List.append_nil _)
    | some requestID =>
      obtain ⟨front, back, text, hsplit, htext, hreceived, -⟩ := h.started hstarted
      refine ⟨front, back, text, hsplit, htext, .inr ⟨requestID, message, hmessage, ?_, ?_⟩⟩
      · exact RelayReadable.failedRequestID_alphanumeric hid
      · dsimp only
        rw [received_write, hreceived, List.append_assoc]

lemma Ends.answered {cause : ReadError} {result : Option CopyError} (hends : Ends json toLower o src s cause c result)
    (hsplit : lines = splitAfterNewline body) (h : Sent json toLower dst lines (core s)) : Answered json toLower dst lines c.dst := by
  have hwhole : lines ++ [] = splitAfterNewline body := by rw [List.append_nil, hsplit]
  have hstart : Sent json toLower dst lines ((core s).start json toLower o src) := h.start (sanitize_flatten hwhole)
  cases hends with
  | failover => exact h.answered (List.append_nil _)
  | afterError => exact hstart.answered (List.append_nil _)
  | synthesized _ _ message hmessage =>
    refine hstart.synthesized (started_start _) ?_
    simpa [RelayReadable.failedMessages] using hmessage
  | completed => exact hstart.answered (List.append_nil _)
  | broken => exact h.answered (List.append_nil _)

/-- A read that goes on. -/
lemma Sent.read (hs : Sent json toLower dst done (core s)) (hsplit : done ++ line :: rest = splitAfterNewline body) {s' : Relay}
    (hgo : s.read json toLower o src pendingLimit line = .go s') : Sent json toLower dst (done ++ [line]) (core s') := by
  rcases read_go hgo with ⟨rfl, rfl⟩ | ⟨-, htakes, -⟩
  · refine ⟨fun hwaiting => ?_, fun hstarted => ?_⟩
    · obtain ⟨hreceived, hpending⟩ := hs.waiting hwaiting
      exact ⟨hreceived, by simp [hpending]⟩
    · obtain ⟨front, back, text, rfl, htext, hreceived, hall⟩ := hs.started hstarted
      by_cases hback : back = []
      · refine ⟨front ++ back ++ [[]], [], text, by simp, ?_, hreceived, fun _ _ => rfl⟩
        rw [hback, List.append_nil, rewritten_append, htext, rewritten_singleton, sanitize_nil]
        simp
      · exact ⟨front, back ++ [[]], text, by simp, htext, hreceived, fun hpresent hsound => absurd (hall hpresent hsound) hback⟩
  · exact Takes.sent hsplit htakes hs

/-- The run over the lines of a text. -/
lemma loop_answered {init : List Bytes} {last : Bytes} {cause : ReadError} (n : ℕ) (hsplit : lines = splitAfterNewline body)
    (hlines : done ++ (init ++ [last]) = lines) (hs : Sent json toLower dst done (core s)) :
    Answered json toLower dst lines
      (Relay.loop json toLower o src pendingLimit (init.map (fun line => (line, none)) ++ [(last, some cause)]) n s).1.dst := by
  -- A read that ends the loop leaves the client as it is, or panics on the way.
  have hdone {line : Bytes} {rest done : List Bytes} {s s' : Relay} {result : Option CopyError}
      (hs : Sent json toLower dst done (core s)) (hlines : done ++ line :: rest = lines)
      (hread : s.read json toLower o src pendingLimit line = .done s' result) : Answered json toLower dst lines s'.dst := by
    rcases read_done hread with ⟨-, htakes, -⟩ | ⟨hwaiting, hcore, -⟩
    · have hsent := Takes.sent (hlines.trans hsplit) htakes hs
      exact hsent.answered (show (done ++ [line]) ++ rest = lines by simpa using hlines)
    · have hdst : s'.dst = (core s).dst := congrArg Core.dst hcore
      rw [hdst]
      exact hs.answered hlines
  induction init generalizing n s done with
  | nil =>
    rw [List.nil_append] at hlines
    have hreads : Reads json toLower o src pendingLimit last (some cause) [] n s _ := loop_reads last (some cause) [] n s
    rw [List.map_nil, List.nil_append]
    generalize Relay.loop json toLower o src pendingLimit [(last, some cause)] n s = out at hreads ⊢
    cases hreads with
    | late => exact hs.answered hlines
    | handedOver hread => exact hdone hs hlines hread
    | next herror => cases herror
    | @ended s' cause' herror hread =>
      cases herror
      have hsent := hs.read (hlines.trans hsplit) hread
      rw [hlines] at hsent
      obtain ⟨result, hends, -⟩ : ∃ result, Ends json toLower o src s' cause _ result ∧ _ := finish_ends s' cause
      exact Ends.answered hends hsplit hsent
  | cons line init ih =>
    rw [List.cons_append] at hlines
    have hreads : Reads json toLower o src pendingLimit line none _ n s _ :=
      loop_reads line none (init.map (fun line => (line, none)) ++ [(last, some cause)]) n s
    rw [List.map_cons, List.cons_append]
    generalize Relay.loop json toLower o src pendingLimit
      ((line, none) :: (init.map (fun line => (line, none)) ++ [(last, some cause)])) n s = out at hreads ⊢
    cases hreads with
    | late => exact hs.answered hlines
    | handedOver hread => exact hdone hs hlines hread
    | next _ hread => exact ih (n + 1) (by simpa using hlines) (hs.read (hlines.trans hsplit) hread)
    | ended herror => cases herror

/-- A stream in which no line has a code where none is rewritten, and whose first lines are never the body of an object
with one. -/
structure StreamKept (json : Json) (toLower : String → String) (body : Bytes) : Prop where
  lines : ∀ line ∈ splitAfterNewline body, ¬ LineEscapes json toLower line
  bodies : ∀ front back, front ++ back = splitAfterNewline body → ¬ Shed json toLower front.flatten

/-- The lines that are read are the first ones, and an empty one where a line was too long. -/
lemma readLimitedLines_front (ending : ReadError) (lines : List Bytes) : ∃ front back, front ++ back = lines ∧
    ((readLimitedLines ending lines).map Prod.fst = front ∨ (readLimitedLines ending lines).map Prod.fst = front ++ [[]]) := by
  induction lines with
  | nil => exact ⟨[], [], rfl, .inl rfl⟩
  | cons line lines ih =>
    cases lines with
    | nil =>
      unfold readLimitedLines
      split_ifs
      · exact ⟨[], [line], rfl, .inr rfl⟩
      · exact ⟨[line], [], rfl, .inl rfl⟩
    | cons line' lines =>
      obtain ⟨front, back, hsplit, hreads⟩ := ih
      unfold readLimitedLines
      split_ifs
      · exact ⟨[], line :: line' :: lines, rfl, .inr rfl⟩
      · refine ⟨line :: front, back, by rw [List.cons_append, hsplit], ?_⟩
        rcases hreads with hreads | hreads
        · exact .inl (by rw [List.map_cons, hreads])
        · exact .inr (by rw [List.map_cons, hreads, List.cons_append])

lemma lineEscapes_nil : ¬ LineEscapes json toLower [] := by
  rintro ⟨payload, o, hpayload, -⟩
  cases hpayload

/-- The first lines of what is read have no code either. -/
lemma StreamKept.front (h : StreamKept json toLower src.body) {front back : List Bytes}
    (hsplit : front ++ back = src.reads.map Prod.fst) :
    ¬ Shed json toLower front.flatten ∧ ∀ line ∈ front, ¬ LineEscapes json toLower line := by
  obtain ⟨first, later, hlines, hreads⟩ := readLimitedLines_front src.ending (splitAfterNewline src.body)
  -- Apart from an empty line at its end, the front is one of the body.
  obtain ⟨front', back', hfront', hfront⟩ : ∃ front' back', front' ++ back' = splitAfterNewline src.body ∧
      (front = front' ∨ front = front' ++ [[]]) := by
    rw [Response.reads] at hsplit
    rcases hreads with hreads | hreads
    · rw [hreads] at hsplit
      exact ⟨front, back ++ later, by rw [← hlines, ← hsplit, List.append_assoc], .inl rfl⟩
    · rw [hreads] at hsplit
      rcases back.eq_nil_or_concat with rfl | ⟨back, final, rfl⟩
      · rw [List.append_nil] at hsplit
        exact ⟨first, later, hlines, .inr hsplit⟩
      · rw [List.concat_eq_append, ← List.append_assoc] at hsplit
        have heq := List.append_inj_left' hsplit rfl
        exact ⟨front, back ++ later, by rw [← hlines, ← heq, List.append_assoc], .inl rfl⟩
  have hflat : front.flatten = front'.flatten := by
    rcases hfront with rfl | rfl
    · rfl
    · simp
  refine ⟨by rw [hflat]; exact h.bodies front' back' hfront', ?_⟩
  intro line hline
  have hmem : line ∈ front' ∨ line = [] := by
    rcases hfront with rfl | rfl
    · exact .inl hline
    · simpa using hline
  rcases hmem with hmem | rfl
  · exact h.lines line (hfront' ▸ List.mem_append_left _ hmem)
  · exact lineEscapes_nil

variable {V : Type} {value : Bytes → Option V}

/-- The relay of a stream. -/
lemma copySSE_clean (hjson : Lawful json value)
    (hlower : toLower capacityShedRetryableClientCode = capacityShedRetryableClientCode)
    (hupstream : toLower "upstream_error" = "upstream_error") (hdst : dst.writes = []) (h : StreamKept json toLower src.body) :
    Clean json toLower (copySSEWithPendingLimitAndTimeout json toLower o src pendingLimit dst).1.dst.received := by
  obtain ⟨body, init, last, cause, hreads, hsplit, -⟩ := reads_form src
  have hempty : dst.received = [] := by simp [ResponseWriter.received, hdst]
  have hfirst : Sent json toLower dst [] (core (Relay.initial dst)) := ⟨fun _ => ⟨rfl, rfl⟩, fun hstarted => by cases hstarted⟩
  have hanswer : Answered json toLower dst (init ++ [last])
      (copySSEWithPendingLimitAndTimeout json toLower o src pendingLimit dst).1.dst := by
    unfold copySSEWithPendingLimitAndTimeout
    rw [hreads]
    exact loop_answered 0 hsplit (List.nil_append _) hfirst
  have hlines : src.reads.map Prod.fst = init ++ [last] := by
    rw [hreads]
    simp [Function.comp_def]
  obtain ⟨front, back, text, hfront, htext, hreceived⟩ := hanswer
  obtain ⟨hbody, hescapes⟩ := h.front (hfront.trans hlines.symm)
  rw [hempty] at hreceived
  rcases hreceived with hreceived | ⟨requestID, message, hmessage, hid, hreceived⟩
  · rw [hreceived, List.nil_append]
    exact (clean_rewritten hjson hlower (hfront.trans hsplit) htext).mpr ⟨hbody, hescapes⟩
  · rw [hreceived, List.nil_append]
    exact clean_failedEvent hjson hlower hupstream hid hmessage (hfront.trans hsplit) htext hescapes

end Relay

end ShareSub.CapacityShedRelay

import Mathlib
import ShareSub.JsonText
import ShareSub.RelayRun

/-!
# The payload of a line

Where the payload of a data line stands in the line, and what the line holds when the payload is replaced.
-/
namespace ShareSub.PayloadText

open SseModel RelayRun

section Runes

variable {runes : List Bytes} {x s t : Bytes} {fuel : ℕ}

/-- A text made of the given runes. -/
def Made (runes : List Bytes) (x : Bytes) : Prop := ∃ parts : List Bytes, (∀ rune ∈ parts, rune ∈ runes) ∧ x = parts.flatten

lemma made_nil (runes : List Bytes) : Made runes [] := ⟨[], by simp, rfl⟩

lemma Made.append {y : Bytes} (hx : Made runes x) (hy : Made runes y) : Made runes (x ++ y) := by
  obtain ⟨parts, hparts, rfl⟩ := hx
  obtain ⟨parts', hparts', rfl⟩ := hy
  refine ⟨parts ++ parts', ?_, by rw [List.flatten_append]⟩
  intro rune hrune
  rcases List.mem_append.mp hrune with hrune | hrune
  · exact hparts rune hrune
  · exact hparts' rune hrune

lemma Made.reverse (h : Made (runes.map List.reverse) x) : Made runes x.reverse := by
  obtain ⟨parts, hparts, rfl⟩ := h
  refine ⟨(parts.map List.reverse).reverse, ?_, by rw [List.reverse_flatten]⟩
  intro rune hrune
  obtain ⟨part, hpart, rfl⟩ := List.mem_map.mp (List.mem_reverse.mp hrune)
  obtain ⟨rune, hmem, rfl⟩ := List.mem_map.mp (hparts part hpart)
  rwa [List.reverse_reverse]

lemma Made.reversed (h : Made runes x) : Made (runes.map List.reverse) x.reverse := by
  obtain ⟨parts, hparts, rfl⟩ := h
  refine ⟨(parts.map List.reverse).reverse, ?_, by rw [List.reverse_flatten]⟩
  intro rune hrune
  obtain ⟨part, hpart, rfl⟩ := List.mem_map.mp (List.mem_reverse.mp hrune)
  exact List.mem_map_of_mem (hparts part hpart)

lemma dropRunes_split (runes : List Bytes) (fuel : ℕ) (s : Bytes) : ∃ x, Made runes x ∧ s = x ++ dropRunes runes fuel s := by
  induction fuel generalizing s with
  | zero => exact ⟨[], made_nil runes, rfl⟩
  | succ fuel ih =>
    unfold dropRunes
    split
    · next rune hfind =>
      obtain ⟨x, hx, hs⟩ := ih (s.drop rune.length)
      have hrune : rune ∈ runes := List.mem_of_find?_eq_some hfind
      have hfront : rune <+: s := by simpa using List.find?_some hfind
      refine ⟨rune ++ x, Made.append ⟨[rune], by simpa using hrune, by simp⟩ hx, ?_⟩
      rw [List.append_assoc, ← hs]
      exact (List.prefix_iff_eq_append.mp hfront).symm
    · exact ⟨[], made_nil runes, rfl⟩

/-- A list of runes none of which begins another one, and none of which is empty. -/
structure Distinct (runes : List Bytes) : Prop where
  ne_nil : [] ∉ runes
  unique : ∀ a ∈ runes, ∀ b ∈ runes, a <+: b → a = b

lemma distinct_spaces : Distinct spaces := ⟨by decide, by decide⟩

lemma distinct_reversed : Distinct (spaces.map List.reverse) := ⟨by decide, by decide⟩

/-- A text that none of the runes begins. -/
def Firm (runes : List Bytes) (t : Bytes) : Prop := ∀ rune ∈ runes, ¬ rune <+: t

lemma dropRunes_firm (h : Firm runes t) (fuel : ℕ) : dropRunes runes fuel t = t := by
  cases fuel with
  | zero => rfl
  | succ fuel =>
    unfold dropRunes
    split
    · next rune hfind =>
      exact absurd (by simpa using List.find?_some hfind) (h rune (List.mem_of_find?_eq_some hfind))
    · rfl

lemma dropRunes_made (hrunes : Distinct runes) (hx : Made runes x) (ht : Firm runes t) (hfuel : x.length ≤ fuel) :
    dropRunes runes fuel (x ++ t) = t := by
  obtain ⟨parts, hparts, rfl⟩ := hx
  induction parts generalizing fuel with
  | nil => exact dropRunes_firm ht fuel
  | cons rune parts ih =>
    have hrune := hparts rune (by simp)
    have hpos : 0 < rune.length := List.length_pos_iff.mpr fun hnil => hrunes.ne_nil (hnil ▸ hrune)
    rw [List.flatten_cons, List.length_append] at hfuel
    obtain ⟨fuel, rfl⟩ : ∃ n, fuel = n + 1 := ⟨fuel - 1, by omega⟩
    have hfront : rune <+: rune ++ (parts.flatten ++ t) := List.prefix_append _ _
    rw [List.flatten_cons, List.append_assoc]
    -- The rune that is found begins with this one, or the other way round.
    have hfind : runes.find? (fun r => r.isPrefixOf (rune ++ (parts.flatten ++ t))) = some rune := by
      cases hfound : runes.find? fun r => r.isPrefixOf (rune ++ (parts.flatten ++ t)) with
      | none =>
        rw [List.find?_eq_none] at hfound
        exact absurd (by simp) (hfound rune hrune)
      | some found =>
        have hmem := List.mem_of_find?_eq_some hfound
        have hfound' : found <+: rune ++ (parts.flatten ++ t) := by simpa using List.find?_some hfound
        rcases List.prefix_or_prefix_of_prefix hfound' hfront with hle | hle
        · rw [hrunes.unique found hmem rune hrune hle]
        · rw [hrunes.unique rune hrune found hmem hle]
    rw [dropRunes, hfind]
    dsimp only
    rw [List.drop_left]
    exact ih (fun r hr => hparts r (List.mem_cons_of_mem _ hr)) (by omega)

lemma firm_dropRunes (hrunes : Distinct runes) (hfuel : s.length ≤ fuel) : Firm runes (dropRunes runes fuel s) := by
  induction fuel generalizing s with
  | zero =>
    have hs : s = [] := List.length_eq_zero_iff.mp (Nat.le_zero.mp hfuel)
    intro rune hrune hfront
    rw [hs] at hfront
    exact hrunes.ne_nil (List.prefix_nil.mp hfront ▸ hrune)
  | succ fuel ih =>
    unfold dropRunes
    split
    · next rune hfind =>
      have hrune := List.mem_of_find?_eq_some hfind
      have hpos : 0 < rune.length := List.length_pos_iff.mpr fun hnil => hrunes.ne_nil (hnil ▸ hrune)
      exact ih (by rw [List.length_drop]; omega)
    · next hfind =>
      intro rune hrune hfront
      rw [List.find?_eq_none] at hfind
      exact hfind rune hrune (by simpa using hfront)

end Runes

section Trim

variable {x y m : Bytes}

/-- A byte that is part of no space, neither at its front nor at its end. -/
def solid (b : UInt8) : Bool := spaces.all fun rune => rune.head? ≠ some b && rune.getLast? ≠ some b

lemma firm_of_solid {b : UInt8} (h : solid b = true) (t : Bytes) : Firm spaces (b :: t) := by
  intro rune hrune hfront
  obtain ⟨c, rest, rfl⟩ := List.exists_cons_of_ne_nil fun hnil => distinct_spaces.ne_nil (hnil ▸ hrune)
  have hb := List.all_eq_true.mp h _ hrune
  simp [(List.cons_prefix_cons.mp hfront).1] at hb

lemma firm_reversed_of_solid {b : UInt8} (h : solid b = true) (t : Bytes) : Firm (spaces.map List.reverse) (b :: t) := by
  intro reversed hreversed hfront
  obtain ⟨rune, hrune, rfl⟩ := List.mem_map.mp hreversed
  obtain ⟨c, rest, hrest⟩ := List.exists_cons_of_ne_nil fun hnil : rune.reverse = [] =>
    distinct_spaces.ne_nil (List.reverse_eq_nil_iff.mp hnil ▸ hrune)
  rw [hrest] at hfront
  have hlast : rune.getLast? = some c := by
    rw [← List.head?_reverse, hrest]
    rfl
  have hb := List.all_eq_true.mp h _ hrune
  simp [hlast, (List.cons_prefix_cons.mp hfront).1] at hb

/-- A text with a solid byte at either end. -/
structure Core (m : Bytes) : Prop where
  front : ∃ b rest, m = b :: rest ∧ solid b = true
  back : ∃ rest b, m = rest ++ [b] ∧ solid b = true

lemma trimSpace_core (hx : Made spaces x) (hm : Core m) (hy : Made spaces y) : trimSpace (x ++ m ++ y) = m := by
  obtain ⟨b, front, hfront, hb⟩ := hm.front
  obtain ⟨back, c, hback, hc⟩ := hm.back
  have hleft : dropRunes spaces (x ++ m ++ y).length (x ++ m ++ y) = m ++ y := by
    rw [List.append_assoc]
    refine dropRunes_made distinct_spaces hx ?_ (by simp)
    rw [hfront]
    exact firm_of_solid hb _
  have hright : dropRunes (spaces.map List.reverse) (m ++ y).length (m ++ y).reverse = m.reverse := by
    rw [List.reverse_append]
    refine dropRunes_made distinct_reversed hy.reversed ?_ (by simp)
    rw [hback, List.reverse_append]
    exact firm_reversed_of_solid hc _
  unfold trimSpace
  dsimp only
  rw [hleft, hright, List.reverse_reverse]

/-- What is trimmed are spaces. -/
lemma trimSpace_split (s : Bytes) : ∃ x y, Made spaces x ∧ Made spaces y ∧ s = x ++ trimSpace s ++ y := by
  unfold trimSpace
  dsimp only
  obtain ⟨x, hx, hs⟩ := dropRunes_split spaces s.length s
  generalize dropRunes spaces s.length s = left at hs ⊢
  obtain ⟨y, hy, hleft⟩ := dropRunes_split (spaces.map List.reverse) left.length left.reverse
  refine ⟨x, y.reverse, hx, hy.reverse, ?_⟩
  have hback := congrArg List.reverse hleft
  rw [List.reverse_reverse, List.reverse_append] at hback
  rw [List.append_assoc, ← hback]
  exact hs

lemma firm_trimSpace (s : Bytes) : Firm spaces (trimSpace s) ∧ Firm (spaces.map List.reverse) (trimSpace s).reverse := by
  unfold trimSpace
  dsimp only
  have hleft : Firm spaces (dropRunes spaces s.length s) := firm_dropRunes distinct_spaces le_rfl
  generalize dropRunes spaces s.length s = left at hleft ⊢
  rw [List.reverse_reverse]
  refine ⟨?_, firm_dropRunes distinct_reversed (by simp)⟩
  obtain ⟨y, -, hsplit⟩ := dropRunes_split (spaces.map List.reverse) left.length left.reverse
  have hback := congrArg List.reverse hsplit
  rw [List.reverse_reverse, List.reverse_append] at hback
  intro rune hrune hfront
  refine hleft rune hrune (hfront.trans ?_)
  conv_rhs => rw [hback]
  exact List.prefix_append _ _

/-- A trimmed text has no space at its ends. -/
lemma trimSpace_blank {s before m after : Bytes} (h : trimSpace s = before ++ m ++ after) (hbefore : JsonText.Blank before)
    (hafter : JsonText.Blank after) : before = [] ∧ after = [] := by
  have hspaces (b : UInt8) (hb : JsonText.isSpace b = true) : [b] ∈ spaces := by
    simp only [JsonText.isSpace, Bool.or_eq_true, decide_eq_true_eq] at hb
    rcases hb with ((rfl | rfl) | rfl) | rfl
    all_goals decide
  obtain ⟨hfront, hback⟩ := firm_trimSpace s
  rw [h] at hfront hback
  constructor
  · cases before with
    | nil => rfl
    | cons b before =>
      exact absurd (by simp) (hfront [b] (hspaces b (hbefore b (by simp))))
  · rcases after.eq_nil_or_concat with rfl | ⟨after, b, rfl⟩
    · rfl
    · have hmem : [b] ∈ spaces.map List.reverse :=
        List.mem_map.mpr ⟨[b], hspaces b (hafter b (by simp)), rfl⟩
      exact absurd (by simp) (hback [b] hmem)

end Trim

section Payload

variable {line payload m x y z : Bytes}

lemma core_data (hm : Core m) (y : Bytes) : Core (bytes "data:" ++ y ++ m) := by
  obtain ⟨rest, b, hback, hb⟩ := hm.back
  exact ⟨⟨100, _, rfl, by decide⟩, bytes "data:" ++ y ++ rest, b, by rw [hback]; simp, hb⟩

/-- A data line with spaces around the payload. -/
lemma ssePayload_data (hx : Made spaces x) (hy : Made spaces y) (hz : Made spaces z) (hm : Core m) :
    ssePayload (x ++ (bytes "data:" ++ y ++ m) ++ z) = some m := by
  have hinner : trimSpace (y ++ m) = m := by
    have htrim := trimSpace_core hy hm (made_nil spaces)
    rwa [List.append_nil] at htrim
  unfold ssePayload
  dsimp only
  rw [trimSpace_core hx (core_data hm y) hz, if_pos (by rw [List.append_assoc]; simp),
    List.append_assoc, show (5 : ℕ) = (bytes "data:").length by decide, List.drop_left, hinner]

/-- Where the payload stands. -/
structure Around (line payload x y z : Bytes) : Prop where
  front : Made spaces x
  middle : Made spaces y
  back : Made spaces z
  eq : line = x ++ (bytes "data:" ++ y ++ payload) ++ z

lemma ssePayload_around (h : ssePayload line = some payload) : ∃ x y z, Around line payload x y z := by
  unfold ssePayload at h
  dsimp only at h
  split_ifs at h with hdata
  cases h
  obtain ⟨x, z, hx, hz, hline⟩ := trimSpace_split line
  obtain ⟨rest, hrest⟩ : bytes "data:" <+: trimSpace line := by simpa using hdata
  have hdrop : (trimSpace line).drop 5 = rest := by
    rw [← hrest, show (5 : ℕ) = (bytes "data:").length by decide, List.drop_left]
  rw [hdrop]
  obtain ⟨y, z', hy, hz', hinner⟩ := trimSpace_split rest
  refine ⟨x, y, z' ++ z, hx, hy, hz'.append hz, ?_⟩
  conv_lhs => rw [hline, ← hrest, hinner]
  simp

lemma not_mem_made {b : UInt8} (hb : spaces.all (fun rune => b ∉ rune) = true) (hx : Made spaces x) : b ∉ x := by
  obtain ⟨parts, hparts, rfl⟩ := hx
  intro hmem
  obtain ⟨rune, hrune, hbrune⟩ := List.mem_flatten.mp hmem
  have hnot := List.all_eq_true.mp hb rune (hparts rune hrune)
  exact of_decide_eq_true hnot hbrune

lemma indexOf_first {pre rest post : Bytes} {b : UInt8} (hpre : b ∉ pre) :
    indexOf (pre ++ (b :: rest) ++ post) (b :: rest) = some pre.length := by
  unfold indexOf
  rw [List.find?_range_eq_some]
  refine ⟨?_, by simp, ?_⟩
  · rw [List.append_assoc, List.drop_left]
    simp
  · intro j hj
    have hget : (pre ++ (b :: rest) ++ post)[j]? = some (pre.get ⟨j, hj⟩) := by
      rw [List.append_assoc, List.getElem?_append_left hj]
      simp
    have hne : b ≠ pre.get ⟨j, hj⟩ := fun heq => hpre (heq ▸ List.get_mem pre ⟨j, hj⟩)
    rw [Bool.not_eq_true', Bool.eq_false_iff]
    intro hfront
    obtain ⟨tail, htail⟩ := List.isPrefixOf_iff_prefix.mp hfront
    have hhead : ((pre ++ (b :: rest) ++ post).drop j)[0]? = some b := by rw [← htail]; rfl
    rw [List.getElem?_drop, Nat.add_zero, hget] at hhead
    exact hne (Option.some.inj hhead).symm

/-- An object in a line, as a text: it is in braces. -/
structure Braced (m : Bytes) : Prop where
  front : ∃ rest, m = 123 :: rest
  back : ∃ rest, m = rest ++ [125]

lemma Braced.core (h : Braced m) : Core m := by
  obtain ⟨front, hfront⟩ := h.front
  obtain ⟨back, hback⟩ := h.back
  exact ⟨⟨123, front, hfront, by decide⟩, back, 125, hback, by decide⟩

lemma Around.replace (h : Around line payload x y z) (hpayload : Braced payload) (new : Bytes) :
    replaceSSEPayload line payload new = x ++ (bytes "data:" ++ y ++ new) ++ z := by
  obtain ⟨rest, rfl⟩ := hpayload.front
  have hpre : (123 : UInt8) ∉ x ++ (bytes "data:" ++ y) := by
    simp only [List.mem_append, not_or]
    exact ⟨not_mem_made (by decide) h.front, by decide, not_mem_made (by decide) h.middle⟩
  have hline : line = x ++ (bytes "data:" ++ y) ++ (123 :: rest) ++ z := by
    rw [h.eq]
    simp
  have hdrop : line.drop ((x ++ (bytes "data:" ++ y)).length + (123 :: rest).length) = z := by
    rw [hline, ← List.length_append, List.drop_left]
  have htake : line.take (x ++ (bytes "data:" ++ y)).length = x ++ (bytes "data:" ++ y) := by
    rw [hline, List.append_assoc _ (123 :: rest) z, List.take_left]
  have hindex : indexOf line (123 :: rest) = some (x ++ (bytes "data:" ++ y)).length := by
    rw [hline]
    exact indexOf_first hpre
  unfold replaceSSEPayload
  rw [hindex]
  dsimp only
  rw [hdrop, htake]
  simp

/-- The replaced payload is the payload of the new line. -/
lemma Around.ssePayload_replace (h : Around line payload x y z) (hpayload : Braced payload) {new : Bytes} (hnew : Braced new) :
    ssePayload (replaceSSEPayload line payload new) = some new := by
  rw [h.replace hpayload]
  exact ssePayload_data h.front h.middle h.back hnew.core

lemma Around.not_mem_replace (h : Around line payload x y z) (hpayload : Braced payload) {new : Bytes} (hnew : newline ∉ new)
    (hline : newline ∉ line) : newline ∉ replaceSSEPayload line payload new := by
  rw [h.replace hpayload]
  rw [h.eq] at hline
  simp only [List.mem_append, not_or] at hline ⊢
  exact ⟨⟨hline.1.1, hline.1.2.1, hnew⟩, hline.2⟩

lemma Around.complete_replace (h : Around line payload x y z) (hpayload : Braced payload) {new : Bytes} (hnew : newline ∉ new)
    (hline : Complete line) : Complete (replaceSSEPayload line payload new) := by
  obtain ⟨text, htext, hfree⟩ := hline
  obtain ⟨back, hback⟩ := hpayload.back
  -- The newline is behind the payload, which ends in a brace.
  rcases z.eq_nil_or_concat with rfl | ⟨z', b, rfl⟩
  · have heq := h.eq.symm.trans htext
    rw [hback, List.append_nil, ← List.append_assoc, ← List.append_assoc] at heq
    exact absurd (List.append_inj_right' heq rfl) (by decide)
  · rw [List.concat_eq_append] at h
    have heq := h.eq.symm.trans htext
    rw [← List.append_assoc] at heq
    have hb : b = newline := by simpa using List.append_inj_right' heq rfl
    have hrest := List.append_inj_left' heq rfl
    refine ⟨x ++ (bytes "data:" ++ y ++ new) ++ z', ?_, ?_⟩
    · rw [h.replace hpayload, hb]
      simp
    · rw [← hrest] at hfree
      simp only [List.mem_append, not_or] at hfree ⊢
      exact ⟨⟨hfree.1.1, hfree.1.2.1, hnew⟩, hfree.2⟩

/-- The payload of a line has no space around it. -/
lemma braced_payload (h : ssePayload line = some payload) {before after : Bytes} (heq : payload = before ++ m ++ after)
    (hbefore : JsonText.Blank before) (hafter : JsonText.Blank after) (hm : Braced m) : Braced payload := by
  unfold ssePayload at h
  dsimp only at h
  split_ifs at h
  injection h with h
  obtain ⟨rfl, rfl⟩ := trimSpace_blank (h.trans heq) hbefore hafter
  rw [heq, List.nil_append, List.append_nil]
  exact hm

end Payload

end ShareSub.PayloadText

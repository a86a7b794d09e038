import Mathlib
import ShareSub.GatewayModel
import ShareSub.JsonValue
import ShareSub.TagText

/-!
# The locale of a request

The embedding of `request_locale.go`: the time zone of the account is written into the environment of a Codex request
and into the location of its search tools. The calendar date in a time zone at the time of the call is a parameter.
-/
namespace ShareSub.RequestLocale

open JsonValue TagText
open GatewayModel (isSpace)

section Model

/-- `domain.RequestTimezones`. -/
def requestTimezones : List String :=
  ["Asia/Singapore", "Asia/Tokyo", "Asia/Seoul", "America/Los_Angeles", "America/New_York", "Europe/London"]

structure Date where
  year : ℤ
  month : ℕ
  day : ℕ
  deriving DecidableEq, Repr

def digitChar (d : ℕ) : Char := Char.ofNat (48 + d % 10)

def padded (width n : ℕ) : List Char :=
  let digits := ((Nat.digits 10 n).map digitChar).reverse
  List.replicate (width - digits.length) '0' ++ digits

/-- `Format("2006-01-02")`. -/
def Date.format (d : Date) : List Char :=
  (if d.year < 0 then ['-'] else []) ++ padded 4 d.year.natAbs ++ ['-'] ++ padded 2 d.month ++ ['-'] ++ padded 2 d.day

/-- `requestLocaleRewrite`. -/
structure Rewrite where
  timezone : List Char
  date : List Char

def digit (c : Char) : Bool := '0' ≤ c ∧ c ≤ '9'

/-- `requestLocaleDateRaw`. -/
def isDate (value : List Char) : Bool :=
  match value with
  | [a, b, c, d, x, e, f, y, g, h] => [a, b, c, d, e, f, g, h].all digit ∧ x = '-' ∧ y = '-'
  | _ => false

def opening (tag : List Char) : List Char := '<' :: (tag ++ ['>'])

def closing (tag : List Char) : List Char := '<' :: '/' :: (tag ++ ['>'])

def trimLeft (l : List Char) : List Char := l.dropWhile isSpace

def trimRight (l : List Char) : List Char := (l.reverse.dropWhile isSpace).reverse

def replaceRequestLocaleTag (text tag : List Char) (replace : List Char → List Char × Bool) : List Char × Bool :=
  if count (opening tag) text ≠ 1 ∨ count (closing tag) text ≠ 1 then (text, false)
  else
    match index (opening tag) text, index (closing tag) text with
    | some i, some stop =>
      let start := i + (opening tag).length
      if stop < start then (text, false)
      else
        let value := (text.take stop).drop start
        let rest := trimLeft value
        let leading := value.take (value.length - rest.length)
        let trimmed := trimRight rest
        let trailing := rest.drop trimmed.length
        let next := replace trimmed
        if next.2 = false ∨ next.1 = trimmed then (text, false)
        else (text.take start ++ leading ++ next.1 ++ trailing ++ text.drop stop, true)
    | _, _ => (text, false)

def environment : List Char := "environment_context".toList

def timezoneTag : List Char := "timezone".toList

def dateTag : List Char := "current_date".toList

/-- The text is exactly one element for the environment. -/
def isEnvironmentContext (text : List Char) : Bool :=
  let trimmed := trimRight (trimLeft text)
  opening environment <+: trimmed ∧ closing environment <:+ trimmed ∧ count (opening environment) trimmed = 1 ∧
    count (closing environment) trimmed = 1

/-- `environmentContext`; `none` when nothing has changed. -/
def environmentContext (r : Rewrite) (text : String) : Option String :=
  if isEnvironmentContext text.toList then
    let next := replaceRequestLocaleTag text.toList timezoneTag fun _ => (r.timezone, true)
    let dated := replaceRequestLocaleTag next.1 dateTag fun value => (r.date, isDate value)
    if next.2 || dated.2 then some (String.ofList dated.1) else none
  else none

/-- A part of the type `input_text`, and the variable `text` after it was decoded: null leaves what was there before. -/
def partText (text : String) (value : Value) : Option (Members × String) :=
  match value with
  | .object part =>
    match Members.get part "type" with
    | some (.string "input_text") =>
      match Members.get part "text" with
      | some (.string s) => some (part, s)
      | some .null => some (part, text)
      | _ => none
    | _ => none
  | _ => none

/-- The loop over the parts of a content. -/
def rewriteParts (r : Rewrite) : String → List Value → List Value × Bool
  | _, [] => ([], false)
  | text, value :: parts =>
    match partText text value with
    | none =>
      let rest := rewriteParts r text parts
      (value :: rest.1, rest.2)
    | some (part, text) =>
      let rest := rewriteParts r text parts
      match environmentContext r text with
      | none => (value :: rest.1, rest.2)
      | some next => (.object (Members.set part "text" (.string next)) :: rest.1, true)

def content (r : Rewrite) : Option Value → Option Value
  | some (.string text) => (environmentContext r text).map .string
  | some .null => (environmentContext r "").map .string
  | some (.array parts) =>
    let out := rewriteParts r "" parts
    if out.2 then some (.array out.1) else none
  | _ => none

/-- An item of the input; `none` when it is left as it is. -/
def rewriteItem (r : Rewrite) : Value → Option Value
  | .object message =>
    match Members.get message "role" with
    | some (.string "user") => (content r (Members.get message "content")).map fun c => .object (Members.set message "content" c)
    | _ => none
  | _ => none

def rewriteTool (r : Rewrite) : Value → Option Value
  | .object tool =>
    match Members.get tool "type", Members.get tool "user_location" with
    | some (.string toolType), some (.object location) =>
      if toolType.startsWith "web_search" then
        match Members.get location "timezone" with
        | some (.string current) =>
          if current = String.ofList r.timezone then none
          else some (.object (Members.set tool "user_location" (.object (Members.set location "timezone" (.string (String.ofList r.timezone))))))
        | _ => some (.object (Members.set tool "user_location" (.object (Members.set location "timezone" (.string (String.ofList r.timezone))))))
      else none
    | _, _ => none
  | _ => none

/-- The loop of `input` and `tools` over an array; `none` when nothing has changed. -/
def rewriteArray (f : Value → Option Value) : Option Value → Option Value
  | some (.array items) =>
    if items.any fun v => (f v).isSome then some (.array (items.map fun v => (f v).getD v)) else none
  | _ => none

/-- The result of a rewrite: the body as it was sent, or a new one. -/
inductive Result
  | verbatim
  | encoded (payload : Members)

inductive LocaleError
  | unsupported (timezone : String)
  | parse
  | notObject
  deriving DecidableEq, Repr

def setChanged (m : Members) (key : String) : Option Value → Members
  | some v => m.set key v
  | none => m

/-- What `rewriteRequestLocale` does with an object. -/
def rewritePayload (r : Rewrite) (payload : Members) : Result :=
  let input := rewriteArray (rewriteItem r) (payload.get "input")
  let tools := rewriteArray (rewriteTool r) (payload.get "tools")
  if input.isSome || tools.isSome then .encoded (setChanged (setChanged payload "input" input) "tools" tools) else .verbatim

def rewriteRequestLocale (today : String → Date) (body : Value) (timezone : String) : Except LocaleError Result :=
  if timezone = "" then .ok .verbatim
  else if timezone ∉ requestTimezones then .error (.unsupported timezone)
  else
    match body with
    | .object payload => .ok (rewritePayload ⟨timezone.toList, (today timezone).format⟩ payload)
    | .null => .error .notObject
    | _ => .error .parse

end Model

section Spaces

variable {v new : List Char}

def lead (v : List Char) : List Char := v.take (v.length - (trimLeft v).length)

def core (v : List Char) : List Char := trimRight (trimLeft v)

def trail (v : List Char) : List Char := (trimLeft v).drop (core v).length

lemma lead_eq (v : List Char) : lead v = v.takeWhile isSpace := by
  have hsplit : v.takeWhile isSpace ++ trimLeft v = v := List.takeWhile_append_dropWhile
  have hlength : v.length - (trimLeft v).length = (v.takeWhile isSpace).length := by
    have := congrArg List.length hsplit
    rw [List.length_append] at this
    omega
  have htake : (v.takeWhile isSpace ++ trimLeft v).take (v.takeWhile isSpace).length = v.takeWhile isSpace := List.take_left
  rw [hsplit] at htake
  rw [lead, hlength, htake]

lemma trimRight_append (l : List Char) : trimRight l ++ (l.reverse.takeWhile isSpace).reverse = l := by
  rw [trimRight, ← List.reverse_append, List.takeWhile_append_dropWhile, List.reverse_reverse]

lemma trail_eq (v : List Char) : trail v = ((trimLeft v).reverse.takeWhile isSpace).reverse := by
  have hsplit := trimRight_append (trimLeft v)
  rw [trail, core]
  conv_lhs =>
    enter [2]
    rw [← hsplit]
  exact List.drop_left

lemma lead_core_trail (v : List Char) : lead v ++ core v ++ trail v = v := by
  rw [List.append_assoc, trail_eq, core, trimRight_append, lead_eq]
  exact List.takeWhile_append_dropWhile

lemma lead_space (v : List Char) : ∀ c ∈ lead v, isSpace c = true := by
  rw [lead_eq]
  exact fun c hc => List.mem_takeWhile_imp hc

lemma trail_space (v : List Char) : ∀ c ∈ trail v, isSpace c = true := by
  rw [trail_eq]
  exact fun c hc => List.mem_takeWhile_imp (List.mem_reverse.mp hc)

lemma dropWhile_spaces {l : List Char} (hl : ∀ c ∈ l, isSpace c = true) (hne : new ≠ [])
    (hnew : ∀ c ∈ new, isSpace c = false) (rest : List Char) : (l ++ (new ++ rest)).dropWhile isSpace = new ++ rest := by
  induction l with
  | nil =>
    obtain ⟨c, new', rfl⟩ := List.exists_cons_of_ne_nil hne
    rw [List.nil_append, List.cons_append, List.dropWhile_cons_of_neg (by simp [hnew c])]
  | cons c l ih =>
    rw [List.cons_append, List.dropWhile_cons_of_pos (hl c (by simp))]
    exact ih fun c hc => hl c (List.mem_cons_of_mem _ hc)

/-- A text without spaces in between spaces. -/
lemma core_of_spaces {l l' : List Char} (hl : ∀ c ∈ l, isSpace c = true) (hl' : ∀ c ∈ l', isSpace c = true)
    (hne : new ≠ []) (hnew : ∀ c ∈ new, isSpace c = false) : core (l ++ new ++ l') = new := by
  rw [core, trimLeft, List.append_assoc, dropWhile_spaces hl hne hnew, trimRight, List.reverse_append]
  have hne' : new.reverse ≠ [] := by simpa using hne
  have hback := dropWhile_spaces (fun c hc => hl' c (List.mem_reverse.mp hc)) hne'
    (fun c hc => hnew c (List.mem_reverse.mp hc)) []
  rw [List.append_nil] at hback
  rw [hback, List.reverse_reverse]

lemma mem_core {c : Char} (hc : c ∈ v) (hspace : isSpace c = false) : c ∈ core v := by
  rw [← lead_core_trail v] at hc
  rcases List.mem_append.mp hc with hc | hc
  · rcases List.mem_append.mp hc with hc | hc
    · rw [lead_space v c hc] at hspace
      cases hspace
    · exact hc
  · rw [trail_space v c hc] at hspace
    cases hspace

end Spaces

section Elements

variable {text tag before value after : List Char} {replace : List Char → List Char × Bool}

/-- The name of an element. -/
def Name (tag : List Char) : Prop := '<' ∉ tag ∧ '>' ∉ tag

lemma tag_opening (h : Name tag) : Tag (opening tag) := by
  refine ⟨rfl, by rw [opening, ← List.cons_append, List.getLast?_concat], by simpa [opening] using h.1, ?_⟩
  have hinit : (opening tag).dropLast = '<' :: tag := by
    rw [opening, ← List.cons_append, List.dropLast_concat]
  rw [hinit]
  simpa using h.2

lemma tag_closing (h : Name tag) : Tag (closing tag) := by
  refine ⟨rfl, by rw [closing, ← List.cons_append, ← List.cons_append, List.getLast?_concat],
    by simpa [closing] using h.1, ?_⟩
  have hinit : (closing tag).dropLast = '<' :: '/' :: tag := by
    rw [closing, ← List.cons_append, ← List.cons_append, List.dropLast_concat]
  rw [hinit]
  simpa using h.2

/-- The only element of a name in a text. -/
structure Element (text tag before value after : List Char) : Prop where
  eq : text = before ++ opening tag ++ value ++ closing tag ++ after
  opens : occurrences (opening tag) text = 1
  closes : occurrences (closing tag) text = 1

/-- What is written into an element, with the spaces around it kept. -/
def filled (tag before value after new : List Char) : List Char :=
  before ++ opening tag ++ (lead value ++ new ++ trail value) ++ closing tag ++ after

lemma Element.index_opening (hname : Name tag) (h : Element text tag before value after) :
    index (opening tag) text = some before.length := by
  have htext : text = before ++ opening tag ++ (value ++ closing tag ++ after) := by rw [h.eq]; simp
  have hone := h.opens
  rw [htext] at hone ⊢
  exact index_of_unique hone.le (tag_opening hname)

lemma Element.index_closing (hname : Name tag) (h : Element text tag before value after) :
    index (closing tag) text = some (before ++ opening tag ++ value).length := by
  have hone := h.closes
  rw [h.eq] at hone ⊢
  exact index_of_unique hone.le (tag_closing hname)

lemma replace_of_element (hname : Name tag) (h : Element text tag before value after) :
    replaceRequestLocaleTag text tag replace =
      if (replace (core value)).2 = false ∨ (replace (core value)).1 = core value then (text, false)
      else (filled tag before value after (replace (core value)).1, true) := by
  have hstart : before.length + (opening tag).length = (before ++ opening tag).length := by simp
  have hle : ¬ (before ++ opening tag ++ value).length < (before ++ opening tag).length := by simp
  have htake : text.take (before ++ opening tag).length = before ++ opening tag := by
    rw [h.eq, List.append_assoc _ value, List.append_assoc _ _ after, List.take_left]
  have hdrop : text.drop (before ++ opening tag ++ value).length = closing tag ++ after := by
    rw [h.eq, List.append_assoc _ (closing tag), List.drop_left]
  have hvalue : (text.take (before ++ opening tag ++ value).length).drop (before ++ opening tag).length = value := by
    rw [h.eq, List.append_assoc _ (closing tag), List.take_left, List.drop_left]
  unfold replaceRequestLocaleTag
  rw [if_neg (by simp [count_eq (tag_opening hname), count_eq (tag_closing hname), h.opens, h.closes]),
    h.index_opening hname, h.index_closing hname]
  dsimp only
  rw [hstart, if_neg hle, hvalue, htake, hdrop]
  by_cases hsame : (replace (core value)).2 = false ∨ (replace (core value)).1 = core value
  · rw [if_pos hsame]
    exact if_pos hsame
  · rw [if_neg hsame]
    refine (if_neg hsame).trans ?_
    simp [filled, lead, core, trail]

/-- A text in which something is replaced has the element. -/
lemma element_of_replace (hname : Name tag) (h : replaceRequestLocaleTag text tag replace ≠ (text, false)) :
    ∃ before value after, Element text tag before value after := by
  unfold replaceRequestLocaleTag at h
  split_ifs at h with hcount
  · exact absurd rfl h
  · obtain ⟨hopens, hcloses⟩ : occurrences (opening tag) text = 1 ∧ occurrences (closing tag) text = 1 := by
      rw [← count_eq (tag_opening hname), ← count_eq (tag_closing hname)]
      simpa [not_or] using hcount
    have hpos : occurrences (opening tag) text ≠ 0 := by omega
    have hpos' : occurrences (closing tag) text ≠ 0 := by omega
    obtain ⟨p, q, htext, hindex⟩ := exists_of_occurrences hpos
    obtain ⟨p', q', htext', hindex'⟩ := exists_of_occurrences hpos'
    rw [hindex, hindex'] at h
    dsimp only at h
    split_ifs at h with hlt hsame
    · exact absurd rfl h
    · exact absurd rfl h
    · -- The closing tag comes after the opening one.
      have hle : (p ++ opening tag).length ≤ p'.length := by simpa using hlt
      have heq : p ++ opening tag ++ q = p' ++ (closing tag ++ q') := by rw [← htext, htext', List.append_assoc]
      rcases List.append_eq_append_iff.mp heq with ⟨value, hp', hq⟩ | ⟨rest, hp, hrest⟩
      · exact ⟨p, value, q', by rw [htext', hp'], hopens, hcloses⟩
      · have hrest' : rest = [] := by
          have hlength : (p ++ opening tag).length = p'.length + rest.length := by rw [hp, List.length_append]
          exact List.eq_nil_of_length_eq_zero (by omega)
        subst hrest'
        exact ⟨p, [], q', by rw [htext', ← List.append_nil p', ← hp]; simp, hopens, hcloses⟩

lemma Element.unique (hname : Name tag) (h : Element text tag before value after) {before' value' after' : List Char}
    (heq : text = before' ++ opening tag ++ value' ++ closing tag ++ after') : value = value' := by
  have h' : Element text tag before' value' after' := ⟨heq, h.opens, h.closes⟩
  have hopen := (h.index_opening hname).symm.trans (h'.index_opening hname)
  have hclose := (h.index_closing hname).symm.trans (h'.index_closing hname)
  simp only [Option.some.injEq, List.length_append] at hopen hclose
  have htext := h.eq.symm.trans h'.eq
  simp only [List.append_assoc] at htext
  obtain ⟨-, hrest⟩ := List.append_inj htext hopen
  have hrest' := List.append_cancel_left hrest
  exact (List.append_inj hrest' (by omega)).1

/-- Nothing is replaced where the content is the replacement already. -/
lemma replace_fixed (hname : Name tag) (heq : text = before ++ opening tag ++ value ++ closing tag ++ after)
    (hsame : (replace (core value)).1 = core value) : replaceRequestLocaleTag text tag replace = (text, false) := by
  by_contra hne
  obtain ⟨b, v, a, helement⟩ := element_of_replace hname hne
  rw [replace_of_element hname helement, helement.unique hname heq, if_pos (.inr hsame)] at hne
  exact hne rfl

/-- A text that is written into an element: it is not empty and has neither spaces nor brackets. -/
structure Filler (new : List Char) : Prop where
  ne_nil : new ≠ []
  plain : ∀ c ∈ new, isSpace c = false ∧ c ≠ '<' ∧ c ≠ '>'

lemma not_space_open : isSpace '<' = false := by decide

lemma not_space_close : isSpace '>' = false := by decide

lemma Filler.core {new : List Char} (h : Filler new) (v : List Char) : core (lead v ++ new ++ trail v) = new :=
  core_of_spaces (lead_space v) (trail_space v) h.ne_nil fun c hc => (h.plain c hc).1

/-- A replacement that always offers the same text does nothing the second time. -/
lemma replace_idempotent (hname : Name tag) {new : List Char} (hnew : Filler new) (hconst : ∀ v, (replace v).1 = new) :
    replaceRequestLocaleTag (replaceRequestLocaleTag text tag replace).1 tag replace =
      ((replaceRequestLocaleTag text tag replace).1, false) := by
  by_cases hsame : replaceRequestLocaleTag text tag replace = (text, false)
  · rw [hsame]
    exact hsame
  · obtain ⟨before, value, after, helement⟩ := element_of_replace hname hsame
    rw [replace_of_element hname helement] at hsame ⊢
    split_ifs at hsame ⊢
    · exact absurd rfl hsame
    · refine replace_fixed hname rfl ?_
      rw [hconst, hconst, hnew.core]

lemma getLast?_opening (before : List Char) (tag : List Char) : (before ++ opening tag).getLast? = some '>' := by
  rw [opening, ← List.cons_append, ← List.append_assoc, List.getLast?_concat]

/-- The content of one element without brackets does not matter for a replacement in another that has been made. -/
lemma replace_around {tag' m m' new : List Char} (hname : Name tag) (hname' : Name tag') (hne : tag ≠ tag')
    (hnew : Filler new) (hm : '<' ∉ m) (hm' : '<' ∉ m')
    (h : replaceRequestLocaleTag (before ++ opening tag' ++ m ++ (closing tag' ++ after)) tag (fun _ => (new, true)) =
      (before ++ opening tag' ++ m ++ (closing tag' ++ after), false)) :
    replaceRequestLocaleTag (before ++ opening tag' ++ m' ++ (closing tag' ++ after)) tag (fun _ => (new, true)) =
      (before ++ opening tag' ++ m' ++ (closing tag' ++ after), false) := by
  have hx := getLast?_opening before tag'
  have hy : (closing tag' ++ after).head? = some '<' := rfl
  have hsuffix : opening tag' <:+ before ++ opening tag' := List.suffix_append _ _
  generalize before ++ opening tag' = x at hx hsuffix h ⊢
  generalize closing tag' ++ after = y at hy h ⊢
  by_contra hchanged
  obtain ⟨b, v, a, helement⟩ := element_of_replace hname hchanged
  have hv : core v ≠ new := by
    intro hsame
    rw [replace_of_element hname helement, if_pos (.inr hsame.symm)] at hchanged
    exact hchanged rfl
  -- The element is in the first text too, with a content that would be replaced.
  have hcount : ∀ pat, Tag pat → occurrences pat (x ++ m ++ y) = occurrences pat (x ++ m' ++ y) := by
    intro pat hpat
    rw [occurrences_around hpat hx hy hm, occurrences_around hpat hx hy hm']
  have hcontra : ∀ b' v' a', x ++ m ++ y = b' ++ opening tag ++ v' ++ closing tag ++ a' → core v' = new := by
    intro b' v' a' heq
    have helement' : Element (x ++ m ++ y) tag b' v' a' :=
      ⟨heq, by rw [hcount _ (tag_opening hname), helement.opens], by rw [hcount _ (tag_closing hname), helement.closes]⟩
    by_contra hv'
    rw [replace_of_element hname helement', if_neg (by simp [Ne.symm hv'])] at h
    exact absurd (congrArg Prod.snd h) (by simp)
  have hopen : x ++ m' ++ y = b ++ opening tag ++ (v ++ closing tag ++ a) := by rw [helement.eq]; simp
  rcases locate_around (tag_opening hname) hx hy hm' hopen with ⟨q, hq, hrest⟩ | ⟨p, hp, hb⟩
  · rcases locate_around (tag_closing hname) hx hy hm' helement.eq with ⟨q', hq', ha⟩ | ⟨p', hp', hbv⟩
    · exact hv (hcontra b v (q' ++ m ++ y) (by rw [hq']; simp))
    · -- The element goes around the other one, so its content has a bracket.
      have hvalue : v = q ++ m' ++ p' := by
        rw [hq] at hbv
        simpa using hbv
      have hcore := hcontra b (q ++ m ++ p') a (by rw [hq, hp']; simp)
      have hqne : q ≠ [] := by
        rintro rfl
        rw [List.append_nil] at hq
        have hsame : opening tag = opening tag' :=
          (tag_opening hname).suffix_unique (tag_opening hname') (hq ▸ List.suffix_append _ _) hsuffix
        simp only [opening, List.cons.injEq, true_and] at hsame
        exact hne (List.append_cancel_right hsame)
      have hlast : '>' ∈ q := by
        rw [hq, List.getLast?_append_of_ne_nil _ hqne] at hx
        exact List.mem_of_getLast? hx
      have hmem : '>' ∈ core (q ++ m ++ p') := mem_core (by simp [hlast]) not_space_close
      rw [hcore] at hmem
      exact (hnew.plain '>' hmem).2.2 rfl
  · exact hv (hcontra (x ++ m ++ p) v a (by rw [hp]; simp))

end Elements

section Environment

variable {r : Rewrite} {text next : String}

/-- What is known of a rewrite with a supported time zone. -/
structure Rewrite.OK (r : Rewrite) : Prop where
  timezone : Filler r.timezone
  date : Filler r.date

lemma name_timezone : Name timezoneTag := ⟨by decide, by decide⟩

lemma name_date : Name dateTag := ⟨by decide, by decide⟩

lemma isDate_plain {value : List Char} (h : isDate value = true) : '<' ∉ value := by
  unfold isDate at h
  split at h
  · simp only [List.all_cons, List.all_nil, Bool.and_true, Bool.and_eq_true, decide_eq_true_eq] at h
    obtain ⟨⟨ha, hb, hc, hd, he, hf, hg, hh⟩, rfl, rfl⟩ := h
    have hdigit : ∀ c, digit c = true → c ≠ '<' := by
      rintro c hc rfl
      revert hc
      decide
    simp only [List.mem_cons, List.not_mem_nil, or_false, not_or]
    refine ⟨?_, ?_, ?_, ?_, by decide, ?_, ?_, by decide, ?_, ?_⟩
    all_goals exact fun heq => hdigit _ (by assumption) heq.symm
  · cases h

/-- The element has a content without brackets. -/
lemma value_plain {value : List Char} (h : isDate (core value) = true) : '<' ∉ value := by
  intro hmem
  exact isDate_plain h (mem_core hmem not_space_open)

/-- The content of the only element of a name is replaced, or nothing is. -/
def ContentChange (tag : List Char) (replaceable : List Char → Prop) (new text text' : List Char) : Prop :=
  text' = text ∨ ∃ before value after, Element text tag before value after ∧ replaceable (core value) ∧
    text' = filled tag before value after new

/-- A text of the environment in which only the time zone and the date have changed. -/
structure TextChange (r : Rewrite) (text text' : String) : Prop where
  environment : isEnvironmentContext text.toList = true
  change : ∃ mid, ContentChange timezoneTag (fun _ => True) r.timezone text.toList mid ∧
    ContentChange dateTag (fun value => isDate value = true) r.date mid text'.toList

lemma contentChange_of_replace (text : List Char) {tag : List Char} (hname : Name tag) {replace : List Char → List Char × Bool}
    {new : List Char} (hconst : ∀ v, (replace v).1 = new) :
    ContentChange tag (fun value => (replace value).2 = true) new text (replaceRequestLocaleTag text tag replace).1 := by
  by_cases hsame : replaceRequestLocaleTag text tag replace = (text, false)
  · exact .inl (by rw [hsame])
  · obtain ⟨before, value, after, helement⟩ := element_of_replace hname hsame
    rw [replace_of_element hname helement] at hsame ⊢
    split_ifs at hsame ⊢ with hkept
    · exact absurd rfl hsame
    · refine .inr ⟨before, value, after, helement, ?_, by rw [hconst]⟩
      simpa using (not_or.mp hkept).1

lemma environmentContext_some (h : environmentContext r text = some next) :
    isEnvironmentContext text.toList = true ∧ next.toList = (replaceRequestLocaleTag
      (replaceRequestLocaleTag text.toList timezoneTag fun _ => (r.timezone, true)).1 dateTag
        fun value => (r.date, isDate value)).1 := by
  unfold environmentContext at h
  split_ifs at h with henv
  dsimp only at h
  split_ifs at h
  injection h with h
  exact ⟨henv, by rw [← h, String.toList_ofList]⟩

lemma environmentContext_change (h : environmentContext r text = some next) : TextChange r text next := by
  obtain ⟨henv, hnext⟩ := environmentContext_some h
  have hzone : ContentChange timezoneTag (fun _ => True) r.timezone text.toList
      (replaceRequestLocaleTag text.toList timezoneTag fun _ => (r.timezone, true)).1 := by
    rcases contentChange_of_replace text.toList name_timezone fun _ => rfl with hsame | hchange
    · exact .inl hsame
    · obtain ⟨before, value, after, helement, -, hfilled⟩ := hchange
      exact .inr ⟨before, value, after, helement, trivial, hfilled⟩
  refine ⟨henv, _, hzone, ?_⟩
  rw [hnext]
  exact contentChange_of_replace _ name_date fun _ => rfl

/-- Neither of the two replacements changes a text that has been rewritten. -/
lemma replaced_fixed (hr : r.OK) (text : List Char) :
    let next := (replaceRequestLocaleTag text timezoneTag fun _ => (r.timezone, true)).1
    let dated := (replaceRequestLocaleTag next dateTag fun value => (r.date, isDate value)).1
    replaceRequestLocaleTag dated timezoneTag (fun _ => (r.timezone, true)) = (dated, false) ∧
      replaceRequestLocaleTag dated dateTag (fun value => (r.date, isDate value)) = (dated, false) := by
  intro next dated
  have hzone : replaceRequestLocaleTag next timezoneTag (fun _ => (r.timezone, true)) = (next, false) :=
    replace_idempotent name_timezone hr.timezone fun _ => rfl
  refine ⟨?_, replace_idempotent name_date hr.date fun _ => rfl⟩
  have hchange : ContentChange dateTag (fun value => isDate value = true) r.date next dated :=
    contentChange_of_replace _ name_date fun _ => rfl
  rcases hchange with hsame | ⟨before, value, after, helement, hdate, hfilled⟩
  · rw [hsame]
    exact hzone
  · -- The date was replaced in an element without brackets.
    have hplain : '<' ∉ lead value ++ r.date ++ trail value := by
      intro hmem
      have hcore := mem_core hmem not_space_open
      rw [hr.date.core] at hcore
      exact (hr.date.plain '<' hcore).2.1 rfl
    have hold : next = before ++ opening dateTag ++ value ++ (closing dateTag ++ after) := by rw [helement.eq]; simp
    have hdated : dated = before ++ opening dateTag ++ (lead value ++ r.date ++ trail value) ++ (closing dateTag ++ after) := by
      rw [hfilled, filled]
      simp
    rw [hold] at hzone
    rw [hdated]
    exact replace_around name_timezone name_date (by decide) hr.timezone (value_plain hdate) hplain hzone

lemma environmentContext_idempotent (hr : r.OK) (h : environmentContext r text = some next) :
    environmentContext r next = none := by
  obtain ⟨-, hnext⟩ := environmentContext_some h
  obtain ⟨hzone, hdate⟩ := replaced_fixed hr text.toList
  rw [← hnext] at hzone hdate
  unfold environmentContext
  rw [hzone]
  dsimp only
  rw [hdate]
  simp

lemma environmentContext_empty (r : Rewrite) : environmentContext r "" = none := by
  unfold environmentContext
  rw [if_neg (by decide)]

end Environment

section Frame

variable {r : Rewrite}

/-- A part of the type `input_text` with a text of the environment. -/
def PartChange (r : Rewrite) (v v' : Value) : Prop :=
  v' = v ∨ ∃ part text text', v = .object part ∧ Members.get part "type" = some (.string "input_text") ∧
    Members.get part "text" = some (.string text) ∧ TextChange r text text' ∧
    v' = .object (Members.set part "text" (.string text'))

/-- The content of a user message: a text of the environment, or parts. -/
def MessageChange (r : Rewrite) (v v' : Value) : Prop :=
  v' = v ∨ (∃ text text', v = .string text ∧ v' = .string text' ∧ TextChange r text text') ∨
    ∃ parts parts', v = .array parts ∧ v' = .array parts' ∧ List.Forall₂ (PartChange r) parts parts'

def ItemChange (r : Rewrite) (v v' : Value) : Prop :=
  v' = v ∨ ∃ message c c', v = .object message ∧ Members.get message "role" = some (.string "user") ∧
    Members.get message "content" = some c ∧ MessageChange r c c' ∧ v' = .object (Members.set message "content" c')

/-- The time zone of the location of a search tool. -/
def ToolChange (r : Rewrite) (v v' : Value) : Prop :=
  v' = v ∨ ∃ tool location toolType, v = .object tool ∧ Members.get tool "type" = some (.string toolType) ∧
    toolType.startsWith "web_search" = true ∧ Members.get tool "user_location" = some (.object location) ∧
    v' = .object (Members.set tool "user_location"
      (.object (Members.set location "timezone" (.string (String.ofList r.timezone)))))

def ArrayChange (R : Value → Value → Prop) (v v' : Option Value) : Prop :=
  v' = v ∨ ∃ items items', v = some (.array items) ∧ v' = some (.array items') ∧ List.Forall₂ R items items'

/-- Two payloads that differ in the locale only. -/
structure LocaleChange (r : Rewrite) (payload payload' : Members) : Prop where
  others : ∀ key, key ≠ "input" → key ≠ "tools" → payload'.get key = payload.get key
  input : ArrayChange (ItemChange r) (payload.get "input") (payload'.get "input")
  tools : ArrayChange (ToolChange r) (payload.get "tools") (payload'.get "tools")

/-- The text that the loop over the parts has decoded last. -/
def lastText : String → List Value → String
  | text, [] => text
  | text, value :: parts =>
    match partText text value with
    | none => lastText text parts
    | some (_, text) => lastText text parts

/-- A part whose text is null, after a text that would be rewritten. -/
def StaleNull (r : Rewrite) (text : String) (parts : List Value) : Prop :=
  ∃ before value after part, parts = before ++ value :: after ∧ value = .object part ∧
    Members.get part "type" = some (.string "input_text") ∧ Members.get part "text" = some .null ∧
    environmentContext r (lastText text before) ≠ none

/-- No message of the input has such a part. -/
def Fresh (r : Rewrite) (payload : Members) : Prop :=
  ∀ items message parts, payload.get "input" = some (.array items) → .object message ∈ items →
    Members.get message "role" = some (.string "user") → Members.get message "content" = some (.array parts) →
      ¬ StaleNull r "" parts

/-- What `partText` decodes. -/
lemma partText_some {text text' : String} {value : Value} {part : Members} (h : partText text value = some (part, text')) :
    value = .object part ∧ Members.get part "type" = some (.string "input_text") ∧
      (Members.get part "text" = some (.string text') ∨ Members.get part "text" = some .null ∧ text' = text) := by
  unfold partText at h
  split at h
  · split at h
    next htype =>
      split at h
      next hs =>
        cases h
        exact ⟨rfl, htype, .inl hs⟩
      next hnull =>
        cases h
        exact ⟨rfl, htype, .inr ⟨hnull, rfl⟩⟩
      · cases h
    · cases h
  · cases h

lemma partText_null {text : String} {part : Members} (htype : Members.get part "type" = some (.string "input_text"))
    (hnull : Members.get part "text" = some .null) : partText text (.object part) = some (part, text) := by
  simp [partText, htype, hnull]

/-- The parts are changed as they should be when no null stands behind a text that is rewritten. -/
lemma rewriteParts_change {text : String} {parts : List Value} (h : ¬ StaleNull r text parts) :
    List.Forall₂ (PartChange r) parts (rewriteParts r text parts).1 := by
  induction parts generalizing text with
  | nil => exact .nil
  | cons value parts ih =>
    -- A null behind the first part is one of the whole list.
    have hrest : ∀ text', lastText text [value] = text' → ¬ StaleNull r text' parts := by
      rintro text' rfl ⟨before, v, after, part, hparts, hv, htype, hnull, hne⟩
      refine h ⟨value :: before, v, after, part, by rw [hparts]; rfl, hv, htype, hnull, ?_⟩
      have hlast : lastText text (value :: before) = lastText (lastText text [value]) before := by
        simp only [lastText]
        cases partText text value <;> rfl
      rwa [hlast]
    cases hpart : partText text value with
    | none =>
      have hlast : lastText text [value] = text := by simp [lastText, hpart]
      rw [rewriteParts, hpart]
      exact .cons (.inl rfl) (ih (hrest text hlast))
    | some decoded =>
      obtain ⟨part, text'⟩ := decoded
      obtain ⟨hvalue, htype, htext⟩ := partText_some hpart
      have hlast : lastText text [value] = text' := by simp [lastText, hpart]
      cases henv : environmentContext r text' with
      | none =>
        simp only [rewriteParts, hpart, henv]
        exact .cons (.inl rfl) (ih (hrest text' hlast))
      | some next =>
        simp only [rewriteParts, hpart, henv]
        refine .cons (.inr ?_) (ih (hrest text' hlast))
        rcases htext with hstring | ⟨hnull, rfl⟩
        · exact ⟨part, text', next, hvalue, htype, hstring, environmentContext_change henv, rfl⟩
        · refine absurd ⟨[], value, parts, part, rfl, hvalue, htype, hnull, ?_⟩ h
          rw [lastText, henv]
          simp

/-- A null behind a text that is rewritten becomes that text. -/
lemma rewriteParts_stale {text : String} {parts : List Value} (h : StaleNull r text parts) :
    (rewriteParts r text parts).2 = true ∧ ¬ List.Forall₂ (PartChange r) parts (rewriteParts r text parts).1 := by
  obtain ⟨before, value, after, part, rfl, rfl, htype, hnull, hne⟩ := h
  induction before generalizing text with
  | nil =>
    obtain ⟨next, henv⟩ := Option.ne_none_iff_exists'.mp hne
    simp only [lastText] at henv
    simp only [List.nil_append, rewriteParts, partText_null htype hnull, henv, List.forall₂_cons, true_and]
    rintro ⟨hchange, -⟩
    have hget : Members.get (Members.set part "text" (.string next)) "text" = some (.string next) := by
      rw [Members.get_set, if_pos rfl]
    rcases hchange with hsame | ⟨part', text', next', hpart, -, hstring, -⟩
    · injection hsame with hsame
      rw [hsame, hnull] at hget
      cases hget
    · injection hpart with hpart
      rw [← hpart, hnull] at hstring
      cases hstring
  | cons value before ih =>
    have hlast : lastText text (value :: before) = lastText (lastText text [value]) before := by
      simp only [lastText]
      cases partText text value <;> rfl
    rw [hlast] at hne
    obtain ⟨hchanged, hnot⟩ := ih hne
    have hloop : ∃ v', rewriteParts r text (value :: (before ++ .object part :: after)) =
        (v' :: (rewriteParts r (lastText text [value]) (before ++ .object part :: after)).1, true) := by
      cases hpart : partText text value with
      | none =>
        refine ⟨value, ?_⟩
        simp only [rewriteParts, lastText, hpart]
        simp only [lastText, hpart] at hchanged
        rw [hchanged]
      | some decoded =>
        obtain ⟨members, text'⟩ := decoded
        simp only [lastText, hpart] at hchanged ⊢
        cases henv : environmentContext r text' with
        | none =>
          refine ⟨value, ?_⟩
          simp only [rewriteParts, hpart, henv]
          rw [hchanged]
        | some next =>
          exact ⟨.object (Members.set members "text" (.string next)), by simp only [rewriteParts, hpart, henv]⟩
    obtain ⟨v', hloop⟩ := hloop
    rw [List.cons_append, hloop]
    refine ⟨rfl, fun hall => hnot ?_⟩
    exact (List.forall₂_cons.mp hall).2

lemma content_change {c c' : Value} (h : content r (some c) = some c')
    (hfresh : ∀ parts, c = .array parts → ¬ StaleNull r "" parts) : MessageChange r c c' := by
  cases c with
  | string text =>
    obtain ⟨next, hnext, rfl⟩ := Option.map_eq_some_iff.mp h
    exact .inr (.inl ⟨text, next, rfl, rfl, environmentContext_change hnext⟩)
  | null =>
    simp [content, environmentContext_empty] at h
  | array parts =>
    simp only [content] at h
    split_ifs at h
    cases h
    exact .inr (.inr ⟨parts, _, rfl, rfl, rewriteParts_change (hfresh parts rfl)⟩)
  | bool _ => cases h
  | number _ => cases h
  | object _ => cases h

/-- What is rewritten in an item of the input. -/
lemma rewriteItem_some {v v' : Value} (h : rewriteItem r v = some v') : ∃ message c c', v = .object message ∧
    Members.get message "role" = some (.string "user") ∧ Members.get message "content" = some c ∧
    content r (some c) = some c' ∧ v' = .object (Members.set message "content" c') := by
  unfold rewriteItem at h
  split at h
  · next message =>
    split at h
    · next hrole =>
      obtain ⟨c', hc, rfl⟩ := Option.map_eq_some_iff.mp h
      cases hcontent : Members.get message "content" with
      | none =>
        rw [hcontent] at hc
        cases hc
      | some c =>
        rw [hcontent] at hc
        exact ⟨message, c, c', rfl, hrole, hcontent, hc, rfl⟩
    · cases h
  · cases h

lemma rewriteItem_user {message : Members} {c : Value} (hrole : Members.get message "role" = some (.string "user"))
    (hcontent : Members.get message "content" = some c) : rewriteItem r (.object message) =
      (content r (some c)).map fun c => .object (Members.set message "content" c) := by
  simp [rewriteItem, hrole, hcontent]

lemma rewriteItem_change {v : Value} (hfresh : ∀ message parts, v = .object message →
    Members.get message "role" = some (.string "user") → Members.get message "content" = some (.array parts) →
      ¬ StaleNull r "" parts) : ItemChange r v ((rewriteItem r v).getD v) := by
  cases h : rewriteItem r v with
  | none => exact .inl rfl
  | some v' =>
    obtain ⟨message, c, c', rfl, hrole, hcontent, hc, rfl⟩ := rewriteItem_some h
    refine .inr ⟨message, c, c', rfl, hrole, hcontent, content_change hc ?_, rfl⟩
    rintro parts rfl
    exact hfresh message parts rfl hrole hcontent

/-- A message with such a null is changed in a way that it should not. -/
lemma rewriteItem_stale {message : Members} {parts : List Value}
    (hrole : Members.get message "role" = some (.string "user"))
    (hcontent : Members.get message "content" = some (.array parts)) (hstale : StaleNull r "" parts) :
    ∃ v', rewriteItem r (.object message) = some v' ∧ ¬ ItemChange r (.object message) v' := by
  obtain ⟨hchanged, hnot⟩ := rewriteParts_stale hstale
  refine ⟨.object (Members.set message "content" (.array (rewriteParts r "" parts).1)), ?_, ?_⟩
  · rw [rewriteItem_user hrole hcontent]
    simp [content, hchanged]
  have hget : Members.get (Members.set message "content" (.array (rewriteParts r "" parts).1)) "content" =
      some (.array (rewriteParts r "" parts).1) := by
    rw [Members.get_set, if_pos rfl]
  -- The parts of the changed message are not those that a change may leave.
  have hkept : (rewriteParts r "" parts).1 ≠ parts := by
    intro hsame
    rw [hsame] at hnot
    exact hnot (List.forall₂_same.mpr fun _ _ => .inl rfl)
  rintro (hsame | ⟨message', c, c', hmessage, -, hcontent', hchange, hset⟩)
  · injection hsame with hsame
    rw [hsame, hcontent] at hget
    injection hget with hget
    injection hget with hget
    exact hkept hget.symm
  · injection hmessage with hmessage
    subst hmessage
    have hc : c = .array parts := by
      rw [hcontent] at hcontent'
      injection hcontent' with hcontent'
      exact hcontent'.symm
    have hc' : c' = .array (rewriteParts r "" parts).1 := by
      injection hset with hset
      rw [hset, Members.get_set, if_pos rfl] at hget
      injection hget
    subst hc hc'
    rcases hchange with hsame | ⟨text, text', htext, -⟩ | ⟨parts', out, hparts, hout, hall⟩
    · injection hsame with hsame
      exact hkept hsame
    · cases htext
    · injection hparts with hparts
      injection hout with hout
      subst hparts hout
      exact hnot hall

/-- What is rewritten in a tool. -/
lemma rewriteTool_some {v v' : Value} (h : rewriteTool r v = some v') : ∃ tool location toolType, v = .object tool ∧
    Members.get tool "type" = some (.string toolType) ∧ toolType.startsWith "web_search" = true ∧
    Members.get tool "user_location" = some (.object location) ∧
    v' = .object (Members.set tool "user_location"
      (.object (Members.set location "timezone" (.string (String.ofList r.timezone))))) := by
  unfold rewriteTool at h
  split at h
  · next tool =>
    split at h
    · next toolType location htype hlocation =>
      split_ifs at h with hsearch
      split at h
      · split_ifs at h
        cases h
        exact ⟨tool, location, toolType, rfl, htype, hsearch, hlocation, rfl⟩
      · cases h
        exact ⟨tool, location, toolType, rfl, htype, hsearch, hlocation, rfl⟩
    · cases h
  · cases h

lemma rewriteTool_done {tool location : Members} {toolType : String}
    (htype : Members.get tool "type" = some (.string toolType))
    (hlocation : Members.get tool "user_location" = some (.object location))
    (hzone : Members.get location "timezone" = some (.string (String.ofList r.timezone))) :
    rewriteTool r (.object tool) = none := by
  rw [rewriteTool, htype, hlocation]
  dsimp only
  rw [hzone]
  dsimp only
  rw [if_pos rfl, ite_self]

/-- The loop over an array changes each item as the function does. -/
lemma rewriteArray_change {f : Value → Option Value} {R : Value → Value → Prop} {v : Option Value}
    (h : ∀ items, v = some (.array items) → ∀ item ∈ items, R item ((f item).getD item)) :
    ArrayChange R v ((rewriteArray f v).or v) := by
  unfold rewriteArray
  split
  · next items =>
    split_ifs
    · refine .inr ⟨items, items.map fun v => (f v).getD v, rfl, rfl, ?_⟩
      rw [List.forall₂_map_right_iff, List.forall₂_same]
      exact h items rfl
    · exact .inl rfl
  · exact .inl rfl

lemma get_setChanged (m : Members) (key key' : String) (v : Option Value) :
    Members.get (setChanged m key v) key' = if key' = key then v.or (m.get key) else m.get key' := by
  cases v with
  | none =>
    simp only [setChanged, Option.none_or]
    split_ifs with h
    · rw [h]
    · rfl
  | some v => simp only [setChanged, Members.get_set, Option.some_or]

/-- The payload after the rewrite, also when it is sent as it was. -/
def Result.payload (sent : Members) : Result → Members
  | .verbatim => sent
  | .encoded m => m

lemma payload_get (r : Rewrite) (payload : Members) (key : String) :
    ((rewritePayload r payload).payload payload).get key =
      if key = "tools" then (rewriteArray (rewriteTool r) (payload.get "tools")).or (payload.get "tools")
      else if key = "input" then (rewriteArray (rewriteItem r) (payload.get "input")).or (payload.get "input")
      else payload.get key := by
  unfold rewritePayload
  dsimp only
  split_ifs with hchanged htools hinput hkey hkey
  · rw [Result.payload, htools, get_setChanged, if_pos rfl, get_setChanged, if_neg (by decide)]
  · rw [Result.payload, hinput, get_setChanged, if_neg (by decide), get_setChanged, if_pos rfl]
  · rw [Result.payload, get_setChanged, if_neg htools, get_setChanged, if_neg hinput]
  · rw [Bool.or_eq_true, not_or, Option.not_isSome_iff_eq_none, Option.not_isSome_iff_eq_none] at hchanged
    rw [hchanged.2, hkey]
    rfl
  · rw [Bool.or_eq_true, not_or, Option.not_isSome_iff_eq_none, Option.not_isSome_iff_eq_none] at hchanged
    rw [hchanged.1, hkey]
    rfl
  · rfl

/-- The payload differs in the locale only, unless a null stands behind a text that is rewritten. -/
lemma localeChange_iff (r : Rewrite) (payload : Members) :
    LocaleChange r payload ((rewritePayload r payload).payload payload) ↔ Fresh r payload := by
  have hinput := payload_get r payload "input"
  have htools := payload_get r payload "tools"
  rw [if_neg (by decide), if_pos rfl] at hinput
  rw [if_pos rfl] at htools
  constructor
  · intro hchange items message parts hitems hmem hrole hcontent hstale
    obtain ⟨v', hv', hnot⟩ := rewriteItem_stale hrole hcontent hstale
    have hany : (items.any fun v => (rewriteItem r v).isSome) = true :=
      List.any_eq_true.mpr ⟨_, hmem, by rw [hv']; rfl⟩
    have hrewritten : rewriteArray (rewriteItem r) (payload.get "input") =
        some (.array (items.map fun v => (rewriteItem r v).getD v)) := by
      rw [hitems, rewriteArray, if_pos hany]
    -- The item of the message is changed, whatever the whole change is.
    have hall : List.Forall₂ (ItemChange r) items (items.map fun v => (rewriteItem r v).getD v) := by
      have hfield := hchange.input
      rw [hinput, hrewritten, Option.some_or, hitems] at hfield
      rcases hfield with hsame | ⟨items₁, items₂, h₁, h₂, hall⟩
      · injection hsame with hsame
        injection hsame with hsame
        rw [hsame]
        exact List.forall₂_same.mpr fun _ _ => .inl rfl
      · injection h₁ with h₁
        injection h₁ with h₁
        injection h₂ with h₂
        injection h₂ with h₂
        rw [h₁] at h₂ ⊢
        rw [h₂]
        exact hall
    rw [List.forall₂_map_right_iff, List.forall₂_same] at hall
    have hitem := hall _ hmem
    rw [hv'] at hitem
    exact hnot hitem
  · intro hfresh
    refine ⟨?_, ?_, ?_⟩
    · intro key hkey hkey'
      rw [payload_get, if_neg hkey', if_neg hkey]
    · rw [hinput]
      refine rewriteArray_change fun items hitems item hmem => rewriteItem_change ?_
      rintro message parts rfl hrole hcontent
      exact hfresh items message parts hitems hmem hrole hcontent
    · rw [htools]
      refine rewriteArray_change fun items _ item _ => ?_
      cases h : rewriteTool r item with
      | none => exact .inl rfl
      | some v' => exact .inr (rewriteTool_some h)

end Frame

section Idempotence

variable {r : Rewrite}

lemma partText_none {text text' : String} {value : Value} (h : partText text value = none) : partText text' value = none := by
  unfold partText at h ⊢
  split at h
  · split at h
    · split at h
      · cases h
      · cases h
      · rfl
    · rfl
  · rfl

/-- A second pass over the parts finds nothing to change. -/
lemma rewriteParts_idempotent (hr : r.OK) {text' : String} (htext' : environmentContext r text' = none) (text : String)
    (parts : List Value) : (rewriteParts r text' (rewriteParts r text parts).1).2 = false := by
  induction parts generalizing text text' with
  | nil => rfl
  | cons value parts ih =>
    cases hpart : partText text value with
    | none =>
      simp only [rewriteParts, hpart, partText_none hpart]
      exact ih htext' text
    | some decoded =>
      obtain ⟨part, decodedText⟩ := decoded
      obtain ⟨rfl, htype, htext⟩ := partText_some hpart
      cases henv : environmentContext r decodedText with
      | none =>
        simp only [rewriteParts, hpart, henv]
        rcases htext with hstring | ⟨hnull, rfl⟩
        · have hagain : partText text' (.object part) = some (part, decodedText) := by simp [partText, htype, hstring]
          simp only [hagain, henv]
          exact ih henv decodedText
        · simp only [partText_null htype hnull, htext']
          exact ih htext' decodedText
      | some next =>
        have hfixed := environmentContext_idempotent hr henv
        have hagain : partText text' (.object (Members.set part "text" (.string next))) =
            some (Members.set part "text" (.string next), next) := by
          simp [partText, Members.get_set, htype]
        simp only [rewriteParts, hpart, henv, hagain, hfixed]
        exact ih hfixed decodedText

lemma content_idempotent (hr : r.OK) {c c' : Value} (h : content r (some c) = some c') : content r (some c') = none := by
  cases c with
  | string text =>
    obtain ⟨next, hnext, rfl⟩ := Option.map_eq_some_iff.mp h
    simp [content, environmentContext_idempotent hr hnext]
  | null => simp [content, environmentContext_empty] at h
  | array parts =>
    simp only [content] at h
    split_ifs at h
    cases h
    simp [content, rewriteParts_idempotent hr (environmentContext_empty r)]
  | bool _ => cases h
  | number _ => cases h
  | object _ => cases h

lemma rewriteItem_idempotent (hr : r.OK) {v v' : Value} (h : rewriteItem r v = some v') : rewriteItem r v' = none := by
  obtain ⟨message, c, c', rfl, hrole, hcontent, hc, rfl⟩ := rewriteItem_some h
  have hrole' : Members.get (Members.set message "content" c') "role" = some (.string "user") := by
    rw [Members.get_set, if_neg (by decide), hrole]
  have hcontent' : Members.get (Members.set message "content" c') "content" = some c' := by
    rw [Members.get_set, if_pos rfl]
  rw [rewriteItem_user hrole' hcontent', content_idempotent hr hc]
  rfl

lemma rewriteTool_idempotent {v v' : Value} (h : rewriteTool r v = some v') : rewriteTool r v' = none := by
  obtain ⟨tool, location, toolType, rfl, htype, hsearch, hlocation, rfl⟩ := rewriteTool_some h
  apply rewriteTool_done
  · rw [Members.get_set, if_neg (by decide), htype]
  · rw [Members.get_set, if_pos rfl]
  · rw [Members.get_set, if_pos rfl]

lemma rewriteArray_idempotent {f : Value → Option Value} (hf : ∀ v v', f v = some v' → f v' = none) (v : Option Value) :
    rewriteArray f ((rewriteArray f v).or v) = none := by
  cases h : rewriteArray f v with
  | none =>
    rw [Option.none_or]
    exact h
  | some v' =>
    rw [Option.some_or]
    unfold rewriteArray at h
    split at h
    · next items =>
      split_ifs at h
      cases h
      rw [rewriteArray, if_neg]
      rw [List.any_map, List.any_eq_true]
      rintro ⟨item, -, hitem⟩
      simp only [Function.comp_apply] at hitem
      cases hfirst : f item with
      | none =>
        rw [hfirst, Option.getD_none, hfirst] at hitem
        cases hitem
      | some item' =>
        rw [hfirst, Option.getD_some, hf item item' hfirst] at hitem
        cases hitem
    · cases h

lemma rewritePayload_idempotent (hr : r.OK) (payload : Members) :
    rewritePayload r ((rewritePayload r payload).payload payload) = .verbatim := by
  have hinput := payload_get r payload "input"
  have htools := payload_get r payload "tools"
  rw [if_neg (by decide), if_pos rfl] at hinput
  rw [if_pos rfl] at htools
  conv_lhs => rw [rewritePayload]
  rw [hinput, htools, rewriteArray_idempotent fun _ _ => rewriteItem_idempotent hr,
    rewriteArray_idempotent fun _ _ => rewriteTool_idempotent]
  rfl

end Idempotence

section Main

variable {today : String → Date} {timezone : String} {payload : Members}

/-- The rewrite for a time zone at the time of the call. -/
def rewriteFor (today : String → Date) (timezone : String) : Rewrite := ⟨timezone.toList, (today timezone).format⟩

lemma digitChar_plain (d : ℕ) : isSpace (digitChar d) = false ∧ digitChar d ≠ '<' ∧ digitChar d ≠ '>' := by
  have hlt : d % 10 < 10 := Nat.mod_lt _ (by norm_num)
  unfold digitChar
  generalize d % 10 = n at hlt
  interval_cases n <;> decide

lemma padded_plain (width n : ℕ) : ∀ c ∈ padded width n, isSpace c = false ∧ c ≠ '<' ∧ c ≠ '>' := by
  intro c hc
  simp only [padded, List.mem_append, List.mem_reverse, List.mem_map] at hc
  rcases hc with hc | ⟨d, -, rfl⟩
  · rw [List.eq_of_mem_replicate hc]
    decide
  · exact digitChar_plain d

lemma filler_date (d : Date) : Filler d.format := by
  have hdash : isSpace '-' = false ∧ '-' ≠ '<' ∧ '-' ≠ '>' := by decide
  refine ⟨by simp [Date.format], ?_⟩
  intro c hc
  simp only [Date.format, List.mem_append, List.mem_singleton] at hc
  rcases hc with ((((hsign | hyear) | rfl) | hmonth) | rfl) | hday
  · split_ifs at hsign
    · rw [List.mem_singleton.mp hsign]
      exact hdash
    · cases hsign
  · exact padded_plain _ _ c hyear
  · exact hdash
  · exact padded_plain _ _ c hmonth
  · exact hdash
  · exact padded_plain _ _ c hday

lemma filler_timezone (h : timezone ∈ requestTimezones) : Filler timezone.toList := by
  have hall : (requestTimezones.all fun z =>
      !z.toList.isEmpty && z.toList.all fun c => !isSpace c && c != '<' && c != '>') = true := by
    decide
  have hzone := List.all_eq_true.mp hall timezone h
  simp only [Bool.and_eq_true, Bool.not_eq_true', List.isEmpty_eq_false_iff, List.all_eq_true, bne_iff_ne] at hzone
  exact ⟨hzone.1, fun c hc => ⟨(hzone.2 c hc).1.1, (hzone.2 c hc).1.2, (hzone.2 c hc).2⟩⟩

lemma rewriteFor_ok (today : String → Date) (h : timezone ∈ requestTimezones) : (rewriteFor today timezone).OK :=
  ⟨filler_timezone h, filler_date _⟩

lemma rewriteRequestLocale_object (today : String → Date) (h : timezone ∈ requestTimezones) (payload : Members) :
    rewriteRequestLocale today (.object payload) timezone = .ok (rewritePayload (rewriteFor today timezone) payload) := by
  have hne : timezone ≠ "" := by
    rintro rfl
    exact absurd h (by decide)
  rw [rewriteRequestLocale, if_neg hne, if_neg (not_not.mpr h)]
  rfl

/-- A supported time zone is written into a request and nothing else is changed, and a second pass changes nothing,
exactly when no null text of a part stands behind a text that is rewritten. -/
theorem locale_rewrite_touches_only_locale (today : String → Date) (h : timezone ∈ requestTimezones) (payload : Members) :
    (∃ result, rewriteRequestLocale today (.object payload) timezone = .ok result ∧
      LocaleChange (rewriteFor today timezone) payload (result.payload payload) ∧
      rewriteRequestLocale today (.object (result.payload payload)) timezone = .ok .verbatim) ↔
      Fresh (rewriteFor today timezone) payload := by
  have hagain := rewritePayload_idempotent (rewriteFor_ok today h) payload
  rw [rewriteRequestLocale_object today h payload, ← localeChange_iff]
  constructor
  · rintro ⟨result, hresult, hchange, -⟩
    cases hresult
    exact hchange
  · intro hchange
    refine ⟨_, rfl, hchange, ?_⟩
    rw [rewriteRequestLocale_object today h, hagain]

/-- A message whose text is the environment. -/
def environmentMessage : Members :=
  [("input", .array [.object [("role", .string "user"),
    ("content", .string "<environment_context><timezone>UTC</timezone></environment_context>")]])]

theorem locale_rewrite_of_environmentMessage : "Asia/Tokyo" ∈ requestTimezones ∧ ∃ result,
    rewriteRequestLocale (fun _ => ⟨2026, 1, 31⟩) (.object environmentMessage) "Asia/Tokyo" = .ok result ∧
      LocaleChange (rewriteFor (fun _ => ⟨2026, 1, 31⟩) "Asia/Tokyo") environmentMessage (result.payload environmentMessage) ∧
      rewriteRequestLocale (fun _ => ⟨2026, 1, 31⟩) (.object (result.payload environmentMessage)) "Asia/Tokyo" =
        .ok .verbatim := by
  refine ⟨by decide, (locale_rewrite_touches_only_locale _ (by decide) environmentMessage).mpr ?_⟩
  intro items message parts hitems hmem hrole hcontent
  cases hitems
  cases List.mem_singleton.mp hmem
  cases hcontent

/-- The second part has no text of its own. -/
def nullPartMessage : Members :=
  [("input", .array [.object [("role", .string "user"), ("content", .array [
    .object [("type", .string "input_text"),
      ("text", .string "<environment_context><timezone>UTC</timezone></environment_context>")],
    .object [("type", .string "input_text"), ("text", .null)]])]])]

lemma nullPartMessage_stale : ¬ Fresh (rewriteFor (fun _ => ⟨2026, 1, 31⟩) "Asia/Tokyo") nullPartMessage := by
  intro hfresh
  refine hfresh _ _ _ rfl (List.mem_singleton_self _) rfl rfl ?_
  refine ⟨[_], _, [], _, rfl, rfl, rfl, rfl, ?_⟩
  decide

/-- The environment is written into a part that has none. -/
theorem locale_rewrite_of_nullPartMessage : "Asia/Tokyo" ∈ requestTimezones ∧ ∃ result,
    rewriteRequestLocale (fun _ => ⟨2026, 1, 31⟩) (.object nullPartMessage) "Asia/Tokyo" = .ok result ∧
      ¬ LocaleChange (rewriteFor (fun _ => ⟨2026, 1, 31⟩) "Asia/Tokyo") nullPartMessage (result.payload nullPartMessage) := by
  refine ⟨by decide, _, rewriteRequestLocale_object _ (by decide) nullPartMessage, ?_⟩
  rw [localeChange_iff]
  exact nullPartMessage_stale

end Main

end ShareSub.RequestLocale

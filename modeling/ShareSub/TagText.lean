import Mathlib

/-!
# Tags in texts

A tag is a text between angle brackets. Two tags never overlap, so a text splits at its tags: an occurrence of a tag in
two texts after each other is in one of them when the first ends or the second starts at a tag.
-/
namespace ShareSub.TagText

section Search

/-- The number of occurrences of a pattern that do not overlap, after the given number of characters. -/
def countAfter (pat : List Char) : ℕ → List Char → ℕ
  | _, [] => 0
  | 0, c :: l => if pat <+: c :: l then 1 + countAfter pat (pat.length - 1) l else countAfter pat 0 l
  | skip + 1, _ :: l => countAfter pat skip l

/-- `strings.Count`, for a pattern that is not empty. -/
def count (pat l : List Char) : ℕ := countAfter pat 0 l

/-- `strings.Index`. -/
def index (pat : List Char) : List Char → Option ℕ
  | [] => if pat = [] then some 0 else none
  | c :: l => if pat <+: c :: l then some 0 else (index pat l).map (· + 1)

/-- The occurrences of a pattern, counted at every place. -/
def occurrences (pat : List Char) : List Char → ℕ
  | [] => 0
  | c :: l => (if pat <+: c :: l then 1 else 0) + occurrences pat l

end Search

section Tags

variable {pat l m x y p q : List Char}

structure Tag (pat : List Char) : Prop where
  start : pat.head? = some '<'
  stop : pat.getLast? = some '>'
  tail : '<' ∉ pat.tail
  init : '>' ∉ pat.dropLast

lemma Tag.ne_nil (h : Tag pat) : pat ≠ [] := by
  rintro rfl
  simpa using h.start

lemma Tag.eq_cons (h : Tag pat) : ∃ rest, pat = '<' :: rest ∧ '<' ∉ rest := by
  cases pat with
  | nil => exact absurd rfl h.ne_nil
  | cons c rest =>
    have hc : c = '<' := by simpa using h.start
    exact ⟨rest, by rw [hc], by simpa using h.tail⟩

lemma not_prefix_of_head_ne (h : Tag pat) {c : Char} (hc : c ≠ '<') : ¬ pat <+: c :: l := by
  obtain ⟨rest, rfl, -⟩ := h.eq_cons
  rintro ⟨q, hq⟩
  simp only [List.cons_append, List.cons.injEq] at hq
  exact hc hq.1.symm

lemma countAfter_eq (h : Tag pat) (l : List Char) (skip : ℕ) (hskip : '<' ∉ l.take skip) :
    countAfter pat skip l = occurrences pat l := by
  induction l generalizing skip with
  | nil => cases skip <;> rfl
  | cons c l ih =>
    cases skip with
    | zero =>
      rw [countAfter, occurrences]
      split_ifs with hpre
      · rw [ih]
        -- The rest of the occurrence has no other start of a tag.
        obtain ⟨rest, rfl, hrest⟩ := h.eq_cons
        obtain ⟨q, hq⟩ := hpre
        simp only [List.cons_append, List.cons.injEq] at hq
        rw [← hq.2]
        simpa using hrest
      · rw [ih 0 (by simp), Nat.zero_add]
    | succ skip =>
      simp only [List.take_succ_cons, List.mem_cons, not_or] at hskip
      rw [countAfter, occurrences, if_neg (not_prefix_of_head_ne h (Ne.symm hskip.1)), Nat.zero_add, ih skip hskip.2]

lemma count_eq (h : Tag pat) (l : List Char) : count pat l = occurrences pat l := countAfter_eq h l 0 (by simp)

lemma occurrences_eq_zero (h : Tag pat) (hl : '<' ∉ l) : occurrences pat l = 0 := by
  induction l with
  | nil => rfl
  | cons c l ih =>
    simp only [List.mem_cons, not_or] at hl
    rw [occurrences, if_neg (not_prefix_of_head_ne h (Ne.symm hl.1)), ih hl.2]

/-- The first text ends with a tag, or the second starts with one. -/
def Seam (x y : List Char) : Prop := x.getLast? = some '>' ∨ y.head? = some '<'

lemma Seam.of_cons {c : Char} (h : Seam (c :: x) y) (hx : x ≠ []) : Seam x y := by
  refine h.imp_left fun hlast => ?_
  rwa [List.getLast?_cons_of_ne_nil hx] at hlast

/-- A tag does not go over a seam. -/
lemma Seam.cross (hseam : Seam x y) (h : Tag (p ++ q)) (hp : p <:+ x) (hq : q <+: y) : p = [] ∨ q = [] := by
  by_contra hne
  obtain ⟨hpne, hqne⟩ := not_or.mp hne
  rcases hseam with hlast | hhead
  · obtain ⟨x', rfl⟩ := hp
    rw [List.getLast?_append_of_ne_nil _ hpne] at hlast
    have hmem : '>' ∈ (p ++ q).dropLast := by
      rw [List.dropLast_append_of_ne_nil hqne]
      exact List.mem_append_left _ (List.mem_of_getLast? hlast)
    exact h.init hmem
  · obtain ⟨y', rfl⟩ := hq
    obtain ⟨c, q', rfl⟩ := List.exists_cons_of_ne_nil hqne
    have hc : c = '<' := by simpa using hhead
    obtain ⟨d, p', rfl⟩ := List.exists_cons_of_ne_nil hpne
    refine h.tail ?_
    simp [hc]

/-- An occurrence of a tag is on one side of a seam. -/
lemma Seam.locate (hseam : Seam x y) (h : Tag pat) (heq : x ++ y = p ++ pat ++ q) :
    (∃ q', x = p ++ pat ++ q' ∧ q = q' ++ y) ∨ ∃ p', y = p' ++ pat ++ q ∧ p = x ++ p' := by
  rw [List.append_assoc] at heq
  rcases List.append_eq_append_iff.mp heq with ⟨p', hp, hy⟩ | ⟨x', hx, hrest⟩
  · exact .inr ⟨p', by rw [hy, List.append_assoc], hp⟩
  · rcases List.append_eq_append_iff.mp hrest with ⟨q', hx', hq⟩ | ⟨y', hpat, hq⟩
    · exact .inl ⟨q', by rw [hx, hx', List.append_assoc], hq⟩
    · -- The tag goes over the seam, so one part of it is empty.
      subst hpat
      rcases hseam.cross h ⟨p, hx.symm⟩ ⟨q, hq.symm⟩ with rfl | rfl
      · exact .inr ⟨[], by simpa using hq, by simpa using hx.symm⟩
      · exact .inl ⟨[], by simpa using hx, by simpa using hq.symm⟩

lemma prefix_append_iff (hseam : Seam x y) (h : Tag pat) (hx : x ≠ []) : pat <+: x ++ y ↔ pat <+: x := by
  constructor
  · rintro ⟨q, hq⟩
    rcases hseam.locate h (p := []) (q := q) (by simpa using hq.symm) with ⟨q', hleft, -⟩ | ⟨p', -, hright⟩
    · exact ⟨q', by simpa using hleft.symm⟩
    · exact absurd (List.append_eq_nil_iff.mp hright.symm).1 hx
  · rintro ⟨q, rfl⟩
    exact ⟨q ++ y, by rw [List.append_assoc]⟩

lemma occurrences_append (hseam : Seam x y) (h : Tag pat) :
    occurrences pat (x ++ y) = occurrences pat x + occurrences pat y := by
  induction x with
  | nil => simp [occurrences]
  | cons c x ih =>
    have hhead : pat <+: c :: (x ++ y) ↔ pat <+: c :: x := prefix_append_iff (x := c :: x) hseam h (by simp)
    rw [List.cons_append, occurrences, occurrences]
    by_cases hx : x = []
    · subst hx
      rw [List.nil_append] at hhead ⊢
      simp only [hhead, occurrences]
      omega
    · rw [ih (hseam.of_cons hx)]
      simp only [hhead]
      omega

/-- The only occurrence is the first. -/
lemma index_of_unique (hone : occurrences pat (p ++ pat ++ q) ≤ 1) (h : Tag pat) : index pat (p ++ pat ++ q) = some p.length := by
  obtain ⟨rest, hpat, -⟩ := h.eq_cons
  have hpos : ∀ p : List Char, 1 ≤ occurrences pat (p ++ pat ++ q) := by
    intro p
    induction p with
    | nil =>
      rw [List.nil_append]
      have hcons : pat ++ q = '<' :: (rest ++ q) := by rw [hpat]; rfl
      rw [hcons, occurrences, if_pos (hcons ▸ List.prefix_append pat q)]
      omega
    | cons c p ih =>
      rw [List.cons_append, List.cons_append, occurrences]
      omega
  induction p with
  | nil =>
    rw [List.nil_append]
    have hcons : pat ++ q = '<' :: (rest ++ q) := by rw [hpat]; rfl
    rw [hcons, index, if_pos (hcons ▸ List.prefix_append pat q)]
    rfl
  | cons c p ih =>
    rw [List.cons_append, List.cons_append, occurrences] at hone
    have hlater := hpos p
    have hfirst : ¬ pat <+: c :: (p ++ pat ++ q) := by
      intro hpre
      rw [if_pos hpre] at hone
      omega
    rw [List.cons_append, List.cons_append, index, if_neg hfirst, ih (by omega)]
    rfl

/-- A pattern that occurs is found. -/
lemma exists_of_occurrences (h : occurrences pat l ≠ 0) : ∃ p q, l = p ++ pat ++ q ∧ index pat l = some p.length := by
  induction l with
  | nil => exact absurd rfl h
  | cons c l ih =>
    by_cases hpre : pat <+: c :: l
    · obtain ⟨q, hq⟩ := hpre
      exact ⟨[], q, by simpa using hq.symm, by rw [index, if_pos ⟨q, hq⟩]; rfl⟩
    · rw [occurrences, if_neg hpre, Nat.zero_add] at h
      obtain ⟨p, q, hl, hindex⟩ := ih h
      exact ⟨c :: p, q, by rw [hl]; rfl, by rw [index, if_neg hpre, hindex]; rfl⟩

/-- Two tags that end a text are the same. -/
lemma Tag.suffix_unique (h : Tag p) (h' : Tag q) (hp : p <:+ l) (hq : q <:+ l) : p = q := by
  have hshorter : ∀ {p q : List Char}, Tag p → Tag q → p <:+ q → p = q := by
    rintro p q hp hq ⟨x, hx⟩
    cases x with
    | nil => exact hx
    | cons c x =>
      have hstart : '<' ∈ q.tail := by
        obtain ⟨rest, hrest, -⟩ := hp.eq_cons
        rw [← hx, hrest]
        simp
      exact absurd hstart hq.tail
  rcases List.suffix_or_suffix_of_suffix hp hq with hpq | hqp
  · exact hshorter h h' hpq
  · exact (hshorter h' h hqp).symm

/-- An occurrence of a tag in a text that was filled in between two tags. -/
lemma locate_around (h : Tag pat) (hx : x.getLast? = some '>') (hy : y.head? = some '<') (hm : '<' ∉ m)
    (heq : x ++ m ++ y = p ++ pat ++ q) :
    (∃ q', x = p ++ pat ++ q' ∧ q = q' ++ m ++ y) ∨ ∃ p', y = p' ++ pat ++ q ∧ p = x ++ m ++ p' := by
  have hseam : Seam (x ++ m) y := .inr hy
  rcases hseam.locate h heq with ⟨q', hleft, hq⟩ | hright
  · have hseam' : Seam x m := .inl hx
    rcases hseam'.locate h hleft with ⟨q'', hx', hq'⟩ | ⟨p', hmid, -⟩
    · exact .inl ⟨q'', hx', by rw [hq, hq']⟩
    · -- The text between has no start of a tag.
      obtain ⟨rest, hrest, -⟩ := h.eq_cons
      refine absurd ?_ hm
      rw [hmid, hrest]
      simp
  · exact .inr hright

lemma occurrences_around (h : Tag pat) (hx : x.getLast? = some '>') (hy : y.head? = some '<') (hm : '<' ∉ m) :
    occurrences pat (x ++ m ++ y) = occurrences pat x + occurrences pat y := by
  rw [occurrences_append (.inr hy) h, occurrences_append (.inl hx) h, occurrences_eq_zero h hm, Nat.add_zero]

end Tags

end ShareSub.TagText

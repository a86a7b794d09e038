import Mathlib
import ShareSub.CostModel
import ShareSub.PricingChain

/-!
# The canonical form of a model name

Each rewriting of a name removes what it looks for and brings nothing back that an earlier one has removed, so the last
name is left alone by all of them. The infixes that are replaced begin with the one `g` that they have: an occurrence in a
rewritten name is an occurrence in the name before, or begins where a replacement begins.
-/
namespace ShareSub.ModelName

open PricingModel CostModel
open GatewayModel (isSpace trimSpace)

section Replacing

variable {old new s : List Char} {n : ℕ} {c : Char}

lemma mem_replaceAll (h : c ∈ replaceAll old new n s) : c ∈ new ∨ c ∈ s := by
  induction n generalizing s with
  | zero => exact Or.inr h
  | succ n ih =>
    cases s with
    | nil => cases h
    | cons d s =>
      rw [replaceAll_cons] at h
      split_ifs at h
      · rcases List.mem_append.mp h with hnew | hrest
        · exact Or.inl hnew
        · exact (ih hrest).imp_right List.mem_of_mem_drop
      · rcases List.mem_cons.mp h with rfl | hrest
        · exact Or.inr List.mem_cons_self
        · exact (ih hrest).imp_right (List.mem_cons_of_mem d)

/-- A text without the infix stays as it is. -/
lemma replaceAll_eq_self (h : ¬ old <:+: s) : replaceAll old new n s = s := by
  induction n generalizing s with
  | zero => rfl
  | succ n ih =>
    cases s with
    | nil => rfl
    | cons d s =>
      rw [replaceAll_cons]
      rw [List.infix_cons_iff, not_or] at h
      rw [if_neg (by simpa using h.1), ih h.2]

lemma replaceAllIn_eq_self {old new : String} (h : ¬ old.toList <:+: s) : replaceAllIn old new s = s :=
  replaceAll_eq_self h

/-- A character that is replaced by another one is gone. -/
lemma not_mem_replaceAll {a b : Char} (hab : a ≠ b) (hn : s.length ≤ n) : a ∉ replaceAll [a] [b] n s := by
  induction n generalizing s with
  | zero =>
    rw [List.length_eq_zero_iff.mp (Nat.le_zero.mp hn)]
    exact List.not_mem_nil
  | succ n ih =>
    cases s with
    | nil => exact List.not_mem_nil
    | cons d s =>
      have hs : s.length ≤ n := Nat.le_of_succ_le_succ hn
      rw [replaceAll_cons]
      split_ifs with hprefix
      · simp only [List.length_singleton, List.drop_succ_cons, List.drop_zero, List.singleton_append, List.mem_cons, not_or]
        exact ⟨hab, ih hs⟩
      · rw [List.mem_cons, not_or]
        refine ⟨?_, ih hs⟩
        rintro rfl
        simp at hprefix

lemma length_replaceAll_le (hle : new.length ≤ old.length) : (replaceAll old new n s).length ≤ s.length := by
  induction n generalizing s with
  | zero => exact le_rfl
  | succ n ih =>
    cases s with
    | nil => exact le_rfl
    | cons d s =>
      rw [replaceAll_cons]
      split_ifs with hprefix
      · have hlength := (List.isPrefixOf_iff_prefix.mp hprefix).length_le
        have hrest := ih (s := (d :: s).drop old.length)
        rw [List.length_drop] at hrest
        rw [List.length_append]
        omega
      · exact Nat.succ_le_succ ih

/-- A replacement that shortens a text does so where the infix occurs. -/
lemma length_replaceAll_lt (hlt : new.length < old.length) (hn : s.length ≤ n) (h : old <:+: s) :
    (replaceAll old new n s).length < s.length := by
  induction n generalizing s with
  | zero =>
    rw [List.length_eq_zero_iff.mp (Nat.le_zero.mp hn)] at h
    rw [List.eq_nil_of_infix_nil h] at hlt
    cases hlt
  | succ n ih =>
    cases s with
    | nil =>
      rw [List.eq_nil_of_infix_nil h] at hlt
      cases hlt
    | cons d s =>
      rw [replaceAll_cons]
      split_ifs with hprefix
      · have hlength := (List.isPrefixOf_iff_prefix.mp hprefix).length_le
        have hrest := length_replaceAll_le (n := n) (s := (d :: s).drop old.length) hlt.le
        rw [List.length_drop] at hrest
        rw [List.length_append]
        omega
      · rcases List.infix_cons_iff.mp h with hhead | htail
        · exact absurd (List.isPrefixOf_iff_prefix.mpr hhead) hprefix
        · exact Nat.succ_lt_succ (ih (Nat.le_of_succ_le_succ hn) htail)

end Replacing

section Marks

variable {mark : Char} {p t q s : List Char} {n : ℕ}

/-- Up to the first mark nothing is replaced. -/
lemma prefix_of_prefix_replaceAll (hq : mark ∉ q) (h : q <+: replaceAll (mark :: p) (mark :: t) n s) : q <+: s := by
  induction n generalizing s q with
  | zero => exact h
  | succ n ih =>
    cases s with
    | nil => exact h
    | cons d s =>
      cases q with
      | nil => exact List.nil_prefix
      | cons c q =>
        rw [List.mem_cons, not_or] at hq
        rw [replaceAll_cons] at h
        split_ifs at h
        · rw [List.cons_append, List.cons_prefix_cons] at h
          exact absurd h.1.symm hq.1
        · rw [List.cons_prefix_cons] at h ⊢
          exact ⟨h.1, ih hq.2 h.2⟩

/-- A text that begins with the mark occurs at the front because it did before, or because of a replacement. -/
lemma prefix_replaceAll (hq : mark ∉ q) (hn : s.length ≤ n) (h : mark :: q <+: replaceAll (mark :: p) (mark :: t) n s) :
    mark :: q <+: s ∧ ¬ mark :: p <+: s ∨ ∃ u, s = mark :: p ++ u ∧ mark :: q <+: mark :: t ++ u := by
  cases n with
  | zero =>
    rw [List.length_eq_zero_iff.mp (Nat.le_zero.mp hn)] at h
    cases List.prefix_nil.mp h
  | succ n =>
    cases s with
    | nil => cases List.prefix_nil.mp h
    | cons d s =>
      rw [replaceAll_cons] at h
      split_ifs at h with hprefix
      · obtain ⟨u, hu⟩ := List.isPrefixOf_iff_prefix.mp hprefix
        refine Or.inr ⟨u, hu.symm, ?_⟩
        rw [← hu, List.drop_left, List.cons_append, List.cons_prefix_cons] at h
        rw [List.cons_append, List.cons_prefix_cons]
        refine ⟨rfl, ?_⟩
        -- what is beyond the replacement has no mark, so it is as it was
        rcases List.prefix_or_prefix_of_prefix h.2 (List.prefix_append t _) with hshort | ⟨rest, rfl⟩
        · exact hshort.trans (List.prefix_append t u)
        · rw [List.mem_append, not_or] at hq
          rw [List.prefix_append_right_inj] at h ⊢
          exact prefix_of_prefix_replaceAll hq.2 h.2
      · rw [List.cons_prefix_cons] at h
        refine Or.inl ⟨?_, by simpa using hprefix⟩
        rw [List.cons_prefix_cons]
        exact ⟨h.1, prefix_of_prefix_replaceAll hq h.2⟩

lemma infix_append (ht : mark ∉ t) (h : mark :: q <:+: t ++ s) : mark :: q <:+: s := by
  induction t with
  | nil => exact h
  | cons c t ih =>
    rw [List.mem_cons, not_or] at ht
    rw [List.cons_append, List.infix_cons_iff, List.cons_prefix_cons] at h
    rcases h with h | h
    · exact absurd h.1 ht.1
    · exact ih ht.2 h

/-- An occurrence in a rewritten text was there before, or begins where a replacement begins. -/
lemma infix_replaceAll (hq : mark ∉ q) (ht : mark ∉ t) (hn : s.length ≤ n)
    (h : mark :: q <:+: replaceAll (mark :: p) (mark :: t) n s) :
    (∃ v, v <:+ s ∧ mark :: q <+: v ∧ ¬ mark :: p <+: v) ∨ ∃ u, mark :: p ++ u <:+ s ∧ mark :: q <+: mark :: t ++ u := by
  induction n generalizing s with
  | zero =>
    rw [List.length_eq_zero_iff.mp (Nat.le_zero.mp hn)] at h
    cases List.eq_nil_of_infix_nil h
  | succ n ih =>
    have hfront : mark :: q <+: replaceAll (mark :: p) (mark :: t) (n + 1) s →
        (∃ v, v <:+ s ∧ mark :: q <+: v ∧ ¬ mark :: p <+: v) ∨ ∃ u, mark :: p ++ u <:+ s ∧ mark :: q <+: mark :: t ++ u := by
      intro hprefix
      rcases prefix_replaceAll hq hn hprefix with hbefore | ⟨u, hu, hnew⟩
      · exact Or.inl ⟨s, List.suffix_rfl, hbefore⟩
      · exact Or.inr ⟨u, hu ▸ List.suffix_rfl, hnew⟩
    have hrest : ∀ w, w <:+ s → w.length ≤ n → mark :: q <:+: replaceAll (mark :: p) (mark :: t) n w →
        (∃ v, v <:+ s ∧ mark :: q <+: v ∧ ¬ mark :: p <+: v) ∨ ∃ u, mark :: p ++ u <:+ s ∧ mark :: q <+: mark :: t ++ u := by
      intro w hw hlength hinfix
      rcases ih hlength hinfix with ⟨v, hv, hbefore⟩ | ⟨u, hu, hnew⟩
      · exact Or.inl ⟨v, hv.trans hw, hbefore⟩
      · exact Or.inr ⟨u, hu.trans hw, hnew⟩
    cases s with
    | nil => cases List.eq_nil_of_infix_nil h
    | cons d s =>
      have hs : s.length ≤ n := Nat.le_of_succ_le_succ hn
      by_cases hprefix : (mark :: p).isPrefixOf (d :: s) = true
      · have hunfold : replaceAll (mark :: p) (mark :: t) (n + 1) (d :: s) =
            mark :: (t ++ replaceAll (mark :: p) (mark :: t) n ((d :: s).drop (mark :: p).length)) := by
          rw [replaceAll_cons, if_pos hprefix]
          rfl
        rw [hunfold] at h hfront
        rcases List.infix_cons_iff.mp h with hhead | htail
        · exact hfront hhead
        · refine hrest _ (List.drop_suffix _ _) ?_ (infix_append ht htail)
          rw [List.length_drop, List.length_cons, List.length_cons]
          omega
      · have hunfold : replaceAll (mark :: p) (mark :: t) (n + 1) (d :: s) = d :: replaceAll (mark :: p) (mark :: t) n s := by
          rw [replaceAll_cons, if_neg hprefix]
        rw [hunfold] at h hfront
        rcases List.infix_cons_iff.mp h with hhead | htail
        · exact hfront hhead
        · exact hrest s (List.suffix_cons d s) hs htail

lemma head?_replaceAll (s : List Char) (n : ℕ) : (replaceAll (mark :: p) (mark :: t) n s).head? = s.head? := by
  cases n with
  | zero => rfl
  | succ n =>
    cases s with
    | nil => rfl
    | cons d s =>
      rw [replaceAll_cons]
      split_ifs with hprefix
      · have hsame := (List.cons_prefix_cons.mp (List.isPrefixOf_iff_prefix.mp hprefix)).1
        rw [List.cons_append, List.head?_cons, List.head?_cons, hsame]
      · rfl

end Marks

section Dashes

variable {mark : Char} {p t s : List Char} {n : ℕ}

/-- No two dashes follow each other. -/
def Single (s : List Char) : Prop := s.IsChain fun a b => ¬ (a = '-' ∧ b = '-')

lemma single_iff : Single s ↔ ¬ ['-', '-'] <:+: s := by
  unfold Single
  induction s with
  | nil => simp
  | cons a s ih =>
    rw [List.infix_cons_iff, not_or, ← ih]
    cases s with
    | nil => simp
    | cons b s =>
      rw [List.isChain_cons_cons, List.cons_prefix_cons, List.cons_prefix_cons]
      simp [eq_comm]

lemma any_tails_iff {old : List Char} : (s.tails.any fun t => old.isPrefixOf t) = true ↔ old <:+: s := by
  simp only [List.any_eq_true, List.mem_tails, List.isPrefixOf_iff_prefix, List.infix_iff_prefix_suffix, and_comm]

lemma collapseDashes_eq_self (h : Single s) : collapseDashes n s = s := by
  cases n with
  | zero => rfl
  | succ n =>
    rw [collapseDashes_succ, if_neg]
    rw [any_tails_iff]
    exact single_iff.mp h

/-- Each round shortens the text, so the loop ends. -/
lemma single_collapseDashes (hn : s.length ≤ n) : Single (collapseDashes n s) := by
  induction n generalizing s with
  | zero =>
    rw [List.length_eq_zero_iff.mp (Nat.le_zero.mp hn)]
    exact List.isChain_nil
  | succ n ih =>
    rw [collapseDashes_succ]
    split_ifs with hdouble
    · rw [any_tails_iff] at hdouble
      refine ih ?_
      have hlt : (replaceAllIn "--" "-" s).length < s.length := length_replaceAll_lt (by decide) le_rfl hdouble
      omega
    · rw [any_tails_iff] at hdouble
      exact single_iff.mpr hdouble

lemma mem_collapseDashes {c : Char} (h : c ∈ collapseDashes n s) : c = '-' ∨ c ∈ s := by
  induction n generalizing s with
  | zero => exact Or.inr h
  | succ n ih =>
    rw [collapseDashes_succ] at h
    split_ifs at h
    · rcases ih h with hdash | hmem
      · exact Or.inl hdash
      · exact (mem_replaceAll hmem).imp_left List.mem_singleton.mp
    · exact Or.inr h

/-- A replacement that has no double dash and does not end with a dash brings none. -/
lemma single_replaceAll (hnew : Single (mark :: t)) (hlast : (mark :: t).getLast? ≠ some '-') (h : Single s) :
    Single (replaceAll (mark :: p) (mark :: t) n s) := by
  induction n generalizing s with
  | zero => exact h
  | succ n ih =>
    cases s with
    | nil => exact h
    | cons d s =>
      rw [replaceAll_cons]
      split_ifs with hprefix
      · have hsuffix : Single ((d :: s).drop (mark :: p).length) := List.IsChain.suffix h (List.drop_suffix _ _)
        refine List.isChain_append.mpr ⟨hnew, ih hsuffix, ?_⟩
        rintro a ha b - ⟨rfl, -⟩
        exact hlast ha
      · have htail : Single s := List.IsChain.tail h
        refine List.isChain_cons.mpr ⟨?_, ih htail⟩
        intro b hb
        rw [head?_replaceAll] at hb
        exact (List.isChain_cons.mp h).1 b hb

end Dashes

section Fields

variable {s : List Char} {c : Char}

lemma mem_splitOnP {p : Char → Bool} {field : List Char} (h : field ∈ s.splitOnP p) (hc : c ∈ field) :
    c ∈ s ∧ p c = false := by
  induction s generalizing field with
  | nil =>
    rw [List.splitOnP_nil, List.mem_singleton] at h
    rw [h] at hc
    cases hc
  | cons d s ih =>
    rw [List.splitOnP_cons_eq_if_modifyHead] at h
    split_ifs at h with hd
    · rcases List.mem_cons.mp h with rfl | hrest
      · cases hc
      · exact (ih hrest hc).imp_left (List.mem_cons_of_mem d)
    · cases hsplit : s.splitOnP p with
      | nil => exact absurd hsplit (List.splitOnP_ne_nil p s)
      | cons first rest =>
        rw [hsplit, List.modifyHead_cons] at h
        rcases List.mem_cons.mp h with rfl | hrest
        · rcases List.mem_cons.mp hc with rfl | hfirst
          · exact ⟨List.mem_cons_self, by simpa using hd⟩
          · have hold : first ∈ s.splitOnP p := hsplit ▸ List.mem_cons_self
            exact (ih hold hfirst).imp_left (List.mem_cons_of_mem d)
        · have hold : field ∈ s.splitOnP p := hsplit ▸ List.mem_cons_of_mem first hrest
          exact (ih hold hc).imp_left (List.mem_cons_of_mem d)

lemma mem_intercalate {fields : List (List Char)} {sep : List Char} (h : c ∈ sep.intercalate fields) :
    c ∈ sep ∨ ∃ field ∈ fields, c ∈ field := by
  induction fields with
  | nil => cases h
  | cons first rest ih =>
    cases rest with
    | nil =>
      rw [List.intercalate_singleton] at h
      exact Or.inr ⟨first, List.mem_cons_self, h⟩
    | cons second rest =>
      rw [List.intercalate_cons_cons, List.mem_append, List.mem_append] at h
      rcases h with (hfirst | hsep) | hrest
      · exact Or.inr ⟨first, List.mem_cons_self, hfirst⟩
      · exact Or.inl hsep
      · rcases ih hrest with hsep | ⟨field, hfield, hc⟩
        · exact Or.inl hsep
        · exact Or.inr ⟨field, List.mem_cons_of_mem first hfield, hc⟩

lemma mem_joinFields (h : c ∈ joinFields s) : c = '-' ∨ c ∈ s ∧ isSpace c = false := by
  rcases mem_intercalate h with hdash | ⟨field, hfield, hc⟩
  · exact Or.inl (List.mem_singleton.mp hdash)
  · exact Or.inr (mem_splitOnP (List.mem_filter.mp hfield).1 hc)

/-- A text without space is one field. -/
lemma joinFields_eq_self (h : ∀ c ∈ s, isSpace c = false) : joinFields s = s := by
  unfold joinFields
  rw [List.splitOnP_eq_singleton h]
  cases s with
  | nil => rfl
  | cons d s => rw [List.filter_cons_of_pos (by simp), List.filter_nil, List.intercalate_singleton]

lemma trimSpace_eq_self (h : ∀ c ∈ s, isSpace c = false) : trimSpace (String.ofList s) = String.ofList s := by
  have hfront : ∀ l : List Char, (∀ c ∈ l, isSpace c = false) → l.dropWhile isSpace = l := by
    intro l hl
    cases l with
    | nil => rfl
    | cons d l => exact List.dropWhile_cons_of_neg (by simpa using hl d List.mem_cons_self)
  unfold trimSpace
  rw [String.toList_ofList, hfront s h, hfront s.reverse fun c hc => h c (List.mem_reverse.mp hc), List.reverse_reverse]

end Fields

section Names

def plainCharacter (c : Char) : Bool := c.isLower || c.isDigit || c = '-' || c = '.'

/-- `strings.ToLower` maps each character by itself, and what it maps to stays as it is; so do lower-case letters, digits,
dashes and dots. -/
structure MapsCharacters (toLower : String → String) (lower : Char → Char) : Prop where
  map : ∀ s, toLower s = String.ofList (s.toList.map lower)
  again : ∀ c, lower (lower c) = lower c
  plain : ∀ c, plainCharacter c = true → lower c = c

lemma plainCharacter_range {c : Char} (h : plainCharacter c = true) :
    c.toNat = 45 ∨ c.toNat = 46 ∨ 48 ≤ c.toNat ∧ c.toNat ≤ 57 ∨ 97 ≤ c.toNat ∧ c.toNat ≤ 122 := by
  simp only [plainCharacter, Char.isLower, Char.isDigit, Bool.or_eq_true, Bool.and_eq_true, decide_eq_true_eq, ge_iff_le,
    UInt32.le_iff_toNat_le] at h
  rcases h with ((⟨hlow, hhigh⟩ | ⟨hlow, hhigh⟩) | rfl) | rfl
  · exact Or.inr (Or.inr (Or.inr ⟨hlow, hhigh⟩))
  · exact Or.inr (Or.inr (Or.inl ⟨hlow, hhigh⟩))
  · exact Or.inl rfl
  · exact Or.inr (Or.inl rfl)

lemma isSpace_of_plainCharacter {c : Char} (h : plainCharacter c = true) : isSpace c = false := by
  have hrange := plainCharacter_range h
  by_contra hspace
  simp only [isSpace, Bool.not_eq_false, Bool.or_eq_true, Bool.and_eq_true, decide_eq_true_eq, List.mem_cons,
    List.not_mem_nil, or_false] at hspace
  omega

/-- What the rewritings of characters leave, and the first of those that replace texts. -/
structure Plain (lower : Char → Char) (s : List Char) : Prop where
  clean : ∀ c ∈ s, isSpace c = false ∧ c ≠ '/' ∧ c ≠ '_' ∧ lower c = c
  single : Single s
  family : ¬ "gpt5".toList <+: s

/-- A name that no rewriting changes. -/
structure Canonical (lower : Char → Char) (s : List Char) : Prop extends Plain lower s where
  mini : ¬ "gpt-5.4mini".toList <:+: s
  nano : ¬ "gpt-5.4nano".toList <:+: s
  spark : ¬ "gpt-5.3-codexspark".toList <:+: s
  codexSpark : ¬ "gpt-5.3codexspark".toList <:+: s
  codex : ¬ "gpt-5.3codex".toList <:+: s

variable {toLower : String → String} {lower : Char → Char} {s : List Char}

lemma canonicalModel_of_canonical (hlower : MapsCharacters toLower lower) (h : Canonical lower s) :
    canonicalModel toLower (String.ofList s) = String.ofList s := by
  have hspace : ∀ c ∈ s, isSpace c = false := fun c hc => (h.clean c hc).1
  have hlowered : (toLower (trimSpace (String.ofList s))).toList = s := by
    rw [trimSpace_eq_self hspace, hlower.map, String.toList_ofList, String.toList_ofList]
    exact (List.map_congr_left fun c hc => (h.clean c hc).2.2.2).trans (List.map_id' s)
  have hslash : '/' ∉ s := fun hmem => (h.clean _ hmem).2.1 rfl
  have hunderscore : ¬ "_".toList <:+: s := by
    intro hinfix
    exact (h.clean '_' (List.IsInfix.mem List.mem_cons_self hinfix)).2.2.1 rfl
  have hfamily : ¬ ("gpt5".toList.isPrefixOf s = true) := fun hprefix => h.family (List.isPrefixOf_iff_prefix.mp hprefix)
  unfold canonicalModel
  dsimp only
  rw [hlowered, if_neg hslash, replaceAllIn_eq_self hunderscore, joinFields_eq_self hspace, collapseDashes_eq_self h.single,
    if_neg hfamily, replaceAllIn_eq_self h.mini, replaceAllIn_eq_self h.nano, replaceAllIn_eq_self h.spark,
    replaceAllIn_eq_self h.codexSpark, replaceAllIn_eq_self h.codex]

/-- The text has one `g`, at its beginning. -/
def Marked (name : String) : Prop := name.toList.head? = some 'g' ∧ 'g' ∉ name.toList.tail

instance (name : String) : Decidable (Marked name) := inferInstanceAs (Decidable (_ ∧ _))

lemma Marked.cons {name : String} (h : Marked name) : ∃ q, name.toList = 'g' :: q ∧ 'g' ∉ q := by
  obtain ⟨hhead, htail⟩ := h
  cases hname : name.toList with
  | nil =>
    rw [hname] at hhead
    cases hhead
  | cons c q =>
    rw [hname] at hhead htail
    cases hhead
    exact ⟨q, rfl, htail⟩

/-- No text begins with both. -/
def Apart (a b : String) : Prop := ¬ a.toList <+: b.toList ∧ ¬ b.toList <+: a.toList

instance (a b : String) : Decidable (Apart a b) := inferInstanceAs (Decidable (_ ∧ _))

lemma Apart.not_prefix {a b : String} (h : Apart a b) (u : List Char) : ¬ a.toList <+: b.toList ++ u := fun hprefix =>
  (List.prefix_or_prefix_of_prefix hprefix (List.prefix_append _ u)).elim h.1 h.2

variable {name old new : String}

lemma not_infix_replaceAllIn (hname : Marked name) (hold : Marked old) (hnew : Marked new)
    (hbefore : ∀ v, v <:+ s → name.toList <+: v → old.toList <+: v)
    (hreplaced : ∀ u, old.toList ++ u <:+ s → ¬ name.toList <+: new.toList ++ u) :
    ¬ name.toList <:+: replaceAllIn old new s := by
  obtain ⟨q, hq, hqmark⟩ := hname.cons
  obtain ⟨p, hp, -⟩ := hold.cons
  obtain ⟨t, ht, htmark⟩ := hnew.cons
  unfold replaceAllIn
  rw [hq, hp] at hbefore
  rw [hq, hp, ht] at hreplaced ⊢
  intro hinfix
  rcases infix_replaceAll hqmark htmark le_rfl hinfix with ⟨v, hv, hprefix, hnot⟩ | ⟨u, hu, hprefix⟩
  · exact hnot (hbefore v hv hprefix)
  · exact hreplaced u hu hprefix

/-- What is replaced is gone. -/
lemma replaced_absent (hold : Marked old) (hnew : Marked new) (hapart : Apart old new) :
    ¬ old.toList <:+: replaceAllIn old new s :=
  not_infix_replaceAllIn hold hold hnew (fun _ _ => id) fun u _ => hapart.not_prefix u

/-- What was absent stays absent if a replacement does not bring it. -/
lemma absent_replaceAllIn (hname : Marked name) (hold : Marked old) (hnew : Marked new) (h : ¬ name.toList <:+: s)
    (hapart : Apart name new) : ¬ name.toList <:+: replaceAllIn old new s :=
  not_infix_replaceAllIn hname hold hnew
    (fun _ hv hprefix => absurd (List.infix_iff_prefix_suffix.mpr ⟨_, hprefix, hv⟩) h) fun u _ => hapart.not_prefix u

lemma clean_literal (hlower : MapsCharacters toLower lower) (h : new.toList.all plainCharacter = true) :
    ∀ c ∈ new.toList, isSpace c = false ∧ c ≠ '/' ∧ c ≠ '_' ∧ lower c = c := by
  intro c hc
  have hplain : plainCharacter c = true := List.all_eq_true.mp h c hc
  refine ⟨isSpace_of_plainCharacter hplain, ?_, ?_, hlower.plain c hplain⟩
  · rintro rfl
    exact absurd hplain (by decide)
  · rintro rfl
    exact absurd hplain (by decide)

/-- What the five replacements have in common. -/
def Inserts (old new : String) : Prop :=
  Marked old ∧ Marked new ∧ new.toList.all plainCharacter = true ∧ ¬ ['-', '-'] <:+: new.toList ∧
    new.toList.getLast? ≠ some '-' ∧ Apart "gpt5" new

instance (old new : String) : Decidable (Inserts old new) := inferInstanceAs (Decidable (_ ∧ _))

/-- The replacements leave alone what was done before them. -/
lemma Plain.replaceAllIn (hlower : MapsCharacters toLower lower) (h : Plain lower s) (hinserts : Inserts old new) :
    Plain lower (replaceAllIn old new s) := by
  obtain ⟨hold, hnew, hclean, hsingle, hlast, hapart⟩ := hinserts
  obtain ⟨p, hp, -⟩ := hold.cons
  obtain ⟨t, ht, -⟩ := hnew.cons
  constructor
  · intro c hc
    rcases mem_replaceAll hc with hc | hc
    · exact clean_literal hlower hclean c hc
    · exact h.clean c hc
  · rw [← single_iff, ht] at hsingle
    rw [ht] at hlast
    unfold PricingModel.replaceAllIn
    rw [hp, ht]
    exact single_replaceAll hsingle hlast h.single
  · have hfamily : Marked "gpt5" := by decide
    obtain ⟨q, hq, hqmark⟩ := hfamily.cons
    intro hprefix
    unfold PricingModel.replaceAllIn at hprefix
    rw [hp, ht, hq] at hprefix
    rcases prefix_replaceAll hqmark le_rfl hprefix with ⟨hbefore, -⟩ | ⟨u, -, hreplaced⟩
    · rw [← hq] at hbefore
      exact h.family hbefore
    · rw [← hq, ← ht] at hreplaced
      exact hapart.not_prefix u hreplaced

/-- The name before the texts in it are replaced. -/
lemma plain_joined (hlower : MapsCharacters toLower lower) (h : ∀ c ∈ s, lower c = c ∧ c ≠ '/') :
    let joined := joinFields (replaceAllIn "_" "-" s)
    let single := collapseDashes joined.length joined
    Plain lower (if "gpt5".toList.isPrefixOf single then "gpt-5".toList ++ single.drop 4 else single) := by
  intro joined single
  have hdash : lower '-' = '-' := hlower.plain '-' (by decide)
  have hclean : ∀ c ∈ single, isSpace c = false ∧ c ≠ '/' ∧ c ≠ '_' ∧ lower c = c := by
    have hisdash : isSpace '-' = false ∧ '-' ≠ '/' ∧ '-' ≠ '_' ∧ lower '-' = '-' := ⟨by decide, by decide, by decide, hdash⟩
    intro c hc
    rcases mem_collapseDashes hc with rfl | hjoined
    · exact hisdash
    · rcases mem_joinFields hjoined with rfl | ⟨hreplaced, hspace⟩
      · exact hisdash
      · have hunderscore : c ≠ '_' := by
          rintro rfl
          exact not_mem_replaceAll (by decide) le_rfl hreplaced
        rcases mem_replaceAll hreplaced with hnew | hold
        · rw [List.mem_singleton.mp hnew]
          exact hisdash
        · exact ⟨hspace, (h c hold).2, hunderscore, (h c hold).1⟩
  have hsingle : Single single := single_collapseDashes le_rfl
  split_ifs with hfamily
  · obtain ⟨u, hu⟩ := List.isPrefixOf_iff_prefix.mp hfamily
    have hdrop : single.drop 4 = u := by
      rw [← hu]
      rfl
    rw [hdrop]
    constructor
    · intro c hc
      rcases List.mem_append.mp hc with hc | hc
      · exact clean_literal hlower (by decide) c hc
      · exact hclean c (hu ▸ List.mem_append_right _ hc)
    · have hrest : Single u := by
        rw [← hu] at hsingle
        exact List.IsChain.right_of_append hsingle
      have hfront : Single "gpt-5".toList := by
        rw [single_iff]
        decide
      refine List.isChain_append.mpr ⟨hfront, hrest, ?_⟩
      rintro a ha b - ⟨rfl, -⟩
      cases ha
    · have hapart : Apart "gpt5" "gpt-5" := by decide
      exact hapart.not_prefix u
  · exact ⟨hclean, hsingle, fun hprefix => hfamily (List.isPrefixOf_iff_prefix.mpr hprefix)⟩

/-- Each text that is replaced is gone from then on; only the last replacement could bring the text of the third, where
that of the fourth was. -/
lemma canonical_replaced (hlower : MapsCharacters toLower lower) (h : Plain lower s) :
    Canonical lower (replaceAllIn "gpt-5.3codex" "gpt-5.3-codex" (replaceAllIn "gpt-5.3codexspark" "gpt-5.3-codex-spark"
      (replaceAllIn "gpt-5.3-codexspark" "gpt-5.3-codex-spark" (replaceAllIn "gpt-5.4nano" "gpt-5.4-nano"
        (replaceAllIn "gpt-5.4mini" "gpt-5.4-mini" s))))) := by
  have hfirst : Inserts "gpt-5.4mini" "gpt-5.4-mini" := by decide
  have hsecond : Inserts "gpt-5.4nano" "gpt-5.4-nano" := by decide
  have hthird : Inserts "gpt-5.3-codexspark" "gpt-5.3-codex-spark" := by decide
  have hfourth : Inserts "gpt-5.3codexspark" "gpt-5.3-codex-spark" := by decide
  have hfifth : Inserts "gpt-5.3codex" "gpt-5.3-codex" := by decide
  generalize hs₁ : replaceAllIn "gpt-5.4mini" "gpt-5.4-mini" s = s₁
  have hplain₁ : Plain lower s₁ := hs₁ ▸ h.replaceAllIn hlower hfirst
  have hmini₁ : ¬ "gpt-5.4mini".toList <:+: s₁ := hs₁ ▸ replaced_absent hfirst.1 hfirst.2.1 (by decide)
  generalize hs₂ : replaceAllIn "gpt-5.4nano" "gpt-5.4-nano" s₁ = s₂
  have hplain₂ : Plain lower s₂ := hs₂ ▸ hplain₁.replaceAllIn hlower hsecond
  have hmini₂ : ¬ "gpt-5.4mini".toList <:+: s₂ :=
    hs₂ ▸ absent_replaceAllIn hfirst.1 hsecond.1 hsecond.2.1 hmini₁ (by decide)
  have hnano₂ : ¬ "gpt-5.4nano".toList <:+: s₂ := hs₂ ▸ replaced_absent hsecond.1 hsecond.2.1 (by decide)
  generalize hs₃ : replaceAllIn "gpt-5.3-codexspark" "gpt-5.3-codex-spark" s₂ = s₃
  have hplain₃ : Plain lower s₃ := hs₃ ▸ hplain₂.replaceAllIn hlower hthird
  have hmini₃ : ¬ "gpt-5.4mini".toList <:+: s₃ :=
    hs₃ ▸ absent_replaceAllIn hfirst.1 hthird.1 hthird.2.1 hmini₂ (by decide)
  have hnano₃ : ¬ "gpt-5.4nano".toList <:+: s₃ :=
    hs₃ ▸ absent_replaceAllIn hsecond.1 hthird.1 hthird.2.1 hnano₂ (by decide)
  have hspark₃ : ¬ "gpt-5.3-codexspark".toList <:+: s₃ := hs₃ ▸ replaced_absent hthird.1 hthird.2.1 (by decide)
  generalize hs₄ : replaceAllIn "gpt-5.3codexspark" "gpt-5.3-codex-spark" s₃ = s₄
  have hplain₄ : Plain lower s₄ := hs₄ ▸ hplain₃.replaceAllIn hlower hfourth
  have hmini₄ : ¬ "gpt-5.4mini".toList <:+: s₄ :=
    hs₄ ▸ absent_replaceAllIn hfirst.1 hfourth.1 hfourth.2.1 hmini₃ (by decide)
  have hnano₄ : ¬ "gpt-5.4nano".toList <:+: s₄ :=
    hs₄ ▸ absent_replaceAllIn hsecond.1 hfourth.1 hfourth.2.1 hnano₃ (by decide)
  have hspark₄ : ¬ "gpt-5.3-codexspark".toList <:+: s₄ :=
    hs₄ ▸ absent_replaceAllIn hthird.1 hfourth.1 hfourth.2.1 hspark₃ (by decide)
  have hcodexSpark₄ : ¬ "gpt-5.3codexspark".toList <:+: s₄ := hs₄ ▸ replaced_absent hfourth.1 hfourth.2.1 (by decide)
  refine ⟨hplain₄.replaceAllIn hlower hfifth, absent_replaceAllIn hfirst.1 hfifth.1 hfifth.2.1 hmini₄ (by decide),
    absent_replaceAllIn hsecond.1 hfifth.1 hfifth.2.1 hnano₄ (by decide), ?_,
    absent_replaceAllIn hfourth.1 hfifth.1 hfifth.2.1 hcodexSpark₄ (by decide),
    replaced_absent hfifth.1 hfifth.2.1 (by decide)⟩
  refine not_infix_replaceAllIn hthird.1 hfifth.1 hfifth.2.1
    (fun v hv hprefix => absurd (List.infix_iff_prefix_suffix.mpr ⟨v, hprefix, hv⟩) hspark₄) fun u hu hprefix => hcodexSpark₄ ?_
  have hspark : "spark".toList <+: u := by
    have hsplit : "gpt-5.3-codexspark".toList = "gpt-5.3-codex".toList ++ "spark".toList := by decide
    rw [hsplit, List.prefix_append_right_inj] at hprefix
    exact hprefix
  have hsplit : "gpt-5.3codexspark".toList = "gpt-5.3codex".toList ++ "spark".toList := by decide
  rw [hsplit, List.infix_iff_prefix_suffix]
  exact ⟨_, (List.prefix_append_right_inj _).mpr hspark, hu⟩

/-- Every name becomes a canonical one. -/
lemma exists_canonical (hlower : MapsCharacters toLower lower) (model : String) :
    ∃ s, canonicalModel toLower model = String.ofList s ∧ Canonical lower s := by
  refine ⟨_, rfl, canonical_replaced hlower (plain_joined hlower ?_)⟩
  have hlowered : ∀ c ∈ (toLower (trimSpace model)).toList, lower c = c := by
    intro c hc
    rw [hlower.map, String.toList_ofList] at hc
    obtain ⟨d, -, rfl⟩ := List.mem_map.mp hc
    exact hlower.again d
  intro c hc
  split_ifs at hc with hslash
  · rw [List.mem_reverse] at hc
    have hkept := List.mem_takeWhile_imp hc
    have hmem : c ∈ (toLower (trimSpace model)).toList := List.mem_reverse.mp (List.takeWhile_subset _ hc)
    exact ⟨hlowered c hmem, by simpa using hkept⟩
  · refine ⟨hlowered c hc, ?_⟩
    rintro rfl
    exact hslash hc

lemma canonicalModel_idempotent (hlower : MapsCharacters toLower lower) (model : String) :
    canonicalModel toLower (canonicalModel toLower model) = canonicalModel toLower model := by
  obtain ⟨s, hs, hcanonical⟩ := exists_canonical hlower model
  rw [hs, canonicalModel_of_canonical hlower hcanonical]

lemma configModel_canonicalModel (hlower : MapsCharacters toLower lower) (config : PricingConfig) (model : String) :
    configModel toLower config (canonicalModel toLower model) = configModel toLower config model := by
  unfold configModel modelCandidates
  rw [canonicalModel_idempotent hlower]

lemma validateModels_inRange {models : List ModelPrice} {seen : List String} (h : validateModels toLower models seen = true) :
    ∀ m ∈ models, m.inRange toLower = true := by
  induction models generalizing seen with
  | nil => nofun
  | cons m rest ih =>
    simp only [validateModels, Bool.and_eq_true] at h
    obtain ⟨⟨hrange, -⟩, hrest⟩ := h
    intro x hx
    rcases List.mem_cons.mp hx with rfl | hx
    · exact hrange
    · exact ih hrest x hx

/-- The names of a configuration differ, so the entry is the first with its name. -/
lemma find?_of_nodup {models : List ModelPrice} {m : ModelPrice} (hnodup : (models.map ModelPrice.model).Nodup) (hm : m ∈ models)
    (hpriced : TokenPrices.priced m.standard = true) :
    models.find? (fun price => price.model = m.model && TokenPrices.priced price.standard) = some m := by
  induction models with
  | nil => cases hm
  | cons x models ih =>
    rw [List.map_cons, List.nodup_cons] at hnodup
    rcases List.mem_cons.mp hm with rfl | hm
    · exact List.find?_cons_of_pos (by simpa using hpriced)
    · have hne : x.model ≠ m.model := by
        intro heq
        exact hnodup.1 (heq ▸ List.mem_map_of_mem hm)
      rw [List.find?_cons_of_neg (by simp [hne]), ih hnodup.2 hm]

lemma configModel_of_mem {config : PricingConfig} {m : ModelPrice} (hvalid : validateConfig toLower config = true)
    (hm : m ∈ config.models) (hpriced : TokenPrices.priced m.standard = true) :
    configModel toLower config m.model = some m := by
  have hmodels : validateModels toLower config.models [] = true := by
    simp only [validateConfig, Bool.and_eq_true] at hvalid
    exact hvalid.1.1.1.1.1.2
  have hrange := validateModels_inRange hmodels m hm
  simp only [ModelPrice.inRange, Bool.and_eq_true, decide_eq_true_eq] at hrange
  obtain ⟨⟨⟨⟨⟨⟨⟨⟨⟨hnonempty, -⟩, hcanonical⟩, -⟩, -⟩, -⟩, -⟩, -⟩, -⟩, -⟩ := hrange
  have hfirst : ∃ rest, modelCandidates toLower m.model = m.model :: rest := by
    unfold modelCandidates
    rw [hcanonical, if_neg hnonempty]
    split_ifs
    · exact ⟨_, rfl⟩
    · exact ⟨[], rfl⟩
  obtain ⟨rest, hrest⟩ := hfirst
  unfold configModel
  rw [hrest, List.findSome?_cons, find?_of_nodup (PricingChain.validateModels_nodup hmodels).1 hm hpriced]

/-- A name has one canonical form, a configuration is asked for it, and an entry with a price of its own is found under
its name. -/
theorem model_names_canonical (toLower : String → String) (lower : Char → Char) (hlower : MapsCharacters toLower lower) :
    (∀ model, canonicalModel toLower (canonicalModel toLower model) = canonicalModel toLower model) ∧
    (∀ config model, configModel toLower config model = configModel toLower config (canonicalModel toLower model)) ∧
    ∀ config, validateConfig toLower config = true → ∀ m ∈ config.models, TokenPrices.priced m.standard = true →
      configModel toLower config m.model = some m :=
  ⟨canonicalModel_idempotent hlower, fun config model => (configModel_canonicalModel hlower config model).symm,
    fun _ hvalid _ hm hpriced => configModel_of_mem hvalid hm hpriced⟩

end Names

section Example

/-- `strings.ToLower` on ASCII texts. -/
def asciiLower (s : String) : String := String.ofList (s.toList.map Char.toLower)

lemma asciiLower_maps : MapsCharacters asciiLower Char.toLower where
  map _ := rfl
  again := Char.toLower_toLower_eq_toLower
  plain c h := by
    apply Char.toLower_eq_of_not_isUpper
    have hrange := plainCharacter_range h
    simp only [Char.isUpper, decide_eq_true_eq, ge_iff_le, UInt32.le_iff_toNat_le]
    rintro ⟨hlow, hhigh⟩
    have hlow : 65 ≤ c.toNat := hlow
    have hhigh : c.toNat ≤ 90 := hhigh
    omega

def sparkPrice : ModelPrice := ⟨"gpt-5.3-codex-spark", ⟨1750000, 14000000, 175000, 0, 0, 0⟩, 0, 10000, 10000⟩

def sparkConfig : PricingConfig := ⟨[sparkPrice], 20000, 5000, 10000, 0, 0, 0⟩

/-- Case, a provider, a blank, an underscore and missing dashes. -/
theorem model_names_canonical_spark :
    canonicalModel asciiLower " OpenAI/GPT5.3__CodexSpark" = "gpt-5.3-codex-spark" ∧
      configModel asciiLower sparkConfig " OpenAI/GPT5.3__CodexSpark" = some sparkPrice := by
  have hname : canonicalModel asciiLower " OpenAI/GPT5.3__CodexSpark" = "gpt-5.3-codex-spark" := by decide
  have hvalid : validateConfig asciiLower sparkConfig = true := by decide
  obtain ⟨-, hconfig, hfound⟩ := model_names_canonical asciiLower Char.toLower asciiLower_maps
  refine ⟨hname, ?_⟩
  rw [hconfig, hname]
  exact hfound sparkConfig hvalid sparkPrice List.mem_cons_self (by decide)

end Example

end ShareSub.ModelName

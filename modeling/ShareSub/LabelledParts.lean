import Mathlib

/-!
# Labelled parts joined by a separator

A text is made of parts, each a name and a value with a mark between them, in the order of their names. Nothing is
escaped. What the text says about the parts depends on where the separator and the mark may occur.
-/
namespace ShareSub.LabelledParts

section Suffixes

variable {α : Type}

/-- Two texts with one piece in common after pieces of another kind: what follows it in the second text follows it in
the first. -/
lemma suffix_of_append_eq {x y x' z p : List (List α)} (hne : p ≠ []) (hx : ∀ w ∈ p.head?, w ∉ x)
    (h : x' ++ (p ++ z) = x ++ (p ++ y)) : z <:+ y := by
  have hlength : z.length ≤ y.length := by
    by_contra hlong
    have hshort : x'.length < x.length := by
      have := congrArg List.length h
      simp only [List.length_append] at this
      omega
    rcases List.append_eq_append_iff.mp h with ⟨a, hsplit, hrest⟩ | ⟨a, hsplit, -⟩
    · cases a with
      | nil =>
        rw [hsplit, List.append_nil] at hshort
        exact absurd hshort (lt_irrefl _)
      | cons w a =>
        cases p with
        | nil => exact hne rfl
        | cons u p =>
          rw [List.cons_append, List.cons_append, List.cons.injEq] at hrest
          refine hx u rfl ?_
          rw [hsplit, hrest.1]
          simp
    · rw [hsplit, List.length_append] at hshort
      omega
  have hz : z <:+ x' ++ (p ++ z) := ⟨x' ++ p, by simp⟩
  have hy : y <:+ x' ++ (p ++ z) := ⟨x ++ p, by simp [h]⟩
  exact List.suffix_of_suffix_length_le hz hy hlength

end Suffixes

section Split

variable {α : Type} [DecidableEq α] {sep : α}

lemma splitOn_append_of_not_mem {w : List α} (h : sep ∉ w) (t : List α) :
    (w ++ t).splitOn sep = (t.splitOn sep).modifyHead (w ++ ·) := by
  induction w with
  | nil =>
    rw [List.nil_append]
    cases t.splitOn sep <;> rfl
  | cons a w ih =>
    have ha : ¬ (a == sep) = true := by
      intro heq
      exact h (by simp [beq_iff_eq.mp heq])
    rw [List.cons_append, List.splitOn_cons_eq_if_modifyHead, if_neg ha,
      ih fun hmem => h (List.mem_cons_of_mem a hmem), List.modifyHead_modifyHead]
    rfl

/-- The pieces of a text start with what stands before its first separator. -/
lemma exists_splitOn_eq_cons {w : List α} (h : sep ∉ w) (t : List α) :
    ∃ u rest, (w ++ t).splitOn sep = (w ++ u) :: rest := by
  rw [splitOn_append_of_not_mem h]
  cases htext : t.splitOn sep with
  | nil => exact absurd htext (List.splitOn_ne_nil sep t)
  | cons u rest => exact ⟨u, rest, rfl⟩

/-- The pieces of joined texts are the pieces of each. -/
lemma splitOn_intercalate_eq_flatMap {ls : List (List α)} (hne : ls ≠ []) :
    ([sep].intercalate ls).splitOn sep = ls.flatMap (List.splitOn sep) := by
  induction ls with
  | nil => exact absurd rfl hne
  | cons l ls ih =>
    cases ls with
    | nil => simp [List.intercalate]
    | cons l' ls =>
      have htext : [sep].intercalate (l :: l' :: ls) = l ++ sep :: [sep].intercalate (l' :: ls) := by
        simp [List.intercalate, List.intersperse]
      rw [htext, List.splitOn_append_cons_self, ih (List.cons_ne_nil l' ls)]
      rfl

lemma flatMap_splitOn_of_not_mem {ls : List (List α)} (h : ∀ l ∈ ls, sep ∉ l) : ls.flatMap (List.splitOn sep) = ls := by
  induction ls with
  | nil => rfl
  | cons l ls ih =>
    rw [List.flatMap_cons, List.splitOn_eq_singleton (h l (List.mem_cons_self ..)),
      ih fun l' hl' => h l' (List.mem_cons_of_mem l hl')]
    rfl

end Split

section Names

variable {α : Type} {mark : α} {name name' value value' : List α}

/-- A part can be cut at another mark only, one that its value has. -/
lemma cut_cases (hname : mark ∉ name) (h : name ++ mark :: value = name' ++ mark :: value') :
    name' = name ∧ value' = value ∨ ∃ w, name' = name ++ mark :: w ∧ value = w ++ mark :: value' := by
  rcases List.append_eq_append_iff.mp h with ⟨w, hcut, hrest⟩ | ⟨w, hcut, hrest⟩
  · cases w with
    | nil =>
      rw [List.nil_append, List.cons.injEq] at hrest
      exact Or.inl ⟨by simpa using hcut, hrest.2.symm⟩
    | cons a w =>
      rw [List.cons_append, List.cons.injEq] at hrest
      exact Or.inr ⟨w, by rw [hcut, hrest.1], hrest.2⟩
  · cases w with
    | nil =>
      rw [List.nil_append, List.cons.injEq] at hrest
      exact Or.inl ⟨by simpa using hcut.symm, hrest.2⟩
    | cons a w =>
      rw [List.cons_append, List.cons.injEq] at hrest
      exact absurd (by simp [hcut, hrest.1]) hname

lemma name_eq_of_value (hname : mark ∉ name) (hvalue : mark ∉ value)
    (h : name ++ mark :: value = name' ++ mark :: value') : name' = name ∧ value' = value := by
  rcases cut_cases hname h with heq | ⟨w, -, hw⟩
  · exact heq
  · exact absurd (by simp [hw]) hvalue

variable [LinearOrder α]

lemma self_le_append (l w : List α) : l ≤ l ++ w := by
  induction l with
  | nil =>
    cases w with
    | nil => exact le_rfl
    | cons a w => exact (List.nil_lt_cons a w).le
  | cons a l ih => exact List.cons_le_cons a ih

lemma name_le (hname : mark ∉ name) (h : name ++ mark :: value = name' ++ mark :: value') : name ≤ name' := by
  rcases cut_cases hname h with ⟨heq, -⟩ | ⟨w, hw, -⟩
  · exact heq.ge
  · rw [hw]
    exact self_le_append name _

/-- Two lists of parts in the order of their names, with the same texts, give a name without a mark the same value. -/
theorem value_eq_of_map_eq {names names' : List (List α)} {get get' : List α → List α} (hsorted : names.Pairwise (· < ·))
    (hsorted' : names'.Pairwise (· < ·))
    (h : (names.map fun n => n ++ mark :: get n) = names'.map fun n => n ++ mark :: get' n) (hmark : mark ∉ name)
    (hmem : name ∈ names) (hmem' : name ∈ names') : get name = get' name := by
  obtain ⟨i, hi, hget⟩ := List.getElem_of_mem hmem
  obtain ⟨j, hj, hget'⟩ := List.getElem_of_mem hmem'
  have hlength : names.length = names'.length := by simpa using congrArg List.length h
  have hpart : ∀ (k : ℕ) (hk : k < names.length) (hk' : k < names'.length),
      names[k] ++ mark :: get names[k] = names'[k] ++ mark :: get' names'[k] := by
    intro k hk hk'
    have hpieces := congrArg (fun l => l[k]?) h
    simpa [List.getElem?_eq_getElem hk, List.getElem?_eq_getElem hk'] using hpieces
  have hparti := hpart i hi (hlength ▸ hi)
  have hpartj := hpart j (hlength ▸ hj) hj
  rw [hget] at hparti
  rw [hget'] at hpartj
  -- The name stands at the same place in both, since a name that extends it comes later.
  have hij : i = j := by
    by_contra hne
    rcases lt_or_gt_of_ne hne with hlt | hgt
    · have hless := List.pairwise_iff_getElem.mp hsorted' i j (hlength ▸ hi) hj hlt
      rw [hget'] at hless
      exact absurd (name_le hmark hparti) (not_le.mpr hless)
    · have hless := List.pairwise_iff_getElem.mp hsorted j i (hlength ▸ hj) hi hgt
      rw [hget] at hless
      exact absurd (name_le hmark hpartj.symm) (not_le.mpr hless)
  subst hij
  rw [hget'] at hparti
  exact (List.cons.inj (List.append_cancel_left hparti)).2

end Names

end ShareSub.LabelledParts

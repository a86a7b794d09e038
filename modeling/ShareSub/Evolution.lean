import ShareSub.Table
import ShareSub.Transaction

/-!
# Tables that evolve and tickets that are spent

Between two contents of a table every row has come from an old one by an allowed move or is fresh, and every old row
has moved or is gone. What the moves keep of a row, a run keeps of all rows. A ticket is opened by one kind of step
and closed by another: a run closes it no more often than it opens it.
-/
namespace ShareSub.Evolution

open Transaction

section Rows

variable {ρ : Type*} {move : ρ → ρ → Prop} {fresh gone : ρ → Prop} {rows rows' rows'' : List ρ}

structure Evolves (move : ρ → ρ → Prop) (fresh gone : ρ → Prop) (rows rows' : List ρ) : Prop where
  origin : ∀ r' ∈ rows', (∃ r ∈ rows, move r r') ∨ fresh r'
  fate : ∀ r ∈ rows, (∃ r' ∈ rows', move r r') ∨ gone r

lemma Evolves.refl (hmove : ∀ r, move r r) (rows : List ρ) : Evolves move fresh gone rows rows :=
  ⟨fun r hr => Or.inl ⟨r, hr, hmove r⟩, fun r hr => Or.inl ⟨r, hr, hmove r⟩⟩

lemma evolves_update {q : ρ → Prop} [DecidablePred q] {g : ρ → ρ} (hmove : ∀ r, move r r)
    (h : ∀ r ∈ rows, q r → move r (g r)) : Evolves move fresh gone rows (updateRows q g rows) := by
  have hone : ∀ r ∈ rows, move r (if q r then g r else r) := by
    intro r hr
    split_ifs with hq
    · exact h r hr hq
    · exact hmove r
  constructor
  · intro r' hr'
    obtain ⟨r, hr, rfl⟩ := List.mem_map.mp hr'
    exact Or.inl ⟨r, hr, hone r hr⟩
  · intro r hr
    exact Or.inl ⟨_, List.mem_map_of_mem hr, hone r hr⟩

lemma Evolves.append (h : Evolves move fresh gone rows rows') {r : ρ} (hr : fresh r) :
    Evolves move fresh gone rows (rows' ++ [r]) := by
  constructor
  · intro r' hr'
    rcases List.mem_append.mp hr' with hold | hnew
    · exact h.origin r' hold
    · rw [List.mem_singleton.mp hnew]
      exact Or.inr hr
  · intro r₀ hr₀
    exact (h.fate r₀ hr₀).imp_left fun ⟨r', hr', hm⟩ => ⟨r', List.mem_append_left _ hr', hm⟩

lemma evolves_delete {p : ρ → Prop} [DecidablePred p] (hmove : ∀ r, move r r) (h : ∀ r ∈ rows, p r → gone r) :
    Evolves move fresh gone rows (rows.filter fun r => ¬ p r) := by
  constructor
  · intro r hr
    exact Or.inl ⟨r, (List.mem_filter.mp hr).1, hmove r⟩
  · intro r hr
    by_cases hp : p r
    · exact Or.inr (h r hr hp)
    · exact Or.inl ⟨r, List.mem_filter.mpr ⟨hr, by simpa using hp⟩, hmove r⟩

lemma Evolves.trans (htrans : ∀ r r' r'', move r r' → move r' r'' → move r r'')
    (hfresh : ∀ r r', fresh r → move r r' → fresh r') (hgone : ∀ r r', move r r' → gone r' → gone r)
    (h : Evolves move fresh gone rows rows') (h' : Evolves move fresh gone rows' rows'') :
    Evolves move fresh gone rows rows'' := by
  constructor
  · intro r'' hr''
    rcases h'.origin r'' hr'' with ⟨r', hr', hm'⟩ | hf
    · rcases h.origin r' hr' with ⟨r, hr, hm⟩ | hf
      · exact Or.inl ⟨r, hr, htrans r r' r'' hm hm'⟩
      · exact Or.inr (hfresh r' r'' hf hm')
    · exact Or.inr hf
  · intro r hr
    rcases h.fate r hr with ⟨r', hr', hm⟩ | hg
    · rcases h'.fate r' hr' with ⟨r'', hr'', hm'⟩ | hg'
      · exact Or.inl ⟨r'', hr'', htrans r r' r'' hm hm'⟩
      · exact Or.inr (hgone r r' hm hg')
    · exact Or.inr hg

lemma Evolves.mono {move' : ρ → ρ → Prop} {fresh' gone' : ρ → Prop} (h : Evolves move fresh gone rows rows')
    (hmove : ∀ r r', move r r' → move' r r') (hfresh : ∀ r, fresh r → fresh' r) (hgone : ∀ r, gone r → gone' r) :
    Evolves move' fresh' gone' rows rows' :=
  ⟨fun r' hr' => (h.origin r' hr').imp (fun ⟨r, hr, hm⟩ => ⟨r, hr, hmove r r' hm⟩) (hfresh r'),
    fun r hr => (h.fate r hr).imp (fun ⟨r', hr', hm⟩ => ⟨r', hr', hmove r r' hm⟩) (hgone r)⟩

/-- What the moves keep of a row and every fresh row has, all rows have. -/
lemma Evolves.forall_rows {I I' : ρ → Prop} (h : Evolves move fresh gone rows rows') (hrows : ∀ r ∈ rows, I r)
    (hmove : ∀ r r', I r → move r r' → I' r') (hfresh : ∀ r, fresh r → I' r) : ∀ r' ∈ rows', I' r' := by
  intro r' hr'
  rcases h.origin r' hr' with ⟨r, hr, hm⟩ | hf
  · exact hmove r r' (hrows r hr) hm
  · exact hfresh r' hf

end Rows

section Turns

variable {σ α : Type} {step : σ → α → σ → Prop}

/-- A run from where `P` holds to where it does not has a step that ends it. -/
lemma exists_turn {P : σ → Prop} {s t : σ} {ops : List α} (hrun : Run step s ops t) (hs : P s) (ht : ¬ P t) :
    ∃ pre u op v post, ops = pre ++ op :: post ∧ Run step s pre u ∧ step u op v ∧ Run step v post t ∧ P u ∧ ¬ P v := by
  induction hrun with
  | nil => exact absurd hs ht
  | @snoc ops op u v prior last ih =>
    by_cases hu : P u
    · exact ⟨ops, u, op, v, [], rfl, prior, last, Run.nil, hu, ht⟩
    · obtain ⟨pre, w, op', x, post, rfl, hpre, hstep, hpost, hw, hx⟩ := ih hu
      exact ⟨pre, w, op', x, post ++ [op], by simp, hpre, hstep, hpost.snoc last, hw, hx⟩

end Turns

section Tickets

variable {σ α : Type} {step : σ → α → σ → Prop}

/-- A closing step finds the ticket open and leaves it closed, and only an opening step leaves it open where it was
not. -/
lemma closings_le_openings (isOpen : σ → Prop) [DecidablePred isOpen] (opens closes : α → Bool)
    (hopen : ∀ u l v, step u l v → isOpen v → isOpen u ∨ opens l)
    (hclose : ∀ u l v, step u l v → closes l → isOpen u ∧ ¬ isOpen v) {s t : σ} {ls : List α}
    (hrun : Run step s ls t) (hs : ¬ isOpen s) :
    ls.countP closes + (if isOpen t then 1 else 0) ≤ ls.countP opens := by
  induction hrun with
  | nil => simp [hs]
  | @snoc ls l u v _ last ih =>
    have hstep := hopen u l v last
    rw [List.countP_append, List.countP_append, List.countP_singleton, List.countP_singleton]
    by_cases hc : closes l
    · obtain ⟨hu, hv⟩ := hclose u l v last hc
      simp only [hu, if_true] at ih
      simp only [hc, hv, if_true, if_false]
      omega
    · simp only [hc, if_false, Bool.false_eq_true]
      by_cases hl : opens l
      · have hle : (if isOpen v then 1 else 0) ≤ 1 := by split_ifs <;> omega
        simp only [hl, if_true]
        omega
      · simp only [hl, if_false, Bool.false_eq_true]
        have hle : (if isOpen v then 1 else 0) ≤ (if isOpen u then 1 else 0) := by
          by_cases hv : isOpen v
          · simp [hv, (hstep hv).resolve_right hl]
          · simp [hv]
        omega

end Tickets

end ShareSub.Evolution

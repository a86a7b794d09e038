import Mathlib

/-!
# Relations with a primary key and a partial unique index

A table keeps its rows in insertion order together with the proof that no primary key
and no value of the unique index occurs twice. The index is partial: a row outside it
(a null column, or a row the index predicate excludes) has no index value. Writes that
would break a constraint are refused, as a database refuses the statement.
-/
namespace ShareSub

section Rows

variable {ρ κ : Type*}

/-- `SELECT sum(f) WHERE p`. -/
def sumWhere (p : ρ → Prop) [DecidablePred p] (f : ρ → ℤ) (rows : List ρ) : ℤ :=
  ((rows.filter p).map f).sum

/-- `UPDATE SET f WHERE p`. -/
def updateRows (p : ρ → Prop) [DecidablePred p] (f : ρ → ρ) (rows : List ρ) : List ρ :=
  rows.map fun r => if p r then f r else r

variable {p q : ρ → Prop} [DecidablePred p] [DecidablePred q] {f : ρ → ℤ} {g : ρ → ρ}

@[simp] theorem sumWhere_nil : sumWhere p f [] = 0 := rfl

theorem sumWhere_cons (r : ρ) (rows : List ρ) :
    sumWhere p f (r :: rows) = (if p r then f r else 0) + sumWhere p f rows := by
  by_cases h : p r <;> simp [sumWhere, h]

theorem sumWhere_append (xs ys : List ρ) :
    sumWhere p f (xs ++ ys) = sumWhere p f xs + sumWhere p f ys := by
  simp [sumWhere, List.filter_append]

/-- Rows are compared one by one: a pointwise bound bounds the sums. -/
theorem sumWhere_map_le {h : ρ → ρ} {rows : List ρ}
    (hle : ∀ r ∈ rows, (if q (h r) then f (h r) else 0) ≤ if p r then f r else 0) :
    sumWhere q f (rows.map h) ≤ sumWhere p f rows := by
  induction rows with
  | nil => simp
  | cons r rows ih =>
    have hr := hle r (by simp)
    have hi := ih fun x hx => hle x (by simp [hx])
    simp only [List.map_cons, sumWhere_cons]
    omega

theorem sumWhere_congr {rows : List ρ} {f' : ρ → ℤ}
    (heq : ∀ r ∈ rows, (if q r then f' r else 0) = if p r then f r else 0) :
    sumWhere q f' rows = sumWhere p f rows := by
  induction rows with
  | nil => simp
  | cons r rows ih =>
    have hr := heq r (by simp)
    have hi := ih fun x hx => heq x (by simp [hx])
    simp only [sumWhere_cons]
    omega

theorem sumWhere_perm {xs ys : List ρ} (h : xs.Perm ys) : sumWhere p f xs = sumWhere p f ys :=
  ((h.filter _).map f).sum_eq

theorem sumWhere_eq_zero {rows : List ρ} (h : ∀ r ∈ rows, ¬ p r) : sumWhere p f rows = 0 := by
  have hnone : rows.filter p = [] := List.filter_eq_nil_iff.mpr fun r hr => by simpa using h r hr
  rw [sumWhere, hnone]
  rfl

theorem sumWhere_or_of_disjoint {rows : List ρ} (h : ∀ r ∈ rows, p r → ¬ q r) :
    sumWhere (fun r => p r ∨ q r) f rows = sumWhere p f rows + sumWhere q f rows := by
  induction rows with
  | nil => simp
  | cons r rows ih =>
    have hi := ih fun x hx => h x (by simp [hx])
    have hr := h r (by simp)
    simp only [sumWhere_cons, hi]
    by_cases hp : p r <;> by_cases hq : q r <;> simp [hp, hq] <;> first | exact absurd hq (hr hp) | ring

theorem sumWhere_map_filter {α : Type*} (select : α → Bool) (h : α → ρ) (xs : List α) :
    sumWhere p f ((xs.filter select).map h) = sumWhere (fun x => p (h x) ∧ select x) (fun x => f (h x)) xs := by
  simp [sumWhere, List.filter_map, List.filter_filter, Function.comp_def]

/-- The sums of different groups add up to the sum of the rows that are in one of them. -/
theorem sumWhere_groups [DecidableEq κ] (group : ρ → Option κ) (f : ρ → ℤ) (rows : List ρ) {keys : List κ}
    (hn : keys.Nodup) :
    (keys.map fun k => sumWhere (fun r => group r = some k) f rows).sum =
      sumWhere (fun r => ∃ k ∈ keys, group r = some k) f rows := by
  induction keys with
  | nil => simp [sumWhere]
  | cons k keys ih =>
    obtain ⟨hk, hn⟩ := List.nodup_cons.mp hn
    rw [List.map_cons, List.sum_cons, ih hn, ← sumWhere_or_of_disjoint]
    · simp
    · rintro r - hr ⟨k', hk', hr'⟩
      rw [hr, Option.some_inj] at hr'
      exact hk (hr' ▸ hk')

/-- Two selections without a common row are counted together. -/
theorem countP_or_of_disjoint {rows : List ρ} (h : ∀ r ∈ rows, p r → ¬ q r) :
    (rows.countP fun r => p r ∨ q r) = rows.countP (p ·) + rows.countP (q ·) := by
  induction rows with
  | nil => rfl
  | cons r rows ih =>
    have hi := ih fun x hx => h x (by simp [hx])
    have hr := h r (by simp)
    simp only [List.countP_cons, hi]
    by_cases hp : p r
    · simp [hp, hr hp]
      omega
    · by_cases hq : q r <;> simp [hp, hq]
      omega

/-- A deletion takes away what it selects. -/
theorem countP_filter_not_add (rows : List ρ) :
    (rows.filter fun r => ¬ q r).countP (p ·) + rows.countP (fun r => q r ∧ p r) = rows.countP (p ·) := by
  induction rows with
  | nil => rfl
  | cons r rows ih =>
    by_cases hq : q r
    · rw [List.filter_cons_of_neg (by simp [hq]), List.countP_cons, List.countP_cons]
      simp only [hq, true_and]
      omega
    · rw [List.filter_cons_of_pos (by simp [hq]), List.countP_cons, List.countP_cons, List.countP_cons]
      simp only [hq, false_and, decide_false, Bool.false_eq_true, if_false]
      omega

variable {key : ρ → κ}

theorem updateRows_append (xs ys : List ρ) :
    updateRows q g (xs ++ ys) = updateRows q g xs ++ updateRows q g ys := List.map_append

theorem updateRows_cons (x : ρ) (xs : List ρ) :
    updateRows q g (x :: xs) = (if q x then g x else x) :: updateRows q g xs := rfl

theorem updateRows_eq_self {rows : List ρ} (h : ∀ x ∈ rows, ¬ q x) : updateRows q g rows = rows := by
  conv_rhs => rw [← List.map_id rows]
  apply List.map_congr_left
  intro x hx
  simp [h x hx]

/-- An update that hits one row: that row and its new version stand before the same rest. -/
theorem updateRows_perm {rows : List ρ} (hn : (rows.map key).Nodup) {r : ρ} (hr : r ∈ rows)
    (hq : ∀ x ∈ rows, q x ↔ key x = key r) :
    ∃ rest, (∀ x ∈ rest, key x ≠ key r) ∧ rows.Perm (r :: rest) ∧
      (updateRows q g rows).Perm (g r :: rest) := by
  obtain ⟨xs, ys, rfl⟩ := List.append_of_mem hr
  have hrest : ∀ x ∈ xs ++ ys, key x ≠ key r := by
    intro x hx hk
    have hp : (key r :: (xs ++ ys).map key).Nodup := by
      simpa using (List.perm_middle.map key).nodup_iff.mp hn
    exact (List.nodup_cons.mp hp).1 (hk ▸ List.mem_map_of_mem hx)
  have hfix : ∀ x ∈ xs ++ ys, ¬ q x := by
    intro x hx hqx
    refine hrest x hx ((hq x ?_).mp hqx)
    rcases List.mem_append.mp hx with h | h <;> simp [h]
  have hqr : q r := (hq r hr).mpr rfl
  refine ⟨xs ++ ys, hrest, List.perm_middle, ?_⟩
  rw [updateRows_append, updateRows_cons, if_pos hqr,
    updateRows_eq_self fun x hx => hfix x (List.mem_append_left ys hx),
    updateRows_eq_self fun x hx => hfix x (List.mem_append_right xs hx)]
  exact List.perm_middle

/-- An update that takes rows out of a selection leaves a part of it. -/
theorem filter_updateRows_sublist {rows : List ρ} (h : ∀ x ∈ rows, q x → ¬ p (g x)) :
    ((updateRows q g rows).filter p).Sublist (rows.filter p) := by
  induction rows with
  | nil => simp [updateRows]
  | cons x rows ih =>
    have hi := ih fun y hy => h y (by simp [hy])
    rw [updateRows_cons, List.filter_cons, List.filter_cons]
    by_cases hq : q x
    · have hx := h x (by simp) hq
      simp only [hq, hx, if_true, decide_false, Bool.false_eq_true, if_false]
      split_ifs
      · exact hi.cons x
      · exact hi
    · simp only [hq, if_false]
      split_ifs
      · exact hi.cons_cons x
      · exact hi

/-- An update that neither moves rows across a selection nor changes what is read of them. -/
theorem map_filter_updateRows {β : Type*} {v : ρ → β} {rows : List ρ}
    (h : ∀ x ∈ rows, q x → (p (g x) ↔ p x) ∧ (p x → v (g x) = v x)) :
    ((updateRows q g rows).filter p).map v = (rows.filter p).map v := by
  induction rows with
  | nil => simp [updateRows]
  | cons x rows ih =>
    have hi := ih fun y hy => h y (by simp [hy])
    rw [updateRows_cons, List.filter_cons, List.filter_cons]
    by_cases hq : q x
    · obtain ⟨hp, hv⟩ := h x (by simp) hq
      by_cases hpx : p x
      · simp [hq, hpx, hp, hv hpx, hi]
      · simp [hq, hpx, hp, hi]
    · by_cases hpx : p x
      · simp [hq, hpx, hi]
      · simp [hq, hpx, hi]

/-- Two different members of a list occur in one order or the other. -/
theorem mem_pair_sublist {rows : List ρ} {r s : ρ} (hr : r ∈ rows) (hs : s ∈ rows) (hne : r ≠ s) :
    [r, s].Sublist rows ∨ [s, r].Sublist rows := by
  induction rows with
  | nil => simp at hr
  | cons x rows ih =>
    rcases List.mem_cons.mp hr with rfl | hr'
    · have hs' : s ∈ rows := (List.mem_cons.mp hs).resolve_left hne.symm
      exact Or.inl (List.Sublist.cons_cons r (List.singleton_sublist.mpr hs'))
    · rcases List.mem_cons.mp hs with rfl | hs'
      · exact Or.inr (List.Sublist.cons_cons s (List.singleton_sublist.mpr hr'))
      · exact (ih hr' hs').imp (·.cons x) (·.cons x)

lemma filterMap_sublist_of_le {ι : Type*} {g h : ρ → Option ι} (hle : ∀ r i, g r = some i → h r = some i)
    (rows : List ρ) : (rows.filterMap g).Sublist (rows.filterMap h) := by
  induction rows with
  | nil => exact List.Sublist.slnil
  | cons r rows ih =>
    cases hg : g r with
    | none =>
      rw [List.filterMap_cons_none hg]
      exact ih.trans ((List.sublist_cons_self r rows).filterMap h)
    | some i =>
      rw [List.filterMap_cons_some hg, List.filterMap_cons_some (hle r i hg)]
      exact ih.cons_cons i

/-- Two rows of a list without repeated keys coincide when their keys do. -/
theorem eq_of_key_eq {rows : List ρ} (hn : (rows.map key).Nodup) {r s : ρ} (hr : r ∈ rows)
    (hs : s ∈ rows) (h : key r = key s) : r = s :=
  List.inj_on_of_nodup_map hn hr hs h

end Rows

/-- Rows with a primary key and one further, possibly partial, unique index. -/
structure Table {ρ κ ι : Type} (key : ρ → κ) (index : ρ → Option ι) where
  rows : List ρ
  keys_nodup : (rows.map key).Nodup
  index_nodup : (rows.filterMap index).Nodup

namespace Table

variable {ρ κ ι : Type} {key : ρ → κ} {index : ρ → Option ι}

def empty : Table key index := ⟨[], List.nodup_nil, List.nodup_nil⟩

/-- `DELETE WHERE p`. -/
def delete (t : Table key index) (p : ρ → Prop) [DecidablePred p] : Table key index :=
  ⟨t.rows.filter fun r => ¬ p r,
    t.keys_nodup.sublist (List.filter_sublist.map key),
    t.index_nodup.sublist (List.filter_sublist.filterMap index)⟩

/-- An update that keeps every key and gives no row a new index value. -/
def mapRows (t : Table key index) (f : ρ → ρ) (hkey : ∀ r, key (f r) = key r)
    (hindex : ∀ r i, index (f r) = some i → index r = some i) : Table key index :=
  ⟨t.rows.map f,
    by
      rw [List.map_map, show key ∘ f = key from funext hkey]
      exact t.keys_nodup,
    by
      rw [List.filterMap_map]
      exact t.index_nodup.sublist (filterMap_sublist_of_le hindex t.rows)⟩

@[simp] theorem mapRows_rows (t : Table key index) (f : ρ → ρ) (hkey : ∀ r, key (f r) = key r)
    (hindex : ∀ r i, index (f r) = some i → index r = some i) :
    (t.mapRows f hkey hindex).rows = t.rows.map f := rfl

@[simp] theorem empty_rows : (empty : Table key index).rows = [] := rfl

@[simp] theorem delete_rows (t : Table key index) (p : ρ → Prop) [DecidablePred p] :
    (t.delete p).rows = t.rows.filter fun r => ¬ p r := rfl

theorem eq_of_index_eq (t : Table key index) {r s : ρ} {i : ι} (hr : r ∈ t.rows) (hs : s ∈ t.rows)
    (hri : index r = some i) (hsi : index s = some i) : r = s := by
  have hp := List.pairwise_filterMap.mp t.index_nodup
  by_contra hne
  rcases mem_pair_sublist hr hs hne with h | h
  · exact List.pairwise_iff_forall_sublist.mp hp h i hri i hsi rfl
  · exact List.pairwise_iff_forall_sublist.mp hp h i hsi i hri rfl

variable [DecidableEq κ] [DecidableEq ι]

/-- Accept a new content of the table when it keeps both constraints. -/
def ofRows? (rows : List ρ) : Option (Table key index) :=
  if h : (rows.map key).Nodup ∧ (rows.filterMap index).Nodup then some ⟨rows, h.1, h.2⟩ else none

/-- `INSERT`. -/
def insert? (t : Table key index) (r : ρ) : Option (Table key index) := ofRows? (t.rows ++ [r])

/-- `UPDATE SET f WHERE p`. -/
def update? (t : Table key index) (p : ρ → Prop) [DecidablePred p] (f : ρ → ρ) :
    Option (Table key index) := ofRows? (updateRows p f t.rows)

theorem rows_of_ofRows? {rows : List ρ} {t : Table key index} (h : ofRows? rows = some t) :
    t.rows = rows := by
  unfold ofRows? at h
  split_ifs at h
  cases h
  rfl

theorem rows_of_insert? {t t' : Table key index} {r : ρ} (h : t.insert? r = some t') :
    t'.rows = t.rows ++ [r] := rows_of_ofRows? h

theorem rows_of_update? {t t' : Table key index} {p : ρ → Prop} [DecidablePred p] {f : ρ → ρ}
    (h : t.update? p f = some t') : t'.rows = updateRows p f t.rows := rows_of_ofRows? h

end Table

end ShareSub

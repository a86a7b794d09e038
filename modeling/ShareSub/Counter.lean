import Mathlib

/-!
# Maps of counts

Finite maps from keys to integers, as a program keeps them: a missing key reads as zero, an
increment may add a key and a key whose count is back at zero may be removed. Sums over
the entries of such a map change by what the written entry changes.
-/
namespace ShareSub

/-- A map from keys to counts. -/
abbrev Counter (α : Type) := AList fun _ : α => ℤ

namespace Counter

variable {α : Type} [DecidableEq α] {s : Counter α} {a b : α} {d : ℤ} {f : α → ℤ → ℤ}

/-- `m[a]`. -/
def get (s : Counter α) (a : α) : ℤ := (s.lookup a).getD 0

/-- `m[a] += d`. -/
def add (s : Counter α) (a : α) (d : ℤ) : Counter α := s.insert a (get s a + d)

/-- `if m[a] == 0 { delete(m, a) }`. -/
def prune (s : Counter α) (a : α) : Counter α := if get s a = 0 then s.erase a else s

/-- The sum of a function over the entries. -/
def sumBy (f : α → ℤ → ℤ) (s : Counter α) : ℤ := (s.entries.map fun e => f e.1 e.2).sum

def total (s : Counter α) : ℤ := sumBy (fun _ n => n) s

@[simp] lemma get_empty (a : α) : get (∅ : Counter α) a = 0 := rfl

lemma get_add (s : Counter α) (a b : α) (d : ℤ) : get (add s a d) b = get s b + if b = a then d else 0 := by
  by_cases h : b = a
  · subst h
    simp [get, add]
  · simp [get, add, AList.lookup_insert_ne h, h]

lemma get_prune (s : Counter α) (a b : α) : get (prune s a) b = get s b := by
  unfold prune
  split_ifs with h
  · by_cases hb : b = a
    · subst hb
      rw [h]
      simp [get]
    · simp [get, AList.lookup_erase_ne hb]
  · rfl

lemma get_of_notMem (h : a ∉ s) : get s a = 0 := by
  rw [get, AList.lookup_eq_none.mpr h]
  rfl

lemma get_of_mem_entries {e : Sigma fun _ : α => ℤ} (h : e ∈ s.entries) : get s e.1 = e.2 := by
  have hlookup : s.lookup e.1 = some e.2 := AList.mem_lookup_iff.mpr h
  rw [get, hlookup]
  rfl

omit [DecidableEq α] in
lemma mem_of_mem_entries {e : Sigma fun _ : α => ℤ} (h : e ∈ s.entries) : e.1 ∈ s :=
  AList.mem_keys.mpr (List.mem_map_of_mem h)

/-- The entry of a key apart from the others. -/
lemma sumBy_eq_erase (hzero : f a 0 = 0) (s : Counter α) : sumBy f s = f a (get s a) + sumBy f (s.erase a) := by
  by_cases h : a ∈ s
  · obtain ⟨n, xs, ys, -, hentries, herase⟩ := List.exists_of_kerase (AList.mem_keys.mp h)
    have hget : get s a = n := by
      have hmem : (⟨a, n⟩ : Sigma fun _ : α => ℤ) ∈ s.entries := by
        rw [hentries]
        exact List.mem_append_right _ List.mem_cons_self
      exact get_of_mem_entries hmem
    have hrest : (s.erase a).entries = xs ++ ys := herase
    rw [hget, sumBy, sumBy, hrest, hentries]
    simp only [List.map_append, List.map_cons, List.sum_append, List.sum_cons]
    omega
  · have herase : s.erase a = s := AList.ext (List.kerase_of_notMem_keys h)
    rw [get_of_notMem h, hzero, herase, zero_add]

/-- The sum over the entries as a sum over the keys. -/
lemma sumBy_eq_sum (f : α → ℤ → ℤ) (s : Counter α) : sumBy f s = ∑ a ∈ s.keys.toFinset, f a (get s a) := by
  have hkeys : s.entries.map (fun e => f e.1 e.2) = s.keys.map fun a => f a (get s a) := by
    rw [AList.keys, List.keys, List.map_map]
    refine List.map_congr_left ?_
    intro e he
    rw [Function.comp_apply, get_of_mem_entries he]
  rw [sumBy, hkeys, List.sum_toFinset _ s.keys_nodup]

lemma sumBy_single {g : ℤ → ℤ} (hzero : g 0 = 0) (s : Counter α) (a : α) :
    sumBy (fun b n => if b = a then g n else 0) s = g (get s a) := by
  have hrest : sumBy (fun b n => if b = a then g n else 0) (s.erase a) = 0 := by
    refine List.sum_eq_zero ?_
    intro x hx
    obtain ⟨e, he, rfl⟩ := List.mem_map.mp hx
    have hne : e.1 ≠ a := (AList.mem_erase.mp (mem_of_mem_entries he)).1
    simp [hne]
  rw [sumBy_eq_erase (a := a) (by simp [hzero]), hrest]
  simp

lemma sumBy_add (hzero : f a 0 = 0) (s : Counter α) (d : ℤ) :
    sumBy f (add s a d) = sumBy f s - f a (get s a) + f a (get s a + d) := by
  rw [sumBy_eq_erase hzero s]
  simp only [sumBy, add, AList.entries_insert, AList.erase, List.map_cons, List.sum_cons]
  omega

lemma sumBy_prune (hzero : f a 0 = 0) (s : Counter α) : sumBy f (prune s a) = sumBy f s := by
  unfold prune
  split_ifs with h
  · rw [sumBy_eq_erase hzero s, h, hzero, zero_add]
  · rfl

lemma total_add (s : Counter α) (a : α) (d : ℤ) : total (add s a d) = total s + d := by
  rw [total, sumBy_add rfl, ← total]
  omega

lemma total_prune (s : Counter α) (a : α) : total (prune s a) = total s := sumBy_prune rfl s

lemma mem_add : b ∈ add s a d ↔ b = a ∨ b ∈ s := AList.mem_insert s

lemma mem_prune : b ∈ prune s a ↔ b ∈ s ∧ (b = a → get s a ≠ 0) := by
  unfold prune
  split_ifs with h
  · rw [AList.mem_erase]
    tauto
  · tauto

/-- Every key that is present counts something. -/
def Positive (s : Counter α) : Prop := ∀ a ∈ s, 0 < get s a

lemma positive_empty : Positive (∅ : Counter α) := by
  intro a h
  cases h

/-- Counts that are known and nonnegative leave no key that counts nothing. -/
lemma Positive.add_one (h : Positive s) (a : α) (hnonneg : 0 ≤ get s a) : Positive (add s a 1) := by
  intro b hb
  rw [get_add]
  split_ifs with heq
  · subst heq
    omega
  · rcases mem_add.mp hb with hba | hb
    · exact absurd hba heq
    · have := h b hb
      omega

lemma Positive.drop_one (h : Positive s) (a : α) (hpos : 0 < get s a) : Positive ((add s a (-1)).prune a) := by
  intro b hb
  obtain ⟨hmem, hkept⟩ := mem_prune.mp hb
  rw [get_prune, get_add]
  split_ifs with heq
  · subst heq
    have := hkept rfl
    rw [get_add, if_pos rfl] at this
    omega
  · rcases mem_add.mp hmem with hba | hb
    · exact absurd hba heq
    · have := h b hb
      omega

end Counter

end ShareSub

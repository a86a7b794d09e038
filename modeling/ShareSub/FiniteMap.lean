import Mathlib

/-!
# Finite maps that are filtered and rewritten as a whole

Mathlib's association lists have the lookups and the writes to one key. Added here is what a
loop over a map does: it drops keys, or writes to the value of every key.
-/
namespace ShareSub

/-- A finite map. -/
abbrev FiniteMap (α β : Type) := AList fun _ : α => β

namespace FiniteMap

variable {α β : Type} {s : FiniteMap α β} {a : α} {b : β}

/-- Delete the keys that do not pass. -/
def keep (p : α → β → Bool) (s : FiniteMap α β) : FiniteMap α β :=
  ⟨s.entries.filter fun e => p e.1 e.2, s.nodupKeys.sublist List.filter_sublist⟩

/-- Write to the value of every key. -/
def mapValues (f : β → β) (s : FiniteMap α β) : FiniteMap α β :=
  ⟨s.entries.map fun e => ⟨e.1, f e.2⟩, by
    have hkeys : (s.entries.map fun e => (⟨e.1, f e.2⟩ : Sigma fun _ : α => β)).keys = s.entries.keys := by
      rw [List.keys, List.map_map]
      rfl
    rw [List.NodupKeys, hkeys]
    exact s.nodupKeys⟩

variable [DecidableEq α]

lemma lookup_keep (p : α → β → Bool) (s : FiniteMap α β) (a : α) :
    (keep p s).lookup a = (s.lookup a).filter (p a) := by
  ext b
  rw [Option.filter_eq_some_iff]
  rw [← Option.mem_def, AList.mem_lookup_iff, ← Option.mem_def, AList.mem_lookup_iff]
  exact List.mem_filter

lemma lookup_keep_eq_some {p : α → β → Bool} :
    (keep p s).lookup a = some b ↔ s.lookup a = some b ∧ p a b := by
  rw [lookup_keep, Option.filter_eq_some_iff]

lemma lookup_mapValues (f : β → β) (s : FiniteMap α β) (a : α) :
    (mapValues f s).lookup a = (s.lookup a).map f := by
  ext b
  rw [← Option.mem_def, AList.mem_lookup_iff, Option.map_eq_some_iff]
  constructor
  · intro h
    obtain ⟨⟨a', b'⟩, he, heq⟩ := List.mem_map.mp h
    cases heq
    exact ⟨b', AList.mem_lookup_iff.mpr he, rfl⟩
  · rintro ⟨b', hlookup, rfl⟩
    exact List.mem_map.mpr ⟨⟨a, b'⟩, AList.mem_lookup_iff.mp hlookup, rfl⟩

lemma mem_entries_iff {e : Sigma fun _ : α => β} : e ∈ s.entries ↔ s.lookup e.1 = some e.2 :=
  AList.mem_lookup_iff.symm

lemma lookup_insert (s : FiniteMap α β) (a a' : α) (b : β) :
    (s.insert a b).lookup a' = if a' = a then some b else s.lookup a' := by
  split_ifs with h
  · subst h
    exact AList.lookup_insert s
  · exact AList.lookup_insert_ne h

end FiniteMap

end ShareSub

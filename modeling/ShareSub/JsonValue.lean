import Mathlib

/-!
# JSON values

A value is what a JSON text denotes: a number is its exact value, and an object its members, each key once. Members are
read by key; a key that is written replaces the one that is there.
-/
namespace ShareSub.JsonValue

inductive Value
  | null
  | bool (b : Bool)
  | number (q : ℚ)
  | string (s : String)
  | array (items : List Value)
  | object (members : List (String × Value))

abbrev Members := List (String × Value)

namespace Members

variable {m : Members} {key key' : String} {v : Value}

def get (m : Members) (key : String) : Option Value := (m.find? fun e => e.1 = key).map Prod.snd

def delete (m : Members) (key : String) : Members := m.filter fun e => e.1 ≠ key

def set (m : Members) (key : String) (v : Value) : Members := (key, v) :: delete m key

@[simp] lemma get_nil (key : String) : get [] key = none := rfl

lemma get_cons (e : String × Value) (m : Members) (key : String) :
    get (e :: m) key = if e.1 = key then some e.2 else get m key := by
  unfold get
  by_cases h : e.1 = key
  · rw [List.find?_cons_of_pos (by simpa using h), if_pos h]
    rfl
  · rw [List.find?_cons_of_neg (by simpa using h), if_neg h]

lemma get_delete_self (m : Members) (key : String) : get (delete m key) key = none := by
  unfold get delete
  rw [Option.map_eq_none_iff, List.find?_eq_none]
  intro e he
  simpa using (List.mem_filter.1 he).2

lemma get_delete_of_ne (m : Members) (h : key' ≠ key) : get (delete m key) key' = get m key' := by
  induction m with
  | nil => rfl
  | cons e m ih =>
    unfold delete at ih ⊢
    by_cases he : e.1 = key
    · rw [List.filter_cons_of_neg (by simpa using he), ih, get_cons, if_neg fun heq => h (heq.symm.trans he)]
    · rw [List.filter_cons_of_pos (by simpa using he), get_cons, get_cons, ih]

lemma get_delete (m : Members) (key key' : String) : get (delete m key) key' = if key' = key then none else get m key' := by
  split_ifs with h
  · rw [h, get_delete_self]
  · exact get_delete_of_ne m h

lemma get_set (m : Members) (key : String) (v : Value) (key' : String) :
    get (set m key v) key' = if key' = key then some v else get m key' := by
  unfold set
  rw [get_cons]
  by_cases h : key' = key
  · rw [if_pos h.symm, if_pos h]
  · rw [if_neg fun heq => h heq.symm, if_neg h, get_delete_of_ne m h]

/-- The members are changed in place. -/
def mapValues (m : Members) (f : String → Value → Value) : Members := m.map fun e => (e.1, f e.1 e.2)

/-- One member is changed in place, if it is there. -/
def update (m : Members) (key : String) (f : Value → Value) : Members := m.mapValues fun k v => if k = key then f v else v

/-- The member that is read by a key gets another value. -/
def replace (m : Members) (key : String) (v : Value) : Members :=
  match m with
  | [] => []
  | e :: m => if e.1 = key then (key, v) :: m else e :: replace m key v

def erase (m : Members) (keys : List String) : Members := m.filter fun e => e.1 ∉ keys

lemma get_mapValues (m : Members) (f : String → Value → Value) (key : String) :
    get (m.mapValues f) key = (get m key).map (f key) := by
  induction m with
  | nil => rfl
  | cons e m ih =>
    unfold mapValues at ih ⊢
    rw [List.map_cons, get_cons, get_cons, ih]
    split_ifs with h
    · rw [h]
      rfl
    · rfl

lemma get_update (m : Members) (key : String) (f : Value → Value) (key' : String) :
    get (m.update key f) key' = if key' = key then (get m key').map f else get m key' := by
  rw [update, get_mapValues]
  split_ifs with h
  · rfl
  · cases get m key' <;> rfl

lemma get_erase (m : Members) (keys : List String) (key : String) :
    get (m.erase keys) key = if key ∈ keys then none else get m key := by
  induction m with
  | nil =>
    split_ifs
    · rfl
    · rfl
  | cons e m ih =>
    unfold erase at ih ⊢
    by_cases he : e.1 ∈ keys
    · rw [List.filter_cons_of_neg (by simpa using he), ih, get_cons]
      split_ifs with hkey heq
      · rfl
      · exact absurd (heq ▸ he) hkey
      · rfl
    · rw [List.filter_cons_of_pos (by simpa using he), get_cons, get_cons, ih]
      split_ifs with heq hkey
      · exact absurd (heq ▸ hkey) he
      · rfl
      · rfl
      · rfl

lemma mapValues_mapValues (m : Members) (f g : String → Value → Value) :
    (m.mapValues f).mapValues g = m.mapValues fun k v => g k (f k v) := by
  unfold mapValues
  rw [List.map_map]
  rfl

lemma erase_mapValues (m : Members) (keys : List String) (f : String → Value → Value) :
    (m.mapValues f).erase keys = (m.erase keys).mapValues f := by
  induction m with
  | nil => rfl
  | cons e m ih =>
    unfold erase mapValues at ih ⊢
    rw [List.map_cons]
    by_cases he : e.1 ∈ keys
    · rw [List.filter_cons_of_neg (by simpa using he), List.filter_cons_of_neg (by simpa using he), ih]
    · rw [List.filter_cons_of_pos (by simpa using he), List.filter_cons_of_pos (by simpa using he), ih, List.map_cons]

lemma erase_erase {keys keys' : List String} (m : Members) (h : keys' ⊆ keys) : (m.erase keys').erase keys = m.erase keys := by
  unfold erase
  rw [List.filter_filter]
  refine List.filter_congr fun e _ => ?_
  by_cases he : e.1 ∈ keys'
  · simp [he, h he]
  · simp [he]

lemma delete_eq_erase (m : Members) (key : String) : m.delete key = m.erase [key] := by
  unfold delete erase
  simp

/-- What is erased may have been written. -/
lemma erase_set {keys : List String} (m : Members) (hkey : key ∈ keys) (v : Value) : (m.set key v).erase keys = m.erase keys := by
  have hdelete : (m.delete key).erase keys = m.erase keys := by
    rw [delete_eq_erase]
    exact erase_erase m (by simpa using hkey)
  unfold set
  rw [← hdelete]
  exact List.filter_cons_of_neg (by simpa using hkey)

/-- What is erased may have been changed. -/
lemma erase_update {keys : List String} (m : Members) (hkey : key ∈ keys) (f : Value → Value) :
    (m.update key f).erase keys = m.erase keys := by
  rw [update, erase_mapValues]
  refine (List.map_congr_left fun e he => ?_).trans (List.map_id _)
  have hne : e.1 ≠ key := fun heq => absurd (heq ▸ hkey) (by simpa using (List.mem_filter.1 he).2)
  dsimp only
  rw [if_neg hne]
  rfl

lemma get_replace_of_ne (m : Members) (v : Value) (h : key' ≠ key) : get (m.replace key v) key' = get m key' := by
  induction m with
  | nil => rfl
  | cons e m ih =>
    unfold replace
    split_ifs with he
    · rw [get_cons, get_cons, if_neg h.symm, if_neg (he ▸ h.symm)]
    · rw [get_cons, get_cons, ih]

lemma erase_cons (e : String × Value) (m : Members) (keys : List String) :
    erase (e :: m) keys = if e.1 ∈ keys then m.erase keys else e :: m.erase keys := by
  unfold erase
  split_ifs with he
  · rw [List.filter_cons_of_neg (by simpa using he)]
  · rw [List.filter_cons_of_pos (by simpa using he)]

lemma erase_replace {keys : List String} (m : Members) (hkey : key ∈ keys) (v : Value) :
    (m.replace key v).erase keys = m.erase keys := by
  induction m with
  | nil => rfl
  | cons e m ih =>
    unfold replace
    split_ifs with he
    · rw [erase_cons, erase_cons, if_pos hkey, if_pos (he ▸ hkey)]
    · rw [erase_cons, erase_cons, ih]

/-- A value is erased, or replaced by one that looks the same. -/
lemma mapValues_erase_replace {keys : List String} {f : String → Value → Value}
    (h : key ∈ keys ∨ ∀ w, m.get key = some w → f key v = f key w) :
    ((m.replace key v).erase keys).mapValues f = (m.erase keys).mapValues f := by
  induction m with
  | nil => rfl
  | cons e m ih =>
    unfold replace
    by_cases he : e.1 = key
    · rw [if_pos he, erase_cons, erase_cons]
      dsimp only
      rw [he]
      split_ifs with hkey
      · rfl
      · have hsame : f key v = f key e.2 := h.resolve_left hkey e.2 (by rw [get_cons, if_pos he])
        unfold mapValues
        rw [List.map_cons, List.map_cons]
        dsimp only
        rw [he, hsame]
    · have htail := ih (h.imp_right fun hsame w hw => hsame w (by rw [get_cons, if_neg he, hw]))
      rw [if_neg he, erase_cons, erase_cons]
      split_ifs
      · exact htail
      · unfold mapValues at htail ⊢
        rw [List.map_cons, List.map_cons, htail]

end Members

section Floats

/-- The numbers of a value are decoded as floats and encoded again; this fails when one is out of range. -/
def Value.decodeFloats (float64 : ℚ → Option ℚ) : Value → Option Value
  | .null => some .null
  | .bool b => some (.bool b)
  | .number q => (float64 q).map .number
  | .string s => some (.string s)
  | .array items => (decodeItems items).map .array
  | .object members => (decodeMembers members).map .object
where
  decodeItems : List Value → Option (List Value)
    | [] => some []
    | v :: items => (v.decodeFloats float64).bind fun w => (decodeItems items).map fun rest => w :: rest
  decodeMembers : List (String × Value) → Option (List (String × Value))
    | [] => some []
    | (key, v) :: members =>
      (v.decodeFloats float64).bind fun w => (decodeMembers members).map fun rest => (key, w) :: rest

/-- The members of an object with its numbers as floats. -/
def Members.decodeFloats (float64 : ℚ → Option ℚ) (m : Members) : Option Members :=
  Value.decodeFloats.decodeMembers float64 m

variable {float64 : ℚ → Option ℚ}

lemma Members.decodeFloats_cons (key : String) (v : Value) (m : Members) :
    Members.decodeFloats float64 ((key, v) :: m) =
      (v.decodeFloats float64).bind fun w => (m.decodeFloats float64).map fun rest => (key, w) :: rest := rfl

lemma Members.decodeFloats_cons_eq_some {key : String} {v : Value} {m m' : Members}
    (h : Members.decodeFloats float64 ((key, v) :: m) = some m') :
    ∃ w rest, v.decodeFloats float64 = some w ∧ m.decodeFloats float64 = some rest ∧ m' = (key, w) :: rest := by
  rw [decodeFloats_cons] at h
  obtain ⟨w, hw, h⟩ := Option.bind_eq_some_iff.1 h
  obtain ⟨rest, hrest, rfl⟩ := Option.map_eq_some_iff.1 h
  exact ⟨w, rest, hw, hrest, rfl⟩

lemma Members.get_decodeFloats {m m' : Members} (h : m.decodeFloats float64 = some m') (key : String) :
    m'.get key = (m.get key).bind (Value.decodeFloats float64) ∧ (m'.get key).isSome = (m.get key).isSome := by
  induction m generalizing m' with
  | nil =>
    cases h
    exact ⟨rfl, rfl⟩
  | cons e m ih =>
    obtain ⟨k, v⟩ := e
    obtain ⟨w, rest, hw, hrest, rfl⟩ := Members.decodeFloats_cons_eq_some h
    obtain ⟨hget, hsome⟩ := ih hrest
    rw [Members.get_cons, Members.get_cons]
    by_cases hk : k = key
    · rw [if_pos hk, if_pos hk, Option.bind_some, hw]
      exact ⟨rfl, rfl⟩
    · rw [if_neg hk, if_neg hk]
      exact ⟨hget, hsome⟩

/-- The change does not depend on whether numbers are decoded as floats before or after it. -/
def Commutes (float64 : ℚ → Option ℚ) (f : Value → Value) : Prop :=
  ∀ v w, v.decodeFloats float64 = some w → (f v).decodeFloats float64 = some (f w)

lemma Members.decodeFloats_mapValues {m m' : Members} {f : String → Value → Value} (hf : ∀ key, Commutes float64 (f key))
    (h : m.decodeFloats float64 = some m') : (m.mapValues f).decodeFloats float64 = some (m'.mapValues f) := by
  induction m generalizing m' with
  | nil =>
    cases h
    rfl
  | cons e m ih =>
    obtain ⟨key, v⟩ := e
    obtain ⟨w, rest, hw, hrest, rfl⟩ := Members.decodeFloats_cons_eq_some h
    have htail := ih hrest
    unfold mapValues at htail ⊢
    rw [List.map_cons, List.map_cons, Members.decodeFloats_cons, hf key v w hw, Option.bind_some, htail]
    rfl

lemma Members.decodeFloats_erase {m m' : Members} (keys : List String) (h : m.decodeFloats float64 = some m') :
    (m.erase keys).decodeFloats float64 = some (m'.erase keys) := by
  induction m generalizing m' with
  | nil =>
    cases h
    rfl
  | cons e m ih =>
    obtain ⟨key, v⟩ := e
    obtain ⟨w, rest, hw, hrest, rfl⟩ := Members.decodeFloats_cons_eq_some h
    have htail := ih hrest
    unfold erase at htail ⊢
    by_cases hkey : key ∈ keys
    · rw [List.filter_cons_of_neg (by simpa using hkey), List.filter_cons_of_neg (by simpa using hkey), htail]
    · rw [List.filter_cons_of_pos (by simpa using hkey), List.filter_cons_of_pos (by simpa using hkey),
        Members.decodeFloats_cons, hw, Option.bind_some, htail]
      rfl

lemma decodeItems_map {items items' : List Value} {f : Value → Value} (hf : Commutes float64 f)
    (h : Value.decodeFloats.decodeItems float64 items = some items') :
    Value.decodeFloats.decodeItems float64 (items.map f) = some (items'.map f) := by
  induction items generalizing items' with
  | nil =>
    cases h
    rfl
  | cons v items ih =>
    rw [Value.decodeFloats.decodeItems] at h
    obtain ⟨w, hw, h⟩ := Option.bind_eq_some_iff.1 h
    obtain ⟨rest, hrest, rfl⟩ := Option.map_eq_some_iff.1 h
    rw [List.map_cons, List.map_cons, Value.decodeFloats.decodeItems, hf v w hw, Option.bind_some, ih hrest]
    rfl

/-- The numbers of a value. -/
def Value.numbers : Value → List ℚ
  | .number q => [q]
  | .array items => itemNumbers items
  | .object members => memberNumbers members
  | _ => []
where
  itemNumbers : List Value → List ℚ
    | [] => []
    | v :: items => v.numbers ++ itemNumbers items
  memberNumbers : List (String × Value) → List ℚ
    | [] => []
    | (_, v) :: members => v.numbers ++ memberNumbers members

mutual

/-- A value that comes back as it was has no number that does not. -/
theorem Value.decodeFloats_eq_self (float64 : ℚ → Option ℚ) : (v : Value) →
    (v.decodeFloats float64 = some v ↔ ∀ q ∈ v.numbers, float64 q = some q)
  | .null => by simp [Value.decodeFloats, Value.numbers]
  | .bool b => by simp [Value.decodeFloats, Value.numbers]
  | .number q => by simp [Value.decodeFloats, Value.numbers]
  | .string s => by simp [Value.decodeFloats, Value.numbers]
  | .array items => by
    have hitems := decodeItems_eq_self float64 items
    simpa [Value.decodeFloats, Value.numbers] using hitems
  | .object members => by
    have hmembers := decodeMembers_eq_self float64 members
    simpa [Value.decodeFloats, Value.numbers] using hmembers

theorem decodeItems_eq_self (float64 : ℚ → Option ℚ) : (items : List Value) →
    (Value.decodeFloats.decodeItems float64 items = some items ↔
      ∀ q ∈ Value.numbers.itemNumbers items, float64 q = some q)
  | [] => by simp [Value.decodeFloats.decodeItems, Value.numbers.itemNumbers]
  | v :: items => by
    have hv := Value.decodeFloats_eq_self float64 v
    have hitems := decodeItems_eq_self float64 items
    simp only [Value.decodeFloats.decodeItems, Value.numbers.itemNumbers, List.mem_append]
    rw [Option.bind_eq_some_iff]
    simp only [Option.map_eq_some_iff, List.cons.injEq]
    constructor
    · rintro ⟨w, hw, rest, hrest, rfl, rfl⟩ q (hq | hq)
      · exact hv.mp hw q hq
      · exact hitems.mp hrest q hq
    · intro h
      exact ⟨v, hv.mpr fun q hq => h q (Or.inl hq), items, hitems.mpr fun q hq => h q (Or.inr hq), rfl, rfl⟩

theorem decodeMembers_eq_self (float64 : ℚ → Option ℚ) : (members : List (String × Value)) →
    (Value.decodeFloats.decodeMembers float64 members = some members ↔
      ∀ q ∈ Value.numbers.memberNumbers members, float64 q = some q)
  | [] => by simp [Value.decodeFloats.decodeMembers, Value.numbers.memberNumbers]
  | (key, v) :: members => by
    have hv := Value.decodeFloats_eq_self float64 v
    have hmembers := decodeMembers_eq_self float64 members
    simp only [Value.decodeFloats.decodeMembers, Value.numbers.memberNumbers, List.mem_append]
    rw [Option.bind_eq_some_iff]
    simp only [Option.map_eq_some_iff, List.cons.injEq, Prod.mk.injEq, true_and]
    constructor
    · rintro ⟨w, hw, rest, hrest, rfl, rfl⟩ q (hq | hq)
      · exact hv.mp hw q hq
      · exact hmembers.mp hrest q hq
    · intro h
      exact ⟨v, hv.mpr fun q hq => h q (Or.inl hq), members, hmembers.mpr fun q hq => h q (Or.inr hq), rfl, rfl⟩

end

mutual

/-- A value that has come back comes back as it is. -/
theorem Value.decodeFloats_again {float64 : ℚ → Option ℚ} (hround : ∀ q r, float64 q = some r → float64 r = some r) :
    (v w : Value) → v.decodeFloats float64 = some w → w.decodeFloats float64 = some w
  | .null, w, h => by
    cases h
    rfl
  | .bool b, w, h => by
    cases h
    rfl
  | .number q, w, h => by
    obtain ⟨r, hr, rfl⟩ := Option.map_eq_some_iff.1 h
    rw [Value.decodeFloats, hround q r hr]
    rfl
  | .string s, w, h => by
    cases h
    rfl
  | .array items, w, h => by
    obtain ⟨items', hitems, rfl⟩ := Option.map_eq_some_iff.1 h
    rw [Value.decodeFloats, decodeItems_again hround items items' hitems]
    rfl
  | .object members, w, h => by
    obtain ⟨members', hmembers, rfl⟩ := Option.map_eq_some_iff.1 h
    rw [Value.decodeFloats, decodeMembers_again hround members members' hmembers]
    rfl

theorem decodeItems_again {float64 : ℚ → Option ℚ} (hround : ∀ q r, float64 q = some r → float64 r = some r) :
    (items items' : List Value) → Value.decodeFloats.decodeItems float64 items = some items' →
      Value.decodeFloats.decodeItems float64 items' = some items'
  | [], items', h => by
    cases h
    rfl
  | v :: items, items', h => by
    rw [Value.decodeFloats.decodeItems] at h
    obtain ⟨w, hw, h⟩ := Option.bind_eq_some_iff.1 h
    obtain ⟨rest, hrest, rfl⟩ := Option.map_eq_some_iff.1 h
    rw [Value.decodeFloats.decodeItems, Value.decodeFloats_again hround v w hw, Option.bind_some,
      decodeItems_again hround items rest hrest]
    rfl

theorem decodeMembers_again {float64 : ℚ → Option ℚ} (hround : ∀ q r, float64 q = some r → float64 r = some r) :
    (members members' : List (String × Value)) → Value.decodeFloats.decodeMembers float64 members = some members' →
      Value.decodeFloats.decodeMembers float64 members' = some members'
  | [], members', h => by
    cases h
    rfl
  | (key, v) :: members, members', h => by
    rw [Value.decodeFloats.decodeMembers] at h
    obtain ⟨w, hw, h⟩ := Option.bind_eq_some_iff.1 h
    obtain ⟨rest, hrest, rfl⟩ := Option.map_eq_some_iff.1 h
    rw [Value.decodeFloats.decodeMembers, Value.decodeFloats_again hround v w hw, Option.bind_some,
      decodeMembers_again hround members rest hrest]
    rfl

end

end Floats

section Inside

variable {float64 : ℚ → Option ℚ} {f g : Value → Value} {F G : Members → Members}

/-- A change of the members, if the value is an object. -/
def Value.onObject (F : Members → Members) : Value → Value
  | .object members => .object (F members)
  | v => v

/-- A change of the items, if the value is an array. -/
def Value.inItems (f : Value → Value) : Value → Value
  | .array items => .array (items.map f)
  | v => v

/-- A change of one member, if the value is an object that has it. -/
def Value.inMember (key : String) (f : Value → Value) : Value → Value := Value.onObject fun m => m.update key f

def Value.without (keys : List String) : Value → Value := Value.onObject fun m => m.erase keys

lemma Value.onObject_onObject (v : Value) : Value.onObject F (Value.onObject G v) = Value.onObject (fun m => F (G m)) v := by
  cases v <;> rfl

lemma Value.inItems_inItems (v : Value) : Value.inItems f (Value.inItems g v) = Value.inItems (fun w => f (g w)) v := by
  cases v with
  | array items => exact congrArg Value.array List.map_map
  | _ => rfl

lemma Members.update_update_same (m : Members) (key : String) :
    (m.update key g).update key f = m.update key fun v => f (g v) := by
  unfold update
  rw [mapValues_mapValues]
  congr 1
  funext k v
  split_ifs <;> rfl

lemma Members.update_comm (m : Members) {key key' : String} (h : key ≠ key') :
    (m.update key g).update key' f = (m.update key' f).update key g := by
  unfold update
  rw [mapValues_mapValues, mapValues_mapValues]
  congr 1
  funext k v
  split_ifs with hkey' hkey hkey
  · exact absurd (hkey.symm.trans hkey') h
  · rfl
  · rfl
  · rfl

lemma Value.inMember_same (key : String) (v : Value) :
    Value.inMember key f (Value.inMember key g v) = Value.inMember key (fun w => f (g w)) v := by
  unfold Value.inMember
  rw [Value.onObject_onObject]
  congr 1
  funext m
  exact Members.update_update_same m key

lemma Value.inMember_comm {key key' : String} (h : key ≠ key') (v : Value) :
    Value.inMember key' f (Value.inMember key g v) = Value.inMember key g (Value.inMember key' f v) := by
  unfold Value.inMember
  rw [Value.onObject_onObject, Value.onObject_onObject]
  congr 1
  funext m
  exact Members.update_comm m h

lemma Value.without_inMember {keys : List String} {key : String} (h : key ∈ keys) (v : Value) :
    Value.without keys (Value.inMember key f v) = Value.without keys v := by
  unfold Value.without Value.inMember
  rw [Value.onObject_onObject]
  congr 1
  funext m
  exact Members.erase_update m h f

lemma Commutes.id : Commutes float64 fun v => v := fun _ _ h => h

lemma Commutes.comp (hf : Commutes float64 f) (hg : Commutes float64 g) : Commutes float64 fun v => f (g v) :=
  fun v w h => hf (g v) (g w) (hg v w h)

lemma Commutes.onObject
    (hF : ∀ m m' : Members, m.decodeFloats float64 = some m' → (F m).decodeFloats float64 = some (F m')) :
    Commutes float64 (Value.onObject F) := by
  intro v w h
  cases v with
  | object members =>
    obtain ⟨members', hmembers, rfl⟩ := Option.map_eq_some_iff.1 h
    exact Option.map_eq_some_iff.2 ⟨_, hF members members' hmembers, rfl⟩
  | array items =>
    obtain ⟨items', hitems, rfl⟩ := Option.map_eq_some_iff.1 h
    exact Option.map_eq_some_iff.2 ⟨_, hitems, rfl⟩
  | number q =>
    obtain ⟨r, hr, rfl⟩ := Option.map_eq_some_iff.1 h
    exact Option.map_eq_some_iff.2 ⟨_, hr, rfl⟩
  | _ =>
    cases h
    rfl

lemma Commutes.inItems (hf : Commutes float64 f) : Commutes float64 (Value.inItems f) := by
  intro v w h
  cases v with
  | array items =>
    obtain ⟨items', hitems, rfl⟩ := Option.map_eq_some_iff.1 h
    exact Option.map_eq_some_iff.2 ⟨_, decodeItems_map hf hitems, rfl⟩
  | object members =>
    obtain ⟨members', hmembers, rfl⟩ := Option.map_eq_some_iff.1 h
    exact Option.map_eq_some_iff.2 ⟨_, hmembers, rfl⟩
  | number q =>
    obtain ⟨r, hr, rfl⟩ := Option.map_eq_some_iff.1 h
    exact Option.map_eq_some_iff.2 ⟨_, hr, rfl⟩
  | _ =>
    cases h
    rfl

lemma Commutes.inMember (hf : Commutes float64 f) (key : String) : Commutes float64 (Value.inMember key f) := by
  refine Commutes.onObject fun m m' h => Members.decodeFloats_mapValues (fun k => ?_) h
  split_ifs
  · exact hf
  · exact Commutes.id

lemma Commutes.without (keys : List String) : Commutes float64 (Value.without keys) :=
  Commutes.onObject fun _ _ h => Members.decodeFloats_erase keys h

end Inside

end ShareSub.JsonValue

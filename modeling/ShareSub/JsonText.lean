import Mathlib

/-!
# The texts of JSON

A scanner that reads a JSON text byte by byte, with the objects and arrays that are open on a stack. It says which texts
are valid. An object on a line of its own is a valid text together with what stands before it only if that is blank.
-/
namespace ShareSub.JsonText

section Scanner

inductive Frame | object | array
  deriving DecidableEq, Repr

/-- How far a number has come. -/
inductive Digits | minus | zero | integer | point | fraction | exponent | sign | power
  deriving DecidableEq, Repr

inductive Word | true | false | null
  deriving DecidableEq, Repr

/-- What the scanner is in the middle of. A string that is a key is marked. -/
inductive Mode
  | value
  | element
  | member
  | key
  | colon
  | text (isKey : Bool)
  | escape (isKey : Bool)
  | unicode (isKey : Bool) (left : ℕ)
  | number (digits : Digits)
  | word (word : Word) (read : ℕ)
  | finished
  deriving DecidableEq, Repr

structure Scanner where
  stack : List Frame
  mode : Mode
  deriving DecidableEq, Repr

def isSpace (b : UInt8) : Bool := b = 32 || b = 9 || b = 10 || b = 13

def Blank (x : List UInt8) : Prop := ∀ b ∈ x, isSpace b = true

instance (x : List UInt8) : Decidable (Blank x) := inferInstanceAs (Decidable (∀ b ∈ x, isSpace b = true))

def isDigit (b : UInt8) : Bool := 48 ≤ b && b ≤ 57

def isHex (b : UInt8) : Bool := isDigit b || (97 ≤ b && b ≤ 102) || (65 ≤ b && b ≤ 70)

/-- The bytes that may follow a backslash, except for the one that begins four hexadecimal digits. -/
def escapes : List UInt8 := [34, 92, 47, 98, 102, 110, 114, 116]

def Word.letters : Word → List UInt8
  | .true => [116, 114, 117, 101]
  | .false => [102, 97, 108, 115, 101]
  | .null => [110, 117, 108, 108]

def Digits.next (b : UInt8) : Digits → Option Digits
  | .minus => if b = 48 then some .zero else if isDigit b then some .integer else none
  | .zero => if b = 46 then some .point else if b = 101 || b = 69 then some .exponent else none
  | .integer =>
    if isDigit b then some .integer else if b = 46 then some .point
    else if b = 101 || b = 69 then some .exponent else none
  | .point => if isDigit b then some .fraction else none
  | .fraction => if isDigit b then some .fraction else if b = 101 || b = 69 then some .exponent else none
  | .exponent => if b = 43 || b = 45 then some .sign else if isDigit b then some .power else none
  | .sign => if isDigit b then some .power else none
  | .power => if isDigit b then some .power else none

def Digits.complete : Digits → Bool
  | .zero | .integer | .fraction | .power => true
  | _ => false

/-- The first byte of a value. -/
def start (stack : List Frame) (b : UInt8) : Option Scanner :=
  if b = 123 then some ⟨.object :: stack, .member⟩
  else if b = 91 then some ⟨.array :: stack, .element⟩
  else if b = 34 then some ⟨stack, .text false⟩
  else if b = 45 then some ⟨stack, .number .minus⟩
  else if b = 48 then some ⟨stack, .number .zero⟩
  else if isDigit b then some ⟨stack, .number .integer⟩
  else if b = 116 then some ⟨stack, .word .true 1⟩
  else if b = 102 then some ⟨stack, .word .false 1⟩
  else if b = 110 then some ⟨stack, .word .null 1⟩
  else none

/-- A byte after a value. -/
def follow (stack : List Frame) (b : UInt8) : Option Scanner :=
  if isSpace b then some ⟨stack, .finished⟩
  else
    match stack with
    | [] => none
    | .object :: rest => if b = 44 then some ⟨stack, .key⟩ else if b = 125 then some ⟨rest, .finished⟩ else none
    | .array :: rest => if b = 44 then some ⟨stack, .value⟩ else if b = 93 then some ⟨rest, .finished⟩ else none

/-- A string has ended. -/
def quoted (isKey : Bool) : Mode := if isKey then .colon else .finished

def step (s : Scanner) (b : UInt8) : Option Scanner :=
  match s.mode with
  | .value => if isSpace b then some s else start s.stack b
  | .element => if isSpace b then some s else if b = 93 then some ⟨s.stack.tail, .finished⟩ else start s.stack b
  | .member =>
    if isSpace b then some s else if b = 34 then some ⟨s.stack, .text true⟩
    else if b = 125 then some ⟨s.stack.tail, .finished⟩ else none
  | .key => if isSpace b then some s else if b = 34 then some ⟨s.stack, .text true⟩ else none
  | .colon => if isSpace b then some s else if b = 58 then some ⟨s.stack, .value⟩ else none
  | .text isKey =>
    if b = 34 then some ⟨s.stack, quoted isKey⟩ else if b = 92 then some ⟨s.stack, .escape isKey⟩
    else if b < 32 then none else some s
  | .escape isKey =>
    if b ∈ escapes then some ⟨s.stack, .text isKey⟩ else if b = 117 then some ⟨s.stack, .unicode isKey 3⟩ else none
  | .unicode isKey left =>
    if isHex b then some ⟨s.stack, if left = 0 then .text isKey else .unicode isKey (left - 1)⟩ else none
  | .number digits =>
    match digits.next b with
    | some digits => some ⟨s.stack, .number digits⟩
    | none => if digits.complete then follow s.stack b else none
  | .word word read =>
    if word.letters[read]? = some b then
      some ⟨s.stack, if read + 1 = word.letters.length then .finished else .word word (read + 1)⟩
    else none
  | .finished => follow s.stack b

def scan : Scanner → List UInt8 → Option Scanner
  | s, [] => some s
  | s, b :: x => (step s b).bind fun t => scan t x

def initial : Scanner := ⟨[], .value⟩

/-- The text may end here. -/
def Scanner.accepting (s : Scanner) : Bool :=
  s.stack.isEmpty && match s.mode with
    | .finished => true
    | .number digits => digits.complete
    | _ => false

def Valid (x : List UInt8) : Bool := (scan initial x).any Scanner.accepting

end Scanner

section Runs

variable {s t : Scanner} {b : UInt8} {x y : List UInt8} {stack : List Frame}

lemma scan_append (s : Scanner) (x y : List UInt8) : scan s (x ++ y) = (scan s x).bind fun t => scan t y := by
  induction x generalizing s with
  | nil => rfl
  | cons b x ih =>
    rw [List.cons_append, scan, scan]
    cases step s b with
    | none => rfl
    | some t => exact ih t

lemma scan_blank (h : Blank x) : scan ⟨stack, .value⟩ x = some ⟨stack, .value⟩ := by
  induction x with
  | nil => rfl
  | cons b x ih =>
    have hstep : step ⟨stack, .value⟩ b = some ⟨stack, .value⟩ := by simp [step, h b (by simp)]
    rw [scan, hstep]
    exact ih fun c hc => h c (by simp [hc])

/-- The bytes of a string that stand for themselves. -/
def Plain (x : List UInt8) : Prop := ∀ b ∈ x, b ≠ 34 ∧ b ≠ 92 ∧ 32 ≤ b

lemma scan_plain (h : Plain x) (isKey : Bool) : scan ⟨stack, .text isKey⟩ x = some ⟨stack, .text isKey⟩ := by
  induction x with
  | nil => rfl
  | cons b x ih =>
    obtain ⟨hquote, hslash, hprint⟩ := h b (by simp)
    have hstep : step ⟨stack, .text isKey⟩ b = some ⟨stack, .text isKey⟩ := by
      simpa [step, hquote, hslash] using hprint
    rw [scan, hstep]
    exact ih fun c hc => h c (by simp [hc])

end Runs

section Objects

variable {s t : Scanner} {b : UInt8} {x y : List UInt8} {stack : List Frame}

/-- Nothing is open: then the scanner is not within an array or an object, and if it waits for the value, it has read
nothing but space. -/
def Outer (x : List UInt8) : Mode → Prop
  | .value => Blank x
  | .element | .member | .key | .colon | .text true | .escape true | .unicode true _ => False
  | _ => True

lemma start_outer (h : start stack b = some t) (hempty : t.stack = []) : Outer x t.mode := by
  unfold start at h
  split_ifs at h
  all_goals cases h
  · cases hempty
  · cases hempty
  all_goals trivial

lemma follow_outer (h : follow stack b = some t) (hempty : t.stack = []) : Outer x t.mode := by
  cases stack with
  | nil =>
    simp only [follow] at h
    split_ifs at h
    cases h
    trivial
  | cons frame rest =>
    cases frame with
    | object =>
      simp only [follow] at h
      split_ifs at h
      · cases h
        trivial
      · cases h
        cases hempty
      · cases h
        trivial
    | array =>
      simp only [follow] at h
      split_ifs at h
      · cases h
        trivial
      · cases h
        cases hempty
      · cases h
        trivial

lemma quoted_outer {isKey : Bool} (h : Outer x (.text isKey)) (y : List UInt8) : Outer y (quoted isKey) := by
  cases isKey with
  | true => exact h.elim
  | false => trivial

lemma step_outer (hs : s.stack = [] → Outer x s.mode) (h : step s b = some t) (hempty : t.stack = []) :
    Outer (x ++ [b]) t.mode := by
  obtain ⟨stack, mode⟩ := s
  cases mode with
  | value =>
    simp only [step] at h
    split_ifs at h with hspace
    · cases h
      have hblank : Blank x := hs hempty
      intro c hc
      rcases List.mem_append.1 hc with hc | hc
      · exact hblank c hc
      · rw [List.mem_singleton.1 hc]
        exact hspace
    · exact start_outer h hempty
  | element =>
    simp only [step] at h
    split_ifs at h
    · cases h
      exact (hs hempty).elim
    · cases h
      trivial
    · exact start_outer h hempty
  | member =>
    simp only [step] at h
    split_ifs at h
    · cases h
      exact (hs hempty).elim
    · cases h
      exact (hs hempty).elim
    · cases h
      trivial
  | key =>
    simp only [step] at h
    split_ifs at h
    · cases h
      exact (hs hempty).elim
    · cases h
      exact (hs hempty).elim
  | colon =>
    simp only [step] at h
    split_ifs at h
    · cases h
      exact (hs hempty).elim
    · cases h
      exact (hs hempty).elim
  | text isKey =>
    simp only [step] at h
    split_ifs at h
    · cases h
      exact quoted_outer (hs hempty) _
    · cases h
      have htext := hs hempty
      cases isKey <;> exact htext
    · cases h
      have htext := hs hempty
      cases isKey <;> exact htext
  | escape isKey =>
    simp only [step] at h
    split_ifs at h
    · cases h
      have hescape := hs hempty
      cases isKey <;> exact hescape
    · cases h
      have hescape := hs hempty
      cases isKey <;> exact hescape
  | unicode isKey left =>
    simp only [step] at h
    split_ifs at h
    · cases h
      have hunicode := hs hempty
      cases isKey <;> exact hunicode
    · cases h
      have hunicode := hs hempty
      cases isKey <;> exact hunicode
  | number digits =>
    simp only [step] at h
    split at h
    · cases h
      trivial
    · split_ifs at h
      exact follow_outer h hempty
  | word word read =>
    simp only [step] at h
    split_ifs at h
    · cases h
      trivial
    · cases h
      trivial
  | finished => exact follow_outer h hempty

lemma scan_outer (h : scan initial x = some t) (hempty : t.stack = []) : Outer x t.mode := by
  induction x using List.reverseRecOn generalizing t with
  | nil =>
    cases h
    intro b hb
    cases hb
  | append_singleton x b ih =>
    rw [scan_append] at h
    obtain ⟨s, hs, hstep⟩ := Option.bind_eq_some_iff.1 h
    have hstep : step s b = some t := by simpa [scan] using hstep
    exact step_outer (fun hs' => ih hs hs') hstep hempty

/-- The scanner is between two tokens. -/
def Mode.between (mode : Mode) : Prop := mode ∈ [Mode.value, .element, .member, .key, .colon, .finished]

/-- After a newline the scanner is between two tokens. -/
lemma step_newline (h : step s 10 = some t) : t.mode.between := by
  have hfollow {stack : List Frame} (hf : follow stack 10 = some t) : t.mode = .finished := by
    cases hf
    rfl
  unfold Mode.between
  obtain ⟨stack, mode⟩ := s
  cases mode with
  | value => cases h; simp
  | element => cases h; simp
  | member => cases h; simp
  | key => cases h; simp
  | colon => cases h; simp
  | text isKey => cases h
  | escape isKey => cases h
  | unicode isKey left => cases h
  | number digits =>
    have hnext : digits.next 10 = none := by cases digits <;> rfl
    simp only [step, hnext] at h
    split_ifs at h
    simp [hfollow h]
  | word word read =>
    simp only [step] at h
    split_ifs at h with hletter
    all_goals
      have hmem := List.mem_of_getElem? hletter
      cases word <;> exact absurd hmem (by decide)
  | finished => simp [hfollow h]

/-- The byte that opens an object after a newline finds the scanner waiting for a value. -/
lemma step_newline_brace {r : Scanner} (h : step s 10 = some t) (hbrace : step t 123 = some r) :
    r = ⟨.object :: t.stack, .member⟩ ∧ (t.mode = .value ∨ t.mode = .element) := by
  have hbetween : t.mode = .value ∨ t.mode = .element ∨ t.mode ∈ [Mode.member, .key, .colon, .finished] := by
    simpa [Mode.between] using step_newline h
  obtain ⟨stack, mode⟩ := t
  rcases hbetween with hmode | hmode | hmode
  · cases hmode
    cases hbrace
    exact ⟨rfl, .inl rfl⟩
  · cases hmode
    cases hbrace
    exact ⟨rfl, .inr rfl⟩
  · simp only [List.mem_cons, List.not_mem_nil, or_false] at hmode
    rcases hmode with rfl | rfl | rfl | rfl
    · cases hbrace
    · cases hbrace
    · cases hbrace
    · have hnone : follow stack 123 = none := by
        cases stack with
        | nil => rfl
        | cons frame rest => cases frame <;> rfl
      exact absurd (hnone.symm.trans hbrace) (by simp)

/-- The rest of an object, from its first byte on: the scanner ends where the object began. -/
def Closes (y : List UInt8) : Prop := ∀ stack, scan ⟨.object :: stack, .member⟩ y = some ⟨stack, .finished⟩

/-- What stands before an object on a line of its own is blank. -/
theorem blank_of_valid (hy : Closes y) (h : Valid (x ++ 10 :: 123 :: y) = true) : Blank x := by
  unfold Valid at h
  rw [show x ++ 10 :: 123 :: y = (x ++ [10]) ++ 123 :: y by simp, scan_append] at h
  cases hx : scan initial (x ++ [10]) with
  | none => simp [hx] at h
  | some t =>
    simp only [hx, Option.bind_some, scan] at h
    cases hbrace : step t 123 with
    | none => simp [hbrace] at h
    | some r =>
      have hnewline : ∃ s, scan initial x = some s ∧ step s 10 = some t := by
        rw [scan_append] at hx
        obtain ⟨s, hs, hstep⟩ := Option.bind_eq_some_iff.1 hx
        exact ⟨s, hs, by simpa [scan] using hstep⟩
      obtain ⟨s, -, hstep⟩ := hnewline
      obtain ⟨rfl, hmode⟩ := step_newline_brace hstep hbrace
      simp only [hbrace, Option.bind_some, hy t.stack, Option.any_some, Scanner.accepting, Bool.and_true,
        List.isEmpty_iff] at h
      have houter := scan_outer hx h
      rcases hmode with hmode | hmode
      · rw [hmode] at houter
        exact fun b hb => houter b (List.mem_append_left _ hb)
      · rw [hmode] at houter
        exact houter.elim

lemma valid_of_closes (hy : Closes y) (hx : Blank x) : Valid (x ++ 123 :: y) = true := by
  unfold Valid initial
  rw [scan_append, scan_blank hx, Option.bind_some, scan, show step ⟨[], .value⟩ 123 = some ⟨[.object], .member⟩ from rfl,
    Option.bind_some, hy]
  rfl

end Objects

section Words

variable {s t : Scanner} {b : UInt8} {x y : List UInt8}

/-- No token begins with the byte. -/
def startless (b : UInt8) : Bool := [91, 93, 123, 125, 34, 45, 44, 58, 116, 102, 110].all (· ≠ b) && !isDigit b

/-- Between two tokens, a byte that begins none is a space. -/
lemma step_between (hs : s.mode.between) (hb : startless b = true) (h : step s b = some t) :
    isSpace b = true ∧ t.mode.between := by
  simp only [startless, List.all_cons, List.all_nil, Bool.and_true, Bool.and_eq_true, decide_eq_true_eq, Bool.not_eq_true'] at hb
  obtain ⟨⟨h91, h93, h123, h125, h34, h45, h44, h58, h116, h102, h110⟩, hdigit⟩ := hb
  have h48 : b ≠ 48 := by
    rintro rfl
    cases hdigit
  have hstart (stack : List Frame) : start stack b = none := by
    simp [start, Ne.symm h123, Ne.symm h91, Ne.symm h34, Ne.symm h45, h48, hdigit, Ne.symm h116, Ne.symm h102, Ne.symm h110]
  by_cases hspace : isSpace b = true
  · refine ⟨hspace, ?_⟩
    obtain ⟨stack, mode⟩ := s
    simp only [Mode.between, List.mem_cons, List.not_mem_nil, or_false] at hs
    rcases hs with rfl | rfl | rfl | rfl | rfl | rfl
    all_goals
      simp only [step, follow, hspace, if_true, Option.some.injEq] at h
      subst h
      simp [Mode.between]
  · exfalso
    obtain ⟨stack, mode⟩ := s
    simp only [Mode.between, List.mem_cons, List.not_mem_nil, or_false] at hs
    rcases hs with rfl | rfl | rfl | rfl | rfl | rfl
    · simp [step, hspace, hstart] at h
    · simp [step, hspace, hstart, Ne.symm h93] at h
    · simp [step, hspace, Ne.symm h34, Ne.symm h125] at h
    · simp [step, hspace, Ne.symm h34] at h
    · simp [step, hspace, Ne.symm h58] at h
    · cases stack with
      | nil => simp [step, follow, hspace] at h
      | cons frame rest => cases frame <;> simp [step, follow, hspace, Ne.symm h44, Ne.symm h125, Ne.symm h93] at h

/-- Between two tokens there is no text that holds, after bytes that begin no token, one that is not a space. -/
lemma scan_between (hs : s.mode.between) (hx : ∀ c ∈ x, startless c = true) (hb : startless b = true)
    (hspace : isSpace b = false) (y : List UInt8) : scan s (x ++ b :: y) = none := by
  induction x generalizing s with
  | nil =>
    cases h : step s b with
    | none => simp [scan, h]
    | some t =>
      have hnot := (step_between hs hb h).1
      rw [hspace] at hnot
      cases hnot
  | cons c x ih =>
    cases h : step s c with
    | none => simp [scan, h]
    | some t =>
      rw [List.cons_append, scan, h, Option.bind_some]
      exact ih (step_between hs (hx c (by simp)) h).2 fun d hd => hx d (List.mem_cons_of_mem _ hd)

/-- No line of a valid text begins so. -/
lemma not_valid_line (hx : ∀ c ∈ x, startless c = true) (hb : startless b = true) (hspace : isSpace b = false)
    {before : List UInt8} (hbefore : before = [] ∨ ∃ z, before = z ++ [10]) (y : List UInt8) :
    Valid (before ++ (x ++ b :: y)) = false := by
  have hnone : scan initial (before ++ (x ++ b :: y)) = none := by
    rw [scan_append]
    rcases hbefore with rfl | ⟨z, rfl⟩
    · exact scan_between (by simp [initial, Mode.between]) hx hb hspace y
    · cases h : scan initial (z ++ [10]) with
      | none => rfl
      | some t =>
        rw [scan_append] at h
        obtain ⟨s, -, hstep⟩ := Option.bind_eq_some_iff.mp h
        have hstep : step s 10 = some t := by simpa [scan] using hstep
        exact scan_between (step_newline hstep) hx hb hspace y
  rw [Valid, hnone]
  rfl

/-- The letters that are followed by `v` in no token. -/
lemma scan_event (s : Scanner) (hy : Plain y) : scan s (101 :: 118 :: y ++ [10]) = none := by
  have htext (stack : List Frame) (isKey : Bool) : scan ⟨stack, .text isKey⟩ (y ++ [10]) = none := by
    rw [scan_append, scan_plain hy]
    rfl
  have hfollow (stack : List Frame) : follow stack 118 = none := by
    cases stack with
    | nil => rfl
    | cons frame rest => cases frame <;> rfl
  have hfollow' (stack : List Frame) : follow stack 101 = none := by
    cases stack with
    | nil => rfl
    | cons frame rest => cases frame <;> rfl
  have hlast (word : Word) (read : ℕ) (h : word.letters[read]? = some 101) : read + 1 = word.letters.length := by
    cases word <;> rcases read with _ | _ | _ | _ | _ | read <;> simp [Word.letters] at h ⊢
  obtain ⟨stack, mode⟩ := s
  cases mode with
  | value => rfl
  | element => rfl
  | member => rfl
  | key => rfl
  | colon => rfl
  | text isKey => exact htext stack isKey
  | escape isKey => rfl
  | unicode isKey left =>
    cases left with
    | zero => exact htext stack isKey
    | succ left => rfl
  | number digits =>
    have hpower : step ⟨stack, .number .power⟩ 101 = none := hfollow' stack
    cases digits with
    | power => rw [List.cons_append, scan, hpower, Option.bind_none]
    | minus | zero | integer | point | fraction | exponent | sign => rfl
  | word word read =>
    rw [List.cons_append, scan, step]
    dsimp only
    split_ifs with hletter hend
    · exact congrArg (fun t => Option.bind t _) (hfollow stack)
    · exact absurd (hlast word read hletter) hend
    · rfl
  | finished =>
    have hfinished : step ⟨stack, .finished⟩ 101 = none := hfollow' stack
    rw [List.cons_append, scan, hfinished, Option.bind_none]

/-- No valid text ends in a `d`. -/
lemma not_valid_concat (x : List UInt8) : Valid (x ++ [100]) = false := by
  have hfollow (stack : List Frame) : follow stack 100 = none := by
    cases stack with
    | nil => rfl
    | cons frame rest => cases frame <;> rfl
  have hstep (s t : Scanner) (h : step s 100 = some t) : t.accepting = false := by
    obtain ⟨stack, mode⟩ := s
    cases mode with
    | value => cases h
    | element => cases h
    | member => cases h
    | key => cases h
    | colon => cases h
    | text isKey =>
      cases h
      simp [Scanner.accepting]
    | escape isKey => cases h
    | unicode isKey left =>
      cases left <;> cases h <;> simp [Scanner.accepting]
    | number digits => cases digits <;> simp [step, Digits.next, Digits.complete, isDigit, hfollow] at h
    | word word read =>
      simp only [step] at h
      split_ifs at h with hletter
      all_goals
        have hmem := List.mem_of_getElem? hletter
        cases word <;> exact absurd hmem (by decide)
    | finished => simp [step, hfollow] at h
  rw [Valid, scan_append]
  cases hx : scan initial x with
  | none => rfl
  | some s =>
    cases ht : step s 100 with
    | none => simp [scan, ht]
    | some t => simp [scan, ht, hstep s t ht]

end Words

end ShareSub.JsonText

import ShareSub.Transaction

/-!
# Schema migrations

Every process of a release runs the migrations when it starts. Processes of one release interleave, fail and crash at
any point; each file is applied in a transaction that also records its name.
-/
namespace ShareSub.Migrations

variable {τ ω σ : Type}

structure DirEntry where
  name : String
  isDir : Bool
  deriving DecidableEq

/-- The files a release embeds, the statements each holds and what a statement does. What a statement takes from
outside the database, its clock, is drawn anew at every execution. -/
structure Release (τ ω σ : Type) where
  entries : List DirEntry
  statements : String → List τ
  exec : τ → ω → σ → Option σ

/-- The progress of one call of Migrate. -/
inductive Instance (τ ω : Type)
  | looping (rest : List DirEntry)
  | opened (name : String) (left : List τ) (ran : List (τ × ω)) (rest : List DirEntry)
  | recorded (name : String) (ran : List (τ × ω)) (rest : List DirEntry)
  | succeeded
  | failed
  deriving DecidableEq

/-- The committed names and schema, and the calls that are under way or over. -/
structure Deployment (τ ω σ : Type) where
  log : List String
  schema : σ
  instances : List (Instance τ ω)

inductive Step (ω : Type)
  | launch
  | proceed (i : ℕ) (w : ω)
  | quit (i : ℕ)

def replay (exec : τ → ω → σ → Option σ) (ran : List (τ × ω)) (schema : σ) : Option σ :=
  ran.foldlM (fun s t => exec t.1 t.2 s) schema

def DirEntry.isMigration (e : DirEntry) : Prop := e.isDir = false ∧ ".sql".toList <:+ e.name.toList

instance (e : DirEntry) : Decidable e.isMigration := inferInstanceAs (Decidable (_ ∧ _))

def Release.sorted (r : Release τ ω σ) : List DirEntry := r.entries.insertionSort fun a b => a.name ≤ b.name

def Release.files (r : Release τ ω σ) : List String := (r.sorted.filter (·.isMigration)).map (·.name)

def Instance.recorded? : Instance τ ω → Option String
  | .recorded name _ _ => some name
  | _ => none

def Deployment.holds (d : Deployment τ ω σ) (name : String) : Bool :=
  d.instances.any fun x => x.recorded? = some name

def Deployment.set (d : Deployment τ ω σ) (i : ℕ) (x : Instance τ ω) : Deployment τ ω σ :=
  { d with instances := d.instances.set i x }

/-- The next round trip of a call that does not commit. -/
def turn (r : Release τ ω σ) (d : Deployment τ ω σ) (w : ω) : Instance τ ω → Instance τ ω
  | .looping [] => .succeeded
  | .looping (e :: rest) =>
    if ¬ e.isMigration then .looping rest
    else if e.name ∈ d.log then .looping rest
    else .opened e.name (r.statements e.name) [] rest
  | .opened name (t :: left) ran rest =>
    if (replay r.exec (ran ++ [(t, w)]) d.schema).isSome then .opened name left (ran ++ [(t, w)]) rest
    else .failed
  | .opened name [] ran rest =>
    if name ∈ d.log then .failed
    -- the insert waits for the transaction that has inserted the same key
    else if d.holds name then .opened name [] ran rest
    else .recorded name ran rest
  | x => x

def commit (r : Release τ ω σ) (d : Deployment τ ω σ) (i : ℕ) (name : String) (ran : List (τ × ω))
    (rest : List DirEntry) : Deployment τ ω σ :=
  match replay r.exec ran d.schema with
  | some schema => { log := d.log ++ [name], schema, instances := d.instances.set i (.looping rest) }
  | none => d.set i .failed

def step (r : Release τ ω σ) (d : Deployment τ ω σ) : Step ω → Deployment τ ω σ
  | .launch => { d with instances := d.instances ++ [.looping r.sorted] }
  | .proceed i w =>
    match d.instances[i]? with
    | some (.recorded name ran rest) => commit r d i name ran rest
    | some x => d.set i (turn r d w x)
    | none => d
  -- an error, a crash or a lost connection rolls an open transaction back
  | .quit i => d.set i .failed

def run (r : Release τ ω σ) (d : Deployment τ ω σ) (steps : List (Step ω)) : Deployment τ ω σ := steps.foldl (step r) d

/-- A database that an older release has left, with its first `k` files applied. -/
def installed (r : Release τ ω σ) (k : ℕ) (schema : σ) : Deployment τ ω σ := ⟨r.files.take k, schema, []⟩

section Order

variable {r : Release τ ω σ} {log : List String} {name name' : String} {rest rest' : List DirEntry} {k : ℕ}

/-- Every migration before the rest of the directory is committed. -/
def Passed (r : Release τ ω σ) (log : List String) (rest : List DirEntry) : Prop :=
  ∃ before, r.sorted = before ++ rest ∧ ∀ e ∈ before, e.isMigration → e.name ∈ log

/-- The call has come to the named file. -/
def Reached (r : Release τ ω σ) (log : List String) (name : String) (rest : List DirEntry) : Prop :=
  ∃ e, e.name = name ∧ e.isMigration ∧ Passed r log (e :: rest)

lemma files_nodup (hnames : (r.entries.map (·.name)).Nodup) : r.files.Nodup := by
  have hperm : (r.sorted.map (·.name)).Perm (r.entries.map (·.name)) := (List.perm_insertionSort _ _).map _
  exact (hperm.nodup_iff.mpr hnames).sublist (List.filter_sublist.map _)

lemma files_sorted (hnames : (r.entries.map (·.name)).Nodup) : r.files.Pairwise (· < ·) := by
  have hle : r.sorted.Pairwise fun a b => a.name ≤ b.name := List.pairwise_insertionSort _ _
  have hfiles : r.files.Pairwise (· ≤ ·) := List.pairwise_map.mpr (hle.sublist List.filter_sublist)
  exact (hfiles.and (files_nodup hnames)).imp fun h => lt_of_le_of_ne h.1 h.2

lemma Passed.mono (h : Passed r log rest) {log' : List String} (hlog : ∀ n ∈ log, n ∈ log') : Passed r log' rest := by
  obtain ⟨before, hsorted, hbefore⟩ := h
  exact ⟨before, hsorted, fun e he hm => hlog _ (hbefore e he hm)⟩

lemma Passed.next {e : DirEntry} (h : Passed r log (e :: rest)) (he : e.isMigration → e.name ∈ log) :
    Passed r log rest := by
  obtain ⟨before, hsorted, hbefore⟩ := h
  refine ⟨before ++ [e], by simpa using hsorted, ?_⟩
  simp only [List.mem_append, List.mem_singleton]
  rintro x (hx | rfl) hm
  · exact hbefore x hx hm
  · exact he hm

lemma Passed.all (h : Passed r log []) : ∀ n ∈ r.files, n ∈ log := by
  obtain ⟨before, hsorted, hbefore⟩ := h
  rw [List.append_nil] at hsorted
  intro n hn
  obtain ⟨e, he, rfl⟩ := List.mem_map.mp hn
  obtain ⟨hmem, hm⟩ := List.mem_filter.mp he
  exact hbefore e (hsorted ▸ hmem) (of_decide_eq_true hm)

lemma Reached.mono (h : Reached r log name rest) {log' : List String} (hlog : ∀ n ∈ log, n ∈ log') :
    Reached r log' name rest := by
  obtain ⟨e, hname, hm, hpassed⟩ := h
  exact ⟨e, hname, hm, hpassed.mono hlog⟩

lemma Reached.next (h : Reached r log name rest) (hlog : name ∈ log) : Passed r log rest := by
  obtain ⟨e, rfl, -, hpassed⟩ := h
  exact hpassed.next fun _ => hlog

/-- A file that a call has come to and nobody has committed is the first that is missing. -/
lemma Reached.first (h : Reached r (r.files.take k) name rest) (hnodup : r.files.Nodup)
    (hnew : name ∉ r.files.take k) : r.files.take (k + 1) = r.files.take k ++ [name] := by
  obtain ⟨e, rfl, hm, before, hsorted, hbefore⟩ := h
  obtain ⟨p, hp⟩ : ∃ p, p = (before.filter (·.isMigration)).map (·.name) := ⟨_, rfl⟩
  obtain ⟨q, hfiles⟩ : ∃ q, r.files = p ++ e.name :: q := by
    refine ⟨(rest.filter (·.isMigration)).map (·.name), ?_⟩
    rw [hp, Release.files, hsorted]
    simp [hm]
  -- the files before it are committed, and none from it on
  have hsub : p ⊆ r.files.take k := by
    intro n hn
    rw [hp] at hn
    obtain ⟨x, hx, rfl⟩ := List.mem_map.mp hn
    obtain ⟨hmem, hxm⟩ := List.mem_filter.mp hx
    exact hbefore x hmem (of_decide_eq_true hxm)
  have hpn : p.Nodup := by
    rw [hfiles] at hnodup
    exact (List.nodup_append.mp hnodup).1
  have hge : p.length ≤ k := (hpn.subperm hsub).length_le.trans (List.length_take_le _ _)
  have hle : k ≤ p.length := by
    by_contra! hlt
    apply hnew
    rw [hfiles, List.take_append, List.take_of_length_le hge]
    obtain ⟨m, hm⟩ : ∃ m, k - p.length = m + 1 := ⟨k - p.length - 1, by omega⟩
    simp [hm]
  obtain rfl : k = p.length := by omega
  rw [hfiles]
  simp [List.take_append]

lemma Reached.same (h : Reached r (r.files.take k) name rest) (h' : Reached r (r.files.take k) name' rest')
    (hnodup : r.files.Nodup) (hnew : name ∉ r.files.take k) (hnew' : name' ∉ r.files.take k) : name = name' := by
  have heq := (h.first hnodup hnew).symm.trans (h'.first hnodup hnew')
  simpa using heq

end Order

section Exclusion

variable {xs : List (Instance τ ω)} {x : Instance τ ω} {i : ℕ}

/-- At most one open transaction has inserted a name. -/
def Exclusive (xs : List (Instance τ ω)) : Prop :=
  ∀ (i j : ℕ) (name : String), xs[i]?.bind Instance.recorded? = some name →
    xs[j]?.bind Instance.recorded? = some name → i = j

lemma Exclusive.append (h : Exclusive xs) (hx : x.recorded? = none) : Exclusive (xs ++ [x]) := by
  have hold : ∀ (j : ℕ) (name : String), (xs ++ [x])[j]?.bind Instance.recorded? = some name →
      xs[j]?.bind Instance.recorded? = some name := by
    intro j name hj
    rw [List.getElem?_append] at hj
    split_ifs at hj with hlt
    · exact hj
    · obtain ⟨y, hy, hname⟩ := Option.bind_eq_some_iff.mp hj
      obtain rfl := List.mem_singleton.mp (List.mem_of_getElem? hy)
      rw [hx] at hname
      cases hname
  exact fun i j name hi hj => h i j name (hold i name hi) (hold j name hj)

lemma Exclusive.set (h : Exclusive xs)
    (hx : ∀ name, x.recorded? = some name → ∀ y ∈ xs, y.recorded? ≠ some name) : Exclusive (xs.set i x) := by
  have hold : ∀ (j : ℕ) (name : String), (xs.set i x)[j]?.bind Instance.recorded? = some name →
      j = i ∧ x.recorded? = some name ∨ xs[j]?.bind Instance.recorded? = some name := by
    intro j name hj
    rw [List.getElem?_set] at hj
    split_ifs at hj with hij hlt
    · exact .inl ⟨hij.symm, hj⟩
    · cases hj
    · exact .inr hj
  have hapart : ∀ (j : ℕ) (name : String), x.recorded? = some name → xs[j]?.bind Instance.recorded? ≠ some name := by
    intro j name hname hj
    obtain ⟨y, hy, hrecorded⟩ := Option.bind_eq_some_iff.mp hj
    exact hx name hname y (List.mem_of_getElem? hy) hrecorded
  intro a b name ha hb
  rcases hold a name ha with ⟨hai, hname⟩ | ha'
  · rcases hold b name hb with ⟨hbi, -⟩ | hb'
    · exact hai.trans hbi.symm
    · exact absurd hb' (hapart b name hname)
  · rcases hold b name hb with ⟨-, hname⟩ | hb'
    · exact absurd ha' (hapart a name hname)
    · exact h a b name ha' hb'

lemma not_holds {d : Deployment τ ω σ} {name : String} (h : d.holds name = false) :
    ∀ y ∈ d.instances, y.recorded? ≠ some name := by
  intro y hy hname
  have hany : d.holds name = true := List.any_eq_true.mpr ⟨y, hy, decide_eq_true hname⟩
  rw [h] at hany
  cases hany

end Exclusion

section Safety

variable {r : Release τ ω σ} {k₀ : ℕ} {schema₀ : σ} {d : Deployment τ ω σ}

/-- Unless another call has committed the file, the statements a transaction has executed still run on the schema. -/
def InstanceOK (r : Release τ ω σ) (log : List String) (schema : σ) : Instance τ ω → Prop
  | .looping rest => Passed r log rest
  | .opened name left ran rest => Reached r log name rest ∧
      (name ∉ log → ran.map Prod.fst ++ left = r.statements name ∧ (replay r.exec ran schema).isSome)
  | .recorded name ran rest => Reached r log name rest ∧ name ∉ log ∧ ran.map Prod.fst = r.statements name ∧
      (replay r.exec ran schema).isSome
  | .succeeded => ∀ n ∈ r.files, n ∈ log
  | .failed => True

/-- The schema is what the statements of the files from the `k₀`-th on have made, each executed once and in order. -/
def Applied (r : Release τ ω σ) (k₀ : ℕ) (schema₀ : σ) (d : Deployment τ ω σ) : Prop :=
  ∃ k executed, k₀ ≤ k ∧ d.log = r.files.take k ∧
    executed.map Prod.fst = (d.log.drop k₀).flatMap r.statements ∧ replay r.exec executed schema₀ = some d.schema

structure Sound (r : Release τ ω σ) (k₀ : ℕ) (schema₀ : σ) (d : Deployment τ ω σ) : Prop where
  instances : ∀ x ∈ d.instances, InstanceOK r d.log d.schema x
  exclusive : Exclusive d.instances
  applied : Applied r k₀ schema₀ d

lemma replay_append (ran ran' : List (τ × ω)) {s s' : σ} (h : replay r.exec ran s = some s') :
    replay r.exec (ran ++ ran') s = replay r.exec ran' s' := by
  unfold replay at h ⊢
  rw [List.foldlM_append, h]
  rfl

lemma sound_installed (r : Release τ ω σ) (k₀ : ℕ) (schema₀ : σ) : Sound r k₀ schema₀ (installed r k₀ schema₀) where
  instances := by simp [installed]
  exclusive := by intro i j name h; simp [installed] at h
  applied := by
    refine ⟨k₀, [], le_rfl, rfl, ?_, rfl⟩
    rw [List.drop_of_length_le]
    · rfl
    · exact List.length_take_le k₀ r.files

lemma Sound.set (h : Sound r k₀ schema₀ d) {x : Instance τ ω} (hx : InstanceOK r d.log d.schema x)
    (hname : ∀ name, x.recorded? = some name → d.holds name = false) (i : ℕ) : Sound r k₀ schema₀ (d.set i x) where
  instances := by
    intro y hy
    rcases List.mem_or_eq_of_mem_set hy with hy | rfl
    · exact h.instances y hy
    · exact hx
  exclusive := h.exclusive.set fun name hrecorded => not_holds (hname name hrecorded)
  applied := h.applied

lemma turn_ok (w : ω) {x : Instance τ ω} (hx : InstanceOK r d.log d.schema x) :
    InstanceOK r d.log d.schema (turn r d w x) := by
  cases x with
  | looping rest =>
    cases rest with
    | nil => exact hx.all
    | cons e rest =>
      simp only [turn]
      split_ifs with hm hlog
      · exact Passed.next hx fun _ => hlog
      · exact ⟨⟨e, rfl, hm, hx⟩, fun _ => ⟨rfl, rfl⟩⟩
      · exact Passed.next hx fun h => absurd h hm
  | opened name left ran rest =>
    obtain ⟨hreached, hran⟩ := hx
    cases left with
    | nil =>
      simp only [turn]
      split_ifs with hlog hholds
      · trivial
      · exact ⟨hreached, hran⟩
      · obtain ⟨hstatements, hreplay⟩ := hran hlog
        exact ⟨hreached, hlog, by simpa using hstatements, hreplay⟩
    | cons t left =>
      simp only [turn]
      split_ifs with hreplay
      · refine ⟨hreached, fun hlog => ⟨?_, hreplay⟩⟩
        simpa using (hran hlog).1
      · trivial
  | recorded name ran rest => exact hx
  | succeeded => exact hx
  | failed => trivial

lemma turn_recorded (w : ω) {x : Instance τ ω} (hx : x.recorded? = none) {name : String}
    (h : (turn r d w x).recorded? = some name) : d.holds name = false := by
  cases x with
  | looping rest =>
    cases rest with
    | nil => cases h
    | cons e rest =>
      simp only [turn] at h
      split_ifs at h <;> cases h
  | opened file left ran rest =>
    cases left with
    | nil =>
      simp only [turn] at h
      split_ifs at h with hlog hholds
      · cases h
      · cases h
      · obtain rfl : file = name := Option.some.inj h
        simpa using hholds
    | cons t left =>
      simp only [turn] at h
      split_ifs at h <;> cases h
  | recorded file ran rest => cases hx
  | succeeded => cases h
  | failed => cases h

/-- A commit ends the turn of every other call that has come to the same file. -/
lemma other_ok {k : ℕ} {name : String} {schema : σ} (hnodup : r.files.Nodup) (hlog : d.log = r.files.take k)
    {rest : List DirEntry} (hreached : Reached r d.log name rest) (hnew : name ∉ d.log) {x : Instance τ ω}
    (hx : InstanceOK r d.log d.schema x) (hother : x.recorded? ≠ some name) :
    InstanceOK r (d.log ++ [name]) schema x := by
  have hmono : ∀ n ∈ d.log, n ∈ d.log ++ [name] := fun n hn => List.mem_append_left _ hn
  cases x with
  | looping rest => exact Passed.mono hx hmono
  | opened name' left ran rest' =>
    obtain ⟨hreached', -⟩ := hx
    refine ⟨hreached'.mono hmono, fun hnew' => ?_⟩
    simp only [List.mem_append, List.mem_singleton, not_or] at hnew'
    rw [hlog] at hreached hreached' hnew hnew'
    exact absurd (hreached'.same hreached hnodup hnew'.1 hnew) hnew'.2
  | recorded name' ran rest' =>
    obtain ⟨hreached', hnew', -⟩ := hx
    rw [hlog] at hreached hreached' hnew hnew'
    exact absurd (congrArg some (hreached'.same hreached hnodup hnew' hnew)) hother
  | succeeded => exact fun n hn => hmono n (hx n hn)
  | failed => trivial

lemma commit_sound (hnodup : r.files.Nodup) (h : Sound r k₀ schema₀ d) {i : ℕ} {name : String} {ran : List (τ × ω)}
    {rest : List DirEntry} (hi : d.instances[i]? = some (.recorded name ran rest)) :
    Sound r k₀ schema₀ (commit r d i name ran rest) := by
  obtain ⟨hreached, hnew, hran, hsome⟩ := h.instances _ (List.mem_of_getElem? hi)
  obtain ⟨schema, hschema⟩ := Option.isSome_iff_exists.mp hsome
  obtain ⟨k, executed, hk, hlog, hexecuted, hreplay⟩ := h.applied
  have hnext : r.files.take (k + 1) = d.log ++ [name] := by
    rw [hlog] at hreached hnew ⊢
    exact hreached.first hnodup hnew
  have hlength : k₀ ≤ d.log.length := by
    have hlen := congrArg List.length hnext
    rw [List.length_append, List.length_singleton, hlog, List.length_take, List.length_take] at hlen
    rw [hlog, List.length_take]
    omega
  simp only [commit, hschema]
  refine ⟨?_, ?_, k + 1, executed ++ ran, by omega, hnext.symm, ?_, ?_⟩
  · intro x hx
    obtain ⟨j, hj⟩ := List.mem_iff_getElem?.mp hx
    rw [List.getElem?_set] at hj
    split_ifs at hj with hij hlt
    · obtain rfl := Option.some.inj hj
      exact (hreached.mono fun n hn => List.mem_append_left _ hn).next (by simp)
    · refine other_ok hnodup hlog hreached hnew (h.instances x (List.mem_of_getElem? hj)) fun hname => ?_
      exact hij (h.exclusive i j name (by rw [hi]; rfl) (by rw [hj]; exact hname))
  · exact h.exclusive.set fun _ hname => by cases hname
  · rw [List.map_append, hexecuted, hran, List.drop_append_of_le_length hlength, List.flatMap_append]
    simp
  · rw [replay_append executed ran hreplay]
    exact hschema

lemma step_sound (hnodup : r.files.Nodup) (h : Sound r k₀ schema₀ d) (s : Step ω) :
    Sound r k₀ schema₀ (step r d s) := by
  cases s with
  | launch =>
    refine ⟨?_, h.exclusive.append rfl, h.applied⟩
    intro x hx
    rcases List.mem_append.mp hx with hx | hx
    · exact h.instances x hx
    · obtain rfl := List.mem_singleton.mp hx
      exact ⟨[], rfl, by simp⟩
  | proceed i w =>
    simp only [step]
    split
    · next name ran rest hi => exact commit_sound hnodup h hi
    · next x hx hi =>
      refine h.set (turn_ok w (h.instances x (List.mem_of_getElem? hi))) (fun name => turn_recorded w ?_) i
      cases x with
      | recorded name ran rest => exact absurd rfl (hx name ran rest)
      | looping => rfl
      | opened => rfl
      | succeeded => rfl
      | failed => rfl
    · exact h
  | quit i => exact h.set (x := .failed) trivial (fun _ hname => by cases hname) i

lemma run_sound (hnodup : r.files.Nodup) (steps : List (Step ω)) (h : Sound r k₀ schema₀ d) :
    Sound r k₀ schema₀ (run r d steps) := by
  induction steps generalizing d with
  | nil => exact h
  | cons s steps ih => exact ih (step_sound hnodup h s)

/-- However the processes of a release interleave, fail and crash, the committed migrations are an initial segment of
the release's files in the order of their names, each applied once and in that order on what an older release left. No
commit is refused, and a call that succeeds leaves nothing to apply. -/
theorem migrations_apply_once (r : Release τ ω σ) (hnames : (r.entries.map (·.name)).Nodup) (k₀ : ℕ) (schema₀ : σ)
    (steps : List (Step ω)) :
    Applied r k₀ schema₀ (run r (installed r k₀ schema₀) steps) ∧
      (run r (installed r k₀ schema₀) steps).log.Pairwise (· < ·) ∧
      (∀ name ran rest, .recorded name ran rest ∈ (run r (installed r k₀ schema₀) steps).instances →
        (replay r.exec ran (run r (installed r k₀ schema₀) steps).schema).isSome) ∧
      (.succeeded ∈ (run r (installed r k₀ schema₀) steps).instances →
        (run r (installed r k₀ schema₀) steps).log = r.files) := by
  have hsound := run_sound (files_nodup hnames) steps (sound_installed r k₀ schema₀)
  obtain ⟨k, -, -, hlog, -⟩ := hsound.applied
  refine ⟨hsound.applied, ?_, ?_, ?_⟩
  · rw [hlog]
    exact (files_sorted hnames).sublist (List.take_sublist _ _)
  · intro name ran rest hmem
    exact (hsound.instances _ hmem).2.2.2
  · intro hmem
    have hall := hsound.instances _ hmem
    have hsub := (files_nodup hnames).subperm hall
    rw [hlog] at hsub ⊢
    exact (List.take_sublist _ _).eq_of_length_le hsub.length_le

end Safety

section Race

/-- Two files whose statements each create a table and refuse to create it twice. -/
def twoFiles : Release ℕ Unit (List ℕ) where
  entries := [⟨"002_keys.sql", false⟩, ⟨"migrations.go", false⟩, ⟨"001_plans.sql", false⟩]
  statements name := if name = "001_plans.sql" then [1, 2] else [3]
  exec table _ schema := if table ∈ schema then none else some (schema ++ [table])

/-- Two processes come to the first file together, the one that loses fails and a third one finds it applied. -/
def race : List (Step Unit) :=
  [.launch, .launch, .proceed 0 (), .proceed 1 (), .proceed 0 (), .proceed 1 (), .proceed 0 (), .proceed 1 (),
    .proceed 0 (), .proceed 1 (), .proceed 0 (), .proceed 1 (), .launch, .proceed 2 (), .proceed 2 (), .proceed 2 (),
    .proceed 2 (), .quit 0, .proceed 2 (), .proceed 2 (), .proceed 2 ()]

theorem migrations_apply_once_race :
    (run twoFiles (installed twoFiles 0 []) race).instances = [.failed, .failed, .succeeded] ∧
      (run twoFiles (installed twoFiles 0 []) race).log = twoFiles.files ∧
      Applied twoFiles 0 [] (run twoFiles (installed twoFiles 0 []) race) := by
  have hend : (run twoFiles (installed twoFiles 0 []) race).instances = [.failed, .failed, .succeeded] := by
    decide
  obtain ⟨happlied, -, -, hlast⟩ := migrations_apply_once twoFiles (by decide) 0 [] race
  exact ⟨hend, hlast (by simp [hend]), happlied⟩

end Race

end ShareSub.Migrations

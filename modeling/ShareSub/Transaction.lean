import Mathlib

/-!
# Transactions and their runs

A transaction is a function into `Except`: `ok` is a commit, `error` a rollback that
leaves the state as it was. The guards below are the early returns of such a function,
and their inversion lemmas turn a commit into the conjunction of the checks it passed.
A run is a sequence of committed steps; invariants and preorders are carried along it.
-/
namespace ShareSub.Transaction

section Guards

variable {ε α β : Type}

/-- Continue when the condition holds, otherwise roll back with the given error. -/
def ensure (c : Prop) [Decidable c] (e : ε) : Except ε Unit :=
  if c then .ok () else .error e

/-- Run a check only when the condition holds. -/
def whenever (c : Prop) [Decidable c] (check : Except ε Unit) : Except ε Unit :=
  if c then check else .ok ()

/-- Read a value that may be missing. -/
def orFail (o : Option α) (e : ε) : Except ε α :=
  match o with
  | some a => .ok a
  | none => .error e

@[simp] theorem ensure_eq_ok {c : Prop} [Decidable c] {e : ε} : ensure c e = .ok () ↔ c := by
  by_cases h : c <;> simp [ensure, h]

@[simp] theorem whenever_eq_ok {c : Prop} [Decidable c] {check : Except ε Unit} :
    whenever c check = .ok () ↔ (c → check = .ok ()) := by
  by_cases h : c <;> simp [whenever, h]

theorem bind_eq_ok {x : Except ε α} {f : α → Except ε β} {r : β} :
    (x >>= f) = .ok r ↔ ∃ a, x = .ok a ∧ f a = .ok r := by
  cases x <;> simp [bind, Except.bind]

@[simp] theorem orFail_bind_eq_ok {o : Option α} {e : ε} {f : α → Except ε β} {r : β} :
    (orFail o e >>= f) = .ok r ↔ ∃ a, o = some a ∧ f a = .ok r := by
  cases o <;> simp [orFail, bind, Except.bind]

@[simp] theorem check_bind_eq_ok {check : Except ε Unit} {f : Unit → Except ε β} {r : β} :
    (check >>= f) = .ok r ↔ check = .ok () ∧ f () = .ok r := by
  cases check <;> simp [bind, Except.bind]

@[simp] theorem commit_eq_ok {s t : α} : (pure s : Except ε α) = .ok t ↔ s = t :=
  Except.ok.injEq s t ▸ Iff.rfl

@[simp] theorem map_eq_ok {f : α → β} {x : Except ε α} {r : β} :
    f <$> x = .ok r ↔ ∃ a, x = .ok a ∧ f a = r := by
  cases x <;> simp [Functor.map, Except.map]

@[simp] theorem orFail_eq_ok {o : Option α} {e : ε} {a : α} : orFail o e = .ok a ↔ o = some a := by
  cases o <;> simp [orFail]

end Guards

section Runs

variable {σ α ε : Type}

/-- Finite runs of a labelled transition relation, extended at the end. -/
inductive Run (step : σ → α → σ → Prop) (s : σ) : List α → σ → Prop
  | nil : Run step s [] s
  | snoc {ops : List α} {op : α} {t u : σ} (prior : Run step s ops t) (last : step t op u) :
      Run step s (ops ++ [op]) u

/-- Execute a list of transactions, stopping at the first that rolls back or fails the guard. -/
def executeWhen (guard : σ → α → Prop) [∀ s op, Decidable (guard s op)] (step : σ → α → Except ε σ)
    (s : σ) : List α → Option σ
  | [] => some s
  | op :: ops =>
    if guard s op then
      match step s op with
      | .ok t => executeWhen guard step t ops
      | .error _ => none
    else none

variable {step step' : σ → α → σ → Prop}

/-- What holds at the start and is kept by every step holds wherever a run leads. -/
theorem Run.invariant {I : σ → Prop} {s t : σ} {ops : List α} (h : Run step s ops t) (hs : I s)
    (hstep : ∀ u op v, I u → step u op v → I v) : I t := by
  induction h with
  | nil => exact hs
  | snoc _ last ih => exact hstep _ _ _ ih last

/-- A preorder that relates the two ends of every step relates the two ends of a run. -/
theorem Run.related {R : σ → σ → Prop} (hrefl : ∀ s, R s s)
    (htrans : ∀ s t u, R s t → R t u → R s u) {s t : σ} {ops : List α} (h : Run step s ops t)
    (hstep : ∀ u op v, step u op v → R u v) : R s t := by
  induction h with
  | nil => exact hrefl s
  | snoc _ last ih => exact htrans _ _ _ ih (hstep _ _ _ last)

theorem Run.cons {s t u : σ} {op : α} {ops : List α} (first : step s op t)
    (rest : Run step t ops u) : Run step s (op :: ops) u := by
  induction rest with
  | nil =>
    have hnil : Run step s [] s := Run.nil
    exact hnil.snoc first
  | snoc _ last ih => exact Run.snoc ih last

theorem Run.mono {s t : σ} {ops : List α} (h : Run step s ops t)
    (hstep : ∀ u op v, step u op v → step' u op v) : Run step' s ops t := by
  induction h with
  | nil => exact Run.nil
  | snoc _ last ih => exact Run.snoc ih (hstep _ _ _ last)

/-- A successful execution is a run of guarded commits. -/
theorem run_of_executeWhen {guard : σ → α → Prop} [∀ s op, Decidable (guard s op)]
    {step : σ → α → Except ε σ} {s t : σ} {ops : List α} (h : executeWhen guard step s ops = some t) :
    Run (fun u op v => step u op = .ok v ∧ guard u op) s ops t := by
  induction ops generalizing s with
  | nil =>
    obtain rfl : s = t := by simpa [executeWhen] using h
    exact Run.nil
  | cons op ops ih =>
    simp only [executeWhen] at h
    split_ifs at h with hguard
    split at h
    · next u hu => exact Run.cons ⟨hu, hguard⟩ (ih h)
    · cases h

end Runs

end ShareSub.Transaction

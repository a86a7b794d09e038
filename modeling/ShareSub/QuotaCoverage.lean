import ShareSub.QuotaModel

/-!
# Baselines cover the snapshots of bound accounts

Snapshots belong to accounts and survive a change of binding; baselines belong to a plan and
one generation of its binding. Every writer that touches a window writes both rows, so that the
invariant is a matter of the windows a new binding does not write.
-/
namespace ShareSub.QuotaCoverage
open PlanModel QuotaModel Transaction

/-- The accounting invariant, for all windows of bound plans that are not exempt. -/
structure Accounted (exempt : String → WindowType → Prop) (db : QuotaDB) : Prop where
  bound_once : ∀ p ∈ db.plans.rows, ∀ p' ∈ db.plans.rows, ∀ a, p.accountID = some a →
    p'.accountID = some a → p = p'
  baseline_plan : ∀ planID generation w b, db.baselines (planID, generation, w) = some b →
    ∃ p ∈ db.plans.rows, p.id = planID ∧ generation ≤ p.generation
  baseline_account : ∀ p ∈ db.plans.rows, ∀ a, p.accountID = some a → ∀ w b,
    db.baselines (p.id, p.generation, w) = some b → b.accountID = a
  covered : ∀ p ∈ db.plans.rows, ∀ a, p.accountID = some a → ∀ w q, ¬ exempt p.id w →
    db.snapshots (a, w) = some q →
    ∃ b, db.baselines (p.id, p.generation, w) = some b ∧ sameQuotaWindow b.resetAt q.resetAt

section Writes

variable {exempt : String → WindowType → Prop} {db : QuotaDB} {p : PlanBinding} {accountID : String}

/-- Writing a window of a bound plan together with its snapshot covers it. -/
lemma Accounted.write (h : Accounted exempt db) (hp : p ∈ db.plans.rows)
    (ha : p.accountID = some accountID) (signal : QuotaSignal) (authoritative : Bool) (at' now : ℤ)
    (f : Option Baseline → Baseline)
    (hf : ∀ old, (∀ b ∈ old, b.accountID = accountID) →
      (f old).accountID = accountID ∧ sameQuotaWindow (f old).resetAt signal.resetAt) :
    Accounted (fun i w => exempt i w ∧ ¬ (i = p.id ∧ w = signal.windowType))
      (writeBaseline p.id p.generation signal.windowType f
        (writeSnapshot accountID signal authoritative at' now db)) := by
  obtain ⟨hacc, hsame⟩ := hf (db.baselines (p.id, p.generation, signal.windowType))
    fun b hb => h.baseline_account p hp accountID ha signal.windowType b hb
  constructor
  · exact h.bound_once
  · intro planID generation w b hb
    by_cases hkey : (planID, generation, w) = (p.id, p.generation, signal.windowType)
    · obtain ⟨rfl, rfl, rfl⟩ : planID = p.id ∧ generation = p.generation ∧ w = signal.windowType := by
        simpa using hkey
      exact ⟨p, hp, rfl, le_rfl⟩
    · rw [writeBaseline_ne hkey, writeSnapshot_baselines] at hb
      exact h.baseline_plan planID generation w b hb
  · intro p' hp' a ha' w b hb
    by_cases hkey : (p'.id, p'.generation, w) = (p.id, p.generation, signal.windowType)
    · obtain rfl : p' = p := eq_of_key_eq db.plans.keys_nodup hp' hp (Prod.mk.inj hkey).1
      obtain rfl : a = accountID := Option.some.inj (ha'.symm.trans ha)
      obtain rfl : w = signal.windowType := (Prod.mk.inj (Prod.mk.inj hkey).2).2
      rw [writeBaseline_self] at hb
      obtain rfl := Option.some.inj hb
      exact hacc
    · rw [writeBaseline_ne hkey, writeSnapshot_baselines] at hb
      exact h.baseline_account p' hp' a ha' w b hb
  · intro p' hp' a ha' w q hexempt hq
    by_cases hkey : (a, w) = (accountID, signal.windowType)
    · obtain ⟨rfl, rfl⟩ : a = accountID ∧ w = signal.windowType := by simpa using hkey
      obtain rfl : p' = p := h.bound_once p' hp' p hp a ha' ha
      rw [writeBaseline_snapshots, writeSnapshot_self] at hq
      obtain rfl := Option.some.inj hq
      exact ⟨_, writeBaseline_self, hsame⟩
    · rw [writeBaseline_snapshots, writeSnapshot_ne hkey] at hq
      have hexempt' : ¬ exempt p'.id w := by
        intro he
        refine hexempt ⟨he, ?_⟩
        rintro ⟨hid, rfl⟩
        obtain rfl : p' = p := eq_of_key_eq db.plans.keys_nodup hp' hp hid
        exact hkey (by rw [Option.some.inj (ha'.symm.trans ha)])
      obtain ⟨b, hb, hclose⟩ := h.covered p' hp' a ha' w q hexempt' hq
      have hne : (p'.id, p'.generation, w) ≠ (p.id, p.generation, signal.windowType) := by
        intro heq
        obtain rfl : p' = p := eq_of_key_eq db.plans.keys_nodup hp' hp (Prod.mk.inj heq).1
        have hw : w = signal.windowType := (Prod.mk.inj (Prod.mk.inj heq).2).2
        exact hkey (by rw [hw, Option.some.inj (ha'.symm.trans ha)])
      exact ⟨b, (writeBaseline_ne hne).trans hb, hclose⟩

lemma Accounted.mono {exempt' : String → WindowType → Prop} (h : Accounted exempt db)
    (himp : ∀ p ∈ db.plans.rows, ∀ a, p.accountID = some a → ∀ w q,
      db.snapshots (a, w) = some q → exempt p.id w → exempt' p.id w) : Accounted exempt' db := by
  refine ⟨h.bound_once, h.baseline_plan, h.baseline_account, ?_⟩
  intro p hp a ha w q hexempt hq
  exact h.covered p hp a ha w q (fun he => hexempt (himp p hp a ha w q hq he)) hq

lemma sameQuotaWindow_refl (t : ℤ) : sameQuotaWindow t t := by
  unfold sameQuotaWindow
  rw [sub_self, abs_zero]
  decide

lemma keepBaseline_spec (signal : QuotaSignal) (now : ℤ) (old : Option Baseline)
    (hold : ∀ b ∈ old, b.accountID = accountID) :
    (keepBaseline accountID signal now old).accountID = accountID ∧
      sameQuotaWindow (keepBaseline accountID signal now old).resetAt signal.resetAt := by
  cases old with
  | none => exact ⟨rfl, sameQuotaWindow_refl _⟩
  | some b =>
    by_cases hfar : 120 * 1000000 < |b.resetAt - signal.resetAt|
    · rw [keepBaseline, if_pos hfar]
      exact ⟨hold b rfl, sameQuotaWindow_refl _⟩
    · rw [keepBaseline, if_neg hfar]
      exact ⟨hold b rfl, not_lt.mp hfar⟩

/-- Dropping the optional window of an account touches no baseline of another account's plan. -/
lemma Accounted.removeMissing (h : Accounted exempt db) (accountID : String) (signals : List QuotaSignal) :
    Accounted exempt (removeMissingOptionalQuotaWindows accountID signals db) := by
  unfold removeMissingOptionalQuotaWindows
  split_ifs with hkeep
  · exact h
  refine ⟨h.bound_once, ?_, ?_, ?_⟩
  · intro planID generation w b hb
    exact h.baseline_plan planID generation w b (Option.mem_filter_iff.mp hb).1
  · intro p hp a ha w b hb
    exact h.baseline_account p hp a ha w b (Option.mem_filter_iff.mp hb).1
  · intro p hp a ha w q hexempt hq
    have hkey : (a, w) ≠ (accountID, .window5H) := by
      intro heq
      rw [heq] at hq
      simp at hq
    have hq' : db.snapshots (a, w) = some q := by simpa [Function.update_of_ne hkey] using hq
    obtain ⟨b, hb, hclose⟩ := h.covered p hp a ha w q hexempt hq'
    refine ⟨b, Option.mem_filter_iff.mpr ⟨hb, ?_⟩, hclose⟩
    rw [h.baseline_account p hp a ha w b hb, decide_eq_true_eq]
    rintro ⟨rfl, rfl⟩
    exact hkey rfl

@[simp] lemma removeMissing_plans (accountID : String) (signals : List QuotaSignal) :
    (removeMissingOptionalQuotaWindows accountID signals db).plans = db.plans := by
  unfold removeMissingOptionalQuotaWindows
  split_ifs <;> rfl

end Writes

section Recording

variable {db db' : QuotaDB} {planID accountID : String} {generation : ℕ} {signals : List QuotaSignal} {now : ℤ}

def NoExemption : String → WindowType → Prop := fun _ _ => False

lemma Accounted.write_all {p : PlanBinding} (h : Accounted NoExemption db) (hp : p ∈ db.plans.rows)
    (ha : p.accountID = some accountID) (signal : QuotaSignal) (authoritative : Bool) (at' now : ℤ)
    (f : Option Baseline → Baseline)
    (hf : ∀ old, (∀ b ∈ old, b.accountID = accountID) →
      (f old).accountID = accountID ∧ sameQuotaWindow (f old).resetAt signal.resetAt) :
    Accounted NoExemption (writeBaseline p.id p.generation signal.windowType f
      (writeSnapshot accountID signal authoritative at' now db)) :=
  (h.write hp ha signal authoritative at' now f hf).mono fun _ _ _ _ _ _ _ he => he.1

lemma currentBinding_spec (h : currentBinding planID accountID generation db = .ok ()) :
    ∃ p ∈ db.plans.rows, p.id = planID ∧ p.generation = generation ∧ p.accountID = some accountID := by
  simp only [currentBinding, orFail_bind_eq_ok, ensure_eq_ok] at h
  obtain ⟨p, hfind, current, hcurrent, rfl, hgen⟩ := h
  exact ⟨p, List.mem_of_find?_eq_some hfind, by simpa using List.find?_some hfind, hgen, hcurrent⟩

lemma recordSignals_accounted {p : PlanBinding} {authoritative : Bool} {recorded : Option QuotaDB}
    (h : Accounted NoExemption db) (hp : p ∈ db.plans.rows) (ha : p.accountID = some accountID)
    (hrec : recordSignals p.id accountID p.generation now authoritative signals db = .ok recorded)
    (hsome : recorded = some db') : Accounted NoExemption db' := by
  induction signals generalizing db with
  | nil =>
    simp only [recordSignals, Except.ok.injEq] at hrec
    obtain rfl : db = db' := Option.some.inj (hrec.trans hsome)
    exact h
  | cons signal rest ih =>
    simp only [recordSignals] at hrec
    split at hrec
    · split_ifs at hrec
      · simp only [Except.ok.injEq] at hrec
        rw [← hrec] at hsome
        cases hsome
      · exact ih h hp hrec
    · next accepted flag at' haccepted =>
      simp only [check_bind_eq_ok] at hrec
      exact ih (h.write_all hp ha accepted flag at' now _ (keepBaseline_spec accepted now)) hp hrec.2

lemma recordAccountQuotaSignals_accounted {authoritative : Bool} (h : Accounted NoExemption db)
    (hrec : recordAccountQuotaSignals planID accountID generation signals now authoritative db = .ok db') :
    Accounted NoExemption db' := by
  simp only [recordAccountQuotaSignals, check_bind_eq_ok] at hrec
  obtain ⟨hcurrent, hrec⟩ := hrec
  simp only [bind_eq_ok, commit_eq_ok] at hrec
  obtain ⟨recorded, hloop, rfl⟩ := hrec
  obtain ⟨p, hp, rfl, rfl, ha⟩ := currentBinding_spec hcurrent
  cases recorded with
  | none => exact h
  | some db' =>
    cases authoritative with
    | false => exact recordSignals_accounted h hp ha hloop rfl
    | true =>
      exact recordSignals_accounted (h.removeMissing accountID signals) (by simpa using hp) ha hloop rfl

lemma resetSignals_accounted {p : PlanBinding} (h : Accounted NoExemption db) (hp : p ∈ db.plans.rows)
    (ha : p.accountID = some accountID)
    (hreset : signals.foldlM (fun db signal => resetSignal p.id accountID p.generation now signal db) db =
      .ok db') : Accounted NoExemption db' := by
  induction signals generalizing db with
  | nil =>
    obtain rfl : db = db' := by simpa using hreset
    exact h
  | cons signal rest ih =>
    simp only [List.foldlM_cons, resetSignal, bind_eq_ok, commit_eq_ok] at hreset
    obtain ⟨-, ⟨-, -, rfl⟩, hrest⟩ := hreset
    exact ih (h.write_all hp ha signal true now now _ fun _ _ => ⟨rfl, sameQuotaWindow_refl _⟩) hp hrest

lemma recordQuotaResetSignals_accounted (h : Accounted NoExemption db)
    (hrec : recordQuotaResetSignals planID accountID generation signals now db = .ok db') :
    Accounted NoExemption db' := by
  simp only [recordQuotaResetSignals, orFail_bind_eq_ok, check_bind_eq_ok] at hrec
  obtain ⟨ordered, -, hcurrent, hloop⟩ := hrec
  obtain ⟨p, hp, rfl, rfl, ha⟩ := currentBinding_spec hcurrent
  exact resetSignals_accounted (h.removeMissing accountID ordered) (by simpa using hp) ha hloop

end Recording

section Binding

variable {db db' : QuotaDB} {planID accountID : String} {generation : ℕ} {signals : List QuotaSignal}
  {observedAt : ℤ} {exempt : String → WindowType → Prop}

/-- Binding a plan covers the windows that come with a signal and leaves the account's others alone. -/
lemma bindSignals_accounted {p : PlanBinding} (h : Accounted exempt db) (hp : p ∈ db.plans.rows)
    (ha : p.accountID = some accountID)
    (hbind : signals.foldlM (fun db signal => bindSignal p.id accountID p.generation observedAt signal db) db =
      .ok db') :
    db'.plans = db.plans ∧
      (∀ w, (¬ ∃ s ∈ signals, s.windowType = w) → db'.snapshots (accountID, w) = db.snapshots (accountID, w)) ∧
      Accounted (fun i w => exempt i w ∧ ¬ (i = p.id ∧ ∃ s ∈ signals, s.windowType = w)) db' := by
  induction signals generalizing db exempt with
  | nil =>
    obtain rfl : db = db' := by simpa using hbind
    exact ⟨rfl, fun _ _ => rfl, h.mono fun _ _ _ _ _ _ _ he => ⟨he, by simp⟩⟩
  | cons signal rest ih =>
    simp only [List.foldlM_cons, bindSignal, bind_eq_ok, commit_eq_ok] at hbind
    obtain ⟨-, ⟨-, -, -, -, rfl⟩, hrest⟩ := hbind
    have hwrite := h.write hp ha signal true observedAt observedAt
      (fun _ => newBaseline accountID signal observedAt) fun _ _ => ⟨rfl, sameQuotaWindow_refl _⟩
    obtain ⟨hplans, hsnap, hacc⟩ := ih hwrite hp hrest
    refine ⟨hplans, fun w hw => ?_, hacc.mono ?_⟩
    · rw [hsnap w fun hex => hw ?_]
      · have hne : (accountID, w) ≠ (accountID, signal.windowType) := by
          intro heq
          exact hw ⟨signal, by simp, (Prod.mk.inj heq).2.symm⟩
        rw [writeBaseline_snapshots, writeSnapshot_ne hne]
      · obtain ⟨s, hs, hsw⟩ := hex
        exact ⟨s, List.mem_cons_of_mem _ hs, hsw⟩
    · rintro p' - a - w q - ⟨⟨he, hnot⟩, hnot'⟩
      refine ⟨he, ?_⟩
      rintro ⟨hid, s, hs, hsw⟩
      rcases List.mem_cons.mp hs with rfl | hs'
      · exact hnot ⟨hid, hsw.symm⟩
      · exact hnot' ⟨hid, s, hs', hsw⟩

lemma mem_ordered {ordered : List QuotaSignal} (h : orderedBindingQuotaSignals signals = some ordered) :
    (∃ s ∈ ordered, s.windowType = .window7D) ∧
      ∀ w, (∃ s ∈ ordered, s.windowType = w) ↔ ∃ s ∈ signals, s.windowType = w := by
  simp only [orderedBindingQuotaSignals] at h
  split_ifs at h with hlen
  obtain rfl := Option.some.inj h
  obtain ⟨s, hs⟩ := List.exists_mem_of_length_pos (l := signals.filter fun s => s.windowType = .window7D)
    (by omega)
  have hs' : s ∈ signals ∧ s.windowType = .window7D := by simpa using hs
  refine ⟨⟨s, List.mem_append_right _ hs, hs'.2⟩, fun w => ?_⟩
  constructor
  · rintro ⟨x, hx, hxw⟩
    rcases List.mem_append.mp hx with hx | hx
    · exact ⟨x, (List.mem_filter.mp hx).1, hxw⟩
    · exact ⟨x, (List.mem_filter.mp hx).1, hxw⟩
  · rintro ⟨x, hx, rfl⟩
    cases hw : x.windowType with
    | window5H => exact ⟨x, List.mem_append_left _ (by simp [hx, hw]), hw⟩
    | window7D => exact ⟨x, List.mem_append_right _ (by simp [hx, hw]), hw⟩

/-- The optional window is either part of the new binding or unknown for the account. -/
def OptionalWindowSettled (db : QuotaDB) (accountID : String) (signals : List QuotaSignal) : Prop :=
  (∃ s ∈ signals, s.windowType = .window5H) ∨ db.snapshots (accountID, .window5H) = none

lemma initializePlanAccountBinding_accounted {p : PlanBinding}
    (h : Accounted (fun i _ => i = p.id) db) (hp : p ∈ db.plans.rows) (ha : p.accountID = some accountID)
    (hsettled : OptionalWindowSettled db accountID signals)
    (hinit : initializePlanAccountBinding p.id accountID p.generation signals observedAt db = .ok db') :
    Accounted NoExemption db' := by
  simp only [initializePlanAccountBinding, orFail_bind_eq_ok] at hinit
  obtain ⟨ordered, hordered, hfold⟩ := hinit
  obtain ⟨hweekly, hmem⟩ := mem_ordered hordered
  obtain ⟨hplans, hsnap, hacc⟩ := bindSignals_accounted h hp ha hfold
  refine hacc.mono ?_
  rintro p' hp' a ha' w q hq ⟨hid, hmissing⟩
  -- only a window without a signal is still exempt, and the account has no row for it
  rw [hplans] at hp'
  obtain rfl : p' = p := eq_of_key_eq db.plans.keys_nodup hp' hp hid
  obtain rfl : a = accountID := Option.some.inj (ha'.symm.trans ha)
  have hno : ¬ ∃ s ∈ ordered, s.windowType = w := fun hs => hmissing ⟨rfl, hs⟩
  cases w with
  | window7D => exact hno hweekly
  | window5H =>
    rcases hsettled with h5 | hnone
    · exact hno ((hmem .window5H).mpr h5)
    · rw [hsnap .window5H hno, hnone] at hq
      cases hq

lemma no_baseline_of_new_generation (h : Accounted exempt db) {p : PlanBinding} (hp : p ∈ db.plans.rows)
    (hgen : p.generation < generation) (w : WindowType) : db.baselines (p.id, generation, w) = none := by
  by_contra hne
  obtain ⟨b, hb⟩ := Option.ne_none_iff_exists'.mp hne
  obtain ⟨p', hp', hid, hle⟩ := h.baseline_plan p.id generation w b hb
  obtain rfl : p' = p := eq_of_key_eq db.plans.keys_nodup hp' hp hid
  omega

lemma Accounted.insertPlan {new : PlanBinding} {plans : PlanTable} (h : Accounted NoExemption db)
    (hinsert : db.plans.insert? new = some plans)
    (hfree : ∀ a, new.accountID = some a → ¬ ∃ p ∈ db.plans.rows, p.accountID = some a) :
    new ∈ plans.rows ∧ Accounted (fun i _ => i = new.id) { db with plans := plans } := by
  have hrows : plans.rows = db.plans.rows ++ [new] := Table.rows_of_insert? hinsert
  have hkeys := plans.keys_nodup
  rw [hrows, List.map_append, List.nodup_append] at hkeys
  have hfresh : ∀ p ∈ db.plans.rows, p.id ≠ new.id := by
    intro p hp
    exact hkeys.2.2 p.id (List.mem_map_of_mem hp) new.id (by simp)
  have hcases : ∀ p ∈ plans.rows, p ∈ db.plans.rows ∨ p = new := by
    intro p hp
    rw [hrows] at hp
    simpa using hp
  refine ⟨by simp [hrows], ?_, ?_, ?_, ?_⟩
  · intro p hp p' hp' a ha ha'
    rcases hcases p hp with hp | rfl
    · rcases hcases p' hp' with hp' | rfl
      · exact h.bound_once p hp p' hp' a ha ha'
      · exact absurd ⟨p, hp, ha⟩ (hfree a ha')
    · rcases hcases p' hp' with hp' | rfl
      · exact absurd ⟨p', hp', ha'⟩ (hfree a ha)
      · rfl
  · intro planID generation w b hb
    obtain ⟨p, hp, hid, hle⟩ := h.baseline_plan planID generation w b hb
    exact ⟨p, by simp [hrows, hp], hid, hle⟩
  · intro p hp a ha w b hb
    rcases hcases p hp with hp | rfl
    · exact h.baseline_account p hp a ha w b hb
    · obtain ⟨p', hp', hid, -⟩ := h.baseline_plan p.id p.generation w b hb
      exact absurd hid (hfresh p' hp')
  · intro p hp a ha w q hexempt hq
    rcases hcases p hp with hp | rfl
    · exact h.covered p hp a ha w q id hq
    · exact absurd rfl hexempt

lemma createBoundPlan_accounted {ownerCheck accountCheck : Except DomainError Unit} {ownerID : String}
    {account : Option String} (h : Accounted NoExemption db)
    (hsettled : ∀ a, account = some a → OptionalWindowSettled db a signals)
    (hcreate : createBoundPlan ownerCheck accountCheck planID ownerID account signals observedAt db = .ok db') :
    Accounted NoExemption db' := by
  simp only [createBoundPlan, check_bind_eq_ok] at hcreate
  obtain ⟨-, hcreate⟩ := hcreate
  cases account with
  | none =>
    simp only [orFail_bind_eq_ok, commit_eq_ok] at hcreate
    obtain ⟨plans, hinsert, rfl⟩ := hcreate
    obtain ⟨hmem, hacc⟩ := h.insertPlan hinsert (by simp)
    refine hacc.mono ?_
    intro p hp a ha w q hq hid
    have hnew : p = ⟨planID, ownerID, none, 0⟩ := eq_of_key_eq plans.keys_nodup hp hmem hid
    rw [hnew] at ha
    cases ha
  | some a =>
    simp only [check_bind_eq_ok, ensure_eq_ok, orFail_bind_eq_ok] at hcreate
    obtain ⟨-, -, hfree, plans, hinsert, hinit⟩ := hcreate
    obtain ⟨hmem, hacc⟩ := h.insertPlan hinsert (by rintro a' ⟨⟩; exact hfree)
    exact initializePlanAccountBinding_accounted hacc hmem rfl (hsettled a rfl) hinit

lemma Accounted.rebindPlan {plan : PlanBinding} {plans : PlanTable} (h : Accounted NoExemption db)
    (hplan : plan ∈ db.plans.rows)
    (hfree : ¬ ∃ p ∈ db.plans.rows, p.accountID = some accountID ∧ p.id ≠ plan.id)
    (hupdate : db.plans.update? (fun p => p.id = plan.id) (fun p =>
      { p with accountID := some accountID, generation := plan.generation + 1 }) = some plans) :
    { plan with accountID := some accountID, generation := plan.generation + 1 } ∈ plans.rows ∧
      Accounted (fun i _ => i = plan.id) { db with plans := plans } := by
  have hrows := Table.rows_of_update? hupdate
  have hcases : ∀ p ∈ plans.rows, (p ∈ db.plans.rows ∧ p.id ≠ plan.id) ∨
      p = { plan with accountID := some accountID, generation := plan.generation + 1 } := by
    intro p hp
    rw [hrows] at hp
    obtain ⟨x, hx, rfl⟩ := List.mem_map.mp hp
    by_cases hid : x.id = plan.id
    · obtain rfl : x = plan := eq_of_key_eq db.plans.keys_nodup hx hplan hid
      exact Or.inr (if_pos rfl)
    · rw [if_neg hid]
      exact Or.inl ⟨hx, hid⟩
  have hkeep : ∀ p ∈ db.plans.rows, p.id ≠ plan.id → p ∈ plans.rows := by
    intro p hp hid
    rw [hrows]
    exact List.mem_map.mpr ⟨p, hp, if_neg hid⟩
  have hnew : { plan with accountID := some accountID, generation := plan.generation + 1 } ∈ plans.rows := by
    rw [hrows]
    exact List.mem_map.mpr ⟨plan, hplan, if_pos rfl⟩
  refine ⟨hnew, ?_, ?_, ?_, ?_⟩
  · intro p hp p' hp' a ha ha'
    rcases hcases p hp with ⟨hp, hid⟩ | rfl
    · rcases hcases p' hp' with ⟨hp', -⟩ | rfl
      · exact h.bound_once p hp p' hp' a ha ha'
      · exact absurd ⟨p, hp, ha.trans ha'.symm, hid⟩ hfree
    · rcases hcases p' hp' with ⟨hp', hid'⟩ | rfl
      · exact absurd ⟨p', hp', ha'.trans ha.symm, hid'⟩ hfree
      · rfl
  · intro planID generation w b hb
    obtain ⟨p, hp, hid, hle⟩ := h.baseline_plan planID generation w b hb
    by_cases hpid : p.id = plan.id
    · obtain rfl : p = plan := eq_of_key_eq db.plans.keys_nodup hp hplan hpid
      exact ⟨_, hnew, hid, hle.trans (Nat.le_succ _)⟩
    · exact ⟨p, hkeep p hp hpid, hid, hle⟩
  · intro p hp a ha w b hb
    rcases hcases p hp with ⟨hp, -⟩ | rfl
    · exact h.baseline_account p hp a ha w b hb
    · rw [no_baseline_of_new_generation h hplan (Nat.lt_succ_self _) w] at hb
      cases hb
  · intro p hp a ha w q hexempt hq
    rcases hcases p hp with ⟨hp, -⟩ | rfl
    · exact h.covered p hp a ha w q id hq
    · exact absurd rfl hexempt

lemma rebindPlanAccount_accounted {accountCheck capacityCheck : Except DomainError Unit} {ownerID : String}
    (h : Accounted NoExemption db) (hsettled : OptionalWindowSettled db accountID signals)
    (hrebind : rebindPlanAccount accountCheck capacityCheck planID ownerID accountID signals observedAt db =
      .ok db') : Accounted NoExemption db' := by
  simp only [rebindPlanAccount, check_bind_eq_ok, ensure_eq_ok, orFail_bind_eq_ok] at hrebind
  obtain ⟨-, plan, hfind, -, -, -, hfree, -, plans, hupdate, hinit⟩ := hrebind
  have hplan : plan ∈ db.plans.rows := List.mem_of_find?_eq_some hfind
  have hid : plan.id = planID := by simpa using List.find?_some hfind
  subst hid
  obtain ⟨hmem, hacc⟩ := h.rebindPlan hplan hfree hupdate
  exact initializePlanAccountBinding_accounted
    (p := { plan with accountID := some accountID, generation := plan.generation + 1 })
    hacc hmem rfl hsettled hinit

end Binding

section Runs

inductive QuotaOp
  | createPlan (ownerCheck accountCheck : Except DomainError Unit) (planID ownerID : String)
      (accountID : Option String) (signals : List QuotaSignal) (observedAt : ℤ)
  | rebindPlanAccount (accountCheck capacityCheck : Except DomainError Unit)
      (planID ownerID accountID : String) (signals : List QuotaSignal) (observedAt : ℤ)
  | recordAccountQuotaSignals (planID accountID : String) (generation : ℕ) (signals : List QuotaSignal)
      (now : ℤ)
  | recordProbedAccountQuotaSignals (planID accountID : String) (generation : ℕ)
      (signals : List QuotaSignal) (now : ℤ)
  | recordQuotaResetSignals (planID accountID : String) (generation : ℕ) (signals : List QuotaSignal)
      (now : ℤ)

def step (db : QuotaDB) : QuotaOp → Except DomainError QuotaDB
  | .createPlan oc ac planID ownerID accountID signals observedAt =>
    createBoundPlan oc ac planID ownerID accountID signals observedAt db
  | .rebindPlanAccount ac cc planID ownerID accountID signals observedAt =>
    rebindPlanAccount ac cc planID ownerID accountID signals observedAt db
  | .recordAccountQuotaSignals planID accountID generation signals now =>
    recordAccountQuotaSignals planID accountID generation signals now false db
  | .recordProbedAccountQuotaSignals planID accountID generation signals now =>
    recordAccountQuotaSignals planID accountID generation signals now true db
  | .recordQuotaResetSignals planID accountID generation signals now =>
    recordQuotaResetSignals planID accountID generation signals now db

def emptyDB : QuotaDB := ⟨Table.empty, fun _ => none, fun _ => none⟩

/-- No binding step forgets a 5h row that the account still has. -/
def BindingSettled (db : QuotaDB) : QuotaOp → Prop
  | .createPlan _ _ _ _ (some accountID) signals _ => OptionalWindowSettled db accountID signals
  | .rebindPlanAccount _ _ _ _ accountID signals _ => OptionalWindowSettled db accountID signals
  | _ => True

instance (db : QuotaDB) (accountID : String) (signals : List QuotaSignal) :
    Decidable (OptionalWindowSettled db accountID signals) := by
  unfold OptionalWindowSettled
  infer_instance

instance (db : QuotaDB) (op : QuotaOp) : Decidable (BindingSettled db op) := by
  unfold BindingSettled
  split <;> infer_instance

lemma step_accounted {db db' : QuotaDB} {op : QuotaOp} (h : Accounted NoExemption db)
    (hstep : step db op = .ok db') (hsettled : BindingSettled db op) : Accounted NoExemption db' := by
  cases op with
  | createPlan oc ac planID ownerID account signals observedAt =>
    refine createBoundPlan_accounted h ?_ hstep
    rintro a rfl
    exact hsettled
  | rebindPlanAccount => exact rebindPlanAccount_accounted h hsettled hstep
  | recordAccountQuotaSignals => exact recordAccountQuotaSignals_accounted h hstep
  | recordProbedAccountQuotaSignals => exact recordAccountQuotaSignals_accounted h hstep
  | recordQuotaResetSignals => exact recordQuotaResetSignals_accounted h hstep

/-- In every state reached without a forgetful binding, each snapshot of a bound account has a
baseline of the plan's current generation in the same window. -/
theorem snapshot_has_baseline {db : QuotaDB} {ops : List QuotaOp}
    (hrun : Run (fun u op v => step u op = .ok v ∧ BindingSettled u op) emptyDB ops db)
    {p : PlanBinding} (hp : p ∈ db.plans.rows) {a : String} (ha : p.accountID = some a) {w : WindowType}
    {q : Snapshot} (hq : db.snapshots (a, w) = some q) :
    ∃ b, db.baselines (p.id, p.generation, w) = some b ∧ b.accountID = a ∧
      |b.resetAt - q.resetAt| ≤ quotaWindowResetTolerance := by
  have hacc : Accounted NoExemption db := by
    refine hrun.invariant ⟨by simp [emptyDB], by simp [emptyDB], by simp [emptyDB], by simp [emptyDB]⟩ ?_
    rintro u op v hu ⟨hstep, hsettled⟩
    exact step_accounted hu hstep hsettled
  obtain ⟨b, hb, hclose⟩ := hacc.covered p hp a ha w q id hq
  exact ⟨b, hb, hacc.baseline_account p hp a ha w b hb, hclose⟩

def weekly (resetAt : ℤ) : QuotaSignal := ⟨.window7D, 0, resetAt, 0⟩

def fiveHours (resetAt : ℤ) : QuotaSignal := ⟨.window5H, 0, resetAt, 0⟩

/-- The first plan moves from `A` to `B`, and a second plan takes `A` with a weekly-only probe. -/
def movedAccount : List QuotaOp :=
  [.createPlan (.ok ()) (.ok ()) "first" "owner" (some "A")
      [fiveHours 18000000000, weekly 604800000000] 1000000,
    .rebindPlanAccount (.ok ()) (.ok ()) "first" "owner" "B" [weekly 604800000000] 2000000,
    .createPlan (.ok ()) (.ok ()) "second" "owner" (some "A") [weekly 604800000000] 3000000]

theorem snapshot_without_baseline :
    ∃ db, Run (fun u op v => step u op = .ok v) emptyDB movedAccount db ∧
      ¬ ∀ p ∈ db.plans.rows, ∀ a, p.accountID = some a → ∀ w q, db.snapshots (a, w) = some q →
        ∃ b, db.baselines (p.id, p.generation, w) = some b ∧ b.accountID = a ∧
          |b.resetAt - q.resetAt| ≤ quotaWindowResetTolerance := by
  have hend : ((executeWhen (fun _ _ => True) step emptyDB movedAccount).map fun db =>
      (decide (⟨"second", "owner", some "A", 1⟩ ∈ db.plans.rows),
        (db.snapshots ("A", .window5H)).map Snapshot.resetAt,
        db.baselines ("second", 1, .window5H))) = some (true, some 18000000000, none) := by decide
  obtain ⟨db, hrun, hdb⟩ := Option.map_eq_some_iff.mp hend
  simp only [Prod.mk.injEq, decide_eq_true_eq, Option.map_eq_some_iff] at hdb
  obtain ⟨hplan, ⟨q, hq, -⟩, hnone⟩ := hdb
  refine ⟨db, (run_of_executeWhen hrun).mono fun _ _ _ => And.left, fun hall => ?_⟩
  obtain ⟨b, hb, -⟩ := hall _ hplan "A" rfl .window5H q hq
  rw [hnone] at hb
  cases hb

/-- The same move with a probe that still reports the 5h window. -/
def movedWithBothWindows : List QuotaOp :=
  [.createPlan (.ok ()) (.ok ()) "first" "owner" (some "A")
      [fiveHours 18000000000, weekly 604800000000] 1000000,
    .rebindPlanAccount (.ok ()) (.ok ()) "first" "owner" "B" [weekly 604800000000] 2000000,
    .createPlan (.ok ()) (.ok ()) "second" "owner" (some "A")
      [fiveHours 18000000000, weekly 604800000000] 3000000,
    .recordProbedAccountQuotaSignals "second" "A" 1 [fiveHours 36000000000, weekly 604800000000] 4000000]

theorem snapshot_has_baseline_movedWithBothWindows :
    ∃ db, Run (fun u op v => step u op = .ok v ∧ BindingSettled u op) emptyDB movedWithBothWindows db ∧
      ∃ q, db.snapshots ("A", .window5H) = some q ∧
        ∃ b, db.baselines ("second", 1, .window5H) = some b ∧ b.accountID = "A" ∧
          |b.resetAt - q.resetAt| ≤ quotaWindowResetTolerance := by
  have hend : ((executeWhen BindingSettled step emptyDB movedWithBothWindows).map fun db =>
      (decide (⟨"second", "owner", some "A", 1⟩ ∈ db.plans.rows),
        (db.snapshots ("A", .window5H)).map Snapshot.resetAt)) = some (true, some 36000000000) := by
    decide
  obtain ⟨db, hrun, hdb⟩ := Option.map_eq_some_iff.mp hend
  simp only [Prod.mk.injEq, decide_eq_true_eq, Option.map_eq_some_iff] at hdb
  obtain ⟨hplan, q, hq, -⟩ := hdb
  have hguarded := run_of_executeWhen hrun
  exact ⟨db, hguarded, q, hq, snapshot_has_baseline hguarded hplan rfl hq⟩

end Runs

end ShareSub.QuotaCoverage

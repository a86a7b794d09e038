import Mathlib
import ShareSub.ReplaySession

/-!
# What the history of a session stands for

A list of items is complete when nothing in it is bound to an account and each output of a tool follows from a call in it.
A history that is valid keeps the calls of its items, and a turn that is planned with it has an input that is complete.
-/
namespace ShareSub.ReplayRepresentation

open SseModel TurnModel TurnControls ReplayModel ReplayBudget ReplaySession

section Contexts

variable {Raw : Type} {json : ReplayJson Raw}

/-- Each output has its call, and nothing is bound to an account. -/
structure CompleteRoles (roles : List Role) : Prop where
  free : Role.bound ∉ roles
  called : ∀ id, Role.output id ∈ roles → Role.call id ∈ roles

lemma completeRoles_nil : CompleteRoles [] := ⟨by simp, by simp⟩

/-- The outputs of what is added may have their calls before it. -/
lemma CompleteRoles.append {base added : List Role} (hbase : CompleteRoles base) (hfree : Role.bound ∉ added)
    (hcalled : ∀ id, Role.output id ∈ added → Role.call id ∈ added ∨ Role.call id ∈ base) : CompleteRoles (base ++ added) := by
  refine ⟨?_, fun id hid => ?_⟩
  · rw [List.mem_append, not_or]
    exact ⟨hbase.free, hfree⟩
  · rw [List.mem_append] at hid ⊢
    rcases hid with hid | hid
    · exact .inl (hbase.called id hid)
    · exact (hcalled id hid).symm

lemma scanContexts_some {items : List Raw} {contexts c : Finset String} {required r : List String}
    (h : scanContexts json contexts required items = some (c, r)) :
    Role.bound ∉ items.map (role json) ∧ (∀ id, id ∈ c ↔ id ∈ contexts ∨ Role.call id ∈ items.map (role json)) ∧
      ∀ id, id ∈ r ↔ id ∈ required ∨ Role.output id ∈ items.map (role json) := by
  induction items generalizing contexts required with
  | nil =>
    cases h
    simp
  | cons raw items ih =>
    unfold scanContexts at h
    cases hrole : role json raw with
    | plain =>
      rw [hrole] at h
      obtain ⟨hfree, hcalls, houtputs⟩ := ih h
      simp_all
    | call id =>
      rw [hrole] at h
      obtain ⟨hfree, hcalls, houtputs⟩ := ih h
      refine ⟨by simp_all, fun x => ?_, by simp_all⟩
      rw [hcalls, Finset.mem_insert, List.map_cons, List.mem_cons, hrole, Role.call.injEq, or_assoc, or_left_comm]
    | output id =>
      rw [hrole] at h
      obtain ⟨hfree, hcalls, houtputs⟩ := ih h
      refine ⟨by simp_all, by simp_all, fun x => ?_⟩
      rw [houtputs, List.mem_append, List.mem_singleton, List.map_cons, List.mem_cons, hrole, Role.output.injEq, or_assoc]
    | bound =>
      rw [hrole] at h
      cases h

lemma scanContexts_isSome {items : List Raw} (hfree : Role.bound ∉ items.map (role json)) (contexts : Finset String)
    (required : List String) : (scanContexts json contexts required items).isSome = true := by
  induction items generalizing contexts required with
  | nil => rfl
  | cons raw items ih =>
    rw [List.map_cons, List.mem_cons, not_or] at hfree
    unfold scanContexts
    cases hrole : role json raw with
    | plain => exact ih hfree.2 ..
    | call id => exact ih hfree.2 ..
    | output id => exact ih hfree.2 ..
    | bound => exact absurd hrole.symm hfree.1

/-- The call ids of what is added, when it is complete with those that exist. -/
lemma delta_some {existing contexts : Finset String} {groups : List (List Raw)}
    (h : responsesWebSocketToolContextDelta json existing groups = some contexts) :
    Role.bound ∉ groups.flatten.map (role json) ∧
      (∀ id, id ∈ contexts ↔ Role.call id ∈ groups.flatten.map (role json)) ∧
      ∀ id, Role.output id ∈ groups.flatten.map (role json) →
        Role.call id ∈ groups.flatten.map (role json) ∨ id ∈ existing := by
  unfold responsesWebSocketToolContextDelta at h
  cases hscan : scanContexts json ∅ [] groups.flatten with
  | none =>
    rw [hscan] at h
    cases h
  | some scanned =>
    obtain ⟨c, r⟩ := scanned
    rw [hscan] at h
    dsimp only at h
    split_ifs at h with hall
    cases h
    obtain ⟨hfree, hcalls, houtputs⟩ := scanContexts_some hscan
    have hids (id : String) : id ∈ contexts ↔ Role.call id ∈ groups.flatten.map (role json) := by simpa using hcalls id
    refine ⟨hfree, hids, fun id hid => ?_⟩
    have hrequired := List.all_eq_true.1 hall id ((houtputs id).2 (.inr hid))
    rw [← hids]
    simpa using hrequired

lemma delta_isSome {existing : Finset String} {groups : List (List Raw)}
    (hfree : Role.bound ∉ groups.flatten.map (role json))
    (hcalled : ∀ id, Role.output id ∈ groups.flatten.map (role json) →
      Role.call id ∈ groups.flatten.map (role json) ∨ id ∈ existing) :
    (responsesWebSocketToolContextDelta json existing groups).isSome = true := by
  unfold responsesWebSocketToolContextDelta
  have hscan := scanContexts_isSome hfree ∅ []
  cases heq : scanContexts json ∅ [] groups.flatten with
  | none =>
    rw [heq] at hscan
    cases hscan
  | some scanned =>
    obtain ⟨c, r⟩ := scanned
    obtain ⟨-, hcalls, houtputs⟩ := scanContexts_some heq
    dsimp only
    rw [if_pos]
    · rfl
    · refine List.all_eq_true.2 fun id hid => ?_
      have houtput : Role.output id ∈ groups.flatten.map (role json) := by simpa using (houtputs id).1 hid
      have hid' : id ∈ c ∨ id ∈ existing := (hcalled id houtput).imp_left fun hcall => (hcalls id).2 (.inr hcall)
      simpa using hid'

lemma toolContextComplete_iff (items : List Raw) :
    responsesWebSocketToolContextComplete json items = true ↔ CompleteRoles (items.map (role json)) := by
  have hflat : [items].flatten = items := by simp
  constructor
  · intro h
    obtain ⟨contexts, hdelta⟩ := Option.isSome_iff_exists.1 h
    obtain ⟨hfree, -, hcalled⟩ := delta_some hdelta
    rw [hflat] at hfree hcalled
    exact ⟨hfree, fun id hid => (hcalled id hid).resolve_right (by simp)⟩
  · intro h
    refine delta_isSome ?_ fun id hid => ?_
    · rw [hflat]
      exact h.free
    · rw [hflat] at hid ⊢
      exact .inl (h.called id hid)

/-- The item is a call of a tool with the id. -/
def ToolCall (json : ReplayJson Raw) (raw : Raw) (id : String) : Prop :=
  ∃ fields, json.fields raw = some fields ∧ GatewayModel.trimSpace fields.1 ∈ toolCallTypes ∧
    GatewayModel.trimSpace fields.2 = id ∧ id ≠ ""

lemma role_eq_call_iff {raw : Raw} {id : String} : role json raw = .call id ↔ ToolCall json raw id := by
  unfold role ToolCall
  cases json.fields raw with
  | none => simp
  | some fields =>
    simp only [Option.map_some, Option.getD_some, Option.some.injEq, exists_eq_left', roleOf]
    split_ifs with htype hempty hreference houtput hblank hsuffix
    · constructor
      · nofun
      · rintro ⟨-, rfl, hne⟩
        exact absurd hempty hne
    · rw [Role.call.injEq]
      constructor
      · rintro rfl
        exact ⟨htype, rfl, hempty⟩
      · exact fun h => h.2.1
    all_goals simp [htype]

lemma call_mem_iff {items : List Raw} {id : String} :
    Role.call id ∈ items.map (role json) ↔ ∃ raw ∈ items, ToolCall json raw id := by
  rw [List.mem_map]
  exact exists_congr fun raw => and_congr_right fun _ => role_eq_call_iff

end Contexts

section History

variable {Raw : Type} {json : ReplayJson Raw} {h : ReplayHistory Raw} {plan : ReplayPlan} {current output : List Raw}

/-- What a valid history keeps of its items. -/
structure Represents (json : ReplayJson Raw) (h : ReplayHistory Raw) : Prop where
  bytes : h.bytes = rawMessagesBytes json h.items
  items_le : h.items.length ≤ responsesWebSocketReplayHistoryMaxItems
  bytes_le : h.bytes ≤ responsesWebSocketReplayHistoryMaxBytes
  contexts : ∀ id, id ∈ h.contexts ↔ Role.call id ∈ h.items.map (role json)
  complete : CompleteRoles (h.items.map (role json))

lemma rawMessagesBytes_append (a b : List Raw) :
    rawMessagesBytes json (a ++ b) = rawMessagesBytes json a + rawMessagesBytes json b := by
  simp [rawMessagesBytes]

lemma limitExceeded_eq_false {items bytes : ℕ} (hle : ¬ responsesWebSocketReplayLimitExceeded items bytes = true) :
    items ≤ responsesWebSocketReplayHistoryMaxItems ∧ bytes ≤ responsesWebSocketReplayHistoryMaxBytes := by
  simpa [responsesWebSocketReplayLimitExceeded] using hle

/-- The items of a turn that the history does not have. -/
def newItems (plan : ReplayPlan) (current : List Raw) : Option (List Raw) :=
  if plan.useHistory && plan.replaceWithCurrent then sliceFrom current plan.currentFrom else some current

def baseItems (h : ReplayHistory Raw) (plan : ReplayPlan) : List Raw := if plan.useHistory then h.items else []

def baseContexts (h : ReplayHistory Raw) (plan : ReplayPlan) : Finset String := if plan.useHistory then h.contexts else ∅

/-- A plan that can be committed: to the scan its input is what it takes from the history, with the new items. -/
structure Planned (json : ReplayJson Raw) (h : ReplayHistory Raw) (plan : ReplayPlan) (current : List Raw) : Prop where
  valid : plan.useHistory = true → h.valid = true
  itemCount : plan.itemCount = (plan.input h.items current).length
  bytes : plan.bytes = rawMessagesBytes json (plan.input h.items current)
  split : ∃ added, newItems plan current = some added ∧
    (plan.input h.items current).map (role json) = (baseItems h plan).map (role json) ++ added.map (role json)
  complete : CompleteRoles ((plan.input h.items current).map (role json))

lemma base_contexts (hrepresents : plan.useHistory = true → Represents json h) (id : String) :
    id ∈ baseContexts h plan ↔ Role.call id ∈ (baseItems h plan).map (role json) := by
  unfold baseContexts baseItems
  split_ifs with huse
  · exact (hrepresents huse).contexts id
  · simp

lemma base_complete (hrepresents : plan.useHistory = true → Represents json h) :
    CompleteRoles ((baseItems h plan).map (role json)) := by
  unfold baseItems
  split_ifs with huse
  · exact (hrepresents huse).complete
  · exact completeRoles_nil

/-- What is added with its contexts is complete after what was there. -/
lemma delta_complete {existing : Finset String} {base : List Raw} {groups : List (List Raw)}
    (hbase : CompleteRoles (base.map (role json)))
    (hexisting : ∀ id, id ∈ existing ↔ Role.call id ∈ base.map (role json))
    (hdelta : (responsesWebSocketToolContextDelta json existing groups).isSome = true) :
    CompleteRoles (base.map (role json) ++ groups.flatten.map (role json)) := by
  obtain ⟨contexts, hcontexts⟩ := Option.isSome_iff_exists.1 hdelta
  obtain ⟨hfree, -, hcalled⟩ := delta_some hcontexts
  exact hbase.append hfree fun id hid => (hcalled id hid).imp_right (hexisting id).1

/-- The items that are resent are, to the scan, those of the history. -/
def SameRoles (json : ReplayJson Raw) (h : ReplayHistory Raw) (current : List Raw) : Prop :=
  responsesWebSocketRawPrefix json current h.items = true →
    (current.take h.items.length).map (role json) = h.items.map (role json)

lemma rawPrefix_length {items candidates : List Raw} (hinitial : responsesWebSocketRawPrefix json items candidates = true) :
    candidates.length ≤ items.length := by
  induction candidates generalizing items with
  | nil => exact Nat.zero_le _
  | cons candidate rest ih =>
    cases items with
    | nil => cases hinitial
    | cons item items =>
      rw [responsesWebSocketRawPrefix, Bool.and_eq_true] at hinitial
      exact Nat.succ_le_succ (ih hinitial.2)

lemma sliceFrom_of_le {items : List Raw} {n : ℕ} (hn : n ≤ items.length) : sliceFrom items n = some (items.drop n) := if_pos hn

/-- The history is resent, and more. -/
lemma resent_planned (hvalid : h.valid = true) (hrepresents : Represents json h)
    (hinitial : responsesWebSocketRawPrefix json current h.items = true) (hroles : SameRoles json h current)
    (hdelta : (responsesWebSocketToolContextDelta json h.contexts [current.drop h.items.length]).isSome = true) :
    Planned json h ⟨true, true, h.items.length, current.length, rawMessagesBytes json current⟩ current := by
  have hsplit : current.map (role json) = h.items.map (role json) ++ (current.drop h.items.length).map (role json) := by
    rw [← hroles hinitial, ← List.map_append, List.take_append_drop]
  refine ⟨fun _ => hvalid, rfl, rfl, ⟨_, sliceFrom_of_le (rawPrefix_length hinitial), hsplit⟩, ?_⟩
  have hcomplete := delta_complete hrepresents.complete hrepresents.contexts hdelta
  rw [List.flatten_singleton] at hcomplete
  change CompleteRoles (current.map (role json))
  rw [hsplit]
  exact hcomplete

lemma input_append (currentFrom itemCount bytes : ℕ) (history current : List Raw) :
    (⟨true, false, currentFrom, itemCount, bytes⟩ : ReplayPlan).input history current = history ++ current := by
  cases current with
  | nil => exact (List.append_nil _).symm
  | cons => rfl

/-- The input follows the history. -/
lemma appended_planned (hvalid : h.valid = true) (hrepresents : Represents json h)
    (hdelta : (responsesWebSocketToolContextDelta json h.contexts [current]).isSome = true) :
    Planned json h ⟨true, false, 0, h.items.length + current.length, h.bytes + rawMessagesBytes json current⟩ current := by
  have hcomplete := delta_complete hrepresents.complete hrepresents.contexts hdelta
  rw [List.flatten_singleton, ← List.map_append] at hcomplete
  refine ⟨fun _ => hvalid, ?_, ?_, ⟨current, rfl, ?_⟩, ?_⟩
  · rw [input_append, List.length_append]
  · rw [input_append, rawMessagesBytes_append, ← hrepresents.bytes]
  · rw [input_append, List.map_append]
    rfl
  · rw [input_append]
    exact hcomplete

/-- The answer of `plan`, which is never absent: a plan that it says can be committed is one, and a turn that continues
another can be retried only then. -/
def Answers (json : ReplayJson Raw) (h : ReplayHistory Raw) (previousResponseID : String) (current : List Raw)
    (answer : Option (ReplayPlan × Bool × Bool)) : Prop :=
  ∃ plan retrySafe replayCommitSafe, answer = some (plan, retrySafe, replayCommitSafe) ∧
    (replayCommitSafe = true → Planned json h plan current) ∧
      (GatewayModel.trimSpace previousResponseID ≠ "" → retrySafe = true → replayCommitSafe = true)

lemma answers_refused (previousResponseID : String) (plan : ReplayPlan) :
    Answers json h previousResponseID current (some (plan, false, false)) :=
  ⟨plan, false, false, rfl, nofun, fun _ => nofun⟩

lemma answers_planned (previousResponseID : String) (hplanned : Planned json h plan current) :
    Answers json h previousResponseID current (some (plan, true, true)) :=
  ⟨plan, true, true, rfl, fun _ => hplanned, fun _ _ => rfl⟩

lemma plan_answers {previousResponseID : String} (currentExists currentReplayable : Bool)
    (hrepresents : h.valid = true → Represents json h)
    (hroles : GatewayModel.trimSpace previousResponseID = h.responseID → SameRoles json h current) :
    Answers json h previousResponseID current (h.plan json previousResponseID current currentExists currentReplayable) := by
  unfold ReplayHistory.plan
  dsimp only
  by_cases hblank : GatewayModel.trimSpace previousResponseID = ""
  · rw [if_pos hblank]
    refine ⟨_, _, _, rfl, fun hsafe => ?_, fun hne => absurd hblank hne⟩
    rw [Bool.and_eq_true, Bool.or_eq_true, Bool.not_eq_true'] at hsafe
    have hdelta : (responsesWebSocketToolContextDelta json ∅ [current]).isSome = true :=
      hsafe.2.resolve_left (by simp [hsafe.1])
    exact ⟨nofun, rfl, rfl, ⟨current, rfl, rfl⟩, (toolContextComplete_iff current).1 hdelta⟩
  · rw [if_neg hblank]
    by_cases hrefused : (!h.valid || !currentReplayable ||
      decide (GatewayModel.trimSpace previousResponseID ≠ h.responseID)) = true
    · rw [if_pos hrefused]
      exact answers_refused previousResponseID ReplayPlan.zero
    · rw [if_neg hrefused]
      simp only [Bool.or_eq_true, not_or, Bool.not_eq_true', Bool.not_eq_false, decide_eq_true_eq, not_not] at hrefused
      obtain ⟨⟨hvalid, -⟩, hid⟩ := hrefused
      by_cases hresent : (currentExists && !current.isEmpty && responsesWebSocketRawPrefix json current h.items) = true
      · simp only [if_pos hresent]
        have hinitial := (Bool.and_eq_true_iff.1 hresent).2
        rw [sliceFrom_of_le (rawPrefix_length hinitial)]
        dsimp only
        split_ifs with hlimit hdelta
        · exact answers_refused previousResponseID _
        · exact answers_refused previousResponseID _
        · exact answers_planned previousResponseID (resent_planned hvalid (hrepresents hvalid) hinitial (hroles hid)
            (Option.isSome_iff_ne_none.2 (by simpa using hdelta)))
      · simp only [if_neg hresent]
        split_ifs with hlimit hdelta
        · exact answers_refused previousResponseID _
        · exact answers_refused previousResponseID _
        · exact answers_planned previousResponseID (appended_planned hvalid (hrepresents hvalid)
            (Option.isSome_iff_ne_none.2 (by simpa using hdelta)))

lemma input_eq (plan : ReplayPlan) (history current : List Raw) :
    plan.input history current =
      if !plan.useHistory || plan.replaceWithCurrent then current else history ++ current := by
  unfold ReplayPlan.input
  split_ifs with hreplace hempty
  · rfl
  · rw [List.isEmpty_iff.1 hempty, List.append_nil]
  · rfl

lemma extend_items (responseID : String) (addedContexts : Finset String) :
    (h.extend json responseID plan current output addedContexts).items = plan.input h.items current ++ output := by
  rw [input_eq]
  rfl

lemma commitContexts_eq {added : List Raw} (hadded : newItems plan current = some added) (responseID : String) (replayable : Bool) :
    h.commitContexts json responseID plan current output replayable =
      if !replayable || GatewayModel.trimSpace responseID = "" then some none
      else if responsesWebSocketReplayLimitExceeded (plan.itemCount + output.length) (plan.totalBytes json output) then some none
      else some (responsesWebSocketToolContextDelta json (baseContexts h plan) [added, output]) := by
  unfold newItems at hadded
  unfold ReplayHistory.commitContexts baseContexts
  rw [hadded]

/-- A planned turn has its slice in range. -/
lemma Planned.commitContexts_isSome (hplanned : Planned json h plan current) (responseID : String) (replayable : Bool) :
    (h.commitContexts json responseID plan current output replayable).isSome = true := by
  obtain ⟨added, hadded, -⟩ := hplanned.split
  rw [commitContexts_eq hadded]
  split_ifs <;> rfl

/-- What the history is after a turn that is committed. -/
lemma Planned.represents (hplanned : Planned json h plan current)
    (hrepresents : h.valid = true → Represents json h) {responseID : String} {addedContexts : Finset String}
    (hcommits : h.commitContexts json responseID plan current output true = some (some addedContexts)) :
    Represents json (h.extend json responseID plan current output addedContexts) := by
  obtain ⟨added, hadded, hsplit⟩ := hplanned.split
  have huse : plan.useHistory = true → Represents json h := fun huse => hrepresents (hplanned.valid huse)
  rw [commitContexts_eq hadded] at hcommits
  split_ifs at hcommits with hblank hlimit
  · cases hcommits
  · cases hcommits
  rw [Option.some.injEq] at hcommits
  obtain ⟨hlength, hbytes⟩ := limitExceeded_eq_false hlimit
  obtain ⟨hfree, hcalls, hcalled⟩ := delta_some hcommits
  have hflat : [added, output].flatten = added ++ output := by simp
  rw [hflat] at hfree hcalls hcalled
  have hroles : (h.extend json responseID plan current output addedContexts).items.map (role json) =
      (baseItems h plan).map (role json) ++ (added ++ output).map (role json) := by
    rw [extend_items, List.map_append, hsplit, List.map_append, List.append_assoc]
  refine ⟨?_, ?_, hbytes, fun id => ?_, ?_⟩
  · rw [extend_items, rawMessagesBytes_append, ← hplanned.bytes]
    rfl
  · rw [extend_items, List.length_append, ← hplanned.itemCount]
    exact hlength
  · rw [hroles, List.mem_append, ← base_contexts huse, ← hcalls, ← Finset.mem_union]
    rfl
  · rw [hroles]
    exact (base_complete huse).append hfree fun id hid =>
      (hcalled id hid).imp_right (base_contexts huse id).1

end History

section Reservations

variable {X B : Type} [DecidableEq X] [DecidableEq B] {w : World X B}

/-- The other sessions do not move what this one holds. -/
lemma runCalls_held (calls : List (Call X)) (heap : Heap (Holder ⊕ X) B) (x : Holder) :
    (runCalls heap (calls.map (mapCall Sum.inr))).bytes (.inl x) = heap.bytes (.inl x) := by
  induction calls generalizing heap with
  | nil => rfl
  | cons call calls ih =>
    refine (ih _).trans ?_
    have hother (target : Option X) : target.map (@Sum.inr Holder X) ≠ some (.inl x) := by cases target <;> simp
    cases call with
    | resize target next => exact replaceWith_frame heap next (hother target) (by simp)
    | replaceWith target next sources =>
      refine replaceWith_frame heap next (hother target) fun hmem => ?_
      obtain ⟨source, -, hsource⟩ := List.mem_map.1 hmem
      exact hother source hsource
    | release target =>
      cases target with
      | none => rfl
      | some target => exact replaceWith_frame heap 0 (hother (some target)) (by simp)

lemma interfere_held (x : Holder) : w.interfere.bytes (.inl x) = w.held x := runCalls_held _ _ x

variable [Fintype X]

lemma interfere_balanced (hb : Balanced w.heap) : Balanced w.interfere := runCalls_balanced hb _

lemma call_balanced (hb : Balanced w.heap) (call : Call Holder) : Balanced (w.call call).1.heap :=
  run_balanced (interfere_balanced hb) _

/-- A call that is refused moves nothing of this session. -/
lemma call_refused (hb : Balanced w.heap) {call : Call Holder} (hrefused : (w.call call).2 = false) (x : Holder) :
    (w.call call).1.held x = w.held x := by
  refine Eq.trans ?_ (interfere_held x)
  exact congrArg (fun heap : Heap (Holder ⊕ X) B => heap.bytes (.inl x))
    (run_refused (interfere_balanced hb) (mapCall Sum.inl call) hrefused)

lemma replaceWith_held (hb : Balanced w.heap) {target : Holder} {next : ℤ} {sources : List (Option Holder)}
    (hok : (w.call (.replaceWith (some target) next sources)).2 = true) (x : Holder) :
    (w.call (.replaceWith (some target) next sources)).1.held x =
      if some x ∈ sources then 0 else if x = target then next else w.held x := by
  have hinj (y : Holder) : some (Sum.inl y) ∈ sources.map (Option.map (@Sum.inl Holder X)) ↔ some y ∈ sources := by
    rw [List.mem_map]
    constructor
    · rintro ⟨source, hsource, heq⟩
      obtain ⟨z, rfl, hz⟩ := Option.map_eq_some_iff.1 heq
      rwa [← Sum.inl.inj hz]
    · exact fun hmem => ⟨some y, hmem, rfl⟩
  have hmoved := (replaceWith_replaced (interfere_balanced hb) (some (.inl target)) next
    (sources.map (Option.map (@Sum.inl Holder X)))).moved hok
  split_ifs with hsource htarget
  · exact hmoved.2 _ ((hinj x).2 hsource)
  · rw [htarget]
    exact hmoved.1 _ rfl
  · refine Eq.trans (replaceWith_frame w.interfere next ?_ fun hmem => hsource ((hinj x).1 hmem)) (interfere_held x)
    simpa using Ne.symm htarget

lemma resize_held (hb : Balanced w.heap) {target : Holder} {next : ℤ} (hok : (w.call (.resize (some target) next)).2 = true)
    (x : Holder) : (w.call (.resize (some target) next)).1.held x = if x = target then next else w.held x := by
  have hcall : w.call (.resize (some target) next) = w.call (.replaceWith (some target) next []) := rfl
  rw [hcall] at hok ⊢
  rw [replaceWith_held hb hok, if_neg (by simp)]

lemma release_balanced (hb : Balanced w.heap) (x : Holder) : Balanced (w.release x).heap := call_balanced hb _

lemma release_held (hb : Balanced w.heap) (x y : Holder) : (w.release x).held y = if y = x then 0 else w.held y :=
  resize_held hb (release_ok (interfere_balanced hb) (some (.inl x))) y

/-- Whatever becomes of a resize, the other reservations stay. -/
lemma resize_others (hb : Balanced w.heap) {target : Holder} (next : ℤ) {x : Holder} (hx : x ≠ target) :
    (w.call (.resize (some target) next)).1.held x = w.held x := by
  cases hok : (w.call (.resize (some target) next)).2 with
  | false => exact call_refused hb hok x
  | true => rw [resize_held hb hok, if_neg hx]

end Reservations

end ShareSub.ReplayRepresentation

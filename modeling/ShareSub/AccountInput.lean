import ShareSub.FastPolicy
import ShareSub.ModelName
import ShareSub.RequestLocale

/-!
# The input of account configurations

What the owner of an account or of an API key submits is trimmed, checked and stored. The checks are those of the stored
form: what has been stored can be submitted again as it is.
-/
namespace ShareSub.AccountInput

open GatewayModel (trimSpace)
open FastPolicy RequestLocale

/-- A rule of a fast policy as submitted; a list that is missing is empty. -/
structure RuleInput where
  serviceTier : String
  action : String
  userIDs : List String
  errorMessage : String
  modelWhitelist : List String
  fallbackAction : String
  fallbackErrorMessage : String

structure AccountConfigInput where
  name : String
  notes : String
  proxyURL : String
  maxConcurrency : ℤ
  rpmLimit : ℤ
  fastPolicy : List RuleInput
  codexFingerprintMode : String
  stateEnabled : Bool
  requestTimezone : String
  status : String

def validTiers : List String := ["all", "priority", "flex"]

def validActions : List String := ["pass", "filter", "block", "force_priority"]

/-- `utf8.RuneCountInString`. -/
def runeCount (s : String) : ℕ := s.toList.length

def validUserID (s : String) : Prop := s ≠ ""

def validPattern (s : String) : Prop :=
  s ≠ "" ∧ runeCount s ≤ 100 ∧ s.toList.count '*' ≤ 1 ∧ ('*' ∈ s.toList → s.toList.getLast? = some '*')

instance : DecidablePred validUserID := fun s => inferInstanceAs (Decidable (s ≠ ""))

instance : DecidablePred validPattern := fun _ => inferInstanceAs (Decidable (_ ∧ _ ∧ _ ∧ _))

section Model

variable (toLower : String → String) (parseURL : String → Option (String × String))

/-- The loop over the users or the models of a rule: trimmed, valid and seen once. -/
def normalizeEntries (valid : String → Prop) [DecidablePred valid] : List String → List String → Option (List String)
  | _, [] => some []
  | seen, x :: xs =>
    if ¬ valid (trimSpace x) ∨ trimSpace x ∈ seen then none
    else (normalizeEntries valid (trimSpace x :: seen) xs).map (trimSpace x :: ·)

def normalizeWord (s : String) : String := toLower (trimSpace s)

def normalizeRule (allowUserScope : Bool) (rule : RuleInput) : Option RuleInput :=
  if normalizeWord toLower rule.serviceTier ∉ validTiers ∨ normalizeWord toLower rule.action ∉ validActions ∨
      normalizeWord toLower rule.fallbackAction ∉ validActions ∨ 500 < runeCount (trimSpace rule.errorMessage) ∨
      500 < runeCount (trimSpace rule.fallbackErrorMessage) then none
  else if allowUserScope = false ∧ 0 < rule.userIDs.length ∨ 500 < rule.userIDs.length ∨
      100 < rule.modelWhitelist.length then none
  else
    (normalizeEntries validUserID [] rule.userIDs).bind fun userIDs =>
      (normalizeEntries validPattern [] rule.modelWhitelist).map fun modelWhitelist =>
        { serviceTier := normalizeWord toLower rule.serviceTier
          action := normalizeWord toLower rule.action
          userIDs
          errorMessage := trimSpace rule.errorMessage
          modelWhitelist
          fallbackAction := normalizeWord toLower rule.fallbackAction
          fallbackErrorMessage := trimSpace rule.fallbackErrorMessage }

def normalizeRules (allowUserScope : Bool) : List RuleInput → Option (List RuleInput)
  | [] => some []
  | rule :: rules =>
    (normalizeRule toLower allowUserScope rule).bind fun rule' =>
      (normalizeRules allowUserScope rules).map (rule' :: ·)

def normalizeFastPolicy (policy : List RuleInput) (allowUserScope : Bool) : Option (List RuleInput) :=
  if 50 < policy.length then none else normalizeRules toLower allowUserScope policy

def validTimezone (s : String) : Prop := s = "" ∨ s ∈ requestTimezones

def validProxy (s : String) : Prop :=
  s = "" ∨ ((parseURL s).any fun (scheme, host) => host ≠ "" ∧ scheme ∈ ["http", "https", "socks5"]) = true

instance : DecidablePred validTimezone := fun _ => inferInstanceAs (Decidable (_ ∨ _))

instance : DecidablePred (validProxy parseURL) := fun _ => inferInstanceAs (Decidable (_ ∨ _))

def defaultFingerprintMode (s : String) : String := if s = "" then "off" else s

def normalizeAccountConfig (config : AccountConfigInput) : Option AccountConfigInput :=
  if ¬ validTimezone (trimSpace config.requestTimezone) then none
  else if defaultFingerprintMode config.codexFingerprintMode ∉ ["off", "device", "session", "full"] then none
  else if runeCount (trimSpace config.name) < 1 ∨ 100 < runeCount (trimSpace config.name) ∨
      2000 < runeCount (trimSpace config.notes) then none
  else if config.maxConcurrency < 0 ∨ 100 < config.maxConcurrency ∨ config.rpmLimit < 0 ∨ 10000 < config.rpmLimit then none
  else if config.status ∉ ["active", "disabled", "refresh_required"] then none
  else
    (normalizeFastPolicy toLower config.fastPolicy true).bind fun fastPolicy =>
      if ¬ validProxy parseURL (trimSpace config.proxyURL) then none
      else
        some { config with
          name := trimSpace config.name
          notes := trimSpace config.notes
          proxyURL := trimSpace config.proxyURL
          requestTimezone := trimSpace config.requestTimezone
          codexFingerprintMode := defaultFingerprintMode config.codexFingerprintMode
          fastPolicy }

/-- The action of a rule as the gateway reads it. -/
def actionOf (s : String) : Action :=
  if s = "pass" then .pass
  else if s = "filter" then .filter
  else if s = "block" then .block
  else if s = "force_priority" then .forcePriority
  else .other s

def RuleInput.stored (rule : RuleInput) : FastPolicyRule where
  serviceTier := rule.serviceTier
  action := actionOf rule.action
  userIDs := rule.userIDs
  errorMessage := rule.errorMessage
  modelWhitelist := rule.modelWhitelist
  fallbackAction := actionOf rule.fallbackAction
  fallbackErrorMessage := rule.fallbackErrorMessage

end Model

section Entries

variable {valid : String → Prop} [DecidablePred valid] {seen xs ys : List String}

lemma normalizeEntries_some (h : normalizeEntries valid seen xs = some ys) :
    ys = xs.map trimSpace ∧ (∀ y ∈ ys, valid y) ∧ ys.Nodup ∧ ∀ y ∈ ys, y ∉ seen := by
  induction xs generalizing seen ys with
  | nil =>
    obtain rfl : [] = ys := Option.some.inj h
    exact ⟨rfl, by simp, List.nodup_nil, by simp⟩
  | cons x xs ih =>
    simp only [normalizeEntries] at h
    split_ifs at h with hbad
    obtain ⟨zs, hzs, rfl⟩ := Option.map_eq_some_iff.mp h
    obtain ⟨rfl, hvalid, hnodup, hseen⟩ := ih hzs
    rw [not_or, not_not] at hbad
    refine ⟨rfl, ?_, List.nodup_cons.mpr ⟨fun hmem => hseen _ hmem List.mem_cons_self, hnodup⟩, ?_⟩
    · intro y hy
      rcases List.mem_cons.mp hy with rfl | hy
      · exact hbad.1
      · exact hvalid y hy
    · intro y hy hmem
      rcases List.mem_cons.mp hy with rfl | hy
      · exact hbad.2 hmem
      · exact hseen y hy (List.mem_cons_of_mem _ hmem)

lemma normalizeEntries_self (htrim : ∀ x ∈ xs, trimSpace x = x) (hvalid : ∀ x ∈ xs, valid x) (hnodup : xs.Nodup)
    (hseen : ∀ x ∈ xs, x ∉ seen) : normalizeEntries valid seen xs = some xs := by
  induction xs generalizing seen with
  | nil => rfl
  | cons x xs ih =>
    obtain ⟨hx, hxs⟩ := List.nodup_cons.mp hnodup
    have hrest : normalizeEntries valid (x :: seen) xs = some xs := by
      refine ih (fun y hy => htrim y (List.mem_cons_of_mem _ hy)) (fun y hy => hvalid y (List.mem_cons_of_mem _ hy)) hxs ?_
      intro y hy hmem
      rcases List.mem_cons.mp hmem with rfl | hmem
      · exact hx hy
      · exact hseen y (List.mem_cons_of_mem _ hy) hmem
    have hgood : ¬ (¬ valid x ∨ x ∈ seen) := by
      rw [not_or, not_not]
      exact ⟨hvalid x List.mem_cons_self, hseen x List.mem_cons_self⟩
    rw [normalizeEntries, htrim x List.mem_cons_self, if_neg hgood, hrest, Option.map_some]

/-- A list as it is stored. -/
structure Normal (valid : String → Prop) (xs : List String) : Prop where
  trimmed : ∀ x ∈ xs, trimSpace x = x
  valid : ∀ x ∈ xs, valid x
  nodup : xs.Nodup

lemma normal_of_some (h : normalizeEntries valid [] xs = some ys) : Normal valid ys ∧ ys.length = xs.length := by
  obtain ⟨rfl, hvalid, hnodup, -⟩ := normalizeEntries_some h
  refine ⟨⟨fun x hx => ?_, hvalid, hnodup⟩, List.length_map _⟩
  obtain ⟨y, -, rfl⟩ := List.mem_map.mp hx
  exact trimSpace_trimSpace y

lemma Normal.again (h : Normal valid xs) : normalizeEntries valid [] xs = some xs :=
  normalizeEntries_self h.trimmed h.valid h.nodup fun _ _ hmem => List.not_mem_nil hmem

end Entries

section Rules

variable {toLower : String → String} {allowUserScope : Bool} {rule rule' : RuleInput} {rules rules' : List RuleInput}

/-- The words of a policy are in lower case. -/
def KeepsWords (toLower : String → String) : Prop := ∀ w ∈ validTiers ++ validActions, toLower w = w

/-- A rule as it is stored. -/
structure RuleOK (allowUserScope : Bool) (rule : RuleInput) : Prop where
  serviceTier : rule.serviceTier ∈ validTiers
  action : rule.action ∈ validActions
  fallbackAction : rule.fallbackAction ∈ validActions
  errorMessage : trimSpace rule.errorMessage = rule.errorMessage ∧ runeCount rule.errorMessage ≤ 500
  fallbackErrorMessage :
    trimSpace rule.fallbackErrorMessage = rule.fallbackErrorMessage ∧ runeCount rule.fallbackErrorMessage ≤ 500
  users : Normal validUserID rule.userIDs ∧ rule.userIDs.length ≤ 500
  scope : allowUserScope = false → rule.userIDs = []
  models : Normal validPattern rule.modelWhitelist ∧ rule.modelWhitelist.length ≤ 100

lemma normalizeWord_self (hlower : KeepsWords toLower) {w : String} (h : w ∈ validTiers ++ validActions) :
    normalizeWord toLower w = w := by
  have htrim : ∀ w ∈ validTiers ++ validActions, trimSpace w = w := by decide
  rw [normalizeWord, htrim w h, hlower w h]

lemma normalizeRule_ok (h : normalizeRule toLower allowUserScope rule = some rule') : RuleOK allowUserScope rule' := by
  unfold normalizeRule at h
  split_ifs at h with hwords hlengths
  obtain ⟨userIDs, husers, h⟩ := Option.bind_eq_some_iff.mp h
  obtain ⟨modelWhitelist, hmodels, rfl⟩ := Option.map_eq_some_iff.mp h
  obtain ⟨husers, hcount⟩ := normal_of_some husers
  obtain ⟨hmodels, hcount'⟩ := normal_of_some hmodels
  simp only [not_or, not_not, not_lt, not_and] at hwords hlengths
  refine ⟨hwords.1, hwords.2.1, hwords.2.2.1, ⟨trimSpace_trimSpace _, hwords.2.2.2.1⟩,
    ⟨trimSpace_trimSpace _, hwords.2.2.2.2⟩, ⟨husers, hcount.trans_le hlengths.2.1⟩, fun hscope => ?_,
    ⟨hmodels, hcount'.trans_le hlengths.2.2⟩⟩
  have hnone := hlengths.1 hscope
  exact List.eq_nil_of_length_eq_zero (hcount.trans (Nat.le_zero.mp hnone))

lemma RuleOK.again (hlower : KeepsWords toLower) (h : RuleOK allowUserScope rule) :
    normalizeRule toLower allowUserScope rule = some rule := by
  have htier := normalizeWord_self hlower (List.mem_append_left validActions h.serviceTier)
  have haction := normalizeWord_self hlower (List.mem_append_right validTiers h.action)
  have hfallback := normalizeWord_self hlower (List.mem_append_right validTiers h.fallbackAction)
  unfold normalizeRule
  rw [htier, haction, hfallback, h.errorMessage.1, h.fallbackErrorMessage.1, if_neg, if_neg, h.users.1.again,
    h.models.1.again]
  · rfl
  · rintro (⟨hscope, hpos⟩ | hmany | hmany)
    · rw [h.scope hscope] at hpos
      exact absurd hpos (by decide)
    · exact absurd h.users.2 (not_le.mpr hmany)
    · exact absurd h.models.2 (not_le.mpr hmany)
  · rintro (hbad | hbad | hbad | hlong | hlong)
    · exact hbad h.serviceTier
    · exact hbad h.action
    · exact hbad h.fallbackAction
    · exact absurd h.errorMessage.2 (not_le.mpr hlong)
    · exact absurd h.fallbackErrorMessage.2 (not_le.mpr hlong)

lemma normalizeRules_ok (h : normalizeRules toLower allowUserScope rules = some rules') :
    (∀ rule ∈ rules', RuleOK allowUserScope rule) ∧ rules'.length = rules.length := by
  induction rules generalizing rules' with
  | nil =>
    obtain rfl : [] = rules' := Option.some.inj h
    exact ⟨by simp, rfl⟩
  | cons rule rules ih =>
    obtain ⟨first, hfirst, h⟩ := Option.bind_eq_some_iff.mp h
    obtain ⟨rest, hrest, rfl⟩ := Option.map_eq_some_iff.mp h
    obtain ⟨hok, hlength⟩ := ih hrest
    refine ⟨fun r hr => ?_, congrArg (· + 1) hlength⟩
    rcases List.mem_cons.mp hr with rfl | hr
    · exact normalizeRule_ok hfirst
    · exact hok r hr

lemma normalizeRules_again (hlower : KeepsWords toLower) (h : ∀ rule ∈ rules, RuleOK allowUserScope rule) :
    normalizeRules toLower allowUserScope rules = some rules := by
  induction rules with
  | nil => rfl
  | cons rule rules ih =>
    rw [normalizeRules, (h rule List.mem_cons_self).again hlower, Option.bind_some,
      ih fun r hr => h r (List.mem_cons_of_mem _ hr), Option.map_some]

lemma normalizeFastPolicy_ok (h : normalizeFastPolicy toLower rules allowUserScope = some rules') :
    (∀ rule ∈ rules', RuleOK allowUserScope rule) ∧ rules'.length ≤ 50 := by
  unfold normalizeFastPolicy at h
  split_ifs at h with hmany
  obtain ⟨hok, hlength⟩ := normalizeRules_ok h
  exact ⟨hok, hlength.trans_le (not_lt.mp hmany)⟩

lemma normalizeFastPolicy_again (hlower : KeepsWords toLower) (h : ∀ rule ∈ rules, RuleOK allowUserScope rule)
    (hlength : rules.length ≤ 50) : normalizeFastPolicy toLower rules allowUserScope = some rules := by
  rw [normalizeFastPolicy, if_neg (not_lt.mpr hlength), normalizeRules_again hlower h]

end Rules

section Configs

variable {toLower : String → String} {parseURL : String → Option (String × String)} {config config' : AccountConfigInput}

/-- A configuration as it is stored. -/
structure ConfigOK (parseURL : String → Option (String × String)) (config : AccountConfigInput) : Prop where
  name : trimSpace config.name = config.name ∧ 1 ≤ runeCount config.name ∧ runeCount config.name ≤ 100
  notes : trimSpace config.notes = config.notes ∧ runeCount config.notes ≤ 2000
  proxyURL : trimSpace config.proxyURL = config.proxyURL ∧ validProxy parseURL config.proxyURL
  maxConcurrency : 0 ≤ config.maxConcurrency ∧ config.maxConcurrency ≤ 100
  rpmLimit : 0 ≤ config.rpmLimit ∧ config.rpmLimit ≤ 10000
  fastPolicy : (∀ rule ∈ config.fastPolicy, RuleOK true rule) ∧ config.fastPolicy.length ≤ 50
  codexFingerprintMode : config.codexFingerprintMode ∈ ["off", "device", "session", "full"]
  requestTimezone : trimSpace config.requestTimezone = config.requestTimezone ∧ validTimezone config.requestTimezone
  status : config.status ∈ ["active", "disabled", "refresh_required"]

lemma normalizeAccountConfig_ok (h : normalizeAccountConfig toLower parseURL config = some config') :
    ConfigOK parseURL config' := by
  unfold normalizeAccountConfig at h
  split_ifs at h with hzone hmode htexts hlimits hstatus hproxy
  swap
  · obtain ⟨-, -, hnone⟩ := Option.bind_eq_some_iff.mp h
    cases hnone
  obtain ⟨fastPolicy, hpolicy, h⟩ := Option.bind_eq_some_iff.mp h
  obtain rfl := Option.some.inj h
  simp only [not_or, not_lt] at htexts hlimits
  exact ⟨⟨trimSpace_trimSpace _, htexts.1, htexts.2.1⟩, ⟨trimSpace_trimSpace _, htexts.2.2⟩,
    ⟨trimSpace_trimSpace _, hproxy⟩, ⟨hlimits.1, hlimits.2.1⟩, ⟨hlimits.2.2.1, hlimits.2.2.2⟩,
    normalizeFastPolicy_ok hpolicy, hmode, ⟨trimSpace_trimSpace _, hzone⟩, hstatus⟩

lemma ConfigOK.again (hlower : KeepsWords toLower) (h : ConfigOK parseURL config) :
    normalizeAccountConfig toLower parseURL config = some config := by
  have hmode : defaultFingerprintMode config.codexFingerprintMode = config.codexFingerprintMode := by
    refine if_neg fun hempty => ?_
    have hmem := h.codexFingerprintMode
    rw [hempty] at hmem
    exact absurd hmem (by decide)
  have htexts := h.name
  have hnotes := h.notes
  have hlimits := h.maxConcurrency
  have hrate := h.rpmLimit
  unfold normalizeAccountConfig
  rw [h.requestTimezone.1, hmode, htexts.1, hnotes.1, h.proxyURL.1, if_neg (not_not.mpr h.requestTimezone.2),
    if_neg (not_not.mpr h.codexFingerprintMode), if_neg (by omega), if_neg (by omega), if_neg (not_not.mpr h.status),
    normalizeFastPolicy_again hlower h.fastPolicy.1 h.fastPolicy.2, Option.bind_some, if_neg (not_not.mpr h.proxyURL.2)]

/-- The actions the gateway knows. -/
def Known (a : Action) : Prop := a = .pass ∨ a = .filter ∨ a = .block ∨ a = .forcePriority

lemma known_actionOf {s : String} (h : s ∈ validActions) : Known (actionOf s) := by
  simp only [validActions, List.mem_cons, List.not_mem_nil, or_false] at h
  rcases h with rfl | rfl | rfl | rfl
  · exact .inl rfl
  · exact .inr (.inl rfl)
  · exact .inr (.inr (.inl rfl))
  · exact .inr (.inr (.inr rfl))

/-- Whatever applies to a request is an action of one of the rules. -/
lemma resolve_known {rules : List FastPolicyRule} (h : ∀ rule ∈ rules, Known rule.action ∧ Known rule.fallbackAction)
    (userID model tier : String) : Known (resolveFastPolicy rules userID model tier).1 := by
  unfold resolveFastPolicy
  dsimp only
  cases hfound : List.findSome? (fun rule => ruleAction rule model tier) _ with
  | none => exact .inl rfl
  | some resolved =>
    obtain ⟨rule, hmem, hrule⟩ := List.exists_of_findSome?_eq_some hfound
    have hrules : rule ∈ rules := by
      rcases List.mem_append.mp hmem with hmem | hmem
      · exact (List.mem_filter.mp hmem).1
      · exact (List.mem_filter.mp hmem).1
    have haction : Known (fastPolicyModelAction rule model).1 := by
      unfold fastPolicyModelAction
      split_ifs
      · exact (h rule hrules).1
      · exact (h rule hrules).2
    have hresolved : resolved = fastPolicyModelAction rule model := by
      unfold ruleAction at hrule
      split_ifs at hrule <;> exact (Option.some.inj hrule).symm
    rw [Option.getD_some, hresolved]
    exact haction

/-- What is accepted is stored in its normal form: it is within all bounds, it can be submitted again as it is and is
stored unchanged, and on it the gateway finds an action that it knows for every request. -/
theorem accepted_config_is_stable (toLower : String → String) (parseURL : String → Option (String × String))
    (hlower : KeepsWords toLower) (config config' : AccountConfigInput)
    (h : normalizeAccountConfig toLower parseURL config = some config') :
    ConfigOK parseURL config' ∧ normalizeAccountConfig toLower parseURL config' = some config' ∧
      ∀ userID model tier, Known (resolveFastPolicy (config'.fastPolicy.map RuleInput.stored) userID model tier).1 := by
  have hok := normalizeAccountConfig_ok h
  refine ⟨hok, hok.again hlower, resolve_known fun rule hrule => ?_⟩
  obtain ⟨r, hr, rfl⟩ := List.mem_map.mp hrule
  exact ⟨known_actionOf (hok.fastPolicy.1 r hr).action, known_actionOf (hok.fastPolicy.1 r hr).fallbackAction⟩

/-- A rule with capitals and blanks. -/
def submittedRule : RuleInput := ⟨" Priority", "BLOCK ", [" u1", "u2"], " no ", ["gpt-5*"], "Pass", ""⟩

def submittedConfig : AccountConfigInput :=
  ⟨" main ", "", " http://proxy ", 3, 60, [submittedRule], "", true, "Asia/Tokyo ", "active"⟩

theorem accepted_config_is_stable_submitted :
    ∃ stored, normalizeAccountConfig ModelName.asciiLower (fun _ => some ("http", "proxy")) submittedConfig = some stored ∧
      normalizeAccountConfig ModelName.asciiLower (fun _ => some ("http", "proxy")) stored = some stored := by
  have hsome : (normalizeAccountConfig ModelName.asciiLower (fun _ => some ("http", "proxy")) submittedConfig).isSome := by
    decide
  obtain ⟨stored, hstored⟩ := Option.isSome_iff_exists.mp hsome
  have hwords : KeepsWords ModelName.asciiLower := by
    unfold KeepsWords
    decide
  exact ⟨stored, hstored, (accepted_config_is_stable ModelName.asciiLower _ hwords submittedConfig stored hstored).2.1⟩

end Configs

end ShareSub.AccountInput

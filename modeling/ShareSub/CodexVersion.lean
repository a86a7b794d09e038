import ShareSub.FirstDifference
import ShareSub.ModelName

/-!
# The Codex client version

The version the gateway identifies itself with. A sync asks for the latest release, falls back to the recent ones and
raises the effective version.
-/
namespace ShareSub.CodexVersion

open GatewayModel (isSpace trimSpace)
open FirstDifference

def codexProbeVersion : String := "0.146.0"

def codexReleaseTagPrefix : List Char := "rust-v".toList

structure CodexRelease where
  tagName : String
  draft : Bool
  prerelease : Bool

/-- What the two release pages answer; nothing where a lookup or its decoding fails. -/
structure Lookup where
  latest : Option CodexRelease
  recent : Option (List CodexRelease)

inductive SyncError
  | lookupsFailed
  | recentLookupFailed
  | noStableRelease
  | belowMinimum (version : String)

def parts (version : String) : List (List Char) := version.toList.splitOn '.'

/-- `^[0-9]+(?:\.[0-9]+){1,3}$`. -/
def codexVersionPattern (version : String) : Prop :=
  2 ≤ (parts version).length ∧ (parts version).length ≤ 4 ∧
    ∀ digits ∈ parts version, digits ≠ [] ∧ digits.all Char.isDigit = true

instance (version : String) : Decidable (codexVersionPattern version) := inferInstanceAs (Decidable (_ ∧ _))

/-- The value of `strconv.ParseUint`, before its range is checked. -/
def parseUint (digits : List Char) : Option ℕ :=
  if digits ≠ [] ∧ digits.all Char.isDigit then some (digits.foldl (fun n c => 10 * n + (c.toNat - 48)) 0) else none

/-- The value of `strconv.ParseInt` with its error ignored: zero for what is no number, the nearest value of 64 bits
for what is out of range. -/
def parseInt : List Char → ℤ
  | '-' :: digits => max (-(2 ^ 63)) (-((parseUint digits).getD 0))
  | '+' :: digits => min (2 ^ 63 - 1) ((parseUint digits).getD 0)
  | digits => min (2 ^ 63 - 1) ((parseUint digits).getD 0)

def part (version : List (List Char)) (index : ℕ) : ℤ := (version[index]?.map parseInt).getD 0

def compareCodexVersions (left right : String) : ℤ :=
  firstDifference (max (parts left).length (parts right).length) (part (parts left)) (part (parts right))

def trimPrefix (pre : List Char) (s : String) : String :=
  if pre <+: s.toList then String.ofList (s.toList.drop pre.length) else s

def normalizeCodexVersion (version : String) : String :=
  if codexVersionPattern (trimSpace (trimPrefix ['v'] (trimSpace version))) then
    trimSpace (trimPrefix ['v'] (trimSpace version))
  else ""

/-- The version of a stable client release. -/
def stableVersion (release : CodexRelease) : Option String :=
  if release.draft || release.prerelease then none
  else if ¬ codexReleaseTagPrefix <+: (trimSpace release.tagName).toList then none
  else if codexVersionPattern (trimPrefix codexReleaseTagPrefix (trimSpace release.tagName)) then
    some (trimPrefix codexReleaseTagPrefix (trimSpace release.tagName))
  else none

def newerRelease (best : String) (release : CodexRelease) : String :=
  match stableVersion release with
  | none => best
  | some version => if version ≠ "" ∧ (best = "" ∨ 0 < compareCodexVersions version best) then version else best

def latestStableCodexVersion (releases : List CodexRelease) : String := releases.foldl newerRelease ""

/-- The second half of a fetch, once the latest release has given no version. -/
def fetchRecent (lookup : Lookup) : Except SyncError String :=
  match lookup.recent with
  | none => .error (if lookup.latest.isNone then .lookupsFailed else .recentLookupFailed)
  | some releases =>
    if latestStableCodexVersion releases ≠ "" then .ok (latestStableCodexVersion releases)
    else .error .noStableRelease

def fetchLatestCodexVersion (lookup : Lookup) : Except SyncError String :=
  let fromLatest := (lookup.latest.map fun release => latestStableCodexVersion [release]).getD ""
  if fromLatest ≠ "" then .ok fromLatest else fetchRecent lookup

def effectiveCodexVersion (stored : String) : String := if trimSpace stored = "" then codexProbeVersion else stored

/-- The version that is stored, if any. -/
def setEffectiveCodexVersion (version : String) : Option String :=
  if normalizeCodexVersion version = "" ∨ compareCodexVersions (normalizeCodexVersion version) codexProbeVersion < 0 then
    none
  else some (normalizeCodexVersion version)

/-- The stored version after a sync, and its error. -/
def syncCodexVersion (stored : String) (lookup : Lookup) : String × Option SyncError :=
  match fetchLatestCodexVersion lookup with
  | .error e => (stored, some e)
  | .ok version =>
    if compareCodexVersions version (effectiveCodexVersion stored) ≤ 0 then (stored, none)
    else
      match setEffectiveCodexVersion version with
      | some stored' => (stored', none)
      | none => (stored, some (.belowMinimum version))

def runCodexVersionSync (lookups : List Lookup) : String :=
  lookups.foldl (fun stored lookup => (syncCodexVersion stored lookup).1) codexProbeVersion

section Order

variable {version left right : String}

/-- The place of a version in the lexicographic order of its numbers. -/
noncomputable def number (version : String) : Lex (ℕ → ℤ) := toLex (part (parts version))

lemma part_of_length_le {ps : List (List Char)} {index : ℕ} (h : ps.length ≤ index) : part ps index = 0 := by
  unfold part
  rw [List.getElem?_eq_none h]
  rfl

lemma parts_agree (left right : String) :
    ∀ i, max (parts left).length (parts right).length ≤ i → part (parts left) i = part (parts right) i := by
  intro i hi
  rw [part_of_length_le ((le_max_left ..).trans hi), part_of_length_le ((le_max_right ..).trans hi)]

lemma compare_pos_iff : 0 < compareCodexVersions left right ↔ number right < number left :=
  firstDifference_pos_iff (parts_agree left right)

lemma compare_neg_iff : compareCodexVersions left right < 0 ↔ number left < number right :=
  firstDifference_neg_iff (parts_agree left right)

lemma compare_nonpos_iff : compareCodexVersions left right ≤ 0 ↔ number left ≤ number right :=
  not_lt.symm.trans ((not_congr compare_pos_iff).trans not_lt)

end Order

section Texts

variable {version : String}

lemma space_of_digit {c : Char} (h : c.isDigit = true ∨ c = '.') : isSpace c = false := by
  rcases h with h | rfl
  · simp only [Char.isDigit, Bool.and_eq_true, decide_eq_true_eq, ge_iff_le, UInt32.le_iff_toNat_le] at h
    have hlow : 48 ≤ c.toNat := h.1
    have hhigh : c.toNat ≤ 57 := h.2
    simp only [isSpace, Bool.or_eq_false_iff, Bool.and_eq_false_iff, decide_eq_false_iff_not, List.mem_cons,
      List.not_mem_nil, or_false]
    omega
  · decide

lemma pattern_characters (h : codexVersionPattern version) : ∀ c ∈ version.toList, c.isDigit = true ∨ c = '.' := by
  intro c hc
  have hjoin : ['.'].intercalate (parts version) = version.toList := List.intercalate_splitOn '.'
  rw [← hjoin] at hc
  rcases ModelName.mem_intercalate hc with hdot | ⟨digits, hdigits, hc⟩
  · exact .inr (List.mem_singleton.mp hdot)
  · exact .inl (List.all_eq_true.mp (h.2.2 digits hdigits).2 c hc)

lemma pattern_ne_empty (h : codexVersionPattern version) : version ≠ "" := by
  rintro rfl
  have hlength := h.1
  rw [show (parts "").length = 1 by decide] at hlength
  omega

lemma trimSpace_pattern (h : codexVersionPattern version) : trimSpace version = version := by
  have htrim := ModelName.trimSpace_eq_self fun c hc => space_of_digit (pattern_characters h c hc)
  rwa [String.ofList_toList] at htrim

lemma trimPrefix_pattern (h : codexVersionPattern version) : trimPrefix ['v'] version = version := by
  unfold trimPrefix
  rw [if_neg]
  intro hfront
  have hv := pattern_characters h 'v' (hfront.subset (by simp))
  revert hv
  decide

lemma normalize_pattern (h : codexVersionPattern version) : normalizeCodexVersion version = version := by
  unfold normalizeCodexVersion
  rw [trimSpace_pattern h, trimPrefix_pattern h, trimSpace_pattern h, if_pos h]

lemma effective_pattern (h : codexVersionPattern version) : effectiveCodexVersion version = version := by
  unfold effectiveCodexVersion
  rw [trimSpace_pattern h, if_neg (pattern_ne_empty h)]

lemma stableVersion_pattern {release : CodexRelease} (h : stableVersion release = some version) :
    codexVersionPattern version := by
  unfold stableVersion at h
  split_ifs at h with hdraft hfront hpattern
  exact Option.some.inj h ▸ hpattern

end Texts

section Greatest

variable {lookup : Lookup} {lookups : List Lookup} {version stored best : String} {release : CodexRelease}

/-- A version is there and no smaller. -/
def AtLeast (version last : String) : Prop := last ≠ "" ∧ number version ≤ number last

lemma AtLeast.trans {middle last : String} (h : AtLeast version middle) (h' : AtLeast middle last) :
    AtLeast version last :=
  ⟨h'.1, h.2.trans h'.2⟩

lemma newerRelease_cases (best : String) (release : CodexRelease) :
    newerRelease best release = best ∧ (∀ version, stableVersion release = some version → AtLeast version best) ∨
      ∃ version, stableVersion release = some version ∧ newerRelease best release = version ∧
        (best ≠ "" → AtLeast best version) := by
  unfold newerRelease
  cases hstable : stableVersion release with
  | none => exact .inl ⟨rfl, fun version h => by cases h⟩
  | some version =>
    have hne := pattern_ne_empty (stableVersion_pattern hstable)
    by_cases hnewer : best = "" ∨ 0 < compareCodexVersions version best
    · refine .inr ⟨version, rfl, if_pos ⟨hne, hnewer⟩, fun hbest => ⟨hne, ?_⟩⟩
      exact (compare_pos_iff.mp (hnewer.resolve_left hbest)).le
    · rw [not_or] at hnewer
      refine .inl ⟨if_neg fun h => h.2.elim hnewer.1 hnewer.2, fun v hv => ?_⟩
      obtain rfl := Option.some.inj hv
      exact ⟨hnewer.1, compare_nonpos_iff.mp (not_lt.mp hnewer.2)⟩

lemma latest_from (releases : List CodexRelease) (best : String) :
    (releases.foldl newerRelease best = best ∨
        ∃ release ∈ releases, stableVersion release = some (releases.foldl newerRelease best)) ∧
      (best ≠ "" → AtLeast best (releases.foldl newerRelease best)) ∧
      ∀ release ∈ releases, ∀ version, stableVersion release = some version →
        AtLeast version (releases.foldl newerRelease best) := by
  induction releases generalizing best with
  | nil => exact ⟨.inl rfl, fun h => ⟨h, le_rfl⟩, fun release h => by cases h⟩
  | cons release releases ih =>
    obtain ⟨hsource, hbest, hall⟩ := ih (newerRelease best release)
    rw [List.foldl_cons]
    rcases newerRelease_cases best release with ⟨hkeep, hless⟩ | ⟨version, hstable, hnew, hmore⟩
    · rw [hkeep] at hsource hbest hall ⊢
      refine ⟨hsource.imp_right fun ⟨r, hr, hs⟩ => ⟨r, List.mem_cons_of_mem _ hr, hs⟩, hbest, ?_⟩
      intro r hr v hv
      rcases List.mem_cons.mp hr with rfl | hr
      · exact (hless v hv).trans (hbest (hless v hv).1)
      · exact hall r hr v hv
    · rw [hnew] at hsource hbest hall ⊢
      have hlast := hbest (pattern_ne_empty (stableVersion_pattern hstable))
      refine ⟨.inr ?_, fun h => (hmore h).trans hlast, ?_⟩
      · rcases hsource with heq | ⟨r, hr, hs⟩
        · exact ⟨release, List.mem_cons_self, by rw [heq, hstable]⟩
        · exact ⟨r, List.mem_cons_of_mem _ hr, hs⟩
      · intro r hr v hv
        rcases List.mem_cons.mp hr with rfl | hr
        · obtain rfl := Option.some.inj (hstable.symm.trans hv)
          exact hlast
        · exact hall r hr v hv

/-- The release pages offer a version: the latest release does, or else one of the recent releases. -/
def Offers (lookup : Lookup) (version : String) : Prop :=
  (∃ release, lookup.latest = some release ∧ stableVersion release = some version) ∨
    (∀ release, lookup.latest = some release → stableVersion release = none) ∧
      ∃ releases release, lookup.recent = some releases ∧ release ∈ releases ∧ stableVersion release = some version

lemma latest_one (release : CodexRelease) :
    latestStableCodexVersion [release] = (stableVersion release).getD "" := by
  have hone : latestStableCodexVersion [release] = newerRelease "" release := rfl
  rw [hone, newerRelease]
  cases hstable : stableVersion release with
  | none => rfl
  | some version => exact if_pos ⟨pattern_ne_empty (stableVersion_pattern hstable), .inl rfl⟩

lemma fetch_latest (hstable : lookup.latest.bind stableVersion = some version) :
    fetchLatestCodexVersion lookup = .ok version ∧ Offers lookup version ∧ ∀ u, Offers lookup u → u = version := by
  obtain ⟨release, hlatest, hversion⟩ := Option.bind_eq_some_iff.mp hstable
  refine ⟨?_, .inl ⟨release, hlatest, hversion⟩, ?_⟩
  · have hone : latestStableCodexVersion [release] = version := by rw [latest_one, hversion, Option.getD_some]
    simp only [fetchLatestCodexVersion, hlatest, Option.map_some, Option.getD_some, hone]
    exact if_pos (pattern_ne_empty (stableVersion_pattern hversion))
  · rintro u (⟨r, hr, hu⟩ | ⟨hnone, -⟩)
    · obtain rfl := Option.some.inj (hlatest.symm.trans hr)
      exact Option.some.inj (hu.symm.trans hversion)
    · rw [hnone release hlatest] at hversion
      cases hversion

/-- Without a stable latest release the recent ones decide. -/
lemma fetch_recent (hstable : lookup.latest.bind stableVersion = none) :
    fetchLatestCodexVersion lookup = fetchRecent lookup ∧
      ∀ u, Offers lookup u ↔
        ∃ releases release, lookup.recent = some releases ∧ release ∈ releases ∧ stableVersion release = some u := by
  have hnone : ∀ release, lookup.latest = some release → stableVersion release = none := by
    intro release hlatest
    rwa [hlatest] at hstable
  constructor
  · have hempty : (lookup.latest.map fun release => latestStableCodexVersion [release]).getD "" = "" := by
      cases hlatest : lookup.latest with
      | none => rfl
      | some release => rw [Option.map_some, Option.getD_some, latest_one, hnone release hlatest, Option.getD_none]
    simp only [fetchLatestCodexVersion, hempty]
    exact if_neg (not_not.mpr rfl)
  · intro u
    constructor
    · rintro (⟨release, hlatest, hu⟩ | ⟨-, hrecent⟩)
      · rw [hnone release hlatest] at hu
        cases hu
      · exact hrecent
    · exact fun hrecent => .inr ⟨hnone, hrecent⟩

/-- What a lookup yields is a greatest version of those it offers; it fails if there is none. -/
lemma fetch_spec (lookup : Lookup) :
    (∃ version, fetchLatestCodexVersion lookup = .ok version ∧ Offers lookup version ∧
        ∀ u, Offers lookup u → number u ≤ number version) ∨
      ∃ e, fetchLatestCodexVersion lookup = .error e ∧ (∀ u, ¬ Offers lookup u) ∧ ∀ v, e ≠ .belowMinimum v := by
  cases hstable : lookup.latest.bind stableVersion with
  | some version =>
    obtain ⟨hfetch, hoffers, hall⟩ := fetch_latest hstable
    exact .inl ⟨version, hfetch, hoffers, fun u hu => (hall u hu).symm ▸ le_rfl⟩
  | none =>
    obtain ⟨hfetch, hoffers⟩ := fetch_recent hstable
    cases hrecent : lookup.recent with
    | none =>
      rw [fetchRecent, hrecent] at hfetch
      refine .inr ⟨_, hfetch, fun u hu => ?_, fun v h => ?_⟩
      · obtain ⟨releases, release, hsome, -⟩ := (hoffers u).mp hu
        rw [hrecent] at hsome
        cases hsome
      · split_ifs at h
    | some releases =>
      obtain ⟨hsource, -, hall⟩ := latest_from releases ""
      rw [fetchRecent, hrecent] at hfetch
      by_cases hempty : latestStableCodexVersion releases = ""
      · refine .inr ⟨_, hfetch.trans (if_neg (not_not.mpr hempty)), fun u hu => ?_, fun v h => by cases h⟩
        obtain ⟨releases', release, hsome, hmem, hu⟩ := (hoffers u).mp hu
        obtain rfl := Option.some.inj (hrecent.symm.trans hsome)
        exact (hall release hmem u hu).1 hempty
      · refine .inl ⟨_, hfetch.trans (if_pos hempty), (hoffers _).mpr ?_, fun u hu => ?_⟩
        · obtain ⟨release, hmem, hlast⟩ := hsource.resolve_left hempty
          exact ⟨releases, release, hrecent, hmem, hlast⟩
        · obtain ⟨releases', release, hsome, hmem, hu⟩ := (hoffers u).mp hu
          obtain rfl := Option.some.inj (hrecent.symm.trans hsome)
          exact (hall release hmem u hu).2

lemma offers_pattern (h : Offers lookup version) : codexVersionPattern version := by
  rcases h with ⟨release, -, hstable⟩ | ⟨-, releases, release, -, -, hstable⟩
  · exact stableVersion_pattern hstable
  · exact stableVersion_pattern hstable

lemma probe_pattern : codexVersionPattern codexProbeVersion := by decide

/-- The versions a process has heard of: the one it is built with and those offered to it. -/
def Known (lookups : List Lookup) (version : String) : Prop :=
  version = codexProbeVersion ∨ ∃ lookup ∈ lookups, Offers lookup version

lemma Known.pattern (h : Known lookups version) : codexVersionPattern version := by
  rcases h with rfl | ⟨lookup, -, hoffers⟩
  · exact probe_pattern
  · exact offers_pattern hoffers

/-- The stored version is the greatest of the known ones. -/
structure Greatest (lookups : List Lookup) (stored : String) : Prop where
  known : Known lookups stored
  le : ∀ version, Known lookups version → number version ≤ number stored

lemma sync_spec (h : Greatest lookups stored) (lookup : Lookup) :
    Greatest (lookups ++ [lookup]) (syncCodexVersion stored lookup).1 ∧
      ∀ v, (syncCodexVersion stored lookup).2 ≠ some (.belowMinimum v) := by
  have hmore : ∀ u, Known (lookups ++ [lookup]) u ↔ Known lookups u ∨ Offers lookup u := by
    intro u
    simp [Known, or_and_right, exists_or, or_assoc]
  have heffective := effective_pattern h.known.pattern
  rcases fetch_spec lookup with ⟨version, hfetch, hoffers, hall⟩ | ⟨e, hfetch, hnone, he⟩
  · have hnormal := normalize_pattern (offers_pattern hoffers)
    simp only [syncCodexVersion, hfetch, heffective]
    split_ifs with hle
    · have hle := compare_nonpos_iff.mp hle
      refine ⟨⟨(hmore _).mpr (.inl h.known), fun u hu => ?_⟩, fun v hv => by cases hv⟩
      rcases (hmore u).mp hu with hu | hu
      · exact h.le u hu
      · exact (hall u hu).trans hle
    · have hlt := compare_pos_iff.mp (not_le.mp hle)
      -- what is above the stored version is above the minimum
      have hset : setEffectiveCodexVersion version = some version := by
        unfold setEffectiveCodexVersion
        rw [hnormal, if_neg]
        rintro (hempty | hbelow)
        · exact pattern_ne_empty (offers_pattern hoffers) hempty
        · exact lt_asymm (compare_neg_iff.mp hbelow) ((h.le _ (.inl rfl)).trans_lt hlt)
      simp only [hset]
      refine ⟨⟨(hmore _).mpr (.inr hoffers), fun u hu => ?_⟩, fun v hv => by cases hv⟩
      rcases (hmore u).mp hu with hu | hu
      · exact (h.le u hu).trans hlt.le
      · exact hall u hu
  · simp only [syncCodexVersion, hfetch]
    refine ⟨⟨(hmore _).mpr (.inl h.known), fun u hu => ?_⟩, fun v hv => he v (Option.some.inj hv)⟩
    exact h.le u (((hmore u).mp hu).resolve_right (hnone u))

lemma run_greatest (lookups : List Lookup) : Greatest lookups (runCodexVersionSync lookups) := by
  induction lookups using List.reverseRecOn with
  | nil => exact ⟨.inl rfl, fun version h => h.elim (fun heq => heq ▸ le_rfl) fun ⟨_, hmem, _⟩ => by cases hmem⟩
  | append_singleton lookups lookup ih =>
    unfold runCodexVersionSync at ih ⊢
    rw [List.foldl_concat]
    exact (sync_spec ih lookup).1

/-- Whatever the release pages answer and however often they fail, the effective version is one the process was built
with or was offered, no version it knows compares above it, and a sync never finds a version below the minimum. -/
theorem effective_is_greatest (lookups : List Lookup) :
    Known lookups (effectiveCodexVersion (runCodexVersionSync lookups)) ∧
      (∀ version, Known lookups version →
        compareCodexVersions version (effectiveCodexVersion (runCodexVersionSync lookups)) ≤ 0) ∧
      ∀ lookup v, (syncCodexVersion (runCodexVersionSync lookups) lookup).2 ≠ some (.belowMinimum v) := by
  have hrun := run_greatest lookups
  rw [effective_pattern hrun.known.pattern]
  exact ⟨hrun.known, fun version h => compare_nonpos_iff.mpr (hrun.le version h),
    fun lookup => (sync_spec hrun lookup).2⟩

/-- The order is that of the numbers, not of the texts. -/
example : compareCodexVersions "0.9.10" "0.146" = -1 := by decide

end Greatest

end ShareSub.CodexVersion

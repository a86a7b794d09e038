import Mathlib
import ShareSub.Numeral
import ShareSub.SseModel

/-!
# The identities that an account shows

The embedding of `codexAccountIdentity.scope` with the kinds that it is used with. A text is its bytes, and the hash that
makes an identity of a seed is a parameter. The first two parts of a seed have their lengths before them; a kind has no
colon, so the colon after it ends it whatever the rest is.
-/
namespace ShareSub.CodexIdentity

open SseModel

section Model

structure CodexAccountIdentity where
  accountID : Bytes
  apiKeyID : Bytes
  deriving DecidableEq, Repr

/-- The names of the fields, with their kinds. -/
def codexIdentityFields : List (String × String) :=
  [("installation_id", "installation"), ("x-codex-installation-id", "installation"), ("session_id", "session"),
    ("session-id", "session"), ("conversation_id", "thread"), ("conversation-id", "thread"), ("thread_id", "thread"),
    ("thread-id", "thread"), ("turn_id", "turn"), ("turn-id", "turn"), ("window_id", "window"),
    ("x-codex-window-id", "window"), ("x-client-request-id", "request")]

/-- The kinds of the fields, and that of a prompt cache key. -/
def identityKinds : List String := codexIdentityFields.map Prod.snd ++ ["prompt-cache"]

/-- `%d` of a length. -/
def decimal (n : ℕ) : Bytes := (Nat.toDigits 10 n).map fun c => UInt8.ofNat c.toNat

def colon : UInt8 := 58

/-- The text that is hashed. -/
def CodexAccountIdentity.seed (identity : CodexAccountIdentity) (kind raw : Bytes) : Bytes :=
  bytes "sharesub:codex-account-identity:v1:" ++ (decimal identity.accountID.length ++ colon :: (identity.accountID ++ colon ::
    (decimal identity.apiKeyID.length ++ colon :: (identity.apiKeyID ++ colon :: (kind ++ colon :: raw)))))

def CodexAccountIdentity.scope (stableCodexUUID : Bytes → Bytes) (identity : CodexAccountIdentity) (kind raw : Bytes) : Bytes :=
  if trimSpace raw = [] then raw else stableCodexUUID (identity.seed kind raw)

end Model

section Parts

variable {α : Type}

/-- The first occurrence of a separator cuts a text in one way. -/
lemma cut_inj {a : α} {x x' z z' : List α} (hx : a ∉ x) (hx' : a ∉ x') (h : x ++ a :: z = x' ++ a :: z') :
    x = x' ∧ z = z' := by
  induction x generalizing x' with
  | nil =>
    cases x' with
    | nil => exact ⟨rfl, (List.cons.inj h).2⟩
    | cons b x' =>
      obtain ⟨rfl, -⟩ := List.cons.inj h
      exact absurd List.mem_cons_self hx'
  | cons b x ih =>
    cases x' with
    | nil =>
      obtain ⟨rfl, -⟩ := List.cons.inj h
      exact absurd List.mem_cons_self hx
    | cons b' x' =>
      obtain ⟨rfl, hrest⟩ := List.cons.inj h
      obtain ⟨rfl, hz⟩ := ih (List.not_mem_of_not_mem_cons hx) (List.not_mem_of_not_mem_cons hx') hrest
      exact ⟨rfl, hz⟩

lemma map_inj_of_mem {β : Type} {f : α → β} {x y : List α} (hf : ∀ a ∈ x, ∀ b ∈ y, f a = f b → a = b)
    (h : x.map f = y.map f) : x = y := by
  induction x generalizing y with
  | nil => exact (List.map_eq_nil_iff.mp h.symm).symm
  | cons a x ih =>
    cases y with
    | nil => cases h
    | cons b y =>
      obtain ⟨hab, hrest⟩ := List.cons.inj h
      obtain rfl := hf a List.mem_cons_self b List.mem_cons_self hab
      rw [ih (fun c hc d hd => hf c (List.mem_cons_of_mem a hc) d (List.mem_cons_of_mem a hd)) hrest]

end Parts

section Seeds

variable {m n : ℕ} {a b rest rest' : Bytes}

lemma digit_range {c : Char} (h : c ∈ Nat.toDigits 10 n) : 48 ≤ c.toNat ∧ c.toNat ≤ 57 := by
  have hdigit := toDigits_all_isDigit n c (List.mem_reverse.mpr h)
  simp only [Char.isDigit, Bool.and_eq_true, decide_eq_true_eq, ge_iff_le, UInt32.le_iff_toNat_le] at hdigit
  exact hdigit

lemma decimal_injective (h : decimal m = decimal n) : m = n := by
  have hdigits : Nat.toDigits 10 m = Nat.toDigits 10 n := by
    refine map_inj_of_mem ?_ h
    intro c hc d hd hbyte
    have hc := digit_range hc
    have hd := digit_range hd
    have hnat := congrArg UInt8.toNat hbyte
    rw [UInt8.toNat_ofNat', UInt8.toNat_ofNat'] at hnat
    exact Char.toNat_inj.mp (by omega)
  have hnone : NoDigitLast [] := nofun
  exact (numeral_suffix_inj hnone hnone hdigits).2

lemma colon_not_mem_decimal : colon ∉ decimal n := by
  intro h
  obtain ⟨c, hc, hbyte⟩ := List.mem_map.mp h
  have hrange := digit_range hc
  have hnat := congrArg UInt8.toNat hbyte
  rw [UInt8.toNat_ofNat'] at hnat
  have hcolon : colon.toNat = 58 := rfl
  omega

/-- A part with its length before it is determined, and so is what follows. -/
lemma counted_inj (h : decimal a.length ++ colon :: (a ++ rest) = decimal b.length ++ colon :: (b ++ rest')) :
    a = b ∧ rest = rest' := by
  obtain ⟨hlength, htail⟩ := cut_inj colon_not_mem_decimal colon_not_mem_decimal h
  exact List.append_inj htail (decimal_injective hlength)

lemma colon_not_mem_kind {kind : String} (h : kind ∈ identityKinds) : colon ∉ bytes kind := by
  have hall : ∀ kind ∈ identityKinds, colon ∉ bytes kind := by decide
  exact hall kind h

lemma kind_injective {kind kind' : String} (h : kind ∈ identityKinds) (h' : kind' ∈ identityKinds)
    (heq : bytes kind = bytes kind') : kind = kind' := by
  have hall : ∀ kind ∈ identityKinds, ∀ kind' ∈ identityKinds, bytes kind = bytes kind' → kind = kind' := by decide
  exact hall kind h kind' h' heq

lemma seed_injective {identity identity' : CodexAccountIdentity} {kind kind' : String} {raw raw' : Bytes}
    (hkind : kind ∈ identityKinds) (hkind' : kind' ∈ identityKinds)
    (h : identity.seed (bytes kind) raw = identity'.seed (bytes kind') raw') :
    identity = identity' ∧ kind = kind' ∧ raw = raw' := by
  obtain ⟨haccount, hrest⟩ := counted_inj (List.append_cancel_left h)
  obtain ⟨hkey, hlast⟩ := counted_inj (List.cons.inj hrest).2
  obtain ⟨hsame, hraw⟩ := cut_inj (colon_not_mem_kind hkind) (colon_not_mem_kind hkind') (List.cons.inj hlast).2
  refine ⟨?_, kind_injective hkind hkind' hsame, hraw⟩
  cases identity
  cases identity'
  cases haccount
  cases hkey
  rfl

/-- The seed determines the account, the API key, the kind and the text that it was made of; and two texts that are not
blank get one identity only if all of these are the same. -/
theorem identity_namespaces_disjoint (stableCodexUUID : Bytes → Bytes) (hcollision : Function.Injective stableCodexUUID)
    (identity identity' : CodexAccountIdentity) (kind kind' : String) (raw raw' : Bytes) (hkind : kind ∈ identityKinds)
    (hkind' : kind' ∈ identityKinds) :
    (identity.seed (bytes kind) raw = identity'.seed (bytes kind') raw' → identity = identity' ∧ kind = kind' ∧ raw = raw') ∧
      (trimSpace raw ≠ [] → trimSpace raw' ≠ [] →
        identity.scope stableCodexUUID (bytes kind) raw = identity'.scope stableCodexUUID (bytes kind') raw' →
          identity = identity' ∧ kind = kind' ∧ raw = raw') := by
  refine ⟨seed_injective hkind hkind', fun hraw hraw' h => ?_⟩
  unfold CodexAccountIdentity.scope at h
  rw [if_neg hraw, if_neg hraw'] at h
  exact seed_injective hkind hkind' (hcollision h)

/-- The colons of a client's text do not make a session of one account the prompt cache key of another. -/
theorem identity_namespaces_disjoint_colon :
    ("session" ∈ identityKinds ∧ "prompt-cache" ∈ identityKinds) ∧
      (⟨bytes "7", bytes "3:k"⟩ : CodexAccountIdentity).scope id (bytes "session") (bytes "prompt-cache:a") ≠
        (⟨bytes "7:3", bytes "k"⟩ : CodexAccountIdentity).scope id (bytes "prompt-cache") (bytes "a") := by
  refine ⟨by decide, fun h => ?_⟩
  have hsame := (identity_namespaces_disjoint id Function.injective_id ⟨bytes "7", bytes "3:k"⟩ ⟨bytes "7:3", bytes "k"⟩
    "session" "prompt-cache" (bytes "prompt-cache:a") (bytes "a") (by decide) (by decide)).2 (by decide) (by decide) h
  exact absurd hsame.2.1 (by decide)

end Seeds

end ShareSub.CodexIdentity

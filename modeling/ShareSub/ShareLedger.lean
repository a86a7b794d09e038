import ShareSub.PlanModel

/-!
# The share ledger of a plan

What share accounting is about, without tables: who holds a seat and with which share, which
offers are open, how many public slots are promised, and how many approved applications stand
on each member row. `Move` lists everything a transaction may do to the ledger.
-/
namespace ShareSub.ShareLedger
open PlanModel

/-- The share promised to the public slots that are not occupied. -/
def reserve (slots : ℤ) (seats : ℕ) (share : ℤ) : ℤ := max (slots - seats) 0 * share

structure Ledger where
  mode : AllocationMode
  visibility : Visibility
  slots : ℤ
  publicShare : ℤ
  holders : List (String × ℤ)
  offers : List ℤ
  held : String → ℕ

namespace Ledger

def seats (L : Ledger) : ℕ := (L.holders.map fun h => L.held h.1).sum

def shares (L : Ledger) : ℤ := (L.holders.map Prod.snd).sum

def reserved (L : Ledger) : ℤ := reserve L.slots L.seats L.publicShare

def total (L : Ledger) : ℤ := L.shares + L.offers.sum + L.reserved

/-- The cap, together with the signs that make each summand a reservation. -/
structure Sound (L : Ledger) : Prop where
  publicShare_nonneg : 0 ≤ L.publicShare
  offers_nonneg : ∀ o ∈ L.offers, 0 ≤ o
  capped : L.mode = .fixed → L.total ≤ maxShareBPS

end Ledger

/-- How a move changes who is seated: what the seat accounting has to follow. -/
inductive Seating
  | unchanged
  | joinedByApplication (id : String)
  | joinedByInvite (id : String)
  | left (id : String)
  | purged
  deriving DecidableEq, Repr

open Ledger in
inductive Move : Ledger → Seating → Ledger → Prop
  | publish {L : Ledger} {visibility : Visibility} {slots share : ℤ} (hshare : 0 ≤ share)
      (hseats : (L.seats : ℤ) ≤ slots)
      (hcap : L.mode = .fixed →
        L.shares + L.offers.sum + (slots - L.seats) * share ≤ maxShareBPS) :
      Move L .unchanged
        { L with visibility := visibility, slots := slots, publicShare := share }
  | settle {L : Ledger} {offers : List ℤ} (h : offers.Sublist L.offers) :
      Move L .unchanged { L with offers := offers }
  | close {L : Ledger} {offers : List ℤ} (h : offers.Sublist L.offers) :
      Move L .unchanged
        { L with visibility := .privatePlan, slots := 0, publicShare := 0, offers := offers }
  | offer {L : Ledger} {offers : List ℤ} {share : ℤ} (h : offers.Perm (share :: L.offers))
      (hshare : L.mode = .fixed → 0 ≤ share) (hzero : L.mode = .shared → share = 0)
      (hcap : L.mode = .fixed → L.total + share ≤ maxShareBPS) :
      Move L .unchanged { L with offers := offers }
  | reshare {L : Ledger} {holders rest : List (String × ℤ)} {id : String} {old share : ℤ}
      (hold : L.holders.Perm ((id, old) :: rest)) (hnew : holders.Perm ((id, share) :: rest))
      (hcap : L.mode = .fixed →
        (rest.map Prod.snd).sum + L.offers.sum + L.reserved + share ≤ maxShareBPS) :
      Move L .unchanged { L with holders := holders }
  | convert {L : Ledger} {holders : List (String × ℤ)} {offers : List ℤ}
      (hids : holders.map Prod.fst = L.holders.map Prod.fst)
      (hoffers : ∀ o ∈ offers, o = 0) (hcap : (holders.map Prod.snd).sum ≤ maxShareBPS) :
      Move L .unchanged
        { L with mode := .fixed, publicShare := 0, holders := holders, offers := offers }
  | approve {L : Ledger} {holders : List (String × ℤ)} {held : String → ℕ} {id : String}
      (hvis : L.visibility = .publicPlan) (hfree : (L.seats : ℤ) < L.slots)
      (hnew : id ∉ L.holders.map Prod.fst) (h : holders.Perm ((id, L.publicShare) :: L.holders))
      (hheld : ∀ x, held x = L.held x + if x = id then 1 else 0) :
      Move L (.joinedByApplication id) { L with holders := holders, held := held }
  | accept {L : Ledger} {holders : List (String × ℤ)} {offers : List ℤ} {id : String} {share : ℤ}
      (hnew : id ∉ L.holders.map Prod.fst) (h : holders.Perm ((id, share) :: L.holders))
      (hoffers : L.offers.Perm (share :: offers)) :
      Move L (.joinedByInvite id) { L with holders := holders, offers := offers }
  | leave {L : Ledger} {holders : List (String × ℤ)} {id : String} {share : ℤ}
      (hnew : id ∉ holders.map Prod.fst) (h : L.holders.Perm ((id, share) :: holders)) :
      Move L (.left id) { L with holders := holders }
  | purge {L : Ledger} {offers : List ℤ} {held : String → ℕ} (h : offers.Sublist L.offers)
      (hheld : ∀ x, held x ≤ L.held x) :
      Move L .purged { L with offers := offers, held := held }

variable {L L' : Ledger} {seating : Seating}

section Cap

theorem reserve_nonneg {slots share : ℤ} {seats : ℕ} (h : 0 ≤ share) : 0 ≤ reserve slots seats share :=
  mul_nonneg (le_max_right _ _) h

theorem reserve_anti {slots share : ℤ} {seats seats' : ℕ} (hshare : 0 ≤ share) (h : seats ≤ seats') :
    reserve slots seats' share ≤ reserve slots seats share := by
  refine mul_le_mul_of_nonneg_right ?_ hshare
  omega

/-- Taking a free seat releases one reservation; applications revived with it release more. -/
theorem reserve_of_seat_taken {slots share : ℤ} {seats seats' : ℕ} (hshare : 0 ≤ share)
    (hfree : (seats : ℤ) < slots) (h : seats + 1 ≤ seats') :
    reserve slots seats' share + share ≤ reserve slots seats share := by
  have hmax : max (slots - seats') 0 + 1 ≤ max (slots - seats) 0 := by omega
  have := mul_le_mul_of_nonneg_right hmax hshare
  unfold reserve
  linarith

theorem Ledger.Sound.shares_le (h : L.Sound) (hfixed : L.mode = .fixed) : L.shares ≤ maxShareBPS := by
  have hcap := h.capped hfixed
  have hoffers := List.sum_nonneg h.offers_nonneg
  have hreserved : 0 ≤ L.reserved := reserve_nonneg h.publicShare_nonneg
  unfold Ledger.total at hcap
  omega

theorem seats_perm_cons (held : String → ℕ) {holders rest : List (String × ℤ)} {id : String} {share : ℤ}
    (hp : holders.Perm ((id, share) :: rest)) :
    (holders.map fun x => held x.1).sum = held id + (rest.map fun x => held x.1).sum := by
  simpa using (hp.map fun x => held x.1).sum_eq

theorem shares_perm_cons {holders rest : List (String × ℤ)} {id : String} {share : ℤ}
    (hp : holders.Perm ((id, share) :: rest)) :
    (holders.map Prod.snd).sum = share + (rest.map Prod.snd).sum := by
  simpa using (hp.map Prod.snd).sum_eq

theorem sum_le_of_sublist {xs ys : List ℤ} (h : xs.Sublist ys) (hnn : ∀ y ∈ ys, 0 ≤ y) :
    xs.sum ≤ ys.sum := by
  induction h with
  | slnil => simp
  | cons y _ ih =>
    have hy := hnn y (by simp)
    have hi := ih fun z hz => hnn z (by simp [hz])
    simp only [List.sum_cons]
    omega
  | cons_cons y _ ih =>
    have hi := ih fun z hz => hnn z (by simp [hz])
    simp only [List.sum_cons]
    omega

/-- What reopens is paid for by what the move frees and by what was not yet allocated. Only a
departure and a purge reopen seats. -/
def Covered (L : Ledger) (seating : Seating) (L' : Ledger) : Prop :=
  match seating with
  | .left _ | .purged =>
    L.mode = .fixed → L'.reserved - L.reserved ≤ L.shares - L'.shares + (maxShareBPS - L.total)
  | _ => True

theorem Move.sound (hm : Move L seating L') (hs : L.Sound) (hc : Covered L seating L') : L'.Sound := by
  cases hm with
  | @publish _ slots share hshare hseats hcap =>
    refine ⟨hshare, hs.offers_nonneg, fun hfixed => ?_⟩
    have hcap := hcap hfixed
    have hmax : max (slots - (L.seats : ℤ)) 0 = slots - L.seats := max_eq_left (by omega)
    show L.shares + L.offers.sum + max (slots - (L.seats : ℤ)) 0 * share ≤ maxShareBPS
    rw [hmax]
    exact hcap
  | settle h =>
    refine ⟨hs.publicShare_nonneg, fun o ho => hs.offers_nonneg o (h.subset ho), fun hfixed => ?_⟩
    have hsum := sum_le_of_sublist h hs.offers_nonneg
    have hcap := hs.capped hfixed
    simp only [Ledger.total, Ledger.reserved, Ledger.shares, Ledger.seats] at hcap ⊢
    omega
  | close h =>
    refine ⟨le_rfl, fun o ho => hs.offers_nonneg o (h.subset ho), fun hfixed => ?_⟩
    have hsum := sum_le_of_sublist h hs.offers_nonneg
    have hcap := hs.capped hfixed
    have hreserved : 0 ≤ L.reserved := reserve_nonneg hs.publicShare_nonneg
    simp only [Ledger.total, Ledger.reserved, reserve, Ledger.shares, mul_zero] at hcap hreserved ⊢
    omega
  | @offer offers share h hshare hzero hcap =>
    have hnn : 0 ≤ share := by
      cases hmode : L.mode with
      | fixed => exact hshare hmode
      | shared => exact (hzero hmode).ge
    refine ⟨hs.publicShare_nonneg, fun o ho => ?_, fun hfixed => ?_⟩
    · rcases List.mem_cons.mp (h.subset ho) with rfl | ho'
      · exact hnn
      · exact hs.offers_nonneg o ho'
    · have hsum := h.sum_eq
      have hcap := hcap hfixed
      simp only [List.sum_cons, Ledger.total, Ledger.reserved, Ledger.shares, Ledger.seats] at hsum hcap ⊢
      omega
  | @reshare holders rest id old share hold hnew hcap =>
    refine ⟨hs.publicShare_nonneg, hs.offers_nonneg, fun hfixed => ?_⟩
    have hseats := (seats_perm_cons L.held hnew).trans (seats_perm_cons L.held hold).symm
    have hshares := shares_perm_cons hnew
    have hcap := hcap hfixed
    simp only [Ledger.total, Ledger.reserved, Ledger.shares, Ledger.seats] at hcap ⊢
    rw [hseats]
    omega
  | convert hids hoffers hcap =>
    refine ⟨le_rfl, fun o ho => (hoffers o ho).ge, fun _ => ?_⟩
    have hsum := List.sum_eq_zero hoffers
    simp only [Ledger.total, Ledger.reserved, reserve, Ledger.shares, mul_zero]
    omega
  | @approve holders held id hvis hfree hnew h hheld =>
    refine ⟨hs.publicShare_nonneg, hs.offers_nonneg, fun hfixed => ?_⟩
    have hseats := seats_perm_cons held h
    have hmono : L.seats ≤ (L.holders.map fun x => held x.1).sum := by
      refine List.sum_le_sum fun x _ => ?_
      rw [hheld]
      omega
    have hid : 1 ≤ held id := by
      rw [hheld, if_pos rfl]
      omega
    have hreserved := reserve_of_seat_taken hs.publicShare_nonneg hfree
      (show L.seats + 1 ≤ (holders.map fun x => held x.1).sum by omega)
    have hshares := shares_perm_cons h
    have hcap := hs.capped hfixed
    simp only [Ledger.total, Ledger.reserved, Ledger.shares, Ledger.seats] at hcap hreserved ⊢
    omega
  | @accept holders offers id share hnew h hoffers =>
    refine ⟨hs.publicShare_nonneg, fun o ho => hs.offers_nonneg o (hoffers.symm.subset (by simp [ho])),
      fun hfixed => ?_⟩
    have hseats := seats_perm_cons L.held h
    have hreserved : reserve L.slots (holders.map fun x => L.held x.1).sum L.publicShare ≤ L.reserved :=
      reserve_anti hs.publicShare_nonneg (by simp only [Ledger.seats]; omega)
    have hshares := shares_perm_cons h
    have hsum := hoffers.sum_eq
    have hcap := hs.capped hfixed
    simp only [Ledger.total, Ledger.reserved, Ledger.shares, Ledger.seats, List.sum_cons] at hcap hreserved hsum ⊢
    omega
  | leave hnew h =>
    refine ⟨hs.publicShare_nonneg, hs.offers_nonneg, fun hfixed => ?_⟩
    have := hc hfixed
    simp only [Ledger.total] at this ⊢
    omega
  | purge h hheld =>
    refine ⟨hs.publicShare_nonneg, fun o ho => hs.offers_nonneg o (h.subset ho), fun hfixed => ?_⟩
    have hsum := sum_le_of_sublist h hs.offers_nonneg
    have := hc hfixed
    simp only [Ledger.total] at this ⊢
    omega

end Cap

section Seats

/-- Which member rows are held by a membership that an approved application began. -/
def beginnings (byApplication : String → Bool) : Seating → String → Bool
  | .joinedByApplication id => fun x => if x = id then true else byApplication x
  | .joinedByInvite id => fun x => if x = id then false else byApplication x
  | .left _ | .purged | .unchanged => byApplication

/-- The seated members whose membership began with an approved application. -/
def Ledger.begun (L : Ledger) (byApplication : String → Bool) : ℕ :=
  L.holders.countP fun h => byApplication h.1

/-- A member comes without approved applications of an earlier membership, and a purge leaves
those of seated members alone. -/
def Unstale (L : Ledger) (seating : Seating) (L' : Ledger) : Prop :=
  match seating with
  | .joinedByApplication id | .joinedByInvite id => L.held id = 0
  | .purged => ∀ h ∈ L.holders, L'.held h.1 = L.held h.1
  | .left _ | .unchanged => True

/-- Every seat rests on exactly the application that began it. -/
structure Matched (byApplication : String → Bool) (L : Ledger) : Prop where
  held_eq : ∀ h ∈ L.holders, L.held h.1 = if byApplication h.1 then 1 else 0
  seats_le : L.visibility = .publicPlan → (L.seats : ℤ) ≤ L.slots

variable {byApplication : String → Bool}

theorem Matched.seats_eq_begun (h : Matched byApplication L) : L.seats = L.begun byApplication := by
  have hmap : (L.holders.map fun x => L.held x.1) =
      L.holders.map fun x => if byApplication x.1 then 1 else 0 := List.map_congr_left h.held_eq
  rw [Ledger.seats, hmap, Ledger.begun]
  induction L.holders with
  | nil => rfl
  | cons x xs ih =>
    rw [List.map_cons, List.sum_cons, List.countP_cons, ih, add_comm]

theorem seats_congr {held held' : String → ℕ} {holders : List (String × ℤ)}
    (h : ∀ x ∈ holders, held x.1 = held' x.1) :
    (holders.map fun x => held x.1).sum = (holders.map fun x => held' x.1).sum := by
  rw [List.map_congr_left h]

theorem ne_of_mem_holders {holders : List (String × ℤ)} {id : String} {x : String × ℤ}
    (hnew : id ∉ holders.map Prod.fst) (hx : x ∈ holders) : x.1 ≠ id := by
  rintro rfl
  exact hnew (List.mem_map_of_mem hx)

theorem held_eq_of_id_mem {held : String → ℕ} {holders : List (String × ℤ)} {id : String}
    (h : ∀ x ∈ holders, held x.1 = if byApplication x.1 then 1 else 0)
    (hid : id ∈ holders.map Prod.fst) : held id = if byApplication id then 1 else 0 := by
  obtain ⟨y, hy, rfl⟩ := List.mem_map.mp hid
  exact h y hy

theorem Move.matched (hm : Move L seating L') (h : Matched byApplication L) (hu : Unstale L seating L') :
    Matched (beginnings byApplication seating) L' := by
  obtain ⟨hheld, hle⟩ := h
  cases hm with
  | publish hshare hseats hcap => exact ⟨hheld, fun _ => hseats⟩
  | settle h => exact ⟨hheld, hle⟩
  | close h => exact ⟨hheld, fun hpub => by cases hpub⟩
  | offer h hshare hzero hcap => exact ⟨hheld, hle⟩
  | @reshare holders rest id old share hold hnew hcap =>
    have hseats := (seats_perm_cons L.held hnew).trans (seats_perm_cons L.held hold).symm
    refine ⟨fun x hx => ?_, fun hpub => ?_⟩
    · have hx' : x.1 ∈ ((id, share) :: rest).map Prod.fst := List.mem_map_of_mem (hnew.subset hx)
      exact held_eq_of_id_mem hheld ((hold.map Prod.fst).symm.subset (by simpa using hx'))
    · have := hle hpub
      simp only [Ledger.seats] at this ⊢
      rwa [hseats]
  | @convert holders offers hids hoffers hcap =>
    have hseats : (holders.map fun x => L.held x.1) = L.holders.map fun x => L.held x.1 := by
      have := congrArg (List.map L.held) hids
      simpa [List.map_map, Function.comp_def] using this
    refine ⟨fun x hx => ?_, fun hpub => ?_⟩
    · exact held_eq_of_id_mem hheld (hids ▸ List.mem_map_of_mem hx)
    · have := hle hpub
      simp only [Ledger.seats] at this ⊢
      rwa [hseats]
  | @approve holders held id hvis hfree hnew h hheld' =>
    have hold : ∀ x ∈ L.holders, held x.1 = L.held x.1 := by
      intro x hx
      rw [hheld', if_neg (ne_of_mem_holders hnew hx), add_zero]
    have hid : held id = 1 := by
      rw [hheld', if_pos rfl]
      have : L.held id = 0 := hu
      omega
    refine ⟨fun x hx => ?_, fun _ => ?_⟩
    · rcases List.mem_cons.mp (h.subset hx) with rfl | hx'
      · simp [beginnings, hid]
      · simp only [beginnings, if_neg (ne_of_mem_holders hnew hx')]
        rw [hold x hx', hheld x hx']
    · have hseats := seats_perm_cons held h
      rw [seats_congr hold, hid] at hseats
      simp only [Ledger.seats] at hfree ⊢
      omega
  | @accept holders offers id share hnew h hoffers =>
    have hid : L.held id = 0 := hu
    refine ⟨fun x hx => ?_, fun hpub => ?_⟩
    · rcases List.mem_cons.mp (h.subset hx) with rfl | hx'
      · simp [beginnings, hid]
      · simp only [beginnings, if_neg (ne_of_mem_holders hnew hx')]
        exact hheld x hx'
    · have hseats := seats_perm_cons L.held h
      have := hle hpub
      simp only [Ledger.seats] at this ⊢
      omega
  | @leave holders id share hnew h =>
    refine ⟨fun x hx => hheld x (h.symm.subset (by simp [hx])), fun hpub => ?_⟩
    have hseats := seats_perm_cons L.held h
    have := hle hpub
    simp only [Ledger.seats] at this ⊢
    omega
  | @purge offers held h hheld' =>
    have hkept : ∀ x ∈ L.holders, held x.1 = L.held x.1 := hu
    refine ⟨fun x hx => ?_, fun hpub => ?_⟩
    · exact (hkept x hx).trans (hheld x hx)
    · have := hle hpub
      simp only [Ledger.seats] at this ⊢
      rwa [seats_congr hkept]

end Seats

section Inversion

theorem Move.left_inv {id : String} (h : Move L (.left id) L') :
    ∃ share, id ∉ L'.holders.map Prod.fst ∧ L.holders.Perm ((id, share) :: L'.holders) ∧
      L' = { L with holders := L'.holders } := by
  cases h with
  | leave hnew hperm => exact ⟨_, hnew, hperm, rfl⟩

end Inversion

end ShareSub.ShareLedger

import Mathlib
import ShareSub.LabelledParts
import ShareSub.PaymentAmount

/-!
# The signed text of a payment

What a callback confirms is read from its parameters, while the signature covers their joined text. The two agree as
long as the separator does not occur within a parameter. A checkout has no name that a callback needs.
-/
namespace ShareSub.PaymentSignature

open LabelledParts PaymentModel

section Parameters

variable {values : Values} {name value other : Text}

@[simp] lemma get_empty (name : Text) : get ∅ name = [] := rfl

lemma get_set (values : Values) (name value other : Text) :
    get (set values name value) other = if other = name then value else get values other := by
  unfold PaymentModel.get PaymentModel.set
  rw [FiniteMap.lookup_insert]
  split_ifs <;> rfl

/-- A value of a literal is one of its entries. -/
lemma mem_of_get_foldl {entries : List (Text × Text)} {values : Values}
    (h : get (entries.foldl (fun values entry => set values entry.1 entry.2) values) name ≠ []) :
    (∃ entry ∈ entries, entry.1 = name ∧
      get (entries.foldl (fun values entry => set values entry.1 entry.2) values) name = entry.2) ∨
      get (entries.foldl (fun values entry => set values entry.1 entry.2) values) name = get values name := by
  induction entries generalizing values with
  | nil => exact Or.inr rfl
  | cons entry entries ih =>
    rw [List.foldl_cons] at h ⊢
    rcases ih h with ⟨e, he, hname, hvalue⟩ | hvalue
    · exact Or.inl ⟨e, List.mem_cons_of_mem entry he, hname, hvalue⟩
    · rw [get_set] at hvalue
      split_ifs at hvalue with hsame
      · exact Or.inl ⟨entry, List.mem_cons_self .., hsame.symm, hvalue⟩
      · exact Or.inr hvalue

lemma mem_of_get_valuesOf {entries : List (Text × Text)} (h : get (valuesOf entries) name ≠ []) :
    (name, get (valuesOf entries) name) ∈ entries := by
  rcases mem_of_get_foldl h with ⟨entry, hentry, rfl, hvalue⟩ | hvalue
  · rw [valuesOf, hvalue]
    exact hentry
  · exact absurd hvalue h

lemma mem_signedNames : name ∈ signedNames values ↔
    name ≠ "sign".toList ∧ name ≠ "sign_type".toList ∧ get values name ≠ [] := by
  rw [signedNames, List.mem_insertionSort, List.mem_filter, decide_eq_true_eq, and_iff_right_of_imp]
  intro h
  by_contra hmem
  have hnone : values.lookup name = none := AList.lookup_eq_none.mpr hmem
  exact h.2.2 (by rw [PaymentModel.get, hnone]; rfl)

lemma signedNames_sorted (values : Values) : (signedNames values).Pairwise (· < ·) := by
  have hle : (signedNames values).Pairwise (· ≤ ·) := List.pairwise_insertionSort _ _
  have hnodup : (signedNames values).Nodup :=
    (List.perm_insertionSort _ _).nodup_iff.mpr (values.nodupKeys.filter _)
  exact (hle.and hnodup).imp fun h => lt_of_le_of_ne h.1 h.2

end Parameters

section Callbacks

variable {md5Hex : Text → Text} {provider : EasyPay} {values : Values} {c : Confirmation}

/-- What an accepted callback has, and the confirmation that is read from it. -/
structure Accepted (provider : EasyPay) (values : Values) (c : Confirmation) : Prop where
  pid : get values "pid".toList = provider.config.pid
  amount : parseAmount (get values "money".toList) = .ok c.amountCents
  orderID_ne : get values "out_trade_no".toList ≠ []
  tradeNo_ne : get values "trade_no".toList ≠ []
  orderID : c.orderID = get values "out_trade_no".toList
  tradeNo : c.tradeNo = get values "trade_no".toList
  merchant : c.pid = provider.config.pid
  paid : c.paid = decide (get values "trade_status".toList = "TRADE_SUCCESS".toList)

lemma accepted_of_verify (h : verify md5Hex provider values = .ok c) : Accepted provider values c := by
  unfold verify at h
  split_ifs at h with hsingle hsigned hids
  · split at h <;> cases h
  · push Not at hsigned hids
    split at h
    · cases h
    · next amount hamount =>
      cases h
      exact ⟨hsigned.2.2, hamount, hids.1, hids.2, rfl, rfl, rfl, rfl⟩

lemma Accepted.pid_ne (h : Accepted provider values c) : get values "pid".toList ≠ [] := h.pid ▸ provider.pid_ne

lemma Accepted.money_ne (h : Accepted provider values c) : get values "money".toList ≠ [] := by
  intro hnil
  have hamount := h.amount
  rw [hnil] at hamount
  obtain ⟨whole, fraction, hspells⟩ := PaymentAmount.spells_of_parseAmount hamount
  rcases hspells.text with ⟨hwhole, -⟩ | ⟨hwhole, -⟩
  · exact hspells.whole_ne hwhole.symm
  · simp at hwhole

lemma signed_pid (h : Accepted provider values c) : "pid".toList ∈ signedNames values :=
  mem_signedNames.mpr ⟨by decide, by decide, h.pid_ne⟩

lemma signed_tradeNo (h : Accepted provider values c) : "trade_no".toList ∈ signedNames values :=
  mem_signedNames.mpr ⟨by decide, by decide, h.tradeNo_ne⟩

/-- No name and no value that is signed has the separator. -/
def Plain (values : Values) : Prop := ∀ name ∈ signedNames values, '&' ∉ part values name

/-- The parts of plain parameters can be read off the text. -/
lemma parts_eq {a b : Values} (ha : Plain a) (hb : Plain b) (hane : signedNames a ≠ []) (hbne : signedNames b ≠ [])
    (h : signedText a = signedText b) : (signedNames a).map (part a) = (signedNames b).map (part b) := by
  have hread : ∀ {values : Values}, Plain values → signedNames values ≠ [] →
      (signedText values).splitOn '&' = (signedNames values).map (part values) := by
    intro values hplain hne
    refine List.splitOn_intercalate '&' ?_ (by simpa using hne)
    intro l hl
    obtain ⟨name, hname, rfl⟩ := List.mem_map.mp hl
    exact hplain name hname
  rw [← hread ha hane, ← hread hb hbne, h]

lemma paid_of_parts {a b : Values} (h : (signedNames a).map (part a) = (signedNames b).map (part b))
    (ha : get a "trade_status".toList = "TRADE_SUCCESS".toList) :
    get b "trade_status".toList = "TRADE_SUCCESS".toList := by
  have hmem : "trade_status".toList ∈ signedNames a :=
    mem_signedNames.mpr ⟨by decide, by decide, by rw [ha]; decide⟩
  have hpart : part a "trade_status".toList ∈ (signedNames b).map (part b) := h ▸ List.mem_map_of_mem hmem
  obtain ⟨name, -, hname⟩ := List.mem_map.mp hpart
  rw [part, part, ha] at hname
  obtain ⟨rfl, hvalue⟩ := name_eq_of_value (by decide) (by decide) hname.symm
  exact hvalue

/-- Two accepted callbacks with the same signed text confirm the same, when the separator is only between their
parameters. -/
theorem confirmation_determined {md5Hex : Text → Text} {p q : EasyPay} {a b : Values} {ca cb : Confirmation}
    (ha : verify md5Hex p a = .ok ca) (hb : verify md5Hex q b = .ok cb) (h : signedText a = signedText b)
    (hplain : Plain a) (hplain' : Plain b) : ca = cb := by
  have hca := accepted_of_verify ha
  have hcb := accepted_of_verify hb
  have hparts := parts_eq hplain hplain' (List.ne_nil_of_mem (signed_pid hca)) (List.ne_nil_of_mem (signed_pid hcb)) h
  have hvalue : ∀ name : Text, '=' ∉ name → name ∈ signedNames a → name ∈ signedNames b → get a name = get b name :=
    fun name hmark => value_eq_of_map_eq (signedNames_sorted a) (signedNames_sorted b) hparts hmark
  have hpid : ca.pid = cb.pid := by
    rw [hca.merchant, hcb.merchant, ← hca.pid, ← hcb.pid]
    exact hvalue _ (by decide) (signed_pid hca) (signed_pid hcb)
  have htradeNo : ca.tradeNo = cb.tradeNo := by
    rw [hca.tradeNo, hcb.tradeNo]
    exact hvalue _ (by decide) (signed_tradeNo hca) (signed_tradeNo hcb)
  have horderID : ca.orderID = cb.orderID := by
    rw [hca.orderID, hcb.orderID]
    exact hvalue _ (by decide) (mem_signedNames.mpr ⟨by decide, by decide, hca.orderID_ne⟩)
      (mem_signedNames.mpr ⟨by decide, by decide, hcb.orderID_ne⟩)
  have hamount : ca.amountCents = cb.amountCents := by
    have hmoney : get a "money".toList = get b "money".toList :=
      hvalue _ (by decide) (mem_signedNames.mpr ⟨by decide, by decide, hca.money_ne⟩)
        (mem_signedNames.mpr ⟨by decide, by decide, hcb.money_ne⟩)
    have hparsed := hca.amount
    rw [hmoney, hcb.amount] at hparsed
    exact (Except.ok.inj hparsed).symm
  have hpaid : ca.paid = cb.paid := by
    rw [hca.paid, hcb.paid]
    exact decide_eq_decide.mpr ⟨paid_of_parts hparts, paid_of_parts hparts.symm⟩
  cases ca
  cases cb
  simp_all

/-- A callback is accepted when it has all that and its signature. -/
lemma verify_of_accepted (hsingle : ∀ e ∈ values.entries, e.2.length = 1) (htype : get values "sign_type".toList = "MD5".toList)
    (hsign : get values "sign".toList = sign md5Hex values provider.config.key) (h : Accepted provider values c) :
    verify md5Hex provider values = .ok c := by
  have hsingle' : ¬ ∃ e ∈ values.entries, e.2.length ≠ 1 := by
    rintro ⟨e, he, hne⟩
    exact hne (hsingle e he)
  have hsigned : ¬ (get values "sign_type".toList ≠ "MD5".toList ∨
      get values "sign".toList ≠ sign md5Hex values provider.config.key ∨
      get values "pid".toList ≠ provider.config.pid) := by
    push Not
    exact ⟨htype, hsign, h.pid⟩
  have hids : ¬ (get values "out_trade_no".toList = [] ∨ get values "trade_no".toList = []) := by
    push Not
    exact ⟨h.orderID_ne, h.tradeNo_ne⟩
  unfold verify
  rw [if_neg hsingle', if_neg hsigned, h.amount]
  dsimp only
  rw [if_neg hids, ← h.orderID, ← h.tradeNo, ← h.merchant, ← h.paid]

end Callbacks

section Checkouts

variable {orderID method notifyURL returnURL name : Text} {amountCents : ℤ}

lemma sep_not_mem_money (amountCents : ℤ) : '&' ∉ money amountCents := by
  have hdecimal : ∀ n, '&' ∉ decimal n := by
    intro n hmem
    have hdigits : '&' ∉ Nat.toDigits 10 n.natAbs := by
      intro hdigit
      exact absurd (Nat.isDigit_of_mem_toDigits (by decide) (by decide) hdigit) (by decide)
    unfold decimal at hmem
    split_ifs at hmem
    · rcases List.mem_cons.mp hmem with heq | hmem
      · exact absurd heq (by decide)
      · exact hdigits hmem
    · exact hdigits hmem
  have hdecimal02 : ∀ n, '&' ∉ decimal02 n := by
    intro n hmem
    unfold decimal02 at hmem
    split_ifs at hmem
    · rcases List.mem_cons.mp hmem with heq | hmem
      · exact absurd heq (by decide)
      · exact hdecimal n hmem
    · exact hdecimal n hmem
  unfold money
  intro hmem
  rcases List.mem_append.mp hmem with hmem | hmem
  · exact hdecimal _ hmem
  · rcases List.mem_cons.mp hmem with heq | hmem
    · exact absurd heq (by decide)
    · exact hdecimal02 _ hmem

/-- The parameters of a checkout other than the merchant have no separator. -/
structure PlainCheckout (orderID method notifyURL returnURL name : Text) : Prop where
  orderID : '&' ∉ orderID
  method : '&' ∉ method
  notifyURL : '&' ∉ notifyURL
  returnURL : '&' ∉ returnURL
  name : '&' ∉ name

def checkoutNames : List Text :=
  ["pid".toList, "type".toList, "out_trade_no".toList, "notify_url".toList, "return_url".toList, "name".toList,
    "money".toList]

lemma sep_not_mem_part {n v : Text} (hn : '&' ∉ n) (hv : '&' ∉ v) : '&' ∉ n ++ '=' :: v := by
  intro hmem
  rcases List.mem_append.mp hmem with hmem | hmem
  · exact hn hmem
  · rcases List.mem_cons.mp hmem with heq | hmem
    · exact absurd heq (by decide)
    · exact hv hmem

/-- A parameter of a checkout is one of seven, and only the merchant may have the separator in its part. -/
lemma checkout_part {provider : EasyPay} {amountCents : ℤ}
    (h : PlainCheckout orderID method notifyURL returnURL name) {n : Text}
    (hn : get (checkoutValues provider orderID method notifyURL returnURL amountCents name) n ≠ []) :
    n ∈ checkoutNames ∧ (n ≠ "pid".toList ∨ '&' ∉ provider.config.pid →
      '&' ∉ part (checkoutValues provider orderID method notifyURL returnURL amountCents name) n) := by
  have hmem := mem_of_get_valuesOf hn
  rw [← checkoutValues] at hmem
  unfold part
  generalize get (checkoutValues provider orderID method notifyURL returnURL amountCents name) n = v at hmem ⊢
  simp only [List.mem_cons, List.not_mem_nil, or_false, Prod.mk.injEq] at hmem
  rcases hmem with ⟨rfl, rfl⟩ | ⟨rfl, rfl⟩ | ⟨rfl, rfl⟩ | ⟨rfl, rfl⟩ | ⟨rfl, rfl⟩ | ⟨rfl, rfl⟩ | ⟨rfl, rfl⟩
  · refine ⟨by decide, ?_⟩
    rintro (hne | hpid)
    · exact absurd rfl hne
    · exact sep_not_mem_part (by decide) hpid
  · exact ⟨by decide, fun _ => sep_not_mem_part (by decide) h.method⟩
  · exact ⟨by decide, fun _ => sep_not_mem_part (by decide) h.orderID⟩
  · exact ⟨by decide, fun _ => sep_not_mem_part (by decide) h.notifyURL⟩
  · exact ⟨by decide, fun _ => sep_not_mem_part (by decide) h.returnURL⟩
  · exact ⟨by decide, fun _ => sep_not_mem_part (by decide) h.name⟩
  · exact ⟨by decide, fun _ => sep_not_mem_part (by decide) (sep_not_mem_money amountCents)⟩

lemma get_checkout_pid (provider : EasyPay) (orderID method notifyURL returnURL : Text) (amountCents : ℤ) (name : Text) :
    get (checkoutValues provider orderID method notifyURL returnURL amountCents name) "pid".toList =
      provider.config.pid := by
  have hne : "pid".toList ≠ "money".toList ∧ "pid".toList ≠ "name".toList ∧ "pid".toList ≠ "return_url".toList ∧
      "pid".toList ≠ "notify_url".toList ∧ "pid".toList ≠ "out_trade_no".toList ∧ "pid".toList ≠ "type".toList := by
    decide
  unfold checkoutValues valuesOf
  simp only [List.foldl_cons, List.foldl_nil, get_set, if_neg hne.1, if_neg hne.2.1, if_neg hne.2.2.1,
    if_neg hne.2.2.2.1, if_neg hne.2.2.2.2.1, if_neg hne.2.2.2.2.2, if_true]

/-- The parameters have the names of a checkout, and only the merchant may have the separator in its part. -/
structure OfCheckout (checkout : Values) : Prop where
  names : ∀ n ∈ signedNames checkout, n ∈ checkoutNames
  plain : ∀ n ∈ signedNames checkout, n ≠ "pid".toList → '&' ∉ part checkout n

lemma ofCheckout {provider : EasyPay} {amountCents : ℤ}
    (h : PlainCheckout orderID method notifyURL returnURL name) :
    OfCheckout (checkoutValues provider orderID method notifyURL returnURL amountCents name) :=
  ⟨fun _ hn => (checkout_part h (mem_signedNames.mp hn).2.2).1,
    fun _ hn hne => (checkout_part h (mem_signedNames.mp hn).2.2).2 (Or.inl hne)⟩

section Pieces

variable {values checkout : Values} {label u : Text}

/-- A piece that begins like a parameter of the given name is the part of that name. -/
lemma OfCheckout.name_of_piece (h : OfCheckout checkout) {n : Text} (hn : n ∈ signedNames checkout) (u : Text)
    (hlabel : '=' ∉ label) (hpiece : label ++ '=' :: u = part checkout n) : n = label := by
  have hmark : ∀ n ∈ checkoutNames, '=' ∉ n := by decide
  rcases cut_cases hlabel hpiece with ⟨heq, -⟩ | ⟨w, heq, -⟩
  · exact heq
  · exact absurd (by simp [heq]) (hmark n (h.names n hn))

/-- No part of a checkout begins like a trade number. -/
lemma OfCheckout.tradeNo_not_mem (h : OfCheckout checkout) {names : List Text}
    (hsub : ∀ n ∈ names, n ∈ signedNames checkout) (u : Text) :
    "trade_no".toList ++ '=' :: u ∉ names.map (part checkout) := by
  intro hmem
  obtain ⟨n, hn, hpiece⟩ := List.mem_map.mp hmem
  have hname := h.name_of_piece (hsub n hn) u (by decide) hpiece.symm
  have hin := h.names n (hsub n hn)
  rw [hname] at hin
  exact absurd hin (by decide)

/-- The pieces of a part begin with its name. -/
lemma exists_piece (values : Values) {names : List Text} (hlabel : '&' ∉ label) (hmem : label ∈ names) :
    ∃ u, label ++ '=' :: u ∈ (names.map (part values)).flatMap (List.splitOn '&') := by
  have hsep : '&' ∉ label ++ ['='] := sep_not_mem_part hlabel (by simp)
  obtain ⟨u, rest, hpieces⟩ := exists_splitOn_eq_cons hsep (get values label)
  refine ⟨u, List.mem_flatMap.mpr ⟨part values label, List.mem_map_of_mem hmem, ?_⟩⟩
  have hpart : part values label = (label ++ ['=']) ++ get values label := by simp [part]
  rw [hpart, hpieces]
  simp

/-- The text cut at every separator, whether it joins parts or is within one. -/
def pieces (values : Values) (names : List Text) : List Text := (names.map (part values)).flatMap (List.splitOn '&')

lemma splitOn_signedText (hne : signedNames values ≠ []) :
    (signedText values).splitOn '&' = pieces values (signedNames values) :=
  splitOn_intercalate_eq_flatMap (by simpa using hne)

lemma pieces_append (values : Values) (first last : List Text) (name : Text) :
    pieces values (first ++ name :: last) =
      pieces values first ++ ((part values name).splitOn '&' ++ pieces values last) := by
  simp [pieces]

lemma pieces_of_plain {names : List Text} (h : ∀ n ∈ names, '&' ∉ part checkout n) :
    pieces checkout names = names.map (part checkout) := by
  refine flatMap_splitOn_of_not_mem ?_
  intro l hl
  obtain ⟨n, hn, rfl⟩ := List.mem_map.mp hl
  exact h n hn

/-- What stands behind the merchant in a text that is also one of a checkout stands behind it there. -/
lemma OfCheckout.suffix_of_pieces (h : OfCheckout checkout) {before behind first last : List Text}
    (hchecked : signedNames checkout = first ++ "pid".toList :: last)
    (hpid : part values "pid".toList = part checkout "pid".toList)
    (hpieces : pieces values (before ++ "pid".toList :: behind) = pieces checkout (first ++ "pid".toList :: last)) :
    pieces values behind <:+ last.map (part checkout) := by
  have hsorted := signedNames_sorted checkout
  rw [hchecked, List.pairwise_append] at hsorted
  have hfirst : ∀ n ∈ first, n ∈ signedNames checkout ∧ n ≠ "pid".toList :=
    fun n hn => ⟨by simp [hchecked, hn], (hsorted.2.2 n hn _ (List.mem_cons_self ..)).ne⟩
  have hlast : ∀ n ∈ last, n ∈ signedNames checkout ∧ n ≠ "pid".toList :=
    fun n hn => ⟨by simp [hchecked, hn], (List.rel_of_pairwise_cons hsorted.2.1 hn).ne'⟩
  rw [pieces_append, pieces_append, hpid, pieces_of_plain fun n hn => h.plain n (hfirst n hn).1 (hfirst n hn).2,
    pieces_of_plain fun n hn => h.plain n (hlast n hn).1 (hlast n hn).2] at hpieces
  refine suffix_of_append_eq (List.splitOn_ne_nil '&' _) ?_ hpieces
  -- The parts before the merchant do not begin like it.
  intro w hw hin
  have hsep : '&' ∉ "pid=".toList := by decide
  obtain ⟨u, rest, hhead⟩ := exists_splitOn_eq_cons hsep (get checkout "pid".toList)
  have hsplit : part checkout "pid".toList = "pid=".toList ++ get checkout "pid".toList := rfl
  rw [hsplit, hhead] at hw
  obtain rfl : "pid=".toList ++ u = w := by simpa using hw
  obtain ⟨n, hn, hu⟩ := List.mem_map.mp hin
  have hpiece : "pid".toList ++ '=' :: u = part checkout n := hu.symm
  exact (hfirst n hn).2 (h.name_of_piece (hfirst n hn).1 u (by decide) hpiece)

end Pieces

/-- No accepted callback has the signed text of a checkout. The one who verifies is the merchant of the checkout, or
the identifier of that merchant has no separator either. -/
theorem checkout_never_confirms (md5Hex : Text → Text) {provider verifier : EasyPay}
    (hpid : verifier.config.pid = provider.config.pid ∨ '&' ∉ provider.config.pid)
    (hplain : PlainCheckout orderID method notifyURL returnURL name) (amountCents : ℤ) {values : Values}
    {c : Confirmation} (h : verify md5Hex verifier values = .ok c) :
    signedText values ≠ signedText (checkoutValues provider orderID method notifyURL returnURL amountCents name) := by
  intro heq
  have hc := accepted_of_verify h
  have hget := get_checkout_pid provider orderID method notifyURL returnURL amountCents name
  have hof : OfCheckout (checkoutValues provider orderID method notifyURL returnURL amountCents name) := ofCheckout hplain
  have hfree : ∀ n ∈ signedNames (checkoutValues provider orderID method notifyURL returnURL amountCents name),
      '&' ∉ provider.config.pid → '&' ∉ part _ n :=
    fun n hn hp => (checkout_part hplain (mem_signedNames.mp hn).2.2).2 (Or.inr hp)
  generalize checkoutValues provider orderID method notifyURL returnURL amountCents name = checkout at *
  have hmem : "pid".toList ∈ signedNames checkout :=
    mem_signedNames.mpr ⟨by decide, by decide, hget ▸ provider.pid_ne⟩
  have htradeNo := signed_tradeNo hc
  have hpieces : pieces values (signedNames values) = pieces checkout (signedNames checkout) := by
    rw [← splitOn_signedText (List.ne_nil_of_mem htradeNo), ← splitOn_signedText (List.ne_nil_of_mem hmem), heq]
  rcases hpid with hsame | hnosep
  · obtain ⟨before, behind, hnames⟩ := List.append_of_mem (signed_pid hc)
    obtain ⟨first, last, hchecked⟩ := List.append_of_mem hmem
    have hpidPart : part values "pid".toList = part checkout "pid".toList := by rw [part, part, hc.pid, hget, hsame]
    have hbehind : "trade_no".toList ∈ behind := by
      have hsorted := signedNames_sorted values
      rw [hnames, List.pairwise_append] at hsorted
      rw [hnames] at htradeNo
      rcases List.mem_append.mp htradeNo with hin | hin
      · exact absurd (hsorted.2.2 _ hin _ (List.mem_cons_self ..)) (by decide)
      · rcases List.mem_cons.mp hin with heq | hin
        · exact absurd heq (by decide)
        · exact hin
    rw [hnames, hchecked] at hpieces
    obtain ⟨u, hu⟩ := exists_piece values (by decide) hbehind
    exact hof.tradeNo_not_mem (fun n hn => by simp [hchecked, hn]) u
      ((hof.suffix_of_pieces hchecked hpidPart hpieces).subset hu)
  · obtain ⟨u, hu⟩ := exists_piece values (by decide) htradeNo
    have hflat := pieces_of_plain fun n hn => hfree n hn hnosep
    refine hof.tradeNo_not_mem (fun n hn => hn) u ?_
    rw [← hflat, ← hpieces]
    exact hu

end Checkouts

section Sample

def sampleProvider : EasyPay where
  config := ⟨"https://pay.example.test/gateway".toList, "merchant".toList, "secret".toList⟩
  pid_ne := by decide
  key_ne := by decide

/-- A paid callback with the given digest. -/
def sampleCallback (digest : Text) : Values :=
  valuesOf [("pid".toList, "merchant".toList), ("out_trade_no".toList, "order".toList),
    ("trade_no".toList, "trade".toList), ("money".toList, "9.90".toList),
    ("trade_status".toList, "TRADE_SUCCESS".toList), ("sign".toList, digest), ("sign_type".toList, "MD5".toList)]

/-- The same text with the status as a part of the trade number. -/
def sampleMerged (digest : Text) : Values :=
  valuesOf [("pid".toList, "merchant".toList), ("out_trade_no".toList, "order".toList),
    ("trade_no".toList, "trade&trade_status=TRADE_SUCCESS".toList), ("money".toList, "9.90".toList),
    ("sign".toList, digest), ("sign_type".toList, "MD5".toList)]

def sampleText : Text := "money=9.90&out_trade_no=order&pid=merchant&trade_no=trade&trade_status=TRADE_SUCCESS".toList

lemma signedText_sampleCallback (digest : Text) : signedText (sampleCallback digest) = sampleText := by
  unfold signedText signedNames sampleCallback sampleText
  repeat rw [String.toList_ofList]
  rfl

lemma signedText_sampleMerged (digest : Text) : signedText (sampleMerged digest) = sampleText := by
  unfold signedText signedNames sampleMerged sampleText
  repeat rw [String.toList_ofList]
  rfl

lemma parseAmount_sample : parseAmount "9.90".toList = .ok 990 := by
  have hspells : PaymentAmount.Spells "9.90".toList "9".toList "90".toList :=
    ⟨Or.inr ⟨rfl, by decide⟩, by decide, by decide, by decide, List.all_eq_true.mp (by decide),
      List.all_eq_true.mp (by decide)⟩
  rw [PaymentAmount.parseAmount_of_spells hspells]
  decide

/-- The parameters with the signature of their text are accepted. -/
lemma verify_sample (md5Hex : Text → Text) {values : Text → Values} {tradeNo : Text} {paid : Bool}
    (hsingle : ∀ digest, (values digest).entries.all (fun e => e.2.length = 1) = true)
    (hsigned : ∀ digest, signedText (values digest) = sampleText ∧ get (values digest) "sign".toList = digest ∧
      get (values digest) "sign_type".toList = "MD5".toList ∧ get (values digest) "pid".toList = "merchant".toList ∧
      get (values digest) "money".toList = "9.90".toList ∧ get (values digest) "out_trade_no".toList = "order".toList ∧
      get (values digest) "trade_no".toList = tradeNo ∧
      decide (get (values digest) "trade_status".toList = "TRADE_SUCCESS".toList) = paid) (htradeNo : tradeNo ≠ []) :
    verify md5Hex sampleProvider (values (md5Hex (sampleText ++ "secret".toList))) =
      .ok ⟨"order".toList, tradeNo, "merchant".toList, 990, paid⟩ := by
  obtain ⟨htext, hsign, htype, hpid, hmoney, horder, htrade, hpaid⟩ := hsigned (md5Hex (sampleText ++ "secret".toList))
  refine verify_of_accepted ?_ htype ?_ ⟨hpid, hmoney ▸ parseAmount_sample, ?_, htrade ▸ htradeNo, horder.symm,
    htrade.symm, rfl, hpaid.symm⟩
  · intro e he
    simpa using List.all_eq_true.mp (hsingle _) e he
  · rw [sign, htext, hsign]
    rfl
  · rw [horder]
    decide

lemma verify_sampleCallback (md5Hex : Text → Text) :
    verify md5Hex sampleProvider (sampleCallback (md5Hex (sampleText ++ "secret".toList))) =
      .ok ⟨"order".toList, "trade".toList, "merchant".toList, 990, true⟩ := by
  refine verify_sample md5Hex (fun _ => ?_) (fun _ => ⟨signedText_sampleCallback _, ?_⟩) (by decide)
  · unfold sampleCallback
    repeat rw [String.toList_ofList]
    rfl
  · unfold sampleCallback
    repeat rw [String.toList_ofList]
    exact ⟨rfl, rfl, rfl, rfl, rfl, rfl, rfl⟩

lemma verify_sampleMerged (md5Hex : Text → Text) :
    verify md5Hex sampleProvider (sampleMerged (md5Hex (sampleText ++ "secret".toList))) =
      .ok ⟨"order".toList, "trade&trade_status=TRADE_SUCCESS".toList, "merchant".toList, 990, false⟩ := by
  refine verify_sample md5Hex (fun _ => ?_) (fun _ => ⟨signedText_sampleMerged _, ?_⟩) (by decide)
  · unfold sampleMerged
    repeat rw [String.toList_ofList]
    rfl
  · unfold sampleMerged
    repeat rw [String.toList_ofList]
    exact ⟨rfl, rfl, rfl, rfl, rfl, rfl, rfl⟩

/-- With no digest does the signed text determine what a callback confirms. -/
theorem confirmation_of_merged_parts : ¬ ∃ md5Hex : Text → Text, ∀ (provider : EasyPay) (a b : Values)
    (ca cb : Confirmation), verify md5Hex provider a = .ok ca → verify md5Hex provider b = .ok cb →
      signedText a = signedText b → ca = cb := by
  rintro ⟨md5Hex, h⟩
  have heq := h sampleProvider _ _ _ _ (verify_sampleCallback md5Hex) (verify_sampleMerged md5Hex)
    ((signedText_sampleCallback _).trans (signedText_sampleMerged _).symm)
  have hpaid := congrArg Confirmation.paid heq
  cases hpaid

/-- The digest of the sample text with the key behind it. -/
def sampleDigest : Text := "3018a478051b46639875429962578fbf".toList

/-- The digest on the sample text. -/
def sampleMd5Hex (text : Text) : Text := if text = sampleText ++ "secret".toList then sampleDigest else []

/-- The same callback with a parameter that is empty. -/
def sampleBlank (digest : Text) : Values := set (sampleCallback digest) "memo".toList []

lemma signedText_sampleBlank (digest : Text) : signedText (sampleBlank digest) = sampleText := by
  unfold signedText signedNames sampleBlank sampleCallback sampleText
  repeat rw [String.toList_ofList]
  rfl

lemma verify_sampleBlank (md5Hex : Text → Text) :
    verify md5Hex sampleProvider (sampleBlank (md5Hex (sampleText ++ "secret".toList))) =
      .ok ⟨"order".toList, "trade".toList, "merchant".toList, 990, true⟩ := by
  refine verify_sample md5Hex (fun _ => ?_) (fun _ => ⟨signedText_sampleBlank _, ?_⟩) (by decide)
  · unfold sampleBlank sampleCallback
    repeat rw [String.toList_ofList]
    rfl
  · unfold sampleBlank sampleCallback
    repeat rw [String.toList_ofList]
    exact ⟨rfl, rfl, rfl, rfl, rfl, rfl, rfl⟩

lemma plain_sampleCallback : Plain (sampleCallback sampleDigest) := by
  unfold Plain
  decide

lemma plain_sampleBlank : Plain (sampleBlank sampleDigest) := by
  unfold Plain
  decide

lemma sampleMd5Hex_text : sampleMd5Hex (sampleText ++ "secret".toList) = sampleDigest := if_pos rfl

theorem confirmation_determined_sample :
    verify sampleMd5Hex sampleProvider (sampleBlank sampleDigest) =
      verify sampleMd5Hex sampleProvider (sampleCallback sampleDigest) := by
  have ha := verify_sampleCallback sampleMd5Hex
  have hb := verify_sampleBlank sampleMd5Hex
  rw [sampleMd5Hex_text] at ha hb
  have heq := confirmation_determined ha hb ((signedText_sampleCallback _).trans (signedText_sampleBlank _).symm)
    plain_sampleCallback plain_sampleBlank
  rw [ha, hb, heq]

theorem checkout_never_confirms_sample :
    signedText (sampleCallback (sampleMd5Hex (sampleText ++ "secret".toList))) ≠
      signedText (checkoutValues sampleProvider "order".toList "alipay".toList "https://share.example.test/notify".toList
        "https://share.example.test/return".toList 990 "VIP".toList) :=
  checkout_never_confirms sampleMd5Hex (Or.inl rfl)
    ⟨by decide, by decide, by decide, by decide, by decide⟩ 990
    (verify_sampleCallback sampleMd5Hex)

end Sample

end ShareSub.PaymentSignature

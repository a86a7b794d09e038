import Mathlib
import ShareSub.FiniteMap
import ShareSub.ProtectionModel

/-!
# The payment provider

The embedding of `payment/easypay.go`. A text is the list of its bytes, each as the character of its number: names and
values of a callback are percent-decoded and need not be valid UTF-8. The hexadecimal MD5 digest is a parameter.
-/
namespace ShareSub.PaymentModel

open ProtectionModel (atoi)

section Values

abbrev Text := List Char

/-- `url.Values`. -/
abbrev Values := FiniteMap Text (List Text)

def get (values : Values) (name : Text) : Text := ((values.lookup name).getD []).headD []

def set (values : Values) (name value : Text) : Values := values.insert name [value]

/-- A composite literal. -/
def valuesOf (entries : List (Text × Text)) : Values := entries.foldl (fun values entry => set values entry.1 entry.2) ∅

structure Config where
  baseURL : Text
  pid : Text
  key : Text

/-- The parts of a parsed URL that `New` looks at. -/
structure ParsedURL where
  scheme : Text
  host : Text
  user : Bool
  rawQuery : Text
  fragment : Text

/-- A provider has a merchant and a key. -/
structure EasyPay where
  config : Config
  pid_ne : config.pid ≠ []
  key_ne : config.key ≠ []

structure Confirmation where
  orderID : Text
  tradeNo : Text
  pid : Text
  amountCents : ℤ
  paid : Bool
  deriving DecidableEq, Repr

/-- `New`, with the URL parser of the standard library. -/
def new (parse : Text → Option ParsedURL) (config : Config) : Except String EasyPay :=
  match parse config.baseURL with
  | none => .error "EasyPay requires an HTTPS base URL, merchant PID and key"
  | some parsed =>
    if h : parsed.scheme = "https".toList ∧ parsed.host ≠ [] ∧ parsed.user = false ∧ parsed.rawQuery = [] ∧
        parsed.fragment = [] ∧ config.pid ≠ [] ∧ config.key ≠ [] then
      .ok ⟨{ config with baseURL := config.baseURL.rdropWhile (· = '/') }, h.2.2.2.2.2.1, h.2.2.2.2.2.2⟩
    else .error "EasyPay requires an HTTPS base URL, merchant PID and key"

end Values

section Amounts

/-- `ParseAmount`. A byte outside ASCII belongs to a rune outside it, so the check of the runes is one of the bytes. -/
def parseAmount (value : Text) : Except String ℤ :=
  let parts := value.splitOn '.'
  let whole := parts.headD []
  if 2 < parts.length ∨ whole = [] ∨ 9 < whole.length then .error "invalid payment amount"
  else if ∃ part ∈ parts, part = [] ∨ ∃ character ∈ part, character.isDigit = false then .error "invalid payment amount"
  else
    match atoi (String.ofList whole) with
    | none => .error "invalid syntax"
    | some n =>
      match parts with
      | [_, digits] =>
        if 2 < digits.length then .error "invalid payment precision"
        else
          match atoi (String.ofList digits) with
          | none => .error "invalid syntax"
          | some fraction => .ok (n * 100 + if digits.length = 1 then fraction * 10 else fraction)
      | _ => .ok (n * 100 + 0)

/-- The verb `%d`. -/
def decimal (n : ℤ) : Text := if n < 0 then '-' :: Nat.toDigits 10 n.natAbs else Nat.toDigits 10 n.natAbs

/-- The verb `%02d`. -/
def decimal02 (n : ℤ) : Text := if (decimal n).length < 2 then '0' :: decimal n else decimal n

/-- The text of an amount, `fmt.Sprintf("%d.%02d", amountCents/100, amountCents%100)`. -/
def money (amountCents : ℤ) : Text := decimal (amountCents.tdiv 100) ++ '.' :: decimal02 (amountCents.tmod 100)

end Amounts

section Signatures

/-- The names that are signed, sorted. -/
def signedNames (values : Values) : List Text :=
  (values.keys.filter fun name => name ≠ "sign".toList ∧ name ≠ "sign_type".toList ∧ get values name ≠ []).insertionSort
    (· ≤ ·)

/-- A name and its value. -/
def part (values : Values) (name : Text) : Text := name ++ '=' :: get values name

/-- The parts joined by `&`, which `sign` hashes with the key behind them. -/
def signedText (values : Values) : Text := ['&'].intercalate ((signedNames values).map (part values))

def sign (md5Hex : Text → Text) (values : Values) (key : Text) : Text := md5Hex (signedText values ++ key)

/-- The parameters of a checkout before the signature is set. -/
def checkoutValues (provider : EasyPay) (orderID method notifyURL returnURL : Text) (amountCents : ℤ) (name : Text) :
    Values :=
  valuesOf [("pid".toList, provider.config.pid), ("type".toList, method), ("out_trade_no".toList, orderID),
    ("notify_url".toList, notifyURL), ("return_url".toList, returnURL), ("name".toList, name),
    ("money".toList, money amountCents)]

def upperHex (n : ℕ) : Char := (Nat.digitChar n).toUpper

/-- `url.QueryEscape`. -/
def queryEscape (text : Text) : Text :=
  text.flatMap fun c =>
    if c.isAlphanum ∨ c ∈ ['-', '_', '.', '~'] then [c]
    else if c = ' ' then ['+']
    else ['%', upperHex (c.toNat / 16 % 16), upperHex (c.toNat % 16)]

/-- `values.Encode()`. -/
def encode (values : Values) : Text :=
  ['&'].intercalate ((values.keys.insertionSort (· ≤ ·)).flatMap fun name =>
    ((values.lookup name).getD []).map fun value => queryEscape name ++ '=' :: queryEscape value)

def checkoutURL (md5Hex : Text → Text) (provider : EasyPay) (orderID method notifyURL returnURL : Text)
    (amountCents : ℤ) (name : Text) : Text :=
  let values := checkoutValues provider orderID method notifyURL returnURL amountCents name
  let values := set values "sign".toList (sign md5Hex values provider.config.key)
  let values := set values "sign_type".toList "MD5".toList
  provider.config.baseURL ++ "/submit.php?".toList ++ encode values

def verify (md5Hex : Text → Text) (provider : EasyPay) (values : Values) : Except String Confirmation :=
  if ∃ e ∈ values.entries, e.2.length ≠ 1 then .error "duplicate callback parameter"
  else if get values "sign_type".toList ≠ "MD5".toList ∨
      get values "sign".toList ≠ sign md5Hex values provider.config.key ∨
      get values "pid".toList ≠ provider.config.pid then
    .error "invalid payment signature or merchant"
  else
    match parseAmount (get values "money".toList) with
    | .error e => .error e
    | .ok amount =>
      if get values "out_trade_no".toList = [] ∨ get values "trade_no".toList = [] then
        .error "missing payment identifier"
      else
        .ok { orderID := get values "out_trade_no".toList
              tradeNo := get values "trade_no".toList
              pid := provider.config.pid
              amountCents := amount
              paid := get values "trade_status".toList = "TRADE_SUCCESS".toList }

end Signatures

end ShareSub.PaymentModel

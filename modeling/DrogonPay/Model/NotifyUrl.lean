import DrogonPay.Inet.Text
import DrogonPay.Model.PayUtils

/-!
Contract: `validateNotifyUrl` of `utils/PayUtils.cc` and the helpers under it.

Owns: the functions as the code computes them, on any bytes.

Does not own: what the URL is used for, or the resolution of names.
-/

namespace DrogonPay.PayUtils

/-- The text behind the first `://`. -/
def findSchemeEnd : Bytes → Option Bytes
  | [] => none
  | b :: rest =>
      if (ascii "://").isPrefixOf (b :: rest) then some (rest.drop 2) else findSchemeEnd rest

/-- A bracketed literal runs to the first closing bracket of the URL, another host
to the first of `/:?#`. -/
def extractUrlHost (url : Bytes) : Bytes :=
  match findSchemeEnd url with
  | none => []
  | some rest =>
      let authority := rest.takeWhile fun b => b ≠ 47 && b ≠ 63 && b ≠ 35
      -- `rfind('@')`: the userinfo ends at the last one of the authority
      let userinfo := authority.length - (Inet.afterLast 64 authority).length
      match rest.drop userinfo with
      | 91 :: literal => if 93 ∈ literal then literal.takeWhile fun b => b ≠ 93 else []
      | text => text.takeWhile fun b => b ≠ 47 && b ≠ 58 && b ≠ 63 && b ≠ 35

/-- One to three digits without a leading zero, at most 255. -/
def ipv4Segment (seg : Bytes) : Option Nat :=
  if seg.isEmpty || seg.length > 3 then none
  else if !seg.all Decimal.isDigit then none
  else if Decimal.value seg > 255 then none
  else if seg.length > 1 && seg.head? = some 48 then none
  else some (Decimal.value seg)

/-- The segment up to the next dot and `more` segments behind it; the last one is
all that is left. -/
def ipv4Segments : Nat → Bytes → Option (List Nat)
  | 0, text => (ipv4Segment text).map fun v => [v]
  | more + 1, text => do
      let v ← ipv4Segment (text.takeWhile fun b => b ≠ 46)
      if 46 ∈ text then
        return v :: (← ipv4Segments more (text.dropWhile fun b => b ≠ 46).tail)
      else none

def parseIpv4 (host : Bytes) : Option (List Nat) := ipv4Segments 3 host

def isPrivateIpv4 (a b : Nat) : Bool :=
  a = 10 || (a = 172 && b &&& 0xF0 = 16) || (a = 192 && b = 168) || a = 127 ||
    (a = 169 && b = 254) || a = 0 || (a = 100 && b &&& 0xC0 = 64)

/-- The value of the leading hexadecimal digits, at most four of them. -/
def isGlobalUnicastIpv6 (host : Bytes) : Bool :=
  if host.head? = some 58 then false
  else Hex.value ((host.take 4).takeWhile Hex.isDigit) &&& 0xE000 = 0x2000

/-- All decimal digits, or hexadecimal ones behind `0x`. -/
def isNumericLabel (label : Bytes) : Bool :=
  match label with
  | [] => false
  | 48 :: mark :: b :: digits =>
      if mark = 120 || mark = 88 then (b :: digits).all Hex.isDigit
      else label.all Decimal.isDigit
  | _ => label.all Decimal.isDigit

def isNumericAddressShape (host : Bytes) : Bool := (host.splitOn 46).all isNumericLabel

/-- `std::tolower` of the C locale. -/
def lower (b : UInt8) : UInt8 := if 65 ≤ b && b ≤ 90 then b + 32 else b

def isBlockedHost (host : Bytes) : Bool :=
  let lowered := host.map lower
  if host.isEmpty then true
  else if lowered = ascii "localhost" || lowered = ascii "localhost." then true
  else if 58 ∈ host then !isGlobalUnicastIpv6 host
  else match parseIpv4 host with
    | some (a :: b :: _) => isPrivateIpv4 a b
    | _ => isNumericAddressShape lowered

/-- The error message, `none` when the URL is accepted. -/
def validateNotifyUrl (url : Bytes) : Option Bytes :=
  if url.isEmpty then none
  else if !(ascii "http://").isPrefixOf url && !(ascii "https://").isPrefixOf url then
    some (ascii "invalid notify_url (must start with http:// or https://)")
  else if url.length > 512 then some (ascii "notify_url too long (max 512 characters)")
  else if isBlockedHost (extractUrlHost url) then
    some (ascii "notify_url host must not be a private, loopback, or link-local address")
  else none

end DrogonPay.PayUtils

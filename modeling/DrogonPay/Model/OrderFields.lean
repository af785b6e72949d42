import DrogonPay.Model.PayUtils

/-!
Contract: `validateWechatOrderFields` of `utils/PayUtils.cc`, and the length it
measures in.

Owns: the function as the code computes it, on any bytes.

Does not own: which requests are checked.
-/

namespace DrogonPay.PayUtils

/-- The bytes that are not continuation bytes. -/
def utf8CodePointLength (s : Bytes) : Nat := s.countP fun c => c &&& 0xC0 ≠ 0x80

/-- A byte of `[0-9a-zA-Z_|*-]`. -/
def isOutTradeNoByte (c : UInt8) : Bool :=
  (48 ≤ c && c ≤ 57) || (97 ≤ c && c ≤ 122) || (65 ≤ c && c ≤ 90) || c = 95 || c = 45 || c = 124 ||
    c = 42

/-- The first violation, `none` when all fields are usable. -/
def validateWechatOrderFields (outTradeNo description attach : Bytes) : Option Bytes :=
  if outTradeNo.length < 6 || outTradeNo.length > 32 then
    some (ascii "order_no must be 6-32 characters for WeChat Pay")
  else if !outTradeNo.all isOutTradeNoByte then
    some (ascii "order_no may only contain digits, letters, and _ - | * for WeChat Pay")
  else if description.isEmpty then some (ascii "description is required for WeChat Pay")
  else if utf8CodePointLength description > 127 then
    some (ascii "description exceeds 127 characters")
  else if !attach.isEmpty && utf8CodePointLength attach > 128 then
    some (ascii "attach exceeds 128 characters")
  else none

end DrogonPay.PayUtils

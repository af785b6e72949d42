import DrogonPay.Channels.Exchange
import DrogonPay.Percent.Text

/-!
Contract: the requests `WechatChannel.cc` signs for an order or a refund by its
number, and `urlEncodePathSegment` of `utils/PayUtils.cc`.

Owns:
- `PayUtils.urlEncodePathSegment`;
- the path, the body and the authorization of a query, a close and a refund
  query, with the faults found before anything is sent.

Does not own: the RSA signature and the JSON writer, which a client is built
with, and the requests whose path names nobody.
-/

namespace DrogonPay

namespace PayUtils

def kHex : Bytes := ascii "0123456789ABCDEF"

def unreserved (c : UInt8) : Bool :=
  c ≥ 65 && c ≤ 90 || c ≥ 97 && c ≤ 122 || c ≥ 48 && c ≤ 57 ||
    c = 45 || c = 95 || c = 46 || c = 126

def urlEncodePathSegment (raw : Bytes) : Bytes :=
  raw.flatMap fun c =>
    if unreserved c then [c]
    else [37, kHex.getD ((c >>> 4) &&& 0xF).toNat 0, kHex.getD (c &&& 0xF).toNat 0]

end PayUtils

open PayUtils (urlEncodePathSegment)

/-- What a client is configured with. `signMessage` answers the signature of a
message, or why there is none. -/
structure WechatPayClient where
  mchId : Bytes
  serialNo : Bytes
  privateKeyPath : Bytes
  signMessage : Bytes → Bytes → Except Bytes Bytes
  toJsonString : Json → Bytes

/-- What `sendWechatRequest` is given. -/
structure SignedRequest where
  method : Bytes
  path : Bytes
  body : Bytes
  authorization : Bytes

namespace WechatPayClient

def signedMessage (method url body timestamp nonce : Bytes) : Bytes :=
  method ++ ascii "\n" ++ url ++ ascii "\n" ++ timestamp ++ ascii "\n" ++ nonce ++ ascii "\n" ++
    body ++ ascii "\n"

def buildAuthorizationHeader (client : WechatPayClient) (method url body timestamp nonce : Bytes) :
    Except Bytes Bytes :=
  if client.mchId.isEmpty || client.serialNo.isEmpty || client.privateKeyPath.isEmpty then
    .error (ascii "wechat pay config missing mch_id/serial_no/private_key_path")
  else do
    let message := signedMessage method url body timestamp nonce
    let signatureB64 ← client.signMessage message client.privateKeyPath
    return ascii "WECHATPAY2-SHA256-RSA2048 mchid=\"" ++ client.mchId ++
      ascii "\",nonce_str=\"" ++ nonce ++ ascii "\",timestamp=\"" ++ timestamp ++
      ascii "\",serial_no=\"" ++ client.serialNo ++ ascii "\",signature=\"" ++ signatureB64 ++
      ascii "\""

/-- Sign a request; the path that is signed is the path that is sent. -/
def sign (client : WechatPayClient) (method path body timestamp nonce : Bytes) :
    Except Bytes SignedRequest := do
  let authorization ← client.buildAuthorizationHeader method path body timestamp nonce
  return ⟨method, path, body, authorization⟩

def queryPath (mchId orderNo : Bytes) : Bytes :=
  ascii "/v3/pay/transactions/out-trade-no/" ++ urlEncodePathSegment orderNo ++
    ascii "?mchid=" ++ urlEncodePathSegment mchId

def queryTransaction (client : WechatPayClient) (orderNo timestamp nonce : Bytes) :
    Except Bytes SignedRequest :=
  if orderNo.isEmpty then .error (ascii "missing orderNo")
  else if client.mchId.isEmpty then .error (ascii "missing mch_id")
  else client.sign (ascii "GET") (queryPath client.mchId orderNo) [] timestamp nonce

def closePath (orderNo : Bytes) : Bytes :=
  ascii "/v3/pay/transactions/out-trade-no/" ++ urlEncodePathSegment orderNo ++ ascii "/close"

def closeTransaction (client : WechatPayClient) (orderNo timestamp nonce : Bytes) :
    Except Bytes SignedRequest :=
  if orderNo.isEmpty then .error (ascii "missing orderNo")
  else if client.mchId.isEmpty then .error (ascii "missing mch_id")
  else
    client.sign (ascii "POST") (closePath orderNo)
      (client.toJsonString (Json.object [("mchid", .str client.mchId)])) timestamp nonce

def refundPath (refundNo : Bytes) : Bytes :=
  ascii "/v3/refund/domestic/refunds/" ++ urlEncodePathSegment refundNo

def queryRefund (client : WechatPayClient) (refundNo timestamp nonce : Bytes) :
    Except Bytes SignedRequest :=
  if refundNo.isEmpty then .error (ascii "missing refundNo")
  else client.sign (ascii "GET") (refundPath refundNo) [] timestamp nonce

theorem path_of_sign {client : WechatPayClient} {method path body timestamp nonce : Bytes}
    {request : SignedRequest}
    (signed : client.sign method path body timestamp nonce = .ok request) : request.path = path := by
  unfold sign at signed
  cases header : client.buildAuthorizationHeader method path body timestamp nonce with
  | error fault =>
      rw [header] at signed
      cases signed
  | ok authorization =>
      rw [header] at signed
      cases signed
      rfl

end WechatPayClient
end DrogonPay

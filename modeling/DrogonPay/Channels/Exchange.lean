import DrogonPay.Services.Refund

/-!
Contract: what a channel client hands its caller after one exchange with the
channel (`WechatChannel.cc`, `AlipayChannel.cc`).

Owns:
- `Exchange`, everything that can become of a request;
- `sendWechatRequest` and `sendRequest`, from the exchange to the result and the
  error text a service receives;
- `channelAnswer`, which client answers which call.

Does not own: how a request is signed or sent, the verification of an answer's
signature (an exchange carries its verdict) and the text of a JSON value, of
which only the first byte matters.
-/

namespace DrogonPay

/-- HTTP status codes have three digits. -/
structure HttpStatus where
  code : Nat
  lower : 100 ≤ code
  upper : code < 1000

/-- An answer over HTTP: its body, the JSON the body parses to, and what the
check of its signature finds wrong. -/
structure HttpResponse where
  status : HttpStatus
  body : Bytes
  json : Option Json
  signatureError : Option Bytes

/-- Why a client gives up before it sends anything, such as a missing key. -/
structure LocalFault where
  text : Bytes
  nonempty : text ≠ []

/-- What became of a request. -/
inductive Exchange where
  | unsent (fault : LocalFault)
  | timedOut
  | lost
  | answered (response : HttpResponse)

/-- jsoncpp's `toStyledString`; a JSON text starts with the first byte of its
value. -/
structure JsonWriter where
  toStyledString : Json → Bytes
  starts : ∀ value, ∃ first rest, toStyledString value = first :: rest ∧
    first ∈ ascii "\x7b[\"-0123456789tfn"

/-! ## WeChat -/

namespace WechatChannel

/-- The text of an answer that is not 2xx, of bounded length. -/
def httpFailureText (status : HttpStatus) (detail : Bytes) : Bytes :=
  let trimmed := if detail.length > 200 then detail.take 200 ++ ascii "..." else detail
  ascii "HTTP " ++ Decimal.natText status.code ++ ascii ": " ++
    (trimmed.reverse.dropWhile fun b => b = 10 || b = 13).reverse

/-- The code and message of an error envelope; `none` when reading them
throws. -/
def errorEnvelope (json : Option Json) : Option Bytes :=
  match json with
  | none => some []
  | some body => do return (← body.stringAt "code") ++ ascii " " ++ (← body.stringAt "message")

/-- The envelope says nothing. -/
def isBlank (detail : Bytes) : Bool := detail.isEmpty || detail = ascii " "

/-- From the exchange to the callback; `none` when an exception ends the
request without one. -/
def sendWechatRequest (timeoutMs : Nat) : Exchange → Option ChannelAnswer
  | .unsent fault => some ⟨.null, fault.text⟩
  | .timedOut =>
      some ⟨.null, ascii "http request timed out after " ++ Decimal.natText timeoutMs ++ ascii "ms"⟩
  | .lost => some ⟨.null, ascii "http request failed"⟩
  | .answered response =>
      match response.signatureError with
      | some verifyError =>
          some ⟨.null, ascii "response signature verification failed: " ++ verifyError⟩
      | none =>
          if response.status.code = 204 then some ⟨.obj [], []⟩
          else if response.status.code < 200 ∨ 300 ≤ response.status.code then do
            let detail ← errorEnvelope response.json
            let text := if isBlank detail then ascii "no error envelope" else detail
            return ⟨response.json.getD .null, httpFailureText response.status text⟩
          else
            match response.json with
            | none => some ⟨.null, ascii "invalid json response"⟩
            | some body => some ⟨body, []⟩

end WechatChannel

/-! ## Alipay -/

namespace AlipayChannel

/-- The member with the least name. -/
def firstMember (members : List (Bytes × Json)) : Option (Bytes × Json) :=
  members.foldl (fun first member =>
    match first with
    | none => some member
    | some least => if member.1 < least.1 then some member else some least) none

/-- The value of a body that is taken for the answer to a method: under its own
key, else under the first one that speaks of a response, else the body. -/
def responseOf (method : Bytes) (members : List (Bytes × Json)) : Json :=
  match Json.lookup members (ascii "alipay_" ++ method ++ ascii "_response") with
  | some response => response
  | none =>
      match firstMember (members.filter fun member => contains member.1 "response") with
      | some member => member.2
      | none => .obj members

/-- What a parsed body says: an `error_response`, or the answer to the method;
`none` when looking into it throws. -/
def readBody (method : Bytes) (root : Json) : Option (Except Json Json) :=
  match root with
  | .null => some (.ok .null)
  | .obj members =>
      match Json.lookup members (ascii "error_response") with
      | some problem => some (.error problem)
      | none => some (.ok (responseOf method members))
  | _ => none

/-- From the exchange to the callback; `none` when an exception ends the request
without one, as every fault before the request does. -/
def sendRequest (writer : JsonWriter) (method : Bytes) : Exchange → Option ChannelAnswer
  | .unsent _ => none
  | .timedOut | .lost =>
      some ⟨.null, writer.toStyledString
        (Json.object [("error", Json.text "No response from Alipay server")])⟩
  | .answered response =>
      if response.status.code ≠ 200 then
        some ⟨.null, writer.toStyledString (Json.object [("error",
          .str (ascii "HTTP status code: " ++ Decimal.natText response.status.code))])⟩
      else
        match response.json with
        | none =>
            some ⟨.null, writer.toStyledString (Json.object
              [("error", Json.text "Invalid response format"),
                ("raw_response", .str response.body)])⟩
        | some root => do
            match ← readBody method root with
            | .error problem => return ⟨.null, writer.toStyledString problem⟩
            | .ok result => return ⟨result, []⟩

end AlipayChannel

/-- The method of Alipay a call goes to. -/
def alipayMethod : ChannelCall → Bytes
  | .createQRPayment _ _ => ascii "alipay.trade.precreate"
  | .refund _ _ => ascii "alipay.trade.refund"
  | .queryPayment _ _ => ascii "alipay.trade.query"
  | .queryRefund _ _ => ascii "alipay.trade.fastpay.refund.query"
  | .closeOrder _ _ => ascii "alipay.trade.close"

def ChannelCall.channel : ChannelCall → Bytes
  | .createQRPayment channel _ | .refund channel _ | .queryPayment channel _
  | .queryRefund channel _ | .closeOrder channel _ => channel

/-- What the services hear of an exchange. -/
def channelAnswer (writer : JsonWriter) (timeoutMs : Nat) (call : ChannelCall) (x : Exchange) :
    Option ChannelAnswer :=
  if call.channel = ascii "alipay" then AlipayChannel.sendRequest writer (alipayMethod call) x
  else WechatChannel.sendWechatRequest timeoutMs x

end DrogonPay

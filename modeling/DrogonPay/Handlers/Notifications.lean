import DrogonPay.Channels.CertDownloads
import DrogonPay.Handlers.PayController
import DrogonPay.Services.Callback
import DrogonPay.Services.ReplayGuard

/-!
Contract: what a posted notification has to pass before a service books it
(`CallbackHandlers.cc`, and the head of the two handlers of `CallbackService.cc`).

Owns:
- the WeChat door: routing by event type, signature, freshness, envelope, sealed
  resource, merchant and notice, in their order and with their refusals;
- the Alipay door: the form, its signature and `app_id`;
- `Stop`, how a notification ends there, and `WechatOpened` and `AlipayOpened`, what
  a notification that is served has passed.

Does not own: JSON parsing, MD5 and URL decoding, which are parameters, or the
answer of Redis about a nonce.
-/

namespace DrogonPay

open CallbackService (Kind)

/-- A notification ends here, with an answer or an exception. -/
inductive Stop where
  | answered (status : Nat) (body : Json)
  | thrown

/-- The parts of other libraries the handlers call. -/
structure Toolbox where
  parseJson : Bytes → Option Json
  getMd5 : Bytes → Bytes
  urlDecode : Bytes → Bytes

namespace Stop

def require (holds : Bool) (stop : Stop) : Except Stop Unit :=
  if holds then .ok () else .error stop

def orThrown {α : Type} : Option α → Except Stop α
  | some value => .ok value
  | none => .error .thrown

def orStop {α : Type} (stop : Stop) : Option α → Except Stop α
  | some value => .ok value
  | none => .error stop

def orRefuse {α : Type} (refuse : Bytes → Stop) : Except Bytes α → Except Stop α
  | .ok value => .ok value
  | .error text => .error (refuse text)

@[simp] theorem require_ok {holds : Bool} {stop : Stop} {done : Unit} :
    require holds stop = .ok done ↔ holds = true := by
  cases holds <;> simp [require]

@[simp] theorem orThrown_ok {α : Type} {value : Option α} {read : α} :
    orThrown value = .ok read ↔ value = some read := by
  cases value <;> simp [orThrown]

@[simp] theorem orStop_ok {α : Type} {stop : Stop} {value : Option α} {read : α} :
    orStop stop value = .ok read ↔ value = some read := by
  cases value <;> simp [orStop]

@[simp] theorem orRefuse_ok {α : Type} {refuse : Bytes → Stop} {value : Except Bytes α}
    {read : α} : orRefuse refuse value = .ok read ↔ value = .ok read := by
  cases value <;> simp [orRefuse]

theorem bind_ok {α β : Type} {first : Except Stop α} {next : α → Except Stop β} {result : β} :
    (first >>= next) = .ok result ↔ ∃ value, first = .ok value ∧ next value = .ok result := by
  cases first with
  | error stop => simp [bind, Except.bind]
  | ok value => simp [bind, Except.bind]

theorem pure_ok {α : Type} {value result : α} :
    (pure value : Except Stop α) = .ok result ↔ value = result := by
  simp [pure, Except.pure]

end Stop

open Stop

/-! ## WeChat -/

namespace CallbackService

/-- What the WeChat handlers are built with. -/
structure WechatDoor where
  tools : Toolbox
  crypto : WechatChannel.Crypto
  settings : WechatChannel.CertSettings
  cfg : Config

def failWith (text : Bytes) : Stop :=
  .answered 500 (Json.object [("code", Json.text "FAIL"), ("message", .str text)])

def fail (text : String) : Stop := failWith (ascii text)

namespace Kind

def eventPrefix : Kind → String
  | payment => "TRANSACTION."
  | refund => "REFUND."

def associatedData : Kind → String
  | payment => "transaction"
  | refund => "refund"

/-- The checks of the decrypted object that precede its idempotency key; `none` when
reading it throws. -/
def noticeProblem (cfg : Config) (plain : Json) (kind : Kind) : Option (Option String) := do
  let appId ← plain.stringAt "appid"
  let mchId ← plain.stringAt "mchid"
  match identityProblem cfg appId mchId with
  | some problem => return some problem
  | none =>
      match kind with
      | payment =>
          return paymentNoticeProblem (PaymentNotice.mk (← plain.stringAt "out_trade_no")
            (← plain.stringAt "transaction_id") (← plain.stringAt "trade_state"))
      | refund =>
          return refundNoticeProblem (RefundNotice.mk (← plain.stringAt "out_refund_no")
            (← plain.stringAt "refund_status") (← plain.stringAt "refund_id"))

def request (ownerToken : Drawn) (notification : Notification) : Kind → Request
  | payment => .paymentNotification notification ownerToken
  | refund => .refundNotification notification ownerToken

end Kind

/-- The sealed resource of an envelope, opened and parsed. -/
def openResource (door : WechatDoor) (kind : Kind) (notifyJson : Json) : Except Stop Json := do
  let eventType ← orThrown (notifyJson.stringAt "event_type")
  require (!eventType.isEmpty) (fail "missing event_type")
  require (startsWith eventType kind.eventPrefix)
    (fail (match kind with
      | .payment => "invalid transaction event_type"
      | .refund => "invalid refund event_type"))
  require (notifyJson.isMember (ascii "resource")) (fail "missing resource")
  let resource ← orThrown (notifyJson.at? (ascii "resource"))
  let resourceType ← orThrown (notifyJson.stringAt "resource_type")
  require (resourceType = ascii "encrypt-resource") (fail "unsupported resource_type")
  let algorithm ← orThrown (resource.stringAt "algorithm")
  require (algorithm = ascii "AEAD_AES_256_GCM") (fail "unsupported resource algorithm")
  let ciphertext ← orThrown (resource.stringAt "ciphertext")
  let nonceStr ← orThrown (resource.stringAt "nonce")
  let associatedData ← orThrown (resource.stringAt "associated_data")
  require (!ciphertext.isEmpty && !nonceStr.isEmpty) (fail "invalid resource")
  require (associatedData = ascii kind.associatedData)
    (fail (match kind with
      | .payment => "invalid transaction associated_data"
      | .refund => "invalid refund associated_data"))
  let plaintext ← orRefuse failWith
    (WechatChannel.decryptResource door.crypto door.settings.apiV3Key ciphertext nonceStr
      associatedData)
  orStop (fail "invalid resource json") (door.tools.parseJson plaintext)

/-- The head of `handlePaymentCallback` and `handleRefundCallback`: what is served, or
where the delivery ends. `firstSight` is what Redis says of the nonce. -/
def receive (door : WechatDoor) (kind : Kind) (client : WechatChannel.Client)
    (post : WechatChannel.Post) (clock : Nat) (firstSight : Bool) (ownerToken : Drawn) :
    Except Stop Request := do
  require door.cfg.wechatReady (fail "wechat client not ready")
  require (WechatChannel.verifyCallback door.crypto client post (secondsOf clock)).isNone
    (fail "signature verification failed")
  require (isTimestampFresh clock post.timestamp).isNone
    (fail ((isTimestampFresh clock post.timestamp).getD ""))
  let notifyJson ← orStop (fail "invalid json") (door.tools.parseJson post.body)
  let plain ← openResource door kind notifyJson
  let problem ← orThrown (kind.noticeProblem door.cfg plain)
  require problem.isNone (fail (problem.getD ""))
  let id ← orThrown (notifyJson.stringAt "id")
  require firstSight (fail "replay detected")
  return kind.request ownerToken ⟨id, plain, door.tools.getMd5 post.body⟩

def handlePaymentPost (door : WechatDoor) := receive door .payment

def handleRefundPost (door : WechatDoor) := receive door .refund

end CallbackService

namespace WechatCallbackController

open CallbackService

def respondBad (code : Int) (message : Bytes) : Stop :=
  .answered 400 (Json.object [("code", .int code), ("message", .str message)])

/-- The notify endpoint, up to the service; `available` tells whether the process has
a callback service. -/
def notify (door : WechatDoor) (available : Bool) (client : WechatChannel.Client)
    (post : WechatChannel.Post) (clock : Nat) (firstSight : Bool) (ownerToken : Drawn) :
    Except Stop Request := do
  let bodyJson ← orStop (respondBad 40002 (ascii "Invalid JSON body"))
    (door.tools.parseJson post.body)
  let member ← orThrown (bodyJson.at? (ascii "event_type"))
  require (bodyJson.isMember (ascii "event_type"))
    (respondBad 40003 (ascii "Missing event_type"))
  require member.isString (respondBad 40003 (ascii "Missing event_type"))
  let eventType ← orThrown member.asString
  require (eventType = ascii "TRANSACTION.SUCCESS" || contains eventType "REFUND")
    (respondBad 40004 (ascii "Unknown event_type: " ++ eventType))
  require available (.answered 503 (Json.object [("code", .int 1501),
    ("message", Json.text "Callback service is not available in this process")]))
  if contains eventType "REFUND" then
    handleRefundPost door client post clock firstSight ownerToken
  else handlePaymentPost door client post clock firstSight ownerToken

end WechatCallbackController

namespace CallbackService

/-- The envelope holds this object, sealed with the API key for its kind. -/
def SealedIn (door : WechatDoor) (kind : Kind) (notifyJson plain : Json) : Prop :=
  ∃ resource ciphertext nonceStr plaintext,
    notifyJson.at? (ascii "resource") = some resource ∧
    resource.stringAt "ciphertext" = some ciphertext ∧ resource.stringAt "nonce" = some nonceStr ∧
    WechatChannel.Sealed door.crypto door.settings.apiV3Key ciphertext nonceStr
      (ascii kind.associatedData) plaintext ∧
    door.tools.parseJson plaintext = some plain

/-- What a post that is served has passed, and what it is served as. -/
structure WechatOpened (door : WechatDoor) (kind : Kind) (client : WechatChannel.Client)
    (post : WechatChannel.Post) (clock : Nat) (notification : Notification) : Prop where
  verified : WechatChannel.verifyCallback door.crypto client post (secondsOf clock) = none
  fresh : isTimestampFresh clock post.timestamp = none
  envelope : ∃ notifyJson, door.tools.parseJson post.body = some notifyJson ∧
    notifyJson.stringAt "id" = some notification.id ∧
    SealedIn door kind notifyJson notification.plain
  merchant : kind.noticeProblem door.cfg notification.plain = some none
  bodyHash : notification.bodyHash = door.tools.getMd5 post.body

variable {door : WechatDoor} {kind : Kind} {client : WechatChannel.Client}
  {post : WechatChannel.Post} {clock : Nat} {firstSight : Bool} {ownerToken : Drawn}
  {request : Request}

theorem sealed_of_opened {notifyJson plain : Json}
    (opened : openResource door kind notifyJson = .ok plain) :
    SealedIn door kind notifyJson plain := by
  simp only [openResource, bind_ok, require_ok, orThrown_ok, orStop_ok, orRefuse_ok,
    decide_eq_true_eq] at opened
  obtain ⟨_, _, _, _, _, _, _, _, resource, isResource, _, _, _, _, _, _, _, _, ciphertext,
    isCiphertext, nonceStr, isNonce, _, _, _, _, _, rfl, plaintext, decrypted, parsed⟩ := opened
  exact ⟨resource, ciphertext, nonceStr, plaintext, isResource, isCiphertext, isNonce,
    WechatChannel.sealed_of_decrypted decrypted, parsed⟩

theorem opened_of_received
    (served : receive door kind client post clock firstSight ownerToken = .ok request) :
    ∃ notification, request = kind.request ownerToken notification ∧
      WechatOpened door kind client post clock notification := by
  simp only [receive, bind_ok, pure_ok, require_ok, orThrown_ok, orStop_ok,
    Option.isNone_iff_eq_none] at served
  obtain ⟨_, _, _, verified, _, fresh, notifyJson, parsed, plain, opened, problem, notice, _, rfl,
    id, isId, _, _, rfl⟩ := served
  exact ⟨_, rfl, verified, fresh, ⟨notifyJson, parsed, isId, sealed_of_opened opened⟩, notice, rfl⟩

end CallbackService

theorem WechatCallbackController.opened_of_notified {door : CallbackService.WechatDoor}
    {available : Bool} {client : WechatChannel.Client} {post : WechatChannel.Post} {clock : Nat}
    {firstSight : Bool} {ownerToken : Drawn} {request : Request}
    (served : notify door available client post clock firstSight ownerToken = .ok request) :
    ∃ kind notification, request = kind.request ownerToken notification ∧
      CallbackService.WechatOpened door kind client post clock notification := by
  simp only [notify, bind_ok] at served
  obtain ⟨_, _, _, _, _, _, _, _, _, _, _, _, _, _, served⟩ := served
  split at served
  · exact ⟨_, CallbackService.opened_of_received served⟩
  · exact ⟨_, CallbackService.opened_of_received served⟩

/-! ## Alipay -/

namespace AlipayCallbackController

open AlipayChannel (AlipayClient formMarks)

/-- What the Alipay handler is built with; without a client it refuses everything. -/
structure AlipayDoor where
  tools : Toolbox
  alipayClient : Option AlipayClient
  paymentService : Bool

/-- A plus sign is a blank, before triplets are decoded. -/
def decodeValue (urlDecode : Bytes → Bytes) (value : Bytes) : Bytes :=
  urlDecode (value.map fun b => if b = 43 then 32 else b)

/-- The parameters of a form. Names are kept as they are. -/
def parseForm (urlDecode : Bytes → Bytes) (body : Bytes) : Form.Values UInt8 :=
  Form.gather ((Form.read formMarks body).map fun pair => (pair.1, decodeValue urlDecode pair.2))

def reject (text : String) : Stop :=
  .answered 200 (Json.object [("code", Json.text "FAIL"), ("message", Json.text text)])

/-- What the sync is called with. -/
def requestOf (params : Form.Values UInt8) : Request :=
  .alipayNotification (Form.valueOf params (ascii "trade_no"))
    (Form.valueOf params (ascii "out_trade_no")) (Form.valueOf params (ascii "trade_status"))
    (Form.valueOf params (ascii "total_amount"))

def notify (door : AlipayDoor) (body : Bytes) : Except Stop Request := do
  let params := parseForm door.tools.urlDecode body
  let alipayClient ← orStop (reject "Alipay client not configured") door.alipayClient
  require (AlipayChannel.verifyCallback alipayClient params (Form.valueOf params (ascii "sign")))
    (reject "signature verification failed")
  require (alipayClient.appId.isEmpty || Form.valueOf params (ascii "app_id") = alipayClient.appId)
    (reject "app_id mismatch")
  require door.paymentService (reject "Payment service not available in this process")
  return requestOf params

/-- What a form that is served has passed, and what it is served as. -/
structure AlipayOpened (door : AlipayDoor) (body : Bytes) (request : Request) : Prop where
  signed : ∃ alipayClient, door.alipayClient = some alipayClient ∧
    alipayClient.verify (AlipayChannel.signedContent (parseForm door.tools.urlDecode body))
      (Form.valueOf (parseForm door.tools.urlDecode body) (ascii "sign")) = true ∧
    (alipayClient.appId = [] ∨
      Form.valueOf (parseForm door.tools.urlDecode body) (ascii "app_id") = alipayClient.appId)
  request : request = requestOf (parseForm door.tools.urlDecode body)

theorem notify_ok {door : AlipayDoor} {body : Bytes} {request : Request} :
    notify door body = .ok request ↔
      AlipayOpened door body request ∧ door.paymentService = true := by
  simp only [notify, bind_ok, pure_ok, require_ok, orStop_ok, Bool.or_eq_true,
    List.isEmpty_iff, decide_eq_true_eq]
  constructor
  · rintro ⟨alipayClient, isClient, _, verified, _, own, _, available, rfl⟩
    exact ⟨⟨⟨alipayClient, isClient, verified, own⟩, rfl⟩, available⟩
  · rintro ⟨⟨⟨alipayClient, isClient, verified, own⟩, rfl⟩, available⟩
    exact ⟨alipayClient, isClient, (), verified, (), own, (), available, rfl⟩

end AlipayCallbackController
end DrogonPay

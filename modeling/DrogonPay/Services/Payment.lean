import DrogonPay.Services.Idempotency

/-!
Contract: the create paths of `PaymentService.cc`.

Owns: `createPayment` with `proceedCreatePayment` and `bookRefusedAttempt`, and
`createQRPayment` with the lambdas it is built from, under their names.

Does not own: the query and reconcile doors, or the payload columns.
-/

namespace DrogonPay

open ReadCommitted

/-- `text.rfind(start, 0) == 0`. -/
def startsWith (text : Bytes) (start : String) : Bool := (ascii start).isPrefixOf text

/-- `text.find(part) != npos`. -/
def contains (text : Bytes) (part : String) : Bool :=
  text.tails.any fun rest => startsWith rest part

namespace PaymentService

/-! ## Channel results -/

def kNoPayableCode : Bytes := ascii "WeChat response carries neither code_url nor prepay_id"

/-- The value of a member if it is a non-empty string. -/
def payableText (result : Json) (key : String) : Option Bool := do
  let value ← result.get (ascii key) (.str [])
  return match value with
    | .str s => !s.isEmpty
    | _ => false

/-- The error a clean channel answer still carries; empty when it describes an
accepted transaction, `none` when reading it throws. -/
def channelResultError (channel : Bytes) (result : Json) : Option Bytes :=
  if channel = ascii "alipay" then do
    let code ← result.stringAt "code"
    if code = ascii "10000" then return []
    let subMsg ← result.stringAt "sub_msg"
    let detail ← if subMsg.isEmpty then result.stringAt "msg" else some subMsg
    return if detail.isEmpty then ascii "Alipay error: code " ++ code
      else ascii "Alipay error: " ++ detail
  else if channel = ascii "wechat" then do
    let codeUrl ← payableText result "code_url"
    let prepayId ← payableText result "prepay_id"
    if codeUrl || prepayId then return []
    let code ← result.stringAt "code"
    if code.isEmpty then return kNoPayableCode
    let detail ← result.stringAt "message"
    return ascii "WeChat error: " ++ code ++ ascii " " ++ detail
  else some []

def attemptCertainlyNotCreated (failure : Bytes) : Bool :=
  if startsWith failure "Alipay error: " || startsWith failure "WeChat error: " then true
  else if startsWith failure "HTTP 4" && !contains failure "no error envelope" then true
  else if failure = kNoPayableCode then false
  else
    !(startsWith failure "HTTP " || startsWith failure "http request" ||
      failure = ascii "invalid json response")

def normalizeQrCurrency (currency : Bytes) : Option Bytes :=
  if currency.length ≠ 3 then none
  else
    currency.mapM fun c =>
      if 65 ≤ c && c ≤ 90 then some c
      else if 97 ≤ c && c ≤ 122 then some (c - 32)
      else none

/-! ## createPayment -/

/-- The payment row to FAIL, then its order to FAILED, each by primary key;
`finish` runs at every end. -/
def bookRefusedAttempt (paymentNo orderNo : Bytes) (finish : PayProg) : PayProg :=
  .sql .db (.findPayment paymentNo) fun
    | some (some _) =>
        .sql .db (.failPayment paymentNo) fun
          | some _ =>
              .sql .db (.findOrder orderNo) fun
                | some (some _) => .sql .db (.updateOrder orderNo .FAILED) fun _ => finish
                | _ => finish
          | none => finish
    | _ => finish

/-- The fen of an amount as Alipay's yuan text. -/
def totalAmountYuan (totalFen : Nat) : Bytes :=
  Decimal.natText (totalFen / 100) ++ ascii "." ++
    (if totalFen % 100 < 10 then ascii "0" else []) ++ Decimal.natText (totalFen % 100)

def optional (key : String) (value : Bytes) : List (String × Json) :=
  if value.isEmpty then [] else [(key, .str value)]

def createPayload (cfg : Config) (request : CreatePaymentRequest) (totalFen : Nat) : Json :=
  if request.channel = ascii "alipay" then
    Json.object ([("total_amount", .str (totalAmountYuan totalFen)),
      ("subject", .str request.description), ("out_trade_no", .str request.orderNo)] ++
      optional "buyer_id" cfg.sandboxBuyerId ++ optional "notify_url" request.notifyUrl)
  else
    Json.object ([("description", .str request.description),
      ("out_trade_no", .str request.orderNo),
      ("amount", Json.object [("total", .int totalFen), ("currency", .str request.currency)])] ++
      optional "notify_url" request.notifyUrl ++
      (if request.sceneInfo.isNull then [] else [("scene_info", request.sceneInfo)]) ++
      optional "time_expire" request.timeExpire ++ optional "attach" request.attach)

/-- The deadline an order row records. -/
def expireAtOf (cfg : Config) (timeExpire : Bytes) : Option Int :=
  if timeExpire.isEmpty then none else cfg.parseRfc3339 timeExpire

def dbError (code : Nat) : Reply :=
  ⟨message code (ascii "Database error: "), some (.pay code)⟩

/-- The `data` of an accepted create; `none` when reading the result throws. -/
def createData (request : CreatePaymentRequest) (paymentNo : Bytes) (result : Json) :
    Option Json := do
  let base := [("order_no", Json.str request.orderNo), ("payment_no", .str paymentNo),
    ("status", Json.text "PAYING")]
  if request.channel = ascii "alipay" then
    let qrCode ← result.stringAt "qr_code"
    return Json.object (base ++ [("alipay_response", result)] ++ optional "qr_code" qrCode)
  else
    let codeUrl ← result.stringAt "code_url"
    let prepayId ← result.stringAt "prepay_id"
    return Json.object (base ++ [("wechat_response", result)] ++ optional "code_url" codeUrl ++
      optional "prepay_id" prepayId)

/-- Answer a create the channel accepted. -/
def answerCreated (request : CreatePaymentRequest) (paymentNo : Bytes) (result : Json)
    (callback : Reply → PayProg) : PayProg :=
  orThrow (createData request paymentNo result) fun data =>
    callback ⟨Json.object [("code", .int 0),
      ("message", Json.text "Payment created successfully"), ("data", data)], none⟩

/-- What the channel said about the attempt a create booked. -/
def onCreateAnswer (request : CreatePaymentRequest) (paymentNo : Bytes)
    (callback : Reply → PayProg) (result : Json) (transportError : Bytes) : PayProg :=
  orThrow (if transportError.isEmpty then channelResultError request.channel result
      else some transportError) fun error =>
    if error.isEmpty then
      .sql .db (.casPayment paymentNo .PROCESSING none) fun
        | none => callback (dbError 1003)
        | some false => answerCreated request paymentNo result callback
        | some true =>
            .sql .db (.promoteOrder request.orderNo) fun _ =>
              answerCreated request paymentNo result callback
    else
      let channelName := if request.channel = ascii "alipay" then ascii "Alipay"
        else ascii "WeChat Pay"
      let refused :=
        callback ⟨message 1002 (channelName ++ ascii " error: " ++ error), some (.pay 1002)⟩
      if attemptCertainlyNotCreated error then bookRefusedAttempt paymentNo request.orderNo refused
      else refused

def proceedCreatePayment (cfg : Config) (request : CreatePaymentRequest) (paymentNo : Bytes)
    (totalFen : Nat) (callback : Reply → PayProg) : PayProg :=
  .start fun
    | false => callback ⟨message 1003 (ascii "Transaction unavailable"), some (.pay 1003)⟩
    | true =>
        .sql .txn (.insertOrder ⟨request.orderNo, request.userId, request.amount,
            request.currency, request.channel, request.description,
            expireAtOf cfg request.timeExpire⟩) fun
          | none => .rollback (callback (dbError 1003))
          | some _ =>
              .sql .txn (.insertPayment ⟨paymentNo, request.orderNo, request.amount⟩) fun
                | none => .rollback (callback (dbError 1003))
                | some _ =>
                    .commit fun
                      | false =>
                          callback ⟨message 1003 (ascii "Failed to commit transaction: "),
                            some (.pay 1003)⟩
                      | true =>
                          if cfg.channels request.channel then
                            .call (.createQRPayment request.channel
                                (createPayload cfg request totalFen)) fun a =>
                              onCreateAnswer request paymentNo callback a.result a.error
                          else
                            onCreateAnswer request paymentNo callback .null
                              (ascii "CHANNEL_NOT_AVAILABLE: " ++ request.channel)

/-- Why a create request is refused after its key was reserved. -/
def createProblem (cfg : Config) (request : CreatePaymentRequest) (now : Nat) : Option Bytes :=
  (cfg.validateNotifyUrl request.notifyUrl).or
    ((if request.timeExpire.isEmpty then none
      else cfg.validateTimeExpire request.timeExpire request.channel now).or
    (if request.channel = ascii "wechat" then
      cfg.validateWechatOrderFields request.orderNo request.description request.attach
    else none))

/-- Store a successful answer, release the key of a failed one. -/
def wrappedCreateCallback (idempotencyKey requestHash : Bytes) (reply : Reply) : PayProg :=
  if !idempotencyKey.isEmpty && reply.error.isNone && reply.body.isMember (ascii "data") then
    IdempotencyService.storeThenAnswer idempotencyKey requestHash reply
  else if !idempotencyKey.isEmpty && reply.error.isSome then
    IdempotencyService.clearReservation idempotencyKey requestHash fun _ =>
      answer reply.body reply.error
  else answer reply.body reply.error

def createHash (cfg : Config) (request : CreatePaymentRequest) : Bytes :=
  cfg.digest (Json.object [("amount", .str request.amount), ("currency", .str request.currency),
    ("description", .str request.description), ("order_no", .str request.orderNo)])

def invalidCreate (idempotencyKey requestHash problem : Bytes) : PayProg :=
  IdempotencyService.clearReservation idempotencyKey requestHash fun _ =>
    answer (message 1001 problem) (some (.pay 1001))

/-- What a request is told whose key it does not hold. -/
def answerUnstarted : IdempotencyService.CheckResult → PayProg
  | .Conflict =>
      answer (message 1004 (ascii "Idempotency conflict: different parameters for same key"))
        (some (.pay 1004))
  | .InProgress =>
      answer (message 1004 (ascii "Idempotency request is already in progress"))
        (some (.pay 1004))
  | .Error => answer (message 1003 (ascii "Idempotency check failed")) (some (.pay 1003))
  | .Replay cachedResult => answer cachedResult none
  | .Started => .done

def createPayment (cfg : Config) (request : CreatePaymentRequest)
    (idempotencyKey paymentNo : Bytes) (now : Nat) : PayProg :=
  let requestHash := createHash cfg request
  IdempotencyService.checkDatabase cfg idempotencyKey requestHash fun
    | .Started =>
        match PayUtils.parseAmountToFen request.amount with
        | none => invalidCreate idempotencyKey requestHash (ascii "Invalid amount format")
        | some totalFen =>
            match createProblem cfg request now with
            | some problem => invalidCreate idempotencyKey requestHash problem
            | none =>
                proceedCreatePayment cfg request paymentNo totalFen
                  (wrappedCreateCallback idempotencyKey requestHash)
    | refused => answerUnstarted refused

/-! ## createQRPayment -/

/-- The fields of a QR request that decide its booking. -/
structure QrRequest where
  orderNo : Bytes
  amount : Bytes
  channel : Bytes
  subject : Bytes
  timeExpire : Bytes
  userId : Int
  requestedCurrency : Bytes
  idempotencyKey : Bytes
  notifyUrl : Bytes
  buyerId : Bytes
  hasBuyerId : Bool

/-- `request.get(key, fallback).asString()`. -/
def stringOr (request : Json) (key : String) (fallback : Bytes) : Option Bytes := do
  (← request.get (ascii key) (.str fallback)).asString

/-- The owner of a QR order; anything but a 64-bit integer counts as 0. -/
def qrUserId (request : Json) : Option Int := do
  let value ← request.get (ascii "user_id") .null
  if value.isInt64 then value.asInt64 else some 0

/-- The order number and the amount; the other texts of the first reads can
throw, too. -/
def readQrHead (request : Json) : Option (Bytes × Bytes) := do
  let orderNo ← stringOr request "order_no" []
  let amount ← stringOr request "amount" []
  let _ ← stringOr request "channel" (ascii "alipay")
  let _ ← stringOr request "subject" (ascii "Payment")
  let _ ← stringOr request "time_expire" []
  return (orderNo, amount)

def readQrRequest (request : Json) : Option QrRequest := do
  let orderNo ← stringOr request "order_no" []
  let amount ← stringOr request "amount" []
  let channel ← stringOr request "channel" (ascii "alipay")
  let subject ← stringOr request "subject" (ascii "Payment")
  let timeExpire ← stringOr request "time_expire" []
  let userId ← qrUserId request
  let requestedCurrency ←
    if channel = ascii "wechat" then stringOr request "currency" (ascii "CNY")
    else some (ascii "CNY")
  let idempotencyKey ← stringOr request "idempotency_key"
    (ascii "QR_" ++ orderNo ++ ascii "_" ++ channel)
  let notifyUrl ← stringOr request "notify_url" []
  let buyerId ← stringOr request "buyer_id" []
  return ⟨orderNo, amount, channel, subject, timeExpire, userId, requestedCurrency,
    idempotencyKey, notifyUrl, buyerId, request.isMember (ascii "buyer_id")⟩

def qrHash (cfg : Config) (qr : QrRequest) : Bytes :=
  cfg.digest (Json.object [("amount", .str qr.amount), ("buyer_id", .str qr.buyerId),
    ("channel", .str qr.channel),
    ("currency", .str ((normalizeQrCurrency qr.requestedCurrency).getD qr.requestedCurrency)),
    ("notify_url", .str qr.notifyUrl), ("order_no", .str qr.orderNo),
    ("subject", .str qr.subject), ("time_expire", .str qr.timeExpire),
    ("user_id", .int qr.userId)])

/-- Why a QR request is refused once its key is reserved and its currency is
known. -/
def qrProblem (cfg : Config) (qr : QrRequest) (now : Nat) : Option Bytes :=
  (if qr.timeExpire.isEmpty then none
    else cfg.validateTimeExpire qr.timeExpire qr.channel now).or
  (if qr.channel = ascii "wechat" then
    if (PayUtils.parseAmountToFen qr.amount).all (· = 0) then
      some (ascii "Invalid amount for WeChat native payment")
    else
      (cfg.validateWechatOrderFields qr.orderNo qr.subject []).or
        (if qr.notifyUrl.isEmpty then none else cfg.validateNotifyUrl qr.notifyUrl)
  else none)

def qrPayload (qr : QrRequest) (currency : Bytes) : Json :=
  if qr.channel = ascii "wechat" then
    Json.object ([("out_trade_no", .str qr.orderNo), ("description", .str qr.subject),
      ("amount", Json.object [("total", .int (PayUtils.fenOf qr.amount)),
        ("currency", .str currency)])] ++
      optional "notify_url" qr.notifyUrl ++ optional "time_expire" qr.timeExpire)
  else
    Json.object ([("out_trade_no", .str qr.orderNo), ("total_amount", .str qr.amount),
      ("subject", .str qr.subject)] ++
      (if qr.hasBuyerId then [("buyer_id", .str qr.buyerId)] else []))

/-- Release the key, then answer the refusal. -/
def failQr (qr : QrRequest) (requestHash : Bytes) (code : Nat) (text : Bytes) (extra : Json) :
    PayProg :=
  IdempotencyService.clearReservation qr.idempotencyKey requestHash fun _ =>
    answer ((extra.withMember "code" (.int code)).withMember "message" (.str text))
      (some (if 400 ≤ code ∧ code < 500 then .pay code else .ioError))

def respondQr (qr : QrRequest) (requestHash : Bytes) (data : Json) : PayProg :=
  IdempotencyService.storeThenAnswer qr.idempotencyKey requestHash
    ⟨Json.object [("code", .int 0), ("message", Json.text "QR code created successfully"),
      ("data", data)], none⟩

/-- Payment to PROCESSING, then order to PAYING, both guarded; the code is
answered either way. -/
def promoteQrRows (qr : QrRequest) (requestHash paymentNo : Bytes) (data : Json) : PayProg :=
  .sql .db (.casPayment paymentNo .PROCESSING none) fun
    | some true =>
        .sql .db (.promoteOrder qr.orderNo) fun _ => respondQr qr requestHash data
    | _ => respondQr qr requestHash data

/-- Close the attempt this request booked, if it is still open. -/
def markQrPaymentFailed (paymentNo : Bytes) (afterClose : PayProg) : PayProg :=
  .sql .db (.casPayment paymentNo .FAIL none) fun _ => afterClose

/-- The `data` of an accepted QR offer. -/
def qrData (qr : QrRequest) (result : Json) : Option Json := do
  if qr.channel = ascii "wechat" then
    let codeUrl ← result.stringAt "code_url"
    return Json.object [("order_no", .str qr.orderNo), ("code_url", .str codeUrl)]
  else
    let member (key : String) : Option (List (String × Json)) :=
      if result.isMember (ascii key) then do return [(key, .str (← result.stringAt key))]
      else some []
    let qrCode ← member "qr_code"
    let outTradeNo ← member "out_trade_no"
    return Json.object ([("order_no", .str qr.orderNo)] ++ qrCode ++ outTradeNo)

/-- The channel's own code fields. -/
def qrExtra (qr : QrRequest) (result : Json) : Option Json := do
  let code ← result.stringAt "code"
  if qr.channel = ascii "alipay" then
    let subCode ← result.stringAt "sub_code"
    return Json.object [("alipay_code", .str code), ("alipay_sub_code", .str subCode)]
  else return Json.object [("wechat_code", .str code)]

/-- Refuse the offer, closing the attempt only when the channel provably
refused it. -/
def refuseQrOffer (qr : QrRequest) (requestHash paymentNo failure text : Bytes) (extra : Json) :
    PayProg :=
  if attemptCertainlyNotCreated failure then
    markQrPaymentFailed paymentNo (failQr qr requestHash 500 text extra)
  else failQr qr requestHash 500 text extra

def offerQrChannel (qr : QrRequest) (requestHash paymentNo : Bytes) (payload : Json) : PayProg :=
  .call (.createQRPayment qr.channel payload) fun a =>
    if !a.error.isEmpty then
      refuseQrOffer qr requestHash paymentNo a.error
        (ascii "QR payment creation failed: " ++ a.error) .null
    else
      orThrow (channelResultError qr.channel a.result) fun resultError =>
        if resultError.isEmpty then
          orThrow (qrData qr a.result) fun data => promoteQrRows qr requestHash paymentNo data
        else
          orThrow (qrExtra qr a.result) fun extra =>
            refuseQrOffer qr requestHash paymentNo resultError resultError extra

def bookQrPayment (qr : QrRequest) (requestHash paymentNo : Bytes) (payload : Json) : PayProg :=
  .sql .db (.insertPayment ⟨paymentNo, qr.orderNo, qr.amount⟩) fun
    | some _ => offerQrChannel qr requestHash paymentNo payload
    | none => failQr qr requestHash 500 (ascii "Failed to book the QR payment: ") .null

def insertQrOrder (cfg : Config) (qr : QrRequest) (requestHash paymentNo currency : Bytes)
    (payload : Json) : PayProg :=
  .sql .db (.insertOrder ⟨qr.orderNo, qr.userId, qr.amount, currency, qr.channel, qr.subject,
      expireAtOf cfg qr.timeExpire⟩) fun
    | some _ => bookQrPayment qr requestHash paymentNo payload
    | none => failQr qr requestHash 500 (ascii "Failed to book the QR order: ") .null

def refuseIfAlreadySettled (qr : QrRequest) (requestHash paymentNo : Bytes) (payload : Json) :
    PayProg :=
  .sql .db (.settledAttempts qr.orderNo) fun
    | some [] => bookQrPayment qr requestHash paymentNo payload
    | some ((settled : PaymentRow) :: _) =>
        failQr qr requestHash 400 (ascii "Order " ++ qr.orderNo ++
          ascii " already has a settled payment (" ++ settled.status.text ++ ascii ")") .null
    | none =>
        failQr qr requestHash 500 (ascii "Failed to read the QR order's payment attempts: ") .null

/-- Two amounts are one charge: as money where both parse, else as texts. -/
def sameAmount (booked requested : Bytes) : Bool :=
  match PayUtils.parseAmountToFen booked, PayUtils.parseAmountToFen requested with
  | some bookedFen, some requestedFen => bookedFen = requestedFen
  | _, _ => booked = requested

/-- Why an existing order may not be offered again for this request. -/
def reuseProblem (qr : QrRequest) (currency : Bytes) (existing : OrderRow) : Option Bytes :=
  let order := ascii "Order " ++ qr.orderNo
  if existing.status = .PAID ∨ existing.status = .REFUNDED then
    some (order ++ ascii " is already " ++ existing.status.text ++
      ascii " and cannot be offered again")
  else if !sameAmount existing.amount qr.amount then
    some (order ++ ascii " exists with amount " ++ existing.amount)
  else if existing.currency ≠ currency then
    some (order ++ ascii " exists with currency " ++ existing.currency)
  else if existing.channel ≠ qr.channel then
    some (order ++ ascii " belongs to channel " ++ existing.channel)
  else if existing.userId ≠ qr.userId then some (order ++ ascii " belongs to another user")
  else none

/-- Reuse the order of an earlier attempt, or book a new one. -/
def bookQr (cfg : Config) (qr : QrRequest) (requestHash paymentNo currency : Bytes)
    (payload : Json) : PayProg :=
  .sql .db (.findOrder qr.orderNo) fun
    | some none => insertQrOrder cfg qr requestHash paymentNo currency payload
    | some (some existing) =>
        match reuseProblem qr currency existing with
        | some problem => failQr qr requestHash 400 problem .null
        | none => refuseIfAlreadySettled qr requestHash paymentNo payload
    | none => failQr qr requestHash 500 (ascii "Failed to read the QR order: ") .null

/-- Refuse a QR request and release its key without waiting for that. -/
def refuseQr (qr : QrRequest) (requestHash : Bytes) (code : Nat) (text : Bytes) : PayProg :=
  .fork (IdempotencyService.clearReservation qr.idempotencyKey requestHash fun _ => .done)
    (answer (message code text) (some (.pay code)))

def proceedQr (cfg : Config) (qr : QrRequest) (requestHash paymentNo : Bytes) (now : Nat) :
    PayProg :=
  match normalizeQrCurrency qr.requestedCurrency with
  | none =>
      refuseQr qr requestHash 400
        (ascii "Invalid currency: expected a three-letter ISO-4217 code")
  | some currency =>
      match qrProblem cfg qr now with
      | some problem => refuseQr qr requestHash 400 problem
      | none =>
          if cfg.channels qr.channel then
            bookQr cfg qr requestHash paymentNo currency (qrPayload qr currency)
          else
            refuseQr qr requestHash 1005 (ascii "CHANNEL_NOT_AVAILABLE: " ++ qr.channel)

def createQRPayment (cfg : Config) (request : Json) (paymentNo : Bytes) (now : Nat) : PayProg :=
  orThrow (readQrHead request) fun (orderNo, amount) =>
    if orderNo.isEmpty || amount.isEmpty then
      answer (message 400 (ascii "Missing required parameters: order_no, amount"))
        (some (.pay 400))
    else
      orThrow (qrUserId request) fun userId =>
        if userId ≤ 0 then
          answer (message 400 (ascii "Missing or invalid user_id")) (some (.pay 400))
        else
          orThrow (readQrRequest request) fun qr =>
            IdempotencyService.checkDatabase cfg qr.idempotencyKey (qrHash cfg qr) fun
              | .Started => proceedQr cfg qr (qrHash cfg qr) paymentNo now
              | refused => answerUnstarted refused

end PaymentService
end DrogonPay

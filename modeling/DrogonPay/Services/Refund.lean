import DrogonPay.Services.OrderSync

/-!
Contract: `RefundService.cc`.

Owns: `createRefund` with the chain of checks that leads to the booking
transaction, the channel call and its two row updates, `queryRefund`, and
`syncRefundStatusFromWechat`.

Does not own: the refund notification. The once-only wrapper around a sync's
callback is not modelled: a log may hold a second report of the same sync, and
the first one is the one the caller sees.
-/

namespace DrogonPay

open ReadCommitted

namespace RefundService

def refundError (code : Nat) (text : Bytes) : Reply :=
  ⟨message code text, some (.system code)⟩

def dbError : Reply := refundError 1500 (ascii "Database error: ")

/-- Only a refund that certainly did not happen may be booked terminal. -/
def refundCertainlyDidNotHappen (error : Bytes) : Bool :=
  if startsWith error "HTTP 4" && !contains error "no error envelope" then true
  else
    !(startsWith error "HTTP " || startsWith error "http request" ||
      error = ascii "invalid json response" ||
      startsWith error "response signature verification failed")

/-- What a refund in the making carries through its checks. -/
structure RefundCase where
  request : CreateRefundRequest
  refundNo : Bytes
  paymentNo : Bytes
  refundFen : Nat
  totalFen : Nat
  currency : Bytes

namespace RefundCase

def orderNo (c : RefundCase) : Bytes := c.request.orderNo

def amount (c : RefundCase) : Bytes := c.request.amount

end RefundCase

/-- The members every refund answer starts with. -/
def refundData (c : RefundCase) (amountKey status : String) : List (String × Json) :=
  [("refund_no", .str c.refundNo), ("order_no", .str c.orderNo), ("payment_no", .str c.paymentNo),
    (amountKey, .str c.amount), ("status", Json.text status)]

/-- A refusal that still carries `data`. -/
def refusedRefund (code : Nat) (text : Bytes) (data : List (String × Json)) : Reply :=
  ⟨Json.object [("code", .int code), ("message", .str text), ("data", Json.object data)],
    some (.system code)⟩

/-! ## The rows after the channel answered -/

/-- Close the refund unless another writer settled it; nobody waits for it. -/
def updateRefundWithError (refundNo : Bytes) (next : PayProg) : PayProg :=
  .fork (.sql .db (.casRefund refundNo .REFUND_FAIL none) fun _ => .done) next

def respond (c : RefundCase) (refundStatus : RefundStatus) (refundId : Bytes) (result : Json) :
    Reply :=
  ⟨Json.object [("code", .int 0), ("message", Json.text "Refund created successfully"),
    ("data", Json.object [("refund_no", .str c.refundNo), ("order_no", .str c.orderNo),
      ("payment_no", .str c.paymentNo), ("refund_amount", .str c.amount),
      ("status", .str refundStatus.text), ("channel_refund_no", .str refundId),
      ("wechat_response", result)])], none⟩

/-- Move the order on once the settled refunds cover its total. -/
def settleOrder (c : RefundCase) (refundStatus : RefundStatus) (callback : Reply → PayProg)
    (finished : PayProg) : PayProg :=
  if refundStatus = .REFUND_SUCCESS then
    .sql .db (.sumRefunds c.orderNo [.REFUND_SUCCESS]) fun
      | none => callback dbError
      | some sumText =>
          match PayUtils.parseAmountToFen sumText with
          | none =>
              callback (refundError 1500 (ascii "Database error: Invalid settled refund sum"))
          | some settledRefundFen =>
              if PayUtils.refundsCoverOrderAmount settledRefundFen c.totalFen then
                .sql .db (.coverOrder c.orderNo) fun
                  | none => callback dbError
                  | some _ => finished
              else finished
  else finished

/-- Book what the channel accepted. A refund that another writer settled keeps
its status, and the order step still runs. -/
def updateRefundWithSuccess (c : RefundCase) (refundStatus : RefundStatus) (refundId : Bytes)
    (result : Json) (callback : Reply → PayProg) : PayProg :=
  .sql .db (.casRefund c.refundNo refundStatus (some refundId)) fun
    | none => callback dbError
    | some _ =>
        settleOrder c refundStatus callback (callback (respond c refundStatus refundId result))

/-! ## The channel call -/

def alipayRefundPayload (c : RefundCase) : Json :=
  Json.object ([("out_trade_no", .str c.orderNo), ("refund_amount", .str c.amount)] ++
    if c.request.reason.isEmpty then [] else [("refund_reason", .str c.request.reason)])

def onAlipayRefund (c : RefundCase) (callback : Reply → PayProg) (a : ChannelAnswer) : PayProg :=
  if !a.error.isEmpty then
    let errorMessage := ascii "Alipay error: " ++ a.error
    updateRefundWithError c.refundNo
      (callback (refusedRefund 1502 errorMessage (refundData c "refund_amount" "REFUND_FAIL" ++
        [("error", .str errorMessage),
          ("alipay_response", Json.object [("error", .str errorMessage)])])))
  else
    orThrow (a.result.stringAt "code") fun alipayCode =>
      if alipayCode ≠ ascii "10000" then
        orThrow (a.result.stringAt "msg") fun msg =>
          updateRefundWithError c.refundNo
            (callback (refusedRefund 1502 (ascii "Alipay refund failed: " ++ msg)
              (refundData c "refund_amount" "REFUND_FAIL")))
      else
        orThrow (a.result.stringAt "refund_id") fun refundId =>
          updateRefundWithSuccess c .REFUND_SUCCESS refundId a.result callback

def wechatRefundPayload (c : RefundCase) : Json :=
  let optional (key : String) (value : Bytes) : List (String × Json) :=
    if value.isEmpty then [] else [(key, .str value)]
  Json.object ([("out_trade_no", .str c.orderNo), ("out_refund_no", .str c.refundNo)] ++
    optional "reason" c.request.reason ++ optional "notify_url" c.request.notifyUrl ++
    optional "funds_account" c.request.fundsAccount ++
    [("amount", Json.object [("refund", .int c.refundFen), ("total", .int c.totalFen),
      ("currency", .str c.currency)])])

/-- A refund WeChat did not accept: closed when that is certain, else left for
reconciliation. -/
def refuseWechatRefund (c : RefundCase) (errorMessage : Bytes) (definitive : Bool)
    (callback : Reply → PayProg) : PayProg :=
  let status := if definitive then "REFUND_FAIL" else "REFUNDING"
  let refused :=
    callback (refusedRefund 1502 errorMessage (refundData c "amount" status ++
      [("error", .str errorMessage),
        ("wechat_response", Json.object [("error", .str errorMessage)])]))
  if definitive then updateRefundWithError c.refundNo refused else refused

/-- Why an answer with no accepted status was refused. -/
def wechatRefundProblem (mapped : Bool) (wechatStatus code detail : Bytes) : Bytes :=
  let problem :=
    if mapped then ascii "WeChat reported refund status " ++ wechatStatus
    else ascii "WeChat refund response has no usable status"
  if code.isEmpty then problem else problem ++ ascii ": " ++ code ++ ascii " " ++ detail

def onWechatRefund (c : RefundCase) (callback : Reply → PayProg) (a : ChannelAnswer) : PayProg :=
  if !a.error.isEmpty then
    refuseWechatRefund c (ascii "WeChat error: " ++ a.error) (refundCertainlyDidNotHappen a.error)
      callback
  else
    orThrow (a.result.stringAt "status") fun wechatStatus =>
      orThrow (a.result.stringAt "refund_id") fun refundId =>
        let refused (mapped : Bool) : PayProg :=
          orThrow (a.result.stringAt "code") fun code =>
            orThrow (if code.isEmpty then some [] else a.result.stringAt "message") fun detail =>
              refuseWechatRefund c (wechatRefundProblem mapped wechatStatus code detail)
                (mapped || !code.isEmpty) callback
        match PayUtils.mapRefundStatus wechatStatus with
        | none => refused false
        | some .REFUND_FAIL => refused true
        | some mappedStatus => updateRefundWithSuccess c mappedStatus refundId a.result callback

def invokeRefundChannel (cfg : Config) (c : RefundCase) (channel : Bytes)
    (callback : Reply → PayProg) : PayProg :=
  if channel = ascii "alipay" then
    if cfg.channels channel then
      .call (.refund channel (alipayRefundPayload c)) (onAlipayRefund c callback)
    else
      callback (refusedRefund 1501 (ascii "Alipay client not ready")
        (refundData c "refund_amount" "REFUND_FAIL"))
  else if channel = ascii "wechat" then
    if cfg.channels channel then
      .call (.refund channel (wechatRefundPayload c)) (onWechatRefund c callback)
    else
      updateRefundWithError c.refundNo
        (callback (refusedRefund 1501 (ascii "WeChat refund client not configured")
          (refundData c "amount" "REFUND_FAIL" ++
            [("error", Json.text "wechat client not ready")])))
  else
    callback (refusedRefund 1500 (ascii "Unknown payment channel: " ++ channel)
      (refundData c "refund_amount" "REFUND_FAIL"))

/-! ## The booking transaction -/

/-- Insert the refund, look up the channel, commit, and only then call it. -/
def insertRefundRow (cfg : Config) (c : RefundCase) (callback : Reply → PayProg) : PayProg :=
  .sql .txn (.insertRefund ⟨c.refundNo, c.orderNo, c.paymentNo, c.amount⟩) fun
    | none => .rollback (callback dbError)
    | some _ =>
        .sql .txn (.findOrder c.orderNo) fun
          | some (some order) =>
              .commit fun
                | true => invokeRefundChannel cfg c order.channel callback
                | false => callback (refundError 1500 (ascii "Failed to commit refund: "))
          | _ => .rollback (callback (refundError 1404 (ascii "Order not found: ")))

/-- The refunds of the order that count against its total. -/
def countedStatuses : List RefundStatus := [.REFUND_INIT, .REFUNDING, .REFUND_SUCCESS]

/-- Under the lock of the payment row, compare what is refunded so far. -/
def checkRefundSum (cfg : Config) (c : RefundCase) (callback : Reply → PayProg) : PayProg :=
  .sql .txn (.sumRefunds c.orderNo countedStatuses) fun
    | none => .rollback (callback dbError)
    | some sumText =>
        match PayUtils.parseAmountToFen sumText with
        | none => .rollback (callback (refundError 1500 (ascii "Invalid refund sum")))
        | some refundedFen =>
            if PayUtils.addInt64 refundedFen c.refundFen > c.totalFen then
              .rollback (callback (refundError 1409 (ascii "refund amount exceeds paid")))
            else insertRefundRow cfg c callback

def proceedWithInsert (cfg : Config) (c : RefundCase) (callback : Reply → PayProg) : PayProg :=
  .start fun
    | false => callback (refundError 1500 (ascii "Transaction unavailable"))
    | true =>
        .sql .txn (.lockPayment c.paymentNo c.orderNo) fun
          | none => .rollback (callback dbError)
          | some none =>
              .rollback (callback (refundError 1404 (ascii "payment not found for order")))
          | some (some _) => checkRefundSum cfg c callback

def proceedWithInProgressCheck (cfg : Config) (c : RefundCase) (callback : Reply → PayProg) :
    PayProg :=
  .sql .db (.countOpenRefunds c.orderNo c.paymentNo c.amount) fun
    | none => callback dbError
    | some (count : Nat) =>
        if count > 0 then callback (refundError 1409 (ascii "refund already in progress"))
        else proceedWithInsert cfg c callback

/-- The answer for a refund that was already made. -/
def alreadySuccessful (c : RefundCase) (row : RefundRow) : Reply :=
  ⟨Json.object [("code", .int 0), ("message", Json.text "Refund already successful"),
    ("data", Json.object ([("refund_no", .str row.refundNo), ("order_no", .str row.orderNo),
      ("payment_no", .str c.paymentNo), ("refund_amount", .str c.amount),
      ("status", .str row.status.text)] ++
      if row.channelRefundNo.isEmpty then []
      else [("channel_refund_no", .str row.channelRefundNo)]))], none⟩

def proceedWithAmountCheck (cfg : Config) (c : RefundCase) (callback : Reply → PayProg) :
    PayProg :=
  .sql .db (.successRefund c.orderNo c.paymentNo c.amount) fun
    | none => callback dbError
    | some (some row) => callback (alreadySuccessful c row)
    | some none => proceedWithInProgressCheck cfg c callback

/-- The fen of a refund and of its order; the error when they do not fit. -/
def refundAmounts (amount orderAmount : Bytes) : Except Reply (Nat × Nat) :=
  match PayUtils.parseAmountToFen amount, PayUtils.parseAmountToFen orderAmount with
  | some refundFen, some totalFen =>
      if refundFen = 0 ∨ refundFen > totalFen then
        .error (refundError 1400 (ascii "Invalid refund amount"))
      else .ok (refundFen, totalFen)
  | _, _ => .error (refundError 1400 (ascii "Invalid amount format"))

def proceedOrderFlow (cfg : Config) (request : CreateRefundRequest) (refundNo paymentNo : Bytes)
    (callback : Reply → PayProg) : PayProg :=
  .sql .db (.findOrder request.orderNo) fun
    | some (some order) =>
        if order.status = .PAID then
          match refundAmounts request.amount order.amount with
          | .error refused => callback refused
          | .ok (refundFen, totalFen) =>
              proceedWithAmountCheck cfg
                ⟨request, refundNo, paymentNo, refundFen, totalFen, order.currency⟩ callback
        else callback (refundError 1409 (ascii "order not paid"))
    | _ => callback (refundError 1404 (ascii "Order not found: "))

/-! ## createRefund -/

/-- Why a refund request is refused before anything is read. -/
def requestProblem (cfg : Config) (request : CreateRefundRequest) : Option Bytes :=
  if request.reason.length > 80 then some (ascii "reason too long (max 80 characters)")
  else if request.orderNo.isEmpty || request.orderNo.length > 64 then
    some (ascii "invalid order_no format")
  else if request.amount.isEmpty then some (ascii "amount cannot be empty")
  else if !request.fundsAccount.isEmpty && request.fundsAccount ≠ ascii "AVAILABLE" &&
      request.fundsAccount ≠ ascii "UNSETTLED" then
    some (ascii "invalid funds_account (must be AVAILABLE or UNSETTLED)")
  else if request.notifyUrl.isEmpty then none
  else cfg.validateNotifyUrl request.notifyUrl

/-- `proceedRefund` once the payment is named. -/
def proceedWithPayment (cfg : Config) (request : CreateRefundRequest) (uuid paymentNo : Bytes)
    (callback : Reply → PayProg) : PayProg :=
  let refundNo := if request.refundNo.isEmpty then uuid else request.refundNo
  .sql .db (.findPaymentOf paymentNo request.orderNo) fun
    | some (some payment) =>
        if payment.status = .SUCCESS then
          proceedOrderFlow cfg request refundNo paymentNo callback
        else callback (refundError 1409 (ascii "payment not successful"))
    | _ => callback (refundError 1404 (ascii "Payment not found: "))

/-- The newest attempt in these statuses, or what to do when there is none. -/
def attemptsFinder (orderNo : Bytes) (statuses : List PaymentStatus) (thenEmpty : PayProg)
    (callback : Reply → PayProg) (proceedWith : Bytes → PayProg) : PayProg :=
  .sql .db (.newestAttempt orderNo statuses) fun
    | none => callback dbError
    | some none => thenEmpty
    | some (some payment) => proceedWith payment.paymentNo

/-- A settled attempt beats a newer open one. The checks pass again when the
request is taken up under the number found. -/
def proceedRefund (cfg : Config) (request : CreateRefundRequest) (uuid : Bytes)
    (callback : Reply → PayProg) : PayProg :=
  match requestProblem cfg request with
  | some problem => callback (refundError 1400 problem)
  | none =>
      if request.paymentNo.isEmpty then
        let proceedWith (paymentNo : Bytes) : PayProg :=
          proceedWithPayment cfg request uuid paymentNo callback
        attemptsFinder request.orderNo [.SUCCESS, .REFUNDED]
          (attemptsFinder request.orderNo [.INIT, .PROCESSING]
            (callback (refundError 1404 (ascii "Payment not found"))) callback proceedWith)
          callback proceedWith
      else proceedWithPayment cfg request uuid request.paymentNo callback

/-- Store an answer that carries data before it is given. -/
def wrappedRefundCallback (idempotencyKey requestHash : Bytes) (reply : Reply) : PayProg :=
  if !idempotencyKey.isEmpty && reply.body.isMember (ascii "data") then
    IdempotencyService.storeThenAnswer idempotencyKey requestHash reply
  else answer reply.body reply.error

/-- Give the key back after a failure without data. -/
def proceedCallback (idempotencyKey requestHash : Bytes) (reply : Reply) : PayProg :=
  if !idempotencyKey.isEmpty && reply.error.isSome && !reply.body.isMember (ascii "data") then
    IdempotencyService.clearReservation idempotencyKey requestHash fun _ =>
      wrappedRefundCallback idempotencyKey requestHash reply
  else wrappedRefundCallback idempotencyKey requestHash reply

def refundHash (cfg : Config) (request : CreateRefundRequest) : Bytes :=
  cfg.digest (Json.object [("amount", .str request.amount), ("order_no", .str request.orderNo),
    ("reason", .str request.reason)])

/-- `uuid` is the refund number the service draws when the request names
none. -/
def createRefund (cfg : Config) (request : CreateRefundRequest) (idempotencyKey uuid : Bytes) :
    PayProg :=
  let requestHash := refundHash cfg request
  if idempotencyKey.isEmpty then
    proceedRefund cfg request uuid (wrappedRefundCallback idempotencyKey requestHash)
  else
    IdempotencyService.checkDatabase cfg idempotencyKey requestHash fun
      | .Started =>
          proceedRefund cfg request uuid (proceedCallback idempotencyKey requestHash)
      | .Replay cachedResult =>
          wrappedRefundCallback idempotencyKey requestHash ⟨cachedResult, none⟩
      | _ =>
          wrappedRefundCallback idempotencyKey requestHash
            (refundError 1409
              (ascii "Idempotency conflict: different parameters for same key"))

/-! ## The refund sync -/

/-- Close the order of a refund that settled in this transaction, if the settled
refunds cover it. -/
def settleSyncedOrder (order : OrderRow) (orderNo : Bytes)
    (callback : Option RefundStatus → PayProg) : PayProg :=
  if order.status = .PAID then
    .sql .txn (.sumRefunds orderNo [.REFUND_SUCCESS]) fun
      | none => .rollback (callback none)
      | some sumText =>
          if PayUtils.refundsCoverOrderAmount (PayUtils.fenOf sumText)
              (PayUtils.fenOf order.amount) then
            .sql .txn (.coverOrder orderNo) fun
              | none => .rollback (callback none)
              | some _ => callback (some .REFUND_SUCCESS)
          else callback (some .REFUND_SUCCESS)
  else callback (some .REFUND_SUCCESS)

/-- The money side of a refund that the sync settles. -/
def bookSyncedRefund (refund : RefundRow) (callback : Option RefundStatus → PayProg) : PayProg :=
  .sql .txn (.findOrder refund.orderNo) fun
    | some (some order) =>
        .both
          (insertLedgerEntry
            ⟨order.userId, refund.orderNo, refund.paymentNo, .REFUND, refund.amount⟩)
          (settleSyncedOrder order refund.orderNo callback)
    | _ => .rollback (callback none)

/-- The payload write, which reports the status of every refund that did not
settle. -/
def writeSyncedPayload (refundNo : Bytes) (refundStatus : RefundStatus)
    (callback : Option RefundStatus → PayProg) : PayProg :=
  .sql .txn (.setRefundPayload refundNo) fun
    | none => .rollback (callback none)
    | some _ => if refundStatus = .REFUND_SUCCESS then .done else callback (some refundStatus)

/-- The transaction of a refund sync: the row is written by primary key, on the
strength of a read made before the transaction began. -/
def syncRefundTransaction (refund : RefundRow) (refundStatus : RefundStatus) (refundId : Bytes)
    (callback : Option RefundStatus → PayProg) : PayProg :=
  .start fun
    | false => .done
    | true =>
        .sql .txn (.updateRefund refund.refundNo refundStatus refundId) fun
          | none => .rollback (callback none)
          | some _ =>
              .both (writeSyncedPayload refund.refundNo refundStatus callback)
                (if refundStatus = .REFUND_SUCCESS then bookSyncedRefund refund callback
                else .done)

def syncRefundStatusFromWechat (refundNo : Bytes) (result : Json)
    (callback : Option RefundStatus → PayProg) : PayProg :=
  orThrow (result.stringAt "status") fun wechatStatus =>
    if wechatStatus.isEmpty then callback none
    else
      orThrow (result.stringAt "refund_id") fun refundId =>
        match PayUtils.mapRefundStatus wechatStatus with
        | none => callback none
        | some refundStatus =>
            .sql .db (.findRefund refundNo) fun
              | some (some refund) =>
                  if refund.status = .REFUND_SUCCESS then callback (some refundStatus)
                  else syncRefundTransaction refund refundStatus refundId callback
              | _ => callback none

/-! ## queryRefund -/

def refundSnapshot (cfg : Config) (refund : RefundRow) : Json :=
  Json.object [("refund_no", .str refund.refundNo), ("order_no", .str refund.orderNo),
    ("payment_no", .str refund.paymentNo), ("status", .str refund.status.text),
    ("refund_amount", .str refund.amount), ("channel_refund_no", .str refund.channelRefundNo),
    ("updated_at", .str (cfg.toRfc3339Utc refund.updatedAt))]

def answerRefund (data : Json) : PayProg :=
  answer (Json.object [("code", .int 0), ("message", Json.text "Query refund successful"),
    ("data", data)]) none

def queryRefund (cfg : Config) (refundNo : Bytes) : PayProg :=
  .sql .db (.findRefund refundNo) fun
    | some (some refund) =>
        let data := refundSnapshot cfg refund
        if cfg.channels (ascii "wechat") then
          .call (.queryRefund (ascii "wechat") refundNo) fun a =>
            if a.error.isEmpty then
              syncRefundStatusFromWechat refundNo a.result fun status =>
                let shown := match status with
                  | some s => data.withMember "status" (.str s.text)
                  | none => data
                answerRefund (shown.withMember "wechat_response" a.result)
            else answerRefund data
        else answerRefund data
    | _ =>
        answer (message 1404 (ascii "Refund not found: ")) (some (.system 1404))

end RefundService
end DrogonPay

import DrogonPay.Services.Refund

/-!
Contract: `CallbackService.cc`, from the decrypted notification on.

Owns: `handlePaymentCallback` and `handleRefundCallback`, with the reservation
each delivery works under and the transaction it settles in.

Does not own: signature, freshness and replay checks or the decryption; a
`Notification` is one that passed them. The answer to a notification that fails
them touches no row.
-/

namespace DrogonPay

open ReadCommitted

namespace CallbackService

def respondSuccess : PayProg :=
  answer (Json.object [("code", Json.text "SUCCESS"), ("message", Json.text "OK")]) none

def respondFail (text : String) (error : ErrorCode) : PayProg :=
  answer (Json.object [("code", Json.text "FAIL"), ("message", Json.text text)]) (some error)

def internalError : PayProg := respondFail "internal error" (.pay 1400)

def stillInProgress : PayProg := respondFail "callback still in progress" (.pay 1400)

/-- The `pay_callback` row of a verified delivery. -/
def auditRow (paymentNo : Bytes) : CallbackRow := ⟨paymentNo, true, true⟩

/-- `newReservationToken` and the key, hash and snapshot that go with it. -/
structure Delivery where
  idempotencyKey : Bytes
  requestHash : Bytes
  ownerToken : Bytes
  plain : Json

def reservationTtl : Nat := 7 * 24 * 60 * 60

/-- A delivery whose key was finalized before is recorded once more. -/
def recordDuplicate (orderNo : Bytes) : PayProg :=
  .sql .db (.newestAttempt orderNo PaymentService.openStatuses) fun
    | some (some payment) =>
        .sql .db (.insertCallback (auditRow payment.paymentNo)) fun
          | some _ => respondSuccess
          | none => internalError
    | _ => internalError

/-- Look the key up, reserve it when it is free, and go on only as its first
holder. A reservation without a snapshot is dropped for the next delivery. -/
def reserveDelivery (delivery : Delivery) (duplicate proceed : PayProg) : PayProg :=
  .sql .db (.findIdempotency delivery.idempotencyKey) fun
    | none => internalError
    | some (some existing) =>
        if existing.responseSnapshot.isNone then
          .sql .db (.dropReservation delivery.idempotencyKey) fun _ => stillInProgress
        else duplicate
    | some none =>
        .sql .db (.reserve delivery.idempotencyKey delivery.requestHash
            (some delivery.ownerToken) reservationTtl) fun
          | none => internalError
          | some none => stillInProgress
          | some (some _) => proceed

/-- Stamp the snapshot inside the transaction and acknowledge only after the
commit; a reservation that was taken over takes the settlement with it. -/
def finalizeAndCommit (delivery : Delivery) (commitFailed : String) : PayProg :=
  .sql .txn (.finalizeReservation delivery.idempotencyKey delivery.ownerToken delivery.plain) fun
    | some true =>
        .commit fun
          | true => respondSuccess
          | false => .rollback (respondFail commitFailed (.pay 1400))
    | _ => .rollback internalError

/-- Another writer settled the row first: roll back and keep the audit trail. -/
def skipAdvanced (paymentNo : Bytes) : PayProg :=
  .rollback (.sql .db (.insertCallback (auditRow paymentNo)) fun _ => respondSuccess)

/-- The merchant a notification names is not this one. -/
def identityProblem (cfg : Config) (appId mchId : Bytes) : Option String :=
  if !appId.isEmpty && appId ≠ cfg.appId then some "appid mismatch"
  else if !mchId.isEmpty && mchId ≠ cfg.mchId then some "mchid mismatch"
  else none

/-! ## Payment notifications -/

/-- The members of a payment notification that decide its settlement. -/
structure PaymentNotice where
  orderNo : Bytes
  transactionId : Bytes
  tradeState : Bytes

def knownTradeStates : List Bytes :=
  ["SUCCESS", "USERPAYING", "NOTPAY", "CLOSED", "REVOKED", "REFUND"].map ascii

def paymentNoticeProblem (notice : PaymentNotice) : Option String :=
  if notice.orderNo.isEmpty || notice.tradeState.isEmpty then
    some "missing out_trade_no/trade_state"
  else if !knownTradeStates.contains notice.tradeState then some "invalid trade_state"
  else if notice.tradeState = ascii "SUCCESS" && notice.transactionId.isEmpty then
    some "missing transaction_id"
  else none

/-- Why the amounts of a notification may not settle this attempt; `none` when
reading them throws. -/
def paymentAmountProblem (plain : Json) (payment : PaymentRow) (order : OrderRow) :
    Option (Option String) := do
  let amountJson ← plain.at? (ascii "amount")
  let notifyCurrency ← amountJson.stringAt "currency"
  let notifyTotalFen ← amountJson.intAt "total"
  match PayUtils.parseAmountToFen payment.amount with
  | none => return some "invalid amount in callback"
  | some orderTotalFen =>
      if notifyTotalFen ≤ 0 then return some "invalid amount in callback"
      if !notifyCurrency.isEmpty && notifyCurrency ≠ order.currency then
        return some "currency mismatch"
      if notifyTotalFen ≠ orderTotalFen then return some "amount mismatch"
      let payerTotalFen ← amountJson.intAt "payer_total"
      if amountJson.isMember (ascii "payer_total") && payerTotalFen > notifyTotalFen then
        return some "invalid payer_total in callback"
      return none

/-- The booked and the notified transaction are two different ones. -/
def otherTransaction (payment : PaymentRow) (transactionId : Bytes) : Bool :=
  !payment.channelTradeNo.isEmpty && !transactionId.isEmpty &&
    payment.channelTradeNo ≠ transactionId

/-- Book the order of an attempt this delivery settled. Income is booked for a
paid or refunded order, and only then is the key finalized in the transaction. -/
def bookNotifiedOrder (delivery : Delivery) (payment : PaymentRow) (order : OrderRow)
    (orderStatus : OrderStatus) : PayProg :=
  .sql .txn (.updateOrder order.orderNo orderStatus) fun
    | none => respondFail "db error: " (.pay 1400)
    | some _ =>
        if orderStatus = .PAID ∨ orderStatus = .REFUNDED then
          .sql .txn (.insertLedger
              ⟨order.userId, payment.orderNo, payment.paymentNo, .PAYMENT, order.amount⟩) fun _ =>
            finalizeAndCommit delivery "internal error"
        else
          .commit fun
            | false => respondFail "Failed to commit transaction" (.pay 1400)
            | true =>
                .sql .db (.finalizeReservation delivery.idempotencyKey delivery.ownerToken
                  delivery.plain) fun _ => respondSuccess

/-- Record the delivery and move the attempt, unless another writer did. -/
def settleNotifiedPayment (delivery : Delivery) (notice : PaymentNotice) (payment : PaymentRow)
    (order : OrderRow) (orderStatus : OrderStatus) (paymentStatus : PaymentStatus) : PayProg :=
  .sql .txn (.insertCallback (auditRow payment.paymentNo)) fun
    | none => internalError
    | some _ =>
        .sql .txn (.casPayment payment.paymentNo paymentStatus (some notice.transactionId)) fun
          | none => internalError
          | some false => skipAdvanced payment.paymentNo
          | some true => bookNotifiedOrder delivery payment order orderStatus

/-- A claimed refund is decided by the settled sum, which is read first; one that
is unreadable counts as zero. -/
def resolveNotifiedPayment (delivery : Delivery) (notice : PaymentNotice) (payment : PaymentRow)
    (order : OrderRow) : PayProg :=
  let (orderStatus, paymentStatus) := PayUtils.mapTradeState notice.tradeState
  if orderStatus = .REFUNDED then
    .sql .txn (.sumRefunds notice.orderNo [.REFUND_SUCCESS]) fun
      | some sumText =>
          settleNotifiedPayment delivery notice payment order
            (PayUtils.resolveRefundedOrderStatus orderStatus (PayUtils.fenOf sumText)
              (PayUtils.fenOf order.amount)) paymentStatus
      | none => settleNotifiedPayment delivery notice payment order orderStatus paymentStatus
  else settleNotifiedPayment delivery notice payment order orderStatus paymentStatus

/-- The gates between the locked attempt and its settlement. -/
def checkNotifiedPayment (delivery : Delivery) (notice : PaymentNotice) (payment : PaymentRow)
    (order : OrderRow) : PayProg :=
  orThrow (paymentAmountProblem delivery.plain payment order) fun
    | some problem => .rollback (respondFail problem (.pay 400))
    | none =>
        if otherTransaction payment notice.transactionId then
          .rollback (respondFail "transaction_id mismatch" (.pay 400))
        else resolveNotifiedPayment delivery notice payment order

/-- The transaction of a payment notification. -/
def settlePaymentNotice (delivery : Delivery) (notice : PaymentNotice) : PayProg :=
  .start fun
    | false => .done
    | true =>
        .sql .txn (.lockAttempt notice.orderNo PaymentService.openStatuses) fun
          | none => internalError
          | some none => .rollback (respondFail "payment not found" (.system 1404))
          | some (some payment) =>
              if payment.status = .SUCCESS ∨ payment.status = .REFUNDED then
                .rollback respondSuccess
              else
                .sql .txn (.findOrder payment.orderNo) fun
                  | some (some order) => checkNotifiedPayment delivery notice payment order
                  | _ => internalError

/-- The key of a delivery: the notification's id, or what it is about. -/
def deliveryKey (id subject state : Bytes) : Bytes :=
  if id.isEmpty then subject ++ ascii ":" ++ state else id

def handlePaymentCallback (cfg : Config) (notification : Notification) (ownerToken : Bytes) :
    PayProg :=
  if !cfg.wechatReady then respondFail "wechat client not ready" (.system 1400)
  else
    let plain := notification.plain
    orThrow (do return (← plain.stringAt "appid", ← plain.stringAt "mchid")) fun (appId, mchId) =>
      match identityProblem cfg appId mchId with
      | some problem => respondFail problem (.system 1400)
      | none =>
          orThrow (do
            return PaymentNotice.mk (← plain.stringAt "out_trade_no")
              (← plain.stringAt "transaction_id") (← plain.stringAt "trade_state")) fun notice =>
            match paymentNoticeProblem notice with
            | some problem => respondFail problem (.system 1400)
            | none =>
                let delivery : Delivery :=
                  ⟨deliveryKey notification.id notice.orderNo notice.tradeState,
                    notification.bodyHash, ownerToken, plain⟩
                reserveDelivery delivery (recordDuplicate notice.orderNo)
                  (settlePaymentNotice delivery notice)

/-! ## Refund notifications -/

structure RefundNotice where
  refundNo : Bytes
  refundStatusRaw : Bytes
  refundId : Bytes

def refundNoticeProblem (notice : RefundNotice) : Option String :=
  if notice.refundNo.isEmpty || notice.refundStatusRaw.isEmpty then
    some "missing refund_no/refund_status"
  else if notice.refundStatusRaw = ascii "SUCCESS" && notice.refundId.isEmpty then
    some "missing refund_id"
  else none

/-- The currency of a refund notification, or why its amount does not fit the
row. -/
def refundAmountProblem (plain : Json) (refund : RefundRow) : Option (Except String Bytes) := do
  let amountJson ← plain.at? (ascii "amount")
  let notifyCurrency ← amountJson.stringAt "currency"
  let notifyRefundFen ← amountJson.intAt "refund"
  match PayUtils.parseAmountToFen refund.amount with
  | none => return .error "invalid refund amount in callback"
  | some refundTotalFen =>
      if notifyRefundFen ≤ 0 then return .error "invalid refund amount in callback"
      if notifyRefundFen ≠ refundTotalFen then return .error "refund amount mismatch"
      return .ok notifyCurrency

/-- Close the order once the settled refunds cover it. -/
def settleNotifiedOrder (order : OrderRow) (orderNo : Bytes) : PayProg :=
  .sql .txn (.sumRefunds orderNo [.REFUND_SUCCESS]) fun
    | none => .rollback internalError
    | some sumText =>
        match PayUtils.parseAmountToFen sumText with
        | none => .rollback internalError
        | some settledRefundFen =>
            if PayUtils.refundsCoverOrderAmount settledRefundFen (PayUtils.fenOf order.amount) then
              .sql .txn (.coverOrder orderNo) fun
                | none => .rollback internalError
                | some _ => .done
            else .done

def writeNotifiedPayload (refund : RefundRow) (order : OrderRow) (refundStatus : RefundStatus) :
    PayProg :=
  .sql .txn (.setRefundPayload refund.refundNo) fun
    | none => .rollback internalError
    | some _ =>
        if refundStatus = .REFUND_SUCCESS then settleNotifiedOrder order refund.orderNo else .done

def insertCallbackAndFinish (delivery : Delivery) (paymentNo : Bytes) : PayProg :=
  .sql .txn (.insertCallback (auditRow paymentNo)) fun
    | none => .rollback internalError
    | some _ => finalizeAndCommit delivery "db error: "

/-- The ledger row of a refund this delivery settled; the rest is submitted
whatever became of it. -/
def bookNotifiedRefund (delivery : Delivery) (refund : RefundRow) (order : OrderRow)
    (refundStatus : RefundStatus) : PayProg :=
  if refundStatus = .REFUND_SUCCESS then
    .sql .txn (.insertLedger
        ⟨order.userId, refund.orderNo, refund.paymentNo, .REFUND, refund.amount⟩) fun _ =>
      insertCallbackAndFinish delivery refund.paymentNo
  else insertCallbackAndFinish delivery refund.paymentNo

/-- The transaction of a refund notification. The payload write and the
bookkeeping are submitted side by side. -/
def settleRefundNotice (delivery : Delivery) (notice : RefundNotice) (refund : RefundRow)
    (order : OrderRow) (refundStatus : RefundStatus) : PayProg :=
  .start fun
    | false => .done
    | true =>
        .sql .txn (.casRefund refund.refundNo refundStatus (some notice.refundId)) fun
          | none => .rollback internalError
          | some none => skipAdvanced refund.paymentNo
          | some (some _) =>
              .both (writeNotifiedPayload refund order refundStatus)
                (bookNotifiedRefund delivery refund order refundStatus)

/-- The row a refund notification is about, and its order. -/
def checkRefundNotice (delivery : Delivery) (notice : RefundNotice) : PayProg :=
  match PayUtils.mapRefundStatus notice.refundStatusRaw with
  | none => respondFail "invalid refund status" (.pay 1400)
  | some refundStatus =>
      .sql .db (.findRefund notice.refundNo) fun
        | some (some refund) =>
            if refund.status = .REFUND_SUCCESS then respondSuccess
            else
              orThrow (refundAmountProblem delivery.plain refund) fun
                | .error problem => respondFail problem (.pay 1400)
                | .ok notifyCurrency =>
                    .sql .db (.findOrder refund.orderNo) fun
                      | some (some order) =>
                          if !notifyCurrency.isEmpty && notifyCurrency ≠ order.currency then
                            respondFail "refund currency mismatch" (.pay 1400)
                          else settleRefundNotice delivery notice refund order refundStatus
                      | _ => respondFail "order not found" (.system 1404)
        | _ => respondFail "refund not found" (.system 1404)

/-- A repeated refund delivery is recorded on the attempt of the trade it
names. -/
def recordRefundDuplicate (plain : Json) : PayProg :=
  orThrow (plain.stringAt "out_trade_no") fun tradeOrderNo =>
    if tradeOrderNo.isEmpty then respondFail "missing out_trade_no" (.pay 1400)
    else recordDuplicate tradeOrderNo

def handleRefundCallback (cfg : Config) (notification : Notification) (ownerToken : Bytes) :
    PayProg :=
  if !cfg.wechatReady then respondFail "wechat client not ready" (.system 1400)
  else
    let plain := notification.plain
    orThrow (do return (← plain.stringAt "appid", ← plain.stringAt "mchid")) fun (appId, mchId) =>
      match identityProblem cfg appId mchId with
      | some problem => respondFail problem (.system 1400)
      | none =>
          orThrow (do
            return RefundNotice.mk (← plain.stringAt "out_refund_no")
              (← plain.stringAt "refund_status") (← plain.stringAt "refund_id")) fun notice =>
            match refundNoticeProblem notice with
            | some problem => respondFail problem (.system 1400)
            | none =>
                let delivery : Delivery :=
                  ⟨deliveryKey notification.id notice.refundNo notice.refundStatusRaw,
                    notification.bodyHash, ownerToken, plain⟩
                reserveDelivery delivery (recordRefundDuplicate plain)
                  (checkRefundNotice delivery notice)

end CallbackService
end DrogonPay

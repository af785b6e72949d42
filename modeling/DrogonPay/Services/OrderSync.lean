import DrogonPay.Services.Payment

/-!
Contract: the query and reconcile doors of `PaymentService.cc`.

Owns: `syncOrderStatusFromWechat` and `syncOrderStatusFromAlipay`, the ledger
entry they book, `queryOrder`, and the Alipay notification, which is a sync.

Does not own: who calls the channel; a sync starts from an answer.
-/

namespace DrogonPay

open ReadCommitted

/-- `insertLedgerEntry` of the payment and refund services: the row is added
unless one of its order, type and payment is already there. -/
def insertLedgerEntry (row : LedgerRow) : PayProg :=
  .sql .txn (.findLedger row.orderNo row.entryType row.paymentNo) fun
    | some none => .sql .txn (.insertLedger row) fun _ => .done
    | _ => .done

namespace PaymentService

/-- Why a channel answer may not book this payment row. -/
def reconcileAmountProblem (answerTotalFen : Int) (paymentAmount : Bytes) : Bool :=
  match PayUtils.parseAmountToFen paymentAmount with
  | none => true
  | some paymentTotalFen => answerTotalFen ≤ 0 || answerTotalFen ≠ paymentTotalFen

def orderStatusAfterRefundCoverage (mappedOrderStatus : OrderStatus) (orderAmount : Bytes)
    (settledRefundFen : Nat) : OrderStatus :=
  PayUtils.resolveRefundedOrderStatus mappedOrderStatus settledRefundFen
    (PayUtils.fenOf orderAmount)

/-- The attempts that can still carry money. -/
def openStatuses : List PaymentStatus := [.INIT, .PROCESSING, .SUCCESS, .REFUNDED]

/-- What a sync answer says: the statuses it maps to and the transaction it
names. -/
structure SyncAnswer where
  orderStatus : OrderStatus
  paymentStatus : PaymentStatus
  transactionId : Bytes
  totalFen : Int

/-- The last steps of a settlement in a sync: write the order by primary key,
book the income of a paid one, report. -/
def writeSyncedOrder (order : OrderRow) (paymentNo : Bytes) (status : OrderStatus)
    (callback : Option OrderStatus → PayProg) : PayProg :=
  .sql .txn (.updateOrder order.orderNo status) fun
    | none => .rollback (callback none)
    | some _ =>
        if status = .PAID ∨ status = .REFUNDED then
          .both (insertLedgerEntry ⟨order.userId, order.orderNo, paymentNo, .PAYMENT, order.amount⟩)
            (callback (some status))
        else callback (some status)

/-- The order side of a WeChat sync. -/
def syncWechatOrder (orderNo paymentNo : Bytes) (orderStatus : OrderStatus)
    (settledRefundFen : Nat) (callback : Option OrderStatus → PayProg) : PayProg :=
  .sql .txn (.findOrder orderNo) fun
    | some (some order) =>
        let finalOrderStatus :=
          orderStatusAfterRefundCoverage orderStatus order.amount settledRefundFen
        if order.status = .PAID then callback (some finalOrderStatus)
        else writeSyncedOrder order paymentNo finalOrderStatus callback
    | _ => .rollback (callback none)

/-- The payment side of a WeChat sync, on an attempt read before the
transaction began. -/
def syncWechatPayment (orderNo : Bytes) (said : SyncAnswer) (payment : PaymentRow)
    (settledRefundFen : Nat) (callback : Option OrderStatus → PayProg) : PayProg :=
  if payment.status = .SUCCESS then
    syncWechatOrder orderNo payment.paymentNo said.orderStatus settledRefundFen callback
  else if payment.status = .REFUNDED then .rollback (callback (some .REFUNDED))
  else
    .sql .txn (.casPayment payment.paymentNo said.paymentStatus (some said.transactionId)) fun
      | none => .rollback (callback none)
      | some false => .rollback (callback (some said.orderStatus))
      | some true =>
          syncWechatOrder orderNo payment.paymentNo said.orderStatus settledRefundFen callback

/-- The transaction of a WeChat sync. A claimed refund reads the settled sum
first; one that is unreadable counts as zero. -/
def syncWechatTransaction (orderNo : Bytes) (said : SyncAnswer) (payment : PaymentRow)
    (callback : Option OrderStatus → PayProg) : PayProg :=
  .start fun
    | false => .done
    | true =>
        if said.orderStatus = .REFUNDED then
          .sql .txn (.sumRefunds orderNo [.REFUND_SUCCESS]) fun
            | some sumText =>
                syncWechatPayment orderNo said payment (PayUtils.fenOf sumText) callback
            | none => syncWechatPayment orderNo said payment 0 callback
        else syncWechatPayment orderNo said payment 0 callback

/-- The attempt a sync works on, with the amount gate of a settling answer. -/
def syncAttempt (orderNo : Bytes) (said : SyncAnswer)
    (transaction : PaymentRow → PayProg) (callback : Option OrderStatus → PayProg) : PayProg :=
  .sql .db (.newestAttempt orderNo openStatuses) fun
    | none => callback none
    | some none => callback (some said.orderStatus)
    | some (some payment) =>
        if (said.orderStatus = .PAID || said.orderStatus = .REFUNDED) &&
            reconcileAmountProblem said.totalFen payment.amount then
          callback none
        else transaction payment

/-- What a WeChat answer says; `none` when reading it throws, `some none` when
it names no trade state. -/
def readWechatAnswer (result : Json) : Option (Option SyncAnswer) := do
  let tradeState ← result.stringAt "trade_state"
  if tradeState.isEmpty then return none
  let (orderStatus, paymentStatus) := PayUtils.mapTradeState tradeState
  let transactionId ← result.stringAt "transaction_id"
  let totalFen ← (← result.at? (ascii "amount")).intAt "total"
  return some ⟨orderStatus, paymentStatus, transactionId, totalFen⟩

def syncOrderStatusFromWechat (orderNo : Bytes) (result : Json)
    (callback : Option OrderStatus → PayProg) : PayProg :=
  orThrow (readWechatAnswer result) fun
    | none => callback none
    | some said =>
        syncAttempt orderNo said
          (fun payment => syncWechatTransaction orderNo said payment callback) callback

/-! ## Alipay -/

/-- The order side of an Alipay sync; a PAID order must be worth what the
answer says was paid. -/
def syncAlipayOrder (orderNo paymentNo : Bytes) (said : SyncAnswer)
    (callback : Option OrderStatus → PayProg) : PayProg :=
  .sql .txn (.findOrder orderNo) fun
    | some (some order) =>
        if order.status = .PAID then callback (some said.orderStatus)
        else if said.orderStatus = .PAID && !PayUtils.amountEqualsFen order.amount said.totalFen then
          .rollback (callback none)
        else writeSyncedOrder order paymentNo said.orderStatus callback
    | _ => .rollback (callback none)

def syncAlipayTransaction (orderNo : Bytes) (said : SyncAnswer) (payment : PaymentRow)
    (callback : Option OrderStatus → PayProg) : PayProg :=
  .start fun
    | false => .done
    | true =>
        if payment.status = .SUCCESS then syncAlipayOrder orderNo payment.paymentNo said callback
        else if payment.status = .REFUNDED then .rollback (callback (some .REFUNDED))
        else
          .sql .txn (.casPayment payment.paymentNo said.paymentStatus
              (some said.transactionId)) fun
            | none => .rollback (callback none)
            | some false => .rollback (callback (some said.orderStatus))
            | some true => syncAlipayOrder orderNo payment.paymentNo said callback

/-- The statuses an Alipay trade status maps to. -/
def mapAlipayTradeStatus (tradeStatus : Bytes) : Option (OrderStatus × PaymentStatus) :=
  if tradeStatus = ascii "TRADE_SUCCESS" ∨ tradeStatus = ascii "TRADE_FINISHED" then
    some (.PAID, .SUCCESS)
  else if tradeStatus = ascii "WAIT_BUYER_PAY" then some (.PAYING, .PROCESSING)
  else if tradeStatus = ascii "TRADE_CLOSED" then some (.FAILED, .FAIL)
  else none

/-- The fen an Alipay answer says was paid, -1 when it does not parse. -/
def notifiedFen (totalAmount : Bytes) : Int :=
  match PayUtils.parseAmountToFen totalAmount with
  | some fen => fen
  | none => -1

def readAlipayAnswer (result : Json) : Option (Option SyncAnswer) := do
  let code ← result.stringAt "code"
  if code ≠ ascii "10000" then return none
  let tradeStatus ← result.stringAt "trade_status"
  match mapAlipayTradeStatus tradeStatus with
  | none => return none
  | some (orderStatus, paymentStatus) =>
      let transactionId ← result.stringAt "trade_no"
      let totalFen ←
        if orderStatus = .PAID then (result.stringAt "total_amount").map notifiedFen else some (-1)
      return some ⟨orderStatus, paymentStatus, transactionId, totalFen⟩

def syncOrderStatusFromAlipay (orderNo : Bytes) (result : Json)
    (callback : Option OrderStatus → PayProg) : PayProg :=
  orThrow (readAlipayAnswer result) fun
    | none => callback none
    | some said =>
        syncAttempt orderNo said
          (fun payment => syncAlipayTransaction orderNo said payment callback) callback

/-- The answer of the Alipay notification handler. -/
def answerAlipay : Option OrderStatus → PayProg
  | none =>
      answer (Json.object [("code", Json.text "FAIL"),
        ("message", Json.text "order sync rejected")]) none
  | some _ =>
      answer (Json.object [("code", Json.text "SUCCESS"), ("message", Json.text "OK")]) none

/-- A verified Alipay notification, in the shape of a query answer. -/
def alipayResult (tradeNo outTradeNo tradeStatus totalAmount : Bytes) : Json :=
  Json.object [("code", Json.text "10000"), ("trade_no", .str tradeNo),
    ("out_trade_no", .str outTradeNo), ("trade_status", .str tradeStatus),
    ("total_amount", .str totalAmount)]

def alipayNotification (tradeNo outTradeNo tradeStatus totalAmount : Bytes) : PayProg :=
  syncOrderStatusFromAlipay outTradeNo
    (alipayResult tradeNo outTradeNo tradeStatus totalAmount) answerAlipay

/-! ## queryOrder -/

def orderData (order : OrderRow) : Json :=
  Json.object [("order_no", .str order.orderNo), ("amount", .str order.amount),
    ("currency", .str order.currency), ("status", .str order.status.text),
    ("channel", .str order.channel), ("title", .str order.title), ("user_id", .int order.userId)]

private def found (code : Int) (text : String) (data : Json) : Json :=
  Json.object [("code", .int code), ("message", Json.text text), ("data", data)]

/-- The answer of a query after its sync; the channel's own number is shown
under `numberKey`. -/
def answerSynced (order : OrderRow) (result : Json) (numberKey shownAs responseKey : String)
    (status : Option OrderStatus) : PayProg :=
  orThrow (result.stringAt numberKey) fun number =>
    let data := match status with
      | some s => (orderData order).withMember "status" (.str s.text)
      | none => orderData order
    let data := if number.isEmpty then data else data.withMember shownAs (.str number)
    answer (found 0 "Order found" (data.withMember responseKey result)) none

/-- Ask the channel and sync from its answer; a failed query answers what the
database says. -/
def queryChannel (orderNo : Bytes) (order : OrderRow) (errorKey : String)
    (sync : Json → PayProg) : PayProg :=
  .call (.queryPayment order.channel orderNo) fun a =>
    if a.error.isEmpty then sync a.result
    else
      answer (found 1 "Order found (with query error)"
        ((orderData order).withMember errorKey (.str a.error))) none

def queryOrder (cfg : Config) (orderNo : Bytes) : PayProg :=
  if orderNo.isEmpty then
    answer (message 1001 (ascii "Missing order_no parameter")) (some .invalidArgument)
  else
    .sql .db (.findOrder orderNo) fun
      | some (some order) =>
          if order.channel = ascii "wechat" ∧ cfg.channels order.channel then
            queryChannel orderNo order "wechat_query_error" fun result =>
              syncOrderStatusFromWechat orderNo result
                (answerSynced order result "refund_id" "channel_refund_no" "wechat_response")
          else if order.channel = ascii "alipay" ∧ cfg.channels order.channel then
            queryChannel orderNo order "alipay_query_error" fun result =>
              syncOrderStatusFromAlipay orderNo result
                (answerSynced order result "trade_no" "trade_no" "alipay_response")
          else answer (found 0 "Order found" (orderData order)) none
      | _ => answer (message 1004 (ascii "Order not found: ")) (some (.pay 1004))

end PaymentService
end DrogonPay

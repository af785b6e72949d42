import DrogonPay.Services.Callback

/-!
Contract: `ReconciliationService.cc`, and `serve`, which gives each request the
program that serves it.

Owns: the sweeps over unpaid orders and unsettled refunds, and the purge of
expired keys.

Does not own: the timer that starts a reconciliation.
-/

namespace DrogonPay

open ReadCommitted

namespace ReconciliationService

/-- Start one process for each row; nobody waits for them. -/
def forEach {ρ : Type} (rows : List ρ) (each : ρ → PayProg) : PayProg :=
  match rows with
  | [] => .done
  | row :: rest => .fork (each row) (forEach rest each)

/-- Close an unpaid trade on the channel once its deadline has passed. -/
def closeIfExpired (order : OrderRow) (tradeState : Bytes) (now : Nat) (next : PayProg) :
    PayProg :=
  if tradeState = ascii "NOTPAY" ∧ order.expireAt.any (· < (now : Int)) then
    .fork (.call (.closeOrder (ascii "wechat") order.orderNo) fun _ => .done) next
  else next

def syncWeChatOrder (now : Nat) (order : OrderRow) : PayProg :=
  .call (.queryPayment (ascii "wechat") order.orderNo) fun a =>
    if a.error.isEmpty then
      orThrow (PaymentService.readWechatAnswer a.result) fun _ =>
        orThrow (a.result.stringAt "trade_state") fun tradeState =>
          closeIfExpired order tradeState now
            (PaymentService.syncOrderStatusFromWechat order.orderNo a.result fun _ => .done)
    else .done

def syncAlipayOrder (order : OrderRow) : PayProg :=
  .call (.queryPayment (ascii "alipay") order.orderNo) fun a =>
    if a.error.isEmpty then
      PaymentService.syncOrderStatusFromAlipay order.orderNo a.result fun _ => .done
    else .done

def syncRefund (refund : RefundRow) : PayProg :=
  .call (.queryRefund (ascii "wechat") refund.refundNo) fun a =>
    if a.error.isEmpty then
      RefundService.syncRefundStatusFromWechat refund.refundNo a.result fun _ => .done
    else .done

def syncPendingWeChatOrders (cfg : Config) (now : Nat) : PayProg :=
  .sql .db (.sweepOrders (ascii "wechat") cfg.batchSize) fun
    | some rows => forEach rows (syncWeChatOrder now)
    | none => .done

def syncPendingAlipayOrders (cfg : Config) : PayProg :=
  .sql .db (.sweepOrders (ascii "alipay") cfg.batchSize) fun
    | some rows => forEach rows syncAlipayOrder
    | none => .done

def syncPendingRefunds (cfg : Config) : PayProg :=
  .sql .db (.sweepRefunds cfg.batchSize) fun
    | some rows => forEach rows syncRefund
    | none => .done

def isConfigured (cfg : Config) (channel : String) : Bool :=
  cfg.channels (ascii channel) && cfg.configured (ascii channel)

/-- Dispatch a sweep that is configured. -/
def dispatch (configured : Bool) (sweep next : PayProg) : PayProg :=
  if configured then .fork sweep next else next

/-- The callback hears how many sweeps were dispatched, not how they went. -/
def reconcile (cfg : Config) (now : Nat) : PayProg :=
  let wechat := isConfigured cfg "wechat"
  let alipay := isConfigured cfg "alipay"
  let successCount := [wechat, alipay, wechat].count true
  dispatch wechat (syncPendingWeChatOrders cfg now)
    (dispatch alipay (syncPendingAlipayOrders cfg)
      (dispatch wechat (syncPendingRefunds cfg)
        (.fork (.sql .db .purgeIdempotency fun _ => .done)
          (answer (Json.object [("success", .int successCount), ("failed", .int 0)]) none))))

end ReconciliationService

/-- The program that serves a request. -/
def serve (cfg : Config) : Request → PayProg
  | .createPayment request idempotencyKey paymentNo now =>
      PaymentService.createPayment cfg request idempotencyKey paymentNo.text now
  | .createQRPayment request paymentNo now =>
      PaymentService.createQRPayment cfg request paymentNo.text now
  | .createRefund request idempotencyKey uuid =>
      RefundService.createRefund cfg request idempotencyKey uuid.text
  | .queryOrder orderNo => PaymentService.queryOrder cfg orderNo
  | .queryRefund refundNo => RefundService.queryRefund cfg refundNo
  | .paymentNotification notification ownerToken =>
      CallbackService.handlePaymentCallback cfg notification ownerToken.text
  | .refundNotification notification ownerToken =>
      CallbackService.handleRefundCallback cfg notification ownerToken.text
  | .alipayNotification tradeNo outTradeNo tradeStatus totalAmount =>
      PaymentService.alipayNotification tradeNo outTradeNo tradeStatus totalAmount
  | .reconcile now => ReconciliationService.reconcile cfg now

/-- The runs of the services under a condition on every step, from an empty
database. -/
abbrev PayRun (cfg : Config) (ok : PaySys → PayEvent → Prop) :
    List PayEvent → PaySys → Prop :=
  Run (serve cfg) ok (Sys.initial Db.empty)

end DrogonPay

import DrogonPay.Model.Statements

/-!
Contract: the vocabulary of the payment services as a signature of callback
programs, and the PostgreSQL store they run on.

Owns:
- the requests that start a process, the channel calls with their answers, the
  replies, and the configuration the services are built with;
- `paySig` and `payStore`;
- the order, payment, refund and idempotency tables as columns of the store.

Does not own: the validators of URLs, deadlines and WeChat fields, the hash and
the JSON writer, which are parameters of `Config`: the services only branch on
what they answer.
-/

namespace DrogonPay

open ReadCommitted

structure CreatePaymentRequest where
  orderNo : Bytes
  amount : Bytes
  currency : Bytes
  description : Bytes
  notifyUrl : Bytes
  userId : Int
  sceneInfo : Json
  channel : Bytes
  timeExpire : Bytes
  attach : Bytes

structure CreateRefundRequest where
  orderNo : Bytes
  paymentNo : Bytes
  refundNo : Bytes
  amount : Bytes
  reason : Bytes
  notifyUrl : Bytes
  fundsAccount : Bytes

/-- A WeChat notification whose signature and freshness were checked and whose
resource was decrypted: the outer `id`, the decrypted object and the hash of the
body. -/
structure Notification where
  id : Bytes
  plain : Json
  bodyHash : Bytes

/-- A number or token the code draws itself. -/
structure Drawn where
  text : Bytes
  nonempty : text ≠ []

/-- What starts a process. The values the code draws itself (payment numbers,
UUIDs, owner tokens, the time a request is judged at) come with the request. -/
inductive Request where
  | createPayment (request : CreatePaymentRequest) (idempotencyKey : Bytes) (paymentNo : Drawn)
      (now : Nat)
  | createQRPayment (request : Json) (paymentNo : Drawn) (now : Nat)
  | createRefund (request : CreateRefundRequest) (idempotencyKey : Bytes) (uuid : Drawn)
  | queryOrder (orderNo : Bytes)
  | queryRefund (refundNo : Bytes)
  | paymentNotification (notification : Notification) (ownerToken : Drawn)
  | refundNotification (notification : Notification) (ownerToken : Drawn)
  | alipayNotification (tradeNo outTradeNo tradeStatus totalAmount : Bytes)
  | reconcile (now : Nat)

inductive ChannelCall where
  | createQRPayment (channel : Bytes) (payload : Json)
  | refund (channel : Bytes) (payload : Json)
  | queryPayment (channel orderNo : Bytes)
  | queryRefund (channel refundNo : Bytes)
  | closeOrder (channel orderNo : Bytes)

/-- A channel's answer; an empty `error` means the call went through. -/
structure ChannelAnswer where
  result : Json
  error : Bytes

inductive ErrorCode where
  | pay (code : Nat)
  | system (code : Nat)
  | ioError
  | invalidArgument
deriving DecidableEq, Repr

/-- What a service hands its callback. The text of a database error is not part
of the model: such messages end where the server's text would follow. -/
structure Reply where
  body : Json
  error : Option ErrorCode

/-- What the services are built with. -/
structure Config where
  channels : Bytes → Bool
  configured : Bytes → Bool
  wechatReady : Bool
  appId : Bytes
  mchId : Bytes
  sandboxBuyerId : Bytes
  ttlSeconds : Nat
  batchSize : Nat
  /-- `getSha256(toJsonString(value))`. -/
  digest : Json → Bytes
  /-- The error text, `none` when the URL is accepted. -/
  validateNotifyUrl : Bytes → Option Bytes
  validateTimeExpire : Bytes → Bytes → Nat → Option Bytes
  validateWechatOrderFields : Bytes → Bytes → Bytes → Option Bytes
  parseRfc3339 : Bytes → Option Int
  toRfc3339Utc : Nat → Bytes

abbrev paySig : Sig where
  Stmt := Stmt
  Res := Stmt.Res
  Possible := Stmt.Possible
  Ext := ChannelCall
  Ans := ChannelAnswer
  Out := Reply
  Req := Request

abbrev payStore : Store paySig where
  Db := Db
  Env := Env
  Write := Write
  Key := Key
  apply := Db.apply
  run := Stmt.run
  writes := Stmt.writes
  keys := Write.keys
  grabs := Stmt.grabs
  run_possible := Stmt.run_possible

abbrev PayProg := Prog paySig
abbrev PayEntry := Entry paySig
abbrev PayProc := Proc paySig
abbrev PaySys := Sys payStore
abbrev PayEvent := Event payStore

/-! ## The tables as columns -/

def actOnOrder (w : Write) (orderNo : Bytes) (row : Option OrderRow) : Option OrderRow :=
  match w with
  | .insertOrder new => if new.orderNo = orderNo then row.or (some new) else row
  | .setOrder target status updatedAt =>
      if target = orderNo then row.map (.advance status updatedAt) else row
  | _ => row

def actOnPayment (w : Write) (paymentNo : Bytes) (row : Option PaymentRow) : Option PaymentRow :=
  match w with
  | .insertPayment new => if new.paymentNo = paymentNo then row.or (some new) else row
  | .setPayment target status channelTradeNo =>
      if target = paymentNo then row.map (.advance status channelTradeNo) else row
  | _ => row

def actOnRefund (w : Write) (refundNo : Bytes) (row : Option RefundRow) : Option RefundRow :=
  match w with
  | .insertRefund new => if new.refundNo = refundNo then row.or (some new) else row
  | .setRefund target status channelRefundNo updatedAt =>
      if target = refundNo then row.map (.advance status channelRefundNo updatedAt) else row
  | .touchRefund target updatedAt => if target = refundNo then row.map (.touch updatedAt) else row
  | _ => row

def actOnIdempotency (w : Write) (idempotencyKey : Bytes) (row : Option IdempotencyRow) :
    Option IdempotencyRow :=
  match w with
  | .insertIdempotency new => if new.idempotencyKey = idempotencyKey then row.or (some new) else row
  | .setSnapshot target snapshot =>
      if target = idempotencyKey then row.map (.finalize snapshot) else row
  | .deleteIdempotency target => if target = idempotencyKey then none else row
  | _ => row

/-- The order rows. -/
def orderColumn : Column payStore Bytes (Option OrderRow) where
  read db orderNo := db.orders.find orderNo
  act := actOnOrder
  lock := Key.order
  read_apply db w orderNo := by
    cases w with
    | insertOrder new => exact Table.find_insert _ _ _
    | setOrder target status updatedAt =>
        exact db.orders.find_modify target (.advance status updatedAt) (fun _ => rfl) orderNo
    | _ => rfl
  act_unlocked w orderNo row unlocked := by
    cases w with
    | insertOrder new =>
        simp only [Write.keys, List.mem_singleton, Key.order.injEq] at unlocked
        exact if_neg fun same => unlocked same.symm
    | setOrder target status updatedAt =>
        simp only [Write.keys, List.mem_singleton, Key.order.injEq] at unlocked
        exact if_neg fun same => unlocked same.symm
    | _ => rfl

/-- The payment rows. -/
def paymentColumn : Column payStore Bytes (Option PaymentRow) where
  read db paymentNo := db.payments.find paymentNo
  act := actOnPayment
  lock := Key.payment
  read_apply db w paymentNo := by
    cases w with
    | insertPayment new => exact Table.find_insert _ _ _
    | setPayment target status channelTradeNo =>
        exact db.payments.find_modify target (.advance status channelTradeNo) (fun _ => rfl)
          paymentNo
    | _ => rfl
  act_unlocked w paymentNo row unlocked := by
    cases w with
    | insertPayment new =>
        simp only [Write.keys, List.mem_singleton, Key.payment.injEq] at unlocked
        exact if_neg fun same => unlocked same.symm
    | setPayment target status channelTradeNo =>
        simp only [Write.keys, List.mem_singleton, Key.payment.injEq] at unlocked
        exact if_neg fun same => unlocked same.symm
    | _ => rfl

/-- The refund rows. -/
def refundColumn : Column payStore Bytes (Option RefundRow) where
  read db refundNo := db.refunds.find refundNo
  act := actOnRefund
  lock := Key.refund
  read_apply db w refundNo := by
    cases w with
    | insertRefund new => exact Table.find_insert _ _ _
    | setRefund target status channelRefundNo updatedAt =>
        exact db.refunds.find_modify target (.advance status channelRefundNo updatedAt)
          (fun _ => rfl) refundNo
    | touchRefund target updatedAt =>
        exact db.refunds.find_modify target (.touch updatedAt) (fun _ => rfl) refundNo
    | _ => rfl
  act_unlocked w refundNo row unlocked := by
    cases w with
    | insertRefund new =>
        simp only [Write.keys, List.mem_singleton, Key.refund.injEq] at unlocked
        exact if_neg fun same => unlocked same.symm
    | setRefund target status channelRefundNo updatedAt =>
        simp only [Write.keys, List.mem_singleton, Key.refund.injEq] at unlocked
        exact if_neg fun same => unlocked same.symm
    | touchRefund target updatedAt =>
        simp only [Write.keys, List.mem_singleton, Key.refund.injEq] at unlocked
        exact if_neg fun same => unlocked same.symm
    | _ => rfl

/-- The idempotency rows. -/
def idempotencyColumn : Column payStore Bytes (Option IdempotencyRow) where
  read db key := db.idempotency.find key
  act := actOnIdempotency
  lock := Key.idempotency
  read_apply db w key := by
    cases w with
    | insertIdempotency new => exact Table.find_insert _ _ _
    | setSnapshot target snapshot =>
        exact db.idempotency.find_modify target (.finalize snapshot) (fun _ => rfl) key
    | deleteIdempotency target =>
        refine (db.idempotency.find_deleteIf (· = target) key).trans ?_
        simp only [actOnIdempotency, decide_eq_true_eq]
        simp only [eq_comm]
    | _ => rfl
  act_unlocked w key row unlocked := by
    cases w with
    | insertIdempotency new =>
        simp only [Write.keys, List.mem_singleton, Key.idempotency.injEq] at unlocked
        exact if_neg fun same => unlocked same.symm
    | setSnapshot target snapshot =>
        simp only [Write.keys, List.mem_singleton, Key.idempotency.injEq] at unlocked
        exact if_neg fun same => unlocked same.symm
    | deleteIdempotency target =>
        simp only [Write.keys, List.mem_singleton, Key.idempotency.injEq] at unlocked
        exact if_neg fun same => unlocked same.symm
    | _ => rfl

end DrogonPay

import DrogonPay.Model.Effects
import DrogonPay.Services.Reconciliation

/-!
Contract: what the services promise when they issue a statement, commit a
transaction, or end.

Owns:
- `Saw`, `Owner` and `Says`, the vocabulary of the promises: what a process has
  read, whose request it serves, and what a channel message claims;
- `Promise`, `CommitPromise` and `FinishPromise`, joined in `payContract`;
- the rules for the ends of a program that every service shares.

Does not own: the proofs that the services keep the contract, or what follows
for a run from it.
-/

namespace DrogonPay

open ReadCommitted

/-! ## What a process knows -/

/-- The process has seen this answer to this statement. -/
def Saw (known : List PayEntry) (st : Stmt) (res : st.Res) : Prop :=
  (Entry.ran st res : PayEntry) ∈ known

/-- The request the process was started for. -/
def Owner (log : List PayEntry) (request : Request) : Prop :=
  log.head? = some (.spawned request)

/-- The request a process serves, to be evaluated. -/
def requestOf (log : List PayEntry) : Option Request :=
  match log.head? with
  | some (.spawned request) => some request
  | _ => none

theorem requestOf_owner {log : List PayEntry} {request : Request} (owner : Owner log request) :
    requestOf log = some request := by
  have head : log.head? = some (.spawned request) := owner
  simp [requestOf, head]

theorem owner_of_requestOf {log : List PayEntry} {request : Request}
    (isRequest : requestOf log = some request) : Owner log request := by
  unfold requestOf at isRequest
  split at isRequest
  · rename_i head
    cases isRequest
    exact head
  · cases isRequest

/-- Money came in for the order, or it was given back since. -/
def OrderStatus.booked (status : OrderStatus) : Bool := status = .PAID || status = .REFUNDED

theorem OrderStatus.booked_iff {status : OrderStatus} :
    status.booked = true ↔ status = .PAID ∨ status = .REFUNDED := by
  simp [OrderStatus.booked]

/-- The order status that a message of a channel about order `orderNo` maps to,
as the code that works it off maps it. -/
def saidOf (orderNo : Bytes) : PayEntry → Option OrderStatus
  | .spawned (.paymentNotification notification _) =>
      if notification.plain.stringAt "out_trade_no" = some orderNo then
        (notification.plain.stringAt "trade_state").map fun tradeState =>
          (PayUtils.mapTradeState tradeState).1
      else none
  | .spawned (.alipayNotification tradeNo outTradeNo tradeStatus totalAmount) =>
      if outTradeNo = orderNo then
        (PaymentService.readAlipayAnswer (PaymentService.alipayResult tradeNo outTradeNo
          tradeStatus totalAmount)).join.map (·.orderStatus)
      else none
  | .answered (.queryPayment channel asked) a =>
      if asked = orderNo then
        (if channel = ascii "wechat" then PaymentService.readWechatAnswer a.result
          else PaymentService.readAlipayAnswer a.result).join.map (·.orderStatus)
      else none
  | _ => none

/-- A message by which money came in for the order. -/
def SaysBooked (orderNo : Bytes) (message : PayEntry) : Prop :=
  ∃ status, saidOf orderNo message = some status ∧ status.booked

/-- The total of a WeChat payment notification, in fen. -/
def notifiedTotal (plain : Json) : Option Int := do
  (← plain.at? (ascii "amount")).intAt "total"

/-- A message of a channel that names order `orderNo` and a total of `fen`. -/
inductive Says : PayEntry → Bytes → Nat → Prop where
  | notification {notification : Notification} {ownerToken : Drawn} {orderNo : Bytes} {fen : Nat}
      (named : notification.plain.stringAt "out_trade_no" = some orderNo)
      (total : notifiedTotal notification.plain = some (fen : Int)) :
      Says (.spawned (.paymentNotification notification ownerToken)) orderNo fen
  | wechatAnswer {orderNo : Bytes} {a : ChannelAnswer} {said : PaymentService.SyncAnswer}
      {fen : Nat} (read : PaymentService.readWechatAnswer a.result = some (some said))
      (total : said.totalFen = fen) :
      Says (.answered (.queryPayment (ascii "wechat") orderNo) a) orderNo fen
  | alipayAnswer {orderNo : Bytes} {a : ChannelAnswer} {said : PaymentService.SyncAnswer}
      {fen : Nat} (read : PaymentService.readAlipayAnswer a.result = some (some said))
      (total : said.totalFen = fen) :
      Says (.answered (.queryPayment (ascii "alipay") orderNo) a) orderNo fen
  | alipayNotification {tradeNo orderNo tradeStatus totalAmount : Bytes} {fen : Nat}
      (total : PayUtils.parseAmountToFen totalAmount = some fen) :
      Says (.spawned (.alipayNotification tradeNo orderNo tradeStatus totalAmount)) orderNo fen

/-! ## Promises -/

open PaymentService (openStatuses)
open RefundService (countedStatuses)

/-- The process read an attempt of this number, outside its transaction or under
its lock. -/
def AttemptSeen (log record : List PayEntry) (payment : PaymentRow) : Prop :=
  Saw log (.newestAttempt payment.orderNo openStatuses) (some payment) ∨
    Saw record (.lockAttempt payment.orderNo openStatuses) (some payment)

/-- The process has a message, and read the attempt in its last statement outside
its transaction, or it was started by the message and holds the lock of the
attempt. -/
def Holds (log record : List PayEntry) (payment : PaymentRow) (message : PayEntry) : Prop :=
  (log.getLast? = some (.ran (.newestAttempt payment.orderNo openStatuses) (some payment)) ∧
      message ∈ log) ∨
    (Saw record (.lockAttempt payment.orderNo openStatuses) (some payment) ∧
      log.head? = some message)

theorem Holds.seen {log record : List PayEntry} {payment : PaymentRow} {message : PayEntry}
    (holds : Holds log record payment message) : AttemptSeen log record payment :=
  holds.imp (fun ⟨last, _⟩ => List.mem_of_getLast? last) And.left

theorem Holds.heard {log record : List PayEntry} {payment : PaymentRow} {message : PayEntry}
    (holds : Holds log record payment message) : message ∈ log :=
  holds.elim And.right fun ⟨_, head⟩ => List.mem_of_mem_head? head

/-- An attempt that has not come to its end. -/
def PaymentStatus.unsettled (status : PaymentStatus) : Bool :=
  status = .INIT || status = .PROCESSING

/-- The process holds a message by which money came in for the order of the
attempt it settles, with the positive amount of the attempt as its total. -/
def SettlePromise (log record : List PayEntry) (paymentNo : Bytes) : Prop :=
  ∃ payment message fen, Holds log record payment message ∧ payment.paymentNo = paymentNo ∧
    payment.status.unsettled ∧ SaysBooked payment.orderNo message ∧
    Says message payment.orderNo fen ∧ 0 < fen ∧
    PayUtils.parseAmountToFen payment.amount = some fen

/-- The transaction settled an attempt of the order, or the process had read one
settled. -/
def SettledSeen (log record : List PayEntry) (payment : PaymentRow) : Prop :=
  (∃ tradeNo, Saw record (.casPayment payment.paymentNo .SUCCESS tradeNo) true) ∨
    (payment.status = .SUCCESS ∧
      Saw log (.newestAttempt payment.orderNo openStatuses) (some payment))

/-- A settled sum was read that covers the total of the order. -/
def CoverPromise (known : List PayEntry) (orderNo : Bytes) : Prop :=
  ∃ order sumText, Saw known (.findOrder orderNo) (some order) ∧
    Saw known (.sumRefunds orderNo [.REFUND_SUCCESS]) sumText ∧
    PayUtils.refundsCoverOrderAmount (PayUtils.fenOf sumText) (PayUtils.fenOf order.amount) = true

/-- A transaction without a statement that writes to this table. -/
def Spares (table : TableName) (record : List PayEntry) : Prop :=
  ∀ (st : Stmt) (res : st.Res), Saw record st res → st.table ≠ some table

/-- An order is written by primary key once in a transaction, to the status that a
message stands for under the refunds that were summed. Only who locked its attempt
writes an order that was found PAID, and a booked one has a settled attempt. -/
structure OrderWrite (log record : List PayEntry) (orderNo : Bytes) (status : OrderStatus) :
    Prop where
  first : Spares .orders record
  told : ∃ message ∈ log, ∃ mapped order settledRefundFen,
    saidOf orderNo message = some mapped ∧ Saw record (.findOrder orderNo) (some order) ∧
    (∀ sumText, Saw record (.sumRefunds orderNo [.REFUND_SUCCESS]) sumText →
      settledRefundFen = PayUtils.fenOf sumText) ∧
    status = PayUtils.resolveRefundedOrderStatus mapped settledRefundFen
      (PayUtils.fenOf order.amount)
  found : ∀ order, Saw record (.findOrder orderNo) (some order) → order.status = .PAID →
    ∃ payment, Saw record (.lockAttempt orderNo openStatuses) (some payment)
  settled : status.booked → ∃ payment, AttemptSeen log record payment ∧
    payment.orderNo = orderNo ∧ SettledSeen log record payment

/-- Outside of transactions an order is written by primary key only to FAILED. -/
def OrderPromise (log : List PayEntry) (record : Option (List PayEntry)) (orderNo : Bytes)
    (status : OrderStatus) : Prop :=
  match record with
  | none => status = .FAILED
  | some entries => OrderWrite log entries orderNo status

/-- An attempt is worth its order: the order was booked with the same text, or
is being reused after a comparison. In a transaction it is the first, and a probe
for settled ones right before it found none. -/
def BookingPromise (log : List PayEntry) (record : Option (List PayEntry))
    (booking : PaymentBooking) : Prop :=
  booking.paymentNo ≠ [] ∧
    match record with
    | some record =>
        Spares .payments record ∧
          ∃ order now, Saw record (.insertOrder order) now ∧ order.orderNo = booking.orderNo ∧
            order.amount = booking.amount
    | none =>
        (∀ orderNo settled, log.getLast? = some (.ran (.settledAttempts orderNo) settled) →
          settled = []) ∧
        ((∃ order now, Saw log (.insertOrder order) now ∧ order.orderNo = booking.orderNo ∧
          order.amount = booking.amount) ∨
        ∃ row, Saw log (.findOrder booking.orderNo) (some row) ∧
          PayUtils.parseAmountToFen row.amount = PayUtils.parseAmountToFen booking.amount)

/-- The request of a process that books a refund, with the order it read and the
fen of both. -/
def RefundCaseSeen (log : List PayEntry) (orderNo amount : Bytes) (refundFen totalFen : Nat) :
    Prop :=
  (∃ request idempotencyKey uuid, Owner log (.createRefund request idempotencyKey uuid) ∧
      request.orderNo = orderNo ∧ request.amount = amount) ∧
    (∃ order, Saw log (.findOrder orderNo) (some order) ∧
      PayUtils.parseAmountToFen order.amount = some totalFen) ∧
    PayUtils.parseAmountToFen amount = some refundFen ∧ 0 < refundFen ∧ refundFen ≤ totalFen

/-- A refund is booked right after the sum of the counted refunds, under the lock
of its payment, and only when the comparison passed. -/
def RefundPromise (log : List PayEntry) (record : Option (List PayEntry))
    (booking : RefundBooking) : Prop :=
  ∃ payment sumText refundedFen refundFen totalFen,
    record = some [.ran (.lockPayment booking.paymentNo booking.orderNo) (some payment),
      .ran (.sumRefunds booking.orderNo countedStatuses) sumText] ∧
    RefundCaseSeen log booking.orderNo booking.amount refundFen totalFen ∧
    PayUtils.parseAmountToFen sumText = some refundedFen ∧
    PayUtils.addInt64 refundedFen refundFen ≤ totalFen

/-- The counted refunds of an order are summed only to book one, as the second
statement of the transaction. -/
def SumPromise (log : List PayEntry) (record : Option (List PayEntry)) (orderNo : Bytes) : Prop :=
  (∃ paymentNo payment,
      record = some [.ran (.lockPayment paymentNo orderNo) (some payment)]) ∧
    ∃ amount refundFen totalFen, RefundCaseSeen log orderNo amount refundFen totalFen

/-- The status a WeChat message carries under this name stands for a settled
refund. -/
def SaysRefunded (body : Json) (name : String) : Prop :=
  ∃ raw, body.stringAt name = some raw ∧
    PayUtils.mapRefundStatus raw = some .REFUND_SUCCESS

/-- An answer by which the refund that was asked for, or asked after, is made. -/
inductive RefundMade : ChannelCall → ChannelAnswer → Prop where
  | wechat {payload : Json} {a : ChannelAnswer} (through : a.error = [])
      (said : SaysRefunded a.result "status") : RefundMade (.refund (ascii "wechat") payload) a
  | alipay {payload : Json} {a : ChannelAnswer} (through : a.error = [])
      (said : a.result.stringAt "code" = some (ascii "10000")) :
      RefundMade (.refund (ascii "alipay") payload) a
  | query {refundNo : Bytes} {a : ChannelAnswer} (through : a.error = [])
      (said : SaysRefunded a.result "status") :
      RefundMade (.queryRefund (ascii "wechat") refundNo) a

/-- The call asks for this refund, with this amount. Alipay is told the order
only. -/
inductive AsksFor : ChannelCall → RefundBooking → Nat → Prop where
  | wechat {payload amount : Json} {booking : RefundBooking} {fen : Nat}
      (named : payload.at? (ascii "out_refund_no") = some (.str booking.refundNo))
      (has : payload.at? (ascii "amount") = some amount)
      (refund : amount.at? (ascii "refund") = some (.int fen)) :
      AsksFor (.refund (ascii "wechat") payload) booking fen
  | alipay {payload : Json} {booking : RefundBooking} {fen : Nat}
      (named : payload.at? (ascii "out_trade_no") = some (.str booking.orderNo))
      (refund : payload.at? (ascii "refund_amount") = some (.str booking.amount))
      (worth : PayUtils.parseAmountToFen booking.amount = some fen) :
      AsksFor (.refund (ascii "alipay") payload) booking fen

/-- The refunded fen a WeChat message names. -/
def refundedFen (body : Json) : Option Int := do
  (← body.at? (ascii "amount")).intAt "refund"

/-- A notification about this refund whose amount passed the comparison with the
row. -/
def NotifiesRefund (entry : PayEntry) (refund : RefundRow) : Prop :=
  ∃ notification ownerToken fen, entry = .spawned (.refundNotification notification ownerToken) ∧
    notification.plain.stringAt "out_refund_no" = some refund.refundNo ∧
    refundedFen notification.plain = some ((fen : Nat) : Int) ∧
    PayUtils.parseAmountToFen refund.amount = some fen

/-- The message by which a refund that was read is settled: a notification with
its amount, or an answer about it. -/
def RefundMessage (log : List PayEntry) (refund : RefundRow) : Prop :=
  (∃ entry ∈ log, NotifiesRefund entry refund) ∨
    ∃ a, .answered (.queryRefund (ascii "wechat") refund.refundNo) a ∈ log ∧
      RefundMade (.queryRefund (ascii "wechat") refund.refundNo) a

/-- A refund is settled outside a transaction only by the process that booked it,
on the answer to its call, and inside one only by its first statement, after the
row was read and a message about it came. -/
def RefundMovePromise (log : List PayEntry) (record : Option (List PayEntry))
    (refundNo : Bytes) (status : RefundStatus) : Prop :=
  match record with
  | none =>
      status = .REFUND_SUCCESS →
        ∃ booking now refundFen totalFen, Saw log (.insertRefund booking) now ∧
          booking.refundNo = refundNo ∧
          RefundCaseSeen log booking.orderNo booking.amount refundFen totalFen ∧
          ∃ call a, .answered call a ∈ log ∧ RefundMade call a ∧ AsksFor call booking refundFen
  | some record =>
      record = [] ∧ ∃ refund, refund.refundNo = refundNo ∧
        Saw log (.findRefund refundNo) (some refund) ∧
        (status = .REFUND_SUCCESS → RefundMessage log refund)

/-- Income is booked for an attempt that the transaction settled or that was read
settled, with the amount of its order. -/
def IncomePromise (log record : List PayEntry) (row : LedgerRow) : Prop :=
  (∃ order, Saw record (.findOrder row.orderNo) (some order) ∧ row.amount = order.amount) ∧
    ∃ payment, AttemptSeen log record payment ∧ payment.paymentNo = row.paymentNo ∧
      payment.orderNo = row.orderNo ∧ SettledSeen log record payment

/-- No refund has been booked in the ledger yet. -/
def NoRefundEntry (record : List PayEntry) : Prop :=
  ∀ row res, Saw record (.insertLedger row) res → row.entryType ≠ .REFUND

/-- The transaction began by settling refund `refundNo`: with a guard, or by
primary key. -/
def SettlesRefund (record : List PayEntry) (refundNo : Bytes) (byKey : Bool) : Prop :=
  match byKey with
  | false => ∃ refundId now rest,
      record = .ran (.casRefund refundNo .REFUND_SUCCESS refundId) (some now) :: rest
  | true => ∃ refundId res rest,
      record = .ran (.updateRefund refundNo .REFUND_SUCCESS refundId) res :: rest

/-- A refund is booked once, for the refund the transaction settled; after a
write by primary key only if no row of the order and payment was found. -/
def RefundEntryPromise (log record : List PayEntry) (row : LedgerRow) : Prop :=
  NoRefundEntry record ∧
    ∃ refundNo refund byKey, Saw log (.findRefund refundNo) (some refund) ∧
      row.orderNo = refund.orderNo ∧ row.paymentNo = refund.paymentNo ∧
      row.amount = refund.amount ∧ SettlesRefund record refundNo byKey ∧
      (byKey = true → Saw record (.findLedger row.orderNo .REFUND row.paymentNo) none)

def LedgerPromise (log : List PayEntry) (record : Option (List PayEntry)) (row : LedgerRow) :
    Prop :=
  ∃ entries, record = some entries ∧
    match row.entryType with
    | .PAYMENT => IncomePromise log entries row
    | .REFUND => RefundEntryPromise log entries row

/-- No client response is stored in this form: it is what a delivery leaves. -/
def Unlike (snapshot : Json) : Prop :=
  ∀ requestHash response, snapshot ≠ IdempotencyService.snapshotOf requestHash response

/-- What is promised of a statement that is about to run. -/
def Promise (log : List PayEntry) (record : Option (List PayEntry)) : Stmt → Prop
  | .findOrder _ => Spares .orders (record.getD [])
  | .newestAttempt _ _ => record = none
  | .lockAttempt _ _ => record = some []
  | .insertPayment booking => BookingPromise log record booking
  | .casPayment paymentNo status _ =>
      status ≠ .REFUNDED ∧ Spares .payments (record.getD []) ∧
        (status = .SUCCESS → ∃ entries, record = some entries ∧ SettlePromise log entries paymentNo)
  | .failPayment _ => record = none
  | .updateOrder orderNo status =>
      OrderPromise log record orderNo status ∧ Spares .refunds (record.getD []) ∧
        (status = .REFUNDED → CoverPromise (log ++ record.getD []) orderNo)
  | .coverOrder orderNo => CoverPromise (log ++ record.getD []) orderNo
  | .sumRefunds orderNo statuses => statuses = countedStatuses → SumPromise log record orderNo
  | .insertRefund booking => RefundPromise log record booking
  | .casRefund refundNo status _ => RefundMovePromise log record refundNo status
  | .updateRefund refundNo status _ =>
      record.isSome ∧ RefundMovePromise log record refundNo status
  | .insertLedger row => LedgerPromise log record row
  | .saveSnapshot _ requestHash snapshot =>
      ∃ response, snapshot = IdempotencyService.snapshotOf requestHash response
  | .finalizeReservation _ _ snapshot => Unlike snapshot
  | _ => True

/-- A trade is closed by a sweep that read its order, with a deadline that has
passed. -/
def ClosePromise (log : List PayEntry) (orderNo : Bytes) : Prop :=
  ∃ now channel limit rows order, Owner log (.reconcile now) ∧
    Saw log (.sweepOrders channel limit) rows ∧ order ∈ rows ∧ order.orderNo = orderNo ∧
    order.expireAt.any (· < (now : Int)) = true

/-- What is promised of a call. -/
def CallPromise (log : List PayEntry) : ChannelCall → Prop
  | .closeOrder _ orderNo => ClosePromise log orderNo
  | _ => True

/-! ## Commits -/

/-- A transaction that settled an attempt booked the order of it, or found it
PAID. -/
def OrderCommit (log record : List PayEntry) : Prop :=
  ∀ paymentNo tradeNo, Saw record (.casPayment paymentNo .SUCCESS tradeNo) true →
    ∃ payment, AttemptSeen log record payment ∧ payment.paymentNo = paymentNo ∧
      ((∃ status stamp, status.booked ∧ Saw record (.updateOrder payment.orderNo status) stamp) ∨
        ∃ order, Saw record (.findOrder payment.orderNo) (some order) ∧ order.status = .PAID)

/-- A transaction that settled an attempt booked its income or found it booked,
unless its last read was the order of the attempt at PAID. -/
def IncomeCommit (log record : List PayEntry) : Prop :=
  ∀ paymentNo tradeNo, Saw record (.casPayment paymentNo .SUCCESS tradeNo) true →
    (∃ row res, Saw record (.insertLedger row) res ∧ row.entryType = .PAYMENT ∧
      row.paymentNo = paymentNo) ∨
    (∃ orderNo row, Saw record (.findLedger orderNo .PAYMENT paymentNo) (some row)) ∨
    ∃ before payment order, record = before ++
      [.ran (.casPayment paymentNo .SUCCESS tradeNo) true,
        .ran (.findOrder payment.orderNo) (some order)] ∧ order.status = .PAID ∧
      Saw log (.newestAttempt payment.orderNo openStatuses) (some payment) ∧
      payment.paymentNo = paymentNo

/-- A transaction that settled a refund booked it, unless the sync found a row of
the order and payment. -/
def RefundEntryCommit (log record : List PayEntry) : Prop :=
  ∀ refundNo byKey, SettlesRefund record refundNo byKey →
    (∃ row res, Saw record (.insertLedger row) res ∧ row.entryType = .REFUND) ∨
    (byKey = true ∧ ∃ refund row, Saw log (.findRefund refundNo) (some refund) ∧
      Saw record (.findLedger refund.orderNo .REFUND refund.paymentNo) (some row))

/-- The order of a settled refund was covered, or a sum showed that it is not,
or it was not PAID. -/
def CoverDecided (log record : List PayEntry) (orderNo : Bytes) : Prop :=
  (∃ res, Saw record (.coverOrder orderNo) res) ∨
  (∃ order sumText, Saw (log ++ record) (.findOrder orderNo) (some order) ∧
    Saw record (.sumRefunds orderNo [.REFUND_SUCCESS]) sumText ∧
    PayUtils.refundsCoverOrderAmount (PayUtils.fenOf sumText) (PayUtils.fenOf order.amount) =
      false) ∨
  ∃ order, Saw record (.findOrder orderNo) (some order) ∧ order.status ≠ .PAID

def CoverCommit (log record : List PayEntry) : Prop :=
  ∀ refundNo byKey, SettlesRefund record refundNo byKey →
    ∃ refund, Saw log (.findRefund refundNo) (some refund) ∧
      CoverDecided log record refund.orderNo

def CommitPromise (log record : List PayEntry) : Prop :=
  IncomeCommit log record ∧ RefundEntryCommit log record ∧ CoverCommit log record ∧
    OrderCommit log record

/-! ## Ends -/

/-- An entry by which the create path settles a refund. -/
def Entry.Settles (refundNo : Bytes) (entry : PayEntry) : Prop :=
  ∃ refundId now, entry = .ran (.casRefund refundNo .REFUND_SUCCESS refundId) (some now)

/-- Every refund the log settles is followed by the decision about its order. -/
def AllDecided (log : List PayEntry) : Prop :=
  ∀ before refundNo entry after, log = before ++ entry :: after → Entry.Settles refundNo entry →
    ∃ booking now, Saw before (.insertRefund booking) now ∧ booking.refundNo = refundNo ∧
      CoverDecided before after booking.orderNo

/-- A create-refund process ends only with its decisions made. -/
def FinishPromise (log : List PayEntry) : Prop :=
  ∀ request idempotencyKey uuid, Owner log (.createRefund request idempotencyKey uuid) →
    AllDecided log

/-- The contract of the services. -/
def payContract : Contract paySig where
  issue := Promise
  call := CallPromise
  commit := CommitPromise
  finish := FinishPromise

/-! ## What a process knows grows -/

theorem Saw.mono {known known' : List PayEntry} {st : Stmt} {res : st.Res}
    (saw : Saw known st res) (grows : known ⊆ known') : Saw known' st res :=
  grows saw

theorem Saw.last {known : List PayEntry} {st : Stmt} {res : st.Res} :
    Saw (known ++ [.ran st res]) st res :=
  List.mem_append_right _ (List.mem_singleton_self _)

theorem Saw.append {known : List PayEntry} {st : Stmt} {res : st.Res} (saw : Saw known st res)
    (more : List PayEntry) : Saw (known ++ more) st res :=
  List.mem_append_left _ saw

theorem AttemptSeen.mono {log record record' : List PayEntry} {payment : PaymentRow}
    (seen : AttemptSeen log record payment) (grows : record ⊆ record') :
    AttemptSeen log record' payment :=
  seen.imp_right fun saw => saw.mono grows

theorem Owner.unique {log : List PayEntry} {request request' : Request} (owner : Owner log request)
    (owner' : Owner log request') : request = request' := by
  have spawned := Option.some.inj (owner.symm.trans owner')
  cases spawned
  rfl

theorem Owner.append {log : List PayEntry} {request : Request} (owner : Owner log request)
    (more : List PayEntry) : Owner (log ++ more) request := by
  cases log with
  | nil => cases owner
  | cons entry rest => exact owner

/-- The process may end here. -/
def Done (log : List PayEntry) : Prop := log ≠ [] ∧ (Unfailed log → FinishPromise log)

theorem CoverDecided.grows {log record record' : List PayEntry} {orderNo : Bytes}
    (decided : CoverDecided log record orderNo) (grows : record ⊆ record') :
    CoverDecided log record' orderNo := by
  rcases decided with ⟨res, cover⟩ | ⟨order, sumText, found, sum, uncovered⟩ |
    ⟨order, found, unpaid⟩
  · exact Or.inl ⟨res, cover.mono grows⟩
  · refine Or.inr (Or.inl ⟨order, sumText, found.mono ?_, sum.mono grows, uncovered⟩)
    exact List.append_subset.mpr ⟨List.subset_append_left _ _,
      List.Subset.trans grows (List.subset_append_right _ _)⟩
  · exact Or.inr (Or.inr ⟨order, found.mono grows, unpaid⟩)

theorem AllDecided.snoc {log : List PayEntry} {entry : PayEntry} (decided : AllDecided log)
    (settlesNot : ∀ refundNo, ¬ Entry.Settles refundNo entry) : AllDecided (log ++ [entry]) := by
  intro before refundNo settling after split settles
  rcases List.eq_nil_or_concat after with rfl | ⟨init, last, rfl⟩
  · have same : log = before ∧ entry = settling := by simpa using split
    rw [same.2] at settlesNot
    exact absurd settles (settlesNot refundNo)
  · rw [List.concat_eq_append] at split ⊢
    have shorter : log = before ++ settling :: init := by
      have joined : log ++ [entry] = (before ++ settling :: init) ++ [last] := by
        rw [split, List.append_assoc, List.cons_append]
      exact (List.append_inj' joined rfl).1
    obtain ⟨booking, now, saw, isRefund, covered⟩ :=
      decided before refundNo settling init shorter settles
    exact ⟨booking, now, saw, isRefund, covered.grows (List.subset_append_left _ _)⟩

/-- A refund that settles joins the decided ones once its order is decided. -/
theorem AllDecided.settle {log after : List PayEntry} {entry : PayEntry} {booking : RefundBooking}
    {now : Nat} (decided : AllDecided log) (booked : Saw log (.insertRefund booking) now)
    (settles : Entry.Settles booking.refundNo entry)
    (covered : CoverDecided log after booking.orderNo)
    (quiet : ∀ later ∈ after, ∀ refundNo, ¬ Entry.Settles refundNo later) :
    AllDecided (log ++ entry :: after) := by
  intro before refundNo settling rest split isSettling
  rcases List.append_eq_append_iff.mp split.symm with ⟨common, isLog, isRest⟩ | ⟨common, isBefore, isRest⟩
  · cases common with
    | nil =>
        obtain ⟨rfl, rfl⟩ := List.cons.inj isRest
        obtain rfl : log = before := by simpa using isLog
        obtain ⟨refundId, stamp, rfl⟩ := settles
        obtain ⟨refundId', stamp', eq⟩ := isSettling
        cases eq
        exact ⟨booking, now, booked, rfl, covered⟩
    | cons first common =>
        obtain ⟨rfl, rfl⟩ := List.cons.inj isRest
        obtain ⟨other, stamp, saw, isRefund, decides⟩ :=
          decided before refundNo _ common isLog isSettling
        exact ⟨other, stamp, saw, isRefund, decides.grows (List.subset_append_left _ _)⟩
  · cases common with
    | nil =>
        obtain ⟨rfl, rfl⟩ := List.cons.inj isRest
        obtain rfl : before = log := by simpa using isBefore
        obtain ⟨refundId, stamp, rfl⟩ := settles
        obtain ⟨refundId', stamp', eq⟩ := isSettling
        cases eq
        exact ⟨booking, now, booked, rfl, covered⟩
    | cons first common =>
        obtain ⟨rfl, isAfter⟩ := List.cons.inj isRest
        exact absurd isSettling (quiet settling (by simp [isAfter]) refundNo)

theorem Owner.of_append {log more : List PayEntry} {request : Request} (some : log ≠ [])
    (owner : Owner (log ++ more) request) : Owner log request := by
  cases log with
  | nil => exact absurd rfl some
  | cons first rest => exact owner

theorem Done.snoc {log : List PayEntry} {entry : PayEntry} (ends : Done log)
    (settlesNot : ∀ refundNo, ¬ Entry.Settles refundNo entry) : Done (log ++ [entry]) :=
  ⟨by simp, fun clean request idempotencyKey uuid owner =>
    (ends.2 clean.of_append request idempotencyKey uuid (owner.of_append ends.1)).snoc settlesNot⟩

theorem Done.replied {log : List PayEntry} (ends : Done log) (reply : Reply) :
    Done (log ++ [.replied reply]) :=
  ends.snoc fun _ => by rintro ⟨refundId, now, eq⟩; cases eq

/-- A process that saw a failure owes nothing. -/
theorem Done.failed (log : List PayEntry) (cause : Failure) : Done (log ++ [.failed cause]) :=
  ⟨by simp, fun clean => absurd (by simp) (clean cause)⟩

theorem Done.answered {log : List PayEntry} (ends : Done log) (x : ChannelCall)
    (a : ChannelAnswer) : Done (log ++ [.answered x a]) :=
  ends.snoc fun _ => by rintro ⟨refundId, now, eq⟩; cases eq

/-- A statement on another table than the refunds settles none. -/
theorem Done.ran {log : List PayEntry} (ends : Done log) {st : Stmt} {res : st.Res}
    (other : st.table ≠ some .refunds) : Done (log ++ [.ran st res]) := by
  refine ends.snoc fun _ => ?_
  rintro ⟨refundId, now, eq⟩
  cases eq
  exact other rfl

theorem Done.append {log more : List PayEntry} (ends : Done log)
    (settleNot : ∀ entry ∈ more, ∀ refundNo, ¬ Entry.Settles refundNo entry) :
    Done (log ++ more) := by
  induction more generalizing log with
  | nil => simpa using ends
  | cons entry rest inductionHypothesis =>
      rw [List.append_cons]
      exact inductionHypothesis (ends.snoc (settleNot entry (by simp)))
        fun later member => settleNot later (by simp [member])

/-- The process serves another request than a refund. -/
def Bystander (log : List PayEntry) : Prop :=
  ∃ request, Owner log request ∧
    ∀ refund idempotencyKey uuid, request ≠ .createRefund refund idempotencyKey uuid

theorem Bystander.append {log : List PayEntry} (bystander : Bystander log)
    (more : List PayEntry) : Bystander (log ++ more) := by
  obtain ⟨request, owner, other⟩ := bystander
  exact ⟨request, owner.append more, other⟩

theorem Bystander.finish {log : List PayEntry} (bystander : Bystander log) : FinishPromise log := by
  obtain ⟨request, owner, other⟩ := bystander
  intro refund idempotencyKey uuid isOwner
  have same : request = .createRefund refund idempotencyKey uuid := by
    have spawned := Option.some.inj (owner.symm.trans isOwner)
    cases spawned
    rfl
  exact absurd same (other refund idempotencyKey uuid)

theorem Bystander.done {log : List PayEntry} (bystander : Bystander log) : Done log := by
  refine ⟨fun empty => ?_, fun _ => bystander.finish⟩
  obtain ⟨request, owner, _⟩ := bystander
  simp [Owner, empty] at owner

/-! ## Ends of programs -/

/-- There is no open transaction. -/
def Idle (slot : Slot paySig) : Prop := ∀ record, slot ≠ .active record

theorem Idle.none : Idle .none := fun _ eq => by cases eq

theorem Idle.closed : Idle .closed := fun _ eq => by cases eq

theorem Idle.rolledBack (slot : Slot paySig) : Idle slot.rolledBack := by
  cases slot with
  | none => exact Idle.none
  | _ => exact Idle.closed

/-- A transaction that settled nothing. -/
def Plain (record : List PayEntry) : Prop :=
  (∀ paymentNo tradeNo, ¬ Saw record (.casPayment paymentNo .SUCCESS tradeNo) true) ∧
    ∀ refundNo byKey, ¬ SettlesRefund record refundNo byKey

theorem Plain.commit {log record : List PayEntry} (plain : Plain record) :
    CommitPromise log record :=
  ⟨fun paymentNo tradeNo settled => absurd settled (plain.1 paymentNo tradeNo),
    fun refundNo byKey settles => absurd settles (plain.2 refundNo byKey),
    fun refundNo byKey settles => absurd settles (plain.2 refundNo byKey),
    fun paymentNo tradeNo settled => absurd settled (plain.1 paymentNo tradeNo)⟩

theorem Spares.nil {table : TableName} : Spares table [] := fun _ _ saw => absurd saw List.not_mem_nil

theorem Spares.not_settles {record : List PayEntry} (spares : Spares .refunds record)
    (refundNo : Bytes) (byKey : Bool) : ¬ SettlesRefund record refundNo byKey := by
  intro settles
  cases byKey with
  | false =>
      obtain ⟨refundId, now, rest, rfl⟩ := settles
      exact spares _ _ (List.mem_cons_self ..) rfl
  | true =>
      obtain ⟨refundId, res, rest, rfl⟩ := settles
      exact spares _ _ (List.mem_cons_self ..) rfl

theorem Spares.snoc {table : TableName} {record : List PayEntry} (spares : Spares table record)
    {st : Stmt} {res : st.Res} (other : st.table ≠ some table) :
    Spares table (record ++ [.ran st res]) := by
  intro st' res' saw
  rcases List.mem_append.mp saw with old | new
  · exact spares st' res' old
  · have same := List.mem_singleton.mp new
    injection same with sameStmt _
    rw [sameStmt]
    exact other

/-- The writes of such a transaction leave the rows of the table as they are. -/
theorem Spares.read {K α : Type} {col : Column payStore K α} {table : TableName}
    {record : List PayEntry} (spares : Spares table record)
    (locked : ∀ w k, col.lock k ∈ Write.keys w → w.table = table) (db : Db) (k : K) :
    col.read (payStore.applyAll db (payStore.pending record)) k = col.read db k := by
  refine col.read_applyAll_unlocked fun w member isKey => ?_
  obtain ⟨entry, inRecord, write⟩ := List.mem_flatMap.mp member
  cases entry with
  | ran st res => exact spares st res inRecord (by rw [Stmt.writes_table write, locked w k isKey])
  | _ => cases write

theorem Spares.commit {log record : List PayEntry} (spares : Spares .refunds record)
    (income : IncomeCommit log record) (ordered : OrderCommit log record) :
    CommitPromise log record :=
  ⟨income, fun refundNo byKey settles => absurd settles (spares.not_settles refundNo byKey),
    fun refundNo byKey settles => absurd settles (spares.not_settles refundNo byKey), ordered⟩

/-! A commit asks only for what was seen, so it is not disturbed by more
knowledge. -/

theorem CoverDecided.append {log record : List PayEntry} {orderNo : Bytes}
    (decided : CoverDecided log record orderNo) (more : List PayEntry) :
    CoverDecided (log ++ more) record orderNo := by
  have grows : log ++ record ⊆ log ++ more ++ record := by simp
  rcases decided with cover | ⟨order, sumText, found, sum, uncovered⟩ | unpaid
  · exact Or.inl cover
  · exact Or.inr (Or.inl ⟨order, sumText, found.mono grows, sum, uncovered⟩)
  · exact Or.inr (Or.inr unpaid)

theorem CommitPromise.append {log record : List PayEntry} (commits : CommitPromise log record)
    (more : List PayEntry) : CommitPromise (log ++ more) record := by
  obtain ⟨income, entries, covers, ordered⟩ := commits
  refine ⟨fun paymentNo tradeNo settled => ?_, fun refundNo byKey settles => ?_,
    fun refundNo byKey settles => ?_, fun paymentNo tradeNo settled => ?_⟩
  · rcases income paymentNo tradeNo settled with booked | listed |
      ⟨before, payment, order, split, paid, seen, isPayment⟩
    · exact Or.inl booked
    · exact Or.inr (Or.inl listed)
    · exact Or.inr (Or.inr ⟨before, payment, order, split, paid, seen.append more, isPayment⟩)
  · rcases entries refundNo byKey settles with booked | ⟨isKey, refund, row, found, listed⟩
    · exact Or.inl booked
    · exact Or.inr ⟨isKey, refund, row, found.append more, listed⟩
  · obtain ⟨refund, found, decided⟩ := covers refundNo byKey settles
    exact ⟨refund, found.append more, decided.append more⟩
  · obtain ⟨payment, seen, isPayment, booked⟩ := ordered paymentNo tradeNo settled
    exact ⟨payment, seen.imp_left fun saw => saw.append more, isPayment, booked⟩

section Ends

variable {slot : Slot paySig} {log record : List PayEntry}

theorem verified_end (idle : Idle slot) (ends : Done log) :
    Verified payContract ⟨slot, log, []⟩ := by
  cases slot with
  | none => exact Verified.nil_none.mpr ends.2
  | active record => exact absurd rfl (idle record)
  | closed => exact Verified.nil_closed.mpr ends.2

theorem runs_end (idle : Idle slot) (ends : Done log) : Runs payContract slot log .done :=
  runs_done.mpr (verified_end idle ends)

/-- A program that stops in a transaction commits it. -/
theorem runs_end_active (commits : CommitPromise log record) (ends : Done (log ++ record)) :
    Runs payContract (.active record) log .done :=
  runs_done.mpr (Verified.nil_active.mpr ⟨commits, verified_end Idle.closed ends⟩)

theorem runs_answer (idle : Idle slot) (ends : Done log) (body : Json)
    (error : Option ErrorCode) : Runs payContract slot log (answer body error) :=
  runs_reply.mpr (runs_end idle (ends.replied _))

/-- A statement on a pooled connection that settles no refund leaves the process
free to end. -/
theorem runs_pooled {st : Stmt} {k : Option st.Res → PayProg} (ends : Done log)
    (promise : Promise log none st) (other : st.table ≠ some .refunds)
    (ran : ∀ res, st.Possible res → Done (log ++ [.ran st res]) →
      Runs payContract slot (log ++ [.ran st res]) (k (some res)))
    (failed : ∀ cause, Done (log ++ [.failed cause]) →
      Runs payContract slot (log ++ [.failed cause]) (k none)) :
    Runs payContract slot log (.sql .db st k) :=
  runs_sql_db.mpr ⟨promise, fun res possible => ran res possible (ends.ran other),
    fun cause => failed cause (Done.failed log cause)⟩

/-- Reporting at the end of a transaction of a bystander. -/
theorem runs_reports_active {program : PayProg} (reports : program.Reports)
    (bystander : Bystander log) (commits : CommitPromise log record) :
    Runs payContract (.active record) log program := by
  refine verifiedAll_reports reports fun outs => ?_
  refine Verified.nil_active.mpr ⟨commits.append _, verified_end Idle.closed ?_⟩
  exact ((bystander.append _).append record).done

theorem runs_reports {program : PayProg} (reports : program.Reports) (idle : Idle slot)
    (bystander : Bystander log) : Runs payContract slot log program :=
  verifiedAll_reports reports fun _ => verified_end idle (bystander.append _).done

theorem runs_rollback_reports {program : PayProg} (reports : program.Reports)
    (bystander : Bystander log) : Runs payContract slot log (.rollback program) :=
  runs_rollback.mpr (runs_reports reports (Idle.rolledBack slot) bystander)

/-- The callback keeps the contract wherever the process may end. -/
def Returns {α : Type} (callback : α → PayProg) : Prop :=
  ∀ a slot log, Idle slot → Done log → Runs payContract slot log (callback a)

theorem runs_orThrow {α : Type} {value : Option α} {next : α → PayProg} (idle : Idle slot)
    (ends : Done log) (continues : ∀ a, value = some a → Runs payContract slot log (next a)) :
    Runs payContract slot log (orThrow value next) := by
  cases value with
  | none => exact runs_end idle ends
  | some a => exact continues a rfl

end Ends

end DrogonPay

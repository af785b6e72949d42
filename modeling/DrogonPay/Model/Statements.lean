import DrogonPay.Model.Schema
import DrogonPay.ReadCommitted.Column
import Mathlib.Data.List.Sort

/-!
Contract: the SQL statements of the services, and what PostgreSQL answers to
them.

Owns:
- `Stmt` and `Stmt.Res`, one constructor for each statement shape of the source;
- `Stmt.run`, the result in a given state, with the unique and foreign keys;
- `Stmt.writes` and `payStore`, the store the services run on;
- the tables as columns of that store.

Does not own: which service issues which statement.
-/

namespace DrogonPay

open ReadCommitted

/-- What the server and the client clock add to a statement: the time, and the
order in which equal sort keys come out. -/
structure Env where
  now : Nat
  tie : Bytes → Nat

inductive Stmt where
  | findOrder (orderNo : Bytes)
  | insertOrder (booking : OrderBooking)
  /-- `Mapper::update` of an order: by primary key, whatever its status. -/
  | updateOrder (orderNo : Bytes) (status : OrderStatus)
  /-- `CREATED`/`PAYING` to `PAYING`. -/
  | promoteOrder (orderNo : Bytes)
  /-- `PAID` to `REFUNDED`. -/
  | coverOrder (orderNo : Bytes)
  | sweepOrders (channel : Bytes) (batch : Nat)
  | newestAttempt (orderNo : Bytes) (statuses : List PaymentStatus)
  /-- The same, `FOR UPDATE`. -/
  | lockAttempt (orderNo : Bytes) (statuses : List PaymentStatus)
  | settledAttempts (orderNo : Bytes)
  | findPayment (paymentNo : Bytes)
  | findPaymentOf (paymentNo orderNo : Bytes)
  | lockPayment (paymentNo orderNo : Bytes)
  | insertPayment (booking : PaymentBooking)
  /-- `INIT`/`PROCESSING` to a new status. -/
  | casPayment (paymentNo : Bytes) (status : PaymentStatus) (channelTradeNo : Option Bytes)
  /-- `Mapper::update` of a payment to `FAIL`: by primary key, whatever its status. -/
  | failPayment (paymentNo : Bytes)
  | findRefund (refundNo : Bytes)
  | successRefund (orderNo paymentNo amount : Bytes)
  | countOpenRefunds (orderNo paymentNo amount : Bytes)
  | sumRefunds (orderNo : Bytes) (statuses : List RefundStatus)
  | insertRefund (booking : RefundBooking)
  /-- `REFUND_INIT`/`REFUNDING` to a new status. -/
  | casRefund (refundNo : Bytes) (status : RefundStatus) (channelRefundNo : Option Bytes)
  /-- `Mapper::update` of a refund: by primary key, whatever its status. -/
  | updateRefund (refundNo : Bytes) (status : RefundStatus) (channelRefundNo : Bytes)
  | setRefundPayload (refundNo : Bytes)
  | sweepRefunds (batch : Nat)
  | findLedger (orderNo : Bytes) (entryType : EntryType) (paymentNo : Bytes)
  | insertLedger (row : LedgerRow)
  | insertCallback (row : CallbackRow)
  | findIdempotency (idempotencyKey : Bytes)
  /-- The row of the key unless it has expired. -/
  | findLiveIdempotency (idempotencyKey : Bytes)
  /-- `INSERT .. ON CONFLICT DO NOTHING`. -/
  | reserve (idempotencyKey requestHash : Bytes) (ownerToken : Option Bytes) (ttl : Nat)
  | saveSnapshot (idempotencyKey requestHash : Bytes) (snapshot : Json)
  | clearReservation (idempotencyKey requestHash : Bytes)
  | dropReservation (idempotencyKey : Bytes)
  | finalizeReservation (idempotencyKey ownerToken : Bytes) (snapshot : Json)
  | purgeIdempotency

/-- What a statement answers. An UPDATE answers whether it matched its row, and
with which time it stamped it where `updated_at` matters; an INSERT answers the
time it ran at. -/
abbrev Stmt.Res : Stmt → Type
  | .findOrder _ => Option OrderRow
  | .insertOrder _ => Nat
  | .updateOrder _ _ => Option Nat
  | .promoteOrder _ => Option Nat
  | .coverOrder _ => Option Nat
  | .sweepOrders _ _ => List OrderRow
  | .newestAttempt _ _ => Option PaymentRow
  | .lockAttempt _ _ => Option PaymentRow
  | .settledAttempts _ => List PaymentRow
  | .findPayment _ => Option PaymentRow
  | .findPaymentOf _ _ => Option PaymentRow
  | .lockPayment _ _ => Option PaymentRow
  | .insertPayment _ => Nat
  | .casPayment _ _ _ => Bool
  | .failPayment _ => Bool
  | .findRefund _ => Option RefundRow
  | .successRefund _ _ _ => Option RefundRow
  | .countOpenRefunds _ _ _ => Nat
  | .sumRefunds _ _ => Bytes
  | .insertRefund _ => Nat
  | .casRefund _ _ _ => Option Nat
  | .updateRefund _ _ _ => Option Nat
  | .setRefundPayload _ => Option Nat
  | .sweepRefunds _ => List RefundRow
  | .findLedger _ _ _ => Option LedgerRow
  | .insertLedger _ => Unit
  | .insertCallback _ => Unit
  | .findIdempotency _ => Option IdempotencyRow
  | .findLiveIdempotency _ => Option IdempotencyRow
  | .reserve _ _ _ _ => Option Nat
  | .saveSnapshot _ _ _ => Bool
  | .clearReservation _ _ => Bool
  | .dropReservation _ => Bool
  | .finalizeReservation _ _ _ => Bool
  | .purgeIdempotency => List Bytes

/-! ## Results -/

/-- `ORDER BY stamp DESC`; the order of equal stamps is the environment's. -/
def newestFirst {ρ : Type} (stamp tie : ρ → Nat) (rows : List ρ) : List ρ :=
  rows.insertionSort fun a b => stamp b < stamp a ∨ (stamp a = stamp b ∧ tie a ≤ tie b)

/-- The text of `COALESCE(SUM(CAST(amount AS NUMERIC)), 0)`; `none` when a cast
fails. -/
def numericSum (amounts : List Bytes) : Option Bytes :=
  (amounts.mapM Decimal.cast).map fun terms => (Decimal.sum terms).text

namespace Db

def attempts (db : Db) (env : Env) (orderNo : Bytes) (statuses : List PaymentStatus) :
    List PaymentRow :=
  newestFirst PaymentRow.createdAt (fun row => env.tie row.paymentNo)
    (db.payments.rows.filter fun row => row.orderNo = orderNo && statuses.contains row.status)

def refundsOf (db : Db) (orderNo : Bytes) (statuses : List RefundStatus) : List RefundRow :=
  db.refunds.rows.filter fun row => row.orderNo = orderNo && statuses.contains row.status

/-- The refunds of one payment with the same amount text, in some statuses. -/
def sameRefunds (db : Db) (orderNo paymentNo amount : Bytes) (statuses : List RefundStatus) :
    List RefundRow :=
  (db.refundsOf orderNo statuses).filter fun row => row.paymentNo = paymentNo && row.amount = amount

/-- The orders a sweep of a channel looks at: unpaid ones, unless they were
created in the last 300 seconds and not yet offered. -/
def pendingOrders (db : Db) (now : Nat) (channel : Bytes) : List OrderRow :=
  db.orders.rows.filter fun row => row.channel = channel &&
    (row.status = .PAYING || (row.status = .CREATED && row.createdAt + 300 < now))

def hasIncome (db : Db) (paymentNo : Bytes) : Bool :=
  db.ledger.any fun row => row.entryType = .PAYMENT && row.paymentNo = paymentNo

/-- The foreign keys of a ledger row, and the unique income of a payment. -/
def admitsLedger (db : Db) (row : LedgerRow) : Bool :=
  (db.orders.find row.orderNo).isSome &&
    (row.paymentNo.isEmpty || (db.payments.find row.paymentNo).isSome) &&
    !(row.entryType = .PAYMENT && !row.paymentNo.isEmpty && db.hasIncome row.paymentNo)

def admitsRefund (db : Db) (booking : RefundBooking) : Bool :=
  (db.refunds.find booking.refundNo).isNone && (db.orders.find booking.orderNo).isSome &&
    (db.payments.find booking.paymentNo).isSome

end Db

/-- The stamp of an UPDATE whose row is there and passes its guard. -/
def stampIf {ρ : Type} (row : Option ρ) (guard : ρ → Bool) (now : Nat) : Option Nat :=
  if row.any guard then some now else none

/-- An INSERT that a constraint may refuse. -/
def admitted {α : Type} (passes : Bool) (answer : α) : Option α :=
  if passes then some answer else none

namespace Stmt

/-- The answer to a statement in the state it sees; `none` when a constraint or
a cast refuses it. -/
def run (db : Db) (env : Env) : (st : Stmt) → Option st.Res
  | .findOrder orderNo => some (db.orders.find orderNo)
  | .insertOrder booking => admitted (db.orders.find booking.orderNo).isNone env.now
  | .updateOrder orderNo _ => some (stampIf (db.orders.find orderNo) (fun _ => true) env.now)
  | .promoteOrder orderNo =>
      some (stampIf (db.orders.find orderNo)
        (fun row => [OrderStatus.CREATED, .PAYING].contains row.status) env.now)
  | .coverOrder orderNo =>
      some (stampIf (db.orders.find orderNo) (fun row => row.status = .PAID) env.now)
  | .sweepOrders channel batch =>
      some ((newestFirst OrderRow.updatedAt (fun row => env.tie row.orderNo)
        (db.pendingOrders env.now channel)).take batch)
  | .newestAttempt orderNo statuses => some (db.attempts env orderNo statuses).head?
  | .lockAttempt orderNo statuses => some (db.attempts env orderNo statuses).head?
  | .settledAttempts orderNo => some (db.attempts env orderNo [.SUCCESS, .REFUNDED])
  | .findPayment paymentNo => some (db.payments.find paymentNo)
  | .findPaymentOf paymentNo orderNo =>
      some ((db.payments.find paymentNo).filter fun row => row.orderNo = orderNo)
  | .lockPayment paymentNo orderNo =>
      some ((db.payments.find paymentNo).filter fun row => row.orderNo = orderNo)
  | .insertPayment booking =>
      admitted ((db.payments.find booking.paymentNo).isNone &&
        (db.orders.find booking.orderNo).isSome) env.now
  | .casPayment paymentNo _ _ =>
      some ((db.payments.find paymentNo).any fun row =>
        [PaymentStatus.INIT, .PROCESSING].contains row.status)
  | .failPayment paymentNo => some (db.payments.find paymentNo).isSome
  | .findRefund refundNo => some (db.refunds.find refundNo)
  | .successRefund orderNo paymentNo amount =>
      some (newestFirst RefundRow.updatedAt (fun row => env.tie row.refundNo)
        (db.sameRefunds orderNo paymentNo amount [.REFUND_SUCCESS])).head?
  | .countOpenRefunds orderNo paymentNo amount =>
      some (db.sameRefunds orderNo paymentNo amount [.REFUND_INIT, .REFUNDING]).length
  | .sumRefunds orderNo statuses => numericSum ((db.refundsOf orderNo statuses).map (·.amount))
  | .insertRefund booking => admitted (db.admitsRefund booking) env.now
  | .casRefund refundNo _ _ =>
      some (stampIf (db.refunds.find refundNo)
        (fun row => [RefundStatus.REFUND_INIT, .REFUNDING].contains row.status) env.now)
  | .updateRefund refundNo _ _ => some (stampIf (db.refunds.find refundNo) (fun _ => true) env.now)
  | .setRefundPayload refundNo => some (stampIf (db.refunds.find refundNo) (fun _ => true) env.now)
  | .sweepRefunds batch =>
      some ((newestFirst RefundRow.updatedAt (fun row => env.tie row.refundNo)
        (db.refunds.rows.filter fun row =>
          [RefundStatus.REFUND_INIT, .REFUNDING].contains row.status)).take batch)
  | .findLedger orderNo entryType paymentNo =>
      some (db.ledger.find? fun row =>
        row.orderNo = orderNo && row.entryType = entryType && row.paymentNo = paymentNo)
  | .insertLedger row => admitted (db.admitsLedger row) ()
  | .insertCallback row => admitted (db.payments.find row.paymentNo).isSome ()
  | .findIdempotency key => some (db.idempotency.find key)
  | .findLiveIdempotency key =>
      some ((db.idempotency.find key).filter fun row => row.expireAt.all (env.now < ·))
  | .reserve key _ _ _ => some (if (db.idempotency.find key).isNone then some env.now else none)
  | .saveSnapshot key requestHash _ =>
      some ((db.idempotency.find key).any fun row => row.requestHash = requestHash)
  | .clearReservation key requestHash =>
      some ((db.idempotency.find key).any fun row =>
        row.requestHash = requestHash && row.responseSnapshot.isNone)
  | .dropReservation key =>
      some ((db.idempotency.find key).any fun row => row.responseSnapshot.isNone)
  | .finalizeReservation key ownerToken _ =>
      some ((db.idempotency.find key).any fun row => row.ownerToken = some ownerToken)
  | .purgeIdempotency =>
      some ((db.idempotency.rows.filter fun row => row.expireAt.any (· < env.now)).map
        (·.idempotencyKey))

/-! ## Writes and locks -/

def stamped (res : Option Nat) (write : Nat → Write) : List Write :=
  (res.map write).toList

def matched (res : Bool) (write : Write) : List Write :=
  if res then [write] else []

/-- The rows a statement changes, given its answer. -/
def writes : (st : Stmt) → st.Res → List Write
  | .insertOrder booking, (now : Nat) =>
      [.insertOrder { booking with status := .CREATED, createdAt := now, updatedAt := now }]
  | .updateOrder orderNo status, res => stamped res (.setOrder orderNo status)
  | .promoteOrder orderNo, res => stamped res (.setOrder orderNo .PAYING)
  | .coverOrder orderNo, res => stamped res (.setOrder orderNo .REFUNDED)
  | .insertPayment booking, (now : Nat) =>
      [.insertPayment { booking with status := .INIT, channelTradeNo := [], createdAt := now }]
  | .casPayment paymentNo status tradeNo, res => matched res (.setPayment paymentNo status tradeNo)
  | .failPayment paymentNo, res => matched res (.setPayment paymentNo .FAIL none)
  | .insertRefund booking, (now : Nat) =>
      [.insertRefund
        { booking with status := .REFUND_INIT, channelRefundNo := [], updatedAt := now }]
  | .casRefund refundNo status refundId, res => stamped res (.setRefund refundNo status refundId)
  | .updateRefund refundNo status refundId, res =>
      stamped res (.setRefund refundNo status (some refundId))
  | .setRefundPayload refundNo, res => stamped res (.touchRefund refundNo)
  | .insertLedger row, _ => [.insertLedger row]
  | .insertCallback row, _ => [.insertCallback row]
  | .reserve key requestHash ownerToken ttl, res =>
      stamped res fun now => .insertIdempotency ⟨key, requestHash, none, some (now + ttl), ownerToken⟩
  | .saveSnapshot key _ snapshot, res => matched res (.setSnapshot key snapshot)
  | .clearReservation key _, res => matched res (.deleteIdempotency key)
  | .dropReservation key, res => matched res (.deleteIdempotency key)
  | .finalizeReservation key _ snapshot, res => matched res (.setSnapshot key snapshot)
  | .purgeIdempotency, (keys : List Bytes) => keys.map Write.deleteIdempotency
  | _, _ => []

/-- The rows a `FOR UPDATE` locks. -/
def grabs : (st : Stmt) → st.Res → List Key
  | .lockAttempt _ _, (row : Option PaymentRow) => row.toList.map fun row => .payment row.paymentNo
  | .lockPayment _ _, (row : Option PaymentRow) => row.toList.map fun row => .payment row.paymentNo
  | _, _ => []

/-! ## Results in any database -/

/-- What a row a statement returns has in common with the statement. -/
def Possible : (st : Stmt) → st.Res → Prop
  | .findOrder orderNo, (res : Option OrderRow) => ∀ row ∈ res, row.orderNo = orderNo
  | .newestAttempt orderNo statuses, (res : Option PaymentRow)
  | .lockAttempt orderNo statuses, (res : Option PaymentRow) =>
      ∀ row ∈ res, row.orderNo = orderNo ∧ row.status ∈ statuses
  | .findPayment paymentNo, (res : Option PaymentRow) => ∀ row ∈ res, row.paymentNo = paymentNo
  | .findPaymentOf paymentNo orderNo, (res : Option PaymentRow)
  | .lockPayment paymentNo orderNo, (res : Option PaymentRow) =>
      ∀ row ∈ res, row.paymentNo = paymentNo ∧ row.orderNo = orderNo
  | .findRefund refundNo, (res : Option RefundRow) => ∀ row ∈ res, row.refundNo = refundNo
  | _, _ => True

private theorem attempts_possible {db : Db} {env : Env} {orderNo : Bytes}
    {statuses : List PaymentStatus} {row : PaymentRow}
    (first : (db.attempts env orderNo statuses).head? = some row) :
    row.orderNo = orderNo ∧ row.status ∈ statuses := by
  have member := List.mem_of_mem_head? (Option.mem_def.mpr first)
  simp only [Db.attempts, newestFirst, List.mem_insertionSort, List.mem_filter,
    Bool.and_eq_true, decide_eq_true_eq] at member
  exact ⟨member.2.1, by simpa using member.2.2⟩

theorem run_possible {db : Db} {env : Env} {st : Stmt} {res : st.Res}
    (ran : st.run db env = some res) : st.Possible res := by
  cases st with
  | findOrder orderNo =>
      cases ran
      exact fun row found => Db.orderNo_of_find (Option.mem_def.mp found)
  | newestAttempt orderNo statuses =>
      cases ran
      exact fun row first => attempts_possible (Option.mem_def.mp first)
  | lockAttempt orderNo statuses =>
      cases ran
      exact fun row first => attempts_possible (Option.mem_def.mp first)
  | findPayment paymentNo =>
      cases ran
      exact fun row found => Db.paymentNo_of_find (Option.mem_def.mp found)
  | findPaymentOf paymentNo orderNo =>
      cases ran
      intro row found
      obtain ⟨found, isOrder⟩ := Option.filter_eq_some_iff.mp (Option.mem_def.mp found)
      exact ⟨Db.paymentNo_of_find found, by simpa using isOrder⟩
  | lockPayment paymentNo orderNo =>
      cases ran
      intro row found
      obtain ⟨found, isOrder⟩ := Option.filter_eq_some_iff.mp (Option.mem_def.mp found)
      exact ⟨Db.paymentNo_of_find found, by simpa using isOrder⟩
  | findRefund refundNo =>
      cases ran
      exact fun row found => Db.refundNo_of_find (Option.mem_def.mp found)
  | _ => trivial

end Stmt

end DrogonPay

import DrogonPay.Model.Json
import DrogonPay.Model.PayUtils
import DrogonPay.Table.Keyed

/-!
Contract: the tables of `sql/001..006` and the writes the services make.

Owns: the rows, the database state, the single-row writes and the lock each of
them takes.

Does not own: surrogate ids (every table but the ledger is addressed by its
unique number), VARCHAR lengths, and the payload columns that no modelled code
reads back.
-/

namespace DrogonPay

/-- What an order row keeps for its whole life. -/
structure OrderBooking where
  orderNo : Bytes
  userId : Int
  amount : Bytes
  currency : Bytes
  channel : Bytes
  title : Bytes
  expireAt : Option Int
deriving DecidableEq, Repr

structure OrderRow extends OrderBooking where
  status : OrderStatus
  createdAt : Nat
  updatedAt : Nat
deriving DecidableEq, Repr

/-- What a payment attempt keeps for its whole life. -/
structure PaymentBooking where
  paymentNo : Bytes
  orderNo : Bytes
  amount : Bytes
deriving DecidableEq, Repr

/-- A payment attempt; an empty `channelTradeNo` stands for NULL. -/
structure PaymentRow extends PaymentBooking where
  status : PaymentStatus
  channelTradeNo : Bytes
  createdAt : Nat
deriving DecidableEq, Repr

/-- What a refund row keeps for its whole life. -/
structure RefundBooking where
  refundNo : Bytes
  orderNo : Bytes
  paymentNo : Bytes
  amount : Bytes
deriving DecidableEq, Repr

/-- A refund; an empty `channelRefundNo` stands for NULL. -/
structure RefundRow extends RefundBooking where
  status : RefundStatus
  channelRefundNo : Bytes
  updatedAt : Nat
deriving DecidableEq, Repr

inductive EntryType where
  | PAYMENT
  | REFUND
deriving DecidableEq, Repr

/-- A ledger row; an empty `paymentNo` stands for NULL. -/
structure LedgerRow where
  userId : Int
  orderNo : Bytes
  paymentNo : Bytes
  entryType : EntryType
  amount : Bytes
deriving DecidableEq, Repr

structure CallbackRow where
  paymentNo : Bytes
  verified : Bool
  processed : Bool
deriving DecidableEq, Repr

structure IdempotencyRow where
  idempotencyKey : Bytes
  requestHash : Bytes
  responseSnapshot : Option Json
  expireAt : Option Nat
  ownerToken : Option Bytes

structure Db where
  orders : Table Bytes OrderRow (fun row => row.orderNo)
  payments : Table Bytes PaymentRow (fun row => row.paymentNo)
  refunds : Table Bytes RefundRow (fun row => row.refundNo)
  ledger : List LedgerRow
  callbacks : List CallbackRow
  idempotency : Table Bytes IdempotencyRow IdempotencyRow.idempotencyKey

namespace Db

def empty : Db := ⟨.empty, .empty, .empty, [], [], .empty⟩

variable {db : Db}

theorem orderNo_of_find {orderNo : Bytes} {row : OrderRow}
    (found : db.orders.find orderNo = some row) : row.orderNo = orderNo :=
  Table.key_of_find (t := db.orders) found

theorem paymentNo_of_find {paymentNo : Bytes} {row : PaymentRow}
    (found : db.payments.find paymentNo = some row) : row.paymentNo = paymentNo :=
  Table.key_of_find (t := db.payments) found

theorem refundNo_of_find {refundNo : Bytes} {row : RefundRow}
    (found : db.refunds.find refundNo = some row) : row.refundNo = refundNo :=
  Table.key_of_find (t := db.refunds) found

end Db

/-- The changes of single rows. The times are those the statement was given. -/
inductive Write where
  | insertOrder (row : OrderRow)
  | setOrder (orderNo : Bytes) (status : OrderStatus) (updatedAt : Nat)
  | insertPayment (row : PaymentRow)
  | setPayment (paymentNo : Bytes) (status : PaymentStatus) (channelTradeNo : Option Bytes)
  | insertRefund (row : RefundRow)
  | setRefund (refundNo : Bytes) (status : RefundStatus) (channelRefundNo : Option Bytes)
      (updatedAt : Nat)
  | touchRefund (refundNo : Bytes) (updatedAt : Nat)
  | insertLedger (row : LedgerRow)
  | insertCallback (row : CallbackRow)
  | insertIdempotency (row : IdempotencyRow)
  | setSnapshot (idempotencyKey : Bytes) (snapshot : Json)
  | deleteIdempotency (idempotencyKey : Bytes)

def OrderRow.advance (status : OrderStatus) (updatedAt : Nat) (row : OrderRow) : OrderRow :=
  { row with status, updatedAt }

def PaymentRow.advance (status : PaymentStatus) (channelTradeNo : Option Bytes)
    (row : PaymentRow) : PaymentRow :=
  { row with status, channelTradeNo := channelTradeNo.getD row.channelTradeNo }

def RefundRow.advance (status : RefundStatus) (channelRefundNo : Option Bytes) (updatedAt : Nat)
    (row : RefundRow) : RefundRow :=
  { row with status, channelRefundNo := channelRefundNo.getD row.channelRefundNo, updatedAt }

/-- An UPDATE of other columns still stamps the row. -/
def RefundRow.touch (updatedAt : Nat) (row : RefundRow) : RefundRow := { row with updatedAt }

def IdempotencyRow.finalize (snapshot : Json) (row : IdempotencyRow) : IdempotencyRow :=
  { row with responseSnapshot := some snapshot }

/-- The database after one write. -/
def Db.apply (db : Db) : Write → Db
  | .insertOrder row => { db with orders := db.orders.insert row }
  | .setOrder orderNo status updatedAt =>
      { db with orders := db.orders.modify orderNo (.advance status updatedAt) fun _ => rfl }
  | .insertPayment row => { db with payments := db.payments.insert row }
  | .setPayment paymentNo status channelTradeNo =>
      { db with payments :=
          db.payments.modify paymentNo (.advance status channelTradeNo) fun _ => rfl }
  | .insertRefund row => { db with refunds := db.refunds.insert row }
  | .setRefund refundNo status channelRefundNo updatedAt =>
      { db with refunds :=
          db.refunds.modify refundNo (.advance status channelRefundNo updatedAt) fun _ => rfl }
  | .touchRefund refundNo updatedAt =>
      { db with refunds := db.refunds.modify refundNo (.touch updatedAt) fun _ => rfl }
  | .insertLedger row => { db with ledger := db.ledger ++ [row] }
  | .insertCallback row => { db with callbacks := db.callbacks ++ [row] }
  | .insertIdempotency row => { db with idempotency := db.idempotency.insert row }
  | .setSnapshot key snapshot =>
      { db with idempotency := db.idempotency.modify key (.finalize snapshot) fun _ => rfl }
  | .deleteIdempotency key => { db with idempotency := db.idempotency.deleteIf (· = key) }

/-- The rows a transaction can hold. `income` is an entry of the unique index on
the PAYMENT rows of the ledger. -/
inductive Key where
  | order (orderNo : Bytes)
  | payment (paymentNo : Bytes)
  | refund (refundNo : Bytes)
  | income (paymentNo : Bytes)
  | idempotency (idempotencyKey : Bytes)
deriving DecidableEq, Repr

/-- The rows a write locks. -/
def Write.keys : Write → List Key
  | .insertOrder row => [.order row.orderNo]
  | .setOrder orderNo _ _ => [.order orderNo]
  | .insertPayment row => [.payment row.paymentNo]
  | .setPayment paymentNo _ _ => [.payment paymentNo]
  | .insertRefund row => [.refund row.refundNo]
  | .setRefund refundNo _ _ _ => [.refund refundNo]
  | .touchRefund refundNo _ => [.refund refundNo]
  | .insertLedger row =>
      if row.entryType = .PAYMENT ∧ row.paymentNo ≠ [] then [.income row.paymentNo] else []
  | .insertCallback _ => []
  | .insertIdempotency row => [.idempotency row.idempotencyKey]
  | .setSnapshot key _ => [.idempotency key]
  | .deleteIdempotency key => [.idempotency key]

end DrogonPay

import DrogonPay.Model.Schema
import DrogonPay.Paging.Pages

/-!
Contract: `PaymentService::queryOrderList`, the orders with their attempts, page
by page.

Owns: the filters, the join, the cut of a page and the entry made of each row.

Does not own: the channel's stored response, which the tables here do not keep,
and the texts of times.
-/

namespace DrogonPay.PaymentService

/-- A row of the LEFT JOIN: an order with one of its attempts, or with none. -/
structure JoinedRow where
  order : OrderRow
  attempt : Option PaymentRow

/-- The empty status and "all" stand for no filter, and so does an owner that is
not positive. -/
def isListed (status : Bytes) (userId : Int) (order : OrderRow) : Bool :=
  (status.isEmpty || status = ascii "all" || order.status.text = status) &&
    (userId ≤ 0 || order.userId = userId)

def matchingOrders (db : Db) (status : Bytes) (userId : Int) : List OrderRow :=
  db.orders.rows.filter (isListed status userId)

def attemptsOf (db : Db) (order : OrderRow) : List PaymentRow :=
  db.payments.rows.filter fun attempt => attempt.orderNo = order.orderNo

def leftJoin (db : Db) (order : OrderRow) : List JoinedRow :=
  if (attemptsOf db order).isEmpty then [⟨order, none⟩]
  else (attemptsOf db order).map fun attempt => ⟨order, some attempt⟩

def joinedRows (db : Db) (status : Bytes) (userId : Int) : List JoinedRow :=
  (matchingOrders db status userId).flatMap (leftJoin db)

/-- The sort key, `ORDER BY po.created_at DESC`. -/
def JoinedRow.createdAt (row : JoinedRow) : Nat := row.order.createdAt

def actualLimit (limit : Nat) : Nat := if 0 < limit ∧ limit ≤ 100 then limit else 50

/-- An entry of the answer. -/
structure OrderEntry where
  orderNo : Bytes
  userId : Int
  amount : Bytes
  currency : Bytes
  status : Bytes
  channel : Bytes
  title : Bytes
  createdAt : Nat
  updatedAt : Nat
  paymentNo : Option Bytes
  tradeNo : Option Bytes
  paidAt : Nat

def orderEntry (row : JoinedRow) : OrderEntry where
  orderNo := row.order.orderNo
  userId := row.order.userId
  amount := row.order.amount
  currency := row.order.currency
  status := row.order.status.text
  channel := row.order.channel
  title := row.order.title
  createdAt := row.order.createdAt
  updatedAt := row.order.updatedAt
  paymentNo := row.attempt.map fun attempt => attempt.paymentNo
  tradeNo := row.attempt.bind fun attempt =>
    if attempt.channelTradeNo.isEmpty then none else some attempt.channelTradeNo
  paidAt := row.order.updatedAt

/-- One call. The server is free in the order of rows with one `created_at`; the
sorting it chose comes with the call. -/
def queryOrderList (db : Db) (status : Bytes) (userId : Int) (limit offset : Nat)
    (sorting : Paging.Arrangement JoinedRow.createdAt (joinedRows db status userId)) :
    List OrderEntry :=
  ((sorting.listed.drop offset).take (actualLimit limit)).map orderEntry

end DrogonPay.PaymentService

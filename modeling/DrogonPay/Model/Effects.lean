import DrogonPay.Model.Signature

/-!
Contract: what a statement that ran can have done to one row.

Owns:
- `Stmt.writes_table`: the table a statement writes to, if any;
- `OrderMove`, `PaymentMove` and `RefundMove`, the status changes with the
  guard each statement makes them under;
- `order_after`, `payment_after`, `refund_after` and `reservation_after`, the value
  of a row before and after any statement; no later proof looks into
  `Stmt.writes` for them;
- `Kept`, rows that stay and change within a relation, and the bookings, which
  every row keeps.

Does not own: who issues a statement.
-/

namespace DrogonPay

open ReadCommitted

/-! ## Rows that stay -/

/-- A row that is there stays, and its old and new values are related. -/
def Kept {ρ : Type} (Q : ρ → ρ → Prop) (old new : Option ρ) : Prop :=
  ∀ row, old = some row → ∃ row', new = some row' ∧ Q row row'

theorem Kept.refl {ρ : Type} {Q : ρ → ρ → Prop} (reflexive : ∀ row, Q row row) (row : Option ρ) :
    Kept Q row row :=
  fun value found => ⟨value, found, reflexive value⟩

theorem Kept.trans {ρ : Type} {Q : ρ → ρ → Prop} {old mid new : Option ρ}
    (first : Kept Q old mid) (second : Kept Q mid new)
    (transitive : ∀ {a b c}, Q a b → Q b c → Q a c) : Kept Q old new := by
  intro row found
  obtain ⟨row', found', related⟩ := first row found
  obtain ⟨row'', found'', related'⟩ := second row' found'
  exact ⟨row'', found'', transitive related related'⟩

theorem Kept.none {ρ : Type} {Q : ρ → ρ → Prop} (new : Option ρ) : Kept Q none new := by
  intro row found
  cases found

theorem Kept.some {ρ : Type} {Q : ρ → ρ → Prop} {row row' : ρ} (related : Q row row') :
    Kept Q (some row) (some row') := by
  rintro _ ⟨⟩
  exact ⟨row', rfl, related⟩

/-! ## Tables -/

inductive TableName where
  | orders | payments | refunds | ledger | callbacks | idempotency
deriving DecidableEq, Repr

def Write.table : Write → TableName
  | .insertOrder _ | .setOrder _ _ _ => .orders
  | .insertPayment _ | .setPayment _ _ _ => .payments
  | .insertRefund _ | .setRefund _ _ _ _ | .touchRefund _ _ => .refunds
  | .insertLedger _ => .ledger
  | .insertCallback _ => .callbacks
  | .insertIdempotency _ | .setSnapshot _ _ | .deleteIdempotency _ => .idempotency

/-- The table a statement may write to. -/
def Stmt.table : Stmt → Option TableName
  | .insertOrder _ | .updateOrder _ _ | .promoteOrder _ | .coverOrder _ => some .orders
  | .insertPayment _ | .casPayment _ _ _ | .failPayment _ => some .payments
  | .insertRefund _ | .casRefund _ _ _ | .updateRefund _ _ _ | .setRefundPayload _ =>
      some .refunds
  | .insertLedger _ => some .ledger
  | .insertCallback _ => some .callbacks
  | .reserve _ _ _ _ | .saveSnapshot _ _ _ | .clearReservation _ _ | .dropReservation _
  | .finalizeReservation _ _ _ | .purgeIdempotency => some .idempotency
  | _ => none

theorem Stmt.writes_table {st : Stmt} {res : st.Res} {w : Write} (member : w ∈ st.writes res) :
    st.table = some w.table := by
  have stamped : ∀ {res : Option Nat} {write : Nat → Write},
      w ∈ Stmt.stamped res write → ∃ now, w = write now := by
    intro res write member
    obtain ⟨now, _, rfl⟩ := by simpa [Stmt.stamped] using member
    exact ⟨now, rfl⟩
  have matched : ∀ {res : Bool} {write : Write}, w ∈ Stmt.matched res write → w = write := by
    intro res write member
    simp only [Stmt.matched] at member
    split at member
    · exact List.mem_singleton.mp member
    · cases member
  cases st with
  | updateOrder | promoteOrder | coverOrder | casRefund | updateRefund | setRefundPayload
  | reserve =>
      obtain ⟨now, rfl⟩ := stamped member
      rfl
  | casPayment | failPayment | saveSnapshot | clearReservation | dropReservation
  | finalizeReservation =>
      rw [matched member]
      rfl
  | insertOrder | insertPayment | insertRefund | insertLedger | insertCallback =>
      rw [List.mem_singleton.mp member]
      rfl
  | purgeIdempotency =>
      obtain ⟨key, _, rfl⟩ := List.mem_map.mp member
      rfl
  | _ => exact absurd member List.not_mem_nil

/-- A column of one table is not touched by statements on the others. -/
theorem read_other_table {K α : Type} {col : Column payStore K α} {table : TableName}
    (locked : ∀ w k, col.lock k ∈ Write.keys w → w.table = table) (db : Db) {st : Stmt}
    (res : st.Res) (other : st.table ≠ some table) (k : K) :
    col.read (payStore.applyAll db (st.writes res)) k = col.read db k := by
  refine col.read_applyAll_unlocked fun w member isKey => other ?_
  rw [Stmt.writes_table member, locked w k isKey]

theorem orderColumn_locked (w : Write) (orderNo : Bytes)
    (isKey : orderColumn.lock orderNo ∈ w.keys) : w.table = .orders := by
  cases w <;> simp_all [Write.keys, orderColumn, Write.table]

theorem paymentColumn_locked (w : Write) (paymentNo : Bytes)
    (isKey : paymentColumn.lock paymentNo ∈ w.keys) : w.table = .payments := by
  cases w <;> simp_all [Write.keys, paymentColumn, Write.table]

theorem refundColumn_locked (w : Write) (refundNo : Bytes)
    (isKey : refundColumn.lock refundNo ∈ w.keys) : w.table = .refunds := by
  cases w <;> simp_all [Write.keys, refundColumn, Write.table]

theorem idempotencyColumn_locked (w : Write) (key : Bytes)
    (isKey : idempotencyColumn.lock key ∈ w.keys) : w.table = .idempotency := by
  cases w <;> simp_all [Write.keys, idempotencyColumn, Write.table]

/-! ## Guards -/

theorem stampIf_eq_some {ρ : Type} {row : Option ρ} {guard : ρ → Bool} {now stamp : Nat}
    (stamped : stampIf row guard now = some stamp) : ∃ value, row = some value ∧ guard value := by
  unfold stampIf at stamped
  split at stamped
  · rename_i passes
    simpa [Option.any_eq_true] using passes
  · cases stamped

theorem admitted_eq_some {α : Type} {passes : Bool} {answer res : α}
    (ran : admitted passes answer = some res) : passes = true ∧ answer = res := by
  simpa [admitted] using ran

/-! ## Orders -/

/-- A status change of order `orderNo`, with what the statement checks. -/
inductive OrderMove : Stmt → Bytes → OrderStatus → OrderStatus → Prop where
  | update {orderNo : Bytes} {old new : OrderStatus} :
      OrderMove (.updateOrder orderNo new) orderNo old new
  | promote {orderNo : Bytes} {old : OrderStatus} (unpaid : old = .CREATED ∨ old = .PAYING) :
      OrderMove (.promoteOrder orderNo) orderNo old .PAYING
  | cover {orderNo : Bytes} {old : OrderStatus} (paid : old = .PAID) :
      OrderMove (.coverOrder orderNo) orderNo old .REFUNDED

/-- The order row before and after a statement. -/
inductive OrderAfter (st : Stmt) (orderNo : Bytes) : Option OrderRow → Option OrderRow → Prop where
  | same {row : Option OrderRow} : OrderAfter st orderNo row row
  | inserted {booking : OrderBooking} {now : Nat} (issued : st = .insertOrder booking)
      (isKey : booking.orderNo = orderNo) :
      OrderAfter st orderNo none
        (some { booking with status := .CREATED, createdAt := now, updatedAt := now })
  | moved {row : OrderRow} {status : OrderStatus} {now : Nat}
      (move : OrderMove st orderNo row.status status) :
      OrderAfter st orderNo (some row) (some (row.advance status now))

variable {db : Db} {env : Env} {st : Stmt} {res : st.Res}

/-- A guarded status change of an order, seen from every order. -/
private theorem order_stamped {target orderNo : Bytes} {status : OrderStatus}
    {guard : OrderRow → Bool} {stamp : Option Nat}
    (stamped : stampIf (db.orders.find target) guard env.now = stamp)
    (move : ∀ row : OrderRow, guard row → OrderMove st target row.status status) :
    OrderAfter st orderNo (db.orders.find orderNo)
      ((payStore.applyAll db (Stmt.stamped stamp (.setOrder target status))).orders.find
        orderNo) := by
  cases stamp with
  | none => exact .same
  | some now =>
      have read : ((payStore.applyAll db [Write.setOrder target status now]).orders.find orderNo) =
          if target = orderNo then (db.orders.find orderNo).map (.advance status now)
          else db.orders.find orderNo :=
        orderColumn.read_applyAll db [Write.setOrder target status now] orderNo
      obtain ⟨row, found, passes⟩ := stampIf_eq_some stamped
      simp only [Stmt.stamped, Option.map_some, Option.toList_some, read]
      split
      · rename_i same
        subst same
        rw [found]
        exact .moved (move row passes)
      · exact .same

/-- What a statement does to an order. -/
theorem order_after (ran : st.run db env = some res) (orderNo : Bytes) :
    OrderAfter st orderNo (db.orders.find orderNo)
      ((payStore.applyAll db (st.writes res)).orders.find orderNo) := by
  cases st with
  | insertOrder booking =>
      have fresh := (admitted_eq_some ran).1
      have read : ∀ row : OrderRow,
          (payStore.applyAll db [Write.insertOrder row]).orders.find orderNo =
            if row.orderNo = orderNo then (db.orders.find orderNo).or (some row)
            else db.orders.find orderNo :=
        fun row => orderColumn.read_applyAll db [Write.insertOrder row] orderNo
      simp only [Stmt.writes, read]
      split
      · rename_i same
        subst same
        rw [Option.isNone_iff_eq_none.mp fresh, Option.none_or]
        exact .inserted rfl rfl
      · exact .same
  | updateOrder target status =>
      exact order_stamped (Option.some.inj ran) fun _ _ => .update
  | promoteOrder target =>
      refine order_stamped (Option.some.inj ran) fun row passes => .promote ?_
      simpa using passes
  | coverOrder target =>
      refine order_stamped (Option.some.inj ran) fun row passes => .cover ?_
      simpa using passes
  | _ =>
      have untouched := read_other_table orderColumn_locked db res
        (by simp [Stmt.table]) orderNo
      simp only [orderColumn] at untouched
      rw [untouched]
      exact .same

/-! ## Payments -/

inductive PaymentMove : Stmt → Bytes → PaymentStatus → PaymentStatus → Prop where
  | cas {paymentNo : Bytes} {old new : PaymentStatus} {tradeNo : Option Bytes}
      (unsettled : old = .INIT ∨ old = .PROCESSING) :
      PaymentMove (.casPayment paymentNo new tradeNo) paymentNo old new
  | fail {paymentNo : Bytes} {old : PaymentStatus} :
      PaymentMove (.failPayment paymentNo) paymentNo old .FAIL

inductive PaymentAfter (st : Stmt) (paymentNo : Bytes) :
    Option PaymentRow → Option PaymentRow → Prop where
  | same {row : Option PaymentRow} : PaymentAfter st paymentNo row row
  | inserted {booking : PaymentBooking} {now : Nat} (issued : st = .insertPayment booking)
      (isKey : booking.paymentNo = paymentNo) :
      PaymentAfter st paymentNo none
        (some { booking with status := .INIT, channelTradeNo := [], createdAt := now })
  | moved {row : PaymentRow} {status : PaymentStatus} {tradeNo : Option Bytes}
      (move : PaymentMove st paymentNo row.status status) :
      PaymentAfter st paymentNo (some row) (some (row.advance status tradeNo))

private theorem payment_matched {target paymentNo : Bytes} {status : PaymentStatus}
    {tradeNo : Option Bytes} {guard : PaymentRow → Bool}
    (move : ∀ row : PaymentRow, guard row → PaymentMove st target row.status status) :
    PaymentAfter st paymentNo (db.payments.find paymentNo)
      ((payStore.applyAll db (Stmt.matched ((db.payments.find target).any guard)
        (.setPayment target status tradeNo))).payments.find paymentNo) := by
  unfold Stmt.matched
  split
  · rename_i passes
    have read :
        ((payStore.applyAll db [Write.setPayment target status tradeNo]).payments.find paymentNo) =
          if target = paymentNo then (db.payments.find paymentNo).map (.advance status tradeNo)
          else db.payments.find paymentNo :=
      paymentColumn.read_applyAll db [Write.setPayment target status tradeNo] paymentNo
    obtain ⟨row, found, passes⟩ := by simpa [Option.any_eq_true] using passes
    rw [read]
    split
    · rename_i same
      subst same
      rw [found]
      exact .moved (move row passes)
    · exact .same
  · exact .same

/-- What a statement does to a payment. -/
theorem payment_after (ran : st.run db env = some res) (paymentNo : Bytes) :
    PaymentAfter st paymentNo (db.payments.find paymentNo)
      ((payStore.applyAll db (st.writes res)).payments.find paymentNo) := by
  cases st with
  | insertPayment booking =>
      have fresh := (admitted_eq_some ran).1
      have read : ∀ row : PaymentRow,
          (payStore.applyAll db [Write.insertPayment row]).payments.find paymentNo =
            if row.paymentNo = paymentNo then (db.payments.find paymentNo).or (some row)
            else db.payments.find paymentNo :=
        fun row => paymentColumn.read_applyAll db [Write.insertPayment row] paymentNo
      simp only [Stmt.writes, read]
      split
      · rename_i same
        subst same
        rw [Option.isNone_iff_eq_none.mp (Bool.and_eq_true_iff.mp fresh).1, Option.none_or]
        exact .inserted rfl rfl
      · exact .same
  | casPayment target status tradeNo =>
      have answer := Option.some.inj ran
      subst answer
      refine payment_matched fun row passes => .cas ?_
      simpa using passes
  | failPayment target =>
      have answer := Option.some.inj ran
      subst answer
      have always : (db.payments.find target).isSome =
          (db.payments.find target).any fun _ => true := by
        cases db.payments.find target <;> rfl
      simp only [Stmt.writes, always]
      exact payment_matched fun _ _ => .fail
  | _ =>
      have untouched := read_other_table paymentColumn_locked db res
        (by simp [Stmt.table]) paymentNo
      simp only [paymentColumn] at untouched
      rw [untouched]
      exact .same

/-! ## Refunds -/

inductive RefundMove : Stmt → Bytes → RefundStatus → RefundStatus → Prop where
  | cas {refundNo : Bytes} {old new : RefundStatus} {refundId : Option Bytes}
      (unsettled : old = .REFUND_INIT ∨ old = .REFUNDING) :
      RefundMove (.casRefund refundNo new refundId) refundNo old new
  | update {refundNo : Bytes} {old new : RefundStatus} {refundId : Bytes} :
      RefundMove (.updateRefund refundNo new refundId) refundNo old new

inductive RefundAfter (st : Stmt) (refundNo : Bytes) :
    Option RefundRow → Option RefundRow → Prop where
  | same {row : Option RefundRow} : RefundAfter st refundNo row row
  | inserted {booking : RefundBooking} {now : Nat} (issued : st = .insertRefund booking)
      (isKey : booking.refundNo = refundNo) :
      RefundAfter st refundNo none
        (some { booking with status := .REFUND_INIT, channelRefundNo := [], updatedAt := now })
  | moved {row : RefundRow} {status : RefundStatus} {refundId : Option Bytes} {now : Nat}
      (move : RefundMove st refundNo row.status status) :
      RefundAfter st refundNo (some row) (some (row.advance status refundId now))
  | touched {row : RefundRow} {now : Nat} :
      RefundAfter st refundNo (some row) (some (row.touch now))

private theorem refund_stamped {target refundNo : Bytes} {status : RefundStatus}
    {refundId : Option Bytes} {guard : RefundRow → Bool} {stamp : Option Nat}
    (stamped : stampIf (db.refunds.find target) guard env.now = stamp)
    (move : ∀ row : RefundRow, guard row → RefundMove st target row.status status) :
    RefundAfter st refundNo (db.refunds.find refundNo)
      ((payStore.applyAll db (Stmt.stamped stamp (.setRefund target status refundId))).refunds.find
        refundNo) := by
  cases stamp with
  | none => exact .same
  | some now =>
      have read : ((payStore.applyAll db
            [Write.setRefund target status refundId now]).refunds.find refundNo) =
          if target = refundNo then (db.refunds.find refundNo).map (.advance status refundId now)
          else db.refunds.find refundNo :=
        refundColumn.read_applyAll db [Write.setRefund target status refundId now] refundNo
      obtain ⟨row, found, passes⟩ := stampIf_eq_some stamped
      simp only [Stmt.stamped, Option.map_some, Option.toList_some, read]
      split
      · rename_i same
        subst same
        rw [found]
        exact .moved (move row passes)
      · exact .same

/-- What a statement does to a refund. -/
theorem refund_after (ran : st.run db env = some res) (refundNo : Bytes) :
    RefundAfter st refundNo (db.refunds.find refundNo)
      ((payStore.applyAll db (st.writes res)).refunds.find refundNo) := by
  cases st with
  | insertRefund booking =>
      have fresh := (admitted_eq_some ran).1
      simp only [Db.admitsRefund, Bool.and_eq_true] at fresh
      have read : ∀ row : RefundRow,
          (payStore.applyAll db [Write.insertRefund row]).refunds.find refundNo =
            if row.refundNo = refundNo then (db.refunds.find refundNo).or (some row)
            else db.refunds.find refundNo :=
        fun row => refundColumn.read_applyAll db [Write.insertRefund row] refundNo
      simp only [Stmt.writes, read]
      split
      · rename_i same
        subst same
        rw [Option.isNone_iff_eq_none.mp fresh.1.1, Option.none_or]
        exact .inserted rfl rfl
      · exact .same
  | casRefund target status refundId =>
      refine refund_stamped (Option.some.inj ran) fun row passes => .cas ?_
      simpa using passes
  | updateRefund target status refundId =>
      exact refund_stamped (Option.some.inj ran) fun _ _ => .update
  | setRefundPayload target =>
      cases stamp : (res : Option Nat) with
      | none =>
          simp only [Stmt.writes, Stmt.stamped]
          exact .same
      | some now =>
          have read : ((payStore.applyAll db [Write.touchRefund target now]).refunds.find refundNo) =
              if target = refundNo then (db.refunds.find refundNo).map (.touch now)
              else db.refunds.find refundNo :=
            refundColumn.read_applyAll db [Write.touchRefund target now] refundNo
          simp only [Stmt.writes, Stmt.stamped, Option.map_some, Option.toList_some, read]
          split
          · cases db.refunds.find refundNo with
            | none => exact .same
            | some row => exact .touched
          · exact .same
  | _ =>
      have untouched := read_other_table refundColumn_locked db res
        (by simp [Stmt.table]) refundNo
      simp only [refundColumn] at untouched
      rw [untouched]
      exact .same

/-! ## Writes that settle -/

/-- An order becomes REFUNDED by an update of its status. -/
theorem moves_of_refunded {w : Write} {orderNo : Bytes} {row : Option OrderRow}
    (write : w ∈ st.writes res) (notBefore : ¬ row.any fun order => order.status = .REFUNDED)
    (now : (actOnOrder w orderNo row).any fun order => order.status = .REFUNDED) :
    st = .updateOrder orderNo .REFUNDED ∨ st = .coverOrder orderNo := by
  have table := Stmt.writes_table write
  cases w with
  | insertOrder new =>
      simp only [actOnOrder] at now
      split at now
      · cases row with
        | some order => exact absurd now notBefore
        | none =>
            cases st with
            | insertOrder booking =>
                simp only [Stmt.writes, List.mem_singleton, Write.insertOrder.injEq] at write
                simp [write] at now
            | _ => simp [Stmt.writes, Stmt.stamped, Stmt.matched] at write
      · exact absurd now notBefore
  | setOrder target status updatedAt =>
      simp only [actOnOrder] at now
      split at now
      · rename_i isTarget
        have isRefunded : status = .REFUNDED := by
          cases row with
          | none => cases now
          | some order => simpa [OrderRow.advance] using now
        cases st with
        | updateOrder target' status' =>
            simp only [Stmt.writes, Stmt.stamped, Option.mem_toList, Option.map_eq_some_iff] at write
            obtain ⟨stamp, _, isWrite⟩ := write
            cases isWrite
            exact Or.inl (by rw [isTarget, isRefunded])
        | promoteOrder target' =>
            simp only [Stmt.writes, Stmt.stamped, Option.mem_toList, Option.map_eq_some_iff] at write
            obtain ⟨stamp, _, isWrite⟩ := write
            cases isWrite
            cases isRefunded
        | coverOrder target' =>
            simp only [Stmt.writes, Stmt.stamped, Option.mem_toList, Option.map_eq_some_iff] at write
            obtain ⟨stamp, _, isWrite⟩ := write
            cases isWrite
            exact Or.inr (by rw [isTarget])
        | insertOrder _ => simp [Stmt.writes] at write
        | _ => simp [Stmt.table, Write.table] at table
      · exact absurd now notBefore
  | _ => exact absurd now notBefore

/-- An attempt with some booking is there because it was inserted. -/
theorem insertPayment_of_booked {w : Write} {paymentNo : Bytes} {row : Option PaymentRow}
    {booking : PaymentBooking} (write : w ∈ st.writes res)
    (notBefore : ¬ row.any fun payment => payment.toPaymentBooking = booking)
    (now : (actOnPayment w paymentNo row).any fun payment => payment.toPaymentBooking = booking) :
    st = .insertPayment booking := by
  cases w with
  | insertPayment new =>
      simp only [actOnPayment] at now
      split at now
      · cases row with
        | some payment => exact absurd now notBefore
        | none =>
            cases st with
            | insertPayment booked =>
                simp only [Stmt.writes, List.mem_singleton, Write.insertPayment.injEq] at write
                rw [write] at now
                exact congrArg Stmt.insertPayment (by simpa using now)
            | _ => simp [Stmt.writes, Stmt.stamped, Stmt.matched] at write
      · exact absurd now notBefore
  | setPayment target status tradeNo =>
      simp only [actOnPayment] at now
      split at now
      · cases row with
        | none => cases now
        | some payment => exact absurd now notBefore
      · exact absurd now notBefore
  | _ => exact absurd now notBefore

/-- A refund with some booking is there because it was inserted. -/
theorem insertRefund_of_booked {w : Write} {refundNo : Bytes} {row : Option RefundRow}
    {booking : RefundBooking} (write : w ∈ st.writes res)
    (notBefore : ¬ row.any fun refund => refund.toRefundBooking = booking)
    (now : (actOnRefund w refundNo row).any fun refund => refund.toRefundBooking = booking) :
    st = .insertRefund booking := by
  cases w with
  | insertRefund new =>
      simp only [actOnRefund] at now
      split at now
      · cases row with
        | some refund => exact absurd now notBefore
        | none =>
            cases st with
            | insertRefund booked =>
                simp only [Stmt.writes, List.mem_singleton, Write.insertRefund.injEq] at write
                rw [write] at now
                exact congrArg Stmt.insertRefund (by simpa using now)
            | _ => simp [Stmt.writes, Stmt.stamped, Stmt.matched] at write
      · exact absurd now notBefore
  | setRefund target status refundId updatedAt =>
      simp only [actOnRefund] at now
      split at now
      · cases row with
        | none => cases now
        | some refund => exact absurd now notBefore
      · exact absurd now notBefore
  | touchRefund target updatedAt =>
      simp only [actOnRefund] at now
      split at now
      · cases row with
        | none => cases now
        | some refund => exact absurd now notBefore
      · exact absurd now notBefore
  | _ => exact absurd now notBefore

/-- A payment becomes SUCCESS by a guarded update only. -/
theorem casPayment_of_success {w : Write} {paymentNo : Bytes} {row : Option PaymentRow}
    (write : w ∈ st.writes res) (notBefore : ¬ row.any fun payment => payment.status = .SUCCESS)
    (now : (actOnPayment w paymentNo row).any fun payment => payment.status = .SUCCESS) :
    ∃ tradeNo, st = .casPayment paymentNo .SUCCESS tradeNo := by
  have table := Stmt.writes_table write
  cases w with
  | insertPayment new =>
      simp only [actOnPayment] at now
      split at now
      · cases row with
        | some payment => exact absurd now notBefore
        | none =>
            cases st with
            | insertPayment booking =>
                simp only [Stmt.writes, List.mem_singleton, Write.insertPayment.injEq] at write
                simp [write] at now
            | _ => simp [Stmt.writes, Stmt.stamped, Stmt.matched] at write
      · exact absurd now notBefore
  | setPayment target status tradeNo =>
      simp only [actOnPayment] at now
      split at now
      · rename_i isTarget
        have isSuccess : status = .SUCCESS := by
          cases row with
          | none => cases now
          | some payment => simpa [PaymentRow.advance] using now
        cases st with
        | casPayment target' status' tradeNo' =>
            simp only [Stmt.writes, Stmt.matched] at write
            split at write
            · cases List.mem_singleton.mp write
              exact ⟨tradeNo, by rw [isTarget, isSuccess]⟩
            · cases write
        | failPayment target' =>
            simp only [Stmt.writes, Stmt.matched] at write
            split at write
            · cases List.mem_singleton.mp write
              cases isSuccess
            · cases write
        | insertPayment booking => simp [Stmt.writes] at write
        | _ => simp [Stmt.table, Write.table] at table
      · exact absurd now notBefore
  | _ => exact absurd now notBefore

/-- A refund becomes REFUND_SUCCESS by an update of its status. -/
theorem moves_of_refundSuccess {w : Write} {refundNo : Bytes} {row : Option RefundRow}
    (write : w ∈ st.writes res) (notBefore : ¬ row.any fun refund => refund.status = .REFUND_SUCCESS)
    (now : (actOnRefund w refundNo row).any fun refund => refund.status = .REFUND_SUCCESS) :
    (∃ refundId, st = .casRefund refundNo .REFUND_SUCCESS refundId) ∨
      ∃ refundId, st = .updateRefund refundNo .REFUND_SUCCESS refundId := by
  have table := Stmt.writes_table write
  cases w with
  | insertRefund new =>
      simp only [actOnRefund] at now
      split at now
      · cases row with
        | some refund => exact absurd now notBefore
        | none =>
            cases st with
            | insertRefund booking =>
                simp only [Stmt.writes, List.mem_singleton, Write.insertRefund.injEq] at write
                simp [write] at now
            | _ => simp [Stmt.writes, Stmt.stamped, Stmt.matched] at write
      · exact absurd now notBefore
  | setRefund target status refundId updatedAt =>
      simp only [actOnRefund] at now
      split at now
      · rename_i isTarget
        have isSuccess : status = .REFUND_SUCCESS := by
          cases row with
          | none => cases now
          | some refund => simpa [RefundRow.advance] using now
        cases st with
        | casRefund target' status' refundId' =>
            simp only [Stmt.writes, Stmt.stamped, Option.mem_toList, Option.map_eq_some_iff] at write
            obtain ⟨stamp, _, isWrite⟩ := write
            cases isWrite
            exact Or.inl ⟨refundId, by rw [isTarget, isSuccess]⟩
        | updateRefund target' status' refundId' =>
            simp only [Stmt.writes, Stmt.stamped, Option.mem_toList, Option.map_eq_some_iff] at write
            obtain ⟨stamp, _, isWrite⟩ := write
            cases isWrite
            exact Or.inr ⟨refundId', by rw [isTarget, isSuccess]⟩
        | insertRefund _ | setRefundPayload _ => simp [Stmt.writes, Stmt.stamped] at write
        | _ => simp [Stmt.table, Write.table] at table
      · exact absurd now notBefore
  | touchRefund target updatedAt =>
      simp only [actOnRefund] at now
      split at now
      · cases row with
        | none => exact absurd now notBefore
        | some refund => exact absurd now notBefore
      · exact absurd now notBefore
  | _ => exact absurd now notBefore

/-! ## What a row keeps for its whole life -/

/-- A relation between rows that every statement keeps is kept by every run. -/
theorem keeps_rows {K ρ : Type} {col : Column payStore K (Option ρ)} {Q : ρ → ρ → Prop}
    {ok : PaySys → PayEvent → Prop} (reflexive : ∀ row, Q row row)
    (transitive : ∀ {a b c}, Q a b → Q b c → Q a c)
    (each : ∀ {db : Db} {env : Env} {st : Stmt} {res : st.Res}, st.run db env = some res →
      ∀ k, Kept Q (col.read db k) (col.read (payStore.applyAll db (st.writes res)) k)) :
    col.Keeps (fun _ _ => Kept Q) ok := by
  refine .of_executing (fun _ => Kept.refl reflexive) ?_ ?_
  · intro k a b c first second
    exact first.trans second transitive
  · intro s event st seen env res _ _ result k
    exact each result k

theorem OrderAfter.keeps_booking {st : Stmt} {orderNo : Bytes} {old new : Option OrderRow}
    (after : OrderAfter st orderNo old new) :
    Kept (fun before now => before.toOrderBooking = now.toOrderBooking) old new := by
  cases after with
  | same => exact Kept.refl (by simp) _
  | inserted _ _ => exact Kept.none _
  | moved _ => exact Kept.some rfl

theorem orderColumn_keeps_booking {ok : PaySys → PayEvent → Prop} :
    orderColumn.Keeps
      (fun _ _ => Kept fun before now => before.toOrderBooking = now.toOrderBooking) ok := by
  refine keeps_rows (fun _ => rfl) (fun first second => first.trans second) ?_
  intro db env st res ran orderNo
  exact (order_after ran orderNo).keeps_booking

theorem PaymentAfter.keeps_booking {st : Stmt} {paymentNo : Bytes} {old new : Option PaymentRow}
    (after : PaymentAfter st paymentNo old new) :
    Kept (fun before now => before.toPaymentBooking = now.toPaymentBooking) old new := by
  cases after with
  | same => exact Kept.refl (by simp) _
  | inserted _ _ => exact Kept.none _
  | moved _ => exact Kept.some rfl

theorem paymentColumn_keeps_booking {ok : PaySys → PayEvent → Prop} :
    paymentColumn.Keeps
      (fun _ _ => Kept fun before now => before.toPaymentBooking = now.toPaymentBooking) ok := by
  refine keeps_rows (fun _ => rfl) (fun first second => first.trans second) ?_
  intro db env st res ran paymentNo
  exact (payment_after ran paymentNo).keeps_booking

theorem RefundAfter.keeps_booking {st : Stmt} {refundNo : Bytes} {old new : Option RefundRow}
    (after : RefundAfter st refundNo old new) :
    Kept (fun before now => before.toRefundBooking = now.toRefundBooking) old new := by
  cases after with
  | same => exact Kept.refl (by simp) _
  | inserted _ _ => exact Kept.none _
  | moved _ => exact Kept.some rfl
  | touched => exact Kept.some rfl

theorem refundColumn_keeps_booking {ok : PaySys → PayEvent → Prop} :
    refundColumn.Keeps
      (fun _ _ => Kept fun before now => before.toRefundBooking = now.toRefundBooking) ok := by
  refine keeps_rows (fun _ => rfl) (fun first second => first.trans second) ?_
  intro db env st res ran refundNo
  exact (refund_after ran refundNo).keeps_booking

/-! What a process has read is still there, with the same booking. -/

section Reads

variable {entry : Request → PayProg} {ok : PaySys → PayEvent → Prop} {start : Db}
  {events : List PayEvent} {s : PaySys} {p : PayProc}

private theorem read_known {K ρ : Type} {col : Column payStore K (Option ρ)} {Q : ρ → ρ → Prop}
    (keeps : col.Keeps (fun _ _ => Kept Q) ok)
    (run : Run entry ok (Sys.initial start) events s) (member : p ∈ s.procs) {st : Stmt}
    {res : st.Res} (saw : .ran st res ∈ p.known) :
    ∃ (seen : Db) (env : Env), st.run seen env = some res ∧
      ∀ k, Kept Q (col.read seen k) (col.read (s.view p.slot.record) k) := by
  obtain ⟨seen, env, ran, _, kept, _⟩ := run.recalls_known (I := fun _ => True) keeps
    (fun _ => ⟨trivial, fun _ _ => trivial⟩) member st res saw
  exact ⟨seen, env, ran, kept⟩

theorem order_read (run : Run entry ok (Sys.initial start) events s) (member : p ∈ s.procs)
    {orderNo : Bytes} {order : OrderRow}
    (saw : .ran (.findOrder orderNo) (some order) ∈ p.known) :
    ∃ row, (s.view p.slot.record).orders.find orderNo = some row ∧
      order.toOrderBooking = row.toOrderBooking := by
  obtain ⟨seen, env, ran, kept⟩ := read_known orderColumn_keeps_booking run member saw
  exact kept orderNo order (Option.some.inj ran)

theorem refund_read (run : Run entry ok (Sys.initial start) events s) (member : p ∈ s.procs)
    {refundNo : Bytes} {refund : RefundRow}
    (saw : .ran (.findRefund refundNo) (some refund) ∈ p.known) :
    ∃ row, (s.view p.slot.record).refunds.find refundNo = some row ∧
      refund.toRefundBooking = row.toRefundBooking := by
  obtain ⟨seen, env, ran, kept⟩ := read_known refundColumn_keeps_booking run member saw
  exact kept refundNo refund (Option.some.inj ran)

/-- A row that was committed once is there. -/
private theorem committed_stays {K ρ : Type} {col : Column payStore K (Option ρ)}
    {Q : ρ → ρ → Prop} (transitive : ∀ {a b c}, Q a b → Q b c → Q a c)
    (keeps : col.Keeps (fun _ _ => Kept Q) ok) (run : Run entry ok (Sys.initial start) events s)
    (member : p ∈ s.procs) {db : Db} (committed : db ∈ s.history) {k : K} {row : ρ}
    (found : col.read db k = some row) :
    ∃ row', col.read (s.view p.slot.record) k = some row' ∧ Q row row' := by
  have seen := run.column_view keeps p member k
  rcases List.mem_cons.mp committed with rfl | older
  · exact seen row found
  · have kept := run.column_history keeps k
    exact ((List.pairwise_cons.mp kept).1 db older).trans seen transitive row found

theorem order_stays (run : Run entry ok (Sys.initial start) events s) (member : p ∈ s.procs)
    {db : Db} (committed : db ∈ s.history) {orderNo : Bytes} {order : OrderRow}
    (found : db.orders.find orderNo = some order) :
    ∃ row, (s.view p.slot.record).orders.find orderNo = some row ∧
      order.toOrderBooking = row.toOrderBooking :=
  committed_stays (fun first second => first.trans second) orderColumn_keeps_booking run member
    committed found

theorem payment_stays (run : Run entry ok (Sys.initial start) events s) (member : p ∈ s.procs)
    {db : Db} (committed : db ∈ s.history) {paymentNo : Bytes} {payment : PaymentRow}
    (found : db.payments.find paymentNo = some payment) :
    ∃ row, (s.view p.slot.record).payments.find paymentNo = some row ∧
      payment.toPaymentBooking = row.toPaymentBooking :=
  committed_stays (fun first second => first.trans second) paymentColumn_keeps_booking run member
    committed found

theorem refund_stays (run : Run entry ok (Sys.initial start) events s) (member : p ∈ s.procs)
    {db : Db} (committed : db ∈ s.history) {refundNo : Bytes} {refund : RefundRow}
    (found : db.refunds.find refundNo = some refund) :
    ∃ row, (s.view p.slot.record).refunds.find refundNo = some row ∧
      refund.toRefundBooking = row.toRefundBooking :=
  committed_stays (fun first second => first.trans second) refundColumn_keeps_booking run member
    committed found

/-- A refund that was booked is there. -/
theorem refund_booked (run : Run entry ok (Sys.initial start) events s) (member : p ∈ s.procs)
    {booking : RefundBooking} {now : Nat} (saw : .ran (.insertRefund booking) now ∈ p.known) :
    ∃ row, (s.view p.slot.record).refunds.find booking.refundNo = some row ∧
      row.toRefundBooking = booking := by
  obtain ⟨seen, env, ran, _, _, kept⟩ := run.recalls_known (I := fun _ => True)
    refundColumn_keeps_booking (fun _ => ⟨trivial, fun _ _ => trivial⟩) member _ _ saw
  have read : ∀ row : RefundRow,
      (payStore.applyAll seen [Write.insertRefund row]).refunds.find booking.refundNo =
        if row.refundNo = booking.refundNo then
          (seen.refunds.find booking.refundNo).or (some row)
        else seen.refunds.find booking.refundNo :=
    fun row => refundColumn.read_applyAll seen [Write.insertRefund row] booking.refundNo
  have admits := (admitted_eq_some ran).1
  simp only [Db.admitsRefund, Bool.and_eq_true] at admits
  have fresh := Option.isNone_iff_eq_none.mp admits.1.1
  obtain ⟨row, found, same⟩ := kept booking.refundNo
    { booking with status := .REFUND_INIT, channelRefundNo := [], updatedAt := now }
    ((read _).trans (by rw [if_pos rfl, fresh, Option.none_or]))
  exact ⟨row, found, same.symm⟩

/-- An order is there right after it was inserted. -/
private theorem find_insertOrder {seen : Db} {env : Env} {booking : OrderBooking} {now : Nat}
    (ran : (Stmt.insertOrder booking).run seen env = some now) :
    (payStore.applyAll seen ((Stmt.insertOrder booking).writes now)).orders.find booking.orderNo =
      some { booking with status := .CREATED, createdAt := now, updatedAt := now } := by
  have read : ∀ row : OrderRow,
      (payStore.applyAll seen [Write.insertOrder row]).orders.find booking.orderNo =
        if row.orderNo = booking.orderNo then (seen.orders.find booking.orderNo).or (some row)
        else seen.orders.find booking.orderNo :=
    fun row => orderColumn.read_applyAll seen [Write.insertOrder row] booking.orderNo
  have fresh := Option.isNone_iff_eq_none.mp (admitted_eq_some ran).1
  exact (read _).trans (by rw [if_pos rfl, fresh, Option.none_or])

/-- An order that was booked is there. -/
theorem order_booked (run : Run entry ok (Sys.initial start) events s) (member : p ∈ s.procs)
    {booking : OrderBooking} {now : Nat} (saw : .ran (.insertOrder booking) now ∈ p.known) :
    ∃ row, (s.view p.slot.record).orders.find booking.orderNo = some row ∧
      row.toOrderBooking = booking := by
  obtain ⟨seen, env, ran, _, _, kept⟩ := run.recalls_known (I := fun _ => True)
    orderColumn_keeps_booking (fun _ => ⟨trivial, fun _ _ => trivial⟩) member _ _ saw
  obtain ⟨row, found, same⟩ := kept booking.orderNo _ (find_insertOrder ran)
  exact ⟨row, found, same.symm⟩

/-- One that the log books is committed. -/
theorem order_committed (run : Run entry ok (Sys.initial start) events s) (member : p ∈ s.procs)
    {booking : OrderBooking} {now : Nat} (saw : .ran (.insertOrder booking) now ∈ p.log) :
    ∃ row, s.db.orders.find booking.orderNo = some row ∧ row.toOrderBooking = booking := by
  obtain ⟨seen, env, ran, _, _, kept⟩ := (run.recalls (I := fun _ => True)
    orderColumn_keeps_booking (fun _ => ⟨trivial, fun _ _ => trivial⟩) p member).1 _ _ saw
  obtain ⟨row, found, same⟩ := kept booking.orderNo _ (find_insertOrder ran)
  exact ⟨row, found, same.symm⟩

/-- An order that the log read is committed. -/
theorem order_known (run : Run entry ok (Sys.initial start) events s) (member : p ∈ s.procs)
    {orderNo : Bytes} {order : OrderRow}
    (saw : .ran (.findOrder orderNo) (some order) ∈ p.log) :
    ∃ row, s.db.orders.find orderNo = some row ∧ order.toOrderBooking = row.toOrderBooking := by
  obtain ⟨seen, env, ran, _, kept, _⟩ := (run.recalls (I := fun _ => True)
    orderColumn_keeps_booking (fun _ => ⟨trivial, fun _ _ => trivial⟩) p member).1 _ _ saw
  exact kept orderNo order (Option.some.inj ran)

/-- An order that a sweep read is committed. -/
theorem swept_read (run : Run entry ok (Sys.initial start) events s) (member : p ∈ s.procs)
    {channel : Bytes} {limit : Nat} {rows : List OrderRow} {order : OrderRow}
    (saw : .ran (.sweepOrders channel limit) rows ∈ p.log) (swept : order ∈ rows) :
    ∃ row, s.db.orders.find order.orderNo = some row ∧
      order.toOrderBooking = row.toOrderBooking := by
  obtain ⟨seen, env, ran, _, kept, _⟩ := (run.recalls (I := fun _ => True)
    orderColumn_keeps_booking (fun _ => ⟨trivial, fun _ _ => trivial⟩) p member).1 _ _ saw
  refine kept order.orderNo order (Table.find_eq_some_iff.mpr ⟨?_, rfl⟩)
  have answer := Option.some.inj ran
  rw [← answer] at swept
  have listed := List.mem_of_mem_take swept
  simp only [newestFirst, List.mem_insertionSort, Db.pendingOrders, List.mem_filter] at listed
  exact listed.1

/-- The first row is a newest one. -/
theorem newestFirst_head {ρ : Type} {stamp tie : ρ → Nat} {rows : List ρ} {first row : ρ}
    (head : (newestFirst stamp tie rows).head? = some first) (member : row ∈ rows) :
    stamp row ≤ stamp first := by
  let Before (a b : ρ) : Prop := stamp b < stamp a ∨ (stamp a = stamp b ∧ tie a ≤ tie b)
  have total : Std.Total Before := ⟨fun a b => by simp only [Before]; omega⟩
  have transitive : IsTrans ρ Before := ⟨fun a b c => by simp only [Before]; omega⟩
  have sorted : (newestFirst stamp tie rows).Pairwise Before := List.pairwise_insertionSort _ rows
  obtain ⟨rest, isSorted⟩ := List.head?_eq_some_iff.mp head
  have listed : row ∈ newestFirst stamp tie rows := (List.mem_insertionSort _).mpr member
  rw [isSorted] at sorted listed
  rcases List.mem_cons.mp listed with rfl | later
  · exact Nat.le_refl _
  · rcases (List.pairwise_cons.mp sorted).1 row later with newer | ⟨same, _⟩
    · exact Nat.le_of_lt newer
    · exact Nat.le_of_eq same.symm

theorem Db.find_of_attempts {db : Db} {env : Env} {orderNo : Bytes}
    {statuses : List PaymentStatus} {row : PaymentRow}
    (first : (db.attempts env orderNo statuses).head? = some row) :
    db.payments.find row.paymentNo = some row := by
  have member := List.mem_of_mem_head? (Option.mem_def.mpr first)
  simp only [Db.attempts, newestFirst, List.mem_insertionSort, List.mem_filter] at member
  exact Table.find_eq_some_iff.mpr ⟨member.1, rfl⟩

theorem attempt_read (run : Run entry ok (Sys.initial start) events s) (member : p ∈ s.procs)
    {orderNo : Bytes} {statuses : List PaymentStatus} {payment : PaymentRow}
    (saw : .ran (.newestAttempt orderNo statuses) (some payment) ∈ p.known) :
    ∃ row, (s.view p.slot.record).payments.find payment.paymentNo = some row ∧
      payment.toPaymentBooking = row.toPaymentBooking := by
  obtain ⟨seen, env, ran, kept⟩ := read_known paymentColumn_keeps_booking run member saw
  exact kept payment.paymentNo payment (Db.find_of_attempts (Option.some.inj ran))

/-- An attempt that the log looked up is committed. -/
theorem attempt_known (run : Run entry ok (Sys.initial start) events s) (member : p ∈ s.procs)
    {orderNo : Bytes} {statuses : List PaymentStatus} {payment : PaymentRow}
    (saw : .ran (.newestAttempt orderNo statuses) (some payment) ∈ p.log) :
    ∃ row, s.db.payments.find payment.paymentNo = some row ∧
      payment.toPaymentBooking = row.toPaymentBooking := by
  obtain ⟨seen, env, ran, _, kept, _⟩ := (run.recalls (I := fun _ => True)
    paymentColumn_keeps_booking (fun _ => ⟨trivial, fun _ _ => trivial⟩) p member).1 _ _ saw
  exact kept payment.paymentNo payment (Db.find_of_attempts (Option.some.inj ran))

theorem lockedAttempt_read (run : Run entry ok (Sys.initial start) events s)
    (member : p ∈ s.procs) {orderNo : Bytes} {statuses : List PaymentStatus}
    {payment : PaymentRow}
    (saw : .ran (.lockAttempt orderNo statuses) (some payment) ∈ p.known) :
    ∃ row, (s.view p.slot.record).payments.find payment.paymentNo = some row ∧
      payment.toPaymentBooking = row.toPaymentBooking := by
  obtain ⟨seen, env, ran, kept⟩ := read_known paymentColumn_keeps_booking run member saw
  exact kept payment.paymentNo payment (Db.find_of_attempts (Option.some.inj ran))

end Reads

/-! ## Reservations -/

/-- The statement was aimed at the row of this key, and says that it found it. -/
def Stmt.hits (key : Bytes) : (st : Stmt) → st.Res → Bool
  | .reserve target _ _ _, (res : Option Nat) => target = key && res.isSome
  | .saveSnapshot target _ _, (res : Bool) | .clearReservation target _, (res : Bool)
  | .dropReservation target, (res : Bool) | .finalizeReservation target _ _, (res : Bool) =>
      target = key && res
  | _, _ => false

/-- The row of an idempotency key before and after a statement, with the
statement's answer. -/
inductive ReservationAfter (key : Bytes) :
    (st : Stmt) → st.Res → Option IdempotencyRow → Option IdempotencyRow → Prop where
  | same {st : Stmt} {res : st.Res} {row : Option IdempotencyRow}
      (missed : st.hits key res = false) : ReservationAfter key st res row row
  | reserved {requestHash : Bytes} {ownerToken : Option Bytes} {ttl now : Nat} :
      ReservationAfter key (.reserve key requestHash ownerToken ttl) (some now) none
        (some ⟨key, requestHash, none, some (now + ttl), ownerToken⟩)
  | saved {requestHash : Bytes} {snapshot : Json} {row : IdempotencyRow}
      (isHash : row.requestHash = requestHash) :
      ReservationAfter key (.saveSnapshot key requestHash snapshot) true (some row)
        (some (row.finalize snapshot))
  | cleared {requestHash : Bytes} {row : IdempotencyRow} (isHash : row.requestHash = requestHash)
      (unfinished : row.responseSnapshot = none) :
      ReservationAfter key (.clearReservation key requestHash) true (some row) none
  | dropped {row : IdempotencyRow} (unfinished : row.responseSnapshot = none) :
      ReservationAfter key (.dropReservation key) true (some row) none
  | finalized {ownerToken : Bytes} {snapshot : Json} {row : IdempotencyRow}
      (owned : row.ownerToken = some ownerToken) :
      ReservationAfter key (.finalizeReservation key ownerToken snapshot) true (some row)
        (some (row.finalize snapshot))
  | purged {keys : List Bytes} {row : IdempotencyRow} (expired : key ∈ keys) :
      ReservationAfter key .purgeIdempotency keys (some row) none

private theorem reservation_matched {target key : Bytes} {guard : IdempotencyRow → Bool}
    {w : Write} (change : Option IdempotencyRow → Option IdempotencyRow)
    (acts : ∀ row, actOnIdempotency w key row = if target = key then change row else row)
    {R : Bool → Option IdempotencyRow → Option IdempotencyRow → Prop}
    (same : ∀ res row, (target = key && res) = false → R res row row)
    (changed : ∀ row, target = key → guard row → R true (some row) (change (some row))) :
    R ((db.idempotency.find target).any guard) (db.idempotency.find key)
      ((payStore.applyAll db
        (Stmt.matched ((db.idempotency.find target).any guard) w)).idempotency.find key) := by
  cases passes : (db.idempotency.find target).any guard with
  | false => exact same _ _ (Bool.and_false _)
  | true =>
      have read : ((payStore.applyAll db [w]).idempotency.find key) =
          actOnIdempotency w key (db.idempotency.find key) :=
        idempotencyColumn.read_applyAll db [w] key
      obtain ⟨row, found, passes⟩ := by simpa [Option.any_eq_true] using passes
      simp only [Stmt.matched, if_true, read, acts]
      split
      · rename_i isKey
        rw [← isKey, found]
        exact changed row isKey passes
      · rename_i different
        exact same _ _ (by simp [different])

/-- The row of a key after the rows of some keys are deleted. -/
theorem find_deleteAll (keys : List Bytes) (db : Db) (key : Bytes) :
    (payStore.applyAll db (keys.map Write.deleteIdempotency)).idempotency.find key =
      if key ∈ keys then none else db.idempotency.find key := by
  induction keys generalizing db with
  | nil => exact (if_neg List.not_mem_nil).symm
  | cons head tail inductionHypothesis =>
      have read : (db.apply (.deleteIdempotency head)).idempotency.find key =
          if head = key then none else db.idempotency.find key :=
        idempotencyColumn.read_apply db (.deleteIdempotency head) key
      rw [List.map_cons, Store.applyAll_cons, inductionHypothesis]
      simp only [read, List.mem_cons]
      by_cases isHead : head = key
      · simp [isHead]
      · simp [isHead, Ne.symm isHead]

/-- What a statement does to the row of an idempotency key. -/
theorem reservation_after (ran : st.run db env = some res) (key : Bytes) :
    ReservationAfter key st res (db.idempotency.find key)
      ((payStore.applyAll db (st.writes res)).idempotency.find key) := by
  cases st with
  | reserve target requestHash ownerToken ttl =>
      have answer := Option.some.inj ran
      subst answer
      cases found : db.idempotency.find target with
      | some row => exact .same (by simp [Stmt.hits])
      | none =>
          have read : ∀ row : IdempotencyRow,
              (payStore.applyAll db [Write.insertIdempotency row]).idempotency.find key =
                if row.idempotencyKey = key then (db.idempotency.find key).or (some row)
                else db.idempotency.find key :=
            fun row => idempotencyColumn.read_applyAll db [Write.insertIdempotency row] key
          simp only [Stmt.writes, Stmt.stamped, Option.isNone_none, if_true, Option.map_some,
            Option.toList_some, read]
          split
          · rename_i isKey
            subst isKey
            rw [found]
            exact .reserved
          · rename_i different
            exact .same (by simp [Stmt.hits, different])
  | saveSnapshot target requestHash snapshot =>
      have answer := Option.some.inj ran
      subst answer
      refine reservation_matched (Option.map (.finalize snapshot))
        (R := ReservationAfter key (.saveSnapshot target requestHash snapshot)) (fun _ => rfl)
        (fun _ _ missed => .same missed) ?_
      rintro row rfl passes
      exact .saved (by simpa using passes)
  | clearReservation target requestHash =>
      have answer := Option.some.inj ran
      subst answer
      refine reservation_matched (fun _ => none)
        (R := ReservationAfter key (.clearReservation target requestHash)) (fun _ => rfl)
        (fun _ _ missed => .same missed) ?_
      rintro row rfl passes
      simp only [Bool.and_eq_true, decide_eq_true_eq, Option.isNone_iff_eq_none] at passes
      exact .cleared passes.1 passes.2
  | dropReservation target =>
      have answer := Option.some.inj ran
      subst answer
      refine reservation_matched (fun _ => none)
        (R := ReservationAfter key (.dropReservation target)) (fun _ => rfl)
        (fun _ _ missed => .same missed) ?_
      rintro row rfl passes
      exact .dropped (by simpa using passes)
  | finalizeReservation target ownerToken snapshot =>
      have answer := Option.some.inj ran
      subst answer
      refine reservation_matched (Option.map (.finalize snapshot))
        (R := ReservationAfter key (.finalizeReservation target ownerToken snapshot))
        (fun _ => rfl) (fun _ _ missed => .same missed) ?_
      rintro row rfl passes
      exact .finalized (by simpa using passes)
  | purgeIdempotency =>
      have deleted := find_deleteAll res db key
      simp only [Stmt.writes, deleted]
      split
      · rename_i member
        cases db.idempotency.find key with
        | none => exact .same rfl
        | some row => exact .purged member
      · exact .same rfl
  | _ =>
      have untouched := read_other_table idempotencyColumn_locked db res
        (by simp [Stmt.table]) key
      simp only [idempotencyColumn] at untouched
      rw [untouched]
      exact .same rfl

/-! ## The ledger -/

/-- Ledger rows are only ever added, one at a time. -/
theorem ledger_after (db : Db) (st : Stmt) (res : st.Res) :
    (payStore.applyAll db (st.writes res)).ledger =
      db.ledger ++ match st with
        | .insertLedger row => [row]
        | _ => [] := by
  have untouched : ∀ (ws : List Write) (db : Db), (∀ w ∈ ws, w.table ≠ .ledger) →
      (payStore.applyAll db ws).ledger = db.ledger := by
    intro ws
    induction ws with
    | nil => exact fun _ _ => rfl
    | cons w ws inductionHypothesis =>
        intro db others
        have headSame : (Db.apply db w).ledger = db.ledger := by
          have other := others w (by simp)
          cases w <;> first | rfl | exact absurd rfl other
        rw [Store.applyAll_cons, inductionHypothesis _ fun w member => others w (by simp [member])]
        exact headSame
  have other : st.table ≠ some .ledger →
      (payStore.applyAll db (st.writes res)).ledger = db.ledger :=
    fun different => untouched _ db fun w member isLedger =>
      different (by rw [Stmt.writes_table member, isLedger])
  cases st with
  | insertLedger row => rfl
  | _ =>
      rw [List.append_nil]
      exact other (by simp [Stmt.table])

end DrogonPay

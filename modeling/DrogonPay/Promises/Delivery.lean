import DrogonPay.Promises.Programs
import DrogonPay.ReadCommitted.Records

/-!
Contract: what a WeChat delivery promises about its reservation and about the
transaction it settles in.

Owns:
- `Delivers`, the reservation a notification is worked off under;
- `Settlement`, the statements of a settlement in the order in which they reach
  the transaction, up to the finalizing;
- `deliveryContract`, kept by both notification handlers.

Does not own: what follows for a run.
-/

namespace DrogonPay

open ReadCommitted

/-- A write of a settlement: money on an attempt or an order, or a refund that
moves. -/
def Write.settles : Write → Bool
  | .setPayment _ status _ => status = .SUCCESS
  | .setOrder _ status _ => status = .PAID || status = .REFUNDED
  | .setRefund _ _ _ _ => true
  | _ => false

namespace CallbackService

/-! ## What a delivery is about -/

def PaymentNotice.of (plain : Json) : Option PaymentNotice := do
  return ⟨← plain.stringAt "out_trade_no", ← plain.stringAt "transaction_id",
    ← plain.stringAt "trade_state"⟩

def RefundNotice.of (plain : Json) : Option RefundNotice := do
  return ⟨← plain.stringAt "out_refund_no", ← plain.stringAt "refund_status",
    ← plain.stringAt "refund_id"⟩

/-- The reservation a request is worked off under. -/
inductive Delivers : Request → Delivery → Prop where
  | payment {notification : Notification} {ownerToken : Drawn} {notice : PaymentNotice}
      (read : PaymentNotice.of notification.plain = some notice) :
      Delivers (.paymentNotification notification ownerToken)
        ⟨deliveryKey notification.id notice.orderNo notice.tradeState, notification.bodyHash,
          ownerToken.text, notification.plain⟩
  | refund {notification : Notification} {ownerToken : Drawn} {notice : RefundNotice}
      (read : RefundNotice.of notification.plain = some notice) :
      Delivers (.refundNotification notification ownerToken)
        ⟨deliveryKey notification.id notice.refundNo notice.refundStatusRaw,
          notification.bodyHash, ownerToken.text, notification.plain⟩

/-- A payment notification that says that money came in. -/
def Pays (notification : Notification) : Prop :=
  ∃ notice, PaymentNotice.of notification.plain = some notice ∧
    (PayUtils.mapTradeState notice.tradeState).2 = .SUCCESS

/-- The statements a delivery has run on its transaction when it finalizes its
reservation. The two chains of a refund notification interleave in one way only. -/
inductive Settlement (log : List PayEntry) : Request → List PayEntry → Prop where
  | payment {notification : Notification} {ownerToken : Drawn} {notice : PaymentNotice}
      {payment : PaymentRow} {order : OrderRow} {sums : List PayEntry} {orderStatus : OrderStatus}
      {tradeNo : Option Bytes} {stamp : Option Nat}
      (read : PaymentNotice.of notification.plain = some notice)
      (isAttempt : payment.orderNo = notice.orderNo) (isOrder : order.orderNo = payment.orderNo)
      (summed : ∀ entry ∈ sums, ∃ sumText,
        entry = .ran (.sumRefunds notice.orderNo [.REFUND_SUCCESS]) sumText)
      (paid : orderStatus = .PAID ∨ orderStatus = .REFUNDED) :
      Settlement log (.paymentNotification notification ownerToken)
        (noticeReads notice payment order ++ sums ++
          [.ran (.insertCallback (auditRow payment.paymentNo)) (),
            .ran (.casPayment payment.paymentNo .SUCCESS tradeNo) true,
            .ran (.updateOrder order.orderNo orderStatus) stamp,
            .ran (.insertLedger
              ⟨order.userId, payment.orderNo, payment.paymentNo, .PAYMENT, order.amount⟩) ()])
  | refund {notification : Notification} {ownerToken : Drawn} {notice : RefundNotice}
      {refund : RefundRow} {order : OrderRow} {refundId : Option Bytes} {now : Nat}
      {stamp : Option Nat} {sumText : Bytes} {settledRefundFen : Nat} {covers : List PayEntry}
      (read : RefundNotice.of notification.plain = some notice)
      (mapped : PayUtils.mapRefundStatus notice.refundStatusRaw = some .REFUND_SUCCESS)
      (isRefund : refund.refundNo = notice.refundNo)
      (found : Saw log (.findRefund refund.refundNo) (some refund))
      (ordered : Saw log (.findOrder refund.orderNo) (some order))
      (parsed : PayUtils.parseAmountToFen sumText = some settledRefundFen)
      (cover : if PayUtils.refundsCoverOrderAmount settledRefundFen (PayUtils.fenOf order.amount)
        then ∃ res, covers = [.ran (.coverOrder refund.orderNo) res] else covers = []) :
      Settlement log (.refundNotification notification ownerToken)
        ([.ran (.casRefund refund.refundNo .REFUND_SUCCESS refundId) (some now),
            .ran (.setRefundPayload refund.refundNo) stamp,
            .ran (.insertLedger
              ⟨order.userId, refund.orderNo, refund.paymentNo, .REFUND, refund.amount⟩) (),
            .ran (.sumRefunds refund.orderNo [.REFUND_SUCCESS]) sumText,
            .ran (.insertCallback (auditRow refund.paymentNo)) ()] ++ covers)
  | refundMoved {notification : Notification} {ownerToken : Drawn} {notice : RefundNotice}
      {refund : RefundRow} {refundStatus : RefundStatus} {refundId : Option Bytes} {now : Nat}
      {stamp : Option Nat} (read : RefundNotice.of notification.plain = some notice)
      (mapped : PayUtils.mapRefundStatus notice.refundStatusRaw = some refundStatus)
      (unsettled : refundStatus ≠ .REFUND_SUCCESS) (isRefund : refund.refundNo = notice.refundNo)
      (found : Saw log (.findRefund refund.refundNo) (some refund)) :
      Settlement log (.refundNotification notification ownerToken)
        [.ran (.casRefund refund.refundNo refundStatus refundId) (some now),
          .ran (.setRefundPayload refund.refundNo) stamp,
          .ran (.insertCallback (auditRow refund.paymentNo)) ()]

/-! ## The contract -/

/-- No reservation was finalized so far. -/
def Unfinalized (known : List PayEntry) : Prop :=
  ∀ key ownerToken snapshot, ¬ Saw known (.finalizeReservation key ownerToken snapshot) true

/-- A notification of a payment that has not come in. -/
def Unpaid (request : Request) : Prop :=
  ∃ notification ownerToken, request = .paymentNotification notification ownerToken ∧
    ¬ Pays notification

/-- A delivery finalizes its own reservation, once, and as the last statement of
its settlement; without a settlement only after the commit of a payment that has
not come in. -/
def FinalizePromise (log : List PayEntry) (record : Option (List PayEntry))
    (key ownerToken : Bytes) (snapshot : Json) : Prop :=
  ∃ request delivery, Owner log request ∧ Delivers request delivery ∧
    delivery.idempotencyKey = key ∧ delivery.ownerToken = ownerToken ∧
    delivery.plain = snapshot ∧ Unfinalized (log ++ record.getD []) ∧
    match record with
    | some entries => Settlement log request entries
    | none => Unpaid request

/-- The key is the one the process works under. -/
def OwnKey (log : List PayEntry) (key : Bytes) : Prop :=
  ∃ request delivery, Owner log request ∧ Delivers request delivery ∧
    delivery.idempotencyKey = key

/-- The attempt is moved under its lock, as it was when it was locked. -/
def LockedPromise (record : List PayEntry) (paymentNo : Bytes) : Prop :=
  ∃ orderNo payment,
    Saw record (.lockAttempt orderNo PaymentService.openStatuses) (some payment) ∧
    payment.paymentNo = paymentNo ∧ payment.status ∈ [PaymentStatus.INIT, .PROCESSING] ∧
    ∀ (st : Stmt) (res : st.Res), Saw record st res → st.table ≠ some .payments

def DeliveryPromise (log : List PayEntry) (record : Option (List PayEntry)) : Stmt → Prop
  | .finalizeReservation key ownerToken snapshot =>
      FinalizePromise log record key ownerToken snapshot
  | .reserve key _ ownerToken _ =>
      record = none ∧ ∃ request delivery, Owner log request ∧ Delivers request delivery ∧
        delivery.idempotencyKey = key ∧ ownerToken = some delivery.ownerToken
  | .dropReservation key => record = none ∧ OwnKey log key
  | .saveSnapshot _ _ _ | .clearReservation _ _ | .purgeIdempotency => False
  | .lockAttempt _ _ => record = some []
  | .findRefund _ => record = none
  | .casPayment paymentNo _ _ => ∃ entries, record = some entries ∧ LockedPromise entries paymentNo
  | st => record = none → st.table = none ∨ ∃ paymentNo, st = .insertCallback (auditRow paymentNo)

/-- A transaction of a delivery is committed without a write, with its whole
settlement, or for a payment that has not come in. -/
def DeliveryCommit (log record : List PayEntry) : Prop :=
  payStore.pending record = [] ∨
    (∃ request delivery entries, Owner log request ∧ Delivers request delivery ∧
      Settlement log request entries ∧ Unfinalized log ∧
      record = entries ++ [.ran (.finalizeReservation delivery.idempotencyKey delivery.ownerToken
        delivery.plain) true]) ∨
    (∃ request, Owner log request ∧ Unpaid request) ∧
      ∀ w ∈ payStore.pending record, w.settles = false ∧ w.table ≠ .idempotency

def deliveryContract : Contract paySig where
  issue := DeliveryPromise
  call _ _ := True
  commit := DeliveryCommit
  finish _ := True

/-! ## Ends of a program -/

section Ends

variable {slot : Slot paySig} {log record : List PayEntry} {queue : List PayProg}

theorem delivered_end (idle : Idle slot) : Verified deliveryContract ⟨slot, log, []⟩ := by
  cases slot with
  | none => exact Verified.nil_none.mpr fun _ => trivial
  | closed => exact Verified.nil_closed.mpr fun _ => trivial
  | active record => exact absurd rfl (idle record)

theorem delivered_reports {program : PayProg} (reports : program.Reports) (idle : Idle slot) :
    Runs deliveryContract slot log program :=
  verifiedAll_reports reports fun _ => delivered_end idle

theorem delivered_rollback {program : PayProg} (reports : program.Reports) :
    Runs deliveryContract slot log (.rollback program) :=
  runs_rollback.mpr (delivered_reports reports (Idle.rolledBack slot))

theorem delivered_orThrow {α : Type} {value : Option α} {next : α → PayProg} (idle : Idle slot)
    (continues : ∀ a, value = some a → Runs deliveryContract slot log (next a)) :
    Runs deliveryContract slot log (orThrow value next) := by
  cases value with
  | none => exact delivered_reports trivial idle
  | some a => exact continues a rfl

/-- A transaction without a write may end in any way. -/
theorem delivered_unwritten {program : PayProg} (reports : program.Reports)
    (unwritten : payStore.pending record = []) :
    Runs deliveryContract (.active record) log program :=
  verifiedAll_reports reports fun _ =>
    Verified.nil_active.mpr ⟨Or.inl unwritten, delivered_end Idle.closed⟩

theorem delivered_doomed (doomed : ∀ program ∈ queue, program.Doomed) :
    Verified deliveryContract ⟨.closed, log, queue⟩ :=
  Verified.of_doomed doomed fun _ => trivial

theorem delivered_given_up {program : PayProg} (reports : program.Reports)
    (doomed : ∀ program ∈ queue, program.Doomed) (gone : slot.rolledBack = .closed) :
    VerifiedAll deliveryContract (Proc.advance ⟨slot, log, queue⟩ (.rollback program)) := by
  refine verifiedAll_rollback.mpr ?_
  rw [gone]
  exact verifiedAll_reports reports fun _ => delivered_doomed doomed

end Ends

/-! ## Both handlers -/

/-- The process works off this delivery and has not finalized it. -/
structure Serving (log : List PayEntry) (request : Request) (delivery : Delivery) : Prop where
  owner : Owner log request
  delivers : Delivers request delivery
  unfinalized : Unfinalized log

section Handlers

variable {slot : Slot paySig} {log record : List PayEntry} {request : Request}
  {delivery : Delivery}

theorem Unfinalized.append {known more : List PayEntry} (left : Unfinalized known)
    (right : Unfinalized more) : Unfinalized (known ++ more) := by
  intro key ownerToken snapshot saw
  rcases List.mem_append.mp saw with old | new
  · exact left key ownerToken snapshot old
  · exact right key ownerToken snapshot new

theorem Serving.append (serving : Serving log request delivery) {more : List PayEntry}
    (unfinalized : Unfinalized more) : Serving (log ++ more) request delivery :=
  ⟨serving.owner.append more, serving.delivers, serving.unfinalized.append unfinalized⟩

/-- A settlement ends before the finalizing. -/
theorem Settlement.unfinalized {entries : List PayEntry}
    (settlement : Settlement log request entries) : Unfinalized entries := by
  intro key ownerToken snapshot saw
  cases settlement with
  | payment _ _ _ summed _ =>
      simp only [Saw, noticeReads, List.mem_append, List.mem_cons, List.not_mem_nil, or_false,
        reduceCtorEq, false_or, Entry.ran.injEq, false_and] at saw
      obtain ⟨sumText, eq⟩ := summed _ saw
      cases eq
  | refund _ _ _ _ _ _ cover =>
      simp only [Saw, List.mem_append, List.mem_cons, List.not_mem_nil, or_false,
        reduceCtorEq, false_or, Entry.ran.injEq, false_and] at saw
      split at cover
      · obtain ⟨res, rfl⟩ := cover
        cases List.mem_singleton.mp saw
      · rw [cover] at saw
        cases saw
  | refundMoved _ _ _ _ _ =>
      simp [Saw] at saw

/-- The finalizing of a settlement, and its commit. -/
theorem delivered_finalizeAndCommit {commitFailed : String}
    (serving : Serving log request delivery) (settlement : Settlement log request record) :
    Runs deliveryContract (.active record) log (finalizeAndCommit delivery commitFailed) := by
  refine runs_sql_txn.mpr ⟨?_, fun owned _ => ?_, fun cause => delivered_rollback trivial⟩
  · exact ⟨request, delivery, serving.owner, serving.delivers, rfl, rfl, rfl,
      serving.unfinalized.append settlement.unfinalized, settlement⟩
  · match owned with
    | false => exact delivered_rollback trivial
    | true =>
        refine runs_commit.mpr ⟨?_, delivered_reports trivial Idle.closed,
          delivered_rollback trivial⟩
        exact Or.inr (Or.inl ⟨request, delivery, record, serving.owner, serving.delivers,
          settlement, serving.unfinalized, rfl⟩)

theorem delivered_skipAdvanced {paymentNo : Bytes} :
    Runs deliveryContract slot log (skipAdvanced paymentNo) := by
  refine runs_rollback.mpr (runs_sql_db.mpr ⟨fun _ => Or.inr ⟨_, rfl⟩, fun _ _ => ?_, fun cause => ?_⟩)
  · exact delivered_reports trivial (Idle.rolledBack slot)
  · exact delivered_reports trivial (Idle.rolledBack slot)

theorem delivered_recordDuplicate {orderNo : Bytes} (idle : Idle slot) :
    Runs deliveryContract slot log (recordDuplicate orderNo) := by
  refine runs_sql_db.mpr ⟨fun _ => Or.inl rfl, fun found _ => ?_, fun cause =>
    delivered_reports trivial idle⟩
  match found with
  | none => exact delivered_reports trivial idle
  | some payment =>
      exact runs_sql_db.mpr ⟨fun _ => Or.inr ⟨_, rfl⟩, fun _ _ => delivered_reports trivial idle,
        fun cause => delivered_reports trivial idle⟩

theorem delivered_reserveDelivery {duplicate proceed : PayProg}
    (serving : Serving log request delivery) (idle : Idle slot)
    (repeated : ∀ log', Runs deliveryContract slot log' duplicate)
    (proceeds : ∀ log', Serving log' request delivery → Runs deliveryContract slot log' proceed) :
    Runs deliveryContract slot log (reserveDelivery delivery duplicate proceed) := by
  refine runs_sql_db.mpr ⟨fun _ => Or.inl rfl, fun found _ => ?_, fun cause =>
    delivered_reports trivial idle⟩
  have looked : ∀ found : Option IdempotencyRow, Serving
      (log ++ [.ran (.findIdempotency delivery.idempotencyKey) found]) request delivery :=
    fun found => serving.append (by simp [Unfinalized, Saw])
  cases found with
  | some existing =>
      dsimp only
      split
      · refine runs_sql_db.mpr ⟨⟨rfl, request, delivery, (looked _).owner, serving.delivers, rfl⟩,
          fun _ _ => delivered_reports trivial idle, fun cause => delivered_reports trivial idle⟩
      · exact repeated _
  | none =>
      refine runs_sql_db.mpr ⟨⟨rfl, request, delivery, (looked _).owner, serving.delivers, rfl,
        rfl⟩, fun reserved _ => ?_, fun cause => delivered_reports trivial idle⟩
      cases reserved with
      | none => exact delivered_reports trivial idle
      | some now => exact proceeds _ ((looked none).append (by simp [Unfinalized, Saw]))

end Handlers

/-! ## Payment notifications -/

section Payment

variable {cfg : Config} {slot : Slot paySig} {log : List PayEntry} {notification : Notification}
  {ownerToken : Drawn} {delivery : Delivery} {notice : PaymentNotice} {payment : PaymentRow}
  {order : OrderRow} {sums : List PayEntry} {orderStatus : OrderStatus}
  {paymentStatus : PaymentStatus}

/-- What a payment notification knows once it has locked its attempt and read the
order. -/
structure PaymentServing (log : List PayEntry) (notification : Notification) (ownerToken : Drawn)
    (delivery : Delivery) (notice : PaymentNotice) (payment : PaymentRow) (order : OrderRow) :
    Prop where
  serving : Serving log (.paymentNotification notification ownerToken) delivery
  read : PaymentNotice.of notification.plain = some notice
  isAttempt : payment.orderNo = notice.orderNo
  isOrder : order.orderNo = payment.orderNo
  unsettled : payment.status ∈ [PaymentStatus.INIT, .PROCESSING]

/-- The sums a transaction has read before it writes. -/
def Summed (notice : PaymentNotice) (sums : List PayEntry) : Prop :=
  ∀ entry ∈ sums, ∃ sumText, entry = .ran (.sumRefunds notice.orderNo [.REFUND_SUCCESS]) sumText

theorem Summed.unfinalized (summed : Summed notice sums) : Unfinalized sums := by
  intro key ownerToken snapshot saw
  obtain ⟨sumText, eq⟩ := summed _ saw
  cases eq

theorem Summed.unwritten (summed : Summed notice sums) : payStore.pending sums = [] := by
  induction sums with
  | nil => rfl
  | cons entry sums inductionHypothesis =>
      obtain ⟨sumText, rfl⟩ := summed entry (by simp)
      rw [Store.pending_cons_ran]
      exact inductionHypothesis fun later member => summed later (by simp [member])

theorem delivered_bookNotifiedOrder (tradeNo : Option Bytes)
    (serving : PaymentServing log notification ownerToken delivery notice payment order)
    (summed : Summed notice sums)
    (coherent : paymentStatus = .SUCCESS ↔ (orderStatus = .PAID ∨ orderStatus = .REFUNDED))
    (unpaid : paymentStatus ≠ .SUCCESS → ¬ Pays notification) :
    Runs deliveryContract
      (.active (noticeReads notice payment order ++ sums ++
        [.ran (.insertCallback (auditRow payment.paymentNo)) (),
          .ran (.casPayment payment.paymentNo paymentStatus tradeNo) true])) log
      (bookNotifiedOrder delivery payment order orderStatus) := by
  obtain ⟨serving, read, isAttempt, isOrder, _⟩ := serving
  refine runs_sql_txn.mpr ⟨nofun, fun stamp _ => ?_, fun cause =>
    delivered_reports trivial Idle.closed⟩
  dsimp only
  split
  · rename_i paid
    obtain rfl := coherent.mpr paid
    refine runs_sql_txn.mpr ⟨nofun, fun _ _ => ?_, fun cause =>
      runs_sql_txn_closed.mpr (delivered_rollback trivial)⟩
    refine delivered_finalizeAndCommit serving ?_
    simp only [List.append_assoc, List.cons_append, List.nil_append]
    rw [← List.append_assoc]
    exact .payment read isAttempt isOrder summed paid
  · rename_i notPaid
    have notSuccess : paymentStatus ≠ .SUCCESS := fun success => notPaid (coherent.mp success)
    have isUnpaid : Unpaid (.paymentNotification notification ownerToken) :=
      ⟨notification, ownerToken, rfl, unpaid notSuccess⟩
    refine runs_commit.mpr ⟨Or.inr (Or.inr ⟨⟨_, serving.owner, isUnpaid⟩, ?_⟩), ?_, ?_⟩
    · have pending : payStore.pending (noticeReads notice payment order ++ sums ++
          [.ran (.insertCallback (auditRow payment.paymentNo)) (),
            .ran (.casPayment payment.paymentNo paymentStatus tradeNo) true] ++
          [.ran (.updateOrder order.orderNo orderStatus) stamp]) =
          [.insertCallback (auditRow payment.paymentNo),
            .setPayment payment.paymentNo paymentStatus tradeNo] ++
          Stmt.stamped stamp (.setOrder order.orderNo orderStatus) := by
        simp [noticeReads, summed.unwritten, Stmt.writes, Stmt.matched]
      rw [pending]
      cases stamp with
      | none => simp [Stmt.stamped, Write.settles, Write.table, notSuccess]
      | some now => simp_all [Stmt.stamped, Write.settles, Write.table]
    · refine runs_sql_db.mpr ⟨?_, fun _ _ => delivered_reports trivial Idle.closed,
        fun cause => delivered_reports trivial Idle.closed⟩
      refine ⟨_, delivery, serving.owner.append _, serving.delivers, rfl, rfl, rfl, ?_, isUnpaid⟩
      rw [Option.getD_none, List.append_nil]
      refine serving.unfinalized.append ?_
      simp only [noticeReads, List.cons_append, List.nil_append, List.append_assoc]
      have reads : Unfinalized (noticeReads notice payment order) := by
        simp [Unfinalized, Saw, noticeReads]
      exact reads.append (summed.unfinalized.append (by simp [Unfinalized, Saw]))
    · exact delivered_reports trivial Idle.closed

theorem delivered_settleNotifiedPayment
    (serving : PaymentServing log notification ownerToken delivery notice payment order)
    (summed : Summed notice sums)
    (coherent : paymentStatus = .SUCCESS ↔ (orderStatus = .PAID ∨ orderStatus = .REFUNDED))
    (unpaid : paymentStatus ≠ .SUCCESS → ¬ Pays notification) :
    Runs deliveryContract (.active (noticeReads notice payment order ++ sums)) log
      (settleNotifiedPayment delivery notice payment order orderStatus paymentStatus) := by
  have failed : ∀ cause, Runs deliveryContract .closed (log ++ [.failed cause]) internalError :=
    fun cause => delivered_reports trivial Idle.closed
  refine runs_sql_txn.mpr ⟨nofun, fun _ _ => ?_, failed⟩
  refine runs_sql_txn.mpr ⟨⟨_, rfl, notice.orderNo, payment, ?_, rfl, serving.unsettled, ?_⟩,
    fun won _ => ?_, failed⟩
  · simp [Saw, noticeReads]
  · intro st res saw
    simp only [Saw, noticeReads, List.mem_append, List.mem_cons, List.not_mem_nil, or_false,
      Entry.ran.injEq] at saw
    rcases saw with ((⟨rfl, _⟩ | ⟨rfl, _⟩) | read) | ⟨rfl, _⟩
    · nofun
    · nofun
    · obtain ⟨sumText, eq⟩ := summed _ read
      cases eq
      nofun
    · nofun
  match won with
  | false => exact delivered_skipAdvanced
  | true =>
      have booked := delivered_bookNotifiedOrder (some notice.transactionId) serving summed
        coherent unpaid
      simpa only [List.append_assoc, List.cons_append, List.nil_append] using booked

theorem delivered_resolveNotifiedPayment
    (serving : PaymentServing log notification ownerToken delivery notice payment order) :
    Runs deliveryContract (.active (noticeReads notice payment order)) log
      (resolveNotifiedPayment delivery notice payment order) := by
  have unpaid : (PayUtils.mapTradeState notice.tradeState).2 ≠ .SUCCESS →
      ¬ Pays notification := by
    rintro notSuccess ⟨notice', read, success⟩
    obtain rfl : notice' = notice := Option.some.inj (read.symm.trans serving.read)
    exact notSuccess success
  dsimp only [resolveNotifiedPayment]
  split
  · refine runs_sql_txn.mpr ⟨nofun, fun sumText _ => ?_, fun cause =>
      runs_sql_txn_closed.mpr (delivered_reports trivial Idle.closed)⟩
    refine delivered_settleNotifiedPayment serving ?_
      (PayUtils.mapTradeState_success.trans PayUtils.resolveRefundedOrderStatus_paid.symm) unpaid
    intro entry member
    exact ⟨sumText, List.mem_singleton.mp member⟩
  · have unsummed : Summed notice [] := fun entry member => absurd member List.not_mem_nil
    have settled := delivered_settleNotifiedPayment serving unsummed
      PayUtils.mapTradeState_success unpaid
    rwa [List.append_nil] at settled

theorem delivered_checkNotifiedPayment
    (serving : PaymentServing log notification ownerToken delivery notice payment order) :
    Runs deliveryContract (.active (noticeReads notice payment order)) log
      (checkNotifiedPayment delivery notice payment order) := by
  unfold checkNotifiedPayment
  cases paymentAmountProblem delivery.plain payment order with
  | none => exact delivered_unwritten trivial rfl
  | some problem =>
      match problem with
      | some text => exact delivered_rollback trivial
      | none =>
          dsimp only [orThrow]
          split
          · exact delivered_rollback trivial
          · exact delivered_resolveNotifiedPayment serving

theorem delivered_settlePaymentNotice
    (serving : Serving log (.paymentNotification notification ownerToken) delivery)
    (read : PaymentNotice.of notification.plain = some notice) :
    Runs deliveryContract slot log (settlePaymentNotice delivery notice) := by
  have failed : ∀ cause, Runs deliveryContract .closed (log ++ [.failed cause]) internalError :=
    fun cause => delivered_reports trivial Idle.closed
  refine runs_start.mpr ⟨?_, delivered_reports trivial Idle.closed⟩
  refine runs_sql_txn.mpr ⟨rfl, fun found possible => ?_, failed⟩
  cases found with
  | none => exact delivered_rollback trivial
  | some payment =>
      dsimp only
      split
      · exact delivered_rollback trivial
      · rename_i unsettled
        have isOpen : payment.status ∈ [PaymentStatus.INIT, .PROCESSING] := by
          have isStatus := (possible payment rfl).2
          generalize payment.status = status at unsettled isStatus
          cases status <;> simp_all [PaymentService.openStatuses]
        refine runs_sql_txn.mpr ⟨by simp [deliveryContract, DeliveryPromise],
          fun ordered isOrder => ?_, failed⟩
        cases ordered with
        | none => exact delivered_unwritten trivial rfl
        | some order =>
            exact delivered_checkNotifiedPayment
              ⟨serving, read, (possible payment rfl).1, isOrder order rfl, isOpen⟩

theorem delivered_handlePaymentCallback
    (owner : Owner log (.paymentNotification notification ownerToken))
    (unfinalized : Unfinalized log) (idle : Idle slot) :
    Runs deliveryContract slot log
      (handlePaymentCallback cfg notification ownerToken.text) := by
  unfold handlePaymentCallback
  split
  · exact delivered_reports trivial idle
  · dsimp only
    refine delivered_orThrow idle fun merchant _ => ?_
    split
    · exact delivered_reports trivial idle
    · refine delivered_orThrow idle fun notice read => ?_
      split
      · exact delivered_reports trivial idle
      · exact delivered_reserveDelivery ⟨owner, .payment read, unfinalized⟩ idle
          (fun log' => delivered_recordDuplicate idle)
          fun log' serving => delivered_settlePaymentNotice serving read

end Payment

/-! ## Refund notifications -/

section Refund

variable {cfg : Config} {slot : Slot paySig} {log record : List PayEntry}
  {notification : Notification} {ownerToken : Drawn} {delivery : Delivery} {notice : RefundNotice}
  {refund : RefundRow} {order : OrderRow} {refundStatus : RefundStatus}

/-- What a refund notification knows before it starts its transaction. -/
structure RefundServing (log : List PayEntry) (notification : Notification) (ownerToken : Drawn)
    (delivery : Delivery) (notice : RefundNotice) (refund : RefundRow) (order : OrderRow)
    (refundStatus : RefundStatus) : Prop where
  serving : Serving log (.refundNotification notification ownerToken) delivery
  read : RefundNotice.of notification.plain = some notice
  mapped : PayUtils.mapRefundStatus notice.refundStatusRaw = some refundStatus
  isRefund : refund.refundNo = notice.refundNo
  found : Saw log (.findRefund refund.refundNo) (some refund)
  ordered : Saw log (.findOrder refund.orderNo) (some order)

/-- The audit row and the finalizing, as the last statements submitted. -/
theorem delivered_insertCallbackAndFinish {paymentNo : Bytes}
    (serving : Serving log (.refundNotification notification ownerToken) delivery)
    (settlement : Settlement log (.refundNotification notification ownerToken)
      (record ++ [.ran (.insertCallback (auditRow paymentNo)) ()])) :
    Verified deliveryContract
      ⟨.active record, log, [insertCallbackAndFinish delivery paymentNo]⟩ :=
  Verified.sql_txn.mpr ⟨nofun, fun _ _ => delivered_finalizeAndCommit serving settlement,
    fun _ => delivered_given_up trivial (by simp) rfl⟩

/-- A covered order is written between the audit row and the finalizing. -/
theorem delivered_auditCovered {covered : Option (Option Nat) → PayProg}
    (fails : covered none = .rollback internalError) (passes : ∀ res, covered (some res) = .done)
    (serving : Serving log (.refundNotification notification ownerToken) delivery)
    (settlement : ∀ res, Settlement log (.refundNotification notification ownerToken)
      (record ++ [.ran (.insertCallback (auditRow refund.paymentNo)) (),
        .ran (.coverOrder refund.orderNo) res])) :
    Verified deliveryContract ⟨.active record, log,
      [insertCallbackAndFinish delivery refund.paymentNo,
        .sql .txn (.coverOrder refund.orderNo) covered]⟩ := by
  have doomed : ∀ program ∈ [(.sql .txn (.coverOrder refund.orderNo) covered : PayProg)],
      program.Doomed := by
    intro program member
    rw [List.mem_singleton.mp member]
    exact ⟨_, _, rfl, by rw [fails]; trivial⟩
  refine Verified.sql_txn.mpr ⟨nofun, fun _ _ => ?_, fun _ => delivered_given_up trivial doomed rfl⟩
  refine verifiedAll_sql.mpr (Verified.sql_txn.mpr ⟨nofun, fun res _ => ?_, fun cause => ?_⟩)
  · rw [passes]
    have finishes : Runs deliveryContract (.active _) log
        (finalizeAndCommit delivery "db error: ") :=
      delivered_finalizeAndCommit serving (settlement res)
    simp only [List.append_assoc, List.cons_append, List.nil_append]
    exact verifiedAll_done.mpr (verifiedAll_sql.mp finishes)
  · rw [fails]
    refine delivered_given_up trivial ?_ rfl
    intro program member
    rw [List.mem_singleton.mp member]
    exact ⟨_, _, rfl, trivial⟩

/-- The sum, the audit row and the order, once the ledger row is written. -/
theorem delivered_settleNotifiedOrder {now : Nat} {stamp : Option Nat} {refundId : Option Bytes}
    (serving : RefundServing log notification ownerToken delivery notice refund order
      .REFUND_SUCCESS) :
    Verified deliveryContract
      ⟨.active [.ran (.casRefund refund.refundNo .REFUND_SUCCESS refundId) (some now),
          .ran (.setRefundPayload refund.refundNo) stamp,
          .ran (.insertLedger
            ⟨order.userId, refund.orderNo, refund.paymentNo, .REFUND, refund.amount⟩) ()], log,
        [settleNotifiedOrder order refund.orderNo,
          insertCallbackAndFinish delivery refund.paymentNo]⟩ := by
  obtain ⟨serving, read, mapped, isRefund, found, ordered⟩ := serving
  have doomed : ∀ program ∈ [insertCallbackAndFinish delivery refund.paymentNo],
      program.Doomed := by
    simpa using doomed_insertCallbackAndFinish refund.paymentNo
  refine Verified.sql_txn.mpr ⟨nofun, fun sumText _ => ?_, fun _ =>
    delivered_given_up trivial doomed rfl⟩
  dsimp only
  split
  · exact delivered_given_up trivial doomed rfl
  · rename_i settledRefundFen parsed
    split
    · rename_i covers
      refine verifiedAll_sql.mpr (delivered_auditCovered rfl (fun _ => rfl) serving fun res => ?_)
      exact .refund read mapped isRefund found ordered parsed
        (by rw [if_pos covers]; exact ⟨res, rfl⟩)
    · rename_i uncovered
      refine verifiedAll_done.mpr (delivered_insertCallbackAndFinish serving ?_)
      exact .refund read mapped isRefund found ordered parsed (by rw [if_neg uncovered])

theorem delivered_settleRefundNotice
    (serving : RefundServing log notification ownerToken delivery notice refund order
      refundStatus) :
    Runs deliveryContract slot log
      (settleRefundNotice delivery notice refund order refundStatus) := by
  refine runs_start.mpr ⟨?_, delivered_reports trivial Idle.closed⟩
  refine runs_sql_txn.mpr ⟨nofun, fun won _ => ?_, fun cause => delivered_rollback trivial⟩
  match won with
  | none => exact delivered_skipAdvanced
  | some now =>
      refine verifiedAll_both_sql.mpr ?_
      by_cases settles : refundStatus = .REFUND_SUCCESS
      · subst settles
        -- the payload write, the ledger row, then the sum and the audit row
        refine verifiedAll_sql.mpr (Verified.sql_txn.mpr ⟨nofun, fun stamp _ => ?_, fun _ =>
          delivered_given_up trivial ?_ rfl⟩)
        · refine verifiedAll_sql.mpr (Verified.sql_txn.mpr ⟨nofun, fun booked _ => ?_, fun _ => ?_⟩)
          · exact verifiedAll_sql.mpr (delivered_settleNotifiedOrder serving)
          · refine verifiedAll_sql.mpr (delivered_doomed ?_)
            intro program member
            rcases List.mem_pair.mp member with rfl | rfl
            · exact ⟨_, _, rfl, trivial⟩
            · exact doomed_insertCallbackAndFinish _
        · intro program member
          rw [List.mem_singleton.mp member]
          exact ⟨_, _, rfl, trivial⟩
      · have submitted : bookNotifiedRefund delivery refund order refundStatus =
            insertCallbackAndFinish delivery refund.paymentNo := if_neg settles
        rw [submitted]
        refine verifiedAll_sql.mpr (Verified.sql_txn.mpr ⟨nofun, fun stamp _ => ?_, fun _ =>
          delivered_given_up trivial ?_ rfl⟩)
        · dsimp only
          rw [if_neg settles]
          exact verifiedAll_done.mpr (delivered_insertCallbackAndFinish serving.serving
            (.refundMoved serving.read serving.mapped settles serving.isRefund serving.found))
        · intro program member
          rw [List.mem_singleton.mp member]
          exact doomed_insertCallbackAndFinish refund.paymentNo

theorem delivered_checkRefundNotice
    (serving : Serving log (.refundNotification notification ownerToken) delivery)
    (read : RefundNotice.of notification.plain = some notice) (idle : Idle slot) :
    Runs deliveryContract slot log (checkRefundNotice delivery notice) := by
  unfold checkRefundNotice
  split
  · exact delivered_reports trivial idle
  · rename_i refundStatus mapped
    refine runs_sql_db.mpr ⟨rfl, fun found possible => ?_, fun cause =>
      delivered_reports trivial idle⟩
    match found with
    | none => exact delivered_reports trivial idle
    | some refund =>
        obtain isRefund : refund.refundNo = notice.refundNo := possible refund rfl
        dsimp only
        split
        · exact delivered_reports trivial idle
        · refine delivered_orThrow idle fun checked _ => ?_
          match checked with
          | .error problem => exact delivered_reports trivial idle
          | .ok notifyCurrency =>
              refine runs_sql_db.mpr ⟨fun _ => Or.inl rfl, fun ordered _ => ?_, fun cause =>
                delivered_reports trivial idle⟩
              match ordered with
              | none => exact delivered_reports trivial idle
              | some order =>
                  dsimp only
                  split
                  · exact delivered_reports trivial idle
                  · refine delivered_settleRefundNotice ⟨(serving.append ?_).append ?_, read,
                      mapped, isRefund, ?_, Saw.last⟩
                    · simp [Unfinalized, Saw]
                    · simp [Unfinalized, Saw]
                    · rw [isRefund]
                      exact Saw.append Saw.last _

theorem delivered_handleRefundCallback
    (owner : Owner log (.refundNotification notification ownerToken))
    (unfinalized : Unfinalized log) (idle : Idle slot) :
    Runs deliveryContract slot log
      (handleRefundCallback cfg notification ownerToken.text) := by
  unfold handleRefundCallback
  split
  · exact delivered_reports trivial idle
  · dsimp only
    refine delivered_orThrow idle fun merchant _ => ?_
    split
    · exact delivered_reports trivial idle
    · refine delivered_orThrow idle fun notice read => ?_
      split
      · exact delivered_reports trivial idle
      · refine delivered_reserveDelivery ⟨owner, .refund read, unfinalized⟩ idle
          (fun log' => ?_) fun log' serving => delivered_checkRefundNotice serving read idle
        refine delivered_orThrow idle fun tradeOrderNo _ => ?_
        split
        · exact delivered_reports trivial idle
        · exact delivered_recordDuplicate idle

end Refund

/-! ## Deliveries fork nothing -/

theorem forkless_orThrow {α : Type} {value : Option α} {next : α → PayProg}
    (continues : ∀ a, (next a).Forkless) : (orThrow value next).Forkless := by
  cases value with
  | none => trivial
  | some a => exact continues a

theorem forkless_finalizeAndCommit (delivery : Delivery) (commitFailed : String) :
    (finalizeAndCommit delivery commitFailed).Forkless := by
  intro owned
  match owned with
  | some true =>
      intro committed
      cases committed <;> trivial
  | some false => trivial
  | none => trivial

theorem forkless_skipAdvanced (paymentNo : Bytes) : (skipAdvanced paymentNo).Forkless :=
  fun _ => trivial

theorem forkless_recordDuplicate (orderNo : Bytes) : (recordDuplicate orderNo).Forkless := by
  intro found
  match found with
  | some (some payment) =>
      intro recorded
      cases recorded <;> trivial
  | some none => trivial
  | none => trivial

theorem forkless_reserveDelivery {delivery : Delivery} {duplicate proceed : PayProg}
    (repeated : duplicate.Forkless) (proceeds : proceed.Forkless) :
    (reserveDelivery delivery duplicate proceed).Forkless := by
  intro found
  match found with
  | none => trivial
  | some (some existing) =>
      dsimp only
      split
      · exact fun _ => trivial
      · exact repeated
  | some none =>
      intro reserved
      match reserved with
      | none => trivial
      | some none => trivial
      | some (some _) => exact proceeds

theorem forkless_settleNotifiedPayment (delivery : Delivery) (notice : PaymentNotice)
    (payment : PaymentRow) (order : OrderRow) (orderStatus : OrderStatus)
    (paymentStatus : PaymentStatus) :
    (settleNotifiedPayment delivery notice payment order orderStatus paymentStatus).Forkless := by
  have books : (bookNotifiedOrder delivery payment order orderStatus).Forkless := by
    intro updated
    match updated with
    | none => trivial
    | some _ =>
        dsimp only
        split
        · exact fun _ => forkless_finalizeAndCommit _ _
        · intro committed
          match committed with
          | false => trivial
          | true => exact fun _ => trivial
  intro recorded
  match recorded with
  | none => trivial
  | some _ =>
      intro won
      match won with
      | none => trivial
      | some false => exact forkless_skipAdvanced _
      | some true => exact books

theorem forkless_settlePaymentNotice (delivery : Delivery) (notice : PaymentNotice) :
    (settlePaymentNotice delivery notice).Forkless := by
  intro started
  match started with
  | false => trivial
  | true =>
      intro found
      match found with
      | none => trivial
      | some none => trivial
      | some (some payment) =>
          dsimp only
          split
          · trivial
          · intro ordered
            match ordered with
            | none => trivial
            | some none => trivial
            | some (some order) =>
                refine forkless_orThrow fun problem => ?_
                match problem with
                | some text => trivial
                | none =>
                    dsimp only
                    split
                    · trivial
                    · dsimp only [resolveNotifiedPayment]
                      split
                      · intro summed
                        cases summed <;> exact forkless_settleNotifiedPayment _ _ _ _ _ _
                      · exact forkless_settleNotifiedPayment _ _ _ _ _ _

theorem forkless_settleRefundNotice (delivery : Delivery) (notice : RefundNotice)
    (refund : RefundRow) (order : OrderRow) (refundStatus : RefundStatus) :
    (settleRefundNotice delivery notice refund order refundStatus).Forkless := by
  have finishes : (insertCallbackAndFinish delivery refund.paymentNo).Forkless := by
    intro recorded
    match recorded with
    | none => trivial
    | some _ => exact forkless_finalizeAndCommit _ _
  have covers : (settleNotifiedOrder order refund.orderNo).Forkless := by
    intro summed
    match summed with
    | none => trivial
    | some sumText =>
        dsimp only
        split
        · trivial
        · split
          · intro covered
            cases covered <;> trivial
          · trivial
  intro started
  match started with
  | false => trivial
  | true =>
      intro won
      match won with
      | none => trivial
      | some none => exact forkless_skipAdvanced _
      | some (some _) =>
          refine ⟨fun stamped => ?_, ?_⟩
          · match stamped with
            | none => trivial
            | some _ =>
                dsimp only
                split
                · exact covers
                · trivial
          · unfold bookNotifiedRefund
            split
            · exact fun _ => finishes
            · exact finishes

theorem forkless_checkRefundNotice (delivery : Delivery) (notice : RefundNotice) :
    (checkRefundNotice delivery notice).Forkless := by
  unfold checkRefundNotice
  split
  · trivial
  · intro found
    match found with
    | none => trivial
    | some none => trivial
    | some (some refund) =>
        dsimp only
        split
        · trivial
        · refine forkless_orThrow fun checked => ?_
          match checked with
          | .error problem => trivial
          | .ok notifyCurrency =>
              intro ordered
              match ordered with
              | none => trivial
              | some none => trivial
              | some (some order) =>
                  dsimp only
                  split
                  · trivial
                  · exact forkless_settleRefundNotice _ _ _ _ _

/-- A WeChat notification. -/
def IsDelivery (request : Request) : Prop :=
  (∃ notification ownerToken, request = .paymentNotification notification ownerToken) ∨
    ∃ notification ownerToken, request = .refundNotification notification ownerToken

/-- Both handlers keep the contract of deliveries. -/
theorem delivered_serve (cfg : Config) {request : Request} (isDelivery : IsDelivery request) :
    Verified deliveryContract (Proc.spawn request (serve cfg request)) := by
  have fresh : Unfinalized [.spawned request] := by simp [Unfinalized, Saw]
  rcases isDelivery with ⟨notification, ownerToken, rfl⟩ | ⟨notification, ownerToken, rfl⟩
  · exact Verified.of_runs (delivered_handlePaymentCallback rfl fresh Idle.none)
  · exact Verified.of_runs (delivered_handleRefundCallback rfl fresh Idle.none)

theorem forkless_serve (cfg : Config) {request : Request} (isDelivery : IsDelivery request) :
    (serve cfg request).Forkless := by
  rcases isDelivery with ⟨notification, ownerToken, rfl⟩ | ⟨notification, ownerToken, rfl⟩
  · change (handlePaymentCallback cfg notification ownerToken.text).Forkless
    unfold handlePaymentCallback
    split
    · trivial
    · refine forkless_orThrow fun merchant => ?_
      dsimp only
      split
      · trivial
      · refine forkless_orThrow fun notice => ?_
        split
        · trivial
        · exact forkless_reserveDelivery (forkless_recordDuplicate _)
            (forkless_settlePaymentNotice _ _)
  · change (handleRefundCallback cfg notification ownerToken.text).Forkless
    unfold handleRefundCallback
    split
    · trivial
    · refine forkless_orThrow fun merchant => ?_
      dsimp only
      split
      · trivial
      · refine forkless_orThrow fun notice => ?_
        split
        · trivial
        · refine forkless_reserveDelivery (forkless_orThrow fun tradeOrderNo => ?_)
            (forkless_checkRefundNotice _ _)
          split
          · trivial
          · exact forkless_recordDuplicate _

end CallbackService
end DrogonPay

import DrogonPay.Promises.Refund

/-!
Contract: the notifications keep the contract of the services.

Owns: the lemmas for `Callback`, with `NoticeFacts`, what a payment notification
knows when it settles an attempt. The refund notification follows the order in
which its two chains of statements reach the transaction.

Does not own: the contract.
-/

namespace DrogonPay

open ReadCommitted

variable {cfg : Config} {slot : Slot paySig} {log record : List PayEntry}

namespace CallbackService

variable {delivery : Delivery}

/-! ## Deliveries -/

theorem runs_recordDuplicate {orderNo : Bytes} (bystander : Bystander log) (idle : Idle slot) :
    Runs payContract slot log (recordDuplicate orderNo) := by
  refine runs_pooled bystander.done rfl (by simp [Stmt.table]) (fun found _ _ => ?_)
    fun cause _ => runs_reports trivial idle (bystander.append _)
  cases found with
  | none => exact runs_reports trivial idle (bystander.append _)
  | some payment =>
      exact runs_pooled (bystander.append _).done trivial (by simp [Stmt.table])
        (fun res _ _ => runs_reports trivial idle ((bystander.append _).append _))
        fun cause _ => runs_reports trivial idle ((bystander.append _).append _)

theorem runs_reserveDelivery {duplicate proceed : PayProg} (bystander : Bystander log)
    (idle : Idle slot)
    (repeated : ∀ more, Runs payContract slot (log ++ more) duplicate)
    (proceeds : ∀ more, Runs payContract slot (log ++ more) proceed) :
    Runs payContract slot log (reserveDelivery delivery duplicate proceed) := by
  refine runs_pooled bystander.done trivial (by simp [Stmt.table]) (fun found _ _ => ?_)
    fun cause _ => runs_reports trivial idle (bystander.append _)
  cases found with
  | some existing =>
      dsimp only
      split
      · exact runs_pooled (bystander.append _).done trivial (by simp [Stmt.table])
          (fun res _ _ => runs_reports trivial idle ((bystander.append _).append _))
          fun cause _ => runs_reports trivial idle ((bystander.append _).append _)
      · exact repeated _
  | none =>
      refine runs_pooled (bystander.append _).done trivial (by simp [Stmt.table])
        (fun reserved _ _ => ?_)
        fun cause _ => runs_reports trivial idle ((bystander.append _).append _)
      cases reserved with
      | none => exact runs_reports trivial idle ((bystander.append _).append _)
      | some now =>
          rw [List.append_assoc]
          exact proceeds _

/-- A notification that names something is unlike a stored response. -/
theorem unlike_of_named {plain : Json} {name : String} {text : Bytes}
    (named : plain.stringAt name = some text) (some : text ≠ [])
    (notHash : ascii "request_hash" ≠ ascii name) (notResponse : ascii "response" ≠ ascii name) :
    Unlike plain := by
  rintro requestHash response rfl
  have empty : (IdempotencyService.snapshotOf requestHash response).stringAt name = Option.some [] := by
    simp [IdempotencyService.snapshotOf, Json.stringAt, Json.get, Json.object, Json.lookup, notHash,
      notResponse, Json.asString]
  exact some (Option.some.inj (named.symm.trans empty))

/-- Finalizing after a settlement whose commit is in order. -/
theorem runs_finalizeAndCommit {commitFailed : String} (unlike : Unlike delivery.plain)
    (bystander : Bystander log)
    (commits : CommitPromise log (record ++ [.ran (.finalizeReservation delivery.idempotencyKey
      delivery.ownerToken delivery.plain) true])) :
    Runs payContract (.active record) log (finalizeAndCommit delivery commitFailed) := by
  refine runs_sql_txn.mpr ⟨unlike, fun owned _ => ?_, fun cause =>
    runs_rollback_reports trivial (bystander.append _)⟩
  match owned with
  | false => exact runs_rollback_reports trivial bystander
  | true =>
      exact runs_commit.mpr ⟨commits, runs_reports trivial Idle.closed (bystander.append _),
        runs_rollback_reports trivial (bystander.append _)⟩

/-- On a transaction that is gone, finalizing only reports. -/
theorem runs_finalizeAndCommit_closed {commitFailed : String} (bystander : Bystander log) :
    Runs payContract .closed log (finalizeAndCommit delivery commitFailed) :=
  runs_sql_txn_closed.mpr (runs_rollback_reports trivial bystander)

theorem runs_skipAdvanced {paymentNo : Bytes} (bystander : Bystander log) :
    Runs payContract slot log (skipAdvanced paymentNo) := by
  refine runs_rollback.mpr ?_
  exact runs_pooled bystander.done trivial (by simp [Stmt.table])
    (fun res _ _ => runs_reports trivial (Idle.rolledBack slot) (bystander.append _))
    fun cause _ => runs_reports trivial (Idle.rolledBack slot) (bystander.append _)

/-! ## Payment notifications -/

/-- What a payment notification knows of the attempt it locked, before it writes
it. -/
structure NoticeFacts (log record : List PayEntry) (payment : PaymentRow) (order : OrderRow)
    (orderStatus : OrderStatus) (paymentStatus : PaymentStatus) : Prop where
  bystander : Bystander log
  locked : Saw record (.lockAttempt payment.orderNo PaymentService.openStatuses) (some payment)
  unsettled : payment.status.unsettled
  ordered : Saw record (.findOrder payment.orderNo) (some order)
  isOrder : order.orderNo = payment.orderNo
  heard : ∃ message fen mapped settledRefundFen, log.head? = some message ∧
    Says message payment.orderNo fen ∧ 0 < fen ∧
    PayUtils.parseAmountToFen payment.amount = some fen ∧
    saidOf payment.orderNo message = some mapped ∧
    (∀ sumText, Saw record (.sumRefunds payment.orderNo [.REFUND_SUCCESS]) sumText →
      settledRefundFen = PayUtils.fenOf sumText) ∧
    orderStatus = PayUtils.resolveRefundedOrderStatus mapped settledRefundFen
      (PayUtils.fenOf order.amount)
  cover : orderStatus = .REFUNDED → CoverPromise (log ++ record) order.orderNo
  coherent : paymentStatus = .SUCCESS ↔ (orderStatus = .PAID ∨ orderStatus = .REFUNDED)
  unreturned : paymentStatus ≠ .REFUNDED
  refundFree : Spares .refunds record
  orderFree : Spares .orders record
  paymentFree : Spares .payments record

section Notice

variable {notice : PaymentNotice} {payment : PaymentRow} {order : OrderRow}
  {orderStatus : OrderStatus} {paymentStatus : PaymentStatus}

/-- The order is written to what the notification says of it, under the settled
sum. -/
theorem NoticeFacts.orderWrite {tradeNo : Option Bytes}
    (facts : NoticeFacts log record payment order orderStatus paymentStatus) :
    OrderWrite log (record ++ [.ran (.casPayment payment.paymentNo paymentStatus tradeNo) true])
      order.orderNo orderStatus where
  first := facts.orderFree.snoc (by simp [Stmt.table])
  told := by
    obtain ⟨message, fen, mapped, settledRefundFen, started, _, _, _, said, summed, isStatus⟩ :=
      facts.heard
    rw [facts.isOrder]
    refine ⟨message, List.mem_of_mem_head? started, mapped, order, settledRefundFen, said,
      facts.ordered.append _,
      fun sumText saw => summed sumText ?_, isStatus⟩
    simpa [Saw] using saw
  found _ _ _ := by
    rw [facts.isOrder]
    exact ⟨payment, facts.locked.append _⟩
  settled booked := by
    have success := facts.coherent.mpr (OrderStatus.booked_iff.mp booked)
    refine ⟨payment, Or.inr (facts.locked.append _), facts.isOrder.symm, Or.inl ⟨tradeNo, ?_⟩⟩
    rw [success]
    exact Saw.last

theorem runs_bookNotifiedOrder {tradeNo : Option Bytes} (unlike : Unlike delivery.plain)
    (facts : NoticeFacts log record payment order orderStatus paymentStatus) :
    Runs payContract
      (.active (record ++ [.ran (.casPayment payment.paymentNo paymentStatus tradeNo) true])) log
      (bookNotifiedOrder delivery payment order orderStatus) := by
  -- the only attempt the transaction settles is the one it locked
  have only : ∀ {paymentNo : Bytes} {tradeNo' : Option Bytes},
      Saw (record ++ [.ran (.casPayment payment.paymentNo paymentStatus tradeNo) true])
        (.casPayment paymentNo .SUCCESS tradeNo') true →
      paymentNo = payment.paymentNo ∧ paymentStatus = .SUCCESS := by
    intro paymentNo tradeNo' saw
    rcases List.mem_append.mp saw with old | cas
    · exact absurd rfl (facts.paymentFree _ _ old)
    · have same := List.mem_singleton.mp cas
      injection same with sameStmt _
      injection sameStmt with isPayment isStatus _
      exact ⟨isPayment, isStatus.symm⟩
  have free : Spares .refunds (record ++
      [.ran (.casPayment payment.paymentNo paymentStatus tradeNo) true]) :=
    facts.refundFree.snoc (by simp [Stmt.table])
  have cover : orderStatus = .REFUNDED → CoverPromise (log ++ (record ++
      [.ran (.casPayment payment.paymentNo paymentStatus tradeNo) true])) order.orderNo := by
    intro refunded
    obtain ⟨seen, sumText, found, sum, covers⟩ := facts.cover refunded
    exact ⟨seen, sumText, by rw [← List.append_assoc]; exact found.append _,
      by rw [← List.append_assoc]; exact sum.append _, covers⟩
  refine runs_sql_txn.mpr ⟨⟨facts.orderWrite, free, cover⟩, fun stamp _ => ?_, fun cause =>
    runs_reports trivial Idle.closed (facts.bystander.append _)⟩
  have wrote : Saw (record ++ [.ran (.casPayment payment.paymentNo paymentStatus tradeNo) true] ++
      [.ran (.updateOrder order.orderNo orderStatus) stamp])
      (.updateOrder payment.orderNo orderStatus) stamp := by
    rw [← facts.isOrder]
    exact Saw.last
  dsimp only
  split
  · rename_i paid
    have success := facts.coherent.mpr paid
    subst success
    refine runs_sql_txn.mpr ⟨⟨_, rfl, ⟨order, ?_, rfl⟩, payment, Or.inr ?_, rfl, rfl,
      Or.inl ⟨tradeNo, ?_⟩⟩, fun booked _ => ?_, fun cause =>
        runs_finalizeAndCommit_closed (facts.bystander.append _)⟩
    · exact (facts.ordered.append _).append _
    · exact (facts.locked.append _).append _
    · exact Saw.append Saw.last _
    · refine runs_finalizeAndCommit unlike facts.bystander (Spares.commit ?_ ?_ ?_)
      · exact ((free.snoc (by simp [Stmt.table])).snoc (by simp [Stmt.table])).snoc
          (by simp [Stmt.table])
      · intro paymentNo tradeNo' saw
        obtain ⟨rfl, _⟩ := only (by simpa [Saw] using saw)
        exact Or.inl ⟨_, booked, Saw.append Saw.last _, rfl, rfl⟩
      · intro paymentNo tradeNo' saw
        obtain ⟨rfl, _⟩ := only (by simpa [Saw] using saw)
        refine ⟨payment, Or.inr ?_, rfl, Or.inl ⟨orderStatus, stamp,
          OrderStatus.booked_iff.mpr paid, (wrote.append _).append _⟩⟩
        exact facts.locked.mono (by simp)
  · rename_i unpaid
    refine runs_commit.mpr ⟨(free.snoc (by simp [Stmt.table])).commit ?_ ?_, ?_, ?_⟩
    · intro paymentNo tradeNo' saw
      exact absurd (facts.coherent.mp (only (by simpa [Saw] using saw)).2) unpaid
    · intro paymentNo tradeNo' saw
      exact absurd (facts.coherent.mp (only (by simpa [Saw] using saw)).2) unpaid
    · exact runs_pooled (facts.bystander.append _).done unlike (by simp [Stmt.table])
        (fun res _ _ => runs_reports trivial Idle.closed ((facts.bystander.append _).append _))
        fun cause _ => runs_reports trivial Idle.closed ((facts.bystander.append _).append _)
    · exact runs_reports trivial Idle.closed (facts.bystander.append _)

theorem NoticeFacts.snoc (facts : NoticeFacts log record payment order orderStatus paymentStatus)
    {auditRow : CallbackRow} {res : Unit} :
    NoticeFacts log (record ++ [.ran (.insertCallback auditRow) res]) payment order orderStatus
      paymentStatus where
  bystander := facts.bystander
  locked := facts.locked.append _
  unsettled := facts.unsettled
  ordered := facts.ordered.append _
  isOrder := facts.isOrder
  heard := by
    obtain ⟨message, fen, mapped, settledRefundFen, started, claims, positive, worth, said, summed,
      isStatus⟩ := facts.heard
    exact ⟨message, fen, mapped, settledRefundFen, started, claims, positive, worth, said,
      fun sumText saw => summed sumText (by simpa [Saw] using saw), isStatus⟩
  cover refunded := by
    obtain ⟨seen, sumText, found, sum, covers⟩ := facts.cover refunded
    rw [← List.append_assoc]
    exact ⟨seen, sumText, found.append _, sum.append _, covers⟩
  coherent := facts.coherent
  unreturned := facts.unreturned
  refundFree := facts.refundFree.snoc (by simp [Stmt.table])
  orderFree := facts.orderFree.snoc (by simp [Stmt.table])
  paymentFree := facts.paymentFree.snoc (by simp [Stmt.table])

theorem runs_settleNotifiedPayment (unlike : Unlike delivery.plain)
    (facts : NoticeFacts log record payment order orderStatus paymentStatus) :
    Runs payContract (.active record) log
      (settleNotifiedPayment delivery notice payment order orderStatus paymentStatus) := by
  have failed : ∀ cause, Runs payContract .closed (log ++ [.failed cause]) internalError :=
    fun cause => runs_reports trivial Idle.closed (facts.bystander.append _)
  refine runs_sql_txn.mpr ⟨trivial, fun _ _ => ?_, failed⟩
  have facts : NoticeFacts log (record ++ [.ran (.insertCallback (auditRow payment.paymentNo)) ()])
      payment order orderStatus paymentStatus := facts.snoc
  refine runs_sql_txn.mpr ⟨⟨facts.unreturned, facts.paymentFree, fun success => ⟨_, rfl, ?_⟩⟩,
    fun won _ => ?_, failed⟩
  · obtain ⟨message, fen, mapped, _, started, claims, positive, worth, said, _, isStatus⟩ :=
      facts.heard
    have booked : mapped.booked := by
      have paid := facts.coherent.mp success
      rw [isStatus] at paid
      exact OrderStatus.booked_iff.mpr (PayUtils.resolveRefundedOrderStatus_paid.mp paid)
    exact ⟨payment, message, fen, Or.inr ⟨facts.locked, started⟩, rfl, facts.unsettled,
      ⟨mapped, said, booked⟩, claims, positive, worth⟩
  · cases won with
    | false => exact runs_skipAdvanced facts.bystander
    | true => exact runs_bookNotifiedOrder unlike facts

/-- The amount gate of a notification: what passes it is the positive fen of the
attempt. -/
theorem paymentAmountProblem_none {plain : Json}
    (passes : paymentAmountProblem plain payment order = some none) :
    ∃ fen : Nat, notifiedTotal plain = some (fen : Int) ∧ 0 < fen ∧
      PayUtils.parseAmountToFen payment.amount = some fen := by
  simp only [paymentAmountProblem, Option.bind_eq_bind, Option.bind_eq_some_iff,
    Option.pure_def] at passes
  obtain ⟨amountJson, isAmount, currency, _, notifyTotalFen, total, passes⟩ := passes
  split at passes
  · cases passes
  · rename_i fen parsed
    split at passes
    · cases passes
    · rename_i positive
      split at passes
      · cases passes
      · split at passes
        · cases passes
        · rename_i same
          rw [not_not] at same
          refine ⟨fen, ?_, by omega, parsed⟩
          rw [notifiedTotal, isAmount, ← same]
          exact total

/-- What is known once the attempt is locked and the amounts agree. -/
structure NoticeChecked (log : List PayEntry) (notice : PaymentNotice) (payment : PaymentRow)
    (order : OrderRow) : Prop where
  bystander : Bystander log
  isAttempt : payment.orderNo = notice.orderNo
  unsettled : payment.status.unsettled
  isOrder : order.orderNo = payment.orderNo
  heard : ∃ message fen, log.head? = some message ∧ Says message payment.orderNo fen ∧ 0 < fen ∧
    PayUtils.parseAmountToFen payment.amount = some fen ∧
    saidOf payment.orderNo message = some (PayUtils.mapTradeState notice.tradeState).1

/-- The two reads every settling notification starts with. -/
def noticeReads (notice : PaymentNotice) (payment : PaymentRow) (order : OrderRow) :
    List PayEntry :=
  [.ran (.lockAttempt notice.orderNo PaymentService.openStatuses) (some payment),
    .ran (.findOrder payment.orderNo) (some order)]

theorem spares_noticeReads (table : TableName) : Spares table (noticeReads notice payment order) :=
  (Spares.nil.snoc (by simp [Stmt.table])).snoc (by simp [Stmt.table])

theorem runs_resolveNotifiedPayment (unlike : Unlike delivery.plain)
    (checked : NoticeChecked log notice payment order) :
    Runs payContract (.active (noticeReads notice payment order)) log
      (resolveNotifiedPayment delivery notice payment order) := by
  obtain ⟨bystander, isAttempt, unsettled, isOrder, message, fen, started, claims, positive, worth,
    said⟩ := checked
  dsimp only [resolveNotifiedPayment]
  split
  · refine runs_sql_txn.mpr ⟨nofun, fun sumText _ => ?_, fun cause =>
      runs_sql_txn_closed.mpr (runs_reports trivial Idle.closed (bystander.append _))⟩
    refine runs_settleNotifiedPayment unlike ⟨bystander, by simp [noticeReads, Saw, isAttempt],
      unsettled, by simp [noticeReads, Saw], isOrder,
      ⟨message, fen, _, PayUtils.fenOf sumText, started, claims, positive, worth, said,
        fun other saw => ?_, rfl⟩, fun resolved => ?_,
      PayUtils.mapTradeState_success.trans PayUtils.resolveRefundedOrderStatus_paid.symm,
      PayUtils.mapTradeState_unreturned, (spares_noticeReads _).snoc (by simp [Stmt.table]),
      (spares_noticeReads _).snoc (by simp [Stmt.table]),
      (spares_noticeReads _).snoc (by simp [Stmt.table])⟩
    · have same : other = sumText := by simpa [noticeReads, Saw, isAttempt] using saw
      rw [same]
    · exact ⟨order, sumText, by simp [noticeReads, Saw, isOrder],
        by simp [Saw, isOrder, isAttempt], PayUtils.resolveRefundedOrderStatus_refunded resolved⟩
  · rename_i unrefunded
    exact runs_settleNotifiedPayment unlike ⟨bystander, by simp [noticeReads, Saw, isAttempt],
      unsettled, by simp [noticeReads, Saw], isOrder,
      ⟨message, fen, _, 0, started, claims, positive, worth, said, by simp [noticeReads, Saw],
        (PayUtils.resolveRefundedOrderStatus_of_ne unrefunded).symm⟩,
      fun refunded => absurd refunded unrefunded, PayUtils.mapTradeState_success,
      PayUtils.mapTradeState_unreturned, spares_noticeReads _, spares_noticeReads _,
      spares_noticeReads _⟩

theorem runs_checkNotifiedPayment {notification : Notification} {ownerToken : Drawn}
    (owner : Owner log (.paymentNotification notification ownerToken))
    (named : notification.plain.stringAt "out_trade_no" = some notice.orderNo)
    (stated : notification.plain.stringAt "trade_state" = some notice.tradeState)
    (unlike : Unlike delivery.plain) (isPlain : delivery.plain = notification.plain)
    (isAttempt : payment.orderNo = notice.orderNo) (unsettled : payment.status.unsettled)
    (isOrder : order.orderNo = payment.orderNo) :
    Runs payContract (.active (noticeReads notice payment order)) log
      (checkNotifiedPayment delivery notice payment order) := by
  have bystander : Bystander log := ⟨_, owner, nofun⟩
  have plain : Plain (noticeReads notice payment order) :=
    ⟨by simp [noticeReads, Saw], (spares_noticeReads _).not_settles⟩
  unfold checkNotifiedPayment
  cases problem : paymentAmountProblem delivery.plain payment order with
  | none => exact runs_end_active plain.commit (bystander.append _).done
  | some found =>
      cases found with
      | some text => exact runs_rollback_reports trivial bystander
      | none =>
          dsimp only [orThrow]
          split
          · exact runs_rollback_reports trivial bystander
          · rw [isPlain] at problem
            obtain ⟨fen, total, positive, worth⟩ := paymentAmountProblem_none problem
            refine runs_resolveNotifiedPayment unlike ⟨bystander, isAttempt, unsettled, isOrder, _,
              fen, owner, ?_, positive, worth, ?_⟩
            · rw [isAttempt]
              exact .notification named total
            · simp [saidOf, isAttempt, named, stated]

theorem runs_settlePaymentNotice {notification : Notification} {ownerToken : Drawn}
    (owner : Owner log (.paymentNotification notification ownerToken))
    (named : notification.plain.stringAt "out_trade_no" = some notice.orderNo)
    (stated : notification.plain.stringAt "trade_state" = some notice.tradeState)
    (unlike : Unlike delivery.plain) (isPlain : delivery.plain = notification.plain) :
    Runs payContract slot log (settlePaymentNotice delivery notice) := by
  have bystander : Bystander log := ⟨_, owner, nofun⟩
  have failed : ∀ cause, Runs payContract .closed (log ++ [.failed cause]) internalError :=
    fun cause => runs_reports trivial Idle.closed (bystander.append _)
  refine runs_start.mpr ⟨?_, runs_end Idle.closed (bystander.append _).done⟩
  refine runs_sql_txn.mpr ⟨rfl, fun found possible => ?_, failed⟩
  cases found with
  | none => exact runs_rollback_reports trivial bystander
  | some payment =>
      obtain ⟨isAttempt, isOpen⟩ := possible payment rfl
      dsimp only
      split
      · exact runs_rollback_reports trivial bystander
      · rename_i unended
        have unsettled := PaymentService.unsettled_of_open isOpen (fun paid => unended (Or.inl paid))
          fun returned => unended (Or.inr returned)
        refine runs_sql_txn.mpr ⟨Spares.nil.snoc (by simp [Stmt.table]), fun ordered possible => ?_,
          failed⟩
        cases ordered with
        | none =>
            refine runs_reports_active trivial bystander (Plain.commit ⟨by simp [Saw], ?_⟩)
            exact ((Spares.nil.snoc (by simp [Stmt.table])).snoc
              (by simp [Stmt.table])).not_settles
        | some order =>
            exact runs_checkNotifiedPayment owner named stated unlike isPlain isAttempt unsettled
              (possible order rfl)

end Notice

theorem runs_handlePaymentCallback {notification : Notification} {ownerToken : Drawn}
    {token : Bytes} (owner : Owner log (.paymentNotification notification ownerToken))
    (idle : Idle slot) :
    Runs payContract slot log (handlePaymentCallback cfg notification token) := by
  have bystander : Bystander log := ⟨_, owner, nofun⟩
  unfold handlePaymentCallback
  split
  · exact runs_reports trivial idle bystander
  · dsimp only
    refine runs_orThrow idle bystander.done fun merchant _ => ?_
    split
    · exact runs_reports trivial idle bystander
    · refine runs_orThrow idle bystander.done fun notice read => ?_
      split
      · exact runs_reports trivial idle bystander
      · rename_i sound
        obtain ⟨named, stated⟩ :
            notification.plain.stringAt "out_trade_no" = some notice.orderNo ∧
              notification.plain.stringAt "trade_state" = some notice.tradeState := by
          simp only [Option.bind_eq_bind, Option.bind_eq_some_iff, Option.pure_def,
            Option.some.injEq] at read
          obtain ⟨orderNo, isOrder, transactionId, _, tradeState, isState, rfl⟩ := read
          exact ⟨isOrder, isState⟩
        have unlike : Unlike notification.plain :=
          unlike_of_named named (by rintro isEmpty; simp [paymentNoticeProblem, isEmpty] at sound)
            (by decide) (by decide)
        exact runs_reserveDelivery bystander idle
          (fun more => runs_recordDuplicate (bystander.append more) idle)
          fun more => runs_settlePaymentNotice (owner.append more) named stated unlike rfl

/-! ## Refund notifications -/

section RefundNotice

variable {notice : RefundNotice} {refund : RefundRow} {order : OrderRow}
  {refundStatus : RefundStatus}

theorem doomed_insertCallbackAndFinish (paymentNo : Bytes) :
    (insertCallbackAndFinish delivery paymentNo).Doomed :=
  ⟨_, _, rfl, trivial⟩

/-- The audit row and the finalizing, as the last statements submitted. -/
theorem verified_insertCallbackAndFinish {paymentNo : Bytes} (unlike : Unlike delivery.plain)
    (bystander : Bystander log)
    (commits : CommitPromise log (record ++ [.ran (.insertCallback (auditRow paymentNo)) ()] ++
      [.ran (.finalizeReservation delivery.idempotencyKey delivery.ownerToken delivery.plain)
        true])) :
    Verified payContract
      ⟨.active record, log, [insertCallbackAndFinish delivery paymentNo]⟩ :=
  Verified.sql_txn.mpr ⟨trivial, fun _ _ => runs_finalizeAndCommit unlike bystander commits,
    fun _ => verifiedAll_given_up trivial (bystander.append _) (by simp) rfl⟩

/-- A covered order is written between the audit row and the finalizing. -/
theorem verified_auditCovered {covered : Option (Option Nat) → PayProg}
    (unlike : Unlike delivery.plain)
    (fails : covered none = .rollback internalError) (passes : ∀ res, covered (some res) = .done)
    (settling : Settling log record refund false) (made : EntryMade record refund false)
    (cover : CoverPromise (log ++ record) refund.orderNo) :
    Verified payContract ⟨.active record, log, [insertCallbackAndFinish delivery refund.paymentNo,
      .sql .txn (.coverOrder refund.orderNo) covered]⟩ := by
  have doomed : ∀ program ∈ [(.sql .txn (.coverOrder refund.orderNo) covered : PayProg)],
      program.Doomed := by
    intro program member
    rw [List.mem_singleton.mp member]
    exact ⟨_, _, rfl, by rw [fails]; trivial⟩
  refine Verified.sql_txn.mpr ⟨trivial, fun _ _ => ?_, fun _ =>
    verifiedAll_given_up trivial (settling.bystander.append _) doomed rfl⟩
  have settling : Settling log
      (record ++ [.ran (.insertCallback (auditRow refund.paymentNo)) ()]) refund false :=
    settling.snoc (by simp [Stmt.table])
  refine verifiedAll_sql.mpr (Verified.sql_txn.mpr ⟨?_, fun res _ => ?_, fun cause => ?_⟩)
  · obtain ⟨order, sumText, found, sum, covers⟩ := cover
    refine ⟨order, sumText, ?_, ?_, covers⟩
    · rw [Option.getD_some, ← List.append_assoc]
      exact found.append _
    · rw [Option.getD_some, ← List.append_assoc]
      exact sum.append _
  · rw [passes]
    refine verifiedAll_done.mpr (verifiedAll_sql.mp (runs_finalizeAndCommit unlike settling.bystander ?_))
    exact ((settling.snoc (by simp [Stmt.table])).snoc (by simp [Stmt.table])).commit
      (((made.append _).append _).append _) (Or.inl ⟨res, Saw.append Saw.last _⟩)
  · rw [fails]
    refine verifiedAll_given_up trivial (settling.bystander.append _) ?_ rfl
    intro program member
    rw [List.mem_singleton.mp member]
    exact ⟨_, _, rfl, trivial⟩

theorem verified_settleNotifiedOrder (unlike : Unlike delivery.plain)
    (settling : Settling log record refund false)
    (made : EntryMade record refund false)
    (ordered : Saw log (.findOrder refund.orderNo) (some order)) :
    Verified payContract ⟨.active record, log, [settleNotifiedOrder order refund.orderNo,
      insertCallbackAndFinish delivery refund.paymentNo]⟩ := by
  have doomed : ∀ program ∈ [insertCallbackAndFinish delivery refund.paymentNo],
      program.Doomed := by
    simpa using doomed_insertCallbackAndFinish refund.paymentNo
  refine Verified.sql_txn.mpr ⟨nofun, fun sumText _ => ?_, fun _ =>
    verifiedAll_given_up trivial (settling.bystander.append _) doomed rfl⟩
  have settling : Settling log
      (record ++ [.ran (.sumRefunds refund.orderNo [.REFUND_SUCCESS]) sumText]) refund false :=
    settling.snoc (by simp [Stmt.table])
  dsimp only
  split
  · exact verifiedAll_given_up trivial settling.bystander doomed rfl
  · rename_i settledRefundFen parsed
    split
    · rename_i covers
      refine verifiedAll_sql.mpr (verified_auditCovered unlike rfl (fun _ => rfl) settling
        (made.append _) ⟨order, sumText, ordered.append _, by simp [Saw], ?_⟩)
      rw [PayUtils.fenOf_eq parsed]
      exact covers
    · rename_i uncovered
      refine verifiedAll_done.mpr (verified_insertCallbackAndFinish unlike settling.bystander ?_)
      refine ((settling.snoc (by simp [Stmt.table])).snoc (by simp [Stmt.table])).commit
        (((made.append _).append _).append _) (Or.inr (Or.inl ⟨order, sumText, ordered.append _,
          by simp [Saw], ?_⟩))
      rw [PayUtils.fenOf_eq parsed]
      simpa using uncovered

theorem runs_settleRefundNotice (unlike : Unlike delivery.plain) (bystander : Bystander log)
    (message : RefundMessage log refund)
    (found : Saw log (.findRefund refund.refundNo) (some refund))
    (ordered : Saw log (.findOrder refund.orderNo) (some order)) :
    Runs payContract slot log
      (settleRefundNotice delivery notice refund order refundStatus) := by
  refine runs_start.mpr ⟨?_, runs_end Idle.closed (bystander.append _).done⟩
  refine runs_sql_txn.mpr ⟨⟨rfl, refund, rfl, found, fun _ => message⟩, fun won _ => ?_, fun cause =>
    runs_rollback_reports trivial (bystander.append _)⟩
  cases won with
  | none => exact runs_skipAdvanced bystander
  | some now =>
      refine verifiedAll_both_sql.mpr ?_
      by_cases settles : refundStatus = .REFUND_SUCCESS
      · subst settles
        have settling : Settling log [.ran (.casRefund refund.refundNo .REFUND_SUCCESS
            (some notice.refundId)) (some now)] refund false :=
          ⟨bystander, found, ⟨_, now, [], rfl⟩, by simp [Saw]⟩
        -- the payload write, the ledger row, then the sum and the audit row
        refine verifiedAll_sql.mpr (Verified.sql_txn.mpr ⟨trivial, fun stamp _ => ?_, fun _ =>
          verifiedAll_given_up trivial (bystander.append _) ?_ rfl⟩)
        · have settling : Settling log [.ran (.casRefund refund.refundNo .REFUND_SUCCESS
              (some notice.refundId)) (some now), .ran (.setRefundPayload refund.refundNo) stamp]
              refund false := settling.snoc (by simp [Stmt.table])
          refine verifiedAll_sql.mpr (Verified.sql_txn.mpr ⟨⟨_, rfl, ?_, refund.refundNo, refund,
            false, found, rfl, rfl, rfl, settling.settles, by rintro ⟨⟩⟩, fun booked _ => ?_,
            fun _ => ?_⟩)
          · simp [NoRefundEntry, Saw]
          · exact verifiedAll_sql.mpr (verified_settleNotifiedOrder unlike
              (settling.snoc (by simp [Stmt.table])) (Or.inl ⟨_, booked, Saw.last, rfl⟩) ordered)
          · refine verifiedAll_sql.mpr (verified_doomed (bystander.append _) ?_)
            intro program member
            rcases List.mem_pair.mp member with rfl | rfl
            · exact ⟨_, _, rfl, trivial⟩
            · exact doomed_insertCallbackAndFinish _
        · intro program member
          rw [List.mem_singleton.mp member]
          exact ⟨_, _, rfl, trivial⟩
      · have submitted : bookNotifiedRefund delivery refund order refundStatus =
            insertCallbackAndFinish delivery refund.paymentNo := if_neg settles
        rw [submitted]
        refine verifiedAll_sql.mpr (Verified.sql_txn.mpr ⟨trivial, fun stamp _ => ?_, fun _ =>
          verifiedAll_given_up trivial (bystander.append _) ?_ rfl⟩)
        · dsimp only
          rw [if_neg settles]
          refine verifiedAll_done.mpr (verified_insertCallbackAndFinish unlike bystander
            (Plain.commit ⟨by simp [Saw], fun refundNo byKey => ?_⟩))
          cases byKey with
          | true => simp [SettlesRefund]
          | false =>
              rintro ⟨_, _, _, eq⟩
              simp only [List.nil_append, List.cons_append, List.cons.injEq] at eq
              injection eq.1 with sameStmt _
              injection sameStmt with _ isStatus _
              exact settles isStatus
        · intro program member
          rw [List.mem_singleton.mp member]
          exact doomed_insertCallbackAndFinish refund.paymentNo

/-- The amount gate of a refund notification. -/
theorem refundAmountProblem_ok {plain : Json} {notifyCurrency : Bytes}
    (passes : refundAmountProblem plain refund = some (.ok notifyCurrency)) :
    ∃ fen : Nat, refundedFen plain = some (fen : Int) ∧
      PayUtils.parseAmountToFen refund.amount = some fen := by
  simp only [refundAmountProblem, Option.bind_eq_bind, Option.bind_eq_some_iff,
    Option.pure_def] at passes
  obtain ⟨amountJson, isAmount, currency, _, notifyRefundFen, named, passes⟩ := passes
  split at passes
  · cases passes
  · rename_i fen parsed
    split at passes
    · cases passes
    · split at passes
      · cases passes
      · rename_i same
        rw [not_not] at same
        refine ⟨fen, ?_, parsed⟩
        rw [refundedFen, isAmount, ← same]
        exact named

theorem runs_checkRefundNotice {notification : Notification} {ownerToken : Drawn}
    (owner : Owner log (.refundNotification notification ownerToken))
    (named : notification.plain.stringAt "out_refund_no" = some notice.refundNo)
    (isPlain : delivery.plain = notification.plain) (unlike : Unlike delivery.plain)
    (idle : Idle slot) :
    Runs payContract slot log (checkRefundNotice delivery notice) := by
  have bystander : Bystander log := ⟨_, owner, nofun⟩
  unfold checkRefundNotice
  split
  · exact runs_reports trivial idle bystander
  · refine runs_pooled bystander.done trivial (by simp [Stmt.table]) (fun found possible _ => ?_)
      fun cause _ => runs_reports trivial idle (bystander.append _)
    cases found with
    | none => exact runs_reports trivial idle (bystander.append _)
    | some refund =>
        obtain isRefund : refund.refundNo = notice.refundNo := possible refund rfl
        dsimp only
        split
        · exact runs_reports trivial idle (bystander.append _)
        · refine runs_orThrow idle (bystander.append _).done fun checked passes => ?_
          cases checked with
          | error problem => exact runs_reports trivial idle (bystander.append _)
          | ok notifyCurrency =>
              refine runs_pooled (bystander.append _).done Spares.nil (by simp [Stmt.table])
                (fun ordered _ _ => ?_)
                fun cause _ => runs_reports trivial idle ((bystander.append _).append _)
              cases ordered with
              | none => exact runs_reports trivial idle ((bystander.append _).append _)
              | some order =>
                  dsimp only
                  split
                  · exact runs_reports trivial idle ((bystander.append _).append _)
                  · rw [isPlain] at passes
                    obtain ⟨fen, amount, worth⟩ := refundAmountProblem_ok passes
                    refine runs_settleRefundNotice unlike ((bystander.append _).append _)
                      (Or.inl ⟨_, ?_, notification, ownerToken, fen, rfl, ?_, amount, worth⟩) ?_
                      Saw.last
                    · exact List.mem_append_left _
                        (List.mem_append_left _ (List.mem_of_mem_head? owner))
                    · rw [isRefund]
                      exact named
                    · rw [isRefund]
                      exact Saw.append Saw.last _

theorem runs_handleRefundCallback {notification : Notification} {ownerToken : Drawn}
    {token : Bytes} (owner : Owner log (.refundNotification notification ownerToken))
    (idle : Idle slot) :
    Runs payContract slot log (handleRefundCallback cfg notification token) := by
  have bystander : Bystander log := ⟨_, owner, nofun⟩
  unfold handleRefundCallback
  split
  · exact runs_reports trivial idle bystander
  · dsimp only
    refine runs_orThrow idle bystander.done fun merchant _ => ?_
    split
    · exact runs_reports trivial idle bystander
    · refine runs_orThrow idle bystander.done fun notice read => ?_
      split
      · exact runs_reports trivial idle bystander
      · rename_i sound
        have named : notification.plain.stringAt "out_refund_no" = some notice.refundNo := by
          simp only [Option.bind_eq_bind, Option.bind_eq_some_iff, Option.pure_def,
            Option.some.injEq] at read
          obtain ⟨refundNo, isRefund, status, _, refundId, _, rfl⟩ := read
          exact isRefund
        have unlike : Unlike notification.plain :=
          unlike_of_named named (by rintro isEmpty; simp [refundNoticeProblem, isEmpty] at sound)
            (by decide) (by decide)
        refine runs_reserveDelivery bystander idle (fun more => ?_)
          fun more => runs_checkRefundNotice (owner.append more) named rfl unlike idle
        refine runs_orThrow idle (bystander.append more).done fun tradeOrderNo _ => ?_
        split
        · exact runs_reports trivial idle (bystander.append more)
        · exact runs_recordDuplicate (bystander.append more) idle

end RefundNotice

end CallbackService

end DrogonPay

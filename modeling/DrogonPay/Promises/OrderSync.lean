import DrogonPay.Promises.Payment

/-!
Contract: the order syncs keep the contract of the services.

Owns: the lemmas for `OrderSync`, and `SyncFacts`, what a sync knows when its
transaction begins.

Does not own: the contract.
-/

namespace DrogonPay

open ReadCommitted

variable {cfg : Config} {slot : Slot paySig} {log record before : List PayEntry}

/-! ## The ledger entry -/

/-- The lookup and the insert of a ledger entry at the end of a transaction. -/
theorem verified_insertLedgerEntry {row : LedgerRow} (bystander : Bystander log)
    (listed : ∀ old, CommitPromise log
      (record ++ [.ran (.findLedger row.orderNo row.entryType row.paymentNo) (some old)]))
    (promise : LedgerPromise log
      (some (record ++ [.ran (.findLedger row.orderNo row.entryType row.paymentNo) none])) row)
    (booked : CommitPromise log
      (record ++ [.ran (.findLedger row.orderNo row.entryType row.paymentNo) none] ++
        [.ran (.insertLedger row) ()])) :
    Verified payContract ⟨.active record, log, [insertLedgerEntry row]⟩ := by
  have closed : ∀ cause, Runs payContract .closed (log ++ [.failed cause]) .done := fun cause =>
    runs_end Idle.closed (bystander.append _).done
  refine Verified.sql_txn.mpr ⟨trivial, fun found _ => ?_, closed⟩
  match found with
  | some old => exact runs_end_active (listed old) (bystander.append _).done
  | none =>
      refine runs_sql_txn.mpr ⟨promise, fun _ _ => ?_, closed⟩
      exact runs_end_active booked (bystander.append _).done

namespace PaymentService

/-! ## The order side -/

/-- The income of an attempt may be booked once its order is read. -/
def IncomeKnown (log record : List PayEntry) (orderNo : Bytes) (payment : PaymentRow) : Prop :=
  Saw log (.newestAttempt orderNo openStatuses) (some payment) ∧ payment.orderNo = orderNo ∧
    ((∃ tradeNo, Saw record (.casPayment payment.paymentNo .SUCCESS tradeNo) true) ∨
      payment.status = .SUCCESS)

theorem IncomeKnown.promise {orderNo : Bytes} {payment : PaymentRow} {order : OrderRow}
    (known : IncomeKnown log record orderNo payment)
    (found : Saw record (.findOrder orderNo) (some order)) (userId : Int) :
    IncomePromise log record ⟨userId, orderNo, payment.paymentNo, .PAYMENT, order.amount⟩ := by
  obtain ⟨seen, rfl, settled⟩ := known
  refine ⟨⟨order, found, rfl⟩, payment, Or.inl seen, rfl, rfl, ?_⟩
  exact settled.imp_right fun success => ⟨success, seen⟩

theorem IncomeKnown.mono {record' : List PayEntry} {orderNo : Bytes} {payment : PaymentRow}
    (known : IncomeKnown log record orderNo payment) (grows : record ⊆ record') :
    IncomeKnown log record' orderNo payment :=
  ⟨known.1, known.2.1, known.2.2.imp_left fun ⟨tradeNo, saw⟩ => ⟨tradeNo, saw.mono grows⟩⟩

theorem runs_writeSyncedOrder {order : OrderRow} {payment : PaymentRow} {status : OrderStatus}
    {callback : Option OrderStatus → PayProg} (reports : ∀ a, (callback a).Reports)
    (bystander : Bystander log) (free : Spares .refunds record)
    (write : OrderWrite log record order.orderNo status)
    (found : Saw record (.findOrder order.orderNo) (some order))
    (cover : status = .REFUNDED → CoverPromise (log ++ record) order.orderNo)
    (only : ∀ paymentNo tradeNo, Saw record (.casPayment paymentNo .SUCCESS tradeNo) true →
      paymentNo = payment.paymentNo ∧ (status = .PAID ∨ status = .REFUNDED))
    (known : status = .PAID ∨ status = .REFUNDED →
      IncomeKnown log record order.orderNo payment) :
    Runs payContract (.active record) log
      (writeSyncedOrder order payment.paymentNo status callback) := by
  refine runs_sql_txn.mpr ⟨⟨write, free, cover⟩, fun stamp _ => ?_, fun cause =>
    runs_rollback_reports (reports _) (bystander.append _)⟩
  have free : Spares .refunds (record ++ [.ran (.updateOrder order.orderNo status) stamp]) :=
    free.snoc (by simp [Stmt.table])
  have only' : ∀ paymentNo tradeNo,
      Saw (record ++ [.ran (.updateOrder order.orderNo status) stamp])
        (.casPayment paymentNo .SUCCESS tradeNo) true →
      paymentNo = payment.paymentNo ∧ (status = .PAID ∨ status = .REFUNDED) := by
    intro paymentNo tradeNo saw
    exact only paymentNo tradeNo (by simpa [Saw] using saw)
  dsimp only
  split
  · rename_i paid
    -- the lookup is submitted first, the report only adds to the log
    refine verifiedAll_both_sql.mpr (verifiedAll_reports (reports _) fun outs => ?_)
    have known' := (known paid).mono
      (List.subset_append_left record [.ran (.updateOrder order.orderNo status) stamp])
    have seen : AttemptSeen (log ++ outs.map Entry.replied) record payment := by
      refine Or.inl (Saw.append ?_ _)
      rw [known'.2.1]
      exact known'.1
    have wrote : Saw (record ++ [.ran (.updateOrder order.orderNo status) stamp])
        (.updateOrder payment.orderNo status) stamp := by
      rw [known'.2.1]
      exact Saw.last
    have booked : status.booked := OrderStatus.booked_iff.mpr paid
    refine verified_insertLedgerEntry (bystander.append _) (fun old => ?_) ?_ ?_
    · refine (free.snoc (by simp [Stmt.table])).commit (fun paymentNo tradeNo saw => ?_)
        fun paymentNo tradeNo saw => ?_
      · obtain ⟨rfl, _⟩ := only' paymentNo tradeNo (by simpa [Saw] using saw)
        exact Or.inr (Or.inl ⟨_, old, Saw.last⟩)
      · obtain ⟨rfl, _⟩ := only' paymentNo tradeNo (by simpa [Saw] using saw)
        exact ⟨payment, seen.mono (by simp), rfl, Or.inl ⟨status, stamp, booked, wrote.append _⟩⟩
    · refine ⟨_, rfl, ?_⟩
      have promise := (known'.mono (List.subset_append_left _
        [.ran (.findLedger order.orderNo .PAYMENT payment.paymentNo) none])).promise
        ((found.append _).append _) order.userId
      obtain ⟨isOrder, attempt, seen, same, isOf, settled⟩ := promise
      refine ⟨isOrder, attempt, seen.imp_left fun saw => saw.append _, same, isOf, ?_⟩
      exact settled.imp_right (And.imp_right fun saw => saw.append _)
    · refine ((free.snoc (by simp [Stmt.table])).snoc (by simp [Stmt.table])).commit
        (fun paymentNo tradeNo saw => ?_) fun paymentNo tradeNo saw => ?_
      · obtain ⟨rfl, _⟩ := only' paymentNo tradeNo (by simpa [Saw] using saw)
        exact Or.inl ⟨_, (), Saw.last, rfl, rfl⟩
      · obtain ⟨rfl, _⟩ := only' paymentNo tradeNo (by simpa [Saw] using saw)
        exact ⟨payment, seen.mono (by simp), rfl,
          Or.inl ⟨status, stamp, booked, (wrote.append _).append _⟩⟩
  · rename_i unpaid
    refine runs_reports_active (reports _) bystander (free.commit (fun paymentNo tradeNo saw => ?_)
      fun paymentNo tradeNo saw => ?_) <;>
    exact absurd (only' paymentNo tradeNo saw).2 unpaid

/-! ## The transaction -/

/-- An answer whose two statuses agree on whether money came in. -/
structure Coherent (said : SyncAnswer) : Prop where
  success : said.paymentStatus = .SUCCESS ↔
    (said.orderStatus = .PAID ∨ said.orderStatus = .REFUNDED)
  unreturned : said.paymentStatus ≠ .REFUNDED

/-- The message a sync works on: what it says of the order, and its total. -/
structure Message (orderNo : Bytes) (said : SyncAnswer) (message : PayEntry) : Prop where
  status : saidOf orderNo message = some said.orderStatus
  total : ∀ fen : Nat, said.totalFen = fen → Says message orderNo fen

/-- What a sync knows of the attempt it read and of the answer it works on. -/
structure SyncFacts (log : List PayEntry) (orderNo : Bytes) (said : SyncAnswer)
    (payment : PaymentRow) : Prop where
  bystander : Bystander log
  last : log.getLast? = some (.ran (.newestAttempt orderNo openStatuses) (some payment))
  isOrder : payment.orderNo = orderNo
  isOpen : payment.status ∈ openStatuses
  coherent : Coherent said
  heard : ∃ message ∈ log, Message orderNo said message
  worth : said.paymentStatus = .SUCCESS → ∃ fen : Nat, said.totalFen = fen ∧ 0 < fen ∧
    PayUtils.parseAmountToFen payment.amount = some fen

/-- The statements before the payment is written: the settled sum, if any. -/
def SumOnly (before : List PayEntry) (orderNo : Bytes) (settledRefundFen : Nat) : Prop :=
  (before = [] ∧ settledRefundFen = 0) ∨
    ∃ sumText, before = [.ran (.sumRefunds orderNo [.REFUND_SUCCESS]) sumText] ∧
      settledRefundFen = PayUtils.fenOf sumText

/-- The payment write of a sync, if it made one. -/
def CasOnly (cas : List PayEntry) (said : SyncAnswer) (payment : PaymentRow) : Prop :=
  (cas = [] ∧ payment.status = .SUCCESS) ∨
    ∃ tradeNo, cas = [.ran (.casPayment payment.paymentNo said.paymentStatus tradeNo) true]

theorem SyncFacts.seen {orderNo : Bytes} {said : SyncAnswer} {payment : PaymentRow}
    (facts : SyncFacts log orderNo said payment) :
    Saw log (.newestAttempt orderNo openStatuses) (some payment) :=
  List.mem_of_getLast? facts.last

section Transaction

variable {orderNo : Bytes} {said : SyncAnswer} {payment : PaymentRow} {settledRefundFen : Nat}
  {cas : List PayEntry} {callback : Option OrderStatus → PayProg}

theorem SumOnly.free (sum : SumOnly before orderNo settledRefundFen) (table : TableName) :
    Spares table before := by
  rcases sum with ⟨rfl, _⟩ | ⟨sumText, rfl, _⟩
  · exact .nil
  · exact Spares.nil.snoc (by simp [Stmt.table])

theorem SumOnly.spares {table : TableName} (sum : SumOnly before orderNo settledRefundFen)
    (wrote : CasOnly cas said payment) (other : table ≠ .payments) :
    Spares table (before ++ cas) := by
  have free := sum.free table
  rcases wrote with ⟨rfl, _⟩ | ⟨tradeNo, rfl⟩
  · simpa using free
  · exact free.snoc (by simpa [Stmt.table] using other.symm)

/-- The only payment a sync can have settled is the one it read. -/
theorem SumOnly.cas_only (sum : SumOnly before orderNo settledRefundFen)
    (wrote : CasOnly cas said payment) {paymentNo : Bytes} {tradeNo : Option Bytes}
    (saw : Saw (before ++ cas) (.casPayment paymentNo .SUCCESS tradeNo) true) :
    paymentNo = payment.paymentNo ∧ said.paymentStatus = .SUCCESS ∧
      cas = [.ran (.casPayment paymentNo .SUCCESS tradeNo) true] := by
  have notInSum : ¬ Saw before (.casPayment paymentNo .SUCCESS tradeNo) true := by
    rcases sum with ⟨rfl, _⟩ | ⟨sumText, rfl, _⟩ <;> simp [Saw]
  rcases List.mem_append.mp saw with inSum | inCas
  · exact absurd inSum notInSum
  · rcases wrote with ⟨rfl, _⟩ | ⟨tradeNo', rfl⟩
    · cases inCas
    · have same := List.mem_singleton.mp inCas
      injection same with sameStmt _
      injection sameStmt with isPayment isStatus isTrade
      subst isPayment isTrade
      exact ⟨rfl, isStatus.symm, by rw [← isStatus]⟩

theorem SyncFacts.incomeKnown (facts : SyncFacts log orderNo said payment)
    (before : List PayEntry) (wrote : CasOnly cas said payment)
    (paid : said.orderStatus = .PAID ∨ said.orderStatus = .REFUNDED)
    (more : List PayEntry) : IncomeKnown log (before ++ cas ++ more) orderNo payment := by
  refine ⟨facts.seen, facts.isOrder, ?_⟩
  rcases wrote with ⟨rfl, success⟩ | ⟨tradeNo, rfl⟩
  · exact Or.inr success
  · refine Or.inl ⟨tradeNo, ?_⟩
    rw [facts.coherent.success.mpr paid]
    exact Saw.append Saw.last more

/-- A refunded order is written only over a covering sum. -/
theorem SumOnly.cover (sum : SumOnly before orderNo settledRefundFen) {order : OrderRow}
    {mapped : OrderStatus}
    (refunded : orderStatusAfterRefundCoverage mapped order.amount settledRefundFen = .REFUNDED) :
    CoverPromise (log ++ (before ++ cas ++ [.ran (.findOrder orderNo) (some order)])) orderNo := by
  have covers := PayUtils.resolveRefundedOrderStatus_refunded refunded
  rcases sum with ⟨_, rfl⟩ | ⟨sumText, rfl, rfl⟩
  · rw [PayUtils.not_covers_zero] at covers
    cases covers
  · exact ⟨order, sumText, by simp [Saw], by simp [Saw], covers⟩

/-- A sync that found the order PAID reports and commits what it has. -/
theorem SyncFacts.commit_paid (facts : SyncFacts log orderNo said payment)
    (sum : SumOnly before orderNo settledRefundFen) (wrote : CasOnly cas said payment)
    {order : OrderRow} (paid : order.status = .PAID) :
    CommitPromise log (before ++ cas ++ [.ran (.findOrder orderNo) (some order)]) := by
  refine ((sum.spares wrote (by simp)).snoc (by simp [Stmt.table])).commit
    (fun paymentNo tradeNo saw => ?_) fun paymentNo tradeNo saw => ?_
  all_goals
    have inCas : Saw (before ++ cas) (.casPayment paymentNo .SUCCESS tradeNo) true := by
      simpa [Saw] using saw
    obtain ⟨isPayment, _, eq⟩ := sum.cas_only wrote inCas
    obtain rfl := facts.isOrder
  · refine Or.inr (Or.inr ⟨before, payment, order, ?_, paid, facts.seen, isPayment.symm⟩)
    rw [eq, List.append_assoc]
    rfl
  · exact ⟨payment, Or.inl facts.seen, isPayment.symm, Or.inr ⟨order, Saw.last, paid⟩⟩

/-- The order is written to what the message says of it, under the settled sum. -/
theorem SyncFacts.orderWrite (facts : SyncFacts log orderNo said payment)
    (sum : SumOnly before orderNo settledRefundFen) (wrote : CasOnly cas said payment)
    {order : OrderRow} (unpaid : order.status ≠ .PAID) :
    OrderWrite log (before ++ cas ++ [.ran (.findOrder orderNo) (some order)]) orderNo
      (orderStatusAfterRefundCoverage said.orderStatus order.amount settledRefundFen) where
  first := (sum.spares wrote (by simp)).snoc (by simp [Stmt.table])
  told := by
    obtain ⟨message, member, isMessage⟩ := facts.heard
    refine ⟨message, member, said.orderStatus, order, settledRefundFen, isMessage.status, Saw.last,
      fun sumText saw => ?_, rfl⟩
    have notInCas : ¬ Saw cas (.sumRefunds orderNo [.REFUND_SUCCESS]) sumText := by
      rcases wrote with ⟨rfl, _⟩ | ⟨tradeNo, rfl⟩ <;> simp [Saw]
    have inSum : Saw before (.sumRefunds orderNo [.REFUND_SUCCESS]) sumText := by
      have both : Saw (before ++ cas) (.sumRefunds orderNo [.REFUND_SUCCESS]) sumText := by
        simpa [Saw] using saw
      exact (List.mem_append.mp both).resolve_right notInCas
    rcases sum with ⟨rfl, _⟩ | ⟨text, rfl, rfl⟩
    · cases inSum
    · have same : sumText = text := by simpa [Saw] using inSum
      rw [same]
  found := by
    intro other saw paid
    have notBefore : ¬ Saw (before ++ cas) (.findOrder orderNo) (some other) := by
      rcases sum with ⟨rfl, _⟩ | ⟨sumText, rfl, _⟩ <;>
        rcases wrote with ⟨rfl, _⟩ | ⟨tradeNo, rfl⟩ <;> simp [Saw]
    have last := List.mem_singleton.mp ((List.mem_append.mp saw).resolve_left notBefore)
    injection last with _ sameRes
    obtain rfl : other = order := by simpa using sameRes
    exact absurd paid unpaid
  settled := by
    intro booked
    have paid := PayUtils.resolveRefundedOrderStatus_paid.mp (OrderStatus.booked_iff.mp booked)
    obtain ⟨seen, rfl, settled⟩ := facts.incomeKnown before wrote paid
      [.ran (.findOrder orderNo) (some order)]
    exact ⟨payment, Or.inl seen, rfl, settled.imp_right fun success => ⟨success, seen⟩⟩

theorem runs_syncWechatOrder (reports : ∀ a, (callback a).Reports)
    (facts : SyncFacts log orderNo said payment) (sum : SumOnly before orderNo settledRefundFen)
    (wrote : CasOnly cas said payment) :
    Runs payContract (.active (before ++ cas)) log
      (syncWechatOrder orderNo payment.paymentNo said.orderStatus settledRefundFen callback) := by
  refine runs_sql_txn.mpr ⟨sum.spares wrote (by simp), fun found possible => ?_, fun cause =>
    runs_rollback_reports (reports _) (facts.bystander.append _)⟩
  match found with
  | none => exact runs_rollback_reports (reports _) facts.bystander
  | some order =>
      obtain rfl : order.orderNo = orderNo := possible order rfl
      dsimp only
      split
      · rename_i paid
        exact runs_reports_active (reports _) facts.bystander (facts.commit_paid sum wrote paid)
      · rename_i unpaid
        refine runs_writeSyncedOrder reports facts.bystander
          ((sum.spares wrote (by simp)).snoc (by simp [Stmt.table]))
          (facts.orderWrite sum wrote unpaid) Saw.last sum.cover
          (fun paymentNo tradeNo saw => ?_) fun paid => ?_
        · have inCas : Saw (before ++ cas) (.casPayment paymentNo .SUCCESS tradeNo) true := by
            simpa [Saw] using saw
          obtain ⟨same, success, _⟩ := sum.cas_only wrote inCas
          exact ⟨same,
            PayUtils.resolveRefundedOrderStatus_paid.mpr (facts.coherent.success.mp success)⟩
        · exact facts.incomeKnown before wrote (PayUtils.resolveRefundedOrderStatus_paid.mp paid) _

theorem runs_syncAlipayOrder (reports : ∀ a, (callback a).Reports)
    (facts : SyncFacts log orderNo said payment) (unrefunded : said.orderStatus ≠ .REFUNDED)
    (wrote : CasOnly cas said payment) :
    Runs payContract (.active cas) log
      (syncAlipayOrder orderNo payment.paymentNo said callback) := by
  have sum : SumOnly [] orderNo 0 := Or.inl ⟨rfl, rfl⟩
  refine runs_sql_txn.mpr ⟨sum.spares wrote (by simp), fun found possible => ?_, fun cause =>
    runs_rollback_reports (reports _) (facts.bystander.append _)⟩
  match found with
  | none => exact runs_rollback_reports (reports _) facts.bystander
  | some order =>
      obtain rfl : order.orderNo = orderNo := possible order rfl
      dsimp only
      split
      · rename_i paid
        exact runs_reports_active (reports _) facts.bystander (facts.commit_paid sum wrote paid)
      · rename_i unpaid
        split
        · exact runs_rollback_reports (reports _) facts.bystander
        · have write := facts.orderWrite sum wrote unpaid
          rw [orderStatusAfterRefundCoverage,
            PayUtils.resolveRefundedOrderStatus_of_ne unrefunded] at write
          refine runs_writeSyncedOrder reports facts.bystander
            ((sum.spares wrote (by simp)).snoc (by simp [Stmt.table])) write Saw.last
            (fun refunded => absurd refunded unrefunded) (fun paymentNo tradeNo saw => ?_)
            fun paid => facts.incomeKnown [] wrote paid _
          have inCas : Saw ([] ++ cas) (.casPayment paymentNo .SUCCESS tradeNo) true := by
            simpa [Saw] using saw
          obtain ⟨same, success, _⟩ := sum.cas_only wrote inCas
          exact ⟨same, facts.coherent.success.mp success⟩

theorem SyncFacts.settlePromise (facts : SyncFacts log orderNo said payment)
    (unsettled : payment.status.unsettled) (success : said.paymentStatus = .SUCCESS) :
    SettlePromise log record payment.paymentNo := by
  obtain ⟨message, member, isMessage⟩ := facts.heard
  obtain ⟨fen, total, positive, worth⟩ := facts.worth success
  have isOrder := facts.isOrder
  subst isOrder
  have booked := OrderStatus.booked_iff.mpr (facts.coherent.success.mp success)
  exact ⟨payment, message, fen, Or.inl ⟨facts.last, member⟩, rfl, unsettled,
    ⟨_, isMessage.status, booked⟩, isMessage.total fen total, positive, worth⟩

theorem unsettled_of_open {status : PaymentStatus} (isOpen : status ∈ openStatuses)
    (unpaid : status ≠ .SUCCESS) (unreturned : status ≠ .REFUNDED) : status.unsettled := by
  cases status <;> simp_all [openStatuses, PaymentStatus.unsettled]

/-- The payment side of both syncs, before the order side `next`. -/
theorem runs_syncPayment {next : PayProg} (reports : ∀ a, (callback a).Reports)
    (facts : SyncFacts log orderNo said payment) (free : Spares .payments before)
    (continues : ∀ cas, CasOnly cas said payment →
      Runs payContract (.active (before ++ cas)) log next) :
    Runs payContract (.active before) log
      (if payment.status = .SUCCESS then next
      else if payment.status = .REFUNDED then .rollback (callback (some .REFUNDED))
      else
        .sql .txn (.casPayment payment.paymentNo said.paymentStatus (some said.transactionId)) fun
          | none => .rollback (callback none)
          | some false => .rollback (callback (some said.orderStatus))
          | some true => next) := by
  split
  · rename_i success
    simpa using continues [] (Or.inl ⟨rfl, success⟩)
  · rename_i unpaid
    split
    · exact runs_rollback_reports (reports _) facts.bystander
    · rename_i unreturned
      have unsettled := unsettled_of_open facts.isOpen unpaid unreturned
      refine runs_sql_txn.mpr ⟨⟨facts.coherent.unreturned, free, fun success =>
        ⟨_, rfl, facts.settlePromise unsettled success⟩⟩, fun res _ => ?_, fun cause =>
          runs_rollback_reports (reports _) (facts.bystander.append _)⟩
      match res with
      | false => exact runs_rollback_reports (reports _) facts.bystander
      | true => exact continues _ (Or.inr ⟨_, rfl⟩)

/-- A sync whose transaction is gone writes nothing more. -/
theorem runs_syncWechatPayment_closed (reports : ∀ a, (callback a).Reports)
    (bystander : Bystander log) :
    Runs payContract .closed log
      (syncWechatPayment orderNo said payment settledRefundFen callback) := by
  unfold syncWechatPayment
  split
  · exact runs_sql_txn_closed.mpr (runs_rollback_reports (reports _) bystander)
  · split
    · exact runs_rollback_reports (reports _) bystander
    · exact runs_sql_txn_closed.mpr (runs_rollback_reports (reports _) bystander)

theorem runs_syncWechatTransaction (reports : ∀ a, (callback a).Reports)
    (facts : SyncFacts log orderNo said payment) :
    Runs payContract slot log (syncWechatTransaction orderNo said payment callback) := by
  have pays : ∀ {before settledRefundFen}, SumOnly before orderNo settledRefundFen →
      Runs payContract (.active before) log
        (syncWechatPayment orderNo said payment settledRefundFen callback) := fun sum =>
    runs_syncPayment reports facts (sum.free _) fun cas wrote =>
      runs_syncWechatOrder reports facts sum wrote
  refine runs_start.mpr ⟨?_, runs_end Idle.closed (facts.bystander.append _).done⟩
  dsimp only
  split
  · refine runs_sql_txn.mpr ⟨nofun, fun sumText _ => ?_, fun cause =>
      runs_syncWechatPayment_closed reports (facts.bystander.append _)⟩
    exact pays (Or.inr ⟨sumText, rfl, rfl⟩)
  · exact pays (Or.inl ⟨rfl, rfl⟩)

theorem runs_syncAlipayTransaction (reports : ∀ a, (callback a).Reports)
    (facts : SyncFacts log orderNo said payment) (unrefunded : said.orderStatus ≠ .REFUNDED) :
    Runs payContract slot log (syncAlipayTransaction orderNo said payment callback) := by
  refine runs_start.mpr ⟨?_, runs_end Idle.closed (facts.bystander.append _).done⟩
  exact runs_syncPayment reports facts .nil fun cas wrote =>
    runs_syncAlipayOrder reports facts unrefunded wrote

end Transaction

/-! ## The doors -/

section Doors

variable {orderNo : Bytes} {said : SyncAnswer} {callback : Option OrderStatus → PayProg}

/-- The amount gate: an answer that passes it claims the positive fen of the
attempt. -/
theorem reconcileAmountProblem_eq_false {answerTotalFen : Int} {amount : Bytes}
    (passes : reconcileAmountProblem answerTotalFen amount = false) :
    ∃ fen : Nat, answerTotalFen = fen ∧ 0 < fen ∧ PayUtils.parseAmountToFen amount = some fen := by
  unfold reconcileAmountProblem at passes
  split at passes
  · cases passes
  · rename_i fen parsed
    simp only [ne_eq, decide_not, Bool.or_eq_false_iff, decide_eq_false_iff_not, not_le,
      Bool.not_eq_false', decide_eq_true_eq] at passes
    exact ⟨fen, passes.2, by omega, parsed⟩

theorem runs_syncAttempt {transaction : PaymentRow → PayProg}
    (reports : ∀ a, (callback a).Reports) (bystander : Bystander log) (idle : Idle slot)
    (coherent : Coherent said)
    (heard : ∃ message ∈ log, Message orderNo said message)
    (transacts : ∀ payment log', SyncFacts log' orderNo said payment →
      Runs payContract slot log' (transaction payment)) :
    Runs payContract slot log (syncAttempt orderNo said transaction callback) := by
  refine runs_pooled bystander.done rfl (by simp [Stmt.table]) (fun res possible _ => ?_)
    fun cause _ => runs_reports (reports _) idle (bystander.append _)
  cases res with
  | none => exact runs_reports (reports _) idle (bystander.append _)
  | some payment =>
      dsimp only
      split
      · exact runs_reports (reports _) idle (bystander.append _)
      · rename_i passes
        obtain ⟨isOrder, isOpen⟩ := possible payment rfl
        obtain ⟨message, member, isMessage⟩ := heard
        refine transacts payment _ ⟨bystander.append _, List.getLast?_concat, isOrder, isOpen, coherent,
          ⟨message, List.mem_append_left _ member, isMessage⟩, fun success => ?_⟩
        have gate : reconcileAmountProblem said.totalFen payment.amount = false := by
          have paid := coherent.success.mp success
          simpa [paid] using passes
        exact reconcileAmountProblem_eq_false gate

theorem coherent_readWechatAnswer {result : Json}
    (read : readWechatAnswer result = some (some said)) : Coherent said := by
  simp only [readWechatAnswer, Option.bind_eq_bind, Option.bind_eq_some_iff, Option.pure_def] at read
  obtain ⟨tradeState, _, read⟩ := read
  split at read
  · cases read
  · simp only [Option.bind_eq_some_iff] at read
    obtain ⟨transactionId, _, amount, _, totalFen, _, eq⟩ := read
    obtain rfl := Option.some.inj (Option.some.inj eq)
    exact ⟨PayUtils.mapTradeState_success, PayUtils.mapTradeState_unreturned⟩

theorem runs_syncOrderStatusFromWechat {result : Json} (reports : ∀ a, (callback a).Reports)
    (bystander : Bystander log) (idle : Idle slot)
    (heard : ∀ said, readWechatAnswer result = some (some said) →
      ∃ message ∈ log, Message orderNo said message) :
    Runs payContract slot log (syncOrderStatusFromWechat orderNo result callback) := by
  refine runs_orThrow idle bystander.done fun answer read => ?_
  match answer with
  | none => exact runs_reports (reports _) idle bystander
  | some said =>
      exact runs_syncAttempt reports bystander idle (coherent_readWechatAnswer read)
        (heard said read) fun payment log' facts => runs_syncWechatTransaction reports facts

theorem mapAlipayTradeStatus_cases {tradeStatus : Bytes} {statuses : OrderStatus × PaymentStatus}
    (mapped : mapAlipayTradeStatus tradeStatus = some statuses) :
    statuses = (.PAID, .SUCCESS) ∨ statuses = (.PAYING, .PROCESSING) ∨
      statuses = (.FAILED, .FAIL) := by
  unfold mapAlipayTradeStatus at mapped
  repeat' split at mapped
  all_goals simp_all

/-- What an Alipay answer that is read says. -/
theorem readAlipayAnswer_cases {result : Json}
    (read : readAlipayAnswer result = some (some said)) :
    Coherent said ∧ said.orderStatus ≠ .REFUNDED ∧
      ∀ fen : Nat, said.totalFen = fen → ∃ text, result.stringAt "total_amount" = some text ∧
        PayUtils.parseAmountToFen text = some fen := by
  simp only [readAlipayAnswer, Option.bind_eq_bind, Option.bind_eq_some_iff, Option.pure_def] at read
  obtain ⟨code, _, read⟩ := read
  split at read
  · cases read
  · obtain ⟨tradeStatus, _, read⟩ := Option.bind_eq_some_iff.mp read
    split at read
    · cases read
    · rename_i orderStatus paymentStatus mapped
      obtain ⟨transactionId, _, read⟩ := Option.bind_eq_some_iff.mp read
      rcases mapAlipayTradeStatus_cases mapped with paid | unpaid | failed
      · obtain ⟨rfl, rfl⟩ := Prod.mk.inj paid
        obtain ⟨totalFen, total, eq⟩ := Option.bind_eq_some_iff.mp read
        obtain ⟨text, found, rfl⟩ := Option.map_eq_some_iff.mp total
        obtain rfl := Option.some.inj (Option.some.inj eq)
        refine ⟨⟨by simp, by simp⟩, by simp, fun fen isTotal => ⟨text, found, ?_⟩⟩
        simp only [notifiedFen] at isTotal
        split at isTotal
        · rename_i parsed
          rw [parsed, Int.ofNat_inj.mp isTotal]
        · omega
      all_goals
        first | obtain ⟨rfl, rfl⟩ := Prod.mk.inj unpaid | obtain ⟨rfl, rfl⟩ := Prod.mk.inj failed
        obtain rfl := Option.some.inj (Option.some.inj read)
        refine ⟨⟨by simp, by simp⟩, by simp, fun fen isTotal => ?_⟩
        simp only at isTotal
        omega

theorem runs_syncOrderStatusFromAlipay {result : Json} (reports : ∀ a, (callback a).Reports)
    (bystander : Bystander log) (idle : Idle slot)
    (heard : ∀ said, readAlipayAnswer result = some (some said) →
      ∃ message ∈ log, Message orderNo said message) :
    Runs payContract slot log (syncOrderStatusFromAlipay orderNo result callback) := by
  refine runs_orThrow idle bystander.done fun answer read => ?_
  match answer with
  | none => exact runs_reports (reports _) idle bystander
  | some said =>
      obtain ⟨coherent, unrefunded, _⟩ := readAlipayAnswer_cases read
      exact runs_syncAttempt reports bystander idle coherent (heard said read)
        fun payment log' facts => runs_syncAlipayTransaction reports facts unrefunded

/-! The answer of a query is the message of the sync that works it off. -/

theorem message_wechat {a : ChannelAnswer} (read : readWechatAnswer a.result = some (some said)) :
    Message orderNo said (.answered (.queryPayment (ascii "wechat") orderNo) a) :=
  ⟨by simp [saidOf, read], fun _ total => .wechatAnswer read total⟩

theorem message_alipay {a : ChannelAnswer} (read : readAlipayAnswer a.result = some (some said)) :
    Message orderNo said (.answered (.queryPayment (ascii "alipay") orderNo) a) := by
  have other : ascii "alipay" ≠ ascii "wechat" := by decide
  exact ⟨by simp [saidOf, read, other], fun _ total => .alipayAnswer read total⟩

theorem reports_answerAlipay (status : Option OrderStatus) :
    (answerAlipay status : PayProg).Reports := by
  cases status <;> trivial

theorem runs_alipayNotification {tradeNo outTradeNo tradeStatus totalAmount : Bytes}
    (idle : Idle slot)
    (owner : Owner log (.alipayNotification tradeNo outTradeNo tradeStatus totalAmount)) :
    Runs payContract slot log (alipayNotification tradeNo outTradeNo tradeStatus totalAmount) := by
  have bystander : Bystander log := ⟨_, owner, nofun⟩
  refine runs_syncOrderStatusFromAlipay reports_answerAlipay bystander idle fun said read =>
    ⟨_, List.mem_of_mem_head? owner, by simp [saidOf, read], fun fen total => ?_⟩
  obtain ⟨_, _, spelled⟩ := readAlipayAnswer_cases read
  obtain ⟨text, found, parsed⟩ := spelled fen total
  have same : text = totalAmount := by
    have shown : (alipayResult tradeNo outTradeNo tradeStatus totalAmount).stringAt "total_amount" =
        some totalAmount := rfl
    exact Option.some.inj (found.symm.trans shown)
  subst same
  exact .alipayNotification parsed

/-! ## queryOrder -/

theorem reports_answerSynced (order : OrderRow) (result : Json)
    (numberKey shownAs responseKey : String) (status : Option OrderStatus) :
    (answerSynced order result numberKey shownAs responseKey status).Reports := by
  unfold answerSynced
  cases result.stringAt numberKey <;> trivial

theorem runs_queryChannel {order : OrderRow} {errorKey : String} {sync : Json → PayProg}
    (bystander : Bystander log) (idle : Idle slot)
    (syncs : ∀ a : ChannelAnswer, Runs payContract slot
      (log ++ [.answered (.queryPayment order.channel orderNo) a]) (sync a.result)) :
    Runs payContract slot log (queryChannel orderNo order errorKey sync) := by
  refine runs_call.mpr ⟨trivial, fun a => ?_⟩
  split
  · exact syncs a
  · exact runs_answer idle (bystander.append _).done _ _

theorem runs_queryOrder (bystander : Bystander log) (idle : Idle slot) :
    Runs payContract slot log (queryOrder cfg orderNo) := by
  unfold queryOrder
  split
  · exact runs_answer idle bystander.done _ _
  · refine runs_pooled bystander.done Spares.nil (by simp [Stmt.table]) (fun res _ _ => ?_)
      fun cause _ => runs_answer idle (bystander.append _).done _ _
    cases res with
    | none => exact runs_answer idle (bystander.append _).done _ _
    | some order =>
        have known := bystander.append [.ran (.findOrder orderNo) (some order)]
        dsimp only
        split
        · rename_i onWechat
          refine runs_queryChannel known idle fun a => ?_
          rw [onWechat.1]
          exact runs_syncOrderStatusFromWechat (reports_answerSynced order _ _ _ _)
            (known.append _) idle fun said read =>
              ⟨_, List.mem_append_right _ (List.mem_singleton_self _), message_wechat read⟩
        · split
          · rename_i onAlipay
            refine runs_queryChannel known idle fun a => ?_
            rw [onAlipay.1]
            exact runs_syncOrderStatusFromAlipay (reports_answerSynced order _ _ _ _)
              (known.append _) idle fun said read =>
                ⟨_, List.mem_append_right _ (List.mem_singleton_self _), message_alipay read⟩
          · exact runs_answer idle known.done _ _

end Doors

end PaymentService

end DrogonPay
